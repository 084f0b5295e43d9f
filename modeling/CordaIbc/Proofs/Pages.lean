import CordaIbc.ChannelQuery
import CordaIbc.Lib.Paging
import CordaIbc.Proofs.PacketLog

/-!
# Pages of packets and acknowledgements

The page queries compare an offset with the sequences, as `Long`s, where a `PageRequest` counts the
entries to skip. So the pages of a channel list its packets once, in order, exactly when there are no
gaps from sequence 0 to the end of the full pages (`ChannelQueryService.pages_iff`).
-/

namespace CordaIbc

open ChannelOuterClass (Packet Acknowledgement)

namespace ChannelQueryService

/-! ## Sequences as `Long`s -/

section
variable {α : Type} {offset n : Nat}

theorem toInt_ofNat_sequence (h : n < 2 ^ 64) :
    (Int64.ofNat n).toInt = if n < 2 ^ 63 then (n : Int) else n - 2 ^ 64 := by
  rw [Int64.toInt_ofNat', Int.bmod_def, show ((Int64.size : Nat) : Int) = 2 ^ 64 from rfl]
  split <;> split <;> omega

theorem ofNat_le_ofNat_iff (ho : offset < 2 ^ 63) (h : n < 2 ^ 64) :
    Int64.ofNat offset ≤ Int64.ofNat n ↔ offset ≤ n ∧ n < 2 ^ 63 := by
  rw [Int64.le_iff_toInt_le, Int64.toInt_ofNat_of_lt ho, toInt_ofNat_sequence h]
  split <;> omega

theorem ofNat_lt_maxValue_iff (ho : offset < 2 ^ 63) (h : n < 2 ^ 64) :
    (Int64.ofNat offset ≤ Int64.ofNat n ∧ Int64.ofNat n < Int64.maxValue) ↔
      offset ≤ n ∧ n < 2 ^ 63 - 1 := by
  rw [ofNat_le_ofNat_iff ho h, Int64.lt_iff_toInt_lt, toInt_ofNat_sequence h,
    show Int64.maxValue.toInt = 2 ^ 63 - 1 from by decide]
  split <;> omega

/-- What is left of sequences in increasing order is in that order after a sort, when no negative one
is left. -/
theorem filter_sortedBy {f : α → Nat} {xs : List α} (hxs : xs.Pairwise fun a b => f a < f b)
    {p : α → Bool} (hp : ∀ a ∈ xs, p a = true → f a < 2 ^ 63) :
    (sortedBy f xs).filter p = xs.filter p := by
  have hperm : (sortedBy f xs).Perm xs := List.perm_insertionSort _ _
  have hnodup : (xs.map f).Nodup := (List.pairwise_map.2 hxs).imp Nat.ne_of_lt
  have hright : (xs.filter p).Pairwise fun a b => f a ≤ f b :=
    (hxs.imp Nat.le_of_lt).sublist List.filter_sublist
  refine (hperm.filter p).eq_of_pairwise ?_ ?_ hright
  · intro a b ha hb hab hba
    have ha := hperm.mem_iff.1 (List.mem_filter.1 ha).1
    exact List.inj_on_of_nodup_map hnodup ha (List.mem_filter.1 hb).1 (Nat.le_antisymm hab hba)
  · have hsorted : (sortedBy f xs).Pairwise fun a b => Int64.ofNat (f a) ≤ Int64.ofNat (f b) :=
      List.pairwise_insertionSort _ _
    refine (hsorted.sublist List.filter_sublist).imp_of_mem ?_
    intro a b ha hb hab
    have hlt : ∀ c ∈ (sortedBy f xs).filter p, f c < 2 ^ 63 := by
      intro c hc
      obtain ⟨hc, hpc⟩ := List.mem_filter.1 hc
      exact hp c (hperm.mem_iff.1 hc) hpc
    exact ((ofNat_le_ofNat_iff (hlt a ha) (by have := hlt b hb; omega)).1 hab).1

theorem map_filter_take {f : α → PacketState} {p : PacketState → Prop} [DecidablePred p] {k : Nat}
    {xs : List α} :
    ((xs.map f).filter p).take k = ((xs.filter fun a => p (f a)).take k).map f := by
  rw [List.filter_map, ← List.map_take]
  rfl

theorem take_ofNat {k : Nat} (hk : k < 2 ^ 31) (xs : List α) :
    take (Int64.ofNat k).toInt32 xs = .ok (xs.take k) := by
  have htoInt : (Int64.ofNat k).toInt32.toInt = k := by
    rw [Int64.toInt_toInt32, Int64.toInt_ofNat_of_lt (by omega), Int.bmod_def]
    split <;> omega
  have hnonneg : (0 : Int32) ≤ (Int64.ofNat k).toInt32 := by
    rw [Int32.le_iff_toInt_le, htoInt]
    exact Int.natCast_nonneg k
  unfold take
  rw [require, if_pos hnonneg, htoInt, Int.toNat_natCast]
  rfl

end

/-! ## The entries of a map -/

section
variable {ν : Type} {m : Finmap fun _ : Nat => ν}

theorem mem_toList {n : Nat} {v : ν} : (n, v) ∈ toList m ↔ m.lookup n = some v := by
  unfold toList
  rw [List.mem_filterMap]
  constructor
  · rintro ⟨n', -, h⟩
    obtain ⟨v', hl, heq⟩ := Option.map_eq_some_iff.1 h
    cases heq
    exact hl
  · intro hl
    refine ⟨n, (Finset.mem_sort _).2 (Finmap.mem_keys.2 (Finmap.mem_of_lookup_eq_some hl)), ?_⟩
    rw [hl]
    rfl

theorem map_fst_toList : (toList m).map Prod.fst = m.keys.sort (· ≤ ·) := by
  unfold toList
  rw [List.map_filterMap]
  refine (List.filterMap_congr fun n hn => ?_).trans List.filterMap_some
  obtain ⟨v, hl⟩ := Finmap.mem_iff.1 (Finmap.mem_keys.1 ((Finset.mem_sort _).1 hn))
  rw [hl]
  rfl

theorem length_toList : (toList m).length = m.keys.card := by
  rw [← List.length_map (f := Prod.fst), map_fst_toList, Finset.length_sort]

theorem toList_increasing : (toList m).Pairwise fun a b => a.1 < b.1 := by
  have hsorted : ((toList m).map Prod.fst).Pairwise (· < ·) := by
    rw [map_fst_toList]
    exact (Finset.sortedLT_sort m.keys).pairwise
  exact List.pairwise_map.1 hsorted

/-! ## The pages of a channel -/

/-- What the types of the source say of a channel: its sequences have 64 bits, the size of a map is
an `Int`. -/
structure Representable (chan : IbcChannel) : Prop where
  packets : ∀ n ∈ chan.packets, n < 2 ^ 64
  acknowledgements : ∀ n ∈ chan.acknowledgements, n < 2 ^ 64
  packetsSize : chan.packets.keys.card < 2 ^ 31
  acknowledgementsSize : chan.acknowledgements.keys.card < 2 ^ 31

/-- Every packet is stored under its own sequence. -/
def OwnSequence (chan : IbcChannel) : Prop :=
  ∀ n packet, chan.packets.lookup n = some packet → packet.sequence = n

/-- The entries of a map are listed, each once, in the order of their sequences. -/
structure Lists (request : PageQueryRequest) (data : ν → Bytes) (m : Finmap fun _ : Nat => ν)
    (states : List PacketState) : Prop where
  increasing : states.Pairwise fun a b => a.sequence < b.sequence
  mem : ∀ state, state ∈ states ↔
    ∃ n v, m.lookup n = some v ∧ state = request.state n (data v)

/-- The request for the page at an offset. -/
def PageQueryRequest.page (request : PageQueryRequest) (limit offset : Nat) : PageQueryRequest :=
  { request with pagination := makePagination offset limit }

/-- The list a reader wants. -/
def listing (request : PageQueryRequest) (data : ν → Bytes) (m : Finmap fun _ : Nat => ν) :
    List PacketState :=
  (toList m).map fun entry => request.state entry.1 (data entry.2)

variable {request : PageQueryRequest} {data : ν → Bytes} {states : List PacketState}

theorem lists_listing : Lists request data m (listing request data m) := by
  refine ⟨List.pairwise_map.2 toList_increasing, ?_⟩
  intro state
  unfold listing
  rw [List.mem_map]
  constructor
  · rintro ⟨⟨n, v⟩, hmem, rfl⟩
    exact ⟨n, v, mem_toList.1 hmem, rfl⟩
  · rintro ⟨n, v, hl, rfl⟩
    exact ⟨(n, v), mem_toList.2 hl, rfl⟩

theorem Lists.eq_listing (h : Lists request data m states) : states = listing request data m := by
  have hl : Lists request data m (listing request data m) := lists_listing
  have hnodup : ∀ {l : List PacketState}, l.Pairwise (fun a b => a.sequence < b.sequence) → l.Nodup :=
    fun hp => hp.imp fun hlt heq => Nat.ne_of_lt hlt (congrArg PacketState.sequence heq)
  have hperm : states.Perm (listing request data m) :=
    (List.perm_ext_iff_of_nodup (hnodup h.increasing) (hnodup hl.increasing)).2 fun state =>
      (h.mem state).trans (hl.mem state).symm
  refine hperm.eq_of_pairwise ?_ h.increasing hl.increasing
  intro a b _ _ hab hba
  exact absurd hab (Nat.lt_asymm hba)

theorem length_listing : (listing request data m).length = m.keys.card := by
  rw [listing, List.length_map, length_toList]

theorem map_sequence_listing :
    (listing request data m).map PacketState.sequence = m.keys.sort (· ≤ ·) := by
  rw [listing, List.map_map, ← map_fst_toList]
  rfl

theorem mem_sequence_listing {j : Nat} :
    j ∈ (listing request data m).map PacketState.sequence ↔ j ∈ m := by
  rw [map_sequence_listing, Finset.mem_sort, Finmap.mem_keys]

/-- A server of increasing sequences is read in full when there are no gaps in the full pages. -/
theorem collects_lists_iff {query : Nat → Result (List PacketState)} {bound k : Nat}
    (hserves : Paging.Serves PacketState.sequence (listing request data m) bound k query) (hk : 0 < k) :
    (∃ states, Paging.Collects query k 0 states ∧ Lists request data m states) ↔
      (∀ n ∈ m, n < bound) ∧ ∀ j < m.keys.card / k * k, j ∈ m := by
  have hiff := hserves.collects_iff hk
  rw [length_listing] at hiff
  have hbound : (∀ a ∈ listing request data m, a.sequence < bound) ↔ ∀ n ∈ m, n < bound := by
    rw [← List.forall_mem_map (P := (· < bound))]
    exact forall_congr' fun n => by rw [mem_sequence_listing]
  have hkeys : (∀ j < m.keys.card / k * k, j ∈ (listing request data m).map PacketState.sequence) ↔
      ∀ j < m.keys.card / k * k, j ∈ m :=
    forall₂_congr fun j _ => mem_sequence_listing
  rw [hbound, hkeys] at hiff
  rw [← hiff]
  constructor
  · rintro ⟨states, hcollects, hlists⟩
    rwa [hlists.eq_listing] at hcollects
  · intro hcollects
    exact ⟨_, hcollects, lists_listing⟩

end

section
variable {C : Crypto} {vault : List ContractState} {S : Serializer} {request : PageQueryRequest}
  {chan : IbcChannel} {k offset : Nat}

@[simp] theorem assertNoKey_page : assertNoKey (request.page k offset) = .ok () := rfl

@[simp] theorem channel_page : (request.page k offset).channel = request.channel := rfl

@[simp] theorem limit_page : (request.page k offset).pagination.limit = Int64.ofNat k := rfl

@[simp] theorem offset_page : (request.page k offset).pagination.offset = Int64.ofNat offset := rfl

theorem packetCommitments_page (hchan : channelOf C vault request.channel = .ok chan)
    (hrep : Representable chan) (hown : OwnSequence chan) (hk : k < 2 ^ 31) (ho : offset < 2 ^ 63) :
    PageQueryResponse.states <$> packetCommitments C vault S (request.page k offset) =
      .ok (((listing request S.packet chan.packets).filter fun state =>
        offset ≤ state.sequence ∧ state.sequence < 2 ^ 63).take k) := by
  have hmem : ∀ packet ∈ (toList chan.packets).map Prod.snd, packet.sequence < 2 ^ 64 := by
    intro packet hpacket
    obtain ⟨⟨n, _⟩, hentry, rfl⟩ := List.mem_map.1 hpacket
    have hl := mem_toList.1 hentry
    rw [hown n _ hl]
    exact hrep.packets n (Finmap.mem_of_lookup_eq_some hl)
  have hvalues : (toList chan.packets).map (fun entry => request.state entry.1 (S.packet entry.2)) =
      ((toList chan.packets).map Prod.snd).map fun packet =>
        request.state packet.sequence (S.packet packet) := by
    rw [List.map_map]
    refine List.map_congr_left ?_
    rintro ⟨n, packet⟩ hentry
    show request.state n _ = request.state packet.sequence _
    rw [hown n packet (mem_toList.1 hentry)]
  have hincreasing : ((toList chan.packets).map Prod.snd).Pairwise
      fun a b => a.sequence < b.sequence := by
    refine List.pairwise_map.2 (toList_increasing.imp_of_mem ?_)
    rintro ⟨n, packet⟩ ⟨n', packet'⟩ hentry hentry' hlt
    show packet.sequence < packet'.sequence
    rw [hown n packet (mem_toList.1 hentry), hown n' packet' (mem_toList.1 hentry')]
    exact hlt
  have hvisible : ∀ packet ∈ (toList chan.packets).map Prod.snd,
      (Int64.ofNat offset ≤ Int64.ofNat packet.sequence ↔
        offset ≤ packet.sequence ∧ packet.sequence < 2 ^ 63) := fun packet hpacket =>
    ofNat_le_ofNat_iff ho (hmem packet hpacket)
  have hsorted : (sortedBy (·.sequence) ((toList chan.packets).map Prod.snd)).filter
      (fun packet => Int64.ofNat offset ≤ Int64.ofNat packet.sequence) =
      ((toList chan.packets).map Prod.snd).filter fun packet =>
        offset ≤ packet.sequence ∧ packet.sequence < 2 ^ 63 := by
    rw [filter_sortedBy hincreasing fun packet hpacket h =>
      ((hvisible packet hpacket).1 (of_decide_eq_true h)).2]
    exact List.filter_congr fun packet hpacket => decide_eq_decide.2 (hvisible packet hpacket)
  unfold packetCommitments
  rw [assertNoKey_page, Result.ok_bind, channel_page, hchan, Result.ok_bind, limit_page, offset_page,
    hsorted, take_ofNat hk, Result.ok_bind, listing, hvalues, map_filter_take]
  rfl

theorem serves_packetCommitments (hchan : channelOf C vault request.channel = .ok chan)
    (hrep : Representable chan) (hown : OwnSequence chan) (hk : k < 2 ^ 31) :
    Paging.Serves PacketState.sequence (listing request S.packet chan.packets) (2 ^ 63) k
      fun offset => PageQueryResponse.states <$> packetCommitments C vault S (request.page k offset) := by
  refine ⟨lists_listing.increasing, ?_⟩
  intro offset hoffset
  rw [length_listing] at hoffset
  have := hrep.packetsSize
  exact packetCommitments_page hchan hrep hown hk (by omega)

theorem packetAcknowledgements_page (hchan : channelOf C vault request.channel = .ok chan)
    (hrep : Representable chan) (hk : k < 2 ^ 31) (ho : offset < 2 ^ 63) :
    PageQueryResponse.states <$> packetAcknowledgements C vault S (request.page k offset) =
      .ok (((listing request S.acknowledgement chan.acknowledgements).filter fun state =>
        offset ≤ state.sequence ∧ state.sequence < 2 ^ 63 - 1).take k) := by
  have hvisible : ∀ entry ∈ toList chan.acknowledgements,
      ((Int64.ofNat offset ≤ Int64.ofNat entry.1 ∧ Int64.ofNat entry.1 < Int64.maxValue) ↔
        offset ≤ entry.1 ∧ entry.1 < 2 ^ 63 - 1) := by
    rintro ⟨n, ack⟩ hentry
    refine ofNat_lt_maxValue_iff ho (hrep.acknowledgements n ?_)
    exact Finmap.mem_of_lookup_eq_some (mem_toList.1 hentry)
  have hsorted : (sortedBy Prod.fst (toList chan.acknowledgements)).filter
      (fun entry => Int64.ofNat offset ≤ Int64.ofNat entry.1 ∧ Int64.ofNat entry.1 < Int64.maxValue) =
      (toList chan.acknowledgements).filter fun entry =>
        offset ≤ entry.1 ∧ entry.1 < 2 ^ 63 - 1 := by
    rw [filter_sortedBy toList_increasing fun entry hentry h => by
      have := ((hvisible entry hentry).1 (of_decide_eq_true h)).2
      omega]
    exact List.filter_congr fun entry hentry => decide_eq_decide.2 (hvisible entry hentry)
  unfold packetAcknowledgements
  rw [assertNoKey_page, Result.ok_bind, channel_page, hchan, Result.ok_bind, limit_page, offset_page,
    hsorted, take_ofNat hk, Result.ok_bind, listing, map_filter_take]
  rfl

theorem serves_packetAcknowledgements (hchan : channelOf C vault request.channel = .ok chan)
    (hrep : Representable chan) (hk : k < 2 ^ 31) :
    Paging.Serves PacketState.sequence (listing request S.acknowledgement chan.acknowledgements)
      (2 ^ 63 - 1) k
      fun offset => PageQueryResponse.states <$> packetAcknowledgements C vault S (request.page k offset) := by
  refine ⟨lists_listing.increasing, ?_⟩
  intro offset hoffset
  rw [length_listing] at hoffset
  have := hrep.acknowledgementsSize
  exact packetAcknowledgements_page hchan hrep hk (by omega)

/-- The pages from offset 0 on end, and list every packet and every acknowledgement once and in
order, exactly when the sequences are `Long`s that are not negative (`subMap` leaves the greatest
one out), and every number below the end of the full pages is a sequence. -/
theorem pages_iff (hchan : channelOf C vault request.channel = .ok chan)
    (hrep : Representable chan) (hown : OwnSequence chan) (hk : 0 < k) (hk' : k < 2 ^ 31) :
    ((∃ states, Paging.Collects (fun offset => PageQueryResponse.states <$>
          packetCommitments C vault S (request.page k offset)) k 0 states ∧
        Lists request S.packet chan.packets states) ↔
      (∀ n ∈ chan.packets, n < 2 ^ 63) ∧
        ∀ j < chan.packets.keys.card / k * k, j ∈ chan.packets) ∧
    ((∃ states, Paging.Collects (fun offset => PageQueryResponse.states <$>
          packetAcknowledgements C vault S (request.page k offset)) k 0 states ∧
        Lists request S.acknowledgement chan.acknowledgements states) ↔
      (∀ n ∈ chan.acknowledgements, n < 2 ^ 63 - 1) ∧
        ∀ j < chan.acknowledgements.keys.card / k * k, j ∈ chan.acknowledgements) :=
  ⟨collects_lists_iff (serves_packetCommitments hchan hrep hown hk') hk,
    collects_lists_iff (serves_packetAcknowledgements hchan hrep hk') hk⟩

end

/-! ### The channels of a host -/

section
variable {P : Platform} {ok : Chain → LedgerTransaction → Prop} {c₀ c : Chain}
  {tr : List LedgerTransaction} {vault : List ContractState} {S : Serializer}
  {request : PageQueryRequest} {chan : IbcChannel} {k : Nat}

theorem ownSequence_of_run (h₀ : c₀.Start) (hr : Run (Chain.Step P ok) c₀ tr c)
    (hchan : ContractState.channel chan ∈ c.history) : OwnSequence chan := by
  intro n packet hl
  exact ((Chain.Logs.run h₀ hr).send.packets chan hchan n packet hl).2.1

theorem zero_notMem_of_run (h₀ : c₀.Start) (hr : Run (Chain.Step P ok) c₀ tr c)
    (hchan : ContractState.channel chan ∈ c.history) : 0 ∉ chan.packets := by
  intro hmem
  obtain ⟨packet, hl⟩ := Finmap.mem_iff.1 hmem
  have hlogs := Chain.Logs.run h₀ hr
  obtain ⟨hsent, hsequence, -, hchannel⟩ := hlogs.send.packets chan hchan 0 packet hl
  obtain ⟨-, -, hpos⟩ := (hlogs.send.numbered _).exists_getElem (mem_sentOn.2 ⟨hsent, hchannel⟩)
  omega

/-- The sequences of a host start at 1, so the pages of packets lose or repeat one as soon as the
first page is full. -/
theorem packet_pages_iff_of_run (h₀ : c₀.Start) (hr : Run (Chain.Step P ok) c₀ tr c)
    (hin : ContractState.channel chan ∈ c.history)
    (hchan : channelOf P.toCrypto vault request.channel = .ok chan) (hrep : Representable chan)
    (hk : 0 < k) (hk' : k < 2 ^ 31) :
    (∃ states, Paging.Collects (fun offset => PageQueryResponse.states <$>
        packetCommitments P.toCrypto vault S (request.page k offset)) k 0 states ∧
      Lists request S.packet chan.packets states) ↔
      (∀ n ∈ chan.packets, n < 2 ^ 63) ∧ chan.packets.keys.card < k := by
  rw [collects_lists_iff (serves_packetCommitments hchan hrep (ownSequence_of_run h₀ hr hin) hk') hk]
  refine and_congr_right fun _ => ?_
  constructor
  · intro hkeys
    by_contra hle
    have hdiv : 0 < chan.packets.keys.card / k := Nat.div_pos (Nat.le_of_not_lt hle) hk
    exact zero_notMem_of_run h₀ hr hin (hkeys 0 (Nat.mul_pos hdiv hk))
  · intro hlt j hj
    rw [Nat.div_eq_of_lt hlt, Nat.zero_mul] at hj
    exact absurd hj (Nat.not_lt_zero j)

end

/-! ### Three packets, two a page -/

namespace ThreePackets
open Sample

def packet (sequence : Nat) : Packet :=
  { sequence, sourcePort := "transfer", sourceChannel := "channel-0"
    destinationPort := "transfer", destinationChannel := "channel-0"
    data := toJson ⟨"atom", "3", addressA, "x"⟩, timeoutHeight := .default, timeoutTimestamp := 0 }

/-- A channel that sent three packets, and has received none. -/
def chan : IbcChannel :=
  { IbcChannel.create peerHost transferPort (Host.channelIdentifier 0) (channelEnd .opened "channel-0")
    with
    nextSequenceSend := 4
    packets := [1, 2, 3].foldl (fun m n => m.insert n (packet n)) ∅ }

def request : PageQueryRequest :=
  { baseId := some (base 2), portId := "transfer", channelId := "channel-0"
    pagination := makePagination 0 2 }

def serializer : Serializer where
  packet packet := packet.data
  acknowledgement _ := []

theorem found : channelOf crypto [.channel chan] request.channel = .ok chan := by decide +kernel

theorem representable : Representable chan := by
  have hkeys : chan.packets.keys = {1, 2, 3} := by decide +kernel
  refine ⟨?_, ?_, ?_, ?_⟩
  · intro n hn
    rw [← Finmap.mem_keys, hkeys] at hn
    exact Nat.lt_of_le_of_lt (Finset.le_sup (f := id) hn) (by decide)
  · intro n hn
    exact absurd hn Finmap.notMem_empty
  · rw [hkeys]
    decide
  · rw [show chan.acknowledgements.keys = ∅ from Finmap.keys_empty]
    decide

theorem ownSequence : OwnSequence chan := by
  have hall : ∀ n ∈ chan.packets.keys, ∀ p ∈ chan.packets.lookup n, p.sequence = n := by
    decide +kernel
  intro n p hl
  exact hall n (Finmap.mem_keys.2 (Finmap.mem_of_lookup_eq_some hl)) p hl

/-- The second page, from offset 2, starts with the packet that ended the first. -/
theorem pages_repeat : ∃ (C : Crypto) (vault : List ContractState) (S : Serializer)
    (request : PageQueryRequest) (chan : IbcChannel) (k : Nat),
    channelOf C vault request.channel = .ok chan ∧ Representable chan ∧ OwnSequence chan ∧ 0 < k ∧
      k < 2 ^ 31 ∧ ¬ ∃ states, Paging.Collects (fun offset => PageQueryResponse.states <$>
          packetCommitments C vault S (request.page k offset)) k 0 states ∧
        Lists request S.packet chan.packets states := by
  refine ⟨crypto, [.channel chan], serializer, request, chan, 2, found, representable, ownSequence,
    by decide, by decide, ?_⟩
  rw [collects_lists_iff (serves_packetCommitments found representable ownSequence (by decide))
    (by decide)]
  rintro ⟨-, hkeys⟩
  have hzero : 0 ∉ chan.packets := by decide +kernel
  have hcard : chan.packets.keys.card = 3 := by decide +kernel
  rw [hcard] at hkeys
  exact hzero (hkeys 0 (by decide))

/-- One page of four lists them. -/
theorem one_page : ∃ states, Paging.Collects (fun offset => PageQueryResponse.states <$>
      packetCommitments crypto [.channel chan] serializer (request.page 4 offset)) 4 0 states ∧
    Lists request serializer.packet chan.packets states := by
  refine (pages_iff found representable ownSequence (by decide) (by decide)).1.2 ⟨?_, ?_⟩
  · intro n hn
    have hall : ∀ n ∈ chan.packets.keys, n < 2 ^ 63 := by decide +kernel
    exact hall n (Finmap.mem_keys.2 hn)
  · have hcard : chan.packets.keys.card / 4 * 4 = 0 := by decide +kernel
    intro j hj
    rw [hcard] at hj
    exact absurd hj (Nat.not_lt_zero j)

end ThreePackets

end ChannelQueryService

end CordaIbc
