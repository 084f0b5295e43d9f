import CordaIbc.Sample.Life
import Mathlib.Order.Interval.Finset.Nat

/-!
# The packets and receipts of a channel

What the maps of a channel hold, over every run of the channel. A channel created afresh has
numbered its packets from one; the keys of `packets` are what was sent and not yet acknowledged
(`SendBook`), and the keys of `acknowledgements` are what was received (`RecvBook`).

A `chanOpenTry` on a previous channel keeps the counters but not the packets, so packets sent before
it are lost; `send_books` is about the runs in which there are none.
-/

namespace CordaIbc

open ChannelOuterClass (Packet Acknowledgement)
open IbcChannel Context

namespace Call
variable {P : Platform} {k : Call} {s : ContractState}

theorem Outputs.executes (h : k.Outputs P s) :
    ∃ outs, Executes P k.ctx k.signers k.handler outs ∧ s ∈ outs := by
  obtain ⟨ctx', he, hs⟩ := h
  obtain ⟨outs, hexec, houts⟩ := executes_of_ok he
  have hstates : ctx'.outStates.states = outs := houts.outStates
  exact ⟨outs, hexec, hstates ▸ hs⟩

end Call

namespace IbcChannel

section
variable {P : Platform} {ok : IbcChannel → Call → Prop} {k k₀ : Call} {chan₀ chan chan' : IbcChannel}
  {tr : List Call}

theorem Creates.new (h : Creates P k chan) : chan.New := by
  obtain ⟨hcont, hout⟩ := h
  obtain ⟨outs, hexec, hmem⟩ := hout.executes
  rcases hexec.channel_cases hmem with ⟨-, hcreation⟩ | ⟨hcont', -⟩
  · exact hcreation.new
  · rw [hcont] at hcont'
    cases hcont'

theorem Step.change (h : Step P ok chan k chan') : Change P k.ctx k.signers k.handler chan chan' := by
  obtain ⟨-, hcont, hin, hout⟩ := h
  obtain ⟨outs, hexec, hmem⟩ := hout.executes
  rcases hexec.channel_cases hmem with ⟨hcont', -⟩ | ⟨-, c, hc, hchange⟩
  · rw [hcont] at hcont'
    cases hcont'
  · obtain rfl : chan = c := Context.eq_of_getInput hc hin
    exact hchange

/-! ## Receipts -/

structure RecvBook (chan : IbcChannel) : Prop where
  pos : 1 ≤ chan.nextSequenceRecv
  /-- Nothing is received before the handshake is over. -/
  fresh : chan.end_.state = .init ∨ chan.end_.state = .tryOpen →
    chan.nextSequenceRecv = 1 ∧ chan.receipts = ∅ ∧ chan.acknowledgements = ∅
  unordered : chan.end_.ordering = .unordered →
    chan.acknowledgements.keys = chan.receipts ∧ chan.nextSequenceRecv = 1
  ordered : chan.end_.ordering = .ordered → chan.receipts = ∅ ∧
    chan.acknowledgements.keys = Finset.Ico 1 chan.nextSequenceRecv

theorem New.recvBook (h : chan.New) : chan.RecvBook := by
  refine ⟨h.recv.ge, fun _ => ⟨h.recv, h.receipts, h.acknowledgements⟩, fun _ => ⟨?_, h.recv⟩,
    fun _ => ⟨h.receipts, ?_⟩⟩
  · rw [h.acknowledgements, h.receipts, Finmap.keys_empty]
  · rw [h.acknowledgements, h.recv, Finmap.keys_empty]
    rfl

theorem keys_insert {β : Nat → Type} {m : Finmap β} {n : Nat} {b : β n} :
    (m.insert n b).keys = insert n m.keys := by
  ext i
  simp only [Finmap.mem_keys, Finmap.mem_insert, Finset.mem_insert]

/-- A receipt is for a sequence that was not received before. -/
theorem RecvBook.recv (hb : chan.RecvBook) (hopen : chan.end_.state = .opened) {packet : Packet}
    {ack : Acknowledgement}
    (h : Handler.recvPacket.receive (chan.answered packet ack) packet = .ok chan') :
    packet.sequence ∉ chan.acknowledgements ∧ chan'.RecvBook := by
  have hkeys : (chan.acknowledgements.insert packet.sequence ack).keys =
      insert packet.sequence chan.acknowledgements.keys := keys_insert
  rcases receive_cases h with ⟨ho, hnot, rfl⟩ | ⟨ho, hseq, rfl⟩
  · obtain ⟨hacks, hnext⟩ := hb.unordered ho
    refine ⟨fun hmem => hnot ?_, hb.pos, fun hs => ?_, fun _ => ⟨?_, hnext⟩, fun ho' => ?_⟩
    · show packet.sequence ∈ chan.receipts
      rw [← hacks, Finmap.mem_keys]
      exact hmem
    · rcases hs with hs | hs <;> exact absurd (hopen.symm.trans hs) (by decide)
    · show (chan.acknowledgements.insert packet.sequence ack).keys = insert packet.sequence chan.receipts
      rw [hkeys, hacks]
    · exact absurd (ho.symm.trans ho') (by decide)
  · obtain ⟨hreceipts, hacks⟩ := hb.ordered ho
    have hseq : packet.sequence = chan.nextSequenceRecv := hseq
    have hpos := hb.pos
    refine ⟨fun hmem => ?_, Nat.le_add_right_of_le hpos, fun hs => ?_, fun ho' => ?_,
      fun _ => ⟨hreceipts, ?_⟩⟩
    · rw [← Finmap.mem_keys, hacks, Finset.mem_Ico] at hmem
      omega
    · rcases hs with hs | hs <;> exact absurd (hopen.symm.trans hs) (by decide)
    · exact absurd (ho.symm.trans ho') (by decide)
    · show (chan.acknowledgements.insert packet.sequence ack).keys =
        Finset.Ico 1 (chan.nextSequenceRecv + 1)
      rw [hkeys, hacks, hseq]
      ext n
      simp only [Finset.mem_insert, Finset.mem_Ico]
      omega

/-- One datagram keeps the book and every acknowledgement in it. -/
theorem RecvBook.change (hb : chan.RecvBook) {ctx : Context} {signers : List PublicKey}
    {d : DatagramHandler} (h : Change P ctx signers d chan chan') :
    chan'.RecvBook ∧ ∀ n ack, chan.acknowledgements.lookup n = some ack →
      chan'.acknowledgements.lookup n = some ack := by
  cases h with
  | tryPrevious _ hinit =>
    obtain ⟨hnext, -, hacks⟩ := hb.fresh (.inl hinit)
    refine ⟨⟨hb.pos, fun _ => ⟨hnext, rfl, rfl⟩, fun _ => ⟨rfl, hnext⟩, fun _ => ⟨rfl, ?_⟩⟩,
      fun n ack hl => ?_⟩
    · show (∅ : Finmap fun _ : Nat => Acknowledgement).keys = Finset.Ico 1 chan.nextSequenceRecv
      rw [hnext, Finmap.keys_empty, Finset.Ico_self]
    · rw [hacks, Finmap.lookup_empty] at hl
      cases hl
  | ack hstate =>
    refine ⟨⟨hb.pos, fun hs => ?_, hb.unordered, hb.ordered⟩, fun _ _ hl => hl⟩
    rcases hs with hs | hs <;> cases hs
  | confirm | closeInit | closeConfirm =>
    refine ⟨⟨hb.pos, fun hs => ?_, hb.unordered, hb.ordered⟩, fun _ _ hl => hl⟩
    rcases hs with hs | hs <;> cases hs
  | send => exact ⟨⟨hb.pos, hb.fresh, hb.unordered, hb.ordered⟩, fun _ _ hl => hl⟩
  | @recv msg ack _ _ hrecv =>
    obtain ⟨_, _, hopened, -⟩ := hrecv.proof
    obtain ⟨hnot, hbook⟩ := hb.recv hopened.chanOpen hrecv.receive
    refine ⟨hbook, fun n ack' hl => ?_⟩
    have hacks : chan'.acknowledgements = (chan.answered msg.packet ack).acknowledgements := by
      rcases receive_cases hrecv.receive with ⟨-, -, rfl⟩ | ⟨-, -, rfl⟩ <;> rfl
    have hne : n ≠ msg.packet.sequence := by
      rintro rfl
      exact hnot (Finmap.mem_of_lookup_eq_some hl)
    rw [hacks]
    exact (Finmap.lookup_insert_of_ne _ hne).trans hl
  | settle hacks =>
    obtain ⟨n, rfl⟩ := settle_eq hacks.settle
    exact ⟨⟨hb.pos, hb.fresh, hb.unordered, hb.ordered⟩, fun _ _ hl => hl⟩

theorem RecvBook.run (hb : chan₀.RecvBook) (hr : Run (Step P ok) chan₀ tr chan) :
    chan.RecvBook ∧ ∀ n ack, chan₀.acknowledgements.lookup n = some ack →
      chan.acknowledgements.lookup n = some ack := by
  refine hr.invariant (I := fun _ chan => chan.RecvBook ∧ ∀ n ack,
    chan₀.acknowledgements.lookup n = some ack → chan.acknowledgements.lookup n = some ack)
    ⟨hb, fun _ _ hl => hl⟩ ?_
  intro tr chan k chan' _ hi hs
  obtain ⟨hbook, hkeep⟩ := hi.1.change hs.change
  exact ⟨hbook, fun n ack hl => hkeep n ack (hi.2 n ack hl)⟩

/-- The receive-side books of every channel: on an unordered channel the acknowledgements are for
the receipts, on an ordered one for all sequences before the next; and an acknowledgement, once
recorded, stays. -/
theorem receive_books (h₀ : Creates P k₀ chan₀)
    (hr : Run (Step P fun _ _ => True) chan₀ tr chan) :
    (chan.end_.ordering = .unordered →
      chan.acknowledgements.keys = chan.receipts ∧ chan.nextSequenceRecv = 1) ∧
    (chan.end_.ordering = .ordered → chan.receipts = ∅ ∧
      chan.acknowledgements.keys = Finset.Ico 1 chan.nextSequenceRecv) ∧
    ∀ tr' chan', Run (Step P fun _ _ => True) chan tr' chan' → ∀ n ack,
      chan.acknowledgements.lookup n = some ack → chan'.acknowledgements.lookup n = some ack := by
  obtain ⟨hbook, -⟩ := h₀.new.recvBook.run hr
  exact ⟨hbook.unordered, hbook.ordered, fun tr' chan' hr' => (hbook.run hr').2⟩

/-! ## Packets -/

/-- The sequences the acknowledgements of a run are for. -/
def Acknowledged (tr : List Call) (n : Nat) : Prop :=
  ∃ k ∈ tr, ∃ msg, k.handler = .handlePacketAcknowledgement msg ∧ msg.packet.sequence = n

/-- No `chanOpenTry` starts a channel over while it has packets to be acknowledged. -/
def KeepsPackets (chan : IbcChannel) (k : Call) : Prop :=
  ∀ msg, k.handler = .handleChanOpenTry msg → chan.packets = ∅

structure SendBook (A : Nat → Prop) (chan : IbcChannel) : Prop where
  pos : 1 ≤ chan.nextSequenceSend
  acked_lt : ∀ n, A n → n < chan.nextSequenceSend
  keys : ∀ n, n ∈ chan.packets ↔ 1 ≤ n ∧ n < chan.nextSequenceSend ∧ ¬ A n
  sequence : ∀ n packet, chan.packets.lookup n = some packet → packet.sequence = n
  ack_le : chan.end_.ordering = .ordered → chan.nextSequenceAck ≤ chan.nextSequenceSend
  ordered : chan.end_.ordering = .ordered → ∀ n,
    n ∈ chan.packets ↔ chan.nextSequenceAck ≤ n ∧ n < chan.nextSequenceSend

theorem acknowledged_snoc {n : Nat} : Acknowledged (tr ++ [k]) n ↔
    Acknowledged tr n ∨ ∃ msg, k.handler = .handlePacketAcknowledgement msg ∧ msg.packet.sequence = n := by
  unfold Acknowledged
  constructor
  · rintro ⟨j, hj, hmsg⟩
    rcases List.mem_append.1 hj with hj | hj
    · exact .inl ⟨j, hj, hmsg⟩
    · rw [List.mem_singleton.1 hj] at hmsg
      exact .inr hmsg
  · rintro (⟨j, hj, hmsg⟩ | hmsg)
    · exact ⟨j, List.mem_append_left _ hj, hmsg⟩
    · exact ⟨k, List.mem_append_right _ (List.mem_singleton_self k), hmsg⟩

theorem New.sendBook (h : chan.New) : chan.SendBook (Acknowledged []) := by
  have hno : ∀ n, ¬ Acknowledged [] n := fun n ⟨j, hj, _⟩ => by cases hj
  have hempty : ∀ n, n ∉ chan.packets := fun n hn => by
    rw [h.packets] at hn
    exact Finmap.notMem_empty hn
  refine ⟨h.send.ge, fun n hn => absurd hn (hno n), fun n => ?_, fun n packet hl => ?_, fun _ => ?_,
    fun _ n => ?_⟩
  · have hnot := hempty n
    have hnext := h.send
    constructor
    · intro hn
      exact absurd hn hnot
    · rintro ⟨h₁, h₂, -⟩
      omega
  · rw [h.packets, Finmap.lookup_empty] at hl
    cases hl
  · rw [h.ack, h.send]
  · have hn := hempty n
    have h₁ := h.ack
    have h₂ := h.send
    constructor
    · intro hn'
      exact absurd hn' hn
    · rintro ⟨h₃, h₄⟩
      omega

/-- The book depends on the counters, the packets and the ordering only. -/
theorem SendBook.congr {A : Nat → Prop} (hb : chan.SendBook A)
    (hsend : chan'.nextSequenceSend = chan.nextSequenceSend)
    (hack : chan'.nextSequenceAck = chan.nextSequenceAck) (hpackets : chan'.packets = chan.packets)
    (hordering : chan'.end_.ordering = chan.end_.ordering) : chan'.SendBook A := by
  refine ⟨?_, ?_, ?_, ?_, ?_, ?_⟩
  · rw [hsend]; exact hb.pos
  · rw [hsend]; exact hb.acked_lt
  · rw [hsend, hpackets]; exact hb.keys
  · rw [hpackets]; exact hb.sequence
  · rw [hsend, hack, hordering]; exact hb.ack_le
  · rw [hsend, hack, hordering, hpackets]; exact hb.ordered

theorem SendBook.sent {A : Nat → Prop} (hb : chan.SendBook A) {packet : Packet}
    (hseq : packet.sequence = chan.nextSequenceSend) : (chan.sent packet).SendBook A := by
  have hpos := hb.pos
  have hmem : ∀ n, n ∈ (chan.sent packet).packets ↔ n = chan.nextSequenceSend ∨ n ∈ chan.packets := by
    intro n
    rw [IbcChannel.sent, Finmap.mem_insert, hseq]
  refine ⟨Nat.le_add_right_of_le hpos, fun n hn => Nat.lt_succ_of_lt (hb.acked_lt n hn), fun n => ?_,
    fun n p hl => ?_, fun ho => Nat.le_succ_of_le (hb.ack_le ho), fun ho n => ?_⟩
  · have hnext : ¬ A chan.nextSequenceSend := fun hA => Nat.lt_irrefl _ (hb.acked_lt _ hA)
    rw [hmem, hb.keys]
    show _ ↔ 1 ≤ n ∧ n < chan.nextSequenceSend + 1 ∧ ¬ A n
    constructor
    · rintro (rfl | ⟨h₁, h₂, h₃⟩)
      · exact ⟨hpos, Nat.lt_succ_self _, hnext⟩
      · exact ⟨h₁, by omega, h₃⟩
    · rintro ⟨h₁, h₂, h₃⟩
      rcases Nat.lt_succ_iff_lt_or_eq.1 h₂ with h₂ | h₂
      · exact .inr ⟨h₁, h₂, h₃⟩
      · exact .inl h₂
  · by_cases hn : n = packet.sequence
    · subst hn
      rw [IbcChannel.sent, Finmap.lookup_insert] at hl
      cases hl
      rfl
    · rw [IbcChannel.sent, Finmap.lookup_insert_of_ne _ hn] at hl
      exact hb.sequence n p hl
  · have hle := hb.ack_le ho
    rw [hmem, hb.ordered ho]
    show _ ↔ chan.nextSequenceAck ≤ n ∧ n < chan.nextSequenceSend + 1
    omega

/-- An acknowledgement takes its own packet out. -/
theorem SendBook.settled {A A' : Nat → Prop} (hb : chan.SendBook A) {packet : Packet}
    (hpacket : chan.packets.lookup packet.sequence = some packet)
    (h : Handler.acknowledgePacket.settle chan packet = .ok chan')
    (hA : ∀ n, A' n ↔ A n ∨ n = packet.sequence) : (chan'.settled packet).SendBook A' := by
  have hin : packet.sequence ∈ chan.packets := Finmap.mem_of_lookup_eq_some hpacket
  obtain ⟨hle, hlt, -⟩ := (hb.keys _).1 hin
  have hmem : ∀ n, n ∈ chan.packets.erase packet.sequence ↔ n ≠ packet.sequence ∧ n ∈ chan.packets :=
    fun n => Finmap.mem_erase
  have hkeys : ∀ n, n ∈ chan.packets.erase packet.sequence ↔
      1 ≤ n ∧ n < chan.nextSequenceSend ∧ ¬ A' n := by
    intro n
    rw [hmem, hb.keys, hA]
    tauto
  have hacked : ∀ n, A' n → n < chan.nextSequenceSend := by
    intro n hn
    rcases (hA n).1 hn with hn | rfl
    · exact hb.acked_lt n hn
    · exact hlt
  have hsequence : ∀ n p, (chan.packets.erase packet.sequence).lookup n = some p → p.sequence = n := by
    intro n p hl
    have hn : n ≠ packet.sequence := ((hmem n).1 (Finmap.mem_of_lookup_eq_some hl)).1
    rw [Finmap.lookup_erase_ne hn] at hl
    exact hb.sequence n p hl
  unfold Handler.acknowledgePacket.settle at h
  split at h
  · rename_i ho
    simp only [Result.bind_ok, require_ok, Except.ok.injEq] at h
    obtain ⟨-, hseq, rfl⟩ := h
    refine ⟨hb.pos, hacked, hkeys, hsequence, fun _ => hseq ▸ hlt, fun _ n => ?_⟩
    show n ∈ chan.packets.erase packet.sequence ↔ chan.nextSequenceAck + 1 ≤ n ∧ n < chan.nextSequenceSend
    rw [hmem, hb.ordered ho, hseq]
    omega
  · rename_i ho
    cases h
    exact ⟨hb.pos, hacked, hkeys, hsequence, fun ho' => absurd ho' ho, fun ho' => absurd ho' ho⟩

/-- One datagram keeps the book. -/
theorem SendBook.step (hb : chan.SendBook (Acknowledged tr)) (hok : KeepsPackets chan k)
    (h : Change P k.ctx k.signers k.handler chan chan') : chan'.SendBook (Acknowledged (tr ++ [k])) := by
  have hsame : (∀ msg, k.handler ≠ .handlePacketAcknowledgement msg) →
      Acknowledged (tr ++ [k]) = Acknowledged tr := fun hne => by
    funext n
    rw [acknowledged_snoc, or_iff_left]
    rintro ⟨msg, hmsg, -⟩
    exact hne msg hmsg
  generalize hd : k.handler = d at h
  rw [hd] at hsame
  cases h with
  | @tryPrevious msg _ _ _ _ _ _ _ hordering =>
    have hempty := hok msg hd
    rw [hsame nofun]
    exact hb.congr rfl rfl hempty.symm hordering.symm
  | ack | confirm | closeInit | closeConfirm =>
    rw [hsame nofun]
    exact hb.congr rfl rfl rfl rfl
  | send _ _ _ hsend =>
    rw [hsame nofun]
    exact hb.sent hsend.sequence
  | recv hrecv =>
    rw [hsame nofun]
    rcases receive_cases hrecv.receive with ⟨-, -, rfl⟩ | ⟨-, -, rfl⟩ <;> exact hb.congr rfl rfl rfl rfl
  | @settle msg _ _ _ hacks =>
    refine hb.settled hacks.packet hacks.settle fun n => ?_
    rw [acknowledged_snoc, hd]
    constructor
    · rintro (hn | ⟨msg', hmsg, rfl⟩)
      · exact .inl hn
      · cases hmsg
        exact .inr rfl
    · rintro (hn | rfl)
      · exact .inl hn
      · exact .inr ⟨msg, rfl, rfl⟩

/-- The send-side books of every channel that no `chanOpenTry` starts over with packets pending: the
packets are those sent and not acknowledged, each under its own sequence, and on an ordered channel
they are the last ones sent. -/
theorem send_books (h₀ : Creates P k₀ chan₀) (hr : Run (Step P KeepsPackets) chan₀ tr chan) :
    (∀ n, n ∈ chan.packets.keys ↔ n ∈ Finset.Ico 1 chan.nextSequenceSend ∧ ¬ Acknowledged tr n) ∧
    (∀ n packet, chan.packets.lookup n = some packet → packet.sequence = n) ∧
    (chan.end_.ordering = .ordered →
      chan.packets.keys = Finset.Ico chan.nextSequenceAck chan.nextSequenceSend) := by
  have hb : chan.SendBook (Acknowledged tr) :=
    hr.invariant (I := fun tr chan => chan.SendBook (Acknowledged tr)) h₀.new.sendBook
      fun tr chan k chan' _ hb hs => hb.step hs.1 hs.change
  refine ⟨fun n => ?_, hb.sequence, fun ho => ?_⟩
  · rw [Finmap.mem_keys, hb.keys, Finset.mem_Ico, and_assoc]
  · ext n
    rw [Finmap.mem_keys, hb.ordered ho, Finset.mem_Ico]

end

/-! ## Packets lost in a crossing hello -/

namespace LostPackets
open Sample

/-- The second chain opens a channel to the transfer port. -/
def peerInit : IbcChannel :=
  .create peerHost transferPort (Host.channelIdentifier 0) (channelEnd .init "")

/-- A packet the second chain sends. -/
def incoming : Packet :=
  { sequence := 1, sourcePort := "transfer", sourceChannel := "channel-0"
    destinationPort := "transfer", destinationChannel := "channel-0"
    data := toJson ⟨"photon", "3", "x", addressA⟩, timeoutHeight := .default, timeoutTimestamp := 0 }

def P : Platform :=
  platform [handshake, shows 2 [.channel peerInit], shows 2 [.channel (peerChannel.sent incoming)]]
    [liveTransfer]

def tryCall (chan : IbcChannel) : Call :=
  hostCall (.handleChanOpenTry
    { portId := "transfer", previousChannelId := "channel-0", channel := channelEnd .init "channel-0"
      counterpartyVersion := "ics20-1", proofInit := [1], proofHeight := HEIGHT })
    [.channel chan]

def ackCall (chan : IbcChannel) : Call :=
  channelCall (.handleChanOpenAck
    { portId := "transfer", channelId := "channel-0", counterpartyChannelId := "channel-0"
      counterpartyVersion := "ics20-1", proofTry := [0], proofHeight := HEIGHT })
    [.channel chan]

def recvCall (chan : IbcChannel) : Call :=
  channelCall (.handlePacketRecv
    { packet := incoming, proofCommitment := [2], proofHeight := HEIGHT })
    [.bank liveBank, .channel chan]

/-- What a life leaves: the next sequence, whether the first packet is pending, and the receipts. -/
def outcome (r : IbcChannel × List Call × IbcChannel) :
    Nat × Bool × Finset Nat × ChannelOuterClass.Order :=
  (r.2.2.nextSequenceSend, (r.2.2.packets.lookup 1).isSome, r.2.2.receipts, r.2.2.end_.ordering)

theorem outcome_lost : outcome <$> runLife P initCall [sendCall, tryCall] =
    .ok (2, false, ∅, .unordered) := by decide +kernel

theorem outcome_kept : outcome <$> runLife P initCall [sendCall, ackCall, recvCall] =
    .ok (2, true, {1}, .unordered) := by decide +kernel

/-- A packet sent before a crossing hello is neither pending nor acknowledged after it. -/
theorem packet_lost : ∃ k₀ chan₀ tr chan, Creates P k₀ chan₀ ∧
    Run (Step P fun _ _ => True) chan₀ tr chan ∧ 1 ∈ Finset.Ico 1 chan.nextSequenceSend ∧
    ¬ Acknowledged tr 1 ∧ 1 ∉ chan.packets.keys := by
  obtain ⟨⟨chan₀, tr, chan⟩, hlife, hout⟩ := Result.map_ok.1 outcome_lost
  obtain ⟨h₀, hr, hcalls⟩ : Creates P initCall chan₀ ∧ Run (Step P fun _ _ => True) chan₀ tr chan ∧
      ∀ k ∈ tr, ∃ f ∈ [sendCall, tryCall], ∃ chan, k = f chan :=
    run_of_life hlife fun _ _ _ => trivial
  simp only [outcome, Prod.mk.injEq] at hout
  obtain ⟨hsend, hnone, -⟩ := hout
  refine ⟨initCall, chan₀, tr, chan, h₀, hr, ?_, ?_, ?_⟩
  · rw [hsend]
    decide
  · rintro ⟨k, hk, msg, hmsg, -⟩
    obtain ⟨f, hf, chan, rfl⟩ := hcalls k hk
    simp only [List.mem_cons, List.not_mem_nil, or_false] at hf
    rcases hf with rfl | rfl <;> cases hmsg
  · rw [Finmap.mem_keys]
    intro hmem
    obtain ⟨packet, hl⟩ := Finmap.mem_iff.1 hmem
    rw [hl] at hnone
    cases hnone

theorem send_books_kept : ∃ (tr : List Call) (chan : IbcChannel), chan.nextSequenceSend = 2 ∧
    ∀ n, n ∈ chan.packets.keys ↔ n ∈ Finset.Ico 1 2 ∧ ¬ Acknowledged tr n := by
  obtain ⟨⟨chan₀, tr, chan⟩, hlife, hout⟩ := Result.map_ok.1 outcome_kept
  have hok : ∀ f ∈ [sendCall, ackCall, recvCall], ∀ chan, KeepsPackets chan (f chan) := by
    intro f hf chan msg hmsg
    simp only [List.mem_cons, List.not_mem_nil, or_false] at hf
    rcases hf with rfl | rfl | rfl <;> cases hmsg
  obtain ⟨h₀, hr, -⟩ := run_of_life hlife hok
  have hsend : chan.nextSequenceSend = 2 := congrArg Prod.fst hout
  have hkeys := (send_books h₀ hr).1
  rw [hsend] at hkeys
  exact ⟨tr, chan, hsend, hkeys⟩

theorem receive_books_kept : ∃ chan : IbcChannel, chan.receipts = {1} ∧
    chan.acknowledgements.keys = {1} ∧ chan.nextSequenceRecv = 1 := by
  obtain ⟨⟨chan₀, tr, chan⟩, hlife, hout⟩ := Result.map_ok.1 outcome_kept
  obtain ⟨h₀, hr, -⟩ : Creates P initCall chan₀ ∧ Run (Step P fun _ _ => True) chan₀ tr chan ∧
      ∀ k ∈ tr, ∃ f ∈ [sendCall, ackCall, recvCall], ∃ chan, k = f chan :=
    run_of_life hlife fun _ _ _ => trivial
  simp only [outcome, Prod.mk.injEq] at hout
  obtain ⟨-, -, hreceipts, hordering⟩ := hout
  obtain ⟨hacks, hnext⟩ := (receive_books h₀ hr).1 hordering
  exact ⟨chan, hreceipts, hacks.trans hreceipts, hnext⟩

end LostPackets

end IbcChannel

end CordaIbc
