import Mathlib.Algebra.BigOperators.Group.Finset.Piecewise
import Mathlib.Algebra.Order.BigOperators.Group.Finset
import CordaIbc.Proofs.BankLog
import CordaIbc.Proofs.Once
import CordaIbc.Proofs.Provenance

/-!
# The peg of the vouchers

Two hosts with `ics20.Module` on every port. A packet is credited by the receiver or refunded by the
sender, not both and neither twice, as long as a host receives it once (`Net.settled_le`). So what a
host has in escrow of a denomination covers the vouchers of it that its peer has minted, and those
burned whose packets are still on their way (`Net.peg`). A packet that is received twice breaks it
(`Net.Crossed.unpegged`).
-/

namespace CordaIbc

open ChannelOuterClass (Packet Acknowledgement)
open ContractState StateClass

instance (p q : Packet) : Decidable (p.SameSource q) :=
  decidable_of_iff (p.sourcePort = q.sourcePort ∧ p.sourceChannel = q.sourceChannel ∧
    p.sequence = q.sequence) ⟨fun ⟨h₁, h₂, h₃⟩ => ⟨h₁, h₂, h₃⟩, fun ⟨h₁, h₂, h₃⟩ => ⟨h₁, h₂, h₃⟩⟩

theorem ChannelOuterClass.Packet.SameSource.symm {p q : Packet} (h : p.SameSource q) :
    q.SameSource p :=
  ⟨h.port.symm, h.channel.symm, h.sequence.symm⟩

theorem ChannelOuterClass.Packet.SameSource.trans {p q r : Packet} (h : p.SameSource q)
    (h' : q.SameSource r) : p.SameSource r :=
  ⟨h.port.trans h'.port, h.channel.trans h'.channel, h.sequence.trans h'.sequence⟩

theorem ChannelOuterClass.Packet.Agrees.sameSource {p q : Packet} (h : p.Agrees q) : p.SameSource q :=
  ⟨h.sourcePort, h.sourceChannel, h.sequence⟩

namespace Ics20
variable {P : Platform} {p q : Packet} {d : Denom} {V : Finset Denom}

theorem tokenOf_agrees (h : p.Agrees q) : tokenOf P p = tokenOf P q := by
  rw [tokenOf, h.data, tokenOf]

theorem returns_agrees (h : p.Agrees q) : returns p = returns q := by
  funext denom
  rw [returns, h.sourcePort, h.sourceChannel, returns]

theorem lockedBy_agrees (h : p.Agrees q) : lockedBy P d p = lockedBy P d q := by
  rw [lockedBy, amountIf, tokenOf_agrees h, returns_agrees h, lockedBy, amountIf]

theorem unlockedBy_agrees (h : p.Agrees q) : unlockedBy P d p = unlockedBy P d q := by
  rw [unlockedBy, amountIf, tokenOf_agrees h, returns_agrees h, unlockedBy, amountIf]

/-- What a packet burns of the denominations that unlock `d` elsewhere is what it unlocks of `d`. -/
theorem sum_burnedBy (hV : ∀ denom amount, tokenOf P p = .ok (denom, amount) →
    (denom ∈ V ↔ denom.removePrefix = .ok d)) : ∑ v ∈ V, burnedBy P v p = unlockedBy P d p := by
  cases ht : tokenOf P p with
  | error e => simp [burnedBy, unlockedBy, amountIf, ht]
  | ok t =>
    obtain ⟨denom, amount⟩ := t
    have hiff := hV denom amount ht
    simp only [burnedBy, unlockedBy, amountIf_of ht]
    cases hr : returns p denom with
    | false => simp
    | true => simp [hiff]

/-- What a packet mints of denominations that lead back to `d`, it has locked of `d`. -/
theorem sum_mintedBy_le (hp : NonnegToken P p) (hV : ∀ v ∈ V, v.removePrefix = .ok d) :
    ∑ v ∈ V, mintedBy P v p ≤ lockedBy P d p := by
  cases ht : tokenOf P p with
  | error e => simp [mintedBy, lockedBy, amountIf, ht]
  | ok t =>
    obtain ⟨denom, amount⟩ := t
    have hamount := hp denom amount ht
    simp only [mintedBy, lockedBy, amountIf_of ht]
    cases hr : returns p denom with
    | true => simp
    | false =>
      have hsome : (0 : Int) ≤ if denom = d then amount else 0 := by
        split
        · exact hamount
        · exact le_rfl
      cases hc : carried p denom with
      | error e => simpa using hsome
      | ok v =>
        by_cases hv : v ∈ V
        · -- the denomination behind the receiver's end is `d` there
          have hd : denom = d := by
            simp only [carried, Result.bind_ok, Except.ok.injEq] at hc
            obtain ⟨port, -, channel, -, rfl⟩ := hc
            exact Except.ok.inj (Denom.removePrefix_addPath.symm.trans (hV _ hv))
          simp [hd, hv]
        · simpa [hv] using hsome

/-- The denominations of some packets. -/
theorem exists_named (P : Platform) (l : List Packet) : ∃ V : Finset Denom,
    ∀ p ∈ l, ∀ denom amount, tokenOf P p = .ok (denom, amount) → denom ∈ V := by
  induction l with
  | nil => exact ⟨∅, nofun⟩
  | cons p l ih =>
    obtain ⟨V, hV⟩ := ih
    cases ht : tokenOf P p with
    | error e =>
      refine ⟨V, fun q hq denom amount h => ?_⟩
      rcases List.mem_cons.1 hq with rfl | hq
      · rw [ht] at h
        cases h
      · exact hV q hq denom amount h
    | ok t =>
      refine ⟨insert t.1 V, fun q hq denom amount h => ?_⟩
      rcases List.mem_cons.1 hq with rfl | hq
      · rw [ht] at h
        cases h
        exact Finset.mem_insert_self _ _
      · exact Finset.mem_insert_of_mem (hV q hq denom amount h)

/-- The denominations that lead back to `d`, among those asked for and those of some packets. -/
theorem exists_leading (P : Platform) (d : Denom) (K : Finset (Identifier × Identifier))
    (l : List Packet) : ∃ V : Finset Denom, (∀ v ∈ V, v.removePrefix = .ok d) ∧
      K.image (fun k => d.addPath k.1 k.2) ⊆ V ∧ ∀ p ∈ l, ∀ denom amount,
        tokenOf P p = .ok (denom, amount) → denom.removePrefix = .ok d → denom ∈ V := by
  obtain ⟨named, hnamed⟩ := exists_named P l
  obtain ⟨V, hV⟩ : ∃ V : Finset Denom, ∀ v, v ∈ V ↔
      v ∈ K.image (fun k => d.addPath k.1 k.2) ∨ v ∈ named ∧ v.removePrefix = .ok d :=
    ⟨K.image (fun k => d.addPath k.1 k.2) ∪ named.filter fun v => v.removePrefix = .ok d,
      fun v => by rw [Finset.mem_union, Finset.mem_filter]⟩
  refine ⟨V, fun v hv => ?_, fun v hv => (hV v).2 (.inl hv), fun p hp denom amount ht hd => ?_⟩
  · rcases (hV v).1 hv with hv | ⟨-, hv⟩
    · obtain ⟨k, -, rfl⟩ := Finset.mem_image.1 hv
      exact Denom.removePrefix_addPath
    · exact hv
  · exact (hV denom).2 (.inr ⟨hnamed p hp denom amount ht, hd⟩)

end Ics20

namespace Chain

variable {P : Platform} {c c₀ : Chain} {tr : List LedgerTransaction} {d : Denom} {V : Finset Denom}

/-- A host that sends positive amounts only. -/
theorem nonneg_of_sent (hjson : ∀ data, P.toFungibleTokenPacketData (P.toJson data) = .ok data)
    (h₀ : c₀.Start) (hports : c₀.OnlyIcs20)
    (hr : Run (Step P fun _ tx => SendsPositive P tx) c₀ tr c) :
    ∀ p ∈ sentPackets tr, Ics20.NonnegToken P p := by
  intro p hp
  obtain ⟨tx, hm, hsent⟩ := List.mem_filterMap.1 hp
  obtain ⟨_, _, c₁, c₂, -, hr₁, hpositive, hc⟩ := hr.exists_step_of_mem hm
  obtain ⟨m, hsends⟩ := sendsPacket_of_commit hc hsent
  obtain ⟨host, port, -, hport, -⟩ := hsends.host
  have hmod := hsends.module? hport
  rw [module_run h₀.inv hr₁] at hmod
  obtain rfl := hports port m hmod
  obtain ⟨anyMsg, signers, chan, outs, hd, heffect, -⟩ := hsends.effect
  cases heffect with
  | @ics20 msg amount _ _ _ bank _ denom hmsg hamount _ _ _ hbank hdenom =>
    have hcur := hsends.inputs _ (Context.mem_of_getInput hbank) bankId rfl
    have htoken := Ics20.tokenOf_transferPacket chan hjson hamount
      (Ics20.plain_of_resolveToken (PlainDenoms.run h₀ hr₁ bank hcur) hdenom)
    intro denom' amount' ht
    rw [htoken] at ht
    cases ht
    exact (hpositive anyMsg signers msg amount hd hmsg hamount).le

/-- The vouchers that lead back to `d`: those for packets that locked `d`, less what was burned and
not minted back. -/
theorem BankLog.sum_minted_le (h : BankLog P tr c) (hV : ∀ v ∈ V, v.removePrefix = .ok d)
    (hburned : ∀ p ∈ sentPackets tr, ∀ denom amount, Ics20.tokenOf P p = .ok (denom, amount) →
      denom.removePrefix = .ok d → denom ∈ V)
    (hcredited : ∀ p ∈ creditedPackets tr, Ics20.NonnegToken P p)
    (hrefunded : ∀ p ∈ refundedPackets P tr, p ∈ sentPackets tr) :
    ∑ v ∈ V, c.minted.total v ≤ weigh (Ics20.lockedBy P d) (creditedPackets tr) +
      weigh (Ics20.unlockedBy P d) (refundedPackets P tr) -
      weigh (Ics20.unlockedBy P d) (sentPackets tr) := by
  have hburns : ∀ p ∈ sentPackets tr, ∑ v ∈ V, Ics20.burnedBy P v p = Ics20.unlockedBy P d p :=
    fun p hp => Ics20.sum_burnedBy fun denom amount ht => ⟨hV denom, hburned p hp denom amount ht⟩
  have hmints : weigh (fun p => ∑ v ∈ V, Ics20.mintedBy P v p) (creditedPackets tr) ≤
      weigh (Ics20.lockedBy P d) (creditedPackets tr) :=
    weigh_le fun p hp => Ics20.sum_mintedBy_le (hcredited p hp) hV
  have hsent := weigh_congr hburns
  have hback := weigh_congr fun p hp => hburns p (hrefunded p hp)
  rw [weigh_sum] at hmints hsent hback
  have htotal : ∑ v ∈ V, c.minted.total v = ∑ v ∈ V, weigh (Ics20.mintedBy P v) (creditedPackets tr) +
      ∑ v ∈ V, weigh (Ics20.burnedBy P v) (refundedPackets P tr) -
      ∑ v ∈ V, weigh (Ics20.burnedBy P v) (sentPackets tr) := by
    rw [← Finset.sum_add_distrib, ← Finset.sum_sub_distrib]
    exact Finset.sum_congr rfl fun v _ => h.minted v
  omega

end Chain

namespace Net

/-- The packets of a host that its peer has not received and that were not refunded. -/
def unsettled (P : Platform) (tr : List (Side × LedgerTransaction)) (s : Side) : List Packet :=
  (sentPackets (own s tr)).filter fun p =>
    (∀ q ∈ receivedPackets (own s.peer tr), ¬ p.SameSource q.1) ∧ p ∉ refundedPackets P (own s tr)

/-- Two hosts track each other, send positive amounts only, and acknowledge tried channels towards
those they were tried with. -/
structure Pegging (P : Platform) (n : Net Side) (s : Side) (tx : LedgerTransaction) : Prop where
  tracks : TracksPeer n s tx
  positive : Chain.SendsPositive P tx
  acks : tx.AcksTriedChannel

section
variable {P : Platform} {n₀ n n' : Net Side} {tr : List (Side × LedgerTransaction)} {s : Side}
  {tx : LedgerTransaction}

section
variable (h₀ : n₀.Start) (hr : Run (Step P (Pegging P)) n₀ tr n)
include h₀ hr

theorem tracking_pegging : n.Tracking := Tracking.run h₀ (fun _ _ _ h => h.tracks) hr

theorem channels_pegging (s : Side) :
    Handshake.Inv ChannelOuterClass.kind ((n s).book IbcChannel) ((n s.peer).book IbcChannel) :=
  channels_inv h₀ (fun _ _ _ h => h.tracks) (fun _ _ _ h => h.acks) hr s

theorem delivered_pegging (hinj : Function.Injective P.sha256) : Delivered tr :=
  delivered hinj h₀ (hr.mono fun _ _ _ h => ⟨h.ok.tracks, h.sound, h.distinct, h.commit, h.other⟩)

/-- No two packets received are of one end and sequence. -/
theorem received_distinct (s : Side) :
    (receivedPackets (own s tr)).Pairwise fun a b => ¬ a.1.SameSource b.1 := by
  refine hr.invariant (I := fun tr _ =>
    (receivedPackets (own s tr)).Pairwise fun a b => ¬ a.1.SameSource b.1) List.Pairwise.nil ?_
  rintro tr n ⟨t, tx⟩ n' hr hold hs
  by_cases ht : t = s
  · subst ht
    rw [own_self, receivedPackets_snoc]
    refine List.pairwise_append.2 ⟨hold, ?_, ?_⟩
    · cases tx.received? <;> simp
    · rintro ⟨p, ack⟩ hp ⟨q, ack'⟩ hq
      obtain ⟨msg, signers, hd, rfl⟩ :=
        LedgerTransaction.command_of_received (Option.mem_toList.1 hq)
      exact not_sameSource_of_accepts h₀ (fun _ _ _ h => h.tracks) (fun _ _ _ h => h.acks) hr hp
        hs.commits hd
  · rwa [own_ne ht]

/-- A packet has one acknowledgement. -/
theorem eq_of_sameSource {p q : Packet} {ack ack' : Acknowledgement}
    (hp : (p, ack) ∈ receivedPackets (own s tr)) (hq : (q, ack') ∈ receivedPackets (own s tr))
    (h : p.SameSource q) : (p, ack) = (q, ack') := by
  by_contra hne
  have : Std.Symm fun a b : Packet × Acknowledgement => ¬ a.1.SameSource b.1 :=
    ⟨fun _ _ h h' => h h'.symm⟩
  exact (received_distinct h₀ hr s).forall hp hq hne h

end

/-- An error acknowledgement that a host accepts was given to the packet. -/
theorem received_of_refunded (hinj : Function.Injective P.sha256) (h₀ : n₀.Start)
    (hr : Run (Step P (Pegging P)) n₀ tr n) (hs : Step P (Pegging P) n (s, tx) n') {p : Packet}
    (hrefunded : tx.refunded? P = some p) : ∃ q message,
      (q, .error message) ∈ receivedPackets (own s.peer tr) ∧ p.Agrees q := by
  obtain ⟨msg, signers, message, hd, hack, rfl⟩ := Chain.command_of_refunded hrefunded
  obtain ⟨outs, ctx', ht⟩ := Chain.datagram_of_commits hs.commits hd
  have hexec := ht.executes
  cases hexec with
  | @acknowledgePacket _ host port a a' m ack outs hhost hport hmodule hack' heffect hacks =>
    rw [hack] at hack'
    cases hack'
    have hlog := logs_run h₀ hr s
    have hcur := ht.inputs _ (Context.mem_of_getInput hacks.input) _ rfl
    obtain ⟨conn, client, hopened, hproof⟩ := hacks.proof
    have hhonest := (tracking_pegging h₀ hr).honest hs.sound hd ht.references hopened.clientOf.ref
    obtain ⟨t, hmem, -, htid, hl⟩ := hhonest.ack (List.mem_singleton_self _) hproof
    obtain ⟨q, hq, hseq, -, hqid⟩ := (logs_run h₀ hr s.peer).recv.acks t hmem _ _ hl
    refine ⟨q, message, hq, ?_⟩
    -- the channel of the peer that received a packet was open towards the one that takes the
    -- acknowledgement
    obtain ⟨b, hb, hbopen, hbid, hsrc⟩ := opened_of_received h₀ hr hq
    have hinv := channels_pegging h₀ hr s
    have hinv' := channels_pegging h₀ hr s.peer
    rw [Side.peer_peer] at hinv'
    obtain ⟨f, hf, hphase, hpeer⟩ := hinv.peer_of_opened (i := a.id.id) (e := a.toEnd)
      ⟨a, hlog.recorded _ a hcur, rfl, rfl⟩ (ChannelOuterClass.State.phase_opened.2 hopened.chanOpen)
    have hend : b.id.id = a.toEnd.peer :=
      hbid.trans (hqid.trans (htid.trans hacks.destChannel))
    have hback : f.peer = b.toEnd.peer := hinv'.peer_unique hf ⟨b, hb, hend, rfl⟩ hphase
      (.inr (ChannelOuterClass.State.phase_opened.2 hbopen))
    have hchannel : q.sourceChannel = a.id.id := hsrc.trans (hback.symm.trans hpeer)
    -- so that packet and the one acknowledged were sent under one key
    obtain ⟨p, hp, hagrees⟩ := delivered_pegging h₀ hr hinj s.peer q _ hq
    rw [Side.peer_peer] at hp
    obtain ⟨hsent, -, -, hid⟩ := hlog.send.packets a (hlog.recorded _ a hcur) _ _ hacks.packet
    have hsame : p = msg.packet := hlog.send.eq_of_key hp hsent
      ((hagrees.sourceChannel.trans hchannel).trans hid.symm) (hagrees.sequence.trans hseq)
    exact hsame ▸ hagrees

section
variable (hinj : Function.Injective P.sha256) (h₀ : n₀.Start)
  (hr : Run (Step P (Pegging P)) n₀ tr n)
include hinj h₀ hr

/-- A packet that is refunded was received with an error. -/
theorem error_of_refunded (s : Side) : ∀ p ∈ refundedPackets P (own s tr), ∃ q message,
    (q, .error message) ∈ receivedPackets (own s.peer tr) ∧ p.Agrees q := by
  refine hr.invariant (I := fun tr _ => ∀ p ∈ refundedPackets P (own s tr), ∃ q message,
    (q, .error message) ∈ receivedPackets (own s.peer tr) ∧ p.Agrees q) (fun p hp => by cases hp) ?_
  rintro tr n ⟨t, tx⟩ n' hr hold hs p hp
  have hlater : (∃ q message, (q, Acknowledgement.error message) ∈ receivedPackets (own s.peer tr) ∧
      p.Agrees q) → ∃ q message,
      (q, .error message) ∈ receivedPackets (own s.peer (tr ++ [(t, tx)])) ∧ p.Agrees q := by
    rintro ⟨q, message, hq, hagrees⟩
    exact ⟨q, message, receivedPackets_own hq, hagrees⟩
  by_cases ht : t = s
  · subst ht
    rw [own_self, refundedPackets_snoc] at hp
    rcases List.mem_append.1 hp with hp | hp
    · exact hlater (hold p hp)
    · exact hlater (received_of_refunded hinj h₀ hr hs (Option.mem_toList.1 hp))
  · rw [own_ne ht] at hp
    exact hlater (hold p hp)

/-- The packets credited by the peer, refunded and unsettled are different packets of those sent. -/
theorem settled_le {w : Packet → Int} (hw : ∀ p ∈ sentPackets (own s tr), 0 ≤ w p)
    (hagrees : ∀ p q, p.Agrees q → w p = w q) :
    weigh w (creditedPackets (own s.peer tr)) + weigh w (refundedPackets P (own s tr)) +
      weigh w (unsettled P tr s) ≤ weigh w (sentPackets (own s tr)) := by
  have hown : Run (Chain.Step P fun _ _ => True) (n₀ s) (own s tr) (n s) :=
    run_own (fun _ _ _ => trivial) hr
  have hrefunds := Chain.RefundLog.run (h₀ s) hown
  have herror := error_of_refunded hinj h₀ hr s
  -- what the peer credited is counted where it was sent
  have hmatch : ∀ q ∈ creditedPackets (own s.peer tr),
      ∃ p ∈ sentPackets (own s tr), p.Agrees q := fun q hq => by
    have hsent := delivered_pegging h₀ hr hinj s.peer q _ (mem_creditedPackets.1 hq)
    rwa [Side.peer_peer] at hsent
  have hdistinct : (creditedPackets (own s.peer tr)).Pairwise fun q q' =>
      ∀ p : Packet, p.Agrees q → ¬ p.Agrees q' := by
    rw [creditedPackets_eq]
    refine (received_distinct h₀ hr s.peer).filterMap _ ?_
    rintro ⟨q, ack⟩ ⟨q', ack'⟩ hne x hx y hy p hp hp'
    simp only [Option.ite_none_right_eq_some, Option.some.injEq] at hx hy
    obtain ⟨-, rfl⟩ := hx
    obtain ⟨-, rfl⟩ := hy
    exact hne (hp.sameSource.symm.trans hp'.sameSource)
  obtain ⟨l, hl, hsub, hsum, hback⟩ := exists_matched hmatch hdistinct hagrees
  rw [← hsum, ← weigh_append, ← weigh_append]
  refine weigh_le_of_subset ?_ ?_ hw
  · have hfirst : ∀ p ∈ l, p ∉ refundedPackets P (own s tr) := fun p hp hp' => by
      obtain ⟨q, hq, hpq⟩ := hback p hp
      obtain ⟨q', message, hq', hpq'⟩ := herror p hp'
      have heq := eq_of_sameSource h₀ hr (mem_creditedPackets.1 hq) hq'
        (hpq.sameSource.symm.trans hpq'.sameSource)
      cases heq
    have hrest : ∀ p ∈ l ++ refundedPackets P (own s tr), p ∉ unsettled P tr s := fun p hp hp' => by
      have hp' := (List.mem_filter.1 hp').2
      simp only [decide_eq_true_eq] at hp'
      rcases List.mem_append.1 hp with hp | hp
      · obtain ⟨q, hq, hpq⟩ := hback p hp
        exact hp'.1 _ (mem_creditedPackets.1 hq) hpq.sameSource
      · exact hp'.2 hp
    have hunsettled : (unsettled P tr s).Nodup := (logs_run h₀ hr s).send.nodup.filter _
    refine List.nodup_append.2 ⟨List.nodup_append.2 ⟨hl, hrefunds.nodup, ?_⟩, hunsettled, ?_⟩
    · rintro p hp q hq rfl
      exact hfirst p hp hq
    · rintro p hp q hq rfl
      exact hrest p hp hq
  · refine List.append_subset.2 ⟨List.append_subset.2 ⟨hsub, hrefunds.sent⟩, ?_⟩
    exact List.filter_subset_self _

/-- No amount that a host sends is negative, nor what it credits or takes back. -/
theorem nonneg_of_pegging (hjson : ∀ data, P.toFungibleTokenPacketData (P.toJson data) = .ok data)
    (hports : ∀ s, (n₀ s).OnlyIcs20) (s : Side) :
    (∀ p ∈ sentPackets (own s tr), Ics20.NonnegToken P p) ∧
    (∀ p ∈ creditedPackets (own s tr), Ics20.NonnegToken P p) ∧
    ∀ p ∈ refundedPackets P (own s tr), Ics20.NonnegToken P p := by
  have hown : ∀ s, Run (Chain.Step P fun _ tx => Chain.SendsPositive P tx) (n₀ s) (own s tr) (n s) :=
    fun s => run_own (fun _ _ h => h.positive) hr
  have hsent : ∀ s, ∀ p ∈ sentPackets (own s tr), Ics20.NonnegToken P p := fun s =>
    Chain.nonneg_of_sent hjson (h₀ s) (hports s) (hown s)
  refine ⟨hsent s, fun p hp => ?_, fun p hp => ?_⟩
  · obtain ⟨q, hq, hagrees⟩ := delivered_pegging h₀ hr hinj s p _ (mem_creditedPackets.1 hp)
    intro denom amount ht
    exact hsent _ q hq denom amount ((Ics20.tokenOf_agrees hagrees).trans ht)
  · exact hsent s p ((Chain.RefundLog.run (h₀ s) (hown s)).sent p hp)

end

/-- Two hosts with `ics20.Module` on every port track each other, send positive amounts only, and
acknowledge tried channels towards those they were tried with. Then the escrow of a denomination
covers its vouchers on the peer, whatever the channels, with those on their way back. -/
theorem peg (hinj : Function.Injective P.sha256)
    (hjson : ∀ data, P.toFungibleTokenPacketData (P.toJson data) = .ok data) (h₀ : n₀.Start)
    (hports : ∀ s, (n₀ s).OnlyIcs20) (hr : Run (Step P (Pegging P)) n₀ tr n) (s : Side) (d : Denom)
    (K : Finset (Identifier × Identifier)) :
    ∑ k ∈ K, (n s.peer).minted.total (d.addPath k.1 k.2) +
      weigh (Ics20.unlockedBy P d) (unsettled P tr s.peer) ≤ (n s).locked.total d := by
  have hown : ∀ s, Run (Chain.Step P fun _ _ => True) (n₀ s) (own s tr) (n s) := fun s =>
    run_own (fun _ _ _ => trivial) hr
  have hnonneg := nonneg_of_pegging hinj h₀ hr hjson hports
  have hbank : ∀ s, Chain.BankLog P (own s tr) (n s) := fun s =>
    Chain.BankLog.run hjson (h₀ s) (hports s) (hown s)
  have hvouchers : (n s.peer).minted.Nonneg :=
    Chain.minted_nonneg_run hjson (h₀ _) (hports _) (hown _) fun p hp =>
      hp.elim ((hnonneg s.peer).2.1 p) ((hnonneg s.peer).2.2 p)
  obtain ⟨V, hV, hK, hburned⟩ := Ics20.exists_leading P d K (sentPackets (own s.peer tr))
  have hsum : ∑ k ∈ K, (n s.peer).minted.total (d.addPath k.1 k.2) ≤
      ∑ v ∈ V, (n s.peer).minted.total v := by
    have hends : Set.InjOn (fun k : Identifier × Identifier => d.addPath k.1 k.2) K := by
      rintro ⟨port, channel⟩ - ⟨port', channel'⟩ - he
      have hprefix : (d.addPath port channel).hasPrefix port' channel' = true := by
        rw [show d.addPath port channel = d.addPath port' channel' from he]
        exact Denom.hasPrefix_addPath
      obtain ⟨rfl, rfl⟩ := Denom.eq_of_hasPrefix Denom.hasPrefix_addPath hprefix
      rfl
    rw [← Finset.sum_image hends]
    exact Finset.sum_le_sum_of_subset_of_nonneg hK fun v _ _ => hvouchers.total
  have hminted := (hbank s.peer).sum_minted_le hV hburned (hnonneg s.peer).2.1
    (Chain.RefundLog.run (h₀ _) (hown _)).sent
  -- out over the channels of this host, and back over those of the peer
  have hthere := settled_le hinj h₀ hr (s := s) (w := Ics20.lockedBy P d)
    (fun p hp => ((hnonneg s).1 p hp).amountIf) fun p q h => Ics20.lockedBy_agrees h
  have hback := settled_le hinj h₀ hr (s := s.peer) (w := Ics20.unlockedBy P d)
    (fun p hp => ((hnonneg s.peer).1 p hp).amountIf) fun p q h => Ics20.unlockedBy_agrees h
  rw [Side.peer_peer] at hback
  have hrest : 0 ≤ weigh (Ics20.lockedBy P d) (unsettled P tr s) :=
    weigh_nonneg fun p hp => ((hnonneg s).1 p (List.mem_filter.1 hp).1).amountIf
  have hlocked := (hbank s).locked d
  omega

end

/-! ### Vouchers without escrow -/

namespace Crossed
open Sample

def atom : Denom := ⟨⟨"", "atom"⟩⟩

/-- The ends of the second host. -/
def ends : Finset (Identifier × Identifier) := {(transferPort, channel 0), (transferPort, channel 1)}

theorem onlyIcs20_pair (s : Side) : (pair s).OnlyIcs20 := by
  intro port m hm
  have hhost : (pair s).states.lookup hostId = some (.host (host (number s))) :=
    Finmap.lookup_insert _
  have hl : ((∅ : Finmap fun _ => Module).insert transferPort .ics20).lookup port = some m := by
    rw [Chain.module?, hhost] at hm
    exact hm
  by_cases hp : port = transferPort
  · subst hp
    rw [Finmap.lookup_insert] at hl
    exact (Option.some.inj hl).symm
  · rw [Finmap.lookup_insert_of_ne _ hp] at hl
    cases hl

theorem sendsPositive (shown : List (Side × ContractState)) (tx : LedgerTransaction) :
    Chain.SendsPositive (netPlatform shown [atoms]) tx := by
  rintro anyMsg signers msg amount - hmsg hamount
  obtain rfl := List.mem_singleton.1 (mem_of_entry hmsg)
  rw [show toBigInteger atoms.token.amount = .ok 5 by decide] at hamount
  cases hamount
  decide

/-- A transaction allocates positive amounts only. -/
def AllocatesPositive (tx : LedgerTransaction) : Prop :=
  ∀ owner denom amount signers, (.fundAllocate owner denom amount, signers) ∈ tx.miscCommands →
    0 < amount

def allocatesPositive (tx : LedgerTransaction) : Bool :=
  tx.miscCommands.all fun
    | (.fundAllocate _ _ amount, _) => 0 < amount
    | _ => true

theorem allocatesPositive_ok {tx : LedgerTransaction} (h : allocatesPositive tx = true) :
    AllocatesPositive tx := by
  intro owner denom amount signers hm
  exact of_decide_eq_true (List.all_eq_true.1 h _ hm)

/-- The escrow of the first host, the vouchers of the second, and those on their way back. -/
def totals (P : Platform) (r : List (Side × LedgerTransaction) × Net Side) : Int × Int × Int :=
  ((r.2 .left).locked.total atom, ∑ k ∈ ends, (r.2 .right).minted.total (atom.addPath k.1 k.2),
    weigh (Ics20.unlockedBy P atom) (unsettled P r.1 .right))

theorem totals_receiving : totals (netPlatform shownPacket [atoms]) <$>
    runNet (netPlatform shownPacket [atoms]) sides
      (fun n s tx => tracksPeer n s tx && allocatesPositive tx) pair receiving = .ok (5, 10, 0) := by
  decide +kernel

/-- A packet that is received on two channels is minted on both, and was locked once. -/
theorem unpegged : ∃ (P : Platform) (n₀ n : Net Side) (tr : List (Side × LedgerTransaction)),
    Function.Injective P.sha256 ∧ (∀ data, P.toFungibleTokenPacketData (P.toJson data) = .ok data) ∧
    n₀.Start ∧ (∀ s, (n₀ s).OnlyIcs20) ∧
    Run (Step P fun n s tx => TracksPeer n s tx ∧ Chain.SendsPositive P tx ∧ AllocatesPositive tx)
      n₀ tr n ∧
    (n .left).locked.total atom < ∑ k ∈ ends, (n .right).minted.total (atom.addPath k.1 k.2) +
      weigh (Ics20.unlockedBy P atom) (unsettled P tr .right) := by
  obtain ⟨⟨tr, n⟩, hrun, hout⟩ := Result.map_ok.1 totals_receiving
  have hr : Run (Step (netPlatform shownPacket [atoms]) fun n s tx =>
      TracksPeer n s tx ∧ Chain.SendsPositive (netPlatform shownPacket [atoms]) tx ∧
        AllocatesPositive tx) pair ([] ++ tr) n := by
    refine run_of_net mem_sides (fun n s tx h => ?_) hrun .nil
    obtain ⟨htracks, hallocates⟩ := Bool.and_eq_true_iff.1 h
    exact ⟨tracksPeer_ok htracks, sendsPositive _ tx, allocatesPositive_ok hallocates⟩
  simp only [totals, Prod.mk.injEq] at hout
  obtain ⟨hlocked, hminted, hback⟩ := hout
  refine ⟨_, pair, n, tr, sha256_injective, toFungibleTokenPacketData_toJson, start_pair,
    onlyIcs20_pair, hr, ?_⟩
  omega

/-- The platform of a transfer over the channel of the usual handshake. -/
def usual : Platform := netPlatform (transferring "channel-0") [atoms]

theorem totals_transferred : totals usual <$> runNet usual sides
    (fun n s tx => tracksPeer n s tx && untried tx) pair transferred = .ok (5, 5, 0) := by
  decide +kernel

/-- There the escrow covers the vouchers. -/
theorem pegged : ∃ (n : Net Side) (tr : List (Side × LedgerTransaction)),
    Run (Step usual (Pegging usual)) pair tr n ∧
    ∑ k ∈ ends, (n .right).minted.total (atom.addPath k.1 k.2) = 5 ∧
    5 ≤ (n .left).locked.total atom := by
  obtain ⟨⟨tr, n⟩, hrun, hout⟩ := Result.map_ok.1 totals_transferred
  have hr : Run (Step usual (Pegging usual)) pair ([] ++ tr) n := by
    refine run_of_net mem_sides (fun n s tx h => ?_) hrun .nil
    obtain ⟨htracks, huntried⟩ := Bool.and_eq_true_iff.1 h
    exact ⟨tracksPeer_ok htracks, sendsPositive _ tx, acksTried_of_untried huntried⟩
  simp only [totals, Prod.mk.injEq] at hout
  obtain ⟨-, hminted, hback⟩ := hout
  have hpeg : _ ≤ (n .left).locked.total atom := peg sha256_injective
    toFungibleTokenPacketData_toJson start_pair onlyIcs20_pair hr .left atom ends
  refine ⟨n, tr, hr, hminted, ?_⟩
  simp only [List.nil_append, Side.peer] at hpeg
  omega

end Crossed

end Net

end CordaIbc
