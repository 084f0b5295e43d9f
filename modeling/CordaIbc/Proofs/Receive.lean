import CordaIbc.Proofs.Accepts
import CordaIbc.Proofs.Acknowledge
import CordaIbc.Proofs.Integrity

/-!
# Packets that can be received

A packet that its channel still stores is accepted by the open counterparty exactly when it was not
received before, is the next one on an ordered channel, and has no timeout timestamp that is negative as
a `Long`. The timeout height never stands in the way: the sender compared it with the same height
(`Net.Timely`).
-/

namespace CordaIbc

open ChannelOuterClass (Packet Acknowledgement)
open ContractState StateClass IbcChannel

/-- A packet as it is presented to an end, whatever channel it was sent to. -/
def ChannelOuterClass.Packet.arriving (p : Packet) (b : IbcChannel) : Packet :=
  { p with destinationPort := b.portId.id, destinationChannel := b.id.id }

/-- A channel is ordered or unordered. -/
theorem ChannelOuterClass.Order.of_supported {o : ChannelOuterClass.Order}
    (h : o.name ∈ VERSION.featuresList) : o = .ordered ∨ o = .unordered := by
  cases o with
  | ordered => exact .inl rfl
  | unordered => exact .inr rfl
  | noneUnspecified => exact absurd h (by decide)
  | unrecognized => exact absurd h (by decide)

/-- The end has not received the sequence, and on an ordered channel waits for it. -/
structure IbcChannel.Expects (b : IbcChannel) (k : Nat) : Prop where
  fresh : k ∉ b.acknowledgements
  next : b.end_.ordering = .ordered → k = b.nextSequenceRecv

namespace IbcChannel
variable {b b' : IbcChannel} {p : Packet} {ack : Acknowledgement} {k : Nat}

/-- What the receipt of a packet leaves. -/
structure Received (b : IbcChannel) (k : Nat) (ack : Acknowledgement) (b' : IbcChannel) : Prop where
  id : b'.id = b.id
  portId : b'.portId = b.portId
  end_ : b'.end_ = b.end_
  baseId : b'.baseId = b.baseId
  packets : b'.packets = b.packets
  acknowledgements : b'.acknowledgements = b.acknowledgements.insert k ack

theorem received_of_receive (h : Handler.recvPacket.receive (b.answered p ack) p = .ok b') :
    b.Received p.sequence ack b' := by
  rcases receive_cases h with ⟨-, -, rfl⟩ | ⟨-, -, rfl⟩ <;> exact ⟨rfl, rfl, rfl, rfl, rfl, rfl⟩

theorem expects_of_receive (hbook : b.RecvBook)
    (h : Handler.recvPacket.receive (b.answered p ack) p = .ok b') : b.Expects p.sequence := by
  rcases receive_cases h with ⟨ho, hn, -⟩ | ⟨ho, hn, -⟩
  · refine ⟨fun hk => hn ?_, fun ho' => ?_⟩
    · show p.sequence ∈ b.receipts
      rw [← (hbook.unordered ho).1]
      exact Finmap.mem_keys.2 hk
    · have ho : b.end_.ordering = .unordered := ho
      rw [ho] at ho'
      cases ho'
  · have hkeys := (hbook.ordered ho).2
    refine ⟨fun hk => ?_, fun _ => hn⟩
    have hlt := Finset.mem_Ico.1 (hkeys ▸ Finmap.mem_keys.2 hk)
    have hn : p.sequence = b.nextSequenceRecv := hn
    omega

theorem exists_receive (hbook : b.RecvBook)
    (hordering : b.end_.ordering = .ordered ∨ b.end_.ordering = .unordered) (h : b.Expects p.sequence)
    (ack : Acknowledgement) : ∃ b', Handler.recvPacket.receive (b.answered p ack) p = .ok b' := by
  unfold Handler.recvPacket.receive
  rcases hordering with ho | ho
  · rw [show (b.answered p ack).end_.ordering = .ordered from ho]
    exact ⟨_, Result.bind_ok.2 ⟨(), require_ok.2 (h.next ho), rfl⟩⟩
  · have hfresh : p.sequence ∉ (b.answered p ack).receipts := by
      show p.sequence ∉ b.receipts
      rw [← (hbook.unordered ho).1, Finmap.mem_keys]
      exact h.fresh
    rw [show (b.answered p ack).end_.ordering = .unordered from ho]
    exact ⟨_, Result.bind_ok.2 ⟨(), require_ok.2 hfresh, rfl⟩⟩

end IbcChannel

namespace Chain

/-- On states of the host as they are, some packet message has a sequence received, and answered. -/
def TakesPacket (P : Platform) (c : Chain) (b : IbcChannel) (k : Nat) (proof : CommitmentProof) :
    Prop :=
  ∃ ins refs packet ack height ctx' b',
    (∀ t ∈ ins ++ refs, ∀ i, t.id? = some i → c.states.lookup i = some t) ∧
    ContractState.channel b ∈ ins ∧ packet.sequence = k ∧
    Handler.recvPacket P (.create ins refs) packet proof height ack = .ok ctx' ∧
    ContractState.channel b' ∈ ctx'.outStates.states ∧ b'.acknowledgements.lookup k = some ack

/-- What a packet for an open end is presented with. -/
structure Presents (c : Chain) (b : IbcChannel) (host : Host) (conn : IbcConnection)
    (client : IbcClientState) (cs : CordaClientState) : Prop where
  host : c.states.lookup hostId = some (.host host)
  uses : c.Over b conn client
  opened : conn.end_.state = .opened
  impl : client.impl = .corda cs

section
variable {P : Platform} {c : Chain} {a b : IbcChannel} {k : Nat} {p : Packet} {ack : Acknowledgement}
  {proof : CommitmentProof}

/-- The packet stored is accepted, when the client shows it and the end expects it. -/
theorem recvPacket_of_stored {ins refs : List ContractState} {host : Host} {conn : IbcConnection}
    {client : IbcClientState} {cs : CordaClientState} {b' : IbcChannel}
    (hhost : (Context.create ins refs).getReference Host = .ok host)
    (hb : (Context.create ins refs).getInput IbcChannel = .ok b)
    (hconnRef : (Context.create ins refs).getReference IbcConnection = .ok conn)
    (hclientRef : (Context.create ins refs).getReference IbcClientState = .ok client)
    (hopen : b.end_.state = .opened) (hover : Over c b conn client) (hconn : conn.end_.state = .opened)
    (hdelay : conn.end_.delayPeriod = 0) (himpl : client.impl = .corda cs)
    (hproof : cs.Proves P proof a) (hba : b.Names a) (hp : a.packets.lookup p.sequence = some p)
    (hsrcPort : p.sourcePort = a.portId.id) (hsrcChannel : p.sourceChannel = a.id.id)
    (hheight : p.timeoutHeight.isZero = true ∨ HEIGHT.lt p.timeoutHeight = true)
    (htimestamp : 0 ≤ p.timeoutTimestamp)
    (hreceive : Handler.recvPacket.receive (b.answered (p.arriving b) ack) (p.arriving b) = .ok b') :
    ∃ ctx', Handler.recvPacket P (.create ins refs) (p.arriving b) proof HEIGHT ack = .ok ctx' ∧
      Context.Outputs (.create ins refs) [.channel b'] ctx' := by
  obtain ⟨ctx', hadd, ho⟩ := Context.create_addOutput ins refs b' rfl
  refine ⟨ctx', ?_, ho⟩
  have hverify : client.impl.verifyPacketCommitment P HEIGHT conn.end_.delayPeriod 0
      conn.end_.counterparty.prefix_ proof a.portId a.id p.sequence
      ((p.arriving b).toCommitment P.toCrypto) = .ok () := by
    have hv : cs.verifyPacketCommitment P HEIGHT conn.end_.delayPeriod 0
        conn.end_.counterparty.prefix_ proof a.portId a.id p.sequence
        ((p.arriving b).toCommitment P.toCrypto) = .ok () :=
      CordaClientState.verifyPacketCommitment_ok.2
        ⟨rfl, hdelay, rfl, a, hproof, rfl, rfl, p, hp, rfl⟩
    rw [himpl]
    exact hv
  have hstamp : p.timeoutTimestamp = 0 ∨ 0 < p.timeoutTimestamp := by
    rcases Int64.le_iff_lt_or_eq.1 htimestamp with h | h
    · exact .inr h
    · exact .inl h.symm
  simp only [Handler.recvPacket, Result.bind_ok, require_ok, requireId_ok, single_ok, Identifier.of_ok]
  exact ⟨host, hhost, b, hb, (), rfl, (), rfl, conn, hconnRef, conn.id.id, hover.hops, (), rfl, client,
    hclientRef, (), hover.clientId, (), hopen, (), hsrcPort.trans hba.port.symm, (),
    hsrcChannel.trans hba.channel.symm, (), hconn, (), hheight, (), hstamp, a.portId, hsrcPort.symm,
    a.id, hsrcChannel.symm, (), hverify, b', hreceive, hadd⟩

/-- Presented with the states of the host as they are, the packet is accepted and answered. -/
theorem Presents.takesPacket {host : Host} {conn : IbcConnection} {client : IbcClientState}
    {cs : CordaClientState} {b' : IbcChannel} (h : c.Presents b host conn client cs)
    (hb : c.states.lookup b.id = some (.channel b)) (hopen : b.end_.state = .opened)
    (hdelay : conn.end_.delayPeriod = 0) (hproof : cs.Proves P proof a) (hba : b.Names a)
    (hp : a.packets.lookup p.sequence = some p) (hsrcPort : p.sourcePort = a.portId.id)
    (hsrcChannel : p.sourceChannel = a.id.id)
    (hheight : p.timeoutHeight.isZero = true ∨ HEIGHT.lt p.timeoutHeight = true)
    (htimestamp : 0 ≤ p.timeoutTimestamp)
    (hreceive : Handler.recvPacket.receive (b.answered (p.arriving b) ack) (p.arriving b) = .ok b') :
    c.TakesPacket P b p.sequence proof := by
  let ctx : Context := .create [.channel b] [.host host, .connection conn, .client client]
  obtain ⟨ctx', hexec, ho⟩ : ∃ ctx',
      Handler.recvPacket P ctx (p.arriving b) proof HEIGHT ack = .ok ctx' ∧
        ctx.Outputs [.channel b'] ctx' :=
    recvPacket_of_stored rfl rfl rfl rfl hopen h.uses h.opened hdelay h.impl hproof hba hp hsrcPort
      hsrcChannel hheight htimestamp hreceive
  refine ⟨[.channel b], [.host host, .connection conn, .client client], p.arriving b, ack, HEIGHT, ctx',
    b', ?_, List.mem_singleton_self _, rfl, hexec, ?_, ?_⟩
  · intro t hm i hi
    simp only [List.singleton_append, List.mem_cons, List.not_mem_nil, or_false] at hm
    rcases hm with rfl | rfl | rfl | rfl <;> cases hi
    · exact hb
    · exact h.host
    · exact h.uses.currentConnection
    · exact h.uses.currentClient
  · rw [ho.outStates]
    exact List.mem_append_right _ (List.mem_singleton_self _)
  · rw [(received_of_receive hreceive).acknowledgements]
    exact Finmap.lookup_insert _

/-- What is accepted shows the packet stored, to an end that expects it. -/
theorem TakesPacket.expects (hsha : Function.Injective P.sha256) (hbook : b.RecvBook)
    (hproof : ∀ conn client, Over c b conn client → ∀ cs, client.impl = .corda cs →
      cs.Proves P proof a)
    (hcorda : ∀ i client, c.states.lookup i = some (.client client) → ∃ cs, client.impl = .corda cs)
    (hp : a.packets.lookup k = some p) (h : TakesPacket P c b k proof) :
    0 ≤ p.timeoutTimestamp ∧ b.Expects k := by
  obtain ⟨ins, refs, packet, ack, height, ctx', b', hcur, hb, rfl, hexec, -⟩ := h
  let msg : MsgRecvPacket := { packet, proofCommitment := proof.bytes, proofHeight := height }
  obtain ⟨chan, chan', hrecv, -⟩ := @Handler.recvPacket_ok P _ _ msg proof ack rfl hexec
  obtain rfl := Context.eq_of_getInput hrecv.input hb
  refine ⟨?_, expects_of_receive hbook hrecv.receive⟩
  obtain ⟨conn, client, hopened, proof', hbytes, port, -, id, -, hv⟩ := hrecv.proof
  have href : ∀ t ∈ refs, ∀ i, t.id? = some i → c.states.lookup i = some t := fun t ht =>
    hcur t (List.mem_append_right _ ht)
  have hclient := href _ (Context.mem_of_getReference hopened.clientOf.ref) _ rfl
  have hover : Over c b conn client :=
    ⟨href _ (Context.mem_of_getReference hopened.hop.ref) _ rfl, hopened.hop.hops, hclient,
      hopened.clientOf.id⟩
  obtain ⟨cs, himpl⟩ := hcorda _ client hclient
  have hsame : proof' = proof := by
    cases proof
    cases proof'
    simp only [CommitmentProof.mk.injEq]
    exact hbytes
  rw [himpl, hsame] at hv
  have hv : cs.verifyPacketCommitment P height conn.end_.delayPeriod 0
      conn.end_.counterparty.prefix_ proof port id packet.sequence (packet.toCommitment P.toCrypto) =
        .ok () := hv
  obtain ⟨-, -, -, t, ht, -, -, q, hq, hcommit⟩ := CordaClientState.verifyPacketCommitment_ok.1 hv
  obtain rfl : a = t :=
    Except.ok.inj ((hproof conn client hover cs himpl).extract.symm.trans ht.extract)
  have hq : a.packets.lookup packet.sequence = some q := hq
  rw [hp] at hq
  cases hq
  obtain ⟨-, -, hstamp⟩ := eq_of_toCommitment_eq hsha hcommit
  rw [hstamp]
  rcases hrecv.timeoutTimestamp with h | h
  · rw [show packet.timeoutTimestamp = 0 from h]
    exact Int64.le_refl 0
  · exact Int64.le_of_lt h

end

end Chain

namespace Net

/-- Every packet stored passes the height guard of a host. -/
def Timely (n : Net Side) : Prop :=
  ∀ s i chan, (n s).states.lookup i = some (.channel chan) → ∀ k p, chan.packets.lookup k = some p →
    p.timeoutHeight.isZero = true ∨ HEIGHT.lt p.timeoutHeight = true

section
variable {P : Platform} {n₀ n : Net Side} {tr : List (Side × LedgerTransaction)} {s : Side}
  {a b : IbcChannel} {k : Nat} {p : Packet} {proof : CommitmentProof}

/-- The sender's client has the height of every host. -/
theorem Timely.run (h₀ : n₀.Start) (hr : Run (Step P TracksPeer) n₀ tr n) : n.Timely := by
  refine hr.invariant (I := fun _ n => n.Timely) ?_ ?_
  · intro s i chan hl
    exact absurd ((h₀ s).recorded i chan hl) ((h₀ s).noChannel chan)
  rintro tr n ⟨t, tx⟩ n' hr h hs s i chan hl k p hp
  by_cases ht : s = t
  · subst ht
    have htrack := Tracking.run h₀ (fun _ _ _ h => h) hr
    obtain ⟨happ, outs, htakes⟩ := Chain.commit_ok hs.commits
    rw [happ] at hl
    cases (htrack.inv s).channelStep htakes with
    | leaves _ hleaves => exact h s i chan ((hleaves.lookup i chan).1 hl) k p hp
    | @creates _ _ _ chan' _ _ _ _ _ hcreation hwrites =>
      by_cases hi : i = chan'.id
      · subst hi
        rw [hwrites.self] at hl
        cases hl
        rw [hcreation.new.packets, Finmap.lookup_empty] at hp
        cases hp
      · exact h s i chan ((hwrites.other i hi chan).1 hl) k p hp
    | @changes _ _ _ prev chan' hruns _ _ _ _ hcur hchange hwrites =>
      by_cases hi : i = chan'.id
      · subst hi
        rw [hwrites.self] at hl
        cases hl
        obtain ⟨-, hold | ⟨_, _, _, _, -, -, -, -, hsend, -⟩⟩ := hchange.packet_cases hp
        · exact h s _ prev hcur k p hold
        · obtain ⟨conn, client, -, hclient, height, hlatest, hguard⟩ := hsend.client
          have hl := hruns.references _ (Context.mem_of_getReference hclient.ref) _ rfl
          obtain ⟨cs, himpl, -⟩ := htrack.client s _ client hl
          rw [himpl] at hlatest
          cases hlatest
          exact hguard
      · exact h s i chan ((hwrites.other i hi chan).1 hl) k p hp
  · rw [hs.other s ht] at hl
    exact h s i chan hl k p hp

theorem exists_presents (h₀ : n₀.Start) (hr : Run (Step P TracksPeer) n₀ tr n)
    (hb : (n s).states.lookup b.id = some (.channel b)) (hopen : b.end_.state = .opened) :
    ∃ host conn client cs, (n s).Presents b host conn client cs := by
  have hlinked := Chain.Linked.run (h₀ s)
    (run_own (fun _ _ _ => trivial) hr : Run (Chain.Step P fun _ _ => True) (n₀ s) (own s tr) (n s))
  obtain ⟨host, hhost, -⟩ := (logs_run h₀ hr s).inv.owned
  obtain ⟨conn, hconn, hhops, hopened⟩ := hlinked.channel _ b hb hopen
  obtain ⟨client, hclient, hid⟩ := hlinked.connection _ conn hconn
  obtain ⟨cs, himpl, -⟩ := (Tracking.run h₀ (fun _ _ _ h => h) hr).client s _ client hclient
  exact ⟨host, conn, client, cs, hhost, ⟨hconn, hhops, hclient, hid⟩, hopened, himpl⟩

/-- In every state that two hosts reach, a packet that an open end stores can be received by its
counterparty exactly when the counterparty expects the sequence and the timeout timestamp is not
negative as a `Long`: neither the height nor the channel that the packet was sent to matters. -/
theorem packet_taken_iff (hsha : Function.Injective P.sha256) (h₀ : n₀.Start)
    (hr : Run (Step P TracksPeer) n₀ tr n) (h : Paired n s a b) (hp : a.packets.lookup k = some p)
    (hproof : ∀ conn client, (n s.peer).Over b conn client →
      conn.end_.delayPeriod = 0 ∧ ∀ cs, client.impl = .corda cs → cs.Proves P proof a) :
    (n s.peer).TakesPacket P b k proof ↔ 0 ≤ p.timeoutTimestamp ∧ b.Expects k := by
  have hlogs := logs_run h₀ hr s
  have hbook := (logs_run h₀ hr s.peer).recv.book _ b h.currentPeer
  constructor
  · intro htakes
    refine htakes.expects hsha hbook (fun conn client hover => (hproof conn client hover).2) ?_ hp
    intro i client hl
    obtain ⟨cs, himpl, -⟩ := (Tracking.run h₀ (fun _ _ _ h => h) hr).client s.peer i client hl
    exact ⟨cs, himpl⟩
  · rintro ⟨hstamp, hexpects⟩
    obtain ⟨-, rfl, hsrcPort, hsrcChannel⟩ :=
      hlogs.send.packets a (hlogs.recorded _ a h.current) k p hp
    obtain ⟨host, conn, client, cs, hpresents⟩ := exists_presents h₀ hr h.currentPeer h.openedPeer
    obtain ⟨hdelay, hproves⟩ := hproof conn client hpresents.uses
    obtain ⟨_, hunder⟩ := (Chain.Intact.run (h₀ s.peer) (run_own (fun _ _ _ => trivial) hr :
      Run (Chain.Step P fun _ _ => True) _ _ _)).under _ b h.currentPeer
    have hexpects : b.Expects (p.arriving b).sequence := hexpects
    obtain ⟨b', hreceive⟩ := exists_receive hbook (ChannelOuterClass.Order.of_supported hunder.ordering)
      hexpects .notSet
    exact hpresents.takesPacket h.currentPeer h.openedPeer hdelay (hproves cs hpresents.impl)
      h.namesBack hp hsrcPort hsrcChannel (Timely.run h₀ hr s _ a h.current _ p hp) hstamp hreceive

end

/-! ### A packet that waits -/

namespace WaitingPacket
open Sample EarlyPacket

/-- The second host's channel, before it has the packet. -/
def waiting : IbcChannel := channelOf .right 0 (channelEnd .opened "channel-0")

/-- The channels, and what the second runs over. -/
def outcome (n : Net Side) : List (Option ContractState) :=
  [(n .left).states.lookup (channel 0), (n .right).states.lookup (channel 0),
    (n .right).states.lookup (connection 0), (n .right).states.lookup hostClient]

def reached : List (Option ContractState) :=
  [some (.channel (sender "")), some (.channel waiting),
    some (.connection (connectionOf .right .opened "connection-0")),
    some (.client (liveClientOf .right))]

def proof : CommitmentProof := ⟨[8], nofun⟩

theorem outcome_early : (fun r => outcome r.2) <$>
    runNet (P "") sides tracksPeer pair early.dropLast = .ok reached := by decide +kernel

/-- Every connection and client the channel can use accept the proof of the first host's channel. -/
theorem proves {n : Net Side} (h : outcome n = reached) (conn : IbcConnection)
    (client : IbcClientState) (hover : (n .right).Over waiting conn client) :
    conn.end_.delayPeriod = 0 ∧ ∀ cs, client.impl = .corda cs →
      cs.Proves (P "") proof (sender "") := by
  simp only [outcome, reached, List.cons.injEq] at h
  obtain ⟨-, -, hconn, hclient, -⟩ := h
  have hconnId : conn.id = connection 0 :=
    Identifier.ext (List.cons.inj hover.hops).1.symm
  have hconn' := hover.currentConnection
  rw [hconnId, hconn] at hconn'
  cases hconn'
  have hclientId : client.id = hostClient := Identifier.ext hover.clientId
  have hclient' := hover.currentClient
  rw [hclientId, hclient] at hclient'
  cases hclient'
  refine ⟨rfl, fun cs himpl => ?_⟩
  cases himpl
  exact ⟨rfl, rfl, _, rfl, rfl⟩

/-- The packet that went to no channel when it was sent is received all the same. -/
theorem packet_taken : ∃ n : Net Side, (n .right).TakesPacket (P "") waiting 1 proof := by
  obtain ⟨⟨tr, n⟩, hrun, hout⟩ := Result.map_ok.1 outcome_early
  have hr : Run (Step (P "") TracksPeer) pair ([] ++ tr) n :=
    run_of_net mem_sides (fun _ _ _ h => tracksPeer_ok h) hrun .nil
  have hstates := hout
  simp only [outcome, reached, List.cons.injEq] at hstates
  obtain ⟨hleft, hright, -⟩ := hstates
  have hpaired : Paired n .left (sender "") waiting :=
    ⟨hleft, hright, rfl, rfl, ⟨rfl, rfl⟩, ⟨rfl, rfl⟩⟩
  exact ⟨n, (packet_taken_iff sha256_injective start_pair hr hpaired
    (show (sender "").packets.lookup 1 = some (packetTo "") from rfl) (proves hout)).2
    ⟨by decide, by decide, fun _ => rfl⟩⟩

end WaitingPacket

end Net

end CordaIbc
