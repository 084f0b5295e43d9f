import CordaIbc.Proofs.PacketLog
import CordaIbc.Sample.Ledgers

/-!
# What arrives is what was sent

Two hosts whose clients track each other, in any run and with any stale proofs. A packet that one
accepts was sent by the other before (`Delivered`), so on an ordered channel the data accepted is the
front of the data sent; and an acknowledgement that the sender accepts is the one that was recorded
when the packet was received.
-/

namespace CordaIbc

open ChannelOuterClass (Packet Acknowledgement)
open ContractState StateClass

/-- The packets a host sent from an end. -/
def sentFrom (port channel : String) (tr : List LedgerTransaction) : List Packet :=
  (sentOn channel tr).filter (·.sourcePort = port)

/-- Two packets of one end with the same sequence, data and timeouts. -/
structure ChannelOuterClass.Packet.Agrees (p q : Packet) : Prop where
  sequence : p.sequence = q.sequence
  sourcePort : p.sourcePort = q.sourcePort
  sourceChannel : p.sourceChannel = q.sourceChannel
  data : p.data = q.data
  timeoutHeight : p.timeoutHeight = q.timeoutHeight
  timeoutTimestamp : p.timeoutTimestamp = q.timeoutTimestamp

namespace Chain
variable {P : Platform} {c c' : Chain} {tx : LedgerTransaction} {signers : List PublicKey}

theorem TakesDatagram.takes {handler : DatagramHandler} {outs : List ContractState} {ctx' : Context}
    (hd : tx.datagramHandlerCommands = [(handler, signers)])
    (h : TakesDatagram P c tx handler signers outs ctx') : Takes P c tx outs :=
  ⟨.datagram hd h.inputs h.references h.executes, h.perm, h.base⟩

/-- A host accepts a packet. -/
structure AcceptsPacket (P : Platform) (c : Chain) (tx : LedgerTransaction) (msg : MsgRecvPacket)
    (chan : IbcChannel) : Prop where
  references : ∀ t ∈ tx.referenceStates, ∀ i, t.id? = some i → c.states.lookup i = some t
  input : ContractState.channel chan ∈ tx.inputStates
  receives : ∃ ack chan', Receives P (.create tx.inputStates tx.referenceStates) msg ack chan chan' ∧
    tx.received? = some (msg.packet, ack)

theorem acceptsPacket_of_commit (h : c.Commits P tx c') {msg : MsgRecvPacket}
    (hd : tx.datagramHandlerCommands = [(.handlePacketRecv msg, signers)]) :
    ∃ chan, AcceptsPacket P c tx msg chan := by
  obtain ⟨outs, ctx', ht⟩ := datagram_of_commits h hd
  have htakes := ht.takes hd
  have hexec := ht.executes
  cases hexec with
  | @recvPacket _ host port chan chan' module_ ack outs hhost hport hmodule heffect hrecv =>
    have hout : tx.channelOut? = some chan' :=
      htakes.channelOut (List.mem_append_right _ (List.mem_singleton_self _))
    have hreceived : tx.received? = some (msg.packet, ack) :=
      IbcChannel.received_of_handlePacketRecv hd hout hrecv.receive
    exact ⟨chan, ht.references, Context.mem_of_getInput hrecv.input, ack, chan', hrecv, hreceived⟩

end Chain

theorem LedgerTransaction.command_of_received {tx : LedgerTransaction} {p : Packet}
    {ack : Acknowledgement} (h : tx.received? = some (p, ack)) : ∃ msg signers,
      tx.datagramHandlerCommands = [(.handlePacketRecv msg, signers)] ∧ msg.packet = p := by
  unfold received? at h
  split at h
  · rename_i msg signers hd
    obtain ⟨_, -, h⟩ := Option.bind_eq_some_iff.1 h
    obtain ⟨_, -, he⟩ := Option.map_eq_some_iff.1 h
    exact ⟨msg, signers, hd, (Prod.mk.inj he).1⟩
  · cases h

namespace Net

section
variable {P : Platform} {n₀ n n' : Net Side} {tr : List (Side × LedgerTransaction)}

/-- What a host received, its peer sent. -/
def Delivered (tr : List (Side × LedgerTransaction)) : Prop :=
  ∀ s p ack, (p, ack) ∈ receivedPackets (own s tr) → ∃ q ∈ sentPackets (own s.peer tr), q.Agrees p

theorem sentPackets_own {s : Side} {a : Side × LedgerTransaction} {p : Packet}
    (h : p ∈ sentPackets (own s tr)) : p ∈ sentPackets (own s (tr ++ [a])) := by
  unfold own sentPackets at h ⊢
  rw [List.filterMap_append, List.filterMap_append]
  exact List.mem_append_left _ h

theorem receivedPackets_own {s : Side} {tr' : List (Side × LedgerTransaction)}
    {r : Packet × Acknowledgement} (h : r ∈ receivedPackets (own s tr)) :
    r ∈ receivedPackets (own s (tr ++ tr')) := by
  unfold own receivedPackets at h ⊢
  rw [List.filterMap_append, List.filterMap_append]
  exact List.mem_append_left _ h

/-- A host accepts only what its peer has sent. -/
theorem Tracking.sent_of_accepts (hinj : Function.Injective P.sha256) (ht : n.Tracking) {s : Side}
    {tx : LedgerTransaction} (hsound : Sound P n tx) {msg : MsgRecvPacket}
    {signers : List PublicKey} {chan : IbcChannel}
    (hd : tx.datagramHandlerCommands = [(.handlePacketRecv msg, signers)])
    (ha : Chain.AcceptsPacket P (n s) tx msg chan) {log : List LedgerTransaction}
    (hlog : Chain.SendLog log (n s.peer)) :
    ∃ q ∈ sentPackets log, q.Agrees msg.packet := by
  obtain ⟨ack, chan', hrecv, -⟩ := ha.receives
  obtain ⟨conn, client, hopened, hproof⟩ := hrecv.proof
  have hhonest := ht.honest hsound hd ha.references hopened.clientOf.ref
  obtain ⟨t, hmem, hport, hid, q, hl, hcommit⟩ :=
    hhonest.commitment (List.mem_singleton_self _) hproof
  obtain ⟨hsent, hseq, hsrcPort, hsrcChannel⟩ := hlog.packets t hmem _ q hl
  obtain ⟨hdata, hheight, htimestamp⟩ := eq_of_toCommitment_eq hinj hcommit
  exact ⟨q, hsent, hseq, hsrcPort.trans hport, hsrcChannel.trans hid, hdata, hheight, htimestamp⟩

/-- The logs of one host of a net. -/
theorem logs_run {ok : Net Side → Side → LedgerTransaction → Prop} (h₀ : n₀.Start)
    (hr : Run (Step P ok) n₀ tr n) (s : Side) : Chain.Logs (own s tr) (n s) :=
  Chain.Logs.run (h₀ s) (run_own (fun _ _ _ => trivial) hr : Run (Chain.Step P fun _ _ => True) _ _ _)

theorem delivered (hinj : Function.Injective P.sha256) (h₀ : n₀.Start)
    (hr : Run (Step P TracksPeer) n₀ tr n) : Delivered tr := by
  refine hr.invariant (I := fun tr _ => Delivered tr) (fun s p ack hp => by cases hp) ?_
  rintro tr n ⟨t, tx⟩ n' hr hdel hs s p ack hp
  have hold : ∀ p ack, (p, ack) ∈ receivedPackets (own s tr) →
      ∃ q ∈ sentPackets (own s.peer (tr ++ [(t, tx)])), q.Agrees p := fun p ack hp => by
    obtain ⟨q, hq, hagrees⟩ := hdel s p ack hp
    exact ⟨q, sentPackets_own hq, hagrees⟩
  by_cases ht : t = s
  · subst ht
    rw [own_self, receivedPackets_snoc] at hp
    rcases List.mem_append.1 hp with hp | hp
    · exact hold p ack hp
    · obtain ⟨msg, signers, hd, rfl⟩ := LedgerTransaction.command_of_received (Option.mem_toList.1 hp)
      obtain ⟨chan, ha⟩ := Chain.acceptsPacket_of_commit hs.commits hd
      have htrack := Tracking.run h₀ (fun _ _ _ h => h) hr
      obtain ⟨q, hq, hagrees⟩ := htrack.sent_of_accepts hinj hs.sound hd ha (logs_run h₀ hr _).send
      exact ⟨q, sentPackets_own hq, hagrees⟩
  · rw [own_ne ht] at hp
    exact hold p ack hp

section
variable (hinj : Function.Injective P.sha256) (h₀ : n₀.Start)
include hinj h₀

/-- Every packet a host accepts was sent before, from the end that the accepting channel names. -/
theorem exists_sent {tr₁ tr₂ : List (Side × LedgerTransaction)} {s : Side} {tx : LedgerTransaction}
    (hr : Run (Step P TracksPeer) n₀ (tr₁ ++ (s, tx) :: tr₂) n) {msg : MsgRecvPacket}
    {signers : List PublicKey}
    (hd : tx.datagramHandlerCommands = [(.handlePacketRecv msg, signers)]) :
    ∃ chan, ContractState.channel chan ∈ tx.inputStates ∧
      ∃ q ∈ sentFrom chan.end_.counterparty.portId chan.end_.counterparty.channelId (own s.peer tr₁),
        q.Agrees msg.packet := by
  obtain ⟨n₁, n₂, hr₁, hs, -⟩ := hr.exists_step
  obtain ⟨chan, ha⟩ := Chain.acceptsPacket_of_commit hs.commits hd
  obtain ⟨ack, chan', hrecv, -⟩ := ha.receives
  have htrack := Tracking.run h₀ (fun _ _ _ h => h) hr₁
  obtain ⟨q, hq, hagrees⟩ :=
    htrack.sent_of_accepts hinj hs.sound hd ha (logs_run h₀ hr₁ s.peer).send
  have hport : q.sourcePort = chan.end_.counterparty.portId := hagrees.sourcePort.trans hrecv.srcPort
  have hchannel : q.sourceChannel = chan.end_.counterparty.channelId :=
    hagrees.sourceChannel.trans hrecv.srcChannel
  refine ⟨chan, ha.input, q, ?_, hagrees⟩
  exact List.mem_filter.2 ⟨mem_sentOn.2 ⟨hq, hchannel⟩, by simpa using hport⟩

/-- The data accepted on an ordered channel is the front of the data sent. -/
theorem ordered_prefix (hr : Run (Step P TracksPeer) n₀ tr n) {s : Side} {i : Identifier}
    {chan : IbcChannel} (hc : (n s).states.lookup i = some (.channel chan))
    (ho : chan.end_.ordering = .ordered) :
    (receivedOn i.id (own s tr)).map (·.1.data) <+:
      (sentFrom chan.end_.counterparty.portId chan.end_.counterparty.channelId
        (own s.peer tr)).map (·.data) := by
  have hrecv := (logs_run h₀ hr s).recv
  have hsend := (logs_run h₀ hr s.peer).send
  obtain ⟨-, hnumbered⟩ := hrecv.ordered i chan hc ho
  refine hnumbered.parallel (hsend.numbered chan.end_.counterparty.channelId) ?_
  rintro ⟨p, ack⟩ hp
  obtain ⟨hp, hdest⟩ := mem_receivedOn.1 hp
  obtain ⟨q, hq, hagrees⟩ := delivered hinj h₀ hr s p ack hp
  obtain ⟨j, d, hd, hj, -, -, hport, hchannel, -⟩ := hrecv.channel p ack hp
  obtain rfl : i = j := Identifier.ext (hdest.symm.trans hj)
  rw [hc] at hd
  cases hd
  refine ⟨q, mem_sentOn.2 ⟨hq, hagrees.sourceChannel.trans hchannel⟩, hagrees.sequence, hagrees.data, ?_⟩
  simpa using hagrees.sourcePort.trans hport

/-- An acknowledgement that a host accepts is the one its peer recorded on receipt of the packet. -/
theorem ack_recorded {tr₁ tr₂ : List (Side × LedgerTransaction)} {s : Side} {tx : LedgerTransaction}
    (hr : Run (Step P TracksPeer) n₀ (tr₁ ++ (s, tx) :: tr₂) n) {msg : MsgAcknowledgement}
    {signers : List PublicKey} {ack : Acknowledgement} {a b : IbcChannel}
    (hd : tx.datagramHandlerCommands = [(.handlePacketAcknowledgement msg, signers)])
    (hack : P.toAcknowledgement msg.acknowledgement = .ok ack)
    (ha : ContractState.channel a ∈ tx.inputStates)
    (hb : (n s.peer).states.lookup b.id = some (.channel b)) (hab : a.Names b) (hba : b.Names a) :
    (∃ q, (q, ack) ∈ receivedOn b.id.id (own s.peer tr₁) ∧ q.Agrees msg.packet) ∧
    ∀ q ack', (q, ack') ∈ receivedOn b.id.id (own s.peer (tr₁ ++ (s, tx) :: tr₂)) →
      q.sequence = msg.packet.sequence → ack' = ack := by
  obtain ⟨n₁, n₂, hr₁, hs, -⟩ := hr.exists_step
  have htrack := Tracking.run h₀ (fun _ _ _ h => h) hr₁
  obtain ⟨outs, ctx', ht⟩ := Chain.datagram_of_commits hs.commits hd
  have hexec := ht.executes
  cases hexec with
  | @acknowledgePacket _ host port chan chan' module_ ack' outs hhost hport hmodule hack' heffect hacks =>
    rw [hack] at hack'
    cases hack'
    obtain rfl := Context.eq_of_getInput hacks.input ha
    obtain ⟨conn, client, hopened, hproof⟩ := hacks.proof
    have hhonest := htrack.honest hs.sound hd ht.references hopened.clientOf.ref
    obtain ⟨t, hmem, htport, htid, hl⟩ := hhonest.ack (List.mem_singleton_self _) hproof
    obtain ⟨q, hq, hseq, hqport, hqid⟩ := (logs_run h₀ hr₁ s.peer).recv.acks t hmem _ ack hl
    have hdest : q.destinationChannel = b.id.id :=
      hqid.trans (htid.trans (hacks.destChannel.trans hab.channel))
    have hrecorded : ∀ r a', (r, a') ∈ receivedPackets (own s.peer (tr₁ ++ (s, tx) :: tr₂)) →
        r.destinationChannel = b.id.id → r.sourcePort = b.end_.counterparty.portId ∧
          r.sourceChannel = b.end_.counterparty.channelId ∧
          b.acknowledgements.lookup r.sequence = some a' := fun r a' h hid => by
      obtain ⟨j, d, hj, hid', -, -, hport, hchannel, hl⟩ := (logs_run h₀ hr s.peer).recv.channel r a' h
      obtain rfl : b.id = j := Identifier.ext (hid.symm.trans hid')
      rw [hb] at hj
      cases hj
      exact ⟨hport, hchannel, hl⟩
    obtain ⟨hsrcPort, hsrcChannel, hbl⟩ := hrecorded q ack (receivedPackets_own hq) hdest
    refine ⟨⟨q, mem_receivedOn.2 ⟨hq, hdest⟩, ?_⟩, fun q' ack' hq' hseq' => ?_⟩
    · -- the packet received and the one in hand were both sent from this end, under one sequence
      obtain ⟨p, hp, hagrees⟩ := delivered hinj h₀ hr₁ s.peer q ack hq
      rw [Side.peer_peer] at hp
      have hlog := (logs_run h₀ hr₁ s)
      have hcur := ht.inputs _ ha _ rfl
      obtain ⟨hsent, -, hport', hid'⟩ :=
        hlog.send.packets a (hlog.recorded _ a hcur) _ _ hacks.packet
      have hpid : p.sourceChannel = a.id.id :=
        hagrees.sourceChannel.trans (hsrcChannel.trans hba.channel)
      have hsame : p = msg.packet :=
        hlog.send.eq_of_key hp hsent (hpid.trans hid'.symm) (hagrees.sequence.trans hseq)
      subst hsame
      exact ⟨hagrees.sequence.symm, hagrees.sourcePort.symm, hagrees.sourceChannel.symm,
        hagrees.data.symm, hagrees.timeoutHeight.symm, hagrees.timeoutTimestamp.symm⟩
    · obtain ⟨hq', hid'⟩ := mem_receivedOn.1 hq'
      obtain ⟨-, -, hl'⟩ := hrecorded q' ack' hq' hid'
      rw [hseq', ← hseq, hbl] at hl'
      exact (Option.some.inj hl').symm

end

/-- In every run of two hosts that track each other: a packet that is accepted was sent before, from
the end the accepting channel names, with the same sequence, data and timeouts; on an ordered channel
the data accepted is the front of the data sent; and an acknowledgement accepted on an end is the one
its counterparty recorded when it accepted the packet. -/
theorem packets_intact (hinj : Function.Injective P.sha256) (h₀ : n₀.Start)
    (hr : Run (Step P TracksPeer) n₀ tr n) (s : Side) :
    (∀ tr₁ tx tr₂ msg signers, tr = tr₁ ++ (s, tx) :: tr₂ →
      tx.datagramHandlerCommands = [(.handlePacketRecv msg, signers)] →
      ∃ chan, ContractState.channel chan ∈ tx.inputStates ∧
        ∃ q ∈ sentFrom chan.end_.counterparty.portId chan.end_.counterparty.channelId (own s.peer tr₁),
          q.Agrees msg.packet) ∧
    (∀ i chan, (n s).states.lookup i = some (.channel chan) → chan.end_.ordering = .ordered →
      (receivedOn i.id (own s tr)).map (·.1.data) <+:
        (sentFrom chan.end_.counterparty.portId chan.end_.counterparty.channelId
          (own s.peer tr)).map (·.data)) ∧
    ∀ tr₁ tx tr₂ msg signers ack a b, tr = tr₁ ++ (s, tx) :: tr₂ →
      tx.datagramHandlerCommands = [(.handlePacketAcknowledgement msg, signers)] →
      P.toAcknowledgement msg.acknowledgement = .ok ack → ContractState.channel a ∈ tx.inputStates →
      (n s.peer).states.lookup b.id = some (.channel b) → a.Names b → b.Names a →
      (∃ q, (q, ack) ∈ receivedOn b.id.id (own s.peer tr₁) ∧ q.Agrees msg.packet) ∧
      ∀ q ack', (q, ack') ∈ receivedOn b.id.id (own s.peer tr) → q.sequence = msg.packet.sequence →
        ack' = ack := by
  refine ⟨fun tr₁ tx tr₂ msg signers he hd => ?_, fun i chan hc ho => ordered_prefix hinj h₀ hr hc ho,
    fun tr₁ tx tr₂ msg signers ack a b he hd hack ha hb hab hba => ?_⟩
  · subst he
    exact exists_sent hinj h₀ hr hd
  · subst he
    exact ack_recorded hinj h₀ hr hd hack ha hb hab hba

end

/-! ### A transfer over an ordered channel -/

namespace Transferred
open Sample

def orderedEnd (state : ChannelOuterClass.State) (peer : String) : ChannelOuterClass.Channel :=
  { channelEnd state peer with ordering := .ordered }

/-- What the sides show: the handshake, the packet and its acknowledgement. -/
def shown : List (Side × ContractState) := linking ++
  [(.left, .channel (channelOf .left 0 (orderedEnd .init ""))),
    (.right, .channel (channelOf .right 0 (orderedEnd .tryOpen "channel-0"))),
    (.left, .channel (channelOf .left 0 (orderedEnd .opened "channel-0"))),
    (.left, .channel ((channelOf .left 0 (orderedEnd .opened "channel-0")).sent (packetTo "channel-0"))),
    (.right, .channel { channelOf .right 0 (orderedEnd .opened "channel-0") with
      nextSequenceRecv := 2
      acknowledgements := (∅ : Finmap fun _ : Nat => Acknowledgement).insert 1 successAck })]

def P : Platform := netPlatform shown [atoms]

def script : List (Side × Move) := linked ++
  [(.left, initChannel (orderedEnd .init "")), (.right, tryChannel (orderedEnd .init "channel-0") 5),
    (.left, ackChannel 0 "channel-0" 6), (.right, confirmChannel 0 7),
    fund, (.left, transfer 0 0), (.right, receive 0 (packetTo "channel-0") 8),
    (.left, acknowledge 0 (packetTo "channel-0") [1, 1] 9)]

/-- The data received by the second host, and the end of the channel. -/
def outcome (r : List (Side × LedgerTransaction) × Net Side) :
    List Bytes × Option ChannelOuterClass.Channel :=
  ((receivedOn "channel-0" (own .right r.1)).map (·.1.data),
    match (r.2 .right).states.lookup (channel 0) with
    | some (.channel chan) => some chan.end_
    | _ => none)

theorem outcome_script : outcome <$> runNet P sides tracksPeer pair script =
    .ok ([(packetTo "channel-0").data], some (orderedEnd .opened "channel-0")) := by decide +kernel

theorem packets_intact_ordered : ∃ tr n, Run (Step P TracksPeer) pair tr n ∧
    (receivedOn "channel-0" (own .right tr)).map (·.1.data) = [(packetTo "channel-0").data] ∧
    [(packetTo "channel-0").data] <+: (sentFrom "transfer" "channel-0" (own .left tr)).map (·.data) := by
  obtain ⟨⟨tr, n⟩, hrun, hout⟩ := Result.map_ok.1 outcome_script
  have hr : Run (Step P TracksPeer) pair ([] ++ tr) n :=
    run_of_net mem_sides (fun _ _ _ h => tracksPeer_ok h) hrun .nil
  obtain ⟨hdata, hend⟩ := Prod.mk.inj hout
  rcases hl : (n .right).states.lookup (channel 0) with _ | s
  · simp [hl] at hend
  cases s <;> simp only [hl, reduceCtorEq] at hend
  rename_i chan
  have hend : chan.end_ = orderedEnd .opened "channel-0" := Option.some.inj hend
  have hfront := (packets_intact sha256_injective start_pair hr .right).2.1 (channel 0) chan hl
    (by rw [hend]; rfl)
  rw [hend] at hfront
  exact ⟨tr, n, hr, hdata, hdata ▸ hfront⟩

end Transferred

/-! ### A channel that is there twice -/

namespace Doubled
open Sample Transferred

/-- The packets of the first copy of a channel and of the second. -/
def packet (sequence : Nat) (data : Bytes) : Packet :=
  { packetTo "channel-0" with sequence, data }

/-- What the sides show: the handshake, the first copy with its packet, and the second with two. -/
def shown : List (Side × ContractState) := linking ++
  [(.left, .channel (channelOf .left 0 (orderedEnd .init ""))),
    (.right, .channel (channelOf .right 0 (orderedEnd .tryOpen "channel-0"))),
    (.left, .channel (channelOf .left 0 (orderedEnd .opened "channel-0"))),
    (.left, .channel ((channelOf .left 0 (orderedEnd .opened "channel-0")).sent (packet 1 [1]))),
    (.left, .channel (((channelOf .left 0 (orderedEnd .opened "channel-0")).sent (packet 1 [2])).sent
      (packet 2 [3])))]

def P : Platform :=
  { netPlatform shown [] with
    unpackPacket any := entry [packet 1 [1], packet 1 [2], packet 2 [3]] any.value }

/-- Two hosts that bind the transfer port to `NopModule`, and a connection. -/
def linked : List (Side × Proposal) :=
  [createHost .left "jp.datachain.corda.ibc.ics26.NopModule",
    createHost .right "jp.datachain.corda.ibc.ics26.NopModule",
    (createClient 2).on .left [out 1 0] [], (createClient 1).on .right [out 2 0] [],
    connOpenInit.on .left [out 3 0] [out 3 1],
    (tryConnection .right none 2).on .right [out 4 0] [out 4 1],
    (ackConnection .left 0 "connection-0" 3).on .left [out 5 1] [out 5 0, out 3 1],
    (confirmConnection 0 4).on .right [out 6 1] [out 6 0, out 4 1]]

/-- A `HandleClientCreate` that puts out the host twice, and no client. -/
def hostTwice : Move :=
  { createClient 2 with outputs := fun outs => outs.take 1 ++ outs.take 1 }

/-- From either copy of the host the first one starts a channel, under one identifier. The second host
answers once, and both copies take the answer. -/
def opened : List (Side × Proposal) :=
  [hostTwice.on .left [out 5 0] [], (initChannel (orderedEnd .init "")).on .left [out 9 0] [out 7 0],
    (initChannel (orderedEnd .init "")).on .left [out 9 1] [out 7 0],
    (tryChannel (orderedEnd .init "channel-0") 5).on .right [out 6 0] [out 8 0, out 4 1],
    (ackChannel 0 "channel-0" 6).on .left [out 10 1] [out 10 0, out 7 0, out 3 1],
    (ackChannel 0 "channel-0" 6).on .left [out 11 1] [out 11 0, out 7 0, out 3 1],
    (confirmChannel 0 7).on .right [out 12 1] [out 12 0, out 8 0, out 4 1]]

/-- One copy sends a packet, the other two. The first packet of the one is received, then the second of
the other. -/
def sent : List (Side × Proposal) :=
  [(transfer 0 0).on .left [out 13 0] [out 10 0, out 7 0, out 3 1],
    (transfer 0 1).on .left [out 14 0] [out 11 0, out 7 0, out 3 1],
    (transfer 0 2).on .left [out 17 0] [out 11 0, out 7 0, out 3 1],
    (receive 0 (packet 1 [1]) 8).on .right [out 15 0] [out 12 0, out 8 0, out 4 1],
    (receive 0 (packet 2 [3]) 9).on .right [out 19 0] [out 12 0, out 8 0, out 4 1]]

/-- The data received and sent, and the receiving channel. -/
def outcome (r : List (Side × LedgerTransaction) × Ledgers) :
    List Bytes × List Bytes × Option (Identifier × ChannelOuterClass.Channel) :=
  ((receivedOn "channel-0" (own .right r.1)).map (·.1.data),
    (sentFrom "transfer" "channel-0" (own .left r.1)).map (·.data),
    match (r.2.ledger .right).states.lookup (out 20 0) with
    | some ⟨.channel chan, _⟩ => some (chan.id, chan.end_)
    | _ => none)

theorem outcome_script : outcome <$> runLedgers P 1 ledgers (linked ++ opened ++ sent) =
    .ok ([[1], [3]], [[1], [2], [3]], some (channel 0, orderedEnd .opened "channel-0")) := by
  decide +kernel

/-- Two ledgers with hosts that track each other, and an ordered channel on which the first and the third
packet sent are received: the sending end was there twice. -/
theorem accepted_not_prefix : ∃ tr w r m chan, ledgers.Start ∧ Function.Injective P.sha256 ∧
    Run (Ledgers.Step P (fun _ => True) ids) ledgers tr w ∧
    (w.ledger .right).states.lookup r = some ⟨.channel chan, m⟩ ∧
    chan.end_.ordering = .ordered ∧
    ¬ (receivedOn chan.id.id (own .right tr)).map (·.1.data) <+:
      (sentFrom chan.end_.counterparty.portId chan.end_.counterparty.channelId
        (own .left tr)).map (·.data) := by
  obtain ⟨⟨tr, w⟩, hrun, hout⟩ := Result.map_ok.1 outcome_script
  have hr : Run (Ledgers.Step P (fun _ => True) ids) ledgers ([] ++ tr) w := run_of_ledgers hrun .nil
  obtain ⟨hreceived, hout⟩ := Prod.mk.inj hout
  obtain ⟨hsent, hend⟩ := Prod.mk.inj hout
  rcases hl : (w.ledger .right).states.lookup (out 20 0) with _ | ⟨s, m⟩
  · simp [hl] at hend
  cases s <;> simp only [hl, reduceCtorEq] at hend
  rename_i chan
  obtain ⟨hid, hend⟩ := Prod.mk.inj (Option.some.inj hend)
  refine ⟨tr, w, _, m, chan, start_ledgers, sha256_injective, hr, hl, by rw [hend]; rfl, fun hfront => ?_⟩
  rw [hid, hend] at hfront
  have hfront : (outcome (tr, w)).1 <+: (outcome (tr, w)).2.1 := hfront
  rw [show (outcome (tr, w)).1 = _ from hreceived, show (outcome (tr, w)).2.1 = _ from hsent] at hfront
  exact absurd hfront (by decide)

end Doubled

end Net

end CordaIbc
