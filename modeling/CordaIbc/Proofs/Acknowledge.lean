import CordaIbc.Proofs.Delivery
import CordaIbc.Proofs.Linked

/-!
# Acknowledgements that can be taken

A packet may be sent before its channel knows the counterparty, and is delivered whatever channel it
names; but its acknowledgement is taken only when the packet that was stored names the counterparty of
the open channel (`Net.acknowledgement_taken_iff`). It always does when no `chanOpenAck` turns a
channel away from the packets it has sent, and no `chanOpenTry` starts one over (`KeepsAddress`).
-/

namespace CordaIbc

open ChannelOuterClass (Packet Acknowledgement)
open ContractState StateClass

namespace Chain

/-- On states of the host as they are, some packet message has the acknowledgement of a sequence
taken, and the packet removed. -/
def TakesAck (P : Platform) (c : Chain) (a : IbcChannel) (k : Nat) (ack : Acknowledgement)
    (proof : CommitmentProof) : Prop :=
  ∃ ins refs packet height ctx' a',
    (∀ t ∈ ins ++ refs, ∀ i, t.id? = some i → c.states.lookup i = some t) ∧
    ContractState.channel a ∈ ins ∧ packet.sequence = k ∧
    Handler.acknowledgePacket P (.create ins refs) packet ack proof height = .ok ctx' ∧
    ContractState.channel a' ∈ ctx'.outStates.states ∧ k ∉ a'.packets

/-- The connection and the client of a channel. -/
structure Over (c : Chain) (a : IbcChannel) (conn : IbcConnection) (client : IbcClientState) :
    Prop where
  currentConnection : c.states.lookup conn.id = some (.connection conn)
  hops : a.end_.connectionHopsList = [conn.id.id]
  currentClient : c.states.lookup client.id = some (.client client)
  clientId : client.id.id = conn.end_.clientId

/-- The packets of every channel go to the port of its counterparty. -/
def Addressed (c : Chain) : Prop :=
  ∀ i chan, c.states.lookup i = some (.channel chan) → ∀ k p, chan.packets.lookup k = some p →
    p.destinationPort = chan.end_.counterparty.portId

section
variable {P : Platform} {c : Chain} {tx : LedgerTransaction} {outs : List ContractState}
  {tr : List LedgerTransaction} {a : IbcChannel} {k : Nat} {ack : Acknowledgement}
  {proof : CommitmentProof}

theorem Addressed.step (h : c.Addressed) (hs : ChannelStep P c tx) : (c.apply tx).Addressed := by
  intro i chan hl
  cases hs with
  | leaves _ hleaves => exact h i chan ((hleaves.lookup i chan).1 hl)
  | @creates _ _ _ chan' _ _ _ _ _ hcreation hwrites =>
    by_cases hi : i = chan'.id
    · subst hi
      rw [hwrites.self] at hl
      cases hl
      intro k p hp
      rw [hcreation.new.packets, Finmap.lookup_empty] at hp
      cases hp
    · exact h i chan ((hwrites.other i hi chan).1 hl)
  | @changes _ _ _ prev chan' _ _ _ _ _ hcur hchange hwrites =>
    by_cases hi : i = chan'.id
    · subst hi
      rw [hwrites.self] at hl
      cases hl
      intro k p hp
      rw [hchange.counterpartyPort]
      obtain ⟨-, hold | ⟨_, _, _, _, -, -, -, -, hsend, -⟩⟩ := hchange.packet_cases hp
      · exact h _ prev hcur k p hold
      · exact hsend.destPort
    · exact h i chan ((hwrites.other i hi chan).1 hl)

theorem Addressed.run {ok : Chain → LedgerTransaction → Prop} {c₀ : Chain} (h₀ : c₀.Start)
    (hr : Run (Step P ok) c₀ tr c) : c.Addressed := by
  refine hr.invariant (I := fun _ c => c.Addressed)
    (fun i chan hl => absurd (h₀.recorded i chan hl) (h₀.noChannel chan)) ?_
  rintro tr c tx c' hr h ⟨-, hc⟩
  obtain ⟨rfl, outs, ht⟩ := commit_ok hc
  exact h.step ((Inv.run h₀.inv hr).channelStep ht)

/-- A message that is accepted is the packet stored, and that names the counterparty. -/
theorem TakesAck.stored (h : TakesAck P c a k ack proof) : ∃ p, a.packets.lookup k = some p ∧
    p.destinationChannel = a.end_.counterparty.channelId := by
  obtain ⟨ins, refs, packet, height, ctx', a', -, ha, rfl, hexec, -⟩ := h
  let msg : MsgAcknowledgement :=
    { packet, acknowledgement := [], proofAcked := proof.bytes, proofHeight := height }
  obtain ⟨chan, chan', hacks, -⟩ := @Handler.acknowledgePacket_ok P _ _ msg proof ack rfl hexec
  obtain rfl := Context.eq_of_getInput hacks.input ha
  exact ⟨packet, hacks.packet, hacks.destChannel⟩

/-- The packet stored is accepted, when it names the counterparty and that shows the acknowledgement. -/
theorem takesAck_of_stored {host : Host} {conn : IbcConnection} {client : IbcClientState}
    {cs : CordaClientState} {b : IbcChannel} {p : Packet}
    (hhost : c.states.lookup hostId = some (.host host))
    (ha : c.states.lookup a.id = some (.channel a)) (hopen : a.end_.state = .opened)
    (hover : Over c a conn client) (hconn : conn.end_.state = .opened)
    (hdelay : conn.end_.delayPeriod = 0) (himpl : client.impl = .corda cs)
    (hproof : cs.Proves P proof b) (hack : b.acknowledgements.lookup k = some ack) (hab : a.Names b)
    (hp : a.packets.lookup k = some p) (hsequence : p.sequence = k)
    (hsrcPort : p.sourcePort = a.portId.id) (hsrcChannel : p.sourceChannel = a.id.id)
    (hdestPort : p.destinationPort = a.end_.counterparty.portId)
    (hdestChannel : p.destinationChannel = a.end_.counterparty.channelId)
    (hordered : a.end_.ordering = .ordered → k = a.nextSequenceAck) : TakesAck P c a k ack proof := by
  subst hsequence
  let ctx : Context := .create [.channel a] [.host host, .connection conn, .client client]
  obtain ⟨a', hsettle⟩ : ∃ a', Handler.acknowledgePacket.settle a p = .ok a' := by
    unfold Handler.acknowledgePacket.settle
    split
    · rename_i ho
      exact ⟨_, Result.bind_ok.2 ⟨(), require_ok.2 (hordered ho), rfl⟩⟩
    · exact ⟨a, rfl⟩
  obtain ⟨ctx', hadd⟩ : ∃ ctx', ctx.addOutput { a' with packets := a'.packets.erase p.sequence } =
      .ok ctx' := Context.exists_addOutput fun t hm => by cases hm
  have hverify : client.impl.verifyPacketAcknowledgement P HEIGHT conn.end_.delayPeriod 0
      conn.end_.counterparty.prefix_ proof b.portId b.id p.sequence ack = .ok () := by
    have hv : cs.verifyPacketAcknowledgement P HEIGHT conn.end_.delayPeriod 0
        conn.end_.counterparty.prefix_ proof b.portId b.id p.sequence ack = .ok () :=
      CordaClientState.verifyPacketAcknowledgement_ok.2 ⟨rfl, hdelay, rfl, b, hproof, rfl, rfl, hack⟩
    rw [himpl]
    exact hv
  refine ⟨[.channel a], [.host host, .connection conn, .client client], p, HEIGHT, ctx',
    { a' with packets := a'.packets.erase p.sequence }, ?_, List.mem_singleton_self _, rfl, ?_, ?_,
    Finmap.notMem_erase_self⟩
  · intro t hm i hi
    simp only [List.singleton_append, List.mem_cons, List.not_mem_nil, or_false] at hm
    rcases hm with rfl | rfl | rfl | rfl <;> cases hi
    · exact ha
    · exact hhost
    · exact hover.currentConnection
    · exact hover.currentClient
  · simp only [Handler.acknowledgePacket, Result.bind_ok, require_ok, requireId_ok, single_ok,
      Identifier.of_ok, notNull_ok]
    exact ⟨host, rfl, a, rfl, (), hsrcPort.symm, (), hsrcChannel.symm, conn, rfl, conn.id.id, hover.hops,
      (), rfl, client, rfl, (), hover.clientId, (), hopen, (), hdestPort, (), hdestChannel, (), hconn, (),
      Finmap.mem_of_lookup_eq_some hp, p, hp, (), rfl, b.portId, (hdestPort.trans hab.port).symm, b.id,
      (hdestChannel.trans hab.channel).symm, (), hverify, a', hsettle, hadd⟩
  · rw [(Context.addOutput_ibc rfl hadd).2.outStates]
    exact List.mem_append_right _ (List.mem_singleton_self _)

end

/-! ### Packets that stay addressed to the counterparty -/

/-- A run of a host acknowledged a packet of a channel. -/
def Acked (tr : List LedgerTransaction) (channel : String) (k : Nat) : Prop :=
  ∃ tx ∈ tr, ∃ msg signers,
    tx.datagramHandlerCommands = [(.handlePacketAcknowledgement msg, signers)] ∧
    msg.packet.sourceChannel = channel ∧ msg.packet.sequence = k

/-- A `chanOpenTry` starts no channel over that has packets, and a `chanOpenAck` names the channel
that the packets sent so far go to. -/
def KeepsAddress (tx : LedgerTransaction) : Prop :=
  ∀ chan handler signers, ContractState.channel chan ∈ tx.inputStates →
    tx.datagramHandlerCommands = [(handler, signers)] →
    (∀ msg, handler = .handleChanOpenTry msg → chan.packets = ∅) ∧
    ∀ msg, handler = .handleChanOpenAck msg → ∀ k p, chan.packets.lookup k = some p →
      p.destinationChannel = msg.counterpartyChannelId

/-- The packets sent and not acknowledged are stored, and go to the counterparty. -/
structure Pending (tr : List LedgerTransaction) (c : Chain) : Prop where
  destination : ∀ i chan, c.states.lookup i = some (.channel chan) →
    ∀ k p, chan.packets.lookup k = some p →
      p.destinationChannel = chan.end_.counterparty.channelId
  stored : ∀ i chan, c.states.lookup i = some (.channel chan) → ∀ p ∈ sentOn i.id tr,
    chan.packets.lookup p.sequence = some p ∨ Acked tr i.id p.sequence

section
variable {P : Platform} {c : Chain} {tx : LedgerTransaction} {outs : List ContractState}
  {tr : List LedgerTransaction} {handler : DatagramHandler} {signers : List PublicKey}
  {chan chan' : IbcChannel}

theorem Acked.snoc {channel : String} {k : Nat} (h : Acked tr channel k) :
    Acked (tr ++ [tx]) channel k := by
  obtain ⟨tx', hm, hrest⟩ := h
  exact ⟨tx', List.mem_append_left _ hm, hrest⟩

/-- What a change leaves of the packets, if it keeps their address. -/
theorem Pending.change (h : Pending tr c) (hlog : SendLog tr c)
    (hcur : c.states.lookup chan'.id = some (.channel chan)) (hid : chan'.id = chan.id)
    (hd : tx.datagramHandlerCommands = [(handler, signers)]) (hout : tx.channelOut? = some chan')
    (hin : ContractState.channel chan ∈ tx.inputStates) (hok : KeepsAddress tx)
    (hchange : IbcChannel.Change P (.create tx.inputStates tx.referenceStates) signers handler chan
      chan') :
    (∀ k p, chan'.packets.lookup k = some p →
      p.destinationChannel = chan'.end_.counterparty.channelId) ∧
    ∀ p ∈ sentOn chan'.id.id (tr ++ [tx]),
      chan'.packets.lookup p.sequence = some p ∨ Acked (tr ++ [tx]) chan'.id.id p.sequence := by
  obtain ⟨htry, hack⟩ := hok chan handler signers hin hd
  have hdest := h.destination _ _ hcur
  have hstored : ∀ p ∈ sentOn chan'.id.id tr, chan.packets.lookup p.sequence = some p ∨
      Acked (tr ++ [tx]) chan'.id.id p.sequence := fun p hp =>
    (h.stored _ _ hcur p hp).imp_right Acked.snoc
  have hquiet : (∀ anyMsg, handler ≠ .createOutgoingPacket anyMsg) →
      sentOn chan'.id.id (tr ++ [tx]) = sentOn chan'.id.id tr := fun hne =>
    sentOn_snoc_none (IbcChannel.sent_eq_none_of_ne hd hne)
  cases hchange with
  | tryPrevious =>
    refine ⟨fun k p hp => ?_, fun p hp => ?_⟩
    · have hp : (∅ : Finmap fun _ : Nat => Packet).lookup k = some p := hp
      rw [Finmap.lookup_empty] at hp
      cases hp
    · rw [hquiet (by simp)] at hp
      rcases hstored p hp with hl | ha
      · rw [htry _ rfl, Finmap.lookup_empty] at hl
        cases hl
      · exact .inr ha
  | ack =>
    refine ⟨fun k p hp => hack _ rfl k p hp, fun p hp => ?_⟩
    rw [hquiet (by simp)] at hp
    exact hstored p hp
  | confirm | closeInit | closeConfirm =>
    refine ⟨hdest, fun p hp => ?_⟩
    rw [hquiet (by simp)] at hp
    exact hstored p hp
  | recv hrecv =>
    have hpackets : chan'.packets = chan.packets := by
      rcases receive_cases hrecv.receive with ⟨-, -, rfl⟩ | ⟨-, -, rfl⟩ <;> rfl
    rw [receive_end hrecv.receive, hpackets]
    refine ⟨hdest, fun p hp => ?_⟩
    rw [hquiet (by simp)] at hp
    exact hstored p hp
  | @send _ _ _ packet _ _ _ _ _ hsend =>
    refine ⟨fun k p hp => ?_, fun p hp => ?_⟩
    · by_cases hk : k = packet.sequence
      · subst hk
        rw [IbcChannel.sent, Finmap.lookup_insert] at hp
        cases hp
        exact hsend.destChannel
      · rw [IbcChannel.sent, Finmap.lookup_insert_of_ne _ hk] at hp
        exact hdest k p hp
    · rcases mem_sentOn_snoc hp with hp | hp
      · -- an earlier packet has another sequence
        have hne : p.sequence ≠ packet.sequence := by
          obtain ⟨hlt, -, -⟩ := (hlog.numbered _).exists_getElem hp
          have hnext := hlog.next _ _ hcur
          have hsequence := hsend.sequence
          omega
        rw [IbcChannel.sent, Finmap.lookup_insert_of_ne _ hne]
        exact hstored p hp
      · rw [IbcChannel.sent_of_createOutgoingPacket hd hout hsend.sequence] at hp
        cases hp
        exact .inl (Finmap.lookup_insert _)
  | @settle msg _ _ _ hacks =>
    obtain ⟨n, rfl⟩ := settle_eq hacks.settle
    have herase : ∀ k, k ≠ msg.packet.sequence →
        (chan.packets.erase msg.packet.sequence).lookup k = chan.packets.lookup k :=
      fun k hk => Finmap.lookup_erase_ne hk
    refine ⟨fun k p hp => ?_, fun p hp => ?_⟩
    · have hk : k ≠ msg.packet.sequence := by
        rintro rfl
        rw [IbcChannel.settled, Finmap.lookup_erase] at hp
        cases hp
      exact hdest k p ((herase k hk).symm.trans hp)
    · rw [hquiet (by simp)] at hp
      by_cases hk : p.sequence = msg.packet.sequence
      · exact .inr ⟨tx, List.mem_append_right _ (List.mem_singleton_self _), msg, signers, hd,
          hacks.channel.symm, hk.symm⟩
      · exact (hstored p hp).imp_left (herase _ hk).trans

theorem Pending.step (h : Pending tr c) (hlog : SendLog tr c) (hok : KeepsAddress tx)
    (hs : ChannelStep P c tx) : Pending (tr ++ [tx]) (c.apply tx) := by
  have hkeep : ∀ i chan, c.states.lookup i = some (.channel chan) →
      (∀ p ∈ sentOn i.id (tr ++ [tx]), p ∈ sentOn i.id tr) → ∀ p ∈ sentOn i.id (tr ++ [tx]),
      chan.packets.lookup p.sequence = some p ∨ Acked (tr ++ [tx]) i.id p.sequence :=
    fun i chan hl hsent p hp => (h.stored i chan hl p (hsent p hp)).imp_right Acked.snoc
  cases hs with
  | leaves hout hleaves =>
    refine ⟨fun i chan hl => ?_, fun i chan hl => ?_⟩
    · exact h.destination i chan ((hleaves.lookup i chan).1 hl)
    · refine hkeep i chan ((hleaves.lookup i chan).1 hl) fun p hp => ?_
      rwa [sentOn_snoc_none (LedgerTransaction.sent_eq_none hout)] at hp
  | @creates _ _ _ chan' hruns _ hcont _ hnew hcreation hwrites =>
    have hnone := (LedgerTransaction.log_of_creates hruns.command hcont).1
    refine ⟨fun i chan hl => ?_, fun i chan hl => ?_⟩
    · by_cases hi : i = chan'.id
      · subst hi
        rw [hwrites.self] at hl
        cases hl
        intro k p hp
        rw [hcreation.new.packets, Finmap.lookup_empty] at hp
        cases hp
      · exact h.destination i chan ((hwrites.other i hi chan).1 hl)
    · by_cases hi : i = chan'.id
      · subst hi
        intro p hp
        rw [sentOn_snoc_none hnone, hlog.sentOn_eq_nil hnew] at hp
        cases hp
      · refine hkeep i chan ((hwrites.other i hi chan).1 hl) fun p hp => ?_
        rwa [sentOn_snoc_none hnone] at hp
  | @changes _ _ _ prev chan' hruns _ _ hout hinput hcur hchange hwrites =>
    have hid : chan'.id = prev.id := hchange.id
    obtain ⟨hdest, hstored⟩ := h.change hlog hcur hid hruns.command hout
      (Context.mem_of_getInput hinput) hok hchange
    refine ⟨fun i chan hl => ?_, fun i chan hl => ?_⟩
    · by_cases hi : i = chan'.id
      · subst hi
        rw [hwrites.self] at hl
        cases hl
        exact hdest
      · exact h.destination i chan ((hwrites.other i hi chan).1 hl)
    · by_cases hi : i = chan'.id
      · subst hi
        rw [hwrites.self] at hl
        cases hl
        exact hstored
      · refine hkeep i chan ((hwrites.other i hi chan).1 hl) fun p hp => ?_
        rcases mem_sentOn_snoc hp with hp' | hsent
        · exact hp'
        · have hsource : p.sourceChannel = chan'.id.id := by
            have hstep := hchange.logStep hruns.command hout
            rw [hsent] at hstep
            generalize tx.received? = r at hstep
            cases hstep with
            | sends _ _ hchannel => exact hchannel.symm
          exact absurd (Identifier.ext ((mem_sentOn.1 hp).2.symm.trans hsource)) hi

theorem Pending.run {c₀ : Chain} (h₀ : c₀.Start)
    (hr : Run (Step P fun _ tx => KeepsAddress tx) c₀ tr c) : Pending tr c := by
  refine hr.invariant (I := Pending) ?_ ?_
  · exact ⟨fun i chan hl => absurd (h₀.recorded i chan hl) (h₀.noChannel chan),
      fun i chan hl => absurd (h₀.recorded i chan hl) (h₀.noChannel chan)⟩
  · rintro tr c tx c' hr h ⟨hok, hc⟩
    obtain ⟨rfl, outs, ht⟩ := commit_ok hc
    have hlogs := Logs.run h₀ hr
    exact h.step hlogs.send hok (hlogs.inv.channelStep ht)

end

end Chain

namespace Net

/-- An open end waits for an acknowledgement that its open counterparty holds. -/
structure Awaits (n : Net Side) (s : Side) (a b : IbcChannel) (k : Nat) (ack : Acknowledgement) :
    Prop extends Paired n s a b where
  holds : b.acknowledgements.lookup k = some ack
  next : a.end_.ordering = .ordered → k = a.nextSequenceAck

section
variable {P : Platform} {n₀ n : Net Side} {tr : List (Side × LedgerTransaction)} {s : Side}
  {a b : IbcChannel} {k : Nat} {ack : Acknowledgement} {proof : CommitmentProof}

/-- A packet stored for the counterparty is accepted. -/
theorem Awaits.takesAck (h₀ : n₀.Start) (hr : Run (Step P TracksPeer) n₀ tr n)
    (h : Awaits n s a b k ack) (hproof : ∀ conn client, (n s).Over a conn client →
      conn.end_.delayPeriod = 0 ∧ ∀ cs, client.impl = .corda cs → cs.Proves P proof b)
    {p : Packet} (hp : a.packets.lookup k = some p) (hdest : p.destinationChannel = b.id.id) :
    (n s).TakesAck P a k ack proof := by
  have hown : Run (Chain.Step P fun _ _ => True) (n₀ s) (own s tr) (n s) :=
    run_own (fun _ _ _ => trivial) hr
  have hlogs := logs_run h₀ hr s
  have hlinked := Chain.Linked.run (h₀ s) hown
  obtain ⟨host, hhost, -⟩ := hlogs.inv.owned
  obtain ⟨conn, hconn, hhops, hopen⟩ := hlinked.channel _ a h.current h.opened
  obtain ⟨client, hclient, hid⟩ := hlinked.connection _ conn hconn
  have hover : (n s).Over a conn client := ⟨hconn, hhops, hclient, hid⟩
  obtain ⟨hdelay, hproves⟩ := hproof conn client hover
  obtain ⟨cs, himpl, -⟩ := (Tracking.run h₀ (fun _ _ _ h => h) hr).client s _ client hclient
  obtain ⟨-, hsequence, hsrcPort, hsrcChannel⟩ :=
    hlogs.send.packets a (hlogs.recorded _ a h.current) k p hp
  exact Chain.takesAck_of_stored hhost h.current h.opened hover hopen hdelay himpl (hproves cs himpl)
    h.holds h.names hp hsequence hsrcPort hsrcChannel
    (Chain.Addressed.run (h₀ s) hown _ a h.current k p hp) (hdest.trans h.names.channel.symm) h.next

/-- In every state that two hosts reach, an open end can take an acknowledgement that its counterparty
holds exactly when the packet is stored as one for that counterparty. In a run whose every step keeps
the address of the packets, it can take that of every packet sent and not acknowledged. -/
theorem acknowledgement_taken_iff (h₀ : n₀.Start) (hr : Run (Step P TracksPeer) n₀ tr n)
    (h : Awaits n s a b k ack) (hproof : ∀ conn client, (n s).Over a conn client →
      conn.end_.delayPeriod = 0 ∧ ∀ cs, client.impl = .corda cs → cs.Proves P proof b) :
    ((n s).TakesAck P a k ack proof ↔
      ∃ p, a.packets.lookup k = some p ∧ p.destinationChannel = b.id.id) ∧
    (Run (Step P fun n s tx => TracksPeer n s tx ∧ Chain.KeepsAddress tx) n₀ tr n →
      ∀ p ∈ sentOn a.id.id (own s tr), p.sequence = k → ¬ Chain.Acked (own s tr) a.id.id k →
        (n s).TakesAck P a k ack proof) := by
  refine ⟨⟨fun htakes => ?_, fun ⟨p, hp, hdest⟩ => h.takesAck h₀ hr hproof hp hdest⟩,
    fun hkeeps p hp hk hacked => ?_⟩
  · obtain ⟨p, hp, hdest⟩ := htakes.stored
    exact ⟨p, hp, hdest.trans h.names.channel⟩
  · have hpending : Chain.Pending (own s tr) (n s) :=
      Chain.Pending.run (h₀ s) (run_own (fun _ _ hok => hok.2) hkeeps)
    subst hk
    have hl := (hpending.stored _ a h.current p hp).resolve_right hacked
    exact h.takesAck h₀ hr hproof hl
      ((hpending.destination _ a h.current _ p hl).trans h.names.channel)

end

/-! ### A packet sent before its channel is open -/

namespace EarlyPacket
open Sample

def P (channel : String) : Platform := netPlatform (transferring channel) [atoms]

/-- The packet is sent before the other host is known. -/
def early : List (Side × Move) := linked ++
  [(.left, initChannel (channelEnd .init "")), fund, (.left, transfer 0 0),
    (.right, tryChannel (channelEnd .init "channel-0") 5), (.left, ackChannel 0 "channel-0" 6),
    (.right, confirmChannel 0 8), (.right, receive 0 (packetTo "channel-0") 8)]

/-- No handshake step consumes a channel that has packets. -/
def untouched (tx : LedgerTransaction) : Bool :=
  tx.inputStates.all fun
    | .channel chan => tx.datagramHandlerCommands.all fun
      | (.handleChanOpenTry _, _) | (.handleChanOpenAck _, _) => chan.packets = ∅
      | _ => true
    | _ => true

theorem keepsAddress_of_untouched {tx : LedgerTransaction} (h : untouched tx = true) :
    Chain.KeepsAddress tx := by
  intro chan handler signers hm hd
  have hall := List.all_eq_true.1 h _ hm
  simp only [hd, List.all_cons, List.all_nil, Bool.and_true] at hall
  refine ⟨fun msg hmsg => ?_, fun msg hmsg k p hp => ?_⟩
  · subst hmsg
    exact of_decide_eq_true hall
  · subst hmsg
    rw [of_decide_eq_true hall, Finmap.lookup_empty] at hp
    cases hp

def careful (n : Net Side) (s : Side) (tx : LedgerTransaction) : Bool :=
  tracksPeer n s tx && untouched tx

/-- The channels, what the first runs over, what it sent, and that it acknowledged nothing. -/
def outcome (r : List (Side × LedgerTransaction) × Net Side) :
    List (Option ContractState) × List Packet × Bool :=
  ([(r.2 .left).states.lookup (channel 0), (r.2 .right).states.lookup (channel 0),
      (r.2 .left).states.lookup (connection 0), (r.2 .left).states.lookup hostClient],
    sentOn "channel-0" (own .left r.1),
    (own .left r.1).all fun tx => tx.datagramHandlerCommands.all fun
      | (.handlePacketAcknowledgement _, _) => false
      | _ => true)

def reached (channel : String) : List (Option ContractState) × List Packet × Bool :=
  ([some (.channel (sender channel)), some (.channel receiver),
      some (.connection (connectionOf .left .opened "connection-0")),
      some (.client (liveClientOf .left))],
    [packetTo channel], true)

def proof : CommitmentProof := ⟨[9], nofun⟩

theorem outcome_early : outcome <$> runNet (P "") sides tracksPeer pair early = .ok (reached "") := by
  decide +kernel

theorem outcome_late : outcome <$> runNet (P "channel-0") sides careful pair transferred =
    .ok (reached "channel-0") := by decide +kernel

section
variable {channel : String} {tr : List (Side × LedgerTransaction)} {n : Net Side}

theorem awaits (h : outcome (tr, n) = reached channel) :
    Awaits n .left (sender channel) receiver 1 successAck := by
  have hstates := congrArg Prod.fst h
  simp only [outcome, reached, List.cons.injEq] at hstates
  obtain ⟨hleft, hright, -⟩ := hstates
  exact ⟨⟨hleft, hright, rfl, rfl, ⟨rfl, rfl⟩, ⟨rfl, rfl⟩⟩, rfl, nofun⟩

/-- Every connection and client the channel can use accept the proof of the second host's channel. -/
theorem proves (h : outcome (tr, n) = reached channel) (conn : IbcConnection)
    (client : IbcClientState) (hover : (n .left).Over (sender channel) conn client) :
    conn.end_.delayPeriod = 0 ∧ ∀ cs, client.impl = .corda cs →
      cs.Proves (P channel) proof receiver := by
  have hstates := congrArg Prod.fst h
  simp only [outcome, reached, List.cons.injEq] at hstates
  obtain ⟨-, -, hconn, hclient, -⟩ := hstates
  have hconnId : conn.id = connection 0 :=
    Identifier.ext (List.cons.inj hover.hops).1.symm
  have hconn' := hover.currentConnection
  rw [hconnId, hconn] at hconn'
  cases hconn'
  have hclientId : client.id = hostClient := Identifier.ext hover.clientId
  have hclient' := hover.currentClient
  rw [hclientId, hclient] at hclient'
  cases hclient'
  refine ⟨rfl, fun cs himpl => ?_⟩
  cases himpl
  exact ⟨rfl, rfl, _, rfl, rfl⟩

theorem sent (h : outcome (tr, n) = reached channel) :
    packetTo channel ∈ sentOn "channel-0" (own .left tr) := by
  have hsent : sentOn "channel-0" (own .left tr) = [packetTo channel] := congrArg (·.2.1) h
  rw [hsent]
  exact List.mem_singleton_self _

theorem not_acked (h : outcome (tr, n) = reached channel) :
    ¬ Chain.Acked (own .left tr) "channel-0" 1 := by
  rintro ⟨tx, hm, msg, signers, hd, -⟩
  have hall := List.all_eq_true.1 (congrArg (·.2.2) h) tx hm
  rw [hd] at hall
  cases hall

end

/-- The second host acknowledged the packet, which went to no channel when it was sent; no message
has the acknowledgement taken. -/
theorem acknowledgement_stuck : ∃ tr n, Run (Step (P "") TracksPeer) pair tr n ∧
    Awaits n .left (sender "") receiver 1 successAck ∧
    (∀ conn client, (n .left).Over (sender "") conn client → conn.end_.delayPeriod = 0 ∧
      ∀ cs, client.impl = .corda cs → cs.Proves (P "") proof receiver) ∧
    packetTo "" ∈ sentOn "channel-0" (own .left tr) ∧
    ¬ Chain.Acked (own .left tr) "channel-0" 1 ∧
    ∀ anyProof, ¬ (n .left).TakesAck (P "") (sender "") 1 successAck anyProof := by
  obtain ⟨⟨tr, n⟩, hrun, hout⟩ := Result.map_ok.1 outcome_early
  have hr : Run (Step (P "") TracksPeer) pair ([] ++ tr) n :=
    run_of_net mem_sides (fun _ _ _ h => tracksPeer_ok h) hrun .nil
  refine ⟨tr, n, hr, awaits hout, proves hout, sent hout, not_acked hout, ?_⟩
  intro anyProof htakes
  obtain ⟨p, hp, hdest⟩ := htakes.stored
  have hp : some (packetTo "") = some p := hp
  cases hp
  exact absurd hdest (by decide)

/-- Sent to the open channel, it is taken. -/
theorem acknowledgement_taken : ∃ n : Net Side,
    (n .left).TakesAck (P "channel-0") (sender "channel-0") 1 successAck proof := by
  obtain ⟨⟨tr, n⟩, hrun, hout⟩ := Result.map_ok.1 outcome_late
  have hr : Run (Step (P "channel-0") fun n s tx => TracksPeer n s tx ∧ Chain.KeepsAddress tx) pair
      ([] ++ tr) n := by
    refine run_of_net mem_sides (fun n s tx h => ?_) hrun .nil
    obtain ⟨htracks, huntouched⟩ := Bool.and_eq_true_iff.1 h
    exact ⟨tracksPeer_ok htracks, keepsAddress_of_untouched huntouched⟩
  have hr' : Run (Step (P "channel-0") TracksPeer) pair ([] ++ tr) n :=
    hr.mono fun _ _ _ h => ⟨h.ok.1, h.sound, h.distinct, h.commit, h.other⟩
  exact ⟨n, (acknowledgement_taken_iff start_pair hr' (awaits hout) (proves hout)).2 hr
    (packetTo "channel-0") (sent hout) rfl (not_acked hout)⟩

end EarlyPacket

end Net

end CordaIbc
