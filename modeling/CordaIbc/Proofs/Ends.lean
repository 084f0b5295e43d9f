import CordaIbc.Lifecycle
import CordaIbc.Proofs.ChainStep
import CordaIbc.Sample.Chain

/-!
# What stays of a channel and of a connection

The ends of a host are made from its participants, and a channel has one hop (`Chain.Ends`). From
there every datagram keeps the identity of the connection it consumes, and that of the channel
unless a `chanOpenTry` names another port than the previous channel's (`Chain.identity_iff`).
-/

namespace CordaIbc

open ContractState StateClass

structure IbcChannel.SameIdentity (chan chan' : IbcChannel) : Prop where
  id : chan'.id = chan.id
  portId : chan'.portId = chan.portId
  ordering : chan'.end_.ordering = chan.end_.ordering
  hops : chan'.end_.connectionHopsList = chan.end_.connectionHopsList
  counterpartyPort : chan'.end_.counterparty.portId = chan.end_.counterparty.portId
  baseId : chan'.baseId = chan.baseId
  participants : chan'.participants = chan.participants

structure IbcConnection.SameIdentity (conn conn' : IbcConnection) : Prop where
  id : conn'.id = conn.id
  clientId : conn'.end_.clientId = conn.end_.clientId
  delayPeriod : conn'.end_.delayPeriod = conn.end_.delayPeriod
  counterpartyClientId : conn'.end_.counterparty.clientId = conn.end_.counterparty.clientId
  counterpartyPrefix : conn'.end_.counterparty.prefix_ = conn.end_.counterparty.prefix_
  baseId : conn'.baseId = conn.baseId
  participants : conn'.participants = conn.participants

namespace IbcChannel
variable {P : Platform} {ctx : Context} {signers : List PublicKey} {d : DatagramHandler}
  {chan chan' : IbcChannel} {host : Host} {hop : String}

/-- The port is all that a datagram may change. -/
theorem Change.sameIdentity_iff (h : Change P ctx signers d chan chan')
    (hhost : ∀ host', ctx.getInput Host = .ok host' → host' = host)
    (hbase : chan.baseId = host.baseId) (hparts : chan.participants = host.participants)
    (hhop : chan.end_.connectionHopsList = [hop]) :
    chan.SameIdentity chan' ↔ ∀ msg, d = .handleChanOpenTry msg → msg.portId = chan.portId.id := by
  have hkeep : (∀ msg, d ≠ .handleChanOpenTry msg) → chan.SameIdentity chan' →
      (chan.SameIdentity chan' ↔ ∀ msg, d = .handleChanOpenTry msg → msg.portId = chan.portId.id) :=
    fun hne hsame => ⟨fun _ msg hmsg => absurd hmsg (hne msg), fun _ => hsame⟩
  cases h with
  | @tryPrevious msg host' _ port hop' rest hin hinit hordering hcounterparty hmsgHop hhops hport =>
    obtain rfl := hhost host' hin
    rw [hhop] at hhops
    cases hhops
    constructor
    · rintro hsame msg' hmsg
      cases hmsg
      rw [← hport]
      exact congrArg Identifier.id hsame.portId
    · intro hid
      have hp : port.id = chan.portId.id := hport.trans (hid msg rfl)
      exact ⟨rfl, Identifier.ext hp, hordering.symm, hmsgHop.trans hhop.symm, hcounterparty.symm,
        hbase.symm, hparts.symm⟩
  | ack | confirm | closeInit | closeConfirm =>
    exact hkeep nofun ⟨rfl, rfl, rfl, rfl, rfl, rfl, rfl⟩
  | send => exact hkeep nofun ⟨rfl, rfl, rfl, rfl, rfl, rfl, rfl⟩
  | recv hrecv =>
    rcases receive_cases hrecv.receive with ⟨-, -, rfl⟩ | ⟨-, -, rfl⟩ <;>
      exact hkeep nofun ⟨rfl, rfl, rfl, rfl, rfl, rfl, rfl⟩
  | settle hacks =>
    obtain ⟨n, rfl⟩ := settle_eq hacks.settle
    exact hkeep nofun ⟨rfl, rfl, rfl, rfl, rfl, rfl, rfl⟩

/-- What the change leaves of the shape of a channel. -/
theorem Change.shape (h : Change P ctx signers d chan chan')
    (hhost : ∀ host', ctx.getInput Host = .ok host' → host' = host)
    (hparts : chan.participants = host.participants) (hhop : chan.end_.connectionHopsList = [hop]) :
    chan'.participants = host.participants ∧ chan'.end_.connectionHopsList = [hop] := by
  cases h with
  | @tryPrevious msg host' _ port hop' rest hin hinit hordering hcounterparty hmsgHop hhops hport =>
    obtain rfl := hhost host' hin
    rw [hhop] at hhops
    cases hhops
    exact ⟨rfl, hmsgHop⟩
  | ack | confirm | closeInit | closeConfirm | send => exact ⟨hparts, hhop⟩
  | recv hrecv =>
    rcases receive_cases hrecv.receive with ⟨-, -, rfl⟩ | ⟨-, -, rfl⟩ <;> exact ⟨hparts, hhop⟩
  | settle hacks =>
    obtain ⟨n, rfl⟩ := settle_eq hacks.settle
    exact ⟨hparts, hhop⟩

end IbcChannel

namespace IbcConnection
variable {ctx : Context} {d : DatagramHandler} {conn conn' : IbcConnection} {host : Host}

/-- A datagram changes nothing of a connection's identity. -/
theorem Change.identity (h : Change ctx d conn conn')
    (hhost : ∀ host', ctx.getInput Host = .ok host' → host' = host)
    (hbase : conn.baseId = host.baseId) (hparts : conn.participants = host.participants) :
    conn.SameIdentity conn' := by
  cases h with
  | @tryPrevious msg host' _ version hin hinit hclient hcounterparty hpre hdelay =>
    obtain rfl := hhost host' hin
    exact ⟨rfl, hclient.symm, hdelay.symm, hcounterparty.symm, hpre.symm, hbase.symm, hparts.symm⟩
  | ack | confirm => exact ⟨rfl, rfl, rfl, rfl, rfl, rfl, rfl⟩

end IbcConnection

namespace Chain

/-- The ends of a chain are those of its host. -/
structure Ends (c : Chain) : Prop where
  inv : c.Inv
  connection : ∀ host i conn, c.states.lookup hostId = some (.host host) →
    c.states.lookup i = some (.connection conn) → conn.participants = host.participants
  channel : ∀ host i chan, c.states.lookup hostId = some (.host host) →
    c.states.lookup i = some (.channel chan) →
    chan.participants = host.participants ∧ ∃ hop, chan.end_.connectionHopsList = [hop]

section
variable {P : Platform} {c c' : Chain} {tx : LedgerTransaction} {outs : List ContractState}

theorem Start.ends (h : c.Start) : c.Ends := by
  have hinv := h.inv
  obtain ⟨_, _, _, _, _, host, -, rfl⟩ := h
  refine ⟨hinv, fun _ i conn _ hl => ?_, fun _ i chan _ hl => ?_⟩
  · obtain ⟨-, hs⟩ := lookup_ofHost hl
    cases hs
  · obtain ⟨-, hs⟩ := lookup_ofHost hl
    cases hs

/-- An input host of a datagram is the chain's. -/
theorem host_of_input {ins refs : List ContractState}
    (hin : ∀ s ∈ ins, ∀ i, s.id? = some i → c.states.lookup i = some s) {host host' : Host}
    (hl : c.states.lookup hostId = some (.host host))
    (h : (Context.create ins refs).getInput Host = .ok host') : host' = host := by
  have hcur := hin _ (Context.mem_of_getInput h) hostId rfl
  rw [hl] at hcur
  cases hcur
  rfl

theorem Inv.host_baseId (hi : c.Inv) {host : Host}
    (hl : c.states.lookup hostId = some (.host host)) : host.baseId = c.baseId :=
  (Prod.mk.inj (Option.some.inj (hi.keyed hostId _ hl))).1

theorem Inv.connection_baseId (hi : c.Inv) {i : Identifier} {conn : IbcConnection}
    (hl : c.states.lookup i = some (.connection conn)) : conn.baseId = c.baseId :=
  (Prod.mk.inj (Option.some.inj (hi.keyed i _ hl))).1

theorem Inv.channel_baseId (hi : c.Inv) {i : Identifier} {chan : IbcChannel}
    (hl : c.states.lookup i = some (.channel chan)) : chan.baseId = c.baseId :=
  (Prod.mk.inj (Option.some.inj (hi.keyed i _ hl))).1

theorem Ends.apply (he : c.Ends) (ht : Takes P c tx outs) : (c.apply tx).Ends := by
  obtain ⟨host, hhost, -⟩ := he.inv.owned
  obtain ⟨t, hnext, hu⟩ := he.inv.lookup_next ht hhost
  obtain ⟨host', rfl⟩ : ∃ host', t = .host host' := by
    cases t <;> first | exact hu.elim | exact ⟨_, rfl⟩
  have hparts : host'.participants = host.participants := hu.1.symm
  have hout : (∀ conn, ContractState.connection conn ∈ outs → conn.participants = host.participants) ∧
      ∀ chan, ContractState.channel chan ∈ outs →
        chan.participants = host.participants ∧ ∃ hop, chan.end_.connectionHopsList = [hop] := by
    cases ht.effect with
    | addBank _ _ hbank =>
      refine ⟨fun conn hm => ?_, fun chan hm => ?_⟩ <;> rcases hbank with rfl | ⟨_, rfl⟩ <;>
        simp at hm
    | fund =>
      refine ⟨fun conn hm => ?_, fun chan hm => ?_⟩ <;> simp at hm
    | datagram _ hin _ hexec =>
      refine ⟨fun conn hm => ?_, fun chan hm => ?_⟩
      · rcases hexec.connection_cases hm with hcreation | ⟨prev, hprev, hchange⟩
        · cases hcreation with
          | mk hin' => rw [← host_of_input hin hhost hin']; rfl
        · have hcur := hin _ (Context.mem_of_getInput hprev) _ rfl
          have hsame := hchange.identity (fun _ => host_of_input hin hhost)
            ((he.inv.connection_baseId hcur).trans (he.inv.host_baseId hhost).symm)
            (he.connection host _ prev hhost hcur)
          exact hsame.participants.trans (he.connection host _ prev hhost hcur)
      · rcases hexec.channel_cases hm with ⟨-, hcreation⟩ | ⟨-, prev, hprev, hchange⟩
        · cases hcreation with
          | mk hin' _ hhop => exact ⟨by rw [← host_of_input hin hhost hin']; rfl, _, hhop⟩
        · have hcur := hin _ (Context.mem_of_getInput hprev) _ rfl
          obtain ⟨hp, hop, hhop⟩ := he.channel host _ prev hhost hcur
          obtain ⟨hp', hhop'⟩ := hchange.shape (fun _ => host_of_input hin hhost) hp hhop
          exact ⟨hp', hop, hhop'⟩
  refine ⟨he.inv.apply ht, fun h i conn hh hl => ?_, fun h i chan hh hl => ?_⟩
  · obtain rfl : host' = h := by rw [hnext] at hh; cases hh; rfl
    rw [hparts]
    rcases ht.lookup_cases hl with ⟨hm, -⟩ | ⟨-, hold⟩
    · exact hout.1 conn hm
    · exact he.connection host i conn hhost hold
  · obtain rfl : host' = h := by rw [hnext] at hh; cases hh; rfl
    rw [hparts]
    rcases ht.lookup_cases hl with ⟨hm, -⟩ | ⟨-, hold⟩
    · exact hout.2 chan hm
    · exact he.channel host i chan hhost hold

theorem Ends.run {ok : Chain → LedgerTransaction → Prop} {c₀ : Chain} {tr : List LedgerTransaction}
    (h₀ : c₀.Start) (hr : Run (Step P ok) c₀ tr c) : c.Ends := by
  refine hr.invariant (I := fun _ c => c.Ends) h₀.ends ?_
  rintro - c tx c' - he ⟨-, hc⟩
  obtain ⟨rfl, outs, ht⟩ := commit_ok hc
  exact he.apply ht

/-- A state made under a new identifier is no successor. -/
theorem Inv.notMem_of_mints (hi : c.Inv) {host : Host} {s o : ContractState} {i : Identifier}
    (hhost : c.states.lookup hostId = some (.host host)) (hm : host.Mints o)
    (hs : c.states.lookup i = some s) : o.id? ≠ some i := by
  obtain ⟨host', hhost', hown⟩ := hi.owned
  rw [hhost] at hhost'
  cases hhost'
  exact (hown i s hs).id_ne hm (hi.id? hs)

/-- In every state a host can reach, an accepted datagram keeps the identity of a connection it
consumes, and keeps that of a channel exactly when it does not try it under another port. -/
theorem identity_iff {c₀ : Chain} {tr : List LedgerTransaction} (h₀ : c₀.Start)
    (hr : Run (Step P fun _ _ => True) c₀ tr c) (hn : tx.DistinctOutputs)
    (hc : c.commit P tx = .ok c') {handler : DatagramHandler}
    {signers : List PublicKey} (hd : tx.datagramHandlerCommands = [(handler, signers)]) :
    (∀ conn conn', ContractState.connection conn ∈ tx.inputStates →
      ContractState.connection conn' ∈ tx.outputs → conn'.id = conn.id → conn.SameIdentity conn') ∧
    ∀ chan chan', ContractState.channel chan ∈ tx.inputStates →
      ContractState.channel chan' ∈ tx.outputs → chan'.id = chan.id →
      (chan.SameIdentity chan' ↔
        ∀ msg, handler = .handleChanOpenTry msg → msg.portId = chan.portId.id) := by
  have he := Ends.run h₀ hr
  obtain ⟨host, hhost, -⟩ := he.inv.owned
  obtain ⟨rfl, outs, ht⟩ := commit_ok ⟨hn, hc⟩
  have hbase := he.inv.host_baseId hhost
  cases ht.effect with
  | addBank _ _ hbank =>
    refine ⟨fun conn conn' _ hm' _ => ?_, fun chan chan' _ hm' _ => ?_⟩ <;>
      rw [ht.perm.mem_iff] at hm' <;> rcases hbank with rfl | ⟨_, rfl⟩ <;> simp at hm'
  | fund =>
    refine ⟨fun conn conn' _ hm' _ => ?_, fun chan chan' _ hm' _ => ?_⟩ <;>
      rw [ht.perm.mem_iff] at hm' <;> simp at hm'
  | @datagram handler' signers' _ hcmd hin _ hexec =>
    rw [hd] at hcmd
    cases hcmd
    refine ⟨fun conn conn' hm hm' hid => ?_, fun chan chan' hm hm' hid => ?_⟩
    · have hcur := hin _ hm _ rfl
      rcases hexec.connection_cases (ht.perm.mem_iff.1 hm') with hcreation | ⟨prev, hprev, hchange⟩
      · cases hcreation with
        | @mk h end_ hin' =>
          have hm : h.Mints (.connection (.create h h.generateConnectionIdentifier.2 end_)) := rfl
          rw [← host_of_input hin hhost hin'] at hhost
          exact absurd (congrArg some hid) (he.inv.notMem_of_mints hhost hm hcur)
      · obtain rfl := Context.eq_of_getInput hprev hm
        exact hchange.identity (fun _ => host_of_input hin hhost)
          ((he.inv.connection_baseId hcur).trans hbase.symm) (he.connection host _ _ hhost hcur)
    · have hcur := hin _ hm _ rfl
      rcases hexec.channel_cases (ht.perm.mem_iff.1 hm') with ⟨-, hcreation⟩ | ⟨-, prev, hprev, hchange⟩
      · cases hcreation with
        | @mk h port end_ _ hin' =>
          have hm : h.Mints (.channel (.create h port h.generateChannelIdentifier.2 end_)) := rfl
          rw [← host_of_input hin hhost hin'] at hhost
          exact absurd (congrArg some hid) (he.inv.notMem_of_mints hhost hm hcur)
      · obtain rfl := Context.eq_of_getInput hprev hm
        obtain ⟨hparts, hop, hhop⟩ := he.channel host _ _ hhost hcur
        exact hchange.sameIdentity_iff (fun _ => host_of_input hin hhost)
          ((he.inv.channel_baseId hcur).trans hbase.symm) hparts hhop

end

/-! ### A channel tried under another port -/

namespace OtherPort
open Sample

/-- The second chain opens a channel to the port `pay`. -/
def peerInit : IbcChannel :=
  .create peerHost transferPort (Host.channelIdentifier 0)
    { channelEnd .init "" with counterparty := ⟨"pay", ""⟩ }

def P : Platform := platform [handshake, shows 2 [.channel peerInit]] []

/-- The first chain tries its transfer channel under that port. -/
def handler : DatagramHandler :=
  .handleChanOpenTry
    { portId := "pay", previousChannelId := "channel-0", channel := channelEnd .init "channel-0"
      counterpartyVersion := "ics20-1", proofInit := [1], proofHeight := HEIGHT }

def tryMove : Move :=
  { inputs := [hostId, channel 0], references := [connection 0, hostClient]
    command := .datagram handler }

/-- The channels of a list of states, with their ports. -/
def ports (states : List ContractState) : List (String × String) :=
  (filterIsInstance IbcChannel states).map fun chan => (chan.id.id, chan.portId.id)

def outcome (r : List LedgerTransaction × Chain × LedgerTransaction × Chain) :
    List (String × String) × List (String × String) :=
  (ports r.2.2.1.inputStates, ports r.2.2.1.outputs)

theorem outcome_try : outcome <$> runThen P (ofHost (host 1)) (opened.take 5) tryMove =
    .ok ([("channel-0", "transfer")], [("channel-0", "pay")]) := by decide +kernel

theorem exists_of_ports {states : List ContractState} {p : String × String}
    (h : ports states = [p]) :
    ∃ chan, ContractState.channel chan ∈ states ∧ chan.id.id = p.1 ∧ chan.portId.id = p.2 := by
  have hp : p ∈ ports states := by rw [h]; exact List.mem_singleton_self p
  obtain ⟨chan, hm, rfl⟩ := List.mem_map.1 hp
  exact ⟨chan, mem_filterIsInstance.1 hm, rfl, rfl⟩

/-- What the script does. -/
theorem exists_try : ∃ tr c tx c' chan chan', Run (Step P fun _ _ => True) (ofHost (host 1)) tr c ∧
    c.Commits P tx c' ∧ tx.datagramHandlerCommands = [(handler, [])] ∧
    ContractState.channel chan ∈ tx.inputStates ∧ ContractState.channel chan' ∈ tx.outputs ∧
    chan'.id = chan.id ∧ chan.portId.id = "transfer" ∧ chan'.portId.id = "pay" := by
  obtain ⟨⟨txs, c, tx, c'⟩, hrun, hout⟩ := Result.map_ok.1 outcome_try
  obtain ⟨hr, hbuild, hc⟩ :
      Run (Step P fun _ _ => True) _ txs c ∧ tryMove.build P c = .ok tx ∧ c.Commits P tx c' :=
    run_of_then hrun fun _ _ _ _ _ => trivial
  obtain ⟨hin, hout⟩ := Prod.mk.inj hout
  obtain ⟨chan, hm, hid, hport⟩ := exists_of_ports hin
  obtain ⟨chan', hm', hid', hport'⟩ := exists_of_ports hout
  have hsame : chan'.id = chan.id := Identifier.ext (hid'.trans hid.symm)
  exact ⟨txs, c, tx, c', chan, chan', hr, hc, Move.commands_of_build hbuild rfl, hm, hm', hsame,
    hport, hport'⟩

/-- The channel that a host tries under another port has that port afterwards. -/
theorem port_changes : ∃ (P : Platform) (c₀ : Chain) (tr : List LedgerTransaction) (c : Chain)
    (tx : LedgerTransaction) (c' : Chain) (chan chan' : IbcChannel),
    c₀.Start ∧ Run (Step P fun _ _ => True) c₀ tr c ∧ tx.DistinctOutputs ∧ c.commit P tx = .ok c' ∧
      (∃ handler signers, tx.datagramHandlerCommands = [(handler, signers)]) ∧
      ContractState.channel chan ∈ tx.inputStates ∧ ContractState.channel chan' ∈ tx.outputs ∧
      chan'.id = chan.id ∧ ¬ chan.SameIdentity chan' := by
  obtain ⟨tr, c, tx, c', chan, chan', hr, hc, hd, hm, hm', hid, hport, hport'⟩ := exists_try
  refine ⟨P, _, tr, c, tx, c', chan, chan', start_host 1, hr, hc.1, hc.2, ⟨_, _, hd⟩, hm, hm', hid, ?_⟩
  intro hsame
  have h : chan'.portId.id = chan.portId.id := congrArg Identifier.id hsame.portId
  rw [hport, hport'] at h
  exact absurd h (by decide)

/-- By the theorem too. -/
theorem port_changes_iff : ∃ (tr : List LedgerTransaction) (c : Chain) (tx : LedgerTransaction)
    (chan chan' : IbcChannel), Run (Step P fun _ _ => True) (ofHost (host 1)) tr c ∧
      ContractState.channel chan ∈ tx.inputStates ∧ ContractState.channel chan' ∈ tx.outputs ∧
      (chan.SameIdentity chan' ↔
        ∀ msg, handler = .handleChanOpenTry msg → msg.portId = chan.portId.id) := by
  obtain ⟨tr, c, tx, c', chan, chan', hr, hc, hd, hm, hm', hid, -, -⟩ := exists_try
  exact ⟨tr, c, tx, chan, chan', hr, hm, hm',
    (identity_iff (start_host 1) hr hc.1 hc.2 hd).2 chan chan' hm hm' hid⟩

end OtherPort

end Chain

end CordaIbc
