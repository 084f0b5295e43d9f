import CordaIbc.Ibc

/-!
# An honest relayer

A relayer opens a connection or a channel between two hosts, and closes the channel, with messages
filled in from the states just produced and with proofs of those states. `submit` is a transaction
whose outputs are the states that its datagram puts out.
-/

namespace CordaIbc

open StateClass

/-- The outputs of a transaction with one datagram, if the contract accepts it. -/
def submit (P : Platform) (signers : List PublicKey) (inStates refStates : List ContractState)
    (handler : DatagramHandler) : Result (List ContractState) := do
  let ctx ← handler.execute P (.create inStates refStates) signers
  ctx.verifyResults P.toCrypto ctx.outStates.states
  .ok ctx.outStates.states

/-- The one state of a class in the outputs. -/
def output (T : Type) [StateClass T] (outs : List ContractState) : Result T :=
  single (filterIsInstance T outs)

/-- A host with its client of another host. -/
structure Endpoint where
  host : Host
  client : IbcClientState

namespace Relay

variable (P : Platform) (signers : List PublicKey) (prove : ContractState → Bytes)

/-! ## Connections -/

def connOpenInitMsg (a b : Endpoint) (version : Option Connection.Version) (delayPeriod : Long) :
    MsgConnectionOpenInit :=
  { clientId := a.client.id.id
    counterparty := ⟨b.client.id.id, "", b.host.getCommitmentPrefix⟩, version, delayPeriod }

/-- Try a connection of `a` on `b`. -/
def connOpenTryMsg (a b : Endpoint) (conn : IbcConnection) : MsgConnectionOpenTry :=
  { clientId := b.client.id.id, previousConnectionId := ""
    clientState := a.client.anyClientState
    counterparty := ⟨a.client.id.id, conn.id.id, a.host.getCommitmentPrefix⟩
    delayPeriod := conn.end_.delayPeriod, counterpartyVersionsList := conn.end_.versionsList
    proofHeight := a.host.getCurrentHeight, proofInit := prove (.connection conn)
    proofClient := prove (.client a.client), proofConsensus := prove (.client a.client)
    consensusHeight := b.host.getCurrentHeight }

/-- Acknowledge a connection of `a` towards a connection of `b`. -/
def connOpenAckMsg (a b : Endpoint) (conn peer : IbcConnection) (version : Connection.Version) :
    MsgConnectionOpenAck :=
  { connectionId := conn.id.id, counterpartyConnectionId := peer.id.id, version
    clientState := b.client.anyClientState, proofHeight := b.host.getCurrentHeight
    proofTry := prove (.connection peer), proofClient := prove (.client b.client)
    proofConsensus := prove (.client b.client), consensusHeight := a.host.getCurrentHeight }

/-- Confirm a connection of the peer of `a` with the connection of `a`. -/
def connOpenConfirmMsg (a : Endpoint) (conn peer : IbcConnection) : MsgConnectionOpenConfirm :=
  { connectionId := peer.id.id, proofAck := prove (.connection conn)
    proofHeight := a.host.getCurrentHeight }

/-- Everything before the confirmation: the connection of `a`, and the host and connection of `b`. -/
def tryConnection (a b : Endpoint) (version : Option Connection.Version) (delayPeriod : Long) :
    Result (IbcConnection × Host × IbcConnection) := do
  let outs ← submit P signers [.host a.host] [.client a.client]
    (.handleConnOpenInit (connOpenInitMsg a b version delayPeriod))
  let hostA ← output Host outs
  let connA ← output IbcConnection outs
  let outs ← submit P signers [.host b.host] [.client b.client]
    (.handleConnOpenTry (connOpenTryMsg prove a b connA))
  let hostB ← output Host outs
  let connB ← output IbcConnection outs
  let version ← single connB.end_.versionsList
  let outs ← submit P signers [.connection connA] [.host hostA, .client a.client]
    (.handleConnOpenAck (connOpenAckMsg prove a b connA connB version))
  .ok (← output IbcConnection outs, hostB, connB)

/-- The connections of `a` and of `b` at the end. -/
def openConnection (a b : Endpoint) (version : Option Connection.Version) (delayPeriod : Long) :
    Result (IbcConnection × IbcConnection) := do
  let (connA, hostB, connB) ← tryConnection P signers prove a b version delayPeriod
  let outs ← submit P signers [.connection connB] [.host hostB, .client b.client]
    (.handleConnOpenConfirm (connOpenConfirmMsg prove a connA connB))
  .ok (connA, ← output IbcConnection outs)

/-! ## Channels -/

def chanOpenInitMsg (conn : IbcConnection) (port peerPort : Identifier)
    (ordering : ChannelOuterClass.Order) (version : String) : MsgChannelOpenInit :=
  { portId := port.id
    channel :=
      { state := .uninitializedUnspecified, ordering, counterparty := ⟨peerPort.id, ""⟩
        connectionHopsList := [conn.id.id], version } }

/-- Try a channel of `a` at a port, over a connection of its peer. -/
def chanOpenTryMsg (a : Endpoint) (chan : IbcChannel) (conn : IbcConnection) (port : Identifier)
    (version : String) : MsgChannelOpenTry :=
  { portId := port.id, previousChannelId := ""
    channel :=
      { state := .uninitializedUnspecified, ordering := chan.end_.ordering
        counterparty := ⟨chan.portId.id, chan.id.id⟩, connectionHopsList := [conn.id.id], version }
    counterpartyVersion := chan.end_.version, proofInit := prove (.channel chan)
    proofHeight := a.host.getCurrentHeight }

/-- Acknowledge a channel towards a channel of `b`. -/
def chanOpenAckMsg (b : Endpoint) (chan peer : IbcChannel) : MsgChannelOpenAck :=
  { portId := chan.portId.id, channelId := chan.id.id, counterpartyChannelId := peer.id.id
    counterpartyVersion := peer.end_.version, proofTry := prove (.channel peer)
    proofHeight := b.host.getCurrentHeight }

/-- Confirm a channel of the peer of `a` with the channel of `a`. -/
def chanOpenConfirmMsg (a : Endpoint) (chan peer : IbcChannel) : MsgChannelOpenConfirm :=
  { portId := peer.portId.id, channelId := peer.id.id, proofAck := prove (.channel chan)
    proofHeight := a.host.getCurrentHeight }

def chanCloseInitMsg (chan : IbcChannel) : MsgChannelCloseInit :=
  { portId := chan.portId.id, channelId := chan.id.id }

/-- Close a channel of the peer of `a` after the channel of `a`. -/
def chanCloseConfirmMsg (a : Endpoint) (chan peer : IbcChannel) : MsgChannelCloseConfirm :=
  { portId := peer.portId.id, channelId := peer.id.id, proofInit := prove (.channel chan)
    proofHeight := a.host.getCurrentHeight }

/-- An endpoint and its end of a connection. -/
structure Link extends Endpoint where
  conn : IbcConnection

/-- The hosts and channels of `a` and of `b` at the end. -/
def openChannel (a b : Link) (portA portB : Identifier) (ordering : ChannelOuterClass.Order)
    (versionA versionB : String) : Result ((Host × IbcChannel) × Host × IbcChannel) := do
  let outs ← submit P signers [.host a.host] [.connection a.conn]
    (.handleChanOpenInit (chanOpenInitMsg a.conn portA portB ordering versionA))
  let hostA ← output Host outs
  let chanA ← output IbcChannel outs
  let outs ← submit P signers [.host b.host] [.client b.client, .connection b.conn]
    (.handleChanOpenTry (chanOpenTryMsg prove a.toEndpoint chanA b.conn portB versionB))
  let hostB ← output Host outs
  let chanB ← output IbcChannel outs
  let outs ← submit P signers [.channel chanA] [.host hostA, .client a.client, .connection a.conn]
    (.handleChanOpenAck (chanOpenAckMsg prove b.toEndpoint chanA chanB))
  let chanA ← output IbcChannel outs
  let outs ← submit P signers [.channel chanB] [.host hostB, .client b.client, .connection b.conn]
    (.handleChanOpenConfirm (chanOpenConfirmMsg prove a.toEndpoint chanA chanB))
  .ok ((hostA, chanA), hostB, ← output IbcChannel outs)

/-- The channels of `a` and of `b` at the end. -/
def closeChannel (a b : Link) (hostA hostB : Host) (chanA chanB : IbcChannel) :
    Result (IbcChannel × IbcChannel) := do
  let outs ← submit P signers [.channel chanA] [.host hostA, .connection a.conn]
    (.handleChanCloseInit (chanCloseInitMsg chanA))
  let chanA ← output IbcChannel outs
  let outs ← submit P signers [.channel chanB] [.host hostB, .client b.client, .connection b.conn]
    (.handleChanCloseConfirm (chanCloseConfirmMsg prove a.toEndpoint chanA chanB))
  .ok (chanA, ← output IbcChannel outs)

end Relay

/-! ## Submitted transactions -/

section
variable {P : Platform} {signers : List PublicKey} {ins refs outs : List ContractState}
  {handler : DatagramHandler}

/-- What a relayer submits is what the contract accepts. -/
theorem verify_of_submit (h : submit P signers ins refs handler = .ok outs) {tx : LedgerTransaction}
    (hcmd : tx.commands = [⟨.datagram handler, signers⟩]) (hin : tx.inputStates = ins)
    (href : tx.referenceStates = refs) (hout : tx.outputs = outs) : Ibc.verify P tx = .ok () := by
  simp only [submit, Result.bind_ok, Except.ok.injEq] at h
  obtain ⟨ctx, hexec, ⟨⟩, hverify, rfl⟩ := h
  subst hin href
  have hmisc : tx.miscCommands = [] := by simp [LedgerTransaction.miscCommands, hcmd]
  have hdatagram : tx.datagramHandlerCommands = [(handler, signers)] := by
    simp [LedgerTransaction.datagramHandlerCommands, hcmd]
  simp only [Ibc.verify, hmisc, hdatagram]
  exact Result.bind_ok.2 ⟨ctx, hexec, by rw [hout]; exact hverify⟩

/-- An accepted datagram is submitted when its inputs go on and all its states have one base id. -/
theorem submit_of_execute {ctx' : Context} {b : StateRef}
    (hexec : handler.execute P (.create ins refs) signers = .ok ctx')
    (ho : Context.Outputs (.create ins refs) outs ctx') (hne : outs ≠ [])
    (hnext : ∀ s ∈ ins, ∃ o ∈ outs, o.ibc? = s.ibc?)
    (hbase : ∀ s ∈ ins ++ refs ++ outs, ∃ i, s.ibc? = some i ∧ i.baseId = b) :
    submit P signers ins refs handler = .ok outs := by
  have houts : ctx'.outStates.states = outs := ho.outStates
  have hins : ctx'.inIbcStates = ins.filterMap (·.ibc?) := congrArg _ ho.inStates
  have hrefs : ctx'.refIbcStates = refs.filterMap (·.ibc?) := congrArg _ ho.refStates
  have houtIbc : ctx'.outIbcStates = outs.filterMap (·.ibc?) := congrArg _ houts
  have hall : ∀ l : List ContractState, (∀ s ∈ l, s ∈ ins ++ refs ++ outs) →
      ∀ i ∈ l.filterMap (·.ibc?), i.baseId = b := fun l hl i hi => by
    obtain ⟨s, hs, he⟩ := List.mem_filterMap.1 hi
    obtain ⟨j, hj, hb⟩ := hbase s (hl s hs)
    rw [he] at hj
    cases hj
    exact hb
  have hverified : ctx'.Verified P.toCrypto ctx'.outStates.states := by
    refine ⟨rfl, fun _ h => h, ?_, b, ?_⟩ <;> rw [hins, houtIbc]
    · intro i hi hf
      obtain ⟨s, hs, he⟩ := List.mem_filterMap.1 hi
      obtain ⟨o, ho, heq⟩ := hnext s hs
      exact ⟨i, List.mem_filterMap.2 ⟨o, ho, heq.trans he⟩, hf, rfl⟩
    · rw [hrefs]
      refine ⟨?_, hall _ fun s hs => List.mem_append_left _ (List.mem_append_left _ hs),
        hall _ fun s hs => List.mem_append_left _ (List.mem_append_right _ hs),
        hall _ fun s hs => List.mem_append_right _ hs⟩
      obtain ⟨o, ho⟩ := List.exists_mem_of_ne_nil _ hne
      obtain ⟨i, hi, hb⟩ := hbase o (List.mem_append_right _ ho)
      exact ⟨i, List.mem_filterMap.2 ⟨o, ho, hi⟩, hb⟩
  unfold submit
  rw [hexec, Result.ok_bind, Context.verifyResults_of hverified, Result.ok_bind, houts]

/-- A datagram of a host that makes a new state. -/
theorem submit_created {ctx' : Context} {host host' : Host} {t : ContractState}
    (hexec : handler.execute P (.create [.host host] refs) signers = .ok ctx')
    (ho : Context.Outputs (.create [.host host] refs) [.host host', t] ctx')
    (hhost : host'.baseId = host.baseId)
    (hrefs : ∀ s ∈ refs, ∃ i, s.ibc? = some i ∧ i.baseId = host.baseId)
    (ht : ∃ i, t.ibc? = some i ∧ i.baseId = host.baseId) :
    submit P signers [.host host] refs handler = .ok [.host host', t] := by
  refine submit_of_execute (b := host.baseId) hexec ho nofun ?_ ?_
  · intro s hs
    rw [List.mem_singleton.1 hs]
    refine ⟨_, List.mem_cons_self, ?_⟩
    show some _ = some _
    rw [hhost]
    rfl
  · intro s hs
    simp only [List.mem_append, List.mem_cons, List.not_mem_nil, or_false] at hs
    rcases hs with (rfl | hs) | rfl | rfl
    · exact ⟨_, rfl, rfl⟩
    · exact hrefs s hs
    · exact ⟨_, rfl, hhost⟩
    · exact ht

/-- A datagram that changes a state. -/
theorem submit_changed {ctx' : Context} {s t : ContractState} {b : StateRef}
    (hexec : handler.execute P (.create [s] refs) signers = .ok ctx')
    (ho : Context.Outputs (.create [s] refs) [t] ctx') (hsame : t.ibc? = s.ibc?)
    (hs : ∃ i, s.ibc? = some i ∧ i.baseId = b)
    (hrefs : ∀ s ∈ refs, ∃ i, s.ibc? = some i ∧ i.baseId = b) :
    submit P signers [s] refs handler = .ok [t] := by
  refine submit_of_execute (b := b) hexec ho nofun ?_ ?_
  · intro u hu
    rw [List.mem_singleton.1 hu]
    exact ⟨t, List.mem_singleton_self t, hsame⟩
  · intro u hu
    simp only [List.mem_append, List.mem_singleton] at hu
    rcases hu with (rfl | hu) | rfl
    · exact hs
    · exact hrefs u hu
    · rw [hsame]
      exact hs

end

end CordaIbc
