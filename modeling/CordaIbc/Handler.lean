import CordaIbc.ClientState

/-!
# The IBC handlers (ics25/Handler.kt)

Every function takes the context and a message and returns the context with the states it adds to
the outputs. The checks stand in the order of the source.
-/

namespace CordaIbc

open ChannelOuterClass (Channel Packet Acknowledgement)

/-- `require(id == Identifier(s)){message}`. -/
def requireId (id : Identifier) (s : String) (message : String := "Failed requirement.") :
    Result Unit := do
  let i ← Identifier.of s
  require (id = i) message

theorem requireId_ok {id : Identifier} {s message : String} {u : Unit} :
    requireId id s message = .ok u ↔ id.id = s := by
  simp only [requireId, Result.bind_ok, Identifier.of_ok, require_ok]
  constructor
  · rintro ⟨i, hi, h⟩
    exact h ▸ hi
  · intro h
    exact ⟨id, h, rfl⟩

namespace Handler

variable (P : Platform) (ctx : Context)

/-! ## Clients -/

def createClient (msg : MsgCreateClient) : Result Context := do
  let host ← ctx.getInput Host
  let clientState ← host.createClientState P msg.clientState msg.consensusState
  let clientType ← clientState.clientType P
  let nextHost := (host.generateClientIdentifier clientType).1
  let clientId := (host.generateClientIdentifier clientType).2
  let client := IbcClientState.create host clientId clientState
  let ctx ← ctx.addOutput nextHost
  ctx.addOutput client

/-! ## Connections -/

/-- The versions a new connection offers. -/
def connOpenInit.versions (host : Host) (msg : MsgConnectionOpenInit) :
    Result (List Connection.Version) :=
  match msg.version with
  | some version => do
    require (version ∈ host.getCompatibleVersions) "incompatible version"
    .ok [version]
  | none => .ok host.getCompatibleVersions

def connOpenInit (msg : MsgConnectionOpenInit) : Result Context := do
  let host ← ctx.getInput Host
  let nextHost := host.generateConnectionIdentifier.1
  let connectionId := host.generateConnectionIdentifier.2
  let client ← ctx.getReference IbcClientState
  requireId client.id msg.clientId "mismatch client"
  let versions ← connOpenInit.versions host msg
  let end_ : Connection.ConnectionEnd :=
    { clientId := msg.clientId, versionsList := versions, state := .init
      counterparty := msg.counterparty, delayPeriod := msg.delayPeriod }
  let ctx ← ctx.addOutput nextHost
  ctx.addOutput (IbcConnection.create host connectionId end_)

/-- The next host, the identifier of the new end and the versions of the previous one. -/
def connOpenTry.previous (host : Host) (msg : MsgConnectionOpenTry) :
    Result (Host × Identifier × List Connection.Version) :=
  if msg.previousConnectionId ≠ "" then do
    let previous ← ctx.getInput IbcConnection
    requireId previous.id msg.previousConnectionId "mismatch connection"
    require (previous.end_.counterparty.connectionId = "" ∧
        previous.end_.counterparty.prefix_ = msg.counterparty.prefix_ ∧
        previous.end_.clientId = msg.clientId ∧
        previous.end_.counterparty.clientId = msg.counterparty.clientId ∧
        previous.end_.delayPeriod = msg.delayPeriod)
      "connection fields mismatch previous connection fields"
    require (previous.end_.state = .init) "previous connection state is not INIT"
    .ok (host, previous.id, previous.end_.versionsList)
  else
    .ok (host.generateConnectionIdentifier.1, host.generateConnectionIdentifier.2, [])

def connOpenTry (msg : MsgConnectionOpenTry) : Result Context := do
  let host ← ctx.getInput Host
  let client ← ctx.getReference IbcClientState
  requireId client.id msg.clientId "mismatch client"
  let (nextHost, connectionId, previousVersions) ← connOpenTry.previous ctx host msg
  let selfHeight := host.getCurrentHeight
  -- ibc-go requires consensusHeight < selfHeight, Corda-IBC requires equality
  require (msg.consensusHeight = selfHeight)
    "consensus height is not equal to the current block height"
  let expectedConsensusState ← host.getConsensusState msg.consensusHeight
  let expectedCounterparty : Connection.Counterparty :=
    { clientId := msg.clientId, connectionId := "", prefix_ := host.getCommitmentPrefix }
  let expectedConnection : Connection.ConnectionEnd :=
    { clientId := msg.counterparty.clientId, versionsList := msg.counterpartyVersionsList
      state := .init, counterparty := expectedCounterparty, delayPeriod := msg.delayPeriod }
  let supportedVersions :=
    if previousVersions.isEmpty then host.getCompatibleVersions else previousVersions
  let version ← host.pickVersion supportedVersions msg.counterpartyVersionsList
  let end_ : Connection.ConnectionEnd :=
    { clientId := msg.clientId, versionsList := [version], state := .tryOpen
      counterparty := msg.counterparty, delayPeriod := msg.delayPeriod }
  client.impl.verifyConnectionState P msg.proofHeight msg.counterparty.prefix_
    (← CommitmentProof.of msg.proofInit) (← Identifier.of msg.counterparty.connectionId)
    expectedConnection
  client.impl.verifyClientState P msg.proofHeight msg.counterparty.prefix_
    (← Identifier.of msg.counterparty.clientId) (← CommitmentProof.of msg.proofClient)
    msg.clientState
  client.impl.verifyClientConsensusState P msg.proofHeight
    (← Identifier.of msg.counterparty.clientId) msg.consensusHeight msg.counterparty.prefix_
    (← CommitmentProof.of msg.proofConsensus) expectedConsensusState
  let ctx ← ctx.addOutput nextHost
  ctx.addOutput (IbcConnection.create host connectionId end_)

/-- The `when` over the state of the connection. -/
def connOpenAck.checkVersion (host : Host) (conn : IbcConnection) (msg : MsgConnectionOpenAck) :
    Result Unit :=
  match conn.end_.state with
  | .init =>
    require (msg.version ∈ host.getCompatibleVersions)
      "connection state is in INIT but the provided version is not supported"
  | .tryOpen => do
    let version ← single conn.end_.versionsList
    require (version = msg.version)
      "connection state is in TRYOPEN but the provided version is not set"
  | _ => .error (.illegalArgument "connection state is not INIT or TRYOPEN")

def connOpenAck (msg : MsgConnectionOpenAck) : Result Context := do
  let host ← ctx.getReference Host
  let conn ← ctx.getInput IbcConnection
  requireId conn.id msg.connectionId "mismatch connection"
  let client ← ctx.getReference IbcClientState
  requireId client.id conn.end_.clientId "mismatch client"
  let selfHeight := host.getCurrentHeight
  -- ibc-go requires consensusHeight < selfHeight, Corda-IBC requires equality
  require (msg.consensusHeight = selfHeight)
    "consensus height is not equal to the current block height"
  connOpenAck.checkVersion host conn msg
  let expectedConsensusState ← host.getConsensusState msg.consensusHeight
  let expectedCounterparty : Connection.Counterparty :=
    { clientId := conn.end_.clientId, connectionId := msg.connectionId
      prefix_ := host.getCommitmentPrefix }
  let expectedConnection : Connection.ConnectionEnd :=
    { clientId := conn.end_.counterparty.clientId, versionsList := [msg.version]
      state := .tryOpen, counterparty := expectedCounterparty
      delayPeriod := conn.end_.delayPeriod }
  client.impl.verifyConnectionState P msg.proofHeight conn.end_.counterparty.prefix_
    (← CommitmentProof.of msg.proofTry) (← Identifier.of msg.counterpartyConnectionId)
    expectedConnection
  client.impl.verifyClientState P msg.proofHeight conn.end_.counterparty.prefix_
    (← Identifier.of conn.end_.counterparty.clientId) (← CommitmentProof.of msg.proofClient)
    msg.clientState
  client.impl.verifyClientConsensusState P msg.proofHeight
    (← Identifier.of conn.end_.counterparty.clientId) msg.consensusHeight
    conn.end_.counterparty.prefix_ (← CommitmentProof.of msg.proofConsensus) expectedConsensusState
  ctx.addOutput { conn with
    end_ := { conn.end_ with
      state := .opened, versionsList := [msg.version]
      counterparty := { conn.end_.counterparty with
        connectionId := msg.counterpartyConnectionId } } }

def connOpenConfirm (msg : MsgConnectionOpenConfirm) : Result Context := do
  let host ← ctx.getReference Host
  let conn ← ctx.getInput IbcConnection
  requireId conn.id msg.connectionId "mismatch connection"
  let client ← ctx.getReference IbcClientState
  requireId client.id conn.end_.clientId "mismatch client"
  require (conn.end_.state = .tryOpen) "invalid connection state"
  -- the delay period of the expected end is left at the protobuf default
  let expected : Connection.ConnectionEnd :=
    { clientId := conn.end_.counterparty.clientId, versionsList := conn.end_.versionsList
      state := .opened
      counterparty := { clientId := conn.end_.clientId, connectionId := msg.connectionId
                        prefix_ := host.getCommitmentPrefix }
      delayPeriod := 0 }
  client.impl.verifyConnectionState P msg.proofHeight conn.end_.counterparty.prefix_
    (← CommitmentProof.of msg.proofAck) (← Identifier.of conn.end_.counterparty.connectionId)
    expected
  ctx.addOutput { conn with end_ := { conn.end_ with state := .opened } }

/-! ## Channels -/

/-- `conn.end.versionsList.single()` supports the ordering. -/
def requireOrdering (conn : IbcConnection) (ordering : ChannelOuterClass.Order) : Result Unit := do
  let version ← single conn.end_.versionsList
  require (ordering.name ∈ version.featuresList)
    "connection version does not support channel ordering"

def chanOpenInit (msg : MsgChannelOpenInit) : Result Context := do
  let host ← ctx.getInput Host
  let conn ← ctx.getReference IbcConnection
  requireId conn.id (← single msg.channel.connectionHopsList)
  requireOrdering conn msg.channel.ordering
  let nextHost := host.generateChannelIdentifier.1
  let channelId := host.generateChannelIdentifier.2
  let end_ : Channel :=
    { state := .init, ordering := msg.channel.ordering, counterparty := msg.channel.counterparty
      connectionHopsList := msg.channel.connectionHopsList, version := msg.channel.version }
  let ctx ← ctx.addOutput nextHost
  ctx.addOutput (IbcChannel.create host (← Identifier.of msg.portId) channelId end_)

/-- The previous channel, if the message names one. -/
def chanOpenTry.previous (msg : MsgChannelOpenTry) : Result (Option IbcChannel) :=
  if msg.previousChannelId ≠ "" then do
    let previous ← ctx.getInput IbcChannel
    requireId previous.id msg.previousChannelId "mismatch channel"
    let previousHop ← first previous.end_.connectionHopsList
    let hop ← first msg.channel.connectionHopsList
    require (previous.end_.ordering = msg.channel.ordering ∧
        previous.end_.counterparty.portId = msg.channel.counterparty.portId ∧
        previous.end_.counterparty.channelId = "" ∧
        previousHop = hop ∧
        previous.end_.version = msg.channel.version)
      "channel fields mismatch previous channel fields"
    require (previous.end_.state = .init) "previous channel state is not INIT"
    .ok (some previous)
  else
    .ok none

def chanOpenTry (msg : MsgChannelOpenTry) : Result Context := do
  let host ← ctx.getInput Host
  let conn ← ctx.getReference IbcConnection
  requireId conn.id (← single msg.channel.connectionHopsList)
  let client ← ctx.getReference IbcClientState
  requireId client.id conn.end_.clientId
  let previous ← chanOpenTry.previous ctx msg
  let (nextHost, channelId) := match previous with
    | some previous => (host, previous.id)
    | none => host.generateChannelIdentifier
  require (conn.end_.state = .opened) "connection state is not OPEN"
  requireOrdering conn msg.channel.ordering
  let end_ : Channel :=
    { state := .tryOpen, ordering := msg.channel.ordering
      counterparty := msg.channel.counterparty
      connectionHopsList := msg.channel.connectionHopsList, version := msg.channel.version }
  let counterpartyHops := [conn.end_.counterparty.connectionId]
  let expectedChannel : Channel :=
    { state := .init, ordering := msg.channel.ordering
      counterparty := { portId := msg.portId, channelId := "" }
      connectionHopsList := counterpartyHops, version := msg.counterpartyVersion }
  client.impl.verifyChannelState P msg.proofHeight conn.end_.counterparty.prefix_
    (← CommitmentProof.of msg.proofInit) (← Identifier.of msg.channel.counterparty.portId)
    (← Identifier.of msg.channel.counterparty.channelId) expectedChannel
  let chan := IbcChannel.create host (← Identifier.of msg.portId) channelId end_
  let ctx ← ctx.addOutput nextHost
  match previous with
  | none => ctx.addOutput chan
  | some previous => ctx.addOutput { chan with
      nextSequenceAck := previous.nextSequenceAck, nextSequenceSend := previous.nextSequenceSend
      nextSequenceRecv := previous.nextSequenceRecv }

def chanOpenAck (msg : MsgChannelOpenAck) : Result Context := do
  let _host ← ctx.getReference Host
  let chan ← ctx.getInput IbcChannel
  requireId chan.portId msg.portId
  requireId chan.id msg.channelId
  let conn ← ctx.getReference IbcConnection
  requireId conn.id (← single chan.end_.connectionHopsList)
  let client ← ctx.getReference IbcClientState
  requireId client.id conn.end_.clientId
  require (chan.end_.state = .init ∨ chan.end_.state = .tryOpen)
    "channel state should be INIT or TRYOPEN"
  require (conn.end_.state = .opened) "connection state is not OPEN"
  let counterpartyHops := [conn.end_.counterparty.connectionId]
  let expectedChannel : Channel :=
    { state := .tryOpen, ordering := chan.end_.ordering
      counterparty := { portId := msg.portId, channelId := msg.channelId }
      connectionHopsList := counterpartyHops, version := msg.counterpartyVersion }
  client.impl.verifyChannelState P msg.proofHeight conn.end_.counterparty.prefix_
    (← CommitmentProof.of msg.proofTry) (← Identifier.of chan.end_.counterparty.portId)
    (← Identifier.of msg.counterpartyChannelId) expectedChannel
  ctx.addOutput { chan with
    end_ := { chan.end_ with
      state := .opened, version := msg.counterpartyVersion
      counterparty := { chan.end_.counterparty with channelId := msg.counterpartyChannelId } } }

def chanOpenConfirm (msg : MsgChannelOpenConfirm) : Result Context := do
  let _host ← ctx.getReference Host
  let chan ← ctx.getInput IbcChannel
  requireId chan.portId msg.portId
  requireId chan.id msg.channelId
  let conn ← ctx.getReference IbcConnection
  requireId conn.id (← single chan.end_.connectionHopsList)
  let client ← ctx.getReference IbcClientState
  requireId client.id conn.end_.clientId
  require (chan.end_.state = .tryOpen) "channel state is not TRYOPEN"
  require (conn.end_.state = .opened) "connection state is not OPEN"
  let counterpartyHops := [conn.end_.counterparty.connectionId]
  let expectedChannel : Channel :=
    { state := .opened, ordering := chan.end_.ordering
      counterparty := { portId := msg.portId, channelId := msg.channelId }
      connectionHopsList := counterpartyHops, version := chan.end_.version }
  client.impl.verifyChannelState P msg.proofHeight conn.end_.counterparty.prefix_
    (← CommitmentProof.of msg.proofAck) (← Identifier.of chan.end_.counterparty.portId)
    (← Identifier.of chan.end_.counterparty.channelId) expectedChannel
  ctx.addOutput { chan with end_ := { chan.end_ with state := .opened } }

def chanCloseInit (msg : MsgChannelCloseInit) : Result Context := do
  let _host ← ctx.getReference Host
  let chan ← ctx.getInput IbcChannel
  requireId chan.portId msg.portId
  requireId chan.id msg.channelId
  let conn ← ctx.getReference IbcConnection
  requireId conn.id (← single chan.end_.connectionHopsList)
  require (chan.end_.state ≠ .closed) "channel is already CLOSED"
  require (conn.end_.state = .opened) "connection state is not OPEN"
  ctx.addOutput { chan with end_ := { chan.end_ with state := .closed } }

def chanCloseConfirm (msg : MsgChannelCloseConfirm) : Result Context := do
  let _host ← ctx.getReference Host
  let chan ← ctx.getInput IbcChannel
  requireId chan.portId msg.portId
  requireId chan.id msg.channelId
  let conn ← ctx.getReference IbcConnection
  requireId conn.id (← single chan.end_.connectionHopsList)
  let client ← ctx.getReference IbcClientState
  requireId client.id conn.end_.clientId
  require (chan.end_.state ≠ .closed) "channel is already CLOSED"
  require (conn.end_.state = .opened) "connection state is not OPEN"
  let counterpartyHops := [conn.end_.counterparty.connectionId]
  let expectedChannel : Channel :=
    { state := .closed, ordering := chan.end_.ordering
      counterparty := { portId := msg.portId, channelId := msg.channelId }
      connectionHopsList := counterpartyHops, version := chan.end_.version }
  client.impl.verifyChannelState P msg.proofHeight conn.end_.counterparty.prefix_
    (← CommitmentProof.of msg.proofInit) (← Identifier.of chan.end_.counterparty.portId)
    (← Identifier.of chan.end_.counterparty.channelId) expectedChannel
  ctx.addOutput { chan with end_ := { chan.end_ with state := .closed } }

/-! ## Packets -/

/-- The timestamp guard, for the client types that have timestamps. -/
def sendPacket.checkTimestamp (host : Host) (client : IbcClientState) (clientId : String)
    (latestHeight : Height) (packet : Packet) : Result Unit := do
  let (clientType, _) ← host.parseClientIdentifier (← Identifier.of clientId)
  if clientType ≠ .soloMachineClient ∧ clientType ≠ .cordaClient then do
    let latestTimestamp ← client.impl.timestampAt P latestHeight
    require (packet.timeoutTimestamp = 0 ∨ latestTimestamp < packet.timeoutTimestamp)
      "receiving chain block timestamp >= packet timeout timestamp"

def sendPacket (packet : Packet) : Result Context := do
  let host ← ctx.getReference Host
  let chan ← ctx.getInput IbcChannel
  requireId chan.portId packet.sourcePort
  requireId chan.id packet.sourceChannel
  let conn ← ctx.getReference IbcConnection
  requireId conn.id (← single chan.end_.connectionHopsList)
  let client ← ctx.getReference IbcClientState
  requireId client.id conn.end_.clientId
  require (chan.end_.state ≠ .closed) "channel is CLOSED"
  require (packet.destinationPort = chan.end_.counterparty.portId)
    "packet destination port doesn't match the counterparty's port"
  require (packet.destinationChannel = chan.end_.counterparty.channelId)
    "packet destination channel doesn't match the counterparty's channel"
  let latestHeight ← client.impl.getLatestHeight P
  let timeoutHeight := packet.timeoutHeight
  require (timeoutHeight.isZero ∨ latestHeight.lt timeoutHeight)
    "receiving chain block height >= packet timeout height"
  sendPacket.checkTimestamp P host client conn.end_.clientId latestHeight packet
  require (packet.sequence = chan.nextSequenceSend) "packet sequence ≠ next send sequence"
  ctx.addOutput { chan with
    nextSequenceSend := chan.nextSequenceSend + 1
    packets := chan.packets.insert packet.sequence packet }

/-- The receipt of a packet, by the ordering of its channel. -/
def recvPacket.receive (chan : IbcChannel) (packet : Packet) : Result IbcChannel :=
  match chan.end_.ordering with
  | .unordered => do
    require (packet.sequence ∉ chan.receipts) "packet sequence"
    .ok { chan with receipts := insert packet.sequence chan.receipts }
  | .ordered => do
    require (packet.sequence = chan.nextSequenceRecv) "packet sequence ≠ next receive sequence"
    .ok { chan with nextSequenceRecv := chan.nextSequenceRecv + 1 }
  | _ => .error (.illegalArgument "null")

def recvPacket (packet : Packet) (proof : CommitmentProof) (proofHeight : Height)
    (acknowledgement : Acknowledgement) : Result Context := do
  let host ← ctx.getReference Host
  let chan ← ctx.getInput IbcChannel
  requireId chan.portId packet.destinationPort
  requireId chan.id packet.destinationChannel
  let conn ← ctx.getReference IbcConnection
  requireId conn.id (← single chan.end_.connectionHopsList)
  let client ← ctx.getReference IbcClientState
  requireId client.id conn.end_.clientId
  require (chan.end_.state = .opened) "channel state is not OPEN"
  require (packet.sourcePort = chan.end_.counterparty.portId)
    "packet source port doesn't match the counterparty's port"
  require (packet.sourceChannel = chan.end_.counterparty.channelId)
    "packet source channel doesn't match the counterparty's channel"
  require (conn.end_.state = .opened) "connection state is not OPEN"
  let selfHeight := host.getCurrentHeight
  let timeoutHeight := packet.timeoutHeight
  require (timeoutHeight.isZero ∨ selfHeight.lt timeoutHeight)
    "block height >= packet timeout height"
  require (packet.timeoutTimestamp = 0 ∨ host.currentTimestamp < packet.timeoutTimestamp)
    "block timestamp >= packet timeout timestamp"
  client.impl.verifyPacketCommitment P proofHeight conn.end_.delayPeriod 0
    conn.end_.counterparty.prefix_ proof (← Identifier.of packet.sourcePort)
    (← Identifier.of packet.sourceChannel) packet.sequence (packet.toCommitment P.toCrypto)
  let chan := { chan with
    acknowledgements := chan.acknowledgements.insert packet.sequence acknowledgement }
  let chan ← recvPacket.receive chan packet
  ctx.addOutput chan

/-- The acknowledgement counter of an ordered channel. -/
def acknowledgePacket.settle (chan : IbcChannel) (packet : Packet) : Result IbcChannel :=
  if chan.end_.ordering = .ordered then do
    require (packet.sequence = chan.nextSequenceAck) "packet sequence ≠ next ack sequence"
    .ok { chan with nextSequenceAck := chan.nextSequenceAck + 1 }
  else
    .ok chan

def acknowledgePacket (packet : Packet) (acknowledgement : Acknowledgement)
    (proof : CommitmentProof) (proofHeight : Height) : Result Context := do
  let _host ← ctx.getReference Host
  let chan ← ctx.getInput IbcChannel
  requireId chan.portId packet.sourcePort
  requireId chan.id packet.sourceChannel
  let conn ← ctx.getReference IbcConnection
  requireId conn.id (← single chan.end_.connectionHopsList)
  let client ← ctx.getReference IbcClientState
  requireId client.id conn.end_.clientId
  require (chan.end_.state = .opened) "channel state is not OPEN"
  require (packet.destinationPort = chan.end_.counterparty.portId)
    "packet destination port doesn't match the counterparty's port"
  require (packet.destinationChannel = chan.end_.counterparty.channelId)
    "packet destination channel doesn't match the counterparty's channel"
  require (conn.end_.state = .opened) "connection state is not OPEN"
  require (packet.sequence ∈ chan.packets) "packet has been acknowledged, or timed out"
  let expectedPacket ← notNull (chan.packets.lookup packet.sequence)
  require (expectedPacket = packet) "commitment bytes are not equal"
  client.impl.verifyPacketAcknowledgement P proofHeight conn.end_.delayPeriod 0
    conn.end_.counterparty.prefix_ proof (← Identifier.of packet.destinationPort)
    (← Identifier.of packet.destinationChannel) packet.sequence acknowledgement
  let chan ← acknowledgePacket.settle chan packet
  ctx.addOutput { chan with packets := chan.packets.erase packet.sequence }

end Handler

end CordaIbc
