import CordaIbc.Datagram

/-!
# What an accepted datagram does

`Executes P ctx h signers outs` lists, handler by handler, the guards an accepted datagram passed
and the states it put in the outputs. It is the inversion of `execute` (`executes_of_ok`): nothing
after this file unfolds a handler. What the transfer modules do before the packet handler runs is
split off into `SendEffect`, `RecvEffect` and `AckEffect`.
-/

namespace CordaIbc

open ChannelOuterClass (Channel Packet Acknowledgement)
open Context StateClass

/-! ## Guards -/

/-- The referenced connection is the single hop. -/
structure ConnOf (ctx : Context) (hops : List String) (conn : IbcConnection) : Prop where
  ref : ctx.getReference IbcConnection = .ok conn
  hops : hops = [conn.id.id]

/-- The referenced client is the one of the connection. -/
structure ClientOf (ctx : Context) (clientId : String) (client : IbcClientState) : Prop where
  ref : ctx.getReference IbcClientState = .ok client
  id : client.id.id = clientId

section
variable (P : Platform) (client : IbcClientState) (height : Height) (pre : MerklePrefix)
  (proofBytes : Bytes)

/-- The client accepts the proof for a connection end. -/
def ProvesConnection (id : String) (e : Connection.ConnectionEnd) : Prop :=
  ∃ proof : CommitmentProof, proof.bytes = proofBytes ∧ ∃ i : Identifier, i.id = id ∧
    client.impl.verifyConnectionState P height pre proof i e = .ok ()

/-- The client accepts the proof for a client state. -/
def ProvesClient (id : String) (clientState : Any) : Prop :=
  ∃ proof : CommitmentProof, proof.bytes = proofBytes ∧ ∃ i : Identifier, i.id = id ∧
    client.impl.verifyClientState P height pre i proof clientState = .ok ()

/-- The client accepts the proof for a consensus state. -/
def ProvesConsensus (id : String) (consensusHeight : Height) (consensusState : Any) : Prop :=
  ∃ proof : CommitmentProof, proof.bytes = proofBytes ∧ ∃ i : Identifier, i.id = id ∧
    client.impl.verifyClientConsensusState P height i consensusHeight pre proof consensusState =
      .ok ()

/-- The client accepts the proof for a channel end. -/
def ProvesChannel (port id : String) (e : Channel) : Prop :=
  ∃ proof : CommitmentProof, proof.bytes = proofBytes ∧ ∃ p : Identifier, p.id = port ∧
    ∃ i : Identifier, i.id = id ∧
      client.impl.verifyChannelState P height pre proof p i e = .ok ()

/-- The client accepts the proof for the commitment of a packet. -/
def ProvesCommitment (delay : Long) (packet : Packet) : Prop :=
  ∃ proof : CommitmentProof, proof.bytes = proofBytes ∧
    ∃ p : Identifier, p.id = packet.sourcePort ∧ ∃ i : Identifier, i.id = packet.sourceChannel ∧
      client.impl.verifyPacketCommitment P height delay 0 pre proof p i packet.sequence
        (packet.toCommitment P.toCrypto) = .ok ()

/-- The client accepts the proof for the acknowledgement of a packet. -/
def ProvesAck (delay : Long) (packet : Packet) (ack : Acknowledgement) : Prop :=
  ∃ proof : CommitmentProof, proof.bytes = proofBytes ∧
    ∃ p : Identifier, p.id = packet.destinationPort ∧
      ∃ i : Identifier, i.id = packet.destinationChannel ∧
        client.impl.verifyPacketAcknowledgement P height delay 0 pre proof p i packet.sequence ack =
          .ok ()

end

/-! ## Ends and channels after a step -/

namespace MsgConnectionOpenTry

/-- The end a peer is expected to have when this message opens a connection. -/
def expected (msg : MsgConnectionOpenTry) : Connection.ConnectionEnd :=
  { clientId := msg.counterparty.clientId, versionsList := msg.counterpartyVersionsList
    state := .init
    counterparty := { clientId := msg.clientId, connectionId := "", prefix_ := PREFIX }
    delayPeriod := msg.delayPeriod }

/-- The new end. -/
def toEnd (msg : MsgConnectionOpenTry) (version : Connection.Version) : Connection.ConnectionEnd :=
  { clientId := msg.clientId, versionsList := [version], state := .tryOpen
    counterparty := msg.counterparty, delayPeriod := msg.delayPeriod }

end MsgConnectionOpenTry

namespace IbcConnection

/-- The end a peer is expected to have when a connection is acknowledged. -/
def expectedTry (conn : IbcConnection) (version : Connection.Version) : Connection.ConnectionEnd :=
  { clientId := conn.end_.counterparty.clientId, versionsList := [version], state := .tryOpen
    counterparty := { clientId := conn.end_.clientId, connectionId := conn.id.id
                      prefix_ := PREFIX }
    delayPeriod := conn.end_.delayPeriod }

def acked (conn : IbcConnection) (counterpartyConnectionId : String)
    (version : Connection.Version) : IbcConnection :=
  { conn with
    end_ := { conn.end_ with
      state := .opened, versionsList := [version]
      counterparty := { conn.end_.counterparty with connectionId := counterpartyConnectionId } } }

/-- The end a peer is expected to have when a connection is confirmed. -/
def expectedOpen (conn : IbcConnection) : Connection.ConnectionEnd :=
  { clientId := conn.end_.counterparty.clientId, versionsList := conn.end_.versionsList
    state := .opened
    counterparty := { clientId := conn.end_.clientId, connectionId := conn.id.id
                      prefix_ := PREFIX }
    delayPeriod := 0 }

def confirmed (conn : IbcConnection) : IbcConnection :=
  { conn with end_ := { conn.end_ with state := .opened } }

end IbcConnection

namespace MsgChannelOpenTry

/-- The end a peer is expected to have when this message opens a channel. -/
def expected (msg : MsgChannelOpenTry) (conn : IbcConnection) : Channel :=
  { state := .init, ordering := msg.channel.ordering
    counterparty := { portId := msg.portId, channelId := "" }
    connectionHopsList := [conn.end_.counterparty.connectionId]
    version := msg.counterpartyVersion }

end MsgChannelOpenTry

namespace IbcChannel

/-- The end a peer is expected to have for this channel, in a state and with a version. -/
def expected (chan : IbcChannel) (conn : IbcConnection) (state : ChannelOuterClass.State)
    (version : String) : Channel :=
  { state, ordering := chan.end_.ordering
    counterparty := { portId := chan.portId.id, channelId := chan.id.id }
    connectionHopsList := [conn.end_.counterparty.connectionId], version }

def acked (chan : IbcChannel) (counterpartyChannelId counterpartyVersion : String) : IbcChannel :=
  { chan with
    end_ := { chan.end_ with
      state := .opened, version := counterpartyVersion
      counterparty := { chan.end_.counterparty with channelId := counterpartyChannelId } } }

/-- The end moved to a state. -/
def withState (chan : IbcChannel) (state : ChannelOuterClass.State) : IbcChannel :=
  { chan with end_ := { chan.end_ with state } }

/-- The counters of a previous channel carried over. -/
def withCounters (chan previous : IbcChannel) : IbcChannel :=
  { chan with
    nextSequenceAck := previous.nextSequenceAck, nextSequenceSend := previous.nextSequenceSend
    nextSequenceRecv := previous.nextSequenceRecv }

def sent (chan : IbcChannel) (packet : Packet) : IbcChannel :=
  { chan with
    nextSequenceSend := chan.nextSequenceSend + 1
    packets := chan.packets.insert packet.sequence packet }

/-- The acknowledgement recorded on receipt. -/
def answered (chan : IbcChannel) (packet : Packet) (ack : Acknowledgement) : IbcChannel :=
  { chan with acknowledgements := chan.acknowledgements.insert packet.sequence ack }

/-- The packet removed on acknowledgement. -/
def settled (chan : IbcChannel) (packet : Packet) : IbcChannel :=
  { chan with packets := chan.packets.erase packet.sequence }

end IbcChannel

/-! ## Packet handlers -/

/-- The guards of `sendPacket`. -/
structure Sends (P : Platform) (ctx : Context) (packet : Packet) (chan : IbcChannel) : Prop where
  input : ctx.getInput IbcChannel = .ok chan
  port : chan.portId.id = packet.sourcePort
  channel : chan.id.id = packet.sourceChannel
  client : ∃ conn client, ConnOf ctx chan.end_.connectionHopsList conn ∧
    ClientOf ctx conn.end_.clientId client ∧ ∃ h, client.impl.getLatestHeight P = .ok h ∧
      (packet.timeoutHeight.isZero = true ∨ h.lt packet.timeoutHeight = true)
  notClosed : chan.end_.state ≠ .closed
  destPort : packet.destinationPort = chan.end_.counterparty.portId
  destChannel : packet.destinationChannel = chan.end_.counterparty.channelId
  sequence : packet.sequence = chan.nextSequenceSend

/-- The guards `recvPacket` and `acknowledgePacket` share: an open channel over an open
connection, and its client. -/
structure Opened (ctx : Context) (chan : IbcChannel) (conn : IbcConnection)
    (client : IbcClientState) : Prop where
  hop : ConnOf ctx chan.end_.connectionHopsList conn
  clientOf : ClientOf ctx conn.end_.clientId client
  chanOpen : chan.end_.state = .opened
  connOpen : conn.end_.state = .opened

/-- The guards of `recvPacket`, and the channel after the receipt. -/
structure Receives (P : Platform) (ctx : Context) (msg : MsgRecvPacket) (ack : Acknowledgement)
    (chan chan' : IbcChannel) : Prop where
  input : ctx.getInput IbcChannel = .ok chan
  port : chan.portId.id = msg.packet.destinationPort
  channel : chan.id.id = msg.packet.destinationChannel
  srcPort : msg.packet.sourcePort = chan.end_.counterparty.portId
  srcChannel : msg.packet.sourceChannel = chan.end_.counterparty.channelId
  timeoutHeight : msg.packet.timeoutHeight.isZero = true ∨ HEIGHT.lt msg.packet.timeoutHeight = true
  timeoutTimestamp : msg.packet.timeoutTimestamp = 0 ∨ 0 < msg.packet.timeoutTimestamp
  proof : ∃ conn client, Opened ctx chan conn client ∧
    ProvesCommitment P client msg.proofHeight conn.end_.counterparty.prefix_ msg.proofCommitment
      conn.end_.delayPeriod msg.packet
  receive : Handler.recvPacket.receive (chan.answered msg.packet ack) msg.packet = .ok chan'

/-- The guards of `acknowledgePacket`, and the channel with its counter moved. -/
structure Acknowledges (P : Platform) (ctx : Context) (msg : MsgAcknowledgement)
    (ack : Acknowledgement) (chan chan' : IbcChannel) : Prop where
  input : ctx.getInput IbcChannel = .ok chan
  port : chan.portId.id = msg.packet.sourcePort
  channel : chan.id.id = msg.packet.sourceChannel
  destPort : msg.packet.destinationPort = chan.end_.counterparty.portId
  destChannel : msg.packet.destinationChannel = chan.end_.counterparty.channelId
  packet : chan.packets.lookup msg.packet.sequence = some msg.packet
  proof : ∃ conn client, Opened ctx chan conn client ∧
    ProvesAck P client msg.proofHeight conn.end_.counterparty.prefix_ msg.proofAcked
      conn.end_.delayPeriod msg.packet ack
  settle : Handler.acknowledgePacket.settle chan msg.packet = .ok chan'

/-! ## Modules -/

/-- The states a module outputs while it creates a packet. -/
inductive SendEffect (P : Platform) (ctx : Context) (signers : List PublicKey) (anyMsg : Any)
    (chan : IbcChannel) : Packet → Module → List ContractState → Prop
  | nop {packet : Packet} (hmsg : P.unpackPacket anyMsg = .ok packet) :
    SendEffect P ctx signers anyMsg chan packet .nop []
  | ics20 {msg : MsgTransfer} {amount : Int} {sender : Address} {port channel : Identifier}
    {bank bank' : Bank} {denom : Denom} (hmsg : P.unpackMsgTransfer anyMsg = .ok msg)
    (hamount : toBigInteger msg.token.amount = .ok amount)
    (hsender : Address.fromBech32 P.toCrypto msg.sender = .ok sender)
    (hport : port.id = msg.sourcePort) (hchannel : channel.id = msg.sourceChannel)
    (hbank : ctx.getInput Bank = .ok bank)
    (hdenom : Ics20.resolveToken bank msg.token.denom = .ok denom)
    (hdebit : Ics20.debit bank (!denom.hasPrefix port channel) sender denom amount = .ok bank') :
    SendEffect P ctx signers anyMsg chan (Ics20.transferPacket P msg denom chan) .ics20
      [.bank bank']
  | ics20cash {msg : MsgTransfer} {quantity : Int} {sender : Address} {port channel : Identifier}
    {bank : CashBank} {denom : Denom} {key : PublicKey} {ctx' : Context}
    {outs : List ContractState} (hmsg : P.unpackMsgTransfer anyMsg = .ok msg)
    (hamount : toLong msg.token.amount = .ok quantity)
    (hsender : Address.fromBech32 P.toCrypto msg.sender = .ok sender)
    (hport : port.id = msg.sourcePort) (hchannel : channel.id = msg.sourceChannel)
    (hbank : ctx.getInput CashBank = .ok bank)
    (hdenom : Ics20Cash.resolveToken bank msg.token.denom = .ok denom)
    (hdebit : Ics20Cash.debit P ctx bank (!denom.hasPrefix port channel) sender denom quantity =
      .ok ctx')
    (houts : Outputs ctx outs ctx')
    (hkey : sender.toPublicKey P.toCrypto = .ok key) (hsigned : key ∈ signers) :
    SendEffect P ctx signers anyMsg chan (Ics20.transferPacket P msg denom chan) .ics20cash outs

/-- A `CreateOutgoingPacket` on a port bound to `ics20cash.Module` that takes one of the two branches
of a send: the source branch locks cash, the other burns vouchers. -/
structure Ics20Cash.Takes (P : Platform) (ctx : Context) (anyMsg : Any) (source : Bool) : Prop where
  module_ : ∃ host chan, ctx.getReference Host = .ok host ∧ ctx.getInput IbcChannel = .ok chan ∧
    host.lookupModule chan.portId = .ok .ics20cash
  denom : ∃ msg bank denom port channel, P.unpackMsgTransfer anyMsg = .ok msg ∧
    ctx.getInput CashBank = .ok bank ∧ resolveToken bank msg.token.denom = .ok denom ∧
    Identifier.of msg.sourcePort = .ok port ∧ Identifier.of msg.sourceChannel = .ok channel ∧
    (!denom.hasPrefix port channel) = source

/-- The bank an account-based receive leaves, and the acknowledgement it gives. -/
def RecvCredit (credit : Result Bank) (bank bank' : Bank) (ack : Acknowledgement) : Prop :=
  (credit = .ok bank' ∧ ack = successAck) ∨
    ∃ message, credit = .error (.illegalArgument message) ∧ bank' = bank ∧ ack = .error message

/-- The states a module outputs on receipt of a packet, and its acknowledgement. -/
inductive RecvEffect (P : Platform) (ctx : Context) (packet : Packet) :
    Module → Acknowledgement → List ContractState → Prop
  | nop : RecvEffect P ctx packet .nop .notSet []
  | ics20 {data : FungibleTokenPacketData} {amount : Int} {receiver : Address}
    {port channel : Identifier} {bank bank' : Bank} {ack : Acknowledgement}
    (hdata : P.toFungibleTokenPacketData packet.data = .ok data)
    (hamount : toBigInteger data.amount = .ok amount)
    (hreceiver : Address.fromBech32 P.toCrypto data.receiver = .ok receiver)
    (hport : port.id = packet.sourcePort) (hchannel : channel.id = packet.sourceChannel)
    (hbank : ctx.getInput Bank = .ok bank)
    (hcredit : RecvCredit (Ics20.credit P bank ((Denom.fromString data.denom).hasPrefix port channel)
      packet receiver (Denom.fromString data.denom) amount) bank bank' ack) :
    RecvEffect P ctx packet .ics20 ack [.bank bank']
  | ics20cash {outs : List ContractState} {ack : Acknowledgement} {ctx' : Context}
    (hrecv : Ics20Cash.onRecvPacket P ctx packet = .ok (ctx', ack))
    (houts : Outputs ctx outs ctx') : RecvEffect P ctx packet .ics20cash ack outs

/-- The states a module outputs on an acknowledgement. -/
inductive AckEffect (P : Platform) (ctx : Context) (packet : Packet) :
    Module → Acknowledgement → List ContractState → Prop
  | nop {ack : Acknowledgement} : AckEffect P ctx packet .nop ack []
  | ics20Result {bytes : Bytes} {bank : Bank} (hbank : ctx.getInput Bank = .ok bank) :
    AckEffect P ctx packet .ics20 (.result bytes) [.bank bank]
  | ics20Error {message : String} {data : FungibleTokenPacketData} {amount : Int}
    {sender : Address} {port channel : Identifier} {bank bank' : Bank}
    (hdata : P.toFungibleTokenPacketData packet.data = .ok data)
    (hamount : toBigInteger data.amount = .ok amount)
    (hsender : Address.fromBech32 P.toCrypto data.sender = .ok sender)
    (hport : port.id = packet.sourcePort) (hchannel : channel.id = packet.sourceChannel)
    (hbank : ctx.getInput Bank = .ok bank)
    (hrefund : Ics20.refund bank (!(Denom.fromString data.denom).hasPrefix port channel) sender
      (Denom.fromString data.denom) amount = .ok bank') :
    AckEffect P ctx packet .ics20 (.error message) [.bank bank']
  | ics20cash {ack : Acknowledgement} {outs : List ContractState} {ctx' : Context}
    (hsettle : Ics20Cash.onAcknowledgePacket P ctx packet ack = .ok ctx')
    (houts : Outputs ctx outs ctx') : AckEffect P ctx packet .ics20cash ack outs

namespace Ics20Cash.Takes
variable {P : Platform} {ctx : Context} {anyMsg : Any} {source : Bool}

theorem module_eq {host : Host} {chan : IbcChannel} {m : Module} (h : Takes P ctx anyMsg source)
    (hhost : ctx.getReference Host = .ok host) (hchan : ctx.getInput IbcChannel = .ok chan)
    (hmodule : host.lookupModule chan.portId = .ok m) : m = .ics20cash := by
  obtain ⟨host', chan', hhost', hchan', hmodule'⟩ := h.module_
  rw [hhost] at hhost'; rw [hchan] at hchan'
  cases hhost'; cases hchan'
  exact Except.ok.inj (hmodule.symm.trans hmodule')

theorem source_eq {msg : MsgTransfer} {bank : CashBank} {denom : Denom} {port channel : Identifier}
    (h : Takes P ctx anyMsg source) (hmsg : P.unpackMsgTransfer anyMsg = .ok msg)
    (hbank : ctx.getInput CashBank = .ok bank)
    (hdenom : resolveToken bank msg.token.denom = .ok denom) (hport : port.id = msg.sourcePort)
    (hchannel : channel.id = msg.sourceChannel) : (!denom.hasPrefix port channel) = source := by
  obtain ⟨msg', bank', denom', port', channel', hmsg', hbank', hdenom', hport', hchannel', hp⟩ :=
    h.denom
  rw [hmsg] at hmsg'; rw [hbank] at hbank'
  cases hmsg'; cases hbank'
  rw [hdenom] at hdenom'
  cases hdenom'
  rw [Identifier.of_ok.2 hport] at hport'
  rw [Identifier.of_ok.2 hchannel] at hchannel'
  cases hport'; cases hchannel'
  exact hp

end Ics20Cash.Takes

/-! ## Datagrams -/

/-- An accepted datagram: its guards and the states it outputs. -/
inductive Executes (P : Platform) (ctx : Context) (signers : List PublicKey) :
    DatagramHandler → List ContractState → Prop
  | createClient {msg : MsgCreateClient} {host : Host} {clientState : ClientState}
    {clientType : ClientType} (hhost : ctx.getInput Host = .ok host)
    (hstate : host.createClientState P msg.clientState msg.consensusState = .ok clientState)
    (htype : clientState.clientType P = .ok clientType) :
    Executes P ctx signers (.handleClientCreate msg)
      [.host (host.generateClientIdentifier clientType).1,
        .client (.create host (host.generateClientIdentifier clientType).2 clientState)]
  | updateClient {identifier : Identifier} {header : Header} {client : IbcClientState}
    {result : ClientState} (hclient : ctx.getInput IbcClientState = .ok client)
    (hid : client.id = identifier)
    (hresult : client.impl.checkHeaderAndUpdateState P header = .ok result) :
    Executes P ctx signers (.handleClientUpdate identifier header) [.client (client.update result)]
  | connOpenInit {msg : MsgConnectionOpenInit} {host : Host} {client : IbcClientState}
    (hhost : ctx.getInput Host = .ok host) (hclient : ClientOf ctx msg.clientId client)
    (hversion : ∀ v, msg.version = some v → v = VERSION) :
    Executes P ctx signers (.handleConnOpenInit msg)
      [.host host.generateConnectionIdentifier.1,
        .connection (.create host host.generateConnectionIdentifier.2
          { clientId := msg.clientId, versionsList := [VERSION], state := .init
            counterparty := msg.counterparty, delayPeriod := msg.delayPeriod })]
  | connOpenTry {msg : MsgConnectionOpenTry} {host nextHost : Host} {id : Identifier}
    {client : IbcClientState} {previousVersions : List Connection.Version}
    {version : Connection.Version} (hhost : ctx.getInput Host = .ok host)
    (hclient : ClientOf ctx msg.clientId client)
    (hprevious : Handler.connOpenTry.previous ctx host msg = .ok (nextHost, id, previousVersions))
    (hheight : msg.consensusHeight = HEIGHT)
    (hsupported : version ∈ if previousVersions.isEmpty then [VERSION] else previousVersions)
    (hversion : version ∈ msg.counterpartyVersionsList)
    (hconn : ProvesConnection P client msg.proofHeight msg.counterparty.prefix_ msg.proofInit
      msg.counterparty.connectionId msg.expected)
    (hstate : ProvesClient P client msg.proofHeight msg.counterparty.prefix_ msg.proofClient
      msg.counterparty.clientId msg.clientState)
    (hconsensus : ProvesConsensus P client msg.proofHeight msg.counterparty.prefix_
      msg.proofConsensus msg.counterparty.clientId HEIGHT Host.defaultConsensusState) :
    Executes P ctx signers (.handleConnOpenTry msg)
      [.host nextHost, .connection (.create host id (msg.toEnd version))]
  | connOpenAck {msg : MsgConnectionOpenAck} {conn : IbcConnection} {client : IbcClientState}
    (hconn : ctx.getInput IbcConnection = .ok conn) (hid : conn.id.id = msg.connectionId)
    (hclient : ClientOf ctx conn.end_.clientId client) (hheight : msg.consensusHeight = HEIGHT)
    (hversion : conn.end_.state = .init ∧ msg.version = VERSION ∨
      conn.end_.state = .tryOpen ∧ conn.end_.versionsList = [msg.version])
    (hproof : ProvesConnection P client msg.proofHeight conn.end_.counterparty.prefix_ msg.proofTry
      msg.counterpartyConnectionId (conn.expectedTry msg.version))
    (hstate : ProvesClient P client msg.proofHeight conn.end_.counterparty.prefix_ msg.proofClient
      conn.end_.counterparty.clientId msg.clientState)
    (hconsensus : ProvesConsensus P client msg.proofHeight conn.end_.counterparty.prefix_
      msg.proofConsensus conn.end_.counterparty.clientId HEIGHT Host.defaultConsensusState) :
    Executes P ctx signers (.handleConnOpenAck msg)
      [.connection (conn.acked msg.counterpartyConnectionId msg.version)]
  | connOpenConfirm {msg : MsgConnectionOpenConfirm} {conn : IbcConnection}
    {client : IbcClientState} (hconn : ctx.getInput IbcConnection = .ok conn)
    (hid : conn.id.id = msg.connectionId) (hclient : ClientOf ctx conn.end_.clientId client)
    (htry : conn.end_.state = .tryOpen)
    (hproof : ProvesConnection P client msg.proofHeight conn.end_.counterparty.prefix_ msg.proofAck
      conn.end_.counterparty.connectionId conn.expectedOpen) :
    Executes P ctx signers (.handleConnOpenConfirm msg) [.connection conn.confirmed]
  | chanOpenInit {msg : MsgChannelOpenInit} {host : Host} {conn : IbcConnection}
    {version : Connection.Version} {port : Identifier} (hhost : ctx.getInput Host = .ok host)
    (hconn : ConnOf ctx msg.channel.connectionHopsList conn)
    (hversions : conn.end_.versionsList = [version])
    (hordering : msg.channel.ordering.name ∈ version.featuresList) (hport : port.id = msg.portId) :
    Executes P ctx signers (.handleChanOpenInit msg)
      [.host host.generateChannelIdentifier.1,
        .channel (.create host port host.generateChannelIdentifier.2
          { msg.channel with state := .init })]
  | chanOpenTry {msg : MsgChannelOpenTry} {host : Host} {conn : IbcConnection}
    {client : IbcClientState} {version : Connection.Version} {port : Identifier}
    (hhost : ctx.getInput Host = .ok host)
    (hconn : ConnOf ctx msg.channel.connectionHopsList conn)
    (hclient : ClientOf ctx conn.end_.clientId client) (hnew : msg.previousChannelId = "")
    (hopen : conn.end_.state = .opened) (hversions : conn.end_.versionsList = [version])
    (hordering : msg.channel.ordering.name ∈ version.featuresList)
    (hproof : ProvesChannel P client msg.proofHeight conn.end_.counterparty.prefix_ msg.proofInit
      msg.channel.counterparty.portId msg.channel.counterparty.channelId (msg.expected conn))
    (hport : port.id = msg.portId) :
    Executes P ctx signers (.handleChanOpenTry msg)
      [.host host.generateChannelIdentifier.1,
        .channel (.create host port host.generateChannelIdentifier.2
          { msg.channel with state := .tryOpen })]
  | chanOpenTryPrevious {msg : MsgChannelOpenTry} {host : Host} {previous : IbcChannel}
    {conn : IbcConnection} {client : IbcClientState} {version : Connection.Version}
    {port : Identifier} (hhost : ctx.getInput Host = .ok host)
    (hconn : ConnOf ctx msg.channel.connectionHopsList conn)
    (hclient : ClientOf ctx conn.end_.clientId client) (hnamed : msg.previousChannelId ≠ "")
    (hprevious : ctx.getInput IbcChannel = .ok previous)
    (hid : previous.id.id = msg.previousChannelId) (hinit : previous.end_.state = .init)
    (hfields : previous.end_.ordering = msg.channel.ordering ∧
      previous.end_.counterparty.portId = msg.channel.counterparty.portId ∧
      previous.end_.counterparty.channelId = "" ∧
      (∃ rest, previous.end_.connectionHopsList = conn.id.id :: rest) ∧
      previous.end_.version = msg.channel.version)
    (hopen : conn.end_.state = .opened) (hversions : conn.end_.versionsList = [version])
    (hordering : msg.channel.ordering.name ∈ version.featuresList)
    (hproof : ProvesChannel P client msg.proofHeight conn.end_.counterparty.prefix_ msg.proofInit
      msg.channel.counterparty.portId msg.channel.counterparty.channelId (msg.expected conn))
    (hport : port.id = msg.portId) :
    Executes P ctx signers (.handleChanOpenTry msg)
      [.host host,
        .channel ((IbcChannel.create host port previous.id
          { msg.channel with state := .tryOpen }).withCounters previous)]
  | chanOpenAck {msg : MsgChannelOpenAck} {chan : IbcChannel} {conn : IbcConnection}
    {client : IbcClientState} (hchan : ctx.getInput IbcChannel = .ok chan)
    (hport : chan.portId.id = msg.portId) (hid : chan.id.id = msg.channelId)
    (hconn : ConnOf ctx chan.end_.connectionHopsList conn)
    (hclient : ClientOf ctx conn.end_.clientId client)
    (hstate : chan.end_.state = .init ∨ chan.end_.state = .tryOpen)
    (hopen : conn.end_.state = .opened)
    (hproof : ProvesChannel P client msg.proofHeight conn.end_.counterparty.prefix_ msg.proofTry
      chan.end_.counterparty.portId msg.counterpartyChannelId
      (chan.expected conn .tryOpen msg.counterpartyVersion)) :
    Executes P ctx signers (.handleChanOpenAck msg)
      [.channel (chan.acked msg.counterpartyChannelId msg.counterpartyVersion)]
  | chanOpenConfirm {msg : MsgChannelOpenConfirm} {chan : IbcChannel} {conn : IbcConnection}
    {client : IbcClientState} (hchan : ctx.getInput IbcChannel = .ok chan)
    (hport : chan.portId.id = msg.portId) (hid : chan.id.id = msg.channelId)
    (hconn : ConnOf ctx chan.end_.connectionHopsList conn)
    (hclient : ClientOf ctx conn.end_.clientId client) (hstate : chan.end_.state = .tryOpen)
    (hopen : conn.end_.state = .opened)
    (hproof : ProvesChannel P client msg.proofHeight conn.end_.counterparty.prefix_ msg.proofAck
      chan.end_.counterparty.portId chan.end_.counterparty.channelId
      (chan.expected conn .opened chan.end_.version)) :
    Executes P ctx signers (.handleChanOpenConfirm msg) [.channel (chan.withState .opened)]
  | chanCloseInit {msg : MsgChannelCloseInit} {chan : IbcChannel} {conn : IbcConnection}
    (hchan : ctx.getInput IbcChannel = .ok chan) (hport : chan.portId.id = msg.portId)
    (hid : chan.id.id = msg.channelId) (hconn : ConnOf ctx chan.end_.connectionHopsList conn)
    (hstate : chan.end_.state ≠ .closed) (hopen : conn.end_.state = .opened) :
    Executes P ctx signers (.handleChanCloseInit msg) [.channel (chan.withState .closed)]
  | chanCloseConfirm {msg : MsgChannelCloseConfirm} {chan : IbcChannel} {conn : IbcConnection}
    {client : IbcClientState} (hchan : ctx.getInput IbcChannel = .ok chan)
    (hport : chan.portId.id = msg.portId) (hid : chan.id.id = msg.channelId)
    (hconn : ConnOf ctx chan.end_.connectionHopsList conn)
    (hclient : ClientOf ctx conn.end_.clientId client) (hstate : chan.end_.state ≠ .closed)
    (hopen : conn.end_.state = .opened)
    (hproof : ProvesChannel P client msg.proofHeight conn.end_.counterparty.prefix_ msg.proofInit
      chan.end_.counterparty.portId chan.end_.counterparty.channelId
      (chan.expected conn .closed chan.end_.version)) :
    Executes P ctx signers (.handleChanCloseConfirm msg) [.channel (chan.withState .closed)]
  | sendPacket {anyMsg : Any} {host : Host} {chan : IbcChannel} {packet : Packet}
    {module_ : Module} {outs : List ContractState} (hhost : ctx.getReference Host = .ok host)
    (hmodule : host.lookupModule chan.portId = .ok module_)
    (heffect : SendEffect P ctx signers anyMsg chan packet module_ outs)
    (hsend : Sends P ctx packet chan) :
    Executes P ctx signers (.createOutgoingPacket anyMsg) (outs ++ [.channel (chan.sent packet)])
  | recvPacket {msg : MsgRecvPacket} {host : Host} {port : Identifier} {chan chan' : IbcChannel}
    {module_ : Module} {ack : Acknowledgement} {outs : List ContractState}
    (hhost : ctx.getReference Host = .ok host) (hport : port.id = msg.packet.destinationPort)
    (hmodule : host.lookupModule port = .ok module_)
    (heffect : RecvEffect P ctx msg.packet module_ ack outs)
    (hrecv : Receives P ctx msg ack chan chan') :
    Executes P ctx signers (.handlePacketRecv msg) (outs ++ [.channel chan'])
  | acknowledgePacket {msg : MsgAcknowledgement} {host : Host} {port : Identifier}
    {chan chan' : IbcChannel} {module_ : Module} {ack : Acknowledgement}
    {outs : List ContractState} (hhost : ctx.getReference Host = .ok host)
    (hport : port.id = msg.packet.destinationPort)
    (hmodule : host.lookupModule port = .ok module_)
    (hack : P.toAcknowledgement msg.acknowledgement = .ok ack)
    (heffect : AckEffect P ctx msg.packet module_ ack outs)
    (hacks : Acknowledges P ctx msg ack chan chan') :
    Executes P ctx signers (.handlePacketAcknowledgement msg)
      (outs ++ [.channel (chan'.settled msg.packet)])

end CordaIbc
