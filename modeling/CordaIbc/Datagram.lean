import CordaIbc.Ics20Cash

/-!
# Datagrams (ics26/*.kt)

The sixteen datagram handlers and the modules ports are bound to. `execute` is what a transaction
with a datagram command runs.
-/

namespace CordaIbc

open ChannelOuterClass (Channel Packet Acknowledgement)

namespace Module

variable (P : Platform)

def createOutgoingPacket (ctx : Context) (signers : List PublicKey) (anyMsg : Any) :
    Module → Result Context
  | nop => do Handler.sendPacket P ctx (← P.unpackPacket anyMsg)
  | ics20 => Ics20.createOutgoingPacket P ctx anyMsg
  | ics20cash => Ics20Cash.createOutgoingPacket P ctx signers anyMsg

/-- `module.callbacks.onRecvPacket(ctx, packet)`. -/
def onRecvPacket (ctx : Context) (packet : Packet) : Module → Result (Context × Acknowledgement)
  | nop => .ok (ctx, Acknowledgement.default)
  | ics20 => Ics20.onRecvPacket P ctx packet
  | ics20cash => Ics20Cash.onRecvPacket P ctx packet

/-- `module.callbacks.onAcknowledgePacket(ctx, packet, acknowledgement)`. -/
def onAcknowledgePacket (ctx : Context) (packet : Packet) (acknowledgement : Acknowledgement) :
    Module → Result Context
  | nop => .ok ctx
  | ics20 => Ics20.onAcknowledgePacket P ctx packet acknowledgement
  | ics20cash => Ics20Cash.onAcknowledgePacket P ctx packet acknowledgement

end Module

inductive DatagramHandler where
  | handleClientCreate (msg : MsgCreateClient)
  | handleClientUpdate (identifier : Identifier) (header : Header)
  | handleClientMisbehaviour (identifier : Identifier) (misbehaviour : Misbehaviour)
  | handleConnOpenInit (msg : MsgConnectionOpenInit)
  | handleConnOpenTry (msg : MsgConnectionOpenTry)
  | handleConnOpenAck (msg : MsgConnectionOpenAck)
  | handleConnOpenConfirm (msg : MsgConnectionOpenConfirm)
  | handleChanOpenInit (msg : MsgChannelOpenInit)
  | handleChanOpenTry (msg : MsgChannelOpenTry)
  | handleChanOpenAck (msg : MsgChannelOpenAck)
  | handleChanOpenConfirm (msg : MsgChannelOpenConfirm)
  | handleChanCloseInit (msg : MsgChannelCloseInit)
  | handleChanCloseConfirm (msg : MsgChannelCloseConfirm)
  | handlePacketRecv (msg : MsgRecvPacket)
  | handlePacketAcknowledgement (msg : MsgAcknowledgement)
  | createOutgoingPacket (anyMsg : Any)

namespace Datagram

variable (P : Platform) (ctx : Context)

/-- `HandleClientUpdate.execute`. -/
def clientUpdate (identifier : Identifier) (header : Header) : Result Context := do
  let client ← ctx.getInput IbcClientState
  require (client.id = identifier)
  let result ← client.impl.checkHeaderAndUpdateState P header
  ctx.addOutput (client.update result)

/-- `HandleClientMisbehaviour.execute`. -/
def clientMisbehaviour (identifier : Identifier) (misbehaviour : Misbehaviour) :
    Result Context := do
  let client ← ctx.getInput IbcClientState
  require (client.id = identifier)
  let result ← client.impl.checkMisbehaviourAndUpdateState misbehaviour
  ctx.addOutput (client.update result)

/-- `HandlePacketRecv.execute`. -/
def packetRecv (msg : MsgRecvPacket) : Result Context := do
  let host ← ctx.getReference Host
  let module_ ← host.lookupModule (← Identifier.of msg.packet.destinationPort)
  let (ctx, acknowledgement) ← module_.onRecvPacket P ctx msg.packet
  Handler.recvPacket P ctx msg.packet (← CommitmentProof.of msg.proofCommitment) msg.proofHeight
    acknowledgement

/-- `HandlePacketAcknowledgement.execute`: the module is looked up by the destination port. -/
def packetAcknowledgement (msg : MsgAcknowledgement) : Result Context := do
  let host ← ctx.getReference Host
  let module_ ← host.lookupModule (← Identifier.of msg.packet.destinationPort)
  let ack ← P.toAcknowledgement msg.acknowledgement
  let ctx ← module_.onAcknowledgePacket P ctx msg.packet ack
  Handler.acknowledgePacket P ctx msg.packet ack (← CommitmentProof.of msg.proofAcked)
    msg.proofHeight

/-- `CreateOutgoingPacket.execute`. -/
def outgoingPacket (signers : List PublicKey) (anyMsg : Any) : Result Context := do
  let host ← ctx.getReference Host
  let chan ← ctx.getInput IbcChannel
  let module_ ← host.lookupModule chan.portId
  module_.createOutgoingPacket P ctx signers anyMsg

end Datagram

/-- `handler.execute(ctx, signers)`. -/
def DatagramHandler.execute (P : Platform) (ctx : Context) (signers : List PublicKey) :
    DatagramHandler → Result Context
  | handleClientCreate msg => Handler.createClient P ctx msg
  | handleClientUpdate identifier header => Datagram.clientUpdate P ctx identifier header
  | handleClientMisbehaviour identifier misbehaviour =>
    Datagram.clientMisbehaviour ctx identifier misbehaviour
  | handleConnOpenInit msg => Handler.connOpenInit ctx msg
  | handleConnOpenTry msg => Handler.connOpenTry P ctx msg
  | handleConnOpenAck msg => Handler.connOpenAck P ctx msg
  | handleConnOpenConfirm msg => Handler.connOpenConfirm P ctx msg
  | handleChanOpenInit msg => Handler.chanOpenInit ctx msg
  | handleChanOpenTry msg => Handler.chanOpenTry P ctx msg
  | handleChanOpenAck msg => Handler.chanOpenAck P ctx msg
  | handleChanOpenConfirm msg => Handler.chanOpenConfirm P ctx msg
  | handleChanCloseInit msg => Handler.chanCloseInit ctx msg
  | handleChanCloseConfirm msg => Handler.chanCloseConfirm P ctx msg
  | handlePacketRecv msg => Datagram.packetRecv P ctx msg
  | handlePacketAcknowledgement msg => Datagram.packetAcknowledgement P ctx msg
  | createOutgoingPacket anyMsg => Datagram.outgoingPacket P ctx signers anyMsg

end CordaIbc
