import CordaIbc.Handler

/-!
# The account-based transfer module (ics20/Module.kt, ics20/ModuleCallbacks.kt)

A transfer of a denomination that did not come through the channel locks it at the sender
(`source`); one that did burns the voucher. Receiving takes the opposite decision on the packet's
source end and answers with an acknowledgement; a refund takes the sender's decision again.
-/

namespace CordaIbc

open ChannelOuterClass (Channel Packet Acknowledgement)

/-- `try { x } catch (e: IllegalArgumentException) { handler(e.message) }`. -/
def catchIllegalArgument {α : Type} (x : Result α) (handler : String → Result α) : Result α :=
  match x with
  | .error (.illegalArgument message) => handler message
  | r => r

/-- The result bytes of a success acknowledgement. -/
def successAck : Acknowledgement := .result [1]

namespace Ics20

variable (P : Platform) (ctx : Context)

/-- The denomination a transfer names: an `ibc/` hash is looked up in the bank. -/
def resolveToken (bank : Bank) (denom : String) : Result Denom :=
  if DenomPath.hasPrefixes denom ["ibc"] then bank.resolveDenom denom
  else .ok (Denom.fromString denom)

/-- The packet of a transfer message on a channel. -/
def transferPacket (msg : MsgTransfer) (denom : Denom) (channel : IbcChannel) : Packet :=
  let data : FungibleTokenPacketData :=
    { denom := denom.toString, amount := msg.token.amount, sender := msg.sender
      receiver := msg.receiver }
  { sequence := channel.nextSequenceSend
    sourcePort := msg.sourcePort, sourceChannel := msg.sourceChannel
    destinationPort := channel.end_.counterparty.portId
    destinationChannel := channel.end_.counterparty.channelId
    data := P.toJson data, timeoutHeight := msg.timeoutHeight
    timeoutTimestamp := msg.timeoutTimestamp }

/-- The bank after a send: locked at the source, burned otherwise. -/
def debit (bank : Bank) (source : Bool) (sender : Address) (denom : Denom) (amount : Int) :
    Result Bank :=
  if source then bank.lock sender denom amount else bank.burn sender denom amount

def createOutgoingPacket (anyMsg : Any) : Result Context := do
  let msg ← P.unpackMsgTransfer anyMsg
  let amount ← toBigInteger msg.token.amount
  let sender ← Address.fromBech32 P.toCrypto msg.sender
  let sourcePort ← Identifier.of msg.sourcePort
  let sourceChannel ← Identifier.of msg.sourceChannel
  let bank ← ctx.getInput Bank
  let denom ← resolveToken bank msg.token.denom
  let source := !denom.hasPrefix sourcePort sourceChannel
  let ctx ← ctx.addOutput (← debit bank source sender denom amount)
  let channel ← ctx.getInput IbcChannel
  Handler.sendPacket P ctx (transferPacket P msg denom channel)

/-- The bank after an accepted receive. -/
def credit (bank : Bank) (source : Bool) (packet : Packet) (receiver : Address) (denom : Denom)
    (amount : Int) : Result Bank :=
  if source then do
    let unprefixedDenom ← denom.removePrefix
    bank.unlock receiver unprefixedDenom amount
  else do
    let prefixedDenom := denom.addPath (← Identifier.of packet.destinationPort)
      (← Identifier.of packet.destinationChannel)
    .ok ((bank.recordDenom P.toCrypto prefixedDenom).mint receiver prefixedDenom amount)

def onRecvPacket (packet : Packet) : Result (Context × Acknowledgement) := do
  let data ← P.toFungibleTokenPacketData packet.data
  let denom := Denom.fromString data.denom
  let amount ← toBigInteger data.amount
  let receiver ← Address.fromBech32 P.toCrypto data.receiver
  let source := denom.hasPrefix (← Identifier.of packet.sourcePort)
    (← Identifier.of packet.sourceChannel)
  let bank ← ctx.getInput Bank
  catchIllegalArgument
    (do let ctx ← ctx.addOutput (← credit P bank source packet receiver denom amount)
        .ok (ctx, successAck))
    fun message => do
      let ctx ← ctx.addOutput bank
      .ok (ctx, .error message)

/-- The bank after a refund. -/
def refund (bank : Bank) (source : Bool) (sender : Address) (denom : Denom) (amount : Int) :
    Result Bank :=
  if source then bank.unlock sender denom amount else .ok (bank.mint sender denom amount)

def refundTokens (packet : Packet) : Result Context := do
  let data ← P.toFungibleTokenPacketData packet.data
  let denom := Denom.fromString data.denom
  let amount ← toBigInteger data.amount
  let sender ← Address.fromBech32 P.toCrypto data.sender
  let source := !denom.hasPrefix (← Identifier.of packet.sourcePort)
    (← Identifier.of packet.sourceChannel)
  let bank ← ctx.getInput Bank
  ctx.addOutput (← refund bank source sender denom amount)

def onAcknowledgePacket (packet : Packet) (acknowledgement : Acknowledgement) : Result Context :=
  match acknowledgement with
  | .result _ => do ctx.addOutput (← ctx.getInput Bank)
  | .error _ => refundTokens P ctx packet
  | .notSet => .error (.illegalArgument "null")

end Ics20

end CordaIbc
