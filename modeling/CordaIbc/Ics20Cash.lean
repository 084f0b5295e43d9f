import CordaIbc.Ics20

/-!
# The cash-based transfer module (ics20cash/Module.kt, ics20cash/ModuleCallbacks.kt)

Here the native tokens are `Cash` states, which a transfer moves to the owner of the bank, and the
foreign ones are `Voucher` states.
-/

namespace CordaIbc

open ChannelOuterClass (Channel Packet Acknowledgement)

namespace Ics20Cash

variable (P : Platform) (ctx : Context)

/-- `states.map{it.owner}.distinct().single()`. -/
def singleOwner (owners : List AbstractParty) : Result AbstractParty := single owners.dedup

/-- The checks a sum of cash passes against a denomination; the amount is to be transferred. -/
def checkCash (cashSum amount : TokenAmount Issued) (denom : Denom) : Result Unit := do
  require (cashSum.token.issuerParty.owningKey = (← denom.issuerKey P.toCrypto))
    "Issuers specified by Denom and Cash must be equal"
  require (cashSum.token.product = (← denom.currency P.toCrypto))
    "Currencies specified by Denom and Cash must be equal"
  require ((← cashSum.geq amount) = true)
    "Cash amount must be greater than or equal to an amount to be transferred"

/-- `Cash.State(amount, newOwner)`, and the change. -/
def payCash (cashSum amount : TokenAmount Issued) (newOwner changeOwner : AbstractParty) :
    Result Context := do
  let ctx ← ctx.addOutput (Cash.mk amount newOwner)
  if (← cashSum.gt amount) then
    ctx.addOutput (Cash.mk (← cashSum.minus amount) changeOwner)
  else
    .ok ctx

/-- The denomination a transfer names: an `ibc/` hash is looked up in the bank. -/
def resolveToken (bank : CashBank) (denom : String) : Result Denom :=
  if DenomPath.hasPrefixes denom ["ibc"] then bank.resolveDenom denom
  else .ok (Denom.fromString denom)

/-- The source branch of `createOutgoingPacket`: cash of the sender goes to the bank's owner. -/
def lockCash (bank : CashBank) (sender : Address) (denom : Denom) (quantity : Int) :
    Result Context := do
  require (denom.isVoucher = false) "Vouchers cannot be transferred to yet another blockchain"
  -- verify cash owner
  let cashes := ctx.getInputs Cash
  let cashOwner ← singleOwner (cashes.map (·.owner))
  require (cashOwner.owningKey = (← sender.toPublicKey P.toCrypto))
    "A sender's cashes must be consumed"
  -- verify denom & amount
  let cashSum ← TokenAmount.sumOrThrow (cashes.map (·.amount))
  let amount ← TokenAmount.fromDecimal (BigDecimal.ofLong quantity)
    (P.defaultFractionDigits cashSum.token.product) cashSum.token
  checkCash P cashSum amount denom
  -- lock assets = transfer Cash from sender to Bank user
  let ctx ← ctx.addOutput bank
  payCash ctx cashSum amount bank.owner cashOwner

/-- The other branch: vouchers of the sender are burned. -/
def burnVouchers (bank : CashBank) (sender : Address) (denom : Denom) (quantity : Int) :
    Result Context := do
  -- verify voucher owner
  let vouchers := ctx.getInputs Voucher
  let voucherOwner ← singleOwner (vouchers.map (·.owner))
  require (voucherOwner.owningKey = (← sender.toPublicKey P.toCrypto))
    "A sender's vouchers must be consumed"
  -- verify denom & amount
  let voucherSum ← TokenAmount.sumOrThrow (vouchers.map (·.amount))
  let amount ← TokenAmount.fromDecimal (BigDecimal.ofLong quantity) 0 voucherSum.token
  require (voucherSum.token = denom.denomTrace)
    "Denominations specified by Denom and Voucher must be equal"
  require ((← voucherSum.geq amount) = true)
    "Voucher amount must be greater than or equal to an amount to be transferred"
  -- burn vouchers
  let ctx ← ctx.addOutput (← bank.burn denom quantity)
  if (← voucherSum.gt amount) then
    ctx.addOutput (Voucher.mk bank.baseId (← voucherSum.minus amount) voucherOwner)
  else
    .ok ctx

/-- The two branches of a send. -/
def debit (bank : CashBank) (source : Bool) (sender : Address) (denom : Denom) (quantity : Int) :
    Result Context :=
  if source then lockCash P ctx bank sender denom quantity
  else burnVouchers P ctx bank sender denom quantity

def createOutgoingPacket (signers : List PublicKey) (anyMsg : Any) : Result Context := do
  let msg ← P.unpackMsgTransfer anyMsg
  let quantity ← toLong msg.token.amount
  let sender ← Address.fromBech32 P.toCrypto msg.sender
  let sourcePort ← Identifier.of msg.sourcePort
  let sourceChannel ← Identifier.of msg.sourceChannel
  -- resolve real denom
  let bank ← ctx.getInput CashBank
  let denom ← resolveToken bank msg.token.denom
  let source := !denom.hasPrefix sourcePort sourceChannel
  let ctx ← debit P ctx bank source sender denom quantity
  let channel ← ctx.getInput IbcChannel
  let ctx ← Handler.sendPacket P ctx (Ics20.transferPacket P msg denom channel)
  require ((← sender.toPublicKey P.toCrypto) ∈ signers) "A sender must sign on this tx"
  .ok ctx

/-- Cash of the bank's owner, checked against a denomination, with the amount to pay out of it. -/
def bankCash (bank : CashBank) (denom : Denom) (quantity : String) :
    Result (TokenAmount Issued × TokenAmount Issued) := do
  -- verify cash owner
  let cashes := ctx.getInputs Cash
  let cashOwner ← singleOwner (cashes.map (·.owner))
  require (cashOwner = bank.owner)
  -- verify denom & amount
  let cashSum ← TokenAmount.sumOrThrow (cashes.map (·.amount))
  let amount ← TokenAmount.fromDecimal (← BigDecimal.ofString quantity)
    (P.defaultFractionDigits cashSum.token.product) cashSum.token
  require (denom.isVoucher = false)
  checkCash P cashSum amount denom
  .ok (cashSum, amount)

def onRecvPacket (packet : Packet) : Result (Context × Acknowledgement) := do
  let data ← P.toFungibleTokenPacketData packet.data
  let denom := Denom.fromString data.denom
  let quantity := data.amount
  let receiver ← Address.fromBech32 P.toCrypto data.receiver
  let bank ← ctx.getInput CashBank
  let source := denom.hasPrefix (← Identifier.of packet.sourcePort)
    (← Identifier.of packet.sourceChannel)
  if source then do
    let (cashSum, amount) ← bankCash P ctx bank (← denom.removePrefix) quantity
    -- unlock assets = transfer Cash from Bank user to receiver
    let ctx ← ctx.addOutput bank
    let ctx ← payCash ctx cashSum amount ⟨← receiver.toPublicKey P.toCrypto⟩ bank.owner
    .ok (ctx, successAck)
  else do
    require (denom.isVoucher = false)
    let denom := denom.addPath (← Identifier.of packet.destinationPort)
      (← Identifier.of packet.destinationChannel)
    -- mint voucher
    let (bank, voucher) ←
      (bank.recordDenom P.toCrypto denom).mint P.toCrypto receiver denom (← toBigInteger quantity)
    let ctx ← ctx.addOutput bank
    let ctx ← ctx.addOutput voucher
    .ok (ctx, successAck)

def refundTokens (packet : Packet) : Result Context := do
  let data ← P.toFungibleTokenPacketData packet.data
  let denom := Denom.fromString data.denom
  let quantity := data.amount
  let sender ← Address.fromBech32 P.toCrypto data.sender
  let bank ← ctx.getInput CashBank
  let source := !denom.hasPrefix (← Identifier.of packet.sourcePort)
    (← Identifier.of packet.sourceChannel)
  if source then do
    let (cashSum, amount) ← bankCash P ctx bank denom quantity
    -- unlock assets = refund Cash from Bank user to sender; the bank is not an output
    payCash ctx cashSum amount ⟨← sender.toPublicKey P.toCrypto⟩ bank.owner
  else do
    require (denom.isVoucher = true)
    -- re-mint voucher
    let (bank, voucher) ← bank.mint P.toCrypto sender denom (← toBigInteger quantity)
    let ctx ← ctx.addOutput bank
    ctx.addOutput voucher

def onAcknowledgePacket (packet : Packet) (acknowledgement : Acknowledgement) : Result Context :=
  match acknowledgement with
  | .result _ => do ctx.addOutput (← ctx.getInput CashBank)
  | .error _ => refundTokens P ctx packet
  | .notSet => .error (.illegalArgument "null")

end Ics20Cash

end CordaIbc
