import CordaIbc.Ledger
import CordaIbc.PrepareSpend

/-!
# Flows (workflows/flows)

A flow runs on one node. It finds the states of a host in the vault of the node, runs the handler of
its datagram on them, and builds the transaction that consumes what it read and outputs what the
handler put out. `ServiceHub` and `TransactionBuilder` are what flows use of Corda.
-/

namespace CordaIbc

open ChannelOuterClass (Packet)
open StateClass

/-! ## The node -/

/-- `state.participants`, of the states of this repository and of cash. -/
def ContractState.participants? : ContractState → Option (List AbstractParty)
  | genesis s => some s.participants
  | host s => some s.participants
  | client s => some s.participants
  | connection s => some s.participants
  | channel s => some s.participants
  | bank s => some s.participants
  | cashBank s => some s.participants
  | voucher s => some [s.owner]
  | cash s => some [s.owner]
  | other _ => none

/-- `StateAndRef<T>`. -/
structure Found (T : Type) where
  data : T
  notary : Party
  ref : StateRef

namespace Found
variable {T : Type} [StateClass T]

def stateAndRef (found : Found T) : StateAndRef := ⟨⟨up found.data, found.notary⟩, found.ref⟩

def stored (found : Found T) : Stored T := ⟨found.data, found.ref⟩

end Found

structure ServiceHub where
  ourIdentity : Party
  /-- The unconsumed states of the vault. -/
  states : List StateAndRef
  distinct : (states.map (·.ref)).Nodup
  /-- `networkMapCache.notaryIdentities`. -/
  notaryIdentities : List Party
  /-- `identityService.partyFromKey`. -/
  partyFromKey : PublicKey → Option Party

/-- `states.singleOrNull()`. -/
def singleOrNull {α : Type} : List α → Option α
  | [a] => some a
  | _ => none

namespace ServiceHub

variable (C : Crypto) (hub : ServiceHub)

section
variable (T : Type) [StateClass T]

/-- `queryBy<T>()`. -/
def queryBy : List (Found T) :=
  hub.states.filterMap fun s => (cast? s.state.data).map fun t => ⟨t, s.state.notary, s.ref⟩

/-- `queryBy<T>` for the linear states with an external id, which is printed from the base id. -/
def queryLinear (baseId : StateRef) : List (Found T) :=
  (hub.queryBy T).filter fun found => (up found.data).ibc?.any fun i => i.baseId = baseId

/-- `queryIbcState<T>(baseId, id)`. -/
def queryIbcState (baseId : StateRef) (id : Identifier) : Option (Found T) :=
  singleOrNull <| (hub.queryLinear T baseId).filter fun found =>
    (up found.data).ibc?.any fun i => i.linearId C = C.nameUUIDFromBytes id.id

end

def queryIbcGenesis (baseId : StateRef) : Option (Found Genesis) :=
  singleOrNull ((hub.queryBy Genesis).filter fun found => found.ref = baseId)

def queryIbcHost (baseId : StateRef) : Option (Found Host) :=
  singleOrNull (hub.queryLinear Host baseId)

def queryIbcBank (baseId : StateRef) : Option (Found Bank) :=
  singleOrNull (hub.queryLinear Bank baseId)

def queryIbcCashBank (baseId : StateRef) : Option (Found CashBank) :=
  singleOrNull (hub.queryLinear CashBank baseId)

theorem queryBy_refs (T : Type) [StateClass T] :
    List.Sublist ((hub.queryBy T).map (·.ref)) (hub.states.map (·.ref)) := by
  unfold queryBy
  induction hub.states with
  | nil => exact List.Sublist.refl _
  | cons s states ih =>
    rw [List.filterMap_cons, List.map_cons]
    cases (cast? s.state.data : Option T) with
    | none => exact ih.cons _
    | some t => exact ih.cons_cons _

theorem coins_nodup (T : Type) [StateClass T] :
    (((hub.queryBy T).map Found.stored).map Stored.ref).Nodup := by
  rw [List.map_map]
  exact (hub.queryBy_refs T).nodup hub.distinct

/-- The coins of the vault, as `prepareCoins` sees them. -/
def coins (T : Type) [StateClass T] : Vault T :=
  ⟨(hub.queryBy T).map Found.stored, hub.coins_nodup T⟩

/-- The coins that `prepareCoins` chose, as they are in the vault. -/
def chosen {T : Type} (coins : List (Stored T)) : List StateAndRef :=
  coins.filterMap fun coin => hub.states.find? fun s => s.ref = coin.ref

end ServiceHub

/-! ## The transaction builder -/

structure TransactionBuilder where
  notary : Party
  inputs : List StateAndRef := []
  references : List StateAndRef := []
  outputs : List ContractState := []
  commands : List CommandWithParties := []

namespace TransactionBuilder
variable (builder : TransactionBuilder)

def addCommand (value : CommandData) (signers : List PublicKey) : TransactionBuilder :=
  { builder with commands := builder.commands ++ [⟨value, signers⟩] }

/-- `states.forEach{builder.addInputState(it)}`, which takes only states of the builder's notary. -/
def addInputStates (states : List StateAndRef) : Result TransactionBuilder := do
  require (∀ s ∈ states, s.state.notary = builder.notary)
    "Input state requires a notary which does not match the transaction notary"
  .ok { builder with inputs := builder.inputs ++ states }

/-- `states.forEach{builder.addReferenceState(ReferencedStateAndRef(it))}`, on the same terms. -/
def addReferenceStates (states : List StateAndRef) : Result TransactionBuilder := do
  require (∀ s ∈ states, s.state.notary = builder.notary)
    "Input state requires a notary which does not match the transaction notary"
  .ok { builder with references := builder.references ++ states }

def addOutputStates (states : List ContractState) : TransactionBuilder :=
  { builder with outputs := builder.outputs ++ states }

/-- The transaction under the id that Corda gives it. -/
def toLedgerTransaction (id : SecureHash) : LedgerTransaction :=
  { id, notary := builder.notary, inputs := builder.inputs, references := builder.references
    outputs := builder.outputs, commands := builder.commands }

end TransactionBuilder

/-- `message.pack()`, for the messages that flows pack. -/
structure Packing where
  packet : Packet → Any
  transfer : MsgTransfer → Any

/-! ## Common steps -/

section
variable (P : Platform) (hub : ServiceHub)

/-- `TransactionBuilder(networkMapCache.notaryIdentities.single())`. -/
def ServiceHub.newBuilder : Result TransactionBuilder := do
  .ok { notary := ← single hub.notaryIdentities }

/-- `require(participants.contains(ourIdentity))`. -/
def ServiceHub.requireParticipant (participants : List AbstractParty) : Result Unit :=
  require (hub.ourIdentity ∈ participants)

/-- The handler runs on the data of the states, and its outputs complete the transaction. -/
def ServiceHub.addDatagram (builder : TransactionBuilder) (handler : DatagramHandler)
    (inputs refs : List StateAndRef) : Result TransactionBuilder := do
  let signers := [hub.ourIdentity.owningKey]
  let ctx ← handler.execute P
    (.create (inputs.map (·.state.data)) (refs.map (·.state.data))) signers
  let builder := builder.addCommand (.datagram handler) signers
  let builder ← builder.addReferenceStates refs
  let builder ← builder.addInputStates inputs
  .ok (builder.addOutputStates ctx.outStates.states)

/-- A set-up command, its input and its outputs. -/
def ServiceHub.addMisc (builder : TransactionBuilder) (command : MiscCommands)
    (inputs : List StateAndRef) (outputs : List ContractState) : Result TransactionBuilder := do
  let builder := builder.addCommand (.misc command) [hub.ourIdentity.owningKey]
  let builder ← builder.addInputStates inputs
  .ok (builder.addOutputStates outputs)

end

variable (P : Platform) (M : Packing) (hub : ServiceHub)

/-! ## Set-up (ics24, ics20, ics20cash) -/

namespace IbcGenesisCreateFlow

def call (participants : List Party) : Result TransactionBuilder := do
  hub.requireParticipant participants
  hub.addMisc (← hub.newBuilder) .genesisCreate [] [.genesis ⟨participants⟩]

end IbcGenesisCreateFlow

namespace IbcHostCreateFlow

def call (baseId : StateRef) (moduleNames : List (Identifier × String))
    (clientStateFactoryNames : List (String × String)) : Result TransactionBuilder := do
  let builder ← hub.newBuilder
  let genesis ← notNull (hub.queryIbcGenesis baseId)
  hub.requireParticipant genesis.data.participants
  let host ← Host.create genesis.data genesis.ref genesis.notary moduleNames clientStateFactoryNames
  hub.addMisc builder (.hostCreate moduleNames clientStateFactoryNames) [genesis.stateAndRef]
    [.host host]

end IbcHostCreateFlow

namespace IbcBankCreateFlow

def call (baseId : StateRef) : Result TransactionBuilder := do
  let builder ← hub.newBuilder
  let host ← notNull (hub.queryIbcHost baseId)
  hub.requireParticipant host.data.participants
  let (newHost, newBank) ← MiscCommands.createBank host.data
  hub.addMisc builder .bankCreate [host.stateAndRef] [.host newHost, .bank newBank]

end IbcBankCreateFlow

namespace IbcCashBankCreateFlow

def call (baseId : StateRef) (bank : Party) : Result TransactionBuilder := do
  let builder ← hub.newBuilder
  let host ← notNull (hub.queryIbcHost baseId)
  hub.requireParticipant host.data.participants
  require (bank ∈ host.data.participants)
  let (newHost, newBank) ← MiscCommands.createCashBank host.data bank
  hub.addMisc builder (.cashBankCreate bank) [host.stateAndRef] [.host newHost, .cashBank newBank]

end IbcCashBankCreateFlow

namespace IbcFundAllocateFlow

def call (baseId : StateRef) (owner : Address) (denom : Denom) (amount : Int) :
    Result TransactionBuilder := do
  let builder ← hub.newBuilder
  let bank ← notNull (hub.queryIbcBank baseId)
  hub.requireParticipant bank.data.participants
  hub.addMisc builder (.fundAllocate owner denom amount) [bank.stateAndRef]
    [.bank (bank.data.allocate owner denom amount)]

end IbcFundAllocateFlow

/-! ## Clients and connections (ics2, ics3) -/

namespace ServiceHub

/-- The host of a base id, which the node must participate in. -/
def hostOf (baseId : StateRef) : Result (Found Host) := do
  let host ← notNull (hub.queryIbcHost baseId)
  hub.requireParticipant host.data.participants
  .ok host

/-- The state of a class under the identifier that a message or an end gives. -/
def stateOf (T : Type) [StateClass T] (baseId : StateRef) (id : String) : Result (Found T) := do
  notNull (hub.queryIbcState P.toCrypto T baseId (← Identifier.of id))

/-- The state of a class under an identifier that may be left out. -/
def stateOrNull (T : Type) [StateClass T] (baseId : StateRef) (id : String) :
    Result (Option (Found T)) :=
  if id ≠ "" then do .ok (hub.queryIbcState P.toCrypto T baseId (← Identifier.of id))
  else .ok none

end ServiceHub

namespace IbcClientCreateFlow

def call (baseId : StateRef) (msg : MsgCreateClient) : Result TransactionBuilder := do
  let host ← hub.hostOf baseId
  hub.addDatagram P (← hub.newBuilder) (.handleClientCreate msg) [host.stateAndRef] []

end IbcClientCreateFlow

namespace IbcConnOpenInitFlow

def call (baseId : StateRef) (msg : MsgConnectionOpenInit) : Result TransactionBuilder := do
  let host ← hub.hostOf baseId
  let client ← hub.stateOf P IbcClientState baseId msg.clientId
  hub.addDatagram P (← hub.newBuilder) (.handleConnOpenInit msg) [host.stateAndRef]
    [client.stateAndRef]

end IbcConnOpenInitFlow

namespace IbcConnOpenTryFlow

def call (baseId : StateRef) (msg : MsgConnectionOpenTry) : Result TransactionBuilder := do
  let host ← hub.hostOf baseId
  let client ← hub.stateOf P IbcClientState baseId msg.clientId
  let connOrNull ← hub.stateOrNull P IbcConnection baseId msg.previousConnectionId
  hub.addDatagram P (← hub.newBuilder) (.handleConnOpenTry msg)
    (host.stateAndRef :: (connOrNull.map Found.stateAndRef).toList) [client.stateAndRef]

end IbcConnOpenTryFlow

namespace IbcConnOpenAckFlow

def call (baseId : StateRef) (msg : MsgConnectionOpenAck) : Result TransactionBuilder := do
  let host ← hub.hostOf baseId
  let conn ← hub.stateOf P IbcConnection baseId msg.connectionId
  let client ← hub.stateOf P IbcClientState baseId conn.data.end_.clientId
  hub.addDatagram P (← hub.newBuilder) (.handleConnOpenAck msg) [conn.stateAndRef]
    [host.stateAndRef, client.stateAndRef]

end IbcConnOpenAckFlow

namespace IbcConnOpenConfirmFlow

def call (baseId : StateRef) (msg : MsgConnectionOpenConfirm) : Result TransactionBuilder := do
  let host ← hub.hostOf baseId
  let conn ← hub.stateOf P IbcConnection baseId msg.connectionId
  let client ← hub.stateOf P IbcClientState baseId conn.data.end_.clientId
  hub.addDatagram P (← hub.newBuilder) (.handleConnOpenConfirm msg) [conn.stateAndRef]
    [host.stateAndRef, client.stateAndRef]

end IbcConnOpenConfirmFlow

/-! ## Channels and packets (ics4) -/

namespace ServiceHub

/-- The connection of the single hop of a channel. -/
def connOf (baseId : StateRef) (connectionHopsList : List String) : Result (Found IbcConnection) := do
  hub.stateOf P IbcConnection baseId (← single connectionHopsList)

/-- A channel, its connection and the client of that. -/
def channelOf (baseId : StateRef) (id : String) :
    Result (Found IbcChannel × Found IbcConnection × Found IbcClientState) := do
  let chan ← hub.stateOf P IbcChannel baseId id
  let conn ← hub.connOf P baseId chan.data.end_.connectionHopsList
  let client ← hub.stateOf P IbcClientState baseId conn.data.end_.clientId
  .ok (chan, conn, client)

end ServiceHub

namespace IbcChanOpenInitFlow

def call (baseId : StateRef) (msg : MsgChannelOpenInit) : Result TransactionBuilder := do
  let host ← hub.hostOf baseId
  let conn ← hub.connOf P baseId msg.channel.connectionHopsList
  hub.addDatagram P (← hub.newBuilder) (.handleChanOpenInit msg) [host.stateAndRef]
    [conn.stateAndRef]

end IbcChanOpenInitFlow

namespace IbcChanOpenTryFlow

def call (baseId : StateRef) (msg : MsgChannelOpenTry) : Result TransactionBuilder := do
  let host ← hub.hostOf baseId
  let conn ← hub.connOf P baseId msg.channel.connectionHopsList
  let client ← hub.stateOf P IbcClientState baseId conn.data.end_.clientId
  let chanOrNull ← hub.stateOrNull P IbcChannel baseId msg.previousChannelId
  hub.addDatagram P (← hub.newBuilder) (.handleChanOpenTry msg)
    (host.stateAndRef :: (chanOrNull.map Found.stateAndRef).toList)
    [client.stateAndRef, conn.stateAndRef]

end IbcChanOpenTryFlow

/-- The flows of the other channel datagrams: the channel is consumed; the host, the client and the
connection are referenced. -/
def ServiceHub.channelDatagram (baseId : StateRef) (id : String) (handler : DatagramHandler) :
    Result TransactionBuilder := do
  let host ← hub.hostOf baseId
  let (chan, conn, client) ← hub.channelOf P baseId id
  hub.addDatagram P (← hub.newBuilder) handler [chan.stateAndRef]
    [host.stateAndRef, client.stateAndRef, conn.stateAndRef]

namespace IbcChanOpenAckFlow

def call (baseId : StateRef) (msg : MsgChannelOpenAck) : Result TransactionBuilder :=
  hub.channelDatagram P baseId msg.channelId (.handleChanOpenAck msg)

end IbcChanOpenAckFlow

namespace IbcChanOpenConfirmFlow

def call (baseId : StateRef) (msg : MsgChannelOpenConfirm) : Result TransactionBuilder :=
  hub.channelDatagram P baseId msg.channelId (.handleChanOpenConfirm msg)

end IbcChanOpenConfirmFlow

namespace IbcChanCloseInitFlow

/-- The one channel flow that does not ask for the client. -/
def call (baseId : StateRef) (msg : MsgChannelCloseInit) : Result TransactionBuilder := do
  let host ← hub.hostOf baseId
  let chan ← hub.stateOf P IbcChannel baseId msg.channelId
  let conn ← hub.connOf P baseId chan.data.end_.connectionHopsList
  hub.addDatagram P (← hub.newBuilder) (.handleChanCloseInit msg) [chan.stateAndRef]
    [host.stateAndRef, conn.stateAndRef]

end IbcChanCloseInitFlow

namespace IbcChanCloseConfirmFlow

def call (baseId : StateRef) (msg : MsgChannelCloseConfirm) : Result TransactionBuilder :=
  hub.channelDatagram P baseId msg.channelId (.handleChanCloseConfirm msg)

end IbcChanCloseConfirmFlow

namespace IbcSendPacketFlow

def call (baseId : StateRef) (packet : Packet) : Result TransactionBuilder :=
  hub.channelDatagram P baseId packet.sourceChannel (.createOutgoingPacket (M.packet packet))

end IbcSendPacketFlow

namespace IbcRecvPacketFlow

/-- The cash that a returning packet is paid with: coins of the bank's owner. -/
def unlockedCoins (cashBank : CashBank) (packet : Packet) :
    Result (List StateAndRef × List CommandWithParties) := do
  let data ← P.toFungibleTokenPacketData packet.data
  let denom := Denom.fromString data.denom
  let source := denom.hasPrefix (← Identifier.of packet.sourcePort)
    (← Identifier.of packet.sourceChannel)
  if source then do
    let denom ← denom.removePrefix
    if denom.isVoucher then .ok ([], [])
    else do
      let issuer ← notNull (hub.partyFromKey (← denom.issuerKey P.toCrypto))
      let quantity ← toLong data.amount
      let currency ← denom.currency P.toCrypto
      let amount ← TokenAmount.fromDecimal (BigDecimal.ofLong quantity)
        (P.defaultFractionDigits currency) (Issued.mk issuer [0] currency)
      let coins ← (hub.coins Cash).prepareCoins cashBank.owner.owningKey amount
      require (coins ≠ [])
      .ok (hub.chosen coins, [⟨.other "Cash.Commands.Move", [cashBank.owner.owningKey]⟩])
  else .ok ([], [])

/-- The states specific to ICS-20, and the commands they need. -/
def transferStates (baseId : StateRef) (packet : Packet) :
    Result (List StateAndRef × List CommandWithParties) :=
  if packet.destinationPort = "transfer" then do
    let cashBank ← notNull (hub.queryIbcCashBank baseId)
    let (coins, commands) ← unlockedCoins P hub cashBank.data packet
    .ok (cashBank.stateAndRef :: coins, commands)
  else if packet.destinationPort = "transfer-old" then do
    let bank ← notNull (hub.queryIbcBank baseId)
    .ok ([bank.stateAndRef], [])
  else .ok ([], [])

def call (baseId : StateRef) (msg : MsgRecvPacket) : Result TransactionBuilder := do
  let builder ← hub.newBuilder
  let host ← hub.hostOf baseId
  let (states, commands) ← transferStates P hub baseId msg.packet
  let (chan, conn, client) ← hub.channelOf P baseId msg.packet.destinationChannel
  let builder := { builder with commands := builder.commands ++ commands }
  hub.addDatagram P builder (.handlePacketRecv msg) (states ++ [chan.stateAndRef])
    [host.stateAndRef, conn.stateAndRef, client.stateAndRef]

end IbcRecvPacketFlow

namespace IbcAcknowledgePacketFlow

/-- The bank of the packet's destination port. -/
def bankOrNull (baseId : StateRef) (packet : Packet) : Result (List StateAndRef) :=
  if packet.destinationPort = "transfer" then do
    .ok [(← notNull (hub.queryIbcCashBank baseId)).stateAndRef]
  else if packet.destinationPort = "transfer-old" then do
    .ok [(← notNull (hub.queryIbcBank baseId)).stateAndRef]
  else .ok []

def call (baseId : StateRef) (msg : MsgAcknowledgement) : Result TransactionBuilder := do
  let host ← hub.hostOf baseId
  let bank ← bankOrNull hub baseId msg.packet
  let (chan, conn, client) ← hub.channelOf P baseId msg.packet.sourceChannel
  hub.addDatagram P (← hub.newBuilder) (.handlePacketAcknowledgement msg) (chan.stateAndRef :: bank)
    [host.stateAndRef, client.stateAndRef, conn.stateAndRef]

end IbcAcknowledgePacketFlow

/-! ## Transfers (ics20, ics20cash) -/

namespace IbcSendTransferFlow

def call (baseId : StateRef) (msg : MsgTransfer) : Result TransactionBuilder := do
  let host ← hub.hostOf baseId
  let (chan, conn, client) ← hub.channelOf P baseId msg.sourceChannel
  let bank ← notNull (hub.queryIbcBank baseId)
  hub.addDatagram P (← hub.newBuilder) (.createOutgoingPacket (M.transfer msg))
    [chan.stateAndRef, bank.stateAndRef]
    [host.stateAndRef, client.stateAndRef, conn.stateAndRef]

end IbcSendTransferFlow

namespace IbcTransferFlow

/-- The coins of the sender: cash for a native denomination, vouchers for another. -/
def senderCoins (bank : CashBank) (denom : Denom) (quantity : Int) :
    Result (List StateAndRef × List CommandWithParties) :=
  if denom.isVoucher = false then do
    let currency ← denom.currency P.toCrypto
    let amount ← TokenAmount.fromDecimal (BigDecimal.ofLong quantity)
      (P.defaultFractionDigits currency) (Issued.mk bank.owner [0] currency)
    let coins ← (hub.coins Cash).prepareCoins hub.ourIdentity.owningKey amount
    require (coins ≠ [])
    .ok (hub.chosen coins, [⟨.other "Cash.Commands.Move", [hub.ourIdentity.owningKey]⟩])
  else do
    let amount ← TokenAmount.fromDecimal (BigDecimal.ofLong quantity) 0 denom.denomTrace
    let coins ← (hub.coins Voucher).prepareCoins hub.ourIdentity.owningKey amount
    require (coins ≠ [])
    .ok (hub.chosen coins, [])

def call (baseId : StateRef) (msg : MsgTransfer) : Result TransactionBuilder := do
  let builder ← hub.newBuilder
  let host ← hub.hostOf baseId
  let (chan, conn, client) ← hub.channelOf P baseId msg.sourceChannel
  let bank ← notNull (hub.queryIbcCashBank baseId)
  let denom ← Ics20Cash.resolveToken bank.data msg.token.denom
  let quantity ← toLong msg.token.amount
  let (coins, commands) ← senderCoins P hub bank.data denom quantity
  let builder := { builder with commands := builder.commands ++ commands }
  hub.addDatagram P builder (.createOutgoingPacket (M.transfer msg))
    ([chan.stateAndRef, bank.stateAndRef] ++ coins)
    [host.stateAndRef, client.stateAndRef, conn.stateAndRef]

end IbcTransferFlow

/-! ## All flows -/

/-- The flows that a node offers, with their arguments. -/
inductive Flow where
  | genesisCreate (participants : List Party)
  | hostCreate (baseId : StateRef) (moduleNames : List (Identifier × String))
      (clientStateFactoryNames : List (String × String))
  | bankCreate (baseId : StateRef)
  | cashBankCreate (baseId : StateRef) (bank : Party)
  | fundAllocate (baseId : StateRef) (owner : Address) (denom : Denom) (amount : Int)
  | clientCreate (baseId : StateRef) (msg : MsgCreateClient)
  | connOpenInit (baseId : StateRef) (msg : MsgConnectionOpenInit)
  | connOpenTry (baseId : StateRef) (msg : MsgConnectionOpenTry)
  | connOpenAck (baseId : StateRef) (msg : MsgConnectionOpenAck)
  | connOpenConfirm (baseId : StateRef) (msg : MsgConnectionOpenConfirm)
  | chanOpenInit (baseId : StateRef) (msg : MsgChannelOpenInit)
  | chanOpenTry (baseId : StateRef) (msg : MsgChannelOpenTry)
  | chanOpenAck (baseId : StateRef) (msg : MsgChannelOpenAck)
  | chanOpenConfirm (baseId : StateRef) (msg : MsgChannelOpenConfirm)
  | chanCloseInit (baseId : StateRef) (msg : MsgChannelCloseInit)
  | chanCloseConfirm (baseId : StateRef) (msg : MsgChannelCloseConfirm)
  | sendPacket (baseId : StateRef) (packet : Packet)
  | recvPacket (baseId : StateRef) (msg : MsgRecvPacket)
  | acknowledgePacket (baseId : StateRef) (msg : MsgAcknowledgement)
  | sendTransfer (baseId : StateRef) (msg : MsgTransfer)
  | transfer (baseId : StateRef) (msg : MsgTransfer)

/-- `flow.call()` up to the signatures. -/
def Flow.call : Flow → Result TransactionBuilder
  | genesisCreate participants => IbcGenesisCreateFlow.call hub participants
  | hostCreate baseId moduleNames clientStateFactoryNames =>
    IbcHostCreateFlow.call hub baseId moduleNames clientStateFactoryNames
  | bankCreate baseId => IbcBankCreateFlow.call hub baseId
  | cashBankCreate baseId bank => IbcCashBankCreateFlow.call hub baseId bank
  | fundAllocate baseId owner denom amount =>
    IbcFundAllocateFlow.call hub baseId owner denom amount
  | clientCreate baseId msg => IbcClientCreateFlow.call P hub baseId msg
  | connOpenInit baseId msg => IbcConnOpenInitFlow.call P hub baseId msg
  | connOpenTry baseId msg => IbcConnOpenTryFlow.call P hub baseId msg
  | connOpenAck baseId msg => IbcConnOpenAckFlow.call P hub baseId msg
  | connOpenConfirm baseId msg => IbcConnOpenConfirmFlow.call P hub baseId msg
  | chanOpenInit baseId msg => IbcChanOpenInitFlow.call P hub baseId msg
  | chanOpenTry baseId msg => IbcChanOpenTryFlow.call P hub baseId msg
  | chanOpenAck baseId msg => IbcChanOpenAckFlow.call P hub baseId msg
  | chanOpenConfirm baseId msg => IbcChanOpenConfirmFlow.call P hub baseId msg
  | chanCloseInit baseId msg => IbcChanCloseInitFlow.call P hub baseId msg
  | chanCloseConfirm baseId msg => IbcChanCloseConfirmFlow.call P hub baseId msg
  | sendPacket baseId packet => IbcSendPacketFlow.call P M hub baseId packet
  | recvPacket baseId msg => IbcRecvPacketFlow.call P hub baseId msg
  | acknowledgePacket baseId msg => IbcAcknowledgePacketFlow.call P hub baseId msg
  | sendTransfer baseId msg => IbcSendTransferFlow.call P M hub baseId msg
  | transfer baseId msg => IbcTransferFlow.call P M hub baseId msg

/-! ## Finality -/

/-- The vault holds the unconsumed states of the ledger that the node participates in. -/
def ServiceHub.Sees (hub : ServiceHub) (l : Ledger) : Prop :=
  ∀ s r participants, s.data.participants? = some participants →
    (⟨s, r⟩ ∈ hub.states ↔ l.states.lookup r = some s ∧ hub.ourIdentity ∈ participants)

/-- `FinalityFlow(serviceHub.signInitialTransaction(builder), sessions)`: the one signature must be
enough for every command, and the ledger must take the transaction. -/
def ServiceHub.finality (builder : TransactionBuilder) (id : SecureHash) (l : Ledger) :
    Result Ledger := do
  require (∀ c ∈ builder.commands, ∀ key ∈ c.signers, key = hub.ourIdentity.owningKey)
    "Missing signatures"
  l.commit P (builder.toLedgerTransaction id)

end CordaIbc
