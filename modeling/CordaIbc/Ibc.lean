import CordaIbc.Datagram

/-!
# The contract (contracts/Ibc.kt)

`Ibc.verify` accepts a transaction with exactly one command of the contract: a datagram, whose
handler decides the outputs, or one of the five commands that set a host up.
-/

namespace CordaIbc

open StateClass

structure TransactionState where
  data : ContractState
  notary : Party
deriving DecidableEq

structure StateAndRef where
  state : TransactionState
  ref : StateRef
deriving DecidableEq

inductive MiscCommands where
  | genesisCreate
  | hostCreate (moduleNames : List (Identifier × String))
      (clientStateFactoryNames : List (String × String))
  | bankCreate
  | cashBankCreate (owner : Party)
  | fundAllocate (owner : Address) (denom : Denom) (amount : Int)

inductive CommandData where
  | misc (command : MiscCommands)
  | datagram (handler : DatagramHandler)
  /-- A command of another contract, as it prints. -/
  | other (command : String)

structure CommandWithParties where
  value : CommandData
  signers : List PublicKey

structure LedgerTransaction where
  id : SecureHash
  notary : Party
  inputs : List StateAndRef
  references : List StateAndRef
  outputs : List ContractState
  commands : List CommandWithParties

namespace LedgerTransaction

def inputStates (tx : LedgerTransaction) : List ContractState := tx.inputs.map (·.state.data)

def referenceStates (tx : LedgerTransaction) : List ContractState :=
  tx.references.map (·.state.data)

/-- `tx.commandsOfType<MiscCommands>()`. -/
def miscCommands (tx : LedgerTransaction) : List (MiscCommands × List PublicKey) :=
  tx.commands.filterMap fun c => match c.value with | .misc m => some (m, c.signers) | _ => none

/-- `tx.commandsOfType<DatagramHandlerCommand>()`. -/
def datagramHandlerCommands (tx : LedgerTransaction) : List (DatagramHandler × List PublicKey) :=
  tx.commands.filterMap fun c => match c.value with | .datagram d => some (d, c.signers) | _ => none

def otherCommands (tx : LedgerTransaction) : List (String × List PublicKey) :=
  tx.commands.filterMap fun c => match c.value with | .other o => some (o, c.signers) | _ => none

/-- The datagrams with pairwise distinct outputs. The contract does not check this: `verifyResults`
compares the number of outputs and that each is expected. -/
def DistinctOutputs (tx : LedgerTransaction) : Prop :=
  tx.datagramHandlerCommands ≠ [] → tx.outputs.Nodup

instance (tx : LedgerTransaction) : Decidable tx.DistinctOutputs :=
  decidable_of_iff (tx.datagramHandlerCommands.isEmpty = true ∨ tx.outputs.Nodup) (by
    rw [List.isEmpty_iff, DistinctOutputs, imp_iff_not_or, not_not])

end LedgerTransaction

namespace MiscCommands

/-- The states a `BankCreate` makes of a host. -/
def createBank (host : Host) : Result (Host × Bank) := do
  let bank := Bank.create host
  .ok (← host.addBank bank.id, bank)

/-- The states a `CashBankCreate` makes of a host. -/
def createCashBank (host : Host) (owner : Party) : Result (Host × CashBank) := do
  let bank := CashBank.create host owner
  .ok (← host.addBank bank.id, bank)

def verify (tx : LedgerTransaction) (signers : List PublicKey) : MiscCommands → Result Unit
  | genesisCreate => do
    require (tx.inputs.length = 0) "Failed requirement: No state should be consumed"
    require (tx.outputs.length = 1) "Failed requirement: Exactly one state should be created"
    require ((filterIsInstance Genesis tx.outputs).length = 1)
      "Failed requirement: Output type should be HostIdentifier"
  | hostCreate moduleNames clientStateFactoryNames => do
    require (tx.inputs.length = 1) "Failed requirement: Exactly one state should be consumed"
    require (tx.outputs.length = 1) "Failed requirement: Exactly one state should be created"
    let genesis ← single (tx.inputs.filterMap fun s =>
      (cast? s.state.data : Option Genesis).map fun g => (g, s))
    let newHost ← single (filterIsInstance Host tx.outputs)
    let expectedHost ← Host.create genesis.1 genesis.2.ref genesis.2.state.notary moduleNames
      clientStateFactoryNames
    require (newHost = expectedHost) "Failed requirement: Output should be expected states"
  | bankCreate => do
    require (tx.inputs.length = 1) "Failed requirement: Exactly one state should be consumed"
    require (tx.outputs.length = 2) "Failed requirement: Exactly two states should be created"
    let host ← single (filterIsInstance Host tx.inputStates)
    let newHost ← single (filterIsInstance Host tx.outputs)
    let newBank ← single (filterIsInstance Bank tx.outputs)
    let expected ← createBank host
    require ((newHost, newBank) = expected) "Failed requirement: Output should be expected states"
  | cashBankCreate owner => do
    require (tx.inputs.length = 1) "Failed requirement: Exactly one state should be consumed"
    require (tx.outputs.length = 2) "Failed requirement: Exactly two states should be created"
    let host ← single (filterIsInstance Host tx.inputStates)
    let newHost ← single (filterIsInstance Host tx.outputs)
    let newBank ← single (filterIsInstance CashBank tx.outputs)
    let expected ← createCashBank host owner
    require (owner.owningKey ∈ signers) "Failed requirement: Signed by bank owner"
    require ((newHost, newBank) = expected) "Failed requirement: Output should be expected states"
  | fundAllocate owner denom amount => do
    require (tx.inputs.length = 1) "Failed requirement: Exactly one state should be consumed"
    require (tx.outputs.length = 1) "Failed requirement: Exactly one state should be created"
    let bank ← single (filterIsInstance Bank tx.inputStates)
    let newBank ← single (filterIsInstance Bank tx.outputs)
    require (newBank = bank.allocate owner denom amount)
      "Failed requirement: Output should be expected state"

end MiscCommands

/-- `Ibc.verify(tx)`. -/
def Ibc.verify (P : Platform) (tx : LedgerTransaction) : Result Unit :=
  match tx.miscCommands, tx.datagramHandlerCommands with
  | [(command, signers)], [] => command.verify tx signers
  | [], [(handler, signers)] => do
    let ctx ← handler.execute P (.create tx.inputStates tx.referenceStates) signers
    ctx.verifyResults P.toCrypto tx.outputs
  | _, _ => .error (.illegalArgument "unacceptable number of commands")

end CordaIbc
