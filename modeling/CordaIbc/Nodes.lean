import CordaIbc.Flow

/-!
# Nodes

The nodes of a network run flows at their own pace: a flow reads the vault at one time and ends at a
later one, when the ledger may have moved on. `Nodes` is the ledger with the transactions that flows
have built and not yet ended with; other contracts move the ledger too.
-/

namespace CordaIbc

/-- A transaction that a flow has built on a node. -/
structure Draft where
  hub : ServiceHub
  flow : Flow
  builder : TransactionBuilder

structure Nodes where
  ledger : Ledger
  drafts : List Draft

namespace Nodes

inductive Event where
  /-- A flow builds a transaction on what the vault of its node holds. -/
  | build (draft : Draft)
  /-- A flow ends with its transaction. -/
  | finish (draft : Draft) (id : SecureHash)
  /-- A transaction of other contracts, which carries no command of this one. -/
  | other (tx : LedgerTransaction)

/-- The transaction that an event puts on the ledger. -/
def Event.transaction? : Event → Option LedgerTransaction
  | build _ => none
  | finish draft id => some (draft.builder.toLedgerTransaction id)
  | other tx => some tx

inductive Step (P : Platform) (M : Packing) : Nodes → Event → Nodes → Prop
  | build {n : Nodes} {draft : Draft} (hsees : draft.hub.Sees n.ledger)
    (hcall : draft.flow.call P M draft.hub = .ok draft.builder) :
    Step P M n (.build draft) { n with drafts := draft :: n.drafts }
  | finish {n : Nodes} {draft : Draft} {id : SecureHash} {l : Ledger} (hdraft : draft ∈ n.drafts)
    (hfinality : draft.hub.finality P draft.builder id n.ledger = .ok l) :
    Step P M n (.finish draft id) { n with ledger := l }
  | other {n : Nodes} {tx : LedgerTransaction} {l : Ledger} (hother : tx.touchesIbc = false)
    (hcommands : tx.datagramHandlerCommands = []) (hcommit : n.ledger.commit P tx = .ok l) :
    Step P M n (.other tx) { n with ledger := l }

/-- Before any flow. -/
structure Start (n : Nodes) : Prop where
  ledger : n.ledger.Start
  drafts : n.drafts = []

end Nodes

end CordaIbc
