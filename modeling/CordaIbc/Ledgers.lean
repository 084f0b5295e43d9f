import CordaIbc.Net
import CordaIbc.Proofs.Projection

/-!
# Two ledgers and what they prove to each other

Two ledgers, each with a host on it. A step is a transaction that one of them takes. What a host learns
of the other is what its Corda clients accept, and what they accept of the other host is a state that
the other ledger put out at some time, maybe consumed since.
-/

namespace CordaIbc

open StateClass ContractState

structure Ledgers where
  ledger : Side → Ledger
  /-- The transactions that each ledger took. -/
  past : Side → List LedgerTransaction

namespace Ledgers

structure Start (w : Ledgers) : Prop where
  ledger : ∀ s, (w.ledger s).Start
  past : ∀ s, w.past s = []

/-- Every client that the transaction puts out is a Corda client of the base id. -/
def Tracks (b : StateRef) (tx : LedgerTransaction) : Prop :=
  ∀ client, ContractState.client client ∈ tx.outputs →
    ∃ cs, client.impl = .corda cs ∧ cs.counterpartyBaseId = b

/-- What a Corda client of the base id accepts in the transaction, one of the past put out. -/
def Shown (P : Platform) (b : StateRef) (past : List LedgerTransaction) (tx : LedgerTransaction) :
    Prop :=
  ∀ handler signers, tx.datagramHandlerCommands = [(handler, signers)] →
    ∀ client cs, ContractState.client client ∈ tx.referenceStates → client.impl = .corda cs →
      cs.counterpartyBaseId = b → ∀ proof : CommitmentProof, proof.bytes ∈ handler.proofs →
        ∀ (T : Type) [StateClass T] (t : T), cs.Proves P proof t → ∃ tx' ∈ past, up t ∈ tx'.outputs

/-- One ledger takes a transaction. If it is one of the host of the base id `b`, the clients of the host
track the other. -/
structure Step (P : Platform) (ok : LedgerTransaction → Prop) (b : Side → StateRef) (w : Ledgers)
    (a : Side × LedgerTransaction) (w' : Ledgers) : Prop where
  ledger : Ledger.Step P ok (w.ledger a.1) a.2 (w'.ledger a.1)
  past : w'.past a.1 = w.past a.1 ++ [a.2]
  other : ∀ s, s ≠ a.1 → w'.ledger s = w.ledger s ∧ w'.past s = w.past s
  shown : a.2.spends (b a.1) = true → Shown P (b a.1.peer) (w.past a.1.peer) a.2
  tracks : a.2.spends (b a.1) = true → Tracks (b a.1.peer) a.2

/-- The transactions of the two hosts, in their order. -/
def taken (b : Side → StateRef) (tr : List (Side × LedgerTransaction)) :
    List (Side × LedgerTransaction) :=
  tr.filter fun a => a.2.spends (b a.1)

end Ledgers

end CordaIbc
