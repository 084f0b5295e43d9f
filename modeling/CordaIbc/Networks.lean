import CordaIbc.Ledgers
import CordaIbc.Nodes
import CordaIbc.Queries

/-!
# Two networks and the messages between them

Two networks of nodes, each with a ledger of its own and a host on it. A step is a step of the nodes of
one network. What the networks learn of each other is what relayers carry: the datagrams may say
anything, but their proofs are proofs of transactions that the ledger of the other network took, as the
nodes there make them (`Relayed`).
-/

namespace CordaIbc

structure Networks where
  nodes : Side → Nodes
  /-- The transactions that each ledger took. -/
  past : Side → List LedgerTransaction

namespace Networks

structure Start (w : Networks) : Prop where
  nodes : ∀ s, (w.nodes s).Start
  past : ∀ s, w.past s = []

/-- The proofs of the datagram are made of transactions of the past. -/
def Relayed (P : Platform) (K : ProofCodec) (past : List LedgerTransaction) (tx : LedgerTransaction) :
    Prop :=
  ∀ handler signers, tx.datagramHandlerCommands = [(handler, signers)] →
    ∀ proof : CommitmentProof, proof.bytes ∈ handler.proofs →
      ∃ stx : VerifiedTransaction, stx.tx ∈ past ∧ K.Carries P stx ∧ stx.toProof P K = .ok proof

/-- The nodes of one network do something, with the hosts of the base ids `b`. The clients of each host
track the other. -/
structure Step (P : Platform) (M : Packing) (K : ProofCodec) (b : Side → StateRef) (w : Networks)
    (a : Side × Nodes.Event) (w' : Networks) : Prop where
  node : Nodes.Step P M (w.nodes a.1) a.2 (w'.nodes a.1)
  past : w'.past a.1 = w.past a.1 ++ a.2.transaction?.toList
  other : ∀ s, s ≠ a.1 → w'.nodes s = w.nodes s ∧ w'.past s = w.past s
  relayed : ∀ tx ∈ a.2.transaction?, tx.spends (b a.1) = true → Relayed P K (w.past a.1.peer) tx
  tracks : ∀ tx ∈ a.2.transaction?, tx.spends (b a.1) = true → Ledgers.Tracks (b a.1.peer) tx

/-- The transactions of the two hosts, in their order. -/
def taken (b : Side → StateRef) (tr : List (Side × Nodes.Event)) : List (Side × LedgerTransaction) :=
  tr.filterMap fun a => (a.2.transaction?.filter (·.spends (b a.1))).map fun tx => (a.1, tx)

end Networks

end CordaIbc
