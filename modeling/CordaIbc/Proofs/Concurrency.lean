import CordaIbc.Nodes
import CordaIbc.Proofs.Finality

/-!
# Flows that overlap

Whatever the order in which nodes build and end their flows, the ledger only takes transactions that
its invariants speak of, so each base id stays one chain. A flow that was built on an older ledger still
ends exactly when nothing that it read has been consumed since: two flows that read a state which one of
them consumes cannot both end.
-/

namespace CordaIbc

namespace Ledger
variable {P : Platform} {l : Ledger} {tx : LedgerTransaction} {r : StateRef} {s t : TransactionState}

/-- A reference that was known stands for the same state, or for none. -/
theorem Commits.lookup_known (hc : Commits P l tx) (hr : r.txhash ∈ l.txs)
    (h : ∀ t, l.states.lookup r = some t → t = s) (ht : (l.apply tx).states.lookup r = some t) :
    t = s := by
  rw [lookup_apply_of_ne fun he => hc.fresh (he ▸ hr)] at ht
  split at ht
  · cases ht
  · exact h t ht

end Ledger

namespace Nodes

/-- The transactions that the events put on the ledger. -/
def transactions (tr : List Event) : List LedgerTransaction := tr.filterMap Event.transaction?

/-- What holds of a draft whatever has happened since it was built: the contract takes it as it did
then, and what it read is there unchanged or gone. -/
structure Draft.Kept (P : Platform) (M : Packing) (l : Ledger) (d : Draft) : Prop where
  call : d.flow.call P M d.hub = .ok d.builder
  born : ∃ l₁ : Ledger, l₁.Inv ∧ d.hub.Sees l₁
  verify : ∀ id, Ibc.verify P (d.builder.toLedgerTransaction id) = .ok () ↔
    d.flow.Fits d.hub d.builder
  nodup : (d.builder.inputs.map (·.ref)).Nodup
  known : ∀ s ∈ d.builder.inputs ++ d.builder.references, s.ref.txhash ∈ l.txs
  read : ∀ s ∈ d.builder.inputs ++ d.builder.references, ∀ t,
    l.states.lookup s.ref = some t → t = s.state

section
variable {P : Platform} {M : Packing} {n₀ n : Nodes} {tr : List Event} {d : Draft}

theorem Draft.Kept.apply {l : Ledger} {tx : LedgerTransaction} (h : Draft.Kept P M l d)
    (hc : Ledger.Commits P l tx) : Draft.Kept P M (l.apply tx) d := by
  refine ⟨h.call, h.born, h.verify, h.nodup, fun s hs => List.mem_cons_of_mem _ (h.known s hs), ?_⟩
  intro s hs t ht
  exact hc.lookup_known (h.known s hs) (h.read s hs) ht

/-- What a run of nodes keeps. -/
structure Good (P : Platform) (M : Packing) (l₀ : Ledger) (tr : List Event) (n : Nodes) : Prop where
  run : Run (Ledger.Step P LedgerTransaction.DistinctOutputs) l₀ (transactions tr) n.ledger
  inv : n.ledger.Inv
  kept : ∀ d ∈ n.drafts, Draft.Kept P M n.ledger d

theorem Good.build (h : Good P M n₀.ledger tr n) (hinj : P.toCrypto.UniqueNames)
    (htyped : M.Typed P) (hsees : d.hub.Sees n.ledger)
    (hcall : d.flow.call P M d.hub = .ok d.builder) :
    Good P M n₀.ledger (tr ++ [.build d]) { n with drafts := d :: n.drafts } := by
  refine ⟨?_, h.inv, fun d' hd' => ?_⟩
  · have htr : transactions (tr ++ [.build d]) = transactions tr := by
      simp [transactions, Event.transaction?]
    rw [htr]
    exact h.run
  · rcases List.mem_cons.1 hd' with rfl | hd'
    · obtain ⟨hreads, hnodup⟩ := Flow.reads_of_call hcall hsees
      refine ⟨hcall, ⟨_, h.inv, hsees⟩, fun id => Flow.verify_iff hinj htyped h.inv hsees hcall, hnodup,
        fun s hs => h.inv.known _ _ (hreads s hs), fun s hs t ht => ?_⟩
      rw [hreads s hs] at ht
      exact (Option.some.inj ht).symm
    · exact h.kept d' hd'

/-- A transaction that the ledger takes. -/
theorem Good.commit (h : Good P M n₀.ledger tr n) (hinj : P.toCrypto.UniqueNames)
    {event : Event} {tx : LedgerTransaction} (hevent : event.transaction? = some tx)
    (hc : Ledger.Commits P n.ledger tx) (hn : tx.DistinctOutputs) :
    Good P M n₀.ledger (tr ++ [event]) { n with ledger := n.ledger.apply tx } := by
  refine ⟨?_, h.inv.apply hc (hc.accepted hinj hn), fun d hd => (h.kept d hd).apply hc⟩
  have htr : transactions (tr ++ [event]) = transactions tr ++ [tx] := by
    simp [transactions, hevent]
  rw [htr]
  exact .snoc h.run ⟨hn, Ledger.commit_ok.2 ⟨hc, rfl⟩⟩

theorem Good.run_of (hinj : P.toCrypto.UniqueNames) (htyped : M.Typed P) (h₀ : n₀.Start)
    (hr : Run (Step P M) n₀ tr n) : Good P M n₀.ledger tr n := by
  have hstart : Good P M n₀.ledger [] n₀ := by
    refine ⟨.nil, h₀.ledger.inv, fun d hd => ?_⟩
    rw [h₀.drafts] at hd
    exact absurd hd List.not_mem_nil
  refine hr.invariant (I := fun tr n => Good P M n₀.ledger tr n) hstart ?_
  intro tr n event n' _ h hstep
  cases hstep with
  | build hsees hcall => exact h.build hinj htyped hsees hcall
  | finish hdraft hfinality =>
    obtain ⟨-, hc, rfl⟩ := Flow.finality_ok.1 hfinality
    have hcall := (h.kept _ hdraft).call
    exact h.commit hinj rfl hc (Flow.distinctOutputs_of_call hcall)
  | other hother hcommands hcommit =>
    obtain ⟨hc, rfl⟩ := Ledger.commit_ok.1 hcommit
    exact h.commit hinj rfl hc fun hne => absurd hcommands hne

/-- Every run of nodes is a run of the ledger on distinct outputs, so no two unconsumed states share a
key, however the nodes overlap their flows. -/
theorem ledger_run (hinj : P.toCrypto.UniqueNames) (htyped : M.Typed P) (h₀ : n₀.Start)
    (hr : Run (Step P M) n₀ tr n) :
    Run (Ledger.Step P LedgerTransaction.DistinctOutputs) n₀.ledger (transactions tr) n.ledger ∧ n.ledger.Unique := by
  have h := Good.run_of hinj htyped h₀ hr
  exact ⟨h.run, h.inv.unique⟩

end

/-! ## Two flows on one genesis -/

section
open Sample Ledger.RepeatedOutputs CordaIbc.Flow

/-- A `IbcHostCreateFlow` that has built its transaction. -/
def hostCreate : Draft where
  hub := hub
  flow := .hostCreate (base 1) [] clientStateFactoryNames
  builder :=
    { notary := notary 1, inputs := [genesis], outputs := [.host host]
      commands := [⟨.misc (.hostCreate [] clientStateFactoryNames), [(notary 1).owningKey]⟩] }

def begun : Nodes := ⟨start, [hostCreate]⟩

def ended : Nodes := ⟨start.apply (hostCreate.builder.toLedgerTransaction ⟨[2]⟩), [hostCreate]⟩

theorem call_hostCreate : hostCreate.flow.call P packing hostCreate.hub = .ok hostCreate.builder := rfl

theorem signed_hostCreate : hostCreate.builder.SignedBy hostCreate.hub.ourIdentity.owningKey :=
  (Flow.signedBy_iff call_hostCreate).2 fun _ _ he => Flow.noConfusion he

theorem run_begun : Run (Step P packing) ⟨start, []⟩ [.build hostCreate] begun :=
  .snoc .nil (.build sees_start call_hostCreate)

theorem run_ended : Run (Step P packing) ⟨start, []⟩ [.build hostCreate, .finish hostCreate ⟨[2]⟩]
    ended := by
  have hcommit : start.commit P (hostCreate.builder.toLedgerTransaction ⟨[2]⟩) =
      .ok (start.apply (hostCreate.builder.toLedgerTransaction ⟨[2]⟩)) :=
    Ledger.commit_ok.2 ⟨⟨by decide, by decide, by decide, by decide, by decide, by decide,
      fun _ => by decide⟩, rfl⟩
  exact .snoc run_begun (.finish List.mem_cons_self (Flow.finality_ok.2
    ⟨signed_hostCreate, (Ledger.commit_ok.1 hcommit).1, rfl⟩))

theorem start_empty : (⟨start, []⟩ : Nodes).Start := ⟨start_start, rfl⟩

theorem ledger_run_ended : Run (Ledger.Step P LedgerTransaction.DistinctOutputs) start
    [hostCreate.builder.toLedgerTransaction ⟨[2]⟩] ended.ledger ∧ ended.ledger.Unique :=
  ledger_run uniqueNames typed_packing start_empty run_ended

end

end Nodes

end CordaIbc
