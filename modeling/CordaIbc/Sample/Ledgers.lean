import CordaIbc.Ledgers
import CordaIbc.Sample.Net

/-!
# Scripts on two ledgers

A proposal of a script belongs to one of two ledgers. Before its transaction is taken, whatever its
proofs reveal is looked up in what the other ledger took.
-/

namespace CordaIbc

open StateClass ContractState

namespace Sample

/-! ### Two ledgers -/

def ids (s : Side) : StateRef := base (number s)

def genesis (s : Side) : StateAndRef :=
  ⟨⟨.genesis ⟨[notary (number s)]⟩, notary (number s)⟩, ids s⟩

def ledger (s : Side) : Ledger :=
  ⟨(∅ : Finmap fun _ => TransactionState).insert (genesis s).ref (genesis s).state,
    [(genesis s).ref.txhash]⟩

theorem lookup_ledger {s : Side} {r : StateRef} {t : TransactionState}
    (h : (ledger s).states.lookup r = some t) : r = (genesis s).ref ∧ t = (genesis s).state := by
  by_cases hr : r = (genesis s).ref
  · subst hr
    rw [ledger, Finmap.lookup_insert] at h
    exact ⟨rfl, (Option.some.inj h).symm⟩
  · rw [ledger, Finmap.lookup_insert_of_ne _ hr] at h
    cases h

theorem start_ledger (s : Side) : (ledger s).Start := by
  refine ⟨fun r t hl => ⟨⟨[notary (number s)]⟩, ?_⟩, fun r t hl => ?_⟩
  · rw [(lookup_ledger hl).2]
    rfl
  · rw [(lookup_ledger hl).1]
    exact List.mem_singleton_self _

/-- Two ledgers with a genesis each. -/
def ledgers : Ledgers := ⟨ledger, fun _ => []⟩

theorem start_ledgers : ledgers.Start := ⟨start_ledger, fun _ => rfl⟩

/-! ### Scripts -/

/-- A move of a host, on references of its ledger. -/
def Move.on (m : Move) (s : Side) (inputs references : List StateRef) : Side × Proposal :=
  (s, { inputs, references, command := m.command, outputs := m.outputs, signers := m.signers
        notary := notary (number s) })

/-- The host of a side, with the transfer port bound to a class. -/
def createHost (s : Side) (moduleName : String) : Side × Proposal :=
  (s, { inputs := [ids s], references := [], notary := notary (number s)
        command := .misc (.hostCreate [(transferPort, moduleName)] clientStateFactoryNames)
        outputs := fun _ => match Host.create ⟨[notary (number s)]⟩ (ids s) (notary (number s))
            [(transferPort, moduleName)] clientStateFactoryNames with
          | .ok host => [.host host]
          | .error _ => [] })

/-- What the proofs of a transaction reveal was put out in the past. -/
def shown (P : Platform) (past : List LedgerTransaction) (tx : LedgerTransaction) : Bool :=
  tx.datagramHandlerCommands.all fun (handler, _) => handler.proofs.all fun bytes =>
    match P.deserialize bytes with
    | .error _ => true
    | .ok stx => match stx.coreTransaction with
      | .wire _ => true
      | .filtered ftx => ftx.outputs.all fun s => past.any fun tx' => s ∈ tx'.outputs

theorem shown_ok {P : Platform} {past : List LedgerTransaction} {tx : LedgerTransaction}
    (h : shown P past tx = true) (b : StateRef) : Ledgers.Shown P b past tx := by
  intro handler signers hd _ cs _ _ _ proof hproof T _ t ht
  have hext := ht.extract
  simp only [CordaClientState.extractState, Result.bind_ok] at hext
  obtain ⟨⟨stx, ftx⟩, hstx, hsingle⟩ := hext
  obtain ⟨hser, hcore, -⟩ := (CommitmentProof.toSignedTransaction_ok P).1 hstx
  unfold shown at h
  rw [hd] at h
  have hall := List.all_eq_true.1 (List.all_eq_true.1 h _ (List.mem_singleton_self _)) _ hproof
  simp only [hser, hcore] at hall
  obtain ⟨tx', htx', hmem⟩ := List.any_eq_true.1 (List.all_eq_true.1 hall _ (mem_of_single hsingle))
  exact ⟨tx', htx', of_decide_eq_true hmem⟩

/-- What a transaction leaves. -/
def record (w : Ledgers) (s : Side) (tx : LedgerTransaction) (l : Ledger) : Ledgers where
  ledger s' := if s' = s then l else w.ledger s'
  past s' := if s' = s then w.past s ++ [tx] else w.past s'

/-- Build and commit proposals, under the ids `n`, `n + 1`, … -/
def runLedgers (P : Platform) : UInt8 → Ledgers → List (Side × Proposal) →
    Result (List (Side × LedgerTransaction) × Ledgers)
  | _, w, [] => .ok ([], w)
  | n, w, (s, p) :: ps => do
    let tx ← p.build P n (w.ledger s)
    require (shown P (w.past s.peer) tx = true) "dishonest"
    require (tracks (ids s.peer) tx = true) "of a third host"
    let l ← (w.ledger s).commit P tx
    let (txs, w) ← runLedgers P (n + 1) (record w s tx l) ps
    .ok ((s, tx) :: txs, w)

/-- A script that runs through is a run. -/
theorem run_of_ledgers {P : Platform} {ps : List (Side × Proposal)} {n : UInt8} {w₀ w w' : Ledgers}
    {t txs : List (Side × LedgerTransaction)} (h : runLedgers P n w ps = .ok (txs, w'))
    (hr : Run (Ledgers.Step P (fun _ => True) ids) w₀ t w) :
    Run (Ledgers.Step P (fun _ => True) ids) w₀ (t ++ txs) w' := by
  induction ps generalizing n w t txs with
  | nil => cases h; rwa [List.append_nil]
  | cons a ps ih =>
    obtain ⟨s, p⟩ := a
    simp only [runLedgers, Result.bind_ok, require_ok, Except.ok.injEq, Prod.mk.injEq] at h
    obtain ⟨tx, -, -, hshown, -, htracks, l, hc, ⟨txs', w₁⟩, hrest, rfl, rfl⟩ := h
    rw [← List.singleton_append, ← List.append_assoc]
    refine ih hrest (.snoc hr ⟨⟨trivial, ?_⟩, if_pos rfl, fun s' hs => ?_, fun _ => shown_ok hshown _,
      fun _ => tracks_ok htracks⟩)
    · rw [hc]
      exact congrArg Except.ok (if_pos rfl).symm
    · exact ⟨if_neg hs, if_neg hs⟩

end Sample

end CordaIbc
