import CordaIbc.Ibc
import CordaIbc.Lib.FinmapSum
import CordaIbc.Lib.Run

/-!
# The ledger

The unconsumed states of a Corda network, by reference. A transaction consumes and references
unconsumed states and produces new ones under its own id, which no earlier transaction had. All that it
consumes and references is under its notary; the contract verifies it when it touches a state of the
contract, and the contracts of other states when it touches theirs.
-/

namespace CordaIbc

namespace ContractState

/-- A state bound to the contract: a genesis or an `IbcState`. -/
def belongsToIbc (s : ContractState) : Bool :=
  match s with
  | genesis _ => true
  | s => s.ibc?.isSome

end ContractState

structure Ledger where
  states : Finmap fun _ : StateRef => TransactionState
  /-- The ids of the transactions so far. -/
  txs : List SecureHash

namespace LedgerTransaction

/-- Whether the contract of this repository verifies the transaction. -/
def touchesIbc (tx : LedgerTransaction) : Bool :=
  (tx.inputStates ++ tx.outputs).any (·.belongsToIbc)

/-- Whether another contract verifies the transaction. -/
def touchesOthers (tx : LedgerTransaction) : Bool :=
  (tx.inputStates ++ tx.outputs).any (!·.belongsToIbc)

/-- What the transaction consumes and references is under its notary. -/
def UnderNotary (tx : LedgerTransaction) : Prop :=
  ∀ s ∈ tx.inputs ++ tx.references, s.state.notary = tx.notary

instance (tx : LedgerTransaction) : Decidable tx.UnderNotary :=
  inferInstanceAs (Decidable (∀ s ∈ tx.inputs ++ tx.references, s.state.notary = tx.notary))

/-- The contract of this repository, on a transaction that touches its states. -/
def verifyIbc (P : Platform) (tx : LedgerTransaction) : Result Unit :=
  if tx.touchesIbc then Ibc.verify P tx else .ok ()

/-- The contracts of the other states that the transaction touches. -/
def verifyOthers (P : Platform) (tx : LedgerTransaction) : Result Unit :=
  if tx.touchesOthers then P.verifyOthers tx.inputStates tx.outputs tx.otherCommands else .ok ()

/-- The consumed states, by reference. -/
def consumed (tx : LedgerTransaction) : List (StateRef × TransactionState) :=
  tx.inputs.map fun s => (s.ref, s.state)

/-- The output states under their references. -/
def produced (tx : LedgerTransaction) : List (StateRef × TransactionState) :=
  tx.outputs.zipIdx.map fun (s, i) => (⟨tx.id, i⟩, ⟨s, tx.notary⟩)

end LedgerTransaction

namespace Ledger

def apply (l : Ledger) (tx : LedgerTransaction) : Ledger where
  states := (l.states.eraseAll (tx.consumed.map Prod.fst)).insertAll tx.produced
  txs := tx.id :: l.txs

/-- A ledger takes a transaction: its id is new, its inputs are distinct unconsumed states, its
references are unconsumed, both are under its notary, and the contracts accept it. -/
def commit (P : Platform) (l : Ledger) (tx : LedgerTransaction) : Result Ledger := do
  require (tx.id ∉ l.txs)
  require (∀ s ∈ tx.inputs ++ tx.references, l.states.lookup s.ref = some s.state)
  require (tx.inputs.map (·.ref)).Nodup
  require tx.UnderNotary
  tx.verifyIbc P
  tx.verifyOthers P
  .ok (l.apply tx)

/-- The ledger before any transaction of the contract: some genesis states. -/
structure Start (l : Ledger) : Prop where
  genesis : ∀ r s, l.states.lookup r = some s → ∃ g, s.data = .genesis g
  known : ∀ r s, l.states.lookup r = some s → r.txhash ∈ l.txs

/-- The accepted transactions that satisfy `ok`, as a step relation. -/
def Step (P : Platform) (ok : LedgerTransaction → Prop) (l : Ledger) (tx : LedgerTransaction)
    (l' : Ledger) : Prop := ok tx ∧ l.commit P tx = .ok l'

section
variable {P : Platform} {l l' : Ledger} {tx : LedgerTransaction}

/-- An accepted transaction. -/
structure Commits (P : Platform) (l : Ledger) (tx : LedgerTransaction) : Prop where
  fresh : tx.id ∉ l.txs
  inputs : ∀ s ∈ tx.inputs, l.states.lookup s.ref = some s.state
  references : ∀ s ∈ tx.references, l.states.lookup s.ref = some s.state
  nodup : (tx.inputs.map (·.ref)).Nodup
  notary : tx.UnderNotary
  others : tx.verifyOthers P = .ok ()
  verify : tx.touchesIbc = true → Ibc.verify P tx = .ok ()

theorem verifyIbc_ok :
    tx.verifyIbc P = .ok () ↔ (tx.touchesIbc = true → Ibc.verify P tx = .ok ()) := by
  unfold LedgerTransaction.verifyIbc
  split <;> simp_all

theorem commit_ok : l.commit P tx = .ok l' ↔ Commits P l tx ∧ l' = l.apply tx := by
  simp only [commit, Result.bind_ok, require_ok, Except.ok.injEq]
  constructor
  · rintro ⟨-, hfresh, -, hcurrent, -, hnodup, -, hnotary, ⟨⟩, hverify, ⟨⟩, hothers, rfl⟩
    exact ⟨⟨hfresh, fun s hs => hcurrent s (List.mem_append_left _ hs),
      fun s hs => hcurrent s (List.mem_append_right _ hs), hnodup, hnotary, hothers,
      verifyIbc_ok.1 hverify⟩, rfl⟩
  · rintro ⟨h, rfl⟩
    refine ⟨(), h.fresh, (), fun s hs => ?_, (), h.nodup, (), h.notary, (), verifyIbc_ok.2 h.verify, (),
      h.others, rfl⟩
    rcases List.mem_append.1 hs with hs | hs
    · exact h.inputs s hs
    · exact h.references s hs

end

end Ledger

namespace LedgerTransaction
variable {tx : LedgerTransaction} {r : StateRef} {s : TransactionState}

theorem mem_produced : (r, s) ∈ tx.produced ↔
    r.txhash = tx.id ∧ tx.outputs[r.index]? = some s.data ∧ s.notary = tx.notary := by
  simp only [produced, List.mem_map, Prod.mk.injEq, Prod.exists]
  constructor
  · rintro ⟨c, i, hc, rfl, rfl⟩
    exact ⟨rfl, List.mem_zipIdx_iff_getElem?.1 hc, rfl⟩
  · rintro ⟨h₁, h₂, h₃⟩
    refine ⟨s.data, r.index, List.mem_zipIdx_iff_getElem?.2 h₂, ?_, ?_⟩
    · cases r; simp_all
    · cases s; simp_all

theorem produced_nodup : (tx.produced.map Prod.fst).Nodup := by
  rw [produced, List.map_map, show (Prod.fst ∘ fun x : ContractState × Nat =>
    ((⟨tx.id, x.2⟩, ⟨x.1, tx.notary⟩) : StateRef × TransactionState)) =
    (fun i : Nat => (⟨tx.id, i⟩ : StateRef)) ∘ Prod.snd from rfl, ← List.map_map,
    List.zipIdx_map_snd]
  exact (List.nodup_range' ..).map fun i j h => by cases h; rfl

theorem mem_consumed : (r, s) ∈ tx.consumed ↔ (⟨s, r⟩ : StateAndRef) ∈ tx.inputs := by
  simp only [consumed, List.mem_map, Prod.mk.injEq]
  constructor
  · rintro ⟨⟨s', r'⟩, h, rfl, rfl⟩; exact h
  · exact fun h => ⟨_, h, rfl, rfl⟩

end LedgerTransaction

namespace Ledger
variable {l : Ledger} {tx : LedgerTransaction} {r : StateRef} {s : TransactionState}

/-- A state after a transaction is one of its outputs or was there and is not consumed. -/
theorem lookup_apply_cases (h : (l.apply tx).states.lookup r = some s) :
    r.txhash = tx.id ∧ tx.outputs[r.index]? = some s.data ∨
      r ∉ tx.inputs.map (·.ref) ∧ l.states.lookup r = some s := by
  rcases Finmap.lookup_insertAll_cases h with h | ⟨-, h⟩
  · exact .inl ⟨(LedgerTransaction.mem_produced.1 h).1, (LedgerTransaction.mem_produced.1 h).2.1⟩
  · rw [Finmap.lookup_eraseAll] at h
    split at h
    · cases h
    · rename_i hn
      exact .inr ⟨by simpa [LedgerTransaction.consumed] using hn, h⟩

theorem lookup_apply_of_ne (hid : r.txhash ≠ tx.id) :
    (l.apply tx).states.lookup r =
      if r ∈ tx.inputs.map (·.ref) then none else l.states.lookup r := by
  have hn : r ∉ tx.produced.map Prod.fst := fun h => by
    obtain ⟨⟨r', s'⟩, hm, rfl⟩ := List.mem_map.1 h
    exact hid (LedgerTransaction.mem_produced.1 hm).1
  have he : tx.consumed.map Prod.fst = tx.inputs.map (·.ref) := by
    simp [LedgerTransaction.consumed]
  show ((l.states.eraseAll _).insertAll _).lookup r = _
  rw [Finmap.lookup_insertAll_of_notMem hn, Finmap.lookup_eraseAll, he]

theorem lookup_apply_output {i : Nat} {c : ContractState} (h : tx.outputs[i]? = some c) :
    (l.apply tx).states.lookup ⟨tx.id, i⟩ = some ⟨c, tx.notary⟩ :=
  Finmap.lookup_insertAll_of_mem LedgerTransaction.produced_nodup
    (LedgerTransaction.mem_produced.2 ⟨rfl, h, rfl⟩)

/-! ### Totals -/

/-- The sum of an amount over the unconsumed states. -/
def total (f : ContractState → Int) (l : Ledger) : Int :=
  l.states.sumOver fun _ s => f s.data

/-- A transaction takes the amounts of its inputs off a total and adds those of its outputs. -/
theorem total_apply {P : Platform} (f : ContractState → Int) (hc : Commits P l tx)
    (hknown : ∀ r s, l.states.lookup r = some s → r.txhash ∈ l.txs) :
    (l.apply tx).total f =
      l.total f - (tx.inputStates.map f).sum + (tx.outputs.map f).sum := by
  have hin : (tx.consumed.map fun e => f e.2.data).sum +
      (l.states.eraseAll (tx.consumed.map Prod.fst)).sumOver (fun _ (s : TransactionState) => f s.data) = l.total f := by
    refine Finmap.sumOver_eraseAll (fun _ (s : TransactionState) => f s.data) ?_ ?_
    · simpa [LedgerTransaction.consumed, Function.comp_def] using hc.nodup
    · rintro ⟨r, s⟩ he
      exact hc.inputs _ (LedgerTransaction.mem_consumed.1 he)
  have hout : (l.apply tx).total f =
      (l.states.eraseAll (tx.consumed.map Prod.fst)).sumOver (fun _ (s : TransactionState) => f s.data) +
        (tx.produced.map fun e => f e.2.data).sum := by
    refine Finmap.sumOver_insertAll (fun _ (s : TransactionState) => f s.data) LedgerTransaction.produced_nodup ?_
    rintro ⟨r, s⟩ he hm
    -- a produced reference carries the new id, and every reference before carries an older one
    obtain ⟨t, ht⟩ := Finmap.mem_iff.1 hm
    rw [Finmap.lookup_eraseAll] at ht
    split at ht
    · cases ht
    · exact hc.fresh ((LedgerTransaction.mem_produced.1 he).1 ▸ hknown _ _ ht)
  have h₁ : (tx.consumed.map fun e => f e.2.data) = tx.inputStates.map f := by
    simp [LedgerTransaction.consumed, LedgerTransaction.inputStates, Function.comp_def]
  have h₂ : (tx.produced.map fun e => f e.2.data) = tx.outputs.map f := by
    rw [LedgerTransaction.produced, List.map_map,
      show ((fun e : StateRef × TransactionState => f e.2.data) ∘ fun x : ContractState × Nat =>
        ((⟨tx.id, x.2⟩, ⟨x.1, tx.notary⟩) : StateRef × TransactionState)) = f ∘ Prod.fst from rfl,
      ← List.map_map, List.zipIdx_map_fst]
  rw [h₁] at hin
  rw [hout, h₂]
  omega

end Ledger

end CordaIbc
