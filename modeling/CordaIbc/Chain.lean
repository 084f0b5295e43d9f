import CordaIbc.Ibc
import CordaIbc.Lib.FinmapSum
import CordaIbc.Lib.Run

/-!
# One host

A chain is the part of a ledger that carries one base id: the current state under each identifier of
the host, and every state a transaction of the host ever put out. A transaction is taken when the
contract accepts it and what it consumes and references of this host is current.

The contract also accepts a datagram whose outputs repeat a state. Such a transaction leaves two states
under one identifier, of which a chain keeps one, so the steps of a chain are the transactions with
distinct outputs (`LedgerTransaction.DistinctOutputs`).
-/

namespace CordaIbc

structure Chain where
  baseId : StateRef
  states : Finmap fun _ : Identifier => ContractState
  /-- Every output so far. -/
  history : List ContractState

namespace ContractState

/-- The identifier of a state that is not fungible, with the state. -/
def slot? (s : ContractState) : Option (Identifier × ContractState) := s.id?.map fun i => (i, s)

end ContractState

namespace Chain

/-- The state is one of this host's identified states. -/
def holds (c : Chain) (s : ContractState) : Bool :=
  match s.key? with
  | some (b, _) => b = c.baseId
  | none => false

/-- No identified state of this host but its current one. -/
def isCurrent (c : Chain) (s : ContractState) : Bool :=
  match s.key? with
  | some (b, i) => b ≠ c.baseId ∨ c.states.lookup i = some s
  | none => true

def apply (c : Chain) (tx : LedgerTransaction) : Chain :=
  { c with
    states := c.states.insertAll (tx.outputs.filterMap (·.slot?))
    history := tx.outputs ++ c.history }

/-- A chain takes a transaction. -/
def commit (P : Platform) (c : Chain) (tx : LedgerTransaction) : Result Chain := do
  require (tx.inputStates.any c.holds = true)
  require ((tx.inputStates ++ tx.referenceStates).all c.isCurrent = true)
  Ibc.verify P tx
  .ok (c.apply tx)

/-- A host that has just been created. -/
def ofHost (host : Host) : Chain :=
  ⟨host.baseId, (∅ : Finmap fun _ => ContractState).insert hostId (.host host), [.host host]⟩

/-- The chain of a host before any transaction. -/
def Start (c : Chain) : Prop :=
  ∃ genesis ref notary moduleNames clientStateFactoryNames host,
    Host.create genesis ref notary moduleNames clientStateFactoryNames = .ok host ∧ c = ofHost host

/-- The chain takes the transaction, and its outputs are distinct. -/
def Commits (P : Platform) (c : Chain) (tx : LedgerTransaction) (c' : Chain) : Prop :=
  tx.DistinctOutputs ∧ c.commit P tx = .ok c'

/-- The transactions with distinct outputs that are taken while `ok` holds of them and the chain before,
as a step relation. -/
def Step (P : Platform) (ok : Chain → LedgerTransaction → Prop) (c : Chain) (tx : LedgerTransaction)
    (c' : Chain) : Prop := ok c tx ∧ tx.DistinctOutputs ∧ c.commit P tx = .ok c'

/-- The module a port of the host is bound to. -/
def module? (c : Chain) (port : Identifier) : Option Module :=
  match c.states.lookup hostId with
  | some (.host host) => host.modules.lookup port
  | _ => none

/-- The sum of an amount over the current states. -/
def total (f : ContractState → Int) (c : Chain) : Int := c.states.sumOver fun _ s => f s

/-! ### Lookups -/

section
variable {c : Chain} {tx : LedgerTransaction} {s : ContractState} {b : StateRef} {i : Identifier}

theorem holds_iff : c.holds s = true ↔ ∃ i, s.key? = some (c.baseId, i) := by
  unfold holds
  cases hk : s.key? with
  | none => simp
  | some k =>
    obtain ⟨b, i⟩ := k
    simp

theorem isCurrent_iff : c.isCurrent s = true ↔
    ∀ i, s.key? = some (c.baseId, i) → c.states.lookup i = some s := by
  unfold isCurrent
  cases hk : s.key? with
  | none => simp
  | some k =>
    obtain ⟨b, i⟩ := k
    simp only [ne_eq, decide_eq_true_eq, Option.some.injEq, Prod.mk.injEq]
    constructor
    · rintro h i ⟨rfl, rfl⟩; exact h.resolve_left (by simp)
    · intro h
      by_cases hb : b = c.baseId
      · exact .inr (h i ⟨hb, rfl⟩)
      · exact .inl hb

theorem entry_eq_some {e : Identifier × ContractState} :
    s.slot? = some e ↔ s.id? = some e.1 ∧ e.2 = s := by
  unfold ContractState.slot?
  cases s.id? with
  | none => simp
  | some i => obtain ⟨j, t⟩ := e; simp [eq_comm]

theorem filterMap_entry_fst (outs : List ContractState) :
    (outs.filterMap (·.slot?)).map Prod.fst = outs.filterMap (·.id?) := by
  rw [List.map_filterMap]
  refine congrFun (congrArg _ (funext fun s => ?_)) outs
  unfold ContractState.slot?
  cases s.id? <;> rfl

/-- An output is current afterwards. -/
theorem lookup_apply_of_mem (hn : (tx.outputs.filterMap (·.id?)).Nodup) (hs : s ∈ tx.outputs)
    (hi : s.id? = some i) : (c.apply tx).states.lookup i = some s :=
  Finmap.lookup_insertAll_of_mem (by rwa [filterMap_entry_fst])
    (List.mem_filterMap.2 ⟨s, hs, entry_eq_some.2 ⟨hi, rfl⟩⟩)

theorem lookup_apply_of_notMem (h : ∀ s ∈ tx.outputs, s.id? ≠ some i) :
    (c.apply tx).states.lookup i = c.states.lookup i :=
  Finmap.lookup_insertAll_of_notMem (by
    rw [filterMap_entry_fst]
    intro hm
    obtain ⟨s, hs, he⟩ := List.mem_filterMap.1 hm
    exact h s hs he)

/-- A current state is an output, or was current and stays. -/
theorem lookup_apply_cases (h : (c.apply tx).states.lookup i = some s) :
    s ∈ tx.outputs ∧ s.id? = some i ∨
      (∀ o ∈ tx.outputs, o.id? ≠ some i) ∧ c.states.lookup i = some s := by
  rcases Finmap.lookup_insertAll_cases h with hm | ⟨hn, hl⟩
  · obtain ⟨t, ht, he⟩ := List.mem_filterMap.1 hm
    obtain ⟨hi, rfl⟩ := entry_eq_some.1 he
    exact .inl ⟨ht, hi⟩
  · rw [filterMap_entry_fst] at hn
    exact .inr ⟨fun o ho he => hn (List.mem_filterMap.2 ⟨o, ho, he⟩), hl⟩

/-- What an output adds to a total: its amount, less that of the state it replaces. -/
def gain (f : ContractState → Int) (c : Chain) (o : ContractState) : Int :=
  match o.id? with
  | some i => f o - ((c.states.lookup i).map f).getD 0
  | none => 0

theorem total_apply (f : ContractState → Int) (hn : (tx.outputs.filterMap (·.id?)).Nodup) :
    (c.apply tx).total f = c.total f + (tx.outputs.map (c.gain f)).sum := by
  have hes : ((tx.outputs.filterMap (·.slot?)).map Prod.fst).Nodup := by rwa [filterMap_entry_fst]
  have h := Finmap.sumOver_insertAll_gain (fun (_ : Identifier) s => f s) (m := c.states) hes
  refine h.trans (congrArg _ ?_)
  clear h hn
  generalize tx.outputs = outs
  induction outs with
  | nil => rfl
  | cons o outs ih =>
    cases ho : o.id? with
    | none =>
      rw [List.filterMap_cons_none (by simp [ContractState.slot?, ho]), ih]
      simp [gain, ho]
    | some i =>
      rw [List.filterMap_cons_some (show o.slot? = some (i, o) by simp [ContractState.slot?, ho]),
        List.map_cons, List.sum_cons, ih]
      simp [gain, ho, Finmap.termAt]

end

end Chain

end CordaIbc
