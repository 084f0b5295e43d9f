import CordaIbc.States

/-!
# The context of a datagram (ics26/Context.kt)

A handler reads the inputs and references of a transaction and puts the states it expects into a
set. `OutStates` is that set in insertion order, with the proof that nothing is in it twice.
`verifyResults` then compares the outputs of the transaction with it: by size and one-way
membership, which is why equality as multisets needs the outputs to be distinct
(`perm_iff_nodup`).
-/

namespace CordaIbc

open StateClass

/-- A `MutableSet` of states. -/
structure OutStates where
  states : List ContractState
  nodup : states.Nodup

namespace OutStates

def empty : OutStates := ⟨[], List.nodup_nil⟩

/-- `outStates.add(state)`. -/
def add (o : OutStates) (s : ContractState) : OutStates :=
  if h : s ∈ o.states then o
  else ⟨o.states ++ [s], List.nodup_append.2 ⟨o.nodup, List.nodup_singleton s, fun a ha b hb => by
    rw [List.mem_singleton.1 hb]
    rintro rfl
    exact h ha⟩⟩

theorem add_of_notMem {o : OutStates} {s : ContractState} (h : s ∉ o.states) :
    (o.add s).states = o.states ++ [s] := by
  unfold add; rw [dif_neg h]

end OutStates

structure Context where
  inStates : List ContractState
  refStates : List ContractState
  outStates : OutStates

namespace Context

/-- `Context(inStates, refStates)`. -/
def create (inStates refStates : List ContractState) : Context := ⟨inStates, refStates, .empty⟩

section
variable (ctx : Context) (T : Type) [StateClass T]

def getInputs : List T := filterIsInstance T ctx.inStates

def getInput : Result T := single (ctx.getInputs T)

def getReferences : List T := filterIsInstance T ctx.refStates

def getReference : Result T := single (ctx.getReferences T)

variable {T}

def addOutput (state : T) : Result Context := do
  if isIbc T then
    require ((filterIsInstance T ctx.outStates.states).isEmpty = true)
      "At most one IBC state can be contained in a transaction"
  .ok { ctx with outStates := ctx.outStates.add (up state) }

end

def inIbcStates (ctx : Context) : List IbcState := ctx.inStates.filterMap (·.ibc?)

def refIbcStates (ctx : Context) : List IbcState := ctx.refStates.filterMap (·.ibc?)

def outIbcStates (ctx : Context) : List IbcState := ctx.outStates.states.filterMap (·.ibc?)

def verifyResults (C : Crypto) (ctx : Context) (expectedOutputStates : List ContractState) :
    Result Unit := do
  -- Confirm that output states are expected ones
  require (expectedOutputStates.length = ctx.outStates.states.length)
  require (∀ s ∈ expectedOutputStates, s ∈ ctx.outStates.states) "it is not included in outStates"
  -- Confirm that all input states are included in output states
  let outIds : List Bytes := (ctx.outIbcStates.filter fun s => !s.fungible).map (·.linearId C)
  let inIds : List Bytes := (ctx.inIbcStates.filter fun s => !s.fungible).map (·.linearId C)
  require (∀ l ∈ inIds, l ∈ outIds)
  -- Confirm all baseIds in states are same
  let s ← first ctx.outIbcStates
  require (∀ t ∈ ctx.inIbcStates, t.baseId = s.baseId)
  require (∀ t ∈ ctx.refIbcStates, t.baseId = s.baseId)
  require (∀ t ∈ ctx.outIbcStates, t.baseId = s.baseId)

/-! ### Inputs -/

section
variable {ctx : Context} {T : Type} [StateClass T] {t : T}

theorem getInput_ok : ctx.getInput T = .ok t ↔ ctx.getInputs T = [t] := single_ok

theorem getReference_ok : ctx.getReference T = .ok t ↔ ctx.getReferences T = [t] := single_ok

theorem mem_of_getInput (h : ctx.getInput T = .ok t) : up t ∈ ctx.inStates :=
  mem_filterIsInstance.1 (by rw [show filterIsInstance T ctx.inStates = [t] from getInput_ok.1 h]
                             exact List.mem_singleton_self t)

theorem eq_of_getInput (h : ctx.getInput T = .ok t) {t' : T} (h' : up t' ∈ ctx.inStates) :
    t' = t := by
  have : t' ∈ ctx.getInputs T := mem_filterIsInstance.2 h'
  rw [getInput_ok.1 h] at this
  exact List.mem_singleton.1 this

theorem mem_of_getReference (h : ctx.getReference T = .ok t) : up t ∈ ctx.refStates :=
  mem_filterIsInstance.1
    (by rw [show filterIsInstance T ctx.refStates = [t] from getReference_ok.1 h]
        exact List.mem_singleton_self t)

end

/-! ### Outputs -/

/-- `ctx'` is `ctx` with `states` added to its outputs, in this order. -/
structure Outputs (ctx : Context) (states : List ContractState) (ctx' : Context) : Prop where
  inStates : ctx'.inStates = ctx.inStates
  refStates : ctx'.refStates = ctx.refStates
  outStates : ctx'.outStates.states = ctx.outStates.states ++ states

namespace Outputs
variable {ctx ctx₁ ctx₂ : Context} {ss ss' : List ContractState}

theorem refl (ctx : Context) : Outputs ctx [] ctx := ⟨rfl, rfl, by simp⟩

theorem trans (h : Outputs ctx ss ctx₁) (h' : Outputs ctx₁ ss' ctx₂) :
    Outputs ctx (ss ++ ss') ctx₂ :=
  ⟨h'.inStates.trans h.inStates, h'.refStates.trans h.refStates, by
    rw [h'.outStates, h.outStates, List.append_assoc]⟩

/-- The outputs a context has grown by are determined by the two contexts. -/
theorem unique (h : Outputs ctx ss ctx₁) (h' : Outputs ctx ss' ctx₁) : ss = ss' :=
  List.append_cancel_left (h.outStates.symm.trans h'.outStates)

theorem getInput (h : Outputs ctx ss ctx₁) (T : Type) [StateClass T] :
    ctx₁.getInput T = ctx.getInput T := by
  unfold Context.getInput Context.getInputs; rw [h.inStates]

theorem getReference (h : Outputs ctx ss ctx₁) (T : Type) [StateClass T] :
    ctx₁.getReference T = ctx.getReference T := by
  unfold Context.getReference Context.getReferences; rw [h.refStates]

end Outputs

section
variable {ctx ctx' : Context} {T : Type} [StateClass T] {t : T}

/-- Adding an IBC state: none of its class is there yet, and it becomes the last output. -/
theorem addOutput_ibc (hT : isIbc T = true) (h : ctx.addOutput t = .ok ctx') :
    (∀ t' : T, up t' ∉ ctx.outStates.states) ∧ Outputs ctx [up t] ctx' := by
  simp only [addOutput, hT, if_true, Result.bind_ok, require_ok, Except.ok.injEq] at h
  obtain ⟨-, hne, rfl⟩ := h
  have hno : ∀ t' : T, up t' ∉ ctx.outStates.states := fun t' h' => by
    have := mem_filterIsInstance.2 h'
    rw [List.isEmpty_iff.1 hne] at this
    exact List.not_mem_nil this
  exact ⟨hno, rfl, rfl, OutStates.add_of_notMem (hno t)⟩

/-- Whether a state can be added depends on its class only. -/
theorem addOutput_isOk (t' : T) (h : ctx.addOutput t = .ok ctx') :
    ∃ ctx₁, ctx.addOutput t' = .ok ctx₁ := by
  unfold addOutput at h ⊢
  split at h
  · rename_i hT
    simp only [Result.bind_ok, require_ok] at h
    obtain ⟨-, hne, -⟩ := h
    exact ⟨_, by simp only [hT, hne, if_true, require]; rfl⟩
  · rename_i hT
    exact ⟨_, by simp only [hT]; rfl⟩

/-- A state of a class that is not there yet can be added. -/
theorem exists_addOutput (hno : ∀ t' : T, up t' ∉ ctx.outStates.states) :
    ∃ ctx', ctx.addOutput t = .ok ctx' := by
  have he : (filterIsInstance T ctx.outStates.states).isEmpty = true :=
    List.isEmpty_iff.2 (List.eq_nil_iff_forall_not_mem.2 fun t' h => hno t' (mem_filterIsInstance.1 h))
  unfold addOutput
  split
  · exact ⟨_, by simp only [he, require]; rfl⟩
  · exact ⟨_, rfl⟩

/-- Adding a state outside the IBC classes: nothing happens when an equal one is there. -/
theorem addOutput_other (hT : isIbc T = false) :
    ctx.addOutput t = .ok { ctx with outStates := ctx.outStates.add (up t) } := by
  simp [addOutput, hT]

theorem addOutput_outputs (h : ctx.addOutput t = .ok ctx') :
    ∃ ss, Outputs ctx ss ctx' ∧ ∀ s ∈ ss, s = up t := by
  cases hT : isIbc T with
  | true => exact ⟨_, (addOutput_ibc hT h).2, fun s hs => List.mem_singleton.1 hs⟩
  | false =>
    rw [addOutput_other hT, Except.ok.injEq] at h
    subst h
    by_cases hm : up t ∈ ctx.outStates.states
    · exact ⟨[], ⟨rfl, rfl, by simp [OutStates.add, hm]⟩, fun s hs => absurd hs List.not_mem_nil⟩
    · exact ⟨[up t], ⟨rfl, rfl, OutStates.add_of_notMem hm⟩, fun s hs => List.mem_singleton.1 hs⟩

end

/-! ### Results -/

/-- A list of the size of a set that only has members of it is the set, as a multiset, exactly
when it has no member twice. -/
theorem perm_iff_nodup {o : OutStates} {outs : List ContractState}
    (hl : outs.length = o.states.length) (hs : ∀ s ∈ outs, s ∈ o.states) :
    outs.Perm o.states ↔ outs.Nodup :=
  ⟨fun h => h.symm.nodup o.nodup, fun h =>
    (List.subperm_of_subset h hs).perm_of_length_le hl.ge⟩

/-- What an accepted transaction looks like to the handler's context. -/
structure Verified (C : Crypto) (ctx : Context) (outs : List ContractState) : Prop where
  length : outs.length = ctx.outStates.states.length
  subset : ∀ s ∈ outs, s ∈ ctx.outStates.states
  successor : ∀ i ∈ ctx.inIbcStates, i.fungible = false →
    ∃ o ∈ ctx.outIbcStates, o.fungible = false ∧ o.linearId C = i.linearId C
  baseId : ∃ b, (∃ o ∈ ctx.outIbcStates, o.baseId = b) ∧ (∀ t ∈ ctx.inIbcStates, t.baseId = b) ∧
    (∀ t ∈ ctx.refIbcStates, t.baseId = b) ∧ ∀ t ∈ ctx.outIbcStates, t.baseId = b

theorem verifyResults_ok {C : Crypto} {ctx : Context} {outs : List ContractState} {u : Unit}
    (h : ctx.verifyResults C outs = .ok u) : Verified C ctx outs := by
  simp only [verifyResults, Result.bind_ok, require_ok, first_ok] at h
  obtain ⟨-, hl, -, hs, -, hi, s, ⟨rest, hr⟩, -, h₁, -, h₂, h₃⟩ := h
  refine ⟨hl, hs, fun i hmem hf => ?_, s.baseId, ⟨s, by rw [hr]; simp, rfl⟩, h₁, h₂, h₃⟩
  have hmem' : i ∈ ctx.inIbcStates.filter fun s => !s.fungible :=
    List.mem_filter.2 ⟨hmem, by simp [hf]⟩
  obtain ⟨o, ho, he⟩ := List.mem_map.1 (hi _ (List.mem_map_of_mem hmem'))
  obtain ⟨ho, hof⟩ := List.mem_filter.1 ho
  exact ⟨o, ho, by simpa using hof, he⟩

theorem verifyResults_of {C : Crypto} {ctx : Context} {outs : List ContractState}
    (h : Verified C ctx outs) : ctx.verifyResults C outs = .ok () := by
  obtain ⟨b, ⟨o, ho, -⟩, hin, href, hout⟩ := h.baseId
  obtain ⟨s, rest, hs⟩ := List.exists_cons_of_ne_nil (List.ne_nil_of_mem ho)
  have hb : s.baseId = b := hout s (by rw [hs]; exact List.mem_cons_self)
  simp only [verifyResults, Result.bind_ok, require_ok, first_ok]
  refine ⟨(), h.length, (), h.subset, (), fun l hl => ?_, s, ⟨rest, hs⟩, (), ?_, (), ?_, ?_⟩
  · obtain ⟨i, hi, rfl⟩ := List.mem_map.1 hl
    obtain ⟨hi, hf⟩ := List.mem_filter.1 hi
    obtain ⟨o, ho, hof, hlin⟩ := h.successor i hi (by simpa using hf)
    exact List.mem_map.2 ⟨o, List.mem_filter.2 ⟨ho, by simp [hof]⟩, hlin⟩
  · exact fun t ht => (hin t ht).trans hb.symm
  · exact fun t ht => (href t ht).trans hb.symm
  · exact fun t ht => (hout t ht).trans hb.symm

end Context

end CordaIbc
