import Mathlib.Data.Finmap
import Mathlib.Algebra.BigOperators.Group.Multiset.Basic
import Mathlib.Algebra.Order.BigOperators.Group.Multiset

/-!
# Batches of writes to a finite map, and sums over its entries

`eraseAll` and `insertAll` write a list of keys or entries. `Finmap.sumOver f m` adds `f k v` over
the entries of `m`: inserting at a key changes the sum by the new term minus the term of the entry
it replaces (`sumOver_insert`), and a batch changes it by the sum of its terms (`sumOver_eraseAll`,
`sumOver_insertAll`), so a balance sheet kept as a finite map is accounted for write by write.
-/

namespace Finmap

universe u v

variable {κ : Type u} {ν : Type v} [DecidableEq κ]

theorem erase_insert_of_lookup {m : Finmap fun _ : κ => ν} {k : κ} {v : ν}
    (h : m.lookup k = some v) : (m.erase k).insert k v = m := by
  refine Finmap.ext_lookup fun x => ?_
  by_cases hx : x = k
  · subst hx; rw [lookup_insert, h]
  · rw [lookup_insert_of_ne _ hx, lookup_erase_ne hx]

theorem insert_erase_self (m : Finmap fun _ : κ => ν) (k : κ) (v : ν) :
    (m.erase k).insert k v = m.insert k v := by
  refine Finmap.ext_lookup fun x => ?_
  by_cases hx : x = k
  · subst hx; rw [lookup_insert, lookup_insert]
  · rw [lookup_insert_of_ne _ hx, lookup_erase_ne hx, lookup_insert_of_ne _ hx]

theorem mem_entries_iff {m : Finmap fun _ : κ => ν} {k : κ} {v : ν} :
    (⟨k, v⟩ : Sigma fun _ : κ => ν) ∈ m.entries ↔ m.lookup k = some v := by
  induction m using Finmap.induction_on with
  | H a => exact (AList.mem_lookup_iff (s := a)).symm

/-- A test of all entries passes when every entry passes. -/
theorem all_iff {f : κ → ν → Bool} {m : Finmap fun _ : κ => ν} :
    m.all f = true ↔ ∀ k v, m.lookup k = some v → f k v = true := by
  let _ : RightCommutative fun (b : Bool) (e : Sigma fun _ : κ => ν) => b && f e.1 e.2 :=
    ⟨fun _ _ _ => Bool.and_right_comm _ _ _⟩
  have hfold : ∀ (s : Multiset (Sigma fun _ : κ => ν)) (b : Bool),
      s.foldl (fun b e => b && f e.1 e.2) b = true ↔ b = true ∧ ∀ e ∈ s, f e.1 e.2 = true := by
    intro s
    induction s using Multiset.induction_on with
    | empty => simp
    | cons e s ih =>
      intro b
      rw [Multiset.foldl_cons, ih, Bool.and_eq_true, Multiset.forall_mem_cons, and_assoc]
  refine (hfold m.entries true).trans ?_
  constructor
  · rintro ⟨-, h⟩ k v hl
    exact h ⟨k, v⟩ (mem_entries_iff.2 hl)
  · intro h
    exact ⟨rfl, fun e he => h e.1 e.2 (mem_entries_iff.1 he)⟩

section
variable {M : Type*} [AddCommMonoid M] (f : κ → ν → M) (m : Finmap fun _ : κ => ν)

/-- The sum of `f k v` over the entries of `m`. -/
def sumOver : M := (m.entries.map fun e => f e.1 e.2).sum

omit [DecidableEq κ] in
@[simp] theorem sumOver_empty : sumOver f (∅ : Finmap fun _ : κ => ν) = 0 := rfl

variable {m}

theorem sumOver_insert_of_notMem {k : κ} (v : ν) (h : k ∉ m) :
    sumOver f (m.insert k v) = f k v + sumOver f m := by
  simp [sumOver, entries_insert_of_notMem h]

theorem sumOver_erase {k : κ} {v : ν} (h : m.lookup k = some v) :
    f k v + sumOver f (m.erase k) = sumOver f m := by
  rw [← sumOver_insert_of_notMem f v (notMem_erase_self), erase_insert_of_lookup h]

/-- The term the entry at `k` contributes. -/
def termAt (m : Finmap fun _ : κ => ν) (k : κ) : M := ((m.lookup k).map (f k)).getD 0

theorem termAt_of_lookup {k : κ} {v : ν} (h : m.lookup k = some v) : termAt f m k = f k v := by
  simp [termAt, h]

theorem termAt_of_notMem {k : κ} (h : k ∉ m) : termAt f m k = 0 := by
  simp [termAt, lookup_eq_none.2 h]

theorem sumOver_insert_add (k : κ) (v : ν) :
    sumOver f (m.insert k v) + termAt f m k = sumOver f m + f k v := by
  cases h : m.lookup k with
  | none =>
    rw [termAt_of_notMem f (lookup_eq_none.1 h), sumOver_insert_of_notMem f v (lookup_eq_none.1 h)]
    rw [add_zero, add_comm]
  | some w =>
    rw [termAt_of_lookup f h, ← insert_erase_self, sumOver_insert_of_notMem f v notMem_erase_self,
      ← sumOver_erase f h]
    ac_rfl

theorem sumOver_congr {g : κ → ν → M} (h : ∀ k v, m.lookup k = some v → f k v = g k v) :
    sumOver f m = sumOver g m := by
  unfold sumOver
  congr 1
  exact Multiset.map_congr rfl fun e he => h _ _ (mem_entries_iff.1 he)

theorem sumOver_eq_zero (h : ∀ k v, m.lookup k = some v → f k v = 0) : sumOver f m = 0 := by
  rw [sumOver_congr f (g := fun _ _ => 0) h]
  simp [sumOver]

omit [DecidableEq κ] in
theorem sumOver_add (g : κ → ν → M) :
    sumOver (fun k v => f k v + g k v) m = sumOver f m + sumOver g m := by
  simp [sumOver, Multiset.sum_map_add]

/-- When only the entry at `k` contributes, the sum is its term. -/
theorem sumOver_eq_termAt {k : κ} (h : ∀ k' v, m.lookup k' = some v → k' ≠ k → f k' v = 0) :
    sumOver f m = termAt f m k := by
  cases hk : m.lookup k with
  | none =>
    rw [termAt_of_notMem f (lookup_eq_none.1 hk)]
    exact sumOver_eq_zero f fun k' v h' => h k' v h' (by rintro rfl; rw [hk] at h'; cases h')
  | some w =>
    rw [termAt_of_lookup f hk, ← sumOver_erase f hk, sumOver_eq_zero f, add_zero]
    intro k' v h'
    by_cases hkk : k' = k
    · subst hkk; rw [lookup_erase] at h'; cases h'
    · rw [lookup_erase_ne hkk] at h'; exact h k' v h' hkk

end

theorem sumOver_insert {M : Type*} [AddCommGroup M] (f : κ → ν → M) (m : Finmap fun _ : κ => ν)
    (k : κ) (v : ν) : sumOver f (m.insert k v) = sumOver f m + f k v - termAt f m k := by
  rw [← sumOver_insert_add f k v, add_sub_cancel_right]

theorem sumOver_nonneg {f : κ → ν → Int} {m : Finmap fun _ : κ => ν}
    (h : ∀ k v, m.lookup k = some v → 0 ≤ f k v) : 0 ≤ sumOver f m := by
  refine Multiset.sum_nonneg fun x hx => ?_
  obtain ⟨e, he, rfl⟩ := Multiset.mem_map.1 hx
  exact h _ _ (mem_entries_iff.1 he)

theorem sumOver_erase_le {f : κ → ν → Int} {m : Finmap fun _ : κ => ν} (k : κ)
    (h : ∀ k v, m.lookup k = some v → 0 ≤ f k v) : sumOver f (m.erase k) ≤ sumOver f m := by
  cases hk : m.lookup k with
  | none =>
    have he : m.erase k = m := Finmap.ext_lookup fun x => by
      by_cases hx : x = k
      · subst hx; rw [lookup_erase, hk]
      · rw [lookup_erase_ne hx]
    rw [he]
  | some v =>
    have h₁ := sumOver_erase f hk
    have h₂ := h k v hk
    omega

/-- One term is at most the sum of all. -/
theorem le_sumOver {f : κ → ν → Int} {m : Finmap fun _ : κ => ν} {k : κ} {v : ν}
    (h : ∀ k v, m.lookup k = some v → 0 ≤ f k v) (hk : m.lookup k = some v) :
    f k v ≤ sumOver f m := by
  have h₁ := sumOver_erase f hk
  have h₂ : 0 ≤ sumOver f (m.erase k) := sumOver_nonneg fun k' v' h' => by
    by_cases hkk : k' = k
    · subst hkk; rw [lookup_erase] at h'; cases h'
    · rw [lookup_erase_ne hkk] at h'; exact h k' v' h'
  omega

/-! ## Batches -/

/-- Erase every key of a list. -/
def eraseAll (m : Finmap fun _ : κ => ν) (ks : List κ) : Finmap fun _ : κ => ν :=
  ks.foldl (fun m k => m.erase k) m

/-- Insert every entry of a list, the later ones over the earlier ones. -/
def insertAll (m : Finmap fun _ : κ => ν) (es : List (κ × ν)) : Finmap fun _ : κ => ν :=
  es.foldl (fun m e => m.insert e.1 e.2) m

section
variable {m : Finmap fun _ : κ => ν} {k : κ} {v : ν}

theorem lookup_eraseAll {ks : List κ} :
    (m.eraseAll ks).lookup k = if k ∈ ks then none else m.lookup k := by
  induction ks generalizing m with
  | nil => simp [eraseAll]
  | cons x xs ih =>
    rw [show m.eraseAll (x :: xs) = (m.erase x).eraseAll xs from rfl, ih]
    by_cases hx : k = x
    · subst hx; simp
    · simp [hx, lookup_erase_ne hx]

theorem lookup_insertAll_of_notMem {es : List (κ × ν)} (h : k ∉ es.map Prod.fst) :
    (m.insertAll es).lookup k = m.lookup k := by
  induction es generalizing m with
  | nil => rfl
  | cons e es ih =>
    rw [List.map_cons, List.mem_cons, not_or] at h
    rw [show m.insertAll (e :: es) = (m.insert e.1 e.2).insertAll es from rfl, ih h.2,
      lookup_insert_of_ne _ h.1]

theorem lookup_insertAll_of_mem {es : List (κ × ν)} (hn : (es.map Prod.fst).Nodup)
    (h : (k, v) ∈ es) : (m.insertAll es).lookup k = some v := by
  induction es generalizing m with
  | nil => cases h
  | cons e es ih =>
    rw [List.map_cons, List.nodup_cons] at hn
    rw [show m.insertAll (e :: es) = (m.insert e.1 e.2).insertAll es from rfl]
    rcases List.mem_cons.1 h with rfl | h
    · rw [lookup_insertAll_of_notMem hn.1, lookup_insert]
    · exact ih hn.2 h

/-- Every entry after a batch of insertions was there before or is in the batch. -/
theorem lookup_insertAll_cases {es : List (κ × ν)} (h : (m.insertAll es).lookup k = some v) :
    (k, v) ∈ es ∨ k ∉ es.map Prod.fst ∧ m.lookup k = some v := by
  induction es generalizing m with
  | nil => exact .inr ⟨List.not_mem_nil, h⟩
  | cons e es ih =>
    rcases ih h with h | ⟨hn, h⟩
    · exact .inl (List.mem_cons_of_mem _ h)
    · by_cases he : k = e.1
      · subst he
        rw [lookup_insert] at h
        cases h
        exact .inl List.mem_cons_self
      · rw [lookup_insert_of_ne _ he] at h
        exact .inr ⟨by simpa [he] using hn, h⟩

section
variable {M : Type*} [AddCommMonoid M] (f : κ → ν → M)

theorem sumOver_eraseAll {es : List (κ × ν)} (hn : (es.map Prod.fst).Nodup)
    (h : ∀ e ∈ es, m.lookup e.1 = some e.2) :
    (es.map fun e => f e.1 e.2).sum + sumOver f (m.eraseAll (es.map Prod.fst)) = sumOver f m := by
  induction es generalizing m with
  | nil => simp [eraseAll]
  | cons e es ih =>
    rw [List.map_cons, List.nodup_cons] at hn
    have hrest : ∀ e' ∈ es, (m.erase e.1).lookup e'.1 = some e'.2 := fun e' he' => by
      have hne : e'.1 ≠ e.1 := fun he => hn.1 (he ▸ List.mem_map_of_mem he')
      rw [lookup_erase_ne hne]
      exact h e' (List.mem_cons_of_mem _ he')
    rw [show m.eraseAll ((e :: es).map Prod.fst) = (m.erase e.1).eraseAll (es.map Prod.fst) from rfl,
      List.map_cons, List.sum_cons, add_assoc, ih hn.2 hrest,
      sumOver_erase f (h e List.mem_cons_self)]

theorem sumOver_insertAll {es : List (κ × ν)} (hn : (es.map Prod.fst).Nodup)
    (h : ∀ e ∈ es, e.1 ∉ m) :
    sumOver f (m.insertAll es) = sumOver f m + (es.map fun e => f e.1 e.2).sum := by
  induction es generalizing m with
  | nil => simp [insertAll]
  | cons e es ih =>
    rw [List.map_cons, List.nodup_cons] at hn
    have hrest : ∀ e' ∈ es, e'.1 ∉ m.insert e.1 e.2 := fun e' he' => by
      rw [mem_insert, not_or]
      exact ⟨fun he => hn.1 (he ▸ List.mem_map_of_mem he'), h e' (List.mem_cons_of_mem _ he')⟩
    rw [show m.insertAll (e :: es) = (m.insert e.1 e.2).insertAll es from rfl, ih hn.2 hrest,
      sumOver_insert_of_notMem f e.2 (h e List.mem_cons_self), List.map_cons, List.sum_cons]
    ac_rfl

end

/-- A batch of distinct keys changes a sum by its terms, less those of the entries it replaces. -/
theorem sumOver_insertAll_gain {M : Type*} [AddCommGroup M] (f : κ → ν → M) {es : List (κ × ν)}
    (hn : (es.map Prod.fst).Nodup) :
    sumOver f (m.insertAll es) = sumOver f m + (es.map fun e => f e.1 e.2 - termAt f m e.1).sum := by
  induction es generalizing m with
  | nil => simp [insertAll]
  | cons e es ih =>
    rw [List.map_cons, List.nodup_cons] at hn
    have hrest : (es.map fun e' => f e'.1 e'.2 - termAt f (m.insert e.1 e.2) e'.1) =
        es.map fun e' => f e'.1 e'.2 - termAt f m e'.1 := by
      refine List.map_congr_left fun e' he' => ?_
      have hne : e'.1 ≠ e.1 := fun he => hn.1 (he ▸ List.mem_map_of_mem he')
      rw [termAt, lookup_insert_of_ne _ hne, termAt]
    rw [show m.insertAll (e :: es) = (m.insert e.1 e.2).insertAll es from rfl, ih hn.2, hrest,
      sumOver_insert, List.map_cons, List.sum_cons, add_sub_assoc, add_assoc]

end

end Finmap
