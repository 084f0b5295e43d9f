import Mathlib.Data.List.Sort
import Mathlib.Data.Finset.Card

/-!
# Reading a list page by page

A reader asks for pages of at most `k` entries at the offsets `0`, `k`, `2 * k`, … until a page is
short (`Collects`). A server that takes an offset for a bound on the keys, and not for a number of
entries to skip, is read in full exactly when the keys fill up all the full pages
(`Paging.collects_iff`).
-/

namespace Paging

variable {α ε : Type*} {query : Nat → Except ε (List α)} {k offset : Nat} {r : List α}

/-- The pages from an offset on, up to the first short one, put together. -/
inductive Collects (query : Nat → Except ε (List α)) (k : Nat) : Nat → List α → Prop
  | last {offset : Nat} {page : List α} (hpage : query offset = .ok page) (hshort : page.length < k) :
      Collects query k offset page
  | more {offset : Nat} {page rest : List α} (hpage : query offset = .ok page)
      (hfull : page.length = k) (hrest : Collects query k (offset + k) rest) :
      Collects query k offset (page ++ rest)

/-- The short page comes after as many full ones as fit in what was read. -/
theorem Collects.last_page (h : Collects query k offset r) :
    ∃ page, query (offset + r.length / k * k) = .ok page ∧ page.length = r.length % k ∧
      r.length % k < k := by
  induction h with
  | @last offset page hpage hshort =>
    refine ⟨page, ?_, ?_, ?_⟩
    · rw [Nat.div_eq_of_lt hshort, Nat.zero_mul, Nat.add_zero]
      exact hpage
    · exact (Nat.mod_eq_of_lt hshort).symm
    · rwa [Nat.mod_eq_of_lt hshort]
  | @more offset page rest hpage hfull hrest ih =>
    obtain ⟨last, hlast, hlength, hlt⟩ := ih
    have hk : 0 < k := Nat.zero_lt_of_lt hlt
    have hdiv : (page ++ rest).length / k = rest.length / k + 1 := by
      rw [List.length_append, hfull, Nat.add_div_left _ hk]
    have hmod : (page ++ rest).length % k = rest.length % k := by
      rw [List.length_append, hfull, Nat.add_mod_left]
    refine ⟨last, ?_, ?_, ?_⟩
    · rw [hdiv, Nat.succ_mul, Nat.add_comm _ k, ← Nat.add_assoc]
      exact hlast
    · rw [hmod, hlength]
    · rwa [hmod]

/-- What was read was on one of the pages. -/
theorem Collects.mem_page (h : Collects query k offset r) {a : α} (ha : a ∈ r) :
    ∃ offset' page, offset' ≤ offset + r.length ∧ query offset' = .ok page ∧ a ∈ page := by
  induction h with
  | @last offset page hpage hshort => exact ⟨offset, page, Nat.le_add_right _ _, hpage, ha⟩
  | @more offset page rest hpage hfull hrest ih =>
    rcases List.mem_append.1 ha with ha | ha
    · exact ⟨offset, page, Nat.le_add_right _ _, hpage, ha⟩
    · obtain ⟨offset', page', hle, hpage', hmem⟩ := ih ha
      refine ⟨offset', page', ?_, hpage', hmem⟩
      rw [List.length_append, hfull, ← Nat.add_assoc]
      exact hle

/-! ## Offsets taken for keys -/

section
variable {f : α → Nat} {l : List α} {bound : Nat}

/-- The server of a list with increasing keys below a bound, which takes the offset for a key. -/
structure Serves (f : α → Nat) (l : List α) (bound k : Nat) (query : Nat → Except ε (List α)) : Prop
    where
  increasing : l.Pairwise fun a b => f a < f b
  answers : ∀ offset ≤ l.length, query offset =
    .ok ((l.filter fun a => offset ≤ f a ∧ f a < bound).take k)

/-- In a list with increasing keys, the keys below a bound come first. -/
theorem filter_append_of_pairwise (hl : l.Pairwise fun a b => f a < f b) {n : Nat} :
    l = (l.filter fun a => f a < n) ++ l.filter fun a => n ≤ f a := by
  induction l with
  | nil => rfl
  | cons a l ih =>
    obtain ⟨ha, hl⟩ := List.pairwise_cons.1 hl
    by_cases hn : f a < n
    · rw [List.filter_cons_of_pos (by simpa using hn), List.filter_cons_of_neg (by simpa using hn),
        List.cons_append, ← ih hl]
    · have hlow : (l.filter fun b => f b < n) = [] := by
        refine List.filter_eq_nil_iff.2 fun b hb => ?_
        have := ha b hb
        simp only [decide_eq_true_eq]
        omega
      rw [List.filter_cons_of_neg (by simpa using hn), hlow, List.nil_append]
      refine (List.filter_eq_self.2 fun b hb => ?_).symm
      rcases List.mem_cons.1 hb with rfl | hb
      · simpa using hn
      · have := ha b hb
        simp only [decide_eq_true_eq]
        omega

/-- Keys below a number, as many as that number or more, are all the numbers below it. -/
theorem mem_map_of_length (hl : l.Pairwise fun a b => f a < f b) {n : Nat}
    (hlt : ∀ a ∈ l, f a < n) (hlength : n ≤ l.length) : ∀ j < n, j ∈ l.map f := by
  intro j hj
  have hnodup : (l.map f).Nodup := by
    refine (List.pairwise_map.2 hl).imp fun h => Nat.ne_of_lt h
  have hsub : (l.map f).toFinset ⊆ Finset.range n := by
    intro i hi
    obtain ⟨a, ha, rfl⟩ := List.mem_map.1 (List.mem_toFinset.1 hi)
    exact Finset.mem_range.2 (hlt a ha)
  have heq : (l.map f).toFinset = Finset.range n := by
    refine Finset.eq_of_subset_of_card_le hsub ?_
    rw [Finset.card_range, List.toFinset_card_of_nodup hnodup, List.length_map]
    exact hlength
  rw [← List.mem_toFinset, heq]
  exact Finset.mem_range.2 hj

/-- When all the numbers below `n` are keys, `n` entries have keys below `n`. -/
theorem length_filter_lt (hl : l.Pairwise fun a b => f a < f b) {n : Nat}
    (hkeys : ∀ j < n, j ∈ l.map f) : (l.filter fun a => f a < n).length = n := by
  have hnodup : ((l.filter fun a => f a < n).map f).Nodup := by
    refine (List.pairwise_map.2 (hl.sublist List.filter_sublist)).imp fun h => Nat.ne_of_lt h
  have heq : ((l.filter fun a => f a < n).map f).toFinset = Finset.range n := by
    ext j
    rw [List.mem_toFinset, Finset.mem_range]
    constructor
    · intro hj
      obtain ⟨a, ha, rfl⟩ := List.mem_map.1 hj
      exact of_decide_eq_true (List.mem_filter.1 ha).2
    · intro hj
      obtain ⟨a, ha, rfl⟩ := List.mem_map.1 (hkeys j hj)
      exact List.mem_map.2 ⟨a, List.mem_filter.2 ⟨ha, decide_eq_true hj⟩, rfl⟩
  have hcard := List.toFinset_card_of_nodup hnodup
  rw [heq, Finset.card_range, List.length_map] at hcard
  exact hcard.symm

/-- As long as the keys are the positions, an offset is a number of entries to skip. -/
theorem filter_le_eq_drop (hl : l.Pairwise fun a b => f a < f b) {n : Nat}
    (hkeys : ∀ j < n, j ∈ l.map f) : (l.filter fun a => n ≤ f a) = l.drop n := by
  have hsplit := filter_append_of_pairwise hl (n := n)
  have hlength := length_filter_lt hl hkeys
  conv => rhs; rw [hsplit]
  rw [List.drop_append_of_le_length (Nat.le_of_eq hlength.symm),
    List.drop_eq_nil_of_le (Nat.le_of_eq hlength), List.nil_append]

namespace Serves

theorem answers_of_lt (h : Serves f l bound k query) (hbound : ∀ a ∈ l, f a < bound)
    (hoffset : offset ≤ l.length) :
    query offset = .ok ((l.filter fun a => offset ≤ f a).take k) := by
  rw [h.answers offset hoffset]
  refine congrArg (fun l => Except.ok (List.take k l)) (List.filter_congr fun a ha => ?_)
  simp [hbound a ha]

/-- The induction is on the number of full pages left. -/
theorem collects_drop (h : Serves f l bound k query) (hk : 0 < k) (hbound : ∀ a ∈ l, f a < bound)
    (hkeys : ∀ j < l.length / k * k, j ∈ l.map f) {i j : Nat} (hj : i + j = l.length / k) :
    Collects query k (j * k) (l.drop (j * k)) := by
  have hdiv := Nat.div_add_mod l.length k
  rw [Nat.mul_comm] at hdiv
  have hmod := Nat.mod_lt l.length hk
  have hle : j * k ≤ l.length / k * k := Nat.mul_le_mul_right k (by omega)
  have hpage : query (j * k) = .ok ((l.drop (j * k)).take k) := by
    rw [h.answers_of_lt hbound (by omega), filter_le_eq_drop h.increasing]
    intro n hn
    exact hkeys n (by omega)
  induction i generalizing j with
  | zero =>
    rw [Nat.zero_add] at hj
    have hlength : (l.drop (j * k)).length < k := by
      rw [List.length_drop, hj]
      omega
    rw [List.take_of_length_le (Nat.le_of_lt hlength)] at hpage
    exact .last hpage hlength
  | succ i ih =>
    have hstep : (j + 1) * k ≤ l.length / k * k := Nat.mul_le_mul_right k (by omega)
    have hsucc : (j + 1) * k = j * k + k := Nat.succ_mul j k
    have hrest : Collects query k ((j + 1) * k) (l.drop ((j + 1) * k)) := by
      refine ih (by omega) hstep ?_
      rw [h.answers_of_lt hbound (by omega), filter_le_eq_drop h.increasing]
      intro n hn
      exact hkeys n (by omega)
    have hfull : ((l.drop (j * k)).take k).length = k := by
      rw [List.length_take, List.length_drop]
      omega
    rw [hsucc] at hrest
    have hmore := Collects.more hpage hfull hrest
    rwa [← List.drop_drop, List.take_append_drop] at hmore

/-- The pages put together are the list exactly when all keys are below the bound, and the numbers
below the length of the full pages are all keys. -/
theorem collects_iff (h : Serves f l bound k query) (hk : 0 < k) :
    Collects query k 0 l ↔ (∀ a ∈ l, f a < bound) ∧ ∀ j < l.length / k * k, j ∈ l.map f := by
  constructor
  · intro hcollects
    have hbound : ∀ a ∈ l, f a < bound := by
      intro a ha
      obtain ⟨offset, page, hle, hpage, hmem⟩ := hcollects.mem_page ha
      rw [h.answers offset (by omega)] at hpage
      obtain rfl := Except.ok.inj hpage
      have hvisible := (List.mem_filter.1 (List.mem_of_mem_take hmem)).2
      exact (of_decide_eq_true hvisible).2
    refine ⟨hbound, ?_⟩
    obtain ⟨page, hpage, hlength, hlt⟩ := hcollects.last_page
    rw [Nat.zero_add, h.answers_of_lt hbound (Nat.div_mul_le_self _ _)] at hpage
    obtain rfl := Except.ok.inj hpage
    have hsplit := congrArg List.length (filter_append_of_pairwise h.increasing (n := l.length / k * k))
    rw [List.length_append] at hsplit
    rw [List.length_take] at hlength
    have hdiv := Nat.div_add_mod l.length k
    rw [Nat.mul_comm] at hdiv
    have hlow : l.length / k * k ≤ (l.filter fun a => f a < l.length / k * k).length := by omega
    intro j hj
    have hj := mem_map_of_length (h.increasing.sublist List.filter_sublist)
      (fun a ha => of_decide_eq_true (List.mem_filter.1 ha).2) hlow j hj
    obtain ⟨a, ha, rfl⟩ := List.mem_map.1 hj
    exact List.mem_map_of_mem (List.mem_filter.1 ha).1
  · rintro ⟨hbound, hkeys⟩
    have := h.collects_drop hk hbound hkeys (i := l.length / k) (j := 0) (Nat.add_zero _)
    rwa [Nat.zero_mul, List.drop_zero] at this

end Serves

end

end Paging
