import Mathlib.Algebra.BigOperators.Group.Finset.Basic
import Mathlib.Algebra.Order.BigOperators.Group.List
import Mathlib.Algebra.Ring.Int.Defs

/-!
# Weighed lists

`weigh w l` adds a weight over the entries of a list. A list of distinct entries of another weighs no
more than that one (`weigh_le_of_subset`), and entries that match distinct entries of another list can
be counted there instead (`exists_matched`): so what became of the entries of a log, each in at most
one way, is bounded by the log.
-/

universe u v

variable {α : Type u} {β : Type v}

/-- The sum of a weight over a list. -/
def weigh (w : α → Int) (l : List α) : Int := (l.map w).sum

section
variable {w w' : α → Int} {l m : List α} {a : α}

@[simp] theorem weigh_nil : weigh w [] = 0 := rfl

@[simp] theorem weigh_cons : weigh w (a :: l) = w a + weigh w l := by simp [weigh]

@[simp] theorem weigh_append : weigh w (l ++ m) = weigh w l + weigh w m := by simp [weigh]

theorem weigh_congr (h : ∀ a ∈ l, w a = w' a) : weigh w l = weigh w' l := by
  unfold weigh
  rw [List.map_congr_left h]

theorem weigh_le (h : ∀ a ∈ l, w a ≤ w' a) : weigh w l ≤ weigh w' l := by
  induction l with
  | nil => exact le_rfl
  | cons a l ih =>
    have hhead := h a List.mem_cons_self
    have htail := ih fun b hb => h b (List.mem_cons_of_mem _ hb)
    simp only [weigh_cons]
    omega

theorem weigh_nonneg (h : ∀ a ∈ l, 0 ≤ w a) : 0 ≤ weigh w l := by
  have hle := weigh_le (w := fun _ => 0) h
  have hzero : weigh (fun _ : α => 0) l = 0 := by simp [weigh]
  omega

theorem weigh_sum {κ : Type*} (f : κ → α → Int) (s : Finset κ) :
    weigh (fun a => ∑ k ∈ s, f k a) l = ∑ k ∈ s, weigh (f k) l := by
  induction l with
  | nil => simp
  | cons a l ih => simp only [weigh_cons, ih, Finset.sum_add_distrib]

/-- Distinct entries of a list weigh no more than all of it. -/
theorem weigh_le_of_subset (hn : l.Nodup) (hs : l ⊆ m) (h : ∀ a ∈ m, 0 ≤ w a) :
    weigh w l ≤ weigh w m := by
  obtain ⟨l', hperm, hsub⟩ := List.subperm_of_subset hn hs
  have hsum : weigh w l' = weigh w l := (hperm.map w).sum_eq
  rw [← hsum]
  refine (hsub.map w).sum_le_sum fun x hx => ?_
  obtain ⟨a, ha, rfl⟩ := List.mem_map.1 hx
  exact h a ha

end

/-- Entries that each match an entry of another list, no two the same one, weigh as much as those. -/
theorem exists_matched {R : α → β → Prop} {w : α → Int} {v : β → Int} {l : List β} {m : List α}
    (hmatch : ∀ b ∈ l, ∃ a ∈ m, R a b) (hdistinct : l.Pairwise fun b b' => ∀ a, R a b → ¬ R a b')
    (hw : ∀ a b, R a b → w a = v b) :
    ∃ l' : List α, l'.Nodup ∧ l' ⊆ m ∧ weigh w l' = weigh v l ∧ ∀ a ∈ l', ∃ b ∈ l, R a b := by
  induction l with
  | nil => exact ⟨[], List.nodup_nil, List.nil_subset m, rfl, nofun⟩
  | cons b l ih =>
    obtain ⟨hb, hdistinct⟩ := List.pairwise_cons.1 hdistinct
    obtain ⟨a, ha, hab⟩ := hmatch b List.mem_cons_self
    obtain ⟨l', hn, hs, hsum, hback⟩ := ih (fun b hb => hmatch b (List.mem_cons_of_mem _ hb)) hdistinct
    refine ⟨a :: l', List.nodup_cons.2 ⟨fun hm => ?_, hn⟩, List.cons_subset.2 ⟨ha, hs⟩, ?_, ?_⟩
    · obtain ⟨b', hb', hab'⟩ := hback a hm
      exact hb b' hb' a hab hab'
    · rw [weigh_cons, weigh_cons, hsum, hw a b hab]
    · intro c hc
      rcases List.mem_cons.1 hc with rfl | hc
      · exact ⟨b, List.mem_cons_self, hab⟩
      · obtain ⟨b', hb', hcb⟩ := hback c hc
        exact ⟨b', List.mem_cons_of_mem _ hb', hcb⟩
