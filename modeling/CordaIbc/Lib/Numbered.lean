import Mathlib.Data.List.Nodup
import Mathlib.Tactic.Common

/-!
# Numbered lists

`Numbered key l`: the keys of `l` are one, two, three, … in this order. An entry of such a list is
found by its key, and a numbered list whose entries all have a counterpart in another, under the same
key, runs parallel to the front of that one (`Numbered.parallel`).
-/

universe u v w

variable {α : Type u} {β : Type v} {γ : Type w}

def Numbered (key : α → Nat) (l : List α) : Prop := l.map key = List.range' 1 l.length

namespace Numbered
variable {key : α → Nat} {l : List α} {a b : α}

theorem nil : Numbered key [] := rfl

theorem snoc (h : Numbered key l) (ha : key a = l.length + 1) : Numbered key (l ++ [a]) := by
  unfold Numbered at h ⊢
  rw [List.map_append, h, List.length_append, List.length_singleton, List.range'_concat]
  simp [ha, Nat.add_comm]

theorem key_getElem (h : Numbered key l) {i : Nat} (hi : i < l.length) : key l[i] = i + 1 := by
  have hk : (l.map key)[i]? = (List.range' 1 l.length)[i]? := by rw [h]
  rw [List.getElem?_map, List.getElem?_eq_getElem hi, List.getElem?_range' hi] at hk
  simp only [Option.map_some, Option.some.injEq] at hk
  omega

/-- Where an entry stands. -/
theorem exists_getElem (h : Numbered key l) (ha : a ∈ l) :
    ∃ hi : key a - 1 < l.length, l[key a - 1] = a ∧ 1 ≤ key a := by
  obtain ⟨i, hi, rfl⟩ := List.mem_iff_getElem.1 ha
  have hk := h.key_getElem hi
  have he : key l[i] - 1 = i := by omega
  simp only [he]
  exact ⟨hi, trivial, by omega⟩

theorem eq_of_key (h : Numbered key l) (ha : a ∈ l) (hb : b ∈ l) (hk : key a = key b) : a = b := by
  obtain ⟨_, hea, -⟩ := h.exists_getElem ha
  obtain ⟨_, heb, -⟩ := h.exists_getElem hb
  simp only [← hk] at heb
  exact hea.symm.trans heb

theorem nodup (h : Numbered key l) : l.Nodup := by
  refine List.Nodup.of_map key ?_
  rw [h]
  exact List.nodup_range'

/-- A numbered list that another one has all entries of, with `q`, runs parallel to the front of
those entries. -/
theorem parallel {key' : β → Nat} {m : List β} {f : α → γ} {g : β → γ} {q : β → Bool}
    (h : Numbered key l) (h' : Numbered key' m)
    (hall : ∀ a ∈ l, ∃ b ∈ m, key' b = key a ∧ g b = f a ∧ q b = true) :
    l.map f <+: (m.filter q).map g := by
  have hget : ∀ i (hi : i < l.length), ∃ hi' : i < m.length, g m[i] = f l[i] ∧ q m[i] = true := by
    intro i hi
    obtain ⟨b, hb, hk, hg, hq⟩ := hall l[i] (List.getElem_mem hi)
    have hkey := h.key_getElem hi
    obtain ⟨hi', he, -⟩ := h'.exists_getElem hb
    have hidx : key' b - 1 = i := by omega
    simp only [hidx] at hi' he
    exact ⟨hi', he ▸ hg, he ▸ hq⟩
  have hle : l.length ≤ m.length := by
    rcases Nat.eq_zero_or_pos l.length with h0 | hpos
    · omega
    · obtain ⟨hi', -⟩ := hget (l.length - 1) (by omega)
      omega
  have htake : l.map f = (m.take l.length).map g := by
    refine List.ext_getElem (by simp [hle]) fun i hi hi' => ?_
    rw [List.length_map] at hi
    obtain ⟨_, hg, -⟩ := hget i hi
    simp [hg]
  have hfilter : (m.take l.length).filter q = m.take l.length := by
    refine List.filter_eq_self.2 fun b hb => ?_
    obtain ⟨i, hi, rfl⟩ := List.mem_iff_getElem.1 hb
    rw [List.length_take] at hi
    obtain ⟨_, -, hq⟩ := hget i (by omega)
    simpa using hq
  rw [htake, ← hfilter]
  refine List.IsPrefix.map g ?_
  conv => rhs; rw [← List.take_append_drop l.length m, List.filter_append]
  exact List.prefix_append _ _

end Numbered
