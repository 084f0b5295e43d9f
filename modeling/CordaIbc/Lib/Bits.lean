import Mathlib.Data.List.Basic
import Mathlib.Data.Nat.Bitwise

/-!
# Numbers as bits

`bitsOf w n` is the last `w` bits of `n`, the most significant one first, and `digitBits w l` the bits
of a list of digits of `w` bits each. Digits are read back from their bits (`eq_of_digitBits_eq`), so
two groupings of one sequence of bits determine each other.
-/

/-- The last `w` bits of a number, the most significant first. -/
def bitsOf : Nat → Nat → List Bool
  | 0, _ => []
  | w + 1, n => n.testBit w :: bitsOf w n

/-- The bits of digits of `w` bits. -/
def digitBits (w : Nat) (l : List Nat) : List Bool := l.flatMap (bitsOf w)

section
variable {v w n m : Nat} {l l' : List Nat}

@[simp] theorem length_bitsOf : (bitsOf w n).length = w := by
  induction w with
  | zero => rfl
  | succ w ih => simp [bitsOf, ih]

/-- Only the last bits count. -/
theorem bitsOf_congr (h : ∀ i < w, n.testBit i = m.testBit i) : bitsOf w n = bitsOf w m := by
  induction w with
  | zero => rfl
  | succ w ih =>
    rw [bitsOf, bitsOf, h w (Nat.lt_succ_self w), ih fun i hi => h i (Nat.lt_succ_of_lt hi)]

theorem testBit_of_bitsOf_eq (h : bitsOf w n = bitsOf w m) : ∀ i < w, n.testBit i = m.testBit i := by
  induction w with
  | zero =>
    intro i hi
    omega
  | succ w ih =>
    intro i hi
    obtain ⟨hw, hrest⟩ := List.cons.inj h
    rcases Nat.lt_succ_iff_lt_or_eq.1 hi with hi | rfl
    · exact ih hrest i hi
    · exact hw

theorem eq_of_bitsOf_eq (hn : n < 2 ^ w) (hm : m < 2 ^ w) (h : bitsOf w n = bitsOf w m) : n = m := by
  refine Nat.eq_of_testBit_eq fun i => ?_
  by_cases hi : i < w
  · exact testBit_of_bitsOf_eq h i hi
  · have hle : 2 ^ w ≤ 2 ^ i := Nat.pow_le_pow_right (by omega) (by omega)
    rw [Nat.testBit_lt_two_pow (by omega), Nat.testBit_lt_two_pow (by omega)]

theorem bitsOf_zero : bitsOf w 0 = List.replicate w false := by
  induction w with
  | zero => rfl
  | succ w ih => simp [bitsOf, ih, List.replicate_succ]

/-- The bits above the last `w`, then those. -/
theorem bitsOf_add : bitsOf (v + w) n = bitsOf v (n >>> w) ++ bitsOf w n := by
  induction v with
  | zero => simp [bitsOf]
  | succ v ih =>
    rw [Nat.add_right_comm, bitsOf, ih, bitsOf, Nat.testBit_shiftRight, Nat.add_comm w v]
    rfl

theorem bitsOf_shiftLeft_or (hm : m < 2 ^ w) :
    bitsOf (v + w) (n <<< w ||| m) = bitsOf v n ++ bitsOf w m := by
  rw [bitsOf_add]
  congr 1
  · refine bitsOf_congr fun i _ => ?_
    have hhigh : m.testBit (w + i) = false := by
      have hle : 2 ^ w ≤ 2 ^ (w + i) := Nat.pow_le_pow_right (by omega) (by omega)
      exact Nat.testBit_lt_two_pow (by omega)
    simp [Nat.testBit_shiftRight, Nat.testBit_or, Nat.testBit_shiftLeft, hhigh]
  · refine bitsOf_congr fun i hi => ?_
    have hlow : ¬ w ≤ i := by omega
    simp [Nat.testBit_or, Nat.testBit_shiftLeft, hlow]

theorem bitsOf_and_mask (h : w ≤ v) : bitsOf w (n &&& (1 <<< v - 1)) = bitsOf w n := by
  refine bitsOf_congr fun i hi => ?_
  have hiv : i < v := by omega
  rw [Nat.one_shiftLeft, Nat.testBit_and, Nat.testBit_two_pow_sub_one]
  simp [hiv]

theorem and_mask_lt : n &&& (1 <<< v - 1) < 2 ^ v := by
  rw [Nat.one_shiftLeft, Nat.and_two_pow_sub_one_eq_mod]
  exact Nat.mod_lt _ (Nat.two_pow_pos v)

/-! ### Digits -/

@[simp] theorem digitBits_nil : digitBits w [] = [] := rfl

@[simp] theorem digitBits_append : digitBits w (l ++ l') = digitBits w l ++ digitBits w l' := by
  simp [digitBits]

@[simp] theorem digitBits_singleton : digitBits w [n] = bitsOf w n := by simp [digitBits]

@[simp] theorem length_digitBits : (digitBits w l).length = w * l.length := by
  induction l with
  | nil => simp
  | cons a l ih =>
    have hcons : digitBits w (a :: l) = bitsOf w a ++ digitBits w l := rfl
    rw [hcons, List.length_append, length_bitsOf, ih, List.length_cons, Nat.mul_succ, Nat.add_comm]

/-- Digits are read back from their bits. -/
theorem eq_of_digitBits_eq (hl : ∀ a ∈ l, a < 2 ^ w) (hl' : ∀ a ∈ l', a < 2 ^ w)
    (hlen : l.length = l'.length) (h : digitBits w l = digitBits w l') : l = l' := by
  induction l generalizing l' with
  | nil => exact (List.length_eq_zero_iff.1 hlen.symm).symm
  | cons a l ih =>
    rcases l' with _ | ⟨b, l'⟩
    · cases hlen
    · have h : bitsOf w a ++ digitBits w l = bitsOf w b ++ digitBits w l' := h
      obtain ⟨hhead, htail⟩ := List.append_inj h (by simp)
      obtain rfl := eq_of_bitsOf_eq (hl a List.mem_cons_self) (hl' b List.mem_cons_self) hhead
      rw [ih (fun c hc => hl c (List.mem_cons_of_mem _ hc))
        (fun c hc => hl' c (List.mem_cons_of_mem _ hc)) (Nat.succ.inj hlen) htail]

end
