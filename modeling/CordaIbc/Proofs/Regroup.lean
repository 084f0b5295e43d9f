import CordaIbc.Crypto
import CordaIbc.Lib.Bits

/-!
# The regrouping of bits (ics20/Address.kt)

`convertBits` reads digits of one width and writes digits of another. What it has written, followed by
the pending bits of the accumulator, is at every byte the bits it has read (`Regroups`). So widening
undoes narrowing, and narrowing gives back what widening accepts (`convertBits_inverse`).
-/

namespace CordaIbc

namespace Address

/-- The bits of bytes that hold `w` bits each. -/
def bytesBits (w : Nat) (bytes : Bytes) : List Bool := digitBits w (bytes.map UInt8.toNat)

/-- The bytes hold `w` bits each. -/
def Fits (w : Nat) (bytes : Bytes) : Prop := ∀ b ∈ bytes, b.toNat < 2 ^ w

/-- The state of `convertBits` after some input: nothing read is lost. -/
structure Regroups (fromBits toBits : Nat) (input : Bytes) (st : Nat × Nat × Bytes) : Prop where
  read : Fits fromBits input
  acc : st.1 < 2 ^ (fromBits + toBits - 1)
  bits : st.2.1 < toBits
  written : Fits toBits st.2.2
  stream : bytesBits toBits st.2.2 ++ bitsOf st.2.1 st.1 = bytesBits fromBits input

section
variable {w fromBits toBits acc bits : Nat} {b b' input out : Bytes} {byte : UInt8}
  {st st' : Nat × Nat × Bytes} {pad : Bool}

@[simp] theorem bytesBits_append : bytesBits w (b ++ b') = bytesBits w b ++ bytesBits w b' := by
  simp [bytesBits]

@[simp] theorem length_bytesBits : (bytesBits w b).length = w * b.length := by simp [bytesBits]

theorem fits_nil : Fits w [] := nofun

theorem Fits.append (h : Fits w b) (h' : Fits w b') : Fits w (b ++ b') := by
  intro x hx
  rcases List.mem_append.1 hx with hx | hx
  · exact h x hx
  · exact h' x hx

theorem Fits.of_append (h : Fits w (b ++ b')) : Fits w b ∧ Fits w b' :=
  ⟨fun x hx => h x (List.mem_append_left _ hx), fun x hx => h x (List.mem_append_right _ hx)⟩

/-- Bytes are read back from their bits. -/
theorem eq_of_bytesBits_eq (hb : Fits w b) (hb' : Fits w b') (hlen : b.length = b'.length)
    (h : bytesBits w b = bytesBits w b') : b = b' := by
  have hinj : Function.Injective UInt8.toNat := fun _ _ h => UInt8.toNat_inj.1 h
  refine hinj.list_map (eq_of_digitBits_eq (w := w) ?_ ?_ (by simpa using hlen) h)
  · intro n hn
    obtain ⟨x, hx, rfl⟩ := List.mem_map.1 hn
    exact hb x hx
  · intro n hn
    obtain ⟨x, hx, rfl⟩ := List.mem_map.1 hn
    exact hb' x hx

/-- A digit of `w` bits, as it is written. -/
theorem toNat_digit {n : Nat} (hw : w ≤ 8) :
    (UInt8.ofNat (n &&& (1 <<< w - 1))).toNat = n &&& (1 <<< w - 1) := by
  have hlt : n &&& (1 <<< w - 1) < 2 ^ w := and_mask_lt
  have hle : 2 ^ w ≤ 2 ^ 8 := Nat.pow_le_pow_right (by omega) hw
  rw [UInt8.toNat_ofNat']
  exact Nat.mod_eq_of_lt (by omega)

theorem fits_digit {n : Nat} (hw : w ≤ 8) : Fits w [UInt8.ofNat (n &&& (1 <<< w - 1))] := by
  intro x hx
  obtain rfl := List.mem_singleton.1 hx
  rw [toNat_digit hw]
  exact and_mask_lt

theorem bytesBits_digit {n : Nat} (hw : w ≤ 8) :
    bytesBits w [UInt8.ofNat (n &&& (1 <<< w - 1))] = bitsOf w n := by
  rw [bytesBits, List.map_singleton, digitBits_singleton, toNat_digit hw]
  exact bitsOf_and_mask le_rfl

/-- The inner loop writes the leading pending bits, and leaves less than a digit of them. -/
theorem drain_stream (acc : Nat) {bits fuel : Nat} (hto : 0 < toBits) (hle : toBits ≤ 8)
    (hfuel : bits ≤ fuel) (hout : Fits toBits out) :
    (drain toBits (1 <<< toBits - 1) acc fuel bits out).1 < toBits ∧
    Fits toBits (drain toBits (1 <<< toBits - 1) acc fuel bits out).2 ∧
    bytesBits toBits (drain toBits (1 <<< toBits - 1) acc fuel bits out).2 ++
      bitsOf (drain toBits (1 <<< toBits - 1) acc fuel bits out).1 acc =
      bytesBits toBits out ++ bitsOf bits acc := by
  induction fuel generalizing bits out with
  | zero =>
    have hbits : bits < toBits := by omega
    exact ⟨hbits, hout, rfl⟩
  | succ fuel ih =>
    unfold drain
    split
    · rename_i hge
      have hdigit := hout.append (fits_digit (n := acc >>> (bits - toBits)) hle)
      obtain ⟨hbits, hfits, hstream⟩ := ih (show bits - toBits ≤ fuel by omega) hdigit
      refine ⟨hbits, hfits, hstream.trans ?_⟩
      have hsplit : bitsOf bits acc = bitsOf toBits (acc >>> (bits - toBits)) ++
          bitsOf (bits - toBits) acc := by
        rw [← bitsOf_add, Nat.add_sub_cancel' hge]
      rw [hsplit, bytesBits_append, bytesBits_digit hle, List.append_assoc]
    · rename_i hlt
      exact ⟨by omega, hout, rfl⟩

theorem Regroups.nil (hto : 0 < toBits) : Regroups fromBits toBits [] (0, 0, []) :=
  ⟨fits_nil, Nat.two_pow_pos _, hto, fits_nil, rfl⟩

/-- The mask keeps the pending bits and the new ones. -/
theorem Regroups.step (h : Regroups fromBits toBits input st) (hto : 0 < toBits) (hle : toBits ≤ 8)
    (hst : convertByte fromBits toBits st byte = .ok st') :
    Regroups fromBits toBits (input ++ [byte]) st' := by
  obtain ⟨acc, bits, out⟩ := st
  simp only [convertByte, Result.bind_ok, require_ok, Except.ok.injEq] at hst
  obtain ⟨-, hvalue, rfl⟩ := hst
  have hbits : bits < toBits := h.bits
  have hbyte : byte.toNat < 2 ^ fromBits := by
    rw [Nat.shiftRight_eq_div_pow] at hvalue
    exact (Nat.div_eq_zero_iff_lt (Nat.two_pow_pos _)).1 hvalue
  obtain ⟨hdrain, hfits, hstream⟩ := drain_stream
    ((acc <<< fromBits ||| byte.toNat) &&& (1 <<< (fromBits + toBits - 1) - 1)) hto hle
    (le_refl (bits + fromBits)) h.written
  refine ⟨h.read.append ?_, and_mask_lt, hdrain, hfits, hstream.trans ?_⟩
  · intro x hx
    obtain rfl := List.mem_singleton.1 hx
    exact hbyte
  · have hinput : bytesBits toBits out ++ bitsOf bits acc = bytesBits fromBits input := h.stream
    rw [bitsOf_and_mask (by omega), bitsOf_shiftLeft_or hbyte, ← List.append_assoc, hinput,
      bytesBits_append]
    simp [bytesBits]

theorem Regroups.run (hto : 0 < toBits) (hle : toBits ≤ 8)
    (h : input.foldlM (convertByte fromBits toBits) (0, 0, []) = .ok st) :
    Regroups fromBits toBits input st := by
  induction input using List.reverseRecOn generalizing st with
  | nil =>
    cases h
    exact .nil hto
  | append_singleton input byte ih =>
    rw [List.foldlM_append] at h
    obtain ⟨st₁, h₁, h₂⟩ := Result.bind_ok.1 h
    have hstep : convertByte fromBits toBits st₁ byte = .ok st := by simpa using h₂
    exact (ih h₁).step hto hle hstep

/-- Bytes that fit are read to the end. -/
theorem exists_run (toBits : Nat) (h : Fits fromBits input) (st : Nat × Nat × Bytes) :
    ∃ st', input.foldlM (convertByte fromBits toBits) st = .ok st' := by
  induction input generalizing st with
  | nil => exact ⟨st, rfl⟩
  | cons byte input ih =>
    obtain ⟨hbyte, hrest⟩ := Fits.of_append (b := [byte]) h
    have hvalue : byte.toNat >>> fromBits = 0 := by
      rw [Nat.shiftRight_eq_div_pow]
      exact Nat.div_eq_of_lt (hbyte byte (List.mem_singleton_self _))
    obtain ⟨st', hst⟩ : ∃ st', convertByte fromBits toBits st byte = .ok st' := by
      obtain ⟨acc, bits, out⟩ := st
      simp only [convertByte, require, hvalue, if_true, Result.ok_bind]
      exact ⟨_, rfl⟩
    obtain ⟨st'', hrun⟩ := ih hrest st'
    exact ⟨st'', by rw [List.foldlM_cons, hst, Result.ok_bind, hrun]⟩

/-! ### Both ends of the loop -/

/-- With padding, the bits read are followed by zeros up to a digit. -/
theorem convertBits_pad (hto : 0 < toBits) (hle : toBits ≤ 8) (hb : Fits fromBits b) :
    ∃ v n, convertBits b fromBits toBits true = .ok v ∧ Fits toBits v ∧ n < toBits ∧
      bytesBits toBits v = bytesBits fromBits b ++ List.replicate n false := by
  obtain ⟨⟨acc, bits, out⟩, hrun⟩ := exists_run toBits hb (0, 0, [])
  have h := Regroups.run hto hle hrun
  have hbits : bits < toBits := h.bits
  have hstream : bytesBits toBits out ++ bitsOf bits acc = bytesBits fromBits b := h.stream
  simp only [convertBits, hrun, Result.ok_bind, if_true]
  by_cases hpos : 0 < bits
  · rw [if_pos hpos]
    refine ⟨_, toBits - bits, rfl, Fits.append h.written (fits_digit hle), by omega, ?_⟩
    have hdigit : bitsOf toBits (acc <<< (toBits - bits)) =
        bitsOf bits acc ++ List.replicate (toBits - bits) false := by
      have hor := bitsOf_shiftLeft_or (v := bits) (n := acc) (Nat.two_pow_pos (toBits - bits))
      rwa [Nat.or_zero, bitsOf_zero, Nat.add_sub_cancel' hbits.le] at hor
    rw [bytesBits_append, bytesBits_digit hle, hdigit, ← List.append_assoc, hstream]
  · rw [if_neg hpos]
    obtain rfl : bits = 0 := by omega
    refine ⟨out, 0, rfl, h.written, hto, ?_⟩
    simpa [bitsOf] using hstream

/-- The pending bits are all zero if the padding check passes. -/
theorem padding_zero_iff (hbits : bits < toBits) :
    (acc <<< (toBits - bits)) &&& (1 <<< toBits - 1) = 0 ↔
      bitsOf bits acc = List.replicate bits false := by
  have hor := bitsOf_shiftLeft_or (v := bits) (n := acc) (Nat.two_pow_pos (toBits - bits))
  rw [Nat.or_zero, Nat.add_sub_cancel' hbits.le] at hor
  have hmask := bitsOf_and_mask (n := acc <<< (toBits - bits)) (le_refl toBits)
  have hzeros : List.replicate toBits false =
      List.replicate bits false ++ bitsOf (toBits - bits) 0 := by
    rw [bitsOf_zero, ← List.replicate_add, Nat.add_sub_cancel' hbits.le]
  constructor
  · intro h
    rw [h, bitsOf_zero, hor, hzeros] at hmask
    exact (List.append_inj_left hmask (by simp)).symm
  · intro h
    refine eq_of_bitsOf_eq and_mask_lt (Nat.two_pow_pos _) ?_
    rw [hmask, hor, h, bitsOf_zero (w := toBits), hzeros]

/-- Without padding, what is left over is less than a byte read and zero. -/
theorem convertBits_exact_ok (hto : 0 < toBits) (hle : toBits ≤ 8)
    (h : convertBits b fromBits toBits false = .ok out) :
    Fits fromBits b ∧ Fits toBits out ∧ ∃ n < fromBits,
      bytesBits fromBits b = bytesBits toBits out ++ List.replicate n false := by
  simp only [convertBits, Bool.false_eq_true, if_false, Result.bind_ok, require_ok,
    Except.ok.injEq] at h
  obtain ⟨⟨acc, bits, out'⟩, hrun, -, hpadding, rfl⟩ := h
  have h := Regroups.run hto hle hrun
  obtain ⟨hlt, hzero⟩ := not_or.1 hpadding
  have hpending : bitsOf bits acc = _ := (padding_zero_iff h.bits).1 (not_not.1 hzero)
  refine ⟨h.read, h.written, bits, Nat.lt_of_not_le hlt, ?_⟩
  rw [← h.stream, hpending]

theorem convertBits_exact_of (hto : 0 < toBits) (hle : toBits ≤ 8) (hb : Fits fromBits b)
    (hout : Fits toBits out) {n : Nat} (hn : n < fromBits) (hn' : n < toBits)
    (h : bytesBits fromBits b = bytesBits toBits out ++ List.replicate n false) :
    convertBits b fromBits toBits false = .ok out := by
  obtain ⟨⟨acc, bits, out'⟩, hrun⟩ := exists_run toBits hb (0, 0, [])
  have hr := Regroups.run hto hle hrun
  have hbits : bits < toBits := hr.bits
  have hstream : bytesBits toBits out' ++ bitsOf bits acc =
      bytesBits toBits out ++ List.replicate n false := hr.stream.trans h
  -- both are cut at the last whole digit
  have hlen : toBits * out'.length + bits = toBits * out.length + n := by
    have := congrArg List.length hstream
    simpa using this
  have hdigits : out'.length = out.length := by
    have hdiv := congrArg (· / toBits) hlen
    simpa [Nat.mul_add_div hto, Nat.div_eq_of_lt hbits, Nat.div_eq_of_lt hn'] using hdiv
  obtain ⟨hwritten, hpending⟩ := List.append_inj hstream (by simp [hdigits])
  obtain rfl : bits = n := by
    rw [hdigits] at hlen
    omega
  obtain rfl : out' = out := eq_of_bytesBits_eq hr.written hout hdigits hwritten
  have hzero := (padding_zero_iff hbits).2 hpending
  have hpadding : ¬ (fromBits ≤ bits ∨ (acc <<< (toBits - bits)) &&& (1 <<< toBits - 1) ≠ 0) :=
    not_or.2 ⟨by omega, not_not.2 hzero⟩
  simp only [convertBits, hrun, Result.ok_bind, Bool.false_eq_true, if_false, require,
    if_pos hpadding]

theorem fits_eight : Fits 8 b := fun x _ => x.toNat_lt

/-- Every string of bytes has groups of five bits, and is read back from them. -/
theorem exists_groups (b : Bytes) : ∃ v, convertBits b 8 5 true = .ok v ∧ Fits 5 v ∧
    convertBits v 5 8 false = .ok b := by
  obtain ⟨v, n, hv, hfits, hn, hstream⟩ :=
    convertBits_pad (show 0 < 5 by decide) (by decide) (fits_eight (b := b))
  exact ⟨v, hv, hfits,
    convertBits_exact_of (by decide) (by decide) hfits fits_eight hn (by omega) hstream⟩

/-- Groups of five bits and back, back and groups of five bits, and the loop between them. -/
theorem convertBits_inverse :
    (∀ b : Bytes, ∃ v, convertBits b 8 5 true = .ok v ∧ convertBits v 5 8 false = .ok b) ∧
    (∀ v b : Bytes, convertBits v 5 8 false = .ok b → convertBits b 8 5 true = .ok v) ∧
    ∀ fromBits toBits : Nat, fromBits ≤ 8 → 0 < toBits → toBits ≤ 8 →
      ∀ (input out : Bytes) (acc bits : Nat),
      input.foldlM (convertByte fromBits toBits) (0, 0, []) = .ok (acc, bits, out) →
      acc < 2 ^ (fromBits + toBits - 1) ∧ bits < toBits ∧
        bytesBits toBits out ++ bitsOf bits acc = bytesBits fromBits input := by
  refine ⟨fun b => ?_, fun v b h => ?_, fun fromBits toBits _ hto hle input out acc bits h => ?_⟩
  · obtain ⟨v, hv, -, hb⟩ := exists_groups b
    exact ⟨v, hv, hb⟩
  · obtain ⟨hv, -, n, hn, hstream⟩ := convertBits_exact_ok (by decide) (by decide) h
    obtain ⟨v', n', hv', hfits, hn', hstream'⟩ :=
      convertBits_pad (show 0 < 5 by decide) (by decide) (fits_eight (b := b))
    -- both add the zeros that fill the last group
    have hlen : 5 * v.length = 8 * b.length + n := by simpa using congrArg List.length hstream
    have hlen' : 5 * v'.length = 8 * b.length + n' := by simpa using congrArg List.length hstream'
    obtain rfl : n = n' := by omega
    rw [hv', eq_of_bytesBits_eq hfits hv (by omega) (hstream'.trans hstream.symm)]
  · have hr := Regroups.run hto hle h
    exact ⟨hr.acc, hr.bits, hr.stream⟩

end

end Address

end CordaIbc
