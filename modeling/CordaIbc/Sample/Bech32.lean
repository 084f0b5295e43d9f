import CordaIbc.Crypto

/-!
# Bech32

The decoder that addresses go through, and the encoder. What the encoder puts out is decoded without a
look at the checksum (`decodeUnchecked_encode`).
-/

namespace CordaIbc

namespace Sample

namespace Bech32

def charset : List Char := "qpzry9x8gf2tvdw0s3jn54khce6mua7l".toList

/-- The five bits of a character of the data part. -/
def value (c : Char) : Result Nat :=
  match charset.idxOf? c.toLower with
  | some v => .ok v
  | none => .error (.other "AddressFormatException.InvalidCharacter")

def polymodStep (c v : Nat) : Nat :=
  let c0 := c >>> 25 &&& 255
  let c := ((c &&& 0x1ffffff) <<< 5) ^^^ v
  [(1, 0x3b6a57b2), (2, 0x26508e6d), (4, 0x1ea119fa), (8, 0x3d4233dd), (16, 0x2a1462b3)].foldl
    (fun c (bit, generator) => if c0 &&& bit ≠ 0 then c ^^^ generator else c) c

def polymod (values : List Nat) : Nat := values.foldl polymodStep 1

def expandHrp (hrp : List Char) : List Nat :=
  hrp.map (fun c => c.toNat >>> 5 &&& 7) ++ 0 :: hrp.map fun c => c.toNat &&& 31

/-- `Bech32.decode`: a human-readable part, the last `1`, data and six characters of checksum. -/
def decode (s : String) : Result (String × Bytes) := do
  let bad (kind : String) : Exn := .other ("AddressFormatException." ++ kind)
  let cs := s.toList
  if cs.length < 8 ∨ 90 < cs.length then .error (bad "InvalidDataLength") else
  if cs.any (fun c => c.toNat < 33 ∨ 126 < c.toNat) ∨
      (cs.any (·.isLower) ∧ cs.any (·.isUpper)) then .error (bad "InvalidCharacter") else
  let (hrp, dataPart) ← splitAtLast s '1'
  if hrp = "" then .error (bad "InvalidPrefix") else
  if dataPart.length < 6 then .error (bad "InvalidDataLength") else
  let values ← dataPart.toList.mapM value
  let hrp := hrp.toList.map (·.toLower)
  if polymod (expandHrp hrp ++ values) ≠ 1 then .error (bad "InvalidChecksum") else
  .ok (String.ofList hrp, (values.take (values.length - 6)).map UInt8.ofNat)

/-! ## Encoding -/

def char (v : Nat) : Char := charset.getD v 'q'

def checksum (hrp : List Char) (values : List Nat) : List Nat :=
  let remainder := polymod (expandHrp hrp ++ values ++ List.replicate 6 0) ^^^ 1
  (List.range 6).map fun i => remainder >>> (5 * (5 - i)) &&& 31

/-- `Bech32.encode`. -/
def encode (hrp : String) (data : Bytes) : String :=
  let values := data.map (·.toNat)
  String.ofList (hrp.toList ++ '1' :: (values ++ checksum hrp.toList values).map char)

/-- `decode` of a string whose checksum, length and characters are right. -/
def decodeUnchecked (s : String) : Result (String × Bytes) := do
  let (hrp, dataPart) ← splitAtLast s '1'
  let values ← dataPart.toList.mapM value
  .ok (hrp, (values.take (values.length - 6)).map UInt8.ofNat)

theorem value_char : ∀ v < 32, value (char v) = .ok v ∧ char v ≠ '1' := by decide +kernel

theorem mapM_value {vs : List Nat} (h : ∀ v ∈ vs, v < 32) : (vs.map char).mapM value = .ok vs := by
  induction vs with
  | nil => rfl
  | cons v vs ih =>
    rw [List.map_cons, List.mapM_cons, (value_char v (h v List.mem_cons_self)).1, Result.ok_bind,
      ih fun v hv => h v (List.mem_cons_of_mem _ hv)]
    rfl

theorem length_checksum {hrp : List Char} {values : List Nat} :
    (checksum hrp values).length = 6 := by
  rw [checksum, List.length_map, List.length_range]

theorem checksum_lt {hrp : List Char} {values : List Nat} : ∀ v ∈ checksum hrp values, v < 32 := by
  intro v hv
  obtain ⟨i, -, rfl⟩ := List.mem_map.1 hv
  exact Nat.lt_succ_of_le Nat.and_le_right

theorem decodeUnchecked_encode {hrp : String} {data : Bytes} (h : ∀ b ∈ data, b.toNat < 32) :
    decodeUnchecked (encode hrp data) = .ok (hrp, data) := by
  let values := data.map (·.toNat)
  let all := values ++ checksum hrp.toList values
  have hall : ∀ v ∈ all, v < 32 := by
    intro v hv
    rcases List.mem_append.1 hv with hv | hv
    · obtain ⟨b, hb, rfl⟩ := List.mem_map.1 hv
      exact h b hb
    · exact checksum_lt v hv
  have hone : '1' ∉ (String.ofList (all.map char)).toList := by
    rw [String.toList_ofList]
    intro hmem
    obtain ⟨v, hv, heq⟩ := List.mem_map.1 hmem
    exact (value_char v (hall v hv)).2 heq
  have hsplit : splitAtLast (encode hrp data) '1' = .ok (hrp, String.ofList (all.map char)) := by
    refine splitAtLast_append ?_ hone
    rw [String.toList_ofList]
    exact String.toList_ofList
  have htake : (all.take (all.length - 6)).map UInt8.ofNat = data := by
    have hlength : all.length - 6 = values.length := by
      rw [List.length_append, length_checksum, Nat.add_sub_cancel]
    rw [hlength, List.take_left, List.map_map]
    refine (List.map_congr_left fun b _ => ?_).trans (List.map_id _)
    exact UInt8.ofNat_toNat
  have hvalues : (String.ofList (all.map char)).toList.mapM value = .ok all := by
    rw [String.toList_ofList]
    exact mapM_value hall
  unfold decodeUnchecked
  rw [hsplit, Result.ok_bind]
  simp only [hvalues, Result.ok_bind, htake]

end Bech32

end Sample

end CordaIbc
