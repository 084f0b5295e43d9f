import CordaIbc.Proto

/-!
# Third-party primitives

`Crypto` collects the library functions the contract calls and does not define: hashing, key and
address encodings, currencies. Results about the contract hold for every `Crypto`; what they need
of one is a hypothesis (`sha256` injective, say).
-/

namespace CordaIbc

/-- `java.util.Currency`. -/
structure Currency where
  currencyCode : String
deriving DecidableEq, Repr

structure Crypto where
  /-- `SecureHash.sha256(bytes).bytes`. -/
  sha256 : Bytes → Bytes
  /-- `UUID.nameUUIDFromBytes` of the US-ASCII bytes of a string. -/
  nameUUIDFromBytes : String → Bytes
  /-- bitcoinj's `Bech32.decode`: the human-readable part and the 5-bit data. -/
  bech32Decode : String → Result (String × Bytes)
  /-- `Crypto.decodePublicKey`. -/
  decodePublicKey : Bytes → Result PublicKey
  /-- `Currency.getInstance`. -/
  currencyGetInstance : String → Result Currency
  /-- `Currency.defaultFractionDigits`. -/
  defaultFractionDigits : Currency → Int

/-- No two identifiers have the same name-based UUID. -/
def Crypto.UniqueNames (C : Crypto) : Prop :=
  Function.Injective fun i : Identifier => C.nameUUIDFromBytes i.id

/-! ## Hexadecimal -/

def hexDigit (n : Nat) : Char := Char.ofNat (if n < 10 then 48 + n else 55 + n)

/-- `bytes.toHex()`: upper case. -/
def toHex (bytes : Bytes) : String :=
  String.ofList (bytes.flatMap fun b => [hexDigit (b.toNat / 16), hexDigit (b.toNat % 16)])

theorem hexDigit_inj {n m : Nat} (hn : n < 16) (hm : m < 16) (h : hexDigit n = hexDigit m) :
    n = m := by
  have hall : ∀ n < 16, ∀ m < 16, hexDigit n = hexDigit m → n = m := by decide
  exact hall n hn m hm h

theorem toHex_injective : Function.Injective toHex := by
  intro a b h
  replace h := String.ofList_injective h
  induction a generalizing b with
  | nil =>
    cases b with
    | nil => rfl
    | cons y ys => cases h
  | cons x xs ih =>
    cases b with
    | nil => cases h
    | cons y ys =>
      simp only [List.flatMap_cons, List.cons_append, List.nil_append, List.cons.injEq] at h
      obtain ⟨h₁, h₂, hrest⟩ := h
      have hx := x.toNat_lt
      have hy := y.toNat_lt
      have h₁ : x.toNat / 16 = y.toNat / 16 := hexDigit_inj (by omega) (by omega) h₁
      have h₂ : x.toNat % 16 = y.toNat % 16 := hexDigit_inj (by omega) (by omega) h₂
      have hxy : x = y := UInt8.toNat_inj.1 (by omega)
      rw [hxy, ih hrest]

def hexValue (c : Char) : Option Nat :=
  if '0' ≤ c ∧ c ≤ '9' then some (c.toNat - 48)
  else if 'A' ≤ c ∧ c ≤ 'F' then some (c.toNat - 55)
  else if 'a' ≤ c ∧ c ≤ 'f' then some (c.toNat - 87)
  else none

/-- `s.hexToByteArray()`: pairs of digits of either case. -/
def hexToByteArray (s : String) : Result Bytes :=
  go s.toList
where
  go : List Char → Result Bytes
    | [] => .ok []
    | [_] => .error (.illegalArgument s!"hexBinary needs to be even-length: {s}")
    | c :: d :: rest =>
      match hexValue c, hexValue d with
      | some h, some l => do
        let bytes ← go rest
        .ok (UInt8.ofNat (16 * h + l) :: bytes)
      | _, _ => .error (.illegalArgument s!"contains illegal character for hexBinary: {s}")

/-! ## ics20.Address -/

/-- An `OpaqueBytes` value is never empty. -/
structure Address where
  bytes : Bytes
  nonempty : bytes ≠ []
deriving DecidableEq

namespace Address

def of (bytes : Bytes) : Result Address :=
  if h : bytes ≠ [] then .ok ⟨bytes, h⟩
  else .error (.illegalArgument "Byte Array must not be empty")

theorem of_ok {bytes : Bytes} {a : Address} : of bytes = .ok a ↔ a.bytes = bytes := by
  unfold of
  split
  · simp only [Except.ok.injEq]
    exact ⟨fun h => h ▸ rfl, fun h => by cases a; cases h; rfl⟩
  · rename_i h
    simp only [reduceCtorEq, false_iff]
    rintro rfl
    exact h a.nonempty

/-- The inner `while (bits >= toBits)` loop of `convertBits`; it runs at most `bits` times. -/
def drain (toBits maxv acc : Nat) : Nat → Nat → Bytes → Nat × Bytes
  | 0, bits, out => (bits, out)
  | fuel + 1, bits, out =>
    if toBits ≤ bits then
      drain toBits maxv acc fuel (bits - toBits)
        (out ++ [UInt8.ofNat ((acc >>> (bits - toBits)) &&& maxv)])
    else (bits, out)

/-- The body of the loop over the input bytes. -/
def convertByte (fromBits toBits : Nat) (st : Nat × Nat × Bytes) (b : UInt8) :
    Result (Nat × Nat × Bytes) := do
  let (acc, bits, out) := st
  let maxv := (1 <<< toBits) - 1
  let maxAcc := (1 <<< (fromBits + toBits - 1)) - 1
  let value := b.toNat
  require (value >>> fromBits = 0) s!"Input value '{value}' exceeds '{fromBits}' bit size"
  let acc := ((acc <<< fromBits) ||| value) &&& maxAcc
  let (bits, out) := drain toBits maxv acc (bits + fromBits) (bits + fromBits) out
  .ok (acc, bits, out)

/-- `bytes.convertBits(fromBits, toBits, pad)`. -/
def convertBits (bytes : Bytes) (fromBits toBits : Nat) (pad : Bool) : Result Bytes := do
  let maxv := (1 <<< toBits) - 1
  let (acc, bits, out) ← bytes.foldlM (convertByte fromBits toBits) (0, 0, [])
  if pad then
    .ok (if 0 < bits then out ++ [UInt8.ofNat ((acc <<< (toBits - bits)) &&& maxv)] else out)
  else do
    require (¬ (fromBits ≤ bits ∨ (acc <<< (toBits - bits)) &&& maxv ≠ 0))
      "Could not convert bits, invalid padding"
    .ok out

variable (C : Crypto)

/-- `Address.fromBech32`. -/
def fromBech32 (bech32 : String) : Result Address := do
  let (hrp, data) ← C.bech32Decode bech32
  require (hrp = "cosmos")
  of (← convertBits data 5 8 false)

/-- `Address.fromPublicKey`. -/
def fromPublicKey (pubkey : PublicKey) : Result Address := of pubkey.encoded

/-- `address.toPublicKey()`. -/
def toPublicKey (a : Address) : Result PublicKey := C.decodePublicKey a.bytes

end Address

end CordaIbc
