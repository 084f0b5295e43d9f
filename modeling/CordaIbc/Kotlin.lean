import Mathlib.Algebra.Ring.Int.Defs
import Mathlib.Algebra.Ring.Nat
import Mathlib.Tactic.Common

/-!
# Kotlin and Java library functions

The parts of the Kotlin and Java standard libraries the contract code calls: exceptions
(`Result`), `require`, `single`, string splitting, and the decimal parsers behind `toLong` and
`toBigInteger`. Nothing here knows the contract.
-/

namespace CordaIbc

/-- The exceptions a verification can end with. Only `IllegalArgumentException` is ever caught, and
its message is then read, so it is the one that must carry its text exactly. -/
inductive Exn where
  | illegalArgument (message : String)
  | noSuchElement (message : String)
  | nullPointer
  | notImplemented
  | other (name : String)
deriving DecidableEq, Repr

abbrev Result := Except Exn

instance {α : Type} [DecidableEq α] : DecidableEq (Result α)
  | .ok a, .ok b => if h : a = b then isTrue (h ▸ rfl) else isFalse fun h' => h (Except.ok.inj h')
  | .error a, .error b =>
    if h : a = b then isTrue (h ▸ rfl) else isFalse fun h' => h (Except.error.inj h')
  | .ok _, .error _ => isFalse nofun
  | .error _, .ok _ => isFalse nofun

namespace Result
variable {α β : Type}

/-- Inversion of a sequenced computation: both halves succeed. -/
theorem bind_ok {x : Result α} {f : α → Result β} {b : β} :
    (x >>= f) = .ok b ↔ ∃ a, x = .ok a ∧ f a = .ok b := by
  cases x with
  | ok a => exact ⟨fun h => ⟨a, rfl, h⟩, fun ⟨_, h, h'⟩ => by cases h; exact h'⟩
  | error e => exact ⟨nofun, nofun⟩

theorem ok_bind {a : α} {f : α → Result β} : (Except.ok a >>= f) = f a := rfl

theorem map_ok {x : Result α} {f : α → β} {b : β} :
    (f <$> x) = .ok b ↔ ∃ a, x = .ok a ∧ f a = b := by
  cases x with
  | ok a => exact ⟨fun h => ⟨a, rfl, Except.ok.inj h⟩, fun ⟨_, h, h'⟩ => by cases h; rw [← h']; rfl⟩
  | error e => exact ⟨nofun, nofun⟩

theorem error_ok {e : Exn} {a : α} : (Except.error e : Result α) = .ok a ↔ False :=
  ⟨nofun, False.elim⟩

end Result

/-- `require(cond){message}`. -/
def require (cond : Prop) [Decidable cond] (message : String := "Failed requirement.") :
    Result Unit :=
  if cond then .ok () else .error (.illegalArgument message)

theorem require_ok {cond : Prop} [Decidable cond] {message : String} {u : Unit} :
    require cond message = .ok u ↔ cond := by
  unfold require; split <;> simp [*]

/-- `x!!`. -/
def notNull {α : Type} : Option α → Result α
  | some a => .ok a
  | none => .error .nullPointer

theorem notNull_ok {α : Type} {x : Option α} {a : α} : notNull x = .ok a ↔ x = some a := by
  cases x <;> simp [notNull]

/-- `x ?: throw e`. -/
def orThrow {α : Type} (x : Option α) (e : Exn) : Result α :=
  match x with
  | some a => .ok a
  | none => .error e

theorem orThrow_ok {α : Type} {x : Option α} {e : Exn} {a : α} :
    orThrow x e = .ok a ↔ x = some a := by
  cases x <;> simp [orThrow]

/-- `xs.single()`. -/
def single {α : Type} : List α → Result α
  | [] => .error (.noSuchElement "List is empty.")
  | [a] => .ok a
  | _ => .error (.illegalArgument "List has more than one element.")

theorem single_ok {α : Type} {xs : List α} {a : α} : single xs = .ok a ↔ xs = [a] := by
  match xs with
  | [] => simp [single]
  | [b] => simp [single]
  | b :: c :: rest => simp [single]

/-- `xs.first()`. -/
def first {α : Type} : List α → Result α
  | [] => .error (.noSuchElement "List is empty.")
  | a :: _ => .ok a

theorem first_ok {α : Type} {xs : List α} {a : α} : first xs = .ok a ↔ ∃ t, xs = a :: t := by
  cases xs <;> simp [first, eq_comm]

/-! ## Strings -/

/-- `s.split(sep)`. -/
def split (s : String) (sep : Char) : List String :=
  (s.toList.splitOn sep).map String.ofList

/-- `xs.joinToString(sep)`. -/
def joinToString (xs : List String) (sep : Char) : String :=
  String.ofList ([sep].intercalate (xs.map String.toList))

/-- `s.split(sep, limit = n)`: the last of at most `n` parts keeps its separators. -/
def splitLimit (s : String) (sep : Char) (n : Nat) : List String :=
  let parts := split s sep
  if parts.length ≤ n then parts
  else parts.take (n - 1) ++ [joinToString (parts.drop (n - 1)) sep]

/-- `s.substringAfterLast(sep)`: the whole string when `sep` does not occur. -/
def substringAfterLast (s : String) (sep : Char) : String :=
  (split s sep).getLastD s

/-- `s.substring(0, i)` and `s.substring(i + 1)` at `i = s.lastIndexOf(sep)`. -/
def splitAtLast (s : String) (sep : Char) : Result (String × String) :=
  match (split s sep).dropLast with
  | [] => .error (.other "StringIndexOutOfBoundsException")
  | init => .ok (joinToString init sep, substringAfterLast s sep)

section
variable {s t u p : String} {c : Char}

theorem split_ne_nil : split s c ≠ [] := by
  simp [split, List.splitOn_ne_nil]

theorem split_eq_singleton (h : c ∉ s.toList) : split s c = [s] := by
  simp [split, List.splitOn_eq_singleton h]

theorem split_append (h : u.toList = s.toList ++ c :: t.toList) :
    split u c = split s c ++ split t c := by
  simp [split, h, List.splitOn_append_cons_self]

@[simp] theorem joinToString_split : joinToString (split s c) c = s := by
  simp [joinToString, split, Function.comp_def]

theorem notMem_of_mem_splitOn {l : List Char} : ∀ {xs : List Char}, l ∈ xs.splitOn c → c ∉ l
  | [], h => by simp at h; simp [h]
  | x :: xs, h => by
    have ih : ∀ {l}, l ∈ xs.splitOn c → c ∉ l := notMem_of_mem_splitOn
    rw [List.splitOn_cons_eq_if_modifyHead] at h
    split at h
    · rcases List.mem_cons.1 h with rfl | h
      · simp
      · exact ih h
    · rename_i hx
      cases hs : xs.splitOn c with
      | nil => exact absurd hs (List.splitOn_ne_nil _ _)
      | cons y ys =>
        rw [hs, List.modifyHead_cons] at h
        rcases List.mem_cons.1 h with rfl | h
        · have := ih (l := y) (by simp [hs])
          simp only [beq_iff_eq] at hx
          simp [this, Ne.symm hx]
        · exact ih (by simp [hs, h])

/-- A part of a split does not contain the separator. -/
theorem notMem_of_mem_split (h : p ∈ split s c) : c ∉ p.toList := by
  obtain ⟨l, hl, rfl⟩ := List.mem_map.1 h
  simpa using notMem_of_mem_splitOn hl

/-- A string is cut at a separator that the rest does not have. -/
theorem splitAtLast_append (hu : u.toList = s.toList ++ c :: t.toList) (ht : c ∉ t.toList) :
    splitAtLast u c = .ok (s, t) := by
  have hs : split u c = split s c ++ [t] := by rw [split_append hu, split_eq_singleton ht]
  unfold splitAtLast substringAfterLast
  rw [hs, List.dropLast_concat, List.getLastD_concat]
  cases hp : split s c with
  | nil => exact absurd hp split_ne_nil
  | cons x xs =>
    dsimp only
    rw [← hp, joinToString_split]

theorem toList_loop (bytes : ByteArray) (i : Nat) (r : List UInt8) :
    ByteArray.toList.loop bytes i r = r.reverse ++ bytes.data.toList.drop i := by
  fun_induction ByteArray.toList.loop bytes i r with
  | case1 i r hi ih =>
    have hi : i < bytes.data.toList.length := hi
    rw [ih, List.reverse_cons, List.append_assoc, List.singleton_append,
      List.drop_eq_getElem_cons hi]
    have hget : bytes.get! i = bytes.data.toList[i] := by
      show bytes.data[i]! = _
      rw [getElem!_pos bytes.data i (by simpa using hi), Array.getElem_toList]
    rw [hget]
  | case2 i r hi =>
    have hi : bytes.data.toList.length ≤ i := Nat.le_of_not_lt hi
    rw [List.drop_eq_nil_of_le hi, List.append_nil]

theorem toUTF8_toList_injective : Function.Injective fun s : String => s.toUTF8.toList := by
  intro s t h
  have h : s.toByteArray.data.toList = t.toByteArray.data.toList := by
    simpa [ByteArray.toList, toList_loop, String.toUTF8] using h
  exact String.toByteArray_inj.1 (ByteArray.ext (Array.toList_inj.1 h))

end

/-! ## Decimal numbers -/

/-- The first code points of the decimal digit blocks of the Basic Multilingual Plane, as
`Character.digit` of Java 8 (Unicode 6.2) knows them. -/
def digitBlocks : List Nat :=
  [0x0030, 0x0660, 0x06F0, 0x07C0, 0x0966, 0x09E6, 0x0A66, 0x0AE6, 0x0B66, 0x0BE6, 0x0C66, 0x0CE6,
   0x0D66, 0x0E50, 0x0ED0, 0x0F20, 0x1040, 0x1090, 0x17E0, 0x1810, 0x1946, 0x19D0, 0x1A80, 0x1A90,
   0x1B50, 0x1BB0, 0x1C40, 0x1C50, 0xA620, 0xA8D0, 0xA900, 0xA9D0, 0xAA50, 0xABF0, 0xFF10]

/-- `Character.digit(c, 10)`, `none` for its `-1`. -/
def Character.digit (c : Char) : Option Nat :=
  (digitBlocks.find? fun b => b ≤ c.toNat ∧ c.toNat < b + 10).map fun b => c.toNat - b

/-- The value of a string of decimal digits, most significant first. -/
def digitsValue (cs : List Char) : Option Nat :=
  cs.foldlM (fun acc c => (Character.digit c).map fun d => 10 * acc + d) 0

def numberFormat (s : String) : Exn := .illegalArgument s!"For input string: {s}"

/-- `s.toBigInteger()`: an optional sign and at least one digit. -/
def toBigInteger (s : String) : Result Int :=
  let parse (neg : Bool) (cs : List Char) : Result Int :=
    if cs = [] then .error (.illegalArgument "Zero length BigInteger")
    else match digitsValue cs with
      | some n => .ok (if neg then -(n : Int) else n)
      | none => .error (numberFormat s)
  match s.toList with
  | '-' :: cs => parse true cs
  | '+' :: cs => parse false cs
  | cs => parse false cs

/-- `s.toLong()`: the same grammar, within 64 bits. -/
def toLong (s : String) : Result Int := do
  let n ← toBigInteger s
  if -2 ^ 63 ≤ n ∧ n < 2 ^ 63 then .ok n else .error (numberFormat s)

/-- The digits a number is printed with are read as they are. -/
theorem Character.digit_of_isDigit {c : Char} (h : c.isDigit = true) :
    Character.digit c = some (c.toNat - '0'.toNat) := by
  simp only [Char.isDigit, Bool.and_eq_true, decide_eq_true_eq, ge_iff_le,
    UInt32.le_iff_toNat_le] at h
  have h₁ : 48 ≤ c.toNat := h.1
  have h₂ : c.toNat ≤ 57 := h.2
  have hd : decide (48 ≤ c.toNat ∧ c.toNat < 48 + 10) = true := decide_eq_true (by omega)
  have hfind : digitBlocks.find? (fun b => b ≤ c.toNat ∧ c.toNat < b + 10) = some 48 :=
    List.find?_cons_of_pos hd
  rw [Character.digit, hfind]
  rfl

theorem digitsValue_of_isDigit {cs : List Char} (h : ∀ c ∈ cs, c.isDigit = true) :
    digitsValue cs = some (Nat.ofDigitChars 10 cs 0) := by
  unfold digitsValue
  generalize 0 = n
  induction cs generalizing n with
  | nil => rfl
  | cons c cs ih =>
    rw [List.foldlM_cons, Character.digit_of_isDigit (h c List.mem_cons_self), Option.map_some]
    exact ih (fun c' hc' => h c' (List.mem_cons_of_mem _ hc')) _

theorem toBigInteger_toString (n : Nat) : toBigInteger (toString n) = .ok (n : Int) := by
  have hdigit : ∀ c ∈ Nat.toDigits 10 n, c.isDigit = true := fun c hc =>
    Nat.isDigit_of_mem_toDigits (by decide) (by decide) hc
  have hvalue := digitsValue_of_isDigit hdigit
  rw [Nat.ofDigitChars_ten_toDigits] at hvalue
  have hnil : Nat.toDigits 10 n ≠ [] := Nat.toDigits_ne_nil
  unfold toBigInteger
  rw [Nat.toString_eq_repr, Nat.toList_repr]
  split
  · rename_i cs he
    have := hdigit '-' (he ▸ List.mem_cons_self)
    cases this
  · rename_i cs he
    have := hdigit '+' (he ▸ List.mem_cons_self)
    cases this
  · simp [hvalue, hnil]

theorem toLong_toString {n : Nat} (h : n < 2 ^ 63) : toLong (toString n) = .ok (n : Int) := by
  have hrange : -2 ^ 63 ≤ (n : Int) ∧ (n : Int) < 2 ^ 63 := by omega
  simp only [toLong, toBigInteger_toString, Bind.bind, Except.bind, if_pos hrange]

end CordaIbc
