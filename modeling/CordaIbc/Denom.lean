import CordaIbc.Crypto

/-!
# Denominations and their paths (ics20/denom-path.kt, ics20/Denom.kt)

A denomination is a base denomination behind a path of port and channel identifiers. The parser
`Denom.fromString` cuts at the last slash, so it inverts `toString` on every denomination whose base
has no slash (`fromString_toString`); the denominations the contract works with all are
(`Plain`).
-/

namespace CordaIbc

/-! ## denom-path.kt -/

namespace DenomPath

/-- `path.addPath(portId, channelId)`. -/
def addPath (path : String) (portId channelId : Identifier) : String :=
  let newPath := portId.id ++ "/" ++ channelId.id
  if path = "" then newPath else newPath ++ "/" ++ path

/-- `path.removePrefix()`. -/
def removePrefix (path : String) : Result String :=
  let components := splitLimit path '/' 3
  if components.length = 2 then .ok ""
  else do
    require (components.length = 3)
    .ok (components.getLastD "")

/-- `path.hasPrefixes(prefixes)`. -/
def hasPrefixes (path : String) (prefixes : List String) : Bool :=
  let components := split path '/'
  if components.length < prefixes.length then false
  else (prefixes.zip components).all fun (p, c) => c = p

end DenomPath

/-! ## Denom.kt -/

structure Denom where
  denomTrace : DenomTrace
deriving DecidableEq, Repr

namespace Denom

/-- `Denom.fromString`. -/
def fromString (denom : String) : Denom :=
  let parts := split denom '/'
  ⟨⟨joinToString parts.dropLast '/', parts.getLastD ""⟩⟩

def addPath (d : Denom) (portId chanId : Identifier) : Denom :=
  ⟨{ d.denomTrace with path := DenomPath.addPath d.denomTrace.path portId chanId }⟩

def hasPrefix (d : Denom) (portId chanId : Identifier) : Bool :=
  DenomPath.hasPrefixes d.denomTrace.path [portId.id, chanId.id]

def removePrefix (d : Denom) : Result Denom := do
  let path ← DenomPath.removePrefix d.denomTrace.path
  .ok ⟨{ d.denomTrace with path }⟩

def isVoucher (d : Denom) : Bool := d.denomTrace.path ≠ ""

def toString (d : Denom) : String :=
  if d.isVoucher then d.denomTrace.path ++ "/" ++ d.denomTrace.baseDenom else d.denomTrace.baseDenom

variable (C : Crypto)

def toIbcDenom (d : Denom) : String :=
  "ibc/" ++ toHex (C.sha256 d.toString.toUTF8.toList)

/-- `Denom.decodeIssuedCurrency`: three letters of currency code, then the issuer key in
hexadecimal. -/
def decodeIssuedCurrency (issuedCurrency : String) : Result (PublicKey × Currency) := do
  let cs := issuedCurrency.toList
  if cs.length < 3 then .error (.other "StringIndexOutOfBoundsException") else
  let issuerKey ← C.decodePublicKey (← hexToByteArray (String.ofList (cs.drop 3)))
  let currency ← C.currencyGetInstance (String.ofList (cs.take 3))
  .ok (issuerKey, currency)

def issuerKey (d : Denom) : Result PublicKey := do
  require (d.isVoucher = false)
  let (issuerKey, _) ← decodeIssuedCurrency C d.denomTrace.baseDenom
  .ok issuerKey

def currency (d : Denom) : Result Currency := do
  require (d.isVoucher = false)
  let (_, currency) ← decodeIssuedCurrency C d.denomTrace.baseDenom
  .ok currency

/-- The base denomination has no slash: every denomination parsed from a string is plain. -/
def Plain (d : Denom) : Prop := '/' ∉ d.denomTrace.baseDenom.toList

end Denom

/-! ## Paths -/

theorem Identifier.slash_notMem (i : Identifier) : '/' ∉ i.id.toList := fun h => by
  have := List.all_eq_true.1 i.valid _ h
  exact absurd this (by decide)

namespace DenomPath
variable {path : String} {p c : Identifier}

theorem split_addPath_empty : split (addPath "" p c) '/' = [p.id, c.id] := by
  rw [split_append (s := p.id) (t := c.id) (by simp [addPath]), split_eq_singleton p.slash_notMem,
    split_eq_singleton c.slash_notMem]
  rfl

theorem split_addPath (h : path ≠ "") :
    split (addPath path p c) '/' = p.id :: c.id :: split path '/' := by
  have h₁ : split (addPath path p c) '/' = split p.id '/' ++ split (c.id ++ "/" ++ path) '/' :=
    split_append (by simp [addPath, h])
  have h₂ : split (c.id ++ "/" ++ path) '/' = split c.id '/' ++ split path '/' :=
    split_append (by simp)
  rw [h₁, h₂, split_eq_singleton p.slash_notMem, split_eq_singleton c.slash_notMem]
  rfl

theorem hasPrefixes_two {a b : String} :
    hasPrefixes path [a, b] = true ↔ ∃ rest, split path '/' = a :: b :: rest := by
  unfold hasPrefixes
  rcases h : split path '/' with _ | ⟨x, _ | ⟨y, rest⟩⟩
  · simp
  · simp
  · constructor
    · intro h'
      obtain ⟨rfl, rfl⟩ : x = a ∧ y = b := by simpa using h'
      exact ⟨rest, rfl⟩
    · rintro ⟨_, h'⟩
      cases h'
      simp

theorem hasPrefixes_addPath : hasPrefixes (addPath path p c) [p.id, c.id] = true := by
  by_cases h : path = ""
  · subst h; exact hasPrefixes_two.2 ⟨[], split_addPath_empty⟩
  · exact hasPrefixes_two.2 ⟨_, split_addPath h⟩

theorem hasPrefixes_empty {a b : String} : hasPrefixes "" [a, b] = false := by
  have hs : split "" '/' = [""] := by decide
  unfold hasPrefixes
  rw [hs]
  rfl

theorem removePrefix_addPath : removePrefix (addPath path p c) = .ok path := by
  by_cases h : path = ""
  · subst h; simp [removePrefix, splitLimit, split_addPath_empty]
  · have hne : split path '/' ≠ [] := split_ne_nil
    unfold removePrefix splitLimit
    rw [split_addPath h]
    cases hs : split path '/' with
    | nil => exact absurd hs hne
    | cons x xs =>
      cases xs with
      | nil =>
        have := joinToString_split (s := path) (c := '/')
        rw [hs] at this
        simp [joinToString] at this
        simp [require, this, Bind.bind, Except.bind]
      | cons y ys =>
        have := joinToString_split (s := path) (c := '/')
        rw [hs] at this
        have hlen : ¬ ys.length + 1 + 1 + 1 < 3 := by omega
        simp [require, this, hlen, Bind.bind, Except.bind]

end DenomPath

namespace Denom
variable {d : Denom} {p c : Identifier}

theorem plain_fromString (s : String) : (fromString s).Plain := by
  refine notMem_of_mem_split (s := s) (c := '/') ?_
  rw [show (fromString s).denomTrace.baseDenom = (split s '/').getLastD "" from rfl,
    List.getLastD_eq_getLast?, List.getLast?_eq_some_getLast split_ne_nil]
  exact List.getLast_mem _

theorem Plain.addPath (h : d.Plain) : (d.addPath p c).Plain := h

/-- Parsing inverts printing. -/
theorem fromString_toString (h : d.Plain) : fromString d.toString = d := by
  have hb : split d.denomTrace.baseDenom '/' = [d.denomTrace.baseDenom] := split_eq_singleton h
  unfold toString fromString
  by_cases hv : d.isVoucher
  · simp only [hv, if_true]
    rw [split_append (s := d.denomTrace.path) (t := d.denomTrace.baseDenom) (by simp), hb]
    simp
  · have hp : d.denomTrace.path = "" := by simpa [isVoucher] using hv
    have hs : (if d.isVoucher = true then d.denomTrace.path ++ "/" ++ d.denomTrace.baseDenom
        else d.denomTrace.baseDenom) = d.denomTrace.baseDenom := if_neg hv
    rw [hs, hb]
    obtain ⟨path, baseDenom⟩ := d
    subst hp
    rfl

@[simp] theorem hasPrefix_addPath : (d.addPath p c).hasPrefix p c = true :=
  DenomPath.hasPrefixes_addPath

@[simp] theorem removePrefix_addPath : (d.addPath p c).removePrefix = .ok d := by
  simp [removePrefix, addPath, DenomPath.removePrefix_addPath, Bind.bind, Except.bind]

theorem hasPrefix_of_path_empty (h : d.denomTrace.path = "") : d.hasPrefix p c = false := by
  simp [hasPrefix, h, DenomPath.hasPrefixes_empty]

/-- Denominations with one hash are one, as long as the hash function has no collision. -/
theorem eq_of_toIbcDenom_eq {C : Crypto} (hinj : Function.Injective C.sha256) {d' : Denom}
    (hd : d.Plain) (hd' : d'.Plain) (h : d.toIbcDenom C = d'.toIbcDenom C) : d = d' := by
  have h := congrArg String.toList h
  simp only [toIbcDenom, String.toList_append, List.append_cancel_left_eq] at h
  have hname : d.toString = d'.toString :=
    toUTF8_toList_injective (hinj (toHex_injective (String.toList_injective h)))
  rw [← fromString_toString hd, ← fromString_toString hd', hname]

theorem hasPrefixes_toIbcDenom {C : Crypto} :
    DenomPath.hasPrefixes (d.toIbcDenom C) ["ibc"] = true := by
  have hs : split (d.toIbcDenom C) '/' =
      split "ibc" '/' ++ split (toHex (C.sha256 d.toString.toUTF8.toList)) '/' :=
    split_append (by simp [toIbcDenom])
  have hibc : split "ibc" '/' = ["ibc"] := by decide
  unfold DenomPath.hasPrefixes
  rw [hs, hibc]
  simp

/-- The first two names of a path are one port and one channel. -/
theorem eq_of_hasPrefix {p' c' : Identifier} (h : d.hasPrefix p c = true)
    (h' : d.hasPrefix p' c' = true) : p' = p ∧ c' = c := by
  obtain ⟨rest, hs⟩ := DenomPath.hasPrefixes_two.1 h
  obtain ⟨rest', hs'⟩ := DenomPath.hasPrefixes_two.1 h'
  rw [hs] at hs'
  obtain ⟨hp, hc, -⟩ : p.id = p'.id ∧ c.id = c'.id ∧ rest = rest' := by simpa using hs'
  exact ⟨Identifier.ext hp.symm, Identifier.ext hc.symm⟩

end Denom

end CordaIbc
