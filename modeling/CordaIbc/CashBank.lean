import CordaIbc.Denom

/-!
# Cash, vouchers and the cash bank (ics20cash/CashBank.kt, ics20cash/Voucher.kt)

`TokenAmount` is Corda's own `Amount<T>`: its quantity is a non-negative `Long`, and the structure
carries that bound. `Cash` and its `Issued<Currency>` token are Corda Finance's. The cash bank keeps
the supply of each voucher denomination.
-/

namespace CordaIbc

/-! ## java.math.BigDecimal -/

/-- `unscaled * 10 ^ -scale`. -/
structure BigDecimal where
  unscaled : Int
  scale : Int
deriving DecidableEq, Repr

namespace BigDecimal

def ofLong (n : Int) : BigDecimal := ⟨n, 0⟩

/-- `s.toBigDecimal()`: an optional sign, digits with at most one point, an optional exponent. -/
def ofString (s : String) : Result BigDecimal := do
  let (neg, body) := match s.toList with
    | '-' :: cs => (true, cs)
    | '+' :: cs => (false, cs)
    | cs => (false, cs)
  let mantissa := body.takeWhile fun c => ¬ (c = 'e' ∨ c = 'E')
  let exponent ← match body.drop mantissa.length with
    | [] => .ok 0
    | _ :: cs => toBigInteger (String.ofList cs)
  let whole := mantissa.takeWhile fun c => c ≠ '.'
  let fraction := (mantissa.drop whole.length).drop 1
  require (whole ++ fraction ≠ [])
  let n ← orThrow (digitsValue (whole ++ fraction)) (numberFormat s)
  let scale : Int := fraction.length - exponent
  require (-2 ^ 31 ≤ scale ∧ scale < 2 ^ 31)
  .ok ⟨if neg then -(n : Int) else n, scale⟩

/-- `d.divide(10 ^ -fractionDigits).setScale(0, RoundingMode.FLOOR)`. -/
def floorUnits (d : BigDecimal) (fractionDigits : Int) : Int :=
  let e := fractionDigits - d.scale
  if 0 ≤ e then d.unscaled * 10 ^ e.toNat else d.unscaled / 10 ^ (-e).toNat

end BigDecimal

/-- `n.longValueExact()`. -/
def longValueExact (n : Int) : Result Int :=
  if -2 ^ 63 ≤ n ∧ n < 2 ^ 63 then .ok n else .error (.other "ArithmeticException")

theorem longValueExact_ok {n m : Int} :
    longValueExact n = .ok m ↔ m = n ∧ -2 ^ 63 ≤ n ∧ n < 2 ^ 63 := by
  unfold longValueExact
  split
  · rename_i h
    simp only [Except.ok.injEq]
    exact ⟨fun e => ⟨e.symm, h⟩, fun e => e.1.symm⟩
  · rename_i h
    simp only [reduceCtorEq, false_iff]
    exact fun h' => h h'.2

/-! ## net.corda.core.contracts.Amount -/

/-- `Amount<T>`; its display size is the one of the token. -/
structure TokenAmount (T : Type) where
  quantity : Nat
  token : T
  bounded : quantity < 2 ^ 63
deriving DecidableEq

namespace TokenAmount
variable {T : Type}

/-- `Amount(quantity, token)` at a `Long`. -/
def of (quantity : Int) (token : T) : Result (TokenAmount T) :=
  if h : 0 ≤ quantity ∧ quantity < 2 ^ 63 then .ok ⟨quantity.toNat, token, by omega⟩
  else .error (.illegalArgument "Amounts must not be negative")

theorem of_ok {q : Int} {t : T} {a : TokenAmount T} :
    of q t = .ok a ↔ (a.quantity : Int) = q ∧ a.token = t := by
  unfold of
  split
  · rename_i h
    simp only [Except.ok.injEq]
    constructor
    · rintro rfl; exact ⟨by simp [h.1], rfl⟩
    · rintro ⟨rfl, rfl⟩; cases a; simp
  · rename_i h
    simp only [reduceCtorEq, false_iff]
    rintro ⟨rfl, -⟩
    exact h ⟨by omega, by have := a.bounded; omega⟩

/-- `Amount.fromDecimal(displayQuantity, token)`. -/
def fromDecimal (displayQuantity : BigDecimal) (fractionDigits : Int) (token : T) :
    Result (TokenAmount T) := do
  let quantity ← longValueExact (displayQuantity.floorUnits fractionDigits)
  of quantity token

variable [DecidableEq T]

/-- `a + b`, with `Math.addExact`. -/
def plus (a b : TokenAmount T) : Result (TokenAmount T) := do
  require (b.token = a.token)
  let quantity ← longValueExact (a.quantity + b.quantity : Int)
  of quantity a.token

/-- `a - b`. -/
def minus (a b : TokenAmount T) : Result (TokenAmount T) := do
  require (b.token = a.token)
  of ((a.quantity : Int) - b.quantity) a.token

/-- `a >= b`, on one token. -/
def geq (a b : TokenAmount T) : Result Bool := do
  require (b.token = a.token)
  .ok (b.quantity ≤ a.quantity)

/-- `a > b`, on one token. -/
def gt (a b : TokenAmount T) : Result Bool := do
  require (b.token = a.token)
  .ok (b.quantity < a.quantity)

/-- `amounts.sumOrThrow()`. -/
def sumOrThrow : List (TokenAmount T) → Result (TokenAmount T)
  | [] => .error (.other "UnsupportedOperationException")
  | a :: rest => rest.foldlM plus a

theorem plus_ok {a b c : TokenAmount T} :
    a.plus b = .ok c ↔ b.token = a.token ∧ c.token = a.token ∧
      c.quantity = a.quantity + b.quantity := by
  simp only [plus, Result.bind_ok, require_ok, longValueExact_ok, of_ok]
  constructor
  · rintro ⟨-, hb, q, ⟨rfl, -⟩, hq, ht⟩
    exact ⟨hb, ht, by omega⟩
  · rintro ⟨hb, ht, hq⟩
    have := c.bounded
    exact ⟨(), hb, _, ⟨rfl, by omega, by omega⟩, by omega, ht⟩

theorem minus_ok {a b c : TokenAmount T} :
    a.minus b = .ok c ↔ b.token = a.token ∧ c.token = a.token ∧
      (c.quantity : Int) = a.quantity - b.quantity := by
  simp only [minus, Result.bind_ok, require_ok, of_ok]
  exact ⟨fun ⟨_, hb, hq, ht⟩ => ⟨hb, ht, hq⟩, fun ⟨hb, ht, hq⟩ => ⟨(), hb, hq, ht⟩⟩

theorem foldlM_plus_ok {rest : List (TokenAmount T)} {a s : TokenAmount T}
    (h : rest.foldlM plus a = .ok s) :
    s.token = a.token ∧ (∀ b ∈ rest, b.token = a.token) ∧
      s.quantity = a.quantity + (rest.map (·.quantity)).sum := by
  induction rest generalizing a with
  | nil => cases h; simp
  | cons b rest ih =>
    obtain ⟨c, hc, h⟩ := Result.bind_ok.1 h
    obtain ⟨hb, hct, hcq⟩ := plus_ok.1 hc
    obtain ⟨ht, hr, hq⟩ := ih h
    refine ⟨ht.trans hct, ?_, ?_⟩
    · simp only [List.mem_cons, forall_eq_or_imp]
      exact ⟨hb, fun x hx => (hr x hx).trans hct⟩
    · rw [hq, hcq, List.map_cons, List.sum_cons, Nat.add_assoc]

/-- The amounts a sum is made of have one token, and their quantities add up exactly. -/
theorem sumOrThrow_ok {amounts : List (TokenAmount T)} {s : TokenAmount T}
    (h : sumOrThrow amounts = .ok s) :
    amounts ≠ [] ∧ (∀ a ∈ amounts, a.token = s.token) ∧
      s.quantity = (amounts.map (·.quantity)).sum := by
  cases amounts with
  | nil => cases h
  | cons a rest =>
    obtain ⟨ht, hr, hq⟩ := foldlM_plus_ok h
    refine ⟨nofun, ?_, by simp [hq]⟩
    simp only [List.mem_cons, forall_eq_or_imp]
    exact ⟨ht.symm, fun x hx => (hr x hx).trans ht.symm⟩

end TokenAmount

/-! ## Cash and vouchers -/

/-- `Issued<Currency>`. -/
structure Issued where
  issuerParty : AbstractParty
  issuerReference : Bytes
  product : Currency
deriving DecidableEq, Repr

/-- `net.corda.finance.contracts.asset.Cash.State`. -/
structure Cash where
  amount : TokenAmount Issued
  owner : AbstractParty
deriving DecidableEq

structure Voucher where
  baseId : StateRef
  amount : TokenAmount DenomTrace
  owner : AbstractParty
deriving DecidableEq

def Voucher.id (_ : Voucher) : Identifier := fungibleId

/-! ## CashBank.kt -/

structure CashBank where
  participants : List AbstractParty
  baseId : StateRef
  owner : Party
  supply : Finmap fun _ : Denom => Int
  denoms : Finmap fun _ : String => Denom
deriving DecidableEq

namespace CashBank

def id (_ : CashBank) : Identifier := bankId

def setSupply (bank : CashBank) (denom : Denom) (amount : Int) : CashBank :=
  { bank with supply := bank.supply.insert denom amount }

/-- `supply.getOrDefault(denom, Amount.ZERO)`. -/
def supplyOf (bank : CashBank) (denom : Denom) : Int := (bank.supply.lookup denom).getD 0

def mint (C : Crypto) (bank : CashBank) (owner : Address) (denom : Denom) (amount : Int) :
    Result (CashBank × Voucher) := do
  let bank := bank.setSupply denom (bank.supplyOf denom + amount)
  let owner ← owner.toPublicKey C
  let quantity ← longValueExact amount
  let amount ← TokenAmount.of quantity denom.denomTrace
  .ok (bank, { baseId := bank.baseId, amount, owner := ⟨owner⟩ })

def burn (bank : CashBank) (denom : Denom) (amount : Int) : Result CashBank := do
  let supply ← notNull (bank.supply.lookup denom)
  require (0 ≤ supply - amount)
  .ok (bank.setSupply denom (supply - amount))

def recordDenom (C : Crypto) (bank : CashBank) (denom : Denom) : CashBank :=
  { bank with denoms := bank.denoms.insert (denom.toIbcDenom C) denom }

def resolveDenom (bank : CashBank) (ibcDenom : String) : Result Denom :=
  orThrow (bank.denoms.lookup ibcDenom) (.illegalArgument ("unknown IBC denom: " ++ ibcDenom))

section
variable {C : Crypto} {bank bank' : CashBank} {owner : Address} {denom d : Denom} {amount : Int}
  {voucher : Voucher}

@[simp] theorem setSupply_participants :
    (bank.setSupply denom amount).participants = bank.participants := rfl

@[simp] theorem setSupply_baseId : (bank.setSupply denom amount).baseId = bank.baseId := rfl

@[simp] theorem setSupply_owner : (bank.setSupply denom amount).owner = bank.owner := rfl

@[simp] theorem recordDenom_supplyOf : (bank.recordDenom C denom).supplyOf d = bank.supplyOf d := rfl

theorem supplyOf_setSupply :
    (bank.setSupply denom amount).supplyOf d = if d = denom then amount else bank.supplyOf d := by
  unfold setSupply supplyOf
  by_cases h : d = denom
  · subst h; simp
  · simp [Finmap.lookup_insert_of_ne _ h, h]

/-- Minting adds the amount of the voucher it makes to the supply of its denomination. -/
theorem mint_ok (h : bank.mint C owner denom amount = .ok (bank', voucher)) :
    bank' = bank.setSupply denom (bank.supplyOf denom + amount) ∧
      voucher.baseId = bank.baseId ∧ voucher.amount.token = denom.denomTrace ∧
      (voucher.amount.quantity : Int) = amount ∧
      ∃ key, owner.toPublicKey C = .ok key ∧ voucher.owner = ⟨key⟩ := by
  simp only [mint, Result.bind_ok, longValueExact_ok, TokenAmount.of_ok, Except.ok.injEq,
    Prod.mk.injEq] at h
  obtain ⟨key, hk, q, ⟨rfl, -⟩, a, ⟨hq, ht⟩, rfl, rfl⟩ := h
  exact ⟨rfl, rfl, ht, hq, key, hk, rfl⟩

theorem burn_ok (h : bank.burn denom amount = .ok bank') :
    bank.supply.lookup denom = some (bank.supplyOf denom) ∧ amount ≤ bank.supplyOf denom ∧
      bank' = bank.setSupply denom (bank.supplyOf denom - amount) := by
  simp only [burn, Result.bind_ok, notNull_ok, require_ok, Except.ok.injEq] at h
  obtain ⟨supply, hs, -, hle, rfl⟩ := h
  have : bank.supplyOf denom = supply := by simp [supplyOf, hs]
  rw [this]
  exact ⟨hs, by omega, rfl⟩

end

end CashBank

end CordaIbc
