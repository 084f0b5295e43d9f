import CordaIbc.Denom
import CordaIbc.Lib.FinmapSum

/-!
# The account-based bank (ics20/Bank.kt, ics20/Amount.kt)

Three balance maps, each from a denomination to a map from owners to amounts. `entry m d o` is the
balance `m[d][o]`; `up` and `down` change that one entry (`entry_up`, `down_ok`), so the total of a
denomination moves by the amount (`total_up`, `total_down`).
-/

namespace CordaIbc

/-- `MutableMap<Denom, MutableMap<Address, Amount>>`. An `Amount` is a `BigInteger` of any sign, an
`Int` here. -/
abbrev BalanceMap := Finmap fun _ : Denom => Finmap fun _ : Address => Int

namespace BalanceMap

/-- `m.up(denom, owner, amount)`. -/
def up (m : BalanceMap) (denom : Denom) (owner : Address) (amount : Int) : BalanceMap :=
  let balances := (m.lookup denom).getD ∅
  m.insert denom (balances.insert owner ((balances.lookup owner).getD 0 + amount))

/-- `m.down(denom, owner, amount)`. -/
def down (m : BalanceMap) (denom : Denom) (owner : Address) (amount : Int) :
    Result BalanceMap := do
  let balances ← orThrow (m.lookup denom) (.illegalArgument ("unknown denom: " ++ denom.toString))
  let balance ← orThrow (balances.lookup owner) (.illegalArgument s!"no fund: amount={amount}")
  require (amount ≤ balance) s!"insufficient fund: balance={balance}, amount={amount}"
  .ok (m.insert denom (balances.insert owner (balance - amount)))

/-- `m[denom]?.get(owner)`. -/
def entry (m : BalanceMap) (denom : Denom) (owner : Address) : Option Int :=
  (m.lookup denom).bind fun balances => balances.lookup owner

/-- The balance, zero when there is no entry. -/
def balance (m : BalanceMap) (denom : Denom) (owner : Address) : Int :=
  (m.entry denom owner).getD 0

/-- The sum over the owners of a denomination. -/
def total (m : BalanceMap) (denom : Denom) : Int :=
  ((m.lookup denom).getD ∅).sumOver fun _ amount => amount

/-- The map after `m[denom][owner] = amount`. -/
def put (m : BalanceMap) (denom : Denom) (owner : Address) (amount : Int) : BalanceMap :=
  m.insert denom (((m.lookup denom).getD ∅).insert owner amount)

section
variable {m m' : BalanceMap} {d d' : Denom} {o o' : Address} {a : Int}

theorem getD_lookup : (((m.lookup d).getD ∅).lookup o) = m.entry d o := by
  unfold entry; cases m.lookup d <;> simp

theorem entry_put : (m.put d o a).entry d' o' = if d' = d ∧ o' = o then some a else m.entry d' o' := by
  by_cases hd : d' = d
  · subst hd
    by_cases ho : o' = o
    · subst ho; simp [put, entry]
    · have : ((m.put d' o a).entry d' o') = ((m.lookup d').getD ∅).lookup o' := by
        simp [put, entry, Finmap.lookup_insert_of_ne _ ho]
      rw [this, getD_lookup, if_neg (by simp [ho])]
  · simp [put, entry, Finmap.lookup_insert_of_ne _ hd, hd]

theorem up_eq_put : m.up d o a = m.put d o (m.balance d o + a) := by
  simp only [up, put, balance, getD_lookup]

theorem down_ok :
    m.down d o a = .ok m' ↔ ∃ b, m.entry d o = some b ∧ a ≤ b ∧ m' = m.put d o (b - a) := by
  unfold down entry put
  simp only [Result.bind_ok, orThrow_ok, require_ok, Except.ok.injEq]
  constructor
  · rintro ⟨balances, hb, b, ho, -, hle, rfl⟩
    exact ⟨b, by simp [hb, ho], hle, by simp [hb]⟩
  · rintro ⟨b, he, hle, rfl⟩
    cases hb : m.lookup d with
    | none => simp [hb] at he
    | some balances =>
      rw [hb] at he
      exact ⟨balances, rfl, b, he, (), hle, by simp⟩

theorem balance_put :
    (m.put d o a).balance d' o' = if d' = d ∧ o' = o then a else m.balance d' o' := by
  unfold balance; rw [entry_put]; split <;> rfl

theorem entry_up : (m.up d o a).entry d' o' =
    if d' = d ∧ o' = o then some (m.balance d o + a) else m.entry d' o' := by
  rw [up_eq_put, entry_put]

theorem balance_up : (m.up d o a).balance d' o' =
    if d' = d ∧ o' = o then m.balance d o + a else m.balance d' o' := by
  rw [up_eq_put, balance_put]

theorem balance_of_entry (h : m.entry d o = some a) : m.balance d o = a := by
  simp [balance, h]

/-- A successful debit takes the amount off one balance. -/
theorem balance_down (h : m.down d o a = .ok m') (d' : Denom) (o' : Address) :
    m'.balance d' o' = if d' = d ∧ o' = o then m.balance d o - a else m.balance d' o' := by
  obtain ⟨b, he, -, rfl⟩ := down_ok.1 h
  rw [balance_put, balance_of_entry he]

theorem le_of_down (h : m.down d o a = .ok m') : a ≤ m.balance d o := by
  obtain ⟨b, he, hle, -⟩ := down_ok.1 h
  rwa [balance_of_entry he]

theorem down_isOk (h : 0 < a) (hle : a ≤ m.balance d o) : ∃ m', m.down d o a = .ok m' := by
  cases he : m.entry d o with
  | none => simp [balance, he] at hle; omega
  | some b => exact ⟨_, down_ok.2 ⟨b, he, by rwa [balance_of_entry he] at hle, rfl⟩⟩

theorem total_put : (m.put d o a).total d = m.total d + a - m.balance d o := by
  unfold total put balance
  rw [Finmap.lookup_insert, Option.getD_some, Finmap.sumOver_insert, Finmap.termAt, getD_lookup]
  simp

theorem total_put_of_ne (h : d' ≠ d) : (m.put d o a).total d' = m.total d' := by
  unfold total put
  rw [Finmap.lookup_insert_of_ne _ h]

theorem total_up : (m.up d o a).total d' = m.total d' + if d' = d then a else 0 := by
  rw [up_eq_put]
  by_cases h : d' = d
  · subst h; rw [total_put, if_pos rfl]; omega
  · rw [total_put_of_ne h, if_neg h, Int.add_zero]

theorem total_down (h : m.down d o a = .ok m') (d' : Denom) :
    m'.total d' = m.total d' - if d' = d then a else 0 := by
  obtain ⟨b, he, -, rfl⟩ := down_ok.1 h
  by_cases hd : d' = d
  · subst hd; rw [total_put, if_pos rfl, balance_of_entry he]; omega
  · rw [total_put_of_ne hd, if_neg hd, Int.sub_zero]

/-- Every balance is at least zero. -/
def Nonneg (m : BalanceMap) : Prop := ∀ d o, 0 ≤ m.balance d o

theorem nonneg_empty : Nonneg ∅ := fun d o => by simp [balance, entry]

theorem Nonneg.up (h : m.Nonneg) (ha : 0 ≤ a) : (m.up d o a).Nonneg := fun d' o' => by
  rw [balance_up]
  split
  · exact Int.add_nonneg (h d o) ha
  · exact h d' o'

theorem Nonneg.down (h : m.Nonneg) (hd : m.down d o a = .ok m') : m'.Nonneg := fun d' o' => by
  rw [balance_down hd]
  split
  · exact Int.sub_nonneg.2 (le_of_down hd)
  · exact h d' o'

theorem Nonneg.total (h : m.Nonneg) : 0 ≤ m.total d := by
  refine Finmap.sumOver_nonneg fun o a hl => ?_
  rw [getD_lookup] at hl
  exact balance_of_entry hl ▸ h d o

end

end BalanceMap

structure Bank where
  participants : List AbstractParty
  baseId : StateRef
  allocated : BalanceMap
  locked : BalanceMap
  minted : BalanceMap
  denoms : Finmap fun _ : String => Denom
deriving DecidableEq

namespace Bank

def id (_ : Bank) : Identifier := bankId

def allocate (bank : Bank) (owner : Address) (denom : Denom) (amount : Int) : Bank :=
  { bank with allocated := bank.allocated.up denom owner amount }

def lock (bank : Bank) (owner : Address) (denom : Denom) (amount : Int) : Result Bank := do
  let allocated ← bank.allocated.down denom owner amount
  .ok { bank with allocated, locked := bank.locked.up denom owner amount }

def unlock (bank : Bank) (owner : Address) (denom : Denom) (amount : Int) : Result Bank := do
  let allocated := bank.allocated.up denom owner amount
  let locked ← bank.locked.down denom owner amount
  .ok { bank with allocated, locked }

def mint (bank : Bank) (owner : Address) (denom : Denom) (amount : Int) : Bank :=
  { bank with minted := bank.minted.up denom owner amount }

def burn (bank : Bank) (owner : Address) (denom : Denom) (amount : Int) : Result Bank := do
  let minted ← bank.minted.down denom owner amount
  .ok { bank with minted }

def recordDenom (C : Crypto) (bank : Bank) (denom : Denom) : Bank :=
  { bank with denoms := bank.denoms.insert (denom.toIbcDenom C) denom }

def resolveDenom (bank : Bank) (ibcDenom : String) : Result Denom :=
  orThrow (bank.denoms.lookup ibcDenom) (.illegalArgument ("unknown IBC denom: " ++ ibcDenom))

section
variable {bank bank' : Bank} {owner : Address} {denom : Denom} {amount : Int}

theorem lock_ok : bank.lock owner denom amount = .ok bank' ↔
    ∃ allocated, bank.allocated.down denom owner amount = .ok allocated ∧
      { bank with allocated, locked := bank.locked.up denom owner amount } = bank' := by
  simp [lock, Result.bind_ok]

theorem unlock_ok : bank.unlock owner denom amount = .ok bank' ↔
    ∃ locked, bank.locked.down denom owner amount = .ok locked ∧
      { bank with allocated := bank.allocated.up denom owner amount, locked } = bank' := by
  simp [unlock, Result.bind_ok]

theorem burn_ok : bank.burn owner denom amount = .ok bank' ↔
    ∃ minted, bank.minted.down denom owner amount = .ok minted ∧ { bank with minted } = bank' := by
  simp [burn, Result.bind_ok]

/-- The bank only knows denominations whose base has no slash. -/
def PlainDenoms (bank : Bank) : Prop := ∀ s d, bank.denoms.lookup s = some d → d.Plain

theorem PlainDenoms.recordDenom {C : Crypto} (h : bank.PlainDenoms) (hd : denom.Plain) :
    (bank.recordDenom C denom).PlainDenoms := fun s d hs => by
  by_cases hsd : s = denom.toIbcDenom C
  · subst hsd
    rw [Bank.recordDenom, Finmap.lookup_insert] at hs
    cases hs; exact hd
  · rw [Bank.recordDenom, Finmap.lookup_insert_of_ne _ hsd] at hs
    exact h s d hs

end

end Bank

end CordaIbc
