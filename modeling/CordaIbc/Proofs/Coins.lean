import CordaIbc.PrepareSpend

/-!
# The coins of a spend

The loop stops at the first coin that reaches the amount. The sum before that coin is below the
amount, so nothing overflows up to there; the sum with it may. `Vault.prepareCoins_iff` says when the
selection is complete and minimal.
-/

namespace CordaIbc

/-- A list whose sum reaches a bound has a first entry that does. -/
theorem exists_reaching {α : Type} {f : α → Nat} {l : List α} {s bound : Nat} (hs : s < bound)
    (h : bound ≤ s + (l.map f).sum) : ∃ l₁ a l₂, l = l₁ ++ a :: l₂ ∧ s + (l₁.map f).sum < bound ∧
      bound ≤ s + (l₁.map f).sum + f a := by
  induction l generalizing s with
  | nil =>
    simp only [List.map_nil, List.sum_nil] at h
    omega
  | cons a l ih =>
    simp only [List.map_cons, List.sum_cons] at h
    by_cases ha : s + f a < bound
    · obtain ⟨l₁, b, l₂, rfl, hlt, hle⟩ := ih ha (by omega)
      refine ⟨a :: l₁, b, l₂, rfl, ?_, ?_⟩ <;> simp only [List.map_cons, List.sum_cons] <;> omega
    · exact ⟨[], a, l, rfl, by simpa using hs, by simpa using Nat.le_of_not_lt ha⟩

namespace TokenAmount

/-- Nothing collected yet. -/
theorem exists_zero {T : Type} (token : T) :
    ∃ zero, of 0 token = .ok zero ∧ zero.token = token ∧ zero.quantity = 0 :=
  ⟨⟨0, token, by decide⟩, of_ok.2 ⟨rfl, rfl⟩, rfl, rfl⟩

variable {T : Type} [DecidableEq T] {a b : TokenAmount T}

theorem exists_plus (ht : b.token = a.token) (h : a.quantity + b.quantity < 2 ^ 63) :
    ∃ c, a.plus b = .ok c ∧ c.token = a.token ∧ c.quantity = a.quantity + b.quantity :=
  ⟨⟨_, a.token, h⟩, plus_ok.2 ⟨ht, rfl, rfl⟩, rfl, rfl⟩

theorem plus_overflow (h : 2 ^ 63 ≤ a.quantity + b.quantity) : ∃ e, a.plus b = .error e := by
  cases hp : a.plus b with
  | error e => exact ⟨e, rfl⟩
  | ok c =>
    obtain ⟨-, -, hq⟩ := plus_ok.1 hp
    have := c.bounded
    omega

theorem geq_of (ht : b.token = a.token) : a.geq b = .ok (decide (b.quantity ≤ a.quantity)) := by
  simp only [geq, require, if_pos ht, Result.ok_bind]

theorem gt_of (ht : b.token = a.token) : a.gt b = .ok (decide (b.quantity < a.quantity)) := by
  simp only [gt, require, if_pos ht, Result.ok_bind]

end TokenAmount

namespace Vault

section
variable {S T : Type} [OwnableFungibleState S T] {coin : Stored S} {coins l₁ l₂ : List (Stored S)}

def quantity (coin : Stored S) : Nat := (OwnableFungibleState.amount coin.data).quantity

/-- The sum of the quantities, without a bound. -/
def sum (coins : List (Stored S)) : Nat := (coins.map quantity).sum

/-- The coins are of a token. -/
def OfToken (token : T) (coins : List (Stored S)) : Prop :=
  ∀ coin ∈ coins, (OwnableFungibleState.amount coin.data).token = token

/-- Coins of the vault that cover an amount, and do not without the last. -/
structure Covers (vault : Vault S) (ownerKey : PublicKey) (amount : TokenAmount T)
    (coins : List (Stored S)) : Prop where
  stored : ∀ coin ∈ coins, coin ∈ vault.states
  distinct : (coins.map Stored.ref).Nodup
  owner : ∀ coin ∈ coins, (OwnableFungibleState.owner coin.data).owningKey = ownerKey
  token : OfToken amount.token coins
  ascending : coins.Pairwise fun a b => quantity a ≤ quantity b
  reaches : amount.quantity ≤ sum coins
  minimal : sum coins.dropLast < amount.quantity

@[simp] theorem sum_nil : sum ([] : List (Stored S)) = 0 := rfl

@[simp] theorem sum_cons : sum (coin :: coins) = quantity coin + sum coins := rfl

@[simp] theorem sum_append : sum (l₁ ++ l₂) = sum l₁ + sum l₂ := by simp [sum]

theorem OfToken.of_append {token : T} (h : OfToken token (l₁ ++ l₂)) :
    OfToken token l₁ ∧ OfToken token l₂ :=
  ⟨fun c hc => h c (List.mem_append_left _ hc), fun c hc => h c (List.mem_append_right _ hc)⟩

end

section
variable {S T : Type} [OwnableFungibleState S T] [DecidableEq T] {vault : Vault S}
  {ownerKey : PublicKey} {amount collected : TokenAmount T} {coin : Stored S}
  {coins inputs l₁ l₂ : List (Stored S)}

/-- What the owner has of a token, without a bound. -/
def total (vault : Vault S) (ownerKey : PublicKey) (token : T) : Nat :=
  sum (vault.states.filter fun coin =>
    (OwnableFungibleState.owner coin.data).owningKey = ownerKey ∧
      (OwnableFungibleState.amount coin.data).token = token)

/-! ### The loop -/

/-- One round of the loop that does not reach the amount. -/
theorem collect_cons (coins inputs : List (Stored S))
    (hcoin : (OwnableFungibleState.amount coin.data).token = amount.token)
    (hcollected : collected.token = amount.token)
    (hlt : collected.quantity + quantity coin < amount.quantity) : ∃ next : TokenAmount T,
    next.token = amount.token ∧ next.quantity = collected.quantity + quantity coin ∧
    collect amount (coin :: coins) inputs collected = collect amount coins (inputs ++ [coin]) next := by
  have hbound := amount.bounded
  have hsum : collected.quantity + quantity coin < 2 ^ 63 := by omega
  obtain ⟨next, hplus, htoken, hq⟩ := TokenAmount.exists_plus (hcoin.trans hcollected.symm) hsum
  have hnext := htoken.trans hcollected
  have hnot : ¬ amount.quantity ≤ next.quantity := by
    rw [hq]
    exact Nat.not_le_of_lt hlt
  refine ⟨next, hnext, hq, ?_⟩
  rw [collect, hplus, Result.ok_bind, TokenAmount.geq_of hnext.symm, Result.ok_bind, if_neg]
  simpa using hnot

/-- The loop over coins that do not reach the amount. -/
theorem collect_before (l₂ inputs : List (Stored S)) (htoken : OfToken amount.token l₁)
    (hcollected : collected.token = amount.token)
    (hlt : collected.quantity + sum l₁ < amount.quantity) : ∃ before : TokenAmount T,
    before.token = amount.token ∧ before.quantity = collected.quantity + sum l₁ ∧
    collect amount (l₁ ++ l₂) inputs collected = collect amount l₂ (inputs ++ l₁) before := by
  induction l₁ generalizing inputs collected with
  | nil => exact ⟨collected, hcollected, rfl, by rw [List.nil_append, List.append_nil]⟩
  | cons coin l₁ ih =>
    rw [sum_cons] at hlt
    obtain ⟨next, hnext, hq, he⟩ := collect_cons (l₁ ++ l₂) inputs
      (htoken coin List.mem_cons_self) hcollected (by omega)
    have htoken' : OfToken amount.token l₁ := fun c hc => htoken c (List.mem_cons_of_mem _ hc)
    obtain ⟨before, hbefore, hsum, hrest⟩ := ih (inputs ++ [coin]) htoken' hnext (by omega)
    refine ⟨before, hbefore, ?_, ?_⟩
    · rw [hsum, hq, sum_cons]
      omega
    · rw [List.cons_append, he, hrest, List.append_assoc]
      rfl

/-- The coin that reaches the amount ends the loop, if the sum with it is a `Long`. -/
theorem collect_reaching (coins inputs : List (Stored S))
    (hcoin : (OwnableFungibleState.amount coin.data).token = amount.token)
    (hcollected : collected.token = amount.token)
    (hle : amount.quantity ≤ collected.quantity + quantity coin) :
    (collected.quantity + quantity coin < 2 ^ 63 → ∃ total : TokenAmount T,
      total.token = amount.token ∧ total.quantity = collected.quantity + quantity coin ∧
      collect amount (coin :: coins) inputs collected = .ok (inputs ++ [coin], total)) ∧
    (2 ^ 63 ≤ collected.quantity + quantity coin →
      ∃ e, collect amount (coin :: coins) inputs collected = .error e) := by
  refine ⟨fun hlt => ?_, fun hge => ?_⟩
  · obtain ⟨total, hplus, htoken, hq⟩ := TokenAmount.exists_plus (hcoin.trans hcollected.symm) hlt
    have htotal := htoken.trans hcollected
    have hreached : amount.quantity ≤ total.quantity := by
      rw [hq]
      exact hle
    refine ⟨total, htotal, hq, ?_⟩
    rw [collect, hplus, Result.ok_bind, TokenAmount.geq_of htotal.symm, Result.ok_bind, if_pos]
    simpa using hreached
  · obtain ⟨e, he⟩ := TokenAmount.plus_overflow hge
    exact ⟨e, by rw [collect, he]; rfl⟩

/-! ### The selection -/

theorem mem_allCoins {token : T} : coin ∈ vault.allCoins ownerKey token ↔ coin ∈ vault.states ∧
    (OwnableFungibleState.owner coin.data).owningKey = ownerKey ∧
    (OwnableFungibleState.amount coin.data).token = token := by
  rw [allCoins, List.mem_insertionSort, List.mem_filter, decide_eq_true_eq]

theorem ofToken_allCoins {token : T} : OfToken token (vault.allCoins ownerKey token) :=
  fun _ hc => (mem_allCoins.1 hc).2.2

theorem ascending_allCoins {token : T} :
    (vault.allCoins ownerKey token).Pairwise fun a b => quantity a ≤ quantity b := by
  have : Std.Total fun a b : Stored S => quantity a ≤ quantity b := ⟨fun a b => Nat.le_total _ _⟩
  have : IsTrans (Stored S) fun a b => quantity a ≤ quantity b := ⟨fun _ _ _ => Nat.le_trans⟩
  exact List.pairwise_insertionSort _ _

theorem distinct_allCoins {token : T} : ((vault.allCoins ownerKey token).map Stored.ref).Nodup := by
  refine ((List.perm_insertionSort _ _).map Stored.ref).nodup_iff.2 ?_
  exact vault.distinct.sublist (List.filter_sublist.map _)

theorem sum_allCoins {token : T} :
    sum (vault.allCoins ownerKey token) = vault.total ownerKey token :=
  ((List.perm_insertionSort _ _).map quantity).sum_eq

/-- Too little is refused. -/
theorem prepareCoins_short (h : vault.total ownerKey amount.token < amount.quantity) :
    ∃ e, vault.prepareCoins ownerKey amount = .error e := by
  rw [← sum_allCoins] at h
  obtain ⟨zero, hzero, htoken, hq⟩ := TokenAmount.exists_zero amount.token
  have htokens : OfToken amount.token (vault.allCoins ownerKey amount.token) := ofToken_allCoins
  obtain ⟨all, hall, hsum, hcollect⟩ := collect_before [] [] htokens htoken (by omega)
  have hshort : decide (all.quantity < amount.quantity) = true := by
    rw [hsum, hq, Nat.zero_add]
    exact decide_eq_true h
  rw [List.append_nil] at hcollect
  simp only [prepareCoins, hzero, Result.ok_bind, hcollect, collect, TokenAmount.gt_of hall, hshort,
    if_true]
  cases amount.minus all with
  | ok missing => exact ⟨_, rfl⟩
  | error e => exact ⟨e, rfl⟩

/-- What becomes of a vault whose coins reach the amount at `coin`. -/
theorem prepareCoins_reaching (hall : vault.allCoins ownerKey amount.token = l₁ ++ coin :: l₂)
    (hlt : sum l₁ < amount.quantity) (hle : amount.quantity ≤ sum l₁ + quantity coin) :
    (sum l₁ + quantity coin < 2 ^ 63 → vault.prepareCoins ownerKey amount = .ok (l₁ ++ [coin])) ∧
    (2 ^ 63 ≤ sum l₁ + quantity coin → ∃ e, vault.prepareCoins ownerKey amount = .error e) := by
  have htokens : OfToken amount.token (l₁ ++ coin :: l₂) := hall ▸ ofToken_allCoins
  obtain ⟨zero, hzero, htoken, hq⟩ := TokenAmount.exists_zero amount.token
  obtain ⟨before, hbefore, hsum, hcollect⟩ := collect_before (coin :: l₂) []
    htokens.of_append.1 htoken (by omega)
  rw [hq, Nat.zero_add] at hsum
  rw [List.nil_append] at hcollect
  obtain ⟨hfits, hoverflow⟩ := collect_reaching l₂ l₁
    (htokens coin (List.mem_append_right _ List.mem_cons_self)) hbefore (by omega)
  rw [hsum] at hfits hoverflow
  refine ⟨fun h => ?_, fun h => ?_⟩
  · obtain ⟨total, htotal, hsum, hloop⟩ := hfits h
    have hreached : decide (total.quantity < amount.quantity) = false := by
      rw [hsum]
      exact decide_eq_false (Nat.not_lt_of_le hle)
    simp only [prepareCoins, hzero, Result.ok_bind, hall, hcollect, hloop, TokenAmount.gt_of htotal,
      hreached, Bool.false_eq_true, if_false]
  · obtain ⟨e, hloop⟩ := hoverflow h
    exact ⟨e, by simp only [prepareCoins, hzero, Result.ok_bind, hall, hcollect, hloop]; rfl⟩

/-- For every vault, owner and positive amount: the selection throws exactly when the coins do not
cover the amount, and returns the shortest cover otherwise, if and only if no coin takes a sum that is
below the amount out of the range of a `Long`. -/
theorem prepareCoins_iff (vault : Vault S) (ownerKey : PublicKey) (hpos : 0 < amount.quantity) :
    ((vault.total ownerKey amount.token < amount.quantity ∧
        ∃ e, vault.prepareCoins ownerKey amount = .error e) ∨
      (amount.quantity ≤ vault.total ownerKey amount.token ∧ ∃ coins,
        vault.prepareCoins ownerKey amount = .ok coins ∧ Covers vault ownerKey amount coins)) ↔
    ∀ l₁ coin l₂, vault.allCoins ownerKey amount.token = l₁ ++ coin :: l₂ →
      sum l₁ < amount.quantity → sum l₁ + quantity coin < 2 ^ 63 := by
  constructor
  · intro h l₁ coin l₂ hall hlt
    by_contra hge
    have hbound := amount.bounded
    obtain ⟨e, he⟩ := (prepareCoins_reaching hall hlt (by omega)).2 (by omega)
    rcases h with ⟨hshort, -⟩ | ⟨-, coins, hok, -⟩
    · rw [← sum_allCoins, hall, sum_append, sum_cons] at hshort
      omega
    · rw [he] at hok
      cases hok
  · intro h
    by_cases hshort : vault.total ownerKey amount.token < amount.quantity
    · exact .inl ⟨hshort, prepareCoins_short hshort⟩
    · have hcovered := Nat.le_of_not_lt hshort
      refine .inr ⟨hcovered, ?_⟩
      rw [← sum_allCoins] at hcovered
      obtain ⟨l₁, coin, l₂, hall, hlt, hle⟩ := exists_reaching hpos
        (show amount.quantity ≤ 0 + sum (vault.allCoins ownerKey amount.token) by omega)
      have hlt : sum l₁ < amount.quantity := by rwa [Nat.zero_add] at hlt
      have hle : amount.quantity ≤ sum l₁ + quantity coin := by rwa [Nat.zero_add] at hle
      refine ⟨l₁ ++ [coin], (prepareCoins_reaching hall hlt hle).1 (h l₁ coin l₂ hall hlt), ?_⟩
      have hinitial : l₁ ++ [coin] <+: vault.allCoins ownerKey amount.token :=
        ⟨l₂, by rw [hall, List.append_assoc]; rfl⟩
      have hmem := fun c (hc : c ∈ l₁ ++ [coin]) => mem_allCoins.1 (hinitial.subset hc)
      refine ⟨fun c hc => (hmem c hc).1, ?_, fun c hc => (hmem c hc).2.1,
        fun c hc => (hmem c hc).2.2, ascending_allCoins.sublist hinitial.sublist, ?_, ?_⟩
      · exact distinct_allCoins.sublist (hinitial.sublist.map _)
      · rw [sum_append, sum_cons, sum_nil]
        omega
      · rw [List.dropLast_concat]
        exact hlt

end

/-! ### Two vaults -/

namespace Coins

def key : PublicKey := ⟨[1]⟩

/-- Vouchers of the owner and others, under their numbers. -/
def voucher (n : Nat) (quantity : Nat) (h : quantity < 2 ^ 63 := by decide) : Stored Voucher :=
  { data := { baseId := ⟨⟨[]⟩, 0⟩, amount := ⟨quantity, ⟨"transfer/channel-0", "atom"⟩, h⟩
              owner := ⟨key⟩ }
    ref := ⟨⟨[]⟩, n⟩ }

def few : Vault Voucher := ⟨[voucher 0 4, voucher 1 2, voucher 2 3], by decide⟩

def many : Vault Voucher := ⟨[voucher 0 (2 ^ 62), voucher 1 (2 ^ 63 - 1)], by decide⟩

def asked (quantity : Nat) (h : quantity < 2 ^ 63 := by decide) : TokenAmount DenomTrace :=
  ⟨quantity, ⟨"transfer/channel-0", "atom"⟩, h⟩

/-- The owner has enough, and the sum of the coins is out of range. -/
theorem coins_overflow : (asked (2 ^ 63 - 1)).quantity ≤ many.total key (asked (2 ^ 63 - 1)).token ∧
    many.prepareCoins key (asked (2 ^ 63 - 1)) = .error (.other "ArithmeticException") := by
  decide +kernel

/-- Two coins of three cover 5. -/
theorem coins_covered : ∃ coins, few.prepareCoins key (asked 5) = .ok coins ∧
    Covers few key (asked 5) coins := by
  have hall : few.allCoins key (asked 5).token = [voucher 1 2, voucher 2 3, voucher 0 4] := by
    decide +kernel
  have hsum : sum (few.allCoins key (asked 5).token) = 9 := by
    rw [hall]
    rfl
  have hasked : (asked 5).quantity = 5 := rfl
  have hiff := prepareCoins_iff few key (show 0 < (asked 5).quantity by decide)
  have hfits : ∀ l₁ coin l₂, few.allCoins key (asked 5).token = l₁ ++ coin :: l₂ →
      sum l₁ < (asked 5).quantity → sum l₁ + quantity coin < 2 ^ 63 := by
    intro l₁ coin l₂ he _
    rw [he, sum_append, sum_cons] at hsum
    omega
  rcases hiff.2 hfits with ⟨hshort, -⟩ | ⟨-, h⟩
  · rw [← sum_allCoins, hsum] at hshort
    omega
  · exact h

end Coins

end Vault

end CordaIbc
