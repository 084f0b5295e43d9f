import CordaIbc.CashBank
import Mathlib.Data.List.Sort

/-!
# OwnableFungibleState selection (flows/util/prepare-spend.kt)

A flow that spends takes coins of one owner and one token from the vault, the smallest first, until
they cover the amount. A vault holds each state under a reference of its own.
-/

namespace CordaIbc

/-- A `FungibleState<T>` that is an `OwnableState`. -/
class OwnableFungibleState (S : Type) (T : outParam Type) where
  amount : S → TokenAmount T
  owner : S → AbstractParty

instance : OwnableFungibleState Cash Issued := ⟨Cash.amount, Cash.owner⟩

instance : OwnableFungibleState Voucher DenomTrace := ⟨Voucher.amount, Voucher.owner⟩

/-- A state in the vault. -/
structure Stored (S : Type) where
  data : S
  ref : StateRef
deriving DecidableEq

/-- What `queryBy<S>()` finds. -/
structure Vault (S : Type) where
  states : List (Stored S)
  distinct : (states.map Stored.ref).Nodup

namespace Vault
variable {S T : Type} [OwnableFungibleState S T] [DecidableEq T]

/-- The coins of an owner with a token, in ascending order of amount. -/
def allCoins (vault : Vault S) (ownerKey : PublicKey) (token : T) : List (Stored S) :=
  (vault.states.filter fun coin =>
    (OwnableFungibleState.owner coin.data).owningKey = ownerKey ∧ (OwnableFungibleState.amount coin.data).token = token).insertionSort
    fun a b => (OwnableFungibleState.amount a.data).quantity ≤ (OwnableFungibleState.amount b.data).quantity

/-- The loop over the coins. -/
def collect (amount : TokenAmount T) : List (Stored S) → List (Stored S) → TokenAmount T →
    Result (List (Stored S) × TokenAmount T)
  | [], inputs, collected => .ok (inputs, collected)
  | coin :: coins, inputs, collected => do
    let inputs := inputs ++ [coin]
    let collected ← collected.plus (OwnableFungibleState.amount coin.data)
    if ← collected.geq amount then .ok (inputs, collected)
    else collect amount coins inputs collected

def prepareCoins (vault : Vault S) (ownerKey : PublicKey) (amount : TokenAmount T) :
    Result (List (Stored S)) := do
  let zero ← TokenAmount.of 0 amount.token
  let (inputs, collected) ← collect amount (vault.allCoins ownerKey amount.token) [] zero
  if ← amount.gt collected then do
    let _missing ← amount.minus collected
    .error (.other "InsufficientBalanceException")
  else .ok inputs

end Vault

end CordaIbc
