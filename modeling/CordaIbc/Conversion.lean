import CordaIbc.Bank
import CordaIbc.Lib.LinkedMap

/-!
# Banks as messages (conversion/conversion.kt)

A bank goes to a client as a protobuf message. Its denominations, addresses and amounts become
strings, which key the maps of the message, and are parsed on the way back. Kotlin's maps and those
of a message keep the order in which keys were put in; a bank is compared without it
(`LinkedBank.state`).
-/

namespace CordaIbc

/-! ## Corda and bitcoinj -/

/-- `net.corda.core.identity.CordaX500Name`. -/
structure CordaX500Name where
  commonName : Option String
  organisationUnit : Option String
  organisation : String
  locality : String
  state : Option String
  country : String
deriving DecidableEq

/-- The library functions only the conversions call. -/
structure Codec where
  /-- bitcoinj's `Bech32.encode`. -/
  bech32Encode : String → Bytes → String
  /-- The checks in the constructor of `CordaX500Name`. -/
  checkX500Name : CordaX500Name → Result Unit

/-- A party with the name it carries, which an anonymous one lacks. -/
structure NamedParty where
  nameOrNull : Option CordaX500Name
  owningKey : PublicKey
deriving DecidableEq

/-- A `SecureHash` of a transaction is a `SecureHash.SHA256`, of 32 bytes. -/
structure Sha256Ref where
  ref : StateRef
  sha256 : ref.txhash.bytes.length = 32
deriving DecidableEq

/-! ## The messages (corda-types.proto, bank.proto) -/

namespace CordaTypes

structure SecureHash where
  bytes : Bytes

structure StateRef where
  txhash : SecureHash
  index : Nat

structure CordaX500Name where
  commonName : String
  organisationUnit : String
  organisation : String
  locality : String
  state : String
  country : String

structure PublicKey where
  encoded : Bytes

structure Party where
  name : CordaX500Name
  owningKey : PublicKey

end CordaTypes

namespace BankProto

structure BalanceMapPerDenom where
  pubkeyToAmount : LinkedMap String String

structure BalanceMap where
  denomToMap : LinkedMap String BalanceMapPerDenom

structure IbcDenomMap where
  ibcDenomToDenom : LinkedMap String String

structure Bank where
  participants : List CordaTypes.Party
  baseId : CordaTypes.StateRef
  allocated : BalanceMap
  locked : BalanceMap
  minted : BalanceMap
  denoms : IbcDenomMap

end BankProto

/-! ## Banks -/

abbrev LinkedBalances := LinkedMap Denom (LinkedMap Address Int)

/-- A `Bank` as Kotlin holds it. -/
structure LinkedBank where
  participants : List NamedParty
  baseId : Sha256Ref
  allocated : LinkedBalances
  locked : LinkedBalances
  minted : LinkedBalances
  denoms : LinkedMap String Denom

def LinkedBalances.state (m : LinkedBalances) : BalanceMap :=
  LinkedMap.toFinmap (m.mapValues LinkedMap.toFinmap)

/-- What banks are compared by: parties by their keys, maps without their order. -/
def LinkedBank.state (bank : LinkedBank) : Bank :=
  { participants := bank.participants.map fun party => ⟨party.owningKey⟩, baseId := bank.baseId.ref
    allocated := bank.allocated.state, locked := bank.locked.state, minted := bank.minted.state
    denoms := bank.denoms.toFinmap }

/-! ## Conversions -/

section
variable (C : Crypto) (K : Codec)

def SecureHash.toProto (hash : SecureHash) : CordaTypes.SecureHash := ⟨hash.bytes⟩

def StateRef.toProto (ref : StateRef) : CordaTypes.StateRef := ⟨ref.txhash.toProto, ref.index⟩

/-- The constructor of `SecureHash.SHA256` checks the length. -/
def CordaTypes.StateRef.toCorda (ref : CordaTypes.StateRef) : Result Sha256Ref :=
  if h : ref.txhash.bytes.length = 32 then .ok ⟨⟨⟨ref.txhash.bytes⟩, ref.index⟩, h⟩
  else .error (.illegalArgument "Failed requirement.")

/-- `s.orEmpty()`. -/
def orEmpty (s : Option String) : String := s.getD ""

/-- `if (s == "") null else s`. -/
def nullIfEmpty (s : String) : Option String := if s = "" then none else some s

def CordaX500Name.toProto (name : CordaX500Name) : CordaTypes.CordaX500Name :=
  { commonName := orEmpty name.commonName, country := name.country, locality := name.locality
    organisation := name.organisation, organisationUnit := orEmpty name.organisationUnit
    state := orEmpty name.state }

def CordaTypes.CordaX500Name.toCorda (name : CordaTypes.CordaX500Name) :
    Result CordaIbc.CordaX500Name := do
  let name : CordaIbc.CordaX500Name :=
    { commonName := nullIfEmpty name.commonName, country := name.country, locality := name.locality
      organisation := name.organisation, organisationUnit := nullIfEmpty name.organisationUnit
      state := nullIfEmpty name.state }
  K.checkX500Name name
  .ok name

/-- `Party(it.nameOrNull()!!, it.owningKey).toProto()`. -/
def NamedParty.toProto (party : NamedParty) : Result CordaTypes.Party := do
  let name ← notNull party.nameOrNull
  .ok { name := name.toProto, owningKey := ⟨party.owningKey.encoded⟩ }

def CordaTypes.Party.toCorda (party : CordaTypes.Party) : Result NamedParty := do
  let name ← party.name.toCorda K
  let owningKey ← C.decodePublicKey party.owningKey.encoded
  .ok { nameOrNull := some name, owningKey }

def Address.toBech32 (a : Address) : Result String := do
  .ok (K.bech32Encode "cosmos" (← convertBits a.bytes 8 5 true))

/-- `amount.toString()` and `Amount.fromString(s)`: those of `BigInteger`. -/
def Amount.toString (amount : Int) : Result String := .ok (ToString.toString amount)

def Amount.fromString (s : String) : Result Int := toBigInteger s

def balancesToProto (m : LinkedMap Address Int) : Result BankProto.BalanceMapPerDenom := do
  .ok ⟨← m.convertM (Address.toBech32 K) Amount.toString⟩

def BankProto.BalanceMapPerDenom.toCorda (m : BankProto.BalanceMapPerDenom) :
    Result (LinkedMap Address Int) :=
  m.pubkeyToAmount.convertM (Address.fromBech32 C) Amount.fromString

def balanceMapToProto (m : LinkedBalances) : Result BankProto.BalanceMap := do
  .ok ⟨← m.convertM (fun denom => .ok denom.toString) (balancesToProto K)⟩

def BankProto.BalanceMap.toCorda (m : BankProto.BalanceMap) : Result LinkedBalances :=
  m.denomToMap.convertM (fun s => .ok (Denom.fromString s)) (·.toCorda C)

def denomsToProto (m : LinkedMap String Denom) : Result BankProto.IbcDenomMap := do
  .ok ⟨← m.convertM .ok fun denom => .ok denom.toString⟩

def BankProto.IbcDenomMap.toCorda (m : BankProto.IbcDenomMap) : Result (LinkedMap String Denom) :=
  m.ibcDenomToDenom.mapValuesM fun s => .ok (Denom.fromString s)

def LinkedBank.toProto (bank : LinkedBank) : Result BankProto.Bank := do
  let participants ← bank.participants.mapM NamedParty.toProto
  let allocated ← balanceMapToProto K bank.allocated
  let locked ← balanceMapToProto K bank.locked
  let minted ← balanceMapToProto K bank.minted
  let denoms ← denomsToProto bank.denoms
  .ok { participants, baseId := bank.baseId.ref.toProto, allocated, locked, minted, denoms }

def BankProto.Bank.toCorda (bank : BankProto.Bank) : Result LinkedBank := do
  let participants ← bank.participants.mapM (·.toCorda C K)
  let baseId ← bank.baseId.toCorda
  let allocated ← bank.allocated.toCorda C
  let locked ← bank.locked.toCorda C
  let minted ← bank.minted.toCorda C
  let denoms ← bank.denoms.toCorda
  .ok { participants, baseId, allocated, locked, minted, denoms }

end

end CordaIbc
