import CordaIbc.Kotlin
import Mathlib.Data.Finmap

/-!
# Protobuf messages and Corda values

The messages of `ibc.core`, `ibc.applications.transfer` and `ibc.lightclients.corda` that the
contract reads, and the Corda values it stores. A message is compared field by field. Sequence
numbers are natural numbers; heights, timeouts and delays are Java `Long`s.
-/

namespace CordaIbc

abbrev Bytes := List UInt8

/-- Java `Long`: 64 bits, signed. A protobuf `uint64` is read into one bit for bit. -/
abbrev Long := Int64

/-! ## Corda -/

structure PublicKey where
  encoded : Bytes
deriving DecidableEq, Repr

/-- A `Party` or `AnonymousParty`: Corda compares parties by their owning keys. -/
structure AbstractParty where
  owningKey : PublicKey
deriving DecidableEq, Repr

abbrev Party := AbstractParty

structure SecureHash where
  bytes : Bytes
deriving DecidableEq, Repr

structure StateRef where
  txhash : SecureHash
  index : Nat
deriving DecidableEq, Repr

/-! ## ibc.core.client.v1, ibc.core.commitment.v1 -/

structure Height where
  revisionNumber : Long
  revisionHeight : Long
deriving DecidableEq

namespace Height

/-- `Client.Height.getDefaultInstance()`. -/
def default : Height := ⟨0, 0⟩

/-- `Height.compareTo(other) < 0`. -/
def lt (a b : Height) : Bool :=
  if a.revisionNumber = b.revisionNumber then a.revisionHeight < b.revisionHeight
  else a.revisionNumber < b.revisionNumber

def isZero (h : Height) : Bool := h = default

end Height

structure MerklePrefix where
  keyPrefix : Bytes
deriving DecidableEq, Repr

/-- `google.protobuf.Any`. -/
structure Any where
  typeUrl : String
  value : Bytes
deriving DecidableEq, Repr

structure MsgCreateClient where
  clientState : Any
  consensusState : Any

/-! ## ibc.core.connection.v1 -/

namespace Connection

inductive State where
  | uninitializedUnspecified | init | tryOpen | opened | unrecognized
deriving DecidableEq, Repr

structure Version where
  identifier : String
  featuresList : List String
deriving DecidableEq, Repr

structure Counterparty where
  clientId : String
  connectionId : String
  prefix_ : MerklePrefix
deriving DecidableEq, Repr

structure ConnectionEnd where
  clientId : String
  versionsList : List Version
  state : State
  counterparty : Counterparty
  delayPeriod : Long
deriving DecidableEq

end Connection

structure MsgConnectionOpenInit where
  clientId : String
  counterparty : Connection.Counterparty
  version : Option Connection.Version
  delayPeriod : Long

structure MsgConnectionOpenTry where
  clientId : String
  previousConnectionId : String
  clientState : Any
  counterparty : Connection.Counterparty
  delayPeriod : Long
  counterpartyVersionsList : List Connection.Version
  proofHeight : Height
  proofInit : Bytes
  proofClient : Bytes
  proofConsensus : Bytes
  consensusHeight : Height

structure MsgConnectionOpenAck where
  connectionId : String
  counterpartyConnectionId : String
  version : Connection.Version
  clientState : Any
  proofHeight : Height
  proofTry : Bytes
  proofClient : Bytes
  proofConsensus : Bytes
  consensusHeight : Height

structure MsgConnectionOpenConfirm where
  connectionId : String
  proofAck : Bytes
  proofHeight : Height

/-! ## ibc.core.channel.v1 -/

namespace ChannelOuterClass

inductive State where
  | uninitializedUnspecified | init | tryOpen | opened | closed | unrecognized
deriving DecidableEq, Repr

inductive Order where
  | noneUnspecified | unordered | ordered | unrecognized
deriving DecidableEq, Repr

/-- `ordering.name`. -/
def Order.name : Order → String
  | noneUnspecified => "ORDER_NONE_UNSPECIFIED"
  | unordered => "ORDER_UNORDERED"
  | ordered => "ORDER_ORDERED"
  | unrecognized => "UNRECOGNIZED"

structure Counterparty where
  portId : String
  channelId : String
deriving DecidableEq, Repr

structure Channel where
  state : State
  ordering : Order
  counterparty : Counterparty
  connectionHopsList : List String
  version : String
deriving DecidableEq, Repr

structure Packet where
  sequence : Nat
  sourcePort : String
  sourceChannel : String
  destinationPort : String
  destinationChannel : String
  data : Bytes
  timeoutHeight : Height
  timeoutTimestamp : Long
deriving DecidableEq

/-- The `oneof response` of an acknowledgement. -/
inductive Acknowledgement where
  | notSet
  | result (bytes : Bytes)
  | error (message : String)
deriving DecidableEq, Repr

/-- `Acknowledgement.getDefaultInstance()`. -/
def Acknowledgement.default : Acknowledgement := .notSet

end ChannelOuterClass

open ChannelOuterClass (Channel Packet Acknowledgement)

structure MsgChannelOpenInit where
  portId : String
  channel : Channel

structure MsgChannelOpenTry where
  portId : String
  previousChannelId : String
  channel : Channel
  counterpartyVersion : String
  proofInit : Bytes
  proofHeight : Height

structure MsgChannelOpenAck where
  portId : String
  channelId : String
  counterpartyChannelId : String
  counterpartyVersion : String
  proofTry : Bytes
  proofHeight : Height

structure MsgChannelOpenConfirm where
  portId : String
  channelId : String
  proofAck : Bytes
  proofHeight : Height

structure MsgChannelCloseInit where
  portId : String
  channelId : String

structure MsgChannelCloseConfirm where
  portId : String
  channelId : String
  proofInit : Bytes
  proofHeight : Height

structure MsgRecvPacket where
  packet : Packet
  proofCommitment : Bytes
  proofHeight : Height

structure MsgAcknowledgement where
  packet : Packet
  acknowledgement : Bytes
  proofAcked : Bytes
  proofHeight : Height

/-! ## ibc.applications.transfer -/

structure DenomTrace where
  path : String
  baseDenom : String
deriving DecidableEq, Repr

/-- `cosmos.base.v1beta1.Coin`. -/
structure Coin where
  denom : String
  amount : String
deriving DecidableEq, Repr

structure MsgTransfer where
  sourcePort : String
  sourceChannel : String
  token : Coin
  sender : String
  receiver : String
  timeoutHeight : Height
  timeoutTimestamp : Long

structure FungibleTokenPacketData where
  denom : String
  amount : String
  sender : String
  receiver : String
deriving DecidableEq, Repr

/-! ## Identifiers -/

/-- The characters of `[0-9a-zA-Z._+\-#\[\]<>]`. -/
def isIdentifierChar (c : Char) : Bool :=
  c.isAlphanum || c ∈ ['.', '_', '+', '-', '#', '[', ']', '<', '>']

/-- An identifier carries the check its constructor makes. -/
structure Identifier where
  id : String
  valid : id.toList.all isIdentifierChar = true
deriving DecidableEq

namespace Identifier

/-- The constructor `Identifier(id)`. -/
def of (id : String) : Result Identifier :=
  if h : id.toList.all isIdentifierChar = true then .ok ⟨id, h⟩
  else .error (.illegalArgument "Failed requirement.")

theorem of_ok {s : String} {i : Identifier} : of s = .ok i ↔ i.id = s := by
  unfold of
  split
  · simp only [Except.ok.injEq]
    constructor
    · rintro rfl; rfl
    · rintro rfl; rfl
  · rename_i h
    simp only [reduceCtorEq, false_iff]
    rintro rfl
    exact h i.valid

@[simp] theorem of_id (i : Identifier) : of i.id = .ok i := of_ok.2 rfl

theorem ext {i j : Identifier} (h : i.id = j.id) : i = j := by
  cases i; cases j; cases h; rfl

end Identifier

def hostId : Identifier := ⟨"host", by decide⟩

def bankId : Identifier := ⟨"bank", by decide⟩

/-- The identifier every fungible state reports. -/
def fungibleId : Identifier := ⟨"", by decide⟩

/-! ## clients.corda: HEIGHT, VERSION, PREFIX -/

def HEIGHT : Height := ⟨0, 1⟩

def VERSION : Connection.Version := ⟨"1", ["ORDER_ORDERED", "ORDER_UNORDERED"]⟩

/-- `"ibc"` in US-ASCII. -/
def PREFIX : MerklePrefix := ⟨[105, 98, 99]⟩

end CordaIbc
