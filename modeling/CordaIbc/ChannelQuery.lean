import CordaIbc.States
import Mathlib.Data.Finset.Sort
import Mathlib.Data.List.Sort

/-!
# Queries about a channel (grpc_adapter/ChannelQueryService.kt)

The relayer asks a node about a channel in its vault. The vault is the list of the states the node
has not seen consumed.
-/

namespace CordaIbc

open ChannelOuterClass (Packet Acknowledgement)

namespace ChannelQueryService

/-- A request about packets of a channel; without a base id it is about the only host. -/
structure QueryRequest where
  baseId : Option StateRef
  portId : String
  channelId : String
  sequences : List Nat

variable (C : Crypto) (vault : List ContractState)

def resolveBaseId (baseId : Option StateRef) : Result StateRef :=
  match baseId with
  | none => do
    let host ← single (filterIsInstance Host vault)
    .ok host.baseId
  | some baseId => .ok baseId

/-- The channel of the vault with the linear id of the request. -/
def channelOf (request : QueryRequest) : Result IbcChannel := do
  let baseId ← resolveBaseId vault request.baseId
  let id ← Identifier.of request.channelId
  let chan ← single ((filterIsInstance IbcChannel vault).filter fun chan =>
    chan.baseId = baseId ∧ C.nameUUIDFromBytes chan.id.id = C.nameUUIDFromBytes id.id)
  if chan.portId.id = request.portId then .ok chan else .error (.other "AssertionError")

def unreceivedPackets (request : QueryRequest) : Result (List Nat) := do
  let chan ← channelOf C vault request
  .ok (request.sequences.filter fun sequence => sequence ∉ chan.receipts)

/-! ## Pages -/

/-- `Pagination.PageRequest`, whose `uint64` fields Java holds as `Long`. -/
structure PageRequest where
  key : Bytes
  offset : Long
  limit : Long
  countTotal : Bool

/-- The pages the relayer asks for (go/relay/query.go). -/
def makePagination (offset limit : Nat) : PageRequest :=
  { key := [], offset := Int64.ofNat offset, limit := Int64.ofNat limit, countTotal := true }

/-- `QueryPacketCommitmentsRequest` and `QueryPacketAcknowledgementsRequest`. -/
structure PageQueryRequest where
  baseId : Option StateRef
  portId : String
  channelId : String
  pagination : PageRequest

def PageQueryRequest.channel (request : PageQueryRequest) : QueryRequest :=
  { baseId := request.baseId, portId := request.portId, channelId := request.channelId
    sequences := [] }

structure PacketState where
  portId : String
  channelId : String
  sequence : Nat
  data : Bytes
deriving DecidableEq

/-- `QueryPacketCommitmentsResponse` and `QueryPacketAcknowledgementsResponse`. -/
structure PageQueryResponse where
  states : List PacketState
  total : Nat
  height : Height

/-- What a page says of an entry: `packet.toByteString()` and `acknowledgement.toJson()`. -/
structure Serializer where
  packet : Packet → Bytes
  acknowledgement : Acknowledgement → Bytes

section
variable {α : Type}

/-- `map.toList()`, in the order of the keys. -/
def toList (map : Finmap fun _ : Nat => α) : List (Nat × α) :=
  (map.keys.sort (· ≤ ·)).filterMap fun sequence => (map.lookup sequence).map (sequence, ·)

/-- `xs.sortedBy{f(it)}` for a sequence, which is a `uint64` held as a `Long`. -/
def sortedBy (f : α → Nat) (xs : List α) : List α :=
  xs.insertionSort fun a b => Int64.ofNat (f a) ≤ Int64.ofNat (f b)

/-- `xs.take(n)`. -/
def take (n : Int32) (xs : List α) : Result (List α) := do
  require (0 ≤ n) s!"Requested element count {n.toInt} is less than zero."
  .ok (xs.take n.toInt.toNat)

end

def assertNoKey (request : PageQueryRequest) : Result Unit :=
  if request.pagination.key.isEmpty then .ok () else .error (.other "AssertionError")

def PageQueryRequest.state (request : PageQueryRequest) (sequence : Nat) (data : Bytes) :
    PacketState :=
  { portId := request.portId, channelId := request.channelId, sequence, data }

def PageQueryRequest.response (request : PageQueryRequest) (states : List PacketState) :
    PageQueryResponse :=
  { states, total := if request.pagination.countTotal then states.length else 0, height := HEIGHT }

variable (S : Serializer)

def packetCommitments (request : PageQueryRequest) : Result PageQueryResponse := do
  assertNoKey request
  let chan ← channelOf C vault request.channel
  let packets ← take request.pagination.limit.toInt32 <|
    (sortedBy (·.sequence) ((toList chan.packets).map Prod.snd)).filter fun packet =>
      request.pagination.offset ≤ Int64.ofNat packet.sequence
  .ok (request.response (packets.map fun packet => request.state packet.sequence (S.packet packet)))

/-- `subMap(offset, Long.MAX_VALUE)` leaves its upper bound out. -/
def packetAcknowledgements (request : PageQueryRequest) : Result PageQueryResponse := do
  assertNoKey request
  let chan ← channelOf C vault request.channel
  let acks ← take request.pagination.limit.toInt32 <|
    (sortedBy Prod.fst (toList chan.acknowledgements)).filter fun entry =>
      request.pagination.offset ≤ Int64.ofNat entry.1 ∧ Int64.ofNat entry.1 < Int64.maxValue
  .ok (request.response (acks.map fun entry => request.state entry.1 (S.acknowledgement entry.2)))

end ChannelQueryService

end CordaIbc
