import CordaIbc.ChannelQuery
import CordaIbc.Conversion
import CordaIbc.Flow

/-!
# Queries with proofs (clients/corda/commitment_proof_conversion.kt, grpc_adapter, go/relay)

A node answers queries about the states of its vault, and proves a state with the transaction that put
it out: the notary, the outputs that are `IbcState`s and the signatures. A relayer makes a client of a
host out of the answer about the host.
-/

namespace CordaIbc

open ChannelOuterClass (Channel Packet Acknowledgement)
open StateClass

/-! ## Proofs -/

/-- A `SignedTransaction` whose core is a `WireTransaction`. -/
structure VerifiedTransaction where
  tx : LedgerTransaction
  sigs : List TransactionSignature
  sigs_nonempty : sigs ≠ []

/-- What a proof takes of Corda: the serializer, and the component groups that
`buildFilteredTransaction` keeps, with their Merkle proofs. -/
structure ProofCodec where
  serialize : SignedTransaction → Bytes
  componentGroups : LedgerTransaction → Bytes

/-- `usedHashes` includes the id, for a signature over a Merkle root. -/
def TransactionSignature.Includes (P : Platform) (sig : TransactionSignature) (id : SecureHash) :
    Prop :=
  ∀ tree ∈ sig.partialMerkleTree, id.reHash P ∈ (tree.rootAndUsedHashes P.hashConcat).2

instance (P : Platform) (sig : TransactionSignature) (id : SecureHash) :
    Decidable (sig.Includes P id) :=
  inferInstanceAs (Decidable (∀ tree ∈ sig.partialMerkleTree, _))

namespace VerifiedTransaction

variable (P : Platform) (K : ProofCodec) (stx : VerifiedTransaction)

/-- `buildFilteredTransaction{it is Party || (it is TransactionState<*> && it.data is IbcState)}`. -/
def buildFilteredTransaction : FilteredTransaction :=
  { id := stx.tx.id, notary := some stx.tx.notary
    outputs := stx.tx.outputs.filter fun s => s.ibc?.isSome
    componentGroups := K.componentGroups stx.tx }

def filtered : SignedTransaction :=
  { coreTransaction := .filtered (stx.buildFilteredTransaction K), sigs := stx.sigs
    sigs_nonempty := stx.sigs_nonempty }

/-- `stx.toProof()`. -/
def toProof : Result CommitmentProof := do
  P.verifyFiltered (stx.buildFilteredTransaction K)
  require (∀ sig ∈ stx.sigs, sig.Includes P stx.tx.id) "stx.id isn't included in partialMerkleTree."
  CommitmentProof.of (K.serialize (stx.filtered K))

/-- The signers of the commands, and the notary of what is consumed or referenced. -/
def requiredSigningKeys : List PublicKey :=
  stx.tx.commands.flatMap (·.signers) ++
    if stx.tx.inputs ≠ [] ∨ stx.tx.references ≠ [] then [stx.tx.notary.owningKey] else []

/-- `stx.verifyRequiredSignatures()`. -/
def verifyRequiredSignatures : Result Unit := do
  require (∀ sig ∈ stx.sigs, sig.Covers P sig.by_ stx.tx.id) "SignatureException"
  require (∀ key ∈ stx.requiredSigningKeys, key ∈ stx.sigs.map (·.by_)) "SignaturesMissingException"

end VerifiedTransaction

/-- What a client reads of the proof is what the node wrote: Corda's serializer and Merkle trees. -/
structure ProofCodec.Carries (K : ProofCodec) (P : Platform) (stx : VerifiedTransaction) : Prop where
  deserialize : P.deserialize (K.serialize (stx.filtered K)) = .ok (stx.filtered K)
  nonempty : K.serialize (stx.filtered K) ≠ []
  verify : P.verifyFiltered (stx.buildFilteredTransaction K) = .ok ()

/-! ## Queries -/

/-- The responses of the services: what was asked for, with a proof. -/
structure QueryResponse (α : Type) where
  value : α
  proof : Bytes
  proofHeight : Height
deriving DecidableEq

/-- A node, as the services use it. -/
structure CordaRPCOps where
  vault : ServiceHub
  internalFindVerifiedTransaction : SecureHash → Option VerifiedTransaction

namespace CordaRPCOps

variable (P : Platform) (K : ProofCodec) (ops : CordaRPCOps)

/-- Without a base id a request is about the only host. -/
def resolveBaseId (baseId : Option StateRef) : Result StateRef :=
  match baseId with
  | none => do
    let host ← single (ops.vault.queryBy Host)
    .ok host.data.baseId
  | some baseId => .ok baseId

/-- `vaultQueryBy<T>` for the base id and the linear id. -/
def vaultQueryBy (T : Type) [StateClass T] (baseId : Option StateRef) (id : String) :
    Result (List (Found T)) := do
  let baseId ← ops.resolveBaseId baseId
  let id ← Identifier.of id
  .ok ((ops.vault.queryLinear T baseId).filter fun found =>
    (up found.data).ibc?.any fun i => i.linearId P.toCrypto = P.nameUUIDFromBytes id.id)

/-- The transaction that put a state out. -/
def findTransaction (ref : StateRef) : Result VerifiedTransaction :=
  notNull (ops.internalFindVerifiedTransaction ref.txhash)

/-- What is asked for of a state, with the proof of its transaction. -/
def respond {T : Type} [StateClass T] {α : Type} (found : Found T) (value : T → Result α) :
    Result (QueryResponse α) := do
  let proof ← (← ops.findTransaction found.ref).toProof P K
  .ok { value := ← value found.data, proof := proof.bytes, proofHeight := HEIGHT }

end CordaRPCOps

variable (P : Platform) (K : ProofCodec) (ops : CordaRPCOps)

namespace ClientQueryService

/-- `QueryConsensusStateRequest`: the latest height or a given one. -/
structure QueryConsensusStateRequest where
  clientId : String
  latestHeight : Bool
  height : Height

def clientState (baseId : Option StateRef) (clientId : String) : Result (QueryResponse Any) := do
  let found ← single (← ops.vaultQueryBy P IbcClientState baseId clientId)
  ops.respond P K found fun client => .ok client.anyClientState

def consensusState (baseId : Option StateRef) (request : QueryConsensusStateRequest) :
    Result (QueryResponse Any) := do
  let found ← single (← ops.vaultQueryBy P IbcClientState baseId request.clientId)
  ops.respond P K found fun client => do
    let height ← if request.latestHeight then client.impl.getLatestHeight P else .ok request.height
    notNull (client.impl.anyConsensusStates.lookup height)

end ClientQueryService

/-- `ConnectionEnd.getDefaultInstance()`. -/
def Connection.ConnectionEnd.default : Connection.ConnectionEnd :=
  { clientId := "", versionsList := [], state := .uninitializedUnspecified
    counterparty := ⟨"", "", ⟨[]⟩⟩, delayPeriod := 0 }

/-- `Channel.getDefaultInstance()`. -/
def ChannelOuterClass.Channel.default : Channel :=
  { state := .uninitializedUnspecified, ordering := .noneUnspecified, counterparty := ⟨"", ""⟩
    connectionHopsList := [], version := "" }

/-- A response in which only the value is set. -/
def QueryResponse.unproved {α : Type} (value : α) : QueryResponse α := ⟨value, [], ⟨0, 0⟩⟩

namespace ConnectionQueryService

def connection (baseId : Option StateRef) (connectionId : String) :
    Result (QueryResponse Connection.ConnectionEnd) := do
  match singleOrNull (← ops.vaultQueryBy P IbcConnection baseId connectionId) with
  | some found => do
    let stx ← ops.findTransaction found.ref
    stx.verifyRequiredSignatures P
    let proof ← stx.toProof P K
    let (_, ftx) ← proof.toSignedTransaction P
    let conn ← single (filterIsInstance IbcConnection ftx.outputs)
    require (conn = found.data)
    .ok { value := found.data.end_, proof := proof.bytes, proofHeight := HEIGHT }
  | none => .ok (.unproved .default)

end ConnectionQueryService

namespace ChannelQueryService

/-- `assert(stateAndRef.state.data.portId.id == request.request.portId)`. -/
def assertPort (chan : IbcChannel) (portId : String) : Result Unit :=
  if chan.portId.id = portId then .ok () else .error (.other "AssertionError")

protected def channel (baseId : Option StateRef) (portId channelId : String) :
    Result (QueryResponse Channel) := do
  match singleOrNull (← ops.vaultQueryBy P IbcChannel baseId channelId) with
  | some found => do
    assertPort found.data portId
    ops.respond P K found fun chan => .ok chan.end_
  | none => .ok (.unproved .default)

/-- The queries about one packet of a channel. -/
def packetQuery {α : Type} (baseId : Option StateRef) (portId channelId : String)
    (value : IbcChannel → Result α) : Result (QueryResponse α) := do
  let found ← single (← ops.vaultQueryBy P IbcChannel baseId channelId)
  assertPort found.data portId
  ops.respond P K found value

def packetCommitment (S : Serializer) (baseId : Option StateRef) (portId channelId : String)
    (sequence : Nat) : Result (QueryResponse Bytes) :=
  packetQuery P K ops baseId portId channelId fun chan => do
    .ok (S.packet (← notNull (chan.packets.lookup sequence)))

def packetReceipt (baseId : Option StateRef) (portId channelId : String) (sequence : Nat) :
    Result (QueryResponse Bool) :=
  packetQuery P K ops baseId portId channelId fun chan => .ok (sequence ∈ chan.receipts)

def packetAcknowledgement (S : Serializer) (baseId : Option StateRef) (portId channelId : String)
    (sequence : Nat) : Result (QueryResponse Bytes) :=
  packetQuery P K ops baseId portId channelId fun chan => do
    .ok (S.acknowledgement (← notNull (chan.acknowledgements.lookup sequence)))

end ChannelQueryService

/-! ## Clients that a relayer makes -/

/-- What `QueryHostResponse` says of a host, as far as the relayer uses it. -/
structure QueryHostResponse where
  baseId : CordaTypes.StateRef
  notaryKey : CordaTypes.PublicKey

namespace HostService

def queryHost (baseId : Option StateRef) : Result QueryHostResponse := do
  let baseId ← ops.resolveBaseId baseId
  let host ← single (ops.vault.queryLinear Host baseId)
  .ok { baseId := host.data.baseId.toProto, notaryKey := ⟨host.data.notary.owningKey.encoded⟩ }

end HostService

namespace Go

/-- The values that `types.NewAnyWithValue` makes of the messages. -/
structure AnyCodec where
  clientState : Corda.ClientState → Bytes
  consensusState : Bytes

/-- `prover.CreateMsgCreateClient(...)`, of the host that the node answers with. -/
def createMsgCreateClient (A : AnyCodec) : Result MsgCreateClient := do
  let host ← HostService.queryHost ops none
  .ok { clientState := ⟨"/ibc.lightclients.corda.v1.ClientState", A.clientState
          ⟨host.baseId.txhash.bytes, host.baseId.index, host.notaryKey.encoded⟩⟩
        consensusState := ⟨"/ibc.lightclients.corda.v1.ConsensusState", A.consensusState⟩ }

end Go

/-! ## Replies about transactions (ClientTxService.kt and its siblings) -/

/-- The only output of a class, as the services find it. -/
def VerifiedTransaction.outputOf (stx : VerifiedTransaction) (T : Type) [StateClass T] : Result T :=
  single (filterIsInstance T stx.tx.outputs)

namespace TransferTxService

/-- The reply about the transaction of a transfer: its proof and the sequence of its packet. -/
def transfer (stx : VerifiedTransaction) : Result (Bytes × Nat) := do
  let proof ← stx.toProof P K
  let sequence := (← stx.outputOf IbcChannel).nextSequenceSend - 1
  require (1 ≤ sequence)
  .ok (proof.bytes, sequence)

end TransferTxService

end CordaIbc
