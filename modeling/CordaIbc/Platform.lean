import CordaIbc.Context

/-!
# Signed transactions, proofs and external services

A light-client proof is a serialized signed transaction whose core is a Corda
`FilteredTransaction`. `Platform` adds to `Crypto` what the contract takes from Corda, protobuf and
the Fabric light-client service: deserialization, Merkle verification, message formats and the
remote calls.
-/

namespace CordaIbc

open ChannelOuterClass (Channel Packet Acknowledgement)

/-! ## Corda transactions -/

/-- `PartialMerkleTree.PartialTree`. -/
inductive PartialTree where
  | includedLeaf (hash : SecureHash)
  | leaf (hash : SecureHash)
  | node (left right : PartialTree)
deriving DecidableEq

/-- `PartialMerkleTree.rootAndUsedHashes`. -/
def PartialTree.rootAndUsedHashes (hashConcat : SecureHash → SecureHash → SecureHash) :
    PartialTree → SecureHash × List SecureHash
  | includedLeaf h => (h, [h])
  | leaf h => (h, [])
  | node l r =>
    let (hl, ul) := l.rootAndUsedHashes hashConcat
    let (hr, ur) := r.rootAndUsedHashes hashConcat
    (hashConcat hl hr, ul ++ ur)

structure TransactionSignature where
  bytes : Bytes
  by_ : PublicKey
  signatureMetadata : Bytes
  partialMerkleTree : Option PartialTree
deriving DecidableEq

/-- `FilteredTransaction`: the notary and the outputs it reveals, and the rest of the component
groups with their Merkle proofs. -/
structure FilteredTransaction where
  id : SecureHash
  notary : Option Party
  outputs : List ContractState
  componentGroups : Bytes
deriving DecidableEq

inductive CoreTransaction where
  | filtered (ftx : FilteredTransaction)
  | wire (bytes : Bytes)
deriving DecidableEq

/-- A `SignedTransaction` cannot be built without a signature. -/
structure SignedTransaction where
  coreTransaction : CoreTransaction
  sigs : List TransactionSignature
  sigs_nonempty : sigs ≠ []
deriving DecidableEq

/-- `CommitmentProof` is an `OpaqueBytes`, so it is not empty. -/
structure CommitmentProof where
  bytes : Bytes
  nonempty : bytes ≠ []

namespace CommitmentProof

instance : DecidableEq CommitmentProof := fun p q =>
  decidable_of_iff (p.bytes = q.bytes)
    ⟨fun h => by cases p; cases q; cases h; rfl, fun h => by rw [h]⟩

def of (bytes : Bytes) : Result CommitmentProof :=
  if h : bytes ≠ [] then .ok ⟨bytes, h⟩
  else .error (.illegalArgument "Byte Array must not be empty")

theorem of_ok {bytes : Bytes} {p : CommitmentProof} : of bytes = .ok p ↔ p.bytes = bytes := by
  unfold of
  split
  · simp only [Except.ok.injEq]
    exact ⟨fun h => h ▸ rfl, fun h => by cases p; cases h; rfl⟩
  · rename_i h
    simp only [reduceCtorEq, false_iff]
    rintro rfl
    exact h p.nonempty

end CommitmentProof

/-! ## Services -/

/-- `ibc.lightclients.corda.v1.Corda.ClientState`. -/
structure Corda.ClientState where
  txhash : Bytes
  index : Nat
  notaryKey : Bytes
deriving DecidableEq, Repr

/-- `Header`; only `FabricHeader` implements it. -/
structure Header where
  anyHeader : Any

/-- `Misbehaviour`. -/
structure Misbehaviour where
  anyMisbehaviour : Any

/-- The Fabric messages and the `LightClient` service `FabricClientState` calls. -/
structure FabricService where
  unpackClientState : Any → Result Unit
  /-- The height in the last chaincode header. -/
  latestHeightOf : Any → Result Height
  /-- `FabricConsensusState(any).getTimestamp().timestamp`. -/
  unpackConsensusState : Any → Result Long
  clientType : FabricClientState → Result String
  getLatestHeight : FabricClientState → Result Height
  checkHeaderAndUpdateState : FabricClientState → Header →
    Result (Any × Finmap fun _ : Height => Any)
  verifyClientState : FabricClientState → Height → MerklePrefix → Identifier → CommitmentProof →
    Any → Result Unit
  verifyClientConsensusState : FabricClientState → Height → Identifier → Height → MerklePrefix →
    CommitmentProof → Any → Result Unit
  verifyConnectionState : FabricClientState → Height → MerklePrefix → CommitmentProof →
    Identifier → Connection.ConnectionEnd → Result Unit
  verifyChannelState : FabricClientState → Height → MerklePrefix → CommitmentProof → Identifier →
    Identifier → Channel → Result Unit
  verifyPacketCommitment : FabricClientState → Height → Long → Long → MerklePrefix →
    CommitmentProof → Identifier → Identifier → Nat → Bytes → Result Unit
  verifyPacketAcknowledgement : FabricClientState → Height → Long → Long → MerklePrefix →
    CommitmentProof → Identifier → Identifier → Nat → Acknowledgement → Result Unit

structure Platform extends Crypto where
  /-- The hash of an inner node of a Merkle tree. -/
  hashConcat : SecureHash → SecureHash → SecureHash
  /-- `Crypto.isValid`: a signature by a key over a hash and the metadata. -/
  isValid : PublicKey → Bytes → SecureHash → Bytes → Bool
  /-- `FilteredTransaction.verify()`: the revealed components have the id as their Merkle root. -/
  verifyFiltered : FilteredTransaction → Result Unit
  /-- The signed transaction of a deserialized `Pair<SignedTransaction, ...>`. -/
  deserialize : Bytes → Result SignedTransaction
  unpackCordaClientState : Any → Result Corda.ClientState
  unpackCordaConsensusState : Any → Result Unit
  unpackMsgTransfer : Any → Result MsgTransfer
  unpackPacket : Any → Result Packet
  /-- `data.toJson()`. -/
  toJson : FungibleTokenPacketData → Bytes
  toFungibleTokenPacketData : Bytes → Result FungibleTokenPacketData
  toAcknowledgement : Bytes → Result Acknowledgement
  /-- The verdict of the contracts of other states on what a transaction consumes and puts out, and
  its commands for them. -/
  verifyOthers : List ContractState → List ContractState → List (String × List PublicKey) →
    Result Unit
  fabric : FabricService

variable (P : Platform)

/-- `proof.toSignedTransaction()`, with its core transaction. -/
def CommitmentProof.toSignedTransaction (proof : CommitmentProof) :
    Result (SignedTransaction × FilteredTransaction) := do
  let stx ← P.deserialize proof.bytes
  match stx.coreTransaction with
  | .wire _ => .error (.other "ClassCastException")
  | .filtered ftx => do
    P.verifyFiltered ftx
    .ok (stx, ftx)

/-- `id.reHash()`. -/
def SecureHash.reHash (h : SecureHash) : SecureHash := ⟨P.sha256 h.bytes⟩

/-- A signature by `key` over the transaction's id, or over a Merkle root containing it. -/
def TransactionSignature.Covers (sig : TransactionSignature) (key : PublicKey) (id : SecureHash) :
    Prop :=
  sig.by_ = key ∧
    match sig.partialMerkleTree with
    | none => P.isValid key sig.bytes id sig.signatureMetadata = true
    | some tree =>
      let (root, usedHashes) := tree.rootAndUsedHashes P.hashConcat
      id.reHash P ∈ usedHashes ∧ P.isValid key sig.bytes root sig.signatureMetadata = true

instance (sig : TransactionSignature) (key : PublicKey) (id : SecureHash) :
    Decidable (sig.Covers P key id) := by
  unfold TransactionSignature.Covers
  cases sig.partialMerkleTree <;> exact inferInstanceAs (Decidable (_ ∧ _))

theorem CommitmentProof.toSignedTransaction_ok {proof : CommitmentProof} {stx : SignedTransaction}
    {ftx : FilteredTransaction} :
    proof.toSignedTransaction P = .ok (stx, ftx) ↔ P.deserialize proof.bytes = .ok stx ∧
      stx.coreTransaction = .filtered ftx ∧ P.verifyFiltered ftx = .ok () := by
  simp only [CommitmentProof.toSignedTransaction, Result.bind_ok]
  constructor
  · rintro ⟨stx', hd, h⟩
    cases hc : stx'.coreTransaction with
    | wire b => rw [hc] at h; cases h
    | filtered f =>
      rw [hc] at h
      obtain ⟨⟨⟩, hv, h⟩ := Result.bind_ok.1 h
      cases h
      exact ⟨hd, hc, hv⟩
  · rintro ⟨hd, hc, hv⟩
    refine ⟨stx, hd, ?_⟩
    rw [hc]
    exact Result.bind_ok.2 ⟨(), hv, rfl⟩

end CordaIbc
