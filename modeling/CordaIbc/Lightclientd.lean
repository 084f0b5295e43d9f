import CordaIbc.ClientState

/-!
# The light client of a Go host (client-state.go, lightclientd/LightClient.kt)

A Cosmos host verifies the proofs of a Corda host in a service: the Go client state makes a request
of the arguments, and the service calls the Kotlin client. The transport and the protobuf messages
are taken to be faithful; a field that a request does not set has its default value.
-/

namespace CordaIbc

/-! ## lightclientd.proto -/

namespace Lightclientd

structure State where
  clientState : Any
  consensusState : Any

/-- The fields that the requests about packets share. -/
structure PacketRequest where
  state : State
  height : Height
  delayTimePeriod : UInt64 := 0
  delayBlockPeriod : UInt64 := 0
  prefix_ : MerklePrefix
  proof : Bytes
  portId : String
  channelId : String

structure VerifyPacketCommitmentRequest extends PacketRequest where
  sequence : Nat
  commitmentBytes : Bytes

structure VerifyPacketAcknowledgementRequest extends PacketRequest where
  sequence : Nat
  acknowledgement : Bytes

structure VerifyNextSequenceRecvRequest extends PacketRequest where
  nextSequenceRecv : Nat

end Lightclientd

open Lightclientd

/-! ## LightClient.kt -/

namespace LightClient

variable (P : Platform)

def withClientState (state : State) (f : CordaClientState → Result Unit) : Result Unit := do
  let cs ← CordaClientState.create P state.clientState state.consensusState
  f cs

def verifyPacketCommitment (request : VerifyPacketCommitmentRequest) : Result Unit :=
  withClientState P request.state fun it => do
    it.verifyPacketCommitment P request.height request.delayTimePeriod.toInt64
      request.delayBlockPeriod.toInt64 request.prefix_ (← CommitmentProof.of request.proof)
      (← Identifier.of request.portId) (← Identifier.of request.channelId) request.sequence
      request.commitmentBytes

def verifyPacketAcknowledgement (request : VerifyPacketAcknowledgementRequest) : Result Unit :=
  withClientState P request.state fun it => do
    it.verifyPacketAcknowledgement P request.height request.delayTimePeriod.toInt64
      request.delayBlockPeriod.toInt64 request.prefix_ (← CommitmentProof.of request.proof)
      (← Identifier.of request.portId) (← Identifier.of request.channelId) request.sequence
      (← P.toAcknowledgement request.acknowledgement)

def verifyNextSequenceRecv (request : VerifyNextSequenceRecvRequest) : Result Unit :=
  withClientState P request.state fun it => do
    it.verifyNextSequenceRecv P request.height request.delayTimePeriod.toInt64
      request.delayBlockPeriod.toInt64 request.prefix_ (← CommitmentProof.of request.proof)
      (← Identifier.of request.portId) (← Identifier.of request.channelId) request.nextSequenceRecv

end LightClient

/-! ## client-state.go -/

namespace Go

/-- The Go client state, and the consensus states in its store. -/
structure ClientState where
  any : Any
  store : Finmap fun _ : Height => Any

def cordaHeight : Height := ⟨0, 1⟩

/-- The arguments that the methods about packets share. -/
structure Arguments where
  height : Height
  delayTimePeriod : UInt64
  delayBlockPeriod : UInt64
  prefix_ : MerklePrefix
  proof : Bytes
  portID : String
  channelID : String

namespace ClientState

variable (P : Platform) (cs : ClientState)

/-- `MustUnmarshalConsensusState` panics when there is no consensus state. -/
def makeState : Result State := do
  let consensusState ← orThrow (cs.store.lookup cordaHeight) (.other "panic")
  .ok { clientState := cs.any, consensusState }

def verifyPacketCommitment (args : Arguments) (sequence : Nat) (commitmentBytes : Bytes) :
    Result Unit := do
  let state ← cs.makeState
  LightClient.verifyPacketCommitment P
    { state, height := args.height, prefix_ := args.prefix_, proof := args.proof
      portId := args.portID, channelId := args.channelID, sequence, commitmentBytes }

def verifyPacketAcknowledgement (args : Arguments) (sequence : Nat) (acknowledgement : Bytes) :
    Result Unit := do
  let state ← cs.makeState
  LightClient.verifyPacketAcknowledgement P
    { state, height := args.height, prefix_ := args.prefix_, proof := args.proof
      portId := args.portID, channelId := args.channelID, sequence, acknowledgement }

def verifyNextSequenceRecv (args : Arguments) (nextSequenceRecv : Nat) : Result Unit := do
  let state ← cs.makeState
  LightClient.verifyNextSequenceRecv P
    { state, height := args.height, prefix_ := args.prefix_, proof := args.proof
      portId := args.portID, channelId := args.channelID, nextSequenceRecv }

end ClientState

end Go

end CordaIbc
