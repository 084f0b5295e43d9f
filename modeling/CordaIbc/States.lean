import CordaIbc.Bank
import CordaIbc.CashBank
import CordaIbc.Host

/-!
# Contract states (states/*.kt)

The states a transaction consumes, references and produces. `StateClass T` is a Kotlin class of
states: `cast?` is the safe cast `as? T` and `up` its inverse.

The counters of hosts and channels are `Long`s in the source and natural numbers here: they start at 0
or 1 and go up by one, so no run is long enough for one to pass 2^63 - 1.
-/

namespace CordaIbc

open ChannelOuterClass (Channel Packet Acknowledgement)

/-! ## Clients -/

/-- `CordaClientState`, with the two values its constructor unpacks. -/
structure CordaClientState where
  anyClientState : Any
  anyConsensusStates : Finmap fun _ : Height => Any
  counterpartyBaseId : StateRef
  counterpartyNotaryKey : PublicKey
deriving DecidableEq

structure FabricClientState where
  anyClientState : Any
  anyConsensusStates : Finmap fun _ : Height => Any
deriving DecidableEq

inductive ClientState where
  | corda (clientState : CordaClientState)
  | fabric (clientState : FabricClientState)
deriving DecidableEq

namespace ClientState

def anyClientState : ClientState → Any
  | corda s => s.anyClientState
  | fabric s => s.anyClientState

def anyConsensusStates : ClientState → Finmap fun _ : Height => Any
  | corda s => s.anyConsensusStates
  | fabric s => s.anyConsensusStates

end ClientState

structure IbcClientState where
  participants : List AbstractParty
  baseId : StateRef
  id : Identifier
  anyClientState : Any
  anyConsensusStates : Finmap fun _ : Height => Any
  impl : ClientState
deriving DecidableEq

namespace IbcClientState

def create (host : Host) (id : Identifier) (clientState : ClientState) : IbcClientState :=
  { participants := host.participants, baseId := host.baseId, id
    anyClientState := clientState.anyClientState
    anyConsensusStates := clientState.anyConsensusStates, impl := clientState }

def update (client : IbcClientState) (newClientState : ClientState) : IbcClientState :=
  { client with
    anyClientState := newClientState.anyClientState
    anyConsensusStates := newClientState.anyConsensusStates, impl := newClientState }

end IbcClientState

/-! ## Connections and channels -/

structure IbcConnection where
  participants : List AbstractParty
  baseId : StateRef
  id : Identifier
  end_ : Connection.ConnectionEnd
deriving DecidableEq

def IbcConnection.create (host : Host) (id : Identifier) (connectionEnd : Connection.ConnectionEnd) :
    IbcConnection :=
  { participants := host.participants, baseId := host.baseId, id, end_ := connectionEnd }

structure IbcChannel where
  participants : List AbstractParty
  baseId : StateRef
  id : Identifier
  portId : Identifier
  end_ : Channel
  nextSequenceSend : Nat
  nextSequenceRecv : Nat
  nextSequenceAck : Nat
  packets : Finmap fun _ : Nat => Packet
  receipts : Finset Nat
  acknowledgements : Finmap fun _ : Nat => Acknowledgement
deriving DecidableEq

def IbcChannel.create (host : Host) (portId chanId : Identifier) (end_ : Channel) : IbcChannel :=
  { participants := host.participants, baseId := host.baseId, id := chanId, portId, end_
    nextSequenceSend := 1, nextSequenceRecv := 1, nextSequenceAck := 1
    packets := ∅, receipts := ∅, acknowledgements := ∅ }

/-- `Bank(host)`. -/
def Bank.create (host : Host) : Bank :=
  { participants := host.participants, baseId := host.baseId
    allocated := ∅, locked := ∅, minted := ∅, denoms := ∅ }

/-- `CashBank(host, owner)`. -/
def CashBank.create (host : Host) (owner : Party) : CashBank :=
  { participants := host.participants, baseId := host.baseId, owner, supply := ∅, denoms := ∅ }

/-! ## States of a transaction -/

inductive ContractState where
  | genesis (s : Genesis)
  | host (s : Host)
  | client (s : IbcClientState)
  | connection (s : IbcConnection)
  | channel (s : IbcChannel)
  | bank (s : Bank)
  | cashBank (s : CashBank)
  | voucher (s : Voucher)
  | cash (s : Cash)
  /-- A state of any other class. -/
  | other (s : Bytes)
deriving DecidableEq

/-- The interface `IbcState`; `fungible` tells an `IbcFungibleState`. -/
structure IbcState where
  baseId : StateRef
  id : Identifier
  fungible : Bool
deriving DecidableEq

/-- `state as? IbcState`. -/
def ContractState.ibc? : ContractState → Option IbcState
  | host s => some ⟨s.baseId, s.id, false⟩
  | client s => some ⟨s.baseId, s.id, false⟩
  | connection s => some ⟨s.baseId, s.id, false⟩
  | channel s => some ⟨s.baseId, s.id, false⟩
  | bank s => some ⟨s.baseId, s.id, false⟩
  | cashBank s => some ⟨s.baseId, s.id, false⟩
  | voucher s => some ⟨s.baseId, s.id, true⟩
  | genesis _ | cash _ | other _ => none

/-- The base id and identifier of a state that is not fungible. -/
def ContractState.key? (s : ContractState) : Option (StateRef × Identifier) :=
  s.ibc?.bind fun i => if i.fungible then none else some (i.baseId, i.id)

/-- The identifier of a state that is not fungible. -/
def ContractState.id? (s : ContractState) : Option Identifier := s.key?.map Prod.snd

/-- Corda compares `UniqueIdentifier`s by their UUID alone, so that is what a linear id is. -/
def IbcState.linearId (C : Crypto) (s : IbcState) : Bytes := C.nameUUIDFromBytes s.id.id

/-- A class of states. -/
class StateClass (T : Type) where
  /-- `state as? T`. -/
  cast? : ContractState → Option T
  up : T → ContractState
  /-- Whether `T` implements `IbcState`. -/
  isIbc : Bool
  cast?_eq : ∀ {s : ContractState} {t : T}, cast? s = some t ↔ s = up t
  isIbc_eq : ∀ t : T, (up t).ibc?.isSome = isIbc

namespace StateClass

instance : StateClass Host where
  cast? | .host s => some s | _ => none
  up := .host
  isIbc := true
  cast?_eq {s _} := by cases s <;> simp
  isIbc_eq _ := rfl

instance : StateClass IbcClientState where
  cast? | .client s => some s | _ => none
  up := .client
  isIbc := true
  cast?_eq {s _} := by cases s <;> simp
  isIbc_eq _ := rfl

instance : StateClass IbcConnection where
  cast? | .connection s => some s | _ => none
  up := .connection
  isIbc := true
  cast?_eq {s _} := by cases s <;> simp
  isIbc_eq _ := rfl

instance : StateClass IbcChannel where
  cast? | .channel s => some s | _ => none
  up := .channel
  isIbc := true
  cast?_eq {s _} := by cases s <;> simp
  isIbc_eq _ := rfl

instance : StateClass Bank where
  cast? | .bank s => some s | _ => none
  up := .bank
  isIbc := true
  cast?_eq {s _} := by cases s <;> simp
  isIbc_eq _ := rfl

instance : StateClass CashBank where
  cast? | .cashBank s => some s | _ => none
  up := .cashBank
  isIbc := true
  cast?_eq {s _} := by cases s <;> simp
  isIbc_eq _ := rfl

instance : StateClass Voucher where
  cast? | .voucher s => some s | _ => none
  up := .voucher
  isIbc := true
  cast?_eq {s _} := by cases s <;> simp
  isIbc_eq _ := rfl

instance : StateClass Cash where
  cast? | .cash s => some s | _ => none
  up := .cash
  isIbc := false
  cast?_eq {s _} := by cases s <;> simp
  isIbc_eq _ := rfl

instance : StateClass Genesis where
  cast? | .genesis s => some s | _ => none
  up := .genesis
  isIbc := false
  cast?_eq {s _} := by cases s <;> simp
  isIbc_eq _ := rfl

variable {T : Type} [StateClass T]

@[simp] theorem cast?_up (t : T) : cast? (up t) = some t := cast?_eq.2 rfl

end StateClass

open StateClass

/-- `states.filterIsInstance<T>()`. -/
def filterIsInstance (T : Type) [StateClass T] (states : List ContractState) : List T :=
  states.filterMap cast?

theorem mem_filterIsInstance {T : Type} [StateClass T] {states : List ContractState} {t : T} :
    t ∈ filterIsInstance T states ↔ up t ∈ states := by
  simp only [filterIsInstance, List.mem_filterMap, cast?_eq]
  exact ⟨fun ⟨s, hs, h⟩ => h ▸ hs, fun h => ⟨_, h, rfl⟩⟩

end CordaIbc
