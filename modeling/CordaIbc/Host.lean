import CordaIbc.Kotlin
import CordaIbc.Proto

/-!
# The host state (ics24/Host.kt, ics24/Genesis.kt, ics2/ClientType.kt)

A host hands out identifiers from three counters. `Identifier.numbered` carries the proof that the
name it builds is an identifier; two of them with one kind are equal only at one number
(`numbered_inj`), and the kinds differ from each other and from the two singletons in their first
three characters (`kind`).
-/

namespace CordaIbc

/-! ## Names -/

inductive ClientType where
  | cordaClient | fabricClient | soloMachineClient | tendermintClient | localhostClient
deriving DecidableEq, Repr

namespace ClientType

def toString : ClientType → String
  | cordaClient => "corda-ibc"
  | fabricClient => "hyperledgerfabric"
  | soloMachineClient => "06-solomachine"
  | tendermintClient => "07-tendermint"
  | localhostClient => "09-localhost"

def values : List ClientType :=
  [cordaClient, fabricClient, soloMachineClient, tendermintClient, localhostClient]

def fromString (s : String) : Result ClientType := single (values.filter fun t => t.toString = s)

end ClientType

namespace Identifier

theorem valid_digits {l : List Char} (h : ∀ c ∈ l, c.isDigit = true) :
    l.all isIdentifierChar = true := by
  refine List.all_eq_true.2 fun c hc => ?_
  simp [isIdentifierChar, Char.isAlphanum, h c hc]

theorem isDigit_toString (n : Nat) : ∀ c ∈ (toString n).toList, c.isDigit = true := fun c hc => by
  rw [Nat.toString_eq_repr, Nat.repr_eq_ofList_toDigits, String.toList_ofList] at hc
  exact Nat.isDigit_of_mem_toDigits (by decide) (by decide) hc

/-- `Identifier("$kind-$n")`. -/
def numbered (kind : String) (n : Nat) (h : kind.toList.all isIdentifierChar = true := by decide) :
    Identifier :=
  ⟨kind ++ "-" ++ toString n, by
    simp only [String.toList_append, List.all_append, h, Bool.true_and]
    rw [valid_digits (isDigit_toString n)]
    decide⟩

theorem numbered_inj {kind : String} {h h' : kind.toList.all isIdentifierChar = true} {n m : Nat}
    (e : numbered kind n h = numbered kind m h') : n = m := by
  have e := congrArg (fun i => i.id.toList) e
  simp only [numbered, String.toList_append, List.append_cancel_left_eq, Nat.toString_eq_repr,
    Nat.toList_repr] at e
  rw [← Nat.ofDigitChars_ten_toDigits (n := n), e, Nat.ofDigitChars_ten_toDigits]

/-- The three leading characters tell the kinds of identifiers a host uses apart. -/
def kind (i : Identifier) : List Char := i.id.toList.take 3

theorem kind_numbered {k : String} {n : Nat} (h : k.toList.all isIdentifierChar = true)
    (hl : 3 ≤ k.toList.length) : (numbered k n h).kind = k.toList.take 3 := by
  show (k ++ "-" ++ toString n).toList.take 3 = _
  rw [String.append_assoc, String.toList_append, List.take_append_of_le_length hl]

end Identifier

/-! ## The host -/

/-- The classes a port can be bound to. -/
inductive Module where
  | nop | ics20 | ics20cash
deriving DecidableEq, Repr

/-- `createInstance<Module>(className)`. -/
def Module.createInstance (className : String) : Result Module :=
  if className = "jp.datachain.corda.ibc.ics26.NopModule" then .ok .nop
  else if className = "jp.datachain.corda.ibc.ics20.Module" then .ok .ics20
  else if className = "jp.datachain.corda.ibc.ics20cash.Module" then .ok .ics20cash
  else .error (.other "ClassNotFoundException")

inductive ClientStateFactory where
  | corda | fabric
deriving DecidableEq, Repr

/-- `createInstance<ClientStateFactory>(className)`. -/
def ClientStateFactory.createInstance (className : String) : Result ClientStateFactory :=
  if className = "jp.datachain.corda.ibc.clients.corda.CordaClientStateFactory" then .ok .corda
  else if className = "jp.datachain.corda.ibc.clients.fabric.FabricClientStateFactory" then
    .ok .fabric
  else .error (.other "ClassNotFoundException")

structure Genesis where
  participants : List AbstractParty
deriving DecidableEq, Repr

structure Host where
  participants : List AbstractParty
  baseId : StateRef
  notary : Party
  nextClientSequence : Nat
  nextConnectionSequence : Nat
  nextChannelSequence : Nat
  modules : Finmap fun _ : Identifier => Module
  clientStateFactories : Finmap fun _ : String => ClientStateFactory
  bankIds : List Identifier
deriving DecidableEq

namespace Host

/-- `names.mapValues{createInstance(it.value)}` over the entries of a map. -/
def instances {κ ν : Type} [DecidableEq κ] (createInstance : String → Result ν) :
    List (κ × String) → Result (Finmap fun _ : κ => ν)
  | [] => .ok ∅
  | (k, name) :: rest => do
    let v ← createInstance name
    let m ← instances createInstance rest
    .ok (m.insert k v)

/-- `Host(genesisAndRef, moduleNames, clientStateFactoryNames)`. -/
def create (genesis : Genesis) (ref : StateRef) (notary : Party)
    (moduleNames : List (Identifier × String)) (clientStateFactoryNames : List (String × String)) :
    Result Host := do
  let modules ← instances Module.createInstance moduleNames
  let clientStateFactories ← instances ClientStateFactory.createInstance clientStateFactoryNames
  .ok { participants := genesis.participants, baseId := ref, notary
        nextClientSequence := 0, nextConnectionSequence := 0, nextChannelSequence := 0
        modules, clientStateFactories, bankIds := [] }

def id (_ : Host) : Identifier := hostId

def getCurrentHeight (_ : Host) : Height := HEIGHT

/-- `Corda.ConsensusState.getDefaultInstance().pack()`. -/
def defaultConsensusState : Any := ⟨"/ibc.lightclients.corda.v1.ConsensusState", []⟩

/-- `host.getConsensusState(height).anyConsensusState`. -/
def getConsensusState (host : Host) (height : Height) : Result Any := do
  require (height = host.getCurrentHeight)
  .ok defaultConsensusState

def getCommitmentPrefix (_ : Host) : MerklePrefix := PREFIX

def currentTimestamp (_ : Host) : Long := 0

def getCompatibleVersions (_ : Host) : List Connection.Version := [VERSION]

/-- `supportedVersions.intersect(counterpartyVersions).first()`: in the order of the former. -/
def pickVersion (_ : Host) (supportedVersions counterpartyVersions : List Connection.Version) :
    Result Connection.Version :=
  first (supportedVersions.filter fun v => v ∈ counterpartyVersions)

def clientIdentifier (clientType : ClientType) (n : Nat) : Identifier :=
  .numbered clientType.toString n (by cases clientType <;> decide)

def connectionIdentifier (n : Nat) : Identifier := .numbered "connection" n

def channelIdentifier (n : Nat) : Identifier := .numbered "channel" n

def generateClientIdentifier (host : Host) (clientType : ClientType) : Host × Identifier :=
  ({ host with nextClientSequence := host.nextClientSequence + 1 },
    clientIdentifier clientType host.nextClientSequence)

def parseClientIdentifier (_ : Host) (id : Identifier) : Result (ClientType × Int) := do
  let (clientTypePart, sequencePart) ← splitAtLast id.id '-'
  let clientType ← ClientType.fromString clientTypePart
  let sequence ← toLong sequencePart
  .ok (clientType, sequence)

def generateConnectionIdentifier (host : Host) : Host × Identifier :=
  ({ host with nextConnectionSequence := host.nextConnectionSequence + 1 },
    connectionIdentifier host.nextConnectionSequence)

def generateChannelIdentifier (host : Host) : Host × Identifier :=
  ({ host with nextChannelSequence := host.nextChannelSequence + 1 },
    channelIdentifier host.nextChannelSequence)

/-- `modules[portIdentifier]!!`. -/
def lookupModule (host : Host) (portIdentifier : Identifier) : Result Module :=
  notNull (host.modules.lookup portIdentifier)

def addBank (host : Host) (id : Identifier) : Result Host := do
  require (id ∉ host.bankIds)
  .ok { host with bankIds := host.bankIds ++ [id] }

/-! ### Identifiers of one host -/

section
variable {n m : Nat} {t t' : ClientType}

theorem kind_host : hostId.kind = ['h', 'o', 's'] := by decide

theorem kind_bank : bankId.kind = ['b', 'a', 'n'] := by decide

theorem kind_connection : (connectionIdentifier n).kind = ['c', 'o', 'n'] :=
  Identifier.kind_numbered _ (by decide)

theorem kind_channel : (channelIdentifier n).kind = ['c', 'h', 'a'] :=
  Identifier.kind_numbered _ (by decide)

theorem kind_client : (clientIdentifier t n).kind = t.toString.toList.take 3 :=
  Identifier.kind_numbered _ (by cases t <;> decide)

theorem channelIdentifier_inj (h : channelIdentifier n = channelIdentifier m) : n = m :=
  Identifier.numbered_inj h

theorem connectionIdentifier_inj (h : connectionIdentifier n = connectionIdentifier m) : n = m :=
  Identifier.numbered_inj h

theorem clientIdentifier_inj (h : clientIdentifier t n = clientIdentifier t' m) :
    t = t' ∧ n = m := by
  obtain rfl : t = t' := by
    have := congrArg Identifier.kind h
    rw [kind_client, kind_client] at this
    cases t <;> cases t' <;> first | rfl | exact absurd this (by decide)
  exact ⟨rfl, Identifier.numbered_inj h⟩

/-- The identifier of a client tells its type. -/
theorem parseClientIdentifier_clientIdentifier (host : Host) (h : n < 2 ^ 63) :
    host.parseClientIdentifier (clientIdentifier t n) = .ok (t, (n : Int)) := by
  have hsplit : splitAtLast (clientIdentifier t n).id '-' = .ok (t.toString, toString n) := by
    refine splitAtLast_append ?_ fun hm => ?_
    · simp [clientIdentifier, Identifier.numbered]
    · have := Identifier.isDigit_toString n _ hm
      cases this
  have htype : ClientType.fromString t.toString = .ok t := by cases t <;> rfl
  simp only [parseClientIdentifier, hsplit, htype, toLong_toString h, Bind.bind, Except.bind]

theorem client_kind_ne {l : List Char} (h : (clientIdentifier t n).kind = l) :
    l ≠ ['h', 'o', 's'] ∧ l ≠ ['b', 'a', 'n'] ∧ l ≠ ['c', 'o', 'n'] ∧ l ≠ ['c', 'h', 'a'] := by
  rw [kind_client] at h
  subst h
  cases t <;> decide

end

end Host

end CordaIbc
