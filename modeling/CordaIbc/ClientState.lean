import CordaIbc.Platform

/-!
# Light clients (clients/corda/CordaClientState.kt, clients/fabric/FabricClientState.kt)

A Corda client accepts a proof whose transaction names the notary key it recorded and reveals
exactly one output of the class it looks for, with the base id it recorded (`Proves`); the seven
verify functions differ in the class and in what they compare afterwards. A Fabric client asks its
service.
-/

namespace CordaIbc

open ChannelOuterClass (Channel Packet Acknowledgement)
open StateClass

/-! ## Packet commitments (ics20/json-conversion.kt) -/

/-- `buf.putLong(n)`, big-endian. -/
def putLong (n : Long) : Bytes :=
  (List.range 8).map fun i => (n.toUInt64 >>> (8 * (7 - i)).toUInt64).toUInt8

/-- `packet.toCommitment()`. -/
def ChannelOuterClass.Packet.toCommitment (C : Crypto) (p : Packet) : Bytes :=
  C.sha256 (putLong p.timeoutTimestamp ++ putLong p.timeoutHeight.revisionNumber ++
    putLong p.timeoutHeight.revisionHeight ++ C.sha256 p.data)

theorem toNat_byte (x : UInt64) {k : Nat} (hk : k < 8) :
    (x >>> (8 * k).toUInt64).toUInt8.toNat = x.toNat / 2 ^ (8 * k) % 256 := by
  have h : (8 * k) % 2 ^ 64 % 64 = 8 * k := by omega
  rw [UInt64.toNat_toUInt8, UInt64.toNat_shiftRight]
  show x.toNat >>> ((8 * k) % 2 ^ 64 % 64) % 2 ^ 8 = _
  rw [h, Nat.shiftRight_eq_div_pow]

theorem putLong_inj {n m : Long} (h : putLong n = putLong m) : n = m := by
  have hbyte : ∀ k, k < 8 →
      n.toUInt64.toNat / 2 ^ (8 * k) % 256 = m.toUInt64.toNat / 2 ^ (8 * k) % 256 := by
    intro k hk
    have hget : (putLong n)[7 - k]? = (putLong m)[7 - k]? := by rw [h]
    have hidx : 7 - (7 - k) = k := by omega
    have hlt : 7 - k < 8 := by omega
    simp only [putLong, List.getElem?_map, List.getElem?_range hlt, Option.map_some,
      Option.some.injEq, hidx] at hget
    rw [← toNat_byte _ hk, ← toNat_byte _ hk, hget]
  -- the eight bytes are the digits of a number below 2 ^ 64
  have hnat : n.toUInt64.toNat = m.toUInt64.toNat := by
    have hlt := n.toUInt64.toNat_lt
    have hlt' := m.toUInt64.toNat_lt
    have h₀ := hbyte 0 (by omega)
    have h₁ := hbyte 1 (by omega)
    have h₂ := hbyte 2 (by omega)
    have h₃ := hbyte 3 (by omega)
    have h₄ := hbyte 4 (by omega)
    have h₅ := hbyte 5 (by omega)
    have h₆ := hbyte 6 (by omega)
    have h₇ := hbyte 7 (by omega)
    omega
  have he : n.toUInt64 = m.toUInt64 := UInt64.toNat_inj.1 hnat
  cases n
  cases m
  exact congrArg _ he

/-- Packets with one commitment have the same timeouts and data, as long as the hash has no
collision. -/
theorem eq_of_toCommitment_eq {C : Crypto} (hinj : Function.Injective C.sha256) {p q : Packet}
    (h : p.toCommitment C = q.toCommitment C) : p.data = q.data ∧
      p.timeoutHeight = q.timeoutHeight ∧ p.timeoutTimestamp = q.timeoutTimestamp := by
  have h := hinj h
  have hl : ∀ n m : Long, (putLong n).length = (putLong m).length := fun n m => by simp [putLong]
  simp only [List.append_assoc] at h
  obtain ⟨htimestamp, h₁⟩ := List.append_inj h (hl _ _)
  obtain ⟨hnumber, h₂⟩ := List.append_inj h₁ (hl _ _)
  obtain ⟨hheight, hdata⟩ := List.append_inj h₂ (hl _ _)
  refine ⟨hinj hdata, ?_, putLong_inj htimestamp⟩
  have hn := putLong_inj hnumber
  have hh := putLong_inj hheight
  cases hp : p.timeoutHeight
  cases hq : q.timeoutHeight
  simp only [hp, hq] at hn hh
  rw [hn, hh]

/-! ## Corda clients -/

namespace CordaClientState

variable (P : Platform) (s : CordaClientState)

/-- `CordaClientState(anyClientState, anyConsensusState)`. -/
def create (anyClientState anyConsensusState : Any) : Result CordaClientState := do
  P.unpackCordaConsensusState anyConsensusState
  let c ← P.unpackCordaClientState anyClientState
  require (c.txhash.length = 32)
  let counterpartyNotaryKey ← P.decodePublicKey c.notaryKey
  .ok { anyClientState, anyConsensusStates := (∅ : Finmap fun _ => Any).insert HEIGHT anyConsensusState
        counterpartyBaseId := ⟨⟨c.txhash⟩, c.index⟩, counterpartyNotaryKey }

def getLatestHeight (_ : CordaClientState) : Height := HEIGHT

def verifyHeight (height : Height) : Result Unit :=
  require (height = s.getLatestHeight) "unmatched height"

def verifyNotaryKey (proof : CommitmentProof) : Result Unit := do
  let (_, ftx) ← proof.toSignedTransaction P
  let notary ← notNull ftx.notary
  require (notary.owningKey = s.counterpartyNotaryKey) "unmatched notary key"

def extractState (T : Type) [StateClass T] (proof : CommitmentProof) : Result T := do
  let (_, ftx) ← proof.toSignedTransaction P
  single (filterIsInstance T ftx.outputs)

def verifyClientState (height : Height) (_ : MerklePrefix)
    (counterpartyClientIdentifier : Identifier) (proof : CommitmentProof) (clientState : Any) :
    Result Unit := do
  s.verifyHeight height
  s.verifyNotaryKey P proof
  let includedState ← extractState P IbcClientState proof
  require (includedState.baseId = s.counterpartyBaseId) "unmatched client base id"
  require (includedState.id = counterpartyClientIdentifier) "unmatched client id"
  require (includedState.anyClientState = clientState) "unmatched client state"

def verifyClientConsensusState (height : Height) (counterpartyClientIdentifier : Identifier)
    (consensusHeight : Height) (_ : MerklePrefix) (proof : CommitmentProof) (consensusState : Any) :
    Result Unit := do
  s.verifyHeight height
  s.verifyNotaryKey P proof
  let includedState ← extractState P IbcClientState proof
  require (includedState.baseId = s.counterpartyBaseId) "unmatched consensus base id"
  require (includedState.id = counterpartyClientIdentifier) "unmatched consensus id"
  require (includedState.anyConsensusStates.lookup consensusHeight = some consensusState)
    "unmatched consensus state"

def verifyConnectionState (height : Height) (_ : MerklePrefix) (proof : CommitmentProof)
    (connectionID : Identifier) (connectionEnd : Connection.ConnectionEnd) : Result Unit := do
  s.verifyHeight height
  s.verifyNotaryKey P proof
  let includedState ← extractState P IbcConnection proof
  require (includedState.baseId = s.counterpartyBaseId) "unmatched connection base id"
  require (includedState.id = connectionID) "unmatched connection id"
  require (includedState.end_ = connectionEnd) "unmatched connection state"

def verifyChannelState (height : Height) (_ : MerklePrefix) (proof : CommitmentProof)
    (portID channelID : Identifier) (channel : Channel) : Result Unit := do
  s.verifyHeight height
  s.verifyNotaryKey P proof
  let includedState ← extractState P IbcChannel proof
  require (includedState.baseId = s.counterpartyBaseId) "unmatched channel base id"
  require (includedState.portId = portID) "unmatched port id"
  require (includedState.id = channelID) "unmatched channel id"
  require (includedState.end_ = channel) "unmatched channel state"

def verifyPacketCommitment (height : Height) (delayTimePeriod delayBlockPeriod : Long)
    (_ : MerklePrefix) (proof : CommitmentProof) (portID channelID : Identifier) (sequence : Nat)
    (commitmentBytes : Bytes) : Result Unit := do
  s.verifyHeight height
  s.verifyNotaryKey P proof
  require (delayTimePeriod = 0)
  require (delayBlockPeriod = 0)
  let includedState ← extractState P IbcChannel proof
  require (includedState.baseId = s.counterpartyBaseId) "unmatched channel base id"
  require (includedState.portId = portID) "unmatched port id"
  require (includedState.id = channelID) "unmatched channel id"
  let includedPacket ← notNull (includedState.packets.lookup sequence)
  require (includedPacket.toCommitment P.toCrypto = commitmentBytes) "unmatched packet"

def verifyPacketAcknowledgement (height : Height) (delayTimePeriod delayBlockPeriod : Long)
    (_ : MerklePrefix) (proof : CommitmentProof) (portID channelID : Identifier) (sequence : Nat)
    (acknowledgement : Acknowledgement) : Result Unit := do
  s.verifyHeight height
  s.verifyNotaryKey P proof
  require (delayTimePeriod = 0)
  require (delayBlockPeriod = 0)
  let includedState ← extractState P IbcChannel proof
  require (includedState.baseId = s.counterpartyBaseId) "unmatched channel base id"
  require (includedState.portId = portID) "unmatched port id"
  require (includedState.id = channelID) "unmatched channel id"
  let includedAck ← notNull (includedState.acknowledgements.lookup sequence)
  require (includedAck = acknowledgement) "unmatched ack"

def verifyNextSequenceRecv (height : Height) (delayTimePeriod delayBlockPeriod : Long)
    (_ : MerklePrefix) (proof : CommitmentProof) (portID channelID : Identifier)
    (nextSequenceRecv : Nat) : Result Unit := do
  s.verifyHeight height
  s.verifyNotaryKey P proof
  require (delayTimePeriod = 0)
  require (delayBlockPeriod = 0)
  let includedState ← extractState P IbcChannel proof
  require (includedState.baseId = s.counterpartyBaseId) "unmatched channel base id"
  require (includedState.portId = portID) "unmatched port id"
  require (includedState.id = channelID) "unmatched channel id"
  require (includedState.nextSequenceRecv = nextSequenceRecv) "unmatched next sequence recv"

/-! ### What a proof shows -/

/-- The proof's transaction names the recorded notary key and reveals `t`, of the recorded base
id, as its only output of its class. -/
structure Proves {T : Type} [StateClass T] (proof : CommitmentProof) (t : T) : Prop where
  notary : s.verifyNotaryKey P proof = .ok ()
  extract : extractState P T proof = .ok t
  baseId : ∃ i, (up t : ContractState).ibc? = some i ∧ i.baseId = s.counterpartyBaseId

variable {P s} {height : Height} {pre : MerklePrefix} {proof : CommitmentProof} {u : Unit}

theorem verifyHeight_ok : s.verifyHeight height = .ok u ↔ height = HEIGHT := require_ok

theorem verifyClientState_ok {id : Identifier} {any : Any} :
    s.verifyClientState P height pre id proof any = .ok u ↔ height = HEIGHT ∧
      ∃ t : IbcClientState, s.Proves P proof t ∧ t.id = id ∧ t.anyClientState = any := by
  simp only [verifyClientState, Result.bind_ok, verifyHeight_ok, require_ok]
  constructor
  · rintro ⟨-, hh, ⟨⟩, hn, t, ht, -, hb, -, hi, ha⟩
    exact ⟨hh, t, ⟨hn, ht, _, rfl, hb⟩, hi, ha⟩
  · rintro ⟨hh, t, ⟨hn, ht, _, ⟨⟩, hb⟩, hi, ha⟩
    exact ⟨(), hh, (), hn, t, ht, (), hb, (), hi, ha⟩

theorem verifyClientConsensusState_ok {id : Identifier} {h : Height} {any : Any} :
    s.verifyClientConsensusState P height id h pre proof any = .ok u ↔ height = HEIGHT ∧
      ∃ t : IbcClientState, s.Proves P proof t ∧ t.id = id ∧
        t.anyConsensusStates.lookup h = some any := by
  simp only [verifyClientConsensusState, Result.bind_ok, verifyHeight_ok, require_ok]
  constructor
  · rintro ⟨-, hh, ⟨⟩, hn, t, ht, -, hb, -, hi, ha⟩
    exact ⟨hh, t, ⟨hn, ht, _, rfl, hb⟩, hi, ha⟩
  · rintro ⟨hh, t, ⟨hn, ht, _, ⟨⟩, hb⟩, hi, ha⟩
    exact ⟨(), hh, (), hn, t, ht, (), hb, (), hi, ha⟩

theorem verifyConnectionState_ok {id : Identifier} {e : Connection.ConnectionEnd} :
    s.verifyConnectionState P height pre proof id e = .ok u ↔ height = HEIGHT ∧
      ∃ t : IbcConnection, s.Proves P proof t ∧ t.id = id ∧ t.end_ = e := by
  simp only [verifyConnectionState, Result.bind_ok, verifyHeight_ok, require_ok]
  constructor
  · rintro ⟨-, hh, ⟨⟩, hn, t, ht, -, hb, -, hi, ha⟩
    exact ⟨hh, t, ⟨hn, ht, _, rfl, hb⟩, hi, ha⟩
  · rintro ⟨hh, t, ⟨hn, ht, _, ⟨⟩, hb⟩, hi, ha⟩
    exact ⟨(), hh, (), hn, t, ht, (), hb, (), hi, ha⟩

theorem verifyChannelState_ok {port id : Identifier} {e : Channel} :
    s.verifyChannelState P height pre proof port id e = .ok u ↔ height = HEIGHT ∧
      ∃ t : IbcChannel, s.Proves P proof t ∧ t.portId = port ∧ t.id = id ∧ t.end_ = e := by
  simp only [verifyChannelState, Result.bind_ok, verifyHeight_ok, require_ok]
  constructor
  · rintro ⟨-, hh, ⟨⟩, hn, t, ht, -, hb, -, hp, -, hi, ha⟩
    exact ⟨hh, t, ⟨hn, ht, _, rfl, hb⟩, hp, hi, ha⟩
  · rintro ⟨hh, t, ⟨hn, ht, _, ⟨⟩, hb⟩, hp, hi, ha⟩
    exact ⟨(), hh, (), hn, t, ht, (), hb, (), hp, (), hi, ha⟩

section
variable {time block : Long} {port id : Identifier} {n : Nat}

theorem verifyPacketCommitment_ok {bytes : Bytes} :
    s.verifyPacketCommitment P height time block pre proof port id n bytes = .ok u ↔
      height = HEIGHT ∧ time = 0 ∧ block = 0 ∧
      ∃ t : IbcChannel, s.Proves P proof t ∧ t.portId = port ∧ t.id = id ∧
        ∃ p, t.packets.lookup n = some p ∧ p.toCommitment P.toCrypto = bytes := by
  simp only [verifyPacketCommitment, Result.bind_ok, verifyHeight_ok, require_ok, notNull_ok]
  constructor
  · rintro ⟨-, hh, ⟨⟩, hn, -, h₁, -, h₂, t, ht, -, hb, -, hp, -, hi, ha⟩
    exact ⟨hh, h₁, h₂, t, ⟨hn, ht, _, rfl, hb⟩, hp, hi, ha⟩
  · rintro ⟨hh, h₁, h₂, t, ⟨hn, ht, _, ⟨⟩, hb⟩, hp, hi, ha⟩
    exact ⟨(), hh, (), hn, (), h₁, (), h₂, t, ht, (), hb, (), hp, (), hi, ha⟩

theorem verifyPacketAcknowledgement_ok {ack : Acknowledgement} :
    s.verifyPacketAcknowledgement P height time block pre proof port id n ack = .ok u ↔
      height = HEIGHT ∧ time = 0 ∧ block = 0 ∧
      ∃ t : IbcChannel, s.Proves P proof t ∧ t.portId = port ∧ t.id = id ∧
        t.acknowledgements.lookup n = some ack := by
  simp only [verifyPacketAcknowledgement, Result.bind_ok, verifyHeight_ok, require_ok, notNull_ok]
  constructor
  · rintro ⟨-, hh, ⟨⟩, hn, -, h₁, -, h₂, t, ht, -, hb, -, hp, -, hi, a, ha, rfl⟩
    exact ⟨hh, h₁, h₂, t, ⟨hn, ht, _, rfl, hb⟩, hp, hi, ha⟩
  · rintro ⟨hh, h₁, h₂, t, ⟨hn, ht, _, ⟨⟩, hb⟩, hp, hi, ha⟩
    exact ⟨(), hh, (), hn, (), h₁, (), h₂, t, ht, (), hb, (), hp, (), hi, _, ha, rfl⟩

theorem verifyNextSequenceRecv_ok {next : Nat} :
    s.verifyNextSequenceRecv P height time block pre proof port id next = .ok u ↔
      height = HEIGHT ∧ time = 0 ∧ block = 0 ∧
      ∃ t : IbcChannel, s.Proves P proof t ∧ t.portId = port ∧ t.id = id ∧
        t.nextSequenceRecv = next := by
  simp only [verifyNextSequenceRecv, Result.bind_ok, verifyHeight_ok, require_ok]
  constructor
  · rintro ⟨-, hh, ⟨⟩, hn, -, h₁, -, h₂, t, ht, -, hb, -, hp, -, hi, ha⟩
    exact ⟨hh, h₁, h₂, t, ⟨hn, ht, _, rfl, hb⟩, hp, hi, ha⟩
  · rintro ⟨hh, h₁, h₂, t, ⟨hn, ht, _, ⟨⟩, hb⟩, hp, hi, ha⟩
    exact ⟨(), hh, (), hn, (), h₁, (), h₂, t, ht, (), hb, (), hp, (), hi, ha⟩

end

end CordaClientState

/-! ## Fabric clients -/

namespace FabricClientState

variable (P : Platform)

/-- `FabricClientState(anyClientState, anyConsensusStates)`. -/
def of (anyClientState : Any) (anyConsensusStates : Finmap fun _ : Height => Any) :
    Result FabricClientState := do
  require (anyConsensusStates.all (fun _ any => (P.fabric.unpackConsensusState any).isOk) = true)
    "InvalidProtocolBufferException"
  P.fabric.unpackClientState anyClientState
  .ok { anyClientState, anyConsensusStates }

/-- `FabricClientState(anyClientState, anyConsensusState)`. -/
def create (anyClientState anyConsensusState : Any) : Result FabricClientState := do
  let height ← P.fabric.latestHeightOf anyClientState
  of P anyClientState ((∅ : Finmap fun _ => Any).insert height anyConsensusState)

def clientType (s : FabricClientState) : Result ClientType := do
  let t ← P.fabric.clientType s
  require (t = "fabric")
  .ok .fabricClient

/-- `consensusStates[height]!!.getTimestamp().timestamp`. -/
def timestampAt (s : FabricClientState) (height : Height) : Result Long := do
  let any ← notNull (s.anyConsensusStates.lookup height)
  P.fabric.unpackConsensusState any

/-- The client state half of `checkHeaderAndUpdateState`. -/
def checkHeaderAndUpdateState (s : FabricClientState) (header : Header) :
    Result FabricClientState := do
  let (anyClientState, anyConsensusStates) ← P.fabric.checkHeaderAndUpdateState s header
  let newClientState ← of P anyClientState anyConsensusStates
  let latestHeight ← P.fabric.getLatestHeight newClientState
  let _ ← notNull (newClientState.anyConsensusStates.lookup latestHeight)
  .ok newClientState

end FabricClientState

/-! ## ics2.ClientState -/

namespace ClientStateFactory

/-- `factory.createClientState(anyClientState, anyConsensusState)`. -/
def createClientState (P : Platform) (anyClientState anyConsensusState : Any) :
    ClientStateFactory → Result ClientState
  | corda => .corda <$> CordaClientState.create P anyClientState anyConsensusState
  | fabric => .fabric <$> FabricClientState.create P anyClientState anyConsensusState

end ClientStateFactory

/-- `host.createClientState(anyClientState, anyConsensusState)`. -/
def Host.createClientState (P : Platform) (host : Host) (anyClientState anyConsensusState : Any) :
    Result ClientState := do
  let typeName := substringAfterLast anyClientState.typeUrl '/'
  let factory ← notNull (host.clientStateFactories.lookup typeName)
  factory.createClientState P anyClientState anyConsensusState

namespace ClientState

variable (P : Platform)

def clientType : ClientState → Result ClientType
  | corda _ => .ok .cordaClient
  | fabric s => s.clientType P

def getLatestHeight : ClientState → Result Height
  | corda s => .ok s.getLatestHeight
  | fabric s => P.fabric.getLatestHeight s

/-- `consensusStates[height]!!.getTimestamp().timestamp`. -/
def timestampAt : ClientState → Height → Result Long
  | corda s, height => do
    let _ ← notNull (s.anyConsensusStates.lookup height)
    .error .notImplemented
  | fabric s, height => s.timestampAt P height

def checkHeaderAndUpdateState : ClientState → Header → Result ClientState
  | corda _, _ => .error .notImplemented
  | fabric s, header => .fabric <$> s.checkHeaderAndUpdateState P header

def checkMisbehaviourAndUpdateState : ClientState → Misbehaviour → Result ClientState
  | corda _, _ => .error .notImplemented
  | fabric _, _ => .error .notImplemented

def verifyClientState : ClientState → Height → MerklePrefix → Identifier → CommitmentProof → Any →
    Result Unit
  | corda s => s.verifyClientState P
  | fabric s => P.fabric.verifyClientState s

def verifyClientConsensusState : ClientState → Height → Identifier → Height → MerklePrefix →
    CommitmentProof → Any → Result Unit
  | corda s => s.verifyClientConsensusState P
  | fabric s => P.fabric.verifyClientConsensusState s

def verifyConnectionState : ClientState → Height → MerklePrefix → CommitmentProof → Identifier →
    Connection.ConnectionEnd → Result Unit
  | corda s => s.verifyConnectionState P
  | fabric s => P.fabric.verifyConnectionState s

def verifyChannelState : ClientState → Height → MerklePrefix → CommitmentProof → Identifier →
    Identifier → Channel → Result Unit
  | corda s => s.verifyChannelState P
  | fabric s => P.fabric.verifyChannelState s

def verifyPacketCommitment : ClientState → Height → Long → Long → MerklePrefix → CommitmentProof →
    Identifier → Identifier → Nat → Bytes → Result Unit
  | corda s => s.verifyPacketCommitment P
  | fabric s => P.fabric.verifyPacketCommitment s

def verifyPacketAcknowledgement : ClientState → Height → Long → Long → MerklePrefix →
    CommitmentProof → Identifier → Identifier → Nat → Acknowledgement → Result Unit
  | corda s => s.verifyPacketAcknowledgement P
  | fabric s => P.fabric.verifyPacketAcknowledgement s

end ClientState

end CordaIbc
