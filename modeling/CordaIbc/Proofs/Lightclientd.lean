import CordaIbc.Lightclientd
import CordaIbc.Sample

/-!
# Go and Kotlin light clients

The requests that the Go client makes about packets carry every argument but the two delay periods.
The Kotlin client wants both to be zero, so the two agree on zero, and where the Kotlin client would
accept with no other delay either (`Go.ClientState.agrees_iff`).
-/

namespace CordaIbc

open ChannelOuterClass (Packet Acknowledgement)
open Context StateClass

/-- What a light client is asked about the packets of a channel. -/
inductive PacketFact
  | commitment (sequence : Nat) (commitmentBytes : Bytes)
  | acknowledgement (sequence : Nat) (acknowledgement : Bytes)
  | nextSequenceRecv (nextSequenceRecv : Nat)

namespace PacketFact

/-- The channel has the packet, the acknowledgement or the counter. -/
def HoldsOf (P : Platform) (t : IbcChannel) : PacketFact → Prop
  | commitment n bytes => ∃ p, t.packets.lookup n = some p ∧ p.toCommitment P.toCrypto = bytes
  | acknowledgement n bytes =>
    ∃ ack, P.toAcknowledgement bytes = .ok ack ∧ t.acknowledgements.lookup n = some ack
  | nextSequenceRecv n => t.nextSequenceRecv = n

/-- The method of the Kotlin client. -/
def verify (P : Platform) (s : CordaClientState) (height : Height) (delayTimePeriod : Long)
    (delayBlockPeriod : Long) (pre : MerklePrefix) (proof : CommitmentProof)
    (portID channelID : Identifier) : PacketFact → Result Unit
  | commitment n bytes =>
    s.verifyPacketCommitment P height delayTimePeriod delayBlockPeriod pre proof portID channelID n
      bytes
  | acknowledgement n bytes => do
    s.verifyPacketAcknowledgement P height delayTimePeriod delayBlockPeriod pre proof portID channelID
      n (← P.toAcknowledgement bytes)
  | nextSequenceRecv n =>
    s.verifyNextSequenceRecv P height delayTimePeriod delayBlockPeriod pre proof portID channelID n

theorem verify_ok {P : Platform} {s : CordaClientState} {height : Height} {time block : Long}
    {pre : MerklePrefix} {proof : CommitmentProof} {port channel : Identifier} {fact : PacketFact} :
    fact.verify P s height time block pre proof port channel = .ok () ↔
      height = HEIGHT ∧ time = 0 ∧ block = 0 ∧ ∃ t : IbcChannel, s.Proves P proof t ∧
        t.portId = port ∧ t.id = channel ∧ fact.HoldsOf P t := by
  cases fact with
  | commitment n bytes =>
    unfold verify HoldsOf
    exact CordaClientState.verifyPacketCommitment_ok
  | nextSequenceRecv n =>
    unfold verify HoldsOf
    exact CordaClientState.verifyNextSequenceRecv_ok
  | acknowledgement n bytes =>
    unfold verify HoldsOf
    simp only [Result.bind_ok, CordaClientState.verifyPacketAcknowledgement_ok]
    constructor
    · rintro ⟨ack, hack, hh, ht, hb, t, hproves, hport, hid, hl⟩
      exact ⟨hh, ht, hb, t, hproves, hport, hid, ack, hack, hl⟩
    · rintro ⟨hh, ht, hb, t, hproves, hport, hid, ack, hack, hl⟩
      exact ⟨ack, hack, hh, ht, hb, t, hproves, hport, hid, hl⟩

end PacketFact

namespace Go

/-- The Kotlin client state of the Go one accepts the arguments, which are its own under the same
names. -/
def KotlinAccepts (P : Platform) (cs : ClientState) (args : Arguments) (fact : PacketFact) : Prop :=
  ∃ consensusState s proof portID channelID, cs.store.lookup cordaHeight = some consensusState ∧
    CordaClientState.create P cs.any consensusState = .ok s ∧
    CommitmentProof.of args.proof = .ok proof ∧ Identifier.of args.portID = .ok portID ∧
    Identifier.of args.channelID = .ok channelID ∧
    fact.verify P s args.height args.delayTimePeriod.toInt64 args.delayBlockPeriod.toInt64 args.prefix_
      proof portID channelID = .ok ()

/-- The proof shows the fact of the channel that the arguments name. -/
def Shows (P : Platform) (cs : ClientState) (args : Arguments) (fact : PacketFact) : Prop :=
  args.height = HEIGHT ∧ ∃ (consensusState : Any) (s : CordaClientState) (proof : CommitmentProof)
    (t : IbcChannel), cs.store.lookup cordaHeight = some consensusState ∧
      CordaClientState.create P cs.any consensusState = .ok s ∧
      CommitmentProof.of args.proof = .ok proof ∧ s.Proves P proof t ∧ t.portId.id = args.portID ∧
      t.id.id = args.channelID ∧ fact.HoldsOf P t

namespace ClientState

/-- The Go method of a fact. -/
def verify (P : Platform) (cs : ClientState) (args : Arguments) : PacketFact → Result Unit
  | .commitment n bytes => cs.verifyPacketCommitment P args n bytes
  | .acknowledgement n bytes => cs.verifyPacketAcknowledgement P args n bytes
  | .nextSequenceRecv n => cs.verifyNextSequenceRecv P args n

variable {P : Platform} {cs : ClientState} {args : Arguments} {fact : PacketFact}

theorem kotlinAccepts_iff : KotlinAccepts P cs args fact ↔
    args.delayTimePeriod = 0 ∧ args.delayBlockPeriod = 0 ∧ Shows P cs args fact := by
  have hzero : ∀ n : UInt64, n.toInt64 = 0 ↔ n = 0 := by
    intro n
    constructor
    · intro h
      have hn := congrArg Int64.toUInt64 h
      rwa [UInt64.toUInt64_toInt64] at hn
    · rintro rfl
      rfl
  constructor
  · rintro ⟨any, s, proof, port, channel, hstore, hs, hproof, hport, hchannel, hverify⟩
    obtain ⟨hh, htime, hblock, t, hproves, rfl, rfl, hfact⟩ := PacketFact.verify_ok.1 hverify
    exact ⟨(hzero _).1 htime, (hzero _).1 hblock, hh, any, s, proof, t, hstore, hs, hproof, hproves,
      Identifier.of_ok.1 hport, Identifier.of_ok.1 hchannel, hfact⟩
  · rintro ⟨htime, hblock, hh, any, s, proof, t, hstore, hs, hproof, hproves, hport, hchannel, hfact⟩
    exact ⟨any, s, proof, t.portId, t.id, hstore, hs, hproof, Identifier.of_ok.2 hport,
      Identifier.of_ok.2 hchannel, PacketFact.verify_ok.2
        ⟨hh, (hzero _).2 htime, (hzero _).2 hblock, t, hproves, rfl, rfl, hfact⟩⟩

/-- The Go client asks the Kotlin client about the same arguments without delay periods. -/
theorem verify_ok : cs.verify P args fact = .ok () ↔
    KotlinAccepts P cs { args with delayTimePeriod := 0, delayBlockPeriod := 0 } fact := by
  cases fact <;>
    simp only [verify, verifyPacketCommitment, verifyPacketAcknowledgement, verifyNextSequenceRecv,
      makeState, LightClient.verifyPacketCommitment, LightClient.verifyPacketAcknowledgement,
      LightClient.verifyNextSequenceRecv, LightClient.withClientState, KotlinAccepts,
      PacketFact.verify, Result.bind_ok, orThrow_ok, Except.ok.injEq]
  all_goals
    constructor
    · rintro ⟨_, ⟨any, hstore, rfl⟩, s, hs, proof, hproof, port, hport, channel, hchannel, hverify⟩
      exact ⟨any, s, proof, port, channel, hstore, hs, hproof, hport, hchannel, hverify⟩
    · rintro ⟨any, s, proof, port, channel, hstore, hs, hproof, hport, hchannel, hverify⟩
      exact ⟨_, ⟨any, hstore, rfl⟩, s, hs, proof, hproof, port, hport, channel, hchannel, hverify⟩

/-- The Go and the Kotlin light client agree exactly where both delay periods are zero, or the proof
does not show what is asked. -/
theorem agrees_iff (P : Platform) (cs : ClientState) (args : Arguments) (fact : PacketFact) :
    (cs.verify P args fact = .ok () ↔ KotlinAccepts P cs args fact) ↔
      (args.delayTimePeriod = 0 ∧ args.delayBlockPeriod = 0) ∨ ¬ Shows P cs args fact := by
  have hgo : cs.verify P args fact = .ok () ↔ Shows P cs args fact := by
    rw [verify_ok, kotlinAccepts_iff]
    exact ⟨fun h => h.2.2, fun h => ⟨rfl, rfl, h⟩⟩
  rw [hgo, kotlinAccepts_iff]
  constructor
  · intro h
    by_cases hshows : Shows P cs args fact
    · obtain ⟨htime, hblock, -⟩ := h.1 hshows
      exact .inl ⟨htime, hblock⟩
    · exact .inr hshows
  · rintro (⟨htime, hblock⟩ | hnot)
    · exact ⟨fun h => ⟨htime, hblock, h⟩, fun h => h.2.2⟩
    · exact ⟨fun h => absurd h hnot, fun h => absurd h.2.2 hnot⟩

/-! ### A delay period -/

section
open Sample

/-- The client of the second chain, in a store. -/
def sampleClient : ClientState :=
  ⟨clientState 2, (∅ : Finmap fun _ => Any).insert HEIGHT Host.defaultConsensusState⟩

/-- The counter of the second chain's channel, after a delay. -/
def delayed (delayTimePeriod : UInt64) : Arguments :=
  { height := HEIGHT, delayTimePeriod, delayBlockPeriod := 0, prefix_ := PREFIX, proof := [0]
    portID := "transfer", channelID := "channel-0" }

/-- The Go client takes a proof with a delay period that the Kotlin client refuses. -/
theorem delay_dropped : ∃ (P : Platform) (cs : ClientState) (args : Arguments) (fact : PacketFact),
    cs.verify P args fact = .ok () ∧ ¬ KotlinAccepts P cs args fact := by
  refine ⟨platform [handshake] [], sampleClient, delayed 1, .nextSequenceRecv 1, by decide +kernel, ?_⟩
  rw [kotlinAccepts_iff]
  rintro ⟨hdelay, -⟩
  exact absurd hdelay (by decide)

end

end ClientState

end Go

end CordaIbc
