import CordaIbc.Queries
import CordaIbc.Sample

/-!
# What a Corda client accepts

A Corda client never looks at the signatures of a proof. It compares the notary that the transaction in
the proof names with the key that it recorded, and takes the one client, connection or channel that the
transaction reveals. So what an accepted proof is worth is decided where the proof is made: acceptance
implies the signature of the recorded notary exactly for the proofs of transactions that the notary
they name signed (`accepts_signed_iff`), and a node makes proofs of no others.
-/

namespace CordaIbc

open ChannelOuterClass (Channel Packet Acknowledgement)
open StateClass

/-! ## Proofs of transactions -/

/-- The outputs reveal one client, one connection or one channel. -/
def Reveals (outputs : List ContractState) : Prop :=
  (∃ t, filterIsInstance IbcClientState outputs = [t]) ∨
    (∃ t, filterIsInstance IbcConnection outputs = [t]) ∨
    ∃ t, filterIsInstance IbcChannel outputs = [t]

/-- A transaction that reveals a state is signed by the notary that it names. -/
def CommitmentProof.Notarised (P : Platform) (proof : CommitmentProof) : Prop :=
  ∀ stx ftx notary, proof.toSignedTransaction P = .ok (stx, ftx) → ftx.notary = some notary →
    Reveals ftx.outputs → ∃ sig ∈ stx.sigs, sig.Covers P notary.owningKey ftx.id

/-- A proof keeps the states of the contract. -/
theorem filterIsInstance_filter_ibc {T : Type} [StateClass T] (hT : isIbc T = true)
    (outs : List ContractState) :
    filterIsInstance T (outs.filter fun s => s.ibc?.isSome) = filterIsInstance T outs := by
  unfold filterIsInstance
  rw [List.filterMap_filter]
  refine List.filterMap_congr fun s _ => ?_
  split
  · rfl
  · rename_i hs
    cases hcast : (cast? s : Option T) with
    | none => rfl
    | some t =>
      rw [cast?_eq.1 hcast, isIbc_eq, hT] at hs
      exact absurd rfl hs

theorem reveals_filter_ibc (outs : List ContractState) :
    Reveals (outs.filter fun s => s.ibc?.isSome) ↔ Reveals outs := by
  simp only [Reveals, filterIsInstance_filter_ibc (T := IbcClientState) rfl,
    filterIsInstance_filter_ibc (T := IbcConnection) rfl,
    filterIsInstance_filter_ibc (T := IbcChannel) rfl]

namespace VerifiedTransaction

/-- The notary of the transaction signed it. -/
def Notarised (P : Platform) (stx : VerifiedTransaction) : Prop :=
  ∃ sig ∈ stx.sigs, sig.Covers P stx.tx.notary.owningKey stx.tx.id

section
variable {P : Platform} {K : ProofCodec} {stx : VerifiedTransaction} {proof : CommitmentProof}

/-- A proof reads as what it was made of. -/
theorem read_of_toProof (hK : K.Carries P stx) (h : stx.toProof P K = .ok proof) :
    proof.toSignedTransaction P = .ok (stx.filtered K, stx.buildFilteredTransaction K) := by
  simp only [toProof, Result.bind_ok] at h
  obtain ⟨_, _, _, _, h⟩ := h
  refine (CommitmentProof.toSignedTransaction_ok P).2 ⟨?_, rfl, hK.verify⟩
  rw [CommitmentProof.of_ok.1 h]
  exact hK.deserialize

/-- A transaction with all its signatures can be proved. -/
theorem exists_proof (hK : K.Carries P stx) (hsigned : stx.verifyRequiredSignatures P = .ok ()) :
    ∃ proof, stx.toProof P K = .ok proof := by
  simp only [verifyRequiredSignatures, Result.bind_ok] at hsigned
  obtain ⟨_, hcovers, -⟩ := hsigned
  have hcovers := require_ok.1 hcovers
  have hincludes : ∀ sig ∈ stx.sigs, sig.Includes P stx.tx.id := by
    intro sig hsig tree htree
    obtain ⟨-, h⟩ := hcovers sig hsig
    rw [Option.mem_def.1 htree] at h
    exact h.1
  obtain ⟨proof, hproof⟩ : ∃ proof : CommitmentProof, proof.bytes = K.serialize (stx.filtered K) :=
    ⟨⟨_, hK.nonempty⟩, rfl⟩
  refine ⟨proof, ?_⟩
  simp only [toProof, Result.bind_ok]
  exact ⟨(), hK.verify, (), require_ok.2 hincludes, CommitmentProof.of_ok.2 hproof⟩

/-- A transaction with all its signatures is notarised, if it consumes or references a state. -/
theorem notarised_of_signed (h : stx.verifyRequiredSignatures P = .ok ())
    (hstates : stx.tx.inputs ≠ [] ∨ stx.tx.references ≠ []) : stx.Notarised P := by
  simp only [verifyRequiredSignatures, Result.bind_ok, require_ok] at h
  obtain ⟨_, hcovers, hkeys⟩ := h
  have hmem : stx.tx.notary.owningKey ∈ stx.requiredSigningKeys := by
    rw [requiredSigningKeys, if_pos hstates]
    exact List.mem_append_right _ (List.mem_singleton_self _)
  obtain ⟨sig, hsig, hby⟩ := List.mem_map.1 (hkeys _ hmem)
  exact ⟨sig, hsig, hby ▸ hcovers sig hsig⟩

/-- The proof of a transaction is as good as the transaction. -/
theorem notarised_toProof (hK : K.Carries P stx) (h : stx.toProof P K = .ok proof) :
    proof.Notarised P ↔ (Reveals stx.tx.outputs → stx.Notarised P) := by
  have hread := read_of_toProof hK h
  constructor
  · intro hn hreveals
    exact hn _ _ stx.tx.notary hread rfl ((reveals_filter_ibc _).2 hreveals)
  · intro hn stx' ftx notary hread' hnotary hreveals
    rw [hread] at hread'
    cases hread'
    cases hnotary
    exact hn ((reveals_filter_ibc _).1 hreveals)

end

end VerifiedTransaction

/-! ## Acceptance -/

namespace CordaClientState

/-- A call of one of the seven verify functions, without the proof. -/
inductive Query where
  | clientState (height : Height) (pre : MerklePrefix) (id : Identifier) (clientState : Any)
  | clientConsensusState (height : Height) (id : Identifier) (consensusHeight : Height)
    (pre : MerklePrefix) (consensusState : Any)
  | connectionState (height : Height) (pre : MerklePrefix) (id : Identifier)
    (connectionEnd : Connection.ConnectionEnd)
  | channelState (height : Height) (pre : MerklePrefix) (portID channelID : Identifier)
    (channel : Channel)
  | packetCommitment (height : Height) (delayTimePeriod delayBlockPeriod : Long)
    (pre : MerklePrefix) (portID channelID : Identifier) (sequence : Nat) (commitmentBytes : Bytes)
  | packetAcknowledgement (height : Height) (delayTimePeriod delayBlockPeriod : Long)
    (pre : MerklePrefix) (portID channelID : Identifier) (sequence : Nat)
    (acknowledgement : Acknowledgement)
  | nextSequenceRecv (height : Height) (delayTimePeriod delayBlockPeriod : Long)
    (pre : MerklePrefix) (portID channelID : Identifier) (nextSequenceRecv : Nat)

/-- The call on a proof. -/
def Query.verify (P : Platform) (s : CordaClientState) (proof : CommitmentProof) :
    Query → Result Unit
  | clientState h pre id any => s.verifyClientState P h pre id proof any
  | clientConsensusState h id ch pre any => s.verifyClientConsensusState P h id ch pre proof any
  | connectionState h pre id e => s.verifyConnectionState P h pre proof id e
  | channelState h pre port id e => s.verifyChannelState P h pre proof port id e
  | packetCommitment h time block pre port id n bytes =>
    s.verifyPacketCommitment P h time block pre proof port id n bytes
  | packetAcknowledgement h time block pre port id n ack =>
    s.verifyPacketAcknowledgement P h time block pre proof port id n ack
  | nextSequenceRecv h time block pre port id n =>
    s.verifyNextSequenceRecv P h time block pre proof port id n

/-- The transaction in the proof carries a valid signature by the recorded notary key, over its id
or over a Merkle root that contains it. -/
def Signed (P : Platform) (s : CordaClientState) (proof : CommitmentProof) : Prop :=
  ∃ stx ftx, proof.toSignedTransaction P = .ok (stx, ftx) ∧
    ∃ sig ∈ stx.sigs, sig.Covers P s.counterpartyNotaryKey ftx.id

section
variable {P : Platform} {s : CordaClientState} {proof : CommitmentProof}

theorem proves_iff {T : Type} [StateClass T] {t : T} : s.Proves P proof t ↔
    ∃ stx ftx, proof.toSignedTransaction P = .ok (stx, ftx) ∧
      (∃ notary, ftx.notary = some notary ∧ notary.owningKey = s.counterpartyNotaryKey) ∧
      filterIsInstance T ftx.outputs = [t] ∧
      ∃ i, (up t : ContractState).ibc? = some i ∧ i.baseId = s.counterpartyBaseId := by
  constructor
  · rintro ⟨hn, he, hb⟩
    simp only [verifyNotaryKey, extractState, Result.bind_ok, notNull_ok, require_ok,
      single_ok] at hn he
    obtain ⟨⟨stx, ftx⟩, ht, notary, hnotary, hkey⟩ := hn
    obtain ⟨⟨stx', ftx'⟩, ht', hout⟩ := he
    rw [ht] at ht'
    cases ht'
    exact ⟨stx, ftx, ht, ⟨notary, hnotary, hkey⟩, hout, hb⟩
  · rintro ⟨stx, ftx, ht, ⟨notary, hnotary, hkey⟩, hout, hb⟩
    refine ⟨?_, ?_, hb⟩
    · simp only [verifyNotaryKey, Result.bind_ok, notNull_ok, require_ok]
      exact ⟨_, ht, notary, hnotary, hkey⟩
    · simp only [extractState, Result.bind_ok, single_ok]
      exact ⟨_, ht, hout⟩

/-- What proves a state is of a transaction that names the recorded notary key and reveals the state. -/
theorem Proves.reveals {T : Type} [StateClass T] {t : T} (h : s.Proves P proof t)
    (hr : ∀ outputs, filterIsInstance T outputs = [t] → Reveals outputs) :
    ∃ stx ftx notary, proof.toSignedTransaction P = .ok (stx, ftx) ∧ ftx.notary = some notary ∧
      notary.owningKey = s.counterpartyNotaryKey ∧ Reveals ftx.outputs := by
  obtain ⟨stx, ftx, hs, ⟨notary, hn, hkey⟩, ho, -⟩ := proves_iff.1 h
  exact ⟨stx, ftx, notary, hs, hn, hkey, hr _ ho⟩

theorem Query.reveals {q : Query} (h : q.verify P s proof = .ok ()) :
    ∃ stx ftx notary, proof.toSignedTransaction P = .ok (stx, ftx) ∧ ftx.notary = some notary ∧
      notary.owningKey = s.counterpartyNotaryKey ∧ Reveals ftx.outputs := by
  cases q with
  | clientState =>
    rw [verify, verifyClientState_ok] at h
    obtain ⟨-, t, ht, -⟩ := h
    exact ht.reveals fun _ ho => .inl ⟨t, ho⟩
  | clientConsensusState =>
    rw [verify, verifyClientConsensusState_ok] at h
    obtain ⟨-, t, ht, -⟩ := h
    exact ht.reveals fun _ ho => .inl ⟨t, ho⟩
  | connectionState =>
    rw [verify, verifyConnectionState_ok] at h
    obtain ⟨-, t, ht, -⟩ := h
    exact ht.reveals fun _ ho => .inr (.inl ⟨t, ho⟩)
  | channelState =>
    rw [verify, verifyChannelState_ok] at h
    obtain ⟨-, t, ht, -⟩ := h
    exact ht.reveals fun _ ho => .inr (.inr ⟨t, ho⟩)
  | packetCommitment =>
    rw [verify, verifyPacketCommitment_ok] at h
    obtain ⟨-, -, -, t, ht, -⟩ := h
    exact ht.reveals fun _ ho => .inr (.inr ⟨t, ho⟩)
  | packetAcknowledgement =>
    rw [verify, verifyPacketAcknowledgement_ok] at h
    obtain ⟨-, -, -, t, ht, -⟩ := h
    exact ht.reveals fun _ ho => .inr (.inr ⟨t, ho⟩)
  | nextSequenceRecv =>
    rw [verify, verifyNextSequenceRecv_ok] at h
    obtain ⟨-, -, -, t, ht, -⟩ := h
    exact ht.reveals fun _ ho => .inr (.inr ⟨t, ho⟩)

/-- The client that recorded a base id and a notary key. -/
def recording (baseId : StateRef) (key : PublicKey) : CordaClientState :=
  { anyClientState := ⟨"", []⟩, anyConsensusStates := ∅, counterpartyBaseId := baseId
    counterpartyNotaryKey := key }

/-- What is revealed is accepted by some client, for the arguments it was made of. -/
theorem exists_query {stx : SignedTransaction} {ftx : FilteredTransaction} {notary : Party}
    (hs : proof.toSignedTransaction P = .ok (stx, ftx)) (hn : ftx.notary = some notary)
    (h : Reveals ftx.outputs) : ∃ (s : CordaClientState) (q : Query),
      s.counterpartyNotaryKey = notary.owningKey ∧ q.verify P s proof = .ok () := by
  rcases h with ⟨t, ho⟩ | ⟨t, ho⟩ | ⟨t, ho⟩
  · refine ⟨recording t.baseId notary.owningKey,
      .clientState HEIGHT PREFIX t.id t.anyClientState, rfl, ?_⟩
    rw [Query.verify, verifyClientState_ok]
    exact ⟨rfl, t, proves_iff.2 ⟨stx, ftx, hs, ⟨notary, hn, rfl⟩, ho, _, rfl, rfl⟩, rfl, rfl⟩
  · refine ⟨recording t.baseId notary.owningKey, .connectionState HEIGHT PREFIX t.id t.end_, rfl, ?_⟩
    rw [Query.verify, verifyConnectionState_ok]
    exact ⟨rfl, t, proves_iff.2 ⟨stx, ftx, hs, ⟨notary, hn, rfl⟩, ho, _, rfl, rfl⟩, rfl, rfl⟩
  · refine ⟨recording t.baseId notary.owningKey,
      .channelState HEIGHT PREFIX t.portId t.id t.end_, rfl, ?_⟩
    rw [Query.verify, verifyChannelState_ok]
    exact ⟨rfl, t, proves_iff.2 ⟨stx, ftx, hs, ⟨notary, hn, rfl⟩, ho, _, rfl, rfl⟩, rfl, rfl, rfl⟩

end

/-- No client accepts the proof without the signature of the notary that it recorded. -/
def Sound (P : Platform) (proof : CommitmentProof) : Prop :=
  ∀ (s : CordaClientState) (q : Query), q.verify P s proof = .ok () → s.Signed P proof

theorem sound_iff_notarised {P : Platform} {proof : CommitmentProof} :
    Sound P proof ↔ proof.Notarised P := by
  constructor
  · intro h stx ftx notary hs hn hreveals
    obtain ⟨s, q, hkey, hq⟩ := exists_query hs hn hreveals
    obtain ⟨stx', ftx', hs', hsigned⟩ := h s q hq
    rw [hs] at hs'
    cases hs'
    rwa [hkey] at hsigned
  · intro h s q hq
    obtain ⟨stx, ftx, notary, hs, hn, hkey, hreveals⟩ := Query.reveals hq
    exact ⟨stx, ftx, hs, hkey ▸ h stx ftx notary hs hn hreveals⟩

/-- A proof is sound exactly when the transaction in it, if it reveals a state, is signed by the notary
that it names: a proof that was made of a transaction, exactly when the notary signed the transaction or
it reveals nothing. Of a transaction with all its signatures, which consumes or references a state, there
is a sound proof. -/
theorem accepts_signed_iff (P : Platform) :
    (∀ proof, Sound P proof ↔ proof.Notarised P) ∧
    ∀ (K : ProofCodec) (stx : VerifiedTransaction), K.Carries P stx →
      (∀ proof, stx.toProof P K = .ok proof →
        (Sound P proof ↔ (Reveals stx.tx.outputs → stx.Notarised P))) ∧
      (stx.verifyRequiredSignatures P = .ok () → stx.tx.inputs ≠ [] ∨ stx.tx.references ≠ [] →
        ∃ proof, stx.toProof P K = .ok proof ∧ Sound P proof) := by
  refine ⟨fun proof => sound_iff_notarised, fun K stx hK =>
    ⟨fun proof h => sound_iff_notarised.trans (stx.notarised_toProof hK h), fun hsigned hstates => ?_⟩⟩
  obtain ⟨proof, h⟩ := stx.exists_proof hK hsigned
  refine ⟨proof, h, sound_iff_notarised.2 ((stx.notarised_toProof hK h).2 fun _ => ?_)⟩
  exact stx.notarised_of_signed hsigned hstates

/-! ### A forged proof -/

namespace Forged
open Sample

/-- A transaction that names the notary of the second chain and puts out a connection of it, with a
valid signature by the notary of the `n`-th chain. -/
def made (n : UInt8) : VerifiedTransaction where
  tx :=
    { id := ⟨[2]⟩, notary := notary 2, inputs := [], references := []
      outputs := [.connection peerConnection], commands := [] }
  sigs := [⟨[n, 2], (notary n).owningKey, [], none⟩]
  sigs_nonempty := nofun

def K : ProofCodec where
  serialize _ := [0]
  componentGroups tx := tx.id.bytes

def P (n : UInt8) : Platform := platform [(made n).filtered K] []

def client : CordaClientState :=
  { anyClientState := clientState 2, anyConsensusStates := ∅, counterpartyBaseId := base 2
    counterpartyNotaryKey := (notary 2).owningKey }

def proof : CommitmentProof := ⟨[0], nofun⟩

theorem carries (n : UInt8) : K.Carries (P n) (made n) :=
  ⟨rfl, List.cons_ne_nil _ _, rfl⟩

/-- Signed by its notary the transaction has a sound proof, signed by another it has one that is not. -/
theorem accepts_signed_iff_made :
    (made 2).toProof (P 2) K = .ok proof ∧ Sound (P 2) proof ∧
      (made 3).toProof (P 3) K = .ok proof ∧ ¬ Sound (P 3) proof := by
  refine ⟨by decide, ?_, by decide, ?_⟩
  · refine ((accepts_signed_iff (P 2)).2 K _ (carries 2)).1 _ (by decide) |>.2 fun _ => ?_
    exact ⟨_, List.mem_singleton_self _, by decide⟩
  · intro h
    obtain ⟨sig, hsig, hc⟩ := (((accepts_signed_iff (P 3)).2 K _ (carries 3)).1 _ (by decide)).1 h
      (.inr (.inl ⟨peerConnection, rfl⟩))
    rw [List.mem_singleton.1 hsig] at hc
    exact absurd hc (by decide)

end Forged

open Forged in
/-- A connection the notary never signed is accepted. -/
theorem unsigned_accepted :
    (made 3).toProof (P 3) K = .ok proof ∧
    CordaClientState.create (P 3) (Sample.clientState 2) Host.defaultConsensusState =
      .ok { client with anyConsensusStates :=
        (∅ : Finmap fun _ => Any).insert HEIGHT Host.defaultConsensusState } ∧
    (Query.connectionState HEIGHT PREFIX Sample.peerConnection.id Sample.peerConnection.end_).verify
      (P 3) client proof = .ok () ∧ ¬ client.Signed (P 3) proof := by
  refine ⟨by decide, by decide, by decide, ?_⟩
  rintro ⟨stx', ftx, ht, sig, hsig, hc⟩
  obtain ⟨hd, hcore, -⟩ := (CommitmentProof.toSignedTransaction_ok (P 3)).1 ht
  cases hd
  cases hcore
  rw [List.mem_singleton.1 hsig] at hc
  exact absurd hc (by decide)

end CordaClientState

end CordaIbc
