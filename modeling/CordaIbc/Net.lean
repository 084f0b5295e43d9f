import CordaIbc.Lib.Handshake
import CordaIbc.Proofs.ChainStep

/-!
# Hosts that prove states to each other

A net is a chain for each of some hosts. A step is a transaction that one of them takes. The hosts
share no state: all that one learns of another is what its light clients accept, and what a Corda
client accepts is a state that the host it tracks put out at some time (`Net.Sound`), maybe
consumed since.
-/

namespace CordaIbc

open ChannelOuterClass (Channel Packet Acknowledgement)
open StateClass ContractState

/-- The proofs a datagram brings. -/
def DatagramHandler.proofs : DatagramHandler → List Bytes
  | handleConnOpenTry msg => [msg.proofInit, msg.proofClient, msg.proofConsensus]
  | handleConnOpenAck msg => [msg.proofTry, msg.proofClient, msg.proofConsensus]
  | handleConnOpenConfirm msg => [msg.proofAck]
  | handleChanOpenTry msg => [msg.proofInit]
  | handleChanOpenAck msg => [msg.proofTry]
  | handleChanOpenConfirm msg => [msg.proofAck]
  | handleChanCloseConfirm msg => [msg.proofInit]
  | handlePacketRecv msg => [msg.proofCommitment]
  | handlePacketAcknowledgement msg => [msg.proofAcked]
  | _ => []

/-- The counterparty of an end is another end. -/
structure IbcChannel.Names (a b : IbcChannel) : Prop where
  port : a.end_.counterparty.portId = b.portId.id
  channel : a.end_.counterparty.channelId = b.id.id

abbrev Net (ι : Type) := ι → Chain

namespace Net

section
variable {ι : Type}

def Start (n : Net ι) : Prop := ∀ i, (n i).Start

/-- What a Corda client of the transaction accepts was put out before by the host it tracks. -/
def Sound (P : Platform) (n : Net ι) (tx : LedgerTransaction) : Prop :=
  ∀ handler signers, tx.datagramHandlerCommands = [(handler, signers)] →
    ∀ client cs, ContractState.client client ∈ tx.referenceStates → client.impl = .corda cs →
      ∀ proof : CommitmentProof, proof.bytes ∈ handler.proofs →
        ∀ (T : Type) [StateClass T] (t : T), cs.Proves P proof t →
          ∀ i, (n i).baseId = cs.counterpartyBaseId → up t ∈ (n i).history

/-- One host takes a transaction with distinct outputs. -/
structure Step (P : Platform) (ok : Net ι → ι → LedgerTransaction → Prop) (n : Net ι)
    (a : ι × LedgerTransaction) (n' : Net ι) : Prop where
  ok : ok n a.1 a.2
  sound : Sound P n a.2
  distinct : a.2.DistinctOutputs
  commit : (n a.1).commit P a.2 = .ok (n' a.1)
  other : ∀ i, i ≠ a.1 → n' i = n i

/-- The transactions of one host. -/
def own [DecidableEq ι] (i : ι) (tr : List (ι × LedgerTransaction)) : List LedgerTransaction :=
  tr.filterMap fun a => if a.1 = i then some a.2 else none

/-! ### One host of a net -/

variable {P : Platform} {ok : Net ι → ι → LedgerTransaction → Prop} {n₀ n n' : Net ι} {i : ι}
  {a : ι × LedgerTransaction} {tr : List (ι × LedgerTransaction)}

theorem Step.commits (h : Step P ok n a n') : (n a.1).Commits P a.2 (n' a.1) := ⟨h.distinct, h.commit⟩

theorem Step.apply (h : Step P ok n a n') : n' a.1 = (n a.1).apply a.2 :=
  (Chain.commit_ok h.commits).1

theorem Step.baseId (h : Step P ok n a n') (i : ι) : (n' i).baseId = (n i).baseId := by
  by_cases hi : i = a.1
  · rw [hi, h.apply]; rfl
  · rw [h.other i hi]

/-- Nothing is forgotten. -/
theorem Step.history (h : Step P ok n a n') {s : ContractState} (hs : s ∈ (n i).history) :
    s ∈ (n' i).history := by
  by_cases hi : i = a.1
  · rw [hi] at hs ⊢
    rw [h.apply]
    exact List.mem_append_right _ hs
  · rwa [h.other i hi]

section
variable [DecidableEq ι]

theorem own_self (tx : LedgerTransaction) : own i (tr ++ [(i, tx)]) = own i tr ++ [tx] := by
  simp [own]

theorem own_ne (hi : a.1 ≠ i) : own i (tr ++ [a]) = own i tr := by simp [own, hi]

theorem mem_own {tx : LedgerTransaction} : tx ∈ own i tr ↔ (i, tx) ∈ tr := by
  simp only [own, List.mem_filterMap, Prod.exists]
  constructor
  · rintro ⟨j, tx', h, he⟩
    split at he
    · cases he
      rename_i hj
      exact hj ▸ h
    · cases he
  · exact fun h => ⟨i, tx, h, if_pos rfl⟩

/-- A run of a net is a run of each of its hosts. -/
theorem run_own {ok' : Chain → LedgerTransaction → Prop} (hok : ∀ n tx, ok n i tx → ok' (n i) tx)
    (hr : Run (Step P ok) n₀ tr n) : Run (Chain.Step P ok') (n₀ i) (own i tr) (n i) := by
  induction hr with
  | nil => exact .nil
  | @snoc tr n n' a _ hs ih =>
    obtain ⟨j, tx⟩ := a
    by_cases hj : j = i
    · subst hj
      rw [own_self]
      exact .snoc ih ⟨hok n tx hs.ok, hs.commits⟩
    · rw [own_ne hj, hs.other i (Ne.symm hj)]
      exact ih

end

end

/-! ### Two hosts -/

/-- Every client a transaction puts out is a Corda client of the peer. -/
def TracksPeer (n : Net Side) (s : Side) (tx : LedgerTransaction) : Prop :=
  ∀ client, ContractState.client client ∈ tx.outputs →
    ∃ cs, client.impl = .corda cs ∧ cs.counterpartyBaseId = (n s.peer).baseId

/-- What two hosts that track each other keep. -/
structure Tracking (n : Net Side) : Prop where
  inv : ∀ s, (n s).Inv
  client : ∀ s i client, (n s).states.lookup i = some (.client client) →
    ∃ cs, client.impl = .corda cs ∧ cs.counterpartyBaseId = (n s.peer).baseId

variable {P : Platform} {ok : Net Side → Side → LedgerTransaction → Prop} {n₀ n n' : Net Side}
  {s : Side} {a : Side × LedgerTransaction} {tr : List (Side × LedgerTransaction)}

theorem Start.tracking (h : n.Start) : n.Tracking := by
  refine ⟨fun s => (h s).inv, fun s i client hl => ?_⟩
  obtain ⟨_, _, _, _, _, host, -, hs⟩ := h s
  rw [hs] at hl
  cases (Chain.lookup_ofHost hl).2

theorem Tracking.step (ht : n.Tracking) (hok : TracksPeer n a.1 a.2) (h : Step P ok n a n') :
    n'.Tracking := by
  have hinv : ∀ s, (n' s).Inv := fun s => by
    by_cases hs : s = a.1
    · obtain ⟨he, _, hto⟩ := Chain.commit_ok h.commits
      rw [hs, he]
      exact (ht.inv _).apply hto
    · rw [h.other s hs]; exact ht.inv s
  refine ⟨hinv, fun s i client hl => ?_⟩
  rw [h.baseId]
  by_cases hs : s = a.1
  · subst hs
    rw [h.apply] at hl
    rcases Chain.lookup_apply_cases hl with ⟨hm, -⟩ | ⟨-, hl⟩
    · exact hok client hm
    · exact ht.client _ i client hl
  · rw [h.other s hs] at hl
    exact ht.client s i client hl

theorem Tracking.run (h₀ : n₀.Start) (hok : ∀ n s tx, ok n s tx → TracksPeer n s tx)
    (hr : Run (Step P ok) n₀ tr n) : n.Tracking :=
  hr.invariant (I := fun _ n => n.Tracking) h₀.tracking
    fun _ _ _ _ _ ht hs => ht.step (hok _ _ _ hs.ok) hs

/-- Two open ends that name each other. -/
structure Paired (n : Net Side) (s : Side) (a b : IbcChannel) : Prop where
  current : (n s).states.lookup a.id = some (.channel a)
  currentPeer : (n s.peer).states.lookup b.id = some (.channel b)
  opened : a.end_.state = .opened
  openedPeer : b.end_.state = .opened
  names : a.Names b
  namesBack : b.Names a

/-! ### What a client accepts -/

/-- What the client accepts of some proofs is in the past of a chain. -/
def Honest (P : Platform) (c : Chain) (client : IbcClientState) (proofs : List Bytes) : Prop :=
  ∃ cs, client.impl = .corda cs ∧ ∀ proof : CommitmentProof, proof.bytes ∈ proofs →
    ∀ (T : Type) [StateClass T] (t : T), cs.Proves P proof t → up t ∈ c.history

/-- A host learns only what its peer once put out. -/
theorem Tracking.honest (ht : n.Tracking) {tx : LedgerTransaction} (hsound : Sound P n tx)
    {handler : DatagramHandler} {signers : List PublicKey}
    (hd : tx.datagramHandlerCommands = [(handler, signers)])
    (href : ∀ t ∈ tx.referenceStates, ∀ i, t.id? = some i → (n s).states.lookup i = some t)
    {client : IbcClientState}
    (hc : (Context.create tx.inputStates tx.referenceStates).getReference IbcClientState =
      .ok client) : Honest P (n s.peer) client handler.proofs := by
  have hm : ContractState.client client ∈ tx.referenceStates := Context.mem_of_getReference hc
  obtain ⟨cs, himpl, hbase⟩ := ht.client s client.id client (href _ hm _ rfl)
  exact ⟨cs, himpl, fun proof hp T _ t h =>
    hsound handler signers hd client cs hm himpl proof hp T t h s.peer hbase.symm⟩

namespace Honest
variable {c : Chain} {client : IbcClientState} {proofs : List Bytes} {bytes : Bytes}
  {height : Height} {pre : MerklePrefix}

theorem connection (h : Honest P c client proofs) (hb : bytes ∈ proofs) {id : String}
    {e : Connection.ConnectionEnd} (hp : ProvesConnection P client height pre bytes id e) :
    ∃ t : IbcConnection, ContractState.connection t ∈ c.history ∧ t.id.id = id ∧ t.end_ = e := by
  obtain ⟨cs, himpl, hall⟩ := h
  obtain ⟨proof, rfl, i, rfl, hv⟩ := hp
  have hv : cs.verifyConnectionState P height pre proof i e = .ok () := by
    rwa [himpl] at hv
  obtain ⟨-, t, ht, rfl, he⟩ := CordaClientState.verifyConnectionState_ok.1 hv
  exact ⟨t, hall proof hb _ t ht, rfl, he⟩

theorem channel (h : Honest P c client proofs) (hb : bytes ∈ proofs) {port id : String} {e : Channel}
    (hp : ProvesChannel P client height pre bytes port id e) :
    ∃ t : IbcChannel, ContractState.channel t ∈ c.history ∧ t.portId.id = port ∧ t.id.id = id ∧
      t.end_ = e := by
  obtain ⟨cs, himpl, hall⟩ := h
  obtain ⟨proof, rfl, p, rfl, i, rfl, hv⟩ := hp
  have hv : cs.verifyChannelState P height pre proof p i e = .ok () := by
    rwa [himpl] at hv
  obtain ⟨-, t, ht, rfl, rfl, he⟩ := CordaClientState.verifyChannelState_ok.1 hv
  exact ⟨t, hall proof hb _ t ht, rfl, rfl, he⟩

theorem commitment (h : Honest P c client proofs) (hb : bytes ∈ proofs) {delay : Long}
    {packet : Packet} (hp : ProvesCommitment P client height pre bytes delay packet) :
    ∃ t : IbcChannel, ContractState.channel t ∈ c.history ∧ t.portId.id = packet.sourcePort ∧
      t.id.id = packet.sourceChannel ∧ ∃ p, t.packets.lookup packet.sequence = some p ∧
        p.toCommitment P.toCrypto = packet.toCommitment P.toCrypto := by
  obtain ⟨cs, himpl, hall⟩ := h
  obtain ⟨proof, rfl, p, hport, i, hid, hv⟩ := hp
  have hv : cs.verifyPacketCommitment P height delay 0 pre proof p i packet.sequence
      (packet.toCommitment P.toCrypto) = .ok () := by
    rwa [himpl] at hv
  obtain ⟨-, -, -, t, ht, rfl, rfl, he⟩ := CordaClientState.verifyPacketCommitment_ok.1 hv
  exact ⟨t, hall proof hb _ t ht, hport, hid, he⟩

theorem ack (h : Honest P c client proofs) (hb : bytes ∈ proofs) {delay : Long} {packet : Packet}
    {ack : Acknowledgement} (hp : ProvesAck P client height pre bytes delay packet ack) :
    ∃ t : IbcChannel, ContractState.channel t ∈ c.history ∧
      t.portId.id = packet.destinationPort ∧ t.id.id = packet.destinationChannel ∧
        t.acknowledgements.lookup packet.sequence = some ack := by
  obtain ⟨cs, himpl, hall⟩ := h
  obtain ⟨proof, rfl, p, hport, i, hid, hv⟩ := hp
  have hv : cs.verifyPacketAcknowledgement P height delay 0 pre proof p i packet.sequence ack = .ok () := by
    rwa [himpl] at hv
  obtain ⟨-, -, -, t, ht, rfl, rfl, he⟩ := CordaClientState.verifyPacketAcknowledgement_ok.1 hv
  exact ⟨t, hall proof hb _ t ht, hport, hid, he⟩

end Honest

end Net

end CordaIbc
