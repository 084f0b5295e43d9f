import CordaIbc.Proofs.LightClient
import CordaIbc.Proofs.SelfClient
import CordaIbc.Proofs.Vault

/-!
# Served proofs are accepted (clients/corda, grpc_adapter, go/relay)

The transaction that put a state out has no other output of the class of the state, and is under the
notary that the host names. So what a node serves of a host in its vault is accepted by every client
that tracks the host: connections (`connection_run`), channels with their packets and acknowledgements
(`channel_run`) and clients (`client_run`). A client that a relayer makes of a host tracks the host
(`Go.relayed_client_run`).
-/

namespace CordaIbc

open ChannelOuterClass (Channel Packet Acknowledgement)
open StateClass ContractState

/-! ## The transaction of a state -/

namespace Ledger

section
variable {P : Platform} {ok : LedgerTransaction → Prop} {l₀ l : Ledger} {tx : LedgerTransaction}
  {tr : List LedgerTransaction} {r : StateRef} {s : TransactionState} {k : StateRef × Identifier}

/-- A state with a key was put out in the run. -/
theorem exists_producer (h₀ : l₀.Start) (hr : Run (Step P ok) l₀ tr l)
    (hl : l.states.lookup r = some s) (hk : s.data.key? = some k) :
    ∃ tx ∈ tr, r.txhash = tx.id ∧ s.data ∈ tx.outputs ∧ s.notary = tx.notary := by
  have h : ∀ r s, l.states.lookup r = some s → (∃ g, s.data = .genesis g) ∨
      ∃ tx ∈ tr, r.txhash = tx.id ∧ s.data ∈ tx.outputs ∧ s.notary = tx.notary := by
    refine hr.invariant (I := fun tr l => ∀ r s, l.states.lookup r = some s →
      (∃ g, s.data = .genesis g) ∨ ∃ tx ∈ tr, r.txhash = tx.id ∧ s.data ∈ tx.outputs ∧
        s.notary = tx.notary) (fun r s hl => .inl (h₀.genesis r s hl)) ?_
    rintro tr l tx l' - ih ⟨-, hcommit⟩ r s hl
    obtain ⟨-, rfl⟩ := commit_ok.1 hcommit
    rcases lookup_apply_cases hl with ⟨hid, hout⟩ | ⟨-, hold⟩
    · exact .inr ⟨tx, by simp, hid, List.mem_of_getElem? hout, output_notary hid hl hout⟩
    · refine (ih r s hold).imp_right ?_
      rintro ⟨tx', htx, h⟩
      exact ⟨tx', List.mem_append_left _ htx, h⟩
  rcases h r s hl with ⟨g, hg⟩ | h
  · rw [hg] at hk
    cases hk
  · exact h

/-- Every transaction of a run is accepted. -/
theorem accepted_of_mem (hinj : P.toCrypto.UniqueNames)
    (hr : Run (Step P LedgerTransaction.DistinctOutputs) l₀ tr l) (htx : tx ∈ tr) :
    Accepted tx ∧ (tx.touchesIbc = true → Ibc.verify P tx = .ok ()) := by
  obtain ⟨_, _, _, _, -, -, hn, hcommit⟩ := hr.exists_step_of_mem htx
  obtain ⟨hc, -⟩ := commit_ok.1 hcommit
  exact ⟨hc.accepted hinj hn, hc.verify⟩

end

end Ledger

/-- A class with one output has no other. -/
theorem filterIsInstance_eq_singleton {T : Type} [StateClass T] {k : Nat} (hT : IsClass T k) {t : T}
    {outs : List ContractState} (hn : (outs.filterMap cls?).Nodup) (ht : up t ∈ outs) :
    filterIsInstance T outs = [t] := by
  have hcls : ∀ s : ContractState, (cast? s : Option T).isSome → s.cls? = some k := by
    intro s hs
    obtain ⟨t', ht'⟩ := Option.isSome_iff_exists.1 hs
    rw [cast?_eq.1 ht']
    exact hT.cls t'
  induction outs with
  | nil => cases ht
  | cons s outs ih =>
    unfold filterIsInstance at ih ⊢
    cases hcast : (cast? s : Option T) with
    | none =>
      rw [List.filterMap_cons_none hcast]
      refine ih ?_ ((List.mem_cons.1 ht).resolve_left fun he => ?_)
      · exact hn.sublist ((List.sublist_cons_self s outs).filterMap _)
      · rw [← he, cast?_eq.2 rfl] at hcast
        cases hcast
    | some t' =>
      have hs := hcls s (by rw [hcast]; rfl)
      rw [List.filterMap_cons_some hs, List.nodup_cons] at hn
      have hrest : ∀ s' ∈ outs, (cast? s' : Option T) = none := by
        intro s' hs'
        by_contra hne
        exact hn.1 (List.mem_filterMap.2 ⟨s', hs', hcls s' (Option.isSome_iff_ne_none.2 hne)⟩)
      rw [List.filterMap_cons_some hcast, List.filterMap_eq_nil_iff.2 hrest]
      rcases List.mem_cons.1 ht with rfl | ht
      · rw [cast?_eq.2 rfl] at hcast
        rw [Option.some.inj hcast]
      · have hnone := hrest _ ht
        rw [cast?_eq.2 rfl] at hnone
        cases hnone

namespace CordaRPCOps

/-- The node keeps the transactions of the run, with their signatures. -/
def Stores (P : Platform) (K : ProofCodec) (ops : CordaRPCOps) (tr : List LedgerTransaction) : Prop :=
  ∀ tx ∈ tr, ∃ stx, ops.internalFindVerifiedTransaction tx.id = some stx ∧ stx.tx = tx ∧
    stx.verifyRequiredSignatures P = .ok () ∧ K.Carries P stx

/-- A transaction of the node proves the state to every client that tracks the host. -/
structure Proves (P : Platform) (K : ProofCodec) (ops : CordaRPCOps) (host : Host) {T : Type}
    [StateClass T] (found : Found T) (stx : VerifiedTransaction) (proof : CommitmentProof) : Prop where
  find : ops.findTransaction found.ref = .ok stx
  signed : stx.verifyRequiredSignatures P = .ok ()
  toProof : stx.toProof P K = .ok proof
  read : proof.toSignedTransaction P = .ok (stx.filtered K, stx.buildFilteredTransaction K)
  extract : filterIsInstance T (stx.buildFilteredTransaction K).outputs = [found.data]
  accepted : ∀ cs : CordaClientState, cs.Tracks host → cs.Proves P proof found.data

section
variable {P : Platform} {K : ProofCodec} {ops : CordaRPCOps} {l₀ l : Ledger}
  {tr : List LedgerTransaction} {b : StateRef} {i : Identifier} {host : Found Host}

/-- What holds of a node on a reachable ledger that serves a host of its vault. -/
structure Ready (P : Platform) (K : ProofCodec) (ops : CordaRPCOps) (tr : List LedgerTransaction)
    (l : Ledger) (b : StateRef) (host : Found Host) : Prop where
  names : P.toCrypto.UniqueNames
  sees : ops.vault.Sees l
  stores : ops.Stores P K tr
  host_eq : ops.vault.queryIbcHost b = some host

theorem exists_proves {T : Type} [StateClass T] {k : Nat} {found : Found T}
    (h : Ready P K ops tr l b host) (h₀ : l₀.Start)
    (hr : Run (Ledger.Step P LedgerTransaction.DistinctOutputs) l₀ tr l)
    (hT : IsClass T k) (hibc : isIbc T = true)
    (hknows : ops.vault.Knows l (b, i) found) :
    ∃ stx proof, ops.Proves P K host.data found stx proof := by
  obtain ⟨hi, hh⟩ := Ledger.Homogeneous.run h.names h₀ hr
  have hhost := (ServiceHub.queryLinear_iff hi h.sees named_host).1 h.host_eq
  obtain ⟨hbase, -⟩ := Prod.mk.inj (Option.some.inj hhost.key)
  obtain ⟨tx, htx, hid, hout, hnotary⟩ := Ledger.exists_producer h₀ hr hknows.lookup hknows.key
  obtain ⟨haccepted, -⟩ := Ledger.accepted_of_mem h.names hr htx
  obtain ⟨stx, hfind, rfl, hsigned, hcarries⟩ := h.stores tx htx
  obtain ⟨proof, hproof⟩ := stx.exists_proof hcarries hsigned
  have hread := stx.read_of_toProof hcarries hproof
  have hextract : filterIsInstance T (stx.buildFilteredTransaction K).outputs = [found.data] := by
    rw [VerifiedTransaction.buildFilteredTransaction, filterIsInstance_filter_ibc hibc]
    exact filterIsInstance_eq_singleton hT haccepted.cls hout
  refine ⟨stx, proof, notNull_ok.2 (by rw [hid, hfind]), hsigned, hproof, hread, hextract,
    fun cs htracks => ⟨?_, ?_, ?_⟩⟩
  · simp only [CordaClientState.verifyNotaryKey, Result.bind_ok]
    refine ⟨_, hread, stx.tx.notary, notNull_ok.2 rfl, require_ok.2 ?_⟩
    obtain ⟨-, hn⟩ := hh.alike _ _ _ _ hknows.lookup hknows.key _ _ _ hhost.lookup hbase
    rw [htracks.notaryKey, ← hnotary]
    exact congrArg (fun notary : Party => notary.owningKey) hn
  · simp only [CordaClientState.extractState, Result.bind_ok]
    exact ⟨_, hread, single_ok.2 hextract⟩
  · obtain ⟨t, ht, -, hb, -⟩ := key_eq_some.1 hknows.key
    exact ⟨t, ht, hb.trans (hbase.symm.trans htracks.baseId.symm)⟩

/-- A state of the host that the ledger has is known to the node. -/
theorem Ready.knows {T : Type} [StateClass T] {found : Found T} (h : Ready P K ops tr l b host)
    (h₀ : l₀.Start)
    (hr : Run (Ledger.Step P LedgerTransaction.DistinctOutputs) l₀ tr l) (hT : Keyed T)
    (hl : l.states.lookup found.ref = some ⟨up found.data, found.notary⟩)
    (hk : (up found.data).key? = some (b, i)) : ops.vault.Knows l (b, i) found := by
  obtain ⟨hi, -⟩ := Ledger.Homogeneous.run h.names h₀ hr
  have hq := (ServiceHub.query_run h.names h₀ hr h.sees hT h.host_eq).2 ⟨hl, hk⟩
  exact (ServiceHub.queryIbcState_iff h.names hi h.sees hT).1 hq

/-- A query for a state of the host finds it. -/
theorem vaultQueryBy_knows {T : Type} [StateClass T] {found : Found T} (hi : l.Inv)
    (h : Ready P K ops tr l b host) (hT : Keyed T) (hknows : ops.vault.Knows l (b, i) found) :
    ops.vaultQueryBy P T (some b) i.id = .ok [found] := by
  have hq := (ServiceHub.queryIbcState_iff h.names hi h.sees hT).2 hknows
  simp only [vaultQueryBy, resolveBaseId, Result.bind_ok, Except.ok.injEq]
  exact ⟨b, rfl, i, Identifier.of_id i, singleOrNull_eq_some.1 hq⟩

/-- A query for what the ledger does not have finds nothing. -/
theorem vaultQueryBy_none {T : Type} [StateClass T] (h : Ready P K ops tr l b host) (hT : Keyed T)
    (hno : ∀ r n (t : T), l.states.lookup r = some ⟨up t, n⟩ → (up t).key? ≠ some (b, i)) :
    ops.vaultQueryBy P T (some b) i.id = .ok [] := by
  simp only [vaultQueryBy, resolveBaseId, Result.bind_ok, Except.ok.injEq]
  refine ⟨b, rfl, i, Identifier.of_id i, List.eq_nil_iff_forall_not_mem.2 fun found hf => ?_⟩
  have hknows := (ServiceHub.mem_query h.names h.sees hT).1 hf
  exact hno _ _ _ hknows.lookup hknows.key

theorem respond_ok {T : Type} [StateClass T] {α : Type} {found : Found T} {stx : VerifiedTransaction}
    {proof : CommitmentProof} {value : T → Result α} {a : α}
    (h : ops.Proves P K host.data found stx proof) (ha : value found.data = .ok a) :
    ops.respond P K found value = .ok ⟨a, proof.bytes, HEIGHT⟩ := by
  simp only [respond, Result.bind_ok, Except.ok.injEq]
  exact ⟨stx, h.find, proof, h.toProof, a, ha, rfl⟩

end

end CordaRPCOps

/-! ## The services -/

section
open CordaRPCOps
variable {P : Platform} {K : ProofCodec} {ops : CordaRPCOps} {l₀ l : Ledger}
  {tr : List LedgerTransaction} {b : StateRef} {i : Identifier} {host : Found Host}

/-- A node serves the connections that the ledger has, with proofs that every client of the host
accepts, and a connection that says nothing for any other identifier. -/
theorem ConnectionQueryService.connection_run (h : Ready P K ops tr l b host) (h₀ : l₀.Start)
    (hr : Run (Ledger.Step P LedgerTransaction.DistinctOutputs) l₀ tr l) :
    (∀ r n conn, l.states.lookup r = some ⟨.connection conn, n⟩ → conn.baseId = b →
      conn.id = i → ∃ proof : CommitmentProof,
        connection P K ops (some b) i.id = .ok ⟨conn.end_, proof.bytes, HEIGHT⟩ ∧
        ∀ cs : CordaClientState, cs.Tracks host.data → ∀ prefix_,
          cs.verifyConnectionState P HEIGHT prefix_ proof i conn.end_ = .ok ()) ∧
    ((∀ r n conn, l.states.lookup r = some ⟨.connection conn, n⟩ → conn.baseId = b → conn.id ≠ i) →
      connection P K ops (some b) i.id = .ok (.unproved .default)) := by
  constructor
  · rintro r n conn hl rfl rfl
    obtain ⟨hi, -⟩ := Ledger.Homogeneous.run h.names h₀ hr
    have hknows : ops.vault.Knows l (conn.baseId, conn.id) (⟨conn, n, r⟩ : Found IbcConnection) :=
      h.knows h₀ hr keyed_connection hl rfl
    obtain ⟨stx, proof, hp⟩ := exists_proves h h₀ hr isClass_connection rfl hknows
    refine ⟨proof, ?_, fun cs htracks prefix_ => ?_⟩
    · unfold connection
      rw [vaultQueryBy_knows hi h keyed_connection hknows, Result.ok_bind, singleOrNull]
      simp only [Result.bind_ok, Except.ok.injEq]
      exact ⟨stx, hp.find, (), hp.signed, proof, hp.toProof, _, hp.read, conn,
        single_ok.2 hp.extract, (), require_ok.2 rfl, rfl⟩
    · exact CordaClientState.verifyConnectionState_ok.2 ⟨rfl, conn, hp.accepted cs htracks, rfl, rfl⟩
  · intro hno
    have hnone : ops.vaultQueryBy P IbcConnection (some b) i.id = .ok [] := by
      refine vaultQueryBy_none h keyed_connection fun r n conn hl hk => ?_
      obtain ⟨hb, hid⟩ := Prod.mk.inj (Option.some.inj hk)
      exact hno r n conn hl hb hid
    unfold connection
    rw [hnone]
    rfl

/-- The same for the channels, and with each channel its packets, receipts and acknowledgements. -/
theorem ChannelQueryService.channel_run (S : Serializer) (h : Ready P K ops tr l b host)
    (h₀ : l₀.Start)
    (hr : Run (Ledger.Step P LedgerTransaction.DistinctOutputs) l₀ tr l) :
    (∀ r n chan, l.states.lookup r = some ⟨.channel chan, n⟩ → chan.baseId = b → chan.id = i →
      ∃ proof : CommitmentProof,
        ChannelQueryService.channel P K ops (some b) chan.portId.id i.id =
          .ok ⟨chan.end_, proof.bytes, HEIGHT⟩ ∧
        (∀ sequence, packetReceipt P K ops (some b) chan.portId.id i.id sequence =
          .ok ⟨sequence ∈ chan.receipts, proof.bytes, HEIGHT⟩) ∧
        (∀ sequence packet, chan.packets.lookup sequence = some packet →
          packetCommitment P K ops S (some b) chan.portId.id i.id sequence =
            .ok ⟨S.packet packet, proof.bytes, HEIGHT⟩) ∧
        (∀ sequence ack, chan.acknowledgements.lookup sequence = some ack →
          packetAcknowledgement P K ops S (some b) chan.portId.id i.id sequence =
            .ok ⟨S.acknowledgement ack, proof.bytes, HEIGHT⟩) ∧
        ∀ cs : CordaClientState, cs.Tracks host.data → ∀ prefix_,
          cs.verifyChannelState P HEIGHT prefix_ proof chan.portId i chan.end_ = .ok () ∧
          (∀ sequence packet, chan.packets.lookup sequence = some packet →
            cs.verifyPacketCommitment P HEIGHT 0 0 prefix_ proof chan.portId i sequence
              (packet.toCommitment P.toCrypto) = .ok ()) ∧
          ∀ sequence ack, chan.acknowledgements.lookup sequence = some ack →
            cs.verifyPacketAcknowledgement P HEIGHT 0 0 prefix_ proof chan.portId i sequence ack =
              .ok ()) ∧
    ((∀ r n chan, l.states.lookup r = some ⟨.channel chan, n⟩ → chan.baseId = b → chan.id ≠ i) →
      ∀ portId, ChannelQueryService.channel P K ops (some b) portId i.id = .ok (.unproved .default)) := by
  constructor
  · rintro r n chan hl rfl rfl
    obtain ⟨hi, -⟩ := Ledger.Homogeneous.run h.names h₀ hr
    have hknows : ops.vault.Knows l (chan.baseId, chan.id) (⟨chan, n, r⟩ : Found IbcChannel) :=
      h.knows h₀ hr keyed_channel hl rfl
    obtain ⟨stx, proof, hp⟩ := exists_proves h h₀ hr isClass_channel rfl hknows
    have hport : assertPort chan chan.portId.id = .ok () := if_pos rfl
    have hquery : ∀ {α : Type} {value : IbcChannel → Result α} {a : α}, value chan = .ok a →
        packetQuery P K ops (some chan.baseId) chan.portId.id chan.id.id value =
          .ok ⟨a, proof.bytes, HEIGHT⟩ := by
      intro α value a ha
      simp only [packetQuery, vaultQueryBy_knows hi h keyed_channel hknows, Result.ok_bind, single,
        hport]
      exact respond_ok hp ha
    refine ⟨proof, ?_, fun sequence => hquery rfl, fun sequence packet hpacket => hquery ?_,
      fun sequence ack hack => hquery ?_, fun cs htracks prefix_ => ?_⟩
    · simp only [ChannelQueryService.channel, vaultQueryBy_knows hi h keyed_channel hknows,
        Result.ok_bind, singleOrNull, hport]
      exact respond_ok hp rfl
    · rw [hpacket]
      rfl
    · rw [hack]
      rfl
    · have haccepted := hp.accepted cs htracks
      refine ⟨?_, fun sequence packet hpacket => ?_, fun sequence ack hack => ?_⟩
      · exact CordaClientState.verifyChannelState_ok.2 ⟨rfl, chan, haccepted, rfl, rfl, rfl⟩
      · exact CordaClientState.verifyPacketCommitment_ok.2
          ⟨rfl, rfl, rfl, chan, haccepted, rfl, rfl, packet, hpacket, rfl⟩
      · exact CordaClientState.verifyPacketAcknowledgement_ok.2
          ⟨rfl, rfl, rfl, chan, haccepted, rfl, rfl, hack⟩
  · intro hno portId
    have hnone : ops.vaultQueryBy P IbcChannel (some b) i.id = .ok [] := by
      refine vaultQueryBy_none h keyed_channel fun r n chan hl hk => ?_
      obtain ⟨hb, hid⟩ := Prod.mk.inj (Option.some.inj hk)
      exact hno r n chan hl hb hid
    unfold ChannelQueryService.channel
    rw [hnone]
    rfl

end

/-! ## Clients -/

/-- What a client says of itself is what its implementation says. -/
structure IbcClientState.Aligned (t : IbcClientState) : Prop where
  any : t.anyClientState = t.impl.anyClientState
  consensus : t.anyConsensusStates = t.impl.anyConsensusStates

theorem Executes.aligned {P : Platform} {ctx : Context} {signers : List PublicKey}
    {d : DatagramHandler} {outs : List ContractState} (h : Executes P ctx signers d outs)
    {t : IbcClientState} (hm : ContractState.client t ∈ outs) : t.Aligned := by
  cases h with
  | createClient hhost hstate =>
    obtain rfl : t = _ := by simpa using hm
    exact ⟨rfl, rfl⟩
  | updateClient hclient _ hresult =>
    obtain rfl : t = _ := by simpa using hm
    exact ⟨rfl, rfl⟩
  | connOpenInit | connOpenTry | connOpenAck | connOpenConfirm | chanOpenInit | chanOpenTry
  | chanOpenTryPrevious | chanOpenAck | chanOpenConfirm | chanCloseInit | chanCloseConfirm =>
    simp at hm
  | sendPacket _ _ heffect => exact absurd hm heffect.bankOuts.client_notMem
  | recvPacket _ _ _ heffect => exact absurd hm heffect.bankOuts.client_notMem
  | acknowledgePacket _ _ _ _ heffect => exact absurd hm heffect.bankOuts.client_notMem

theorem LedgerTransaction.aligned {P : Platform} {tx : LedgerTransaction}
    (hv : Ibc.verify P tx = .ok ()) {t : IbcClientState} (hm : ContractState.client t ∈ tx.outputs) :
    t.Aligned := by
  rcases verify_cases hv with hmisc | ⟨handler, signers, -, hd⟩
  · cases hmisc with
    | genesis _ hout => simp [hout] at hm
    | host _ _ _ _ hout => simp [hout] at hm
    | bank _ _ hout => simp [hout.mem_iff] at hm
    | cashBank _ _ hout => simp [hout.mem_iff] at hm
    | fund _ hout => simp [hout] at hm
  · obtain ⟨outs, ctx', hexec, houts, hverified⟩ := verify_executes hd hv
    have hmem := hverified.subset _ hm
    rw [houts.outStates] at hmem
    exact hexec.aligned hmem

section
open CordaRPCOps
variable {P : Platform} {K : ProofCodec} {ops : CordaRPCOps} {l₀ l : Ledger}
  {tr : List LedgerTransaction} {b : StateRef} {i : Identifier} {host : Found Host}

theorem Ledger.aligned (hinj : P.toCrypto.UniqueNames) (h₀ : l₀.Start)
    (hr : Run (Ledger.Step P LedgerTransaction.DistinctOutputs) l₀ tr l) {r : StateRef}
    {n : Party} {t : IbcClientState} (hl : l.states.lookup r = some ⟨.client t, n⟩) : t.Aligned := by
  obtain ⟨tx, htx, -, hout, -⟩ := exists_producer h₀ hr hl (k := (t.baseId, t.id)) rfl
  obtain ⟨-, hverify⟩ := accepted_of_mem hinj hr htx
  exact LedgerTransaction.aligned (hverify (List.any_eq_true.2 ⟨_, List.mem_append_right _ hout, rfl⟩))
    hout

/-- A node serves the clients of the host, and their consensus states at the latest or a given height. -/
theorem ClientQueryService.client_run (h : Ready P K ops tr l b host) (h₀ : l₀.Start)
    (hr : Run (Ledger.Step P LedgerTransaction.DistinctOutputs) l₀ tr l) {r : StateRef}
    {n : Party} {t : IbcClientState} (hl : l.states.lookup r = some ⟨.client t, n⟩)
    (hb : t.baseId = b) : ∃ proof : CommitmentProof,
      clientState P K ops (some b) t.id.id = .ok ⟨t.anyClientState, proof.bytes, HEIGHT⟩ ∧
      (∀ latest given height any, (if latest then t.impl.getLatestHeight P else .ok given) = .ok height →
        t.anyConsensusStates.lookup height = some any →
        consensusState P K ops (some b) ⟨t.id.id, latest, given⟩ = .ok ⟨any, proof.bytes, HEIGHT⟩) ∧
      ∀ cs : CordaClientState, cs.Tracks host.data → ∀ prefix_,
        cs.verifyClientState P HEIGHT prefix_ t.id proof t.anyClientState = .ok () ∧
        ∀ height any, t.anyConsensusStates.lookup height = some any →
          cs.verifyClientConsensusState P HEIGHT t.id height prefix_ proof any = .ok () := by
  subst hb
  obtain ⟨hi, -⟩ := Ledger.Homogeneous.run h.names h₀ hr
  have hknows : ops.vault.Knows l (t.baseId, t.id) (⟨t, n, r⟩ : Found IbcClientState) :=
    h.knows h₀ hr keyed_client hl rfl
  obtain ⟨stx, proof, hp⟩ := exists_proves h h₀ hr isClass_client rfl hknows
  refine ⟨proof, ?_, fun latest given height any hheight hany => ?_, fun cs htracks prefix_ => ?_⟩
  · simp only [clientState, vaultQueryBy_knows hi h keyed_client hknows, Result.ok_bind, single]
    exact respond_ok hp rfl
  · simp only [consensusState, vaultQueryBy_knows hi h keyed_client hknows, Result.ok_bind, single]
    rw [(Ledger.aligned h.names h₀ hr hl).consensus] at hany
    refine respond_ok hp ?_
    cases latest with
    | true => exact Result.bind_ok.2 ⟨height, hheight, notNull_ok.2 hany⟩
    | false =>
      obtain rfl : given = height := Except.ok.inj hheight
      exact notNull_ok.2 hany
  · have haccepted := hp.accepted cs htracks
    refine ⟨?_, fun height any hany => ?_⟩
    · exact CordaClientState.verifyClientState_ok.2 ⟨rfl, t, haccepted, rfl, rfl⟩
    · exact CordaClientState.verifyClientConsensusState_ok.2 ⟨rfl, t, haccepted, rfl, hany⟩

end

/-! ## Clients that a relayer makes -/

/-- A host keeps its notary. -/
theorem Ledger.host_run {P : Platform} {l₀ l : Ledger} {tr : List LedgerTransaction}
    (hinj : P.toCrypto.UniqueNames) (hi : l₀.Inv)
    (hr : Run (Step P LedgerTransaction.DistinctOutputs) l₀ tr l) {r r' : StateRef}
    {n n' : Party} {h h' : Host} (hl : l₀.states.lookup r = some ⟨.host h, n⟩)
    (hl' : l.states.lookup r' = some ⟨.host h', n'⟩) (hb : h'.baseId = h.baseId) :
    h'.notary = h.notary := by
  have hkept : l.Inv ∧ ∃ r₁ n₁ h₁, l.states.lookup r₁ = some ⟨.host h₁, n₁⟩ ∧
      h₁.baseId = h.baseId ∧ h₁.notary = h.notary := by
    refine hr.invariant (I := fun _ l => l.Inv ∧ ∃ r₁ n₁ h₁, l.states.lookup r₁ = some ⟨.host h₁, n₁⟩ ∧
      h₁.baseId = h.baseId ∧ h₁.notary = h.notary) ⟨hi, r, n, h, hl, rfl, rfl⟩ ?_
    rintro tr l tx l' - ⟨hi, r₁, n₁, h₁, hl₁, hb₁, hn₁⟩ ⟨hn, hcommit⟩
    obtain ⟨hc, rfl⟩ := commit_ok.1 hcommit
    have ha := hc.accepted hinj hn
    obtain ⟨r₂, n₂, h₂, hl₂, hu⟩ := hi.host_apply hc ha hl₁
    exact ⟨hi.apply hc ha, r₂, n₂, h₂, hl₂, hu.2.1.symm.trans hb₁, hu.2.2.1.symm.trans hn₁⟩
  obtain ⟨hi', r₁, n₁, h₁, hl₁, hb₁, hn₁⟩ := hkept
  obtain rfl := hi'.unique _ _ _ _ _ hl₁ hl' (hostKey h₁) (by rw [hostKey, hb, hb₁])
  rw [hl₁] at hl'
  cases hl'
  exact hn₁

/-- What a relayer packs can be unpacked. -/
structure Go.AnyCodec.Lawful (A : Go.AnyCodec) (P : Platform) : Prop where
  clientState : ∀ c, P.unpackCordaClientState
    ⟨"/ibc.lightclients.corda.v1.ClientState", A.clientState c⟩ = .ok c
  publicKey : ∀ key : PublicKey, P.decodePublicKey key.encoded = .ok key

theorem CordaClientState.any_of_create {P : Platform} {host : Host} {any consensus : Any}
    {cs : CordaClientState} (h : host.createClientState P any consensus = .ok (.corda cs)) :
    cs.anyClientState = any := by
  simp only [Host.createClientState, Result.bind_ok] at h
  obtain ⟨factory, -, h⟩ := h
  cases factory with
  | fabric =>
    obtain ⟨s, -, he⟩ := Result.map_ok.1 h
    cases he
  | corda =>
    obtain ⟨cs', hcreate, he⟩ := Result.map_ok.1 h
    cases he
    simp only [CordaClientState.create, Result.bind_ok, Except.ok.injEq] at hcreate
    obtain ⟨-, -, c, -, -, -, key, -, rfl⟩ := hcreate
    rfl

section
open CordaRPCOps
variable {P : Platform} {K : ProofCodec} {A : Go.AnyCodec} {ops ops' : CordaRPCOps}
  {l₀ l l' : Ledger} {tr tr' : List LedgerTransaction} {b : StateRef} {host : Found Host}

/-- The client that any host makes of a relayer's message about a host tracks that host at every later
time, so it accepts what a node serves of the host then. -/
theorem Go.relayed_client_run (hA : A.Lawful P) (h₀ : l₀.Start) (hinj : P.toCrypto.UniqueNames)
    (hr : Run (Ledger.Step P LedgerTransaction.DistinctOutputs) l₀ tr l)
    (hsees : ops.vault.Sees l) {msg : MsgCreateClient}
    (hmsg : Go.createMsgCreateClient ops A = .ok msg)
    (hr' : Run (Ledger.Step P LedgerTransaction.DistinctOutputs) l tr' l')
    (h : Ready P K ops' (tr ++ tr') l' b host)
    (hbase : ops.resolveBaseId none = .ok b) {other : Host} {cs : CordaClientState}
    (hcreate : other.createClientState P msg.clientState msg.consensusState = .ok (.corda cs)) :
    cs.Tracks host.data := by
  obtain ⟨hi, -⟩ := Ledger.Homogeneous.run hinj h₀ hr
  simp only [Go.createMsgCreateClient, HostService.queryHost, Result.bind_ok, hbase,
    Except.ok.injEq] at hmsg
  obtain ⟨res, ⟨b', rfl, found, hfound, rfl⟩, rfl⟩ := hmsg
  have hq := (ServiceHub.queryLinear_iff hi hsees named_host).1
    (singleOrNull_eq_some.2 (single_ok.1 hfound))
  obtain ⟨hb, -⟩ := Prod.mk.inj (Option.some.inj hq.key)
  have hi' : l'.Inv := (Ledger.Homogeneous.run hinj h₀ (hr.append hr')).1
  have hq' := (ServiceHub.queryLinear_iff hi' h.sees named_host).1 h.host_eq
  obtain ⟨hb', -⟩ := Prod.mk.inj (Option.some.inj hq'.key)
  have hnotary := Ledger.host_run hinj hi hr' hq.lookup hq'.lookup (hb'.trans hb.symm)
  have hmade : (IbcClientState.create other hostId (.corda cs)).Made P cs :=
    made_of_createClientState hcreate
  rw [hmade.tracks_iff]
  refine ⟨⟨found.data.baseId.txhash.bytes, found.data.baseId.index,
    found.data.notary.owningKey.encoded⟩, ?_, ?_, ?_⟩
  · show P.unpackCordaClientState cs.anyClientState = _
    rw [CordaClientState.any_of_create hcreate]
    exact hA.clientState _
  · exact hb.trans hb'.symm
  · rw [hnotary]
    exact hA.publicKey _

end

/-! ## A host with an open channel -/

namespace ServedHost
open Sample

def packNat (n : Nat) : Bytes := List.replicate n 1 ++ [0]

def unpackNat : Bytes → Option (Nat × Bytes)
  | 0 :: bytes => some (0, bytes)
  | 1 :: bytes => (unpackNat bytes).map fun r => (r.1 + 1, r.2)
  | _ => none

theorem unpackNat_packNat (n : Nat) (bytes : Bytes) :
    unpackNat (packNat n ++ bytes) = some (n, bytes) := by
  induction n with
  | zero => rfl
  | succ n ih =>
    show (unpackNat (packNat n ++ bytes)).map _ = _
    rw [ih]
    rfl

def anyCodec : Go.AnyCodec where
  clientState c := packNat c.txhash.length ++ (packNat c.index ++ (c.txhash ++ c.notaryKey))
  consensusState := []

def unpackClientState (any : Any) : Option Corda.ClientState := do
  let (length, bytes) ← unpackNat any.value
  let (index, bytes) ← unpackNat bytes
  some ⟨bytes.take length, index, bytes.drop length⟩

theorem unpackClientState_anyCodec (url : String) (c : Corda.ClientState) :
    unpackClientState ⟨url, anyCodec.clientState c⟩ = some c := by
  simp [unpackClientState, anyCodec, unpackNat_packNat]

/-- The platform of the samples, which also unpacks what relayers pack. -/
def platform (proofs : List SignedTransaction) : Platform :=
  { Sample.platform proofs [] with
    unpackCordaClientState := fun any => match unpackClientState any with
      | some c => .ok c
      | none => (Sample.platform proofs []).unpackCordaClientState any }

/-- A host, and then its client, an open connection and an open channel. -/
def script (P : Platform) :
    Result ((List LedgerTransaction × Ledger) × List LedgerTransaction × Ledger) := do
  let (tr, l) ← runScript P 1 start [hostCreate "jp.datachain.corda.ibc.ics26.NopModule"]
  let x ← runScript P 2 l (openChannel 2 (out 1 0))
  .ok ((tr, l), x)

def transactions (P : Platform) : List LedgerTransaction :=
  match script P with
  | .ok ((tr, _), tr', _) => tr ++ tr'
  | .error _ => []

/-- A proof is the number of a transaction in a table. -/
def codecOf (served : List SignedTransaction) : ProofCodec where
  serialize stx := [UInt8.ofNat (served.idxOf stx)]
  componentGroups tx := tx.id.bytes

/-- A transaction with the signature of its notary. -/
def signed (tx : LedgerTransaction) : VerifiedTransaction :=
  { tx, sigs := [⟨tx.notary.owningKey.encoded ++ tx.id.bytes, tx.notary.owningKey, [], none⟩]
    sigs_nonempty := List.cons_ne_nil _ _ }

/-- The proof of the handshake comes first. -/
def served : List SignedTransaction :=
  handshake :: (transactions (platform [handshake])).map fun tx => (signed tx).filtered (codecOf [])

def K : ProofCodec := codecOf served

def P : Platform := platform served

/-- The node of the host, which keeps the transactions. -/
def ops (tr : List LedgerTransaction) : CordaRPCOps where
  vault := tr.foldl ServiceHub.record Ledger.RepeatedOutputs.hub
  internalFindVerifiedTransaction id := (tr.find? fun tx => tx.id = id).map signed

/-- What the node relies on of a transaction. -/
def Fit (tx : LedgerTransaction) : Prop :=
  tx.DistinctOutputs ∧ (signed tx).verifyRequiredSignatures P = .ok () ∧
    P.deserialize (K.serialize ((signed tx).filtered K)) = .ok ((signed tx).filtered K)

instance (tx : LedgerTransaction) : Decidable (Fit tx) := by
  unfold Fit
  infer_instance

/-- The state of a class at a reference. -/
def stateAt (T : Type) [StateClass T] (l : Ledger) (r : StateRef) : Option T :=
  (l.states.lookup r).bind fun s => cast? s.data

theorem stateAt_eq_some {T : Type} [StateClass T] {l : Ledger} {r : StateRef} {t : T} :
    stateAt T l r = some t ↔ ∃ n, l.states.lookup r = some ⟨up t, n⟩ := by
  simp only [stateAt, Option.bind_eq_some_iff, cast?_eq]
  constructor
  · rintro ⟨⟨data, n⟩, hl, rfl⟩
    exact ⟨n, hl⟩
  · rintro ⟨n, hl⟩
    exact ⟨_, hl, rfl⟩

/-- The client that another host makes of the answer of the node. -/
def relayed (tr : List LedgerTransaction) : Result (MsgCreateClient × ClientState) := do
  let msg ← Go.createMsgCreateClient (ops tr) anyCodec
  .ok (msg, ← (host 2).createClientState P msg.clientState msg.consensusState)

/-- The node is fit to serve what the script leaves. -/
def Good (tr tr' : List LedgerTransaction) (l : Ledger) : Prop :=
  (∀ tx ∈ tr ++ tr', Fit tx) ∧ ((tr ++ tr').map (·.id)).Nodup ∧
    ((ops (tr ++ tr')).vault.queryIbcHost (base 1)).isSome ∧
    (stateAt IbcConnection l (out 4 0)).any (·.baseId = base 1) ∧
    (stateAt IbcChannel l (out 6 0)).any (·.baseId = base 1) ∧
    (stateAt IbcClientState l (out 2 1)).any (·.baseId = base 1) ∧
    (ops tr).resolveBaseId none = .ok (base 1) ∧
    match relayed tr with
      | .ok (_, .corda _) => True
      | _ => False

instance (tr tr' : List LedgerTransaction) (l : Ledger) : Decidable (Good tr tr' l) := by
  unfold Good
  split <;> infer_instance

theorem script_good : (fun x => decide (Good x.1.1 x.2.1 x.2.2)) <$> script P = .ok true := by
  decide +kernel

theorem find_transaction {txs : List LedgerTransaction} (hn : (txs.map (·.id)).Nodup)
    {tx : LedgerTransaction} (htx : tx ∈ txs) : txs.find? (fun tx' => tx'.id = tx.id) = some tx := by
  induction txs with
  | nil => cases htx
  | cons tx' txs ih =>
    obtain ⟨hnot, hn⟩ := List.nodup_cons.1 hn
    rcases List.mem_cons.1 htx with rfl | htx
    · exact List.find?_cons_of_pos (by simp)
    · rw [List.find?_cons_of_neg, ih hn htx]
      simp only [decide_eq_true_eq]
      intro he
      exact hnot (List.mem_map.2 ⟨tx, htx, he.symm⟩)

theorem carries {tx : LedgerTransaction} (h : Fit tx) : K.Carries P (signed tx) :=
  ⟨h.2.2, List.cons_ne_nil _ _, require_ok.2 rfl⟩

/-- A run in two parts, and what the node is like at its end. -/
theorem exists_ready : ∃ tr l tr' l' found,
    Run (Ledger.Step P LedgerTransaction.DistinctOutputs) start tr l ∧
    Run (Ledger.Step P LedgerTransaction.DistinctOutputs) l tr' l' ∧
    (ops tr).vault.Sees l ∧ (ops (tr ++ tr')).Ready P K (tr ++ tr') l' (base 1) found ∧
    Good tr tr' l' := by
  obtain ⟨⟨⟨tr, l⟩, tr', l'⟩, hscript, htrue⟩ := Result.map_ok.1 script_good
  have hgood : Good tr tr' l' := of_decide_eq_true htrue
  clear htrue
  simp only [script, Result.bind_ok, Except.ok.injEq, Prod.mk.injEq] at hscript
  obtain ⟨⟨tr, l⟩, hfirst, ⟨tr', l'⟩, hsecond, ⟨rfl, rfl⟩, rfl, rfl⟩ := hscript
  have hall := hgood
  obtain ⟨hfit, hids, hhost, -⟩ := hall
  have hr := run_of_script hfirst (fun tx htx => (hfit tx (List.mem_append_left _ htx)).1) .nil
  have hr' := run_of_script hsecond (fun tx htx => (hfit tx (List.mem_append_right _ htx)).1) .nil
  rw [List.nil_append] at hr hr'
  obtain ⟨found, hfound⟩ := Option.isSome_iff_exists.1 hhost
  have hsees := Ledger.RepeatedOutputs.sees_start
  refine ⟨tr, l, tr', l', found, hr, hr', hsees.run uniqueNames start_start hr,
    ⟨uniqueNames, hsees.run uniqueNames start_start (hr.append hr'), fun tx htx => ?_, hfound⟩, hgood⟩
  refine ⟨signed tx, ?_, rfl, (hfit tx htx).2.1, carries (hfit tx htx)⟩
  show ((tr ++ tr').find? _).map signed = _
  rw [find_transaction hids htx]
  rfl

theorem exists_stateAt {T : Type} [StateClass T] {l : Ledger} {r : StateRef} {p : T → Bool}
    (h : (stateAt T l r).any p) : ∃ n t, l.states.lookup r = some ⟨up t, n⟩ ∧ p t = true := by
  obtain ⟨t, ht, hp⟩ := (Option.any_eq_true ..).1 h
  obtain ⟨n, hl⟩ := stateAt_eq_some.1 ht
  exact ⟨n, t, hl, hp⟩

/-- The node serves the connection of the script. -/
theorem connection_run_serving : ∃ (ops : CordaRPCOps) (conn : IbcConnection) (proof : CommitmentProof),
    ConnectionQueryService.connection P K ops (some (base 1)) conn.id.id =
      .ok ⟨conn.end_, proof.bytes, HEIGHT⟩ := by
  obtain ⟨tr, l, tr', l', found, hr, hr', -, h, -, -, -, hconn, -⟩ := exists_ready
  obtain ⟨n, conn, hl, hbase⟩ := exists_stateAt hconn
  obtain ⟨proof, hproof, -⟩ := (ConnectionQueryService.connection_run h start_start
    (hr.append hr')).1 _ n conn hl (of_decide_eq_true hbase) rfl
  exact ⟨_, conn, proof, hproof⟩

def serializer : ChannelQueryService.Serializer where
  packet packet := packet.data
  acknowledgement _ := []

/-- The node serves the channel of the script. -/
theorem channel_run_serving : ∃ (ops : CordaRPCOps) (chan : IbcChannel) (proof : CommitmentProof),
    ChannelQueryService.channel P K ops (some (base 1)) chan.portId.id chan.id.id =
      .ok ⟨chan.end_, proof.bytes, HEIGHT⟩ := by
  obtain ⟨tr, l, tr', l', found, hr, hr', -, h, -, -, -, -, hchan, -⟩ := exists_ready
  obtain ⟨n, chan, hl, hbase⟩ := exists_stateAt hchan
  obtain ⟨proof, hproof, -⟩ := (ChannelQueryService.channel_run serializer h start_start
    (hr.append hr')).1 _ n chan hl (of_decide_eq_true hbase) rfl
  exact ⟨_, chan, proof, hproof⟩

/-- The node serves the client of the script. -/
theorem client_run_serving : ∃ (ops : CordaRPCOps) (client : IbcClientState) (proof : CommitmentProof),
    ClientQueryService.clientState P K ops (some (base 1)) client.id.id =
      .ok ⟨client.anyClientState, proof.bytes, HEIGHT⟩ := by
  obtain ⟨tr, l, tr', l', found, hr, hr', -, h, -, -, -, -, -, hclient, -⟩ := exists_ready
  obtain ⟨n, client, hl, hbase⟩ := exists_stateAt hclient
  obtain ⟨proof, hproof, -⟩ := ClientQueryService.client_run h start_start (hr.append hr') hl
    (of_decide_eq_true hbase)
  exact ⟨_, client, proof, hproof⟩

theorem lawful_anyCodec : anyCodec.Lawful P := by
  refine ⟨fun c => ?_, fun key => rfl⟩
  show (match unpackClientState ⟨_, anyCodec.clientState c⟩ with
    | some c => Except.ok c
    | none => _) = _
  rw [unpackClientState_anyCodec]

/-- A client made while the host was new tracks the host with its channel. -/
theorem relayed_client_run_serving : ∃ (ops : CordaRPCOps) (host : Found Host) (cs : CordaClientState),
    ops.vault.queryIbcHost (base 1) = some host ∧ cs.Tracks host.data := by
  obtain ⟨tr, l, tr', l', found, hr, hr', hsees, h, -, -, -, -, -, -, hbase, hmade⟩ := exists_ready
  split at hmade
  · rename_i msg cs hrelayed
    simp only [relayed, Result.bind_ok, Except.ok.injEq, Prod.mk.injEq] at hrelayed
    obtain ⟨msg, hmsg, cs, hcreate, rfl, rfl⟩ := hrelayed
    exact ⟨_, found, _, h.host_eq, Go.relayed_client_run lawful_anyCodec start_start uniqueNames hr
      hsees hmsg hr' h hbase hcreate⟩
  · exact hmade.elim

end ServedHost

end CordaIbc
