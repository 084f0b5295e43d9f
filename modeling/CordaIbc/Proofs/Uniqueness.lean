import CordaIbc.Proofs.Accepted
import CordaIbc.Sample

/-!
# Identifiers are unique on the ledger

`Ledger.Inv`: two unconsumed states that are not fungible never share base id and identifier. It
holds in every run whose datagram transactions have distinct outputs, because then their outputs
are the set the handler built. The owner of every identifier is the one unconsumed host of its base
id, and the base id itself is a consumed genesis.
-/

namespace CordaIbc

open StateClass ContractState

namespace Ledger

/-- At most one unconsumed state has a key. -/
def Unique (l : Ledger) : Prop :=
  ∀ r r' s s' k, l.states.lookup r = some s → l.states.lookup r' = some s' →
    s.data.key? = some k → s'.data.key? = some k → r = r'

/-- A consumed state that is not fungible has exactly one successor in the transaction. -/
def Succeeds (tx : LedgerTransaction) : Prop :=
  ∀ s ∈ tx.inputStates, ∀ k, s.key? = some k →
    ∃! j : Nat, ∃ o : ContractState, tx.outputs[j]? = some o ∧ o.key? = some k

structure Inv (l : Ledger) : Prop where
  known : ∀ r s, l.states.lookup r = some s → r.txhash ∈ l.txs
  base : ∀ r s b i, l.states.lookup r = some s → s.data.key? = some (b, i) →
    b.txhash ∈ l.txs ∧ l.states.lookup b = none
  owner : ∀ r s b i, l.states.lookup r = some s → s.data.key? = some (b, i) →
    ∃ r' n h, l.states.lookup r' = some ⟨.host h, n⟩ ∧ h.baseId = b ∧ h.Owns s.data
  unique : l.Unique

theorem Start.inv {l : Ledger} (h : l.Start) : l.Inv := by
  have hno : ∀ r s k, l.states.lookup r = some s → s.data.key? ≠ some k := fun r s k hl hk => by
    obtain ⟨g, hg⟩ := h.genesis r s hl
    rw [hg] at hk
    cases hk
  exact ⟨h.known, fun r s b i hl hk => absurd hk (hno r s _ hl),
    fun r s b i hl hk => absurd hk (hno r s _ hl),
    fun r r' s s' k hl _ hk _ => absurd hk (hno r s _ hl)⟩

section
variable {P : Platform} {l l' : Ledger} {tx : LedgerTransaction}

theorem Commits.accepted (hinj : P.toCrypto.UniqueNames) (hc : Commits P l tx) (hn : tx.DistinctOutputs) :
    Accepted tx := by
  cases ht : tx.touchesIbc with
  | false => exact accepted_of_other ht
  | true =>
    rcases verify_cases (hc.verify ht) with hm | ⟨handler, signers, hm, hd⟩
    · exact accepted_of_misc hm
    · obtain ⟨ctx', he, hv⟩ := verify_datagram hm hd (hc.verify ht)
      exact accepted_of_datagram hinj he hv (hn (by simp [hd]))

/-- A consumed state is an unconsumed state of the ledger before. -/
theorem Commits.exists_ref (hc : Commits P l tx) {s : ContractState} (hs : s ∈ tx.inputStates) :
    ∃ r n, r ∈ tx.inputs.map (·.ref) ∧ l.states.lookup r = some ⟨s, n⟩ := by
  obtain ⟨t, ht, rfl⟩ := List.mem_map.1 hs
  exact ⟨t.ref, t.state.notary, List.mem_map_of_mem ht, hc.inputs t ht⟩

theorem Commits.mem_inputStates (hc : Commits P l tx) {r : StateRef} {s : TransactionState}
    (hr : r ∈ tx.inputs.map (·.ref)) (hl : l.states.lookup r = some s) : s.data ∈ tx.inputStates := by
  obtain ⟨t, ht, rfl⟩ := List.mem_map.1 hr
  rw [hc.inputs t ht] at hl
  cases hl
  exact List.mem_map_of_mem ht

/-- A base id that is consumed stays so. -/
theorem Commits.base_apply (hc : Commits P l tx) {b : StateRef} (hb : b.txhash ∈ l.txs)
    (hl : l.states.lookup b = none ∨ b ∈ tx.inputs.map (·.ref)) :
    b.txhash ∈ (l.apply tx).txs ∧ (l.apply tx).states.lookup b = none := by
  refine ⟨List.mem_cons_of_mem _ hb, ?_⟩
  rw [lookup_apply_of_ne fun he => hc.fresh (he ▸ hb)]
  split
  · rfl
  · exact hl.resolve_right ‹_›

section
variable (hi : l.Inv) (hc : Commits P l tx) (ha : Accepted tx)
include hi hc

/-- No keyed state has an unconsumed genesis for its base. -/
theorem Inv.not_genesis {r : StateRef} {s : TransactionState} {b : StateRef} {i : Identifier}
    (hl : l.states.lookup r = some s) (hk : s.data.key? = some (b, i)) {t : StateAndRef}
    (ht : t ∈ tx.inputs) : t.ref ≠ b := fun he => by
  have h₁ := (hi.base r s b i hl hk).2
  rw [← he, hc.inputs t ht] at h₁
  cases h₁

include ha

/-- A consumed state is updated by its successor. -/
theorem Inv.exists_updates {s : ContractState} (hs : s ∈ tx.inputStates) {k : StateRef × Identifier}
    (hk : s.key? = some k) : ∃ o ∈ tx.outputs, o.key? = some k ∧ Updates s o := by
  obtain ⟨o, ho, hok⟩ := ha.successor s hs k hk
  obtain ⟨b, i⟩ := k
  obtain ⟨r, n, -, hl⟩ := hc.exists_ref hs
  refine ⟨o, ho, hok, ?_⟩
  cases ha.origin o ho b i hok with
  | @input t ht hkt hu =>
    obtain ⟨r₁, n₁, -, hl₁⟩ := hc.exists_ref ht
    -- the input it follows has the key of `s`, so it is `s`
    obtain rfl := hi.unique _ _ _ _ _ hl hl₁ hk (hkt.trans hok)
    rw [hl] at hl₁
    cases hl₁
    exact hu
  | @minted h h' hh _ hb _ hm _ =>
    obtain ⟨r₁, n₁, h₁, hl₁, hb₁, hown⟩ := hi.owner _ _ _ _ hl hk
    obtain ⟨r₂, n₂, -, hl₂⟩ := hc.exists_ref hh
    -- the host that minted the output is the one that owns `s`
    obtain rfl := hi.unique _ _ _ _ _ hl₁ hl₂ (by rw [hostKey, hb₁]) (by rw [hostKey, hb])
    rw [hl₁] at hl₂
    cases hl₂
    exact absurd (id_of_key hok) (hown.id_ne hm (id_of_key hk))
  | genesis hg ho =>
    obtain ⟨t, ht, hb, -⟩ := hg
    exact absurd hb (hi.not_genesis hc hl hk ht)

/-- The host of a base id goes on, consumed or not. -/
theorem Inv.host_apply {r : StateRef} {n : Party} {h : Host}
    (hl : l.states.lookup r = some ⟨.host h, n⟩) :
    ∃ r' n' h', (l.apply tx).states.lookup r' = some ⟨.host h', n'⟩ ∧
      Updates (.host h) (.host h') := by
  by_cases hr : r ∈ tx.inputs.map (·.ref)
  · obtain ⟨o, ho, -, hu⟩ := hi.exists_updates hc ha (hc.mem_inputStates hr hl) (hostKey h)
    obtain ⟨j, hj⟩ := List.mem_iff_getElem?.1 ho
    cases o <;> first | exact hu.elim | skip
    case host h' => exact ⟨_, _, h', lookup_apply_output hj, hu⟩
  · refine ⟨r, n, h, ?_, updates_host_refl h⟩
    rw [lookup_apply_of_ne fun he => hc.fresh (he ▸ hi.known _ _ hl), if_neg hr, hl]

/-- Every output with a key is owned by a host, before or after. -/
theorem Inv.owned {o : ContractState} (ho : o ∈ tx.outputs) {b : StateRef} {i : Identifier}
    (hk : o.key? = some (b, i)) :
    ∃ r n h, (l.apply tx).states.lookup r = some ⟨.host h, n⟩ ∧ h.baseId = b ∧ h.Owns o := by
  cases ha.origin o ho b i hk with
  | input hs hks hu =>
    obtain ⟨r, n, -, hl⟩ := hc.exists_ref hs
    obtain ⟨r₁, n₁, h, hl₁, rfl, hown⟩ := hi.owner _ _ _ _ hl (hks.trans hk)
    obtain ⟨r', n', h', hl', hu'⟩ := hi.host_apply hc ha hl₁
    exact ⟨r', n', h', hl', hu'.2.1.symm, (hown.updates hu).mono hu'⟩
  | @minted h h' hh hh' hb hu hm hown =>
    obtain ⟨j, hj⟩ := List.mem_iff_getElem?.1 hh'
    exact ⟨_, _, h', lookup_apply_output hj, hu.2.1.symm.trans hb, hown⟩
  | @genesis h g hg hoh =>
    subst hoh
    obtain ⟨j, hj⟩ := List.mem_iff_getElem?.1 ho
    exact ⟨_, _, h, lookup_apply_output hj, by cases hk; rfl, trivial⟩

/-- No state left over has the key of an output. -/
theorem Inv.key_ne {r : StateRef} {s : TransactionState} {o : ContractState}
    {k : StateRef × Identifier} (hr : r ∉ tx.inputs.map (·.ref)) (hl : l.states.lookup r = some s)
    (hk : s.data.key? = some k) (ho : o ∈ tx.outputs) : o.key? ≠ some k := fun hok => by
  obtain ⟨b, i⟩ := k
  cases ha.origin o ho b i hok with
  | input hs hks _ =>
    obtain ⟨r₁, n₁, hr₁, hl₁⟩ := hc.exists_ref hs
    obtain rfl := hi.unique _ _ _ _ _ hl hl₁ hk (hks.trans hok)
    exact hr hr₁
  | @minted h h' hh _ hb _ hm _ =>
    obtain ⟨r₁, n₁, h₁, hl₁, hb₁, hown⟩ := hi.owner _ _ _ _ hl hk
    obtain ⟨r₂, n₂, -, hl₂⟩ := hc.exists_ref hh
    -- the host that minted the output is the one that owns the old state
    obtain rfl := hi.unique _ _ _ _ _ hl₁ hl₂ (by rw [hostKey, hb₁]) (by rw [hostKey, hb])
    rw [hl₁] at hl₂
    cases hl₂
    exact hown.id_ne hm (id_of_key hk) (id_of_key hok)
  | genesis hg _ =>
    obtain ⟨t, ht, hb, -⟩ := hg
    exact hi.not_genesis hc hl hk ht hb

theorem Inv.output_unique {j j' : Nat} {o o' : ContractState} {k : StateRef × Identifier}
    (hj : tx.outputs[j]? = some o) (hj' : tx.outputs[j']? = some o') (hk : o.key? = some k)
    (hk' : o'.key? = some k) : j = j' := by
  have hn : (tx.outputs.filterMap id?).Nodup := ids_nodup ha.cls fun s hs i hid => by
    obtain ⟨b, hb⟩ := key_of_id hid
    obtain ⟨_, _, h, -, -, hown⟩ := hi.owned hc ha hs hb
    exact ⟨h, hown⟩
  exact eq_of_nodup_filterMap hn hj hj' (id_of_key (b := k.1) (i := k.2) hk)
    (id_of_key (b := k.1) (i := k.2) hk')

theorem Inv.succeeds : Succeeds tx := fun s hs k hk => by
  obtain ⟨o, ho, hok⟩ := ha.successor s hs k hk
  obtain ⟨j, hj⟩ := List.mem_iff_getElem?.1 ho
  exact ⟨j, ⟨o, hj, hok⟩, fun j' ⟨o', hj', hok'⟩ => hi.output_unique hc ha hj' hj hok' hok⟩

theorem Inv.apply : (l.apply tx).Inv := by
  refine ⟨fun r s h => ?_, fun r s b i h hk => ?_, fun r s b i h hk => ?_,
    fun r r' s s' k h h' hk hk' => ?_⟩
  · rcases lookup_apply_cases h with ⟨he, -⟩ | ⟨-, h⟩
    · rw [he]; exact List.mem_cons_self
    · exact List.mem_cons_of_mem _ (hi.known r s h)
  · rcases lookup_apply_cases h with ⟨-, hj⟩ | ⟨-, h⟩
    · cases ha.origin _ (List.mem_of_getElem? hj) b i hk with
      | input hs hks _ =>
        obtain ⟨r₁, n₁, -, hl₁⟩ := hc.exists_ref hs
        obtain ⟨hb, hl⟩ := hi.base _ _ _ _ hl₁ (hks.trans hk)
        exact hc.base_apply hb (.inl hl)
      | minted hh _ hb _ _ _ =>
        obtain ⟨r₁, n₁, -, hl₁⟩ := hc.exists_ref hh
        obtain ⟨hb', hl⟩ := hi.base _ _ _ _ hl₁ (hostKey _)
        rw [hb] at hb' hl
        exact hc.base_apply hb' (.inl hl)
      | genesis hg _ =>
        obtain ⟨t, ht, rfl, -⟩ := hg
        exact hc.base_apply (hi.known _ _ (hc.inputs t ht)) (.inr (List.mem_map_of_mem ht))
    · obtain ⟨hb, hl⟩ := hi.base r s b i h hk
      exact hc.base_apply hb (.inl hl)
  · rcases lookup_apply_cases h with ⟨-, hj⟩ | ⟨-, h⟩
    · exact hi.owned hc ha (List.mem_of_getElem? hj) hk
    · obtain ⟨r₁, n₁, h₁, hl₁, rfl, hown⟩ := hi.owner r s b i h hk
      obtain ⟨r', n', h', hl', hu⟩ := hi.host_apply hc ha hl₁
      exact ⟨r', n', h', hl', hu.2.1.symm, hown.mono hu⟩
  · rcases lookup_apply_cases h with ⟨he, hj⟩ | ⟨hr, hl⟩ <;>
      rcases lookup_apply_cases h' with ⟨he', hj'⟩ | ⟨hr', hl'⟩
    · have := hi.output_unique hc ha hj hj' hk hk'
      cases r; cases r'; simp_all
    · exact absurd hk (hi.key_ne hc ha hr' hl' hk' (List.mem_of_getElem? hj))
    · exact absurd hk' (hi.key_ne hc ha hr hl hk (List.mem_of_getElem? hj'))
    · exact hi.unique _ _ _ _ _ hl hl' hk hk'

end

/-- What a run of datagrams with distinct outputs keeps. -/
theorem Inv.run {l₀ : Ledger} {tr : List LedgerTransaction} (hinj : P.toCrypto.UniqueNames)
    (h₀ : l₀.Start) (hr : Run (Step P LedgerTransaction.DistinctOutputs) l₀ tr l) :
    l.Inv ∧ ∀ tx ∈ tr, Succeeds tx := by
  refine hr.invariant (I := fun tr l => l.Inv ∧ ∀ tx ∈ tr, Succeeds tx) ⟨h₀.inv, nofun⟩ ?_
  rintro tr l tx l' - ⟨hi, hs⟩ ⟨hn, hcommit⟩
  obtain ⟨hc, rfl⟩ := commit_ok.1 hcommit
  have ha := hc.accepted hinj hn
  refine ⟨hi.apply hc ha, fun t ht => ?_⟩
  rcases List.mem_append.1 ht with ht | ht
  · exact hs t ht
  · rw [List.mem_singleton.1 ht]
    exact hi.succeeds hc ha

/-- The outputs of an accepted datagram are the handler's set, as a multiset, exactly when they are
distinct; and a ledger all of whose datagrams have distinct outputs never has two unconsumed states
of one key, nor a consumed one without exactly one successor. -/
theorem outputs_exact (hinj : P.toCrypto.UniqueNames) :
    (∀ tx handler signers, tx.miscCommands = [] →
      tx.datagramHandlerCommands = [(handler, signers)] → Ibc.verify P tx = .ok () →
      ∃ ctx', handler.execute P (.create tx.inputStates tx.referenceStates) signers = .ok ctx' ∧
        (tx.outputs.Perm ctx'.outStates.states ↔ tx.outputs.Nodup)) ∧
    ∀ l₀ tr l, Start l₀ → Run (Step P LedgerTransaction.DistinctOutputs) l₀ tr l →
      l.Unique ∧ ∀ tx ∈ tr, Succeeds tx := by
  constructor
  · intro tx handler signers hm hd hv
    obtain ⟨ctx', he, hr⟩ := verify_datagram hm hd hv
    exact ⟨ctx', he, Context.perm_iff_nodup hr.length hr.subset⟩
  · intro l₀ tr l h₀ hr
    obtain ⟨hi, hs⟩ := Inv.run hinj h₀ hr
    exact ⟨hi.unique, hs⟩

end

/-! ### Repeated outputs -/

namespace RepeatedOutputs
open Sample

def P : Platform := platform [] []

def host : Host :=
  { participants := [notary 1], baseId := base 1, notary := notary 1, nextClientSequence := 0
    nextConnectionSequence := 0, nextChannelSequence := 0, modules := ∅
    clientStateFactories := (∅ : Finmap fun _ => ClientStateFactory).insert
      "ibc.lightclients.corda.v1.ClientState" .corda, bankIds := [] }

def nextHost : Host := { host with nextClientSequence := 1 }

def client : IbcClientState :=
  .create host (Host.clientIdentifier .cordaClient 0)
    (.corda { anyClientState := clientState 2
              anyConsensusStates := (∅ : Finmap fun _ => Any).insert HEIGHT ⟨"", []⟩
              counterpartyBaseId := base 2, counterpartyNotaryKey := (notary 2).owningKey })

def createHost : LedgerTransaction :=
  { id := ⟨[2]⟩, notary := notary 1, inputs := [⟨⟨.genesis ⟨[notary 1]⟩, notary 1⟩, base 1⟩], references := []
    outputs := [.host host], commands := [⟨.misc (.hostCreate [] clientStateFactoryNames), []⟩] }

def msg : MsgCreateClient := ⟨clientState 2, ⟨"", []⟩⟩

/-- A `HandleClientCreate` with the given outputs. -/
def clientCreate (outputs : List ContractState) : LedgerTransaction :=
  { id := ⟨[3]⟩, notary := notary 1, inputs := [⟨⟨.host host, notary 1⟩, ⟨⟨[2]⟩, 0⟩⟩]
    references := [], outputs, commands := [⟨.datagram (.handleClientCreate msg), []⟩] }

/-- The next host twice, and no client. -/
def hostTwice : LedgerTransaction := clientCreate [.host nextHost, .host nextHost]

def hostAndClient : LedgerTransaction := clientCreate [.host nextHost, .client client]

theorem commit_createHost : start.commit P createHost = .ok (start.apply createHost) :=
  commit_ok.2 ⟨⟨by decide, by decide, by decide, by decide, by decide, by decide, fun _ => by decide⟩,
    rfl⟩

/-- The contract accepts a `HandleClientCreate` that outputs the host twice. -/
theorem host_twice : start.Start ∧
    Run (Step P fun _ => True) start [createHost, hostTwice]
      ((start.apply createHost).apply hostTwice) ∧
    ¬ ((start.apply createHost).apply hostTwice).Unique ∧ ¬ Succeeds hostTwice ∧
    Ibc.verify P hostTwice = .ok () ∧
    ∃ ctx', (DatagramHandler.handleClientCreate msg).execute P
      (.create hostTwice.inputStates hostTwice.referenceStates) [] = .ok ctx' ∧
      ¬ hostTwice.outputs.Perm ctx'.outStates.states := by
  have hv : Ibc.verify P hostTwice = .ok () := by decide
  refine ⟨start_start, ?_, fun h => ?_, fun h => ?_, hv, ?_⟩
  · have h₁ : Run (Step P fun _ => True) start [createHost] (start.apply createHost) :=
      .snoc .nil ⟨trivial, commit_createHost⟩
    exact .snoc h₁ ⟨trivial, commit_ok.2 ⟨⟨by decide, by decide, by decide, by decide, by decide,
      by decide, fun _ => hv⟩, rfl⟩⟩
  · have h₁ := h ⟨⟨[3]⟩, 0⟩ ⟨⟨[3]⟩, 1⟩ _ _ (base 1, hostId)
      (lookup_apply_output (by rfl)) (lookup_apply_output (by rfl)) rfl rfl
    exact absurd h₁ (by decide)
  · obtain ⟨j, -, hj⟩ := h (.host host) (by decide) (base 1, hostId) rfl
    have h₀ := hj 0 ⟨.host nextHost, rfl, rfl⟩
    have h₁ := hj 1 ⟨.host nextHost, rfl, rfl⟩
    exact absurd (h₀.trans h₁.symm) (by decide)
  · obtain ⟨ctx', he, hr⟩ := @verify_datagram P hostTwice (.handleClientCreate msg) [] rfl rfl hv
    exact ⟨ctx', he, fun hp => absurd ((Context.perm_iff_nodup hr.length hr.subset).1 hp) (by decide)⟩

end RepeatedOutputs

open RepeatedOutputs Sample in
/-- A run whose datagram has distinct outputs. -/
theorem outputs_exact_hostAndClient :
    ((start.apply createHost).apply hostAndClient).Unique ∧ Succeeds hostAndClient ∧
      ∃ ctx', (DatagramHandler.handleClientCreate msg).execute P
        (.create hostAndClient.inputStates hostAndClient.referenceStates) [] = .ok ctx' ∧
        hostAndClient.outputs.Perm ctx'.outStates.states := by
  have hv : Ibc.verify P hostAndClient = .ok () := by decide
  have h := outputs_exact (P := P) Sample.uniqueNames
  have h₁ : Run (Step P LedgerTransaction.DistinctOutputs) start [createHost]
      (start.apply createHost) := .snoc .nil ⟨fun _ => by decide, commit_createHost⟩
  have h₂ : Run (Step P LedgerTransaction.DistinctOutputs) start [createHost, hostAndClient]
      ((start.apply createHost).apply hostAndClient) :=
    .snoc h₁ ⟨fun _ => by decide, commit_ok.2 ⟨⟨by decide, by decide, by decide, by decide, by decide,
      by decide, fun _ => hv⟩, rfl⟩⟩
  obtain ⟨hu, hs⟩ := h.2 _ _ _ start_start h₂
  obtain ⟨ctx', he, hp⟩ := h.1 hostAndClient (.handleClientCreate msg) [] rfl rfl hv
  exact ⟨hu, hs _ (by simp), ctx', he, hp.2 (by decide)⟩

end Ledger

end CordaIbc
