import CordaIbc.Proofs.Participants
import CordaIbc.Proofs.Picks

/-!
# What a vault query finds (workflows, `queryIbcState` and its siblings)

A flow asks its vault for the state of a base id and an identifier, and gives up unless it finds
exactly one. No query is ambiguous on a reachable ledger: it finds the state that is there, if the node
participates in it (`queryIbcState_iff`, `queryLinear_iff`). A node that participates in a host sees
every state of that host (`ServiceHub.query_run`). A vault that records each transaction keeps showing
the ledger (`Sees.record`).
-/

namespace CordaIbc

open StateClass ContractState

theorem singleOrNull_iff_mem {α : Type} {l : List α} {a : α} (hn : l.Nodup)
    (hu : ∀ b ∈ l, b = a) : singleOrNull l = some a ↔ a ∈ l := by
  rw [singleOrNull_eq_some]
  constructor
  · rintro rfl
    exact List.mem_singleton_self a
  · intro ha
    rcases l with _ | ⟨b, _ | ⟨c, l⟩⟩
    · cases ha
    · rw [hu b List.mem_cons_self]
    · have hbc : b = c := (hu b (by simp)).trans (hu c (by simp)).symm
      simp [hbc] at hn

/-- Every state of the class has a key. -/
def Keyed (T : Type) [StateClass T] : Prop := ∀ t : T, ∃ k, (up t).key? = some k

/-- Every state of the class has the identifier. -/
def Named (T : Type) [StateClass T] (i : Identifier) : Prop := ∀ t : T, ∃ b, (up t).key? = some (b, i)

theorem named_host : Named Host hostId := fun _ => ⟨_, rfl⟩

theorem named_bank : Named Bank bankId := fun _ => ⟨_, rfl⟩

theorem named_cashBank : Named CashBank bankId := fun _ => ⟨_, rfl⟩

theorem keyed_client : Keyed IbcClientState := fun _ => ⟨_, rfl⟩

theorem keyed_connection : Keyed IbcConnection := fun _ => ⟨_, rfl⟩

theorem keyed_channel : Keyed IbcChannel := fun _ => ⟨_, rfl⟩

/-- A state with a key has participants. -/
theorem ContractState.participants_of_key {o : ContractState} {k : StateRef × Identifier}
    (h : o.key? = some k) : ∃ participants, o.participants? = some participants := by
  obtain ⟨b, i⟩ := k
  obtain ⟨t, ht, -⟩ := key_eq_some.1 h
  cases o <;> first | exact ⟨_, rfl⟩ | cases ht

namespace ServiceHub

/-- The ledger has the state under the key, and the node participates in it. -/
structure Knows {T : Type} [StateClass T] (hub : ServiceHub) (l : Ledger)
    (k : StateRef × Identifier) (found : Found T) : Prop where
  lookup : l.states.lookup found.ref = some ⟨up found.data, found.notary⟩
  key : (up found.data).key? = some k
  participates : ∃ participants, (up found.data).participants? = some participants ∧
    hub.ourIdentity ∈ participants

section
variable {hub : ServiceHub} {l : Ledger} {T : Type} [StateClass T] {found found' : Found T}
  {b : StateRef} {i : Identifier} {k : StateRef × Identifier}

theorem Sees.mem_iff (hs : hub.Sees l) (hk : (up found.data).key? = some k) :
    found.stateAndRef ∈ hub.states ↔ hub.Knows l k found := by
  obtain ⟨participants, hp⟩ := participants_of_key hk
  rw [show found.stateAndRef = ⟨⟨up found.data, found.notary⟩, found.ref⟩ from rfl,
    hs ⟨up found.data, found.notary⟩ found.ref participants hp]
  constructor
  · rintro ⟨hl, hour⟩
    exact ⟨hl, hk, participants, hp, hour⟩
  · rintro ⟨hl, -, participants', hp', hour⟩
    rw [hp] at hp'
    cases hp'
    exact ⟨hl, hour⟩

theorem has_iff (hs : hub.Sees l) (hT : Keyed T) :
    hub.Has b found ↔ ∃ i, hub.Knows l (b, i) found := by
  obtain ⟨⟨b', i'⟩, hk⟩ := hT found.data
  obtain ⟨t, ht, -, hb, -⟩ := key_eq_some.1 hk
  constructor
  · rintro ⟨hmem, j, hj, rfl⟩
    rw [ht] at hj
    cases hj
    subst hb
    exact ⟨i', (hs.mem_iff hk).1 hmem⟩
  · rintro ⟨i, h⟩
    obtain ⟨rfl, -⟩ := Prod.mk.inj (Option.some.inj (hk.symm.trans h.key))
    exact ⟨(hs.mem_iff hk).2 ⟨h.lookup, hk, h.participates⟩, t, ht, hb⟩

/-- A key stands for one state. -/
theorem Knows.unique (hi : l.Inv) (h : hub.Knows l k found) (h' : hub.Knows l k found') :
    found' = found := by
  have hr := hi.unique _ _ _ _ _ h'.lookup h.lookup h'.key h.key
  have hl := h'.lookup
  rw [hr, h.lookup] at hl
  obtain ⟨data, notary, ref⟩ := found
  obtain ⟨data', notary', ref'⟩ := found'
  obtain ⟨hdata, rfl⟩ := TransactionState.mk.inj (Option.some.inj hl)
  obtain rfl : ref' = ref := hr
  -- the class of a state is determined
  have hcast : cast? (up data) = some data := cast?_eq.2 rfl
  obtain rfl : data' = data := Option.some.inj ((cast?_eq.2 hdata).symm.trans hcast)
  rfl

theorem single_iff {states : List (Found T)} (hi : l.Inv) (hn : states.Nodup)
    (hmem : ∀ found, found ∈ states ↔ hub.Knows l k found) :
    singleOrNull states = some found ↔ hub.Knows l k found := by
  constructor
  · intro h
    rw [← hmem, singleOrNull_eq_some.1 h]
    exact List.mem_singleton_self _
  · intro h
    exact (singleOrNull_iff_mem hn fun found' h' => h.unique hi ((hmem found').1 h')).2 ((hmem _).2 h)

/-- A query goes by base id and linear id. -/
theorem mem_query {C : Crypto} (hinj : C.UniqueNames) (hs : hub.Sees l) (hT : Keyed T) :
    found ∈ (hub.queryLinear T b).filter (fun found =>
      (up found.data).ibc?.any fun j => j.linearId C = C.nameUUIDFromBytes i.id) ↔
      hub.Knows l (b, i) found := by
  rw [List.mem_filter, mem_queryLinear, has_iff hs hT, Option.any_eq_true]
  constructor
  · rintro ⟨⟨j, h⟩, t, ht, hlin⟩
    obtain ⟨u, hu, -, -, rfl⟩ := key_eq_some.1 h.key
    rw [ht] at hu
    cases hu
    obtain rfl : t.id = i := hinj (of_decide_eq_true hlin)
    exact h
  · intro h
    obtain ⟨t, ht, -, -, rfl⟩ := key_eq_some.1 h.key
    exact ⟨⟨_, h⟩, t, ht, decide_eq_true rfl⟩

/-- A query by base id and identifier finds what the ledger has under that key. -/
theorem queryIbcState_iff {C : Crypto} (hinj : C.UniqueNames) (hi : l.Inv) (hs : hub.Sees l)
    (hT : Keyed T) : hub.queryIbcState C T b i = some found ↔ hub.Knows l (b, i) found :=
  single_iff hi ((queryBy_nodup.filter _).filter _) fun _ => mem_query hinj hs hT

/-- So does a query for the one state of its class. -/
theorem queryLinear_iff (hi : l.Inv) (hs : hub.Sees l) (hT : Named T i) :
    singleOrNull (hub.queryLinear T b) = some found ↔ hub.Knows l (b, i) found := by
  refine single_iff hi (queryBy_nodup.filter _) fun found => ?_
  rw [mem_queryLinear, has_iff hs fun t => (hT t).imp' (·, i) fun _ h => h]
  constructor
  · rintro ⟨j, h⟩
    obtain ⟨b', hb⟩ := hT found.data
    obtain ⟨-, rfl⟩ := Prod.mk.inj (Option.some.inj (h.key.symm.trans hb))
    exact h
  · exact fun h => ⟨i, h⟩

end

/-- A node that finds a host finds every state of that host. -/
theorem query_run {P : Platform} {hub : ServiceHub} {l₀ l : Ledger} {tr : List LedgerTransaction}
    {T : Type} [StateClass T] {b : StateRef} {i : Identifier} {host : Found Host} {found : Found T}
    (hinj : P.toCrypto.UniqueNames) (h₀ : l₀.Start)
    (hr : Run (Ledger.Step P LedgerTransaction.DistinctOutputs) l₀ tr l)
    (hs : hub.Sees l) (hT : Keyed T) (hhost : hub.queryIbcHost b = some host) :
    hub.queryIbcState P.toCrypto T b i = some found ↔
      l.states.lookup found.ref = some ⟨up found.data, found.notary⟩ ∧
        (up found.data).key? = some (b, i) := by
  obtain ⟨hi, hh⟩ := Ledger.Homogeneous.run hinj h₀ hr
  have hknows := (queryLinear_iff hi hs named_host).1 hhost
  rw [queryIbcState_iff hinj hi hs hT]
  constructor
  · exact fun h => ⟨h.lookup, h.key⟩
  · rintro ⟨hl, hk⟩
    obtain ⟨rfl, -⟩ := Prod.mk.inj (Option.some.inj hknows.key)
    obtain ⟨hp, -⟩ := hh.alike _ _ _ _ hl hk _ _ _ hknows.lookup rfl
    obtain ⟨participants, hp', hour⟩ := hknows.participates
    obtain rfl : host.data.participants = participants := Option.some.inj hp'
    exact ⟨hl, hk, _, hp, hour⟩

/-! ## Recording transactions -/

/-- Whether the node participates in a state. -/
def participates (hub : ServiceHub) (s : StateAndRef) : Bool :=
  s.state.data.participants?.any fun participants => hub.ourIdentity ∈ participants

/-- The states that stay in the vault. -/
def unspent (hub : ServiceHub) (tx : LedgerTransaction) : List StateAndRef :=
  hub.states.filter fun s => s.state.data.participants?.isSome ∧ s.ref ∉ tx.inputs.map (·.ref)

/-- The states that the vault gains. -/
def gained (hub : ServiceHub) (tx : LedgerTransaction) : List StateAndRef :=
  (tx.produced.map fun e => (⟨e.2, e.1⟩ : StateAndRef)).filter fun s =>
    hub.participates s ∧ s.ref ∉ (hub.unspent tx).map (·.ref)

theorem record_distinct (hub : ServiceHub) (tx : LedgerTransaction) :
    ((hub.unspent tx ++ hub.gained tx).map (·.ref)).Nodup := by
  rw [List.map_append]
  refine List.Nodup.append ?_ ?_ ?_
  · exact hub.distinct.sublist (List.filter_sublist.map _)
  · have hn : ((tx.produced.map fun e => (⟨e.2, e.1⟩ : StateAndRef)).map (·.ref)).Nodup := by
      rw [List.map_map]
      exact LedgerTransaction.produced_nodup
    exact hn.sublist (List.filter_sublist.map _)
  · intro r hr hr'
    obtain ⟨s, hs, rfl⟩ := List.mem_map.1 hr'
    exact (of_decide_eq_true (List.mem_filter.1 hs).2).2 hr

/-- The vault after a transaction. -/
def record (hub : ServiceHub) (tx : LedgerTransaction) : ServiceHub :=
  { hub with states := hub.unspent tx ++ hub.gained tx, distinct := hub.record_distinct tx }

theorem mem_gained {hub : ServiceHub} {tx : LedgerTransaction} {s : StateAndRef} :
    s ∈ hub.gained tx ↔ (s.ref, s.state) ∈ tx.produced ∧ hub.participates s = true ∧
      s.ref ∉ (hub.unspent tx).map (·.ref) := by
  rw [gained, List.mem_filter, decide_eq_true_eq, List.mem_map]
  constructor
  · rintro ⟨⟨⟨r, t⟩, ht, rfl⟩, h⟩
    exact ⟨ht, h⟩
  · rintro ⟨ht, h⟩
    exact ⟨⟨_, ht, rfl⟩, h⟩

/-- A vault that shows a ledger shows it after a transaction that it records. -/
theorem Sees.record {P : Platform} {hub : ServiceHub} {l : Ledger} {tx : LedgerTransaction}
    (hs : hub.Sees l) (hc : Ledger.Commits P l tx)
    (hknown : ∀ r s, l.states.lookup r = some s → r.txhash ∈ l.txs) :
    (hub.record tx).Sees (l.apply tx) := by
  have hunspent : ∀ s r, (⟨s, r⟩ : StateAndRef) ∈ hub.unspent tx → r.txhash ∈ l.txs ∧
      (l.apply tx).states.lookup r = l.states.lookup r := by
    intro s r h
    obtain ⟨hmem, hp⟩ := List.mem_filter.1 h
    obtain ⟨hsome, hr⟩ := of_decide_eq_true hp
    obtain ⟨participants, hpart⟩ := Option.isSome_iff_exists.1 hsome
    have hl := ((hs s r participants hpart).1 hmem).1
    have hold := hknown _ _ hl
    refine ⟨hold, ?_⟩
    rw [Ledger.lookup_apply_of_ne fun he => hc.fresh (he ▸ hold), if_neg hr]
  intro s r participants hp
  constructor
  · intro h
    rcases List.mem_append.1 h with h | h
    · obtain ⟨-, hl⟩ := hunspent s r h
      rw [hl]
      exact (hs s r participants hp).1 (List.mem_filter.1 h).1
    · obtain ⟨hprod, hpart, -⟩ := mem_gained.1 h
      obtain ⟨hr, hout, hn⟩ := LedgerTransaction.mem_produced.1 hprod
      obtain ⟨txhash, index⟩ := r
      obtain ⟨data, notary⟩ := s
      obtain rfl : txhash = tx.id := hr
      obtain rfl : notary = tx.notary := hn
      refine ⟨Ledger.lookup_apply_output hout, ?_⟩
      show hub.ourIdentity ∈ participants
      simp only [ServiceHub.participates] at hpart
      rw [hp] at hpart
      simpa using hpart
  · rintro ⟨hl, hour⟩
    rcases Ledger.lookup_apply_cases hl with ⟨hr, hout⟩ | ⟨hr, hold⟩
    · refine List.mem_append_right _ (mem_gained.2 ⟨?_, ?_, fun hmem => ?_⟩)
      · exact LedgerTransaction.mem_produced.2 ⟨hr, hout, Ledger.output_notary hr hl hout⟩
      · have hour' : hub.ourIdentity ∈ participants := hour
        simp only [ServiceHub.participates]
        rw [hp]
        simpa using hour'
      · obtain ⟨⟨s', r'⟩, hs', rfl⟩ := List.mem_map.1 hmem
        exact hc.fresh (hr ▸ (hunspent s' _ hs').1)
    · refine List.mem_append_left _ (List.mem_filter.2 ⟨(hs s r participants hp).2 ⟨hold, hour⟩, ?_⟩)
      exact decide_eq_true ⟨by rw [hp]; rfl, hr⟩

/-- A vault that records the transactions of a run shows the ledger of its end. -/
theorem Sees.run {P : Platform} {hub : ServiceHub} {l₀ l : Ledger} {tr : List LedgerTransaction}
    (hinj : P.toCrypto.UniqueNames) (h₀ : l₀.Start) (hs : hub.Sees l₀)
    (hr : Run (Ledger.Step P LedgerTransaction.DistinctOutputs) l₀ tr l) :
    (tr.foldl ServiceHub.record hub).Sees l := by
  refine (hr.invariant (I := fun tr l => l.Inv ∧ (tr.foldl ServiceHub.record hub).Sees l)
    ⟨h₀.inv, hs⟩ ?_).2
  rintro tr l tx l' - ⟨hi, hs⟩ ⟨hn, hcommit⟩
  obtain ⟨hc, rfl⟩ := Ledger.commit_ok.1 hcommit
  refine ⟨hi.apply hc (hc.accepted hinj hn), ?_⟩
  rw [List.foldl_append]
  exact hs.record hc hi.known

end ServiceHub

/-! ## The vault of a host -/

namespace Ledger.RepeatedOutputs
open Sample

def genesis : StateAndRef := ⟨⟨.genesis ⟨[notary 1]⟩, notary 1⟩, base 1⟩

def hub : ServiceHub where
  ourIdentity := notary 1
  states := [genesis]
  distinct := List.nodup_singleton _
  notaryIdentities := [notary 1]
  partyFromKey _ := none

theorem sees_start : hub.Sees start := by
  intro s r participants hp
  constructor
  · intro h
    obtain ⟨rfl, rfl⟩ := StateAndRef.mk.inj (List.mem_singleton.1 h)
    cases hp
    exact ⟨Finmap.lookup_insert _, List.mem_singleton_self _⟩
  · rintro ⟨hl, -⟩
    by_cases hr : r = base 1
    · subst hr
      rw [start, Finmap.lookup_insert] at hl
      cases hl
      exact List.mem_singleton_self _
    · rw [start, Finmap.lookup_insert_of_ne _ hr] at hl
      cases hl

theorem commits_hostAndClient : Commits P (start.apply createHost) hostAndClient :=
  ⟨by decide, by decide, by decide, by decide, by decide, by decide, fun _ => by decide⟩

/-- The node of the host finds its client. -/
theorem query_run_hostAndClient :
    ((hub.record createHost).record hostAndClient).queryIbcState P.toCrypto IbcClientState (base 1)
      client.id = some ⟨client, notary 1, ⟨⟨[3]⟩, 1⟩⟩ := by
  have hcreate := (commit_ok.1 commit_createHost).1
  have hinv := start_start.inv.apply hcreate (hcreate.accepted uniqueNames fun _ => by decide)
  have hsees := (sees_start.record hcreate start_start.known).record commits_hostAndClient hinv.known
  have hhost : ((hub.record createHost).record hostAndClient).queryIbcHost (base 1) =
      some ⟨nextHost, notary 1, ⟨⟨[3]⟩, 0⟩⟩ := rfl
  exact (ServiceHub.query_run uniqueNames start_start run_hostAndClient
    hsees keyed_client hhost).2 ⟨lookup_apply_output (by rfl), rfl⟩

end Ledger.RepeatedOutputs

end CordaIbc
