import CordaIbc.Proofs.ChainStep
import CordaIbc.Proofs.Uniqueness

/-!
# The chains of a ledger

A ledger holds the states of many hosts, each under its reference. What it holds of one base id is a
chain (`Ledger.Shows`): a transaction that consumes a state of the base id is one that the chain
takes, any other leaves the chain as it is, and the chain starts where its genesis is consumed. So
every run of a ledger is a run of the chain of any base id (`Ledger.shows_run`).
-/

namespace CordaIbc

open StateClass ContractState

namespace LedgerTransaction

/-- The transaction consumes a state of the base id. -/
def spends (b : StateRef) (tx : LedgerTransaction) : Bool :=
  tx.inputStates.any fun s => s.key?.map Prod.fst = some b

variable {P : Platform} {tx : LedgerTransaction} {b : StateRef} {o : ContractState} {i : Identifier}

theorem spends_iff : tx.spends b = true ↔ ∃ s ∈ tx.inputStates, ∃ i, s.key? = some (b, i) := by
  simp only [spends, List.any_eq_true, decide_eq_true_eq, Option.map_eq_some_iff, Prod.exists]
  constructor
  · rintro ⟨s, hs, b', i, hk, rfl⟩
    exact ⟨s, hs, i, hk⟩
  · rintro ⟨s, hs, i, hk⟩
    exact ⟨s, hs, b, i, hk, rfl⟩

/-- The transaction creates the host of the base id out of its genesis. -/
structure CreatesHost (tx : LedgerTransaction) (b : StateRef) (host : Host) : Prop where
  outputs : tx.outputs = [.host host]
  genesis : ∃ t ∈ tx.inputs, t.ref = b
  start : (Chain.ofHost host).Start
  baseId : host.baseId = b

/-- What a datagram puts out has the base id of something it consumes. -/
theorem spends_of_datagram {handler : DatagramHandler} {signers : List PublicKey}
    (hd : tx.datagramHandlerCommands = [(handler, signers)]) (hv : Ibc.verify P tx = .ok ())
    (ho : o ∈ tx.outputs) (hk : o.key? = some (b, i)) : tx.spends b = true := by
  obtain ⟨outs, ctx', hexec, houts, hv⟩ := verify_executes hd hv
  have hmem : o ∈ ctx'.outStates.states := hv.subset o ho
  obtain ⟨b', -, hbin, -, hbout⟩ := hv.baseId
  obtain rfl : b = b' := by
    obtain ⟨t, ht, -, rfl, -⟩ := key_eq_some.1 hk
    exact hbout t (List.mem_filterMap.2 ⟨o, hmem, ht⟩)
  -- the output comes from an input with an identifier, and inputs have one base id
  have hin : ∀ s ∈ tx.inputStates, ∀ j, s.id? = some j → tx.spends b = true := by
    intro s hs j hj
    obtain ⟨b', hk'⟩ := key_of_id hj
    obtain ⟨t, ht, -, hb', -⟩ := key_eq_some.1 hk'
    have htb : t.baseId = b := hbin t (List.mem_filterMap.2 ⟨s, houts.inStates ▸ hs, ht⟩)
    exact spends_iff.2 ⟨s, hs, j, by rw [hk', ← hb', htb]⟩
  rw [houts.outStates] at hmem
  rcases hexec.origin.2 o hmem i (id_of_key hk) with ⟨s, hs, hu⟩ | ⟨host, _, hh, -⟩
  · exact hin s hs i (hu.id?.symm.trans (id_of_key hk))
  · exact hin _ (Context.mem_of_getInput hh) hostId rfl

/-- So does what a set-up command puts out, unless it creates the host. -/
theorem spends_of_misc (hm : MiscEffect tx) (ho : o ∈ tx.outputs) (hk : o.key? = some (b, i)) :
    tx.spends b = true ∨ ∃ host, tx.CreatesHost b host := by
  have hbank : ∀ {host host' : Host} {bank : ContractState}, tx.inputStates = [.host host] →
      host.addBank bankId = .ok host' → bank.key? = some (host.baseId, bankId) →
      tx.outputs.Perm [.host host', bank] → tx.spends b = true := by
    intro host host' bank hin hadd hkey hout
    refine spends_iff.2 ⟨.host host, by rw [hin]; exact List.mem_singleton_self _, hostId, ?_⟩
    simp only [Host.addBank, Result.bind_ok, Except.ok.injEq] at hadd
    obtain ⟨-, -, rfl⟩ := hadd
    have ho := hout.mem_iff.1 ho
    simp only [List.mem_cons, List.not_mem_nil, or_false] at ho
    rcases ho with rfl | rfl
    · rw [hostKey, ← (Prod.mk.inj (Option.some.inj hk)).1]
    · rw [hkey] at hk
      rw [hostKey, (Prod.mk.inj (Option.some.inj hk)).1]
  cases hm with
  | genesis _ hout =>
    rw [hout, List.mem_singleton] at ho
    subst ho
    cases hk
  | @host g t host moduleNames factoryNames ht _ _ hcreate hout =>
    rw [hout, List.mem_singleton] at ho
    subst ho
    obtain ⟨hb, -⟩ := Prod.mk.inj (Option.some.inj hk)
    refine .inr ⟨host, hout, ⟨t, ht, ?_⟩, ⟨g, t.ref, t.state.notary, _, _, host, hcreate, rfl⟩, hb⟩
    simp only [Host.create, Result.bind_ok, Except.ok.injEq] at hcreate
    obtain ⟨_, -, _, -, rfl⟩ := hcreate
    exact hb
  | bank hin hadd hout => exact .inl (hbank hin hadd rfl hout)
  | cashBank hin hadd hout => exact .inl (hbank hin hadd rfl hout)
  | @fund bank _ _ _ hin hout =>
    rw [hout, List.mem_singleton] at ho
    subst ho
    exact .inl (spends_iff.2 ⟨.bank bank, by rw [hin]; exact List.mem_singleton_self _, i, hk⟩)

theorem spends_or_creates (hv : Ibc.verify P tx = .ok ()) (ho : o ∈ tx.outputs)
    (hk : o.key? = some (b, i)) : tx.spends b = true ∨ ∃ host, tx.CreatesHost b host := by
  rcases verify_cases hv with hm | ⟨handler, signers, -, hd⟩
  · exact spends_of_misc hm ho hk
  · exact .inl (spends_of_datagram hd hv ho hk)

end LedgerTransaction

namespace Ledger

/-- No unconsumed state has the base id. -/
def Lacks (l : Ledger) (b : StateRef) : Prop :=
  ∀ r s i, l.states.lookup r = some s → s.data.key? ≠ some (b, i)

/-- The chain is what the ledger holds of its base id. -/
structure Shows (l : Ledger) (c : Chain) : Prop where
  lookup : ∀ r s i, l.states.lookup r = some s → s.data.key? = some (c.baseId, i) →
    c.states.lookup i = some s.data
  exists_ref : ∀ i s, c.states.lookup i = some s → ∃ r n, l.states.lookup r = some ⟨s, n⟩

section
variable {P : Platform} {l : Ledger} {tx : LedgerTransaction} {b : StateRef} {c : Chain}
  {r : StateRef} {s : TransactionState} {o : ContractState} {i : Identifier}

theorem Commits.spends_or_creates (hc : Commits P l tx) (ho : o ∈ tx.outputs)
    (hk : o.key? = some (b, i)) : tx.spends b = true ∨ ∃ host, tx.CreatesHost b host :=
  LedgerTransaction.spends_or_creates (hc.verify (List.any_eq_true.2
    ⟨o, List.mem_append_right _ ho, belongsToIbc_of_key hk⟩)) ho hk

/-! ### Steps -/

/-- A transaction that neither consumes nor creates anything of a base id keeps what is there. -/
theorem Inv.lookup_apply_iff (hi : l.Inv) (hc : Commits P l tx) (hs : tx.spends b = false)
    (hg : ∀ t ∈ tx.inputs, t.ref ≠ b) (hk : s.data.key? = some (b, i)) :
    (l.apply tx).states.lookup r = some s ↔ l.states.lookup r = some s := by
  constructor
  · intro h
    rcases lookup_apply_cases h with ⟨-, hj⟩ | ⟨-, hl⟩
    · rcases hc.spends_or_creates (List.mem_of_getElem? hj) hk with hs' | ⟨host, hcreate⟩
      · rw [hs] at hs'
        cases hs'
      · obtain ⟨t, ht, hr⟩ := hcreate.genesis
        exact absurd hr (hg t ht)
    · exact hl
  · intro hl
    rw [lookup_apply_of_ne fun he => hc.fresh (he ▸ hi.known _ _ hl), if_neg, hl]
    intro hr
    rw [LedgerTransaction.spends_iff.2 ⟨s.data, hc.mem_inputStates hr hl, i, hk⟩] at hs
    cases hs

namespace Shows
variable (h : l.Shows c) (hci : c.Inv)
include h

/-- A transaction that consumes a state of the base id is one of the chain. -/
theorem commit (hc : Commits P l tx) (hs : tx.spends c.baseId = true) :
    c.commit P tx = .ok (c.apply tx) := by
  obtain ⟨s, hs, i, hk⟩ := LedgerTransaction.spends_iff.1 hs
  have htouch : tx.touchesIbc = true :=
    List.any_eq_true.2 ⟨s, List.mem_append_left _ hs, belongsToIbc_of_key hk⟩
  have hcurrent : ∀ t ∈ tx.inputStates ++ tx.referenceStates, c.isCurrent t = true := by
    intro t ht
    refine Chain.isCurrent_iff.2 fun j hj => ?_
    rcases List.mem_append.1 ht with ht | ht
    · obtain ⟨u, hu, rfl⟩ := List.mem_map.1 ht
      exact h.lookup _ _ j (hc.inputs u hu) hj
    · obtain ⟨u, hu, rfl⟩ := List.mem_map.1 ht
      exact h.lookup _ _ j (hc.references u hu) hj
  simp only [Chain.commit, Result.bind_ok, require_ok, List.any_eq_true, List.all_eq_true]
  exact ⟨(), ⟨s, hs, Chain.holds_iff.2 ⟨i, hk⟩⟩, (), hcurrent, (), hc.verify htouch,
    trivial⟩

include hci

/-- A transaction of other base ids leaves the chain as it is. -/
theorem frame (hi : l.Inv) (hc : Commits P l tx) (hs : tx.spends c.baseId = false) :
    (l.apply tx).Shows c := by
  -- the host is there, so the genesis is consumed already
  have hg : ∀ t ∈ tx.inputs, t.ref ≠ c.baseId := by
    obtain ⟨host, hhost, -⟩ := hci.owned
    obtain ⟨r, n, hl⟩ := h.exists_ref _ _ hhost
    exact fun t ht => hi.not_genesis hc hl (hci.keyed _ _ hhost) ht
  refine ⟨fun r s i hl hk => ?_, fun i s hl => ?_⟩
  · exact h.lookup r s i ((hi.lookup_apply_iff hc hs hg hk).1 hl) hk
  · obtain ⟨r, n, hr⟩ := h.exists_ref i s hl
    exact ⟨r, n, (hi.lookup_apply_iff hc hs hg (hci.keyed i s hl)).2 hr⟩

theorem apply (hi : l.Inv) (hc : Commits P l tx) (ha : Accepted tx) (hn : tx.DistinctOutputs)
    (hs : tx.spends c.baseId = true) : (l.apply tx).Shows (c.apply tx) := by
  obtain ⟨-, outs, ht⟩ := Chain.commit_ok ⟨hn, h.commit hc hs⟩
  refine ⟨fun r s i hl hk => ?_, fun i s hl => ?_⟩
  · rcases lookup_apply_cases hl with ⟨-, hj⟩ | ⟨hr, hl⟩
    · exact Chain.lookup_apply_of_mem (hci.outputs_ids_nodup ht) (List.mem_of_getElem? hj)
        (id_of_key hk)
    · refine (Chain.lookup_apply_of_notMem fun o ho hid => ?_).trans (h.lookup r s i hl hk)
      -- an output under the same identifier has the same base id, hence the same key
      obtain ⟨b, hb⟩ := key_of_id hid
      obtain rfl := ht.base o (ht.perm.mem_iff.1 ho) b i hb
      exact hi.key_ne hc ha hr hl hk ho hb
  · rcases Chain.lookup_apply_cases hl with ⟨ho, -⟩ | ⟨hno, hl⟩
    · obtain ⟨j, hj⟩ := List.mem_iff_getElem?.1 ho
      exact ⟨_, _, lookup_apply_output hj⟩
    · obtain ⟨r, n, hr⟩ := h.exists_ref i s hl
      refine ⟨r, n, ?_⟩
      rw [lookup_apply_of_ne fun he => hc.fresh (he ▸ hi.known _ _ hr), if_neg, hr]
      intro hm
      obtain ⟨o, ho, hok⟩ := ha.successor s (hc.mem_inputStates hm hr) _ (hci.keyed i s hl)
      exact hno o ho (id_of_key hok)

end Shows

/-- A base id without states stays so until its host is created. -/
theorem Lacks.step (h : l.Lacks b) (hc : Commits P l tx) :
    tx.spends b = false ∧
      ((l.apply tx).Lacks b ∨ ∃ c : Chain, c.Start ∧ c.baseId = b ∧ (l.apply tx).Shows c) := by
  have hs : tx.spends b = false := by
    by_contra hs
    obtain ⟨s, hs, i, hk⟩ := LedgerTransaction.spends_iff.1 (Bool.eq_true_of_not_eq_false hs)
    obtain ⟨r, n, -, hl⟩ := hc.exists_ref hs
    exact h r _ i hl hk
  refine ⟨hs, ?_⟩
  by_cases hout : ∃ o ∈ tx.outputs, ∃ i, o.key? = some (b, i)
  · obtain ⟨o, ho, i, hk⟩ := hout
    obtain ⟨host, hcreate⟩ := (hc.spends_or_creates ho hk).resolve_left (by simp [hs])
    obtain rfl := hcreate.baseId
    refine .inr ⟨.ofHost host, hcreate.start, rfl, fun r s i hl hk => ?_, fun i s hl => ?_⟩
    · rcases lookup_apply_cases hl with ⟨-, hj⟩ | ⟨-, hl⟩
      · have hm := List.mem_of_getElem? hj
        rw [hcreate.outputs, List.mem_singleton] at hm
        rw [hm] at hk ⊢
        obtain ⟨-, rfl⟩ := Prod.mk.inj (Option.some.inj hk)
        exact Finmap.lookup_insert _
      · exact absurd hk (h r s i hl)
    · obtain ⟨rfl, rfl⟩ := Chain.lookup_ofHost hl
      exact ⟨_, _, lookup_apply_output (i := 0) (by rw [hcreate.outputs]; rfl)⟩
  · refine .inl fun r s i hl hk => ?_
    rcases lookup_apply_cases hl with ⟨-, hj⟩ | ⟨-, hl⟩
    · exact hout ⟨_, List.mem_of_getElem? hj, i, hk⟩
    · exact h r s i hl hk

/-! ### Runs -/

/-- Nothing of the base id is there, or the ledger shows the chain that the transactions of the base
id lead to. -/
def Projects (P : Platform) (b : StateRef) (tr : List LedgerTransaction) (l : Ledger) : Prop :=
  (l.Lacks b ∧ tr.filter (·.spends b) = []) ∨ ∃ c₀ c : Chain, c₀.Start ∧ c.baseId = b ∧
    Run (Chain.Step P fun _ _ => True) c₀ (tr.filter (·.spends b)) c ∧ l.Shows c

/-- What a ledger holds of a base id is the chain that took, from its start on, the transactions
that consumed something of the base id. -/
theorem shows_run {l₀ : Ledger} {tr : List LedgerTransaction} (hinj : P.toCrypto.UniqueNames)
    (h₀ : l₀.Start) (hr : Run (Step P LedgerTransaction.DistinctOutputs) l₀ tr l) (b : StateRef) :
    Projects P b tr l := by
  refine (hr.invariant (I := fun tr l => l.Inv ∧ Projects P b tr l) ⟨h₀.inv, .inl ⟨?_, rfl⟩⟩ ?_).2
  · intro r s i hl hk
    obtain ⟨g, hg⟩ := h₀.genesis r s hl
    rw [hg] at hk
    cases hk
  rintro tr l tx l' - ⟨hi, hp⟩ ⟨hn, hcommit⟩
  obtain ⟨hc, rfl⟩ := commit_ok.1 hcommit
  have ha := hc.accepted hinj hn
  refine ⟨hi.apply hc ha, ?_⟩
  rcases hp with ⟨hlacks, hnone⟩ | ⟨c₀, c, hstart, rfl, hrun, hshows⟩
  · obtain ⟨hs, hnext⟩ := hlacks.step hc
    have hnone' : (tr ++ [tx]).filter (·.spends b) = [] := by simp [hnone, hs]
    rcases hnext with hlacks' | ⟨c, hstart, hb, hshows⟩
    · exact .inl ⟨hlacks', hnone'⟩
    · exact .inr ⟨c, c, hstart, hb, by rw [hnone']; exact .nil, hshows⟩
  · have hci : c.Inv := Chain.Inv.run hstart.inv hrun
    cases hs : tx.spends c.baseId with
    | false =>
      refine .inr ⟨c₀, c, hstart, rfl, ?_, hshows.frame hci hi hc hs⟩
      simpa [List.filter_append, hs] using hrun
    | true =>
      refine .inr ⟨c₀, c.apply tx, hstart, rfl, ?_, hshows.apply hci hi hc ha hn hs⟩
      rw [List.filter_append, List.filter_cons_of_pos hs, List.filter_nil]
      exact .snoc hrun ⟨trivial, hn, hshows.commit hc hs⟩

end

/-! ### A host with a client -/

section
open RepeatedOutputs Sample

theorem run_hostAndClient :
    Run (Step P LedgerTransaction.DistinctOutputs) start [createHost, hostAndClient]
      ((start.apply createHost).apply hostAndClient) := by
  have hr : Run (Step P LedgerTransaction.DistinctOutputs) start [createHost]
      (start.apply createHost) := .snoc .nil ⟨fun _ => by decide, commit_createHost⟩
  exact .snoc hr ⟨fun _ => by decide, commit_ok.2 ⟨⟨by decide, by decide, by decide, by decide,
    by decide, by decide, fun _ => by decide⟩, rfl⟩⟩

/-- The chain of the host took the datagram, and not the transaction that created the host. -/
theorem shows_run_hostAndClient : ∃ c₀ c : Chain, c₀.Start ∧ c.baseId = base 1 ∧
    Run (Chain.Step P fun _ _ => True) c₀ [hostAndClient] c ∧
    ((start.apply createHost).apply hostAndClient).Shows c := by
  have h := shows_run uniqueNames start_start run_hostAndClient (base 1)
  exact h.resolve_left fun hno => hno.1 ⟨⟨[3]⟩, 0⟩ _ hostId (lookup_apply_output (by rfl)) rfl

end

end Ledger

end CordaIbc
