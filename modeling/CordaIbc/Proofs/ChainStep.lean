import CordaIbc.Chain
import CordaIbc.Proofs.Accepted

/-!
# What a transaction does to a chain

`Chain.Takes` inverts `Chain.commit`: the outputs are those of a set-up command or of a datagram
executed on current states. `Chain.Inv` is what every chain keeps: each identifier names the state
that has it, the host owns every identifier, and an identifier of the past still has a state, of the
same class.
-/

namespace CordaIbc

open StateClass ContractState

namespace Chain

/-- What a taken transaction does, with its outputs. -/
inductive Effect (P : Platform) (c : Chain) (tx : LedgerTransaction) : List ContractState → Prop
  | addBank {host host' : Host} {bank : ContractState}
    (hhost : c.states.lookup hostId = some (.host host)) (hadd : host.addBank bankId = .ok host')
    (hbank : bank = .bank (.create host) ∨ ∃ owner, bank = .cashBank (.create host owner)) :
    Effect P c tx [.host host', bank]
  | fund {bank : Bank} {owner : Address} {denom : Denom} {amount : Int}
    (hbank : c.states.lookup bankId = some (.bank bank)) :
    Effect P c tx [.bank (bank.allocate owner denom amount)]
  | datagram {handler : DatagramHandler} {signers : List PublicKey} {outs : List ContractState}
    (hcmd : tx.datagramHandlerCommands = [(handler, signers)])
    (hin : ∀ s ∈ tx.inputStates, ∀ i, s.id? = some i → c.states.lookup i = some s)
    (href : ∀ s ∈ tx.referenceStates, ∀ i, s.id? = some i → c.states.lookup i = some s)
    (hexec : Executes P (.create tx.inputStates tx.referenceStates) signers handler outs) :
    Effect P c tx outs

/-- A taken transaction. -/
structure Takes (P : Platform) (c : Chain) (tx : LedgerTransaction) (outs : List ContractState) :
    Prop where
  effect : Effect P c tx outs
  perm : tx.outputs.Perm outs
  base : ∀ o ∈ outs, ∀ b i, o.key? = some (b, i) → b = c.baseId

section
variable {P : Platform} {c c' : Chain} {tx : LedgerTransaction} {outs : List ContractState}

theorem current_of_mem (h : ∀ s ∈ tx.inputStates ++ tx.referenceStates, c.isCurrent s = true)
    {s : ContractState} (hs : s ∈ tx.inputStates ++ tx.referenceStates) {i : Identifier}
    (hk : s.key? = some (c.baseId, i)) : c.states.lookup i = some s :=
  isCurrent_iff.1 (h s hs) i hk

/-- A set-up command of a chain makes a bank or funds an account. -/
theorem takes_of_misc (hheld : ∃ s ∈ tx.inputStates, c.holds s = true)
    (hcur : ∀ s ∈ tx.inputStates ++ tx.referenceStates, c.isCurrent s = true)
    (h : MiscEffect tx) : ∃ outs, Takes P c tx outs := by
  obtain ⟨s, hs, hh⟩ := hheld
  obtain ⟨i, hk⟩ := holds_iff.1 hh
  have hl : c.states.lookup i = some s := current_of_mem hcur (List.mem_append_left _ hs) hk
  have hbank : ∀ {host host' : Host} {bank : ContractState}, tx.inputStates = [.host host] →
      host.addBank bankId = .ok host' → bank.key? = some (host.baseId, bankId) →
      (bank = .bank (.create host) ∨ ∃ owner, bank = .cashBank (.create host owner)) →
      tx.outputs.Perm [.host host', bank] → ∃ outs, Takes P c tx outs := by
    intro host host' bank hin hadd hkey hb hout
    rw [hin, List.mem_singleton] at hs
    subst hs
    obtain ⟨hbase, rfl⟩ := Prod.mk.inj (Option.some.inj hk)
    refine ⟨_, .addBank hl hadd hb, hout, fun o ho b i hk => ?_⟩
    simp only [Host.addBank, Result.bind_ok, Except.ok.injEq] at hadd
    obtain ⟨-, -, rfl⟩ := hadd
    simp only [List.mem_cons, List.not_mem_nil, or_false] at ho
    rcases ho with rfl | rfl
    · exact (Prod.mk.inj (Option.some.inj hk)).1.symm.trans hbase
    · rw [hkey] at hk
      exact (Prod.mk.inj (Option.some.inj hk)).1.symm.trans hbase
  cases h with
  | genesis hin _ => rw [hin] at hs; cases hs
  | host _ _ hin _ _ =>
    rw [hin, List.mem_singleton] at hs
    subst hs
    cases hk
  | bank hin hadd hout => exact hbank hin hadd rfl (.inl rfl) hout
  | cashBank hin hadd hout => exact hbank hin hadd rfl (.inr ⟨_, rfl⟩) hout
  | fund hin hout =>
    rw [hin, List.mem_singleton] at hs
    subst hs
    obtain ⟨hbase, rfl⟩ := Prod.mk.inj (Option.some.inj hk)
    refine ⟨_, .fund hl, by rw [hout], fun o ho b i hk => ?_⟩
    rw [List.mem_singleton.1 ho] at hk
    exact (Prod.mk.inj (Option.some.inj hk)).1.symm.trans hbase

/-- What a datagram of a chain reads is current, and what it puts out has the base id. -/
theorem current_of_datagram (hheld : ∃ s ∈ tx.inputStates, c.holds s = true)
    (hcur : ∀ s ∈ tx.inputStates ++ tx.referenceStates, c.isCurrent s = true) {ctx' : Context}
    (ho : Context.Outputs (.create tx.inputStates tx.referenceStates) outs ctx')
    (hv : ctx'.Verified P.toCrypto tx.outputs) :
    (∀ s ∈ tx.inputStates, ∀ i, s.id? = some i → c.states.lookup i = some s) ∧
    (∀ s ∈ tx.referenceStates, ∀ i, s.id? = some i → c.states.lookup i = some s) ∧
    ∀ o ∈ outs, ∀ b i, o.key? = some (b, i) → b = c.baseId := by
  have houts : ctx'.outStates.states = outs := by rw [ho.outStates]; rfl
  have hins : ctx'.inStates = tx.inputStates := ho.inStates
  have hrefs : ctx'.refStates = tx.referenceStates := ho.refStates
  obtain ⟨b, -, hbin, hbref, hbout⟩ := hv.baseId
  have hb : b = c.baseId := by
    obtain ⟨s, hs, hh⟩ := hheld
    obtain ⟨i, hk⟩ := holds_iff.1 hh
    obtain ⟨t, ht, -, hb, -⟩ := key_eq_some.1 hk
    exact (hbin t (List.mem_filterMap.2 ⟨s, hins ▸ hs, ht⟩)).symm.trans hb
  have hkey : ∀ {s : ContractState} {i : Identifier} {states : List ContractState}, s ∈ states →
      (∀ t ∈ states.filterMap (·.ibc?), t.baseId = b) → s.id? = some i →
      s.key? = some (c.baseId, i) := by
    intro s i states hs hall hi
    obtain ⟨b', hk⟩ := key_of_id hi
    obtain ⟨t, ht, -, rfl, -⟩ := key_eq_some.1 hk
    rw [hk, hall t (List.mem_filterMap.2 ⟨s, hs, ht⟩), hb]
  refine ⟨fun s hs i hi => ?_, fun s hs i hi => ?_, fun o ho b' i hk => ?_⟩
  · exact current_of_mem hcur (List.mem_append_left _ hs) (hkey (hins ▸ hs) hbin hi)
  · exact current_of_mem hcur (List.mem_append_right _ hs) (hkey (hrefs ▸ hs) hbref hi)
  · have := hkey (houts ▸ ho) hbout (id_of_key hk)
    rw [hk] at this
    cases this; rfl

/-- A datagram that the contract accepts on a chain, with what it was verified against. -/
structure RunsDatagram (P : Platform) (c : Chain) (tx : LedgerTransaction)
    (handler : DatagramHandler) (signers : List PublicKey) (outs : List ContractState)
    (ctx' : Context) : Prop where
  executes : Executes P (.create tx.inputStates tx.referenceStates) signers handler outs
  outputs : Context.Outputs (.create tx.inputStates tx.referenceStates) outs ctx'
  verified : ctx'.Verified P.toCrypto tx.outputs
  inputs : ∀ s ∈ tx.inputStates, ∀ i, s.id? = some i → c.states.lookup i = some s
  references : ∀ s ∈ tx.referenceStates, ∀ i, s.id? = some i → c.states.lookup i = some s
  base : ∀ o ∈ outs, ∀ b i, o.key? = some (b, i) → b = c.baseId
  subset : tx.outputs ⊆ outs

/-- A datagram that a chain takes: its outputs are those of the handler. -/
structure TakesDatagram (P : Platform) (c : Chain) (tx : LedgerTransaction)
    (handler : DatagramHandler) (signers : List PublicKey) (outs : List ContractState)
    (ctx' : Context) : Prop extends RunsDatagram P c tx handler signers outs ctx' where
  perm : tx.outputs.Perm outs

theorem datagram_of_commit (h : c.commit P tx = .ok c') {handler : DatagramHandler}
    {signers : List PublicKey} (hd : tx.datagramHandlerCommands = [(handler, signers)]) :
    ∃ outs ctx', RunsDatagram P c tx handler signers outs ctx' := by
  simp only [commit, Result.bind_ok, require_ok, Except.ok.injEq, List.any_eq_true,
    List.all_eq_true] at h
  obtain ⟨-, hheld, -, hcur, ⟨⟩, hv, -⟩ := h
  obtain ⟨outs, ctx', hexec, ho, hverified⟩ := verify_executes hd hv
  obtain ⟨hin, href, hbase⟩ := current_of_datagram hheld hcur ho hverified
  have houts : ctx'.outStates.states = outs := ho.outStates
  exact ⟨outs, ctx', hexec, ho, hverified, hin, href, hbase, houts ▸ hverified.subset⟩

theorem datagram_of_commits (h : c.Commits P tx c') {handler : DatagramHandler}
    {signers : List PublicKey} (hd : tx.datagramHandlerCommands = [(handler, signers)]) :
    ∃ outs ctx', TakesDatagram P c tx handler signers outs ctx' := by
  obtain ⟨outs, ctx', hruns⟩ := datagram_of_commit h.2 hd
  have houts : ctx'.outStates.states = outs := hruns.outputs.outStates
  refine ⟨outs, ctx', hruns, houts ▸ ?_⟩
  exact (Context.perm_iff_nodup hruns.verified.length hruns.verified.subset).2 (h.1 (by simp [hd]))

theorem verify_of_commit (h : c.commit P tx = .ok c') : Ibc.verify P tx = .ok () := by
  simp only [commit, Result.bind_ok] at h
  obtain ⟨-, -, -, -, ⟨⟩, hv, -⟩ := h
  exact hv

/-- Inversion of `commit`. -/
theorem commit_ok (h : c.Commits P tx c') : c' = c.apply tx ∧ ∃ outs, Takes P c tx outs := by
  have hc := h
  obtain ⟨-, h⟩ := h
  simp only [commit, Result.bind_ok, require_ok, Except.ok.injEq, List.any_eq_true,
    List.all_eq_true] at h
  obtain ⟨-, hheld, -, hcur, ⟨⟩, hv, rfl⟩ := h
  refine ⟨rfl, ?_⟩
  rcases verify_cases hv with hm | ⟨handler, signers, -, hd⟩
  · exact takes_of_misc hheld hcur hm
  · obtain ⟨outs, ctx', ht⟩ := datagram_of_commits hc hd
    exact ⟨outs, .datagram hd ht.inputs ht.references ht.executes, ht.perm, ht.base⟩

/-- Where an output comes from. -/
theorem Effect.origin (h : Effect P c tx outs) : (outs.filterMap cls?).Nodup ∧
    ∀ o ∈ outs, ∀ i, o.id? = some i → (∃ s, c.states.lookup i = some s ∧ Updates s o) ∨
      ∃ host host', c.states.lookup hostId = some (.host host) ∧ ContractState.host host' ∈ outs ∧
        Updates (.host host) (.host host') ∧ host.Mints o ∧ host'.Owns o := by
  cases h with
  | @addBank host host' bank hhost hadd hbank =>
    simp only [Host.addBank, Result.bind_ok, require_ok, Except.ok.injEq] at hadd
    obtain ⟨-, hnew, rfl⟩ := hadd
    have hu : Updates (.host host) (.host { host with bankIds := host.bankIds ++ [bankId] }) :=
      ⟨rfl, rfl, rfl, rfl, rfl, le_rfl, le_rfl, le_rfl, List.subset_append_left _ _⟩
    refine ⟨by rcases hbank with rfl | ⟨_, rfl⟩ <;> simp [cls?], fun o ho i hi => ?_⟩
    simp only [List.mem_cons, List.not_mem_nil, or_false] at ho
    rcases ho with rfl | rfl
    · cases hi
      exact .inl ⟨_, hhost, hu⟩
    · refine .inr ⟨host, _, hhost, List.mem_cons_self, hu, ?_⟩
      rcases hbank with rfl | ⟨_, rfl⟩ <;>
        exact ⟨hnew, List.mem_append_right _ (List.mem_singleton_self _)⟩
  | fund hbank =>
    refine ⟨by simp [cls?], fun o ho i hi => ?_⟩
    rw [List.mem_singleton.1 ho] at hi ⊢
    cases hi
    exact .inl ⟨_, hbank, trivial⟩
  | datagram _ hin _ hexec =>
    obtain ⟨hcls, horigin⟩ := hexec.origin
    refine ⟨hcls, fun o ho i hi => ?_⟩
    rcases horigin o ho i hi with ⟨s, hs, hu⟩ | ⟨host, host', hh, hh', hu, hm, hown⟩
    · exact .inl ⟨s, hin s hs i (hu.id?.symm.trans hi), hu⟩
    · exact .inr ⟨host, host', hin _ (Context.mem_of_getInput hh) _ rfl, hh', hu, hm, hown⟩

end

/-! ### The invariant -/

structure Inv (c : Chain) : Prop where
  keyed : ∀ i s, c.states.lookup i = some s → s.key? = some (c.baseId, i)
  owned : ∃ host, c.states.lookup hostId = some (.host host) ∧
    ∀ i s, c.states.lookup i = some s → host.Owns s
  past : ∀ s ∈ c.history, ∀ b i, s.key? = some (b, i) →
    b = c.baseId ∧ ∃ t, c.states.lookup i = some t ∧ t.cls? = s.cls?

theorem lookup_ofHost {host : Host} {i : Identifier} {s : ContractState}
    (h : (ofHost host).states.lookup i = some s) : i = hostId ∧ s = .host host := by
  by_cases hi : i = hostId
  · subst hi
    rw [ofHost, Finmap.lookup_insert] at h
    exact ⟨rfl, (Option.some.inj h).symm⟩
  · rw [ofHost, Finmap.lookup_insert_of_ne _ hi] at h
    cases h

theorem inv_ofHost (host : Host) : (ofHost host).Inv := by
  have hhost : (ofHost host).states.lookup hostId = some (.host host) := Finmap.lookup_insert _
  refine ⟨fun i s h => ?_, ⟨host, hhost, fun i s h => ?_⟩, fun s hs b i hk => ?_⟩
  · obtain ⟨rfl, rfl⟩ := lookup_ofHost h
    rfl
  · obtain ⟨rfl, rfl⟩ := lookup_ofHost h
    trivial
  · rw [List.mem_singleton.1 (show s ∈ [.host host] from hs)] at hk ⊢
    cases hk
    exact ⟨rfl, _, hhost, rfl⟩

theorem Start.inv {c : Chain} (h : c.Start) : c.Inv := by
  obtain ⟨_, _, _, _, _, host, -, rfl⟩ := h
  exact inv_ofHost host

section
variable {P : Platform} {c : Chain} {tx : LedgerTransaction} {outs : List ContractState}
  {i : Identifier} {s o : ContractState}

theorem Inv.id? (hi : c.Inv) (h : c.states.lookup i = some s) : s.id? = some i :=
  id_of_key (hi.keyed i s h)

theorem updates_cls (h : Updates s o) : o.cls? = s.cls? := by
  cases s <;> cases o <;> first | exact h.elim | rfl

/-- The identifier of a bank that is added was free. -/
theorem Inv.bank_free (hi : c.Inv) {host host' : Host}
    (hhost : c.states.lookup hostId = some (.host host)) (hadd : host.addBank bankId = .ok host')
    (b : Bank) : c.states.lookup bankId ≠ some (.bank b) := by
  intro hl
  simp only [Host.addBank, Result.bind_ok, require_ok] at hadd
  obtain ⟨-, hnew, -⟩ := hadd
  obtain ⟨h, hh, hown⟩ := hi.owned
  rw [hhost] at hh
  cases hh
  exact hnew (hown _ _ hl)

section
variable (hi : c.Inv) (ht : Takes P c tx outs)
include hi ht

theorem Inv.owns_out {host host' : Host} (hhost : c.states.lookup hostId = some (.host host))
    (hhost' : ContractState.host host' ∈ outs) (hu : Updates (.host host) (.host host'))
    (ho : o ∈ outs) (hid : o.id? = some i) : host'.Owns o := by
  obtain ⟨host₀, hhost₀, hown⟩ := hi.owned
  rcases (Effect.origin ht.effect).2 o ho i hid with ⟨s, hs, hus⟩ | ⟨h, h', -, hh', -, -, ho'⟩
  · obtain rfl : host₀ = host := by rw [hhost] at hhost₀; cases hhost₀; rfl
    exact ((hown i s hs).updates hus).mono hu
  · -- the outputs hold one host
    have hcls := (Effect.origin ht.effect).1
    obtain ⟨j, hj⟩ := List.mem_iff_getElem?.1 hhost'
    obtain ⟨k, hk⟩ := List.mem_iff_getElem?.1 hh'
    obtain rfl := eq_of_nodup_filterMap hcls hj hk (b := 0) rfl rfl
    rw [hj] at hk
    cases hk
    exact ho'

/-- The host goes on. -/
theorem Inv.host_next : ∃ host host', c.states.lookup hostId = some (.host host) ∧
    Updates (.host host) (.host host') ∧
    (ContractState.host host' ∈ outs ∨ (∀ o ∈ outs, o.id? ≠ some hostId) ∧ host' = host) := by
  obtain ⟨host, hhost, -⟩ := hi.owned
  by_cases h : ∃ o ∈ outs, o.id? = some hostId
  · obtain ⟨o, ho, hid⟩ := h
    rcases (Effect.origin ht.effect).2 o ho _ hid with ⟨s, hs, hu⟩ | ⟨h, h', hh, hh', hu, -, -⟩
    · rw [hhost] at hs
      cases hs
      cases o <;> first | exact hu.elim | exact ⟨host, _, hhost, hu, .inl ho⟩
    · rw [hhost] at hh
      cases hh
      exact ⟨host, h', hhost, hu, .inl hh'⟩
  · exact ⟨host, host, hhost, updates_host_refl _,
      .inr ⟨fun o ho hid => h ⟨o, ho, hid⟩, rfl⟩⟩

theorem Inv.ids_nodup : (outs.filterMap (·.id?)).Nodup := by
  obtain ⟨host, hhost, hown⟩ := hi.owned
  refine CordaIbc.ids_nodup (Effect.origin ht.effect).1 fun o ho i hid => ?_
  rcases (Effect.origin ht.effect).2 o ho i hid with ⟨s, hs, hu⟩ | ⟨_, h', -, -, -, -, ho'⟩
  · exact ⟨host, (hown i s hs).updates hu⟩
  · exact ⟨h', ho'⟩

theorem Inv.outputs_ids_nodup : (tx.outputs.filterMap (·.id?)).Nodup :=
  (ht.perm.filterMap _).nodup_iff.2 (hi.ids_nodup ht)

theorem Inv.lookup_of_mem (ho : o ∈ outs) (hid : o.id? = some i) :
    (c.apply tx).states.lookup i = some o :=
  lookup_apply_of_mem (hi.outputs_ids_nodup ht) (ht.perm.mem_iff.2 ho) hid

omit hi in
theorem Takes.lookup_of_notMem (h : ∀ o ∈ outs, o.id? ≠ some i) :
    (c.apply tx).states.lookup i = c.states.lookup i :=
  lookup_apply_of_notMem fun o ho => h o (ht.perm.mem_iff.1 ho)

omit hi in
theorem Takes.lookup_cases (h : (c.apply tx).states.lookup i = some s) :
    s ∈ outs ∧ s.id? = some i ∨ (∀ o ∈ outs, o.id? ≠ some i) ∧ c.states.lookup i = some s := by
  rcases lookup_apply_cases h with ⟨hs, hid⟩ | ⟨hn, hl⟩
  · exact .inl ⟨ht.perm.mem_iff.1 hs, hid⟩
  · exact .inr ⟨fun o ho => hn o (ht.perm.mem_iff.2 ho), hl⟩

/-- An output whose identifier is taken follows the state there. -/
theorem Inv.updates_of_mem (hs : c.states.lookup i = some s) (ho : o ∈ outs)
    (hid : o.id? = some i) : Updates s o := by
  rcases (Effect.origin ht.effect).2 o ho i hid with ⟨s', hs', hu⟩ | ⟨h, h', hh, -, -, hm, -⟩
  · rw [hs] at hs'
    cases hs'
    exact hu
  · obtain ⟨host, hhost, hown⟩ := hi.owned
    rw [hhost] at hh
    cases hh
    exact absurd hid ((hown i s hs).id_ne hm (hi.id? hs))

/-- No state disappears. -/
theorem Inv.lookup_next (hs : c.states.lookup i = some s) :
    ∃ t, (c.apply tx).states.lookup i = some t ∧ Updates s t := by
  by_cases h : ∃ o ∈ outs, o.id? = some i
  · obtain ⟨o, ho, hid⟩ := h
    exact ⟨o, hi.lookup_of_mem ht ho hid, hi.updates_of_mem ht hs ho hid⟩
  · exact ⟨s, (ht.lookup_of_notMem fun o ho hid => h ⟨o, ho, hid⟩).trans hs,
      .refl_of_key (hi.id? hs)⟩

/-- The host's bindings never change. -/
theorem Inv.module_next (port : Identifier) : (c.apply tx).module? port = c.module? port := by
  obtain ⟨host, hhost, -⟩ := hi.owned
  obtain ⟨t, hl, hu⟩ := hi.lookup_next ht hhost
  cases t <;> first | exact hu.elim | skip
  rw [module?, hl, module?, hhost]
  exact congrArg (fun m : Finmap fun _ : Identifier => Module => m.lookup port) hu.2.2.2.1.symm

theorem Inv.apply : (c.apply tx).Inv := by
  obtain ⟨host, host', hhost, hu, hh'⟩ := hi.host_next ht
  have hown₀ : ∀ i s, c.states.lookup i = some s → host.Owns s := by
    obtain ⟨h, hh, hown⟩ := hi.owned
    rw [hhost] at hh
    cases hh
    exact hown
  refine ⟨fun i s h => ?_, ⟨host', ?_, fun i s h => ?_⟩, fun s hs b i hk => ?_⟩
  · rcases ht.lookup_cases h with ⟨hs, hid⟩ | ⟨-, hl⟩
    · obtain ⟨b, hk⟩ := key_of_id hid
      rw [hk, ht.base s hs b i hk]
      rfl
    · exact hi.keyed i s hl
  · rcases hh' with hmem | ⟨hno, rfl⟩
    · exact hi.lookup_of_mem ht hmem rfl
    · exact (ht.lookup_of_notMem hno).trans hhost
  · rcases ht.lookup_cases h with ⟨hs, hid⟩ | ⟨-, hl⟩
    · rcases hh' with hmem | ⟨hno, rfl⟩
      · exact hi.owns_out ht hhost hmem hu hs hid
      · rcases (Effect.origin ht.effect).2 s hs i hid with ⟨s', hs', hus⟩ | ⟨_, h', -, hm', -, -, -⟩
        · exact (hown₀ i s' hs').updates hus
        · exact absurd rfl (hno _ hm')
    · exact (hown₀ i s hl).mono hu
  · rcases List.mem_append.1 (show s ∈ tx.outputs ++ c.history from hs) with hs | hs
    · have hs := ht.perm.mem_iff.1 hs
      exact ⟨ht.base s hs b i hk, s, hi.lookup_of_mem ht hs (id_of_key hk), rfl⟩
    · obtain ⟨rfl, t, hl, hcls⟩ := hi.past s hs b i hk
      obtain ⟨t', hl', hu'⟩ := hi.lookup_next ht hl
      exact ⟨rfl, t', hl', (updates_cls hu').trans hcls⟩

end

/-- What every chain keeps. -/
theorem Inv.run {ok : Chain → LedgerTransaction → Prop} {c₀ : Chain} {tr : List LedgerTransaction}
    (h₀ : c₀.Inv) (hr : Run (Step P ok) c₀ tr c) : c.Inv := by
  refine hr.invariant (I := fun _ c => c.Inv) h₀ ?_
  rintro - c tx c' - hi ⟨-, hc⟩
  obtain ⟨rfl, outs, ht⟩ := commit_ok hc
  exact hi.apply ht

/-- The bindings of a host are those of its creation. -/
theorem module_run {ok : Chain → LedgerTransaction → Prop} {c₀ : Chain} {tr : List LedgerTransaction}
    (hi : c₀.Inv) (hr : Run (Step P ok) c₀ tr c) (port : Identifier) :
    c.module? port = c₀.module? port := by
  refine (hr.invariant (I := fun _ c => c.Inv ∧ c.module? port = c₀.module? port) ⟨hi, rfl⟩ ?_).2
  rintro - c tx c' - ⟨hi, hm⟩ ⟨-, hc⟩
  obtain ⟨rfl, outs, ht⟩ := commit_ok hc
  exact ⟨hi.apply ht, (hi.module_next ht port).trans hm⟩

end

end Chain

end CordaIbc
