import CordaIbc.Ledger
import CordaIbc.Proofs.Identity

/-!
# Accepted transactions

What the contract's acceptance says about a transaction: which states a set-up command turns into
which (`MiscEffect`), and what becomes of the keys of the states that are not fungible (`Accepted`):
a consumed key goes on in an output, and the key of every output comes from an input, from the
counters of a consumed host or from a consumed genesis.
-/

namespace CordaIbc

open StateClass ContractState

/-! ## Keys -/

namespace ContractState
variable {s s' : ContractState} {b : StateRef} {i : Identifier}

theorem key_eq_some : s.key? = some (b, i) ↔
    ∃ t, s.ibc? = some t ∧ t.fungible = false ∧ t.baseId = b ∧ t.id = i := by
  unfold key?
  cases s.ibc? with
  | none => simp
  | some t =>
    cases hf : t.fungible <;> simp [hf]

theorem id_of_key (h : s.key? = some (b, i)) : s.id? = some i := by simp [id?, h]

theorem key_of_id (h : s.id? = some i) : ∃ b, s.key? = some (b, i) := by
  unfold id? at h
  cases hk : s.key? with
  | none => simp [hk] at h
  | some k => rw [hk] at h; cases h; exact ⟨k.1, rfl⟩

theorem belongsToIbc_of_key (h : s.key? = some (b, i)) : s.belongsToIbc = true := by
  obtain ⟨t, ht, -⟩ := key_eq_some.1 h
  cases s <;> first | rfl | cases ht

end ContractState

theorem hostKey (h : Host) : (ContractState.host h).key? = some (h.baseId, hostId) := rfl

/-! ## Set-up commands -/

theorem eq_singleton_of_mem {α : Type} {l : List α} {a : α} (hl : l.length = 1) (ha : a ∈ l) :
    l = [a] := by
  obtain ⟨b, rfl⟩ := List.length_eq_one_iff.1 hl
  rw [List.mem_singleton.1 ha]

theorem eq_pair_of_mem {α : Type} {l : List α} {a b : α} (hl : l.length = 2) (ha : a ∈ l)
    (hb : b ∈ l) (hne : a ≠ b) : l.Perm [a, b] := by
  have hsub : [a, b].Subperm l := List.subperm_of_subset (by simp [hne]) (by simp [ha, hb])
  exact (hsub.perm_of_length_le (by simp [hl])).symm

theorem mem_of_single {T : Type} [StateClass T] {l : List ContractState} {t : T}
    (h : single (filterIsInstance T l) = .ok t) : up t ∈ l :=
  mem_filterIsInstance.1 (by rw [single_ok.1 h]; exact List.mem_singleton_self t)

/-- What an accepted set-up command does. -/
inductive MiscEffect (tx : LedgerTransaction) : Prop
  | genesis {g : Genesis} (hin : tx.inputStates = []) (hout : tx.outputs = [.genesis g])
  | host {g : Genesis} {s : StateAndRef} {host : Host} {moduleNames : List (Identifier × String)}
    {factoryNames : List (String × String)} (hs : s ∈ tx.inputs) (hdata : s.state.data = .genesis g)
    (hin : tx.inputStates = [.genesis g])
    (hcreate : Host.create g s.ref s.state.notary moduleNames factoryNames = .ok host)
    (hout : tx.outputs = [.host host])
  | bank {host host' : Host} (hin : tx.inputStates = [.host host])
    (hadd : host.addBank bankId = .ok host')
    (hout : tx.outputs.Perm [.host host', .bank (.create host)])
  | cashBank {host host' : Host} {owner : Party} (hin : tx.inputStates = [.host host])
    (hadd : host.addBank bankId = .ok host')
    (hout : tx.outputs.Perm [.host host', .cashBank (.create host owner)])
  | fund {bank : Bank} {owner : Address} {denom : Denom} {amount : Int}
    (hin : tx.inputStates = [.bank bank])
    (hout : tx.outputs = [.bank (bank.allocate owner denom amount)])

section
variable {tx : LedgerTransaction}

theorem inputStates_of_length (h : tx.inputs.length = 1) {s : ContractState}
    (hs : s ∈ tx.inputStates) : tx.inputStates = [s] :=
  eq_singleton_of_mem (by simpa [LedgerTransaction.inputStates] using h) hs

theorem MiscCommands.verify_ok {command : MiscCommands} {signers : List PublicKey}
    (hv : command.verify tx signers = .ok ()) : MiscEffect tx := by
  cases command with
  | genesisCreate =>
    simp only [MiscCommands.verify, Result.bind_ok, require_ok] at hv
    obtain ⟨-, hin, -, hout, hg⟩ := hv
    obtain ⟨g, hg⟩ := List.length_eq_one_iff.1 hg
    refine .genesis ?_ (eq_singleton_of_mem hout (mem_of_single (single_ok.2 hg)))
    rw [LedgerTransaction.inputStates, List.length_eq_zero_iff.1 hin, List.map_nil]
  | hostCreate moduleNames clientStateFactoryNames =>
    simp only [MiscCommands.verify, Result.bind_ok, require_ok, single_ok] at hv
    obtain ⟨-, hin, -, hout, ⟨g, s⟩, hg, host, hhost, host', hcreate, rfl⟩ := hv
    obtain ⟨s', hs, hsg⟩ := List.mem_filterMap.1 (hg ▸ List.mem_singleton_self (g, s))
    obtain ⟨g', hg', he⟩ := Option.map_eq_some_iff.1 hsg
    cases he
    have hdata : s.state.data = .genesis g := cast?_eq.1 hg'
    exact .host hs hdata (inputStates_of_length hin (List.mem_map.2 ⟨s, hs, hdata⟩)) hcreate
      (eq_singleton_of_mem hout (mem_of_single (single_ok.2 hhost)))
  | bankCreate =>
    simp only [MiscCommands.verify, Result.bind_ok, require_ok, MiscCommands.createBank,
      Except.ok.injEq] at hv
    obtain ⟨-, hin, -, hout, host, hhost, newHost, hnewHost, newBank, hnewBank, _,
      ⟨host', hadd, rfl⟩, he⟩ := hv
    cases he
    exact .bank (inputStates_of_length hin (mem_of_single hhost)) hadd
      (eq_pair_of_mem hout (mem_of_single hnewHost) (mem_of_single hnewBank) (by rintro ⟨⟩))
  | cashBankCreate owner =>
    simp only [MiscCommands.verify, Result.bind_ok, require_ok, MiscCommands.createCashBank,
      Except.ok.injEq] at hv
    obtain ⟨-, hin, -, hout, host, hhost, newHost, hnewHost, newBank, hnewBank, _,
      ⟨host', hadd, rfl⟩, -, -, he⟩ := hv
    cases he
    exact .cashBank (inputStates_of_length hin (mem_of_single hhost)) hadd
      (eq_pair_of_mem hout (mem_of_single hnewHost) (mem_of_single hnewBank) (by rintro ⟨⟩))
  | fundAllocate owner denom amount =>
    simp only [MiscCommands.verify, Result.bind_ok, require_ok] at hv
    obtain ⟨-, hin, -, hout, bank, hbank, newBank, hnewBank, rfl⟩ := hv
    exact .fund (inputStates_of_length hin (mem_of_single hbank))
      (eq_singleton_of_mem hout (mem_of_single hnewBank))

/-- A set-up command that puts out a bank creates it, or funds an account of the one it consumes. -/
theorem MiscCommands.bank_of_verify {command : MiscCommands} {signers : List PublicKey}
    (hv : command.verify tx signers = .ok ()) {bank' : Bank}
    (hm : ContractState.bank bank' ∈ tx.outputs) :
    (∃ host, tx.inputStates = [.host host] ∧ bank' = .create host) ∨
    ∃ bank owner denom amount, command = .fundAllocate owner denom amount ∧
      tx.inputStates = [.bank bank] ∧ bank' = bank.allocate owner denom amount := by
  cases command with
  | fundAllocate owner denom amount =>
    simp only [MiscCommands.verify, Result.bind_ok, require_ok] at hv
    obtain ⟨-, hin, -, hout, bank, hbank, newBank, hnewBank, rfl⟩ := hv
    rw [eq_singleton_of_mem hout (mem_of_single hnewBank), List.mem_singleton] at hm
    cases hm
    exact .inr ⟨bank, owner, denom, amount, rfl, inputStates_of_length hin (mem_of_single hbank), rfl⟩
  | bankCreate =>
    simp only [MiscCommands.verify, Result.bind_ok, require_ok, MiscCommands.createBank,
      Except.ok.injEq] at hv
    obtain ⟨-, hin, -, hout, host, hhost, newHost, hnewHost, newBank, hnewBank, _,
      ⟨host', hadd, rfl⟩, he⟩ := hv
    cases he
    have hpair : tx.outputs.Perm [.host newHost, .bank (.create host)] :=
      eq_pair_of_mem hout (mem_of_single hnewHost) (mem_of_single hnewBank) (by rintro ⟨⟩)
    rw [hpair.mem_iff] at hm
    obtain rfl : bank' = .create host := by simpa using hm
    exact .inl ⟨host, inputStates_of_length hin (mem_of_single hhost), rfl⟩
  | genesisCreate =>
    simp only [MiscCommands.verify, Result.bind_ok, require_ok] at hv
    obtain ⟨-, -, -, hout, hg⟩ := hv
    obtain ⟨g, hg⟩ := List.length_eq_one_iff.1 hg
    rw [eq_singleton_of_mem hout (mem_of_single (single_ok.2 hg)), List.mem_singleton] at hm
    cases hm
  | hostCreate moduleNames clientStateFactoryNames =>
    simp only [MiscCommands.verify, Result.bind_ok, require_ok] at hv
    obtain ⟨-, -, -, hout, _, -, host, hhost, -⟩ := hv
    rw [eq_singleton_of_mem hout (mem_of_single hhost), List.mem_singleton] at hm
    cases hm
  | cashBankCreate owner =>
    simp only [MiscCommands.verify, Result.bind_ok, require_ok] at hv
    obtain ⟨-, -, -, hout, _, -, newHost, hnewHost, newBank, hnewBank, -⟩ := hv
    have hpair : tx.outputs.Perm [.host newHost, .cashBank newBank] :=
      eq_pair_of_mem hout (mem_of_single hnewHost) (mem_of_single hnewBank) (by rintro ⟨⟩)
    rw [hpair.mem_iff] at hm
    simp at hm

end

/-! ## What an accepted transaction does to keys -/

/-- Where the key of an output comes from. -/
inductive KeyOrigin (tx : LedgerTransaction) (b : StateRef) (o : ContractState) : Prop
  | input {s : ContractState} (hs : s ∈ tx.inputStates) (hk : s.key? = o.key?) (hu : Updates s o)
  | minted {h h' : Host} (hh : ContractState.host h ∈ tx.inputStates)
    (hh' : ContractState.host h' ∈ tx.outputs) (hb : h.baseId = b)
    (hu : Updates (.host h) (.host h')) (hm : h.Mints o) (ho : h'.Owns o)
  | genesis {h : Host} {g : Genesis} (hg : ∃ s ∈ tx.inputs, s.ref = b ∧ s.state.data = .genesis g)
    (ho : o = .host h)

/-- An accepted transaction of the contract, as far as keys go. -/
structure Accepted (tx : LedgerTransaction) : Prop where
  successor : ∀ s ∈ tx.inputStates, ∀ k, s.key? = some k → ∃ o ∈ tx.outputs, o.key? = some k
  origin : ∀ o ∈ tx.outputs, ∀ b i, o.key? = some (b, i) → KeyOrigin tx b o
  cls : (tx.outputs.filterMap cls?).Nodup

section
variable {P : Platform} {tx : LedgerTransaction}

/-- The outputs of an accepted datagram are the handler's set exactly when they are distinct. -/
theorem verify_datagram {handler : DatagramHandler} {signers : List PublicKey}
    (hm : tx.miscCommands = []) (hd : tx.datagramHandlerCommands = [(handler, signers)])
    (hv : Ibc.verify P tx = .ok ()) :
    ∃ ctx', handler.execute P (.create tx.inputStates tx.referenceStates) signers = .ok ctx' ∧
      ctx'.Verified P.toCrypto tx.outputs := by
  unfold Ibc.verify at hv
  rw [hm, hd] at hv
  obtain ⟨ctx', he, hr⟩ := Result.bind_ok.1 hv
  exact ⟨ctx', he, Context.verifyResults_ok hr⟩

/-- An accepted transaction with a datagram executes it, and nothing else. -/
theorem verify_executes {handler : DatagramHandler} {signers : List PublicKey}
    (hd : tx.datagramHandlerCommands = [(handler, signers)]) (hv : Ibc.verify P tx = .ok ()) :
    ∃ outs ctx', Executes P (.create tx.inputStates tx.referenceStates) signers handler outs ∧
      Context.Outputs (.create tx.inputStates tx.referenceStates) outs ctx' ∧
      ctx'.Verified P.toCrypto tx.outputs := by
  have hm : tx.miscCommands = [] := by
    rcases hc : tx.miscCommands with _ | ⟨c, cs⟩
    · rfl
    · unfold Ibc.verify at hv
      rw [hc, hd] at hv
      cases cs <;> cases hv
  obtain ⟨ctx', he, hr⟩ := verify_datagram hm hd hv
  obtain ⟨outs, hexec, ho⟩ := executes_of_ok he
  exact ⟨outs, ctx', hexec, ho, hr⟩

theorem accepted_of_datagram (hinj : P.toCrypto.UniqueNames)
    {handler : DatagramHandler} {signers : List PublicKey} {ctx' : Context}
    (he : handler.execute P (.create tx.inputStates tx.referenceStates) signers = .ok ctx')
    (hv : ctx'.Verified P.toCrypto tx.outputs) (hn : tx.outputs.Nodup) : Accepted tx := by
  obtain ⟨outs, hexec, ho⟩ := executes_of_ok he
  obtain ⟨hcls, horigin⟩ := hexec.origin
  have houts : ctx'.outStates.states = outs := by rw [ho.outStates]; rfl
  have hperm : tx.outputs.Perm outs := houts ▸ (Context.perm_iff_nodup hv.length hv.subset).2 hn
  have hins : ctx'.inStates = tx.inputStates := ho.inStates
  obtain ⟨b, -, hbin, -, hbout⟩ := hv.baseId
  have hbin : ∀ s ∈ tx.inputStates, ∀ b' i, s.key? = some (b', i) → b' = b := fun s hs b' i hk => by
    obtain ⟨t, ht, -, rfl, -⟩ := key_eq_some.1 hk
    exact hbin t (List.mem_filterMap.2 ⟨s, hins ▸ hs, ht⟩)
  have hbout : ∀ s ∈ tx.outputs, ∀ b' i, s.key? = some (b', i) → b' = b := fun s hs b' i hk => by
    obtain ⟨t, ht, -, rfl, -⟩ := key_eq_some.1 hk
    exact hbout t (List.mem_filterMap.2 ⟨s, houts ▸ hperm.mem_iff.1 hs, ht⟩)
  refine ⟨fun s hs k hk => ?_, fun o ho' b' i hk => ?_, ?_⟩
  · obtain ⟨b', i⟩ := k
    obtain ⟨t, ht, hf, rfl, rfl⟩ := key_eq_some.1 hk
    obtain ⟨u, hu, huf, hul⟩ := hv.successor t (List.mem_filterMap.2 ⟨s, hins ▸ hs, ht⟩) hf
    obtain ⟨o, ho', hou⟩ := List.mem_filterMap.1 hu
    have hid : u.id = t.id := hinj hul
    have hmem : o ∈ tx.outputs := hperm.mem_iff.2 (houts ▸ ho')
    have hok : o.key? = some (u.baseId, u.id) := key_eq_some.2 ⟨u, hou, huf, rfl, rfl⟩
    refine ⟨o, hmem, hok.trans ?_⟩
    rw [hid, hbout o hmem _ _ hok, hbin s hs _ _ hk]
  · have hmem : o ∈ outs := hperm.mem_iff.1 ho'
    rcases horigin o hmem i (id_of_key hk) with ⟨s, hs, hu⟩ | ⟨h, h', hh, hh', hu, hm, hown⟩
    · obtain ⟨b₀, hk₀⟩ := key_of_id (s := s) (hu.id?.symm.trans (id_of_key hk))
      refine .input hs ?_ hu
      rw [hk₀, hk, hbin s hs _ _ hk₀, hbout o ho' _ _ hk]
    · have hin : ContractState.host h ∈ tx.inputStates := Context.mem_of_getInput hh
      refine .minted hin (hperm.mem_iff.2 hh') ?_ hu hm hown
      rw [hbin _ hin _ _ (hostKey h), hbout o ho' _ _ hk]
  · exact (hperm.filterMap _).nodup_iff.2 hcls

/-- A transaction outside the contract has no keys at all. -/
theorem accepted_of_other (h : tx.touchesIbc = false) : Accepted tx := by
  have hb : ∀ s ∈ tx.inputStates ++ tx.outputs, s.belongsToIbc = false := by
    simpa [LedgerTransaction.touchesIbc, or_imp, forall_and] using h
  have hkey : ∀ s ∈ tx.inputStates ++ tx.outputs, ∀ k, s.key? ≠ some k := fun s hs k hk => by
    have h₁ := hb s hs
    rw [belongsToIbc_of_key (b := k.1) (i := k.2) hk] at h₁
    cases h₁
  refine ⟨fun s hs k hk => absurd hk (hkey s (List.mem_append_left _ hs) k),
    fun o ho b i hk => absurd hk (hkey o (List.mem_append_right _ ho) _), ?_⟩
  rw [filterMap_cls_eq_nil]
  · exact List.nodup_nil
  · intro o ho
    have h₁ := hb o (List.mem_append_right _ ho)
    cases o <;> first | rfl | cases h₁

/-- An accepted transaction has one command of the contract, and that accepts it. -/
theorem verify_cases (hv : Ibc.verify P tx = .ok ()) :
    MiscEffect tx ∨ ∃ handler signers, tx.miscCommands = [] ∧ tx.datagramHandlerCommands = [(handler, signers)] := by
  unfold Ibc.verify at hv
  split at hv
  · exact .inl (MiscCommands.verify_ok hv)
  · rename_i hm hd
    exact .inr ⟨_, _, hm, hd⟩
  · cases hv

theorem eq_of_nodup_filterMap {α β : Type} {f : α → Option β} {xs : List α} {a a' : α} {b : β}
    {j j' : Nat} (hn : (xs.filterMap f).Nodup) (hj : xs[j]? = some a) (hj' : xs[j']? = some a')
    (ha : f a = some b) (ha' : f a' = some b) : j = j' := by
  have hp := List.pairwise_filterMap.1 hn
  rw [List.pairwise_iff_getElem] at hp
  obtain ⟨h, rfl⟩ := List.getElem?_eq_some_iff.1 hj
  obtain ⟨h', rfl⟩ := List.getElem?_eq_some_iff.1 hj'
  rcases Nat.lt_trichotomy j j' with hlt | rfl | hlt
  · exact absurd rfl (hp j j' h h' hlt b ha b ha')
  · rfl
  · exact absurd rfl (hp j' j h' h hlt b ha' b ha)

theorem Accepted.update {s o : ContractState} (hin : tx.inputStates = [s]) (hout : tx.outputs = [o])
    (hk : o.key? = s.key?) (hu : Updates s o) : Accepted tx := by
  refine ⟨fun t ht k htk => ?_, fun t ht b i htk => ?_, ?_⟩
  · rw [hin, List.mem_singleton] at ht
    subst ht
    exact ⟨o, by simp [hout], hk.trans htk⟩
  · rw [hout, List.mem_singleton] at ht
    subst ht
    exact .input (s := s) (by simp [hin]) hk.symm hu
  · rw [hout]
    cases hc : o.cls? <;> simp [hc]

/-- A bank made of a host: the host goes on with the bank's identifier taken, and the bank is
minted. -/
theorem Accepted.addBank {host host' : Host} {o : ContractState} (hin : tx.inputStates = [.host host])
    (hout : tx.outputs.Perm [.host host', o]) (hadd : host.addBank bankId = .ok host')
    (hcls : o.cls? = some 4) (hkey : o.key? = some (host.baseId, bankId))
    (hm : bankId ∉ host.bankIds → host.Mints o) (hown : bankId ∈ host'.bankIds → host'.Owns o) :
    Accepted tx := by
  simp only [Host.addBank, Result.bind_ok, require_ok, Except.ok.injEq] at hadd
  obtain ⟨-, hnew, rfl⟩ := hadd
  have hu : Updates (.host host) (.host { host with bankIds := host.bankIds ++ [bankId] }) :=
    ⟨rfl, rfl, rfl, rfl, rfl, le_rfl, le_rfl, le_rfl, List.subset_append_left _ _⟩
  refine ⟨fun t ht k htk => ?_, fun t ht b i htk => ?_, ?_⟩
  · rw [hin, List.mem_singleton] at ht
    subst ht
    exact ⟨_, hout.mem_iff.2 List.mem_cons_self, htk⟩
  · have ht := hout.mem_iff.1 ht
    simp only [List.mem_cons, List.not_mem_nil, or_false] at ht
    rcases ht with rfl | rfl
    · exact .input (s := .host host) (by simp [hin]) rfl hu
    · refine .minted (h := host) (by simp [hin]) (hout.mem_iff.2 List.mem_cons_self) ?_ hu (hm hnew)
        (hown (by simp))
      rw [hkey] at htk
      cases htk; rfl
  · rw [(hout.filterMap cls?).nodup_iff, List.filterMap_cons_some (f := cls?) rfl,
      List.filterMap_cons_some hcls]
    simp

theorem accepted_of_misc (h : MiscEffect tx) : Accepted tx := by
  cases h with
  | genesis hin hout =>
    refine ⟨fun s hs => ?_, fun o ho b i hk => ?_, by rw [hout]; exact List.nodup_nil⟩
    · rw [hin] at hs
      cases hs
    · rw [hout, List.mem_singleton] at ho
      subst ho
      cases hk
  | @host g s host _ _ hs hdata hin hcreate hout =>
    have hbase : host.baseId = s.ref := by
      simp only [Host.create, Result.bind_ok, Except.ok.injEq] at hcreate
      obtain ⟨_, -, _, -, rfl⟩ := hcreate
      rfl
    refine ⟨fun t ht k hk => ?_, fun o ho b i hk => ?_, by rw [hout]; exact List.nodup_singleton 0⟩
    · rw [hin, List.mem_singleton] at ht
      subst ht
      cases hk
    · rw [hout, List.mem_singleton] at ho
      subst ho
      rw [hostKey, hbase] at hk
      cases hk
      exact .genesis ⟨s, hs, rfl, hdata⟩ rfl
  | bank hin hadd hout => exact .addBank hin hout hadd rfl rfl id id
  | cashBank hin hadd hout => exact .addBank hin hout hadd rfl rfl id id
  | fund hin hout => exact .update hin hout rfl trivial

end

end CordaIbc
