import CordaIbc.Ledgers

/-!
# Two ledgers are a net

Seen by the identifiers of the two hosts, every run of two ledgers whose datagrams have distinct outputs
is a run of a net of two chains (`Ledgers.simulated_run`): a client learns of the other host only what its
ledger put out before. So what holds of the runs of nets holds of the ledgers.
-/

namespace CordaIbc

open StateClass ContractState

/-! ## One ledger -/

/-- The state has the base id, be it fungible or not. -/
def ContractState.Of (s : ContractState) (b : StateRef) : Prop := ∃ t, s.ibc? = some t ∧ t.baseId = b

/-- Every datagram puts out a state with a key. -/
theorem Executes.exists_key {P : Platform} {ctx : Context} {signers : List PublicKey}
    {d : DatagramHandler} {outs : List ContractState} (h : Executes P ctx signers d outs) :
    ∃ o ∈ outs, ∃ k, o.key? = some k := by
  cases h with
  | sendPacket | recvPacket | acknowledgePacket =>
    exact ⟨_, List.mem_append_right _ List.mem_cons_self, _, rfl⟩
  | _ => exact ⟨_, List.mem_cons_self, _, rfl⟩

/-- What an accepted transaction puts out, fungible or not, comes from its base id or is a new host. -/
theorem LedgerTransaction.spends_or_creates_of {P : Platform} {tx : LedgerTransaction}
    {o : ContractState} {b : StateRef} (hv : Ibc.verify P tx = .ok ()) (ho : o ∈ tx.outputs)
    (hb : o.Of b) : tx.spends b = true ∨ ∃ host, tx.CreatesHost b host := by
  obtain ⟨t, ht, rfl⟩ := hb
  rcases verify_cases hv with hm | ⟨handler, signers, -, hd⟩
  · have hkey : ∃ i, o.key? = some (t.baseId, i) := by
      cases hm with
      | genesis _ hout =>
        rw [hout, List.mem_singleton] at ho
        subst ho
        cases ht
      | host _ _ _ _ hout | fund _ hout =>
        rw [hout, List.mem_singleton] at ho
        subst ho
        cases ht
        exact ⟨_, rfl⟩
      | bank _ _ hout | cashBank _ _ hout =>
        have ho := hout.mem_iff.1 ho
        simp only [List.mem_cons, List.not_mem_nil, or_false] at ho
        rcases ho with rfl | rfl <;> cases ht <;> exact ⟨_, rfl⟩
    obtain ⟨i, hk⟩ := hkey
    exact spends_of_misc hm ho hk
  · obtain ⟨outs, ctx', hexec, houts, hverified⟩ := verify_executes hd hv
    obtain ⟨b, -, hbin, -, hbout⟩ := hverified.baseId
    obtain rfl : t.baseId = b := hbout t (List.mem_filterMap.2 ⟨o, hverified.subset o ho, ht⟩)
    have hin : ∀ s ∈ tx.inputStates, ∀ j, s.id? = some j → tx.spends t.baseId = true := by
      intro s hs j hj
      obtain ⟨b', hk⟩ := key_of_id hj
      obtain ⟨u, hu, -, rfl, -⟩ := key_eq_some.1 hk
      rw [← hbin u (List.mem_filterMap.2 ⟨s, houts.inStates ▸ hs, hu⟩)]
      exact spends_iff.2 ⟨s, hs, j, hk⟩
    obtain ⟨o', ho', ⟨_, i⟩, hk⟩ := hexec.exists_key
    rcases hexec.origin.2 o' ho' i (id_of_key hk) with ⟨s, hs, hu⟩ | ⟨host, _, hh, -⟩
    · exact .inl (hin s hs i (hu.id?.symm.trans (id_of_key hk)))
    · exact .inl (hin _ (Context.mem_of_getInput hh) hostId rfl)

namespace Ledger

/-- The ledger has had nothing of the base id. -/
structure Absent (b : StateRef) (past : List LedgerTransaction) (l : Ledger) : Prop where
  lacks : l.Lacks b
  past : ∀ tx ∈ past, ∀ o ∈ tx.outputs, ¬ o.Of b

/-- The ledger shows the chain, which remembers all that was put out of its base id. -/
structure Present (past : List LedgerTransaction) (l : Ledger) (c : Chain) : Prop where
  shows : l.Shows c
  recorded : ∀ tx ∈ past, ∀ o ∈ tx.outputs, o.Of c.baseId → o ∈ c.history

section
variable {P : Platform} {l : Ledger} {tx : LedgerTransaction} {b : StateRef} {c : Chain}
  {past : List LedgerTransaction}

theorem Commits.spends_or_creates_of (hc : Commits P l tx) {o : ContractState} (ho : o ∈ tx.outputs)
    (hb : o.Of b) : tx.spends b = true ∨ ∃ host, tx.CreatesHost b host := by
  have htouch : o.belongsToIbc = true := by
    obtain ⟨t, ht, -⟩ := hb
    cases o <;> first | rfl | cases ht
  exact LedgerTransaction.spends_or_creates_of (hc.verify (List.any_eq_true.2
    ⟨o, List.mem_append_right _ ho, htouch⟩)) ho hb

/-- A base id without states stays so, or its host is created. -/
theorem Absent.step (h : Absent b past l) (hc : Commits P l tx) : tx.spends b = false ∧
    (Absent b (past ++ [tx]) (l.apply tx) ∨
      ∃ c : Chain, c.Start ∧ c.baseId = b ∧ Present (past ++ [tx]) (l.apply tx) c) := by
  obtain ⟨hs, hnext⟩ := h.lacks.step hc
  -- what it puts out of the base id is a host, and stays
  have hhost : ∀ o ∈ tx.outputs, o.Of b → ∃ host r n, o = .host host ∧ host.baseId = b ∧
      (l.apply tx).states.lookup r = some ⟨.host host, n⟩ := by
    intro o ho hb
    obtain ⟨host, hcreate⟩ := (hc.spends_or_creates_of ho hb).resolve_left (by simp [hs])
    rw [hcreate.outputs] at ho
    exact ⟨host, _, _, List.mem_singleton.1 ho, hcreate.baseId,
      lookup_apply_output (i := 0) (by rw [hcreate.outputs]; rfl)⟩
  refine ⟨hs, hnext.imp (fun hlacks => ⟨hlacks, ?_⟩) ?_⟩
  · intro tx' htx o ho hb
    rcases List.mem_append.1 htx with htx | htx
    · exact h.past tx' htx o ho hb
    · rw [List.mem_singleton.1 htx] at ho
      obtain ⟨host, r, n, rfl, rfl, hl⟩ := hhost o ho hb
      exact hlacks r _ hostId hl rfl
  · rintro ⟨c, hstart, rfl, hshows⟩
    refine ⟨c, hstart, rfl, hshows, ?_⟩
    intro tx' htx o ho hb
    rcases List.mem_append.1 htx with htx | htx
    · exact absurd hb (h.past tx' htx o ho)
    · rw [List.mem_singleton.1 htx] at ho
      obtain ⟨host, r, n, rfl, hbase, hl⟩ := hhost o ho hb
      have hcur := hshows.lookup r _ hostId hl (by rw [hostKey, hbase])
      obtain ⟨_, _, _, _, _, host', -, rfl⟩ := hstart
      obtain ⟨-, he⟩ := Chain.lookup_ofHost hcur
      exact List.mem_singleton.2 he

theorem Present.frame (h : Present past l c) (hci : c.Inv) (hi : l.Inv) (hc : Commits P l tx)
    (hs : tx.spends c.baseId = false) : Present (past ++ [tx]) (l.apply tx) c := by
  refine ⟨h.shows.frame hci hi hc hs, ?_⟩
  intro tx' htx o ho hb
  rcases List.mem_append.1 htx with htx | htx
  · exact h.recorded tx' htx o ho hb
  · -- the genesis of the host is gone
    rw [List.mem_singleton.1 htx] at ho
    obtain ⟨host, hcreate⟩ := (hc.spends_or_creates_of ho hb).resolve_left (by simp [hs])
    obtain ⟨t, ht, hr⟩ := hcreate.genesis
    obtain ⟨host', hhost, -⟩ := hci.owned
    obtain ⟨r, n, hl⟩ := h.shows.exists_ref _ _ hhost
    exact absurd hr (hi.not_genesis hc hl (hci.keyed _ _ hhost) ht)

theorem Present.apply (h : Present past l c) (hci : c.Inv) (hi : l.Inv) (hc : Commits P l tx)
    (ha : Accepted tx) (hn : tx.DistinctOutputs) (hs : tx.spends c.baseId = true) :
    Present (past ++ [tx]) (l.apply tx) (c.apply tx) := by
  refine ⟨h.shows.apply hci hi hc ha hn hs, ?_⟩
  intro tx' htx o ho hb
  rcases List.mem_append.1 htx with htx | htx
  · exact List.mem_append_right _ (h.recorded tx' htx o ho hb)
  · rw [List.mem_singleton.1 htx] at ho
    exact List.mem_append_left _ ho

end

end Ledger

/-! ## The simulation -/

namespace Ledgers
open Ledger

section
variable {P : Platform} {ok : LedgerTransaction → Prop} {b : Side → StateRef} {w₀ w w' : Ledgers}
  {a : Side × LedgerTransaction} {tr : List (Side × LedgerTransaction)} {tx : LedgerTransaction}

/-- A run of two ledgers is a run of each. -/
theorem run_own (hr : Run (Step P ok b) w₀ tr w) (s : Side) :
    Run (Ledger.Step P ok) (w₀.ledger s) (Net.own s tr) (w.ledger s) := by
  induction hr with
  | nil => exact .nil
  | @snoc tr w w' a _ hs ih =>
    obtain ⟨s', tx⟩ := a
    by_cases ha : s' = s
    · subst ha
      rw [Net.own_self]
      exact .snoc ih hs.ledger
    · rw [Net.own_ne ha, (hs.other s (Ne.symm ha)).1]
      exact ih

theorem taken_snoc_none (h : a.2.spends (b a.1) = false) : taken b (tr ++ [a]) = taken b tr := by
  simp [taken, h]

theorem taken_snoc_some (h : a.2.spends (b a.1) = true) :
    taken b (tr ++ [a]) = taken b tr ++ [a] := by
  simp [taken, h]

/-- What the clients of a host accept, the chain of the other host has put out. -/
theorem Shown.sound (hb : b .left ≠ b .right) {n : Net Side} (htrack : n.Tracking)
    (hbase : ∀ s, (n s).baseId = b s) {s : Side} {c : Chain} (hcommit : (n s).commit P tx = .ok c)
    {past : List LedgerTransaction} {l : Ledger} (h : Shown P (b s.peer) past tx)
    (hpast : Absent (b s.peer) past l ∨ Present past l (n s.peer)) : Net.Sound P n tx := by
  intro handler signers hd client cs hclient himpl proof hproof T _ t hp i hi
  obtain ⟨outs, ctx', ht⟩ := Chain.datagram_of_commit hcommit hd
  obtain ⟨cs', himpl', hpeer⟩ := htrack.client s client.id client (ht.references _ hclient _ rfl)
  rw [himpl] at himpl'
  cases himpl'
  rw [hbase] at hpeer
  obtain ⟨tx', htx', hout⟩ := h handler signers hd client cs hclient himpl hpeer proof hproof T t hp
  have hof : (up t : ContractState).Of (b s.peer) := hpeer ▸ hp.baseId
  rcases Side.eq_or_eq_peer s i with rfl | rfl
  · rw [hpeer, hbase] at hi
    exfalso
    cases i with
    | left => exact hb hi
    | right => exact hb hi.symm
  · rcases hpast with hpast | hpast
    · exact absurd hof (hpast.past _ htx' _ hout)
    · exact hpast.recorded _ htx' _ hout (by rwa [hbase])

/-- Some hosts are there, with the chains that they started as: every net that starts so runs along. -/
structure Simulated (P : Platform) (b : Side → StateRef) (tr : List (Side × LedgerTransaction))
    (w : Ledgers) (d : Side → Option Chain) : Prop where
  absent : ∀ s, d s = none → Absent (b s) (w.past s) (w.ledger s)
  start : ∀ s c, d s = some c → c.Start ∧ c.baseId = b s
  run : ∀ n₀ : Net Side, n₀.Start → (∀ s, (n₀ s).baseId = b s) → (∀ s c, d s = some c → n₀ s = c) →
    ∃ n, Run (Net.Step P Net.TracksPeer) n₀ (taken b tr) n ∧ (∀ s, d s = none → n s = n₀ s) ∧
      ∀ s, d s ≠ none → Present (w.past s) (w.ledger s) (n s)

theorem baseId_run {n₀ n : Net Side} {t : List (Side × LedgerTransaction)}
    (hr : Run (Net.Step P Net.TracksPeer) n₀ t n) (s : Side) : (n s).baseId = (n₀ s).baseId := by
  induction hr with
  | nil => rfl
  | snoc _ hs ih => rw [hs.baseId s, ih]

variable {d : Side → Option Chain}

/-- Before anything, no host is there. -/
theorem Start.simulated (h₀ : w₀.Start) : Simulated P b [] w₀ fun _ => none := by
  refine ⟨fun s _ => ⟨?_, ?_⟩, fun s c hd => (by cases hd), ?_⟩
  · intro r o i hl hk
    obtain ⟨g, hg⟩ := (h₀.ledger s).genesis r o hl
    rw [hg] at hk
    cases hk
  · intro tx htx
    rw [h₀.past s] at htx
    exact absurd htx List.not_mem_nil
  · intro n₀ _ _ _
    exact ⟨n₀, .nil, fun _ _ => rfl, fun _ hd => absurd rfl hd⟩

/-- A transaction that neither host takes part in. -/
theorem Simulated.quiet (h : Simulated P b tr w d) (hs : a.2.spends (b a.1) = false)
    (habsent : ∀ s, d s = none → Absent (b s) (w'.past s) (w'.ledger s))
    (hpresent : ∀ s c, d s ≠ none → c.Inv → c.baseId = b s →
      Present (w.past s) (w.ledger s) c → Present (w'.past s) (w'.ledger s) c) :
    Simulated P b (tr ++ [a]) w' d := by
  refine ⟨habsent, h.start, fun n₀ hstart hbase hn₀ => ?_⟩
  obtain ⟨n, hrun, hsame, hshown⟩ := h.run n₀ hstart hbase hn₀
  rw [taken_snoc_none hs]
  refine ⟨n, hrun, hsame, fun s hs => ?_⟩
  have hinv := (Net.Tracking.run hstart (fun _ _ _ h => h) hrun).inv s
  exact hpresent s _ hs hinv ((baseId_run hrun s).trans (hbase s)) (hshown s hs)

/-- A host is created. -/
theorem Simulated.create (h : Simulated P b tr w d) (hspends : a.2.spends (b a.1) = false)
    {c : Chain} (hnone : d a.1 = none) (hstart : c.Start) (hc : c.baseId = b a.1)
    (hnew : Present (w'.past a.1) (w'.ledger a.1) c)
    (hother : ∀ s, s ≠ a.1 → w'.ledger s = w.ledger s ∧ w'.past s = w.past s) :
    Simulated P b (tr ++ [a]) w' (Function.update d a.1 (some c)) := by
  have hold : ∀ s, s ≠ a.1 → Function.update d a.1 (some c) s = d s := fun s hs =>
    Function.update_of_ne hs _ _
  refine ⟨fun s hs => ?_, fun s c' hs => ?_, fun n₀ hn hbase hn₀ => ?_⟩
  · have hne : s ≠ a.1 := by
      rintro rfl
      simp at hs
    rw [(hother s hne).1, (hother s hne).2]
    exact h.absent s ((hold s hne).symm.trans hs)
  · by_cases hne : s = a.1
    · subst hne
      obtain rfl : c = c' := by simpa using hs
      exact ⟨hstart, hc⟩
    · exact h.start s c' ((hold s hne).symm.trans hs)
  · have hn₀c : n₀ a.1 = c := hn₀ a.1 c (by simp)
    obtain ⟨n, hrun, hsame, hshown⟩ := h.run n₀ hn hbase fun s c' hs => by
      refine hn₀ s c' ((hold s ?_).trans hs)
      rintro rfl
      rw [hnone] at hs
      cases hs
    rw [taken_snoc_none hspends]
    refine ⟨n, hrun, fun s hs => ?_, fun s hs => ?_⟩
    · have hne : s ≠ a.1 := by
        rintro rfl
        simp at hs
      exact hsame s ((hold s hne).symm.trans hs)
    · by_cases hne : s = a.1
      · subst hne
        rw [hsame _ hnone, hn₀c]
        exact hnew
      · rw [(hother s hne).1, (hother s hne).2]
        exact hshown s (hold s hne ▸ hs)

/-- A host takes a transaction. -/
theorem Simulated.take (hb : b .left ≠ b .right) (hinj : P.toCrypto.UniqueNames)
    (h : Simulated P b tr w d) (hs : Step P LedgerTransaction.DistinctOutputs b w a w')
    (hspends : a.2.spends (b a.1) = true) (hsome : d a.1 ≠ none) (hi : (w.ledger a.1).Inv) :
    Simulated P b (tr ++ [a]) w' d := by
  obtain ⟨hn, hcommit⟩ := hs.ledger
  obtain ⟨hc, hledger⟩ := commit_ok.1 hcommit
  refine ⟨fun s hd => ?_, h.start, fun n₀ hstart hbase hn₀ => ?_⟩
  · have hne : s ≠ a.1 := by
      rintro rfl
      exact hsome hd
    rw [(hs.other s hne).1, (hs.other s hne).2]
    exact h.absent s hd
  · obtain ⟨n, hrun, hsame, hshown⟩ := h.run n₀ hstart hbase hn₀
    have htrack := Net.Tracking.run hstart (fun _ _ _ h => h) hrun
    have hbase' : ∀ s, (n s).baseId = b s := fun s => (baseId_run hrun s).trans (hbase s)
    have hshow := hshown a.1 hsome
    have hspends' : a.2.spends (n a.1).baseId = true := by rwa [hbase']
    have hcommit := hshow.shows.commit hc hspends'
    -- the net moves along
    have hstep : Net.Step P Net.TracksPeer n a (Function.update n a.1 ((n a.1).apply a.2)) := by
      refine ⟨?_, ?_, hn, ?_, fun s hne => Function.update_of_ne hne _ _⟩
      · intro client hclient
        rw [hbase']
        exact hs.tracks hspends client hclient
      · refine (hs.shown hspends).sound hb htrack hbase' hcommit (l := w.ledger a.1.peer) ?_
        by_cases hd : d a.1.peer = none
        · exact .inl (h.absent _ hd)
        · exact .inr (hshown _ hd)
      · rw [hcommit]
        simp
    refine ⟨Function.update n a.1 ((n a.1).apply a.2), ?_, fun s hd => ?_, fun s hd => ?_⟩
    · rw [taken_snoc_some hspends]
      exact .snoc hrun hstep
    · have hne : s ≠ a.1 := by
        rintro rfl
        exact hsome hd
      rw [Function.update_of_ne hne]
      exact hsame s hd
    · by_cases hne : s = a.1
      · subst hne
        rw [Function.update_self, hs.past, hledger]
        exact hshow.apply (htrack.inv _) hi hc (hc.accepted hinj hn) hn hspends'
      · rw [Function.update_of_ne hne, (hs.other s hne).1, (hs.other s hne).2]
        exact hshown s hd

theorem Simulated.step (hb : b .left ≠ b .right) (hinj : P.toCrypto.UniqueNames)
    (hi : (w.ledger a.1).Inv) (h : Simulated P b tr w d)
    (hs : Step P LedgerTransaction.DistinctOutputs b w a w') :
    ∃ d', Simulated P b (tr ++ [a]) w' d' := by
  obtain ⟨hn, hcommit⟩ := hs.ledger
  obtain ⟨hc, hledger⟩ := commit_ok.1 hcommit
  by_cases hd : d a.1 = none
  · obtain ⟨hspends, hnext⟩ := (h.absent _ hd).step hc
    rw [← hledger, ← hs.past] at hnext
    rcases hnext with hnext | ⟨c, hstart, hbase, hnew⟩
    · refine ⟨d, h.quiet hspends (fun s hd' => ?_) fun s c hd' _ _ hp => ?_⟩
      · by_cases hne : s = a.1
        · exact hne ▸ hnext
        · rw [(hs.other s hne).1, (hs.other s hne).2]
          exact h.absent s hd'
      · have hne : s ≠ a.1 := fun he => hd' (he ▸ hd)
        rwa [(hs.other s hne).1, (hs.other s hne).2]
    · exact ⟨_, h.create hspends hd hstart hbase hnew hs.other⟩
  · cases hspends : a.2.spends (b a.1) with
    | true => exact ⟨d, h.take hb hinj hs hspends hd hi⟩
    | false =>
      refine ⟨d, h.quiet hspends (fun s hd' => ?_) fun s c hd' hci hbase hp => ?_⟩
      · have hne : s ≠ a.1 := fun he => hd (he ▸ hd')
        rw [(hs.other s hne).1, (hs.other s hne).2]
        exact h.absent s hd'
      · by_cases hne : s = a.1
        · subst hne
          rw [hledger, hs.past]
          exact hp.frame hci hi hc (by rwa [hbase])
        · rwa [(hs.other s hne).1, (hs.other s hne).2]

/-- In every run of two ledgers whose datagrams have distinct outputs, what the ledgers hold of the two
hosts is a net that took their transactions, from the chains that the hosts started as. -/
theorem simulated_run (hinj : P.toCrypto.UniqueNames) (hb : b .left ≠ b .right) (h₀ : w₀.Start)
    (hr : Run (Step P LedgerTransaction.DistinctOutputs b) w₀ tr w)
    (hhosts : ∀ s, ¬ (w.ledger s).Lacks (b s)) :
    ∃ n₀ n : Net Side, n₀.Start ∧ Run (Net.Step P Net.TracksPeer) n₀ (taken b tr) n ∧
      ∀ s, (n s).baseId = b s ∧ (w.ledger s).Shows (n s) := by
  have hsim : ∃ d, Simulated P b tr w d := by
    refine hr.invariant (I := fun tr w => ∃ d, Simulated P b tr w d) ⟨_, h₀.simulated⟩ ?_
    rintro tr w a w' hr ⟨d, h⟩ hs
    exact h.step hb hinj (Inv.run hinj (h₀.ledger _) (run_own hr a.1)).1 hs
  obtain ⟨d, h⟩ := hsim
  have hsome : ∀ s, ∃ c, d s = some c := by
    intro s
    exact Option.ne_none_iff_exists'.1 fun hd => hhosts s (h.absent s hd).lacks
  choose n₀ hn₀ using hsome
  obtain ⟨n, hrun, -, hshown⟩ := h.run n₀ (fun s => (h.start s _ (hn₀ s)).1)
    (fun s => (h.start s _ (hn₀ s)).2) fun s c hc => Option.some.inj ((hn₀ s).symm.trans hc)
  refine ⟨n₀, n, fun s => (h.start s _ (hn₀ s)).1, hrun, fun s => ⟨?_, ?_⟩⟩
  · exact (baseId_run hrun s).trans (h.start s _ (hn₀ s)).2
  · exact (hshown s (by simp [hn₀ s])).shows

end

end Ledgers

end CordaIbc
