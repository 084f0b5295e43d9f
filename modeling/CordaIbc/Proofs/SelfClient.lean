import CordaIbc.Net
import CordaIbc.Proofs.Linked
import CordaIbc.Sample.Net

/-!
# Whose client the counterparty has

`connOpenTry` and `connOpenAck` prove that the host that the client tracks stores `msg.clientState`
under the counterparty's client identifier, with the consensus state that all hosts have. They never
compare it with the host that runs them: the counterparty's client tracks this host exactly when the
message names it (`Net.self_client`).
-/

namespace CordaIbc

open ContractState StateClass

/-- The client state a connection handshake message brings. -/
def DatagramHandler.clientState? : DatagramHandler → Option Any
  | handleConnOpenTry msg => some msg.clientState
  | handleConnOpenAck msg => some msg.clientState
  | _ => none

/-- The client tracks the host. -/
structure CordaClientState.Tracks (cs : CordaClientState) (host : Host) : Prop where
  baseId : cs.counterpartyBaseId = host.baseId
  notaryKey : cs.counterpartyNotaryKey = host.notary.owningKey

/-- A client state message of a client that tracks the host. -/
def Host.NamedBy (P : Platform) (host : Host) (any : Any) : Prop :=
  ∃ c, P.unpackCordaClientState any = .ok c ∧ ⟨⟨c.txhash⟩, c.index⟩ = host.baseId ∧
    P.decodePublicKey c.notaryKey = .ok host.notary.owningKey

/-! ## The clients of a host -/

/-- A Corda client as it was created. -/
structure IbcClientState.Made (P : Platform) (t : IbcClientState) (cs : CordaClientState) : Prop where
  impl : t.impl = .corda cs
  any : t.anyClientState = cs.anyClientState
  unpacks : ∃ c, P.unpackCordaClientState cs.anyClientState = .ok c ∧
    cs.counterpartyBaseId = ⟨⟨c.txhash⟩, c.index⟩ ∧
    P.decodePublicKey c.notaryKey = .ok cs.counterpartyNotaryKey

/-- What a client tracks is what its client state names. -/
theorem IbcClientState.Made.tracks_iff {P : Platform} {t : IbcClientState} {cs : CordaClientState}
    (h : t.Made P cs) (host : Host) : cs.Tracks host ↔ host.NamedBy P t.anyClientState := by
  obtain ⟨c, hc, hbase, hkey⟩ := h.unpacks
  rw [h.any]
  constructor
  · rintro ⟨hb, hk⟩
    exact ⟨c, hc, hbase ▸ hb, hk ▸ hkey⟩
  · rintro ⟨c', hc', hb, hk⟩
    obtain rfl := Except.ok.inj (hc.symm.trans hc')
    exact ⟨hbase.trans hb, Except.ok.inj (hkey.symm.trans hk)⟩

theorem made_of_createClientState {P : Platform} {host : Host} {id : Identifier} {any consensus : Any}
    {cs : CordaClientState} (h : host.createClientState P any consensus = .ok (.corda cs)) :
    (IbcClientState.create host id (.corda cs)).Made P cs := by
  simp only [Host.createClientState, Result.bind_ok] at h
  obtain ⟨factory, -, h⟩ := h
  cases factory with
  | fabric =>
    obtain ⟨s, -, he⟩ := Result.map_ok.1 h
    cases he
  | corda =>
    obtain ⟨cs', hcreate, he⟩ := Result.map_ok.1 h
    cases he
    simp only [CordaClientState.create, Result.bind_ok, Except.ok.injEq] at hcreate
    obtain ⟨-, -, c, hc, -, -, key, hkey, rfl⟩ := hcreate
    exact ⟨rfl, rfl, c, hc, rfl, hkey⟩

theorem isClass_client : IsClass IbcClientState 1 :=
  ⟨fun _ => rfl, fun s h => by cases s <;> first | exact ⟨_, rfl⟩ | cases h⟩

/-- A datagram that puts out a client creates it, or updates the one in the inputs. -/
theorem Executes.client_cases {P : Platform} {ctx : Context} {signers : List PublicKey}
    {d : DatagramHandler} {outs : List ContractState} (h : Executes P ctx signers d outs)
    {t : IbcClientState} (hm : ContractState.client t ∈ outs) :
    (∃ host any consensus impl type, ctx.getInput Host = .ok host ∧
      host.createClientState P any consensus = .ok impl ∧
      t = .create host (host.generateClientIdentifier type).2 impl) ∨
    ∃ client header result, ctx.getInput IbcClientState = .ok client ∧
      client.impl.checkHeaderAndUpdateState P header = .ok result := by
  cases h with
  | createClient hhost hstate =>
    obtain rfl : t = _ := by simpa using hm
    exact .inl ⟨_, _, _, _, _, hhost, hstate, rfl⟩
  | updateClient hclient _ hresult => exact .inr ⟨_, _, _, hclient, hresult⟩
  | connOpenInit | connOpenTry | connOpenAck | connOpenConfirm | chanOpenInit | chanOpenTry
  | chanOpenTryPrevious | chanOpenAck | chanOpenConfirm | chanCloseInit | chanCloseConfirm =>
    simp at hm
  | sendPacket _ _ heffect => exact absurd hm heffect.bankOuts.client_notMem
  | recvPacket _ _ _ heffect => exact absurd hm heffect.bankOuts.client_notMem
  | acknowledgePacket _ _ _ _ heffect => exact absurd hm heffect.bankOuts.client_notMem

/-- Every client a transaction puts out is a Corda client. -/
def LedgerTransaction.CordaClients (tx : LedgerTransaction) : Prop :=
  ∀ t, ContractState.client t ∈ tx.outputs → ∃ cs, t.impl = .corda cs

namespace Chain

/-- The clients of a host stay as they were created. -/
structure Clients (P : Platform) (c : Chain) : Prop where
  made : ∀ i t, c.states.lookup i = some (.client t) → ∃ cs, t.Made P cs
  past : ∀ t, ContractState.client t ∈ c.history → c.states.lookup t.id = some (.client t)

section
variable {P : Platform} {c : Chain} {tx : LedgerTransaction} {outs : List ContractState}

theorem Start.clients (h : c.Start) : c.Clients P := by
  obtain ⟨_, _, _, _, _, host, -, rfl⟩ := h
  refine ⟨fun i t hl => ?_, fun t hm => ?_⟩
  · cases (lookup_ofHost hl).2
  · cases List.mem_singleton.1 hm

/-- What a transaction does to the clients. -/
inductive ClientStep (P : Platform) (c : Chain) (tx : LedgerTransaction) : Prop
  | leaves (hleaves : Leaves IbcClientState c (c.apply tx))
  | creates {t : IbcClientState} {cs : CordaClientState} (hmade : t.Made P cs)
    (hnew : c.states.lookup t.id = none) (hwrites : Writes c (c.apply tx) t.id t)

theorem Inv.clientStep (hi : c.Inv) (hcl : c.Clients P) (hok : tx.CordaClients)
    (ht : Takes P c tx outs) : ClientStep P c tx := by
  by_cases hno : ∀ t, ContractState.client t ∉ outs
  · exact .leaves (hi.leaves ht isClass_client hno)
  obtain ⟨t, hm⟩ := not_forall_not.1 hno
  have hwrites : Writes c (c.apply tx) t.id t := hi.writes ht isClass_client hm rfl
  have heffect := ht.effect
  cases heffect with
  | addBank _ _ hbank => rcases hbank with rfl | ⟨_, rfl⟩ <;> simp at hm
  | fund => simp at hm
  | datagram _ hin _ hexec =>
    rcases hexec.client_cases hm with ⟨host, any, consensus, impl, type, hhost, hstate, rfl⟩ |
      ⟨client, header, result, hclient, hresult⟩
    · obtain ⟨cs, himpl⟩ := hok _ (ht.perm.mem_iff.2 hm)
      obtain rfl : impl = .corda cs := himpl
      have hmints : host.Mints (.client (.create host (host.generateClientIdentifier type).2
          (.corda cs))) := ⟨type, rfl⟩
      refine .creates (made_of_createClientState hstate) ?_ hwrites
      exact hi.lookup_eq_none (hin _ (Context.mem_of_getInput hhost) _ rfl) hmints rfl
    · -- a Corda client takes no header
      obtain ⟨cs, hmade⟩ := hcl.made _ client (hin _ (Context.mem_of_getInput hclient) _ rfl)
      rw [hmade.impl] at hresult
      cases hresult

/-- A client stays as it is. -/
theorem ClientStep.stays (h : ClientStep P c tx) {i : Identifier} {t : IbcClientState}
    (hl : c.states.lookup i = some (.client t)) :
    (c.apply tx).states.lookup i = some (.client t) := by
  cases h with
  | leaves hleaves => exact (hleaves.lookup i t).2 hl
  | @creates u _ _ hnew hwrites =>
    refine (hwrites.other i ?_ t).2 hl
    rintro rfl
    rw [hnew] at hl
    cases hl

theorem Clients.apply (h : c.Clients P) (hs : ClientStep P c tx) : (c.apply tx).Clients P := by
  refine ⟨fun i t hl => ?_, fun t hm => ?_⟩
  · cases hs with
    | leaves hleaves => exact h.made i t ((hleaves.lookup i t).1 hl)
    | @creates u cs hmade _ hwrites =>
      by_cases hi : i = u.id
      · subst hi
        cases hwrites.self.symm.trans hl
        exact ⟨cs, hmade⟩
      · exact h.made i t ((hwrites.other i hi t).1 hl)
  · have hstays := hs.stays (i := t.id) (t := t)
    cases hs with
    | leaves hleaves => exact hstays (h.past t ((hleaves.history t).1 hm))
    | creates _ _ hwrites =>
      rcases (hwrites.history t).1 hm with rfl | hm
      · exact hwrites.self
      · exact hstays (h.past t hm)

theorem Clients.run {ok : Chain → LedgerTransaction → Prop} {c₀ : Chain}
    {tr : List LedgerTransaction} (h₀ : c₀.Start) (hok : ∀ c tx, ok c tx → tx.CordaClients)
    (hr : Run (Step P ok) c₀ tr c) : c.Inv ∧ c.Clients P := by
  refine hr.invariant (I := fun _ c => c.Inv ∧ c.Clients P) ⟨h₀.inv, h₀.clients⟩ ?_
  rintro - c tx c' - ⟨hi, hcl⟩ ⟨hg, hc⟩
  obtain ⟨rfl, outs, ht⟩ := commit_ok hc
  exact ⟨hi.apply ht, hcl.apply (hi.clientStep hcl (hok c tx hg) ht)⟩

end

end Chain

/-! ## What a handshake message proves -/

section
variable {P : Platform} {ctx : Context} {signers : List PublicKey} {d : DatagramHandler}
  {outs : List ContractState} {any : Any}

/-- A message with a client state proves it of the client of the counterparty. -/
theorem Executes.proves_client (h : Executes P ctx signers d outs) (hd : d.clientState? = some any) :
    ∃ conn client, ContractState.connection conn ∈ outs ∧ ClientOf ctx conn.end_.clientId client ∧
      (∃ height pre bytes, bytes ∈ d.proofs ∧
        ProvesClient P client height pre bytes conn.end_.counterparty.clientId any) ∧
      ∃ height pre bytes, bytes ∈ d.proofs ∧ ProvesConsensus P client height pre bytes
        conn.end_.counterparty.clientId HEIGHT Host.defaultConsensusState := by
  cases h with
  | connOpenTry _ hclient _ _ _ _ _ hstate hconsensus =>
    cases hd
    exact ⟨_, _, List.mem_cons_of_mem _ (List.mem_singleton_self _), hclient,
      ⟨_, _, _, by simp [DatagramHandler.proofs], hstate⟩,
      ⟨_, _, _, by simp [DatagramHandler.proofs], hconsensus⟩⟩
  | connOpenAck _ _ hclient _ _ _ hstate hconsensus =>
    cases hd
    exact ⟨_, _, List.mem_singleton_self _, hclient,
      ⟨_, _, _, by simp [DatagramHandler.proofs], hstate⟩,
      ⟨_, _, _, by simp [DatagramHandler.proofs], hconsensus⟩⟩
  | _ => cases hd

/-- A client that the counterparty of a connection has had, of all it has put out, as a message and
its proofs show it. What it tracks is what the message names. -/
structure IbcClientState.ShownBy (P : Platform) (past : List ContractState) (conn : IbcConnection)
    (any : Any) (t : IbcClientState) : Prop where
  mem : ContractState.client t ∈ past
  id : t.id.id = conn.end_.counterparty.clientId
  shown : t.anyClientState = any
  consensus : ∃ t' : IbcClientState, ContractState.client t' ∈ past ∧ t'.id = t.id ∧
    t'.anyConsensusStates.lookup HEIGHT = some Host.defaultConsensusState
  tracks : ∀ cs, t.Made P cs → ∀ host : Host, cs.Tracks host ↔ host.NamedBy P any

/-- With a client that is sound about what the counterparty has put out, a message shows a client of
it. -/
theorem Executes.shows_client (h : Executes P ctx signers d outs) (hd : d.clientState? = some any) :
    ∃ conn client, ContractState.connection conn ∈ outs ∧ ClientOf ctx conn.end_.clientId client ∧
      ∀ cs past, client.impl = .corda cs →
        (∀ (t : IbcClientState) proof, proof.bytes ∈ d.proofs → cs.Proves P proof t →
          ContractState.client t ∈ past) →
        ∃ t : IbcClientState, t.ShownBy P past conn any := by
  obtain ⟨conn, client, hm, hclient, hstate, hconsensus⟩ := h.proves_client hd
  refine ⟨conn, client, hm, hclient, fun cs past himpl hsound => ?_⟩
  obtain ⟨height, pre, _, hb, proof, rfl, k, hk, hv⟩ := hstate
  obtain ⟨height', pre', _, hb', proof', rfl, k', hk', hv'⟩ := hconsensus
  obtain rfl : k' = k := Identifier.ext (hk'.trans hk.symm)
  have hv : cs.verifyClientState P height pre k' proof any = .ok () := by rwa [himpl] at hv
  have hv' : cs.verifyClientConsensusState P height' k' HEIGHT pre' proof'
      Host.defaultConsensusState = .ok () := by rwa [himpl] at hv'
  obtain ⟨-, t, ht, hid, hany⟩ := CordaClientState.verifyClientState_ok.1 hv
  obtain ⟨-, t', ht', hid', hlookup⟩ := CordaClientState.verifyClientConsensusState_ok.1 hv'
  refine ⟨t, hsound t proof hb ht, by rw [hid, hk], hany,
    ⟨t', hsound t' proof' hb' ht', hid'.trans hid.symm, hlookup⟩, fun cs' hmade host => ?_⟩
  rw [hmade.tracks_iff, hany]

/-- A connection past INIT comes from such a message, or from its confirmation. -/
theorem Executes.shaken (h : Executes P ctx signers d outs) {conn : IbcConnection}
    (hm : ContractState.connection conn ∈ outs) (hstate : conn.end_.state ≠ .init) :
    (∃ any, d.clientState? = some any) ∨ ∃ prev, ctx.getInput IbcConnection = .ok prev ∧
      prev.end_.state = .tryOpen ∧ conn = prev.confirmed := by
  cases h with
  | createClient | updateClient | chanOpenInit | chanOpenTry | chanOpenTryPrevious | chanOpenAck
  | chanOpenConfirm | chanCloseInit | chanCloseConfirm => simp at hm
  | sendPacket _ _ heffect => exact absurd hm heffect.bankOuts.connection_notMem
  | recvPacket _ _ _ heffect => exact absurd hm heffect.bankOuts.connection_notMem
  | acknowledgePacket _ _ _ _ heffect => exact absurd hm heffect.bankOuts.connection_notMem
  | connOpenInit =>
    obtain rfl : conn = _ := by simpa using hm
    exact absurd rfl hstate
  | connOpenTry | connOpenAck => exact .inl ⟨_, rfl⟩
  | connOpenConfirm hprev _ _ htry =>
    obtain rfl : conn = _ := by simpa using hm
    exact .inr ⟨_, hprev, htry, rfl⟩

end

namespace Net

/-- The current client of a host under an identifier, as a message and its proofs show it. -/
structure Shown (c : Chain) (id : String) (any : Any) (t : IbcClientState)
    (cs : CordaClientState) : Prop where
  current : c.states.lookup t.id = some (.client t)
  id : t.id.id = id
  any : t.anyClientState = any
  consensus : t.anyConsensusStates.lookup HEIGHT = some Host.defaultConsensusState
  impl : t.impl = .corda cs

section
variable {ι : Type}

/-- What a message proves of the client of the counterparty: it is the one the message shows, and
tracks the host of the connection exactly when the message names that host. -/
def Proved (P : Platform) (n : Net ι) (i : ι) (conn : IbcConnection) (any : Any) : Prop :=
  ∃ (client : IbcClientState) (cs : CordaClientState) (host : Host),
    (n i).states.lookup client.id = some (.client client) ∧ client.id.id = conn.end_.clientId ∧
    client.impl = .corda cs ∧ (n i).states.lookup hostId = some (.host host) ∧
    ∀ j, (n j).baseId = cs.counterpartyBaseId → ∃ t cs',
      Shown (n j) conn.end_.counterparty.clientId any t cs' ∧ (cs'.Tracks host ↔ host.NamedBy P any)

/-- The counterparty's client of a connection tracks the host of the connection. -/
def Mutual (n : Net ι) (i : ι) (conn : IbcConnection) : Prop :=
  ∃ (client : IbcClientState) (cs : CordaClientState) (host : Host),
    (n i).states.lookup client.id = some (.client client) ∧ client.id.id = conn.end_.clientId ∧
    client.impl = .corda cs ∧ (n i).states.lookup hostId = some (.host host) ∧
    ∀ j, (n j).baseId = cs.counterpartyBaseId → ∃ (t : IbcClientState) (cs' : CordaClientState),
      (n j).states.lookup t.id = some (.client t) ∧ t.id.id = conn.end_.counterparty.clientId ∧
      t.impl = .corda cs' ∧ cs'.Tracks host

/-- The messages of a transaction name the host that takes it. -/
structure NamesSelf (P : Platform) (n : Net ι) (i : ι) (tx : LedgerTransaction) : Prop where
  corda : tx.CordaClients
  names : ∀ handler signers any host, tx.datagramHandlerCommands = [(handler, signers)] →
    handler.clientState? = some any → (n i).states.lookup hostId = some (.host host) →
    host.NamedBy P any

variable {P : Platform} {ok : Net ι → ι → LedgerTransaction → Prop} {n₀ n n' : Net ι} {i : ι}
  {tx : LedgerTransaction} {tr : List (ι × LedgerTransaction)} {conn : IbcConnection} {any : Any}

/-- What every run keeps of the clients. -/
def Kept (P : Platform) (n : Net ι) : Prop := ∀ i, (n i).Inv ∧ (n i).Clients P

theorem Kept.run [DecidableEq ι] (h₀ : n₀.Start) (hok : ∀ n i tx, ok n i tx → tx.CordaClients)
    (hr : Run (Step P ok) n₀ tr n) : n.Kept P := fun i =>
  Chain.Clients.run (h₀ i) (fun _ _ h => h)
    (run_own (fun n tx h => hok n i tx h) hr : Run (Chain.Step P fun _ tx => tx.CordaClients) _ _ _)

/-- A client that a host has put out is its current one, and both proofs show it. -/
theorem Kept.shown (hk : n.Kept P) {j : ι} {t : IbcClientState}
    (h : t.ShownBy P (n j).history conn any) : ∃ cs,
      Shown (n j) conn.end_.counterparty.clientId any t cs ∧
        ∀ host : Host, cs.Tracks host ↔ host.NamedBy P any := by
  obtain ⟨t', hpast', hid', hlookup⟩ := h.consensus
  have hcur := (hk j).2.past t h.mem
  have hcur' := (hk j).2.past t' hpast'
  rw [hid', hcur] at hcur'
  cases hcur'
  obtain ⟨cs, hmade⟩ := (hk j).2.made _ t hcur
  exact ⟨cs, ⟨hcur, h.id, h.shown, hlookup, hmade.impl⟩, h.tracks cs hmade⟩

/-- A message proves what it shows of the counterparty's client. -/
theorem Kept.proved (hk : n.Kept P) (hsound : Sound P n tx) {d : DatagramHandler}
    {signers : List PublicKey} (hd : tx.datagramHandlerCommands = [(d, signers)])
    {outs : List ContractState} (hr : Chain.Runs P (n i) tx d signers outs)
    (hany : d.clientState? = some any) :
    ∃ conn, ContractState.connection conn ∈ outs ∧ Proved P n i conn any := by
  obtain ⟨conn, client, hm, hclient, hshows⟩ := hr.executes.shows_client hany
  have href := Context.mem_of_getReference hclient.ref
  have hcur := hr.references _ href _ rfl
  obtain ⟨cs, hmade⟩ := (hk i).2.made _ client hcur
  obtain ⟨host, hhost, -⟩ := (hk i).1.owned
  refine ⟨conn, hm, client, cs, host, hcur, hclient.id, hmade.impl, hhost, fun j hj => ?_⟩
  obtain ⟨t, ht⟩ := hshows cs (n j).history hmade.impl fun t proof hb hp =>
    hsound _ _ hd client cs href hmade.impl proof hb _ t hp j hj
  obtain ⟨cs', hshown, hiff⟩ := hk.shown ht
  exact ⟨t, cs', hshown, hiff host⟩

theorem Proved.mutual (h : Proved P n i conn any)
    (hnames : ∀ host, (n i).states.lookup hostId = some (.host host) → host.NamedBy P any) :
    n.Mutual i conn := by
  obtain ⟨client, cs, host, hcur, hid, himpl, hhost, hall⟩ := h
  refine ⟨client, cs, host, hcur, hid, himpl, hhost, fun j hj => ?_⟩
  obtain ⟨t, cs', hshown, hiff⟩ := hall j hj
  exact ⟨t, cs', hshown.current, hshown.id, hshown.impl, hiff.2 (hnames host hhost)⟩

/-- A step leaves the clients of all hosts. -/
theorem Kept.stays (hk : n.Kept P) {a : ι × LedgerTransaction} (hs : Step P ok n a n')
    (hok : a.2.CordaClients) {j : ι} {k : Identifier} {t : IbcClientState}
    (hl : (n j).states.lookup k = some (.client t)) :
    (n' j).states.lookup k = some (.client t) := by
  by_cases hj : j = a.1
  · subst hj
    obtain ⟨he, outs, ht⟩ := Chain.commit_ok hs.commits
    rw [he]
    exact ((hk _).1.clientStep (hk _).2 hok ht).stays hl
  · rwa [hs.other j hj]

theorem Kept.host_stays (hk : n.Kept P) {a : ι × LedgerTransaction} (hs : Step P ok n a n') {j : ι}
    {host : Host} (hl : (n j).states.lookup hostId = some (.host host)) :
    ∃ host', (n' j).states.lookup hostId = some (.host host') ∧ host'.baseId = host.baseId ∧
      host'.notary = host.notary := by
  by_cases hj : j = a.1
  · subst hj
    obtain ⟨he, outs, ht⟩ := Chain.commit_ok hs.commits
    obtain ⟨s, hs', hu⟩ := (hk _).1.lookup_next ht hl
    rw [he]
    cases s <;> first | exact hu.elim | exact ⟨_, hs', hu.2.1.symm, hu.2.2.1.symm⟩
  · rw [hs.other j hj]
    exact ⟨host, hl, rfl, rfl⟩

theorem Mutual.step (h : n.Mutual i conn) (hk : n.Kept P) {a : ι × LedgerTransaction}
    (hs : Step P ok n a n') (hok : a.2.CordaClients) : n'.Mutual i conn := by
  obtain ⟨client, cs, host, hcur, hid, himpl, hhost, hall⟩ := h
  obtain ⟨host', hhost', hbase, hnotary⟩ := hk.host_stays hs hhost
  refine ⟨client, cs, host', hk.stays hs hok hcur, hid, himpl, hhost', fun j hj => ?_⟩
  rw [hs.baseId] at hj
  obtain ⟨t, cs', hcur', hid', himpl', htracks⟩ := hall j hj
  exact ⟨t, cs', hk.stays hs hok hcur', hid', himpl', htracks.baseId.trans hbase.symm,
    htracks.notaryKey.trans (by rw [hnotary])⟩

/-- The connections past INIT are mutual. -/
def AllMutual (n : Net ι) : Prop :=
  ∀ i k conn, (n i).states.lookup k = some (.connection conn) → conn.end_.state ≠ .init →
    n.Mutual i conn

theorem AllMutual.step (h : n.AllMutual) (hk : n.Kept P) {a : ι × LedgerTransaction}
    (hs : Step P (NamesSelf P) n a n') : n'.AllMutual := by
  intro i k conn hl hstate
  have hold : (n i).states.lookup k = some (.connection conn) → n'.Mutual i conn := fun hl =>
    (h i k conn hl hstate).step hk hs hs.ok.corda
  by_cases hi : i = a.1
  · subst hi
    obtain ⟨he, outs, ht⟩ := Chain.commit_ok hs.commits
    rw [he] at hl
    rcases ht.lookup_cases hl with ⟨hm, -⟩ | ⟨-, hl⟩
    · cases ht.effect with
      | addBank _ _ hbank => rcases hbank with rfl | ⟨_, rfl⟩ <;> simp at hm
      | fund => simp at hm
      | datagram hcmd hin href hexec =>
        have hr : Chain.Runs P (n a.1) a.2 _ _ _ := ⟨hcmd, hin, href, hexec⟩
        rcases hexec.shaken hm hstate with ⟨any, hany⟩ | ⟨prev, hprev, htry, rfl⟩
        · obtain ⟨conn', hm', hproved⟩ := hk.proved hs.sound hcmd hr hany
          have hone := filterIsInstance_eq isClass_connection (Chain.Effect.origin ht.effect).1 hm'
          have hmem : conn ∈ filterIsInstance IbcConnection _ := mem_filterIsInstance.2 hm
          rw [hone, List.mem_singleton] at hmem
          subst hmem
          exact (hproved.mutual fun host hhost => hs.ok.names _ _ _ host hcmd hany hhost).step hk hs
            hs.ok.corda
        · have hcur := hin _ (Context.mem_of_getInput hprev) _ rfl
          have hmutual := h _ _ prev hcur (by rw [htry]; decide)
          exact hmutual.step hk hs hs.ok.corda
    · exact hold hl
  · rw [hs.other i hi] at hl
    exact hold hl

theorem Start.allMutual (h : n.Start) : n.AllMutual := by
  intro i k conn hl
  obtain ⟨_, _, _, _, _, host, -, hs⟩ := h i
  rw [hs] at hl
  cases (Chain.lookup_ofHost hl).2

theorem AllMutual.run [DecidableEq ι] (h₀ : n₀.Start) (hr : Run (Step P (NamesSelf P)) n₀ tr n) :
    n.AllMutual :=
  hr.invariant (I := fun _ n => n.AllMutual) h₀.allMutual fun _ _ _ _ hr h hs =>
    h.step (Kept.run h₀ (fun _ _ _ h => h.corda) hr) hs

/-- A `connOpenTry` or `connOpenAck` that succeeds, with a sound Corda client, shows a client that the
counterparty has put out under the identifier of the connection, and it tracks a host exactly when the
message names that host. In every run of any hosts with Corda clients it is the current client of the
counterparty; and while all messages name the host that takes them, the counterparty's client of every
open connection tracks the host of the connection. -/
theorem self_client [DecidableEq ι] (h₀ : n₀.Start) :
    (∀ (ctx ctx' : Context) (signers : List PublicKey) (handler : DatagramHandler) (any : Any)
      (client : IbcClientState) (cs : CordaClientState) (past : List ContractState),
      handler.execute P ctx signers = .ok ctx' → handler.clientState? = some any →
      ctx.getReference IbcClientState = .ok client → client.impl = .corda cs →
      (∀ (t : IbcClientState) proof, proof.bytes ∈ handler.proofs → cs.Proves P proof t →
        ContractState.client t ∈ past) →
      ∃ (conn : IbcConnection) (t : IbcClientState),
        ContractState.connection conn ∈ ctx'.outStates.states ∧ conn.end_.clientId = client.id.id ∧
          t.ShownBy P past conn any) ∧
    (∀ tr n i tx n', Run (Step P fun _ _ tx => tx.CordaClients) n₀ tr n →
      Step P (fun _ _ tx => tx.CordaClients) n (i, tx) n' → ∀ handler signers any,
      tx.datagramHandlerCommands = [(handler, signers)] → handler.clientState? = some any →
      ∃ conn, ContractState.connection conn ∈ tx.outputs ∧ Proved P n i conn any) ∧
    ∀ tr n, Run (Step P (NamesSelf P)) n₀ tr n → ∀ i conn,
      (n i).states.lookup conn.id = some (.connection conn) → conn.end_.state = .opened →
      n.Mutual i conn := by
  refine ⟨?shows, ?proves, ?opened⟩
  case shows =>
    intro ctx ctx' signers handler any client cs past he hany hclient himpl hsound
    obtain ⟨outs, hexec, ho⟩ := executes_of_ok he
    obtain ⟨conn, client', hm, hclient', hshows⟩ := hexec.shows_client hany
    obtain rfl : client' = client := Except.ok.inj (hclient'.ref.symm.trans hclient)
    obtain ⟨t, ht⟩ := hshows cs past himpl hsound
    exact ⟨conn, t, by rw [ho.outStates]; exact List.mem_append_right _ hm, hclient'.id.symm, ht⟩
  case proves =>
    intro tr n i tx n' hr hs handler signers any hd hany
    have hk := Kept.run h₀ (fun _ _ _ h => h) hr
    obtain ⟨outs, ctx', ht⟩ := Chain.datagram_of_commits hs.commits hd
    obtain ⟨conn, hm, hproved⟩ := hk.proved hs.sound hd
      ⟨hd, ht.inputs, ht.references, ht.executes⟩ hany
    exact ⟨conn, ht.perm.mem_iff.2 hm, hproved⟩
  case opened =>
    intro tr n hr i conn hl hopen
    exact AllMutual.run h₀ hr i _ conn hl (by rw [hopen]; decide)

end

/-! ### A connection to a client of a third host -/

namespace ThirdHost
open Sample

/-- The number of a host. -/
def number (i : Fin 3) : UInt8 := UInt8.ofNat (i.val + 1)

def three : Net (Fin 3) := fun i => .ofHost (host (number i))

theorem start_three : three.Start := fun i => start_host (number i)

/-- The client of the `k`-th chain that tracks the `m`-th. -/
def clientAt (k m : UInt8) : IbcClientState :=
  .create (host k) hostClient (.corda
    { anyClientState := clientState m
      anyConsensusStates := (∅ : Finmap fun _ => Any).insert HEIGHT Host.defaultConsensusState
      counterpartyBaseId := base m, counterpartyNotaryKey := (notary m).owningKey })

def connectionAt (k : UInt8) (state : Connection.State) (peer : String) : IbcConnection :=
  .create (host k) (connection 0)
    { clientId, versionsList := [VERSION], state, counterparty := ⟨clientId, peer, PREFIX⟩
      delayPeriod := 0 }

/-- What the second and the third host show. -/
def P : Platform :=
  platform [shows 3 [.connection (connectionAt 3 .init "")], shows 3 [.client (clientAt 3 2)],
    shows 2 [.connection (connectionAt 2 .tryOpen "connection-0")],
    shows 2 [.client (clientAt 2 3)]] []

/-- The second host answers the third, and the first takes the answer for its own. -/
def script : List (Fin 3 × Move) :=
  [(2, createClient 2), (2, connOpenInit), (1, createClient 3),
    (1,
      { inputs := [hostId], references := [hostClient]
        command := .datagram (.handleConnOpenTry
          { clientId, previousConnectionId := "", clientState := clientState 2
            counterparty := ⟨clientId, "connection-0", PREFIX⟩, delayPeriod := 0
            counterpartyVersionsList := [VERSION], proofHeight := HEIGHT, proofInit := [0]
            proofClient := [1], proofConsensus := [1], consensusHeight := HEIGHT }) }),
    (0, createClient 2), (0, connOpenInit),
    (0, connOpenAck (connection 0)
      { connectionId := "connection-0", counterpartyConnectionId := "connection-0"
        version := VERSION, clientState := clientState 3, proofHeight := HEIGHT, proofTry := [2]
        proofClient := [3], proofConsensus := [3], consensusHeight := HEIGHT })]

/-- Whether all clients of a transaction are Corda clients. -/
def cordaClients (tx : LedgerTransaction) : Bool :=
  tx.outputs.all fun
    | .client t => match t.impl with
      | .corda _ => true
      | .fabric _ => false
    | _ => true

theorem cordaClients_ok {tx : LedgerTransaction} (h : cordaClients tx = true) : tx.CordaClients := by
  intro t hm
  have ht := List.all_eq_true.1 h _ hm
  cases himpl : t.impl with
  | corda cs => exact ⟨cs, rfl⟩
  | fabric _ =>
    simp only [himpl] at ht
    cases ht

/-- The first host's connection and the clients of the first two hosts. -/
def ends (n : Net (Fin 3)) : Option (IbcConnection × IbcClientState × IbcClientState) :=
  match (n 0).states.lookup (connection 0), (n 0).states.lookup hostClient,
    (n 1).states.lookup hostClient with
  | some (.connection a), some (.client s), some (.client t) => some (a, s, t)
  | _, _, _ => none

theorem ends_script : (fun r => (ends r.2, (r.2 0).baseId, (r.2 1).baseId, (r.2 2).baseId)) <$>
    runNet P (List.finRange 3) (fun _ _ => cordaClients) three script =
    .ok (some (connectionAt 1 .opened "connection-0", clientAt 1 2, clientAt 2 3), base 1, base 2,
      base 3) := by decide +kernel

theorem lookups_of_ends {n : Net (Fin 3)} {a : IbcConnection} {s t : IbcClientState}
    (h : ends n = some (a, s, t)) : (n 0).states.lookup (connection 0) = some (.connection a) ∧
      (n 0).states.lookup hostClient = some (.client s) ∧
      (n 1).states.lookup hostClient = some (.client t) := by
  unfold ends at h
  split at h
  · rename_i ha hs ht
    cases h
    exact ⟨ha, hs, ht⟩
  · cases h

/-- A run in which a connection opens whose client tracks the second host, while the client of the
second host, under the identifier that the connection names, tracks the third. -/
theorem opened_to_third : ∃ (tr : List (Fin 3 × LedgerTransaction)) (n : Net (Fin 3))
    (a : IbcConnection) (s t : IbcClientState) (cs ct : CordaClientState), three.Start ∧
    Run (Step P fun _ _ tx => tx.CordaClients) three tr n ∧
    (n 0).states.lookup a.id = some (.connection a) ∧ a.end_.state = .opened ∧
    (n 0).states.lookup s.id = some (.client s) ∧ s.id.id = a.end_.clientId ∧
    s.impl = .corda cs ∧ cs.counterpartyBaseId = (n 1).baseId ∧
    (n 1).states.lookup t.id = some (.client t) ∧ t.id.id = a.end_.counterparty.clientId ∧
    t.impl = .corda ct ∧ ct.counterpartyBaseId = (n 2).baseId ∧ (n 2).baseId ≠ (n 0).baseId := by
  obtain ⟨⟨tr, n⟩, hrun, hout⟩ := Result.map_ok.1 ends_script
  obtain ⟨hends, hbases⟩ := Prod.mk.inj hout
  obtain ⟨h₀, hbases⟩ := Prod.mk.inj hbases
  obtain ⟨h₁, h₂⟩ := Prod.mk.inj hbases
  obtain ⟨ha, hs, ht⟩ := lookups_of_ends hends
  have hr := run_of_net List.mem_finRange (fun _ _ _ h => cordaClients_ok h) hrun .nil
  refine ⟨_, n, connectionAt 1 .opened "connection-0", clientAt 1 2, clientAt 2 3, _, _, start_three,
    hr, ha, rfl, hs, rfl, rfl, h₁.symm, ht, rfl, rfl, h₂.symm, ?_⟩
  rw [show (n 0).baseId = base 1 from h₀, show (n 2).baseId = base 3 from h₂]
  decide

end ThirdHost

/-! ### A connection between two hosts -/

namespace SelfNamed
open Sample

def P : Platform := netPlatform linking []

/-- Whether the messages of a transaction name the host. -/
def namesSelf (n : Net Side) (s : Side) (tx : LedgerTransaction) : Bool :=
  ThirdHost.cordaClients tx && tx.datagramHandlerCommands.all fun (handler, _) =>
    match handler.clientState? with
    | none => true
    | some any => match P.unpackCordaClientState any, (n s).states.lookup hostId with
      | .ok c, some (ContractState.host h) => ⟨⟨c.txhash⟩, c.index⟩ = h.baseId &&
          P.decodePublicKey c.notaryKey = .ok h.notary.owningKey
      | _, _ => false

theorem namesSelf_ok {n : Net Side} {s : Side} {tx : LedgerTransaction}
    (h : namesSelf n s tx = true) : NamesSelf P n s tx := by
  obtain ⟨hcorda, hnames⟩ := Bool.and_eq_true_iff.1 h
  refine ⟨ThirdHost.cordaClients_ok hcorda, fun handler signers any host hd hany hhost => ?_⟩
  rw [hd] at hnames
  have hone := List.all_eq_true.1 hnames _ (List.mem_singleton_self _)
  simp only [hany, hhost] at hone
  split at hone
  · rename_i c host' hc hh
    cases hh
    simp only [Bool.and_eq_true, decide_eq_true_eq] at hone
    exact ⟨c, hc, hone⟩
  · cases hone

theorem opened_linked : (fun r => sides.map fun s =>
      match (r.2 s).states.lookup (connection 0) with
      | some (.connection conn) => some (conn.id, conn.end_.state)
      | _ => none) <$> runNet P sides namesSelf pair linked =
    .ok [some (connection 0, .opened), some (connection 0, .opened)] := by decide +kernel

end SelfNamed

open SelfNamed Sample in
/-- `self_client` on a handshake of two hosts. -/
theorem self_client_linked : ∃ (tr : List (Side × LedgerTransaction)) (n : Net Side),
    Run (Step SelfNamed.P (NamesSelf SelfNamed.P)) pair tr n ∧ ∀ s, ∃ conn : IbcConnection,
      (n s).states.lookup conn.id = some (.connection conn) ∧ conn.end_.state = .opened ∧
      n.Mutual s conn := by
  obtain ⟨⟨tr, n⟩, hrun, hout⟩ := Result.map_ok.1 opened_linked
  have hr := run_of_net mem_sides (fun _ _ _ h => namesSelf_ok h) hrun .nil
  refine ⟨_, n, hr, fun s => ?_⟩
  have hs : (match (n s).states.lookup (connection 0) with
      | some (.connection conn) => some (conn.id, conn.end_.state)
      | _ => none) = some (connection 0, .opened) := by
    simp only [sides, List.map_cons, List.map_nil, List.cons.injEq, and_true] at hout
    cases s
    · exact hout.1
    · exact hout.2
  split at hs
  · rename_i conn hl
    obtain ⟨hid, hopen⟩ := Prod.mk.inj (Option.some.inj hs)
    rw [← hid] at hl
    exact ⟨conn, hl, hopen, (self_client start_pair).2.2 _ n hr s conn hl hopen⟩
  · cases hs

end Net

end CordaIbc
