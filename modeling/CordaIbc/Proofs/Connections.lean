import CordaIbc.Proofs.Books
import CordaIbc.Sample.Net

/-!
# The connection handshake of two hosts

The connections of two hosts that track each other are a handshake (`Tracking.connectionStep`):
their terms are the two client ids and the delay period, and they never change. So open connections
that name each other agree if a tried connection is only acknowledged towards the connection it was
tried with (`Net.connections_agree`). `connOpenAck` does not ask for that, and without it they do not
(`Net.Acknowledged.connections_disagree`).
-/

namespace CordaIbc

open ContractState StateClass

namespace Connection

/-- A connection has no other state than these three. -/
def State.phase : State → Handshake.Phase
  | .tryOpen => .tryOpen
  | .opened => .opened
  | _ => .init

structure Terms where
  clientId : String
  counterpartyClientId : String
  delayPeriod : Long

def kind : Handshake.Kind Terms where
  flip terms := { terms with
    clientId := terms.counterpartyClientId, counterpartyClientId := terms.clientId }
  rigid := True

def ConnectionEnd.terms (e : ConnectionEnd) : Terms where
  clientId := e.clientId
  counterpartyClientId := e.counterparty.clientId
  delayPeriod := e.delayPeriod

def ConnectionEnd.toEnd (e : ConnectionEnd) : Handshake.End String Terms (List Version) where
  phase := e.state.phase
  terms := e.terms
  peer := e.counterparty.connectionId
  version := e.versionsList

theorem State.phase_opened {s : State} : s.phase = .opened ↔ s = .opened := by
  cases s <;> simp [phase]

theorem State.phase_tryOpen {s : State} : s.phase = .tryOpen ↔ s = .tryOpen := by
  cases s <;> simp [phase]

theorem State.phase_init {s : State} (h : s = .init) : s.phase = .init := by
  rw [h]
  rfl

end Connection

instance : EndClass IbcConnection Connection.Terms (List Connection.Version) where
  id conn := conn.id
  id?_up _ := rfl
  toEnd conn := conn.end_.toEnd

/-- A connection that was tried is acknowledged towards the connection it was tried with. -/
def LedgerTransaction.AcksTriedConnection (tx : LedgerTransaction) : Prop :=
  ∀ msg signers, tx.datagramHandlerCommands = [(.handleConnOpenAck msg, signers)] →
    ∀ conn, ContractState.connection conn ∈ tx.inputStates → conn.end_.state = .tryOpen →
      msg.counterpartyConnectionId = conn.end_.counterparty.connectionId

namespace Chain
variable {P : Platform} {c p : Chain} {tx : LedgerTransaction} {handler : DatagramHandler}
  {signers : List PublicKey} {outs : List ContractState} {conn conn' : IbcConnection}

/-- The peer once had the end that its client shows. -/
theorem connection_past {client : IbcClientState} {proofs : List Bytes} {bytes : Bytes}
    {height : Height} {pre : MerklePrefix} {id : String} {e : Connection.ConnectionEnd}
    (h : Net.Honest P p client proofs) (hb : bytes ∈ proofs)
    (hp : ProvesConnection P client height pre bytes id e) :
    (p.book IbcConnection).past id e.toEnd := by
  obtain ⟨peer, hpeer, hid, rfl⟩ := h.connection hb hp
  exact ⟨peer, hpeer, hid, rfl⟩

/-- What a datagram makes of a connection, as far as what it is shown of the peer is honest. -/
theorem Runs.connectionChange (hr : Runs P c tx handler signers outs) (hi : c.Inv)
    (hhonest : ∀ client,
      (Context.create tx.inputStates tx.referenceStates).getReference IbcClientState = .ok client →
        Net.Honest P p client handler.proofs) (hm : ContractState.connection conn ∈ outs)
    {d : Option (Handshake.End String Connection.Terms (List Connection.Version))}
    (hd : (c.book IbcConnection).cur conn.id.id = d) :
    Handshake.Change Connection.kind (p.book IbcConnection) conn.id.id d conn.end_.toEnd := by
  have hexec := hr.executes
  have hnew : ∀ host, (Context.create tx.inputStates tx.referenceStates).getInput Host = .ok host →
      conn.id = host.generateConnectionIdentifier.2 → none = d := fun host h hid => by
    have hmints : host.Mints (.connection conn) := hid
    have hfree := hi.lookup_eq_none (hr.inputs _ (Context.mem_of_getInput h) _ rfl) hmints rfl
    exact (book_cur_of_none hfree).symm.trans hd
  have hcur : ∀ prev,
      (Context.create tx.inputStates tx.referenceStates).getInput IbcConnection = .ok prev →
      conn.id = prev.id → some prev.end_.toEnd = d := fun prev h hid => by
    have hl : c.states.lookup conn.id = some (.connection prev) :=
      hid ▸ hr.inputs _ (Context.mem_of_getInput h) _ rfl
    exact (book_cur_of_lookup (t := prev) hl).symm.trans hd
  cases hexec with
  | createClient | updateClient | chanOpenInit | chanOpenTry | chanOpenTryPrevious | chanOpenAck
  | chanOpenConfirm | chanCloseInit | chanCloseConfirm => simp at hm
  | sendPacket _ _ heffect => exact absurd hm heffect.bankOuts.connection_notMem
  | recvPacket _ _ _ heffect => exact absurd hm heffect.bankOuts.connection_notMem
  | acknowledgePacket _ _ _ _ heffect => exact absurd hm heffect.bankOuts.connection_notMem
  | connOpenInit hhost =>
    simp only [List.mem_cons, reduceCtorEq, ContractState.connection.injEq, List.not_mem_nil,
      or_false, false_or] at hm
    subst hm
    obtain rfl := hnew _ hhost rfl
    exact .init rfl
  | connOpenTry hhost hclient hprevious _ _ _ hproof =>
    simp only [List.mem_cons, reduceCtorEq, ContractState.connection.injEq, List.not_mem_nil,
      or_false, false_or] at hm
    subst hm
    have hpast := connection_past (hhonest _ hclient.ref) List.mem_cons_self hproof
    rcases Handler.connOpenTry_previous_ok hprevious with ⟨-, -, rfl, -⟩ |
      ⟨prev, hprev, -, hinit, -, -, hclientId, hcounterparty, hdelay, -, rfl, -⟩
    · obtain rfl := hnew _ hhost rfl
      exact .tryNew rfl hpast rfl rfl
    · obtain rfl := hcur prev hprev rfl
      refine .tryPrevious (Connection.State.phase_init hinit) rfl (fun _ => ?_) hpast rfl rfl
      show Connection.Terms.mk _ _ _ = Connection.Terms.mk _ _ _
      rw [hclientId, hcounterparty, hdelay]
      rfl
  | @connOpenAck _ prev _ hconn _ hclient _ hversion hproof =>
    obtain rfl : conn = _ := by simpa using hm
    have hpast := connection_past (hhonest _ hclient.ref) List.mem_cons_self hproof
    obtain rfl := hcur prev hconn rfl
    refine .ack ?_ rfl rfl hpast rfl rfl rfl rfl
    rcases hversion with ⟨hs, -⟩ | ⟨hs, -⟩
    · exact .inl (Connection.State.phase_init hs)
    · exact .inr (Connection.State.phase_tryOpen.2 hs)
  | @connOpenConfirm _ prev _ hconn _ hclient htry hproof =>
    obtain rfl : conn = _ := by simpa using hm
    have hpast := connection_past (hhonest _ hclient.ref) List.mem_cons_self hproof
    obtain rfl := hcur prev hconn rfl
    exact .confirm (Connection.State.phase_tryOpen.2 htry) hpast rfl rfl rfl (.inl trivial)

/-- A transaction of a host is a step of its part of the handshake. -/
theorem ConnectionStep.step (hs : ConnectionStep P c tx) (hi : c.Inv)
    (hhonest : ∀ handler signers client, tx.datagramHandlerCommands = [(handler, signers)] →
      (∀ t ∈ tx.referenceStates, ∀ i, t.id? = some i → c.states.lookup i = some t) →
      (Context.create tx.inputStates tx.referenceStates).getReference IbcClientState = .ok client →
        Net.Honest P p client handler.proofs) (hok : tx.AcksTriedConnection) :
    Handshake.Step Connection.kind (fun _ _ _ => True) (p.book IbcConnection) (c.book IbcConnection)
      ((c.apply tx).book IbcConnection) := by
  cases hs with
  | leaves hleaves => exact hleaves.step
  | @creates _ _ _ conn hruns hm hnew _ hwrites =>
    have hnone : (c.book IbcConnection).cur conn.id.id = none := book_cur_of_none hnew
    have hchange := hruns.connectionChange hi
      (fun client => hhonest _ _ client hruns.command hruns.references) hm hnone
    exact hwrites.step hnone hchange nofun trivial
  | @changes _ _ _ prev conn hruns hm hinput hcur hstep hwrites =>
    have hprev : (c.book IbcConnection).cur conn.id.id = some prev.end_.toEnd :=
      book_cur_of_lookup (t := prev) hcur
    have hchange := hruns.connectionChange hi
      (fun client => hhonest _ _ client hruns.command hruns.references) hm hprev
    refine hwrites.step hprev hchange ?_ trivial
    rintro d ⟨⟩ htry hopen
    cases hstep with
    | tryPrevious => cases hopen
    | @ack msg =>
      exact hok msg _ hruns.command prev (Context.mem_of_getInput hinput)
        (Connection.State.phase_tryOpen.1 htry)
    | confirm => rfl

/-! ### Versions -/

/-- A connection has the one version there is. -/
def Versions (c : Chain) : Prop :=
  ∀ i conn, c.states.lookup i = some (.connection conn) → conn.end_.versionsList = [VERSION]

theorem Runs.version (hr : Runs P c tx handler signers outs) (hv : c.Versions)
    (hm : ContractState.connection conn ∈ outs) : conn.end_.versionsList = [VERSION] := by
  have hexec := hr.executes
  have hcur : ∀ prev,
      (Context.create tx.inputStates tx.referenceStates).getInput IbcConnection = .ok prev →
      prev.end_.versionsList = [VERSION] := fun prev h =>
    hv _ prev (hr.inputs _ (Context.mem_of_getInput h) _ rfl)
  cases hexec with
  | createClient | updateClient | chanOpenInit | chanOpenTry | chanOpenTryPrevious | chanOpenAck
  | chanOpenConfirm | chanCloseInit | chanCloseConfirm => simp at hm
  | sendPacket _ _ heffect => exact absurd hm heffect.bankOuts.connection_notMem
  | recvPacket _ _ _ heffect => exact absurd hm heffect.bankOuts.connection_notMem
  | acknowledgePacket _ _ _ _ heffect => exact absurd hm heffect.bankOuts.connection_notMem
  | connOpenInit =>
    simp only [List.mem_cons, reduceCtorEq, ContractState.connection.injEq, List.not_mem_nil,
      or_false, false_or] at hm
    subst hm
    rfl
  | @connOpenTry _ _ _ _ _ _ version _ _ hprevious _ hsupported =>
    simp only [List.mem_cons, reduceCtorEq, ContractState.connection.injEq, List.not_mem_nil,
      or_false, false_or] at hm
    subst hm
    show [version] = [VERSION]
    rcases Handler.connOpenTry_previous_ok hprevious with ⟨-, -, -, rfl⟩ |
      ⟨prev, hprev, -, -, -, -, -, -, -, -, -, rfl⟩
    · rw [List.mem_singleton.1 hsupported]
    · rw [hcur prev hprev] at hsupported
      rw [List.mem_singleton.1 hsupported]
  | @connOpenAck msg prev _ hconn _ _ _ hversion =>
    obtain rfl : conn = _ := by simpa using hm
    show [msg.version] = [VERSION]
    rcases hversion with ⟨-, h⟩ | ⟨-, h⟩
    · rw [h]
    · rw [← h, hcur prev hconn]
  | @connOpenConfirm _ prev _ hconn =>
    obtain rfl : conn = _ := by simpa using hm
    exact hcur prev hconn

theorem Versions.apply (hv : c.Versions) (hi : c.Inv) (ht : Takes P c tx outs) :
    (c.apply tx).Versions := fun i conn hl => by
  have hs := hi.connectionStep ht
  cases hs with
  | leaves hleaves => exact hv i conn ((hleaves.lookup i conn).1 hl)
  | @creates _ _ _ conn' hruns hm _ _ hwrites | @changes _ _ _ _ conn' hruns hm _ _ _ hwrites =>
    by_cases hid : i = conn'.id
    · subst hid
      rw [hwrites.self] at hl
      cases hl
      exact hruns.version hv hm
    · exact hv i conn ((hwrites.other i hid conn).1 hl)

theorem Start.versions (h : c.Start) : c.Versions := fun i conn hl => by
  obtain ⟨_, _, _, _, _, host, -, rfl⟩ := h
  cases (lookup_ofHost hl).2

end Chain

/-- Two connections are the ends of one. -/
structure IbcConnection.Agrees (a b : IbcConnection) : Prop where
  connectionId : b.end_.counterparty.connectionId = a.id.id
  clientId : b.end_.clientId = a.end_.counterparty.clientId
  counterpartyClientId : b.end_.counterparty.clientId = a.end_.clientId
  delayPeriod : b.end_.delayPeriod = a.end_.delayPeriod
  versions : ∃ version, a.end_.versionsList = [version] ∧ b.end_.versionsList = [version]

namespace Net

section
variable {P : Platform} {ok : Net Side → Side → LedgerTransaction → Prop} {n₀ n n' : Net Side}
  {tr : List (Side × LedgerTransaction)}

theorem Tracking.connectionStep (ht : n.Tracking) {a : Side × LedgerTransaction}
    (h : Step P ok n a n') (hok : a.2.AcksTriedConnection) :
    Handshake.Step Connection.kind (fun _ _ _ => True) ((n a.1.peer).book IbcConnection)
      ((n a.1).book IbcConnection) (((n a.1).apply a.2).book IbcConnection) := by
  obtain ⟨-, outs, htakes⟩ := Chain.commit_ok h.commits
  refine ((ht.inv a.1).connectionStep htakes).step (ht.inv a.1) ?_ hok
  exact fun handler signers client hd href hc => ht.honest h.sound hd href hc

theorem versions_run (h₀ : n₀.Start) (hr : Run (Step P ok) n₀ tr n) (s : Side) :
    (n s).Versions := by
  have hown : Run (Chain.Step P fun _ _ => True) (n₀ s) (own s tr) (n s) :=
    run_own (fun _ _ _ => trivial) hr
  refine hown.invariant (I := fun _ c => c.Versions) (h₀ s).versions ?_
  rintro tr c tx c' hr h ⟨-, hc⟩
  obtain ⟨rfl, outs, ht⟩ := Chain.commit_ok hc
  exact h.apply (Chain.Inv.run (h₀ s).inv hr) ht

/-- Two hosts track each other, and tried connections are acknowledged towards those they were tried
with. Then two open connections, of which one names the other, agree. -/
theorem connections_agree (h₀ : n₀.Start)
    (hr : Run (Step P fun n s tx => TracksPeer n s tx ∧ tx.AcksTriedConnection) n₀ tr n) {s : Side}
    {a b : IbcConnection} (ha : (n s).states.lookup a.id = some (.connection a))
    (hb : (n s.peer).states.lookup b.id = some (.connection b)) (hopen : a.end_.state = .opened)
    (hopen' : b.end_.state = .opened) (hnames : a.end_.counterparty.connectionId = b.id.id) :
    a.Agrees b := by
  have hbooks : Run (Handshake.System.Moves Connection.kind fun _ _ _ => True)
      (n₀.books IbcConnection) (tr.map Prod.fst) (n.books IbcConnection) :=
    run_books h₀ (fun _ _ _ h => h.1) (fun _ _ _ ht h => ht.connectionStep h h.ok.2) hr
  have hstart : (n₀.books IbcConnection).Start := fun s name =>
    (h₀ s).book (fun _ _ h => by cases h) name
  have hinv := Handshake.System.inv hstart hbooks
  have hleft := hinv s
  have hright := hinv s.peer
  rw [Side.peer_peer] at hright
  have ha' := hleft.recorded a.id.id _ (Chain.book_cur_of_lookup (t := a) ha)
  have hb' := hright.recorded b.id.id _ (Chain.book_cur_of_lookup (t := b) hb)
  rw [← hnames] at hb'
  obtain ⟨hpeer, hterms⟩ := hleft.agree hright ha' (Connection.State.phase_opened.2 hopen) hb'
    (Connection.State.phase_opened.2 hopen')
  obtain ⟨hclient, hcounterparty, hdelay⟩ := Connection.Terms.mk.inj hterms
  have hversion := versions_run h₀ hr
  exact ⟨hpeer, hclient, hcounterparty, hdelay, VERSION, hversion s _ a ha, hversion s.peer _ b hb⟩

end

/-! ### Hellos that cross -/

namespace Acknowledged
open Sample

/-- The first host's second connection, tried with the other host's first one. -/
def second : IbcConnection :=
  { connectionOf .left .tryOpen "connection-0" with id := connection 1 }

def P : Platform := netPlatform
  [(.left, .client (liveClientOf .left)), (.right, .client (liveClientOf .right)),
    (.left, .connection (connectionOf .left .init "")),
    (.right, .connection (connectionOf .right .init "")),
    (.right, .connection (connectionOf .right .tryOpen "connection-0")),
    (.left, .connection second)] []

/-- Both hosts have initial connections and try each other's. The second acknowledges its connection
towards the first host's second one; the first is shown what the second had before. -/
def script : List (Side × Move) :=
  [(.left, createClient 2), (.right, createClient 1), (.left, connOpenInit), (.right, connOpenInit),
    (.right, tryConnection .right (some 0) 2), (.left, tryConnection .left none 3),
    (.right, ackConnection .right 0 "connection-1" 5), (.left, ackConnection .left 0 "connection-0" 4)]

/-- The connections of both hosts. -/
def outcome (r : List (Side × LedgerTransaction) × Net Side) : List (Option ContractState) :=
  [(r.2 .left).states.lookup (connection 0), (r.2 .right).states.lookup (connection 0)]

theorem outcome_script : outcome <$> runNet P sides tracksPeer pair script =
    .ok [some (.connection (connectionOf .left .opened "connection-0")),
      some (.connection (connectionOf .right .opened "connection-1"))] := by decide +kernel

/-- Open connections, of which one names the other, need not agree. -/
theorem connections_disagree : ∃ (P : Platform) (n₀ n : Net Side)
    (tr : List (Side × LedgerTransaction)) (a b : IbcConnection), n₀.Start ∧
    Run (Step P TracksPeer) n₀ tr n ∧ (n .left).states.lookup a.id = some (.connection a) ∧
    (n .right).states.lookup b.id = some (.connection b) ∧ a.end_.state = .opened ∧
    b.end_.state = .opened ∧ a.end_.counterparty.connectionId = b.id.id ∧ ¬ a.Agrees b := by
  obtain ⟨⟨tr, n⟩, hrun, hout⟩ := Result.map_ok.1 outcome_script
  have hr : Run (Step P TracksPeer) pair ([] ++ tr) n :=
    run_of_net mem_sides (fun _ _ _ h => tracksPeer_ok h) hrun .nil
  simp only [outcome, List.cons.injEq, and_true] at hout
  refine ⟨P, pair, n, tr, connectionOf .left .opened "connection-0",
    connectionOf .right .opened "connection-1", start_pair, hr, hout.1, hout.2, rfl, rfl, rfl, ?_⟩
  exact fun h => absurd h.connectionId (by decide)

/-- No tried connection is acknowledged. -/
def untried (tx : LedgerTransaction) : Bool :=
  tx.inputStates.all fun
    | .connection conn => tx.datagramHandlerCommands.all fun
      | (.handleConnOpenAck _, _) => conn.end_.state ≠ .tryOpen
      | _ => true
    | _ => true

theorem acksTried_of_untried {tx : LedgerTransaction} (h : untried tx = true) :
    tx.AcksTriedConnection := by
  intro msg signers hd conn hm htry
  have hall := List.all_eq_true.1 h _ hm
  simp only [hd, List.all_cons, List.all_nil, Bool.and_true] at hall
  exact absurd htry (of_decide_eq_true hall)

theorem outcome_linked : outcome <$> runNet (netPlatform linking []) sides
      (fun n s tx => tracksPeer n s tx && untried tx) pair linked =
    .ok [some (.connection (connectionOf .left .opened "connection-0")),
      some (.connection (connectionOf .right .opened "connection-0"))] := by decide +kernel

/-- Those of the usual handshake do. -/
theorem linked_agree :
    (connectionOf .left .opened "connection-0").Agrees
      (connectionOf .right .opened "connection-0") := by
  obtain ⟨⟨tr, n⟩, hrun, hout⟩ := Result.map_ok.1 outcome_linked
  have hr : Run (Step (netPlatform linking []) fun n s tx =>
      TracksPeer n s tx ∧ tx.AcksTriedConnection) pair ([] ++ tr) n := by
    refine run_of_net mem_sides (fun n s tx h => ?_) hrun .nil
    obtain ⟨htracks, huntried⟩ := Bool.and_eq_true_iff.1 h
    exact ⟨tracksPeer_ok htracks, acksTried_of_untried huntried⟩
  simp only [outcome, List.cons.injEq, and_true] at hout
  have hb : (n (Side.peer .left)).states.lookup (connection 0) = _ := hout.2
  exact connections_agree start_pair hr hout.1 hb rfl rfl rfl

end Acknowledged

end Net

end CordaIbc
