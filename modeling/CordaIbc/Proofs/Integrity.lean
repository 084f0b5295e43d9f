import CordaIbc.Proofs.Channels
import CordaIbc.Proofs.Connections
import CordaIbc.Proofs.Linked

/-!
# The life of connections and channels

Whatever messages a host accepts, every connection keeps a client and the one version, every channel
keeps one hop, over a connection that is open from the moment the channel is tried, and both only move
forward through their states (`Chain.intact_onward`). So the packet handlers never fail on the shape of
a channel that comes with its connection and its client (`IbcChannel.Carries`).
-/

namespace CordaIbc

open ContractState StateClass

/-! ## Moving forward -/

theorem IbcConnection.Change.rank_le {ctx : Context} {d : DatagramHandler}
    {conn conn' : IbcConnection} (h : Change ctx d conn conn') :
    conn.end_.state.phase.rank ≤ conn'.end_.state.phase.rank := by
  cases h with
  | tryPrevious _ hinit =>
    rw [hinit]
    exact Nat.zero_le _
  | ack hstate =>
    show _ ≤ 2
    rcases hstate with hs | hs <;> rw [hs] <;> decide
  | confirm hstate =>
    show _ ≤ 2
    rw [hstate]
    decide

theorem IbcChannel.Change.rank_le {P : Platform} {ctx : Context} {signers : List PublicKey}
    {d : DatagramHandler} {chan chan' : IbcChannel} (h : Change P ctx signers d chan chan') :
    chan.end_.state.phase.rank ≤ chan'.end_.state.phase.rank := by
  have hclosed : ∀ s : ChannelOuterClass.State, s.phase.rank ≤ 3 := fun s => by
    cases s <;> decide
  cases h with
  | tryPrevious _ hinit =>
    rw [hinit]
    exact Nat.zero_le _
  | ack hstate =>
    show _ ≤ 2
    rcases hstate with hs | hs <;> rw [hs] <;> decide
  | confirm hstate =>
    show _ ≤ 2
    rw [hstate]
    decide
  | closeInit | closeConfirm => exact hclosed _
  | send => exact Nat.le_refl _
  | recv hrecv => rw [receive_end hrecv.receive]
  | settle hacks =>
    obtain ⟨n, rfl⟩ := settle_eq hacks.settle
    exact Nat.le_refl _

namespace Chain

/-- No connection and no channel is lost or moves back. -/
structure Onward (c c' : Chain) : Prop where
  connection : ∀ i (conn : IbcConnection), c.states.lookup i = some (up conn) →
    ∃ conn' : IbcConnection, c'.states.lookup i = some (up conn') ∧
      conn.end_.state.phase.rank ≤ conn'.end_.state.phase.rank
  channel : ∀ i (chan : IbcChannel), c.states.lookup i = some (up chan) →
    ∃ chan' : IbcChannel, c'.states.lookup i = some (up chan') ∧
      chan.end_.state.phase.rank ≤ chan'.end_.state.phase.rank

section
variable {c c' c'' : Chain} {T : Type} [StateClass T] {rank : T → Nat}

theorem Leaves.rank_le (h : Leaves T c c') (i : Identifier) (t : T)
    (ht : c.states.lookup i = some (up t)) :
    ∃ t' : T, c'.states.lookup i = some (up t') ∧ rank t ≤ rank t' :=
  ⟨t, (h.lookup i t).2 ht, Nat.le_refl _⟩

/-- A state that is written is new, or of no lower rank than the one it replaces. -/
theorem Writes.rank_le {j : Identifier} {u : T} (h : Writes c c' j u)
    (hu : ∀ t : T, c.states.lookup j = some (up t) → rank t ≤ rank u) (i : Identifier) (t : T)
    (ht : c.states.lookup i = some (up t)) :
    ∃ t' : T, c'.states.lookup i = some (up t') ∧ rank t ≤ rank t' := by
  by_cases hi : i = j
  · subst hi
    exact ⟨u, h.self, hu t ht⟩
  · exact ⟨t, (h.other i hi t).2 ht, Nat.le_refl _⟩

theorem Onward.refl (c : Chain) : c.Onward c :=
  ⟨fun _ conn h => ⟨conn, h, Nat.le_refl _⟩, fun _ chan h => ⟨chan, h, Nat.le_refl _⟩⟩

theorem Onward.trans (h : c.Onward c') (h' : c'.Onward c'') : c.Onward c'' := by
  constructor
  · intro i conn hl
    obtain ⟨conn', hl', hle⟩ := h.connection i conn hl
    obtain ⟨conn'', hl'', hle'⟩ := h'.connection i conn' hl'
    exact ⟨conn'', hl'', hle.trans hle'⟩
  · intro i chan hl
    obtain ⟨chan', hl', hle⟩ := h.channel i chan hl
    obtain ⟨chan'', hl'', hle'⟩ := h'.channel i chan' hl'
    exact ⟨chan'', hl'', hle.trans hle'⟩

end

section
variable {P : Platform} {ok : Chain → LedgerTransaction → Prop} {c₀ c c' : Chain}
  {tx : LedgerTransaction} {outs : List ContractState} {tr : List LedgerTransaction}
  {handler : DatagramHandler} {signers : List PublicKey} {chan : IbcChannel} {conn : IbcConnection}

theorem Inv.onward (hi : c.Inv) (ht : Takes P c tx outs) : c.Onward (c.apply tx) := by
  constructor
  · have hs := hi.connectionStep ht
    cases hs with
    | leaves hleaves => exact hleaves.rank_le
    | creates _ _ hnew _ hwrites =>
      refine hwrites.rank_le fun t hl => ?_
      rw [hnew] at hl
      cases hl
    | changes _ _ _ hcur hchange hwrites =>
      refine hwrites.rank_le fun t hl => ?_
      rw [hcur] at hl
      obtain rfl := up_inj (T := IbcConnection) (Option.some.inj hl)
      exact hchange.rank_le
  · have hs := hi.channelStep ht
    cases hs with
    | leaves _ hleaves => exact hleaves.rank_le
    | creates _ _ _ _ hnew _ hwrites =>
      refine hwrites.rank_le fun t hl => ?_
      rw [hnew] at hl
      cases hl
    | changes _ _ _ _ _ hcur hchange hwrites =>
      refine hwrites.rank_le fun t hl => ?_
      rw [hcur] at hl
      obtain rfl := up_inj (T := IbcChannel) (Option.some.inj hl)
      exact hchange.rank_le

theorem Onward.run (hi : c.Inv) (hr : Run (Step P ok) c tr c') : c.Onward c' := by
  refine hr.invariant (I := fun _ c' => c.Onward c') (Onward.refl c) ?_
  rintro tr c₁ tx c₂ hr h ⟨-, hc⟩
  obtain ⟨rfl, outs, ht⟩ := commit_ok hc
  exact h.trans ((hi.run hr).onward ht)

/-! ## What a channel runs over -/

/-- A connection of the chain is the one hop of a channel, supports its ordering, and is open once the
channel is tried. -/
structure Under (c : Chain) (conn : IbcConnection) (chan : IbcChannel) : Prop where
  current : c.states.lookup conn.id = some (.connection conn)
  hops : chan.end_.connectionHopsList = [conn.id.id]
  versions : conn.end_.versionsList = [VERSION]
  ordering : chan.end_.ordering.name ∈ VERSION.featuresList
  opened : chan.end_.state ≠ .init → conn.end_.state = .opened

/-- Every connection has its client and the one version, every channel its connection. -/
structure Intact (c : Chain) : Prop where
  client : ∀ i conn, c.states.lookup i = some (.connection conn) →
    ∃ client : IbcClientState, c.states.lookup client.id = some (.client client) ∧
      client.id.id = conn.end_.clientId
  versions : ∀ i conn, c.states.lookup i = some (.connection conn) →
    conn.end_.versionsList = [VERSION]
  connection : ∀ i conn, c.states.lookup i = some (.connection conn) →
    conn.end_.state ∈ [Connection.State.init, .tryOpen, .opened]
  under : ∀ i chan, c.states.lookup i = some (.channel chan) → ∃ conn, c.Under conn chan
  channel : ∀ i chan, c.states.lookup i = some (.channel chan) →
    chan.end_.state ∈ [ChannelOuterClass.State.init, .tryOpen, .opened, .closed]

theorem Start.intact (h : c.Start) : c.Intact := by
  obtain ⟨_, _, _, _, _, host, -, rfl⟩ := h
  have hno : ∀ i s, (ofHost host).states.lookup i = some s → s = .host host := fun i s hl =>
    (lookup_ofHost hl).2
  refine ⟨fun i conn hl => ?_, fun i conn hl => ?_, fun i conn hl => ?_, fun i chan hl => ?_,
    fun i chan hl => ?_⟩ <;> cases hno i _ hl

/-- A connection stays under its channel. -/
theorem Under.next (h : c.Under conn chan) (hi : c.Inv) (hv : c.Versions)
    (ht : Takes P c tx outs) : ∃ conn', (c.apply tx).Under conn' chan := by
  by_cases hopen : conn.end_.state = .opened
  · exact ⟨conn, (hi.connectionStep ht).lookup_opened h.current hopen, h.hops, h.versions,
      h.ordering, fun _ => hopen⟩
  · obtain ⟨t, hl, hu⟩ := hi.lookup_next ht h.current
    obtain ⟨conn', rfl⟩ : ∃ conn', t = .connection conn' := by
      cases t <;> first | exact hu.elim | exact ⟨_, rfl⟩
    have hid : conn'.id = conn.id := hu
    refine ⟨conn', ?_, ?_, hv.apply hi ht _ _ hl, h.ordering, fun hne => absurd (h.opened hne) hopen⟩
    · rw [hid]
      exact hl
    · rw [hid]
      exact h.hops

/-- The connection that a datagram references for a channel. -/
theorem Runs.under (hr : Runs P c tx handler signers outs) (hv : c.Versions)
    (hconn : ConnOf (.create tx.inputStates tx.referenceStates) chan.end_.connectionHopsList conn)
    (hordering : chan.end_.ordering.name ∈ VERSION.featuresList)
    (hopen : chan.end_.state ≠ .init → conn.end_.state = .opened) : c.Under conn chan := by
  have hcur := hr.references _ (Context.mem_of_getReference hconn.ref) _ rfl
  exact ⟨hcur, hconn.hops, hv _ conn hcur, hordering, hopen⟩

/-- A channel that is put out has its connection under it. -/
theorem Runs.exists_under (hr : Runs P c tx handler signers outs) (h : c.Intact)
    (hm : ContractState.channel chan ∈ outs) : (∃ conn, c.Under conn chan) ∧
      chan.end_.state ∈ [ChannelOuterClass.State.init, .tryOpen, .opened, .closed] := by
  have hexec := hr.executes
  have hin : ∀ prev,
      (Context.create tx.inputStates tx.referenceStates).getInput IbcChannel = .ok prev →
      c.states.lookup prev.id = some (.channel prev) := fun prev hprev =>
    hr.inputs _ (Context.mem_of_getInput hprev) _ rfl
  -- an output that has the end of an input
  have hsame : ∀ prev,
      (Context.create tx.inputStates tx.referenceStates).getInput IbcChannel = .ok prev →
      chan.end_ = prev.end_ → (∃ conn, c.Under conn chan) ∧
        chan.end_.state ∈ [ChannelOuterClass.State.init, .tryOpen, .opened, .closed] := by
    intro prev hprev he
    obtain ⟨conn, hunder⟩ := h.under _ prev (hin prev hprev)
    rw [he]
    exact ⟨⟨conn, hunder.current, he ▸ hunder.hops, hunder.versions, he ▸ hunder.ordering,
      he ▸ hunder.opened⟩, h.channel _ prev (hin prev hprev)⟩
  -- an output over the referenced connection, with the ordering of an input
  have hordering : ∀ prev,
      (Context.create tx.inputStates tx.referenceStates).getInput IbcChannel = .ok prev →
      prev.end_.ordering.name ∈ VERSION.featuresList := fun prev hprev => by
    obtain ⟨conn, hunder⟩ := h.under _ prev (hin prev hprev)
    exact hunder.ordering
  have hversion : ∀ {conn hops version},
      ConnOf (.create tx.inputStates tx.referenceStates) hops conn →
      conn.end_.versionsList = [version] → version = VERSION := fun hconn hversions => by
    have hcur := hr.references _ (Context.mem_of_getReference hconn.ref) _ rfl
    rw [h.versions _ _ hcur] at hversions
    exact (List.singleton_inj.1 hversions).symm
  cases hexec with
  | createClient | updateClient | connOpenInit | connOpenTry | connOpenAck | connOpenConfirm =>
    simp at hm
  | chanOpenInit _ hconn hversions hord =>
    simp only [List.mem_cons, reduceCtorEq, ContractState.channel.injEq, List.not_mem_nil, or_false,
      false_or] at hm
    subst hm
    obtain rfl := hversion hconn hversions
    exact ⟨⟨_, hr.under h.versions hconn hord fun hne => absurd rfl hne⟩, List.mem_cons_self⟩
  | chanOpenTry _ hconn _ _ hopen hversions hord
  | chanOpenTryPrevious _ hconn _ _ _ _ _ _ hopen hversions hord =>
    simp only [List.mem_cons, reduceCtorEq, ContractState.channel.injEq, List.not_mem_nil, or_false,
      false_or] at hm
    subst hm
    obtain rfl := hversion hconn hversions
    exact ⟨⟨_, hr.under h.versions hconn hord fun _ => hopen⟩,
      List.mem_cons_of_mem _ List.mem_cons_self⟩
  | chanOpenAck hprev _ _ hconn _ _ hopen | chanOpenConfirm hprev _ _ hconn _ _ hopen =>
    have hord := hordering _ hprev
    obtain rfl : chan = _ := by simpa using hm
    refine ⟨⟨_, hr.under h.versions hconn hord fun _ => hopen⟩, ?_⟩
    exact List.mem_cons_of_mem _ (List.mem_cons_of_mem _ List.mem_cons_self)
  | chanCloseInit hprev _ _ hconn _ hopen | chanCloseConfirm hprev _ _ hconn _ _ hopen =>
    have hord := hordering _ hprev
    obtain rfl : chan = _ := by simpa using hm
    refine ⟨⟨_, hr.under h.versions hconn hord fun _ => hopen⟩, ?_⟩
    exact List.mem_cons_of_mem _ (List.mem_cons_of_mem _ (List.mem_cons_of_mem _ List.mem_cons_self))
  | sendPacket _ _ heffect hsend =>
    obtain rfl := heffect.bankOuts.channel_eq hm
    exact hsame _ hsend.input rfl
  | recvPacket _ _ _ heffect hrecv =>
    obtain rfl := heffect.bankOuts.channel_eq hm
    exact hsame _ hrecv.input (receive_end hrecv.receive)
  | acknowledgePacket _ _ _ _ heffect hacks =>
    obtain rfl := heffect.bankOuts.channel_eq hm
    obtain ⟨n, rfl⟩ := settle_eq hacks.settle
    exact hsame _ hacks.input rfl

/-- A connection that is put out is in one of the three states. -/
theorem Runs.connection_state (hr : Runs P c tx handler signers outs)
    (hm : ContractState.connection conn ∈ outs) :
    conn.end_.state ∈ [Connection.State.init, .tryOpen, .opened] := by
  have hexec := hr.executes
  cases hexec with
  | createClient | updateClient | chanOpenInit | chanOpenTry | chanOpenTryPrevious | chanOpenAck
  | chanOpenConfirm | chanCloseInit | chanCloseConfirm => simp at hm
  | sendPacket _ _ heffect => exact absurd hm heffect.bankOuts.connection_notMem
  | recvPacket _ _ _ heffect => exact absurd hm heffect.bankOuts.connection_notMem
  | acknowledgePacket _ _ _ _ heffect => exact absurd hm heffect.bankOuts.connection_notMem
  | connOpenInit | connOpenTry =>
    simp only [List.mem_cons, reduceCtorEq, ContractState.connection.injEq, List.not_mem_nil,
      or_false, false_or] at hm
    subst hm
    simp [IbcConnection.create, MsgConnectionOpenTry.toEnd]
  | connOpenAck | connOpenConfirm =>
    obtain rfl : conn = _ := by simpa using hm
    simp [IbcConnection.acked, IbcConnection.confirmed]

theorem Intact.apply (h : c.Intact) (hi : c.Inv) (ht : Takes P c tx outs) : (c.apply tx).Intact := by
  have hlinked : ∀ i conn, (c.apply tx).states.lookup i = some (.connection conn) →
      (∃ client : IbcClientState, c.states.lookup client.id = some (.client client) ∧
        client.id.id = conn.end_.clientId) ∧
      conn.end_.state ∈ [Connection.State.init, .tryOpen, .opened] := by
    intro i conn hl
    have hs := hi.connectionStep ht
    cases hs with
    | leaves hleaves =>
      have hl := (hleaves.lookup i conn).1 hl
      exact ⟨h.client i conn hl, h.connection i conn hl⟩
    | @creates _ _ _ conn' hruns hm _ _ hwrites | @changes _ _ _ _ conn' hruns hm _ _ _ hwrites =>
      by_cases hid : i = conn'.id
      · subst hid
        rw [hwrites.self] at hl
        cases hl
        exact ⟨hruns.client hm, hruns.connection_state hm⟩
      · have hl := (hwrites.other i hid conn).1 hl
        exact ⟨h.client i conn hl, h.connection i conn hl⟩
  have hchan : ∀ i chan, (c.apply tx).states.lookup i = some (.channel chan) →
      (∃ conn, c.Under conn chan) ∧
        chan.end_.state ∈ [ChannelOuterClass.State.init, .tryOpen, .opened, .closed] := by
    intro i chan hl
    have hs := hi.channelStep ht
    cases hs with
    | leaves _ hleaves =>
      have hl := (hleaves.lookup i chan).1 hl
      exact ⟨h.under i chan hl, h.channel i chan hl⟩
    | @creates _ _ _ chan' hruns hm _ _ _ _ hwrites
    | @changes _ _ _ _ chan' hruns hm _ _ _ _ _ hwrites =>
      by_cases hid : i = chan'.id
      · subst hid
        rw [hwrites.self] at hl
        cases hl
        exact hruns.exists_under h hm
      · have hl := (hwrites.other i hid chan).1 hl
        exact ⟨h.under i chan hl, h.channel i chan hl⟩
  refine ⟨fun i conn hl => ?_, Versions.apply h.versions hi ht, fun i conn hl => (hlinked i conn hl).2,
    fun i chan hl => ?_, fun i chan hl => (hchan i chan hl).2⟩
  · obtain ⟨client, hcur, hid⟩ := (hlinked i conn hl).1
    obtain ⟨t, hl', hu⟩ := hi.lookup_next ht hcur
    obtain ⟨client', rfl⟩ : ∃ client', t = .client client' := by
      cases t <;> first | exact hu.elim | exact ⟨_, rfl⟩
    have hsame : client'.id = client.id := hu
    exact ⟨client', hsame ▸ hl', hsame ▸ hid⟩
  · obtain ⟨conn, hunder⟩ := (hchan i chan hl).1
    exact hunder.next hi h.versions ht

theorem Intact.run (h₀ : c₀.Start) (hr : Run (Step P ok) c₀ tr c) : c.Intact := by
  refine hr.invariant (I := fun _ c => c.Intact) h₀.intact ?_
  rintro tr c tx c' hr h ⟨-, hc⟩
  obtain ⟨rfl, outs, ht⟩ := commit_ok hc
  exact h.apply (h₀.inv.run hr) ht

end

end Chain

/-! ## What the packet handlers take for granted -/

/-- The calls of `single()` in `sendPacket`, `recvPacket` and `acknowledgePacket` on a channel, its
connection and its client, and the dispatch on the ordering, go through. -/
structure IbcChannel.Carries (chan : IbcChannel) (conn : IbcConnection) (client : IbcClientState) :
    Prop where
  hop : single chan.end_.connectionHopsList = .ok conn.id.id
  connection : (do requireId conn.id (← single chan.end_.connectionHopsList)) = .ok ()
  client : requireId client.id conn.end_.clientId = .ok ()
  clientType : ∃ clientType sequence,
    splitAtLast conn.end_.clientId '-' = .ok (clientType.toString, sequence) ∧
      ClientType.fromString clientType.toString = .ok clientType
  ordering : chan.end_.ordering = .ordered ∨ chan.end_.ordering = .unordered
  receive : ∀ (chan' : IbcChannel) packet, chan'.end_ = chan.end_ →
    Handler.recvPacket.receive chan' packet ≠ .error (.illegalArgument "null")

namespace Chain

theorem ordering_cases {ordering : ChannelOuterClass.Order}
    (h : ordering.name ∈ VERSION.featuresList) : ordering = .ordered ∨ ordering = .unordered := by
  cases ordering with
  | ordered => exact .inl rfl
  | unordered => exact .inr rfl
  | noneUnspecified | unrecognized => exact absurd h (by decide)

theorem receive_ne_null {chan : IbcChannel} {packet : ChannelOuterClass.Packet}
    (h : chan.end_.ordering = .ordered ∨ chan.end_.ordering = .unordered) :
    Handler.recvPacket.receive chan packet ≠ .error (.illegalArgument "null") := by
  unfold Handler.recvPacket.receive
  rcases h with h | h <;> rw [h]
  · by_cases hs : packet.sequence = chan.nextSequenceRecv <;> simp [require, hs, Bind.bind, Except.bind]
  · by_cases hs : packet.sequence ∈ chan.receipts <;> simp [require, hs, Bind.bind, Except.bind]

/-- The identifier of a client names its type. -/
theorem Inv.clientType {c : Chain} (hi : c.Inv) {i : Identifier} {client : IbcClientState}
    (hl : c.states.lookup i = some (.client client)) : ∃ clientType sequence,
      splitAtLast client.id.id '-' = .ok (clientType.toString, sequence) ∧
        ClientType.fromString clientType.toString = .ok clientType := by
  obtain ⟨host, -, hown⟩ := hi.owned
  obtain ⟨t, n, -, hid⟩ := hown i _ hl
  refine ⟨t, toString n, ?_, by cases t <;> rfl⟩
  rw [hid]
  refine splitAtLast_append ?_ fun hm => ?_
  · simp [Host.clientIdentifier, Identifier.numbered]
  · have hdigit := Identifier.isDigit_toString n _ hm
    cases hdigit

theorem Under.carries {c : Chain} {conn conn' : IbcConnection} {chan : IbcChannel}
    {client : IbcClientState} (h : c.Under conn' chan) (hi : c.Inv)
    (hhop : conn.id.id ∈ chan.end_.connectionHopsList)
    (hclient : c.states.lookup client.id = some (.client client))
    (hid : client.id.id = conn.end_.clientId) : chan.Carries conn client := by
  have hhops : chan.end_.connectionHopsList = [conn.id.id] := by
    rw [h.hops, List.mem_singleton] at hhop
    rw [h.hops, hhop]
  have hsingle := single_ok.2 hhops
  have hord := ordering_cases h.ordering
  refine ⟨hsingle, Result.bind_ok.2 ⟨_, hsingle, requireId_ok.2 rfl⟩, requireId_ok.2 hid, ?_, hord,
    fun chan' packet he => receive_ne_null (he ▸ hord)⟩
  rw [← hid]
  exact hi.clientType hclient

/-- Whatever a host accepts, its connections and channels are intact and never move back, and a channel
that comes with its connection and its client carries packets. -/
theorem intact_onward {P : Platform} {c₀ c c' : Chain} {tr tr' : List LedgerTransaction}
    (h₀ : c₀.Start) (hr : Run (Step P fun _ _ => True) c₀ tr c)
    (hr' : Run (Step P fun _ _ => True) c tr' c') : c.Intact ∧ c.Onward c' ∧
      ∀ i chan conn client, c.states.lookup i = some (.channel chan) →
        conn.id.id ∈ chan.end_.connectionHopsList →
        c.states.lookup client.id = some (.client client) → client.id.id = conn.end_.clientId →
        chan.Carries conn client := by
  have hi := h₀.inv.run hr
  have hintact := Intact.run h₀ hr
  refine ⟨hintact, Onward.run hi hr', fun i chan conn client hchan hhop hclient hid => ?_⟩
  obtain ⟨conn', hunder⟩ := hintact.under i chan hchan
  exact hunder.carries hi hhop hclient hid

/-! ### A run -/

section
open Sample

def openedChannel : IbcChannel :=
  .create (host 1) transferPort (channel 0) (channelEnd .opened "channel-0")

def shownLookups (r : List LedgerTransaction × Chain) : List (Option ContractState) :=
  [r.2.states.lookup (channel 0), r.2.states.lookup (connection 0), r.2.states.lookup hostClient]

theorem lookups_opened : shownLookups <$>
    runMoves (platform [handshake] []) (ofHost (host 1)) Sample.opened =
      .ok [some (.channel openedChannel),
        some (.connection (connectionOf .left .opened "connection-0")),
        some (.client (liveClientOf .left))] := by decide +kernel

/-- The channel that the script opens carries packets. -/
theorem intact_onward_opened : ∃ c : Chain, c.Intact ∧ c.Onward c ∧
    c.states.lookup (channel 0) = some (.channel openedChannel) ∧
    openedChannel.Carries (connectionOf .left .opened "connection-0") (liveClientOf .left) := by
  obtain ⟨⟨txs, c⟩, hrun, hout⟩ := Result.map_ok.1 lookups_opened
  obtain ⟨hchan, hrest⟩ := List.cons.inj hout
  obtain ⟨-, hrest⟩ := List.cons.inj hrest
  obtain ⟨hclient, -⟩ := List.cons.inj hrest
  have hr : Run (Step (platform [handshake] []) fun _ _ => True) (ofHost (host 1)) ([] ++ txs) c :=
    run_of_moves hrun (fun _ _ _ _ _ => trivial) .nil
  obtain ⟨hintact, honward, hcarries⟩ := intact_onward (start_host 1) hr .nil
  exact ⟨c, hintact, honward, hchan, hcarries _ _ _ _ hchan List.mem_cons_self hclient rfl⟩

end

end Chain

end CordaIbc
