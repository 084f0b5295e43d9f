import CordaIbc.Proofs.Accepts
import CordaIbc.Proofs.Connections
import CordaIbc.Relay

/-!
# Honest handshakes complete

Every handshake step of an honest relayer is accepted but one: `connOpenConfirm` expects the peer's
connection to have no delay period, so it is accepted exactly when it has none
(`Relay.openConnection_iff`). A channel over an open connection can always be opened and closed
(`Relay.channel_opens_and_closes`).
-/

namespace CordaIbc

open StateClass

namespace Endpoint

/-- The endpoint has a Corda client of the peer's host. -/
structure Tracks (e peer : Endpoint) : Prop where
  own : e.client.baseId = e.host.baseId
  tracks : ∃ cs, e.client.impl = .corda cs ∧ cs.counterpartyBaseId = peer.host.baseId ∧
    cs.counterpartyNotaryKey = peer.host.notary.owningKey
  consensus : e.client.anyConsensusStates.lookup HEIGHT = some Host.defaultConsensusState

/-- The client accepts what the relayer proves a state with. -/
def Sees (e : Endpoint) (P : Platform) (prove : ContractState → Bytes) {T : Type} [StateClass T]
    (t : T) : Prop :=
  ∃ (cs : CordaClientState) (proof : CommitmentProof), e.client.impl = .corda cs ∧
    proof.bytes = prove (up t) ∧ cs.Proves P proof t

section
variable {e : Endpoint} {P : Platform} {prove : ContractState → Bytes} {q : MerklePrefix}

theorem Sees.connection {conn : IbcConnection} (h : e.Sees P prove conn) :
    ProvesConnection P e.client HEIGHT q (prove (.connection conn)) conn.id.id conn.end_ := by
  obtain ⟨cs, proof, himpl, hbytes, hproves⟩ := h
  refine ⟨proof, hbytes, conn.id, rfl, ?_⟩
  rw [himpl]
  show cs.verifyConnectionState P HEIGHT q proof conn.id conn.end_ = .ok ()
  exact CordaClientState.verifyConnectionState_ok.2 ⟨rfl, conn, hproves, rfl, rfl⟩

theorem Sees.clientState {client : IbcClientState} (h : e.Sees P prove client) :
    ProvesClient P e.client HEIGHT q (prove (.client client)) client.id.id client.anyClientState := by
  obtain ⟨cs, proof, himpl, hbytes, hproves⟩ := h
  refine ⟨proof, hbytes, client.id, rfl, ?_⟩
  rw [himpl]
  show cs.verifyClientState P HEIGHT q client.id proof client.anyClientState = .ok ()
  exact CordaClientState.verifyClientState_ok.2 ⟨rfl, client, hproves, rfl, rfl⟩

theorem Sees.consensusState {client : IbcClientState} {any : Any} (h : e.Sees P prove client)
    (hany : client.anyConsensusStates.lookup HEIGHT = some any) :
    ProvesConsensus P e.client HEIGHT q (prove (.client client)) client.id.id HEIGHT any := by
  obtain ⟨cs, proof, himpl, hbytes, hproves⟩ := h
  refine ⟨proof, hbytes, client.id, rfl, ?_⟩
  rw [himpl]
  show cs.verifyClientConsensusState P HEIGHT client.id HEIGHT q proof any = .ok ()
  exact CordaClientState.verifyClientConsensusState_ok.2 ⟨rfl, client, hproves, rfl, hany⟩

theorem Sees.channel {chan : IbcChannel} (h : e.Sees P prove chan) :
    ProvesChannel P e.client HEIGHT q (prove (.channel chan)) chan.portId.id chan.id.id
      chan.end_ := by
  obtain ⟨cs, proof, himpl, hbytes, hproves⟩ := h
  refine ⟨proof, hbytes, chan.portId, rfl, chan.id, rfl, ?_⟩
  rw [himpl]
  show cs.verifyChannelState P HEIGHT q proof chan.portId chan.id chan.end_ = .ok ()
  exact CordaClientState.verifyChannelState_ok.2 ⟨rfl, chan, hproves, rfl, rfl, rfl⟩

/-- A proof of one connection proves nothing else. -/
theorem Sees.eq_end {conn : IbcConnection} (h : e.Sees P prove conn) {height : Height} {id : String}
    {end_ : Connection.ConnectionEnd}
    (hp : ProvesConnection P e.client height q (prove (.connection conn)) id end_) :
    conn.end_ = end_ := by
  obtain ⟨cs, proof, himpl, hbytes, hproves⟩ := h
  obtain ⟨proof', hbytes', i, -, hv⟩ := hp
  have hsame : proof' = proof := by
    cases proof
    cases proof'
    simp only [CommitmentProof.mk.injEq]
    exact hbytes'.trans hbytes.symm
  rw [himpl, hsame] at hv
  have hv : cs.verifyConnectionState P height q proof i end_ = .ok () := hv
  obtain ⟨-, t, ht, -, rfl⟩ := CordaClientState.verifyConnectionState_ok.1 hv
  rw [Except.ok.inj (ht.extract.symm.trans hproves.extract)]

end

end Endpoint

namespace Relay

section
variable {P : Platform} {signers : List PublicKey} {prove : ContractState → Bytes} {a b : Endpoint}
  {version : Option Connection.Version} {delayPeriod : Long}

/-! ## Connections -/

/-- The connection that `a` offers. -/
def hello (a b : Endpoint) (delayPeriod : Long) : IbcConnection :=
  .create a.host a.host.generateConnectionIdentifier.2
    { clientId := a.client.id.id, versionsList := [VERSION], state := .init
      counterparty := ⟨b.client.id.id, "", PREFIX⟩, delayPeriod }

/-- The connection that `b` tries. -/
def tried (a b : Endpoint) (delayPeriod : Long) : IbcConnection :=
  .create b.host b.host.generateConnectionIdentifier.2
    { clientId := b.client.id.id, versionsList := [VERSION], state := .tryOpen
      counterparty := ⟨a.client.id.id, (hello a b delayPeriod).id.id, PREFIX⟩, delayPeriod }

/-- The connection that `a` acknowledges. -/
def acked (a b : Endpoint) (delayPeriod : Long) : IbcConnection :=
  (hello a b delayPeriod).acked (tried a b delayPeriod).id.id VERSION

/-- The proofs of a connection handshake are honest. -/
structure ShowsConnection (P : Platform) (prove : ContractState → Bytes) (a b : Endpoint)
    (delayPeriod : Long) : Prop where
  client : b.Sees P prove a.client
  init : b.Sees P prove (hello a b delayPeriod)
  peerClient : a.Sees P prove b.client
  try_ : a.Sees P prove (tried a b delayPeriod)
  ack : b.Sees P prove (acked a b delayPeriod)

theorem submit_connOpenInit (ha : a.Tracks b) (hversion : version = none ∨ version = some VERSION) :
    submit P signers [.host a.host] [.client a.client]
      (.handleConnOpenInit (connOpenInitMsg a b version delayPeriod)) =
        .ok [.host a.host.generateConnectionIdentifier.1, .connection (hello a b delayPeriod)] := by
  have hv : ∀ v, (connOpenInitMsg a b version delayPeriod).version = some v → v = VERSION := by
    rintro v (rfl : version = some v)
    rcases hversion with h | h
    · cases h
    · exact Option.some.inj h
  obtain ⟨ctx', hexec, ho⟩ := Handler.connOpenInit_of [.host a.host] [.client a.client]
    (connOpenInitMsg a b version delayPeriod) rfl ⟨rfl, rfl⟩ hv
  exact submit_created hexec ho rfl (List.forall_mem_singleton.2 ⟨_, rfl, ha.own⟩) ⟨_, rfl, rfl⟩

theorem submit_connOpenTry (ha : a.Tracks b) (hb : b.Tracks a)
    (h : ShowsConnection P prove a b delayPeriod) :
    submit P signers [.host b.host] [.client b.client]
      (.handleConnOpenTry (connOpenTryMsg prove a b (hello a b delayPeriod))) =
        .ok [.host b.host.generateConnectionIdentifier.1, .connection (tried a b delayPeriod)] := by
  obtain ⟨ctx', hexec, ho⟩ := Handler.connOpenTry_of [.host b.host] [.client b.client]
    (connOpenTryMsg prove a b (hello a b delayPeriod)) rfl ⟨rfl, rfl⟩ rfl rfl
    (List.mem_singleton_self _) h.init.connection h.client.clientState
    (h.client.consensusState ha.consensus)
  exact submit_created hexec ho rfl (List.forall_mem_singleton.2 ⟨_, rfl, hb.own⟩) ⟨_, rfl, rfl⟩

theorem submit_connOpenAck (ha : a.Tracks b) (hb : b.Tracks a)
    (h : ShowsConnection P prove a b delayPeriod) :
    submit P signers [.connection (hello a b delayPeriod)]
      [.host a.host.generateConnectionIdentifier.1, .client a.client]
      (.handleConnOpenAck (connOpenAckMsg prove a b (hello a b delayPeriod) (tried a b delayPeriod)
        VERSION)) = .ok [.connection (acked a b delayPeriod)] := by
  obtain ⟨ctx', hexec, ho⟩ := Handler.connOpenAck_of
    [.connection (hello a b delayPeriod)]
    [.host a.host.generateConnectionIdentifier.1, .client a.client]
    (connOpenAckMsg prove a b (hello a b delayPeriod) (tried a b delayPeriod) VERSION) rfl rfl rfl
    ⟨rfl, rfl⟩ rfl rfl rfl h.try_.connection h.peerClient.clientState (h.peerClient.consensusState hb.consensus)
  exact submit_changed (b := a.host.baseId) hexec ho rfl ⟨_, rfl, rfl⟩
    (List.forall_mem_cons.2 ⟨⟨_, rfl, rfl⟩, List.forall_mem_singleton.2 ⟨_, rfl, ha.own⟩⟩)

/-- Whatever the delay period, everything before the confirmation is accepted. -/
theorem tryConnection_eq (ha : a.Tracks b) (hb : b.Tracks a)
    (hversion : version = none ∨ version = some VERSION)
    (h : ShowsConnection P prove a b delayPeriod) :
    tryConnection P signers prove a b version delayPeriod =
      .ok (acked a b delayPeriod, b.host.generateConnectionIdentifier.1, tried a b delayPeriod) := by
  unfold tryConnection
  rw [submit_connOpenInit ha hversion]
  show (do
    let outs ← submit P signers [.host b.host] [.client b.client]
      (.handleConnOpenTry (connOpenTryMsg prove a b (hello a b delayPeriod)))
    _) = _
  rw [submit_connOpenTry ha hb h]
  show (do
    let outs ← submit P signers [.connection (hello a b delayPeriod)]
      [.host a.host.generateConnectionIdentifier.1, .client a.client]
      (.handleConnOpenAck (connOpenAckMsg prove a b (hello a b delayPeriod) (tried a b delayPeriod)
        VERSION))
    _) = _
  rw [submit_connOpenAck ha hb h]
  rfl

/-- Two connections are open, and are the ends of one. -/
structure Connected (delayPeriod : Long) (x y : IbcConnection) : Prop where
  opened : x.end_.state = .opened
  opened' : y.end_.state = .opened
  names : x.end_.counterparty.connectionId = y.id.id
  names' : y.end_.counterparty.connectionId = x.id.id
  versions : x.end_.versionsList = y.end_.versionsList
  delay : x.end_.delayPeriod = delayPeriod
  delay' : y.end_.delayPeriod = delayPeriod

/-- The confirmation is accepted when there is no delay period. -/
theorem submit_connOpenConfirm (hb : b.Tracks a) (h : ShowsConnection P prove a b 0) :
    submit P signers [.connection (tried a b 0)]
      [.host b.host.generateConnectionIdentifier.1, .client b.client]
      (.handleConnOpenConfirm (connOpenConfirmMsg prove a (acked a b 0) (tried a b 0))) =
        .ok [.connection (tried a b 0).confirmed] := by
  obtain ⟨ctx', hexec, ho⟩ := Handler.connOpenConfirm_of [.connection (tried a b 0)]
    [.host b.host.generateConnectionIdentifier.1, .client b.client]
    (connOpenConfirmMsg prove a (acked a b 0) (tried a b 0)) rfl rfl rfl ⟨rfl, rfl⟩ rfl h.ack.connection
  exact submit_changed (b := b.host.baseId) hexec ho rfl ⟨_, rfl, rfl⟩
    (List.forall_mem_cons.2 ⟨⟨_, rfl, rfl⟩, List.forall_mem_singleton.2 ⟨_, rfl, hb.own⟩⟩)

/-- The end that the confirmation expects has no delay period. -/
theorem delayPeriod_of_confirm {outs : List ContractState}
    (h : ShowsConnection P prove a b delayPeriod)
    (hs : submit P signers [.connection (tried a b delayPeriod)]
      [.host b.host.generateConnectionIdentifier.1, .client b.client]
      (.handleConnOpenConfirm
        (connOpenConfirmMsg prove a (acked a b delayPeriod) (tried a b delayPeriod))) = .ok outs) :
    delayPeriod = 0 := by
  obtain ⟨ctx', hexec, -⟩ := Result.bind_ok.1 hs
  obtain ⟨_, hexecutes, -⟩ := executes_of_ok hexec
  cases hexecutes with
  | connOpenConfirm hconn _ hclient _ hproof =>
    obtain rfl := Except.ok.inj hconn
    obtain rfl := Except.ok.inj hclient.ref
    exact congrArg Connection.ConnectionEnd.delayPeriod (h.ack.eq_end hproof)

theorem delayPeriod_of_open (ha : a.Tracks b) (hb : b.Tracks a)
    (hversion : version = none ∨ version = some VERSION)
    (h : ShowsConnection P prove a b delayPeriod) {x y : IbcConnection}
    (hopen : openConnection P signers prove a b version delayPeriod = .ok (x, y)) :
    delayPeriod = 0 := by
  unfold openConnection at hopen
  rw [tryConnection_eq ha hb hversion h, Result.ok_bind] at hopen
  obtain ⟨outs, hs, -⟩ := Result.bind_ok.1 hopen
  exact delayPeriod_of_confirm h hs

/-- The honest handshake of a connection completes exactly when there is no delay period. -/
theorem openConnection_iff (ha : a.Tracks b) (hb : b.Tracks a)
    (hversion : version = none ∨ version = some VERSION)
    (h : ShowsConnection P prove a b delayPeriod) :
    (∃ x y, openConnection P signers prove a b version delayPeriod = .ok (x, y) ∧
      Connected delayPeriod x y) ↔ delayPeriod = 0 := by
  constructor
  · rintro ⟨x, y, hopen, -⟩
    exact delayPeriod_of_open ha hb hversion h hopen
  · rintro rfl
    unfold openConnection
    rw [tryConnection_eq ha hb hversion h, Result.ok_bind]
    refine ⟨acked a b 0, (tried a b 0).confirmed, ?_, rfl, rfl, rfl, rfl, rfl, rfl, rfl⟩
    show (do
      let outs ← submit P signers [.connection (tried a b 0)]
        [.host b.host.generateConnectionIdentifier.1, .client b.client]
        (.handleConnOpenConfirm (connOpenConfirmMsg prove a (acked a b 0) (tried a b 0)))
      _) = _
    rw [submit_connOpenConfirm hb h]
    rfl

end

/-! ### A delay period -/

section
open Sample

/-- The hosts of both sides, each with its client. -/
def endpoint (s : Side) : Endpoint := ⟨{ host (number s) with nextClientSequence := 1 }, liveClientOf s⟩

/-- What the sides show. -/
def shownStates (delayPeriod : Long) : List (Side × ContractState) :=
  [(.left, .client (liveClientOf .left)), (.right, .client (liveClientOf .right)),
    (.left, .connection (hello (endpoint .left) (endpoint .right) delayPeriod)),
    (.right, .connection (tried (endpoint .left) (endpoint .right) delayPeriod)),
    (.left, .connection (acked (endpoint .left) (endpoint .right) delayPeriod))]

def samplePlatform (delayPeriod : Long) : Platform := netPlatform (shownStates delayPeriod) []

/-- The number of a state in the list. -/
def sampleProof (delayPeriod : Long) (s : ContractState) : Bytes :=
  [UInt8.ofNat (((shownStates delayPeriod).map Prod.snd).idxOf s)]

theorem endpoint_tracks (s : Side) : (endpoint s).Tracks (endpoint s.peer) := by
  cases s <;> exact ⟨rfl, ⟨_, rfl, rfl, rfl⟩, by decide⟩

/-- The number of a state proves it to the other side. -/
theorem shows_sample (delayPeriod : Long) (h : delayPeriod = 0 ∨ delayPeriod = 1) :
    ShowsConnection (samplePlatform delayPeriod) (sampleProof delayPeriod) (endpoint .left)
      (endpoint .right) delayPeriod := by
  rcases h with rfl | rfl <;> exact
    ⟨⟨_, ⟨[0], List.cons_ne_nil _ _⟩, rfl, by decide +kernel, by decide +kernel, by decide +kernel, _, rfl, rfl⟩,
      ⟨_, ⟨[2], List.cons_ne_nil _ _⟩, rfl, by decide +kernel, by decide +kernel, by decide +kernel, _, rfl, rfl⟩,
      ⟨_, ⟨[1], List.cons_ne_nil _ _⟩, rfl, by decide +kernel, by decide +kernel, by decide +kernel, _, rfl, rfl⟩,
      ⟨_, ⟨[3], List.cons_ne_nil _ _⟩, rfl, by decide +kernel, by decide +kernel, by decide +kernel, _, rfl, rfl⟩,
      ⟨_, ⟨[4], List.cons_ne_nil _ _⟩, rfl, by decide +kernel, by decide +kernel, by decide +kernel, _, rfl, rfl⟩⟩

/-- With a delay period, an honest handshake does not complete. -/
theorem connection_stuck : ∃ (P : Platform) (prove : ContractState → Bytes) (a b : Endpoint)
    (delayPeriod : Long), a.Tracks b ∧ b.Tracks a ∧ ShowsConnection P prove a b delayPeriod ∧
      ¬ ∃ x y, openConnection P [] prove a b none delayPeriod = .ok (x, y) := by
  refine ⟨samplePlatform 1, sampleProof 1, endpoint .left, endpoint .right, 1, endpoint_tracks _,
    endpoint_tracks _, shows_sample 1 (.inr rfl), ?_⟩
  rintro ⟨x, y, hopen⟩
  have hdelay := delayPeriod_of_open (endpoint_tracks .left) (endpoint_tracks .right) (.inl rfl)
    (shows_sample 1 (.inr rfl)) hopen
  exact absurd hdelay (by decide)

/-- Without one it does. -/
theorem connection_completes : ∃ x y, openConnection (samplePlatform 0) [] (sampleProof 0)
    (endpoint .left) (endpoint .right) (some VERSION) 0 = .ok (x, y) ∧ Connected 0 x y :=
  (openConnection_iff (endpoint_tracks .left) (endpoint_tracks .right) (.inr rfl)
    (shows_sample 0 (.inl rfl))).2 rfl

end

/-! ## Channels -/

/-- An endpoint has an open connection to the peer's, over its client. -/
structure Link.Joins (l peer : Link) (version : Connection.Version) : Prop where
  tracks : l.toEndpoint.Tracks peer.toEndpoint
  own : l.conn.baseId = l.host.baseId
  client : l.client.id.id = l.conn.end_.clientId
  opened : l.conn.end_.state = .opened
  names : l.conn.end_.counterparty.connectionId = peer.conn.id.id
  versions : l.conn.end_.versionsList = [version]

/-- What a channel is opened with. -/
structure ChannelTerms where
  portA : Identifier
  portB : Identifier
  ordering : ChannelOuterClass.Order
  versionA : String
  versionB : String

section
variable {P : Platform} {signers : List PublicKey} {prove : ContractState → Bytes} {a b : Link}
  {version : Connection.Version} {t : ChannelTerms}

/-- The channel that `a` offers. -/
def offered (a : Link) (t : ChannelTerms) : IbcChannel :=
  .create a.host t.portA a.host.generateChannelIdentifier.2
    { state := .init, ordering := t.ordering, counterparty := ⟨t.portB.id, ""⟩
      connectionHopsList := [a.conn.id.id], version := t.versionA }

/-- The channel that `b` tries. -/
def answered (a b : Link) (t : ChannelTerms) : IbcChannel :=
  .create b.host t.portB b.host.generateChannelIdentifier.2
    { state := .tryOpen, ordering := t.ordering, counterparty := ⟨t.portA.id, (offered a t).id.id⟩
      connectionHopsList := [b.conn.id.id], version := t.versionB }

/-- The channel that `a` acknowledges. -/
def settled (a b : Link) (t : ChannelTerms) : IbcChannel :=
  (offered a t).acked (answered a b t).id.id t.versionB

/-- The proofs of the life of a channel are honest. -/
structure ShowsChannel (P : Platform) (prove : ContractState → Bytes) (a b : Link)
    (t : ChannelTerms) : Prop where
  init : b.Sees P prove (offered a t)
  try_ : a.Sees P prove (answered a b t)
  ack : b.Sees P prove (settled a b t)
  close : b.Sees P prove ((settled a b t).withState .closed)

theorem submit_chanOpenInit (ha : a.Joins b version) (hordering : t.ordering.name ∈ version.featuresList) :
    submit P signers [.host a.host] [.connection a.conn]
      (.handleChanOpenInit (chanOpenInitMsg a.conn t.portA t.portB t.ordering t.versionA)) =
        .ok [.host a.host.generateChannelIdentifier.1, .channel (offered a t)] := by
  obtain ⟨ctx', hexec, ho⟩ := Handler.chanOpenInit_of [.host a.host] [.connection a.conn]
    (chanOpenInitMsg a.conn t.portA t.portB t.ordering t.versionA) t.portA rfl ⟨rfl, rfl⟩ ha.versions
    hordering rfl
  exact submit_created hexec ho rfl (List.forall_mem_singleton.2 ⟨_, rfl, ha.own⟩) ⟨_, rfl, rfl⟩

theorem submit_chanOpenTry (hb : b.Joins a version) (hordering : t.ordering.name ∈ version.featuresList)
    (h : ShowsChannel P prove a b t) :
    submit P signers [.host b.host] [.client b.client, .connection b.conn]
      (.handleChanOpenTry
        (chanOpenTryMsg prove a.toEndpoint (offered a t) b.conn t.portB t.versionB)) =
        .ok [.host b.host.generateChannelIdentifier.1, .channel (answered a b t)] := by
  have hproof := h.init.channel (q := b.conn.end_.counterparty.prefix_)
  have hend : (offered a t).end_ = (chanOpenTryMsg prove a.toEndpoint (offered a t) b.conn t.portB
      t.versionB).expected b.conn := by
    unfold MsgChannelOpenTry.expected
    rw [hb.names]
    rfl
  rw [hend] at hproof
  obtain ⟨ctx', hexec, ho⟩ := Handler.chanOpenTry_of [.host b.host]
    [.client b.client, .connection b.conn]
    (chanOpenTryMsg prove a.toEndpoint (offered a t) b.conn t.portB t.versionB) t.portB rfl ⟨rfl, rfl⟩
    ⟨rfl, hb.client⟩ rfl hb.opened hb.versions hordering hproof rfl
  exact submit_created hexec ho rfl
    (List.forall_mem_cons.2 ⟨⟨_, rfl, hb.tracks.own⟩, List.forall_mem_singleton.2 ⟨_, rfl, hb.own⟩⟩)
    ⟨_, rfl, rfl⟩

/-- What a datagram of a channel references. -/
theorem Link.Joins.references (h : a.Joins b version) {host : Host}
    (hhost : host.baseId = a.host.baseId) :
    ∀ s ∈ [ContractState.host host, .client a.client, .connection a.conn],
      ∃ i, s.ibc? = some i ∧ i.baseId = a.host.baseId :=
  List.forall_mem_cons.2 ⟨⟨_, rfl, hhost⟩,
    List.forall_mem_cons.2 ⟨⟨_, rfl, h.tracks.own⟩, List.forall_mem_singleton.2 ⟨_, rfl, h.own⟩⟩⟩

theorem submit_chanOpenAck (ha : a.Joins b version) (h : ShowsChannel P prove a b t) :
    submit P signers [.channel (offered a t)]
      [.host a.host.generateChannelIdentifier.1, .client a.client, .connection a.conn]
      (.handleChanOpenAck (chanOpenAckMsg prove b.toEndpoint (offered a t) (answered a b t))) =
        .ok [.channel (settled a b t)] := by
  have hproof := h.try_.channel (q := a.conn.end_.counterparty.prefix_)
  have hend : (answered a b t).end_ = (offered a t).expected a.conn .tryOpen t.versionB := by
    unfold IbcChannel.expected
    rw [ha.names]
    rfl
  rw [hend] at hproof
  obtain ⟨ctx', hexec, ho⟩ := Handler.chanOpenAck_of [.channel (offered a t)]
    [.host a.host.generateChannelIdentifier.1, .client a.client, .connection a.conn] rfl rfl
    ⟨rfl, rfl⟩ ha.opened (chanOpenAckMsg prove b.toEndpoint (offered a t) (answered a b t)) rfl rfl ⟨rfl, ha.client⟩ (.inl rfl) hproof
  exact submit_changed (b := a.host.baseId) hexec ho rfl ⟨_, rfl, rfl⟩ (ha.references rfl)

theorem submit_chanOpenConfirm (hb : b.Joins a version) (h : ShowsChannel P prove a b t) :
    submit P signers [.channel (answered a b t)]
      [.host b.host.generateChannelIdentifier.1, .client b.client, .connection b.conn]
      (.handleChanOpenConfirm (chanOpenConfirmMsg prove a.toEndpoint (settled a b t)
        (answered a b t))) = .ok [.channel ((answered a b t).withState .opened)] := by
  have hproof := h.ack.channel (q := b.conn.end_.counterparty.prefix_)
  have hend : (settled a b t).end_ = (answered a b t).expected b.conn .opened t.versionB := by
    unfold IbcChannel.expected
    rw [hb.names]
    rfl
  rw [hend] at hproof
  obtain ⟨ctx', hexec, ho⟩ := Handler.chanOpenConfirm_of [.channel (answered a b t)]
    [.host b.host.generateChannelIdentifier.1, .client b.client, .connection b.conn] rfl rfl
    ⟨rfl, rfl⟩ hb.opened
    (chanOpenConfirmMsg prove a.toEndpoint (settled a b t) (answered a b t)) rfl rfl ⟨rfl, hb.client⟩ rfl hproof
  exact submit_changed (b := b.host.baseId) hexec ho rfl ⟨_, rfl, rfl⟩ (hb.references rfl)

theorem submit_chanCloseInit (ha : a.Joins b version) :
    submit P signers [.channel (settled a b t)]
      [.host a.host.generateChannelIdentifier.1, .connection a.conn]
      (.handleChanCloseInit (chanCloseInitMsg (settled a b t))) =
        .ok [.channel ((settled a b t).withState .closed)] := by
  obtain ⟨ctx', hexec, ho⟩ := Handler.chanCloseInit_of [.channel (settled a b t)]
    [.host a.host.generateChannelIdentifier.1, .connection a.conn] rfl rfl ⟨rfl, rfl⟩ ha.opened
    (chanCloseInitMsg (settled a b t)) rfl rfl nofun
  exact submit_changed (b := a.host.baseId) hexec ho rfl ⟨_, rfl, rfl⟩
    (List.forall_mem_cons.2 ⟨⟨_, rfl, rfl⟩, List.forall_mem_singleton.2 ⟨_, rfl, ha.own⟩⟩)

theorem submit_chanCloseConfirm (hb : b.Joins a version) (h : ShowsChannel P prove a b t) :
    submit P signers [.channel ((answered a b t).withState .opened)]
      [.host b.host.generateChannelIdentifier.1, .client b.client, .connection b.conn]
      (.handleChanCloseConfirm (chanCloseConfirmMsg prove a.toEndpoint
        ((settled a b t).withState .closed) ((answered a b t).withState .opened))) =
        .ok [.channel (((answered a b t).withState .opened).withState .closed)] := by
  have hproof := h.close.channel (q := b.conn.end_.counterparty.prefix_)
  have hend : ((settled a b t).withState .closed).end_ =
      ((answered a b t).withState .opened).expected b.conn .closed t.versionB := by
    unfold IbcChannel.expected
    rw [hb.names]
    rfl
  rw [hend] at hproof
  obtain ⟨ctx', hexec, ho⟩ := Handler.chanCloseConfirm_of
    [.channel ((answered a b t).withState .opened)]
    [.host b.host.generateChannelIdentifier.1, .client b.client, .connection b.conn] rfl rfl
    ⟨rfl, rfl⟩ hb.opened
    (chanCloseConfirmMsg prove a.toEndpoint ((settled a b t).withState .closed)
      ((answered a b t).withState .opened)) rfl rfl ⟨rfl, hb.client⟩ nofun
    hproof
  exact submit_changed (b := b.host.baseId) hexec ho rfl ⟨_, rfl, rfl⟩ (hb.references rfl)

/-- Two channels are in a state, name each other and have the version. -/
structure Paired (phase : ChannelOuterClass.State) (v : String) (x y : IbcChannel) : Prop where
  state : x.end_.state = phase
  state' : y.end_.state = phase
  names : x.Names y
  names' : y.Names x
  version : x.end_.version = v
  version' : y.end_.version = v

theorem openChannel_eq (ha : a.Joins b version) (hb : b.Joins a version)
    (hordering : t.ordering.name ∈ version.featuresList) (h : ShowsChannel P prove a b t) :
    openChannel P signers prove a b t.portA t.portB t.ordering t.versionA t.versionB =
      .ok ((a.host.generateChannelIdentifier.1, settled a b t), b.host.generateChannelIdentifier.1,
        (answered a b t).withState .opened) := by
  unfold openChannel
  rw [submit_chanOpenInit ha hordering]
  show (do
    let outs ← submit P signers [.host b.host] [.client b.client, .connection b.conn]
      (.handleChanOpenTry (chanOpenTryMsg prove a.toEndpoint (offered a t) b.conn t.portB t.versionB))
    _) = _
  rw [submit_chanOpenTry hb hordering h]
  show (do
    let outs ← submit P signers [.channel (offered a t)]
      [.host a.host.generateChannelIdentifier.1, .client a.client, .connection a.conn]
      (.handleChanOpenAck (chanOpenAckMsg prove b.toEndpoint (offered a t) (answered a b t)))
    _) = _
  rw [submit_chanOpenAck ha h]
  show (do
    let outs ← submit P signers [.channel (answered a b t)]
      [.host b.host.generateChannelIdentifier.1, .client b.client, .connection b.conn]
      (.handleChanOpenConfirm (chanOpenConfirmMsg prove a.toEndpoint (settled a b t)
        (answered a b t)))
    _) = _
  rw [submit_chanOpenConfirm hb h]
  rfl

theorem closeChannel_eq (ha : a.Joins b version) (hb : b.Joins a version)
    (h : ShowsChannel P prove a b t) :
    closeChannel P signers prove a b a.host.generateChannelIdentifier.1
      b.host.generateChannelIdentifier.1 (settled a b t) ((answered a b t).withState .opened) =
      .ok ((settled a b t).withState .closed,
        ((answered a b t).withState .opened).withState .closed) := by
  unfold closeChannel
  rw [submit_chanCloseInit ha]
  show (do
    let outs ← submit P signers [.channel ((answered a b t).withState .opened)]
      [.host b.host.generateChannelIdentifier.1, .client b.client, .connection b.conn]
      (.handleChanCloseConfirm (chanCloseConfirmMsg prove a.toEndpoint
        ((settled a b t).withState .closed) ((answered a b t).withState .opened)))
    _) = _
  rw [submit_chanCloseConfirm hb h]
  rfl

/-- Over an open connection, an honest relayer can open a channel and close it again. -/
theorem channel_opens_and_closes (ha : a.Joins b version) (hb : b.Joins a version)
    (hordering : t.ordering.name ∈ version.featuresList) (h : ShowsChannel P prove a b t) :
    ∃ hostA hostB x y,
      openChannel P signers prove a b t.portA t.portB t.ordering t.versionA t.versionB =
        .ok ((hostA, x), hostB, y) ∧ Paired .opened t.versionB x y ∧
      ∃ x' y', closeChannel P signers prove a b hostA hostB x y = .ok (x', y') ∧
        Paired .closed t.versionB x' y' :=
  ⟨_, _, _, _, openChannel_eq ha hb hordering h, ⟨rfl, rfl, ⟨rfl, rfl⟩, ⟨rfl, rfl⟩, rfl, rfl⟩, _, _,
    closeChannel_eq ha hb h, ⟨rfl, rfl, ⟨rfl, rfl⟩, ⟨rfl, rfl⟩, rfl, rfl⟩⟩

end

/-! ### A channel -/

section
open Sample

def link (s : Side) : Link := ⟨endpoint s, connectionOf s .opened "connection-0"⟩

def sampleTerms : ChannelTerms :=
  { portA := ⟨"nop", by decide⟩, portB := transferPort, ordering := .ordered
    versionA := "CHANNEL_VERSION_A", versionB := "CHANNEL_VERSION_B" }

def shownChannels : List (Side × ContractState) :=
  [(.left, .channel (offered (link .left) sampleTerms)),
    (.right, .channel (answered (link .left) (link .right) sampleTerms)),
    (.left, .channel (settled (link .left) (link .right) sampleTerms)),
    (.left, .channel ((settled (link .left) (link .right) sampleTerms).withState .closed))]

def channelProof (s : ContractState) : Bytes :=
  [UInt8.ofNat ((shownChannels.map Prod.snd).idxOf s)]

theorem link_joins (s : Side) : (link s).Joins (link s.peer) VERSION := by
  cases s <;> exact ⟨endpoint_tracks _, rfl, rfl, rfl, rfl, rfl⟩

theorem shows_channel : ShowsChannel (netPlatform shownChannels []) channelProof (link .left)
    (link .right) sampleTerms :=
  ⟨⟨_, ⟨[0], List.cons_ne_nil _ _⟩, rfl, by decide +kernel, by decide +kernel, by decide +kernel, _, rfl, rfl⟩,
    ⟨_, ⟨[1], List.cons_ne_nil _ _⟩, rfl, by decide +kernel, by decide +kernel, by decide +kernel, _, rfl, rfl⟩,
    ⟨_, ⟨[2], List.cons_ne_nil _ _⟩, rfl, by decide +kernel, by decide +kernel, by decide +kernel, _, rfl, rfl⟩,
    ⟨_, ⟨[3], List.cons_ne_nil _ _⟩, rfl, by decide +kernel, by decide +kernel, by decide +kernel, _, rfl, rfl⟩⟩

/-- An ordered channel between two ports, with two versions. -/
theorem channel_opens_and_closes_ordered : ∃ hostA hostB x y,
    openChannel (netPlatform shownChannels []) [] channelProof (link .left) (link .right)
      sampleTerms.portA sampleTerms.portB sampleTerms.ordering sampleTerms.versionA
      sampleTerms.versionB = .ok ((hostA, x), hostB, y) ∧ Paired .opened "CHANNEL_VERSION_B" x y ∧
    ∃ x' y', closeChannel (netPlatform shownChannels []) [] channelProof (link .left) (link .right)
      hostA hostB x y = .ok (x', y') ∧ Paired .closed "CHANNEL_VERSION_B" x' y' :=
  channel_opens_and_closes (link_joins .left) (link_joins .right) (by decide) shows_channel

end

end Relay

end CordaIbc
