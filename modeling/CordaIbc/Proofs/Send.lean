import CordaIbc.Proofs.Linked
import CordaIbc.Proofs.Vouchers

/-!
# Sending over an open channel

A host that has the states of an open transfer channel can build the transaction of a transfer as
soon as the bank can be debited and the client lets the timeouts pass (`Chain.Ready.exists_sent`).
The clients of a host are numbered by their types (`Chain.CordaIds`), and each tells the height and
the time it last saw (`Chain.Reporting`), so that a packet without timeouts always passes.
-/

namespace CordaIbc

open ChannelOuterClass (Packet)
open ContractState

/-! ## The clients of a host -/

/-- The light-client service tells the height of a client state that was just created. -/
def Platform.ReportsLatest (P : Platform) : Prop :=
  ∀ anyClientState anyConsensusState s,
    FabricClientState.create P anyClientState anyConsensusState = .ok s →
    P.fabric.getLatestHeight s = P.fabric.latestHeightOf anyClientState

namespace FabricClientState
variable {P : Platform} {s : FabricClientState} {height : Height} {any : Any}

theorem of_ok {states : Finmap fun _ : Height => Any} (h : of P any states = .ok s) :
    s.anyConsensusStates = states ∧
      ∀ h any, states.lookup h = some any → (P.fabric.unpackConsensusState any).isOk = true := by
  simp only [of, Result.bind_ok, require_ok, Except.ok.injEq] at h
  obtain ⟨-, hall, -, -, rfl⟩ := h
  exact ⟨rfl, Finmap.all_iff.1 hall⟩

theorem exists_timestampAt (h : (P.fabric.unpackConsensusState any).isOk = true)
    (hl : s.anyConsensusStates.lookup height = some any) :
    ∃ time, s.timestampAt P height = .ok time := by
  simp only [timestampAt, hl, notNull, Result.ok_bind]
  cases hu : P.fabric.unpackConsensusState any with
  | ok time => exact ⟨time, rfl⟩
  | error e =>
    rw [hu] at h
    cases h

end FabricClientState

/-- The client tells the latest height it knows, and with Fabric the time then. -/
def ClientState.Reports (P : Platform) (state : ClientState) : Prop :=
  ∃ height, state.getLatestHeight P = .ok height ∧
    ∀ s, state = .fabric s → ∃ time, s.timestampAt P height = .ok time

namespace ClientState
variable {P : Platform} {state : ClientState}

theorem reports_of_create {factory : ClientStateFactory} {anyClientState anyConsensusState : Any}
    (hlatest : P.ReportsLatest)
    (h : factory.createClientState P anyClientState anyConsensusState = .ok state) :
    state.Reports P := by
  cases factory with
  | corda =>
    obtain ⟨s, -, rfl⟩ := Result.map_ok.1 h
    exact ⟨HEIGHT, rfl, nofun⟩
  | fabric =>
    obtain ⟨s, hs, rfl⟩ := Result.map_ok.1 h
    have hheight := hlatest _ _ _ hs
    obtain ⟨height, hlast, hof⟩ := Result.bind_ok.1 hs
    obtain ⟨hstates, hall⟩ := FabricClientState.of_ok hof
    refine ⟨height, hheight.trans hlast, fun s' hs' => ?_⟩
    obtain rfl : s = s' := by injection hs'
    have hl : s.anyConsensusStates.lookup height = some anyConsensusState := by
      rw [hstates, Finmap.lookup_insert]
    exact FabricClientState.exists_timestampAt (hall _ _ (hstates ▸ hl)) hl

theorem reports_of_update {result : ClientState} {header : Header}
    (h : state.checkHeaderAndUpdateState P header = .ok result) : result.Reports P := by
  unfold checkHeaderAndUpdateState at h
  split at h
  · cases h
  · obtain ⟨s, hs, rfl⟩ := Result.map_ok.1 h
    simp only [FabricClientState.checkHeaderAndUpdateState, Result.bind_ok, Except.ok.injEq] at hs
    obtain ⟨⟨any, states⟩, -, s', hof, height, hheight, _, hlast, rfl⟩ := hs
    obtain ⟨hstates, hall⟩ := FabricClientState.of_ok hof
    refine ⟨height, hheight, fun s'' hs'' => ?_⟩
    obtain rfl : s' = s'' := by injection hs''
    have hl := notNull_ok.1 hlast
    exact FabricClientState.exists_timestampAt (hall _ _ (hstates ▸ hl)) hl

end ClientState

namespace Chain

/-- The Corda clients of a chain are numbered as such. -/
def CordaIds (c : Chain) : Prop :=
  ∀ i client cs, c.states.lookup i = some (.client client) → client.impl = .corda cs →
    ∃ n, client.id = Host.clientIdentifier .cordaClient n

/-- The clients of a chain tell what they last saw. -/
def Reporting (P : Platform) (c : Chain) : Prop :=
  ∀ i client, c.states.lookup i = some (.client client) → client.impl.Reports P

section
variable {P : Platform} {c : Chain} {tx : LedgerTransaction} {outs : List ContractState}
  {tr : List LedgerTransaction}

/-- A client is created, or updated from one that is there. -/
theorem Effect.client_cases (h : Effect P c tx outs) {client : IbcClientState}
    (hm : ContractState.client client ∈ outs) :
    (∃ host state type msg, Host.createClientState P host (msg : MsgCreateClient).clientState
        msg.consensusState = .ok state ∧ state.clientType P = .ok type ∧
      client = .create host (host.generateClientIdentifier type).2 state) ∨
    ∃ prev result header, prev.impl.checkHeaderAndUpdateState P header = .ok result ∧
      client = IbcClientState.update prev result := by
  cases h with
  | addBank _ _ hbank => rcases hbank with rfl | ⟨_, rfl⟩ <;> simp at hm
  | fund => simp at hm
  | datagram _ _ _ hexec =>
    cases hexec with
    | connOpenInit | connOpenTry | connOpenAck | connOpenConfirm | chanOpenInit | chanOpenTry
    | chanOpenTryPrevious | chanOpenAck | chanOpenConfirm | chanCloseInit | chanCloseConfirm =>
      simp at hm
    | sendPacket _ _ heffect => exact absurd hm heffect.bankOuts.client_notMem
    | recvPacket _ _ _ heffect => exact absurd hm heffect.bankOuts.client_notMem
    | acknowledgePacket _ _ _ _ heffect => exact absurd hm heffect.bankOuts.client_notMem
    | @createClient msg host state type _ hstate htype =>
      exact .inl ⟨host, state, type, msg, hstate, htype, by simpa using hm⟩
    | @updateClient _ header prev result _ _ hresult =>
      exact .inr ⟨prev, result, header, hresult, by simpa using hm⟩

theorem CordaIds.apply (h : c.CordaIds) (ht : Takes P c tx outs) : (c.apply tx).CordaIds := by
  intro i client cs hl himpl
  rcases ht.lookup_cases hl with ⟨hm, -⟩ | ⟨-, hcur⟩
  · rcases ht.effect.client_cases hm with
      ⟨host, state, type, msg, -, htype, rfl⟩ | ⟨prev, result, header, hresult, rfl⟩
    · obtain rfl : state = .corda cs := himpl
      cases htype
      exact ⟨_, rfl⟩
    · obtain rfl : result = .corda cs := himpl
      -- only a Fabric client is ever updated, and it stays one
      unfold ClientState.checkHeaderAndUpdateState at hresult
      split at hresult
      · cases hresult
      · obtain ⟨_, -, hr⟩ := Result.map_ok.1 hresult
        cases hr
  · exact h i client cs hcur himpl

theorem CordaIds.run {ok : Chain → LedgerTransaction → Prop} {c₀ : Chain} (h₀ : c₀.Start)
    (hr : Run (Step P ok) c₀ tr c) : c.CordaIds := by
  refine hr.invariant (I := fun _ c => c.CordaIds) ?_ ?_
  · obtain ⟨_, _, _, _, _, host, -, rfl⟩ := h₀
    intro i client cs hl
    cases (lookup_ofHost hl).2
  · rintro tr c tx c' - h ⟨-, hc⟩
    obtain ⟨rfl, outs, ht⟩ := commit_ok hc
    exact h.apply ht

theorem Reporting.apply (hlatest : P.ReportsLatest) (h : c.Reporting P) (ht : Takes P c tx outs) :
    (c.apply tx).Reporting P := by
  intro i client hl
  rcases ht.lookup_cases hl with ⟨hm, -⟩ | ⟨-, hcur⟩
  · rcases ht.effect.client_cases hm with
      ⟨host, state, type, msg, hstate, -, rfl⟩ | ⟨prev, result, header, hresult, rfl⟩
    · obtain ⟨factory, -, hcreate⟩ := Result.bind_ok.1 hstate
      exact ClientState.reports_of_create hlatest hcreate
    · exact ClientState.reports_of_update hresult
  · exact h i client hcur

theorem Reporting.run (hlatest : P.ReportsLatest) {ok : Chain → LedgerTransaction → Prop} {c₀ : Chain}
    (h₀ : c₀.Start) (hr : Run (Step P ok) c₀ tr c) : c.Reporting P := by
  refine hr.invariant (I := fun _ c => c.Reporting P) ?_ ?_
  · obtain ⟨_, _, _, _, _, host, -, rfl⟩ := h₀
    intro i client hl
    cases (lookup_ofHost hl).2
  · rintro tr c tx c' - h ⟨-, hc⟩
    obtain ⟨rfl, outs, ht⟩ := commit_ok hc
    exact h.apply hlatest ht

end

end Chain

/-! ## The handler -/

namespace Handler
variable {P : Platform} {ctx : Context} {host : Host} {chan : IbcChannel} {conn : IbcConnection}
  {client : IbcClientState} {packet : Packet} {height : Height}

/-- A client that keeps timestamps has to tell one, and lets a packet without timeout pass. -/
theorem checkTimestamp_ok {t : ClientType} {n : Nat} {id : String}
    (hclient : client.id = Host.clientIdentifier t n) (hid : client.id.id = id) (hn : n < 2 ^ 63)
    (htime : t ≠ .cordaClient →
      packet.timeoutTimestamp = 0 ∧ ∃ time, client.impl.timestampAt P height = .ok time) :
    sendPacket.checkTimestamp P host client id height packet = .ok () := by
  have hof : Identifier.of id = .ok (Host.clientIdentifier t n) :=
    Identifier.of_ok.2 (hclient ▸ hid)
  simp only [sendPacket.checkTimestamp, hof, Host.parseClientIdentifier_clientIdentifier host hn,
    Result.ok_bind]
  split
  · rename_i htype
    obtain ⟨hzero, time, htime⟩ := htime htype.2
    simp only [htime, Result.ok_bind, require_ok]
    exact .inl hzero
  · rfl

/-- A packet for the counterparty of a channel that is not closed is accepted. -/
theorem exists_sendPacket (hhost : ctx.getReference Host = .ok host)
    (hchan : ctx.getInput IbcChannel = .ok chan) (hconn : ctx.getReference IbcConnection = .ok conn)
    (hhops : chan.end_.connectionHopsList = [conn.id.id])
    (hclient : ctx.getReference IbcClientState = .ok client)
    (hid : client.id.id = conn.end_.clientId) (hopen : chan.end_.state ≠ .closed)
    (hport : chan.portId.id = packet.sourcePort) (hchannel : chan.id.id = packet.sourceChannel)
    (hdestPort : packet.destinationPort = chan.end_.counterparty.portId)
    (hdestChannel : packet.destinationChannel = chan.end_.counterparty.channelId)
    (hheight : client.impl.getLatestHeight P = .ok height)
    (htimeout : packet.timeoutHeight.isZero = true ∨ height.lt packet.timeoutHeight = true)
    (htimestamp : sendPacket.checkTimestamp P host client conn.end_.clientId height packet = .ok ())
    (hsequence : packet.sequence = chan.nextSequenceSend)
    (hno : ∀ chan', ContractState.channel chan' ∉ ctx.outStates.states) :
    ∃ ctx', sendPacket P ctx packet = .ok ctx' ∧
      Context.Outputs ctx [.channel (chan.sent packet)] ctx' := by
  obtain ⟨ctx', hadd⟩ : ∃ ctx', ctx.addOutput (chan.sent packet) = .ok ctx' :=
    Context.exists_addOutput hno
  refine ⟨ctx', ?_, (Context.addOutput_ibc rfl hadd).2⟩
  simp only [sendPacket, Result.bind_ok, require_ok, requireId_ok, single_ok]
  exact ⟨host, hhost, chan, hchan, (), hport, (), hchannel, conn, hconn, conn.id.id, hhops, (), rfl,
    client, hclient, (), hid, (), hopen, (), hdestPort, (), hdestChannel, height, hheight, (),
    htimeout, (), htimestamp, (), hsequence, hadd⟩

end Handler

/-! ## The transaction of a transfer -/

namespace Chain

/-- The current states of an open transfer channel. -/
structure Ready (c : Chain) (bank : Bank) (chan : IbcChannel) (host : Host) (conn : IbcConnection)
    (client : IbcClientState) : Prop where
  currentHost : c.states.lookup hostId = some (.host host)
  currentBank : c.states.lookup bankId = some (.bank bank)
  currentChannel : c.states.lookup chan.id = some (.channel chan)
  currentConnection : c.states.lookup conn.id = some (.connection conn)
  currentClient : c.states.lookup client.id = some (.client client)
  port : c.module? chan.portId = some .ics20
  opened : chan.end_.state = .opened
  hops : chan.end_.connectionHopsList = [conn.id.id]
  clientId : client.id.id = conn.end_.clientId

section
variable {P : Platform} {c : Chain} {bank bank' : Bank} {chan : IbcChannel} {host : Host}
  {conn : IbcConnection} {client : IbcClientState}

theorem Linked.exists_ready (h : c.Linked) (hi : c.Inv)
    (hbank : c.states.lookup bankId = some (.bank bank))
    (hchan : c.states.lookup chan.id = some (.channel chan)) (hopen : chan.end_.state = .opened)
    (hport : c.module? chan.portId = some .ics20) :
    ∃ host conn client, c.Ready bank chan host conn client ∧
      ∃ t, ∃ n < host.nextClientSequence, client.id = Host.clientIdentifier t n := by
  obtain ⟨host, hhost, howns⟩ := hi.owned
  obtain ⟨conn, hconn, hhops, -⟩ := h.channel _ chan hchan hopen
  obtain ⟨client, hclient, hid⟩ := h.connection _ conn hconn
  exact ⟨host, conn, client, ⟨hhost, hbank, hchan, hconn, hclient, hport, hopen, hhops, hid⟩,
    howns _ _ hclient⟩

/-- A transfer goes through once the bank is debited and the timeouts pass. -/
theorem Ready.exists_sent (h : c.Ready bank chan host conn client) {anyMsg : Any} {msg : MsgTransfer}
    {d : Denom} {x : Int} {sender : Address} {height : Height}
    (hmsg : P.unpackMsgTransfer anyMsg = .ok msg) (hport : chan.portId.id = msg.sourcePort)
    (hchannel : chan.id.id = msg.sourceChannel)
    (htoken : Ics20.resolveToken bank msg.token.denom = .ok d)
    (hamount : toBigInteger msg.token.amount = .ok x)
    (hsender : Address.fromBech32 P.toCrypto msg.sender = .ok sender)
    (hdebit : Ics20.debit bank (!d.hasPrefix chan.portId chan.id) sender d x = .ok bank')
    (hheight : client.impl.getLatestHeight P = .ok height)
    (htimeout : msg.timeoutHeight.isZero = true ∨ height.lt msg.timeoutHeight = true)
    (htimestamp : Handler.sendPacket.checkTimestamp P host client conn.end_.clientId height
      (Ics20.transferPacket P msg d chan) = .ok ()) (signers : List PublicKey) :
    ∃ ins refs ctx', (∀ t ∈ ins ++ refs, ∀ i, t.id? = some i → c.states.lookup i = some t) ∧
      (DatagramHandler.createOutgoingPacket anyMsg).execute P (.create ins refs) signers = .ok ctx' ∧
      ctx'.outStates.states =
        [.bank bank', .channel (chan.sent (Ics20.transferPacket P msg d chan))] := by
  let ctx : Context :=
    .create [.bank bank, .channel chan] [.host host, .connection conn, .client client]
  obtain ⟨ctx₁, hadd⟩ : ∃ ctx₁, ctx.addOutput bank' = .ok ctx₁ :=
    Context.exists_addOutput fun t hm => by cases hm
  have houts := (Context.addOutput_ibc rfl hadd).2
  have hchan : ctx₁.getInput IbcChannel = .ok chan := houts.getInput _
  have hno : ∀ chan', ContractState.channel chan' ∉ ctx₁.outStates.states := by
    intro chan' hm
    rw [houts.outStates] at hm
    cases List.mem_singleton.1 hm
  obtain ⟨ctx', hsend, houts'⟩ : ∃ ctx', Handler.sendPacket P ctx₁
      (Ics20.transferPacket P msg d chan) = .ok ctx' ∧
      Context.Outputs ctx₁ [.channel (chan.sent (Ics20.transferPacket P msg d chan))] ctx' :=
    Handler.exists_sendPacket ((houts.getReference Host).trans rfl) hchan
      ((houts.getReference IbcConnection).trans rfl) h.hops
      ((houts.getReference IbcClientState).trans rfl) h.clientId (by rw [h.opened]; exact nofun)
      hport hchannel rfl rfl hheight htimeout htimestamp rfl hno
  refine ⟨[.bank bank, .channel chan], [.host host, .connection conn, .client client], ctx', ?_, ?_,
    ?_⟩
  · intro t hm i hi
    simp only [List.cons_append, List.nil_append, List.mem_cons, List.not_mem_nil, or_false] at hm
    rcases hm with rfl | rfl | rfl | rfl | rfl <;> cases hi
    · exact h.currentBank
    · exact h.currentChannel
    · exact h.currentHost
    · exact h.currentConnection
    · exact h.currentClient
  · have hmodule : host.lookupModule chan.portId = .ok .ics20 := by
      have hport := h.port
      rw [Chain.module?, h.currentHost] at hport
      exact notNull_ok.2 hport
    simp only [DatagramHandler.execute, Datagram.outgoingPacket, Result.bind_ok]
    refine ⟨host, rfl, chan, rfl, .ics20, hmodule, ?_⟩
    simp only [Module.createOutgoingPacket, Ics20.createOutgoingPacket, Result.bind_ok,
      Identifier.of_ok]
    exact ⟨msg, hmsg, x, hamount, sender, hsender, chan.portId, hport, chan.id, hchannel, bank, rfl,
      d, htoken, bank', hdebit, ctx₁, hadd, chan, hchan, hsend⟩
  · rw [houts'.outStates, houts.outStates]
    rfl

end

end Chain

end CordaIbc
