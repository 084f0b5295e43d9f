import CordaIbc.Proofs.Concurrency

/-!
# Flows as if they ran at once

All that a flow reads is in its transaction, so the notary refuses the transaction once anything that
the flow read has changed. A flow that ends has therefore built what it would build on the ledger it
ends on (`Nodes.serial_run`): runs of overlapping flows are runs of flows that read and end at one
time. Only the choice of coins may differ, which depends on all coins of the node.
-/

namespace CordaIbc

open ChannelOuterClass (Packet)
open StateClass ContractState

/-- A vault that finds again what was read. -/
structure ServiceHub.Replays (C : Crypto) (hub hub' : ServiceHub) (reads : List StateAndRef) :
    Prop where
  ourIdentity : hub'.ourIdentity = hub.ourIdentity
  notaryIdentities : hub'.notaryIdentities = hub.notaryIdentities
  genesis : ∀ b found, hub.queryIbcGenesis b = some found → found.stateAndRef ∈ reads →
    hub'.queryIbcGenesis b = some found
  linear : ∀ {T : Type} [StateClass T] {i : Identifier}, Named T i → ∀ b (found : Found T),
    singleOrNull (hub.queryLinear T b) = some found → found.stateAndRef ∈ reads →
    singleOrNull (hub'.queryLinear T b) = some found
  state : ∀ {T : Type} [StateClass T], Keyed T → ∀ b i (found : Found T),
    hub.queryIbcState C T b i = some found → found.stateAndRef ∈ reads →
    hub'.queryIbcState C T b i = some found

/-- The transaction spends no coins. -/
def TransactionBuilder.NoCoins (builder : TransactionBuilder) : Prop :=
  ∀ s ∈ builder.inputs, (∀ c, s.state.data ≠ .cash c) ∧ ∀ v, s.state.data ≠ .voucher v

theorem ServiceHub.built_of_addDatagram {P : Platform} {hub : ServiceHub}
    {builder₀ builder : TransactionBuilder} {handler : DatagramHandler} {inputs refs : List StateAndRef}
    (hnew : hub.newBuilder = .ok builder₀)
    (h : hub.addDatagram P builder₀ handler inputs refs = .ok builder) :
    builder.Built P hub handler inputs refs := by
  have h : hub.addDatagram P { builder₀ with commands := builder₀.commands ++ [] } handler inputs refs
      = .ok builder := by rwa [List.append_nil]
  exact addDatagram_new hnew (fun _ hc => absurd hc List.not_mem_nil) h

namespace ServiceHub.Replays

section
variable {P : Platform} {hub hub' : ServiceHub} {reads : List StateAndRef}
  (h : Replays P.toCrypto hub hub' reads) {b : StateRef} {id : String}
include h

theorem newBuilder : hub'.newBuilder = hub.newBuilder := by
  rw [ServiceHub.newBuilder, ServiceHub.newBuilder, h.notaryIdentities]

theorem requireParticipant (participants : List AbstractParty) :
    hub'.requireParticipant participants = hub.requireParticipant participants := by
  rw [ServiceHub.requireParticipant, ServiceHub.requireParticipant, h.ourIdentity]

theorem addDatagram (builder : TransactionBuilder) (handler : DatagramHandler)
    (inputs refs : List StateAndRef) : hub'.addDatagram P builder handler inputs refs =
      hub.addDatagram P builder handler inputs refs := by
  rw [ServiceHub.addDatagram, ServiceHub.addDatagram, h.ourIdentity]

theorem addMisc (builder : TransactionBuilder) (command : MiscCommands) (inputs : List StateAndRef)
    (outputs : List ContractState) : hub'.addMisc builder command inputs outputs =
      hub.addMisc builder command inputs outputs := by
  rw [ServiceHub.addMisc, ServiceHub.addMisc, h.ourIdentity]

theorem hostOf {host : Found Host} (hq : hub.hostOf b = .ok host)
    (hr : host.stateAndRef ∈ reads) : hub'.hostOf b = .ok host := by
  simp only [ServiceHub.hostOf, Result.bind_ok, notNull_ok, Except.ok.injEq] at hq ⊢
  obtain ⟨host, hq, u, hour, rfl⟩ := hq
  exact ⟨host, h.linear named_host b host hq hr, u, by rwa [h.requireParticipant], rfl⟩

theorem stateOf {T : Type} [StateClass T] (hT : Keyed T) {found : Found T}
    (hq : hub.stateOf P T b id = .ok found) (hr : found.stateAndRef ∈ reads) :
    hub'.stateOf P T b id = .ok found := by
  simp only [ServiceHub.stateOf, Result.bind_ok, notNull_ok] at hq ⊢
  obtain ⟨i, hi, hq⟩ := hq
  exact ⟨i, hi, h.state hT b i found hq hr⟩

/-- A state that was not found is not found again if none was asked for. -/
theorem stateOrNull {T : Type} [StateClass T] (hT : Keyed T) {state : Option (Found T)}
    (hq : hub.stateOrNull P T b id = .ok state) (hsome : id ≠ "" → ∃ found, state = some found)
    (hr : ∀ found ∈ state, found.stateAndRef ∈ reads) : hub'.stateOrNull P T b id = .ok state := by
  unfold ServiceHub.stateOrNull at hq ⊢
  split at hq
  · rename_i hid
    rw [if_pos hid]
    obtain ⟨found, rfl⟩ := hsome hid
    simp only [Result.bind_ok, Except.ok.injEq] at hq ⊢
    obtain ⟨i, hi, hq⟩ := hq
    exact ⟨i, hi, h.state hT b i found hq (hr found rfl)⟩
  · rename_i hid
    rwa [if_neg hid]

theorem connOf {hops : List String} {conn : Found IbcConnection}
    (hq : hub.connOf P b hops = .ok conn) (hr : conn.stateAndRef ∈ reads) :
    hub'.connOf P b hops = .ok conn := by
  simp only [ServiceHub.connOf, Result.bind_ok] at hq ⊢
  obtain ⟨hop, hhop, hq⟩ := hq
  exact ⟨hop, hhop, h.stateOf keyed_connection hq hr⟩

theorem channelOf {chan : Found IbcChannel} {conn : Found IbcConnection}
    {client : Found IbcClientState} (hq : hub.channelOf P b id = .ok (chan, conn, client))
    (hr : ∀ s ∈ [chan.stateAndRef, conn.stateAndRef, client.stateAndRef], s ∈ reads) :
    hub'.channelOf P b id = .ok (chan, conn, client) := by
  simp only [List.forall_mem_cons] at hr
  obtain ⟨hr₁, hr₂, hr₃, -⟩ := hr
  simp only [ServiceHub.channelOf, Result.bind_ok, Except.ok.injEq, Prod.mk.injEq] at hq ⊢
  obtain ⟨chan, hchan, conn, hconn, client, hclient, rfl, rfl, rfl⟩ := hq
  exact ⟨chan, h.stateOf keyed_channel hchan hr₁, conn, h.connOf hconn hr₂, client,
    h.stateOf keyed_client hclient hr₃, rfl, rfl, rfl⟩

theorem channelDatagram {handler : DatagramHandler} {builder : TransactionBuilder}
    (hreads : reads = builder.inputs ++ builder.references)
    (hq : hub.channelDatagram P b id handler = .ok builder) :
    hub'.channelDatagram P b id handler = .ok builder := by
  simp only [ServiceHub.channelDatagram, Result.bind_ok] at hq ⊢
  obtain ⟨host, hhost, ⟨chan, conn, client⟩, hchan, builder₀, hnew, hq⟩ := hq
  have hb := built_of_addDatagram hnew hq
  rw [hb.inputs_eq, hb.references_eq] at hreads
  exact ⟨host, h.hostOf hhost (by simp [hreads]), (chan, conn, client),
    h.channelOf hchan (by simp [hreads]), builder₀, by rwa [h.newBuilder], by rwa [h.addDatagram]⟩

/-! ### Transfers -/

theorem bankOrNull {packet : Packet} {bank : List StateAndRef}
    (hq : IbcAcknowledgePacketFlow.bankOrNull hub b packet = .ok bank)
    (hr : ∀ s ∈ bank, s ∈ reads) : IbcAcknowledgePacketFlow.bankOrNull hub' b packet = .ok bank := by
  unfold IbcAcknowledgePacketFlow.bankOrNull at hq ⊢
  split
  · rename_i hport
    rw [if_pos hport] at hq
    simp only [Result.bind_ok, notNull_ok, Except.ok.injEq] at hq ⊢
    obtain ⟨found, hq, rfl⟩ := hq
    exact ⟨found, h.linear named_cashBank b found hq (hr _ (List.mem_singleton_self _)), rfl⟩
  · rename_i hport
    rw [if_neg hport] at hq
    split
    · rename_i hold
      rw [if_pos hold] at hq
      simp only [Result.bind_ok, notNull_ok, Except.ok.injEq] at hq ⊢
      obtain ⟨found, hq, rfl⟩ := hq
      exact ⟨found, h.linear named_bank b found hq (hr _ (List.mem_singleton_self _)), rfl⟩
    · rename_i hold
      rwa [if_neg hold] at hq

omit h in
theorem chosen_ne_nil {T : Type} [StateClass T] {coins : List (Stored T)} (hne : coins ≠ [])
    (hcoins : ∀ coin ∈ coins, coin ∈ (hub.coins T).states) : hub.chosen coins ≠ [] := by
  obtain ⟨coin, coins, rfl⟩ := List.exists_cons_of_ne_nil hne
  obtain ⟨found, hfound, rfl⟩ := List.mem_map.1 (hcoins coin List.mem_cons_self)
  have hmem := mem_queryBy.1 hfound
  cases hfind : hub.states.find? fun s => s.ref = found.stored.ref with
  | none =>
    have hne := List.find?_eq_none.1 hfind _ hmem
    exact absurd (decide_eq_true rfl) hne
  | some s =>
    rw [chosen, List.filterMap_cons, hfind]
    exact List.cons_ne_nil _ _

omit h in
theorem unlockedCoins {cashBank : CashBank} {packet : Packet} {commands : List CommandWithParties}
    (hq : IbcRecvPacketFlow.unlockedCoins P hub cashBank packet = .ok ([], commands)) :
    IbcRecvPacketFlow.unlockedCoins P hub' cashBank packet = .ok ([], commands) := by
  simp only [IbcRecvPacketFlow.unlockedCoins, Result.bind_ok] at hq ⊢
  obtain ⟨data, hdata, port, hport, channel, hchannel, hq⟩ := hq
  refine ⟨data, hdata, port, hport, channel, hchannel, ?_⟩
  split
  · rename_i hsource
    rw [if_pos hsource] at hq
    obtain ⟨denom, hdenom, hq⟩ := Result.bind_ok.1 hq
    refine Result.bind_ok.2 ⟨denom, hdenom, ?_⟩
    split
    · rename_i hvoucher
      rwa [if_pos hvoucher] at hq
    · -- cash is never chosen without a coin
      rename_i hvoucher
      rw [if_neg hvoucher] at hq
      simp only [Result.bind_ok, Except.ok.injEq, Prod.mk.injEq] at hq
      obtain ⟨_, -, issuer, -, quantity, -, currency, -, amount, -, coins, hcoins, _, hne, hnil, -⟩ := hq
      have hpre := Vault.prepareCoins_prefix hcoins
      exact absurd hnil (chosen_ne_nil (require_ok.1 hne) fun coin hc =>
        (Vault.mem_allCoins.1 (hpre.subset hc)).1)
  · rename_i hsource
    rwa [if_neg hsource] at hq

theorem transferStates {packet : Packet} {states : List StateAndRef}
    {commands : List CommandWithParties}
    (hq : IbcRecvPacketFlow.transferStates P hub b packet = .ok (states, commands))
    (hr : ∀ s ∈ states, s ∈ reads) (hno : ∀ s ∈ states, ∀ c, s.state.data ≠ .cash c) :
    IbcRecvPacketFlow.transferStates P hub' b packet = .ok (states, commands) := by
  unfold IbcRecvPacketFlow.transferStates at hq ⊢
  split
  · rename_i hport
    rw [if_pos hport] at hq
    simp only [Result.bind_ok, notNull_ok, Except.ok.injEq, Prod.mk.injEq] at hq ⊢
    obtain ⟨cashBank, hbank, ⟨coins, others⟩, hcoins, rfl, rfl⟩ := hq
    obtain rfl : coins = [] := by
      rcases coins with _ | ⟨coin, coins⟩
      · rfl
      · obtain ⟨c, hc⟩ := (Flow.unlockedCoins_ok hcoins).1.data coin List.mem_cons_self
        exact absurd hc (hno coin (by simp) c)
    exact ⟨cashBank, h.linear named_cashBank b cashBank hbank (hr _ List.mem_cons_self), ([], others),
      unlockedCoins hcoins, rfl, rfl⟩
  · rename_i hport
    rw [if_neg hport] at hq
    split
    · rename_i hold
      rw [if_pos hold] at hq
      simp only [Result.bind_ok, notNull_ok, Except.ok.injEq, Prod.mk.injEq] at hq ⊢
      obtain ⟨bank, hbank, rfl, rfl⟩ := hq
      exact ⟨bank, h.linear named_bank b bank hbank (hr _ (List.mem_singleton_self _)), rfl, rfl⟩
    · rename_i hold
      rwa [if_neg hold] at hq

end

/-! ### All flows -/

section
variable {P : Platform} {M : Packing} {hub hub' : ServiceHub} {builder : TransactionBuilder}
  {inputs refs : List StateAndRef}

/-- A previous connection that the datagram names is consumed. -/
theorem exists_previousConnection {msg : MsgConnectionOpenTry} {host : Found Host}
    {conn : Option (Found IbcConnection)} (hb : builder.Built P hub (.handleConnOpenTry msg)
      (host.stateAndRef :: (conn.map Found.stateAndRef).toList) refs)
    (hid : msg.previousConnectionId ≠ "") : ∃ found, conn = some found := by
  cases conn with
  | some found => exact ⟨found, rfl⟩
  | none =>
    obtain ⟨ctx, hexec, -⟩ := hb.exec
    obtain ⟨outs, hexecutes, -⟩ := executes_of_ok hexec
    cases hexecutes with
    | connOpenTry _ _ hprevious =>
      rw [Handler.connOpenTry.previous, if_pos hid] at hprevious
      obtain ⟨previous, hget, -⟩ := Result.bind_ok.1 hprevious
      exact ContractState.noConfusion (List.mem_singleton.1 (Context.mem_of_getInput hget))

/-- A previous channel that the datagram names is consumed. -/
theorem exists_previousChannel {msg : MsgChannelOpenTry} {host : Found Host}
    {chan : Option (Found IbcChannel)} (hb : builder.Built P hub (.handleChanOpenTry msg)
      (host.stateAndRef :: (chan.map Found.stateAndRef).toList) refs)
    (hid : msg.previousChannelId ≠ "") : ∃ found, chan = some found := by
  cases chan with
  | some found => exact ⟨found, rfl⟩
  | none =>
    obtain ⟨ctx, hexec, -⟩ := hb.exec
    obtain ⟨outs, hexecutes, -⟩ := executes_of_ok hexec
    cases hexecutes with
    | chanOpenTry _ _ _ hnew => exact absurd hnew hid
    | chanOpenTryPrevious _ _ _ _ hget =>
      exact ContractState.noConfusion (List.mem_singleton.1 (Context.mem_of_getInput hget))

/-- Coins of the sender are never none. -/
theorem senderCoins_ne_nil {bank : CashBank} {denom : Denom} {quantity : Int}
    {coins : List StateAndRef} {commands : List CommandWithParties}
    (hq : IbcTransferFlow.senderCoins P hub bank denom quantity = .ok (coins, commands)) :
    ∃ s ∈ coins, (∃ c, s.state.data = .cash c) ∨ ∃ v, s.state.data = .voucher v := by
  have hmem : ∀ {T K : Type} [StateClass T] [OwnableFungibleState T K] [DecidableEq K]
      {key : PublicKey} {amount : TokenAmount K} {coins : List (Stored T)},
      (hub.coins T).prepareCoins key amount = .ok coins → coins ≠ [] →
      ∃ s ∈ hub.chosen coins, ∃ t : T, s.state.data = up t := by
    intro T K _ _ _ key amount coins hcoins hne
    have hpre := Vault.prepareCoins_prefix hcoins
    obtain ⟨s, hs⟩ := List.exists_mem_of_ne_nil _ (chosen_ne_nil hne fun coin hc =>
      (Vault.mem_allCoins.1 (hpre.subset hc)).1)
    exact ⟨s, hs, (ServiceHub.coins_of_prepareCoins hcoins).data s hs⟩
  unfold IbcTransferFlow.senderCoins at hq
  split at hq
  · simp only [Result.bind_ok, Except.ok.injEq, Prod.mk.injEq] at hq
    obtain ⟨currency, -, amount, -, coins, hcoins, _, hne, rfl, -⟩ := hq
    obtain ⟨s, hs, ht⟩ := hmem hcoins (require_ok.1 hne)
    exact ⟨s, hs, .inl ht⟩
  · simp only [Result.bind_ok, Except.ok.injEq, Prod.mk.injEq] at hq
    obtain ⟨amount, -, coins, hcoins, _, hne, rfl, -⟩ := hq
    obtain ⟨s, hs, ht⟩ := hmem hcoins (require_ok.1 hne)
    exact ⟨s, hs, .inr ht⟩

/-- A flow that spends no coins builds the same on every vault that shows what it read. -/
theorem call {flow : Flow}
    (h : Replays P.toCrypto hub hub' (builder.inputs ++ builder.references))
    (hcall : flow.call P M hub = .ok builder) (hno : builder.NoCoins) :
    flow.call P M hub' = .ok builder := by
  generalize hreads : builder.inputs ++ builder.references = reads at h
  cases flow with
  | genesisCreate participants =>
    simpa only [Flow.call, IbcGenesisCreateFlow.call, h.requireParticipant, h.newBuilder, h.addMisc]
      using hcall
  | hostCreate b moduleNames clientStateFactoryNames =>
    simp only [Flow.call, IbcHostCreateFlow.call, h.requireParticipant, h.newBuilder, h.addMisc,
      Result.bind_ok, notNull_ok] at hcall ⊢
    obtain ⟨builder₀, hnew, genesis, hgenesis, u, hour, host, hcreate, hcall⟩ := hcall
    have hb := addMisc_new hnew hcall
    rw [hb.inputs_eq, hb.references_eq] at hreads
    exact ⟨builder₀, hnew, genesis, h.genesis b genesis hgenesis (by simp [← hreads]), u, hour, host,
      hcreate, hcall⟩
  | bankCreate b =>
    simp only [Flow.call, IbcBankCreateFlow.call, h.requireParticipant, h.newBuilder, h.addMisc,
      Result.bind_ok, notNull_ok] at hcall ⊢
    obtain ⟨builder₀, hnew, host, hhost, u, hour, created, hcreate, hcall⟩ := hcall
    have hb := addMisc_new hnew hcall
    rw [hb.inputs_eq, hb.references_eq] at hreads
    exact ⟨builder₀, hnew, host, h.linear named_host b host hhost (by simp [← hreads]), u, hour,
      created, hcreate, hcall⟩
  | cashBankCreate b bank =>
    simp only [Flow.call, IbcCashBankCreateFlow.call, h.requireParticipant, h.newBuilder, h.addMisc,
      Result.bind_ok, notNull_ok] at hcall ⊢
    obtain ⟨builder₀, hnew, host, hhost, u, hour, v, howner, created, hcreate, hcall⟩ := hcall
    have hb := addMisc_new hnew hcall
    rw [hb.inputs_eq, hb.references_eq] at hreads
    exact ⟨builder₀, hnew, host, h.linear named_host b host hhost (by simp [← hreads]), u, hour, v,
      howner, created, hcreate, hcall⟩
  | fundAllocate b owner denom amount =>
    simp only [Flow.call, IbcFundAllocateFlow.call, h.requireParticipant, h.newBuilder, h.addMisc,
      Result.bind_ok, notNull_ok] at hcall ⊢
    obtain ⟨builder₀, hnew, bank, hbank, u, hour, hcall⟩ := hcall
    have hb := addMisc_new hnew hcall
    rw [hb.inputs_eq, hb.references_eq] at hreads
    exact ⟨builder₀, hnew, bank, h.linear named_bank b bank hbank (by simp [← hreads]), u, hour, hcall⟩
  | clientCreate b msg =>
    simp only [Flow.call, IbcClientCreateFlow.call, h.newBuilder, h.addDatagram,
      Result.bind_ok] at hcall ⊢
    obtain ⟨host, hhost, builder₀, hnew, hcall⟩ := hcall
    have hb := built_of_addDatagram hnew hcall
    rw [hb.inputs_eq, hb.references_eq] at hreads
    exact ⟨host, h.hostOf hhost (by simp [← hreads]), builder₀, hnew, hcall⟩
  | connOpenInit b msg =>
    simp only [Flow.call, IbcConnOpenInitFlow.call, h.newBuilder, h.addDatagram,
      Result.bind_ok] at hcall ⊢
    obtain ⟨host, hhost, client, hclient, builder₀, hnew, hcall⟩ := hcall
    have hb := built_of_addDatagram hnew hcall
    rw [hb.inputs_eq, hb.references_eq] at hreads
    exact ⟨host, h.hostOf hhost (by simp [← hreads]), client,
      h.stateOf keyed_client hclient (by simp [← hreads]), builder₀, hnew, hcall⟩
  | connOpenTry b msg =>
    simp only [Flow.call, IbcConnOpenTryFlow.call, h.newBuilder, h.addDatagram,
      Result.bind_ok] at hcall ⊢
    obtain ⟨host, hhost, client, hclient, conn, hconn, builder₀, hnew, hcall⟩ := hcall
    have hb := built_of_addDatagram hnew hcall
    have hsome := exists_previousConnection hb
    rw [hb.inputs_eq, hb.references_eq] at hreads
    exact ⟨host, h.hostOf hhost (by simp [← hreads]), client,
      h.stateOf keyed_client hclient (by simp [← hreads]), conn,
      h.stateOrNull keyed_connection hconn hsome fun found hf => by
        rw [Option.mem_def.1 hf] at hreads
        simp [← hreads], builder₀, hnew, hcall⟩
  | connOpenAck b msg =>
    simp only [Flow.call, IbcConnOpenAckFlow.call, h.newBuilder, h.addDatagram,
      Result.bind_ok] at hcall ⊢
    obtain ⟨host, hhost, conn, hconn, client, hclient, builder₀, hnew, hcall⟩ := hcall
    have hb := built_of_addDatagram hnew hcall
    rw [hb.inputs_eq, hb.references_eq] at hreads
    exact ⟨host, h.hostOf hhost (by simp [← hreads]), conn,
      h.stateOf keyed_connection hconn (by simp [← hreads]), client,
      h.stateOf keyed_client hclient (by simp [← hreads]), builder₀, hnew, hcall⟩
  | connOpenConfirm b msg =>
    simp only [Flow.call, IbcConnOpenConfirmFlow.call, h.newBuilder, h.addDatagram,
      Result.bind_ok] at hcall ⊢
    obtain ⟨host, hhost, conn, hconn, client, hclient, builder₀, hnew, hcall⟩ := hcall
    have hb := built_of_addDatagram hnew hcall
    rw [hb.inputs_eq, hb.references_eq] at hreads
    exact ⟨host, h.hostOf hhost (by simp [← hreads]), conn,
      h.stateOf keyed_connection hconn (by simp [← hreads]), client,
      h.stateOf keyed_client hclient (by simp [← hreads]), builder₀, hnew, hcall⟩
  | chanOpenInit b msg =>
    simp only [Flow.call, IbcChanOpenInitFlow.call, h.newBuilder, h.addDatagram,
      Result.bind_ok] at hcall ⊢
    obtain ⟨host, hhost, conn, hconn, builder₀, hnew, hcall⟩ := hcall
    have hb := built_of_addDatagram hnew hcall
    rw [hb.inputs_eq, hb.references_eq] at hreads
    exact ⟨host, h.hostOf hhost (by simp [← hreads]), conn,
      h.connOf hconn (by simp [← hreads]), builder₀, hnew, hcall⟩
  | chanOpenTry b msg =>
    simp only [Flow.call, IbcChanOpenTryFlow.call, h.newBuilder, h.addDatagram,
      Result.bind_ok] at hcall ⊢
    obtain ⟨host, hhost, conn, hconn, client, hclient, chan, hchan, builder₀, hnew, hcall⟩ := hcall
    have hb := built_of_addDatagram hnew hcall
    have hsome := exists_previousChannel hb
    rw [hb.inputs_eq, hb.references_eq] at hreads
    exact ⟨host, h.hostOf hhost (by simp [← hreads]), conn,
      h.connOf hconn (by simp [← hreads]), client,
      h.stateOf keyed_client hclient (by simp [← hreads]), chan,
      h.stateOrNull keyed_channel hchan hsome fun found hf => by
        rw [Option.mem_def.1 hf] at hreads
        simp [← hreads], builder₀, hnew, hcall⟩
  | chanOpenAck b msg => exact h.channelDatagram hreads.symm hcall
  | chanOpenConfirm b msg => exact h.channelDatagram hreads.symm hcall
  | chanCloseInit b msg =>
    simp only [Flow.call, IbcChanCloseInitFlow.call, h.newBuilder, h.addDatagram,
      Result.bind_ok] at hcall ⊢
    obtain ⟨host, hhost, chan, hchan, conn, hconn, builder₀, hnew, hcall⟩ := hcall
    have hb := built_of_addDatagram hnew hcall
    rw [hb.inputs_eq, hb.references_eq] at hreads
    exact ⟨host, h.hostOf hhost (by simp [← hreads]), chan,
      h.stateOf keyed_channel hchan (by simp [← hreads]), conn,
      h.connOf hconn (by simp [← hreads]), builder₀, hnew, hcall⟩
  | chanCloseConfirm b msg => exact h.channelDatagram hreads.symm hcall
  | sendPacket b packet => exact h.channelDatagram hreads.symm hcall
  | recvPacket b msg =>
    simp only [Flow.call, IbcRecvPacketFlow.call, h.newBuilder, h.addDatagram,
      Result.bind_ok] at hcall ⊢
    obtain ⟨builder₀, hnew, host, hhost, ⟨states, commands⟩, hstates, ⟨chan, conn, client⟩, hchan,
      hcall⟩ := hcall
    obtain ⟨_, _, -, -, -, hothers⟩ := Flow.transferStates_ok hstates
    have hb := addDatagram_new hnew hothers hcall
    have hcash : ∀ s ∈ states, ∀ c, s.state.data ≠ .cash c := fun s hs =>
      (hno s (by simp [hb.inputs_eq, hs])).1
    rw [hb.inputs_eq, hb.references_eq] at hreads
    exact ⟨builder₀, hnew, host, h.hostOf hhost (by simp [← hreads]), (states, commands),
      h.transferStates hstates (fun s hs => by simp [← hreads, hs]) hcash, (chan, conn, client),
      h.channelOf hchan (by simp [← hreads]), hcall⟩
  | acknowledgePacket b msg =>
    simp only [Flow.call, IbcAcknowledgePacketFlow.call, h.newBuilder, h.addDatagram,
      Result.bind_ok] at hcall ⊢
    obtain ⟨host, hhost, bank, hbank, ⟨chan, conn, client⟩, hchan, builder₀, hnew, hcall⟩ := hcall
    have hb := built_of_addDatagram hnew hcall
    rw [hb.inputs_eq, hb.references_eq] at hreads
    exact ⟨host, h.hostOf hhost (by simp [← hreads]), bank,
      h.bankOrNull hbank (fun s hs => by simp [← hreads, hs]), (chan, conn, client),
      h.channelOf hchan (by simp [← hreads]), builder₀, hnew, hcall⟩
  | sendTransfer b msg =>
    simp only [Flow.call, IbcSendTransferFlow.call, h.newBuilder, h.addDatagram,
      Result.bind_ok, notNull_ok] at hcall ⊢
    obtain ⟨host, hhost, ⟨chan, conn, client⟩, hchan, bank, hbank, builder₀, hnew, hcall⟩ := hcall
    have hb := built_of_addDatagram hnew hcall
    rw [hb.inputs_eq, hb.references_eq] at hreads
    exact ⟨host, h.hostOf hhost (by simp [← hreads]), (chan, conn, client),
      h.channelOf hchan (by simp [← hreads]), bank,
      h.linear named_bank b bank hbank (by simp [← hreads]), builder₀, hnew, hcall⟩
  | transfer b msg =>
    simp only [Flow.call, IbcTransferFlow.call, Result.bind_ok] at hcall
    obtain ⟨builder₀, hnew, host, -, ⟨chan, conn, client⟩, -, bank, -, denom, -, quantity, -,
      ⟨coins, commands⟩, hcoins, hcall⟩ := hcall
    obtain ⟨-, hothers⟩ := Flow.senderCoins_ok hcoins
    have hb := addDatagram_new hnew (fun c hc => (hothers c hc).1) hcall
    -- a transfer spends coins
    obtain ⟨s, hs, hdata⟩ := senderCoins_ne_nil hcoins
    obtain ⟨hcash, hvoucher⟩ := hno s (by simp [hb.inputs_eq, hs])
    rcases hdata with ⟨c, hc⟩ | ⟨v, hv⟩
    · exact absurd hc (hcash c)
    · exact absurd hv (hvoucher v)

end

/-- On ledgers, what was read and is still there is found again. -/
theorem of_sees {C : Crypto} {hub hub' : ServiceHub} {l l' : Ledger} {reads : List StateAndRef}
    (hinj : C.UniqueNames) (hi : l.Inv) (hi' : l'.Inv) (hs : hub.Sees l) (hs' : hub'.Sees l')
    (hour : hub'.ourIdentity = hub.ourIdentity)
    (hnotary : hub'.notaryIdentities = hub.notaryIdentities)
    (hthere : ∀ s ∈ reads, l'.states.lookup s.ref = some s.state) : Replays C hub hub' reads := by
  have hknows : ∀ {T : Type} [StateClass T] {k : StateRef × Identifier} {found : Found T},
      hub.Knows l k found → found.stateAndRef ∈ reads → hub'.Knows l' k found := by
    intro T _ k found h hr
    exact ⟨hthere _ hr, h.key, by rw [hour]; exact h.participates⟩
  refine ⟨hour, hnotary, ?_, ?_, ?_⟩
  · intro b found hq hr
    have hfilter := singleOrNull_eq_some.1 hq
    have hfound : found ∈ (hub.queryBy Genesis).filter fun found => found.ref = b := by
      rw [hfilter]
      exact List.mem_singleton_self _
    obtain ⟨hmem, hb⟩ := List.mem_filter.1 hfound
    have hour' := ((hs _ _ _ rfl).1 (mem_queryBy.1 hmem)).2
    have hmem' : found.stateAndRef ∈ hub'.states :=
      (hs' _ _ _ rfl).2 ⟨hthere _ hr, by rwa [hour]⟩
    refine (singleOrNull_iff_mem (queryBy_nodup.filter _) fun other hother => ?_).2
      (List.mem_filter.2 ⟨mem_queryBy.2 hmem', hb⟩)
    obtain ⟨hother, hbo⟩ := List.mem_filter.1 hother
    -- a vault has one state under a reference
    have heq : other.stateAndRef = found.stateAndRef := List.inj_on_of_nodup_map hub'.distinct
      (mem_queryBy.1 hother) hmem' ((of_decide_eq_true hbo).trans (of_decide_eq_true hb).symm)
    obtain ⟨data, notary, ref⟩ := found
    obtain ⟨data', notary', ref'⟩ := other
    cases heq
    rfl
  · intro T _ i hT b found hq hr
    exact (queryLinear_iff hi' hs' hT).2 (hknows ((queryLinear_iff hi hs hT).1 hq) hr)
  · intro T _ hT b i found hq hr
    exact (queryIbcState_iff hinj hi' hs' hT).2
      (hknows ((queryIbcState_iff hinj hi hs hT).1 hq) hr)

end ServiceHub.Replays

namespace Nodes

section
variable {P : Platform} {M : Packing} {n₀ n n' : Nodes} {tr : List Event} {d : Draft}

/-- A flow that spends no coins ends with the transaction that it would build at its end: on every
vault of the node that shows the ledger then, it builds this transaction and ends the same. -/
theorem serial_run {id : SecureHash} {hub : ServiceHub} (hinj : P.toCrypto.UniqueNames)
    (htyped : M.Typed P) (h₀ : n₀.Start) (hr : Run (Step P M) n₀ tr n)
    (hstep : Step P M n (.finish d id) n') (hno : d.builder.NoCoins) (hsees : hub.Sees n.ledger)
    (hour : hub.ourIdentity = d.hub.ourIdentity)
    (hnotary : hub.notaryIdentities = d.hub.notaryIdentities) :
    d.flow.call P M hub = .ok d.builder ∧
      hub.finality P d.builder id n.ledger = .ok n'.ledger := by
  have hgood := Good.run_of hinj htyped h₀ hr
  cases hstep with
  | finish hdraft hfinality =>
    have hkept := hgood.kept d hdraft
    obtain ⟨l₁, hi₁, hsees₁⟩ := hkept.born
    obtain ⟨-, hc, -⟩ := Flow.finality_ok.1 hfinality
    have hthere : ∀ s ∈ d.builder.inputs ++ d.builder.references,
        n.ledger.states.lookup s.ref = some s.state := by
      intro s hs
      rcases List.mem_append.1 hs with hs | hs
      · exact hc.inputs s hs
      · exact hc.references s hs
    have hreplays := ServiceHub.Replays.of_sees hinj hi₁ hgood.inv hsees₁ hsees hour hnotary hthere
    refine ⟨hreplays.call hkept.call hno, ?_⟩
    rwa [ServiceHub.finality, hour]

end

/-! ## A payment between the two steps of a flow -/

section
open Sample Ledger.RepeatedOutputs CordaIbc.Flow

theorem ten_bounded : 10 < 2 ^ 63 := by decide

def issueCash : LedgerTransaction :=
  { id := ⟨[9]⟩, notary := notary 1, inputs := [], references := []
    outputs := [.cash ⟨⟨10, ⟨notary 1, [0], ⟨"USD"⟩⟩, ten_bounded⟩, notary 1⟩]
    commands := [⟨.other "Cash.Commands.Issue", [(notary 1).owningKey]⟩] }

theorem commits_issueCash : Ledger.Commits P start issueCash :=
  ⟨by decide, fun _ hs => absurd hs List.not_mem_nil, fun _ hs => absurd hs List.not_mem_nil,
    List.nodup_nil, by decide, by decide, by decide⟩

def paid : Nodes := ⟨start.apply issueCash, [hostCreate]⟩

def paidHost : LedgerTransaction := hostCreate.builder.toLedgerTransaction ⟨[2]⟩

theorem run_paid : Run (Step P packing) ⟨start, []⟩ [.build hostCreate, .other issueCash] paid :=
  .snoc run_begun (.other rfl rfl (Ledger.commit_ok.2 ⟨commits_issueCash, rfl⟩))

theorem finish_paid : Step P packing paid (.finish hostCreate ⟨[2]⟩)
    ⟨paid.ledger.apply paidHost, [hostCreate]⟩ := by
  have hcommit : paid.ledger.commit P paidHost = .ok (paid.ledger.apply paidHost) :=
    Ledger.commit_ok.2 ⟨⟨by decide, by decide, by decide, by decide, by decide, by decide,
      fun _ => by decide⟩, rfl⟩
  exact .finish List.mem_cons_self (Flow.finality_ok.2
    ⟨signed_hostCreate, (Ledger.commit_ok.1 hcommit).1, rfl⟩)

/-- The flow builds the same transaction on the vault that has the cash. -/
theorem serial_run_paid : hostCreate.flow.call P packing (hub.record issueCash) = .ok hostCreate.builder ∧
    (hub.record issueCash).finality P hostCreate.builder ⟨[2]⟩ paid.ledger =
      .ok (paid.ledger.apply paidHost) := by
  refine serial_run uniqueNames typed_packing start_empty run_paid
    finish_paid (fun s hs => ?_) (sees_start.record commits_issueCash start_start.known) rfl rfl
  rw [List.mem_singleton.1 hs]
  exact ⟨fun _ he => ContractState.noConfusion he, fun _ he => ContractState.noConfusion he⟩

end

end Nodes

end CordaIbc
