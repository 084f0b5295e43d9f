import CordaIbc.Flow
import CordaIbc.Proofs.Coins

/-!
# What a flow picks (workflows/flows)

`Flow.Picks` lists, flow by flow, the datagram that the flow runs and the states of the vault that it
consumes and references. It is the inversion of the datagram flows (`Flow.runs_of_call`), together
with `Built`, what the transaction builder holds at the end.
-/

namespace CordaIbc

open ChannelOuterClass (Packet)
open StateClass

theorem singleOrNull_eq_some {α : Type} {l : List α} {a : α} : singleOrNull l = some a ↔ l = [a] := by
  rcases l with _ | ⟨b, _ | ⟨c, l⟩⟩ <;> simp [singleOrNull]

/-! ## Coins -/

namespace Vault
variable {S T : Type} [OwnableFungibleState S T] [DecidableEq T]

/-- The loop takes the first coins of the list. -/
theorem collect_prefix {amount collected c : TokenAmount T} {coins inputs out : List (Stored S)}
    (h : collect amount coins inputs collected = .ok (out, c)) :
    ∃ taken, taken <+: coins ∧ out = inputs ++ taken := by
  induction coins generalizing inputs collected with
  | nil =>
    cases h
    exact ⟨[], List.prefix_rfl, (List.append_nil _).symm⟩
  | cons coin coins ih =>
    simp only [collect, Result.bind_ok] at h
    obtain ⟨next, -, enough, -, h⟩ := h
    split at h
    · cases h
      exact ⟨[coin], ⟨coins, rfl⟩, rfl⟩
    · obtain ⟨taken, htaken, rfl⟩ := ih h
      exact ⟨coin :: taken, (List.prefix_cons_inj coin).2 htaken, by simp⟩

theorem prepareCoins_prefix {vault : Vault S} {ownerKey : PublicKey} {amount : TokenAmount T}
    {coins : List (Stored S)} (h : vault.prepareCoins ownerKey amount = .ok coins) :
    coins <+: vault.allCoins ownerKey amount.token := by
  simp only [prepareCoins, Result.bind_ok] at h
  obtain ⟨zero, -, ⟨inputs, collected⟩, hcollect, more, -, h⟩ := h
  obtain ⟨taken, htaken, rfl⟩ := collect_prefix hcollect
  split at h
  · obtain ⟨_, -, h⟩ := Result.bind_ok.1 h
    cases h
  · cases h
    exact htaken

end Vault

/-! ## The vault -/

namespace ServiceHub
variable {hub : ServiceHub} {T : Type} [StateClass T] {found : Found T} {b : StateRef}

theorem mem_queryBy : found ∈ hub.queryBy T ↔ found.stateAndRef ∈ hub.states := by
  simp only [queryBy, List.mem_filterMap, Option.map_eq_some_iff, cast?_eq]
  constructor
  · rintro ⟨⟨⟨data, notary⟩, ref⟩, hs, t, rfl, rfl⟩
    exact hs
  · intro h
    exact ⟨_, h, found.data, rfl, rfl⟩

theorem queryBy_nodup : (hub.queryBy T).Nodup :=
  List.Nodup.of_map _ ((hub.queryBy_refs T).nodup hub.distinct)

/-- The vault has the state, under the base id. -/
def Has (hub : ServiceHub) (b : StateRef) (found : Found T) : Prop :=
  found.stateAndRef ∈ hub.states ∧ ∃ i, (up found.data).ibc? = some i ∧ i.baseId = b

theorem mem_queryLinear : found ∈ hub.queryLinear T b ↔ hub.Has b found := by
  rw [queryLinear, List.mem_filter, mem_queryBy, Has, Option.any_eq_true]
  simp only [decide_eq_true_eq]

theorem has_of_single (h : singleOrNull (hub.queryLinear T b) = some found) : hub.Has b found :=
  mem_queryLinear.1 (by rw [singleOrNull_eq_some.1 h]; exact List.mem_singleton_self _)

theorem has_of_queryIbcState {C : Crypto} {id : Identifier}
    (h : hub.queryIbcState C T b id = some found) : hub.Has b found := by
  refine mem_queryLinear.1 (List.mem_of_mem_filter (p := fun found : Found T =>
    (up found.data).ibc?.any fun i => i.linearId C = C.nameUUIDFromBytes id.id) ?_)
  rw [singleOrNull_eq_some.1 h]
  exact List.mem_singleton_self _

theorem has_of_hostOf {host : Found Host} (h : hub.hostOf b = .ok host) :
    hub.Has b host ∧ hub.queryIbcHost b = some host ∧
      hub.ourIdentity ∈ host.data.participants := by
  simp only [hostOf, requireParticipant, Result.bind_ok, notNull_ok, require_ok,
    Except.ok.injEq] at h
  obtain ⟨host, hq, -, hour, rfl⟩ := h
  exact ⟨has_of_single hq, hq, hour⟩

variable {P : Platform}

theorem has_of_stateOf {id : String} (h : hub.stateOf P T b id = .ok found) : hub.Has b found := by
  simp only [stateOf, Result.bind_ok, notNull_ok] at h
  obtain ⟨i, -, h⟩ := h
  exact has_of_queryIbcState h

theorem has_of_stateOrNull {id : String} {state : Option (Found T)}
    (h : hub.stateOrNull P T b id = .ok state) :
    (id = "" → state = none) ∧ ∀ found ∈ state, hub.Has b found := by
  unfold stateOrNull at h
  split at h
  · rename_i hid
    simp only [Result.bind_ok, Except.ok.injEq] at h
    obtain ⟨i, -, rfl⟩ := h
    exact ⟨fun h => absurd h hid, fun found hf => has_of_queryIbcState hf⟩
  · cases h
    exact ⟨fun _ => rfl, nofun⟩

theorem has_of_channelOf {id : String} {chan : Found IbcChannel} {conn : Found IbcConnection}
    {client : Found IbcClientState} (h : hub.channelOf P b id = .ok (chan, conn, client)) :
    hub.Has b chan ∧ hub.Has b conn ∧ hub.Has b client := by
  simp only [channelOf, connOf, Result.bind_ok, Except.ok.injEq, Prod.mk.injEq] at h
  obtain ⟨chan, hchan, conn, ⟨hop, -, hconn⟩, client, hclient, rfl, rfl, rfl⟩ := h
  exact ⟨has_of_stateOf hchan, has_of_stateOf hconn, has_of_stateOf hclient⟩

/-- The coins of a class that a flow adds to its inputs are states of the vault. -/
theorem mem_chosen {coins : List (Stored T)} {s : StateAndRef}
    (hcoins : ∀ coin ∈ coins, coin ∈ (hub.coins T).states) (h : s ∈ hub.chosen coins) :
    s ∈ hub.states ∧ ∃ coin ∈ coins, s.ref = coin.ref ∧ s.state.data = up coin.data := by
  obtain ⟨coin, hcoin, hfind⟩ := List.mem_filterMap.1 h
  have hs := List.mem_of_find?_eq_some hfind
  have hr : s.ref = coin.ref := by simpa using List.find?_some hfind
  obtain ⟨found, hfound, rfl⟩ := List.mem_map.1 (hcoins coin hcoin)
  have hmem := mem_queryBy.1 hfound
  -- one reference, one state
  obtain rfl : s = found.stateAndRef := List.inj_on_of_nodup_map hub.distinct hs hmem hr
  exact ⟨hs, _, hcoin, hr, rfl⟩

omit [StateClass T] in
theorem chosen_nodup {coins : List (Stored T)} (hcoins : (coins.map Stored.ref).Nodup) :
    ((hub.chosen coins).map (·.ref)).Nodup := by
  have hsub : List.Sublist ((hub.chosen coins).map (·.ref)) (coins.map Stored.ref) := by
    clear hcoins
    induction coins with
    | nil => exact List.Sublist.refl _
    | cons coin coins ih =>
      unfold chosen at ih ⊢
      rw [List.filterMap_cons, List.map_cons]
      cases hfind : hub.states.find? fun s => s.ref = coin.ref with
      | none => exact ih.cons _
      | some s =>
        have hr : s.ref = coin.ref := by simpa using List.find?_some hfind
        rw [List.map_cons, hr]
        exact ih.cons_cons _
  exact hsub.nodup hcoins

/-- Distinct coins of the vault. -/
structure Coins (hub : ServiceHub) (T : Type) [StateClass T] (coins : List StateAndRef) : Prop where
  mem : ∀ s ∈ coins, s ∈ hub.states
  data : ∀ s ∈ coins, ∃ t : T, s.state.data = up t
  nodup : (coins.map (·.ref)).Nodup

theorem Coins.nil : hub.Coins T [] := ⟨nofun, nofun, List.nodup_nil⟩

theorem coins_of_prepareCoins {K : Type} [OwnableFungibleState T K] [DecidableEq K]
    {ownerKey : PublicKey} {amount : TokenAmount K} {coins : List (Stored T)}
    (h : (hub.coins T).prepareCoins ownerKey amount = .ok coins) : hub.Coins T (hub.chosen coins) := by
  have hpre := Vault.prepareCoins_prefix h
  have hmem : ∀ coin ∈ coins, coin ∈ (hub.coins T).states := fun coin hc =>
    (Vault.mem_allCoins.1 (hpre.subset hc)).1
  refine ⟨fun s hs => (mem_chosen hmem hs).1, fun s hs => ?_, chosen_nodup ?_⟩
  · obtain ⟨-, coin, -, -, hdata⟩ := mem_chosen hmem hs
    exact ⟨coin.data, hdata⟩
  · exact List.Nodup.sublist (hpre.sublist.map _) Vault.distinct_allCoins

end ServiceHub

/-! ## The builder -/

namespace TransactionBuilder
variable {builder builder' : TransactionBuilder} {states : List StateAndRef}

theorem addInputStates_ok : builder.addInputStates states = .ok builder' ↔
    (∀ s ∈ states, s.state.notary = builder.notary) ∧
      builder' = { builder with inputs := builder.inputs ++ states } := by
  rw [addInputStates, Result.bind_ok]
  constructor
  · rintro ⟨u, h, h'⟩
    exact ⟨require_ok.1 h, (Except.ok.inj h').symm⟩
  · rintro ⟨h, rfl⟩
    exact ⟨(), require_ok.2 h, rfl⟩

theorem addReferenceStates_ok : builder.addReferenceStates states = .ok builder' ↔
    (∀ s ∈ states, s.state.notary = builder.notary) ∧
      builder' = { builder with references := builder.references ++ states } := by
  rw [addReferenceStates, Result.bind_ok]
  constructor
  · rintro ⟨u, h, h'⟩
    exact ⟨require_ok.1 h, (Except.ok.inj h').symm⟩
  · rintro ⟨h, rfl⟩
    exact ⟨(), require_ok.2 h, rfl⟩

end TransactionBuilder

/-- What a builder holds after a flow has run a datagram. -/
structure TransactionBuilder.Built (P : Platform) (hub : ServiceHub) (handler : DatagramHandler)
    (inputs refs : List StateAndRef) (builder : TransactionBuilder) : Prop where
  exec : ∃ ctx, handler.execute P (.create (inputs.map (·.state.data)) (refs.map (·.state.data)))
    [hub.ourIdentity.owningKey] = .ok ctx ∧ builder.outputs = ctx.outStates.states
  inputs_eq : builder.inputs = inputs
  references_eq : builder.references = refs
  notary : ∀ s ∈ inputs ++ refs, s.state.notary = builder.notary
  commands : ∃ others : List CommandWithParties, (∀ c ∈ others, ∃ name, c.value = .other name) ∧
    builder.commands = others ++ [⟨.datagram handler, [hub.ourIdentity.owningKey]⟩]

section
variable {P : Platform} {hub : ServiceHub} {handler : DatagramHandler}
  {inputs refs : List StateAndRef} {builder₀ builder : TransactionBuilder}

theorem ServiceHub.addDatagram_ok
    (h : hub.addDatagram P builder₀ handler inputs refs = .ok builder) (hin : builder₀.inputs = [])
    (href : builder₀.references = []) (hout : builder₀.outputs = [])
    (hcmd : ∀ c ∈ builder₀.commands, ∃ name, c.value = .other name) : builder.Built P hub handler inputs refs := by
  simp only [addDatagram, TransactionBuilder.addReferenceStates_ok,
    TransactionBuilder.addInputStates_ok, TransactionBuilder.addCommand,
    TransactionBuilder.addOutputStates, Result.bind_ok, Except.ok.injEq] at h
  obtain ⟨ctx, hexec, _, ⟨hrefs, rfl⟩, _, ⟨hins, rfl⟩, rfl⟩ := h
  refine ⟨⟨ctx, hexec, by rw [hout, List.nil_append]⟩, ?_, ?_, fun s hs => ?_, _, hcmd, rfl⟩
  · show builder₀.inputs ++ inputs = inputs
    rw [hin, List.nil_append]
  · show builder₀.references ++ refs = refs
    rw [href, List.nil_append]
  · rcases List.mem_append.1 hs with hs | hs
    · exact hins s hs
    · exact hrefs s hs

theorem ServiceHub.newBuilder_ok (h : hub.newBuilder = .ok builder) :
    builder.inputs = [] ∧ builder.references = [] ∧ builder.outputs = [] ∧ builder.commands = [] := by
  simp only [newBuilder, Result.bind_ok, Except.ok.injEq] at h
  obtain ⟨notary, -, rfl⟩ := h
  exact ⟨rfl, rfl, rfl, rfl⟩

/-- A datagram on a new builder, with commands of other contracts. -/
theorem ServiceHub.addDatagram_new {others : List CommandWithParties}
    (hnew : hub.newBuilder = .ok builder₀) (hothers : ∀ c ∈ others, ∃ name, c.value = .other name)
    (h : hub.addDatagram P { builder₀ with commands := builder₀.commands ++ others } handler inputs
      refs = .ok builder) : builder.Built P hub handler inputs refs := by
  obtain ⟨hin, href, hout, hcmd⟩ := newBuilder_ok hnew
  refine addDatagram_ok h hin href hout fun c hc => ?_
  rw [hcmd, List.nil_append] at hc
  exact hothers c hc

end

/-- One key has to sign, and no other. -/
def TransactionBuilder.SignedBy (builder : TransactionBuilder) (key : PublicKey) : Prop :=
  ∀ c ∈ builder.commands, ∀ k ∈ c.signers, k = key

theorem ServiceHub.addDatagram_signed {P : Platform} {hub : ServiceHub} {handler : DatagramHandler}
    {inputs refs : List StateAndRef} {builder₀ builder : TransactionBuilder}
    {others : List CommandWithParties} (hnew : hub.newBuilder = .ok builder₀)
    (hothers : ∀ c ∈ others, ∀ k ∈ c.signers, k = hub.ourIdentity.owningKey)
    (h : hub.addDatagram P { builder₀ with commands := builder₀.commands ++ others } handler inputs
      refs = .ok builder) : builder.SignedBy hub.ourIdentity.owningKey := by
  obtain ⟨-, -, -, hcmd⟩ := newBuilder_ok hnew
  simp only [addDatagram, TransactionBuilder.addReferenceStates_ok,
    TransactionBuilder.addInputStates_ok, TransactionBuilder.addCommand,
    TransactionBuilder.addOutputStates, Result.bind_ok, Except.ok.injEq] at h
  obtain ⟨ctx, -, _, ⟨-, rfl⟩, _, ⟨-, rfl⟩, rfl⟩ := h
  intro c hc k hk
  simp only [hcmd, List.nil_append, List.mem_append, List.mem_singleton] at hc
  rcases hc with hc | rfl
  · exact hothers c hc k hk
  · exact List.mem_singleton.1 hk

/-! ## Flows -/

namespace Flow

/-- The state a flow picks for a bank of the host. -/
inductive BankOf (hub : ServiceHub) (b : StateRef) (port : String) : List StateAndRef → Prop
  | none (h : port ≠ "transfer") (h' : port ≠ "transfer-old") : BankOf hub b port []
  | bank {bank : Found Bank} (h : port = "transfer-old") (hbank : hub.Has b bank) :
    BankOf hub b port [bank.stateAndRef]
  | cashBank {bank : Found CashBank} (h : port = "transfer") (hbank : hub.Has b bank) :
    BankOf hub b port [bank.stateAndRef]

/-- The datagram a flow runs for the host of a base id, what it consumes and what it references. -/
inductive Picks (P : Platform) (M : Packing) (hub : ServiceHub) :
    Flow → Found Host → DatagramHandler → List StateAndRef → List StateAndRef → Prop
  | clientCreate {b : StateRef} {msg : MsgCreateClient} {host : Found Host} (hhost : hub.Has b host) :
    Picks P M hub (.clientCreate b msg) host (.handleClientCreate msg) [host.stateAndRef] []
  | connOpenInit {b : StateRef} {msg : MsgConnectionOpenInit} {host : Found Host}
    {client : Found IbcClientState} (hhost : hub.Has b host) (hclient : hub.Has b client) :
    Picks P M hub (.connOpenInit b msg) host (.handleConnOpenInit msg) [host.stateAndRef]
      [client.stateAndRef]
  | connOpenTry {b : StateRef} {msg : MsgConnectionOpenTry} {host : Found Host}
    {client : Found IbcClientState} {conn : Option (Found IbcConnection)} (hhost : hub.Has b host)
    (hclient : hub.Has b client) (hnone : msg.previousConnectionId = "" → conn = none)
    (hconn : ∀ found ∈ conn, hub.Has b found) :
    Picks P M hub (.connOpenTry b msg) host (.handleConnOpenTry msg)
      (host.stateAndRef :: (conn.map Found.stateAndRef).toList) [client.stateAndRef]
  | connOpenAck {b : StateRef} {msg : MsgConnectionOpenAck} {host : Found Host}
    {conn : Found IbcConnection} {client : Found IbcClientState} (hhost : hub.Has b host)
    (hconn : hub.Has b conn) (hclient : hub.Has b client) :
    Picks P M hub (.connOpenAck b msg) host (.handleConnOpenAck msg) [conn.stateAndRef]
      [host.stateAndRef, client.stateAndRef]
  | connOpenConfirm {b : StateRef} {msg : MsgConnectionOpenConfirm} {host : Found Host}
    {conn : Found IbcConnection} {client : Found IbcClientState} (hhost : hub.Has b host)
    (hconn : hub.Has b conn) (hclient : hub.Has b client) :
    Picks P M hub (.connOpenConfirm b msg) host (.handleConnOpenConfirm msg) [conn.stateAndRef]
      [host.stateAndRef, client.stateAndRef]
  | chanOpenInit {b : StateRef} {msg : MsgChannelOpenInit} {host : Found Host}
    {conn : Found IbcConnection} (hhost : hub.Has b host) (hconn : hub.Has b conn) :
    Picks P M hub (.chanOpenInit b msg) host (.handleChanOpenInit msg) [host.stateAndRef]
      [conn.stateAndRef]
  | chanOpenTry {b : StateRef} {msg : MsgChannelOpenTry} {host : Found Host}
    {conn : Found IbcConnection} {client : Found IbcClientState} {chan : Option (Found IbcChannel)}
    (hhost : hub.Has b host) (hconn : hub.Has b conn) (hclient : hub.Has b client)
    (hnone : msg.previousChannelId = "" → chan = none) (hchan : ∀ found ∈ chan, hub.Has b found) :
    Picks P M hub (.chanOpenTry b msg) host (.handleChanOpenTry msg)
      (host.stateAndRef :: (chan.map Found.stateAndRef).toList)
      [client.stateAndRef, conn.stateAndRef]
  | chanOpenAck {b : StateRef} {msg : MsgChannelOpenAck} {host : Found Host}
    {chan : Found IbcChannel} {conn : Found IbcConnection} {client : Found IbcClientState}
    (hhost : hub.Has b host) (hchan : hub.Has b chan) (hconn : hub.Has b conn)
    (hclient : hub.Has b client) :
    Picks P M hub (.chanOpenAck b msg) host (.handleChanOpenAck msg) [chan.stateAndRef]
      [host.stateAndRef, client.stateAndRef, conn.stateAndRef]
  | chanOpenConfirm {b : StateRef} {msg : MsgChannelOpenConfirm} {host : Found Host}
    {chan : Found IbcChannel} {conn : Found IbcConnection} {client : Found IbcClientState}
    (hhost : hub.Has b host) (hchan : hub.Has b chan) (hconn : hub.Has b conn)
    (hclient : hub.Has b client) :
    Picks P M hub (.chanOpenConfirm b msg) host (.handleChanOpenConfirm msg) [chan.stateAndRef]
      [host.stateAndRef, client.stateAndRef, conn.stateAndRef]
  | chanCloseInit {b : StateRef} {msg : MsgChannelCloseInit} {host : Found Host}
    {chan : Found IbcChannel} {conn : Found IbcConnection} (hhost : hub.Has b host)
    (hchan : hub.Has b chan) (hconn : hub.Has b conn) :
    Picks P M hub (.chanCloseInit b msg) host (.handleChanCloseInit msg) [chan.stateAndRef]
      [host.stateAndRef, conn.stateAndRef]
  | chanCloseConfirm {b : StateRef} {msg : MsgChannelCloseConfirm} {host : Found Host}
    {chan : Found IbcChannel} {conn : Found IbcConnection} {client : Found IbcClientState}
    (hhost : hub.Has b host) (hchan : hub.Has b chan) (hconn : hub.Has b conn)
    (hclient : hub.Has b client) :
    Picks P M hub (.chanCloseConfirm b msg) host (.handleChanCloseConfirm msg) [chan.stateAndRef]
      [host.stateAndRef, client.stateAndRef, conn.stateAndRef]
  | sendPacket {b : StateRef} {packet : Packet} {host : Found Host}
    {chan : Found IbcChannel} {conn : Found IbcConnection} {client : Found IbcClientState}
    (hhost : hub.Has b host) (hchan : hub.Has b chan) (hconn : hub.Has b conn)
    (hclient : hub.Has b client) :
    Picks P M hub (.sendPacket b packet) host (.createOutgoingPacket (M.packet packet))
      [chan.stateAndRef] [host.stateAndRef, client.stateAndRef, conn.stateAndRef]
  | recvPacket {b : StateRef} {msg : MsgRecvPacket} {host : Found Host} {chan : Found IbcChannel}
    {conn : Found IbcConnection} {client : Found IbcClientState} {bank coins : List StateAndRef}
    (hhost : hub.Has b host) (hchan : hub.Has b chan) (hconn : hub.Has b conn)
    (hclient : hub.Has b client) (hbank : BankOf hub b msg.packet.destinationPort bank)
    (hcoins : hub.Coins Cash coins) :
    Picks P M hub (.recvPacket b msg) host (.handlePacketRecv msg)
      (bank ++ coins ++ [chan.stateAndRef])
      [host.stateAndRef, conn.stateAndRef, client.stateAndRef]
  | acknowledgePacket {b : StateRef} {msg : MsgAcknowledgement} {host : Found Host}
    {chan : Found IbcChannel} {conn : Found IbcConnection} {client : Found IbcClientState}
    {bank : List StateAndRef} (hhost : hub.Has b host) (hchan : hub.Has b chan)
    (hconn : hub.Has b conn) (hclient : hub.Has b client)
    (hbank : BankOf hub b msg.packet.destinationPort bank) :
    Picks P M hub (.acknowledgePacket b msg) host (.handlePacketAcknowledgement msg)
      (chan.stateAndRef :: bank) [host.stateAndRef, client.stateAndRef, conn.stateAndRef]
  | sendTransfer {b : StateRef} {msg : MsgTransfer} {host : Found Host} {chan : Found IbcChannel}
    {conn : Found IbcConnection} {client : Found IbcClientState} {bank : Found Bank}
    (hhost : hub.Has b host) (hchan : hub.Has b chan) (hconn : hub.Has b conn)
    (hclient : hub.Has b client) (hbank : hub.Has b bank) :
    Picks P M hub (.sendTransfer b msg) host (.createOutgoingPacket (M.transfer msg))
      [chan.stateAndRef, bank.stateAndRef]
      [host.stateAndRef, client.stateAndRef, conn.stateAndRef]
  | transfer {b : StateRef} {msg : MsgTransfer} {host : Found Host} {chan : Found IbcChannel}
    {conn : Found IbcConnection} {client : Found IbcClientState} {bank : Found CashBank}
    {coins : List StateAndRef} (hhost : hub.Has b host) (hchan : hub.Has b chan)
    (hconn : hub.Has b conn) (hclient : hub.Has b client) (hbank : hub.Has b bank)
    (hcoins : hub.Coins Cash coins ∨ hub.Coins Voucher coins) :
    Picks P M hub (.transfer b msg) host (.createOutgoingPacket (M.transfer msg))
      ([chan.stateAndRef, bank.stateAndRef] ++ coins)
      [host.stateAndRef, client.stateAndRef, conn.stateAndRef]

/-- The set-up command of a flow, what it consumes and what it puts out. -/
inductive Sets (hub : ServiceHub) :
    Flow → MiscCommands → List StateAndRef → List ContractState → Prop
  | genesisCreate {participants : List Party} (hour : hub.ourIdentity ∈ participants) :
    Sets hub (.genesisCreate participants) .genesisCreate [] [.genesis ⟨participants⟩]
  | hostCreate {b : StateRef} {moduleNames : List (Identifier × String)}
    {clientStateFactoryNames : List (String × String)} {genesis : Found Genesis} {host : Host}
    (hgenesis : genesis.stateAndRef ∈ hub.states)
    (hcreate : Host.create genesis.data genesis.ref genesis.notary moduleNames
      clientStateFactoryNames = .ok host) :
    Sets hub (.hostCreate b moduleNames clientStateFactoryNames)
      (.hostCreate moduleNames clientStateFactoryNames) [genesis.stateAndRef] [.host host]
  | bankCreate {b : StateRef} {host : Found Host} {newHost : Host} {newBank : Bank}
    (hhost : hub.Has b host) (hcreate : MiscCommands.createBank host.data = .ok (newHost, newBank)) :
    Sets hub (.bankCreate b) .bankCreate [host.stateAndRef] [.host newHost, .bank newBank]
  | cashBankCreate {b : StateRef} {bank : Party} {host : Found Host} {newHost : Host}
    {newBank : CashBank} (hhost : hub.Has b host)
    (hcreate : MiscCommands.createCashBank host.data bank = .ok (newHost, newBank)) :
    Sets hub (.cashBankCreate b bank) (.cashBankCreate bank) [host.stateAndRef]
      [.host newHost, .cashBank newBank]
  | fundAllocate {b : StateRef} {owner : Address} {denom : Denom} {amount : Int}
    {bank : Found Bank} (hbank : hub.Has b bank) :
    Sets hub (.fundAllocate b owner denom amount) (.fundAllocate owner denom amount)
      [bank.stateAndRef] [.bank (bank.data.allocate owner denom amount)]

end Flow

/-- What a builder holds after a set-up flow. -/
structure TransactionBuilder.BuiltMisc (hub : ServiceHub) (command : MiscCommands)
    (inputs : List StateAndRef) (outputs : List ContractState) (builder : TransactionBuilder) :
    Prop where
  inputs_eq : builder.inputs = inputs
  references_eq : builder.references = []
  outputs_eq : builder.outputs = outputs
  notary : ∀ s ∈ inputs, s.state.notary = builder.notary
  commands : builder.commands = [⟨.misc command, [hub.ourIdentity.owningKey]⟩]

theorem ServiceHub.addMisc_new {hub : ServiceHub} {builder₀ builder : TransactionBuilder}
    {command : MiscCommands} {inputs : List StateAndRef} {outputs : List ContractState}
    (hnew : hub.newBuilder = .ok builder₀)
    (h : hub.addMisc builder₀ command inputs outputs = .ok builder) :
    builder.BuiltMisc hub command inputs outputs := by
  obtain ⟨hin, href, hout, hcmd⟩ := newBuilder_ok hnew
  simp only [addMisc, TransactionBuilder.addInputStates_ok, TransactionBuilder.addCommand,
    TransactionBuilder.addOutputStates, Result.bind_ok, Except.ok.injEq] at h
  obtain ⟨_, ⟨hins, rfl⟩, rfl⟩ := h
  exact ⟨by simp [hin], href, by simp [hout], hins, by simp [hcmd]⟩

namespace Flow
variable {P : Platform} {M : Packing} {hub : ServiceHub} {builder : TransactionBuilder} {b : StateRef}

/-- The flow runs a datagram on what it picks; only a receipt may need the signature of another. -/
structure RunsDatagram (P : Platform) (M : Packing) (hub : ServiceHub) (flow : Flow)
    (builder : TransactionBuilder) (host : Found Host) (handler : DatagramHandler)
    (inputs refs : List StateAndRef) : Prop where
  picks : Picks P M hub flow host handler inputs refs
  host_eq : hub.queryIbcHost host.data.baseId = some host
  participates : hub.ourIdentity ∈ host.data.participants
  built : builder.Built P hub handler inputs refs
  signed : (∀ b msg, flow ≠ .recvPacket b msg) → builder.SignedBy hub.ourIdentity.owningKey

/-- The flow sets something up. -/
structure RunsMisc (hub : ServiceHub) (flow : Flow) (builder : TransactionBuilder)
    (command : MiscCommands) (inputs : List StateAndRef) (outputs : List ContractState) : Prop where
  sets : Sets hub flow command inputs outputs
  built : builder.BuiltMisc hub command inputs outputs

theorem runsDatagram {flow : Flow} {host : Found Host} {handler : DatagramHandler}
    {inputs refs : List StateAndRef} {builder₀ : TransactionBuilder}
    (hhost : hub.hostOf b = .ok host) (hpicks : Picks P M hub flow host handler inputs refs)
    (hnew : hub.newBuilder = .ok builder₀)
    (h : hub.addDatagram P builder₀ handler inputs refs = .ok builder) :
    flow.RunsDatagram P M hub builder host handler inputs refs := by
  obtain ⟨⟨-, i, hi, hb⟩, hq, hour⟩ := ServiceHub.has_of_hostOf hhost
  cases hi
  obtain rfl : host.data.baseId = b := hb
  have h : hub.addDatagram P { builder₀ with commands := builder₀.commands ++ [] } handler inputs refs
      = .ok builder := by rwa [List.append_nil]
  refine ⟨hpicks, hq, hour, ServiceHub.addDatagram_new hnew ?_ h,
    fun _ => ServiceHub.addDatagram_signed hnew ?_ h⟩
  · exact fun c hc => absurd hc List.not_mem_nil
  · exact fun c hc => absurd hc List.not_mem_nil

/-- The flows of the other channel datagrams. -/
theorem runs_channelDatagram {flow : Flow} {id : String} {handler : DatagramHandler}
    (hpicks : ∀ {host : Found Host} {chan : Found IbcChannel} {conn : Found IbcConnection}
      {client : Found IbcClientState}, hub.Has b host → hub.Has b chan → hub.Has b conn →
      hub.Has b client → Picks P M hub flow host handler [chan.stateAndRef]
        [host.stateAndRef, client.stateAndRef, conn.stateAndRef])
    (h : hub.channelDatagram P b id handler = .ok builder) : ∃ host handler inputs refs,
      flow.RunsDatagram P M hub builder host handler inputs refs := by
  simp only [ServiceHub.channelDatagram, Result.bind_ok] at h
  obtain ⟨host, hhost, ⟨chan, conn, client⟩, hchan, builder₀, hnew, h⟩ := h
  obtain ⟨hch, hco, hcl⟩ := ServiceHub.has_of_channelOf hchan
  exact ⟨_, _, _, _, runsDatagram hhost (hpicks (ServiceHub.has_of_hostOf hhost).1 hch hco hcl) hnew h⟩

/-! ### Transfers -/

theorem bankOrNull_ok {packet : Packet} {bank : List StateAndRef}
    (h : IbcAcknowledgePacketFlow.bankOrNull hub b packet = .ok bank) :
    BankOf hub b packet.destinationPort bank := by
  unfold IbcAcknowledgePacketFlow.bankOrNull at h
  split at h
  · rename_i hport
    simp only [Result.bind_ok, notNull_ok, Except.ok.injEq] at h
    obtain ⟨found, hfound, rfl⟩ := h
    exact .cashBank hport (ServiceHub.has_of_single hfound)
  · rename_i hport
    split at h
    · rename_i hold
      simp only [Result.bind_ok, notNull_ok, Except.ok.injEq] at h
      obtain ⟨found, hfound, rfl⟩ := h
      exact .bank hold (ServiceHub.has_of_single hfound)
    · rename_i hold
      cases h
      exact .none hport hold

theorem unlockedCoins_ok {cashBank : CashBank} {packet : Packet} {coins : List StateAndRef}
    {commands : List CommandWithParties}
    (h : IbcRecvPacketFlow.unlockedCoins P hub cashBank packet = .ok (coins, commands)) :
    hub.Coins Cash coins ∧ ∀ c ∈ commands, ∃ name, c.value = .other name := by
  simp only [IbcRecvPacketFlow.unlockedCoins, Result.bind_ok] at h
  obtain ⟨data, -, port, -, channel, -, h⟩ := h
  split at h
  · obtain ⟨denom, -, h⟩ := Result.bind_ok.1 h
    split at h
    · cases h
      exact ⟨.nil, fun c hc => absurd hc List.not_mem_nil⟩
    · simp only [Result.bind_ok, Except.ok.injEq, Prod.mk.injEq] at h
      obtain ⟨_, -, issuer, -, quantity, -, currency, -, amount, -, coins, hcoins, -, -, rfl, rfl⟩ := h
      refine ⟨ServiceHub.coins_of_prepareCoins hcoins, fun c hc => ?_⟩
      rw [List.mem_singleton.1 hc]
      exact ⟨_, rfl⟩
  · cases h
    exact ⟨.nil, fun c hc => absurd hc List.not_mem_nil⟩

theorem transferStates_ok {packet : Packet} {states : List StateAndRef}
    {commands : List CommandWithParties}
    (h : IbcRecvPacketFlow.transferStates P hub b packet = .ok (states, commands)) :
    ∃ bank coins, states = bank ++ coins ∧ BankOf hub b packet.destinationPort bank ∧
      hub.Coins Cash coins ∧ ∀ c ∈ commands, ∃ name, c.value = .other name := by
  unfold IbcRecvPacketFlow.transferStates at h
  split at h
  · rename_i hport
    simp only [Result.bind_ok, notNull_ok, Except.ok.injEq, Prod.mk.injEq] at h
    obtain ⟨cashBank, hbank, ⟨coins, others⟩, hcoins, rfl, rfl⟩ := h
    obtain ⟨hc, hothers⟩ := unlockedCoins_ok hcoins
    exact ⟨[cashBank.stateAndRef], coins, rfl, .cashBank hport (ServiceHub.has_of_single hbank), hc,
      hothers⟩
  · rename_i hport
    split at h
    · rename_i hold
      simp only [Result.bind_ok, notNull_ok, Except.ok.injEq, Prod.mk.injEq] at h
      obtain ⟨bank, hbank, rfl, rfl⟩ := h
      exact ⟨[bank.stateAndRef], [], rfl, .bank hold (ServiceHub.has_of_single hbank), .nil,
        fun c hc => absurd hc List.not_mem_nil⟩
    · rename_i hold
      cases h
      exact ⟨[], [], rfl, .none hport hold, .nil, fun c hc => absurd hc List.not_mem_nil⟩

theorem senderCoins_ok {bank : CashBank} {denom : Denom} {quantity : Int}
    {coins : List StateAndRef} {commands : List CommandWithParties}
    (h : IbcTransferFlow.senderCoins P hub bank denom quantity = .ok (coins, commands)) :
    (hub.Coins Cash coins ∨ hub.Coins Voucher coins) ∧
      ∀ c ∈ commands, (∃ name, c.value = .other name) ∧ ∀ k ∈ c.signers, k = hub.ourIdentity.owningKey := by
  unfold IbcTransferFlow.senderCoins at h
  split at h
  · simp only [Result.bind_ok, Except.ok.injEq, Prod.mk.injEq] at h
    obtain ⟨currency, -, amount, -, coins, hcoins, -, -, rfl, rfl⟩ := h
    refine ⟨.inl (ServiceHub.coins_of_prepareCoins hcoins), fun c hc => ?_⟩
    rw [List.mem_singleton.1 hc]
    exact ⟨⟨_, rfl⟩, fun k hk => List.mem_singleton.1 hk⟩
  · simp only [Result.bind_ok, Except.ok.injEq, Prod.mk.injEq] at h
    obtain ⟨amount, -, coins, hcoins, -, -, rfl, rfl⟩ := h
    exact ⟨.inr (ServiceHub.coins_of_prepareCoins hcoins), fun c hc => absurd hc List.not_mem_nil⟩

/-! ### All flows -/

theorem runs_of_call {flow : Flow} (h : flow.call P M hub = .ok builder) :
    (∃ command inputs outputs, flow.RunsMisc hub builder command inputs outputs) ∨
      ∃ host handler inputs refs, flow.RunsDatagram P M hub builder host handler inputs refs := by
  cases flow with
  | genesisCreate participants =>
    simp only [Flow.call, IbcGenesisCreateFlow.call, ServiceHub.requireParticipant, Result.bind_ok,
      require_ok] at h
    obtain ⟨-, hour, builder₀, hnew, h⟩ := h
    exact .inl ⟨_, _, _, .genesisCreate hour, ServiceHub.addMisc_new hnew h⟩
  | hostCreate b moduleNames clientStateFactoryNames =>
    simp only [Flow.call, IbcHostCreateFlow.call, ServiceHub.requireParticipant, Result.bind_ok,
      notNull_ok] at h
    obtain ⟨builder₀, hnew, genesis, hgenesis, -, -, host, hcreate, h⟩ := h
    have hmem : genesis ∈ hub.queryBy Genesis :=
      List.mem_of_mem_filter (p := fun found : Found Genesis => found.ref = b)
        (by rw [singleOrNull_eq_some.1 hgenesis]; exact List.mem_singleton_self _)
    exact .inl ⟨_, _, _, .hostCreate (ServiceHub.mem_queryBy.1 hmem) hcreate,
      ServiceHub.addMisc_new hnew h⟩
  | bankCreate b =>
    simp only [Flow.call, IbcBankCreateFlow.call, ServiceHub.requireParticipant, Result.bind_ok,
      notNull_ok] at h
    obtain ⟨builder₀, hnew, host, hhost, -, -, ⟨newHost, newBank⟩, hcreate, h⟩ := h
    exact .inl ⟨_, _, _, .bankCreate (ServiceHub.has_of_single hhost) hcreate,
      ServiceHub.addMisc_new hnew h⟩
  | cashBankCreate b bank =>
    simp only [Flow.call, IbcCashBankCreateFlow.call, ServiceHub.requireParticipant, Result.bind_ok,
      notNull_ok] at h
    obtain ⟨builder₀, hnew, host, hhost, -, -, -, -, ⟨newHost, newBank⟩, hcreate, h⟩ := h
    exact .inl ⟨_, _, _, .cashBankCreate (ServiceHub.has_of_single hhost) hcreate,
      ServiceHub.addMisc_new hnew h⟩
  | fundAllocate b owner denom amount =>
    simp only [Flow.call, IbcFundAllocateFlow.call, ServiceHub.requireParticipant, Result.bind_ok,
      notNull_ok] at h
    obtain ⟨builder₀, hnew, bank, hbank, -, -, h⟩ := h
    exact .inl ⟨_, _, _, .fundAllocate (ServiceHub.has_of_single hbank),
      ServiceHub.addMisc_new hnew h⟩
  | clientCreate b msg =>
    simp only [Flow.call, IbcClientCreateFlow.call, Result.bind_ok] at h
    obtain ⟨host, hhost, builder₀, hnew, h⟩ := h
    exact .inr ⟨_, _, _, _, runsDatagram hhost (.clientCreate (ServiceHub.has_of_hostOf hhost).1) hnew h⟩
  | connOpenInit b msg =>
    simp only [Flow.call, IbcConnOpenInitFlow.call, Result.bind_ok] at h
    obtain ⟨host, hhost, client, hclient, builder₀, hnew, h⟩ := h
    exact .inr ⟨_, _, _, _, runsDatagram hhost (.connOpenInit (ServiceHub.has_of_hostOf hhost).1
      (ServiceHub.has_of_stateOf hclient)) hnew h⟩
  | connOpenTry b msg =>
    simp only [Flow.call, IbcConnOpenTryFlow.call, Result.bind_ok] at h
    obtain ⟨host, hhost, client, hclient, conn, hconn, builder₀, hnew, h⟩ := h
    obtain ⟨hnone, hhas⟩ := ServiceHub.has_of_stateOrNull hconn
    exact .inr ⟨_, _, _, _, runsDatagram hhost (.connOpenTry (ServiceHub.has_of_hostOf hhost).1
      (ServiceHub.has_of_stateOf hclient) hnone hhas) hnew h⟩
  | connOpenAck b msg =>
    simp only [Flow.call, IbcConnOpenAckFlow.call, Result.bind_ok] at h
    obtain ⟨host, hhost, conn, hconn, client, hclient, builder₀, hnew, h⟩ := h
    exact .inr ⟨_, _, _, _, runsDatagram hhost (.connOpenAck (ServiceHub.has_of_hostOf hhost).1
      (ServiceHub.has_of_stateOf hconn) (ServiceHub.has_of_stateOf hclient)) hnew h⟩
  | connOpenConfirm b msg =>
    simp only [Flow.call, IbcConnOpenConfirmFlow.call, Result.bind_ok] at h
    obtain ⟨host, hhost, conn, hconn, client, hclient, builder₀, hnew, h⟩ := h
    exact .inr ⟨_, _, _, _, runsDatagram hhost (.connOpenConfirm (ServiceHub.has_of_hostOf hhost).1
      (ServiceHub.has_of_stateOf hconn) (ServiceHub.has_of_stateOf hclient)) hnew h⟩
  | chanOpenInit b msg =>
    simp only [Flow.call, IbcChanOpenInitFlow.call, ServiceHub.connOf, Result.bind_ok] at h
    obtain ⟨host, hhost, conn, ⟨hop, -, hconn⟩, builder₀, hnew, h⟩ := h
    exact .inr ⟨_, _, _, _, runsDatagram hhost (.chanOpenInit (ServiceHub.has_of_hostOf hhost).1
      (ServiceHub.has_of_stateOf hconn)) hnew h⟩
  | chanOpenTry b msg =>
    simp only [Flow.call, IbcChanOpenTryFlow.call, ServiceHub.connOf, Result.bind_ok] at h
    obtain ⟨host, hhost, conn, ⟨hop, -, hconn⟩, client, hclient, chan, hchan, builder₀, hnew, h⟩ := h
    obtain ⟨hnone, hhas⟩ := ServiceHub.has_of_stateOrNull hchan
    exact .inr ⟨_, _, _, _, runsDatagram hhost (.chanOpenTry (ServiceHub.has_of_hostOf hhost).1
      (ServiceHub.has_of_stateOf hconn) (ServiceHub.has_of_stateOf hclient) hnone hhas) hnew h⟩
  | chanOpenAck b msg => exact .inr (runs_channelDatagram (fun h₁ h₂ h₃ h₄ => .chanOpenAck h₁ h₂ h₃ h₄) h)
  | chanOpenConfirm b msg =>
    exact .inr (runs_channelDatagram (fun h₁ h₂ h₃ h₄ => .chanOpenConfirm h₁ h₂ h₃ h₄) h)
  | chanCloseInit b msg =>
    simp only [Flow.call, IbcChanCloseInitFlow.call, ServiceHub.connOf, Result.bind_ok] at h
    obtain ⟨host, hhost, chan, hchan, conn, ⟨hop, -, hconn⟩, builder₀, hnew, h⟩ := h
    exact .inr ⟨_, _, _, _, runsDatagram hhost (.chanCloseInit (ServiceHub.has_of_hostOf hhost).1
      (ServiceHub.has_of_stateOf hchan) (ServiceHub.has_of_stateOf hconn)) hnew h⟩
  | chanCloseConfirm b msg =>
    exact .inr (runs_channelDatagram (fun h₁ h₂ h₃ h₄ => .chanCloseConfirm h₁ h₂ h₃ h₄) h)
  | sendPacket b packet =>
    exact .inr (runs_channelDatagram (fun h₁ h₂ h₃ h₄ => .sendPacket h₁ h₂ h₃ h₄) h)
  | recvPacket b msg =>
    simp only [Flow.call, IbcRecvPacketFlow.call, Result.bind_ok] at h
    obtain ⟨builder₀, hnew, host, hhost, ⟨states, commands⟩, hstates, ⟨chan, conn, client⟩, hchan,
      h⟩ := h
    obtain ⟨⟨hmem, i, hi, hb⟩, hq, hour⟩ := ServiceHub.has_of_hostOf hhost
    cases hi
    obtain rfl : host.data.baseId = b := hb
    obtain ⟨hch, hco, hcl⟩ := ServiceHub.has_of_channelOf hchan
    obtain ⟨bank, coins, rfl, hbank, hcoins, hothers⟩ := transferStates_ok hstates
    exact .inr ⟨host, _, _, _, .recvPacket ⟨hmem, _, rfl, rfl⟩ hch hco hcl hbank hcoins, hq, hour,
      ServiceHub.addDatagram_new hnew hothers h, fun hno => absurd rfl (hno _ _)⟩
  | acknowledgePacket b msg =>
    simp only [Flow.call, IbcAcknowledgePacketFlow.call, Result.bind_ok] at h
    obtain ⟨host, hhost, bank, hbank, ⟨chan, conn, client⟩, hchan, builder₀, hnew, h⟩ := h
    obtain ⟨hch, hco, hcl⟩ := ServiceHub.has_of_channelOf hchan
    exact .inr ⟨_, _, _, _, runsDatagram hhost (.acknowledgePacket (ServiceHub.has_of_hostOf hhost).1 hch hco hcl
      (bankOrNull_ok hbank)) hnew h⟩
  | sendTransfer b msg =>
    simp only [Flow.call, IbcSendTransferFlow.call, Result.bind_ok, notNull_ok] at h
    obtain ⟨host, hhost, ⟨chan, conn, client⟩, hchan, bank, hbank, builder₀, hnew, h⟩ := h
    obtain ⟨hch, hco, hcl⟩ := ServiceHub.has_of_channelOf hchan
    exact .inr ⟨_, _, _, _, runsDatagram hhost (.sendTransfer (ServiceHub.has_of_hostOf hhost).1 hch hco hcl
      (ServiceHub.has_of_single hbank)) hnew h⟩
  | transfer b msg =>
    simp only [Flow.call, IbcTransferFlow.call, Result.bind_ok, notNull_ok] at h
    obtain ⟨builder₀, hnew, host, hhost, ⟨chan, conn, client⟩, hchan, bank, hbank, denom, -, quantity,
      -, ⟨coins, commands⟩, hcoins, h⟩ := h
    obtain ⟨⟨hmem, i, hi, hb⟩, hq, hour⟩ := ServiceHub.has_of_hostOf hhost
    cases hi
    obtain rfl : host.data.baseId = b := hb
    obtain ⟨hch, hco, hcl⟩ := ServiceHub.has_of_channelOf hchan
    obtain ⟨hcoins, hothers⟩ := senderCoins_ok hcoins
    exact .inr ⟨host, _, _, _, .transfer ⟨hmem, _, rfl, rfl⟩ hch hco hcl
      (ServiceHub.has_of_single hbank) hcoins, hq, hour,
      ServiceHub.addDatagram_new hnew (fun c hc => (hothers c hc).1) h,
      fun _ => ServiceHub.addDatagram_signed hnew (fun c hc => (hothers c hc).2) h⟩

end Flow

end CordaIbc
