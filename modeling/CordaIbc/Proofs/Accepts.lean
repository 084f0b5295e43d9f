import CordaIbc.Proofs.Inversion

/-!
# The handshake handlers accept what passes their guards

The converse of `executes_of_ok` for the connection and channel handshake: where the guards of a
handler hold of the inputs and references of a transaction, it puts out the states that `Executes`
says. One lemma for each handler, in the order of `Handler`.
-/

namespace CordaIbc

open ChannelOuterClass (Channel)
open Context StateClass

variable {P : Platform} (ins refs : List ContractState)

/-! ## Contexts -/

section
variable {T U : Type} [StateClass T] [StateClass U] (t : T) (u : U)

theorem Context.create_addOutput (hT : isIbc T = true) :
    ∃ ctx', (Context.create ins refs).addOutput t = .ok ctx' ∧
      Outputs (.create ins refs) [up t] ctx' := by
  obtain ⟨ctx', h⟩ : ∃ ctx', (Context.create ins refs).addOutput t = .ok ctx' :=
    exists_addOutput fun _ hm => List.not_mem_nil hm
  exact ⟨ctx', h, (addOutput_ibc hT h).2⟩

theorem Context.create_addOutput_two (hT : isIbc T = true) (hU : isIbc U = true)
    (hne : ∀ u : U, (up u : ContractState) ≠ up t) :
    ∃ ctx₁ ctx₂, (Context.create ins refs).addOutput t = .ok ctx₁ ∧ ctx₁.addOutput u = .ok ctx₂ ∧
      Outputs (.create ins refs) [up t, up u] ctx₂ := by
  obtain ⟨ctx₁, h₁, ho₁⟩ := create_addOutput ins refs t hT
  have houts : ctx₁.outStates.states = [up t] := ho₁.outStates
  obtain ⟨ctx₂, h₂⟩ : ∃ ctx₂, ctx₁.addOutput u = .ok ctx₂ := exists_addOutput fun u' hm => by
    rw [houts, List.mem_singleton] at hm
    exact hne u' hm
  exact ⟨ctx₁, ctx₂, h₁, h₂, addOutput_two hT hU h₁ h₂⟩

end

namespace Handler

/-! ## Connections -/

theorem connOpenInit_of (msg : MsgConnectionOpenInit) {host : Host} {client : IbcClientState}
    (hhost : (Context.create ins refs).getInput Host = .ok host)
    (hclient : ClientOf (.create ins refs) msg.clientId client)
    (hversion : ∀ v, msg.version = some v → v = VERSION) :
    ∃ ctx', connOpenInit (.create ins refs) msg = .ok ctx' ∧
      Outputs (.create ins refs) [.host host.generateConnectionIdentifier.1,
        .connection (.create host host.generateConnectionIdentifier.2
          { clientId := msg.clientId, versionsList := [VERSION], state := .init
            counterparty := msg.counterparty, delayPeriod := msg.delayPeriod })] ctx' := by
  have hversions : connOpenInit.versions host msg = .ok [VERSION] := by
    unfold connOpenInit.versions
    cases hm : msg.version with
    | none => rfl
    | some v =>
      obtain rfl := hversion v hm
      exact Result.bind_ok.2 ⟨(), require_ok.2 (List.mem_singleton_self _), rfl⟩
  obtain ⟨ctx₁, ctx₂, h₁, h₂, ho⟩ := create_addOutput_two ins refs
    host.generateConnectionIdentifier.1 (IbcConnection.create host host.generateConnectionIdentifier.2
      { clientId := msg.clientId, versionsList := [VERSION], state := .init
        counterparty := msg.counterparty, delayPeriod := msg.delayPeriod }) rfl rfl nofun
  refine ⟨ctx₂, ?_, ho⟩
  simp only [connOpenInit, Result.bind_ok, requireId_ok]
  exact ⟨host, hhost, client, hclient.ref, (), hclient.id, [VERSION], hversions, ctx₁, h₁, h₂⟩

theorem connOpenTry_of (msg : MsgConnectionOpenTry) {host : Host} {client : IbcClientState}
    (hhost : (Context.create ins refs).getInput Host = .ok host)
    (hclient : ClientOf (.create ins refs) msg.clientId client) (hnew : msg.previousConnectionId = "")
    (hheight : msg.consensusHeight = HEIGHT) (hversion : VERSION ∈ msg.counterpartyVersionsList)
    (hconn : ProvesConnection P client msg.proofHeight msg.counterparty.prefix_ msg.proofInit
      msg.counterparty.connectionId msg.expected)
    (hstate : ProvesClient P client msg.proofHeight msg.counterparty.prefix_ msg.proofClient
      msg.counterparty.clientId msg.clientState)
    (hconsensus : ProvesConsensus P client msg.proofHeight msg.counterparty.prefix_
      msg.proofConsensus msg.counterparty.clientId HEIGHT Host.defaultConsensusState) :
    ∃ ctx', connOpenTry P (.create ins refs) msg = .ok ctx' ∧
      Outputs (.create ins refs) [.host host.generateConnectionIdentifier.1,
        .connection (.create host host.generateConnectionIdentifier.2 (msg.toEnd VERSION))] ctx' := by
  obtain ⟨p₁, hp₁, i₁, hi₁, hv₁⟩ := hconn
  obtain ⟨p₂, hp₂, i₂, hi₂, hv₂⟩ := hstate
  obtain ⟨p₃, hp₃, i₃, hi₃, hv₃⟩ := hconsensus
  rw [← hheight] at hv₃
  have hprevious : connOpenTry.previous (.create ins refs) host msg =
      .ok (host.generateConnectionIdentifier.1, host.generateConnectionIdentifier.2, []) := by
    unfold connOpenTry.previous
    rw [if_neg (not_not.2 hnew)]
  have hpick : List.filter (fun v => decide (v ∈ msg.counterpartyVersionsList))
      (if ([] : List Connection.Version).isEmpty = true then host.getCompatibleVersions else []) =
      VERSION :: [] := by
    simp [Host.getCompatibleVersions, hversion]
  obtain ⟨ctx₁, ctx₂, h₁, h₂, ho⟩ := create_addOutput_two ins refs
    host.generateConnectionIdentifier.1
    (IbcConnection.create host host.generateConnectionIdentifier.2 (msg.toEnd VERSION)) rfl rfl
    fun _ h => ContractState.noConfusion h
  refine ⟨ctx₂, ?_, ho⟩
  simp only [connOpenTry, Result.bind_ok, require_ok, requireId_ok, CommitmentProof.of_ok,
    Identifier.of_ok, Host.pickVersion, first_ok, Host.getConsensusState, Except.ok.injEq]
  exact ⟨host, hhost, client, hclient.ref, (), hclient.id, _, hprevious, (), hheight, _,
    ⟨(), hheight, rfl⟩, VERSION, ⟨[], hpick⟩, p₁, hp₁, i₁, hi₁, (), hv₁, i₂, hi₂, p₂, hp₂, (), hv₂, i₃,
    hi₃, p₃, hp₃, (), hv₃, ctx₁, h₁, h₂⟩

theorem connOpenAck_of (msg : MsgConnectionOpenAck) {host : Host} {conn : IbcConnection}
    {client : IbcClientState} (hhost : (Context.create ins refs).getReference Host = .ok host)
    (hconn : (Context.create ins refs).getInput IbcConnection = .ok conn)
    (hid : conn.id.id = msg.connectionId)
    (hclient : ClientOf (.create ins refs) conn.end_.clientId client)
    (hheight : msg.consensusHeight = HEIGHT) (hinit : conn.end_.state = .init)
    (hversion : msg.version = VERSION)
    (hproof : ProvesConnection P client msg.proofHeight conn.end_.counterparty.prefix_ msg.proofTry
      msg.counterpartyConnectionId (conn.expectedTry msg.version))
    (hstate : ProvesClient P client msg.proofHeight conn.end_.counterparty.prefix_ msg.proofClient
      conn.end_.counterparty.clientId msg.clientState)
    (hconsensus : ProvesConsensus P client msg.proofHeight conn.end_.counterparty.prefix_
      msg.proofConsensus conn.end_.counterparty.clientId HEIGHT Host.defaultConsensusState) :
    ∃ ctx', connOpenAck P (.create ins refs) msg = .ok ctx' ∧ Outputs (.create ins refs)
      [.connection (conn.acked msg.counterpartyConnectionId msg.version)] ctx' := by
  obtain ⟨p₁, hp₁, i₁, hi₁, hv₁⟩ := hproof
  obtain ⟨p₂, hp₂, i₂, hi₂, hv₂⟩ := hstate
  obtain ⟨p₃, hp₃, i₃, hi₃, hv₃⟩ := hconsensus
  rw [← hheight] at hv₃
  unfold IbcConnection.expectedTry at hv₁
  rw [hid] at hv₁
  have hcheck : connOpenAck.checkVersion host conn msg = .ok () := by
    unfold connOpenAck.checkVersion
    rw [hinit]
    exact require_ok.2 (List.mem_singleton.2 hversion)
  obtain ⟨ctx', h₁, ho⟩ := create_addOutput ins refs
    (conn.acked msg.counterpartyConnectionId msg.version) rfl
  refine ⟨ctx', ?_, ho⟩
  simp only [connOpenAck, Result.bind_ok, require_ok, requireId_ok, CommitmentProof.of_ok,
    Identifier.of_ok, Host.getConsensusState, Except.ok.injEq]
  exact ⟨host, hhost, conn, hconn, (), hid, client, hclient.ref, (), hclient.id, (), hheight, (),
    hcheck, _, ⟨(), hheight, rfl⟩, p₁, hp₁, i₁, hi₁, (), hv₁, i₂, hi₂, p₂, hp₂, (), hv₂, i₃, hi₃, p₃,
    hp₃, (), hv₃, h₁⟩

theorem connOpenConfirm_of (msg : MsgConnectionOpenConfirm) {host : Host} {conn : IbcConnection}
    {client : IbcClientState} (hhost : (Context.create ins refs).getReference Host = .ok host)
    (hconn : (Context.create ins refs).getInput IbcConnection = .ok conn)
    (hid : conn.id.id = msg.connectionId)
    (hclient : ClientOf (.create ins refs) conn.end_.clientId client)
    (htry : conn.end_.state = .tryOpen)
    (hproof : ProvesConnection P client msg.proofHeight conn.end_.counterparty.prefix_ msg.proofAck
      conn.end_.counterparty.connectionId conn.expectedOpen) :
    ∃ ctx', connOpenConfirm P (.create ins refs) msg = .ok ctx' ∧
      Outputs (.create ins refs) [.connection conn.confirmed] ctx' := by
  obtain ⟨p, hp, i, hi, hv⟩ := hproof
  unfold IbcConnection.expectedOpen at hv
  rw [hid] at hv
  obtain ⟨ctx', h₁, ho⟩ := create_addOutput ins refs conn.confirmed rfl
  refine ⟨ctx', ?_, ho⟩
  simp only [connOpenConfirm, Result.bind_ok, require_ok, requireId_ok, CommitmentProof.of_ok,
    Identifier.of_ok]
  exact ⟨host, hhost, conn, hconn, (), hid, client, hclient.ref, (), hclient.id, (), htry, p, hp, i,
    hi, (), hv, h₁⟩

/-! ## Channels -/

theorem requireOrdering_of {conn : IbcConnection} {ordering : ChannelOuterClass.Order}
    {version : Connection.Version} (hversions : conn.end_.versionsList = [version])
    (hordering : ordering.name ∈ version.featuresList) : requireOrdering conn ordering = .ok () := by
  unfold requireOrdering
  rw [hversions]
  exact require_ok.2 hordering

theorem chanOpenInit_of (msg : MsgChannelOpenInit) {host : Host} {conn : IbcConnection}
    {version : Connection.Version} (port : Identifier)
    (hhost : (Context.create ins refs).getInput Host = .ok host)
    (hconn : ConnOf (.create ins refs) msg.channel.connectionHopsList conn)
    (hversions : conn.end_.versionsList = [version])
    (hordering : msg.channel.ordering.name ∈ version.featuresList) (hport : port.id = msg.portId) :
    ∃ ctx', chanOpenInit (.create ins refs) msg = .ok ctx' ∧
      Outputs (.create ins refs) [.host host.generateChannelIdentifier.1,
        .channel (.create host port host.generateChannelIdentifier.2
          { msg.channel with state := .init })] ctx' := by
  obtain ⟨ctx₁, ctx₂, h₁, h₂, ho⟩ := create_addOutput_two ins refs
    host.generateChannelIdentifier.1 (IbcChannel.create host port host.generateChannelIdentifier.2
      { msg.channel with state := .init }) rfl rfl nofun
  refine ⟨ctx₂, ?_, ho⟩
  simp only [chanOpenInit, Result.bind_ok, requireId_ok, single_ok, Identifier.of_ok]
  exact ⟨host, hhost, conn, hconn.ref, conn.id.id, hconn.hops, (), rfl, (),
    requireOrdering_of hversions hordering, ctx₁, h₁, port, hport, h₂⟩

theorem chanOpenTry_of (msg : MsgChannelOpenTry) {host : Host} {conn : IbcConnection}
    {client : IbcClientState} {version : Connection.Version} (port : Identifier)
    (hhost : (Context.create ins refs).getInput Host = .ok host)
    (hconn : ConnOf (.create ins refs) msg.channel.connectionHopsList conn)
    (hclient : ClientOf (.create ins refs) conn.end_.clientId client)
    (hnew : msg.previousChannelId = "") (hopen : conn.end_.state = .opened)
    (hversions : conn.end_.versionsList = [version])
    (hordering : msg.channel.ordering.name ∈ version.featuresList)
    (hproof : ProvesChannel P client msg.proofHeight conn.end_.counterparty.prefix_ msg.proofInit
      msg.channel.counterparty.portId msg.channel.counterparty.channelId (msg.expected conn))
    (hport : port.id = msg.portId) : ∃ ctx', chanOpenTry P (.create ins refs) msg = .ok ctx' ∧
      Outputs (.create ins refs) [.host host.generateChannelIdentifier.1,
        .channel (.create host port host.generateChannelIdentifier.2
          { msg.channel with state := .tryOpen })] ctx' := by
  obtain ⟨p, hp, i₁, hi₁, i₂, hi₂, hv⟩ := hproof
  have hprevious : chanOpenTry.previous (.create ins refs) msg = .ok none := by
    unfold chanOpenTry.previous
    rw [if_neg (not_not.2 hnew)]
  obtain ⟨ctx₁, ctx₂, h₁, h₂, ho⟩ := create_addOutput_two ins refs
    host.generateChannelIdentifier.1 (IbcChannel.create host port host.generateChannelIdentifier.2
      { msg.channel with state := .tryOpen }) rfl rfl nofun
  refine ⟨ctx₂, ?_, ho⟩
  simp only [chanOpenTry, Result.bind_ok, require_ok, requireId_ok, single_ok, CommitmentProof.of_ok,
    Identifier.of_ok]
  exact ⟨host, hhost, conn, hconn.ref, conn.id.id, hconn.hops, (), rfl, client, hclient.ref, (),
    hclient.id, none, hprevious, (), hopen, (), requireOrdering_of hversions hordering, p, hp, i₁, hi₁,
    i₂, hi₂, (), hv, port, hport, ctx₁, h₁, h₂⟩

section
variable {host : Host} {chan : IbcChannel} {conn : IbcConnection} {client : IbcClientState}
  (hhost : (Context.create ins refs).getReference Host = .ok host)
  (hchan : (Context.create ins refs).getInput IbcChannel = .ok chan)
  (hconn : ConnOf (.create ins refs) chan.end_.connectionHopsList conn)
  (hopen : conn.end_.state = .opened)
include hhost hchan hconn hopen

theorem chanOpenAck_of (msg : MsgChannelOpenAck) (hport : chan.portId.id = msg.portId)
    (hid : chan.id.id = msg.channelId)
    (hclient : ClientOf (.create ins refs) conn.end_.clientId client)
    (hstate : chan.end_.state = .init ∨ chan.end_.state = .tryOpen)
    (hproof : ProvesChannel P client msg.proofHeight conn.end_.counterparty.prefix_ msg.proofTry
      chan.end_.counterparty.portId msg.counterpartyChannelId
      (chan.expected conn .tryOpen msg.counterpartyVersion)) :
    ∃ ctx', chanOpenAck P (.create ins refs) msg = .ok ctx' ∧ Outputs (.create ins refs)
      [.channel (chan.acked msg.counterpartyChannelId msg.counterpartyVersion)] ctx' := by
  obtain ⟨p, hp, i₁, hi₁, i₂, hi₂, hv⟩ := hproof
  unfold IbcChannel.expected at hv
  rw [hport, hid] at hv
  obtain ⟨ctx', h₁, ho⟩ := create_addOutput ins refs
    (chan.acked msg.counterpartyChannelId msg.counterpartyVersion) rfl
  refine ⟨ctx', ?_, ho⟩
  simp only [chanOpenAck, Result.bind_ok, require_ok, requireId_ok, single_ok, CommitmentProof.of_ok,
    Identifier.of_ok]
  exact ⟨host, hhost, chan, hchan, (), hport, (), hid, conn, hconn.ref, conn.id.id, hconn.hops, (), rfl,
    client, hclient.ref, (), hclient.id, (), hstate, (), hopen, p, hp, i₁, hi₁, i₂, hi₂, (), hv, h₁⟩

theorem chanOpenConfirm_of (msg : MsgChannelOpenConfirm) (hport : chan.portId.id = msg.portId)
    (hid : chan.id.id = msg.channelId)
    (hclient : ClientOf (.create ins refs) conn.end_.clientId client)
    (hstate : chan.end_.state = .tryOpen)
    (hproof : ProvesChannel P client msg.proofHeight conn.end_.counterparty.prefix_ msg.proofAck
      chan.end_.counterparty.portId chan.end_.counterparty.channelId
      (chan.expected conn .opened chan.end_.version)) :
    ∃ ctx', chanOpenConfirm P (.create ins refs) msg = .ok ctx' ∧
      Outputs (.create ins refs) [.channel (chan.withState .opened)] ctx' := by
  obtain ⟨p, hp, i₁, hi₁, i₂, hi₂, hv⟩ := hproof
  unfold IbcChannel.expected at hv
  rw [hport, hid] at hv
  obtain ⟨ctx', h₁, ho⟩ := create_addOutput ins refs (chan.withState .opened) rfl
  refine ⟨ctx', ?_, ho⟩
  simp only [chanOpenConfirm, Result.bind_ok, require_ok, requireId_ok, single_ok,
    CommitmentProof.of_ok, Identifier.of_ok]
  exact ⟨host, hhost, chan, hchan, (), hport, (), hid, conn, hconn.ref, conn.id.id, hconn.hops, (), rfl,
    client, hclient.ref, (), hclient.id, (), hstate, (), hopen, p, hp, i₁, hi₁, i₂, hi₂, (), hv, h₁⟩

theorem chanCloseInit_of (msg : MsgChannelCloseInit) (hport : chan.portId.id = msg.portId)
    (hid : chan.id.id = msg.channelId) (hstate : chan.end_.state ≠ .closed) :
    ∃ ctx', chanCloseInit (.create ins refs) msg = .ok ctx' ∧
      Outputs (.create ins refs) [.channel (chan.withState .closed)] ctx' := by
  obtain ⟨ctx', h₁, ho⟩ := create_addOutput ins refs (chan.withState .closed) rfl
  refine ⟨ctx', ?_, ho⟩
  simp only [chanCloseInit, Result.bind_ok, require_ok, requireId_ok, single_ok]
  exact ⟨host, hhost, chan, hchan, (), hport, (), hid, conn, hconn.ref, conn.id.id, hconn.hops, (), rfl,
    (), hstate, (), hopen, h₁⟩

theorem chanCloseConfirm_of (msg : MsgChannelCloseConfirm) (hport : chan.portId.id = msg.portId)
    (hid : chan.id.id = msg.channelId)
    (hclient : ClientOf (.create ins refs) conn.end_.clientId client)
    (hstate : chan.end_.state ≠ .closed)
    (hproof : ProvesChannel P client msg.proofHeight conn.end_.counterparty.prefix_ msg.proofInit
      chan.end_.counterparty.portId chan.end_.counterparty.channelId
      (chan.expected conn .closed chan.end_.version)) :
    ∃ ctx', chanCloseConfirm P (.create ins refs) msg = .ok ctx' ∧
      Outputs (.create ins refs) [.channel (chan.withState .closed)] ctx' := by
  obtain ⟨p, hp, i₁, hi₁, i₂, hi₂, hv⟩ := hproof
  unfold IbcChannel.expected at hv
  rw [hport, hid] at hv
  obtain ⟨ctx', h₁, ho⟩ := create_addOutput ins refs (chan.withState .closed) rfl
  refine ⟨ctx', ?_, ho⟩
  simp only [chanCloseConfirm, Result.bind_ok, require_ok, requireId_ok, single_ok,
    CommitmentProof.of_ok, Identifier.of_ok]
  exact ⟨host, hhost, chan, hchan, (), hport, (), hid, conn, hconn.ref, conn.id.id, hconn.hops, (), rfl,
    client, hclient.ref, (), hclient.id, (), hstate, (), hopen, p, hp, i₁, hi₁, i₂, hi₂, (), hv, h₁⟩

end

end Handler

end CordaIbc
