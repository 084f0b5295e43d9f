import CordaIbc.Execution

/-!
# Inversion of the handlers

`executes_of_ok`: an accepted datagram added exactly the states `Executes` says to the outputs of
its context. One lemma for each handler function, in the order of `Handler`.
-/

namespace CordaIbc

open ChannelOuterClass (Channel Packet Acknowledgement)
open Context StateClass

variable {P : Platform} {ctx ctx' : Context}

/-! ## Contexts -/

theorem addOutput_two {T U : Type} [StateClass T] [StateClass U] {t : T} {u : U}
    {ctx₁ : Context} (hT : isIbc T = true) (hU : isIbc U = true) (h₁ : ctx.addOutput t = .ok ctx₁)
    (h₂ : ctx₁.addOutput u = .ok ctx') : Outputs ctx [up t, up u] ctx' :=
  (addOutput_ibc hT h₁).2.trans (addOutput_ibc hU h₂).2

theorem ConnOf.of_outputs {ss : List ContractState} {hops : List String} {conn : IbcConnection}
    (ho : Outputs ctx ss ctx') (h : ConnOf ctx' hops conn) : ConnOf ctx hops conn :=
  ⟨(ho.getReference _).symm.trans h.ref, h.hops⟩

theorem ClientOf.of_outputs {ss : List ContractState} {id : String} {client : IbcClientState}
    (ho : Outputs ctx ss ctx') (h : ClientOf ctx' id client) : ClientOf ctx id client :=
  ⟨(ho.getReference _).symm.trans h.ref, h.id⟩

theorem Opened.of_outputs {ss : List ContractState} {chan : IbcChannel} {conn : IbcConnection}
    {client : IbcClientState} (ho : Outputs ctx ss ctx') (h : Opened ctx' chan conn client) :
    Opened ctx chan conn client :=
  ⟨h.hop.of_outputs ho, h.clientOf.of_outputs ho, h.chanOpen, h.connOpen⟩

theorem Sends.of_outputs {ss : List ContractState} {packet : Packet} {chan : IbcChannel}
    (ho : Outputs ctx ss ctx') (h : Sends P ctx' packet chan) : Sends P ctx packet chan := by
  obtain ⟨conn, client, hconn, hclient, hh⟩ := h.client
  exact { h with
    input := (ho.getInput _).symm.trans h.input
    client := ⟨conn, client, hconn.of_outputs ho, hclient.of_outputs ho, hh⟩ }

theorem Receives.of_outputs {ss : List ContractState} {msg : MsgRecvPacket} {ack : Acknowledgement}
    {chan chan' : IbcChannel} (ho : Outputs ctx ss ctx') (h : Receives P ctx' msg ack chan chan') :
    Receives P ctx msg ack chan chan' := by
  obtain ⟨conn, client, hopen, hp⟩ := h.proof
  exact { h with
    input := (ho.getInput _).symm.trans h.input
    proof := ⟨conn, client, hopen.of_outputs ho, hp⟩ }

theorem Acknowledges.of_outputs {ss : List ContractState} {msg : MsgAcknowledgement}
    {ack : Acknowledgement} {chan chan' : IbcChannel} (ho : Outputs ctx ss ctx')
    (h : Acknowledges P ctx' msg ack chan chan') : Acknowledges P ctx msg ack chan chan' := by
  obtain ⟨conn, client, hopen, hp⟩ := h.proof
  exact { h with
    input := (ho.getInput _).symm.trans h.input
    proof := ⟨conn, client, hopen.of_outputs ho, hp⟩ }

/-! ## Clients and connections -/

section
variable {signers : List PublicKey}

namespace Handler

theorem createClient_ok {msg : MsgCreateClient} (h : createClient P ctx msg = .ok ctx') :
    ∃ outs, Executes P ctx signers (.handleClientCreate msg) outs ∧ Outputs ctx outs ctx' := by
  simp only [createClient, Result.bind_ok] at h
  obtain ⟨host, hhost, state, hstate, type, htype, ctx₁, h₁, h₂⟩ := h
  exact ⟨_, .createClient hhost hstate htype, addOutput_two rfl rfl h₁ h₂⟩

theorem connOpenInit_versions_ok {host : Host} {msg : MsgConnectionOpenInit}
    {versions : List Connection.Version} (h : connOpenInit.versions host msg = .ok versions) :
    versions = [VERSION] ∧ ∀ v, msg.version = some v → v = VERSION := by
  unfold connOpenInit.versions at h
  cases hm : msg.version with
  | none =>
    rw [hm] at h
    cases h
    exact ⟨rfl, nofun⟩
  | some v =>
    rw [hm] at h
    simp only [Result.bind_ok, require_ok] at h
    obtain ⟨-, hmem, h⟩ := h
    cases h
    obtain rfl : v = VERSION := by simpa [Host.getCompatibleVersions] using hmem
    exact ⟨rfl, by simp⟩

theorem connOpenInit_ok {msg : MsgConnectionOpenInit} (h : connOpenInit ctx msg = .ok ctx') :
    ∃ outs, Executes P ctx signers (.handleConnOpenInit msg) outs ∧ Outputs ctx outs ctx' := by
  simp only [connOpenInit, Result.bind_ok, requireId_ok] at h
  obtain ⟨host, hhost, client, hclient, -, hid, versions, hv, ctx₁, h₁, h₂⟩ := h
  obtain ⟨rfl, hversion⟩ := connOpenInit_versions_ok hv
  exact ⟨_, .connOpenInit hhost ⟨hclient, hid⟩ hversion, addOutput_two rfl rfl h₁ h₂⟩

theorem connOpenTry_ok {msg : MsgConnectionOpenTry} (h : connOpenTry P ctx msg = .ok ctx') :
    ∃ outs, Executes P ctx signers (.handleConnOpenTry msg) outs ∧ Outputs ctx outs ctx' := by
  simp only [connOpenTry, Result.bind_ok, require_ok, requireId_ok, CommitmentProof.of_ok,
    Identifier.of_ok, Host.pickVersion, first_ok, Host.getConsensusState, Except.ok.injEq] at h
  obtain ⟨host, hhost, client, hclient, -, hid, ⟨nextHost, id, previous⟩, hprevious, -, hheight, _,
    ⟨-, -, rfl⟩, version, ⟨rest, hpick⟩, p₁, hp₁, i₁, hi₁, ⟨⟩, hv₁, i₂, hi₂, p₂, hp₂, ⟨⟩, hv₂, i₃,
    hi₃, p₃, hp₃, ⟨⟩, hv₃, ctx₁, h₁, h₂⟩ := h
  rw [show msg.consensusHeight = HEIGHT from hheight] at hv₃
  have hmem : version ∈ List.filter (· ∈ msg.counterpartyVersionsList)
      (if previous.isEmpty then host.getCompatibleVersions else previous) := by
    rw [hpick]; exact List.mem_cons_self
  obtain ⟨hsupported, hversion⟩ := List.mem_filter.1 hmem
  exact ⟨_, .connOpenTry hhost ⟨hclient, hid⟩ hprevious hheight hsupported (by simpa using hversion)
    ⟨p₁, hp₁, i₁, hi₁, hv₁⟩ ⟨p₂, hp₂, i₂, hi₂, hv₂⟩ ⟨p₃, hp₃, i₃, hi₃, hv₃⟩,
    addOutput_two rfl rfl h₁ h₂⟩

theorem connOpenAck_checkVersion_ok {host : Host} {conn : IbcConnection}
    {msg : MsgConnectionOpenAck} (h : connOpenAck.checkVersion host conn msg = .ok ()) :
    conn.end_.state = .init ∧ msg.version = VERSION ∨
      conn.end_.state = .tryOpen ∧ conn.end_.versionsList = [msg.version] := by
  unfold connOpenAck.checkVersion at h
  cases hs : conn.end_.state <;> rw [hs] at h <;>
    simp only [Result.bind_ok, require_ok, single_ok, Result.error_ok] at h
  · exact .inl ⟨rfl, by simpa [Host.getCompatibleVersions] using h⟩
  · obtain ⟨v, hv, rfl⟩ := h
    exact .inr ⟨rfl, hv⟩

theorem connOpenAck_ok {msg : MsgConnectionOpenAck} (h : connOpenAck P ctx msg = .ok ctx') :
    ∃ outs, Executes P ctx signers (.handleConnOpenAck msg) outs ∧ Outputs ctx outs ctx' := by
  simp only [connOpenAck, Result.bind_ok, require_ok, requireId_ok, CommitmentProof.of_ok,
    Identifier.of_ok, Host.getConsensusState, Except.ok.injEq] at h
  obtain ⟨host, hhost, conn, hconn, -, hcid, client, hclient, -, hid, -, hheight, ⟨⟩, hversion, _,
    ⟨-, -, rfl⟩, p₁, hp₁, i₁, hi₁, ⟨⟩, hv₁, i₂, hi₂, p₂, hp₂, ⟨⟩, hv₂, i₃, hi₃, p₃, hp₃, ⟨⟩, hv₃,
    h₁⟩ := h
  rw [show msg.consensusHeight = HEIGHT from hheight] at hv₃
  rw [← hcid] at hv₁
  exact ⟨_, .connOpenAck hconn hcid ⟨hclient, hid⟩ hheight (connOpenAck_checkVersion_ok hversion)
    ⟨p₁, hp₁, i₁, hi₁, hv₁⟩ ⟨p₂, hp₂, i₂, hi₂, hv₂⟩ ⟨p₃, hp₃, i₃, hi₃, hv₃⟩, (addOutput_ibc rfl h₁).2⟩

theorem connOpenConfirm_ok {msg : MsgConnectionOpenConfirm}
    (h : connOpenConfirm P ctx msg = .ok ctx') :
    ∃ outs, Executes P ctx signers (.handleConnOpenConfirm msg) outs ∧ Outputs ctx outs ctx' := by
  simp only [connOpenConfirm, Result.bind_ok, require_ok, requireId_ok, CommitmentProof.of_ok,
    Identifier.of_ok] at h
  obtain ⟨host, hhost, conn, hconn, -, hcid, client, hclient, -, hid, -, htry, p, hp, i, hi, ⟨⟩,
    hv, h₁⟩ := h
  rw [← hcid] at hv
  exact ⟨_, .connOpenConfirm hconn hcid ⟨hclient, hid⟩ htry ⟨p, hp, i, hi, hv⟩,
    (addOutput_ibc rfl h₁).2⟩

/-! ## Channels -/

theorem requireOrdering_ok {conn : IbcConnection} {ordering : ChannelOuterClass.Order} {u : Unit}
    (h : requireOrdering conn ordering = .ok u) :
    ∃ version, conn.end_.versionsList = [version] ∧ ordering.name ∈ version.featuresList := by
  simpa only [requireOrdering, Result.bind_ok, single_ok, require_ok] using h

theorem chanOpenInit_ok {msg : MsgChannelOpenInit} (h : chanOpenInit ctx msg = .ok ctx') :
    ∃ outs, Executes P ctx signers (.handleChanOpenInit msg) outs ∧ Outputs ctx outs ctx' := by
  simp only [chanOpenInit, Result.bind_ok, requireId_ok, single_ok, Identifier.of_ok] at h
  obtain ⟨host, hhost, conn, hconn, hop, hhop, -, hid, ⟨⟩, hord, ctx₁, h₁, port, hport, h₂⟩ := h
  obtain ⟨version, hversions, hordering⟩ := requireOrdering_ok hord
  exact ⟨_, .chanOpenInit hhost ⟨hconn, hid ▸ hhop⟩ hversions hordering hport,
    addOutput_two rfl rfl h₁ h₂⟩

theorem chanOpenTry_previous_ok {msg : MsgChannelOpenTry} {conn : IbcConnection}
    {previous : Option IbcChannel} (hhop : msg.channel.connectionHopsList = [conn.id.id])
    (h : chanOpenTry.previous ctx msg = .ok previous) :
    previous = none ∧ msg.previousChannelId = "" ∨ ∃ prev, previous = some prev ∧
      msg.previousChannelId ≠ "" ∧ ctx.getInput IbcChannel = .ok prev ∧ prev.id.id = msg.previousChannelId ∧
      prev.end_.state = .init ∧ prev.end_.ordering = msg.channel.ordering ∧
      prev.end_.counterparty.portId = msg.channel.counterparty.portId ∧
      prev.end_.counterparty.channelId = "" ∧
      (∃ rest, prev.end_.connectionHopsList = conn.id.id :: rest) ∧
      prev.end_.version = msg.channel.version := by
  unfold chanOpenTry.previous at h
  split at h
  · simp only [Result.bind_ok, requireId_ok, require_ok, first_ok, Except.ok.injEq] at h
    obtain ⟨prev, hprev, -, hid, hop, ⟨rest, hrest⟩, hop', ⟨rest', hrest'⟩, -,
      ⟨h₁, h₂, h₃, rfl, h₅⟩, -, hinit, rfl⟩ := h
    rw [hhop] at hrest'
    cases hrest'
    exact .inr ⟨prev, rfl, ‹_›, hprev, hid, hinit, h₁, h₂, h₃, ⟨rest, hrest⟩, h₅⟩
  · rename_i hne
    cases h
    exact .inl ⟨rfl, by simpa using hne⟩

theorem chanOpenTry_ok {msg : MsgChannelOpenTry} (h : chanOpenTry P ctx msg = .ok ctx') :
    ∃ outs, Executes P ctx signers (.handleChanOpenTry msg) outs ∧ Outputs ctx outs ctx' := by
  simp only [chanOpenTry, Result.bind_ok, require_ok, requireId_ok, single_ok,
    CommitmentProof.of_ok, Identifier.of_ok] at h
  obtain ⟨host, hhost, conn, hconn, hop, hhop, -, hcid, client, hclient, -, hid, previous, hprev, -,
    hopen, ⟨⟩, hord, p, hp, i₁, hi₁, i₂, hi₂, ⟨⟩, hv, port, hport, ctx₁, h₁, h₂⟩ := h
  obtain ⟨version, hversions, hordering⟩ := requireOrdering_ok hord
  have hhop : msg.channel.connectionHopsList = [conn.id.id] := hcid ▸ hhop
  have hproof : ProvesChannel P client msg.proofHeight conn.end_.counterparty.prefix_ msg.proofInit
      msg.channel.counterparty.portId msg.channel.counterparty.channelId (msg.expected conn) :=
    ⟨p, hp, i₁, hi₁, i₂, hi₂, hv⟩
  obtain ⟨rfl, hnew⟩ | ⟨prev, rfl, hnamed, hin, hpid, hinit, hfields⟩ :=
    chanOpenTry_previous_ok hhop hprev
  · exact ⟨_, .chanOpenTry hhost ⟨hconn, hhop⟩ ⟨hclient, hid⟩ hnew hopen hversions hordering hproof
      hport, addOutput_two rfl rfl h₁ h₂⟩
  · exact ⟨_, .chanOpenTryPrevious hhost ⟨hconn, hhop⟩ ⟨hclient, hid⟩ hnamed hin hpid hinit hfields
      hopen hversions hordering hproof hport, addOutput_two rfl rfl h₁ h₂⟩

theorem chanOpenAck_ok {msg : MsgChannelOpenAck} (h : chanOpenAck P ctx msg = .ok ctx') :
    ∃ outs, Executes P ctx signers (.handleChanOpenAck msg) outs ∧ Outputs ctx outs ctx' := by
  simp only [chanOpenAck, Result.bind_ok, require_ok, requireId_ok, single_ok,
    CommitmentProof.of_ok, Identifier.of_ok] at h
  obtain ⟨_, -, chan, hchan, -, hport, -, hid, conn, hconn, hop, hhop, -, hcid, client, hclient, -,
    hclid, -, hstate, -, hopen, p, hp, i₁, hi₁, i₂, hi₂, ⟨⟩, hv, h₁⟩ := h
  rw [← hport, ← hid] at hv
  exact ⟨_, .chanOpenAck hchan hport hid ⟨hconn, hcid ▸ hhop⟩ ⟨hclient, hclid⟩ hstate hopen
    ⟨p, hp, i₁, hi₁, i₂, hi₂, hv⟩, (addOutput_ibc rfl h₁).2⟩

theorem chanOpenConfirm_ok {msg : MsgChannelOpenConfirm}
    (h : chanOpenConfirm P ctx msg = .ok ctx') :
    ∃ outs, Executes P ctx signers (.handleChanOpenConfirm msg) outs ∧ Outputs ctx outs ctx' := by
  simp only [chanOpenConfirm, Result.bind_ok, require_ok, requireId_ok, single_ok,
    CommitmentProof.of_ok, Identifier.of_ok] at h
  obtain ⟨_, -, chan, hchan, -, hport, -, hid, conn, hconn, hop, hhop, -, hcid, client, hclient, -,
    hclid, -, hstate, -, hopen, p, hp, i₁, hi₁, i₂, hi₂, ⟨⟩, hv, h₁⟩ := h
  rw [← hport, ← hid] at hv
  exact ⟨_, .chanOpenConfirm hchan hport hid ⟨hconn, hcid ▸ hhop⟩ ⟨hclient, hclid⟩ hstate hopen
    ⟨p, hp, i₁, hi₁, i₂, hi₂, hv⟩, (addOutput_ibc rfl h₁).2⟩

theorem chanCloseInit_ok {msg : MsgChannelCloseInit} (h : chanCloseInit ctx msg = .ok ctx') :
    ∃ outs, Executes P ctx signers (.handleChanCloseInit msg) outs ∧ Outputs ctx outs ctx' := by
  simp only [chanCloseInit, Result.bind_ok, require_ok, requireId_ok, single_ok] at h
  obtain ⟨_, -, chan, hchan, -, hport, -, hid, conn, hconn, hop, hhop, -, hcid, -, hstate, -, hopen,
    h₁⟩ := h
  exact ⟨_, .chanCloseInit hchan hport hid ⟨hconn, hcid ▸ hhop⟩ hstate hopen,
    (addOutput_ibc rfl h₁).2⟩

theorem chanCloseConfirm_ok {msg : MsgChannelCloseConfirm}
    (h : chanCloseConfirm P ctx msg = .ok ctx') :
    ∃ outs, Executes P ctx signers (.handleChanCloseConfirm msg) outs ∧ Outputs ctx outs ctx' := by
  simp only [chanCloseConfirm, Result.bind_ok, require_ok, requireId_ok, single_ok,
    CommitmentProof.of_ok, Identifier.of_ok] at h
  obtain ⟨_, -, chan, hchan, -, hport, -, hid, conn, hconn, hop, hhop, -, hcid, client, hclient, -,
    hclid, -, hstate, -, hopen, p, hp, i₁, hi₁, i₂, hi₂, ⟨⟩, hv, h₁⟩ := h
  rw [← hport, ← hid] at hv
  exact ⟨_, .chanCloseConfirm hchan hport hid ⟨hconn, hcid ▸ hhop⟩ ⟨hclient, hclid⟩ hstate hopen
    ⟨p, hp, i₁, hi₁, i₂, hi₂, hv⟩, (addOutput_ibc rfl h₁).2⟩

/-! ## Packets -/

theorem sendPacket_ok {packet : Packet} (h : sendPacket P ctx packet = .ok ctx') :
    ∃ chan, Sends P ctx packet chan ∧ Outputs ctx [.channel (chan.sent packet)] ctx' := by
  simp only [sendPacket, Result.bind_ok, require_ok, requireId_ok, single_ok] at h
  obtain ⟨host, -, chan, hchan, -, hport, -, hid, conn, hconn, hop, hhop, -, hcid, client, hclient,
    -, hclid, -, hstate, -, hdp, -, hdc, latest, hlatest, -, hto, -, -, -, hseq, h₁⟩ := h
  exact ⟨chan, ⟨hchan, hport, hid, ⟨conn, client, ⟨hconn, hcid ▸ hhop⟩, ⟨hclient, hclid⟩, latest,
    hlatest, hto⟩, hstate, hdp, hdc, hseq⟩, (addOutput_ibc rfl h₁).2⟩

theorem recvPacket_ok {msg : MsgRecvPacket} {proof : CommitmentProof} {ack : Acknowledgement}
    (hp : proof.bytes = msg.proofCommitment)
    (h : recvPacket P ctx msg.packet proof msg.proofHeight ack = .ok ctx') :
    ∃ chan chan', Receives P ctx msg ack chan chan' ∧ Outputs ctx [.channel chan'] ctx' := by
  simp only [recvPacket, Result.bind_ok, require_ok, requireId_ok, single_ok,
    Identifier.of_ok] at h
  obtain ⟨host, -, chan, hchan, -, hport, -, hid, conn, hconn, hop, hhop, -, hcid, client, hclient,
    -, hclid, -, hstate, -, hsp, -, hsc, -, hopen, -, hto, -, hts, i₁, hi₁, i₂, hi₂, ⟨⟩, hv, chan',
    hrecv, h₁⟩ := h
  exact ⟨chan, chan', ⟨hchan, hport, hid, hsp, hsc, hto, hts, ⟨conn, client,
    ⟨⟨hconn, hcid ▸ hhop⟩, ⟨hclient, hclid⟩, hstate, hopen⟩, proof, hp, i₁, hi₁, i₂, hi₂, hv⟩,
    hrecv⟩, (addOutput_ibc rfl h₁).2⟩

theorem acknowledgePacket_ok {msg : MsgAcknowledgement} {proof : CommitmentProof}
    {ack : Acknowledgement} (hp : proof.bytes = msg.proofAcked)
    (h : acknowledgePacket P ctx msg.packet ack proof msg.proofHeight = .ok ctx') :
    ∃ chan chan', Acknowledges P ctx msg ack chan chan' ∧
      Outputs ctx [.channel (chan'.settled msg.packet)] ctx' := by
  simp only [acknowledgePacket, Result.bind_ok, require_ok, requireId_ok, single_ok,
    Identifier.of_ok, notNull_ok] at h
  obtain ⟨host, -, chan, hchan, -, hport, -, hid, conn, hconn, hop, hhop, -, hcid, client, hclient,
    -, hclid, -, hstate, -, hdp, -, hdc, -, hopen, -, -, packet, hpacket, -, rfl, i₁, hi₁, i₂, hi₂,
    ⟨⟩, hv, chan', hsettle, h₁⟩ := h
  exact ⟨chan, chan', ⟨hchan, hport, hid, hdp, hdc, hpacket, ⟨conn, client,
    ⟨⟨hconn, hcid ▸ hhop⟩, ⟨hclient, hclid⟩, hstate, hopen⟩, proof, hp, i₁, hi₁, i₂, hi₂, hv⟩,
    hsettle⟩, (addOutput_ibc rfl h₁).2⟩

end Handler
end

/-! ## Modules -/

theorem catchIllegalArgument_ok {α : Type} {x : Result α} {f : String → Result α} {a : α}
    (h : catchIllegalArgument x f = .ok a) :
    x = .ok a ∨ ∃ message, x = .error (.illegalArgument message) ∧ f message = .ok a := by
  unfold catchIllegalArgument at h
  split at h
  · exact .inr ⟨_, rfl, h⟩
  · exact .inl h

/-- A sum of cash paid out adds only cash to the outputs. -/
theorem Ics20Cash.payCash_outputs {cashSum amount : TokenAmount Issued} {o₁ o₂ : AbstractParty}
    (h : Ics20Cash.payCash ctx cashSum amount o₁ o₂ = .ok ctx') :
    ∃ outs, Outputs ctx outs ctx' ∧ ∀ s ∈ outs, ∃ c, s = .cash c := by
  simp only [Ics20Cash.payCash, Result.bind_ok] at h
  obtain ⟨ctx₁, h₁, more, -, h₂⟩ := h
  obtain ⟨ss, ho, hs⟩ := addOutput_outputs h₁
  split at h₂
  · obtain ⟨change, -, h₂⟩ := Result.bind_ok.1 h₂
    obtain ⟨ss', ho', hs'⟩ := addOutput_outputs h₂
    refine ⟨_, ho.trans ho', fun s h => ?_⟩
    rcases List.mem_append.1 h with h | h
    · exact ⟨_, hs s h⟩
    · exact ⟨_, hs' s h⟩
  · cases h₂
    exact ⟨ss, ho, fun s h => ⟨_, hs s h⟩⟩

namespace Ics20Cash

theorem singleOwner_ok {owners : List AbstractParty} {owner : AbstractParty}
    (h : singleOwner owners = .ok owner) : ∀ o ∈ owners, o = owner := fun o ho => by
  have := List.mem_dedup.2 ho
  rw [single_ok.1 h] at this
  exact List.mem_singleton.1 this

theorem fromDecimal_ofLong_ok {T : Type} {n : Int} {token : T} {a : TokenAmount T}
    (h : TokenAmount.fromDecimal (BigDecimal.ofLong n) 0 token = .ok a) :
    (a.quantity : Int) = n ∧ a.token = token := by
  simp only [TokenAmount.fromDecimal, Result.bind_ok, longValueExact_ok, TokenAmount.of_ok] at h
  obtain ⟨m, ⟨rfl, -⟩, hq, ht⟩ := h
  exact ⟨by rw [hq]; simp [BigDecimal.floorUnits, BigDecimal.ofLong], ht⟩

/-- The locking branch of a send consumes cash of the sender and outputs the unchanged bank and
cash. -/
theorem lockCash_ok {bank : CashBank} {sender : Address} {denom : Denom} {quantity : Int}
    (h : lockCash P ctx bank sender denom quantity = .ok ctx') :
    (∃ key, sender.toPublicKey P.toCrypto = .ok key ∧
      ∀ c ∈ ctx.getInputs Cash, c.owner.owningKey = key) ∧
    ∃ cs, Outputs ctx (.cashBank bank :: cs) ctx' ∧ ∀ s ∈ cs, ∃ c, s = .cash c := by
  simp only [lockCash, Result.bind_ok, require_ok] at h
  obtain ⟨-, -, owner, howner, key, hkey, -, hok, cashSum, -, amount, -, ⟨⟩, -, ctx₁, h₁, h₂⟩ := h
  refine ⟨⟨key, hkey, fun c hc => ?_⟩, ?_⟩
  · rw [singleOwner_ok howner _ (List.mem_map_of_mem hc), hok]
  · obtain ⟨cs, ho, hs⟩ := payCash_outputs h₂
    exact ⟨cs, (addOutput_ibc rfl h₁).2.trans ho, hs⟩

/-- The burning branch: vouchers of one owner and one denomination go in, the supply goes down by
the quantity, and what is left over comes out as one voucher. -/
structure VoucherBurn (P : Platform) (ctx : Context) (bank bank' : CashBank) (sender : Address)
    (denom : Denom) (quantity : Int) (change : Option Voucher) : Prop where
  burn : bank.burn denom quantity = .ok bank'
  nonneg : 0 ≤ quantity
  owner : ∃ key, sender.toPublicKey P.toCrypto = .ok key ∧
    ∀ v ∈ ctx.getInputs Voucher, v.owner.owningKey = key
  token : ∀ v ∈ ctx.getInputs Voucher, v.amount.token = denom.denomTrace
  change_mem : ∀ v ∈ change, v.baseId = bank.baseId ∧ v.amount.token = denom.denomTrace ∧
    ∃ u ∈ ctx.getInputs Voucher, v.owner = u.owner
  sum : (((ctx.getInputs Voucher).map (·.amount.quantity)).sum : Nat) =
    quantity + ((change.map (·.amount.quantity)).getD 0 : Nat)

theorem burnVouchers_ok {bank : CashBank} {sender : Address} {denom : Denom} {quantity : Int}
    (h : burnVouchers P ctx bank sender denom quantity = .ok ctx') :
    ∃ bank' change, VoucherBurn P ctx bank bank' sender denom quantity change ∧
      Outputs ctx (.cashBank bank' :: change.toList.map .voucher) ctx' := by
  simp only [burnVouchers, Result.bind_ok, require_ok] at h
  obtain ⟨owner, howner, key, hkey, -, hok, sum, hsum, amount, hamount, -, htoken, ge, hge, -, rfl,
    bank', hburn, ctx₁, h₁, more, hmore, h₂⟩ := h
  obtain ⟨hne, htokens, hq⟩ := TokenAmount.sumOrThrow_ok hsum
  obtain ⟨haq, hat⟩ := fromDecimal_ofLong_ok hamount
  have howners : ∀ v ∈ ctx.getInputs Voucher, v.owner = owner := fun v hv =>
    singleOwner_ok howner _ (List.mem_map_of_mem hv)
  have htok : ∀ v ∈ ctx.getInputs Voucher, v.amount.token = denom.denomTrace := fun v hv =>
    (htokens _ (List.mem_map_of_mem hv)).trans htoken
  have hkeys : ∃ key, sender.toPublicKey P.toCrypto = .ok key ∧
      ∀ v ∈ ctx.getInputs Voucher, v.owner.owningKey = key :=
    ⟨key, hkey, fun v hv => by rw [howners v hv, hok]⟩
  have hsum' : ((ctx.getInputs Voucher).map (·.amount.quantity)).sum = sum.quantity := by
    rw [hq, List.map_map]; rfl
  obtain ⟨u, hu⟩ : ∃ u, u ∈ ctx.getInputs Voucher :=
    List.exists_mem_of_ne_nil _ fun h0 => hne (by rw [h0]; rfl)
  simp only [TokenAmount.gt, TokenAmount.geq, Result.bind_ok, require_ok,
    Except.ok.injEq] at hmore hge
  obtain ⟨-, -, hmore⟩ := hmore
  obtain ⟨-, -, hge⟩ := hge
  have hge : amount.quantity ≤ sum.quantity := by simpa using hge
  have ho := (addOutput_ibc (T := CashBank) rfl h₁).2
  split at h₂
  · rename_i hm
    obtain ⟨diff, hdiff, h₂⟩ := Result.bind_ok.1 h₂
    obtain ⟨-, hdt, hdq⟩ := TokenAmount.minus_ok.1 hdiff
    refine ⟨bank', some ⟨bank.baseId, diff, owner⟩, ⟨hburn, by omega, hkeys, htok, ?_, ?_⟩,
      ho.trans (addOutput_ibc rfl h₂).2⟩
    · rintro v ⟨⟩
      exact ⟨rfl, hdt.trans htoken, u, hu, (howners u hu).symm⟩
    · rw [hsum']
      simp only [Option.map_some, Option.getD_some]
      omega
  · rename_i hm
    cases h₂
    have hm : ¬ amount.quantity < sum.quantity := by
      rw [← hmore] at hm
      simpa using hm
    refine ⟨bank', none, ⟨hburn, by omega, hkeys, htok, (by rintro _ ⟨⟩), ?_⟩, ho⟩
    rw [hsum']
    simp only [Option.map_none, Option.getD_none]
    omega

/-- What a receive or a refund does to the cash bank and the vouchers: the bank kept or left out
while cash is paid, or one voucher minted. -/
inductive CashEffect (P : Platform) (ctx : Context) : List ContractState → Prop
  | pay {bank : CashBank} {cs : List ContractState} (hbank : ctx.getInput CashBank = .ok bank)
    (hcash : ∀ s ∈ cs, ∃ c, s = .cash c) : CashEffect P ctx (.cashBank bank :: cs)
  | payOnly {cs : List ContractState} (hcash : ∀ s ∈ cs, ∃ c, s = .cash c) : CashEffect P ctx cs
  | mint {bank bank₁ bank' : CashBank} {voucher : Voucher} {receiver : Address} {denom : Denom}
    {amount : Int} (hbank : ctx.getInput CashBank = .ok bank)
    (hsame : bank₁ = bank ∨ bank₁ = bank.recordDenom P.toCrypto denom)
    (hmint : bank₁.mint P.toCrypto receiver denom amount = .ok (bank', voucher)) :
    CashEffect P ctx [.cashBank bank', .voucher voucher]

theorem onRecvPacket_ok {packet : Packet} {ack : Acknowledgement}
    (h : onRecvPacket P ctx packet = .ok (ctx', ack)) :
    ∃ outs, CashEffect P ctx outs ∧ Outputs ctx outs ctx' := by
  simp only [onRecvPacket, Result.bind_ok] at h
  obtain ⟨data, -, receiver, -, bank, hbank, port, -, channel, -, h⟩ := h
  split at h
  · simp only [Result.bind_ok, Except.ok.injEq, Prod.mk.injEq] at h
    obtain ⟨-, -, cash, -, ctx₁, h₁, key, -, ctx₂, h₂, rfl, -⟩ := h
    obtain ⟨cs, ho, hs⟩ := payCash_outputs h₂
    exact ⟨_, .pay hbank hs, (addOutput_ibc rfl h₁).2.trans ho⟩
  · simp only [Result.bind_ok, Except.ok.injEq, Prod.mk.injEq] at h
    obtain ⟨-, -, port', -, channel', -, amount, -, ⟨bank', voucher⟩, hmint, ctx₁, h₁, ctx₂, h₂, rfl,
      -⟩ := h
    exact ⟨_, .mint hbank (.inr rfl) hmint, addOutput_two rfl rfl h₁ h₂⟩

theorem onAcknowledgePacket_ok {packet : Packet} {ack : Acknowledgement}
    (h : onAcknowledgePacket P ctx packet ack = .ok ctx') :
    ∃ outs, CashEffect P ctx outs ∧ Outputs ctx outs ctx' := by
  cases ack with
  | notSet => cases h
  | result bytes =>
    simp only [onAcknowledgePacket, Result.bind_ok] at h
    obtain ⟨bank, hbank, h₁⟩ := h
    exact ⟨_, @CashEffect.pay P ctx bank [] hbank nofun, (addOutput_ibc rfl h₁).2⟩
  | error message =>
    simp only [onAcknowledgePacket, refundTokens, Result.bind_ok] at h
    obtain ⟨data, -, sender, -, bank, hbank, port, -, channel, -, h⟩ := h
    split at h
    · simp only [Result.bind_ok] at h
      obtain ⟨cash, -, key, -, h₂⟩ := h
      obtain ⟨cs, ho, hs⟩ := payCash_outputs h₂
      exact ⟨_, .payOnly hs, ho⟩
    · simp only [Result.bind_ok] at h
      obtain ⟨-, -, amount, -, ⟨bank', voucher⟩, hmint, ctx₁, h₁, h₂⟩ := h
      exact ⟨_, .mint hbank (.inl rfl) hmint, addOutput_two rfl rfl h₁ h₂⟩

end Ics20Cash

namespace Module
variable {signers : List PublicKey} {module_ : Module}

theorem createOutgoingPacket_ok {anyMsg : Any} {chan : IbcChannel}
    (hchan : ctx.getInput IbcChannel = .ok chan)
    (h : module_.createOutgoingPacket P ctx signers anyMsg = .ok ctx') :
    ∃ packet outs, SendEffect P ctx signers anyMsg chan packet module_ outs ∧
      Sends P ctx packet chan ∧ Outputs ctx (outs ++ [.channel (chan.sent packet)]) ctx' := by
  have hsame : ∀ {ctx₁ : Context} {packet : Packet} {c : IbcChannel}, Sends P ctx₁ packet c →
      ctx₁.getInput IbcChannel = ctx.getInput IbcChannel → c = chan := fun hs he =>
    Except.ok.inj (hs.input.symm.trans (he.trans hchan))
  cases module_ with
  | nop =>
    simp only [createOutgoingPacket, Result.bind_ok] at h
    obtain ⟨packet, hp, h⟩ := h
    obtain ⟨c, hs, ho⟩ := Handler.sendPacket_ok h
    obtain rfl := hsame hs rfl
    exact ⟨packet, [], .nop hp, hs, ho⟩
  | ics20 =>
    simp only [createOutgoingPacket, Ics20.createOutgoingPacket, Result.bind_ok,
      Identifier.of_ok] at h
    obtain ⟨msg, hmsg, amount, hamount, sender, hsender, port, hport, channel, hchannel, bank, hbank,
      denom, hdenom, bank', hdebit, ctx₁, h₁, c, hc, h⟩ := h
    have ho := (addOutput_ibc (T := Bank) rfl h₁).2
    obtain rfl : c = chan := Except.ok.inj (hc.symm.trans ((ho.getInput _).trans hchan))
    obtain ⟨c', hs, ho'⟩ := Handler.sendPacket_ok h
    obtain rfl := hsame hs (ho.getInput _)
    exact ⟨_, _, .ics20 hmsg hamount hsender hport hchannel hbank hdenom hdebit, hs.of_outputs ho,
      ho.trans ho'⟩
  | ics20cash =>
    simp only [createOutgoingPacket, Ics20Cash.createOutgoingPacket, Result.bind_ok,
      Identifier.of_ok, require_ok, Except.ok.injEq] at h
    obtain ⟨msg, hmsg, quantity, hquantity, sender, hsender, port, hport, channel, hchannel, bank,
      hbank, denom, hdenom, ctx₁, hdebit, c, hc, ctx₂, h, key, hkey, -, hsigned, rfl⟩ := h
    have hdebit' : ∃ outs, Outputs ctx outs ctx₁ := by
      unfold Ics20Cash.debit at hdebit
      split at hdebit
      · obtain ⟨-, cs, ho, -⟩ := Ics20Cash.lockCash_ok hdebit
        exact ⟨_, ho⟩
      · obtain ⟨bank', change, -, ho⟩ := Ics20Cash.burnVouchers_ok hdebit
        exact ⟨_, ho⟩
    obtain ⟨outs, ho⟩ := hdebit'
    obtain rfl : c = chan := Except.ok.inj (hc.symm.trans ((ho.getInput _).trans hchan))
    obtain ⟨c', hs, ho'⟩ := Handler.sendPacket_ok h
    obtain rfl := hsame hs (ho.getInput _)
    exact ⟨_, outs, .ics20cash hmsg hquantity hsender hport hchannel hbank hdenom hdebit ho hkey
      hsigned, hs.of_outputs ho, ho.trans ho'⟩

theorem onRecvPacket_ok {packet : Packet} {ack : Acknowledgement}
    (h : module_.onRecvPacket P ctx packet = .ok (ctx', ack)) :
    ∃ outs, RecvEffect P ctx packet module_ ack outs ∧ Outputs ctx outs ctx' := by
  cases module_ with
  | nop =>
    cases h
    exact ⟨[], .nop, .refl ctx⟩
  | ics20 =>
    simp only [onRecvPacket, Ics20.onRecvPacket, Result.bind_ok, Identifier.of_ok] at h
    obtain ⟨data, hdata, amount, hamount, receiver, hreceiver, port, hport, channel, hchannel, bank,
      hbank, h⟩ := h
    rcases catchIllegalArgument_ok h with h | ⟨message, hx, h⟩
    · simp only [Result.bind_ok, Except.ok.injEq, Prod.mk.injEq] at h
      obtain ⟨bank', hcredit, ctx₁, h₁, rfl, rfl⟩ := h
      exact ⟨_, .ics20 hdata hamount hreceiver hport hchannel hbank (.inl ⟨hcredit, rfl⟩),
        (addOutput_ibc rfl h₁).2⟩
    · simp only [Result.bind_ok, Except.ok.injEq, Prod.mk.injEq] at h
      obtain ⟨ctx₁, h₁, rfl, rfl⟩ := h
      refine ⟨_, .ics20 hdata hamount hreceiver hport hchannel hbank (.inr ⟨message, ?_, rfl, rfl⟩),
        (addOutput_ibc rfl h₁).2⟩
      -- the output of a bank cannot be what failed: the fallback output succeeded
      cases hc : Ics20.credit P bank ((Denom.fromString data.denom).hasPrefix port channel) packet
          receiver (Denom.fromString data.denom) amount with
      | error e => rw [hc] at hx; cases hx; rfl
      | ok bank' =>
        obtain ⟨ctx₂, h₂⟩ := addOutput_isOk bank' h₁
        rw [hc] at hx
        simp only [Bind.bind, Except.bind, h₂] at hx
        cases hx
  | ics20cash =>
    obtain ⟨outs, -, ho⟩ := Ics20Cash.onRecvPacket_ok h
    exact ⟨outs, .ics20cash h ho, ho⟩

theorem onAcknowledgePacket_ok {packet : Packet} {ack : Acknowledgement}
    (h : module_.onAcknowledgePacket P ctx packet ack = .ok ctx') :
    ∃ outs, AckEffect P ctx packet module_ ack outs ∧ Outputs ctx outs ctx' := by
  cases module_ with
  | nop =>
    cases h
    exact ⟨[], .nop, .refl ctx⟩
  | ics20 =>
    cases ack with
    | notSet => cases h
    | result bytes =>
      simp only [onAcknowledgePacket, Ics20.onAcknowledgePacket, Result.bind_ok] at h
      obtain ⟨bank, hbank, h₁⟩ := h
      exact ⟨_, .ics20Result hbank, (addOutput_ibc rfl h₁).2⟩
    | error message =>
      simp only [onAcknowledgePacket, Ics20.onAcknowledgePacket, Ics20.refundTokens,
        Result.bind_ok, Identifier.of_ok] at h
      obtain ⟨data, hdata, amount, hamount, sender, hsender, port, hport, channel, hchannel, bank,
        hbank, bank', hrefund, h₁⟩ := h
      exact ⟨_, .ics20Error hdata hamount hsender hport hchannel hbank hrefund,
        (addOutput_ibc rfl h₁).2⟩
  | ics20cash =>
    obtain ⟨outs, -, ho⟩ := Ics20Cash.onAcknowledgePacket_ok h
    exact ⟨outs, .ics20cash h ho, ho⟩

end Module

/-! ## Datagrams -/

theorem executes_of_ok {signers : List PublicKey} {d : DatagramHandler}
    (h : d.execute P ctx signers = .ok ctx') :
    ∃ outs, Executes P ctx signers d outs ∧ Outputs ctx outs ctx' := by
  cases d with
  | handleClientCreate msg => exact Handler.createClient_ok h
  | handleClientUpdate identifier header =>
    simp only [DatagramHandler.execute, Datagram.clientUpdate, Result.bind_ok, require_ok] at h
    obtain ⟨client, hclient, -, hid, result, hresult, h₁⟩ := h
    exact ⟨_, .updateClient hclient hid hresult, (addOutput_ibc rfl h₁).2⟩
  | handleClientMisbehaviour identifier misbehaviour =>
    simp only [DatagramHandler.execute, Datagram.clientMisbehaviour, Result.bind_ok] at h
    obtain ⟨client, -, -, -, result, hresult, -⟩ := h
    unfold ClientState.checkMisbehaviourAndUpdateState at hresult
    split at hresult <;> cases hresult
  | handleConnOpenInit msg => exact Handler.connOpenInit_ok h
  | handleConnOpenTry msg => exact Handler.connOpenTry_ok h
  | handleConnOpenAck msg => exact Handler.connOpenAck_ok h
  | handleConnOpenConfirm msg => exact Handler.connOpenConfirm_ok h
  | handleChanOpenInit msg => exact Handler.chanOpenInit_ok h
  | handleChanOpenTry msg => exact Handler.chanOpenTry_ok h
  | handleChanOpenAck msg => exact Handler.chanOpenAck_ok h
  | handleChanOpenConfirm msg => exact Handler.chanOpenConfirm_ok h
  | handleChanCloseInit msg => exact Handler.chanCloseInit_ok h
  | handleChanCloseConfirm msg => exact Handler.chanCloseConfirm_ok h
  | handlePacketRecv msg =>
    simp only [DatagramHandler.execute, Datagram.packetRecv, Result.bind_ok, Identifier.of_ok,
      CommitmentProof.of_ok] at h
    obtain ⟨host, hhost, port, hport, module_, hmodule, ⟨ctx₁, ack⟩, hcb, proof, hproof, h⟩ := h
    obtain ⟨outs, heffect, ho⟩ := Module.onRecvPacket_ok hcb
    obtain ⟨chan, chan', hrecv, ho'⟩ := Handler.recvPacket_ok hproof h
    exact ⟨_, .recvPacket hhost hport hmodule heffect (hrecv.of_outputs ho), ho.trans ho'⟩
  | handlePacketAcknowledgement msg =>
    simp only [DatagramHandler.execute, Datagram.packetAcknowledgement, Result.bind_ok,
      Identifier.of_ok, CommitmentProof.of_ok] at h
    obtain ⟨host, hhost, port, hport, module_, hmodule, ack, hack, ctx₁, hcb, proof, hproof, h⟩ := h
    obtain ⟨outs, heffect, ho⟩ := Module.onAcknowledgePacket_ok hcb
    obtain ⟨chan, chan', hacks, ho'⟩ := Handler.acknowledgePacket_ok hproof h
    exact ⟨_, .acknowledgePacket hhost hport hmodule hack heffect (hacks.of_outputs ho),
      ho.trans ho'⟩
  | createOutgoingPacket anyMsg =>
    simp only [DatagramHandler.execute, Datagram.outgoingPacket, Result.bind_ok] at h
    obtain ⟨host, hhost, chan, hchan, module_, hmodule, h⟩ := h
    obtain ⟨packet, outs, heffect, hsend, ho⟩ := Module.createOutgoingPacket_ok hchan h
    exact ⟨_, .sendPacket hhost hmodule heffect hsend, ho⟩

end CordaIbc
