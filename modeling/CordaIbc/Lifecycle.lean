import CordaIbc.Lib.Run
import CordaIbc.Proofs.Identity

/-!
# The life of a channel

A channel is created by a `chanOpenInit`, or by a `chanOpenTry` that names no previous channel, and
then goes from state to state through the datagrams that consume it. `Change` lists what such a
datagram does to it; the bookkeeping of packets and receipts is about runs of these steps.
-/

namespace CordaIbc

open ChannelOuterClass (Packet Acknowledgement)

/-- An execution of a datagram. -/
structure Call where
  inStates : List ContractState
  refStates : List ContractState
  signers : List PublicKey
  handler : DatagramHandler

namespace Call

def ctx (k : Call) : Context := .create k.inStates k.refStates

def execute (P : Platform) (k : Call) : Result Context := k.handler.execute P k.ctx k.signers

/-- The execution puts out a state. -/
def Outputs (P : Platform) (k : Call) (s : ContractState) : Prop :=
  ∃ ctx', k.execute P = .ok ctx' ∧ s ∈ ctx'.outStates.states

end Call

/-- The datagrams that go on with the channel in the inputs. -/
def DatagramHandler.continuesChannel : DatagramHandler → Bool
  | handleChanOpenTry msg => msg.previousChannelId ≠ ""
  | handleChanOpenAck _ | handleChanOpenConfirm _ | handleChanCloseInit _ | handleChanCloseConfirm _
  | handlePacketRecv _ | handlePacketAcknowledgement _ | createOutgoingPacket _ => true
  | _ => false

namespace IbcChannel

def Creates (P : Platform) (k : Call) (chan : IbcChannel) : Prop :=
  k.handler.continuesChannel = false ∧ k.Outputs P (.channel chan)

/-- An execution takes a channel to its successor, while `ok` holds of it and the channel before. -/
def Step (P : Platform) (ok : IbcChannel → Call → Prop) (chan : IbcChannel) (k : Call)
    (chan' : IbcChannel) : Prop :=
  ok chan k ∧ k.handler.continuesChannel = true ∧ ContractState.channel chan ∈ k.inStates ∧
    k.Outputs P (.channel chan')

/-- A channel just created. -/
structure New (chan : IbcChannel) : Prop where
  send : chan.nextSequenceSend = 1
  recv : chan.nextSequenceRecv = 1
  ack : chan.nextSequenceAck = 1
  packets : chan.packets = ∅
  receipts : chan.receipts = ∅
  acknowledgements : chan.acknowledgements = ∅

/-- How a datagram makes a channel: from the next identifier of the host it consumes. -/
inductive Creation (ctx : Context) : IbcChannel → Prop
  | mk {host : Host} {port : Identifier} {end_ : ChannelOuterClass.Channel} {hop : String}
    (hhost : ctx.getInput Host = .ok host) (hstate : end_.state = .init ∨ end_.state = .tryOpen)
    (hhop : end_.connectionHopsList = [hop]) :
    Creation ctx (create host port host.generateChannelIdentifier.2 end_)

theorem Creation.new {ctx : Context} {chan : IbcChannel} (h : Creation ctx chan) : chan.New := by
  cases h
  exact ⟨rfl, rfl, rfl, rfl, rfl, rfl⟩

/-- What a datagram makes of the channel it consumes. -/
inductive Change (P : Platform) (ctx : Context) (signers : List PublicKey) :
    DatagramHandler → IbcChannel → IbcChannel → Prop
  | tryPrevious {msg : MsgChannelOpenTry} {host : Host} {previous : IbcChannel} {port : Identifier}
    {hop : String} {rest : List String} (hhost : ctx.getInput Host = .ok host)
    (hinit : previous.end_.state = .init) (hordering : previous.end_.ordering = msg.channel.ordering)
    (hcounterparty : previous.end_.counterparty.portId = msg.channel.counterparty.portId)
    (hhop : msg.channel.connectionHopsList = [hop])
    (hhops : previous.end_.connectionHopsList = hop :: rest) (hport : port.id = msg.portId) :
    Change P ctx signers (.handleChanOpenTry msg) previous
      ((create host port previous.id { msg.channel with state := .tryOpen }).withCounters previous)
  | ack {msg : MsgChannelOpenAck} {chan : IbcChannel}
    (hstate : chan.end_.state = .init ∨ chan.end_.state = .tryOpen) :
    Change P ctx signers (.handleChanOpenAck msg) chan
      (chan.acked msg.counterpartyChannelId msg.counterpartyVersion)
  | confirm {msg : MsgChannelOpenConfirm} {chan : IbcChannel}
    (hstate : chan.end_.state = .tryOpen) :
    Change P ctx signers (.handleChanOpenConfirm msg) chan (chan.withState .opened)
  | closeInit {msg : MsgChannelCloseInit} {chan : IbcChannel} (hstate : chan.end_.state ≠ .closed) :
    Change P ctx signers (.handleChanCloseInit msg) chan (chan.withState .closed)
  | closeConfirm {msg : MsgChannelCloseConfirm} {chan : IbcChannel}
    (hstate : chan.end_.state ≠ .closed) :
    Change P ctx signers (.handleChanCloseConfirm msg) chan (chan.withState .closed)
  | send {anyMsg : Any} {host : Host} {chan : IbcChannel} {packet : Packet} {module_ : Module}
    {outs : List ContractState} (hhost : ctx.getReference Host = .ok host)
    (hmodule : host.lookupModule chan.portId = .ok module_)
    (heffect : SendEffect P ctx signers anyMsg chan packet module_ outs)
    (hsend : Sends P ctx packet chan) :
    Change P ctx signers (.createOutgoingPacket anyMsg) chan (chan.sent packet)
  | recv {msg : MsgRecvPacket} {ack : Acknowledgement} {chan chan' : IbcChannel}
    (hrecv : Receives P ctx msg ack chan chan') :
    Change P ctx signers (.handlePacketRecv msg) chan chan'
  | settle {msg : MsgAcknowledgement} {ack : Acknowledgement} {chan chan' : IbcChannel}
    (hacks : Acknowledges P ctx msg ack chan chan') :
    Change P ctx signers (.handlePacketAcknowledgement msg) chan (chan'.settled msg.packet)

/-- A packet of a channel was there before, or is the one just sent. -/
theorem Change.packet_cases {P : Platform} {ctx : Context} {signers : List PublicKey}
    {d : DatagramHandler} {chan chan' : IbcChannel} (h : Change P ctx signers d chan chan') {n : Nat}
    {packet : Packet} (hl : chan'.packets.lookup n = some packet) :
    chan'.portId = chan.portId ∧ (chan.packets.lookup n = some packet ∨
      ∃ anyMsg host m outs, d = .createOutgoingPacket anyMsg ∧ ctx.getReference Host = .ok host ∧
        host.lookupModule chan.portId = .ok m ∧ SendEffect P ctx signers anyMsg chan packet m outs ∧
        Sends P ctx packet chan ∧ n = packet.sequence) := by
  cases h with
  | tryPrevious =>
    have hempty : (∅ : Finmap fun _ : Nat => Packet).lookup n = some packet := hl
    rw [Finmap.lookup_empty] at hempty
    cases hempty
  | ack | confirm | closeInit | closeConfirm => exact ⟨rfl, .inl hl⟩
  | @send anyMsg host _ p m outs hhost hmodule heffect hsend =>
    refine ⟨rfl, ?_⟩
    by_cases hn : n = p.sequence
    · subst hn
      rw [sent, Finmap.lookup_insert] at hl
      cases hl
      exact .inr ⟨anyMsg, host, m, outs, rfl, hhost, hmodule, heffect, hsend, rfl⟩
    · rw [sent, Finmap.lookup_insert_of_ne _ hn] at hl
      exact .inl hl
  | recv hrecv =>
    rcases receive_cases hrecv.receive with ⟨-, -, rfl⟩ | ⟨-, -, rfl⟩ <;> exact ⟨rfl, .inl hl⟩
  | @settle msg _ _ _ hacks =>
    obtain ⟨i, rfl⟩ := settle_eq hacks.settle
    have hn : n ≠ msg.packet.sequence := by
      rintro rfl
      rw [settled, Finmap.lookup_erase] at hl
      cases hl
    rw [settled, Finmap.lookup_erase_ne hn] at hl
    exact ⟨rfl, .inl hl⟩

end IbcChannel

namespace IbcConnection

/-- How a datagram makes a connection. -/
inductive Creation (ctx : Context) : IbcConnection → Prop
  | mk {host : Host} {end_ : Connection.ConnectionEnd} (hhost : ctx.getInput Host = .ok host)
    (hstate : end_.state = .init ∨ end_.state = .tryOpen) :
    Creation ctx (create host host.generateConnectionIdentifier.2 end_)

/-- What a datagram makes of the connection it consumes. -/
inductive Change (ctx : Context) : DatagramHandler → IbcConnection → IbcConnection → Prop
  | tryPrevious {msg : MsgConnectionOpenTry} {host : Host} {previous : IbcConnection}
    {version : Connection.Version} (hhost : ctx.getInput Host = .ok host)
    (hinit : previous.end_.state = .init) (hclient : previous.end_.clientId = msg.clientId)
    (hcounterparty : previous.end_.counterparty.clientId = msg.counterparty.clientId)
    (hpre : previous.end_.counterparty.prefix_ = msg.counterparty.prefix_)
    (hdelay : previous.end_.delayPeriod = msg.delayPeriod) :
    Change ctx (.handleConnOpenTry msg) previous (create host previous.id (msg.toEnd version))
  | ack {msg : MsgConnectionOpenAck} {conn : IbcConnection}
    (hstate : conn.end_.state = .init ∨ conn.end_.state = .tryOpen) :
    Change ctx (.handleConnOpenAck msg) conn (conn.acked msg.counterpartyConnectionId msg.version)
  | confirm {msg : MsgConnectionOpenConfirm} {conn : IbcConnection}
    (hstate : conn.end_.state = .tryOpen) :
    Change ctx (.handleConnOpenConfirm msg) conn conn.confirmed

end IbcConnection

section
variable {P : Platform} {ctx : Context} {signers : List PublicKey} {d : DatagramHandler}
  {outs : List ContractState} {chan chan' : IbcChannel}

open IbcChannel Context

/-- A datagram that puts out a channel creates it, or changes the one in the inputs. -/
theorem Executes.channel_cases (h : Executes P ctx signers d outs)
    (hc : ContractState.channel chan' ∈ outs) :
    d.continuesChannel = false ∧ Creation ctx chan' ∨
      d.continuesChannel = true ∧ ∃ chan, ctx.getInput IbcChannel = .ok chan ∧
        Change P ctx signers d chan chan' := by
  cases h with
  | createClient | updateClient | connOpenInit | connOpenTry | connOpenAck | connOpenConfirm =>
    simp at hc
  | chanOpenInit hhost hconn =>
    simp only [List.mem_cons, reduceCtorEq, ContractState.channel.injEq, List.not_mem_nil, or_false,
      false_or] at hc
    subst hc
    exact .inl ⟨rfl, .mk hhost (.inl rfl) hconn.hops⟩
  | chanOpenTry hhost hconn _ hnew =>
    simp only [List.mem_cons, reduceCtorEq, ContractState.channel.injEq, List.not_mem_nil, or_false,
      false_or] at hc
    subst hc
    exact .inl ⟨by simp [DatagramHandler.continuesChannel, hnew], .mk hhost (.inr rfl) hconn.hops⟩
  | chanOpenTryPrevious hhost hconn _ hnamed hprevious _ hinit hfields _ _ _ _ hport =>
    simp only [List.mem_cons, reduceCtorEq, ContractState.channel.injEq, List.not_mem_nil, or_false,
      false_or] at hc
    subst hc
    obtain ⟨hordering, hcounterparty, -, ⟨rest, hhops⟩, -⟩ := hfields
    exact .inr ⟨by simp [DatagramHandler.continuesChannel, hnamed], _, hprevious,
      .tryPrevious hhost hinit hordering hcounterparty hconn.hops hhops hport⟩
  | chanOpenAck hchan _ _ _ _ hstate =>
    obtain rfl : chan' = _ := by simpa using hc
    exact .inr ⟨rfl, _, hchan, .ack hstate⟩
  | chanOpenConfirm hchan _ _ _ _ hstate =>
    obtain rfl : chan' = _ := by simpa using hc
    exact .inr ⟨rfl, _, hchan, .confirm hstate⟩
  | chanCloseInit hchan _ _ _ hstate =>
    obtain rfl : chan' = _ := by simpa using hc
    exact .inr ⟨rfl, _, hchan, .closeInit hstate⟩
  | chanCloseConfirm hchan _ _ _ _ hstate =>
    obtain rfl : chan' = _ := by simpa using hc
    exact .inr ⟨rfl, _, hchan, .closeConfirm hstate⟩
  | sendPacket hhost hmodule heffect hsend =>
    obtain rfl := heffect.bankOuts.channel_eq hc
    exact .inr ⟨rfl, _, hsend.input, .send hhost hmodule heffect hsend⟩
  | recvPacket _ _ _ heffect hrecv =>
    obtain rfl := heffect.bankOuts.channel_eq hc
    exact .inr ⟨rfl, _, hrecv.input, .recv hrecv⟩
  | acknowledgePacket _ _ _ _ heffect hacks =>
    obtain rfl := heffect.bankOuts.channel_eq hc
    exact .inr ⟨rfl, _, hacks.input, .settle hacks⟩

/-- The outputs of the modules hold no other state than banks and the channel. -/
theorem BankOuts.notMem (h : BankOuts ctx outs) {s : ContractState} {k : Nat}
    (hs : s.cls? = some k) (hk : k ≠ 4) (hc : s ≠ .channel chan) : s ∉ outs ++ [.channel chan] := by
  intro hm
  rcases List.mem_append.1 hm with hm | hm
  · have hmem : k ∈ outs.filterMap ContractState.cls? := List.mem_filterMap.2 ⟨s, hm, hs⟩
    rcases h.cls with e | e <;> rw [e] at hmem
    · cases hmem
    · exact hk (List.mem_singleton.1 hmem)
  · exact hc (List.mem_singleton.1 hm)

theorem BankOuts.connection_notMem (h : BankOuts ctx outs) {conn : IbcConnection} :
    ContractState.connection conn ∉ outs ++ [.channel chan] :=
  h.notMem rfl (by decide) nofun

theorem BankOuts.client_notMem (h : BankOuts ctx outs) {client : IbcClientState} :
    ContractState.client client ∉ outs ++ [.channel chan] :=
  h.notMem rfl (by decide) nofun

/-- A datagram that puts out a connection creates it, or changes the one in the inputs. -/
theorem Executes.connection_cases (h : Executes P ctx signers d outs) {conn' : IbcConnection}
    (hc : ContractState.connection conn' ∈ outs) :
    IbcConnection.Creation ctx conn' ∨ ∃ conn, ctx.getInput IbcConnection = .ok conn ∧
      IbcConnection.Change ctx d conn conn' := by
  cases h with
  | createClient | updateClient | chanOpenInit | chanOpenTry | chanOpenTryPrevious | chanOpenAck
  | chanOpenConfirm | chanCloseInit | chanCloseConfirm => simp at hc
  | sendPacket _ _ heffect => exact absurd hc heffect.bankOuts.connection_notMem
  | recvPacket _ _ _ heffect => exact absurd hc heffect.bankOuts.connection_notMem
  | acknowledgePacket _ _ _ _ heffect => exact absurd hc heffect.bankOuts.connection_notMem
  | connOpenInit hhost =>
    simp only [List.mem_cons, reduceCtorEq, ContractState.connection.injEq, List.not_mem_nil, or_false,
      false_or] at hc
    subst hc
    exact .inl (.mk hhost (.inl rfl))
  | connOpenTry hhost _ hprevious =>
    simp only [List.mem_cons, reduceCtorEq, ContractState.connection.injEq, List.not_mem_nil, or_false,
      false_or] at hc
    subst hc
    rcases Handler.connOpenTry_previous_ok hprevious with ⟨-, -, rfl, -⟩ |
      ⟨prev, hprev, -, hinit, -, hpre, hclient, hcounterparty, hdelay, -, rfl, -⟩
    · exact .inl (.mk hhost (.inr rfl))
    · exact .inr ⟨prev, hprev, .tryPrevious hhost hinit hclient hcounterparty hpre hdelay⟩
  | connOpenAck hconn _ _ _ hversion =>
    obtain rfl : conn' = _ := by simpa using hc
    exact .inr ⟨_, hconn, .ack (hversion.imp And.left And.left)⟩
  | connOpenConfirm hconn _ _ htry =>
    obtain rfl : conn' = _ := by simpa using hc
    exact .inr ⟨_, hconn, .confirm htry⟩

end

end CordaIbc
