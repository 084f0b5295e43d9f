import CordaIbc.Lifecycle
import CordaIbc.Sample.Life

/-!
# The answer to a transfer packet

The receiver of a transfer reads the packet before it opens its `try` block. What it reads there the
sender has read too, except for the receiver's address: a packet is answered exactly when that is a
bech32 address (`Ics20.onRecvPacket_answers_iff`).
-/

namespace CordaIbc

open ChannelOuterClass (Packet Acknowledgement)
open Context StateClass

namespace Result
variable {α β : Type} {x : Result α} {f : α → Result β}

/-- The computation throws nothing but an `IllegalArgumentException`. -/
def OnlyIllegalArgument (x : Result α) : Prop :=
  ∀ e, x = .error e → ∃ message, e = .illegalArgument message

theorem OnlyIllegalArgument.ok {a : α} : OnlyIllegalArgument (.ok a : Result α) := nofun

theorem OnlyIllegalArgument.bind (hx : OnlyIllegalArgument x)
    (hf : ∀ a, OnlyIllegalArgument (f a)) : OnlyIllegalArgument (x >>= f) := by
  intro e he
  cases x with
  | error e' => exact hx e (congrArg Except.error (Except.error.inj he))
  | ok a => exact hf a e he

theorem OnlyIllegalArgument.require {cond : Prop} [Decidable cond] {message : String} :
    OnlyIllegalArgument (require cond message) := by
  intro e he
  unfold CordaIbc.require at he
  split at he
  · cases he
  · exact ⟨message, (Except.error.inj he).symm⟩

theorem OnlyIllegalArgument.orThrow {y : Option α} {message : String} :
    OnlyIllegalArgument (orThrow y (.illegalArgument message)) := by
  intro e he
  cases y with
  | none => exact ⟨message, (Except.error.inj he).symm⟩
  | some a => cases he

theorem OnlyIllegalArgument.identifier {s : String} : OnlyIllegalArgument (Identifier.of s) := by
  intro e he
  unfold Identifier.of at he
  split at he
  · cases he
  · exact ⟨_, (Except.error.inj he).symm⟩

end Result

open Result

namespace Denom

theorem removePrefix_onlyIllegalArgument (d : Denom) : OnlyIllegalArgument d.removePrefix := by
  refine .bind ?_ fun _ => .ok
  unfold DenomPath.removePrefix
  dsimp only
  split
  · exact .ok
  · exact .bind .require fun _ => .ok

end Denom

namespace Bank

theorem unlock_onlyIllegalArgument (bank : Bank) (owner : Address) (denom : Denom) (amount : Int) :
    OnlyIllegalArgument (bank.unlock owner denom amount) :=
  .bind (.bind .orThrow fun _ => .bind .orThrow fun _ => .bind .require fun _ => .ok) fun _ => .ok

end Bank

/-- A success or an error acknowledgement. -/
def ChannelOuterClass.Acknowledgement.IsAnswer (ack : Acknowledgement) : Prop :=
  ack = successAck ∨ ∃ message, ack = .error message

namespace Ics20

section
variable {P : Platform} {ctx : Context}

theorem credit_onlyIllegalArgument (bank : Bank) (source : Bool) (packet : Packet)
    (receiver : Address) (denom : Denom) (amount : Int) :
    OnlyIllegalArgument (credit P bank source packet receiver denom amount) := by
  cases source with
  | true =>
    exact .bind denom.removePrefix_onlyIllegalArgument fun d =>
      bank.unlock_onlyIllegalArgument receiver d amount
  | false => exact .bind .identifier fun _ => .bind .identifier fun _ => .ok

/-- The part of `onRecvPacket` inside the `try` block always answers. -/
theorem exists_answer {bank : Bank} {x : Result Bank}
    (hno : ∀ b : Bank, ContractState.bank b ∉ ctx.outStates.states) (hx : OnlyIllegalArgument x) :
    ∃ ctx' ack, catchIllegalArgument
      (do let ctx ← ctx.addOutput (← x)
          .ok (ctx, successAck))
      (fun message => do
        let ctx ← ctx.addOutput bank
        .ok (ctx, .error message)) = .ok (ctx', ack) ∧ ack.IsAnswer := by
  cases x with
  | ok bank' =>
    obtain ⟨ctx', hadd⟩ : ∃ ctx', ctx.addOutput bank' = .ok ctx' := exists_addOutput hno
    exact ⟨ctx', successAck, by simp only [Result.ok_bind, hadd, catchIllegalArgument], .inl rfl⟩
  | error e =>
    obtain ⟨message, rfl⟩ := hx e rfl
    obtain ⟨ctx', hadd⟩ : ∃ ctx', ctx.addOutput bank = .ok ctx' := exists_addOutput hno
    refine ⟨ctx', .error message, ?_, .inr ⟨message, rfl⟩⟩
    show (do let ctx ← ctx.addOutput bank; .ok (ctx, _)) = _
    rw [hadd, Result.ok_bind]

theorem receiver_of_recv {packet : Packet} {data : FungibleTokenPacketData}
    {r : Context × Acknowledgement} (hdata : P.toFungibleTokenPacketData packet.data = .ok data)
    (hrecv : onRecvPacket P ctx packet = .ok r) :
    ∃ receiver, Address.fromBech32 P.toCrypto data.receiver = .ok receiver := by
  simp only [onRecvPacket, Result.bind_ok, hdata, Except.ok.injEq] at hrecv
  obtain ⟨_, rfl, _, -, receiver, hreceiver, -⟩ := hrecv
  exact ⟨receiver, hreceiver⟩

/-- A packet that reads as a transfer from well-formed ends is answered exactly when its receiver is
an address. -/
theorem answers_iff {packet : Packet} {data : FungibleTokenPacketData} {amount : Int} {bank : Bank}
    (hdata : P.toFungibleTokenPacketData packet.data = .ok data)
    (hamount : toBigInteger data.amount = .ok amount)
    (hport : ∃ port : Identifier, port.id = packet.sourcePort)
    (hchannel : ∃ channel : Identifier, channel.id = packet.sourceChannel)
    (hbank : ctx.getInput Bank = .ok bank)
    (hno : ∀ b : Bank, ContractState.bank b ∉ ctx.outStates.states) :
    (∃ ctx' ack, onRecvPacket P ctx packet = .ok (ctx', ack) ∧ ack.IsAnswer) ↔
      ∃ receiver, Address.fromBech32 P.toCrypto data.receiver = .ok receiver := by
  obtain ⟨port, hp⟩ := hport
  obtain ⟨channel, hc⟩ := hchannel
  constructor
  · rintro ⟨ctx', ack, hrecv, -⟩
    exact receiver_of_recv hdata hrecv
  · rintro ⟨receiver, hreceiver⟩
    have hcredit : OnlyIllegalArgument (credit P bank
        ((Denom.fromString data.denom).hasPrefix port channel) packet receiver
        (Denom.fromString data.denom) amount) :=
      credit_onlyIllegalArgument _ _ _ _ _ _
    obtain ⟨ctx', ack, hcatch, hanswer⟩ := @exists_answer ctx bank _ hno hcredit
    refine ⟨ctx', ack, ?_, hanswer⟩
    simp only [onRecvPacket, hdata, hamount, hreceiver, Identifier.of_ok.2 hp, Identifier.of_ok.2 hc,
      hbank, Result.ok_bind]
    exact hcatch

/-- The packet an accepted transfer leaves in the channel, with what the sender has checked. -/
theorem packet_of_send {ins refs : List ContractState} {anyMsg : Any} {msg : MsgTransfer}
    {ctx' : Context} {chan chan' : IbcChannel} {packet : Packet}
    (hsend : createOutgoingPacket P (.create ins refs) anyMsg = .ok ctx')
    (hmsg : P.unpackMsgTransfer anyMsg = .ok msg)
    (hchan : (Context.create ins refs).getInput IbcChannel = .ok chan)
    (hout : ContractState.channel chan' ∈ ctx'.outStates.states)
    (hpacket : chan'.packets.lookup chan.nextSequenceSend = some packet) :
    (∃ denom, packet = transferPacket P msg denom chan) ∧
      (∃ amount, toBigInteger msg.token.amount = .ok amount) ∧
      (∃ port : Identifier, port.id = packet.sourcePort) ∧
      ∃ channel : Identifier, channel.id = packet.sourceChannel := by
  obtain ⟨p, outs, heffect, hs, ho⟩ := @Module.createOutgoingPacket_ok P _ _ [] .ics20 _ _ hchan hsend
  have hmem : ContractState.channel chan' ∈ outs ++ [.channel (chan.sent p)] := by
    have h := ho.outStates
    rw [show (Context.create ins refs).outStates.states = [] from rfl, List.nil_append] at h
    rwa [← h]
  obtain rfl := heffect.bankOuts.channel_eq hmem
  obtain rfl : p = packet := by
    rw [IbcChannel.sent, ← hs.sequence, Finmap.lookup_insert] at hpacket
    exact Option.some.inj hpacket
  cases heffect with
  | @ics20 msg' amount sender port channel bank₀ bank' denom hmsg' hamount _ hport hchannel =>
    obtain rfl : msg' = msg := Except.ok.inj (hmsg'.symm.trans hmsg)
    exact ⟨⟨denom, rfl⟩, ⟨amount, hamount⟩, ⟨port, hport⟩, channel, hchannel⟩

/-- The packet of an accepted transfer is answered by the other host, whatever its bank, exactly when
the receiver the transfer names is an address. -/
theorem onRecvPacket_answers_iff
    (hjson : ∀ data, P.toFungibleTokenPacketData (P.toJson data) = .ok data)
    {ins refs : List ContractState} {anyMsg : Any} {msg : MsgTransfer} {ctx' : Context}
    {chan chan' : IbcChannel} {packet : Packet}
    (hsend : createOutgoingPacket P (.create ins refs) anyMsg = .ok ctx')
    (hmsg : P.unpackMsgTransfer anyMsg = .ok msg)
    (hchan : (Context.create ins refs).getInput IbcChannel = .ok chan)
    (hout : ContractState.channel chan' ∈ ctx'.outStates.states)
    (hpacket : chan'.packets.lookup chan.nextSequenceSend = some packet)
    {ins' refs' : List ContractState} {bank : Bank}
    (hbank : (Context.create ins' refs').getInput Bank = .ok bank) :
    (∃ ctx'' ack, onRecvPacket P (.create ins' refs') packet = .ok (ctx'', ack) ∧ ack.IsAnswer) ↔
      ∃ receiver, Address.fromBech32 P.toCrypto msg.receiver = .ok receiver := by
  obtain ⟨⟨denom, rfl⟩, ⟨amount, hamount⟩, hport, hchannel⟩ :=
    packet_of_send hsend hmsg hchan hout hpacket
  have hdata : P.toFungibleTokenPacketData (transferPacket P msg denom chan).data =
      .ok ⟨denom.toString, msg.token.amount, msg.sender, msg.receiver⟩ := hjson _
  exact answers_iff hdata hamount hport hchannel hbank fun _ => List.not_mem_nil

end

/-! ### A receiver that is no address -/

namespace UnknownReceiver
open Sample

def transfer (receiver : String) : MsgTransfer :=
  { liveTransfer with sender := addressA, receiver }

/-- The second transfer has an address for a receiver. -/
def P : Platform := platform [] [transfer "alice", transfer addressB]

def openChannel : IbcChannel :=
  .create (host 1) transferPort (channel 0) (channelEnd .opened "channel-0")

def inputs : List ContractState := [.bank liveBank, .channel openChannel]

/-- The bank of the second chain. -/
def peerInputs : List ContractState := [.bank (Bank.create peerHost)]

/-- The first packets of the channels in a context. -/
def packets (ctx : Context) : List (Option Packet) :=
  (filterIsInstance IbcChannel ctx.outStates.states).map (·.packets.lookup 1)

theorem packets_alice : (fun ctx => (packets ctx).map Option.isSome) <$>
    createOutgoingPacket P (.create inputs references) ⟨"", [0]⟩ = .ok [true] := by decide +kernel

theorem packets_address : (fun ctx => (packets ctx).map Option.isSome) <$>
    createOutgoingPacket P (.create inputs references) ⟨"", [1]⟩ = .ok [true] := by decide +kernel

theorem exists_sent {anyMsg : Any} (h : (fun ctx => (packets ctx).map Option.isSome) <$>
    createOutgoingPacket P (.create inputs references) anyMsg = .ok [true]) :
    ∃ ctx' chan' packet, createOutgoingPacket P (.create inputs references) anyMsg = .ok ctx' ∧
      ContractState.channel chan' ∈ ctx'.outStates.states ∧
      chan'.packets.lookup openChannel.nextSequenceSend = some packet := by
  obtain ⟨ctx', hsend, hout⟩ := Result.map_ok.1 h
  obtain ⟨o, ho, hsome⟩ : ∃ o, packets ctx' = [o] ∧ o.isSome = true := by
    rcases hp : packets ctx' with _ | ⟨o, _ | _⟩ <;> rw [hp] at hout
    · cases hout
    · exact ⟨o, rfl, (List.cons.inj hout).1⟩
    · cases (List.cons.inj hout).2
  obtain ⟨chan', hchan, rfl⟩ : ∃ chan' ∈ filterIsInstance IbcChannel ctx'.outStates.states,
      chan'.packets.lookup 1 = o := List.mem_map.1 (by
    rw [show List.map _ _ = packets ctx' from rfl, ho]
    exact List.mem_singleton_self o)
  obtain ⟨packet, hpacket⟩ := Option.isSome_iff_exists.1 hsome
  exact ⟨ctx', chan', packet, hsend, mem_filterIsInstance.1 hchan, hpacket⟩

theorem alice_no_address : ∀ receiver, Address.fromBech32 P.toCrypto "alice" ≠ .ok receiver := by
  have h : Bech32.decode "alice" = .error (.other "AddressFormatException.InvalidDataLength") := by
    decide +kernel
  intro receiver hr
  obtain ⟨_, hdecode, -⟩ := Result.bind_ok.1 hr
  cases h.symm.trans hdecode

/-- A transfer to a receiver that is no address is accepted, and `onRecvPacket` throws on its
packet. -/
theorem packet_unanswered : ∃ (P : Platform) (ctx ctx' : Context) (anyMsg : Any)
    (chan chan' : IbcChannel) (packet : Packet) (peer : Context) (bank : Bank),
    (∀ data, P.toFungibleTokenPacketData (P.toJson data) = .ok data) ∧
      createOutgoingPacket P ctx anyMsg = .ok ctx' ∧ ctx.getInput IbcChannel = .ok chan ∧
      ContractState.channel chan' ∈ ctx'.outStates.states ∧
      chan'.packets.lookup chan.nextSequenceSend = some packet ∧ peer.getInput Bank = .ok bank ∧
      peer.outStates = .empty ∧ ∀ r, onRecvPacket P peer packet ≠ .ok r := by
  obtain ⟨ctx', chan', packet, hsend, hout, hpacket⟩ := exists_sent packets_alice
  refine ⟨P, _, ctx', _, openChannel, chan', packet, .create peerInputs [], Bank.create peerHost,
    toFungibleTokenPacketData_toJson, hsend, rfl, hout, hpacket, rfl, rfl, ?_⟩
  obtain ⟨⟨denom, rfl⟩, -⟩ := packet_of_send hsend rfl rfl hout hpacket
  intro r hrecv
  obtain ⟨receiver, hr⟩ := receiver_of_recv (toFungibleTokenPacketData_toJson _) hrecv
  exact alice_no_address receiver hr

/-- A transfer to an address is answered. -/
theorem packet_answered : ∃ packet ctx' ack,
    onRecvPacket P (.create peerInputs []) packet = .ok (ctx', ack) ∧ ack.IsAnswer := by
  obtain ⟨ctx', chan', packet, hsend, hout, hpacket⟩ := exists_sent packets_address
  have hbank : (Context.create peerInputs []).getInput Bank = .ok (Bank.create peerHost) := rfl
  have hiff := onRecvPacket_answers_iff (P := P) toFungibleTokenPacketData_toJson hsend rfl rfl hout
    hpacket hbank
  have haddress : (Address.fromBech32 P.toCrypto addressB).toOption.isSome = true := by
    decide +kernel
  cases hr : Address.fromBech32 P.toCrypto addressB with
  | error e =>
    rw [hr] at haddress
    cases haddress
  | ok receiver =>
    obtain ⟨ctx'', ack, hanswer⟩ := hiff.2 ⟨receiver, hr⟩
    exact ⟨packet, ctx'', ack, hanswer⟩

end UnknownReceiver

end Ics20

end CordaIbc
