import CordaIbc.Lib.Numbered
import CordaIbc.Proofs.Bookkeeping
import CordaIbc.Proofs.EndStep

/-!
# What a host sent and received

The packets a run of a host sent and received, read off its transactions. The packets sent under one
channel identifier are numbered from one, whatever becomes of the channel (`SendLog`); so are those
received on an ordered channel, and an acknowledgement that any state of the channel shows is the one
recorded on receipt (`RecvLog`).
-/

namespace CordaIbc

open ChannelOuterClass (Packet Acknowledgement)
open ContractState StateClass

namespace LedgerTransaction

/-- The packet a transaction sends: the last one of the channel it puts out. -/
def sent? (tx : LedgerTransaction) : Option Packet :=
  match tx.datagramHandlerCommands with
  | [(.createOutgoingPacket _, _)] =>
    tx.channelOut?.bind fun chan => chan.packets.lookup (chan.nextSequenceSend - 1)
  | _ => none

/-- The packet a transaction receives, with the acknowledgement it records. -/
def received? (tx : LedgerTransaction) : Option (Packet × Acknowledgement) :=
  match tx.datagramHandlerCommands with
  | [(.handlePacketRecv msg, _)] => tx.channelOut?.bind fun chan =>
    (chan.acknowledgements.lookup msg.packet.sequence).map fun ack => (msg.packet, ack)
  | _ => none

end LedgerTransaction

/-- The packets sent in a run of a host. -/
def sentPackets (tr : List LedgerTransaction) : List Packet := tr.filterMap (·.sent?)

/-- The packets received in a run of a host. -/
def receivedPackets (tr : List LedgerTransaction) : List (Packet × Acknowledgement) :=
  tr.filterMap (·.received?)

/-- The packets sent from a channel. -/
def sentOn (channel : String) (tr : List LedgerTransaction) : List Packet :=
  (sentPackets tr).filter (·.sourceChannel = channel)

/-- The packets received on a channel. -/
def receivedOn (channel : String) (tr : List LedgerTransaction) : List (Packet × Acknowledgement) :=
  (receivedPackets tr).filter (·.1.destinationChannel = channel)

namespace IbcChannel

/-- The handshake is over. -/
def Settled (chan : IbcChannel) : Prop := chan.end_.state = .opened ∨ chan.end_.state = .closed

/-- What a change of a channel sends and receives. -/
inductive LogStep (chan : IbcChannel) :
    IbcChannel → Option Packet → Option (Packet × Acknowledgement) → Prop
  | sends {packet : Packet} (hsequence : packet.sequence = chan.nextSequenceSend)
    (hport : chan.portId.id = packet.sourcePort) (hchannel : chan.id.id = packet.sourceChannel) :
    LogStep chan (chan.sent packet) (some packet) none
  | receives {packet : Packet} {ack : Acknowledgement} {chan' : IbcChannel}
    (hopen : chan.end_.state = .opened) (hport : chan.portId.id = packet.destinationPort)
    (hchannel : chan.id.id = packet.destinationChannel)
    (hsrcPort : packet.sourcePort = chan.end_.counterparty.portId)
    (hsrcChannel : packet.sourceChannel = chan.end_.counterparty.channelId)
    (hreceive : Handler.recvPacket.receive (chan.answered packet ack) packet = .ok chan') :
    LogStep chan chan' none (some (packet, ack))
  | retries {chan' : IbcChannel} (hinit : chan.end_.state = .init) (hempty : chan'.packets = ∅)
    (hanswers : chan'.acknowledgements = ∅) (hsend : chan'.nextSequenceSend = chan.nextSequenceSend)
    (hrecv : chan'.nextSequenceRecv = chan.nextSequenceRecv)
    (hordering : chan'.end_.ordering = chan.end_.ordering) : LogStep chan chan' none none
  | keeps {chan' : IbcChannel} (hport : chan'.portId = chan.portId)
    (hpackets : ∀ n p, chan'.packets.lookup n = some p → chan.packets.lookup n = some p)
    (hanswers : chan'.acknowledgements = chan.acknowledgements)
    (hsend : chan'.nextSequenceSend = chan.nextSequenceSend)
    (hrecv : chan'.nextSequenceRecv = chan.nextSequenceRecv)
    (hordering : chan'.end_.ordering = chan.end_.ordering)
    (hsettled : chan.Settled → chan'.Settled ∧ chan'.end_.counterparty = chan.end_.counterparty) :
    LogStep chan chan' none none

section
variable {P : Platform} {tx : LedgerTransaction} {ctx : Context} {signers : List PublicKey}
  {handler : DatagramHandler} {chan chan' : IbcChannel}

/-- The packet just sent is the last one of its channel. -/
theorem sent_of_createOutgoingPacket {anyMsg : Any} {packet : Packet}
    (hd : tx.datagramHandlerCommands = [(.createOutgoingPacket anyMsg, signers)])
    (hout : tx.channelOut? = some (chan.sent packet))
    (hsequence : packet.sequence = chan.nextSequenceSend) : tx.sent? = some packet := by
  have hl : (chan.sent packet).packets.lookup ((chan.sent packet).nextSequenceSend - 1) =
      some packet := by
    show (chan.packets.insert packet.sequence packet).lookup (chan.nextSequenceSend + 1 - 1) = _
    rw [Nat.add_sub_cancel, ← hsequence, Finmap.lookup_insert]
  unfold LedgerTransaction.sent?
  rw [hd]
  simp only [hout, Option.bind_some, hl]

theorem lookup_received {packet : Packet} {ack : Acknowledgement}
    (h : Handler.recvPacket.receive (chan.answered packet ack) packet = .ok chan') :
    chan'.acknowledgements = chan.acknowledgements.insert packet.sequence ack := by
  rcases receive_cases h with ⟨-, -, rfl⟩ | ⟨-, -, rfl⟩ <;> rfl

/-- The packet just received has its acknowledgement in its channel. -/
theorem received_of_handlePacketRecv {msg : MsgRecvPacket} {ack : Acknowledgement}
    (hd : tx.datagramHandlerCommands = [(.handlePacketRecv msg, signers)])
    (hout : tx.channelOut? = some chan')
    (h : Handler.recvPacket.receive (chan.answered msg.packet ack) msg.packet = .ok chan') :
    tx.received? = some (msg.packet, ack) := by
  have hl : chan'.acknowledgements.lookup msg.packet.sequence = some ack := by
    rw [lookup_received h, Finmap.lookup_insert]
  unfold LedgerTransaction.received?
  rw [hd]
  simp only [hout, Option.bind_some, hl, Option.map_some]

theorem sent_eq_none_of_ne (hd : tx.datagramHandlerCommands = [(handler, signers)])
    (hne : ∀ anyMsg, handler ≠ .createOutgoingPacket anyMsg) : tx.sent? = none := by
  unfold LedgerTransaction.sent?
  rw [hd]
  cases handler <;> first | rfl | exact absurd rfl (hne _)

theorem received_eq_none_of_ne (hd : tx.datagramHandlerCommands = [(handler, signers)])
    (hne : ∀ msg, handler ≠ .handlePacketRecv msg) : tx.received? = none := by
  unfold LedgerTransaction.received?
  rw [hd]
  cases handler <;> first | rfl | exact absurd rfl (hne _)

theorem Change.logStep (h : Change P ctx signers handler chan chan')
    (hd : tx.datagramHandlerCommands = [(handler, signers)]) (hout : tx.channelOut? = some chan') :
    LogStep chan chan' tx.sent? tx.received? := by
  have hsent := sent_eq_none_of_ne hd
  have hrecv := received_eq_none_of_ne hd
  cases h with
  | tryPrevious _ hinit hordering =>
    rw [hsent nofun, hrecv nofun]
    exact .retries hinit rfl rfl rfl rfl hordering.symm
  | ack hstate =>
    rw [hsent nofun, hrecv nofun]
    refine .keeps rfl (fun _ _ hl => hl) rfl rfl rfl rfl fun hs => ?_
    rcases hstate with hi | hi <;> rcases hs with hs | hs <;> rw [hi] at hs <;> cases hs
  | confirm =>
    rw [hsent nofun, hrecv nofun]
    exact .keeps rfl (fun _ _ hl => hl) rfl rfl rfl rfl fun _ => ⟨.inl rfl, rfl⟩
  | closeInit | closeConfirm =>
    rw [hsent nofun, hrecv nofun]
    exact .keeps rfl (fun _ _ hl => hl) rfl rfl rfl rfl fun _ => ⟨.inr rfl, rfl⟩
  | @send _ _ _ packet _ _ _ _ _ hsend =>
    rw [hrecv nofun, sent_of_createOutgoingPacket hd hout hsend.sequence]
    exact .sends hsend.sequence hsend.port hsend.channel
  | @recv msg ack _ _ hrecv =>
    obtain ⟨_, _, hopened, -⟩ := hrecv.proof
    rw [hsent nofun, received_of_handlePacketRecv hd hout hrecv.receive]
    exact .receives hopened.chanOpen hrecv.port hrecv.channel hrecv.srcPort hrecv.srcChannel
      hrecv.receive
  | @settle msg _ _ _ hacks =>
    rw [hsent nofun, hrecv nofun]
    obtain ⟨i, rfl⟩ := settle_eq hacks.settle
    refine .keeps rfl (fun n p hl => ?_) rfl rfl rfl rfl fun hs => ⟨hs, rfl⟩
    have hn : n ≠ msg.packet.sequence := by
      rintro rfl
      rw [settled, Finmap.lookup_erase] at hl
      cases hl
    rwa [settled, Finmap.lookup_erase_ne hn] at hl

end

end IbcChannel

namespace LedgerTransaction
variable {tx : LedgerTransaction} {handler : DatagramHandler} {signers : List PublicKey}

theorem sent_eq_none (h : tx.channelOut? = none) : tx.sent? = none := by
  unfold sent?
  split
  · rw [h]; rfl
  · rfl

theorem received_eq_none (h : tx.channelOut? = none) : tx.received? = none := by
  unfold received?
  split
  · rw [h]; rfl
  · rfl

theorem log_of_creates (hd : tx.datagramHandlerCommands = [(handler, signers)])
    (hcont : handler.continuesChannel = false) : tx.sent? = none ∧ tx.received? = none := by
  refine ⟨IbcChannel.sent_eq_none_of_ne hd fun anyMsg he => ?_,
    IbcChannel.received_eq_none_of_ne hd fun msg he => ?_⟩
  · rw [he] at hcont
    cases hcont
  · rw [he] at hcont
    cases hcont

end LedgerTransaction

section
variable {tr : List LedgerTransaction} {tx : LedgerTransaction} {id : String}

theorem sentPackets_snoc : sentPackets (tr ++ [tx]) = sentPackets tr ++ tx.sent?.toList := by
  unfold sentPackets
  cases h : tx.sent? <;> simp [h]

theorem receivedPackets_snoc :
    receivedPackets (tr ++ [tx]) = receivedPackets tr ++ tx.received?.toList := by
  unfold receivedPackets
  cases h : tx.received? <;> simp [h]

theorem sentOn_snoc_none (h : tx.sent? = none) : sentOn id (tr ++ [tx]) = sentOn id tr := by
  simp [sentOn, sentPackets_snoc, h]

theorem sentOn_snoc_self {p : Packet} (h : tx.sent? = some p) (hid : p.sourceChannel = id) :
    sentOn id (tr ++ [tx]) = sentOn id tr ++ [p] := by
  simp [sentOn, sentPackets_snoc, h, hid]

theorem sentOn_snoc_ne {p : Packet} (h : tx.sent? = some p) (hid : p.sourceChannel ≠ id) :
    sentOn id (tr ++ [tx]) = sentOn id tr := by
  simp [sentOn, sentPackets_snoc, h, hid]

theorem receivedOn_snoc_none (h : tx.received? = none) :
    receivedOn id (tr ++ [tx]) = receivedOn id tr := by
  simp [receivedOn, receivedPackets_snoc, h]

theorem receivedOn_snoc_self {p : Packet × Acknowledgement} (h : tx.received? = some p)
    (hid : p.1.destinationChannel = id) :
    receivedOn id (tr ++ [tx]) = receivedOn id tr ++ [p] := by
  simp [receivedOn, receivedPackets_snoc, h, hid]

theorem receivedOn_snoc_ne {p : Packet × Acknowledgement} (h : tx.received? = some p)
    (hid : p.1.destinationChannel ≠ id) :
    receivedOn id (tr ++ [tx]) = receivedOn id tr := by
  simp [receivedOn, receivedPackets_snoc, h, hid]

theorem mem_sentOn_snoc {p : Packet} (h : p ∈ sentOn id (tr ++ [tx])) :
    p ∈ sentOn id tr ∨ tx.sent? = some p := by
  unfold sentOn at h ⊢
  rw [sentPackets_snoc, List.filter_append, List.mem_append] at h
  exact h.imp_right fun h => Option.mem_toList.1 (List.mem_filter.1 h).1

theorem mem_sentOn {p : Packet} :
    p ∈ sentOn id tr ↔ p ∈ sentPackets tr ∧ p.sourceChannel = id := by simp [sentOn]

theorem mem_receivedOn {p : Packet × Acknowledgement} :
    p ∈ receivedOn id tr ↔ p ∈ receivedPackets tr ∧ p.1.destinationChannel = id := by
  simp [receivedOn]

end

namespace Chain

/-- The current channels are states of the past. -/
def Recorded (c : Chain) : Prop :=
  ∀ i chan, c.states.lookup i = some (.channel chan) → ContractState.channel chan ∈ c.history

/-- What the channels of a host say about the packets it sent. -/
structure SendLog (tr : List LedgerTransaction) (c : Chain) : Prop where
  next : ∀ i chan, c.states.lookup i = some (.channel chan) →
    chan.nextSequenceSend = (sentOn i.id tr).length + 1
  numbered : ∀ id, Numbered Packet.sequence (sentOn id tr)
  channel : ∀ p ∈ sentPackets tr,
    ∃ i chan, c.states.lookup i = some (.channel chan) ∧ p.sourceChannel = i.id
  packets : ∀ chan, ContractState.channel chan ∈ c.history →
    ∀ n p, chan.packets.lookup n = some p → p ∈ sentPackets tr ∧ p.sequence = n ∧
      p.sourcePort = chan.portId.id ∧ p.sourceChannel = chan.id.id

/-- What the channels of a host say about the packets it received. -/
structure RecvLog (tr : List LedgerTransaction) (c : Chain) : Prop where
  book : ∀ i chan, c.states.lookup i = some (.channel chan) → chan.RecvBook
  ordered : ∀ i chan, c.states.lookup i = some (.channel chan) → chan.end_.ordering = .ordered →
    chan.nextSequenceRecv = (receivedOn i.id tr).length + 1 ∧
      Numbered (fun p : Packet × Acknowledgement => p.1.sequence) (receivedOn i.id tr)
  channel : ∀ p ack, (p, ack) ∈ receivedPackets tr →
    ∃ i chan, c.states.lookup i = some (.channel chan) ∧ p.destinationChannel = i.id ∧
      p.destinationPort = chan.portId.id ∧ chan.Settled ∧
      p.sourcePort = chan.end_.counterparty.portId ∧
      p.sourceChannel = chan.end_.counterparty.channelId ∧
      chan.acknowledgements.lookup p.sequence = some ack
  acks : ∀ chan, ContractState.channel chan ∈ c.history →
    ∀ n ack, chan.acknowledgements.lookup n = some ack → ∃ p, (p, ack) ∈ receivedPackets tr ∧
      p.sequence = n ∧ p.destinationPort = chan.portId.id ∧ p.destinationChannel = chan.id.id

section
variable {P : Platform} {c : Chain} {tx : LedgerTransaction} {outs : List ContractState}
  {tr : List LedgerTransaction}

theorem Recorded.apply (h : c.Recorded) (ht : Takes P c tx outs) : (c.apply tx).Recorded := by
  intro i chan hl
  rw [ht.mem_history]
  rcases ht.lookup_cases hl with ⟨hm, -⟩ | ⟨-, hl⟩
  · exact .inl hm
  · exact .inr (h i chan hl)

theorem Start.recorded (h : c.Start) : c.Recorded := by
  intro i chan hl
  obtain ⟨_, _, _, _, _, host, -, rfl⟩ := h
  cases (lookup_ofHost hl).2

/-- A host that was just created has no channels. -/
theorem Start.noChannel (h : c.Start) (chan : IbcChannel) :
    ContractState.channel chan ∉ c.history := by
  obtain ⟨_, _, _, _, _, host, -, rfl⟩ := h
  show ContractState.channel chan ∉ [.host host]
  simp

end

/-! ### Packets sent -/

section
variable {P : Platform} {c c' : Chain} {tx : LedgerTransaction} {outs : List ContractState}
  {tr : List LedgerTransaction} {chan chan' : IbcChannel}

theorem SendLog.leaves (h : SendLog tr c) (hl : Leaves IbcChannel c c') (hsent : tx.sent? = none) :
    SendLog (tr ++ [tx]) c' := by
  have hall : sentPackets (tr ++ [tx]) = sentPackets tr := by
    rw [sentPackets_snoc, hsent]
    simp
  refine ⟨fun i chan hc => ?_, fun id => ?_, fun p hp => ?_, fun chan hc => ?_⟩
  · rw [sentOn_snoc_none hsent]
    exact h.next i chan ((hl.lookup i chan).1 hc)
  · rw [sentOn_snoc_none hsent]
    exact h.numbered id
  · rw [hall] at hp
    obtain ⟨i, chan, hc, hid⟩ := h.channel p hp
    exact ⟨i, chan, (hl.lookup i chan).2 hc, hid⟩
  · rw [hall]
    exact h.packets chan ((hl.history chan).1 hc)

/-- A channel is written that sends nothing. -/
theorem SendLog.quiet (h : SendLog tr c) (hw : Writes c c' chan'.id chan') (hsent : tx.sent? = none)
    (hnext : chan'.nextSequenceSend = (sentOn chan'.id.id tr).length + 1)
    (hpackets : ∀ n p, chan'.packets.lookup n = some p → p ∈ sentPackets tr ∧ p.sequence = n ∧
      p.sourcePort = chan'.portId.id ∧ p.sourceChannel = chan'.id.id) :
    SendLog (tr ++ [tx]) c' := by
  have hall : sentPackets (tr ++ [tx]) = sentPackets tr := by
    rw [sentPackets_snoc, hsent]
    simp
  refine ⟨fun i d hc => ?_, fun id => ?_, fun p hp => ?_, fun d hc => ?_⟩
  · rw [sentOn_snoc_none hsent]
    by_cases hi : i = chan'.id
    · subst hi
      rw [hw.self] at hc
      cases hc
      exact hnext
    · exact h.next i d ((hw.other i hi d).1 hc)
  · rw [sentOn_snoc_none hsent]
    exact h.numbered id
  · rw [hall] at hp
    obtain ⟨i, d, hc, hid⟩ := h.channel p hp
    by_cases hi : i = chan'.id
    · exact ⟨i, chan', hi ▸ hw.self, hid⟩
    · exact ⟨i, d, (hw.other i hi d).2 hc, hid⟩
  · rw [hall]
    rcases (hw.history d).1 hc with rfl | hc
    · exact hpackets
    · exact h.packets d hc

/-- Nothing was sent under a free identifier. -/
theorem SendLog.sentOn_eq_nil (h : SendLog tr c) {i : Identifier} (hi : c.states.lookup i = none) :
    sentOn i.id tr = [] := by
  refine List.eq_nil_iff_forall_not_mem.2 fun p hp => ?_
  obtain ⟨hp, hid⟩ := mem_sentOn.1 hp
  obtain ⟨j, chan, hc, hj⟩ := h.channel p hp
  obtain rfl : i = j := Identifier.ext (hid.symm.trans hj)
  rw [hi] at hc
  cases hc

/-- A packet sent is known by its channel and sequence. -/
theorem SendLog.eq_of_key (h : SendLog tr c) {p q : Packet} (hp : p ∈ sentPackets tr)
    (hq : q ∈ sentPackets tr) (hchannel : p.sourceChannel = q.sourceChannel)
    (hsequence : p.sequence = q.sequence) : p = q :=
  (h.numbered q.sourceChannel).eq_of_key (mem_sentOn.2 ⟨hp, hchannel⟩) (mem_sentOn.2 ⟨hq, rfl⟩)
    hsequence

/-- No packet is sent twice. -/
theorem SendLog.nodup (h : SendLog tr c) : (sentPackets tr).Nodup := by
  refine List.nodup_iff_count_le_one.2 fun p => ?_
  have hon : (sentOn p.sourceChannel tr).Nodup := (h.numbered _).nodup
  rw [← List.count_filter (p := fun q : Packet => q.sourceChannel = p.sourceChannel) (by simp)]
  exact List.nodup_iff_count_le_one.1 hon p

/-- A channel is written that sends a packet. -/
theorem SendLog.sends (h : SendLog tr c) (hrec : c.Recorded)
    (hcur : c.states.lookup chan.id = some (.channel chan)) {packet : Packet}
    (hw : Writes c c' chan.id (chan.sent packet)) (hsent : tx.sent? = some packet)
    (hsequence : packet.sequence = chan.nextSequenceSend) (hport : chan.portId.id = packet.sourcePort)
    (hchannel : chan.id.id = packet.sourceChannel) : SendLog (tr ++ [tx]) c' := by
  have hnext := h.next _ _ hcur
  have hall : sentPackets (tr ++ [tx]) = sentPackets tr ++ [packet] := by
    rw [sentPackets_snoc, hsent]
    rfl
  have hself : sentOn chan.id.id (tr ++ [tx]) = sentOn chan.id.id tr ++ [packet] :=
    sentOn_snoc_self hsent hchannel.symm
  refine ⟨fun i d hc => ?_, fun id => ?_, fun p hp => ?_, fun d hc n p hp => ?_⟩
  · by_cases hi : i = chan.id
    · subst hi
      rw [hw.self] at hc
      cases hc
      rw [hself, List.length_append]
      exact congrArg (· + 1) hnext
    · have hne : packet.sourceChannel ≠ i.id := fun he => hi (Identifier.ext (he.symm.trans hchannel.symm))
      rw [sentOn_snoc_ne hsent hne]
      exact h.next i d ((hw.other i hi d).1 hc)
  · by_cases hid : packet.sourceChannel = id
    · subst hid
      rw [← hchannel, hself]
      exact (h.numbered _).snoc (hsequence.trans hnext)
    · rw [sentOn_snoc_ne hsent hid]
      exact h.numbered id
  · rw [hall] at hp
    rcases List.mem_append.1 hp with hp | hp
    · obtain ⟨i, d, hc, hid⟩ := h.channel p hp
      by_cases hi : i = chan.id
      · exact ⟨i, chan.sent packet, hi ▸ hw.self, hid⟩
      · exact ⟨i, d, (hw.other i hi d).2 hc, hid⟩
    · rw [List.mem_singleton.1 hp]
      exact ⟨chan.id, chan.sent packet, hw.self, hchannel.symm⟩
  · rw [hall]
    have hold : ∀ d, ContractState.channel d ∈ c.history → d.packets.lookup n = some p →
        p ∈ sentPackets tr ++ [packet] ∧ p.sequence = n ∧ p.sourcePort = d.portId.id ∧
          p.sourceChannel = d.id.id := fun d hd hp => by
      obtain ⟨hm, hrest⟩ := h.packets d hd n p hp
      exact ⟨List.mem_append_left _ hm, hrest⟩
    rcases (hw.history d).1 hc with rfl | hc
    · by_cases hn : n = packet.sequence
      · subst hn
        rw [IbcChannel.sent, Finmap.lookup_insert] at hp
        cases hp
        exact ⟨List.mem_append_right _ (List.mem_singleton_self _), rfl, hport.symm, hchannel.symm⟩
      · rw [IbcChannel.sent, Finmap.lookup_insert_of_ne _ hn] at hp
        exact hold chan (hrec _ _ hcur) hp
    · exact hold d hc hp

theorem SendLog.step (h : SendLog tr c) (hrec : c.Recorded) (hs : ChannelStep P c tx) :
    SendLog (tr ++ [tx]) (c.apply tx) := by
  cases hs with
  | leaves hout hleaves => exact h.leaves hleaves (LedgerTransaction.sent_eq_none hout)
  | creates hruns _ hcont _ hnew hcreation hwrites =>
    have hchan := hcreation.new
    refine h.quiet hwrites (LedgerTransaction.log_of_creates hruns.command hcont).1 ?_
      fun n p hp => ?_
    · rw [h.sentOn_eq_nil hnew, hchan.send]
      rfl
    · rw [hchan.packets, Finmap.lookup_empty] at hp
      cases hp
  | @changes _ _ _ chan chan' hruns _ _ hout _ hcur hchange hwrites =>
    have hid : chan'.id = chan.id := hchange.id
    have hstep := hchange.logStep hruns.command hout
    have hold := h.packets chan (hrec _ _ hcur)
    have hnext := h.next _ _ hcur
    generalize hsent : tx.sent? = o at hstep
    generalize tx.received? = r at hstep
    cases hstep with
    | sends hsequence hport hchannel => exact h.sends hrec hcur hwrites hsent hsequence hport hchannel
    | receives _ _ _ _ _ hreceive =>
      rcases CordaIbc.receive_cases hreceive with ⟨-, -, rfl⟩ | ⟨-, -, rfl⟩ <;>
        exact h.quiet hwrites hsent hnext hold
    | retries _ hempty _ hsend =>
      refine h.quiet hwrites hsent (hsend.trans hnext) fun n p hp => ?_
      rw [hempty, Finmap.lookup_empty] at hp
      cases hp
    | keeps hport hpackets _ hsend =>
      refine h.quiet hwrites hsent (hsend.trans hnext) fun n p hp => ?_
      rw [hport, hid]
      exact hold n p (hpackets n p hp)

theorem Start.sendLog (h : c.Start) : SendLog [] c := by
  refine ⟨fun i chan hl => ?_, fun id => Numbered.nil, fun p hp => ?_, fun chan hc => ?_⟩
  · exact absurd (h.recorded i chan hl) (h.noChannel chan)
  · cases hp
  · exact absurd hc (h.noChannel chan)

/-! ### Packets received -/

theorem RecvLog.leaves (h : RecvLog tr c) (hl : Leaves IbcChannel c c') (hrecv : tx.received? = none) :
    RecvLog (tr ++ [tx]) c' := by
  have hall : receivedPackets (tr ++ [tx]) = receivedPackets tr := by
    rw [receivedPackets_snoc, hrecv]
    simp
  refine ⟨fun i chan hc => ?_, fun i chan hc ho => ?_, fun p ack hp => ?_, fun chan hc => ?_⟩
  · exact h.book i chan ((hl.lookup i chan).1 hc)
  · rw [receivedOn_snoc_none hrecv]
    exact h.ordered i chan ((hl.lookup i chan).1 hc) ho
  · rw [hall] at hp
    obtain ⟨i, chan, hc, hrest⟩ := h.channel p ack hp
    exact ⟨i, chan, (hl.lookup i chan).2 hc, hrest⟩
  · rw [hall]
    exact h.acks chan ((hl.history chan).1 hc)

/-- Nothing was received under an identifier unless its channel has finished the handshake. -/
theorem RecvLog.receivedOn_eq_nil (h : RecvLog tr c) {i : Identifier}
    (hi : ∀ chan, c.states.lookup i = some (.channel chan) → ¬ chan.Settled) :
    receivedOn i.id tr = [] := by
  refine List.eq_nil_iff_forall_not_mem.2 fun p hp => ?_
  obtain ⟨hp, hid⟩ := mem_receivedOn.1 hp
  obtain ⟨j, chan, hc, hj, -, hsettled, -⟩ := h.channel p.1 p.2 hp
  obtain rfl : i = j := Identifier.ext (hid.symm.trans hj)
  exact hi chan hc hsettled

/-- A channel is written that receives nothing. -/
theorem RecvLog.quiet (h : RecvLog tr c) (hw : Writes c c' chan'.id chan') (hrecv : tx.received? = none)
    (hbook : chan'.RecvBook) (hordered : chan'.end_.ordering = .ordered →
      chan'.nextSequenceRecv = (receivedOn chan'.id.id tr).length + 1 ∧
      Numbered (fun p : Packet × Acknowledgement => p.1.sequence) (receivedOn chan'.id.id tr))
    (hkeeps : ∀ chan, c.states.lookup chan'.id = some (.channel chan) → chan.Settled →
      chan'.portId = chan.portId ∧ chan'.Settled ∧ chan'.end_.counterparty = chan.end_.counterparty ∧
      chan'.acknowledgements = chan.acknowledgements)
    (hacks : ∀ n ack, chan'.acknowledgements.lookup n = some ack → ∃ p, (p, ack) ∈ receivedPackets tr ∧
      p.sequence = n ∧ p.destinationPort = chan'.portId.id ∧ p.destinationChannel = chan'.id.id) :
    RecvLog (tr ++ [tx]) c' := by
  have hall : receivedPackets (tr ++ [tx]) = receivedPackets tr := by
    rw [receivedPackets_snoc, hrecv]
    simp
  refine ⟨fun i d hc => ?_, fun i d hc ho => ?_, fun p ack hp => ?_, fun d hc => ?_⟩
  · by_cases hi : i = chan'.id
    · subst hi
      rw [hw.self] at hc
      cases hc
      exact hbook
    · exact h.book i d ((hw.other i hi d).1 hc)
  · rw [receivedOn_snoc_none hrecv]
    by_cases hi : i = chan'.id
    · subst hi
      rw [hw.self] at hc
      cases hc
      exact hordered ho
    · exact h.ordered i d ((hw.other i hi d).1 hc) ho
  · rw [hall] at hp
    obtain ⟨i, d, hc, hid, hport, hsettled, hsrcPort, hsrcChannel, hl⟩ := h.channel p ack hp
    by_cases hi : i = chan'.id
    · subst hi
      obtain ⟨hp', hs', hcp', ha'⟩ := hkeeps d hc hsettled
      exact ⟨_, chan', hw.self, hid, hp' ▸ hport, hs', hcp' ▸ hsrcPort, hcp' ▸ hsrcChannel, ha' ▸ hl⟩
    · exact ⟨i, d, (hw.other i hi d).2 hc, hid, hport, hsettled, hsrcPort, hsrcChannel, hl⟩
  · rw [hall]
    rcases (hw.history d).1 hc with rfl | hc
    · exact hacks
    · exact h.acks d hc

/-- A channel is written that receives a packet. -/
theorem RecvLog.receives (h : RecvLog tr c) (hrec : c.Recorded)
    (hcur : c.states.lookup chan'.id = some (.channel chan)) (hid : chan'.id = chan.id)
    {packet : Packet} {ack : Acknowledgement} (hw : Writes c c' chan'.id chan')
    (hrecv : tx.received? = some (packet, ack)) (hopen : chan.end_.state = .opened)
    (hport : chan.portId.id = packet.destinationPort)
    (hchannel : chan.id.id = packet.destinationChannel)
    (hsrcPort : packet.sourcePort = chan.end_.counterparty.portId)
    (hsrcChannel : packet.sourceChannel = chan.end_.counterparty.channelId)
    (hreceive : Handler.recvPacket.receive (chan.answered packet ack) packet = .ok chan') :
    RecvLog (tr ++ [tx]) c' := by
  obtain ⟨hfresh, hbook⟩ := (h.book _ _ hcur).recv hopen hreceive
  have hacks := IbcChannel.lookup_received hreceive
  have hall : receivedPackets (tr ++ [tx]) = receivedPackets tr ++ [(packet, ack)] := by
    rw [receivedPackets_snoc, hrecv]
    rfl
  have hdest : packet.destinationChannel = chan'.id.id := by rw [hid, hchannel]
  have hself : receivedOn chan'.id.id (tr ++ [tx]) = receivedOn chan'.id.id tr ++ [(packet, ack)] :=
    receivedOn_snoc_self hrecv hdest
  obtain ⟨hportId, hend, hnext⟩ : chan'.portId = chan.portId ∧ chan'.end_ = chan.end_ ∧
      (chan'.end_.ordering = .ordered → packet.sequence = chan.nextSequenceRecv ∧
        chan'.nextSequenceRecv = chan.nextSequenceRecv + 1) := by
    rcases CordaIbc.receive_cases hreceive with ⟨ho, -, rfl⟩ | ⟨-, hseq, rfl⟩
    · refine ⟨rfl, rfl, fun ho' => ?_⟩
      cases ho.symm.trans ho'
    · exact ⟨rfl, rfl, fun _ => ⟨hseq, rfl⟩⟩
  have hanswer : chan'.acknowledgements.lookup packet.sequence = some ack := by
    rw [hacks, Finmap.lookup_insert]
  have hsettled : chan'.Settled := .inl (hend ▸ hopen)
  refine ⟨fun i d hc => ?_, fun i d hc ho => ?_, fun p a hp => ?_, fun d hc n a hl => ?_⟩
  · by_cases hi : i = chan'.id
    · subst hi
      rw [hw.self] at hc
      cases hc
      exact hbook
    · exact h.book i d ((hw.other i hi d).1 hc)
  · by_cases hi : i = chan'.id
    · subst hi
      rw [hw.self] at hc
      cases hc
      obtain ⟨hseq, hnext'⟩ := hnext ho
      obtain ⟨hlen, hnum⟩ := h.ordered _ _ hcur (hend ▸ ho)
      rw [hself, List.length_append, List.length_singleton]
      exact ⟨hnext'.trans (congrArg (· + 1) hlen), hnum.snoc (hseq.trans hlen)⟩
    · have hne : packet.destinationChannel ≠ i.id := fun he =>
        hi (Identifier.ext (he.symm.trans hdest))
      rw [receivedOn_snoc_ne hrecv hne]
      exact h.ordered i d ((hw.other i hi d).1 hc) ho
  · rw [hall] at hp
    rcases List.mem_append.1 hp with hp | hp
    · obtain ⟨i, d, hc, hdi, hdp, hds, hsp, hsc, hl⟩ := h.channel p a hp
      by_cases hi : i = chan'.id
      · subst hi
        rw [hcur] at hc
        cases hc
        have hne : p.sequence ≠ packet.sequence := fun he =>
          hfresh (Finmap.mem_of_lookup_eq_some (he ▸ hl))
        have hl' : chan'.acknowledgements.lookup p.sequence = some a := by
          rw [hacks, Finmap.lookup_insert_of_ne _ hne]
          exact hl
        exact ⟨_, chan', hw.self, hdi, hportId ▸ hdp, hsettled, hend ▸ hsp, hend ▸ hsc, hl'⟩
      · exact ⟨i, d, (hw.other i hi d).2 hc, hdi, hdp, hds, hsp, hsc, hl⟩
    · cases List.mem_singleton.1 hp
      exact ⟨_, chan', hw.self, hdest, hportId ▸ hport.symm, hsettled, hend ▸ hsrcPort,
        hend ▸ hsrcChannel, hanswer⟩
  · rw [hall]
    have hold : ∀ d, ContractState.channel d ∈ c.history → d.acknowledgements.lookup n = some a →
        ∃ p, (p, a) ∈ receivedPackets tr ++ [(packet, ack)] ∧ p.sequence = n ∧
          p.destinationPort = d.portId.id ∧ p.destinationChannel = d.id.id := fun d hd hl => by
      obtain ⟨p, hm, hrest⟩ := h.acks d hd n a hl
      exact ⟨p, List.mem_append_left _ hm, hrest⟩
    rcases (hw.history d).1 hc with rfl | hc
    · by_cases hn : n = packet.sequence
      · subst hn
        rw [hanswer] at hl
        cases hl
        exact ⟨packet, List.mem_append_right _ (List.mem_singleton_self _), rfl,
          hportId ▸ hport.symm, hdest⟩
      · rw [hacks, Finmap.lookup_insert_of_ne _ hn] at hl
        rw [hportId, hid]
        exact hold chan (hrec _ _ hcur) hl
    · exact hold d hc hl

theorem RecvLog.step (h : RecvLog tr c) (hrec : c.Recorded) (hs : ChannelStep P c tx) :
    RecvLog (tr ++ [tx]) (c.apply tx) := by
  cases hs with
  | leaves hout hleaves => exact h.leaves hleaves (LedgerTransaction.received_eq_none hout)
  | @creates _ _ _ chan hruns _ hcont _ hnew hcreation hwrites =>
    have hchan := hcreation.new
    have hnil : receivedOn chan.id.id tr = [] := h.receivedOn_eq_nil fun d hd => by
      rw [hnew] at hd
      cases hd
    refine h.quiet hwrites (LedgerTransaction.log_of_creates hruns.command hcont).2 hchan.recvBook
      (fun _ => ?_) (fun d hd => ?_) fun n ack hl => ?_
    · rw [hnil, hchan.recv]
      exact ⟨rfl, Numbered.nil⟩
    · rw [hnew] at hd
      cases hd
    · rw [hchan.acknowledgements, Finmap.lookup_empty] at hl
      cases hl
  | @changes _ _ _ chan chan' hruns _ _ hout _ hcur hchange hwrites =>
    have hid : chan'.id = chan.id := hchange.id
    have hstep := hchange.logStep hruns.command hout
    obtain ⟨hbook, -⟩ := (h.book _ _ hcur).change hchange
    have hold := h.acks chan (hrec _ _ hcur)
    have hlog := h.ordered _ _ hcur
    generalize tx.sent? = o at hstep
    generalize hrecv : tx.received? = r at hstep
    cases hstep with
    | sends =>
      refine h.quiet hwrites hrecv hbook hlog (fun d hd hs => ?_) hold
      rw [show c.states.lookup (chan.sent _).id = _ from hcur] at hd
      cases hd
      exact ⟨rfl, hs, rfl, rfl⟩
    | receives hopen hport hchannel hsrcPort hsrcChannel hreceive =>
      exact h.receives hrec hcur hid hwrites hrecv hopen hport hchannel hsrcPort hsrcChannel hreceive
    | retries hinit _ hanswers _ hnext hordering =>
      refine h.quiet hwrites hrecv hbook (fun ho => ?_) (fun d hd hs => ?_) fun n ack hl => ?_
      · rw [hnext]
        exact hlog (hordering ▸ ho)
      · rw [hcur] at hd
        cases hd
        rcases hs with hs | hs <;> rw [hinit] at hs <;> cases hs
      · rw [hanswers, Finmap.lookup_empty] at hl
        cases hl
    | keeps hport _ hanswers _ hnext hordering hsettled =>
      refine h.quiet hwrites hrecv hbook (fun ho => ?_) (fun d hd hs => ?_) fun n ack hl => ?_
      · rw [hnext]
        exact hlog (hordering ▸ ho)
      · rw [hcur] at hd
        cases hd
        obtain ⟨hs', hcp⟩ := hsettled hs
        exact ⟨hport, hs', hcp, hanswers⟩
      · rw [hport, hid]
        exact hold n ack (hanswers ▸ hl)

theorem Start.recvLog (h : c.Start) : RecvLog [] c := by
  refine ⟨fun i chan hl => ?_, fun i chan hl => ?_, fun p ack hp => ?_, fun chan hc => ?_⟩
  · exact absurd (h.recorded i chan hl) (h.noChannel chan)
  · exact absurd (h.recorded i chan hl) (h.noChannel chan)
  · cases hp
  · exact absurd hc (h.noChannel chan)

/-- What every run of a host keeps of its packets. -/
structure Logs (tr : List LedgerTransaction) (c : Chain) : Prop where
  inv : c.Inv
  recorded : c.Recorded
  send : SendLog tr c
  recv : RecvLog tr c

theorem Logs.run {ok : Chain → LedgerTransaction → Prop} {c₀ : Chain} (h₀ : c₀.Start)
    (hr : Run (Step P ok) c₀ tr c) : Logs tr c := by
  refine hr.invariant (I := Logs) ⟨h₀.inv, h₀.recorded, h₀.sendLog, h₀.recvLog⟩ ?_
  rintro tr c tx c' - h ⟨-, hc⟩
  obtain ⟨rfl, outs, ht⟩ := commit_ok hc
  have hs := h.inv.channelStep ht
  exact ⟨h.inv.apply ht, h.recorded.apply ht, h.send.step h.recorded hs, h.recv.step h.recorded hs⟩

end

end Chain

end CordaIbc
