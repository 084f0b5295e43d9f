import CordaIbc.Proofs.Bookkeeping

/-!
# The module that answers for a packet

`CreateOutgoingPacket` runs the module of the channel's own port, `HandlePacketAcknowledgement` that
of the packet's destination port, which is the port of the counterparty (`Sent`). On one host the two
are the same module exactly when the host binds both ports to it (`ackModule_iff`).
-/

namespace CordaIbc

open ChannelOuterClass (Packet Acknowledgement)
open IbcChannel Context

namespace Datagram

/-- The module `CreateOutgoingPacket` runs. -/
def sendModule (ctx : Context) : Result Module := do
  let host ← ctx.getReference Host
  let chan ← ctx.getInput IbcChannel
  host.lookupModule chan.portId

/-- The module whose callbacks `HandlePacketAcknowledgement` runs. -/
def ackModule (ctx : Context) (msg : MsgAcknowledgement) : Result Module := do
  let host ← ctx.getReference Host
  host.lookupModule (← Identifier.of msg.packet.destinationPort)

section
variable {P : Platform} {ctx : Context} {signers : List PublicKey} {anyMsg : Any}
  {msg : MsgAcknowledgement}

theorem outgoingPacket_eq : outgoingPacket P ctx signers anyMsg = (do
    let module_ ← sendModule ctx
    module_.createOutgoingPacket P ctx signers anyMsg) := by
  simp only [outgoingPacket, sendModule, bind_assoc]

theorem packetAcknowledgement_eq : packetAcknowledgement P ctx msg = (do
    let module_ ← ackModule ctx msg
    let ack ← P.toAcknowledgement msg.acknowledgement
    let ctx ← module_.onAcknowledgePacket P ctx msg.packet ack
    Handler.acknowledgePacket P ctx msg.packet ack (← CommitmentProof.of msg.proofAcked)
      msg.proofHeight) := by
  simp only [packetAcknowledgement, ackModule, bind_assoc]

end

end Datagram

namespace IbcChannel

/-- An execution creates a packet with a module. -/
def CreatedBy (P : Platform) (k : Call) (packet : Packet) (m : Module) : Prop :=
  ∃ anyMsg chan, k.handler = .createOutgoingPacket anyMsg ∧ k.ctx.getInput IbcChannel = .ok chan ∧
    Datagram.sendModule k.ctx = .ok m ∧ k.Outputs P (.channel (chan.sent packet))

/-- The host an execution references has these bindings. -/
def OnModules (M : Finmap fun _ : Identifier => Module) (_ : IbcChannel) (k : Call) : Prop :=
  ∀ host, k.ctx.getReference Host = .ok host → host.modules = M

/-- Every packet of a channel goes to the counterparty's port, and was created with the module of the
channel's own. -/
structure Sent (P : Platform) (M : Finmap fun _ : Identifier => Module) (tr : List Call)
    (chan : IbcChannel) : Prop where
  destination : ∀ n packet, chan.packets.lookup n = some packet →
    packet.destinationPort = chan.end_.counterparty.portId
  created : ∀ n packet, chan.packets.lookup n = some packet →
    ∃ k ∈ tr, ∃ m, CreatedBy P k packet m ∧ M.lookup chan.portId = some m

section
variable {P : Platform} {M : Finmap fun _ : Identifier => Module} {k k₀ : Call}
  {chan₀ chan chan' : IbcChannel} {tr : List Call}

theorem Sent.of_packets (hs : Sent P M tr chan) (hport : chan'.portId = chan.portId)
    (hpeer : chan'.end_.counterparty.portId = chan.end_.counterparty.portId)
    (hpackets : ∀ n packet, chan'.packets.lookup n = some packet →
      chan.packets.lookup n = some packet) : Sent P M (tr ++ [k]) chan' := by
  refine ⟨fun n packet hl => ?_, fun n packet hl => ?_⟩
  · rw [hpeer]
    exact hs.destination n packet (hpackets n packet hl)
  · obtain ⟨j, hj, hcreated⟩ := hs.created n packet (hpackets n packet hl)
    rw [hport]
    exact ⟨j, List.mem_append_left _ hj, hcreated⟩

theorem Sent.step (hs : Sent P M tr chan) (h : Step P (OnModules M) chan k chan') :
    Sent P M (tr ++ [k]) chan' := by
  have hchange := h.change
  obtain ⟨hok, -, -, hout⟩ := h
  generalize hd : k.handler = d at hchange
  cases hchange with
  | tryPrevious =>
    have hempty : ∀ n packet, (∅ : Finmap fun _ : Nat => Packet).lookup n ≠ some packet := by
      intro n packet hl
      rw [Finmap.lookup_empty] at hl
      cases hl
    exact ⟨fun n packet hl => absurd hl (hempty n packet), fun n packet hl => absurd hl (hempty n packet)⟩
  | ack | confirm | closeInit | closeConfirm => exact hs.of_packets rfl rfl fun _ _ hl => hl
  | @send anyMsg host _ packet m outs hhost hmodule heffect hsend =>
    have hbound : M.lookup chan.portId = some m := by
      rw [← hok host hhost]
      exact notNull_ok.1 hmodule
    have hcreated : CreatedBy P k packet m := by
      refine ⟨anyMsg, chan, hd, hsend.input, ?_, hout⟩
      simp only [Datagram.sendModule, hhost, hsend.input, hmodule, Result.ok_bind]
    refine ⟨fun n p hl => ?_, fun n p hl => ?_⟩
    · by_cases hn : n = packet.sequence
      · subst hn
        rw [sent, Finmap.lookup_insert] at hl
        cases hl
        exact hsend.destPort
      · rw [sent, Finmap.lookup_insert_of_ne _ hn] at hl
        exact hs.destination n p hl
    · by_cases hn : n = packet.sequence
      · subst hn
        rw [sent, Finmap.lookup_insert] at hl
        cases hl
        exact ⟨k, List.mem_append_right _ (List.mem_singleton_self k), m, hcreated, hbound⟩
      · rw [sent, Finmap.lookup_insert_of_ne _ hn] at hl
        obtain ⟨j, hj, hrest⟩ := hs.created n p hl
        exact ⟨j, List.mem_append_left _ hj, hrest⟩
  | recv hrecv =>
    rcases receive_cases hrecv.receive with ⟨-, -, rfl⟩ | ⟨-, -, rfl⟩ <;>
      exact hs.of_packets rfl rfl fun _ _ hl => hl
  | @settle msg _ _ _ hacks =>
    obtain ⟨i, rfl⟩ := settle_eq hacks.settle
    refine hs.of_packets rfl rfl fun n packet hl => ?_
    have hn : n ≠ msg.packet.sequence := by
      rintro rfl
      rw [settled, Finmap.lookup_erase] at hl
      cases hl
    rwa [settled, Finmap.lookup_erase_ne hn] at hl

theorem Sent.run (h₀ : Creates P k₀ chan₀) (hr : Run (Step P (OnModules M)) chan₀ tr chan) :
    Sent P M tr chan := by
  have hnone : ∀ n packet, chan₀.packets.lookup n ≠ some packet := fun n packet hl => by
    rw [h₀.new.packets, Finmap.lookup_empty] at hl
    cases hl
  refine hr.invariant (I := fun tr chan => Sent P M tr chan) ?_ fun _ _ _ _ _ hs h => hs.step h
  exact ⟨fun n packet hl => absurd hl (hnone n packet), fun n packet hl => absurd hl (hnone n packet)⟩

/-- A packet of a channel is answered by the module that created it exactly when the host binds the
port of the counterparty to the module of the channel's own port. -/
theorem ackModule_iff (h₀ : Creates P k₀ chan₀) (hr : Run (Step P (OnModules M)) chan₀ tr chan)
    {n : Nat} {packet : Packet} (hpacket : chan.packets.lookup n = some packet) :
    ∃ k ∈ tr, ∃ m, CreatedBy P k packet m ∧ M.lookup chan.portId = some m ∧
      ∀ ctx host msg, ctx.getReference Host = .ok host → host.modules = M → msg.packet = packet →
        (Datagram.ackModule ctx msg = .ok m ↔ ∃ port : Identifier,
          port.id = chan.end_.counterparty.portId ∧ M.lookup port = M.lookup chan.portId) := by
  have hs := Sent.run h₀ hr
  obtain ⟨k, hk, m, hcreated, hbound⟩ := hs.created n packet hpacket
  refine ⟨k, hk, m, hcreated, hbound, fun ctx host msg hhost hM hmsg => ?_⟩
  have hmodule : Datagram.ackModule ctx msg = .ok m ↔
      ∃ port : Identifier, port.id = packet.destinationPort ∧ M.lookup port = some m := by
    simp only [Datagram.ackModule, hhost, Result.ok_bind, Result.bind_ok, Identifier.of_ok, hmsg,
      Host.lookupModule, notNull_ok, hM]
  rw [hmodule, hs.destination n packet hpacket, hbound]

end

/-! ## Two ports with two modules -/

namespace OtherPort
open Sample

def payPort : Identifier := ⟨"pay", by decide⟩

/-- The transfer port is bound to the transfer module, another port to the one that does nothing. -/
def splitHost : Host := { host 1 with modules := (host 1).modules.insert payPort .nop }

def splitReferences : List ContractState :=
  [.host splitHost, .connection liveConnection, .client liveClient]

/-- A transfer channel to the other port. -/
def initCall : Call :=
  hostCall (.handleChanOpenInit
    { portId := "transfer", channel := { channelEnd .init "" with counterparty := ⟨"pay", ""⟩ } })

def sendCall (chan : IbcChannel) : Call :=
  { Sample.sendCall chan with refStates := splitReferences }

def P : Platform := platform [] [liveTransfer]

/-- The ports of the channel and of its packet. -/
def outcome (r : IbcChannel × List Call × IbcChannel) : String × Option String :=
  (r.2.2.portId.id, (r.2.2.packets.lookup 1).map (·.destinationPort))

theorem outcome_sent : outcome <$> runLife P initCall [sendCall] = .ok ("transfer", some "pay") := by
  decide +kernel

theorem splitHost_reference {inStates : List ContractState} :
    (Context.create inStates splitReferences).getReference Host = .ok splitHost := rfl

theorem onModules : ∀ f ∈ [sendCall], ∀ chan, OnModules splitHost.modules chan (f chan) := by
  intro f hf chan host hhost
  rw [List.mem_singleton.1 hf] at hhost
  cases splitHost_reference.symm.trans hhost
  rfl

theorem splitHost_modules : splitHost.modules.lookup transferPort = some .ics20 ∧
    splitHost.modules.lookup payPort = some .nop := by decide

/-- What the script makes, with the ports. -/
theorem exists_sent : ∃ chan₀ tr chan packet, Creates P initCall chan₀ ∧
    Run (Step P (OnModules splitHost.modules)) chan₀ tr chan ∧
    chan.packets.lookup 1 = some packet ∧ chan.portId = transferPort ∧
    packet.destinationPort = payPort.id := by
  obtain ⟨⟨chan₀, tr, chan⟩, hlife, hout⟩ := Result.map_ok.1 outcome_sent
  obtain ⟨h₀, hr, -⟩ := run_of_life hlife onModules
  simp only [outcome, Prod.mk.injEq, Option.map_eq_some_iff] at hout
  obtain ⟨hport, packet, hpacket, hdest⟩ := hout
  exact ⟨chan₀, tr, chan, packet, h₀, hr, hpacket, Identifier.ext hport, hdest⟩

/-- The acknowledgement of a transfer goes to the module that does nothing. -/
theorem answered_by_other : ∃ M k₀ chan₀ tr chan packet k ctx host msg, Creates P k₀ chan₀ ∧
    Run (Step P (OnModules M)) chan₀ tr chan ∧ chan.packets.lookup 1 = some packet ∧ k ∈ tr ∧
    CreatedBy P k packet .ics20 ∧ ctx.getReference Host = .ok host ∧ host.modules = M ∧
    msg.packet = packet ∧ Datagram.ackModule ctx msg = .ok .nop := by
  obtain ⟨chan₀, tr, chan, packet, h₀, hr, hpacket, hport, hdest⟩ := exists_sent
  obtain ⟨k, hk, m, hcreated, hbound⟩ := (Sent.run h₀ hr).created 1 packet hpacket
  obtain rfl : m = .ics20 := by
    rw [hport, splitHost_modules.1] at hbound
    exact (Option.some.inj hbound).symm
  refine ⟨splitHost.modules, initCall, chan₀, tr, chan, packet, k, .create [] splitReferences,
    splitHost, ⟨packet, [], [], HEIGHT⟩, h₀, hr, hpacket, hk, hcreated, splitHost_reference, rfl, rfl, ?_⟩
  simp only [Datagram.ackModule, splitHost_reference, Result.ok_bind, hdest, Identifier.of_id,
    Host.lookupModule, splitHost_modules.2, notNull]

theorem ackModule_iff_other : ∃ (packet : Packet) (k : Call) (m : Module), CreatedBy P k packet m ∧
    Datagram.ackModule (.create [] splitReferences) ⟨packet, [], [], HEIGHT⟩ ≠ .ok m := by
  obtain ⟨chan₀, tr, chan, packet, h₀, hr, hpacket, hport, hdest⟩ := exists_sent
  have hpeer := (Sent.run h₀ hr).destination 1 packet hpacket
  obtain ⟨k, -, m, hcreated, -, hiff⟩ := ackModule_iff h₀ hr hpacket
  refine ⟨packet, k, m, hcreated, fun hm => ?_⟩
  obtain ⟨port, hid, hbound⟩ := (hiff _ splitHost _ splitHost_reference rfl rfl).1 hm
  obtain rfl : port = payPort := Identifier.ext (hid.trans (hpeer.symm.trans hdest))
  rw [hport, splitHost_modules.1, splitHost_modules.2] at hbound
  cases hbound

end OtherPort

end IbcChannel

end CordaIbc
