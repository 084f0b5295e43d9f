import CordaIbc.Proofs.ChainStep
import CordaIbc.Sample.Chain

/-!
# Refunds

The packets a host still has to settle on its transfer channels stand for amounts their senders
locked. `Chain.Escrowed` is that the bank holds at least these amounts, owner by owner, so that each
of the packets can be refunded (`Chain.refund_possible`). Returning packets can name any receiver and
unlock what another sender locked, so it is an invariant of the runs in which nothing but a refund
takes reserved amounts off the escrow (`Chain.Reserved`).
-/

namespace CordaIbc

open ChannelOuterClass (Channel Packet Acknowledgement)
open StateClass ContractState

/-! ## What a packet moved -/

namespace Ics20

/-- What a packet took from its sender: locked at the source, burned otherwise. -/
structure Transfer where
  source : Bool
  sender : Address
  denom : Denom
  amount : Int

variable (P : Platform)

/-- A packet as `refundTokens` reads it. -/
def transferOf (packet : Packet) : Result Transfer := do
  let data ← P.toFungibleTokenPacketData packet.data
  let denom := Denom.fromString data.denom
  let amount ← toBigInteger data.amount
  let sender ← Address.fromBech32 P.toCrypto data.sender
  let source := !denom.hasPrefix (← Identifier.of packet.sourcePort)
    (← Identifier.of packet.sourceChannel)
  .ok { source, sender, denom, amount }

/-- What a packet locked, of a denomination and an owner. -/
def escrow (packet : Packet) (denom : Denom) (owner : Address) : Int :=
  match transferOf P packet with
  | .ok t => if t.source = true ∧ denom = t.denom ∧ owner = t.sender then t.amount else 0
  | .error _ => 0

/-- The packet reads as a transfer of a positive amount. -/
def Transfers (packet : Packet) : Prop := ∃ t, transferOf P packet = .ok t ∧ 0 < t.amount

variable {P} {packet : Packet} {bank bank' : Bank} {source : Bool} {owner : Address} {denom : Denom}
  {amount : Int} {t : Transfer}

theorem transferOf_ok : transferOf P packet = .ok t ↔ ∃ data port channel,
    P.toFungibleTokenPacketData packet.data = .ok data ∧ toBigInteger data.amount = .ok t.amount ∧
    Address.fromBech32 P.toCrypto data.sender = .ok t.sender ∧ port.id = packet.sourcePort ∧
    channel.id = packet.sourceChannel ∧ Denom.fromString data.denom = t.denom ∧
    (!t.denom.hasPrefix port channel) = t.source := by
  obtain ⟨source, sender, denom, amount⟩ := t
  simp only [transferOf, Result.bind_ok, Identifier.of_ok, Except.ok.injEq, Transfer.mk.injEq]
  constructor
  · rintro ⟨data, hdata, _, hamount, _, hsender, port, hport, channel, hchannel, rfl, rfl, rfl, rfl⟩
    exact ⟨data, port, channel, hdata, hamount, hsender, hport, hchannel, rfl, rfl⟩
  · rintro ⟨data, port, channel, hdata, hamount, hsender, hport, hchannel, rfl, rfl⟩
    exact ⟨data, hdata, _, hamount, _, hsender, port, hport, channel, hchannel, rfl, rfl, rfl, rfl⟩

theorem transferOf_of {data : FungibleTokenPacketData} {port channel : Identifier}
    (hdata : P.toFungibleTokenPacketData packet.data = .ok data)
    (hamount : toBigInteger data.amount = .ok amount)
    (hsender : Address.fromBech32 P.toCrypto data.sender = .ok owner)
    (hport : port.id = packet.sourcePort) (hchannel : channel.id = packet.sourceChannel) :
    transferOf P packet = .ok ⟨!(Denom.fromString data.denom).hasPrefix port channel, owner,
      Denom.fromString data.denom, amount⟩ := by
  simp only [transferOf, hdata, hamount, hsender, Identifier.of_ok.2 hport,
    Identifier.of_ok.2 hchannel, Result.ok_bind]

theorem refundTokens_eq {ctx : Context} : refundTokens P ctx packet = (do
    let t ← transferOf P packet
    let bank ← ctx.getInput Bank
    let bank ← refund bank t.source t.sender t.denom t.amount
    ctx.addOutput bank) := by
  simp only [refundTokens, transferOf, bind_assoc, Result.ok_bind]

theorem Transfers.escrow_nonneg (h : Transfers P packet) : 0 ≤ escrow P packet denom owner := by
  obtain ⟨t, ht, hpos⟩ := h
  unfold escrow
  rw [ht]
  dsimp only
  split
  · exact hpos.le
  · exact le_rfl

/-- A denomination a transfer names has no slash in its base. -/
theorem plain_of_resolveToken {s : String} (hb : bank.PlainDenoms)
    (h : resolveToken bank s = .ok denom) : denom.Plain := by
  unfold resolveToken at h
  split at h
  · exact hb s denom (orThrow_ok.1 h)
  · cases h; exact Denom.plain_fromString s

/-- The packet a transfer puts on a channel reads back as the transfer. -/
theorem transferOf_transferPacket
    (hjson : ∀ data, P.toFungibleTokenPacketData (P.toJson data) = .ok data) {msg : MsgTransfer}
    {chan : IbcChannel} {port channel : Identifier} (hamount : toBigInteger msg.token.amount = .ok amount)
    (hsender : Address.fromBech32 P.toCrypto msg.sender = .ok owner) (hport : port.id = msg.sourcePort)
    (hchannel : channel.id = msg.sourceChannel) (hplain : denom.Plain) :
    transferOf P (transferPacket P msg denom chan) =
      .ok ⟨!denom.hasPrefix port channel, owner, denom, amount⟩ := by
  have hdata : P.toFungibleTokenPacketData (transferPacket P msg denom chan).data =
      .ok ⟨denom.toString, msg.token.amount, msg.sender, msg.receiver⟩ := hjson _
  have h := transferOf_of hdata hamount hsender hport hchannel
  rwa [Denom.fromString_toString hplain] at h

/-! ### The escrow after a bank operation -/

/-- The escrow has grown by what `f` says, and the known denominations are plain. -/
structure Locks (bank bank' : Bank) (f : Denom → Address → Int) : Prop where
  locked : ∀ d o, bank'.locked.balance d o = bank.locked.balance d o + f d o
  plain : bank.PlainDenoms → bank'.PlainDenoms

theorem Locks.refl (bank : Bank) : Locks bank bank fun _ _ => 0 := ⟨fun d o => by simp, id⟩

theorem debit_locks (h : debit bank source owner denom amount = .ok bank') :
    Locks bank bank' fun d o => if source = true ∧ d = denom ∧ o = owner then amount else 0 := by
  unfold debit at h
  split at h
  · rename_i hs
    obtain ⟨allocated, -, rfl⟩ := Bank.lock_ok.1 h
    refine ⟨fun d o => ?_, id⟩
    rw [BalanceMap.balance_up]
    simp only [hs, true_and]
    split
    · rename_i he; rw [he.1, he.2]
    · rw [add_zero]
  · rename_i hs
    obtain ⟨minted, -, rfl⟩ := Bank.burn_ok.1 h
    exact ⟨fun d o => by simp [hs], id⟩

theorem unlock_locks (h : bank.unlock owner denom amount = .ok bank') :
    Locks bank bank' (fun d o => if d = denom ∧ o = owner then -amount else 0) ∧
      amount ≤ bank.locked.balance denom owner := by
  obtain ⟨locked, hl, rfl⟩ := Bank.unlock_ok.1 h
  refine ⟨⟨fun d o => ?_, id⟩, BalanceMap.le_of_down hl⟩
  rw [BalanceMap.balance_down hl]
  split
  · rename_i he; rw [he.1, he.2]; rfl
  · rw [add_zero]

theorem refund_locks (h : refund bank source owner denom amount = .ok bank') :
    Locks bank bank' (fun d o => if source = true ∧ d = denom ∧ o = owner then -amount else 0) ∧
      (source = true → amount ≤ bank.locked.balance denom owner) := by
  unfold refund at h
  split at h
  · rename_i hs
    obtain ⟨hl, hle⟩ := unlock_locks h
    exact ⟨by simpa only [hs, true_and] using hl, fun _ => hle⟩
  · rename_i hs
    cases h
    exact ⟨⟨fun d o => by simp [hs, Bank.mint], id⟩, fun h => absurd h hs⟩

theorem credit_locks (h : credit P bank source packet owner denom amount = .ok bank') :
    (source = true ∧ ∃ d, denom.removePrefix = .ok d ∧
        Locks bank bank' (fun d' o => if d' = d ∧ o = owner then -amount else 0) ∧
        amount ≤ bank.locked.balance d owner) ∨
      source = false ∧ (denom.Plain → Locks bank bank' fun _ _ => 0) := by
  unfold credit at h
  split at h
  · rename_i hs
    obtain ⟨d, hd, h⟩ := Result.bind_ok.1 h
    exact .inl ⟨hs, d, hd, unlock_locks h⟩
  · rename_i hs
    simp only [Result.bind_ok, Except.ok.injEq] at h
    obtain ⟨p, -, c, -, rfl⟩ := h
    exact .inr ⟨by simpa using hs, fun hplain =>
      ⟨fun d o => by simp [Bank.mint, Bank.recordDenom], fun hb => hb.recordDenom hplain.addPath⟩⟩

/-- A bank after a refund: the sender has the amount back, allocated or minted, and every other
spendable balance is as it was. -/
structure Refunded (t : Transfer) (bank bank' : Bank) : Prop where
  allocated : ∀ d o, bank'.allocated.balance d o = bank.allocated.balance d o +
    if t.source = true ∧ d = t.denom ∧ o = t.sender then t.amount else 0
  minted : ∀ d o, bank'.minted.balance d o = bank.minted.balance d o +
    if t.source = false ∧ d = t.denom ∧ o = t.sender then t.amount else 0

/-- A refund of no more than the escrow goes through. -/
theorem exists_refunded (hpos : 0 < t.amount)
    (hle : t.source = true → t.amount ≤ bank.locked.balance t.denom t.sender) :
    ∃ bank', refund bank t.source t.sender t.denom t.amount = .ok bank' ∧ Refunded t bank bank' := by
  have hup : ∀ (m : BalanceMap) d o, (m.up t.denom t.sender t.amount).balance d o =
      m.balance d o + if d = t.denom ∧ o = t.sender then t.amount else 0 := fun m d o => by
    rw [BalanceMap.balance_up]
    split
    · rename_i h; rw [h.1, h.2]
    · rw [Int.add_zero]
  cases hs : t.source with
  | true =>
    obtain ⟨locked, hl⟩ := BalanceMap.down_isOk hpos (hle hs)
    refine ⟨_, Bank.unlock_ok.2 ⟨locked, hl, rfl⟩, fun d o => ?_, fun d o => ?_⟩
    · simpa [hs] using hup bank.allocated d o
    · simp [hs]
  | false =>
    refine ⟨bank.mint t.sender t.denom t.amount, rfl, fun d o => ?_, fun d o => ?_⟩
    · simp [hs, Bank.mint]
    · simpa [hs, Bank.mint] using hup bank.minted d o

end Ics20

/-! ## The escrow of a chain -/

namespace Chain

section
variable (P : Platform) (m : Identifier → Option Module) (c : Chain)

/-- What the packets of a channel with a transfer port locked. -/
def escrowed (denom : Denom) (owner : Address) : ContractState → Int
  | .channel chan =>
    if m chan.portId = some .ics20 then
      chan.packets.sumOver fun _ packet => Ics20.escrow P packet denom owner
    else 0
  | _ => 0

/-- What all packets still to be settled locked. -/
def pending (denom : Denom) (owner : Address) : Int := c.total (escrowed P c.module? denom owner)

/-- A datagram takes an amount off the escrow of an owner, other than to refund a packet of a
transfer channel: a return, or a refund on a channel of another port. -/
inductive Releases : DatagramHandler → Denom → Address → Int → Prop
  | recv {msg : MsgRecvPacket} {data : FungibleTokenPacketData} {amount : Int} {receiver : Address}
    {port channel : Identifier} {denom : Denom}
    (hdata : P.toFungibleTokenPacketData msg.packet.data = .ok data)
    (hamount : toBigInteger data.amount = .ok amount)
    (hreceiver : Address.fromBech32 P.toCrypto data.receiver = .ok receiver)
    (hport : port.id = msg.packet.sourcePort) (hchannel : channel.id = msg.packet.sourceChannel)
    (hsource : (Denom.fromString data.denom).hasPrefix port channel = true)
    (hdenom : (Denom.fromString data.denom).removePrefix = .ok denom) :
    Releases (.handlePacketRecv msg) denom receiver amount
  | ack {msg : MsgAcknowledgement} {message : String} {t : Ics20.Transfer} {port : Identifier}
    (hack : P.toAcknowledgement msg.acknowledgement = .ok (.error message))
    (ht : Ics20.transferOf P msg.packet = .ok t) (hsource : t.source = true)
    (hport : port.id = msg.packet.sourcePort) (hmodule : c.module? port ≠ some .ics20) :
    Releases (.handlePacketAcknowledgement msg) t.denom t.sender t.amount

/-- A transaction sends positive amounts only. -/
def SendsPositive (tx : LedgerTransaction) : Prop :=
  ∀ anyMsg signers msg amount,
    tx.datagramHandlerCommands = [(.createOutgoingPacket anyMsg, signers)] →
    P.unpackMsgTransfer anyMsg = .ok msg → toBigInteger msg.token.amount = .ok amount → 0 < amount

/-- A transaction takes no reserved amount off the escrow: what it takes from an owner, other than by
a refund on a transfer channel, leaves what the pending packets of that owner locked. -/
structure Reserved (c : Chain) (tx : LedgerTransaction) : Prop where
  positive : SendsPositive P tx
  reserve : ∀ handler signers denom owner amount bank,
    tx.datagramHandlerCommands = [(handler, signers)] →
    Releases P c handler denom owner amount → c.states.lookup bankId = some (.bank bank) →
    amount ≤ bank.locked.balance denom owner →
    c.pending P denom owner + amount ≤ bank.locked.balance denom owner

/-- The packets of a transfer channel read as transfers. -/
def ReadsAs (chan : IbcChannel) : Prop :=
  m chan.portId = some .ics20 → ∀ n packet, chan.packets.lookup n = some packet →
    Ics20.Transfers P packet

/-- The bank covers what the pending packets locked. -/
structure Escrowed : Prop where
  inv : c.Inv
  reads : ∀ i chan, c.states.lookup i = some (.channel chan) → ReadsAs P c.module? chan
  bank : ∀ i chan n packet, c.states.lookup i = some (.channel chan) →
    c.module? chan.portId = some .ics20 → chan.packets.lookup n = some packet →
    ∃ bank, c.states.lookup bankId = some (.bank bank)
  plain : ∀ bank, c.states.lookup bankId = some (.bank bank) → bank.PlainDenoms
  covered : ∀ bank, c.states.lookup bankId = some (.bank bank) → ∀ denom owner,
    c.pending P denom owner ≤ bank.locked.balance denom owner

end

section
variable {P : Platform} {m : Identifier → Option Module} {c : Chain} {chan chan' : IbcChannel}
  {denom : Denom} {owner : Address}

theorem escrowed_eq_zero (h : chan.packets = ∅ ∨ m chan.portId ≠ some .ics20) :
    escrowed P m denom owner (.channel chan) = 0 := by
  simp only [escrowed]
  split
  · rename_i hm
    rw [h.resolve_right (not_not_intro hm)]
    rfl
  · rfl

theorem ReadsAs.escrowed_nonneg (h : ReadsAs P m chan) :
    0 ≤ escrowed P m denom owner (.channel chan) := by
  simp only [escrowed]
  split
  · rename_i hm
    exact Finmap.sumOver_nonneg fun n packet hl => (h hm n packet hl).escrow_nonneg
  · exact le_rfl

theorem escrowed_eq_of_packets (hp : chan'.portId = chan.portId) (h : chan'.packets = chan.packets) :
    escrowed P m denom owner (.channel chan') = escrowed P m denom owner (.channel chan) := by
  simp only [escrowed, hp, h]

theorem escrowed_sent {packet : Packet} (hm : m chan.portId = some .ics20)
    (h : ReadsAs P m chan) :
    escrowed P m denom owner (.channel (chan.sent packet)) ≤
      escrowed P m denom owner (.channel chan) + Ics20.escrow P packet denom owner := by
  simp only [escrowed, IbcChannel.sent, hm, if_true, Finmap.sumOver_insert]
  have hold : 0 ≤ Finmap.termAt (fun _ p => Ics20.escrow P p denom owner) chan.packets
      packet.sequence := by
    unfold Finmap.termAt
    cases hl : chan.packets.lookup packet.sequence with
    | none => exact le_rfl
    | some q => exact (h hm _ q hl).escrow_nonneg
  omega

theorem escrowed_settled {packet : Packet} (hm : m chan.portId = some .ics20)
    (hl : chan.packets.lookup packet.sequence = some packet) (hp : chan'.portId = chan.portId)
    (hq : chan'.packets = chan.packets) :
    escrowed P m denom owner (.channel (chan'.settled packet)) =
      escrowed P m denom owner (.channel chan) - Ics20.escrow P packet denom owner := by
  have hsum := Finmap.sumOver_erase (fun _ p => Ics20.escrow P p denom owner) hl
  simp only [escrowed, IbcChannel.settled, hp, hm, if_true, hq]
  omega

end

/-! ### One step -/

section
variable {P : Platform} {c : Chain} {tx : LedgerTransaction} {outs : List ContractState}
  {denom : Denom} {owner : Address}

/-- A channel put out with no packet more than before, as far as transfers go. -/
def Quiet (c : Chain) (chan' : IbcChannel) : Prop :=
  (chan'.packets = ∅ ∨ c.module? chan'.portId ≠ some .ics20) ∨
    ∃ chan, c.states.lookup chan'.id = some (.channel chan) ∧ chan'.portId = chan.portId ∧
      (chan'.packets = chan.packets ∨ ∃ n, chan'.packets = chan.packets.erase n)

/-- What outputs do to the pending amounts. -/
def pendingGain (P : Platform) (c : Chain) (outs : List ContractState) (denom : Denom)
    (owner : Address) : Int :=
  (outs.map (c.gain (escrowed P c.module? denom owner))).sum

/-- Outputs that keep the escrow. -/
structure Keeps (P : Platform) (c : Chain) (outs : List ContractState) : Prop where
  bank : ∀ bank', ContractState.bank bank' ∈ outs → bank'.PlainDenoms ∧ ∀ denom owner,
    c.pending P denom owner + pendingGain P c outs denom owner ≤ bank'.locked.balance denom owner
  still : (∀ bank', ContractState.bank bank' ∉ outs) → ∀ denom owner,
    pendingGain P c outs denom owner ≤ 0
  reads : ∀ chan', .channel chan' ∈ outs → ReadsAs P c.module? chan'
  held : ∀ chan' n packet, .channel chan' ∈ outs → c.module? chan'.portId = some .ics20 →
    chan'.packets.lookup n = some packet → ∃ bank, c.states.lookup bankId = some (.bank bank)

theorem gain_channel {chan chan' : IbcChannel} (f : ContractState → Int)
    (h : c.states.lookup chan'.id = some (.channel chan)) :
    c.gain f (.channel chan') = f (.channel chan') - f (.channel chan) := by
  show f (.channel chan') - ((c.states.lookup chan'.id).map f).getD 0 = _
  rw [h]; rfl

/-- Only channels count. -/
theorem gain_eq_zero (hi : c.Inv) (ht : Takes P c tx outs) {o : ContractState} (ho : o ∈ outs)
    (hne : ∀ chan, o ≠ .channel chan) : c.gain (escrowed P c.module? denom owner) o = 0 := by
  have hz : ∀ s : ContractState, (∀ chan, s ≠ .channel chan) →
      escrowed P c.module? denom owner s = 0 := fun s hs => by
    cases s <;> first | rfl | exact absurd rfl (hs _)
  unfold gain
  cases hid : o.id? with
  | none => rfl
  | some i =>
    dsimp only
    rw [hz o hne]
    cases hl : c.states.lookup i with
    | none => rfl
    | some s =>
      have hu := hi.updates_of_mem ht hl ho hid
      rw [Option.map_some, Option.getD_some, hz s, Int.sub_zero]
      rintro chan rfl
      cases o <;> first | exact hu.elim | exact hne _ rfl

theorem pending_apply (hi : c.Inv) (ht : Takes P c tx outs) :
    (c.apply tx).pending P denom owner = c.pending P denom owner + pendingGain P c outs denom owner := by
  have hm : (c.apply tx).module? = c.module? := funext (hi.module_next ht)
  rw [pending, hm, total_apply _ (hi.outputs_ids_nodup ht), (ht.perm.map _).sum_eq]
  rfl

section
variable (he : Escrowed P c)
include he

theorem Escrowed.gain_le {chan' : IbcChannel} (h : Quiet c chan') :
    c.gain (escrowed P c.module? denom owner) (.channel chan') ≤ 0 := by
  rcases h with h | ⟨chan, hl, hp, h⟩
  · show escrowed P c.module? denom owner (.channel chan') -
      ((c.states.lookup chan'.id).map _).getD 0 ≤ 0
    rw [escrowed_eq_zero h]
    cases hl : c.states.lookup chan'.id with
    | none => exact le_rfl
    | some s =>
      have : 0 ≤ escrowed P c.module? denom owner s := by
        cases s <;> first | exact le_rfl | exact (he.reads _ _ hl).escrowed_nonneg
      simpa using this
  · rw [gain_channel _ hl]
    rcases h with h | ⟨n, h⟩
    · rw [escrowed_eq_of_packets hp h, Int.sub_self]
    · simp only [escrowed, hp]
      split
      · rename_i hm
        rw [h]
        have := Finmap.sumOver_erase_le (f := fun _ p => Ics20.escrow P p denom owner) n
          fun k v hv => (he.reads _ _ hl hm k v hv).escrow_nonneg
        omega
      · exact le_rfl

theorem Escrowed.reads_of_quiet {chan' : IbcChannel} (h : Quiet c chan') :
    ReadsAs P c.module? chan' ∧ ∀ n packet, c.module? chan'.portId = some .ics20 →
      chan'.packets.lookup n = some packet → ∃ bank, c.states.lookup bankId = some (.bank bank) := by
  rcases h with (h | h) | ⟨chan, hl, hp, h⟩
  · have hno : ∀ n p, chan'.packets.lookup n ≠ some p := fun n p => by
      rw [h, Finmap.lookup_empty]
      exact nofun
    exact ⟨fun _ n p hn => absurd hn (hno n p), fun n p _ hn => absurd hn (hno n p)⟩
  · exact ⟨fun hm => absurd hm h, fun n p hm => absurd hm h⟩
  · have hsub : ∀ n p, chan'.packets.lookup n = some p → chan.packets.lookup n = some p := by
      intro n p hn
      rcases h with h | ⟨k, h⟩
      · rwa [h] at hn
      · rw [h] at hn
        by_cases hk : n = k
        · subst hk; rw [Finmap.lookup_erase] at hn; cases hn
        · rwa [Finmap.lookup_erase_ne hk] at hn
    exact ⟨fun hm n p hn => he.reads _ _ hl (hp ▸ hm) n p (hsub n p hn),
      fun n p hm hn => he.bank _ _ n p hl (hp ▸ hm) (hsub n p hn)⟩

/-- Outputs without a bank and with quiet channels. -/
theorem Escrowed.keeps_of_quiet (ht : Takes P c tx outs)
    (hbank : ∀ bank', ContractState.bank bank' ∉ outs)
    (hq : ∀ chan', .channel chan' ∈ outs → Quiet c chan') : Keeps P c outs := by
  refine ⟨fun b hb => absurd hb (hbank b), fun _ d o => ?_,
    fun chan' h => (he.reads_of_quiet (hq chan' h)).1,
    fun chan' n p h => (he.reads_of_quiet (hq chan' h)).2 n p⟩
  suffices h : ∀ s ∈ outs, c.gain (escrowed P c.module? d o) s ≤ 0 by
    simpa [pendingGain] using List.sum_le_sum h
  intro s hs
  by_cases hc : ∃ chan, s = .channel chan
  · obtain ⟨chan, rfl⟩ := hc
    exact he.gain_le (hq chan hs)
  · exact (gain_eq_zero he.inv ht hs fun chan h => hc ⟨chan, h⟩).le

end

/-- What a transaction that keeps the escrow leaves. -/
theorem Escrowed.apply (he : Escrowed P c) (ht : Takes P c tx outs) (hk : Keeps P c outs) :
    Escrowed P (c.apply tx) := by
  have hm : (c.apply tx).module? = c.module? := funext (he.inv.module_next ht)
  have hbank : ∀ bank, c.states.lookup bankId = some (.bank bank) →
      ∃ bank', (c.apply tx).states.lookup bankId = some (.bank bank') := fun bank h => by
    obtain ⟨t, hl, hu⟩ := he.inv.lookup_next ht h
    cases t <;> first | exact hu.elim | exact ⟨_, hl⟩
  refine ⟨he.inv.apply ht, fun i chan h => ?_, fun i chan n p h hp hn => ?_, fun bank h => ?_,
    fun bank h d o => ?_⟩
  · rw [hm]
    rcases ht.lookup_cases h with ⟨hs, -⟩ | ⟨-, hl⟩
    · exact hk.reads chan hs
    · exact he.reads i chan hl
  · rw [hm] at hp
    rcases ht.lookup_cases h with ⟨hs, -⟩ | ⟨-, hl⟩
    · obtain ⟨bank, hb⟩ := hk.held chan n p hs hp hn
      exact hbank bank hb
    · obtain ⟨bank, hb⟩ := he.bank i chan n p hl hp hn
      exact hbank bank hb
  · rcases ht.lookup_cases h with ⟨hs, -⟩ | ⟨-, hl⟩
    · exact (hk.bank bank hs).1
    · exact he.plain bank hl
  · rw [pending_apply he.inv ht]
    rcases ht.lookup_cases h with ⟨hs, -⟩ | ⟨hno, hl⟩
    · exact (hk.bank bank hs).2 d o
    · have h₁ := he.covered bank hl d o
      have h₂ := hk.still (fun b hb => hno _ hb rfl) d o
      omega

/-! ### Datagrams -/

theorem pendingGain_pair {bank' : Bank} {chan chan' : IbcChannel} (hi : c.Inv)
    (ht : Takes P c tx [.bank bank', .channel chan'])
    (hl : c.states.lookup chan'.id = some (.channel chan)) :
    pendingGain P c [.bank bank', .channel chan'] denom owner =
      escrowed P c.module? denom owner (.channel chan') -
        escrowed P c.module? denom owner (.channel chan) := by
  have h₁ : c.gain (escrowed P c.module? denom owner) (.bank bank') = 0 :=
    gain_eq_zero hi ht List.mem_cons_self nofun
  have h₂ := gain_channel (escrowed P c.module? denom owner) hl
  simp only [pendingGain, List.map_cons, List.map_nil, List.sum_cons, List.sum_nil]
  omega

section
variable {signers : List PublicKey} {chan chan' : IbcChannel} {packet : Packet}
  (hjson : ∀ data, P.toFungibleTokenPacketData (P.toJson data) = .ok data)
  (he : Escrowed P c)
  (hin : ∀ s ∈ tx.inputStates, ∀ i, s.id? = some i → c.states.lookup i = some s)
  (href : ∀ s ∈ tx.referenceStates, ∀ i, s.id? = some i → c.states.lookup i = some s)

/-- Bank and channel put out together. -/
theorem Escrowed.keeps_of_bank (he : Escrowed P c) {bank bank' : Bank} {f : Denom → Address → Int}
    (ht : Takes P c tx [.bank bank', .channel chan'])
    (hbank : c.states.lookup bankId = some (.bank bank)) (hlocks : Ics20.Locks bank bank' f)
    (hl : c.states.lookup chan'.id = some (.channel chan)) (hr : ReadsAs P c.module? chan')
    (hle : ∀ denom owner, c.pending P denom owner +
      (escrowed P c.module? denom owner (.channel chan') -
        escrowed P c.module? denom owner (.channel chan)) ≤
      bank.locked.balance denom owner + f denom owner) :
    Keeps P c [.bank bank', .channel chan'] := by
  refine ⟨fun b hb => ?_, fun hno => absurd List.mem_cons_self (hno bank'), fun k hk => ?_,
    fun _ _ _ _ _ _ => ⟨bank, hbank⟩⟩
  · obtain rfl : b = bank' := by simpa using hb
    refine ⟨hlocks.plain (he.plain bank hbank), fun d o => ?_⟩
    rw [pendingGain_pair he.inv ht hl, hlocks.locked]
    exact hle d o
  · obtain rfl : k = chan' := by simpa using hk
    exact hr

include hjson he hin in
/-- A send locks what its packet stands for. -/
theorem Escrowed.keeps_send {anyMsg : Any} {m : Module}
    (ht : Takes P c tx (outs ++ [.channel (chan.sent packet)]))
    (hchan : c.states.lookup chan.id = some (.channel chan)) (hm : c.module? chan.portId = some m)
    (hpos : ∀ msg amount, P.unpackMsgTransfer anyMsg = .ok msg →
      toBigInteger msg.token.amount = .ok amount → 0 < amount)
    (heffect : SendEffect P (.create tx.inputStates tx.referenceStates) signers anyMsg chan packet m
      outs) : Keeps P c (outs ++ [.channel (chan.sent packet)]) := by
  by_cases hics : m = .ics20
  · subst hics
    cases heffect with
    | @ics20 msg amount sender port channel bank bank' denom hmsg hamount hsender hport hchannel
        hbank hdenom hdebit =>
      have hbank := hin _ (Context.mem_of_getInput hbank) bankId rfl
      have hplain := Ics20.plain_of_resolveToken (he.plain bank hbank) hdenom
      have ht' : Ics20.transferOf P (Ics20.transferPacket P msg denom chan) =
          .ok ⟨!denom.hasPrefix port channel, sender, denom, amount⟩ :=
        Ics20.transferOf_transferPacket hjson hamount hsender hport hchannel hplain
      refine he.keeps_of_bank ht hbank (Ics20.debit_locks hdebit) hchan ?_ fun d o => ?_
      · intro _ n p hn
        by_cases hk : n = (Ics20.transferPacket P msg denom chan).sequence
        · subst hk
          rw [IbcChannel.sent, Finmap.lookup_insert] at hn
          cases hn
          exact ⟨_, ht', hpos msg amount hmsg hamount⟩
        · rw [IbcChannel.sent, Finmap.lookup_insert_of_ne _ hk] at hn
          exact he.reads _ _ hchan hm n p hn
      · have h₁ := he.covered bank hbank d o
        have h₂ : escrowed P c.module? d o
              (.channel (chan.sent (Ics20.transferPacket P msg denom chan))) ≤
            escrowed P c.module? d o (.channel chan) +
              Ics20.escrow P (Ics20.transferPacket P msg denom chan) d o :=
          escrowed_sent hm (he.reads _ _ hchan)
        rw [Ics20.escrow, ht'] at h₂
        dsimp only at h₂
        omega
  · refine he.keeps_of_quiet ht (fun b hb => ?_) fun k hk => .inl (.inr ?_)
    · exact heffect.not_bank hics b (by simpa using hb)
    · obtain rfl := heffect.bankOuts.channel_eq hk
      show c.module? chan.portId ≠ _
      rw [hm]
      simpa using hics

include he hin in
/-- A receive takes off the escrow no more than is free. -/
theorem Escrowed.keeps_recv {msg : MsgRecvPacket} {m : Module} {ack : Acknowledgement}
    (ht : Takes P c tx (outs ++ [.channel chan']))
    (hchan : c.states.lookup chan.id = some (.channel chan)) (hid : chan'.id = chan.id)
    (hport : chan'.portId = chan.portId) (hpackets : chan'.packets = chan.packets)
    (hreserve : ∀ denom owner amount bank, Releases P c (.handlePacketRecv msg) denom owner amount →
      c.states.lookup bankId = some (.bank bank) → amount ≤ bank.locked.balance denom owner →
      c.pending P denom owner + amount ≤ bank.locked.balance denom owner)
    (heffect : RecvEffect P (.create tx.inputStates tx.referenceStates) msg.packet m ack outs) :
    Keeps P c (outs ++ [.channel chan']) := by
  have hl : c.states.lookup chan'.id = some (.channel chan) := by rw [hid, hchan]
  by_cases hics : m = .ics20
  · subst hics
    cases heffect with
    | @ics20 data amount receiver port channel bank bank' ack hdata hamount hreceiver hsrc hsrcChan
        hbank hcredit =>
      have hbank := hin _ (Context.mem_of_getInput hbank) bankId rfl
      have hr : ReadsAs P c.module? chan' := fun hm n p hn =>
        he.reads _ _ hchan (hport ▸ hm) n p (hpackets ▸ hn)
      have hkeep : ∀ f, Ics20.Locks bank bank' f → (∀ d o, c.pending P d o ≤
          bank.locked.balance d o + f d o) → Keeps P c ([.bank bank'] ++ [.channel chan']) :=
        fun f hf hle => he.keeps_of_bank ht hbank hf hl hr fun d o => by
          rw [escrowed_eq_of_packets hport hpackets, Int.sub_self, Int.add_zero]
          exact hle d o
      have hzero : ∀ d o, c.pending P d o ≤ bank.locked.balance d o + 0 := fun d o => by
        have := he.covered bank hbank d o
        omega
      rcases hcredit with ⟨hcredit, -⟩ | ⟨-, -, rfl, -⟩
      · rcases Ics20.credit_locks hcredit with ⟨hs, d, hd, hlocks, hle⟩ | ⟨-, hlocks⟩
        · refine hkeep _ hlocks fun d' o => ?_
          have h₁ := he.covered bank hbank d' o
          have h₂ := hreserve d receiver amount bank
            (.recv hdata hamount hreceiver hsrc hsrcChan hs hd) hbank hle
          split
          · rename_i hdo
            obtain ⟨rfl, rfl⟩ := hdo
            omega
          · omega
        · exact hkeep _ (hlocks (Denom.plain_fromString _)) hzero
      · exact hkeep _ (.refl bank') hzero
  · refine he.keeps_of_quiet ht (fun b hb => ?_) fun k hk => .inr ⟨chan, ?_⟩
    · exact heffect.not_bank hics b (by simpa using hb)
    · obtain rfl := heffect.bankOuts.channel_eq hk
      exact ⟨hl, hport, .inl hpackets⟩

include he hin in
/-- A refund on a transfer channel takes off the escrow what its packet locked, and any other one no
more than is free. -/
theorem Escrowed.keeps_ack {msg : MsgAcknowledgement} {m : Module} {ack : Acknowledgement}
    (ht : Takes P c tx (outs ++ [.channel (chan'.settled msg.packet)]))
    (hchan : c.states.lookup chan.id = some (.channel chan)) (hid : chan'.id = chan.id)
    (hport : chan'.portId = chan.portId) (hpackets : chan'.packets = chan.packets)
    (hsource : chan.portId.id = msg.packet.sourcePort)
    (hpacket : chan.packets.lookup msg.packet.sequence = some msg.packet)
    (hack : P.toAcknowledgement msg.acknowledgement = .ok ack)
    (hreserve : ∀ denom owner amount bank,
      Releases P c (.handlePacketAcknowledgement msg) denom owner amount →
      c.states.lookup bankId = some (.bank bank) → amount ≤ bank.locked.balance denom owner →
      c.pending P denom owner + amount ≤ bank.locked.balance denom owner)
    (heffect : AckEffect P (.create tx.inputStates tx.referenceStates) msg.packet m ack outs) :
    Keeps P c (outs ++ [.channel (chan'.settled msg.packet)]) := by
  have hl : c.states.lookup (chan'.settled msg.packet).id = some (.channel chan) := by
    rw [show (chan'.settled msg.packet).id = chan.id from hid, hchan]
  have hq : Quiet c (chan'.settled msg.packet) :=
    .inr ⟨chan, hl, hport, .inr ⟨msg.packet.sequence, by rw [IbcChannel.settled, hpackets]⟩⟩
  have hr := (he.reads_of_quiet hq).1
  have hle : ∀ d o, escrowed P c.module? d o (.channel (chan'.settled msg.packet)) -
      escrowed P c.module? d o (.channel chan) ≤ 0 := fun d o => by
    rw [← gain_channel _ hl]
    exact he.gain_le hq
  have hquiet : (∀ b, ContractState.bank b ∉ outs) →
      Keeps P c (outs ++ [.channel (chan'.settled msg.packet)]) := fun hno =>
    he.keeps_of_quiet ht (fun b hb => hno b (by simpa using hb)) fun k hk => by
      obtain rfl := heffect.bankOuts.channel_eq hk
      exact hq
  have hno := heffect.not_bank
  cases heffect with
  | nop => exact hquiet (hno nofun)
  | ics20cash => exact hquiet (hno nofun)
  | ics20Result hbank =>
    have hbank := hin _ (Context.mem_of_getInput hbank) bankId rfl
    refine he.keeps_of_bank ht hbank (.refl _) hl hr fun d o => ?_
    have h₁ := he.covered _ hbank d o
    have h₂ := hle d o
    omega
  | @ics20Error message data amount sender port channel bank bank' hdata hamount hsender hsrc
      hsrcChan hbank hrefund =>
    have hbank := hin _ (Context.mem_of_getInput hbank) bankId rfl
    obtain ⟨hlocks, hcover⟩ := Ics20.refund_locks hrefund
    have htransfer := Ics20.transferOf_of hdata hamount hsender hsrc hsrcChan
    generalize (!(Denom.fromString data.denom).hasPrefix port channel) = source at *
    generalize Denom.fromString data.denom = denom at *
    refine he.keeps_of_bank ht hbank hlocks hl hr fun d o => ?_
    have h₁ := he.covered bank hbank d o
    have h₂ := hle d o
    by_cases hm : c.module? chan.portId = some .ics20
    · have h₃ : escrowed P c.module? d o (.channel (chan'.settled msg.packet)) =
          escrowed P c.module? d o (.channel chan) - Ics20.escrow P msg.packet d o :=
        escrowed_settled hm hpacket hport hpackets
      rw [Ics20.escrow, htransfer] at h₃
      dsimp only at h₃
      split at h₃ <;> rename_i hdo
      · rw [if_pos hdo]; omega
      · rw [if_neg hdo]; omega
    · split
      · rename_i hdo
        obtain ⟨hs, rfl, rfl⟩ := hdo
        have h₃ : c.pending P d o + amount ≤ bank.locked.balance d o :=
          hreserve d o amount bank (.ack hack htransfer hs hsource hm) hbank (hcover hs)
        omega
      · omega

theorem module_of_host {host : Host} {port : Identifier} {m : Module}
    (hhost : c.states.lookup hostId = some (.host host)) (h : host.lookupModule port = .ok m) :
    c.module? port = some m := by
  rw [module?, hhost]
  exact notNull_ok.1 h

include hjson he hin href in
/-- Every datagram keeps the escrow of a reserved chain. -/
theorem Escrowed.keeps_datagram {handler : DatagramHandler} (ht : Takes P c tx outs)
    (hcmd : tx.datagramHandlerCommands = [(handler, signers)]) (hg : Reserved P c tx)
    (h : Executes P (.create tx.inputStates tx.referenceStates) signers handler outs) :
    Keeps P c outs := by
  have hc : ∀ {chan : IbcChannel},
      (Context.create tx.inputStates tx.referenceStates).getInput IbcChannel = .ok chan →
      c.states.lookup chan.id = some (.channel chan) := fun h => hin _ (Context.mem_of_getInput h) _ rfl
  have hh : ∀ {host : Host},
      (Context.create tx.inputStates tx.referenceStates).getReference Host = .ok host →
      c.states.lookup hostId = some (.host host) := fun h =>
    href _ (Context.mem_of_getReference h) _ rfl
  have hreserve := fun d o a b => hg.reserve handler signers d o a b hcmd
  -- the handshake puts out no bank, and no packet
  have hquiet : (∀ b, ContractState.bank b ∉ outs) →
      (∀ chan', .channel chan' ∈ outs → Quiet c chan') → Keeps P c outs := he.keeps_of_quiet ht
  cases h with
  | createClient | updateClient | connOpenInit | connOpenTry | connOpenAck | connOpenConfirm =>
    exact hquiet (by simp) (by simp)
  | chanOpenInit | chanOpenTry | chanOpenTryPrevious =>
    refine hquiet (by simp) fun chan' h => ?_
    obtain rfl := by simpa using h
    exact .inl (.inl rfl)
  | chanOpenAck hchan | chanOpenConfirm hchan | chanCloseInit hchan | chanCloseConfirm hchan =>
    refine hquiet (by simp) fun chan' h => ?_
    obtain rfl := by simpa using h
    exact .inr ⟨_, (hc hchan :), rfl, .inl rfl⟩
  | @sendPacket anyMsg host chan packet m outs hhost hmodule heffect hsend =>
    exact he.keeps_send hjson hin ht (hc hsend.input) (module_of_host (hh hhost) hmodule)
      (fun msg amount => hg.positive anyMsg signers msg amount hcmd) heffect
  | @recvPacket msg host port chan chan' m ack outs hhost hport hmodule heffect hrecv =>
    rcases receive_cases hrecv.receive with ⟨-, -, rfl⟩ | ⟨-, -, rfl⟩ <;>
      exact he.keeps_recv hin ht (hc hrecv.input) rfl rfl rfl hreserve heffect
  | @acknowledgePacket msg host port chan chan' m ack outs hhost hport hmodule hack heffect hacks =>
    obtain ⟨n, rfl⟩ := settle_eq hacks.settle
    exact he.keeps_ack hin ht (hc hacks.input) rfl rfl rfl hacks.port hacks.packet hack hreserve
      heffect

end

theorem Escrowed.pending_eq_zero (he : Escrowed P c)
    (hno : ∀ bank, c.states.lookup bankId ≠ some (.bank bank)) : c.pending P denom owner = 0 := by
  unfold pending total
  refine Finmap.sumOver_eq_zero _ fun i s hl => ?_
  cases s <;> try rfl
  rename_i chan
  by_cases hm : c.module? chan.portId = some .ics20
  · simp only [escrowed, hm, if_true]
    refine Finmap.sumOver_eq_zero _ fun n packet hn => ?_
    obtain ⟨bank, hb⟩ := he.bank i chan n packet hl hm hn
    exact absurd hb (hno bank)
  · exact escrowed_eq_zero (.inr hm)

/-- Set-up commands keep the escrow. -/
theorem Escrowed.keeps (hjson : ∀ data, P.toFungibleTokenPacketData (P.toJson data) = .ok data)
    (he : Escrowed P c) (ht : Takes P c tx outs) (hg : Reserved P c tx) : Keeps P c outs := by
  have hzero : (∀ chan', ContractState.channel chan' ∉ outs) → ∀ d o,
      pendingGain P c outs d o = 0 := fun hno d o => by
    suffices h : ∀ s ∈ outs, c.gain (escrowed P c.module? d o) s = 0 by
      rw [pendingGain, List.map_congr_left h]
      simp
    exact fun s hs => gain_eq_zero he.inv ht hs fun chan h => hno chan (h ▸ hs)
  have heff := ht.effect
  cases heff with
  | @addBank host host' bank hhost hadd hbank =>
    have hno : ∀ chan', ContractState.channel chan' ∉ [.host host', bank] := by
      rcases hbank with rfl | ⟨_, rfl⟩ <;> simp
    refine ⟨fun b hb => ?_, fun _ d o => (hzero hno d o).le, fun k hk => absurd hk (hno k),
      fun k _ _ hk => absurd hk (hno k)⟩
    obtain rfl : b = .create host := by
      rcases hbank with rfl | ⟨_, rfl⟩
      · simpa using hb
      · simp at hb
    refine ⟨fun s d hs => ?_, fun d o => ?_⟩
    · rw [Bank.create, Finmap.lookup_empty] at hs
      cases hs
    · rw [hzero hno, he.pending_eq_zero (he.inv.bank_free hhost hadd)]
      simp [Bank.create, BalanceMap.balance, BalanceMap.entry]
  | @fund bank owner denom amount hbank =>
    have hno : ∀ chan', ContractState.channel chan' ∉
        [ContractState.bank (bank.allocate owner denom amount)] := by simp
    refine ⟨fun b hb => ?_, fun _ d o => (hzero hno d o).le, fun k hk => absurd hk (hno k),
      fun k _ _ hk => absurd hk (hno k)⟩
    obtain rfl : b = bank.allocate owner denom amount := by simpa using hb
    refine ⟨he.plain bank hbank, fun d o => ?_⟩
    rw [hzero hno, Int.add_zero]
    exact he.covered bank hbank d o
  | datagram hcmd hin href hexec => exact he.keeps_datagram hjson hin href ht hcmd hg hexec

theorem Start.escrowed (h : c.Start) : Escrowed P c := by
  have hi := h.inv
  obtain ⟨_, _, _, _, _, host, -, rfl⟩ := h
  have hno : ∀ i s, (ofHost host).states.lookup i = some s → ∃ h, s = .host h := fun i s hl =>
    ⟨host, (lookup_ofHost hl).2⟩
  refine ⟨hi, fun i chan hl => ?_, fun i chan n packet hl => ?_, fun bank hl => ?_,
    fun bank hl => ?_⟩ <;>
  · obtain ⟨h, e⟩ := hno _ _ hl
    cases e

/-- Every reserved run of a host keeps the escrow. -/
theorem Escrowed.run (hjson : ∀ data, P.toFungibleTokenPacketData (P.toJson data) = .ok data)
    {c₀ : Chain} {tr : List LedgerTransaction} (h₀ : c₀.Start)
    (hr : Run (Step P (Reserved P)) c₀ tr c) : Escrowed P c := by
  refine hr.invariant (I := fun _ c => Escrowed P c) h₀.escrowed ?_
  rintro - c tx c' - he ⟨hg, hc⟩
  obtain ⟨rfl, outs, ht⟩ := commit_ok hc
  exact he.apply ht (he.keeps hjson ht hg)

/-- A pending packet locked no more than the bank holds of its sender. -/
theorem Escrowed.le_locked (he : Escrowed P c) {i : Identifier} {chan : IbcChannel} {n : Nat}
    {packet : Packet} {bank : Bank} (hchan : c.states.lookup i = some (.channel chan))
    (hport : c.module? chan.portId = some .ics20) (hpacket : chan.packets.lookup n = some packet)
    (hbank : c.states.lookup bankId = some (.bank bank)) :
    Ics20.escrow P packet denom owner ≤ bank.locked.balance denom owner := by
  have h₁ : Ics20.escrow P packet denom owner ≤
      escrowed P c.module? denom owner (.channel chan) := by
    simp only [escrowed, hport, if_true]
    exact Finmap.le_sumOver (f := fun _ p => Ics20.escrow P p denom owner)
      (fun k q hq => (he.reads i chan hchan hport k q hq).escrow_nonneg) hpacket
  have h₂ : escrowed P c.module? denom owner (.channel chan) ≤ c.pending P denom owner := by
    refine Finmap.le_sumOver (f := fun _ s => escrowed P c.module? denom owner s) (fun j s hs => ?_)
      hchan
    cases s <;> first | exact le_rfl | exact (he.reads _ _ hs).escrowed_nonneg
  exact h₁.trans (h₂.trans (he.covered bank hbank denom owner))

/-- In every run of a host that takes no reserved amount off the escrow, every packet still on a
transfer channel can be refunded: an error acknowledgement is handled, and gives the packet's amount
back to its sender. -/
theorem refund_possible (hjson : ∀ data, P.toFungibleTokenPacketData (P.toJson data) = .ok data)
    {c₀ : Chain} {tr : List LedgerTransaction} (h₀ : c₀.Start)
    (hr : Run (Step P (Reserved P)) c₀ tr c) {i : Identifier} {chan : IbcChannel} {n : Nat}
    {packet : Packet} (hchan : c.states.lookup i = some (.channel chan))
    (hport : c.module? chan.portId = some .ics20) (hpacket : chan.packets.lookup n = some packet) :
    ∃ bank t, c.states.lookup bankId = some (.bank bank) ∧ Ics20.transferOf P packet = .ok t ∧
      ∀ ctx message, ctx.getInput Bank = .ok bank →
        (∀ b, ContractState.bank b ∉ ctx.outStates.states) → ∃ ctx' bank',
          Ics20.onAcknowledgePacket P ctx packet (.error message) = .ok ctx' ∧
          Context.Outputs ctx [.bank bank'] ctx' ∧ Ics20.Refunded t bank bank' := by
  have he := Escrowed.run hjson h₀ hr
  obtain ⟨bank, hbank⟩ := he.bank i chan n packet hchan hport hpacket
  obtain ⟨t, ht, hpos⟩ := he.reads i chan hchan hport n packet hpacket
  refine ⟨bank, t, hbank, ht, fun ctx message hin hno => ?_⟩
  have hle : t.source = true → t.amount ≤ bank.locked.balance t.denom t.sender := fun hs => by
    have hescrow : Ics20.escrow P packet t.denom t.sender ≤ bank.locked.balance t.denom t.sender :=
      he.le_locked hchan hport hpacket hbank
    simpa [Ics20.escrow, ht, hs] using hescrow
  obtain ⟨bank', hrefund, hdone⟩ := Ics20.exists_refunded hpos hle
  obtain ⟨ctx', hadd⟩ : ∃ ctx', ctx.addOutput bank' = .ok ctx' := Context.exists_addOutput hno
  refine ⟨ctx', bank', ?_, (Context.addOutput_ibc rfl hadd).2, hdone⟩
  show Ics20.refundTokens P ctx packet = _
  rw [Ics20.refundTokens_eq, ht, Result.ok_bind, hin, Result.ok_bind, hrefund, Result.ok_bind, hadd]

end

/-! ### An escrow another owner's return unlocks -/

namespace LostRefund
open Sample

/-- A transfer of 5 from an owner. -/
def transfer (sender : String) : MsgTransfer :=
  { sourcePort := "transfer", sourceChannel := "channel-0", token := ⟨"atom", "5"⟩, sender
    receiver := "x", timeoutHeight := .default, timeoutTimestamp := 0 }

/-- The return of 5 to the first owner. -/
def returned : Packet :=
  { sequence := 1, sourcePort := "transfer", sourceChannel := "channel-0"
    destinationPort := "transfer", destinationChannel := "channel-0"
    data := toJson ⟨"transfer/channel-0/atom", "5", "x", addressA⟩, timeoutHeight := .default
    timeoutTimestamp := 0 }

def P : Platform :=
  platform [handshake, shows 2 [.channel (peerChannel.sent returned)]] [transfer addressA, transfer addressB]

def denom : Denom := ⟨⟨"", "atom"⟩⟩

/-- Two owners with 10 each send 5 each. -/
def sent : List Move :=
  opened ++ [allocate (account 97) denom 10, allocate (account 98) denom 10,
    onPacket (channel 0) (.createOutgoingPacket ⟨"", [1]⟩),
    onPacket (channel 0) (.createOutgoingPacket ⟨"", [0]⟩)]

/-- Then the receiver of what the second owner sent returns it to the first. -/
def returns : List Move :=
  sent ++ [onPacket (channel 0) (.handlePacketRecv
    { packet := returned, proofCommitment := [1], proofHeight := HEIGHT })]

/-- The module of the transfer channel and what becomes of the second packet's refund. -/
def outcome (c : Chain) : Option (Option Module × Option (Result Unit)) :=
  match c.states.lookup (channel 0), c.states.lookup bankId with
  | some (.channel chan), some (.bank b) =>
    some (c.module? chan.portId, (chan.packets.lookup 2).map fun packet =>
      (fun _ => ()) <$> Ics20.refundTokens P (.create [.bank b] []) packet)
  | _, _ => none

theorem outcome_sent : (fun r => outcome r.2) <$> runMoves P (ofHost (host 1)) sent =
    .ok (some (some .ics20, some (.ok ()))) := by decide +kernel

theorem outcome_returns : (fun r => outcome r.2) <$> runMoves P (ofHost (host 1)) returns =
    .ok (some (some .ics20,
      some (.error (.illegalArgument "insufficient fund: balance=0, amount=5")))) := by
  decide +kernel

theorem exists_of_outcome {c : Chain} {m : Option Module} {r : Result Unit}
    (h : outcome c = some (m, some r)) : ∃ chan bank packet,
      c.states.lookup (channel 0) = some (.channel chan) ∧ c.module? chan.portId = m ∧
      chan.packets.lookup 2 = some packet ∧ c.states.lookup bankId = some (.bank bank) ∧
      (fun _ => ()) <$> Ics20.refundTokens P (.create [.bank bank] []) packet = r := by
  unfold outcome at h
  split at h
  · rename_i chan bank hchan hbank
    simp only [Option.some.injEq, Prod.mk.injEq, Option.map_eq_some_iff] at h
    obtain ⟨hm, packet, hpacket, hr⟩ := h
    exact ⟨chan, bank, packet, hchan, hm, hpacket, hbank, hr⟩
  · cases h

theorem sendsPositive (tx : LedgerTransaction) : SendsPositive P tx := by
  rintro anyMsg signers msg amount - hmsg hamount
  have h5 : msg.token.amount = "5" := by
    have hm := mem_of_entry hmsg
    simp only [List.mem_cons, List.not_mem_nil, or_false] at hm
    rcases hm with rfl | rfl <;> rfl
  rw [h5, show toBigInteger "5" = .ok 5 by decide] at hamount
  cases hamount
  decide

/-- A run that sends positive amounts only and leaves a packet that cannot be refunded. -/
theorem refund_lost : ∃ tr c chan packet bank, (ofHost (host 1)).Start ∧
    Run (Step P fun _ tx => SendsPositive P tx) (ofHost (host 1)) tr c ∧
    c.states.lookup (channel 0) = some (.channel chan) ∧ c.module? chan.portId = some .ics20 ∧
    chan.packets.lookup 2 = some packet ∧ c.states.lookup bankId = some (.bank bank) ∧
    ∀ message, Ics20.onAcknowledgePacket P (.create [.bank bank] []) packet (.error message) =
      .error (.illegalArgument "insufficient fund: balance=0, amount=5") := by
  obtain ⟨⟨txs, c⟩, hrun, hout⟩ := Result.map_ok.1 outcome_returns
  obtain ⟨chan, bank, packet, hchan, hm, hpacket, hbank, hr⟩ := exists_of_outcome hout
  refine ⟨[] ++ txs, c, chan, packet, bank, start_host 1,
    run_of_moves hrun (fun _ _ _ tx _ => sendsPositive tx) .nil, hchan, hm, hpacket, hbank,
    fun _ => ?_⟩
  show Ics20.refundTokens P _ packet = _
  cases h : Ics20.refundTokens P (.create [.bank bank] []) packet with
  | ok ctx => rw [h] at hr; cases hr
  | error e => rw [h] at hr; cases hr; rfl

/-- A script without receipts and acknowledgements takes nothing off the escrow. -/
theorem reserved_sent : ∀ m ∈ sent, ∀ c tx, m.build P c = .ok tx → Reserved P c tx := by
  intro m hm c tx hbuild
  refine ⟨sendsPositive tx, fun handler signers denom owner amount bank hd hrel => ?_⟩
  have hcmd := Move.datagram_of_build hbuild hd
  have hno : ∀ handler, m.command = .datagram handler → (∀ msg, handler ≠ .handlePacketRecv msg) ∧
      ∀ msg, handler ≠ .handlePacketAcknowledgement msg := by
    intro handler h
    simp only [sent, opened, List.cons_append, List.nil_append, List.mem_cons, List.not_mem_nil,
      or_false] at hm
    rcases hm with rfl | rfl | rfl | rfl | rfl | rfl | rfl | rfl | rfl | rfl <;> cases h <;>
      constructor <;> rintro _ ⟨⟩
  cases hrel with
  | recv => exact absurd rfl ((hno _ hcmd).1 _)
  | ack => exact absurd rfl ((hno _ hcmd).2 _)

end LostRefund

open LostRefund Sample in
/-- `refund_possible` before the return. -/
theorem refund_possible_sent : ∃ (c : Chain) (bank : Bank) (packet : Packet) (t : Ics20.Transfer),
    c.states.lookup bankId = some (.bank bank) ∧ Ics20.transferOf P packet = .ok t ∧
    ∃ ctx' bank', Ics20.onAcknowledgePacket P (.create [.bank bank] []) packet (.error "") = .ok ctx' ∧
      Context.Outputs (.create [.bank bank] []) [.bank bank'] ctx' ∧ Ics20.Refunded t bank bank' := by
  obtain ⟨⟨txs, c⟩, hrun, hout⟩ := Result.map_ok.1 outcome_sent
  obtain ⟨chan, -, packet, hchan, hm, hpacket, -⟩ := exists_of_outcome hout
  obtain ⟨bank, t, hbank, ht, hall⟩ := refund_possible toFungibleTokenPacketData_toJson (start_host 1)
    (run_of_moves hrun reserved_sent .nil) hchan hm hpacket
  exact ⟨c, bank, packet, t, hbank, ht, hall _ "" rfl (fun _ => List.not_mem_nil)⟩

end Chain

end CordaIbc
