import CordaIbc.Lifecycle
import CordaIbc.Proofs.ChainStep
import CordaIbc.Sample.Life

/-!
# Refunds of the cash-based module

A pending packet of `ics20cash.Module` reads as a transfer (`Chain.CashSent`). Its refund is a
transaction of the chain exactly when vouchers were burned for it, and the port it went to is bound
to the module (`Chain.cash_refund_iff`): the branch that pays locked cash back leaves the bank it
consumes without a successor.
-/

namespace CordaIbc

open ChannelOuterClass (Packet Acknowledgement)
open Context StateClass ContractState

theorem toLong_ok {s : String} {n : Int} :
    toLong s = .ok n ↔ toBigInteger s = .ok n ∧ -2 ^ 63 ≤ n ∧ n < 2 ^ 63 := by
  unfold toLong
  rw [Result.bind_ok]
  constructor
  · rintro ⟨m, hm, h⟩
    split at h
    · cases h
      exact ⟨hm, by assumption⟩
    · cases h
  · rintro ⟨h, hb⟩
    exact ⟨n, h, if_pos hb⟩

namespace BigDecimal

/-- Flooring keeps the sign. -/
theorem nonneg_of_floorUnits {d : BigDecimal} {digits : Int} (h : 0 ≤ d.floorUnits digits) :
    0 ≤ d.unscaled := by
  unfold floorUnits at h
  dsimp only at h
  have hpow : ∀ n : Nat, (0 : Int) < 10 ^ n := fun n => Int.pow_pos (by decide)
  by_contra hneg
  split at h
  · have hlt := Int.mul_neg_of_neg_of_pos (not_le.1 hneg) (hpow (digits - d.scale).toNat)
    omega
  · have hlt := Int.ediv_neg_of_neg_of_pos (not_le.1 hneg) (hpow (-(digits - d.scale)).toNat)
    omega

end BigDecimal

theorem TokenAmount.nonneg_of_fromDecimal {T : Type} {n digits : Int} {token : T} {a : TokenAmount T}
    (h : TokenAmount.fromDecimal (BigDecimal.ofLong n) digits token = .ok a) : 0 ≤ n := by
  simp only [TokenAmount.fromDecimal, Result.bind_ok, longValueExact_ok, TokenAmount.of_ok] at h
  obtain ⟨m, ⟨rfl, -⟩, hq, -⟩ := h
  have hfloor : 0 ≤ (BigDecimal.ofLong n).floorUnits digits := by omega
  exact BigDecimal.nonneg_of_floorUnits hfloor

/-! ## A packet as a transfer -/

namespace Ics20Cash

/-- A packet of the module, as a refund reads it. -/
structure Transfer where
  denom : Denom
  quantity : Int
  sender : PublicKey
  /-- Whether the denomination came over the channel, so that vouchers were burned for it. -/
  burned : Bool

section
variable (P : Platform)

def transferOf (packet : Packet) : Result Transfer := do
  let data ← P.toFungibleTokenPacketData packet.data
  let quantity ← toLong data.amount
  let sender ← Address.fromBech32 P.toCrypto data.sender
  let key ← sender.toPublicKey P.toCrypto
  let denom := Denom.fromString data.denom
  let burned := denom.hasPrefix (← Identifier.of packet.sourcePort)
    (← Identifier.of packet.sourceChannel)
  .ok ⟨denom, quantity, key, burned⟩

/-- A packet the module created. -/
def Transfers (packet : Packet) : Prop := ∃ t, transferOf P packet = .ok t ∧ 0 ≤ t.quantity

/-- The states give the amount of a transfer back to its sender: one voucher of it, or cash. -/
inductive Returned (t : Transfer) (outs : List ContractState) : Prop
  | voucher {v : Voucher} (hburned : t.burned = true) (houts : filterIsInstance Voucher outs = [v])
    (howner : v.owner = ⟨t.sender⟩) (htoken : v.amount.token = t.denom.denomTrace)
    (hquantity : (v.amount.quantity : Int) = t.quantity) : Returned t outs
  | cash {c : Cash} (hburned : t.burned = false) (houts : .cash c ∈ outs)
    (howner : c.owner = ⟨t.sender⟩)
    (hissuer : t.denom.issuerKey P.toCrypto = .ok c.amount.token.issuerParty.owningKey)
    (hcurrency : t.denom.currency P.toCrypto = .ok c.amount.token.product)
    (hquantity : TokenAmount.fromDecimal (BigDecimal.ofLong t.quantity)
      (P.defaultFractionDigits c.amount.token.product) c.amount.token = .ok c.amount) :
    Returned t outs

end

section
variable {P : Platform} {ctx ctx' : Context} {signers : List PublicKey} {anyMsg : Any}
  {packet : Packet} {t : Transfer}

/-- Neither branch of a send takes a negative quantity. -/
theorem debit_nonneg {bank : CashBank} {source : Bool} {sender : Address} {denom : Denom}
    {quantity : Int} (h : debit P ctx bank source sender denom quantity = .ok ctx') :
    0 ≤ quantity := by
  cases source with
  | true =>
    simp only [debit, if_true, lockCash, Result.bind_ok] at h
    obtain ⟨-, -, -, -, -, -, -, -, sum, -, amount, hamount, -⟩ := h
    exact TokenAmount.nonneg_of_fromDecimal hamount
  | false =>
    obtain ⟨_, _, hburn, -⟩ := burnVouchers_ok h
    exact hburn.nonneg

/-- What the module sends reads as a transfer. -/
theorem transfers_of_send
    (hjson : ∀ data, P.toFungibleTokenPacketData (P.toJson data) = .ok data) {chan : IbcChannel}
    {outs : List ContractState} (h : SendEffect P ctx signers anyMsg chan packet .ics20cash outs) :
    Transfers P packet ∧ ∃ bank, ctx.getInput CashBank = .ok bank := by
  cases h with
  | @ics20cash msg quantity sender port channel bank denom key _ _ hmsg hamount hsender hport
      hchannel hbank hdenom hdebit houts hkey hsigned =>
    have hdata : P.toFungibleTokenPacketData (Ics20.transferPacket P msg denom chan).data =
        .ok ⟨denom.toString, msg.token.amount, msg.sender, msg.receiver⟩ := hjson _
    have hp : Identifier.of (Ics20.transferPacket P msg denom chan).sourcePort = .ok port :=
      Identifier.of_ok.2 hport
    have hc : Identifier.of (Ics20.transferPacket P msg denom chan).sourceChannel = .ok channel :=
      Identifier.of_ok.2 hchannel
    refine ⟨⟨⟨Denom.fromString denom.toString, quantity, key,
      (Denom.fromString denom.toString).hasPrefix port channel⟩, ?_, debit_nonneg hdebit⟩, bank, hbank⟩
    simp only [transferOf, hdata, hamount, hsender, hkey, hp, hc, Result.ok_bind]

theorem transferOf_ok : transferOf P packet = .ok t ↔ ∃ data sender port channel,
    P.toFungibleTokenPacketData packet.data = .ok data ∧ toLong data.amount = .ok t.quantity ∧
    Address.fromBech32 P.toCrypto data.sender = .ok sender ∧
    sender.toPublicKey P.toCrypto = .ok t.sender ∧ Identifier.of packet.sourcePort = .ok port ∧
    Identifier.of packet.sourceChannel = .ok channel ∧ t.denom = Denom.fromString data.denom ∧
    t.burned = t.denom.hasPrefix port channel := by
  obtain ⟨denom, quantity, key, burned⟩ := t
  simp only [transferOf, Result.bind_ok, Except.ok.injEq, Transfer.mk.injEq]
  constructor
  · rintro ⟨data, hdata, _, hquantity, sender, hsender, _, hkey, port, hport, channel, hchannel, hd,
      rfl, rfl, hb⟩
    exact ⟨data, sender, port, channel, hdata, hquantity, hsender, hkey, hport, hchannel, hd.symm,
      by rw [← hb, hd]⟩
  · rintro ⟨data, sender, port, channel, hdata, hquantity, hsender, hkey, hport, hchannel, hd, hb⟩
    exact ⟨data, hdata, _, hquantity, sender, hsender, _, hkey, port, hport, channel, hchannel,
      hd.symm, rfl, rfl, by rw [hb, hd]⟩

theorem Returned.mem {outs : List ContractState} (h : Returned P t outs) :
    (∃ v, ContractState.voucher v ∈ outs) ∨ ∃ cash, ContractState.cash cash ∈ outs := by
  cases h with
  | voucher _ houts =>
    exact .inl ⟨_, mem_filterIsInstance.1 (by rw [houts]; exact List.mem_singleton_self _)⟩
  | cash _ houts => exact .inr ⟨_, houts⟩

/-- A refund pays cash, and leaves the bank out, unless vouchers were burned. -/
theorem refund_cases (ht : transferOf P packet = .ok t) {message : String}
    {outs : List ContractState} (h : onAcknowledgePacket P ctx packet (.error message) = .ok ctx')
    (houts : Outputs ctx outs ctx') : t.burned = true ∨
      (∃ bank, ctx.getInput CashBank = .ok bank) ∧ ∀ s ∈ outs, ∃ c, s = .cash c := by
  obtain ⟨data, sender, port, channel, hdata, -, hsender, -, hport, hchannel, hd, hb⟩ :=
    transferOf_ok.1 ht
  simp only [onAcknowledgePacket, refundTokens, hdata, hsender, hport, hchannel, Result.ok_bind,
    ← hd, ← hb] at h
  obtain ⟨bank, hbank, h⟩ := Result.bind_ok.1 h
  cases hburned : t.burned with
  | true => exact .inl rfl
  | false =>
    rw [hburned] at h
    simp only [Bool.not_false, if_true, Result.bind_ok] at h
    obtain ⟨cash, -, key, -, hpay⟩ := h
    obtain ⟨cs, ho, hs⟩ := payCash_outputs hpay
    obtain rfl := houts.unique ho
    exact .inr ⟨⟨bank, hbank⟩, hs⟩

end

end Ics20Cash

namespace CashBank

theorem exists_mint {C : Crypto} {bank : CashBank} {owner : Address} {denom : Denom} {amount : Int}
    {key : PublicKey} (hkey : owner.toPublicKey C = .ok key) (hnonneg : 0 ≤ amount)
    (hlt : amount < 2 ^ 63) : ∃ bank' voucher, bank.mint C owner denom amount = .ok (bank', voucher) := by
  have hlong : longValueExact amount = .ok amount := longValueExact_ok.2 ⟨rfl, by omega, hlt⟩
  have hof : TokenAmount.of amount denom.denomTrace =
      .ok ⟨amount.toNat, denom.denomTrace, by omega⟩ := TokenAmount.of_ok.2 ⟨by simp [hnonneg], rfl⟩
  refine ⟨bank.setSupply denom (bank.supplyOf denom + amount),
    ⟨bank.baseId, ⟨amount.toNat, denom.denomTrace, by omega⟩, ⟨key⟩⟩, ?_⟩
  simp only [mint, hkey, hlong, hof, Result.ok_bind, setSupply_baseId]

end CashBank

namespace Ics20Cash
variable {P : Platform} {ctx : Context} {packet : Packet} {t : Transfer}

/-- The voucher a refund mints. -/
structure Reminted (t : Transfer) (bank bank' : CashBank) (v : Voucher) : Prop where
  bankBase : bank'.baseId = bank.baseId
  base : v.baseId = bank.baseId
  owner : v.owner = ⟨t.sender⟩
  token : v.amount.token = t.denom.denomTrace
  quantity : (v.amount.quantity : Int) = t.quantity

/-- Burned vouchers can always be minted again. -/
theorem exists_reminted (ht : transferOf P packet = .ok t) (hburned : t.burned = true)
    (hnonneg : 0 ≤ t.quantity) {bank : CashBank} (hbank : ctx.getInput CashBank = .ok bank)
    (hempty : ctx.outStates = .empty) (message : String) : ∃ bank' v ctx',
      onAcknowledgePacket P ctx packet (.error message) = .ok ctx' ∧
      Outputs ctx [.cashBank bank', .voucher v] ctx' ∧ Reminted t bank bank' v := by
  obtain ⟨data, sender, port, channel, hdata, hquantity, hsender, hkey, hport, hchannel, hd, hb⟩ :=
    transferOf_ok.1 ht
  obtain ⟨hbig, -, hlt⟩ := toLong_ok.1 hquantity
  obtain ⟨bank', v, hmint⟩ :=
    @CashBank.exists_mint P.toCrypto bank sender t.denom t.quantity t.sender hkey hnonneg hlt
  obtain ⟨rfl, hbase, htoken, hq, key, hkey', howner⟩ := CashBank.mint_ok hmint
  obtain rfl := Except.ok.inj (hkey.symm.trans hkey')
  have hvoucher : t.denom.isVoucher = true := by
    by_contra hno
    have hpath : t.denom.denomTrace.path = "" := by simpa [Denom.isVoucher] using hno
    rw [hburned, Denom.hasPrefix_of_path_empty hpath] at hb
    cases hb
  obtain ⟨ctx₁, h₁⟩ : ∃ ctx₁, ctx.addOutput (bank.setSupply t.denom (bank.supplyOf t.denom + t.quantity)) =
      .ok ctx₁ := exists_addOutput fun _ => by
    rw [hempty]
    exact List.not_mem_nil
  have ho₁ := (addOutput_ibc rfl h₁).2
  obtain ⟨ctx₂, h₂⟩ : ∃ ctx₂, ctx₁.addOutput v = .ok ctx₂ := exists_addOutput fun w hw => by
    rw [ho₁.outStates, hempty] at hw
    cases List.mem_singleton.1 hw
  refine ⟨_, v, ctx₂, ?_, addOutput_two rfl rfl h₁ h₂, rfl, hbase, howner, htoken, hq⟩
  show refundTokens P ctx packet = _
  simp only [refundTokens, hdata, hsender, hport, hchannel, hbank, Result.ok_bind, ← hd, ← hb, hburned]
  simp only [Bool.not_true, Bool.false_eq_true, if_false, hvoucher, hbig, hmint, h₁, h₂,
    Result.ok_bind, require, if_true]

end Ics20Cash

/-! ## The acknowledgement -/

namespace Handler

/-- Beside other inputs and outputs, an acknowledgement is handled as it is alone. -/
theorem exists_acknowledged {P : Platform} {ctx₁ ctx₂ ctx' : Context} {packet : Packet}
    {ack : Acknowledgement} {proof : CommitmentProof} {height : Height}
    (h : acknowledgePacket P ctx₁ packet ack proof height = .ok ctx')
    (hin : ctx₂.getInput IbcChannel = ctx₁.getInput IbcChannel) (href : ctx₂.refStates = ctx₁.refStates)
    (hno : ∀ chan : IbcChannel, ContractState.channel chan ∉ ctx₂.outStates.states) :
    ∃ chan chan' ctx'', ctx₁.getInput IbcChannel = .ok chan ∧
      acknowledgePacket P ctx₂ packet ack proof height = .ok ctx'' ∧
      Outputs ctx₂ [.channel chan'] ctx'' ∧ chan'.baseId = chan.baseId ∧ chan'.id = chan.id := by
  have hr : ∀ (T : Type) [StateClass T], ctx₂.getReference T = ctx₁.getReference T := by
    intro T _
    unfold Context.getReference Context.getReferences
    rw [href]
  simp only [acknowledgePacket, Result.bind_ok] at h
  obtain ⟨host, h₁, chan, h₂, ⟨⟩, h₃, ⟨⟩, h₄, conn, h₅, hop, h₆, ⟨⟩, h₇, client, h₈, ⟨⟩, h₉, ⟨⟩, h₁₀,
    ⟨⟩, h₁₁, ⟨⟩, h₁₂, ⟨⟩, h₁₃, ⟨⟩, h₁₄, p, h₁₅, ⟨⟩, h₁₆, i, h₁₇, j, h₁₈, ⟨⟩, h₁₉, chan₁, h₂₀, -⟩ := h
  obtain ⟨ctx'', hadd⟩ : ∃ ctx'', ctx₂.addOutput { chan₁ with packets := chan₁.packets.erase packet.sequence } =
      .ok ctx'' := exists_addOutput hno
  obtain ⟨n, rfl⟩ := settle_eq h₂₀
  refine ⟨chan, _, ctx'', h₂, ?_, (addOutput_ibc rfl hadd).2, rfl, rfl⟩
  simp only [acknowledgePacket, hr, hin, h₁, h₂, h₃, h₄, h₅, h₆, h₇, h₈, h₉, h₁₀, h₁₁, h₁₂, h₁₃, h₁₄,
    h₁₅, h₁₆, h₁₇, h₁₈, h₁₉, h₂₀, hadd, Result.ok_bind]

end Handler

/-! ## The packets of a chain -/

namespace Chain

section
variable {P : Platform} {c c' : Chain} {tx : LedgerTransaction} {outs : List ContractState}

/-- The packets on a port of the module read as transfers, and there is a bank for them. -/
structure CashSent (P : Platform) (c : Chain) : Prop where
  inv : c.Inv
  reads : ∀ i chan n packet, c.states.lookup i = some (.channel chan) →
    c.module? chan.portId = some .ics20cash → chan.packets.lookup n = some packet →
    Ics20Cash.Transfers P packet
  bank : ∀ i chan n packet, c.states.lookup i = some (.channel chan) →
    c.module? chan.portId = some .ics20cash → chan.packets.lookup n = some packet →
    ∃ bank, c.states.lookup bankId = some (.cashBank bank)

theorem Start.cashSent (h : c.Start) : CashSent P c := by
  have hi := h.inv
  obtain ⟨_, _, _, _, _, host, -, rfl⟩ := h
  refine ⟨hi, fun i chan n packet hl => ?_, fun i chan n packet hl => ?_⟩ <;>
  · obtain ⟨-, hs⟩ := lookup_ofHost hl
    cases hs

theorem lookupModule_of_module {port : Identifier} {host : Host} {m m' : Module}
    (hhost : c.states.lookup hostId = some (.host host)) (hm : c.module? port = some m)
    (h : host.lookupModule port = .ok m') : m' = m := by
  rw [module?, hhost] at hm
  exact Option.some.inj ((notNull_ok.1 h).symm.trans hm)

/-- A packet of an output channel was on the channel before, or the module has just created it. -/
theorem CashSent.output (hjson : ∀ data, P.toFungibleTokenPacketData (P.toJson data) = .ok data)
    (hs : CashSent P c) (ht : Takes P c tx outs) {chan' : IbcChannel}
    (hout : ContractState.channel chan' ∈ outs) (hm : c.module? chan'.portId = some .ics20cash)
    {n : Nat} {packet : Packet} (hpacket : chan'.packets.lookup n = some packet) :
    Ics20Cash.Transfers P packet ∧ ∃ bank, c.states.lookup bankId = some (.cashBank bank) := by
  cases ht.effect with
  | addBank _ _ hbank => rcases hbank with rfl | ⟨_, rfl⟩ <;> simp at hout
  | fund => simp at hout
  | datagram _ hin href hexec =>
    rcases hexec.channel_cases hout with ⟨-, hcreation⟩ | ⟨-, chan, hchan, hchange⟩
    · rw [hcreation.new.packets, Finmap.lookup_empty] at hpacket
      cases hpacket
    · have hcur := hin _ (Context.mem_of_getInput hchan) _ rfl
      obtain ⟨hport, hold | ⟨anyMsg, host, m, _, -, hhost, hmodule, heffect, -, -⟩⟩ :=
        hchange.packet_cases hpacket
      · rw [hport] at hm
        exact ⟨hs.reads _ chan n packet hcur hm hold, hs.bank _ chan n packet hcur hm hold⟩
      · rw [hport] at hm
        have hh := href _ (Context.mem_of_getReference hhost) _ rfl
        obtain rfl := lookupModule_of_module hh hm hmodule
        obtain ⟨hreads, bank, hbank⟩ := Ics20Cash.transfers_of_send hjson heffect
        exact ⟨hreads, bank, hin _ (Context.mem_of_getInput hbank) _ rfl⟩

theorem CashSent.apply (hjson : ∀ data, P.toFungibleTokenPacketData (P.toJson data) = .ok data)
    (hs : CashSent P c) (ht : Takes P c tx outs) : CashSent P (c.apply tx) := by
  have hnext : ∀ i chan n packet, (c.apply tx).states.lookup i = some (.channel chan) →
      (c.apply tx).module? chan.portId = some .ics20cash → chan.packets.lookup n = some packet →
      Ics20Cash.Transfers P packet ∧ ∃ bank, c.states.lookup bankId = some (.cashBank bank) := by
    intro i chan n packet hl hm hpacket
    rw [hs.inv.module_next ht] at hm
    rcases ht.lookup_cases hl with ⟨hout, -⟩ | ⟨-, hold⟩
    · exact hs.output hjson ht hout hm hpacket
    · exact ⟨hs.reads i chan n packet hold hm hpacket, hs.bank i chan n packet hold hm hpacket⟩
  refine ⟨hs.inv.apply ht, fun i chan n packet hl hm hp => (hnext i chan n packet hl hm hp).1, ?_⟩
  intro i chan n packet hl hm hp
  obtain ⟨-, bank, hbank⟩ := hnext i chan n packet hl hm hp
  obtain ⟨s, hs', hu⟩ := hs.inv.lookup_next ht hbank
  cases s <;> first | exact hu.elim | exact ⟨_, hs'⟩

theorem CashSent.run (hjson : ∀ data, P.toFungibleTokenPacketData (P.toJson data) = .ok data)
    {ok : Chain → LedgerTransaction → Prop} {c₀ : Chain} {tr : List LedgerTransaction}
    (h₀ : c₀.Start) (hr : Run (Step P ok) c₀ tr c) : CashSent P c := by
  refine hr.invariant (I := fun _ c => CashSent P c) h₀.cashSent ?_
  rintro - c tx c' - hs ⟨-, hc⟩
  obtain ⟨rfl, outs, ht⟩ := commit_ok hc
  exact hs.apply hjson ht

/-! ### The refund as a transaction -/

/-- A transaction that handles an acknowledgement. -/
def ackTransaction (msg : MsgAcknowledgement) (signers : List PublicKey)
    (inputs references outputs : List ContractState) : LedgerTransaction :=
  let wrap (s : ContractState) : StateAndRef := ⟨⟨s, ⟨⟨[]⟩⟩⟩, ⟨⟨[]⟩, 0⟩⟩
  { id := ⟨[]⟩, notary := ⟨⟨[]⟩⟩, inputs := inputs.map wrap, references := references.map wrap
    outputs, commands := [⟨.datagram (.handlePacketAcknowledgement msg), signers⟩] }

section
variable {msg : MsgAcknowledgement} {signers : List PublicKey} {ins refs : List ContractState}

theorem ackTransaction_inputStates : (ackTransaction msg signers ins refs outs).inputStates = ins := by
  simp [LedgerTransaction.inputStates, ackTransaction, Function.comp_def]

theorem ackTransaction_referenceStates :
    (ackTransaction msg signers ins refs outs).referenceStates = refs := by
  simp [LedgerTransaction.referenceStates, ackTransaction, Function.comp_def]

/-- A state of the chain has its base id. -/
theorem Inv.ibc_baseId (hi : c.Inv) {i : Identifier} {s : ContractState} {t : IbcState}
    (hl : c.states.lookup i = some s) (ht : s.ibc? = some t) : t.baseId = c.baseId := by
  obtain ⟨t', ht', -, hb, -⟩ := key_eq_some.1 (hi.keyed i s hl)
  rw [ht] at ht'
  cases ht'
  exact hb

theorem Inv.isCurrent (hi : c.Inv) {i : Identifier} {s : ContractState}
    (hl : c.states.lookup i = some s) : c.isCurrent s = true := by
  refine isCurrent_iff.2 fun j hk => ?_
  rw [hi.keyed i s hl] at hk
  cases hk
  exact hl

/-- A refund that mints the voucher is taken. -/
theorem Inv.commit_refund (hi : c.Inv) {i : Identifier} {chan chan' : IbcChannel}
    {bank bank' : CashBank} {v : Voucher} {ctx' : Context}
    (hchan : c.states.lookup i = some (.channel chan))
    (hbank : c.states.lookup bankId = some (.cashBank bank))
    (hrefs : ∀ s ∈ refs, ∃ j, c.states.lookup j = some s)
    (hexec : (DatagramHandler.handlePacketAcknowledgement msg).execute P
      (.create [.channel chan, .cashBank bank] refs) signers = .ok ctx')
    (hout : Outputs (.create [.channel chan, .cashBank bank] refs)
      [.cashBank bank', .voucher v, .channel chan'] ctx')
    (hchanBase : chan'.baseId = chan.baseId) (hid : chan'.id = chan.id)
    (hbankBase : bank'.baseId = bank.baseId) (hvBase : v.baseId = bank.baseId) :
    ∃ c', c.commit P (ackTransaction msg signers [.channel chan, .cashBank bank] refs
      [.cashBank bank', .voucher v, .channel chan']) = .ok c' := by
  have hcb : chan.baseId = c.baseId := hi.ibc_baseId hchan rfl
  have hbb : bank.baseId = c.baseId := hi.ibc_baseId hbank rfl
  have houts : ctx'.outStates.states = [.cashBank bank', .voucher v, .channel chan'] := hout.outStates
  have hverified : ctx'.Verified P.toCrypto [.cashBank bank', .voucher v, .channel chan'] := by
    refine ⟨by rw [houts], fun s hs => by rwa [houts], ?_, c.baseId, ?_, ?_, ?_, ?_⟩
    · intro t ht hf
      rw [Context.inIbcStates, hout.inStates] at ht
      rw [Context.outIbcStates, houts]
      rcases (by simpa [Context.create, ibc?] using ht : t = _ ∨ t = _) with rfl | rfl
      · exact ⟨⟨chan'.baseId, chan'.id, false⟩, by simp [ibc?], rfl,
          congrArg (fun j : Identifier => P.toCrypto.nameUUIDFromBytes j.id) hid⟩
      · exact ⟨⟨bank'.baseId, bank'.id, false⟩, List.mem_cons_self, rfl, rfl⟩
    · rw [Context.outIbcStates, houts]
      exact ⟨⟨bank'.baseId, bank'.id, false⟩, List.mem_cons_self, hbankBase.trans hbb⟩
    · intro t ht
      rw [Context.inIbcStates, hout.inStates] at ht
      rcases (by simpa [Context.create, ibc?] using ht : t = _ ∨ t = _) with rfl | rfl
      · exact hcb
      · exact hbb
    · intro t ht
      rw [Context.refIbcStates, hout.refStates] at ht
      obtain ⟨s, hs, hst⟩ := List.mem_filterMap.1 ht
      obtain ⟨j, hl⟩ := hrefs s hs
      exact hi.ibc_baseId hl hst
    · intro t ht
      rw [Context.outIbcStates, houts] at ht
      rcases (by simpa [ibc?] using ht : t = _ ∨ t = _ ∨ t = _) with rfl | rfl | rfl
      · exact hbankBase.trans hbb
      · exact hvBase.trans hbb
      · exact hchanBase.trans hcb
  refine ⟨_, Result.bind_ok.2 ⟨(), require_ok.2 ?_, Result.bind_ok.2 ⟨(), require_ok.2 ?_,
    Result.bind_ok.2 ⟨(), ?_, rfl⟩⟩⟩⟩
  · rw [ackTransaction_inputStates]
    exact List.any_eq_true.2 ⟨_, List.mem_cons_self, holds_iff.2 ⟨_, hi.keyed _ _ hchan⟩⟩
  · rw [ackTransaction_inputStates, ackTransaction_referenceStates]
    refine List.all_eq_true.2 fun s hs => ?_
    rcases List.mem_append.1 hs with hs | hs
    · simp only [List.mem_cons, List.not_mem_nil, or_false] at hs
      rcases hs with rfl | rfl
      · exact hi.isCurrent hchan
      · exact hi.isCurrent hbank
    · obtain ⟨j, hl⟩ := hrefs s hs
      exact hi.isCurrent hl
  · have hm : (ackTransaction msg signers [.channel chan, .cashBank bank] refs
        [.cashBank bank', .voucher v, .channel chan']).miscCommands = [] := rfl
    have hd : (ackTransaction msg signers [.channel chan, .cashBank bank] refs
        [.cashBank bank', .voucher v, .channel chan']).datagramHandlerCommands =
        [(.handlePacketAcknowledgement msg, signers)] := rfl
    unfold Ibc.verify
    rw [hm, hd]
    simp only [ackTransaction_inputStates, ackTransaction_referenceStates, hexec, Result.ok_bind]
    exact Context.verifyResults_of hverified

/-- A refund that pays cash is not taken: the bank it consumes has no successor. -/
theorem not_verified_of_pay (hinj : P.toCrypto.UniqueNames) {ctx ctx' : Context}
    {outs outs' : List ContractState} {chan chan' : IbcChannel} {bank : CashBank}
    (hcur : ∀ s ∈ ctx.inStates, ∀ i, s.id? = some i → c.states.lookup i = some s)
    (hchan : ctx.getInput IbcChannel = .ok chan) (hid : chan'.id = chan.id)
    (hbank : ctx.getInput CashBank = .ok bank) (hcash : ∀ s ∈ outs, ∃ c, s = .cash c)
    (ho : Outputs ctx (outs ++ [.channel chan']) ctx') (hempty : ctx.outStates = .empty) :
    ¬ ctx'.Verified P.toCrypto outs' := by
  intro hv
  have hin : ContractState.cashBank bank ∈ ctx'.inStates := by
    rw [ho.inStates]
    exact mem_of_getInput hbank
  obtain ⟨o, hmem, -, hlin⟩ := hv.successor _ (List.mem_filterMap.2 ⟨_, hin, rfl⟩) rfl
  obtain ⟨s, hs, hso⟩ := List.mem_filterMap.1 hmem
  rw [ho.outStates, hempty] at hs
  rcases List.mem_append.1 (show s ∈ outs ++ [.channel chan'] from hs) with hs | hs
  · obtain ⟨cash, rfl⟩ := hcash s hs
    cases hso
  · obtain rfl := List.mem_singleton.1 hs
    cases hso
    have hb : chan.id = bankId := hid ▸ hinj hlin
    have h₁ : c.states.lookup chan.id = some (.channel chan) :=
      hcur _ (mem_of_getInput hchan) _ rfl
    have h₂ : c.states.lookup bankId = some (.cashBank bank) :=
      hcur _ (mem_of_getInput hbank) _ rfl
    rw [hb, h₂] at h₁
    cases h₁

/-- A refund the chain takes was burned for, and is made by the module. -/
theorem burned_of_taken (hinj : P.toCrypto.UniqueNames) {t : Ics20Cash.Transfer} {message : String}
    (ht : Ics20Cash.transferOf P msg.packet = .ok t)
    (hack : P.toAcknowledgement msg.acknowledgement = .ok (.error message))
    (hc : c.commit P tx = .ok c')
    (hd : tx.datagramHandlerCommands = [(.handlePacketAcknowledgement msg, signers)])
    (hreturned : Ics20Cash.Returned P t tx.outputs) :
    (∃ port : Identifier, port.id = msg.packet.destinationPort ∧ c.module? port = some .ics20cash) ∧
      t.burned = true := by
  obtain ⟨outs, ctx', htakes⟩ := datagram_of_commit hc hd
  have hmem : (∃ v, ContractState.voucher v ∈ outs) ∨ ∃ cash, ContractState.cash cash ∈ outs :=
    hreturned.mem.imp (fun ⟨v, h⟩ => ⟨v, htakes.subset h⟩)
      fun ⟨paid, h⟩ => ⟨paid, htakes.subset h⟩
  obtain ⟨hexec, ho, hv, hin, href, -, -⟩ := htakes
  cases hexec with
  | @acknowledgePacket _ host port chan chan' m ack outs hhost hport hmodule hack' heffect hacks =>
    obtain rfl := Except.ok.inj (hack'.symm.trans hack)
    have hh : c.states.lookup hostId = some (.host host) := href _ (mem_of_getReference hhost) _ rfl
    have hm : c.module? port = some m := by
      rw [module?, hh]
      exact notNull_ok.1 hmodule
    cases heffect with
    | nop => simp at hmem
    | ics20Error => simp at hmem
    | ics20cash hsettle houts =>
      refine ⟨⟨port, hport, hm⟩, ?_⟩
      rcases Ics20Cash.refund_cases ht hsettle houts with hburned | ⟨⟨bank, hbank⟩, hcash⟩
      · exact hburned
      · have hid : (chan'.settled msg.packet).id = chan.id := by
          obtain ⟨k, rfl⟩ := settle_eq hacks.settle
          rfl
        exact absurd hv (not_verified_of_pay hinj hin hacks.input hid hbank hcash ho rfl)

/-- A verified error acknowledgement for burned vouchers is a transaction the chain takes. -/
theorem Inv.exists_refund (hi : c.Inv) {i : Identifier} {chan : IbcChannel} {bank : CashBank}
    {t : Ics20Cash.Transfer} {message : String} {proof : CommitmentProof} {ctx₁ : Context}
    (hchan : c.states.lookup i = some (.channel chan))
    (hbank : c.states.lookup bankId = some (.cashBank bank))
    (ht : Ics20Cash.transferOf P msg.packet = .ok t) (hnonneg : 0 ≤ t.quantity)
    (hburned : t.burned = true) (hrefs : ∀ s ∈ refs, ∃ j, c.states.lookup j = some s)
    (hack : P.toAcknowledgement msg.acknowledgement = .ok (.error message))
    (hproof : CommitmentProof.of msg.proofAcked = .ok proof)
    (hverified : Handler.acknowledgePacket P (.create [.channel chan] refs) msg.packet
      (.error message) proof msg.proofHeight = .ok ctx₁)
    (hport : ∃ port : Identifier, port.id = msg.packet.destinationPort ∧
      c.module? port = some .ics20cash) :
    ∃ tx c', c.commit P tx = .ok c' ∧ ContractState.channel chan ∈ tx.inputStates ∧
      tx.datagramHandlerCommands = [(.handlePacketAcknowledgement msg, [t.sender])] ∧
      Ics20Cash.Returned P t tx.outputs := by
  obtain ⟨port, hp, hm⟩ := hport
  obtain ⟨host, hhost, -⟩ := Result.bind_ok.1 hverified
  have hh : c.states.lookup hostId = some (.host host) := by
    obtain ⟨j, hl⟩ := hrefs _ (mem_of_getReference hhost)
    obtain rfl : hostId = j := (Prod.mk.inj (Option.some.inj (hi.keyed j _ hl))).2
    exact hl
  have hmodule : host.lookupModule port = .ok .ics20cash := by
    rw [module?, hh] at hm
    exact notNull_ok.2 hm
  obtain ⟨bank', v, ctx₂, hrefund, ho, hr⟩ := @Ics20Cash.exists_reminted P
    (.create [.channel chan, .cashBank bank] refs) _ _ ht hburned hnonneg bank rfl rfl message
  have hno : ∀ ch : IbcChannel, ContractState.channel ch ∉ ctx₂.outStates.states := by
    intro ch hmem
    rw [ho.outStates] at hmem
    simp [Context.create, OutStates.empty] at hmem
  obtain ⟨chan₀, chan', ctx₃, hchan₀, hacked, ho', hbase, hid⟩ :=
    Handler.exists_acknowledged hverified (ho.getInput IbcChannel) ho.refStates hno
  obtain rfl : chan = chan₀ := Except.ok.inj hchan₀
  have hexec : (DatagramHandler.handlePacketAcknowledgement msg).execute P
      (.create [.channel chan, .cashBank bank] refs) [t.sender] = .ok ctx₃ := by
    show Datagram.packetAcknowledgement P _ msg = _
    have hhost' : (Context.create [.channel chan, .cashBank bank] refs).getReference Host = .ok host :=
      hhost
    have hcallback : Module.ics20cash.onAcknowledgePacket P
        (.create [.channel chan, .cashBank bank] refs) msg.packet (.error message) = .ok ctx₂ := hrefund
    simp only [Datagram.packetAcknowledgement, hhost', Identifier.of_ok.2 hp, hmodule, hack, hcallback,
      hproof, hacked, Result.ok_bind]
  obtain ⟨c', hc⟩ := hi.commit_refund hchan hbank hrefs hexec (ho.trans ho') hbase hid hr.bankBase hr.base
  refine ⟨_, c', hc, ?_, rfl, .voucher hburned rfl hr.owner hr.token hr.quantity⟩
  rw [ackTransaction_inputStates]
  exact List.mem_cons_self

/-- The refund of a pending packet of `ics20cash.Module` is a transaction the chain takes exactly when
the port the packet went to is bound to the module here, and vouchers were burned for it. -/
theorem cash_refund_iff (hinj : P.toCrypto.UniqueNames)
    (hjson : ∀ data, P.toFungibleTokenPacketData (P.toJson data) = .ok data) {c₀ : Chain}
    {tr : List LedgerTransaction} (h₀ : c₀.Start) (hr : Run (Step P fun _ _ => True) c₀ tr c)
    {i : Identifier} {chan : IbcChannel} {n : Nat} {packet : Packet}
    (hchan : c.states.lookup i = some (.channel chan)) (hm : c.module? chan.portId = some .ics20cash)
    (hpacket : chan.packets.lookup n = some packet) :
    ∃ t, Ics20Cash.transferOf P packet = .ok t ∧ ∀ refs msg message proof ctx₁,
      (∀ s ∈ refs, ∃ j, c.states.lookup j = some s) → msg.packet = packet →
      P.toAcknowledgement msg.acknowledgement = .ok (.error message) →
      CommitmentProof.of msg.proofAcked = .ok proof →
      Handler.acknowledgePacket P (.create [.channel chan] refs) packet (.error message) proof
        msg.proofHeight = .ok ctx₁ →
      ((∃ tx c' signers, c.commit P tx = .ok c' ∧ ContractState.channel chan ∈ tx.inputStates ∧
          tx.datagramHandlerCommands = [(.handlePacketAcknowledgement msg, signers)] ∧
          Ics20Cash.Returned P t tx.outputs) ↔
        (∃ port : Identifier, port.id = packet.destinationPort ∧ c.module? port = some .ics20cash) ∧
          t.burned = true) := by
  have hs := CashSent.run hjson h₀ hr
  obtain ⟨t, ht, hnonneg⟩ := hs.reads i chan n packet hchan hm hpacket
  obtain ⟨bank, hbank⟩ := hs.bank i chan n packet hchan hm hpacket
  refine ⟨t, ht, fun refs msg message proof ctx₁ hrefs hmsg hack hproof hverified => ?_⟩
  subst hmsg
  constructor
  · rintro ⟨tx, c', signers, hc, -, hd, hreturned⟩
    exact burned_of_taken hinj ht hack hc hd hreturned
  · rintro ⟨hport, hburned⟩
    obtain ⟨tx, c', hc, hin, hd, hreturned⟩ :=
      hs.inv.exists_refund hchan hbank ht hnonneg hburned hrefs hack hproof hverified hport
    exact ⟨tx, c', [t.sender], hc, hin, hd, hreturned⟩

end

end

/-! ### Locked cash that is not paid back -/

namespace LockedCash
open Sample

/-- The first chain, with the transfer port bound to `ics20cash.Module`. -/
def cashHost : Host :=
  { Sample.host 1 with modules := (∅ : Finmap fun _ => Module).insert transferPort .ics20cash }

theorem start_cashHost : (ofHost cashHost).Start := by
  refine ⟨⟨[notary 1]⟩, base 1, notary 1,
    [(transferPort, "jp.datachain.corda.ibc.ics20cash.Module")], clientStateFactoryNames, cashHost, ?_,
    rfl⟩
  simp [Host.create, Host.instances, Module.createInstance, ClientStateFactory.createInstance,
    clientStateFactoryNames, Sample.host, cashHost, Bind.bind, Except.bind]

def issuer : AbstractParty := ⟨⟨[73]⟩⟩

/-- Five dollars of an owner. -/
def dollars (owner : UInt8) : Cash :=
  { amount := five ⟨issuer, [], ⟨"USD"⟩⟩, owner := ⟨⟨[owner]⟩⟩ }

/-- Five of a denomination that came over the channel. -/
def voucher (owner : UInt8) : Voucher :=
  { baseId := base 1, amount := five ⟨"transfer/channel-0", "atom"⟩, owner := ⟨⟨[owner]⟩⟩ }

/-- A packet that mints the voucher. -/
def minting : Packet :=
  { sequence := 1, sourcePort := "transfer", sourceChannel := "channel-0"
    destinationPort := "transfer", destinationChannel := "channel-0"
    data := toJson ⟨"atom", "5", "x", addressA⟩, timeoutHeight := .default, timeoutTimestamp := 0 }

/-- What the second chain shows: the packet, and a failed receipt. -/
def peerShows : SignedTransaction :=
  shows 2 [.channel { peerChannel.sent minting with
    acknowledgements := (∅ : Finmap fun _ : Nat => Acknowledgement).insert 1 (.error "") }]

def P : Platform :=
  platform [handshake, peerShows]
    [{ liveTransfer with token := ⟨"USD49", "5"⟩ },
      { liveTransfer with token := ⟨"transfer/channel-0/atom", "5"⟩ }]

def cashOpened : List Move := createCashBank (notary 66) :: opened.drop 1

def send (n : UInt8) (fungible : ContractState) : Move :=
  { onPacket (channel 0) (.createOutgoingPacket ⟨"", [n]⟩) with
    signers := [⟨[97]⟩], fungible := [fungible] }

/-- Cash is locked. -/
def locking : List Move := cashOpened ++ [send 0 (.cash (dollars 97))]

/-- A voucher is minted and burned. -/
def burning : List Move :=
  cashOpened ++ [onPacket (channel 0) (.handlePacketRecv
    { packet := minting, proofCommitment := [1], proofHeight := HEIGHT }), send 1 (.voucher (voucher 97))]

/-- The error acknowledgement of a packet. -/
def msg (packet : Packet) : MsgAcknowledgement :=
  { packet, acknowledgement := [2], proofAcked := [1], proofHeight := HEIGHT }

def proof : CommitmentProof := ⟨[1], nofun⟩

/-- Whether vouchers were burned for the packet of the channel, when the module answers for it and its
error acknowledgement is verified. -/
def outcome (c : Chain) : Option Bool :=
  match c.states.lookup (channel 0), c.states.lookup hostId, c.states.lookup (connection 0),
    c.states.lookup hostClient with
  | some (.channel chan), some h, some conn, some cl => do
    let packet ← chan.packets.lookup 1
    guard (c.module? chan.portId = some .ics20cash ∧ c.module? transferPort = some .ics20cash ∧
      packet.destinationPort = transferPort.id)
    guard ((Handler.acknowledgePacket P (.create [.channel chan] [h, conn, cl]) packet (.error "")
      proof HEIGHT).toBool = true)
    let t ← (Ics20Cash.transferOf P packet).toOption
    some t.burned
  | _, _, _, _ => none

theorem outcome_locking : (fun r => outcome r.2) <$> runMoves P (ofHost cashHost) locking =
    .ok (some false) := by
  decide +kernel

theorem outcome_burning : (fun r => outcome r.2) <$> runMoves P (ofHost cashHost) burning =
    .ok (some true) := by
  decide +kernel

/-- A chain in which an error acknowledgement of a pending packet of the module is verified. -/
structure Refundable (c : Chain) (chan : IbcChannel) (p : Packet) (t : Ics20Cash.Transfer)
    (refs : List ContractState) : Prop where
  current : c.states.lookup (channel 0) = some (.channel chan)
  sends : c.module? chan.portId = some .ics20cash
  pending : chan.packets.lookup 1 = some p
  answers : ∃ port : Identifier, port.id = p.destinationPort ∧ c.module? port = some .ics20cash
  reads : Ics20Cash.transferOf P p = .ok t
  references : ∀ s ∈ refs, ∃ j, c.states.lookup j = some s
  verified : ∃ ctx, Handler.acknowledgePacket P (.create [.channel chan] refs) p (.error "") proof
    HEIGHT = .ok ctx

theorem exists_of_outcome {c : Chain} {b : Bool} (h : outcome c = some b) :
    ∃ chan p t refs, Refundable c chan p t refs ∧ t.burned = b := by
  unfold outcome at h
  split at h
  · rename_i chan h₀ conn cl hchan hhost hconn hcl
    simp only [Option.bind_eq_bind, Option.bind_eq_some_iff, Option.guard_eq_some', Option.some.injEq] at h
    obtain ⟨p, hp, -, ⟨hm, hport, hdest⟩, -, hv, t, ht, hb⟩ := h
    refine ⟨chan, p, t, [h₀, conn, cl], ⟨hchan, hm, hp, ⟨transferPort, hdest.symm, hport⟩, ?_, ?_, ?_⟩, hb⟩
    · cases hr : Ics20Cash.transferOf P p with
      | ok t' => rw [hr] at ht; cases ht; rfl
      | error e => rw [hr] at ht; cases ht
    · intro s hs
      simp only [List.mem_cons, List.not_mem_nil, or_false] at hs
      rcases hs with rfl | rfl | rfl
      · exact ⟨_, hhost⟩
      · exact ⟨_, hconn⟩
      · exact ⟨_, hcl⟩
    · cases hr : Handler.acknowledgePacket P (.create [.channel chan] [h₀, conn, cl]) p (.error "")
          proof HEIGHT with
      | ok ctx => exact ⟨ctx, rfl⟩
      | error e => rw [hr] at hv; cases hv
  · cases h

/-- Cash is locked for a packet, an error acknowledgement of it is verified, and no transaction pays
it back. -/
theorem refund_refused : ∃ (P : Platform) (c₀ : Chain) (tr : List LedgerTransaction) (c : Chain)
    (chan : IbcChannel) (p : Packet) (t : Ics20Cash.Transfer) (refs : List ContractState)
    (m : MsgAcknowledgement) (proof : CommitmentProof),
    P.toCrypto.UniqueNames ∧ (∀ data, P.toFungibleTokenPacketData (P.toJson data) = .ok data) ∧
    c₀.Start ∧ Run (Step P fun _ _ => True) c₀ tr c ∧
    c.states.lookup (channel 0) = some (.channel chan) ∧ c.module? chan.portId = some .ics20cash ∧
    chan.packets.lookup 1 = some p ∧ Ics20Cash.transferOf P p = .ok t ∧
    (∃ port : Identifier, port.id = p.destinationPort ∧ c.module? port = some .ics20cash) ∧
    (∀ s ∈ refs, ∃ j, c.states.lookup j = some s) ∧ m.packet = p ∧
    P.toAcknowledgement m.acknowledgement = .ok (.error "") ∧
    CommitmentProof.of m.proofAcked = .ok proof ∧
    (∃ ctx, Handler.acknowledgePacket P (.create [.channel chan] refs) p (.error "") proof
      m.proofHeight = .ok ctx) ∧
    ¬ ∃ tx c' signers, c.commit P tx = .ok c' ∧ ContractState.channel chan ∈ tx.inputStates ∧
      tx.datagramHandlerCommands = [(.handlePacketAcknowledgement m, signers)] ∧
      Ics20Cash.Returned P t tx.outputs := by
  obtain ⟨⟨tr, c⟩, hrun, hout⟩ := Result.map_ok.1 outcome_locking
  obtain ⟨chan, p, t, refs, h, hb⟩ := exists_of_outcome hout
  have hr : Run (Step P fun _ _ => True) (ofHost cashHost) ([] ++ tr) c :=
    run_of_moves hrun (fun _ _ _ _ _ => trivial) .nil
  refine ⟨P, _, _, c, chan, p, t, refs, msg p, proof, uniqueNames, toFungibleTokenPacketData_toJson,
    start_cashHost, hr, h.current, h.sends, h.pending, h.reads, h.answers, h.references, rfl, rfl, rfl,
    h.verified, ?_⟩
  rintro ⟨tx, c', signers, hc, -, hd, hreturned⟩
  have hreads : Ics20Cash.transferOf P (msg p).packet = .ok t := h.reads
  have hack : P.toAcknowledgement (msg p).acknowledgement = .ok (.error "") := rfl
  have hburned : t.burned = true := (burned_of_taken uniqueNames hreads hack hc hd hreturned).2
  rw [hb] at hburned
  cases hburned

/-- Vouchers are burned for a packet, and come back. -/
theorem refund_taken : ∃ tr c tx c' t, Run (Step P fun _ _ => True) (ofHost cashHost) tr c ∧
    c.commit P tx = .ok c' ∧ Ics20Cash.Returned P t tx.outputs := by
  obtain ⟨⟨tr, c⟩, hrun, hout⟩ := Result.map_ok.1 outcome_burning
  obtain ⟨chan, p, t, refs, h, hb⟩ := exists_of_outcome hout
  have hr : Run (Step P fun _ _ => True) (ofHost cashHost) ([] ++ tr) c :=
    run_of_moves hrun (fun _ _ _ _ _ => trivial) .nil
  obtain ⟨t', ht', hiff⟩ := cash_refund_iff uniqueNames toFungibleTokenPacketData_toJson start_cashHost hr
    h.current h.sends h.pending
  obtain rfl := Except.ok.inj (h.reads.symm.trans ht')
  obtain ⟨ctx, hverified⟩ := h.verified
  obtain ⟨tx, c', -, hc, -, -, hreturned⟩ :=
    (hiff refs (msg p) "" proof ctx h.references rfl rfl rfl hverified).2 ⟨h.answers, hb⟩
  exact ⟨_, c, tx, c', t, hr, hc, hreturned⟩

end LockedCash

end Chain

end CordaIbc
