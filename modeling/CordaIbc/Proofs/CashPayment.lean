import CordaIbc.Proofs.Inversion
import CordaIbc.Sample.Life

/-!
# The cash of a payment

The handlers of `ics20cash` put a payment and its change into the set of output states as two cash
states. They are equal when the payment goes to the owner of the change and is half of the sum: then
one of them is lost, and only then (`Ics20Cash.conserves_iff`).
-/

namespace CordaIbc

open ChannelOuterClass (Packet Acknowledgement)
open Context StateClass

/-! ## The cash of a context -/

namespace Context

/-- The cash among the outputs. -/
def cashOut (ctx : Context) : List Cash := filterIsInstance Cash ctx.outStates.states

variable {ctx ctx' : Context} {c : Cash} {ss : List ContractState}

theorem Outputs.cashOut (h : Outputs ctx ss ctx') (hss : ∀ c : Cash, ContractState.cash c ∉ ss) :
    ctx'.cashOut = ctx.cashOut := by
  have hnil : filterIsInstance Cash ss = [] :=
    List.eq_nil_iff_forall_not_mem.2 fun c hc => hss c (mem_filterIsInstance.1 hc)
  unfold Context.cashOut filterIsInstance at *
  rw [h.outStates, List.filterMap_append, hnil, List.append_nil]

/-- Cash is added to a set: an equal state that is there already stays the only one. -/
theorem cashOut_addOutput (h : ctx.addOutput c = .ok ctx') :
    ctx'.cashOut = if c ∈ ctx.cashOut then ctx.cashOut else ctx.cashOut ++ [c] := by
  rw [addOutput_other rfl, Except.ok.injEq] at h
  subst h
  have hmem : c ∈ ctx.cashOut ↔ (up c : ContractState) ∈ ctx.outStates.states := mem_filterIsInstance
  by_cases hc : c ∈ ctx.cashOut
  · have hs : (up c : ContractState) ∈ ctx.outStates.states := hmem.1 hc
    rw [if_pos hc]
    show filterIsInstance Cash (ctx.outStates.add (up c)).states = _
    unfold OutStates.add
    rw [dif_pos hs]
    rfl
  · rw [if_neg hc]
    show filterIsInstance Cash (ctx.outStates.add (up c)).states = _
    rw [OutStates.add_of_notMem (fun hs => hc (hmem.2 hs)), filterIsInstance, List.filterMap_append]
    rfl

end Context

/-- The sum of the quantities. -/
def Cash.total (cashes : List Cash) : Nat := (cashes.map (·.amount.quantity)).sum

namespace Ics20Cash

/-! ## Payments -/

/-- The cash that comes out is the cash that went in: the amount for its new owner, and the rest for
the owner of the change. -/
structure Conserves (ctx ctx' : Context) (amount : TokenAmount Issued)
    (newOwner changeOwner : AbstractParty) : Prop where
  total : Cash.total ctx'.cashOut = Cash.total (ctx.getInputs Cash)
  token : ∀ c ∈ ctx'.cashOut ++ ctx.getInputs Cash, c.amount.token = amount.token
  paid : Cash.mk amount newOwner ∈ ctx'.cashOut
  change : ∀ c ∈ ctx'.cashOut.erase (Cash.mk amount newOwner), c.owner = changeOwner

/-- The payment is half of the sum, and its new owner owns the change. -/
def Halved (ctx : Context) (amount : TokenAmount Issued) (newOwner changeOwner : AbstractParty) :
    Prop :=
  newOwner = changeOwner ∧ 0 < amount.quantity ∧
    Cash.total (ctx.getInputs Cash) = 2 * amount.quantity

/-- What the branches that pay cash have in common: a payment out of the sum of the inputs, and no
other cash. -/
structure PaysFrom (ctx ctx' : Context) (amount : TokenAmount Issued)
    (newOwner changeOwner : AbstractParty) (cashSum : TokenAmount Issued) : Prop where
  pays : ∃ ctx₁ ctx₂, ctx₁.cashOut = ctx.cashOut ∧
    payCash ctx₁ cashSum amount newOwner changeOwner = .ok ctx₂ ∧ ctx'.cashOut = ctx₂.cashOut
  total : cashSum.quantity = Cash.total (ctx.getInputs Cash)
  token : ∀ c ∈ ctx.getInputs Cash, c.amount.token = cashSum.token
  amountToken : amount.token = cashSum.token
  le : amount.quantity ≤ cashSum.quantity

section
variable {P : Platform} {ctx ctx' : Context} {amount cashSum : TokenAmount Issued}
  {newOwner changeOwner : AbstractParty}

/-- The cash a payment adds, when none is there. -/
theorem payCash_cashOut (hno : ctx.cashOut = []) (hle : amount.quantity ≤ cashSum.quantity)
    (h : payCash ctx cashSum amount newOwner changeOwner = .ok ctx') :
    (amount.quantity = cashSum.quantity ∧ ctx'.cashOut = [⟨amount, newOwner⟩]) ∨
      ∃ change : TokenAmount Issued, change.token = cashSum.token ∧ 0 < change.quantity ∧
        amount.quantity + change.quantity = cashSum.quantity ∧
        ctx'.cashOut = if Cash.mk change changeOwner = ⟨amount, newOwner⟩ then [⟨amount, newOwner⟩]
          else [⟨amount, newOwner⟩, ⟨change, changeOwner⟩] := by
  simp only [payCash, Result.bind_ok, TokenAmount.gt, require_ok, Except.ok.injEq] at h
  obtain ⟨ctx₁, h₁, more, ⟨-, -, hmore⟩, h₂⟩ := h
  have hpaid : ctx₁.cashOut = [⟨amount, newOwner⟩] := by
    rw [cashOut_addOutput h₁, hno, if_neg List.not_mem_nil, List.nil_append]
  split at h₂
  · rename_i hm
    have hlt : amount.quantity < cashSum.quantity := by
      rw [← hmore] at hm
      simpa using hm
    obtain ⟨change, hchange, h₂⟩ := Result.bind_ok.1 h₂
    obtain ⟨-, htoken, hq⟩ := TokenAmount.minus_ok.1 hchange
    refine .inr ⟨change, htoken, by omega, by omega, ?_⟩
    rw [cashOut_addOutput h₂, hpaid]
    simp only [List.mem_singleton, List.singleton_append]
  · rename_i hm
    cases h₂
    have hge : ¬ amount.quantity < cashSum.quantity := by
      rw [← hmore] at hm
      simpa using hm
    exact .inl ⟨by omega, hpaid⟩

/-- A payment conserves cash exactly when payment and change are not one state. -/
theorem PaysFrom.iff_not_halved (h : PaysFrom ctx ctx' amount newOwner changeOwner cashSum)
    (hno : ctx.cashOut = []) :
    Conserves ctx ctx' amount newOwner changeOwner ↔ ¬ Halved ctx amount newOwner changeOwner := by
  obtain ⟨ctx₁, ctx₂, h₁, hpay, h₂⟩ := h.pays
  have htoken : ∀ c ∈ ctx.getInputs Cash, c.amount.token = amount.token := fun c hc =>
    (h.token c hc).trans h.amountToken.symm
  have htotal := h.total
  rcases payCash_cashOut (h₁.trans hno) h.le hpay with ⟨heq, hout⟩ | ⟨change, hct, hpos, hsum, hout⟩
  · rw [← h₂] at hout
    constructor
    · rintro - ⟨-, hpos, htwice⟩
      omega
    · intro _
      refine ⟨?_, ?_, by simp [hout], by simp [hout]⟩
      · rw [hout, ← htotal, ← heq]
        rfl
      · rw [hout]
        exact List.forall_mem_cons.2 ⟨rfl, htoken⟩
  · rw [← h₂] at hout
    constructor
    · rintro hc ⟨rfl, -, htwice⟩
      -- half of the sum is left, so that the change is the payment
      have hsame : Cash.mk change newOwner = ⟨amount, newOwner⟩ := by
        obtain ⟨q, t, hq⟩ := change
        obtain ⟨q', t', hq'⟩ := amount
        obtain rfl : q = q' := by
          simp only at hsum htwice
          omega
        obtain rfl : t = t' := hct.trans h.amountToken.symm
        rfl
      rw [if_pos hsame] at hout
      have ht := hc.total
      rw [hout] at ht
      simp only [Cash.total, List.map_cons, List.map_nil, List.sum_cons, List.sum_nil] at ht htotal
      omega
    · intro hhalved
      have hne : Cash.mk change changeOwner ≠ ⟨amount, newOwner⟩ := by
        intro heq
        obtain ⟨rfl, rfl⟩ := Cash.mk.inj heq
        exact hhalved ⟨rfl, hpos, by omega⟩
      rw [if_neg hne] at hout
      refine ⟨?_, ?_, by simp [hout], ?_⟩
      · rw [hout, ← htotal, ← hsum]
        simp [Cash.total]
      · rw [hout]
        exact List.forall_mem_cons.2 ⟨rfl, List.forall_mem_cons.2
          ⟨hct.trans h.amountToken.symm, htoken⟩⟩
      · rw [hout, List.erase_cons_head]
        exact List.forall_mem_singleton.2 rfl

end

/-! ## The branches -/

/-- A branch that pays cash is taken, and succeeds: what it pays, whom it pays, and who gets the
change. -/
inductive Pays (P : Platform) (ctx ctx' : Context) (amount : TokenAmount Issued) :
    AbstractParty → AbstractParty → Prop
  /-- Cash of the sender is locked: it goes to the owner of the bank. -/
  | lock {signers : List PublicKey} {anyMsg : Any} {msg : MsgTransfer} {quantity : Int}
    {port channel : Identifier} {bank : CashBank} {denom : Denom} {cash : Cash}
    (hok : createOutgoingPacket P ctx signers anyMsg = .ok ctx')
    (hmsg : P.unpackMsgTransfer anyMsg = .ok msg)
    (hquantity : toLong msg.token.amount = .ok quantity) (hport : port.id = msg.sourcePort)
    (hchannel : channel.id = msg.sourceChannel) (hbank : ctx.getInput CashBank = .ok bank)
    (hdenom : resolveToken bank msg.token.denom = .ok denom)
    (hsource : denom.hasPrefix port channel = false) (hcash : cash ∈ ctx.getInputs Cash)
    (hamount : TokenAmount.fromDecimal (.ofLong quantity)
      (P.defaultFractionDigits cash.amount.token.product) cash.amount.token = .ok amount) :
    Pays P ctx ctx' amount bank.owner cash.owner
  /-- Cash of the bank's owner is unlocked for the receiver. -/
  | unlock {packet : Packet} {ack : Acknowledgement} {data : FungibleTokenPacketData}
    {decimal : BigDecimal} {port channel : Identifier} {bank : CashBank} {receiver : Address}
    {key : PublicKey} {cash : Cash} (hok : onRecvPacket P ctx packet = .ok (ctx', ack))
    (hdata : P.toFungibleTokenPacketData packet.data = .ok data)
    (hdecimal : BigDecimal.ofString data.amount = .ok decimal) (hport : port.id = packet.sourcePort)
    (hchannel : channel.id = packet.sourceChannel) (hbank : ctx.getInput CashBank = .ok bank)
    (hsource : (Denom.fromString data.denom).hasPrefix port channel = true)
    (hreceiver : Address.fromBech32 P.toCrypto data.receiver = .ok receiver)
    (hkey : receiver.toPublicKey P.toCrypto = .ok key) (hcash : cash ∈ ctx.getInputs Cash)
    (hamount : TokenAmount.fromDecimal decimal
      (P.defaultFractionDigits cash.amount.token.product) cash.amount.token = .ok amount) :
    Pays P ctx ctx' amount ⟨key⟩ bank.owner
  /-- Cash of the bank's owner is refunded to the sender. -/
  | refund {packet : Packet} {data : FungibleTokenPacketData} {decimal : BigDecimal}
    {port channel : Identifier} {bank : CashBank} {sender : Address} {key : PublicKey} {cash : Cash}
    (hok : refundTokens P ctx packet = .ok ctx')
    (hdata : P.toFungibleTokenPacketData packet.data = .ok data)
    (hdecimal : BigDecimal.ofString data.amount = .ok decimal) (hport : port.id = packet.sourcePort)
    (hchannel : channel.id = packet.sourceChannel) (hbank : ctx.getInput CashBank = .ok bank)
    (hsource : (Denom.fromString data.denom).hasPrefix port channel = false)
    (hsender : Address.fromBech32 P.toCrypto data.sender = .ok sender)
    (hkey : sender.toPublicKey P.toCrypto = .ok key) (hcash : cash ∈ ctx.getInputs Cash)
    (hamount : TokenAmount.fromDecimal decimal
      (P.defaultFractionDigits cash.amount.token.product) cash.amount.token = .ok amount) :
    Pays P ctx ctx' amount ⟨key⟩ bank.owner

section
variable {P : Platform} {ctx ctx' : Context} {amount cashSum : TokenAmount Issued}
  {newOwner changeOwner : AbstractParty}

theorem checkCash_ok {denom : Denom} {u : Unit} (h : checkCash P cashSum amount denom = .ok u) :
    amount.token = cashSum.token ∧ amount.quantity ≤ cashSum.quantity := by
  simp only [checkCash, Result.bind_ok, require_ok, TokenAmount.geq, Except.ok.injEq] at h
  obtain ⟨_, -, -, -, _, -, -, -, ge, ⟨-, htoken, hge⟩, hle⟩ := h
  exact ⟨htoken, by simpa [hle] using hge⟩

theorem total_of_sum {cashes : List Cash}
    (h : TokenAmount.sumOrThrow (cashes.map (·.amount)) = .ok cashSum) :
    cashSum.quantity = Cash.total cashes ∧ ∀ c ∈ cashes, c.amount.token = cashSum.token := by
  obtain ⟨-, htokens, hq⟩ := TokenAmount.sumOrThrow_ok h
  refine ⟨?_, fun c hc => htokens _ (List.mem_map_of_mem hc)⟩
  rw [hq, List.map_map]
  rfl

/-- The amount the locking branch pays is read at the token of any of the inputs. -/
theorem lockCash_pays {bank : CashBank} {sender : Address} {denom : Denom} {quantity : Int}
    {cash : Cash} (hcash : cash ∈ ctx.getInputs Cash)
    (hamount : TokenAmount.fromDecimal (.ofLong quantity)
      (P.defaultFractionDigits cash.amount.token.product) cash.amount.token = .ok amount)
    (h : lockCash P ctx bank sender denom quantity = .ok ctx') :
    ∃ cashSum, PaysFrom ctx ctx' amount bank.owner cash.owner cashSum := by
  simp only [lockCash, Result.bind_ok, require_ok] at h
  obtain ⟨-, -, owner, howner, key, -, -, -, cashSum, hsum, amount', hamount', _, hcheck, ctx₁, h₁,
    h₂⟩ := h
  obtain ⟨htotal, htoken⟩ := total_of_sum hsum
  rw [htoken cash hcash] at hamount
  obtain rfl : amount' = amount := Except.ok.inj (hamount'.symm.trans hamount)
  obtain rfl : cash.owner = owner := singleOwner_ok howner _ (List.mem_map_of_mem hcash)
  obtain ⟨hat, hle⟩ := checkCash_ok hcheck
  have hbank : ctx₁.cashOut = ctx.cashOut := (addOutput_ibc rfl h₁).2.cashOut (by simp [up])
  exact ⟨cashSum, ⟨ctx₁, ctx', hbank, h₂, rfl⟩, htotal, htoken, hat, hle⟩

theorem bankCash_ok {bank : CashBank} {denom : Denom} {quantity : String} {decimal : BigDecimal}
    {cash : Cash} {paid : TokenAmount Issued} (hcash : cash ∈ ctx.getInputs Cash)
    (hdecimal : BigDecimal.ofString quantity = .ok decimal)
    (hamount : TokenAmount.fromDecimal decimal
      (P.defaultFractionDigits cash.amount.token.product) cash.amount.token = .ok amount)
    (h : bankCash P ctx bank denom quantity = .ok (cashSum, paid)) :
    paid = amount ∧ cashSum.quantity = Cash.total (ctx.getInputs Cash) ∧
      (∀ c ∈ ctx.getInputs Cash, c.amount.token = cashSum.token) ∧ amount.token = cashSum.token ∧
      amount.quantity ≤ cashSum.quantity := by
  simp only [bankCash, Result.bind_ok, require_ok, Except.ok.injEq, Prod.mk.injEq, hdecimal] at h
  obtain ⟨owner, -, -, -, cashSum', hsum, _, rfl, amount', hamount', -, -, _, hcheck, rfl, rfl⟩ := h
  obtain ⟨htotal, htoken⟩ := total_of_sum hsum
  rw [htoken cash hcash] at hamount
  obtain rfl : amount' = amount := Except.ok.inj (hamount'.symm.trans hamount)
  obtain ⟨hat, hle⟩ := checkCash_ok hcheck
  exact ⟨rfl, htotal, htoken, hat, hle⟩

/-- Every branch pays out of the sum of its inputs. -/
theorem Pays.paysFrom (h : Pays P ctx ctx' amount newOwner changeOwner) :
    ∃ cashSum, PaysFrom ctx ctx' amount newOwner changeOwner cashSum := by
  cases h with
  | @lock signers anyMsg msg quantity port channel bank denom cash hok hmsg hquantity hport hchannel
      hbank hdenom hsource hcash hamount =>
    unfold createOutgoingPacket at hok
    rw [hmsg, Result.ok_bind, hquantity, Result.ok_bind] at hok
    obtain ⟨sender, -, hok⟩ := Result.bind_ok.1 hok
    rw [Identifier.of_ok.2 hport, Result.ok_bind, Identifier.of_ok.2 hchannel, Result.ok_bind, hbank,
      Result.ok_bind, hdenom, Result.ok_bind, hsource] at hok
    obtain ⟨ctx₁, hdebit, hok⟩ := Result.bind_ok.1 hok
    obtain ⟨chan, -, hok⟩ := Result.bind_ok.1 hok
    obtain ⟨ctx₂, hsend, hok⟩ := Result.bind_ok.1 hok
    obtain ⟨_, -, hok⟩ := Result.bind_ok.1 hok
    obtain ⟨_, -, hok⟩ := Result.bind_ok.1 hok
    obtain rfl := Except.ok.inj hok
    obtain ⟨_, -, ho⟩ := Handler.sendPacket_ok hsend
    obtain ⟨cashSum, hfrom⟩ := lockCash_pays hcash hamount hdebit
    obtain ⟨ctx₃, ctx₄, h₁, hpay, h₂⟩ := hfrom.pays
    have hsent : ctx₂.cashOut = ctx₁.cashOut := ho.cashOut (by simp)
    exact ⟨cashSum, { hfrom with pays := ⟨ctx₃, ctx₄, h₁, hpay, hsent.trans h₂⟩ }⟩
  | @unlock packet ack data decimal port channel bank receiver key cash hok hdata hdecimal hport
      hchannel hbank hsource hreceiver hkey hcash hamount =>
    unfold onRecvPacket at hok
    rw [hdata, Result.ok_bind, hreceiver, Result.ok_bind, hbank, Result.ok_bind,
      Identifier.of_ok.2 hport, Result.ok_bind, Identifier.of_ok.2 hchannel, Result.ok_bind, hsource,
      if_pos rfl] at hok
    obtain ⟨d, -, hok⟩ := Result.bind_ok.1 hok
    obtain ⟨⟨cashSum, paid⟩, hcashSum, hok⟩ := Result.bind_ok.1 hok
    obtain ⟨ctx₁, h₁, hok⟩ := Result.bind_ok.1 hok
    rw [hkey, Result.ok_bind] at hok
    obtain ⟨ctx₂, h₂, hok⟩ := Result.bind_ok.1 hok
    obtain ⟨rfl, -⟩ := Prod.mk.inj (Except.ok.inj hok)
    obtain ⟨rfl, htotal, htoken, hat, hle⟩ := bankCash_ok hcash hdecimal hamount hcashSum
    have hbank : ctx₁.cashOut = ctx.cashOut := (addOutput_ibc rfl h₁).2.cashOut (by simp [up])
    exact ⟨cashSum, ⟨ctx₁, ctx₂, hbank, h₂, rfl⟩, htotal, htoken, hat, hle⟩
  | @refund packet data decimal port channel bank sender key cash hok hdata hdecimal hport hchannel
      hbank hsource hsender hkey hcash hamount =>
    unfold refundTokens at hok
    rw [hdata, Result.ok_bind, hsender, Result.ok_bind, hbank, Result.ok_bind,
      Identifier.of_ok.2 hport, Result.ok_bind, Identifier.of_ok.2 hchannel, Result.ok_bind,
      hsource] at hok
    simp only [Bool.not_false, if_true] at hok
    obtain ⟨⟨cashSum, paid⟩, hcashSum, hok⟩ := Result.bind_ok.1 hok
    rw [hkey, Result.ok_bind] at hok
    obtain ⟨rfl, htotal, htoken, hat, hle⟩ := bankCash_ok hcash hdecimal hamount hcashSum
    exact ⟨cashSum, ⟨ctx, ctx', rfl, hok, rfl⟩, htotal, htoken, hat, hle⟩

/-- The handlers of `ics20cash` conserve cash exactly when they do not pay half of it to the owner of
the change. -/
theorem conserves_iff (h : Pays P ctx ctx' amount newOwner changeOwner) (hno : ctx.cashOut = []) :
    Conserves ctx ctx' amount newOwner changeOwner ↔ ¬ Halved ctx amount newOwner changeOwner := by
  obtain ⟨cashSum, hfrom⟩ := h.paysFrom
  exact hfrom.iff_not_halved hno

end

/-! ### Half of the cash of the bank's owner -/

namespace HalfOfCash
open Sample

/-- Ten dollars of an owner. -/
def tenDollars (owner : UInt8) : Cash :=
  { amount := ⟨10, ⟨⟨⟨[73]⟩⟩, [], ⟨"USD"⟩⟩, by decide⟩, owner := ⟨⟨[owner]⟩⟩ }

/-- Half of it. -/
def fiveDollars : TokenAmount Issued := five ⟨⟨⟨[73]⟩⟩, [], ⟨"USD"⟩⟩

/-- The bank's owner is a, who has ten dollars. -/
def unlocking : Context :=
  .create [.cashBank (CashBank.create (host 1) (notary 97)), .cash (tenDollars 97)] []

/-- Five dollars come back to a receiver. -/
def returning (receiver : String) : Packet :=
  { sequence := 1, sourcePort := "transfer", sourceChannel := "channel-0"
    destinationPort := "transfer", destinationChannel := "channel-0"
    data := toJson ⟨"transfer/channel-0/USD49", "5", "x", receiver⟩, timeoutHeight := .default
    timeoutTimestamp := 0 }

theorem pays_of_ok {receiver : String} {address : Address} {key : PublicKey} {n : Nat}
    (hreceiver : Address.fromBech32 crypto receiver = .ok address)
    (hkey : address.toPublicKey crypto = .ok key)
    (h : (fun r => Cash.total r.1.cashOut) <$> onRecvPacket (platform [] []) unlocking
      (returning receiver) = .ok n) :
    ∃ ctx', Pays (platform [] []) unlocking ctx' fiveDollars ⟨key⟩ (notary 97) ∧
      Cash.total ctx'.cashOut = n := by
  obtain ⟨⟨ctx', ack⟩, hok, hn⟩ := Result.map_ok.1 h
  have hdata : (platform [] []).toFungibleTokenPacketData (returning receiver).data =
      .ok ⟨"transfer/channel-0/USD49", "5", "x", receiver⟩ := toFungibleTokenPacketData_toJson _
  have hdecimal : BigDecimal.ofString "5" = .ok ⟨5, 0⟩ := by decide +kernel
  have hsource : (Denom.fromString "transfer/channel-0/USD49").hasPrefix transferPort (channel 0) =
      true := by decide +kernel
  have hcash : tenDollars 97 ∈ unlocking.getInputs Cash := List.mem_singleton_self _
  exact ⟨ctx', .unlock hok hdata hdecimal rfl rfl rfl hsource hreceiver hkey hcash
    (by decide +kernel), hn⟩

/-- Paid to a, they are one state with the change: five dollars are lost. -/
theorem cash_lost : ∃ (P : Platform) (ctx ctx' : Context) (amount : TokenAmount Issued)
    (newOwner changeOwner : AbstractParty), Pays P ctx ctx' amount newOwner changeOwner ∧
      ctx.outStates = .empty ∧ Cash.total (ctx.getInputs Cash) = 10 ∧ Cash.total ctx'.cashOut = 5 := by
  have hreceiver : Address.fromBech32 crypto addressA = .ok (account 97) := by decide +kernel
  obtain ⟨ctx', hpays, hlost⟩ := pays_of_ok (n := 5) hreceiver rfl (by decide +kernel)
  exact ⟨_, unlocking, ctx', fiveDollars, _, _, hpays, rfl, rfl, hlost⟩

/-- Paid to b, they are not. -/
theorem cash_conserved : ∃ ctx' newOwner, Conserves unlocking ctx' fiveDollars newOwner (notary 97) := by
  have hreceiver : Address.fromBech32 crypto addressB = .ok (account 98) := by decide +kernel
  obtain ⟨ctx', hpays, -⟩ := pays_of_ok (n := 10) hreceiver rfl (by decide +kernel)
  exact ⟨ctx', _, (conserves_iff hpays rfl).2 fun h => absurd h.1 (by decide)⟩

end HalfOfCash

end Ics20Cash

end CordaIbc
