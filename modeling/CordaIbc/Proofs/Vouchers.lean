import CordaIbc.Proofs.EndStep
import CordaIbc.Proofs.Refund

/-!
# The vouchers a bank knows

A voucher is minted under its trace and recorded under the hash of it, so that a transfer can name
it by the hash. Every voucher that came through a transfer port is known like this in every state
that the host reaches (`Chain.Vouchers.run`), as long as the hash has no collision; only a refund
mints without a record, and it mints what a send burned.
-/

namespace CordaIbc

open ChannelOuterClass (Packet Acknowledgement)
open ContractState

namespace Bank

/-- The bank finds the denomination under its hash. -/
def Knows (C : Crypto) (bank : Bank) (d : Denom) : Prop :=
  bank.denoms.lookup (d.toIbcDenom C) = some d

/-- A bank after an operation, with the denominations that it minted and did not record. -/
structure Extends (C : Crypto) (bank bank' : Bank) (unrecorded : Denom → Prop) : Prop where
  plain : bank.PlainDenoms → bank'.PlainDenoms
  knows : Function.Injective C.sha256 → bank.PlainDenoms → ∀ d, bank.Knows C d → bank'.Knows C d
  minted : ∀ d o, bank'.minted.entry d o ≠ none →
    bank.minted.entry d o ≠ none ∨ bank'.Knows C d ∨ unrecorded d

section
variable {P : Platform} {C : Crypto} {bank bank' : Bank} {source : Bool} {owner : Address}
  {denom : Denom} {amount : Int} {packet : Packet} {unrecorded : Denom → Prop}

theorem Extends.of_minted (hm : bank'.minted = bank.minted) (hd : bank'.denoms = bank.denoms) :
    bank.Extends C bank' unrecorded :=
  ⟨fun h s d hs => h s d (hd ▸ hs), fun _ _ d h => by unfold Knows; rw [hd]; exact h,
    fun d o h => .inl (hm ▸ h)⟩

theorem extends_unlock (h : bank.unlock owner denom amount = .ok bank') :
    bank.Extends C bank' unrecorded := by
  obtain ⟨locked, -, rfl⟩ := unlock_ok.1 h
  exact .of_minted rfl rfl

/-- A burn needs an entry. -/
theorem entry_of_burn (h : bank.burn owner denom amount = .ok bank') :
    bank.minted.entry denom owner ≠ none := by
  obtain ⟨minted, hdown, -⟩ := burn_ok.1 h
  obtain ⟨b, he, -⟩ := BalanceMap.down_ok.1 hdown
  rw [he]
  exact nofun

theorem extends_debit (h : Ics20.debit bank source owner denom amount = .ok bank') :
    bank.Extends C bank' unrecorded := by
  cases source with
  | true =>
    obtain ⟨allocated, -, rfl⟩ := lock_ok.1 h
    exact .of_minted rfl rfl
  | false =>
    have hentry := entry_of_burn h
    obtain ⟨minted, hdown, rfl⟩ := burn_ok.1 h
    obtain ⟨b, -, -, rfl⟩ := BalanceMap.down_ok.1 hdown
    refine ⟨fun hb => hb, fun _ _ _ h => h, fun d o h => .inl ?_⟩
    rw [BalanceMap.entry_put] at h
    split at h
    · rename_i hd
      rw [hd.1, hd.2]
      exact hentry
    · exact h

theorem extends_credit (hdenom : denom.Plain)
    (h : Ics20.credit P bank source packet owner denom amount = .ok bank') :
    bank.Extends P.toCrypto bank' unrecorded := by
  cases source with
  | true =>
    obtain ⟨_, -, h⟩ := Result.bind_ok.1 h
    exact extends_unlock h
  | false =>
    simp only [Ics20.credit, Bool.false_eq_true, if_false, Result.bind_ok, Except.ok.injEq] at h
    obtain ⟨port, -, channel, -, rfl⟩ := h
    have hplain : (denom.addPath port channel).Plain := hdenom.addPath
    generalize denom.addPath port channel = d' at hplain ⊢
    have hself : ((bank.recordDenom P.toCrypto d').mint owner d' amount).Knows P.toCrypto d' :=
      Finmap.lookup_insert _
    refine ⟨fun hb => hb.recordDenom hplain, fun hinj hb d hd => ?_, fun d o hm => ?_⟩
    · by_cases hdd : d.toIbcDenom P.toCrypto = d'.toIbcDenom P.toCrypto
      · rw [Denom.eq_of_toIbcDenom_eq hinj (hb _ _ hd) hplain hdd]
        exact hself
      · exact (Finmap.lookup_insert_of_ne _ hdd).trans hd
    · have hm : (bank.minted.up d' owner amount).entry d o ≠ none := hm
      rw [BalanceMap.entry_up] at hm
      split at hm
      · rename_i hd
        rw [hd.1]
        exact .inr (.inl hself)
      · exact .inl hm

theorem extends_refund (h : Ics20.refund bank source owner denom amount = .ok bank') :
    bank.Extends C bank' fun d => source = false ∧ d = denom := by
  cases source with
  | true => exact extends_unlock h
  | false =>
    cases h
    refine ⟨fun hb => hb, fun _ _ _ h => h, fun d o hm => ?_⟩
    have hm : (bank.minted.up denom owner amount).entry d o ≠ none := hm
    rw [BalanceMap.entry_up] at hm
    split at hm
    · rename_i hd
      exact .inr (.inr ⟨rfl, hd.1⟩)
    · exact .inl hm

end

end Bank

namespace Chain

/-- The denomination came through a transfer port of the host. -/
def Carried (c : Chain) (d : Denom) : Prop :=
  ∃ port channel, c.module? port = some .ics20 ∧ d.hasPrefix port channel = true

/-- A packet of a channel burned the denomination. -/
def Burned (P : Platform) (c : Chain) (d : Denom) : Prop :=
  ∃ i chan n packet t, c.states.lookup i = some (.channel chan) ∧
    chan.packets.lookup n = some packet ∧ chan.portId.id = packet.sourcePort ∧
    Ics20.transferOf P packet = .ok t ∧ t.source = false ∧ t.denom = d

/-- What a transaction leaves of the bank. -/
inductive BankStep (P : Platform) (c : Chain) (bank' : Bank) : Prop
  | leaves (hcur : c.states.lookup bankId = some (.bank bank'))
  | creates {host : Host} (hnone : ∀ bank, c.states.lookup bankId ≠ some (.bank bank))
    (hbank : bank' = .create host)
  | changes {bank : Bank} (hcur : c.states.lookup bankId = some (.bank bank))
    (hextends : bank.Extends P.toCrypto bank' (c.Burned P))

/-- The bank of a chain only knows denominations whose base has no slash. -/
def PlainDenoms (c : Chain) : Prop :=
  ∀ bank, c.states.lookup bankId = some (.bank bank) → bank.PlainDenoms

/-- The vouchers of a chain are known. -/
structure Vouchers (P : Platform) (c : Chain) : Prop where
  minted : ∀ bank, c.states.lookup bankId = some (.bank bank) → ∀ d o,
    bank.minted.entry d o ≠ none → c.Carried d → bank.Knows P.toCrypto d
  packets : ∀ i chan n packet t, c.states.lookup i = some (.channel chan) →
    c.module? chan.portId = some .ics20 → chan.packets.lookup n = some packet →
    Ics20.transferOf P packet = .ok t → t.source = false →
    ∃ bank, c.states.lookup bankId = some (.bank bank) ∧ bank.Knows P.toCrypto t.denom

section
variable {P : Platform} {c : Chain} {tx : LedgerTransaction} {outs : List ContractState}
  {tr : List LedgerTransaction} {bank bank' : Bank} {d : Denom}

/-- The bank after a datagram. -/
theorem bankStep_of_executes {handler : DatagramHandler}
    {signers : List PublicKey} (hr : Runs P c tx handler signers outs)
    (hm : ContractState.bank bank' ∈ outs) : BankStep P c bank' := by
  have hcur : ∀ {b : Bank}, (Context.create tx.inputStates tx.referenceStates).getInput Bank = .ok b →
      c.states.lookup bankId = some (.bank b) := fun hb =>
    hr.inputs _ (Context.mem_of_getInput hb) bankId rfl
  have hexec := hr.executes
  cases hexec with
  | createClient | updateClient | connOpenInit | connOpenTry | connOpenAck | connOpenConfirm
  | chanOpenInit | chanOpenTry | chanOpenTryPrevious | chanOpenAck | chanOpenConfirm | chanCloseInit
  | chanCloseConfirm => simp at hm
  | sendPacket _ _ heffect =>
    have hno := heffect.not_bank
    cases heffect with
    | nop => simp at hm
    | ics20 _ _ _ _ _ hbank _ hdebit =>
      obtain rfl : bank' = _ := by simpa using hm
      exact .changes (hcur hbank) (Bank.extends_debit hdebit)
    | ics20cash => exact absurd (by simpa using hm) (hno nofun bank')
  | recvPacket _ _ _ heffect =>
    have hno := heffect.not_bank
    cases heffect with
    | nop => simp at hm
    | ics20 _ _ _ _ _ hbank hcredit =>
      obtain rfl : bank' = _ := by simpa using hm
      rcases hcredit with ⟨hcredit, -⟩ | ⟨_, -, rfl, -⟩
      · exact .changes (hcur hbank)
          (Bank.extends_credit (Denom.plain_fromString _) hcredit)
      · exact .leaves (hcur hbank)
    | ics20cash => exact absurd (by simpa using hm) (hno nofun bank')
  | @acknowledgePacket msg _ _ chan _ _ _ _ _ _ _ _ heffect hacks =>
    have hno := heffect.not_bank
    cases heffect with
    | nop => simp at hm
    | ics20Result hbank =>
      obtain rfl : bank' = _ := by simpa using hm
      exact .leaves (hcur hbank)
    | ics20Error hdata hamount hsender hport hchannel hbank hrefund =>
      obtain rfl : bank' = _ := by simpa using hm
      have htransfer := Ics20.transferOf_of hdata hamount hsender hport hchannel
      generalize (!(Denom.fromString _).hasPrefix _ _) = source at hrefund htransfer
      generalize Denom.fromString _ = denom at hrefund htransfer
      have hextends := Bank.extends_refund (C := P.toCrypto) hrefund
      refine .changes (hcur hbank) ⟨hextends.plain, hextends.knows, fun d o h => ?_⟩
      have hchan : c.states.lookup chan.id = some (.channel chan) :=
        hr.inputs _ (Context.mem_of_getInput hacks.input) _ rfl
      refine (hextends.minted d o h).imp_right (Or.imp_right fun ⟨hsource, hd⟩ => ?_)
      exact ⟨chan.id, chan, msg.packet.sequence, msg.packet, _, hchan, hacks.packet, hacks.port,
        htransfer, hsource, hd.symm⟩
    | ics20cash => exact absurd (by simpa using hm) (hno nofun bank')

theorem Inv.bankStep (hi : c.Inv) (ht : Takes P c tx outs)
    (hl : (c.apply tx).states.lookup bankId = some (.bank bank')) : BankStep P c bank' := by
  rcases ht.lookup_cases hl with ⟨hm, -⟩ | ⟨-, hcur⟩
  · have heffect := ht.effect
    cases heffect with
    | @addBank host host' b hhost hadd hbank =>
      rcases hbank with rfl | ⟨_, rfl⟩
      · obtain rfl : bank' = .create host := by simpa using hm
        exact .creates (hi.bank_free hhost hadd) rfl
      · simp at hm
    | fund hbank =>
      obtain rfl : bank' = _ := by simpa using hm
      exact .changes hbank (.of_minted rfl rfl)
    | datagram hcmd hin href hexec => exact bankStep_of_executes ⟨hcmd, hin, href, hexec⟩ hm
  · exact .leaves hcur

theorem PlainDenoms.apply (h : c.PlainDenoms) (hi : c.Inv) (ht : Takes P c tx outs) :
    (c.apply tx).PlainDenoms := by
  intro bank' hl
  cases hi.bankStep ht hl with
  | leaves hcur => exact h bank' hcur
  | creates _ hbank =>
    subst hbank
    intro s d hs
    rw [Bank.create, Finmap.lookup_empty] at hs
    cases hs
  | changes hcur hextends => exact hextends.plain (h _ hcur)

theorem PlainDenoms.run {ok : Chain → LedgerTransaction → Prop} {c₀ : Chain} (h₀ : c₀.Start)
    (hr : Run (Step P ok) c₀ tr c) : c.PlainDenoms := by
  refine hr.invariant (I := fun _ c => c.PlainDenoms) ?_ ?_
  · obtain ⟨_, _, _, _, _, host, -, rfl⟩ := h₀
    intro bank hl
    cases (lookup_ofHost hl).2
  · rintro tr c tx c' hr h ⟨-, hc⟩
    obtain ⟨rfl, outs, ht⟩ := commit_ok hc
    exact h.apply (Inv.run h₀.inv hr) ht

theorem Start.vouchers (h : c.Start) : c.Vouchers P := by
  obtain ⟨_, _, _, _, _, host, -, rfl⟩ := h
  refine ⟨fun bank hl => ?_, fun i chan n packet t hl => ?_⟩ <;> cases (lookup_ofHost hl).2

/-- What a send burns is known. -/
theorem Vouchers.sent (h : c.Vouchers P) (hplain : c.PlainDenoms)
    (hjson : ∀ data, P.toFungibleTokenPacketData (P.toJson data) = .ok data) {ctx : Context}
    (hin : ∀ s ∈ ctx.inStates, ∀ i, s.id? = some i → c.states.lookup i = some s)
    {signers : List PublicKey} {anyMsg : Any} {chan : IbcChannel} {packet : Packet}
    (heffect : SendEffect P ctx signers anyMsg chan packet .ics20 outs)
    (hport : chan.portId.id = packet.sourcePort) (hmodule : c.module? chan.portId = some .ics20)
    {t : Ics20.Transfer} (ht : Ics20.transferOf P packet = .ok t) (hsource : t.source = false) :
    ∃ bank, c.states.lookup bankId = some (.bank bank) ∧ bank.Knows P.toCrypto t.denom := by
  cases heffect with
  | @ics20 msg amount sender port channel bank bank' denom _ hamount hsender hsrcPort hsrcChannel
      hbank hdenom hdebit =>
    have hcur := hin _ (Context.mem_of_getInput hbank) bankId rfl
    have hread : Ics20.transferOf P (Ics20.transferPacket P msg denom chan) =
        .ok ⟨!denom.hasPrefix port channel, sender, denom, amount⟩ :=
      Ics20.transferOf_transferPacket hjson hamount hsender hsrcPort hsrcChannel
        (Ics20.plain_of_resolveToken (hplain bank hcur) hdenom)
    rw [hread] at ht
    cases ht
    have hcarries : denom.hasPrefix port channel = true := by simpa using hsource
    have hportId : chan.portId = port := Identifier.ext (hport.trans hsrcPort.symm)
    refine ⟨bank, hcur, h.minted bank hcur denom sender ?_
      ⟨port, channel, hportId ▸ hmodule, hcarries⟩⟩
    rw [hcarries] at hdebit
    exact Bank.entry_of_burn hdebit

theorem Vouchers.apply (h : c.Vouchers P) (hplain : c.PlainDenoms) (hinj : Function.Injective P.sha256)
    (hjson : ∀ data, P.toFungibleTokenPacketData (P.toJson data) = .ok data) (hi : c.Inv)
    (ht : Takes P c tx outs) : (c.apply tx).Vouchers P := by
  have hmodule : (c.apply tx).module? = c.module? := funext (hi.module_next ht)
  -- what is known stays known
  have hknown : ∀ bank, c.states.lookup bankId = some (.bank bank) → ∀ d, bank.Knows P.toCrypto d →
      ∃ bank', (c.apply tx).states.lookup bankId = some (.bank bank') ∧ bank'.Knows P.toCrypto d := by
    intro bank hcur d hd
    obtain ⟨t, hl, hu⟩ := hi.lookup_next ht hcur
    cases t <;> first | exact hu.elim | skip
    refine ⟨_, hl, ?_⟩
    cases hi.bankStep ht hl with
    | leaves hcur' => rw [hcur'] at hcur; cases hcur; exact hd
    | creates hnone => exact absurd hcur (hnone bank)
    | changes hcur' hextends =>
      rw [hcur] at hcur'
      cases hcur'
      exact hextends.knows hinj (hplain bank hcur) d hd
  refine ⟨fun bank' hl d o he hcarried => ?_,
    fun i chan n packet t hl hm hp hread hsource => ?_⟩
  · have hcarried : c.Carried d := by
      obtain ⟨port, channel, hm, hp⟩ := hcarried
      exact ⟨port, channel, hmodule ▸ hm, hp⟩
    cases hi.bankStep ht hl with
    | leaves hcur => exact h.minted bank' hcur d o he hcarried
    | creates _ hbank =>
      subst hbank
      exact absurd rfl he
    | @changes bank hcur hextends =>
      have hknows := hextends.knows hinj (hplain bank hcur) d
      rcases hextends.minted d o he with he | hd | hburned
      · exact hknows (h.minted bank hcur d o he hcarried)
      · exact hd
      · obtain ⟨i, chan, n, packet, t, hl, hp, hport, hread, hsource, rfl⟩ := hburned
        obtain ⟨data, port, channel, -, -, -, hsrcPort, -, -, hs⟩ := Ics20.transferOf_ok.1 hread
        obtain ⟨port', channel', hm, hp'⟩ := hcarried
        have hcarries : t.denom.hasPrefix port channel = true := by simpa [hsource] using hs
        obtain ⟨rfl, -⟩ := Denom.eq_of_hasPrefix hcarries hp'
        have hportId : chan.portId = port' := Identifier.ext (hport.trans hsrcPort.symm)
        obtain ⟨b, hb, hd⟩ := h.packets i chan n packet t hl (hportId ▸ hm) hp hread hsource
        rw [hcur] at hb
        cases hb
        exact hknows hd
  · rw [hmodule] at hm
    suffices hbefore : ∃ bank, c.states.lookup bankId = some (.bank bank) ∧
        bank.Knows P.toCrypto t.denom by
      obtain ⟨bank, hcur, hd⟩ := hbefore
      exact hknown bank hcur _ hd
    have hold : c.states.lookup i = some (.channel chan) → _ := fun hl =>
      h.packets i chan n packet t hl hm hp hread hsource
    cases hi.channelStep ht with
    | leaves _ hleaves => exact hold ((hleaves.lookup i chan).1 hl)
    | @creates _ _ _ chan' _ _ _ _ _ hcreation hwrites =>
      by_cases hid : i = chan'.id
      · subst hid
        rw [hwrites.self] at hl
        cases hl
        rw [hcreation.new.packets, Finmap.lookup_empty] at hp
        cases hp
      · exact hold ((hwrites.other i hid chan).1 hl)
    | @changes _ _ _ prev chan' hruns _ _ _ hinput hcur hchange hwrites =>
      by_cases hid : i = chan'.id
      · subst hid
        rw [hwrites.self] at hl
        cases hl
        obtain ⟨hportId, hp | ⟨anyMsg, host, m, outs, -, hhost, hlookup, heffect, hsend, -⟩⟩ :=
          hchange.packet_cases hp
        · exact h.packets _ prev n packet t hcur (hportId ▸ hm) hp hread hsource
        · have hmod : c.module? prev.portId = some m := module_of_host
            (hruns.references _ (Context.mem_of_getReference hhost) _ rfl) hlookup
          rw [hportId, hmod] at hm
          cases hm
          exact h.sent hplain hjson hruns.inputs heffect hsend.port hmod hread hsource
      · exact hold ((hwrites.other i hid chan).1 hl)

/-- In every state that a host reaches, its bank knows the vouchers of its transfer ports. -/
theorem Vouchers.run (hinj : Function.Injective P.sha256)
    (hjson : ∀ data, P.toFungibleTokenPacketData (P.toJson data) = .ok data)
    {ok : Chain → LedgerTransaction → Prop} {c₀ : Chain} (h₀ : c₀.Start)
    (hr : Run (Step P ok) c₀ tr c) : c.Vouchers P := by
  refine hr.invariant (I := fun _ c => c.Vouchers P) h₀.vouchers ?_
  rintro tr c tx c' hr h ⟨-, hc⟩
  obtain ⟨rfl, outs, ht⟩ := commit_ok hc
  exact h.apply (PlainDenoms.run h₀ hr) hinj hjson (Inv.run h₀.inv hr) ht

end

end Chain

end CordaIbc
