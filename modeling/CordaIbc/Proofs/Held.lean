import CordaIbc.Proofs.Redeem

/-!
# What a holder can send

As long as only path-less denominations are allocated, the two maps a holder is paid from stay apart:
what is allocated or locked has no path, and what is minted is plain (`Bank.Apart`,
`Chain.Apart.run`). A send takes a denomination from the minted balances when it carries the prefix
of the channel, and from the allocated ones otherwise; so over an open channel a holder can send the
path-less denominations and the vouchers that came through it, and no others
(`Chain.token_sent_iff`).
-/

namespace CordaIbc

open ChannelOuterClass (Packet)
open ContractState StateClass

namespace BalanceMap

/-- Every denomination with an entry meets a condition. -/
def All (p : Denom → Prop) (m : BalanceMap) : Prop := ∀ d o, m.entry d o ≠ none → p d

section
variable {p : Denom → Prop} {m m' : BalanceMap} {d : Denom} {o : Address} {a : Int}

theorem all_empty : All p ∅ := fun _ _ h => absurd rfl h

theorem All.put (h : m.All p) (hd : p d) : (m.put d o a).All p := by
  intro d' o' he
  rw [entry_put] at he
  split at he
  · rename_i hput
    exact hput.1 ▸ hd
  · exact h d' o' he

theorem All.up (h : m.All p) (hd : p d) : (m.up d o a).All p := by
  rw [up_eq_put]
  exact h.put hd

theorem All.of_down (h : m.All p) (hdown : m.down d o a = .ok m') : p d := by
  obtain ⟨b, he, -⟩ := down_ok.1 hdown
  exact h d o (by rw [he]; exact nofun)

theorem All.down (h : m.All p) (hdown : m.down d o a = .ok m') : m'.All p := by
  have hd := h.of_down hdown
  obtain ⟨b, -, -, rfl⟩ := down_ok.1 hdown
  exact h.put hd

theorem All.of_balance (h : m.All p) (hpos : 0 < m.balance d o) : p d := by
  refine h d o fun hnone => ?_
  rw [balance, hnone] at hpos
  exact absurd hpos (by decide)

end

end BalanceMap

namespace Bank

/-- What a holder has of a denomination: allocated without a path, minted with one. -/
def held (bank : Bank) (d : Denom) (o : Address) : Int :=
  if d.isVoucher then bank.minted.balance d o else bank.allocated.balance d o

/-- The denominations without a path and the vouchers are apart. -/
structure Apart (bank : Bank) : Prop where
  allocated : bank.allocated.All (·.isVoucher = false)
  locked : bank.locked.All (·.isVoucher = false)
  minted : bank.minted.All Denom.Plain

section
variable {P : Platform} {bank bank' : Bank} {source : Bool} {owner : Address} {denom : Denom}
  {amount : Int} {packet : Packet}

theorem apart_create (host : Host) : (Bank.create host).Apart :=
  ⟨BalanceMap.all_empty, BalanceMap.all_empty, BalanceMap.all_empty⟩

theorem Apart.allocate (h : bank.Apart) (hd : denom.isVoucher = false) :
    (bank.allocate owner denom amount).Apart := ⟨h.allocated.up hd, h.locked, h.minted⟩

theorem Apart.lock (h : bank.Apart) (hlock : bank.lock owner denom amount = .ok bank') :
    bank'.Apart := by
  obtain ⟨allocated, hdown, rfl⟩ := lock_ok.1 hlock
  exact ⟨h.allocated.down hdown, h.locked.up (h.allocated.of_down hdown), h.minted⟩

theorem Apart.unlock (h : bank.Apart) (hunlock : bank.unlock owner denom amount = .ok bank') :
    bank'.Apart := by
  obtain ⟨locked, hdown, rfl⟩ := unlock_ok.1 hunlock
  exact ⟨h.allocated.up (h.locked.of_down hdown), h.locked.down hdown, h.minted⟩

theorem Apart.mint (h : bank.Apart) (hd : denom.Plain) : (bank.mint owner denom amount).Apart :=
  ⟨h.allocated, h.locked, h.minted.up hd⟩

theorem Apart.burn (h : bank.Apart) (hburn : bank.burn owner denom amount = .ok bank') :
    bank'.Apart := by
  obtain ⟨minted, hdown, rfl⟩ := burn_ok.1 hburn
  exact ⟨h.allocated, h.locked, h.minted.down hdown⟩

theorem Apart.debit (h : bank.Apart)
    (hdebit : Ics20.debit bank source owner denom amount = .ok bank') : bank'.Apart := by
  cases source with
  | true => exact h.lock hdebit
  | false => exact h.burn hdebit

theorem Apart.credit (h : bank.Apart) (hd : denom.Plain)
    (hcredit : Ics20.credit P bank source packet owner denom amount = .ok bank') : bank'.Apart := by
  cases source with
  | true =>
    obtain ⟨_, -, hunlock⟩ := Result.bind_ok.1 hcredit
    exact h.unlock hunlock
  | false =>
    simp only [Ics20.credit, Bool.false_eq_true, if_false, Result.bind_ok, Except.ok.injEq]
      at hcredit
    obtain ⟨port, -, channel, -, rfl⟩ := hcredit
    have hrecord : (bank.recordDenom P.toCrypto (denom.addPath port channel)).Apart :=
      ⟨h.allocated, h.locked, h.minted⟩
    exact hrecord.mint hd.addPath

theorem Apart.refund (h : bank.Apart) (hd : denom.Plain)
    (hrefund : Ics20.refund bank source owner denom amount = .ok bank') : bank'.Apart := by
  cases source with
  | true => exact h.unlock hrefund
  | false =>
    cases hrefund
    exact h.mint hd

end

end Bank

namespace Ics20
variable {bank bank' : Bank} {d : Denom} {x : Int} {o : Address} {port channel : Identifier}

/-- A bank after a holder spent an amount. -/
structure Spent (d : Denom) (x : Int) (o : Address) (bank bank' : Bank) : Prop where
  held : ∀ d' o', bank'.held d' o' = bank.held d' o' - if d' = d ∧ o' = o then x else 0

/-- What has no path is locked, and what carries the channel's prefix is burned, out of what the
sender holds. -/
theorem exists_debit (hpos : 0 < x) (hle : x ≤ bank.held d o)
    (h : d.isVoucher = false ∨ d.hasPrefix port channel = true) :
    ∃ bank', debit bank (!d.hasPrefix port channel) o d x = .ok bank' ∧ Spent d x o bank bank' := by
  cases hv : d.isVoucher with
  | true =>
    have hp : d.hasPrefix port channel = true := h.resolve_left (by rw [hv]; exact nofun)
    rw [Bank.held, hv, if_pos rfl] at hle
    obtain ⟨minted, hdown⟩ := BalanceMap.down_isOk hpos hle
    refine ⟨{ bank with minted }, by rw [hp]; exact Bank.burn_ok.2 ⟨minted, hdown, rfl⟩,
      ⟨fun d' o' => ?_⟩⟩
    have hb := BalanceMap.balance_down hdown d' o'
    by_cases hd : d' = d ∧ o' = o
    · obtain ⟨rfl, rfl⟩ := hd
      simpa [Bank.held, hv] using hb
    · rw [if_neg hd] at hb ⊢
      simp [Bank.held, hb]
  | false =>
    have hpath : d.denomTrace.path = "" := by simpa [Denom.isVoucher] using hv
    rw [Bank.held, hv, if_neg (by decide)] at hle
    obtain ⟨allocated, hdown⟩ := BalanceMap.down_isOk hpos hle
    refine ⟨{ bank with allocated, locked := bank.locked.up d o x }, ?_, ⟨fun d' o' => ?_⟩⟩
    · rw [Denom.hasPrefix_of_path_empty hpath]
      exact Bank.lock_ok.2 ⟨allocated, hdown, rfl⟩
    · have hb := BalanceMap.balance_down hdown d' o'
      by_cases hd : d' = d ∧ o' = o
      · obtain ⟨rfl, rfl⟩ := hd
        simpa [Bank.held, hv] using hb
      · rw [if_neg hd] at hb ⊢
        simp [Bank.held, hb]

/-- Only these can be debited from a bank that keeps them apart. -/
theorem sendable_of_debit (h : bank.Apart)
    (hdebit : debit bank (!d.hasPrefix port channel) o d x = .ok bank') :
    d.isVoucher = false ∨ d.hasPrefix port channel = true := by
  cases hp : d.hasPrefix port channel with
  | true => exact .inr rfl
  | false =>
    rw [hp] at hdebit
    obtain ⟨allocated, hdown, -⟩ := Bank.lock_ok.1 hdebit
    exact .inl (h.allocated.of_down hdown)

/-- A full trace names its denomination when it is plain, unless it reads as a hash. -/
theorem resolveToken_toString (h : DenomPath.hasPrefixes d.toString ["ibc"] = false) :
    resolveToken bank d.toString = .ok d ↔ d.Plain := by
  rw [resolveToken, h, if_neg (by decide), Except.ok.injEq]
  constructor
  · intro hd
    exact hd ▸ Denom.plain_fromString _
  · exact Denom.fromString_toString

/-- A hash that the bank has recorded names its denomination. -/
theorem resolveToken_toIbcDenom {C : Crypto} (h : bank.Knows C d) :
    resolveToken bank (d.toIbcDenom C) = .ok d := by
  rw [resolveToken, if_pos Denom.hasPrefixes_toIbcDenom]
  exact orThrow_ok.2 h

end Ics20

namespace Chain

/-- A transaction allocates path-less denominations only. -/
def AllocatesPathless (tx : LedgerTransaction) : Prop :=
  ∀ owner denom amount signers, (.fundAllocate owner denom amount, signers) ∈ tx.miscCommands →
    denom.isVoucher = false

/-- The bank of a chain keeps vouchers apart. -/
def Apart (c : Chain) : Prop :=
  ∀ bank, c.states.lookup bankId = some (.bank bank) → bank.Apart

/-- Where the bank of a chain comes from. -/
inductive BankOrigin (P : Platform) (c : Chain) (tx : LedgerTransaction) (bank' : Bank) : Prop
  | leaves (hcur : c.states.lookup bankId = some (.bank bank'))
  | creates {host : Host} (hbank : bank' = .create host)
  | allocates {bank : Bank} {owner : Address} {denom : Denom} {amount : Int}
    {signers : List PublicKey} (hcur : c.states.lookup bankId = some (.bank bank))
    (hcommand : (.fundAllocate owner denom amount, signers) ∈ tx.miscCommands)
    (hbank : bank' = bank.allocate owner denom amount)
  | runs {handler : DatagramHandler} {signers : List PublicKey} {outs : List ContractState}
    (hruns : Runs P c tx handler signers outs) (hout : ContractState.bank bank' ∈ outs)

section
variable {P : Platform} {c c' : Chain} {tx : LedgerTransaction} {outs : List ContractState}
  {tr : List LedgerTransaction} {bank bank' : Bank}

theorem bankOrigin_of_commit (hc : c.Commits P tx c')
    (hl : c'.states.lookup bankId = some (.bank bank')) : BankOrigin P c tx bank' := by
  obtain ⟨rfl, outs, ht⟩ := commit_ok hc
  rcases ht.lookup_cases hl with ⟨hm, -⟩ | ⟨-, hcur⟩
  · have hout : ContractState.bank bank' ∈ tx.outputs := ht.perm.mem_iff.2 hm
    have hv := verify_of_commit hc.2
    unfold Ibc.verify at hv
    split at hv
    · rename_i command signers hmisc _
      rcases MiscCommands.bank_of_verify hv hout with
        ⟨host, -, hbank⟩ | ⟨bank, owner, denom, amount, rfl, hin, rfl⟩
      · exact .creates hbank
      · have hbase : bank.baseId = c.baseId := ht.base _ hm _ bankId rfl
        have hcommit := hc.2
        simp only [commit, Result.bind_ok, require_ok, List.all_eq_true] at hcommit
        obtain ⟨-, -, -, hcurrent, -⟩ := hcommit
        have hkey : (ContractState.bank bank).key? = some (c.baseId, bankId) := by
          rw [← hbase]
          rfl
        have hmem : ContractState.bank bank ∈ tx.inputStates := by
          rw [hin]
          exact List.mem_singleton_self _
        exact .allocates (current_of_mem hcurrent (List.mem_append_left _ hmem) hkey)
          (hmisc ▸ List.mem_singleton_self _) rfl
    · rename_i handler signers _ hd
      obtain ⟨outs', ctx', htakes⟩ := datagram_of_commits hc hd
      exact .runs ⟨hd, htakes.inputs, htakes.references, htakes.executes⟩
        (htakes.perm.mem_iff.1 hout)
    · cases hv
  · exact .leaves hcur

/-- A datagram keeps vouchers apart. -/
theorem Apart.runs (h : c.Apart) {handler : DatagramHandler} {signers : List PublicKey}
    (hr : Runs P c tx handler signers outs) (hm : ContractState.bank bank' ∈ outs) :
    bank'.Apart := by
  have hcur : ∀ {b : Bank}, (Context.create tx.inputStates tx.referenceStates).getInput Bank = .ok b →
      b.Apart := fun hb => h _ (hr.inputs _ (Context.mem_of_getInput hb) bankId rfl)
  have hexec := hr.executes
  cases hexec with
  | createClient | updateClient | connOpenInit | connOpenTry | connOpenAck | connOpenConfirm
  | chanOpenInit | chanOpenTry | chanOpenTryPrevious | chanOpenAck | chanOpenConfirm | chanCloseInit
  | chanCloseConfirm => simp at hm
  | sendPacket _ _ heffect =>
    have hno := heffect.not_bank
    cases heffect with
    | nop => simp at hm
    | ics20 _ _ _ _ _ hbank _ hdebit =>
      obtain rfl : bank' = _ := by simpa using hm
      exact (hcur hbank).debit hdebit
    | ics20cash => exact absurd (by simpa using hm) (hno nofun bank')
  | recvPacket _ _ _ heffect =>
    have hno := heffect.not_bank
    cases heffect with
    | nop => simp at hm
    | ics20 _ _ _ _ _ hbank hcredit =>
      obtain rfl : bank' = _ := by simpa using hm
      rcases hcredit with ⟨hcredit, -⟩ | ⟨_, -, rfl, -⟩
      · exact (hcur hbank).credit (Denom.plain_fromString _) hcredit
      · exact hcur hbank
    | ics20cash => exact absurd (by simpa using hm) (hno nofun bank')
  | acknowledgePacket _ _ _ _ heffect =>
    have hno := heffect.not_bank
    cases heffect with
    | nop => simp at hm
    | ics20Result hbank =>
      obtain rfl : bank' = _ := by simpa using hm
      exact hcur hbank
    | ics20Error _ _ _ _ _ hbank hrefund =>
      obtain rfl : bank' = _ := by simpa using hm
      exact (hcur hbank).refund (Denom.plain_fromString _) hrefund
    | ics20cash => exact absurd (by simpa using hm) (hno nofun bank')

theorem Apart.commit (h : c.Apart) (hok : AllocatesPathless tx) (hc : c.Commits P tx c') :
    c'.Apart := by
  intro bank' hl
  cases bankOrigin_of_commit hc hl with
  | leaves hcur => exact h bank' hcur
  | creates hbank => exact hbank ▸ Bank.apart_create _
  | allocates hcur hcommand hbank =>
    subst hbank
    exact (h _ hcur).allocate (hok _ _ _ _ hcommand)
  | runs hruns hout => exact h.runs hruns hout

/-- In every state that a host reaches, its bank keeps vouchers apart. -/
theorem Apart.run {c₀ : Chain} (h₀ : c₀.Start)
    (hr : Run (Step P fun _ tx => AllocatesPathless tx) c₀ tr c) : c.Apart := by
  refine hr.invariant (I := fun _ c => c.Apart) ?_ ?_
  · obtain ⟨_, _, _, _, _, host, -, rfl⟩ := h₀
    intro bank hl
    cases (lookup_ofHost hl).2
  · rintro tr c tx c' - h ⟨hok, hc⟩
    exact h.commit hok hc

end

/-! ## The send -/

/-- A holder of a denomination on a host with an open transfer channel. -/
structure Holds (c : Chain) (bank : Bank) (chan : IbcChannel) (d : Denom) (x : Int)
    (holder : Address) : Prop where
  port : c.module? chan.portId = some .ics20
  currentChannel : c.states.lookup chan.id = some (.channel chan)
  opened : chan.end_.state = .opened
  currentBank : c.states.lookup bankId = some (.bank bank)
  positive : 0 < x
  enough : x ≤ bank.held d holder

/-- A transfer of an amount of the denomination over the channel, without timeouts. -/
structure SendsToken (P : Platform) (bank : Bank) (chan : IbcChannel) (d : Denom) (x : Int)
    (holder : Address) (msg : MsgTransfer) : Prop where
  port : chan.portId.id = msg.sourcePort
  channel : chan.id.id = msg.sourceChannel
  token : Ics20.resolveToken bank msg.token.denom = .ok d
  amount : toBigInteger msg.token.amount = .ok x
  sender : Address.fromBech32 P.toCrypto msg.sender = .ok holder
  timeoutHeight : msg.timeoutHeight = .default
  timeoutTimestamp : msg.timeoutTimestamp = 0

/-- The host takes the message: it spends the amount, and commits a packet that names the
denomination. -/
def TakesTransfer (P : Platform) (c : Chain) (bank : Bank) (chan : IbcChannel) (d : Denom) (x : Int)
    (holder : Address) (anyMsg : Any) (signers : List PublicKey) : Prop :=
  ∃ ins refs ctx' bank' packet data,
    (∀ t ∈ ins ++ refs, ∀ i, t.id? = some i → c.states.lookup i = some t) ∧
    (DatagramHandler.createOutgoingPacket anyMsg).execute P (.create ins refs) signers = .ok ctx' ∧
    ctx'.outStates.states = [.bank bank', .channel (chan.sent packet)] ∧
    Ics20.Spent d x holder bank bank' ∧ P.toFungibleTokenPacketData packet.data = .ok data ∧
    Denom.fromString data.denom = d

section
variable {P : Platform} {c : Chain} {tr : List LedgerTransaction} {bank : Bank} {chan : IbcChannel}
  {d : Denom} {x : Int} {holder : Address} {anyMsg : Any} {msg : MsgTransfer}
  {signers : List PublicKey}

/-- A voucher that came through the channel is recorded. -/
theorem Holds.knows (hvouchers : c.Vouchers P) (h : c.Holds bank chan d x holder)
    (hp : d.hasPrefix chan.portId chan.id = true) : bank.Knows P.toCrypto d := by
  have hv : d.isVoucher = true := by
    cases hv : d.isVoucher with
    | true => rfl
    | false =>
      rw [Denom.hasPrefix_of_path_empty (by simpa [Denom.isVoucher] using hv)] at hp
      cases hp
  have hle := h.enough
  have hpos := h.positive
  rw [Bank.held, if_pos hv] at hle
  refine hvouchers.minted bank h.currentBank d holder (fun hnone => ?_)
    ⟨chan.portId, chan.id, h.port, hp⟩
  rw [BalanceMap.balance, hnone, Option.getD_none] at hle
  omega

theorem Holds.takes (h : c.Holds bank chan d x holder) (hi : c.Inv) (hlinked : c.Linked)
    (hcorda : c.CordaIds) (hreporting : c.Reporting P)
    (hcounter : ∀ host, c.states.lookup hostId = some (.host host) →
      host.nextClientSequence ≤ 2 ^ 63) (hplain : bank.PlainDenoms)
    (hjson : ∀ data, P.toFungibleTokenPacketData (P.toJson data) = .ok data)
    (hmsg : P.unpackMsgTransfer anyMsg = .ok msg) (hsends : SendsToken P bank chan d x holder msg)
    (hd : d.isVoucher = false ∨ d.hasPrefix chan.portId chan.id = true) :
    TakesTransfer P c bank chan d x holder anyMsg signers := by
  obtain ⟨host, conn, client, hready, t, n, hlt, hclientId⟩ :=
    hlinked.exists_ready hi h.currentBank h.currentChannel h.opened h.port
  have hn : n < 2 ^ 63 := Nat.lt_of_lt_of_le hlt (hcounter host hready.currentHost)
  obtain ⟨height, hheight, htime⟩ := hreporting _ client hready.currentClient
  obtain ⟨bank', hdebit, hspent⟩ := Ics20.exists_debit h.positive h.enough hd
  have htimestamp : Handler.sendPacket.checkTimestamp P host client conn.end_.clientId height
      (Ics20.transferPacket P msg d chan) = .ok () := by
    refine Handler.checkTimestamp_ok hclientId hready.clientId hn fun hne => ?_
    cases himpl : client.impl with
    | corda cs =>
      obtain ⟨m, hm⟩ := hcorda _ client cs hready.currentClient himpl
      exact absurd (Host.clientIdentifier_inj (hclientId.symm.trans hm)).1 hne
    | fabric s => exact ⟨hsends.timeoutTimestamp, htime s himpl⟩
  obtain ⟨ins, refs, ctx', hcur, hexec, houts⟩ := hready.exists_sent hmsg hsends.port hsends.channel
    hsends.token hsends.amount hsends.sender hdebit hheight
    (.inl (by rw [hsends.timeoutHeight]; rfl)) htimestamp signers
  exact ⟨ins, refs, ctx', bank', _, _, hcur, hexec, houts, hspent, hjson _,
    Denom.fromString_toString (Ics20.plain_of_resolveToken hplain hsends.token)⟩

theorem sendable_of_takes (hbank : c.states.lookup bankId = some (.bank bank)) (hapart : bank.Apart)
    (hmsg : P.unpackMsgTransfer anyMsg = .ok msg) (hsends : SendsToken P bank chan d x holder msg)
    (h : TakesTransfer P c bank chan d x holder anyMsg signers) :
    d.isVoucher = false ∨ d.hasPrefix chan.portId chan.id = true := by
  obtain ⟨ins, refs, ctx', bank', packet, data, hcur, hexec, houts, -⟩ := h
  obtain ⟨outs, hexecutes, ho⟩ := executes_of_ok hexec
  have heq : outs = [.bank bank', .channel (chan.sent packet)] := by
    rw [← houts, ho.outStates]
    rfl
  cases hexecutes with
  | @sendPacket _ _ chan' packet' _ outs' _ _ heffect =>
    have hm : ContractState.bank bank' ∈ outs' ++ [.channel (chan'.sent packet')] := by simp [heq]
    have hno := heffect.not_bank
    cases heffect with
    | nop => simp at hm
    | ics20cash => exact absurd (by simpa using hm) (hno nofun bank')
    | @ics20 msg' amount sender port channel b b' denom hmsg' _ _ hport hchannel hb hdenom hdebit =>
      obtain rfl := Except.ok.inj (hmsg.symm.trans hmsg')
      have hl := hcur _ (List.mem_append_left _ (Context.mem_of_getInput hb)) bankId rfl
      obtain rfl : bank = b := by
        rw [hbank] at hl
        cases hl
        rfl
      obtain rfl := Except.ok.inj (hsends.token.symm.trans hdenom)
      obtain rfl : port = chan.portId := Identifier.ext (hport.trans hsends.port.symm)
      obtain rfl : channel = chan.id := Identifier.ext (hchannel.trans hsends.channel.symm)
      exact Ics20.sendable_of_debit hapart hdebit

/-- In every state that a host reaches while only path-less denominations are allocated: a holder can
name what it holds, by the recorded hash or by the full trace, and can send it over an open transfer
channel exactly when it has no path or came through this channel. -/
theorem token_sent_iff (hinj : Function.Injective P.sha256)
    (hjson : ∀ data, P.toFungibleTokenPacketData (P.toJson data) = .ok data)
    (hlatest : P.ReportsLatest) {c₀ : Chain} (h₀ : c₀.Start)
    (hr : Run (Step P fun _ tx => AllocatesPathless tx) c₀ tr c)
    (hcounter : ∀ host, c.states.lookup hostId = some (.host host) →
      host.nextClientSequence ≤ 2 ^ 63) (h : c.Holds bank chan d x holder) :
    (d.hasPrefix chan.portId chan.id = true → bank.Knows P.toCrypto d) ∧
    (bank.Knows P.toCrypto d → Ics20.resolveToken bank (d.toIbcDenom P.toCrypto) = .ok d) ∧
    (DenomPath.hasPrefixes d.toString ["ibc"] = false →
      (Ics20.resolveToken bank d.toString = .ok d ↔ d.Plain)) ∧
    (d.isVoucher = true → d.Plain) ∧
    ∀ anyMsg msg signers, P.unpackMsgTransfer anyMsg = .ok msg →
      SendsToken P bank chan d x holder msg →
      (TakesTransfer P c bank chan d x holder anyMsg signers ↔
        d.isVoucher = false ∨ d.hasPrefix chan.portId chan.id = true) := by
  have hapart := Apart.run h₀ hr bank h.currentBank
  have hplain := PlainDenoms.run h₀ hr bank h.currentBank
  refine ⟨h.knows (Vouchers.run hinj hjson h₀ hr), Ics20.resolveToken_toIbcDenom,
    Ics20.resolveToken_toString, fun hv => ?_, fun anyMsg msg signers hmsg hsends => ⟨?_, ?_⟩⟩
  · have hle := h.enough
    rw [Bank.held, if_pos hv] at hle
    exact hapart.minted.of_balance (lt_of_lt_of_le h.positive hle)
  · exact sendable_of_takes h.currentBank hapart hmsg hsends
  · exact h.takes (Inv.run h₀.inv hr) (Linked.run h₀ hr) (CordaIds.run h₀ hr)
      (Reporting.run hlatest h₀ hr) hcounter hplain hjson hmsg hsends

end

/-! ### A voucher on another channel -/

namespace OtherChannel
open Sample

def owner : Address := account 97

/-- A voucher of the first channel. -/
def voucher : Denom := ⟨⟨"transfer/channel-0", "atom"⟩⟩

/-- A denomination whose trace reads as another one. -/
def slashed : Denom := ⟨⟨"", "gold/bar"⟩⟩

/-- A denomination whose trace reads as a hash. -/
def hashed : Denom := ⟨⟨"", "ibc"⟩⟩

/-- The voucher is sent over a channel. -/
def sends (channel : String) : MsgTransfer :=
  { sourcePort := "transfer", sourceChannel := channel, token := ⟨"transfer/channel-0/atom", "5"⟩
    sender := addressA, receiver := "x", timeoutHeight := .default, timeoutTimestamp := 0 }

/-- A packet that mints the voucher. -/
def minting : Packet :=
  { sequence := 1, sourcePort := "transfer", sourceChannel := "channel-0"
    destinationPort := "transfer", destinationChannel := "channel-0"
    data := toJson ⟨"atom", "5", "x", addressA⟩, timeoutHeight := .default, timeoutTimestamp := 0 }

/-- The second chain's end of the other channel. -/
def peerOther : IbcChannel :=
  .create peerHost transferPort (channel 1) (channelEnd .tryOpen "channel-1")

def P : Platform :=
  platform [handshake, shows 2 [.channel peerOther], shows 2 [.channel (peerChannel.sent minting)]]
    [sends "channel-0", sends "channel-1"]

/-- Two channels are opened, the voucher is received over the first, and accounts are funded. -/
def script : List Move := opened ++
  [chanOpenInit,
    chanOpenAck (channel 1)
      { portId := "transfer", channelId := "channel-1", counterpartyChannelId := "channel-1"
        counterpartyVersion := "ics20-1", proofTry := [1], proofHeight := HEIGHT },
    onPacket (channel 0) (.handlePacketRecv
      { packet := minting, proofCommitment := [2], proofHeight := HEIGHT }),
    allocate owner slashed 10, allocate owner hashed 10]

/-- The channel that received the voucher. -/
def first : IbcChannel :=
  { IbcChannel.create (host 1) transferPort (channel 0) (channelEnd .opened "channel-0") with
    receipts := {1}
    acknowledgements :=
      (∅ : Finmap fun _ : Nat => ChannelOuterClass.Acknowledgement).insert 1 successAck }

def other : IbcChannel :=
  .create (host 1) transferPort (channel 1) (channelEnd .opened "channel-1")

/-- The channels, what the owner holds, what is known of a hash and what is bound. -/
def outcome (c : Chain) : List (Option ContractState) × List Int × Option Denom × Option Module :=
  ([c.states.lookup (channel 0), c.states.lookup (channel 1)],
    match c.states.lookup bankId, c.states.lookup hostId with
    | some (.bank b), some (.host h) =>
      ([b.held voucher owner, b.held slashed owner, b.held hashed owner, h.nextClientSequence],
        b.denoms.lookup "ibc", c.module? transferPort)
    | _, _ => ([], none, none))

theorem outcome_script : (fun r => outcome r.2) <$> runMoves P (ofHost (host 1)) script =
    .ok ([some (.channel first), some (.channel other)], [5, 10, 10, 1], none, some .ics20) := by
  decide +kernel

/-- The move allocates no voucher. -/
def pathless (m : Move) : Bool :=
  match m.command with
  | .misc (.fundAllocate _ denom _) => denom.isVoucher = false
  | _ => true

theorem pathless_ok {m : Move} (h : pathless m = true) {c : Chain} {tx : LedgerTransaction}
    (hbuild : m.build P c = .ok tx) : AllocatesPathless tx := by
  intro owner denom amount signers hm
  rw [LedgerTransaction.miscCommands, Move.build_commands hbuild] at hm
  unfold pathless at h
  split at h
  · rename_i hc
    simp only [hc, List.filterMap_cons, List.filterMap_nil, List.mem_singleton] at hm
    cases hm
    exact of_decide_eq_true h
  · rename_i hother
    cases hc : m.command with
    | misc command =>
      simp only [hc, List.filterMap_cons, List.filterMap_nil, List.mem_singleton] at hm
      cases hm
      exact absurd hc (hother _ _ _)
    | datagram | other => simp [hc] at hm

theorem pathless_script : ∀ m ∈ script, pathless m = true := List.all_eq_true.1 (by decide)

theorem reportsLatest : P.ReportsLatest := fun _ _ _ h => by cases h

theorem toBigInteger_five : toBigInteger "5" = .ok 5 := by decide +kernel

theorem fromBech32_owner : Address.fromBech32 P.toCrypto addressA = .ok owner := by decide +kernel

theorem sendsToken {bank : Bank} {chan : IbcChannel} (hport : chan.portId = transferPort) :
    SendsToken P bank chan voucher 5 owner (sends chan.id.id) := by
  have hcarries : DenomPath.hasPrefixes "transfer/channel-0/atom" ["ibc"] = false := by decide
  refine ⟨congrArg Identifier.id hport, rfl, ?_, toBigInteger_five, fromBech32_owner, rfl, rfl⟩
  show Ics20.resolveToken bank "transfer/channel-0/atom" = _
  rw [Ics20.resolveToken, hcarries]
  rfl

theorem exists_reached : ∃ tr c bank,
    Run (Step P fun _ tx => AllocatesPathless tx) (ofHost (host 1)) tr c ∧
    (∀ h, c.states.lookup hostId = some (.host h) → h.nextClientSequence ≤ 2 ^ 63) ∧
    bank.denoms.lookup "ibc" = none ∧ ∀ chan ∈ [first, other],
      c.Holds bank chan voucher 5 owner ∧ c.Holds bank chan slashed 10 owner ∧
        c.Holds bank chan hashed 10 owner := by
  obtain ⟨⟨tr, c⟩, hrun, hout⟩ := Result.map_ok.1 outcome_script
  have hr : Run (Step P fun _ tx => AllocatesPathless tx) (ofHost (host 1)) ([] ++ tr) c :=
    run_of_moves hrun (fun m hm _ _ => pathless_ok (pathless_script m hm)) .nil
  simp only [outcome, Prod.mk.injEq, List.cons.injEq, and_true] at hout
  obtain ⟨⟨hfirst, hother⟩, hbank⟩ := hout
  split at hbank
  · rename_i bank h hcur hhost
    simp only [Prod.mk.injEq, List.cons.injEq, and_true] at hbank
    obtain ⟨⟨hvoucher, hslashed, hhashed, hclients⟩, hunknown, hport⟩ := hbank
    refine ⟨_, c, bank, hr, fun h' hh' => ?_, hunknown, fun chan hm => ?_⟩
    · rw [hhost] at hh'
      cases hh'
      omega
    · simp only [List.mem_cons, List.not_mem_nil, or_false] at hm
      rcases hm with rfl | rfl
      · exact ⟨⟨hport, hfirst, rfl, hcur, by decide, hvoucher.ge⟩,
          ⟨hport, hfirst, rfl, hcur, by decide, hslashed.ge⟩,
          ⟨hport, hfirst, rfl, hcur, by decide, hhashed.ge⟩⟩
      · exact ⟨⟨hport, hother, rfl, hcur, by decide, hvoucher.ge⟩,
          ⟨hport, hother, rfl, hcur, by decide, hslashed.ge⟩,
          ⟨hport, hother, rfl, hcur, by decide, hhashed.ge⟩⟩
  · cases hbank

/-- The voucher cannot be sent over the other channel, and two denominations not by their traces. -/
theorem voucher_stays : ∃ tr c bank,
    Run (Step P fun _ tx => AllocatesPathless tx) (ofHost (host 1)) tr c ∧
    (c.Holds bank other voucher 5 owner ∧ P.unpackMsgTransfer ⟨"", [1]⟩ = .ok (sends "channel-1") ∧
      SendsToken P bank other voucher 5 owner (sends "channel-1") ∧
      ∀ signers, ¬ TakesTransfer P c bank other voucher 5 owner ⟨"", [1]⟩ signers) ∧
    (c.Holds bank other slashed 10 owner ∧
      Ics20.resolveToken bank slashed.toString ≠ .ok slashed) ∧
    (c.Holds bank other hashed 10 owner ∧
      ∀ d, Ics20.resolveToken bank hashed.toString ≠ .ok d) := by
  obtain ⟨tr, c, bank, hr, -, hunknown, hholds⟩ := exists_reached
  obtain ⟨hvoucher, hslashed, hhashed⟩ := hholds other (List.mem_cons_of_mem _ List.mem_cons_self)
  have hsends : SendsToken P bank other voucher 5 owner (sends "channel-1") := sendsToken rfl
  refine ⟨tr, c, bank, hr, ⟨hvoucher, rfl, hsends, fun signers h => ?_⟩, ⟨hslashed, ?_⟩, hhashed,
    fun d hd => ?_⟩
  · have hapart := Apart.run (start_host 1) hr bank hvoucher.currentBank
    have hsendable := sendable_of_takes hvoucher.currentBank hapart rfl hsends h
    exact absurd hsendable (by decide)
  · rw [Ne, Ics20.resolveToken_toString (by decide)]
    exact fun h => h (by decide)
  · have hreads : DenomPath.hasPrefixes hashed.toString ["ibc"] = true := by decide
    have hname : hashed.toString = "ibc" := by decide
    rw [Ics20.resolveToken, if_pos hreads, hname, Bank.resolveDenom, hunknown] at hd
    cases hd

/-- Over its own channel it can. -/
theorem voucher_sent : ∃ c bank, c.Holds bank first voucher 5 owner ∧
    bank.Knows P.toCrypto voucher ∧ TakesTransfer P c bank first voucher 5 owner ⟨"", [0]⟩ [] := by
  obtain ⟨tr, c, bank, hr, hcounter, -, hholds⟩ := exists_reached
  obtain ⟨hvoucher, -⟩ := hholds first List.mem_cons_self
  obtain ⟨hknows, -, -, -, hiff⟩ := token_sent_iff sha256_injective toFungibleTokenPacketData_toJson
    reportsLatest (start_host 1) hr hcounter hvoucher
  have hprefix : voucher.hasPrefix first.portId first.id = true := by decide
  exact ⟨c, bank, hvoucher, hknows hprefix, (hiff ⟨"", [0]⟩ (sends "channel-0") [] rfl
    (sendsToken rfl)).2 (.inr hprefix)⟩

end OtherChannel

end Chain

end CordaIbc
