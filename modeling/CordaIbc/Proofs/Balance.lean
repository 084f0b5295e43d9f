import CordaIbc.Proofs.ChainStep
import CordaIbc.Sample.Life

/-!
# The sign of the balances

Amounts are parsed from strings with their sign, and the one guard of the bank bounds them from
above. While the amounts that reach a bank are not negative, its balances are not, and then no send
adds to what its sender can spend (`Bank.nonneg_of_run`).
-/

namespace CordaIbc

open ContractState

/-- An amount the command of a transaction brings to a bank. -/
inductive LedgerTransaction.Carries (P : Platform) (tx : LedgerTransaction) : Int → Prop
  | fund {owner : Address} {denom : Denom} {amount : Int} {signers : List PublicKey}
    (h : tx.miscCommands = [(.fundAllocate owner denom amount, signers)]) : tx.Carries P amount
  | send {anyMsg : Any} {signers : List PublicKey} {msg : MsgTransfer} {amount : Int}
    (h : tx.datagramHandlerCommands = [(.createOutgoingPacket anyMsg, signers)])
    (hmsg : P.unpackMsgTransfer anyMsg = .ok msg)
    (hamount : toBigInteger msg.token.amount = .ok amount) : tx.Carries P amount
  | recv {msg : MsgRecvPacket} {signers : List PublicKey} {data : FungibleTokenPacketData}
    {amount : Int} (h : tx.datagramHandlerCommands = [(.handlePacketRecv msg, signers)])
    (hdata : P.toFungibleTokenPacketData msg.packet.data = .ok data)
    (hamount : toBigInteger data.amount = .ok amount) : tx.Carries P amount
  | refund {msg : MsgAcknowledgement} {signers : List PublicKey} {message : String}
    {data : FungibleTokenPacketData} {amount : Int}
    (h : tx.datagramHandlerCommands = [(.handlePacketAcknowledgement msg, signers)])
    (hack : P.toAcknowledgement msg.acknowledgement = .ok (.error message))
    (hdata : P.toFungibleTokenPacketData msg.packet.data = .ok data)
    (hamount : toBigInteger data.amount = .ok amount) : tx.Carries P amount

/-- Every amount the transaction brings to a bank is at least zero. -/
def LedgerTransaction.NonnegAmounts (P : Platform) (tx : LedgerTransaction) : Prop :=
  ∀ amount, tx.Carries P amount → 0 ≤ amount

namespace Bank

structure Nonneg (bank : Bank) : Prop where
  allocated : bank.allocated.Nonneg
  locked : bank.locked.Nonneg
  minted : bank.minted.Nonneg

/-- What the owner can lock or burn of a denomination. -/
def spendable (bank : Bank) (owner : Address) (denom : Denom) : Int :=
  bank.allocated.balance denom owner + bank.minted.balance denom owner

/-- The transactions that consume a bank and put out its successor, while `ok` holds of them. -/
def Step (P : Platform) (ok : LedgerTransaction → Prop) (bank : Bank) (tx : LedgerTransaction)
    (bank' : Bank) : Prop :=
  ok tx ∧ Ibc.verify P tx = .ok () ∧ ContractState.bank bank ∈ tx.inputStates ∧
    ContractState.bank bank' ∈ tx.outputs

/-- What a transaction can do to a bank with an amount. -/
inductive Update (P : Platform) (bank : Bank) (amount : Int) : Bank → Prop
  | allocate {owner : Address} {denom : Denom} : Update P bank amount (bank.allocate owner denom amount)
  | debit {source : Bool} {owner : Address} {denom : Denom} {bank' : Bank}
    (h : Ics20.debit bank source owner denom amount = .ok bank') : Update P bank amount bank'
  | credit {source : Bool} {packet : ChannelOuterClass.Packet} {owner : Address} {denom : Denom}
    {bank' : Bank} (h : Ics20.credit P bank source packet owner denom amount = .ok bank') :
    Update P bank amount bank'
  | refund {source : Bool} {owner : Address} {denom : Denom} {bank' : Bank}
    (h : Ics20.refund bank source owner denom amount = .ok bank') : Update P bank amount bank'

section
variable {P : Platform} {bank bank' : Bank} {owner : Address} {denom : Denom} {amount : Int}

theorem nonneg_create (host : Host) : (Bank.create host).Nonneg :=
  ⟨BalanceMap.nonneg_empty, BalanceMap.nonneg_empty, BalanceMap.nonneg_empty⟩

theorem Nonneg.unlock (hn : bank.Nonneg) (ha : 0 ≤ amount)
    (h : bank.unlock owner denom amount = .ok bank') : bank'.Nonneg := by
  obtain ⟨locked, hdown, rfl⟩ := unlock_ok.1 h
  exact ⟨hn.allocated.up ha, hn.locked.down hdown, hn.minted⟩

theorem Nonneg.mint (hn : bank.Nonneg) (ha : 0 ≤ amount) : (bank.mint owner denom amount).Nonneg :=
  ⟨hn.allocated, hn.locked, hn.minted.up ha⟩

theorem Nonneg.debit {source : Bool} (hn : bank.Nonneg) (ha : 0 ≤ amount)
    (h : Ics20.debit bank source owner denom amount = .ok bank') : bank'.Nonneg := by
  cases source with
  | true =>
    obtain ⟨allocated, hdown, rfl⟩ := lock_ok.1 h
    exact ⟨hn.allocated.down hdown, hn.locked.up ha, hn.minted⟩
  | false =>
    obtain ⟨minted, hdown, rfl⟩ := burn_ok.1 h
    exact ⟨hn.allocated, hn.locked, hn.minted.down hdown⟩

theorem Nonneg.update (hn : bank.Nonneg) (ha : 0 ≤ amount) (h : Update P bank amount bank') :
    bank'.Nonneg := by
  cases h with
  | allocate => exact ⟨hn.allocated.up ha, hn.locked, hn.minted⟩
  | debit h => exact hn.debit ha h
  | @credit source _ _ _ _ h =>
    cases source with
    | true =>
      obtain ⟨_, -, h⟩ := Result.bind_ok.1 h
      exact hn.unlock ha h
    | false =>
      simp only [Ics20.credit, Bool.false_eq_true, if_false, Result.bind_ok, Except.ok.injEq] at h
      obtain ⟨_, -, _, -, rfl⟩ := h
      have hrecord : ∀ d : Denom, (bank.recordDenom P.toCrypto d).Nonneg := fun d =>
        ⟨hn.allocated, hn.locked, hn.minted⟩
      exact (hrecord _).mint ha
  | @refund source _ _ _ h =>
    cases source with
    | true => exact hn.unlock ha h
    | false =>
      cases h
      exact hn.mint ha

/-- A send takes its amount off what the sender can spend. -/
theorem spendable_debit {source : Bool}
    (h : Ics20.debit bank source owner denom amount = .ok bank') (denom' : Denom) :
    bank'.spendable owner denom' = bank.spendable owner denom' - if denom' = denom then amount else 0 := by
  unfold spendable
  cases source with
  | true =>
    obtain ⟨allocated, hdown, rfl⟩ := lock_ok.1 h
    have hb := BalanceMap.balance_down hdown denom' owner
    by_cases hd : denom' = denom
    · subst hd
      simp only [and_self, if_true] at hb ⊢
      omega
    · simp only [hd, false_and, if_false] at hb ⊢
      omega
  | false =>
    obtain ⟨minted, hdown, rfl⟩ := burn_ok.1 h
    have hb := BalanceMap.balance_down hdown denom' owner
    by_cases hd : denom' = denom
    · subst hd
      simp only [and_self, if_true] at hb ⊢
      omega
    · simp only [hd, false_and, if_false] at hb ⊢
      omega

theorem spendable_le_iff {source : Bool}
    (h : Ics20.debit bank source owner denom amount = .ok bank') :
    (∀ denom', bank'.spendable owner denom' ≤ bank.spendable owner denom') ↔ 0 ≤ amount := by
  constructor
  · intro hle
    have h₁ := hle denom
    rw [spendable_debit h, if_pos rfl] at h₁
    omega
  · intro ha denom'
    rw [spendable_debit h]
    split <;> omega

variable {ok : LedgerTransaction → Prop} {tx : LedgerTransaction}

/-- The one set-up command that takes a bank allocates the amount it names. -/
theorem update_of_misc {command : MiscCommands} {signers : List PublicKey}
    (hm : tx.miscCommands = [(command, signers)]) (hv : command.verify tx signers = .ok ())
    (hin : ContractState.bank bank ∈ tx.inputStates) (hout : ContractState.bank bank' ∈ tx.outputs) :
    ∃ amount, tx.Carries P amount ∧ Update P bank amount bank' := by
  rcases MiscCommands.bank_of_verify hv hout with
    ⟨host, hhost, -⟩ | ⟨b, owner, denom, amount, rfl, hb, rfl⟩
  · rw [hhost, List.mem_singleton] at hin
    cases hin
  · rw [hb, List.mem_singleton] at hin
    cases hin
    exact ⟨amount, .fund hm, .allocate⟩

/-- A datagram leaves a bank alone, or updates it with an amount of its own. -/
theorem update_of_datagram {handler : DatagramHandler} {signers : List PublicKey}
    (hd : tx.datagramHandlerCommands = [(handler, signers)]) {outs : List ContractState}
    (hexec : Executes P (.create tx.inputStates tx.referenceStates) signers handler outs)
    (hin : ContractState.bank bank ∈ tx.inputStates) (hout : ContractState.bank bank' ∈ outs) :
    bank' = bank ∨ ∃ amount, tx.Carries P amount ∧ Update P bank amount bank' := by
  have heq : ∀ {b : Bank}, (Context.create tx.inputStates tx.referenceStates).getInput Bank = .ok b →
      bank = b := fun hb => Context.eq_of_getInput hb hin
  cases hexec with
  | createClient | updateClient | connOpenInit | connOpenTry | connOpenAck | connOpenConfirm
  | chanOpenInit | chanOpenTry | chanOpenTryPrevious | chanOpenAck | chanOpenConfirm | chanCloseInit
  | chanCloseConfirm => simp at hout
  | sendPacket _ _ heffect =>
    have hno := heffect.not_bank
    cases heffect with
    | nop => simp at hout
    | ics20 hmsg hamount _ _ _ hbank _ hdebit =>
      obtain rfl := heq hbank
      obtain rfl : bank' = _ := by simpa using hout
      exact .inr ⟨_, .send hd hmsg hamount, .debit hdebit⟩
    | ics20cash => exact absurd (by simpa using hout) (hno nofun bank')
  | recvPacket _ _ _ heffect =>
    have hno := heffect.not_bank
    cases heffect with
    | nop => simp at hout
    | ics20 hdata hamount _ _ _ hbank hcredit =>
      obtain rfl := heq hbank
      obtain rfl : bank' = _ := by simpa using hout
      rcases hcredit with ⟨hcredit, -⟩ | ⟨message, -, rfl, -⟩
      · exact .inr ⟨_, .recv hd hdata hamount, .credit hcredit⟩
      · exact .inl rfl
    | ics20cash => exact absurd (by simpa using hout) (hno nofun bank')
  | acknowledgePacket _ _ _ hack heffect =>
    have hno := heffect.not_bank
    cases heffect with
    | nop => simp at hout
    | ics20Result hbank =>
      obtain rfl := heq hbank
      obtain rfl : bank' = _ := by simpa using hout
      exact .inl rfl
    | ics20Error hdata hamount _ _ _ hbank hrefund =>
      obtain rfl := heq hbank
      obtain rfl : bank' = _ := by simpa using hout
      exact .inr ⟨_, .refund hd hack hdata hamount, .refund hrefund⟩
    | ics20cash => exact absurd (by simpa using hout) (hno nofun bank')

/-- The datagram of a step puts the successor out. -/
theorem Step.executes (h : Step P ok bank tx bank') {handler : DatagramHandler}
    {signers : List PublicKey} (hd : tx.datagramHandlerCommands = [(handler, signers)]) :
    ∃ outs, Executes P (.create tx.inputStates tx.referenceStates) signers handler outs ∧
      ContractState.bank bank' ∈ outs := by
  obtain ⟨-, hv, -, hout⟩ := h
  obtain ⟨outs, ctx', hexec, ho, hr⟩ := verify_executes hd hv
  have houts : ctx'.outStates.states = outs := ho.outStates
  exact ⟨outs, hexec, houts ▸ hr.subset _ hout⟩

theorem Step.update (h : Step P ok bank tx bank') :
    bank' = bank ∨ ∃ amount, tx.Carries P amount ∧ Update P bank amount bank' := by
  have hin := h.2.2.1
  have hv := h.2.1
  unfold Ibc.verify at hv
  split at hv
  · rename_i hm _
    exact .inr (update_of_misc hm hv hin h.2.2.2)
  · rename_i hd
    obtain ⟨outs, hexec, hout⟩ := h.executes hd
    exact update_of_datagram hd hexec hin hout
  · cases hv

theorem Nonneg.step (hn : bank.Nonneg) (h : Step P (·.NonnegAmounts P) bank tx bank') :
    bank'.Nonneg := by
  rcases h.update with rfl | ⟨amount, hcarries, hupdate⟩
  · exact hn
  · exact hn.update (h.1 amount hcarries) hupdate

theorem Nonneg.run {bank₀ : Bank} {tr : List LedgerTransaction} (h₀ : bank₀.Nonneg)
    (hr : Run (Step P (·.NonnegAmounts P)) bank₀ tr bank) : bank.Nonneg :=
  hr.invariant (I := fun _ bank => bank.Nonneg) h₀ fun _ _ _ _ _ hn h => hn.step h

/-- An accepted transfer debits its sender by its amount. -/
theorem Step.debit (h : Step P ok bank tx bank') {anyMsg : Any} {signers : List PublicKey}
    {msg : MsgTransfer} {sender : Address}
    (hd : tx.datagramHandlerCommands = [(.createOutgoingPacket anyMsg, signers)])
    (hmsg : P.unpackMsgTransfer anyMsg = .ok msg)
    (hsender : Address.fromBech32 P.toCrypto msg.sender = .ok sender)
    (hamount : toBigInteger msg.token.amount = .ok amount) :
    ∃ source denom, Ics20.debit bank source sender denom amount = .ok bank' := by
  obtain ⟨outs, hexec, hout⟩ := h.executes hd
  cases hexec with
  | sendPacket _ _ heffect =>
    have hno := heffect.not_bank
    cases heffect with
    | nop => simp at hout
    | ics20 hmsg' hamount' hsender' _ _ hbank _ hdebit =>
      obtain rfl := Except.ok.inj (hmsg.symm.trans hmsg')
      obtain rfl := Except.ok.inj (hamount.symm.trans hamount')
      obtain rfl := Except.ok.inj (hsender.symm.trans hsender')
      obtain rfl := Context.eq_of_getInput hbank h.2.2.1
      obtain rfl : bank' = _ := by simpa using hout
      exact ⟨_, _, hdebit⟩
    | ics20cash => exact absurd (by simpa using hout) (hno nofun bank')

/-- In every state a bank can reach with amounts that are not negative, no balance is negative; and
a transfer leaves its sender no richer exactly when its amount is not negative. -/
theorem nonneg_of_run {host : Host} {tr : List LedgerTransaction}
    (hr : Run (Step P (·.NonnegAmounts P)) (Bank.create host) tr bank) :
    bank.Nonneg ∧ ∀ tx bank' anyMsg signers msg sender amount, Step P (fun _ => True) bank tx bank' →
      tx.datagramHandlerCommands = [(.createOutgoingPacket anyMsg, signers)] →
      P.unpackMsgTransfer anyMsg = .ok msg →
      Address.fromBech32 P.toCrypto msg.sender = .ok sender →
      toBigInteger msg.token.amount = .ok amount →
      ((∀ denom, bank'.spendable sender denom ≤ bank.spendable sender denom) ↔ 0 ≤ amount) := by
  refine ⟨(nonneg_create host).run hr, ?_⟩
  intro tx bank' anyMsg signers msg sender amount h hd hmsg hsender hamount
  obtain ⟨source, denom, hdebit⟩ := h.debit hd hmsg hsender hamount
  exact spendable_le_iff hdebit

end

end Bank

/-! ## A send of a negative amount -/

namespace NegativeAmount
open Sample

/-- Moves that each consume the bank the one before put out. -/
def runBanks (P : Platform) : Chain → Bank → List Move → Result (List LedgerTransaction × Bank)
  | _, b, [] => .ok ([], b)
  | c, b, m :: ms => do
    let tx ← m.build P c
    let c ← c.commit P tx
    require (ContractState.bank b ∈ tx.inputStates)
    let b ← single (filterIsInstance Bank tx.outputs)
    let (txs, b) ← runBanks P c b ms
    .ok (tx :: txs, b)

theorem run_of_banks {P : Platform} {ok : LedgerTransaction → Prop} {ms : List Move} {c : Chain}
    {bank₀ b b' : Bank} {tr txs : List LedgerTransaction} (h : runBanks P c b ms = .ok (txs, b'))
    (hok : ∀ m ∈ ms, ∀ c tx, m.build P c = .ok tx → ok tx) (hr : Run (Bank.Step P ok) bank₀ tr b) :
    Run (Bank.Step P ok) bank₀ (tr ++ txs) b' := by
  induction ms generalizing c b tr txs with
  | nil => cases h; rwa [List.append_nil]
  | cons m ms ih =>
    simp only [runBanks, Result.bind_ok, require_ok, Except.ok.injEq, Prod.mk.injEq] at h
    obtain ⟨tx, hbuild, c₁, hc, -, hin, b₁, hout, ⟨txs', b₂⟩, hrest, rfl, rfl⟩ := h
    have hstep : Bank.Step P ok b tx b₁ :=
      ⟨hok m List.mem_cons_self c tx hbuild, Chain.verify_of_commit hc, hin, mem_of_single hout⟩
    rw [← List.singleton_append, ← List.append_assoc]
    exact ih hrest (fun m hm => hok m (List.mem_cons_of_mem _ hm)) (.snoc hr hstep)

def owner : Address := account 97

def denom : Denom := ⟨⟨"", "atom"⟩⟩

/-- Two transfers: one of a negative amount, one of a positive. -/
def P : Platform :=
  platform [handshake] [{ liveTransfer with token := ⟨"atom", "-5"⟩ }, liveTransfer]

def send (n : UInt8) : Move := onPacket (channel 0) (.createOutgoingPacket ⟨"", [n]⟩)

/-- An allocation and a transfer, on an open channel. -/
def script (n : UInt8) : Result (List LedgerTransaction × Bank) := do
  let (_, c) ← runMoves P (Chain.ofHost (host 1)) opened
  runBanks P c (Bank.create (host 1)) [allocate owner denom 10, send n]

def balances (b : Bank) : Int × Int := (b.spendable owner denom, b.locked.balance denom owner)

theorem script_negative : (fun r => balances r.2) <$> script 0 = .ok (15, -5) := by decide +kernel

theorem script_positive : (fun r => balances r.2) <$> script 1 = .ok (5, 5) := by decide +kernel

theorem run_of_script {n : UInt8} {txs : List LedgerTransaction} {b : Bank}
    {ok : LedgerTransaction → Prop} (h : script n = .ok (txs, b))
    (hok : ∀ m ∈ [allocate owner denom 10, send n], ∀ c tx, m.build P c = .ok tx → ok tx) :
    Run (Bank.Step P ok) (Bank.create (host 1)) txs b := by
  obtain ⟨⟨_, c⟩, -, h⟩ := Result.bind_ok.1 h
  exact run_of_banks h hok .nil

/-- No transaction of the script carries a negative amount that is not in the transfer. -/
theorem nonneg_positive : ∀ m ∈ [allocate owner denom 10, send 1], ∀ c tx, m.build P c = .ok tx →
    tx.NonnegAmounts P := by
  intro m hm c tx hbuild amount hcarries
  simp only [List.mem_cons, List.not_mem_nil, or_false] at hm
  cases hcarries with
  | fund h =>
    have hc := Move.misc_of_build hbuild h
    rcases hm with rfl | rfl <;> cases hc
    decide
  | send h hmsg hamount =>
    have hc := Move.datagram_of_build hbuild h
    rcases hm with rfl | rfl <;> cases hc
    cases hmsg
    have h5 : toBigInteger liveTransfer.token.amount = .ok 5 := by decide
    rw [h5] at hamount
    cases hamount
    decide
  | recv h =>
    have hc := Move.datagram_of_build hbuild h
    rcases hm with rfl | rfl <;> cases hc
  | refund h =>
    have hc := Move.datagram_of_build hbuild h
    rcases hm with rfl | rfl <;> cases hc

/-- The transactions that allocate no negative amount. -/
def AllocatesNonneg (tx : LedgerTransaction) : Prop := ∀ owner denom amount signers,
  tx.miscCommands = [(.fundAllocate owner denom amount, signers)] → 0 ≤ amount

/-- Ten are allocated and minus five sent: the escrow is minus five, and the sender can spend
fifteen. -/
theorem balance_negative : ∃ P tr bank, Run (Bank.Step P AllocatesNonneg) (Bank.create (host 1)) tr bank ∧
    bank.locked.balance denom owner = -5 ∧ bank.spendable owner denom = 15 := by
  obtain ⟨⟨txs, b⟩, hscript, hout⟩ := Result.map_ok.1 script_negative
  obtain ⟨ha, hl⟩ := Prod.mk.inj hout
  have hok : ∀ m ∈ [allocate owner denom 10, send 0], ∀ c tx, m.build P c = .ok tx →
      AllocatesNonneg tx := by
    intro m hm c tx hbuild o d amount signers h
    have hc := Move.misc_of_build hbuild h
    simp only [List.mem_cons, List.not_mem_nil, or_false] at hm
    rcases hm with rfl | rfl <;> cases hc
    decide
  exact ⟨P, txs, b, run_of_script hscript hok, hl, ha⟩

/-- A transfer of five. -/
theorem nonneg_of_run_positive : ∃ tr bank, Run (Bank.Step P (·.NonnegAmounts P)) (Bank.create (host 1)) tr bank ∧
    bank.spendable owner denom = 5 ∧ bank.Nonneg := by
  obtain ⟨⟨txs, b⟩, hscript, hout⟩ := Result.map_ok.1 script_positive
  have hr := run_of_script hscript nonneg_positive
  exact ⟨txs, b, hr, (Prod.mk.inj hout).1, (Bank.nonneg_of_run hr).1⟩

end NegativeAmount

end CordaIbc
