import CordaIbc.Proofs.Uniqueness

/-!
# Who a datagram takes funds from

`ics20cash.Module` asks for the sender's signature before it locks cash or burns vouchers;
`ics20.Module` does not, and no datagram asks for the owner of a voucher that it consumes and does not
burn. `Ics20.Debits` tells from a datagram and its inputs whose balance falls in an account-based bank
(`Executes.bankStep`), so on a ledger spending is authorised exactly when those owners and the owners
of such vouchers signed (`authorised_iff`).
-/

namespace CordaIbc

open ChannelOuterClass (Channel Packet Acknowledgement)
open Context StateClass ContractState

/-- One of the signers' keys is the one the address encodes. -/
def Address.SignedBy (C : Crypto) (signers : List PublicKey) (owner : Address) : Prop :=
  ∃ key ∈ signers, owner.toPublicKey C = .ok key

/-! ## Falling balances -/

namespace BalanceMap
variable {m m' : BalanceMap} {d d' : Denom} {o o' : Address} {a : Int}

theorem up_lt : (m.up d o a).balance d' o' < m.balance d' o' ↔ (d' = d ∧ o' = o) ∧ a < 0 := by
  rw [balance_up]
  split
  · rename_i h
    obtain ⟨rfl, rfl⟩ := h
    simp
  · rename_i h
    simp [h]

theorem down_lt (hd : m.down d o a = .ok m') :
    m'.balance d' o' < m.balance d' o' ↔ (d' = d ∧ o' = o) ∧ 0 < a := by
  rw [balance_down hd]
  split
  · rename_i h
    obtain ⟨rfl, rfl⟩ := h
    simp
  · rename_i h
    simp [h]

end BalanceMap

namespace Bank

/-- The owner has a spendable balance. -/
def Holds (bank : Bank) (owner : Address) : Prop :=
  ∃ denom, 0 < bank.allocated.balance denom owner ∨ 0 < bank.minted.balance denom owner

/-- A spendable balance of the owner falls. -/
def Falls (bank bank' : Bank) (owner : Address) : Prop :=
  ∃ denom, bank'.allocated.balance denom owner < bank.allocated.balance denom owner ∨
    bank'.minted.balance denom owner < bank.minted.balance denom owner

variable {bank bank' : Bank} {owner o : Address} {denom : Denom} {amount : Int}

theorem not_falls_self : ¬ bank.Falls bank owner := fun ⟨_, h⟩ => by
  rcases h with h | h <;> exact absurd h (lt_irrefl _)

theorem lock_falls (h : bank.lock o denom amount = .ok bank') :
    bank.Falls bank' owner ↔ owner = o ∧ 0 < amount := by
  obtain ⟨allocated, hd, rfl⟩ := lock_ok.1 h
  constructor
  · rintro ⟨d, hf | hf⟩
    · obtain ⟨⟨-, he⟩, hp⟩ := (BalanceMap.down_lt hd).1 hf
      exact ⟨he, hp⟩
    · exact absurd hf (lt_irrefl _)
  · rintro ⟨rfl, hp⟩
    exact ⟨denom, .inl ((BalanceMap.down_lt hd).2 ⟨⟨rfl, rfl⟩, hp⟩)⟩

theorem burn_falls (h : bank.burn o denom amount = .ok bank') :
    bank.Falls bank' owner ↔ owner = o ∧ 0 < amount := by
  obtain ⟨minted, hd, rfl⟩ := burn_ok.1 h
  constructor
  · rintro ⟨d, hf | hf⟩
    · exact absurd hf (lt_irrefl _)
    · obtain ⟨⟨-, he⟩, hp⟩ := (BalanceMap.down_lt hd).1 hf
      exact ⟨he, hp⟩
  · rintro ⟨rfl, hp⟩
    exact ⟨denom, .inr ((BalanceMap.down_lt hd).2 ⟨⟨rfl, rfl⟩, hp⟩)⟩

theorem unlock_falls (h : bank.unlock o denom amount = .ok bank') :
    bank.Falls bank' owner ↔ owner = o ∧ amount < 0 := by
  obtain ⟨locked, -, rfl⟩ := unlock_ok.1 h
  constructor
  · rintro ⟨d, hf | hf⟩
    · obtain ⟨⟨-, he⟩, hp⟩ := BalanceMap.up_lt.1 hf
      exact ⟨he, hp⟩
    · exact absurd hf (lt_irrefl _)
  · rintro ⟨rfl, hp⟩
    exact ⟨denom, .inl (BalanceMap.up_lt.2 ⟨⟨rfl, rfl⟩, hp⟩)⟩

theorem mint_falls : bank.Falls (bank.mint o denom amount) owner ↔ owner = o ∧ amount < 0 := by
  constructor
  · rintro ⟨d, hf | hf⟩
    · exact absurd hf (lt_irrefl _)
    · obtain ⟨⟨-, he⟩, hp⟩ := BalanceMap.up_lt.1 hf
      exact ⟨he, hp⟩
  · rintro ⟨rfl, hp⟩
    exact ⟨denom, .inr (BalanceMap.up_lt.2 ⟨⟨rfl, rfl⟩, hp⟩)⟩

end Bank

namespace Ics20
variable {P : Platform} {bank bank' : Bank} {owner o : Address} {denom : Denom} {amount : Int}
  {source : Bool}

theorem debit_falls (h : debit bank source o denom amount = .ok bank') :
    bank.Falls bank' owner ↔ owner = o ∧ 0 < amount := by
  unfold debit at h
  split at h
  · exact Bank.lock_falls h
  · exact Bank.burn_falls h

theorem refund_falls (h : refund bank source o denom amount = .ok bank') :
    bank.Falls bank' owner ↔ owner = o ∧ amount < 0 := by
  unfold refund at h
  split at h
  · exact Bank.unlock_falls h
  · cases h; exact Bank.mint_falls

/-- The escrow covers a receive: nothing is asked of it when the receive mints. -/
def Covered (bank : Bank) (source : Bool) (receiver : Address) (denom : Denom) (amount : Int) :
    Prop :=
  source = true → ∃ d b, denom.removePrefix = .ok d ∧ bank.locked.entry d receiver = some b ∧
    amount ≤ b

theorem credit_falls {packet : Packet} (h : credit P bank source packet o denom amount = .ok bank') :
    bank.Falls bank' owner ↔ owner = o ∧ amount < 0 := by
  unfold credit at h
  split at h
  · obtain ⟨d, -, h⟩ := Result.bind_ok.1 h
    exact Bank.unlock_falls h
  · simp only [Result.bind_ok, Except.ok.injEq] at h
    obtain ⟨_, -, _, -, rfl⟩ := h
    exact Bank.mint_falls

theorem covered_of_credit {packet : Packet}
    (h : credit P bank source packet o denom amount = .ok bank') :
    Covered bank source o denom amount := fun hs => by
  unfold credit at h
  rw [if_pos hs] at h
  obtain ⟨d, hd, h⟩ := Result.bind_ok.1 h
  obtain ⟨locked, hl, -⟩ := Bank.unlock_ok.1 h
  obtain ⟨b, he, hle, -⟩ := BalanceMap.down_ok.1 hl
  exact ⟨d, b, hd, he, hle⟩

theorem credit_of_covered {packet : Packet} {port channel : Identifier}
    (hport : port.id = packet.destinationPort) (hchannel : channel.id = packet.destinationChannel)
    (h : Covered bank source o denom amount) :
    ∃ bank', credit P bank source packet o denom amount = .ok bank' := by
  unfold credit
  split
  · rename_i hs
    obtain ⟨d, b, hd, he, hle⟩ := h hs
    exact ⟨_, Result.bind_ok.2 ⟨d, hd, Bank.unlock_ok.2 ⟨_, BalanceMap.down_ok.2 ⟨b, he, hle, rfl⟩,
      rfl⟩⟩⟩
  · exact ⟨_, Result.bind_ok.2 ⟨port, Identifier.of_ok.2 hport,
      Result.bind_ok.2 ⟨channel, Identifier.of_ok.2 hchannel, rfl⟩⟩⟩

/-- Whose spendable balance a datagram takes from: the sender's when a positive amount is sent, the
receiver's or the sender's when a negative one is received or refunded. -/
inductive Debits (P : Platform) (ctx : Context) : DatagramHandler → Address → Prop
  | send {anyMsg : Any} {host : Host} {chan : IbcChannel} {msg : MsgTransfer} {amount : Int}
    {sender : Address} (hhost : ctx.getReference Host = .ok host)
    (hchan : ctx.getInput IbcChannel = .ok chan)
    (hmodule : host.lookupModule chan.portId = .ok .ics20)
    (hmsg : P.unpackMsgTransfer anyMsg = .ok msg) (hamount : toBigInteger msg.token.amount = .ok amount)
    (hsender : Address.fromBech32 P.toCrypto msg.sender = .ok sender) (hpos : 0 < amount) :
    Debits P ctx (.createOutgoingPacket anyMsg) sender
  | recv {msg : MsgRecvPacket} {host : Host} {port srcPort srcChannel : Identifier} {bank : Bank}
    {data : FungibleTokenPacketData} {amount : Int} {receiver : Address}
    (hhost : ctx.getReference Host = .ok host) (hport : port.id = msg.packet.destinationPort)
    (hmodule : host.lookupModule port = .ok .ics20)
    (hdata : P.toFungibleTokenPacketData msg.packet.data = .ok data)
    (hamount : toBigInteger data.amount = .ok amount)
    (hreceiver : Address.fromBech32 P.toCrypto data.receiver = .ok receiver)
    (hsrcPort : srcPort.id = msg.packet.sourcePort)
    (hsrcChannel : srcChannel.id = msg.packet.sourceChannel)
    (hbank : ctx.getInput Bank = .ok bank)
    (hcovered : Covered bank ((Denom.fromString data.denom).hasPrefix srcPort srcChannel) receiver
      (Denom.fromString data.denom) amount) (hneg : amount < 0) :
    Debits P ctx (.handlePacketRecv msg) receiver
  | ack {msg : MsgAcknowledgement} {host : Host} {port : Identifier} {message : String}
    {data : FungibleTokenPacketData} {amount : Int} {sender : Address}
    (hhost : ctx.getReference Host = .ok host) (hport : port.id = msg.packet.destinationPort)
    (hmodule : host.lookupModule port = .ok .ics20)
    (hack : P.toAcknowledgement msg.acknowledgement = .ok (.error message))
    (hdata : P.toFungibleTokenPacketData msg.packet.data = .ok data)
    (hamount : toBigInteger data.amount = .ok amount)
    (hsender : Address.fromBech32 P.toCrypto data.sender = .ok sender) (hneg : amount < 0) :
    Debits P ctx (.handlePacketAcknowledgement msg) sender

end Ics20

/-! ## Datagrams -/

section
variable {P : Platform} {ctx : Context} {signers : List PublicKey} {handler : DatagramHandler}
  {outs : List ContractState} {owner : Address}

theorem ok_unique {α : Type} {x : Result α} {a a' : α} (h : x = .ok a) (h' : x = .ok a') : a = a' :=
  Except.ok.inj (h.symm.trans h')

/-- What a datagram does to the account-based bank: nothing, or it puts out one successor, in which
the balances of the owners `Debits` tells, and of no others, have fallen. -/
def BankStep (P : Platform) (ctx : Context) (handler : DatagramHandler)
    (outs : List ContractState) : Prop :=
  (∀ bank', ContractState.bank bank' ∉ outs) ∧ (∀ owner, ¬ Ics20.Debits P ctx handler owner) ∨
    ∃ bank bank', ctx.getInput Bank = .ok bank ∧ (∀ b, ContractState.bank b ∈ outs ↔ b = bank') ∧
      ∀ owner, bank.Falls bank' owner ↔ Ics20.Debits P ctx handler owner

theorem SendEffect.bankStep {anyMsg : Any} {host : Host} {chan chan' : IbcChannel} {packet : Packet}
    {m : Module} (h : SendEffect P ctx signers anyMsg chan packet m outs)
    (hhost : ctx.getReference Host = .ok host) (hchan : ctx.getInput IbcChannel = .ok chan)
    (hmodule : host.lookupModule chan.portId = .ok m) :
    BankStep P ctx (.createOutgoingPacket anyMsg) (outs ++ [.channel chan']) := by
  have hm : ∀ owner, Ics20.Debits P ctx (.createOutgoingPacket anyMsg) owner → m = .ics20 := by
    rintro owner ⟨hhost', hchan', hmodule'⟩
    obtain rfl := ok_unique hhost hhost'
    obtain rfl := ok_unique hchan hchan'
    exact ok_unique hmodule hmodule'
  have hno := h.not_bank
  cases h with
  | nop => exact .inl ⟨by simp, fun owner hd => absurd (hm owner hd) nofun⟩
  | @ics20 msg amount sender port channel bank bank' denom hmsg hamount hsender _ _ hbank _ hdebit =>
    refine .inr ⟨bank, bank', hbank, by simp, fun owner => (Ics20.debit_falls hdebit).trans ?_⟩
    constructor
    · rintro ⟨rfl, hpos⟩
      exact .send hhost hchan hmodule hmsg hamount hsender hpos
    · rintro ⟨-, -, -, hmsg', hamount', hsender', hpos⟩
      obtain rfl := ok_unique hmsg hmsg'
      obtain rfl := ok_unique hamount hamount'
      exact ⟨ok_unique hsender' hsender, hpos⟩
  | ics20cash =>
    exact .inl ⟨fun bank' hb => hno nofun bank' (by simpa using hb),
      fun owner hd => absurd (hm owner hd) nofun⟩

theorem RecvEffect.bankStep {msg : MsgRecvPacket} {host : Host} {port dest : Identifier}
    {chan' : IbcChannel} {m : Module} {ack : Acknowledgement}
    (h : RecvEffect P ctx msg.packet m ack outs) (hhost : ctx.getReference Host = .ok host)
    (hport : port.id = msg.packet.destinationPort) (hdest : dest.id = msg.packet.destinationChannel)
    (hmodule : host.lookupModule port = .ok m) :
    BankStep P ctx (.handlePacketRecv msg) (outs ++ [.channel chan']) := by
  have hm : ∀ owner, Ics20.Debits P ctx (.handlePacketRecv msg) owner → m = .ics20 := by
    rintro owner (_ | ⟨hhost', hport', hmodule'⟩)
    obtain rfl := ok_unique hhost hhost'
    obtain rfl := Identifier.ext (hport.trans hport'.symm)
    exact ok_unique hmodule hmodule'
  have hno := h.not_bank
  cases h with
  | nop => exact .inl ⟨by simp, fun owner hd => absurd (hm owner hd) nofun⟩
  | @ics20 data amount receiver srcPort srcChannel bank bank' _ hdata hamount hreceiver hsrcPort
      hsrcChannel hbank hcredit =>
    refine .inr ⟨bank, bank', hbank, by simp, fun owner => ?_⟩
    have hinv : Ics20.Debits P ctx (.handlePacketRecv msg) owner → owner = receiver ∧ amount < 0 ∧
        Ics20.Covered bank ((Denom.fromString data.denom).hasPrefix srcPort srcChannel) receiver
          (Denom.fromString data.denom) amount := by
      rintro (_ | ⟨-, -, -, hdata', hamount', hreceiver', hsrcPort', hsrcChannel', hbank', hcov, hneg⟩)
      obtain rfl := ok_unique hdata hdata'
      obtain rfl := ok_unique hamount hamount'
      obtain rfl := ok_unique hreceiver hreceiver'
      obtain rfl := ok_unique hbank hbank'
      obtain rfl := Identifier.ext (hsrcPort.trans hsrcPort'.symm)
      obtain rfl := Identifier.ext (hsrcChannel.trans hsrcChannel'.symm)
      exact ⟨rfl, hneg, hcov⟩
    rcases hcredit with ⟨hcredit, -⟩ | ⟨message, hcredit, rfl, -⟩
    · refine (Ics20.credit_falls hcredit).trans ⟨?_, fun hd => ⟨(hinv hd).1, (hinv hd).2.1⟩⟩
      rintro ⟨rfl, hneg⟩
      exact .recv hhost hport hmodule hdata hamount hreceiver hsrcPort hsrcChannel hbank
        (Ics20.covered_of_credit hcredit) hneg
    · -- the credit failed, so the escrow does not cover it
      refine ⟨fun hf => absurd hf Bank.not_falls_self, fun hd => ?_⟩
      obtain ⟨bank', hok⟩ := Ics20.credit_of_covered (P := P) hport hdest (hinv hd).2.2
      rw [hcredit] at hok
      cases hok
  | ics20cash =>
    exact .inl ⟨fun bank' hb => hno nofun bank' (by simpa using hb),
      fun owner hd => absurd (hm owner hd) nofun⟩

theorem AckEffect.bankStep {msg : MsgAcknowledgement} {host : Host} {port : Identifier}
    {chan' : IbcChannel} {m : Module} {ack : Acknowledgement}
    (h : AckEffect P ctx msg.packet m ack outs) (hhost : ctx.getReference Host = .ok host)
    (hport : port.id = msg.packet.destinationPort) (hmodule : host.lookupModule port = .ok m)
    (hack : P.toAcknowledgement msg.acknowledgement = .ok ack) :
    BankStep P ctx (.handlePacketAcknowledgement msg) (outs ++ [.channel chan']) := by
  have hm : ∀ owner, Ics20.Debits P ctx (.handlePacketAcknowledgement msg) owner →
      m = .ics20 ∧ ∃ message, ack = .error message := by
    rintro owner (_ | _ | ⟨hhost', hport', hmodule', hack'⟩)
    obtain rfl := ok_unique hhost hhost'
    obtain rfl := Identifier.ext (hport.trans hport'.symm)
    exact ⟨ok_unique hmodule hmodule', _, ok_unique hack hack'⟩
  have hno := h.not_bank
  cases h with
  | nop => exact .inl ⟨by simp, fun owner hd => absurd (hm owner hd).1 nofun⟩
  | @ics20Result _ bank hbank =>
    refine .inr ⟨bank, bank, hbank, by simp, fun owner =>
      ⟨fun hf => absurd hf Bank.not_falls_self, fun hd => ?_⟩⟩
    obtain ⟨message, he⟩ := (hm owner hd).2
    cases he
  | @ics20Error message data amount sender _ _ bank bank' hdata hamount hsender _ _ hbank hrefund =>
    refine .inr ⟨bank, bank', hbank, by simp, fun owner => (Ics20.refund_falls hrefund).trans ?_⟩
    constructor
    · rintro ⟨rfl, hneg⟩
      exact .ack hhost hport hmodule hack hdata hamount hsender hneg
    · rintro (_ | _ | ⟨-, -, -, -, hdata', hamount', hsender', hneg⟩)
      obtain rfl := ok_unique hdata hdata'
      obtain rfl := ok_unique hamount hamount'
      exact ⟨ok_unique hsender' hsender, hneg⟩
  | ics20cash =>
    exact .inl ⟨fun bank' hb => hno nofun bank' (by simpa using hb),
      fun owner hd => absurd (hm owner hd).1 nofun⟩

theorem Executes.bankStep (h : Executes P ctx signers handler outs) :
    BankStep P ctx handler outs := by
  cases h with
  | sendPacket hhost hmodule heffect hsend => exact heffect.bankStep hhost hsend.input hmodule
  | recvPacket hhost hport hmodule heffect hrecv =>
    exact heffect.bankStep hhost hport hrecv.channel hmodule
  | acknowledgePacket hhost hport hmodule hack heffect _ =>
    exact heffect.bankStep hhost hport hmodule hack
  | _ => exact .inl ⟨by simp, nofun⟩

/-- A send through `ics20cash.Module` consumes cash or vouchers of a signer. -/
theorem Executes.owner_signed {anyMsg : Any} {source : Bool}
    (h : Executes P ctx signers (.createOutgoingPacket anyMsg) outs)
    (ht : Ics20Cash.Takes P ctx anyMsg source) :
    if source then ∀ c ∈ ctx.getInputs Cash, c.owner.owningKey ∈ signers
    else ∀ v ∈ ctx.getInputs Voucher, v.owner.owningKey ∈ signers := by
  cases h with
  | sendPacket hhost hmodule heffect hsend =>
    obtain rfl := ht.module_eq hhost hsend.input hmodule
    cases heffect with
    | ics20cash hmsg _ _ hport hchannel hbank hdenom hdebit _ hkey hsigned =>
      have hsource := ht.source_eq hmsg hbank hdenom hport hchannel
      rw [hsource] at hdebit
      unfold Ics20Cash.debit at hdebit
      split at hdebit
      · obtain ⟨⟨key', hkey', hc⟩, -⟩ := Ics20Cash.lockCash_ok hdebit
        obtain rfl := ok_unique hkey hkey'
        rw [if_pos ‹_›]
        exact fun c hmem => by rw [hc c hmem]; exact hsigned
      · obtain ⟨bank', change, hburn, -⟩ := Ics20Cash.burnVouchers_ok hdebit
        obtain ⟨key', hkey', hv⟩ := hburn.owner
        obtain rfl := ok_unique hkey hkey'
        rw [if_neg ‹_›]
        exact fun v hmem => by rw [hv v hmem]; exact hsigned

/-- Who is debited has a balance in a bank that is consumed. -/
theorem Ics20.Debits.exists_bank (hdebits : Ics20.Debits P ctx handler owner)
    (h : Executes P ctx signers handler outs) : ∃ bank, ContractState.bank bank ∈ ctx.inStates := by
  rcases h.bankStep with ⟨-, hno⟩ | ⟨bank, -, hbank, -, -⟩
  · exact absurd hdebits (hno owner)
  · exact ⟨bank, mem_of_getInput hbank⟩

end

/-! ## The ledger -/

namespace LedgerTransaction

/-- The transaction takes from a balance of the owner in a bank that it consumes: the balance is lower
in the bank that it puts out, or it puts out none. -/
def TakesFrom (tx : LedgerTransaction) (bank : Bank) (owner : Address) : Prop :=
  (∃ bank', ContractState.bank bank' ∈ tx.outputs ∧ bank.Falls bank' owner) ∨
    (∀ bank', ContractState.bank bank' ∉ tx.outputs) ∧ bank.Holds owner

/-- Whoever loses spendable funds in a datagram signed it: the owner of a balance that it takes from,
of cash that it locks, of a voucher that it consumes. Cash that it consumes otherwise is for the
contract of cash. -/
structure Authorised (P : Platform) (tx : LedgerTransaction) (handler : DatagramHandler)
    (signers : List PublicKey) : Prop where
  bank : ∀ bank owner, ContractState.bank bank ∈ tx.inputStates → tx.TakesFrom bank owner →
    owner.SignedBy P.toCrypto signers
  cash : ∀ anyMsg cash, handler = .createOutgoingPacket anyMsg →
    Ics20Cash.Takes P (.create tx.inputStates tx.referenceStates) anyMsg true →
    ContractState.cash cash ∈ tx.inputStates → cash.owner.owningKey ∈ signers
  voucher : ∀ voucher, ContractState.voucher voucher ∈ tx.inputStates →
    0 < voucher.amount.quantity → voucher.owner.owningKey ∈ signers

/-- The datagram is a send that burns the vouchers it consumes. -/
def Burns (P : Platform) (tx : LedgerTransaction) (handler : DatagramHandler) : Prop :=
  ∃ anyMsg, handler = .createOutgoingPacket anyMsg ∧
    Ics20Cash.Takes P (.create tx.inputStates tx.referenceStates) anyMsg false

end LedgerTransaction

section
variable {P : Platform} {l₀ l : Ledger} {tr : List LedgerTransaction} {tx : LedgerTransaction}
  {handler : DatagramHandler} {signers : List PublicKey}

/-- A datagram on a ledger that consumes a bank puts out its successor, in which the balances of the
owners `Debits` tells, and of no others, have fallen. -/
theorem Ledger.Inv.takesFrom_iff (hi : l.Inv) (hc : Ledger.Commits P l tx) (ha : Accepted tx)
    {outs : List ContractState}
    (hexec : Executes P (.create tx.inputStates tx.referenceStates) signers handler outs)
    (hperm : tx.outputs.Perm outs) {bank : Bank} (hbank : ContractState.bank bank ∈ tx.inputStates)
    {owner : Address} : tx.TakesFrom bank owner ↔
      Ics20.Debits P (.create tx.inputStates tx.referenceStates) handler owner := by
  obtain ⟨o, ho, -, hu⟩ := hi.exists_updates hc ha hbank (k := (bank.baseId, bankId)) rfl
  cases o <;> first | exact hu.elim | skip
  case bank successor =>
    rcases hexec.bankStep with ⟨hno, -⟩ | ⟨bank₁, bank', hin, hout, hfalls⟩
    · exact absurd (hperm.mem_iff.1 ho) (hno successor)
    · obtain rfl := eq_of_getInput hin hbank
      rw [← hfalls owner]
      constructor
      · rintro (⟨bank'', hmem, hf⟩ | ⟨hno, -⟩)
        · rwa [(hout bank'').1 (hperm.mem_iff.1 hmem)] at hf
        · exact absurd ho (hno successor)
      · exact fun hf => .inl ⟨bank', hperm.mem_iff.2 ((hout bank').2 rfl), hf⟩

/-- On a ledger that is reached with distinct outputs a datagram with distinct outputs is signed by
whoever loses spendable funds in it, exactly when the owners that an account-based bank debits signed,
and the owners of the vouchers that it consumes and does not burn. -/
theorem authorised_iff (hinj : P.toCrypto.UniqueNames) (h₀ : l₀.Start)
    (hr : Run (Ledger.Step P LedgerTransaction.DistinctOutputs) l₀ tr l) (hc : Ledger.Commits P l tx)
    (hd : tx.datagramHandlerCommands = [(handler, signers)]) (hv : Ibc.verify P tx = .ok ())
    (hn : tx.DistinctOutputs) :
    tx.Authorised P handler signers ↔
      (∀ owner, Ics20.Debits P (.create tx.inputStates tx.referenceStates) handler owner →
        owner.SignedBy P.toCrypto signers) ∧
      (¬ tx.Burns P handler → ∀ voucher, ContractState.voucher voucher ∈ tx.inputStates →
        0 < voucher.amount.quantity → voucher.owner.owningKey ∈ signers) := by
  obtain ⟨hi, -⟩ := Ledger.Inv.run hinj h₀ hr
  have ha := hc.accepted hinj hn
  obtain ⟨outs, ctx', hexec, ho, hverified⟩ := verify_executes hd hv
  have houts : ctx'.outStates.states = outs := by rw [ho.outStates]; rfl
  have hperm : tx.outputs.Perm outs :=
    houts ▸ (Context.perm_iff_nodup hverified.length hverified.subset).2 (hn (by simp [hd]))
  constructor
  · intro hauth
    refine ⟨fun owner hdebits => ?_, fun _ => hauth.voucher⟩
    obtain ⟨bank, hbank⟩ := hdebits.exists_bank hexec
    exact hauth.bank bank owner hbank ((hi.takesFrom_iff hc ha hexec hperm hbank).2 hdebits)
  · rintro ⟨hdebits, hvouchers⟩
    refine ⟨fun bank owner hbank ht => ?_, fun anyMsg cash he ht hcash => ?_,
      fun voucher hvoucher hpos => ?_⟩
    · exact hdebits owner ((hi.takesFrom_iff hc ha hexec hperm hbank).1 ht)
    · subst he
      exact hexec.owner_signed ht cash (mem_filterIsInstance.2 hcash)
    · by_cases hb : tx.Burns P handler
      · obtain ⟨anyMsg, rfl, ht⟩ := hb
        exact hexec.owner_signed ht voucher (mem_filterIsInstance.2 hvoucher)
      · exact hvouchers hb voucher hvoucher hpos

end

/-! ### A send nobody signed -/

namespace UnsignedSend
open Sample

def owner : Address := account 97

def denom : Denom := ⟨⟨"", "atom"⟩⟩

def transfer : MsgTransfer :=
  { sourcePort := "transfer", sourceChannel := "channel-0", token := ⟨"atom", "5"⟩, sender := addressA
    receiver := addressB, timeoutHeight := .default, timeoutTimestamp := 0 }

def P : Platform := platform [handshake] [transfer]

/-- A host with a bank and an open channel, and 10 allocated to an owner. -/
def funded : List Proposal :=
  [hostCreate "jp.datachain.corda.ibc.ics20.Module",
    bankCreate (out 1 0) .bankCreate (fun h => .bank (.create h)) []] ++ openChannel 3 (out 2 0) ++
  [{ inputs := [out 2 1], references := [], command := .misc (.fundAllocate owner denom 10)
     outputs := fun
      | [.bank b] => [.bank (b.allocate owner denom 10)]
      | _ => [] }]

def handler : DatagramHandler := .createOutgoingPacket ⟨"", [0]⟩

/-- A transfer of 5 without a signature. -/
def send : Proposal := datagram [out 7 0, out 8 0] [out 6 0, out 5 0, out 3 1] handler

/-- The allocated balance of the owner before and after a transaction. -/
def moved (tx : LedgerTransaction) : Option (Int × Int) :=
  match filterIsInstance Bank tx.inputStates, filterIsInstance Bank tx.outputs with
  | [b], [b'] => some (b.allocated.balance denom owner, b'.allocated.balance denom owner)
  | _, _ => none

/-- The script of the transfer, run through. -/
def run : Result (Option (Int × Int) × Bool × Bool) := do
  let (txs, l) ← runScript P 1 start funded
  let tx ← send.build P 9 l
  let _ ← l.commit P tx
  .ok (moved tx, tx.touchesIbc, (txs ++ [tx]).all fun tx => decide tx.DistinctOutputs)

theorem run_eq : run = .ok (some (10, 5), true, true) := by decide +kernel

/-- A ledger that is reached with distinct outputs, and the transaction of the transfer, which the
contract accepts. -/
theorem exists_send : ∃ tr l tx bank bank',
    Run (Ledger.Step P LedgerTransaction.DistinctOutputs) start tr l ∧ Ledger.Commits P l tx ∧
    tx.DistinctOutputs ∧ tx.datagramHandlerCommands = [(handler, [])] ∧
    Ibc.verify P tx = .ok () ∧ ContractState.bank bank ∈ tx.inputStates ∧
    ContractState.bank bank' ∈ tx.outputs ∧ bank.allocated.balance denom owner = 10 ∧
    bank'.allocated.balance denom owner = 5 := by
  have h := run_eq
  simp only [run, Result.bind_ok, Except.ok.injEq, Prod.mk.injEq] at h
  obtain ⟨⟨txs, l⟩, hscript, tx, hbuild, l', hcommit, hmoved, htouch, hall⟩ := h
  have hdistinct : ∀ tx' ∈ txs ++ [tx], tx'.DistinctOutputs := fun tx' htx' =>
    of_decide_eq_true (List.all_eq_true.1 hall tx' htx')
  have hr := run_of_script (t := []) hscript (fun tx' htx' => hdistinct tx' (by simp [htx'])) .nil
  have hc := (Ledger.commit_ok.1 hcommit).1
  have hcommands := Proposal.build_commands hbuild
  have hdatagram : tx.datagramHandlerCommands = [(handler, [])] := by
    rw [LedgerTransaction.datagramHandlerCommands, hcommands]; rfl
  unfold moved at hmoved
  split at hmoved
  · rename_i bank bank' hin hout
    rw [Option.some.injEq, Prod.mk.injEq] at hmoved
    exact ⟨_, l, tx, bank, bank', hr, hc, hdistinct tx (by simp), hdatagram, hc.verify htouch,
      mem_filterIsInstance.1 (by rw [hin]; exact List.mem_singleton_self _),
      mem_filterIsInstance.1 (by rw [hout]; exact List.mem_singleton_self _), hmoved.1, hmoved.2⟩
  · cases hmoved

theorem not_signed : ¬ owner.SignedBy P.toCrypto [] := by
  rintro ⟨key, hkey, -⟩
  cases hkey

/-- On a reachable ledger the contract accepts a transfer that nobody signed and that takes 5 of 10
from its sender. -/
theorem unsigned_send : ∃ tr l tx bank, start.Start ∧
    Run (Ledger.Step P LedgerTransaction.DistinctOutputs) start tr l ∧ Ledger.Commits P l tx ∧
    tx.DistinctOutputs ∧ tx.datagramHandlerCommands = [(handler, [])] ∧
    Ibc.verify P tx = .ok () ∧ ContractState.bank bank ∈ tx.inputStates ∧ tx.TakesFrom bank owner ∧
    owner.toPublicKey P.toCrypto = .ok ⟨[97]⟩ ∧ ¬ tx.Authorised P handler [] := by
  obtain ⟨tr, l, tx, bank, bank', hr, hc, hn, hd, hv, hin, hout, h₁, h₂⟩ := exists_send
  have htakes : tx.TakesFrom bank owner :=
    .inl ⟨bank', hout, denom, .inl (by rw [h₁, h₂]; decide)⟩
  exact ⟨tr, l, tx, bank, start_start, hr, hc, hn, hd, hv, hin, htakes, by decide,
    fun ha => not_signed (ha.bank bank owner hin htakes)⟩

end UnsignedSend

open UnsignedSend in
/-- `authorised_iff` on the unsigned transfer. -/
theorem authorised_iff_unsigned : ∃ tx : LedgerTransaction, tx.Authorised P handler [] ↔
    (∀ owner, Ics20.Debits P (.create tx.inputStates tx.referenceStates) handler owner →
      owner.SignedBy P.toCrypto []) ∧
    (¬ tx.Burns P handler → ∀ voucher, ContractState.voucher voucher ∈ tx.inputStates →
      0 < voucher.amount.quantity → voucher.owner.owningKey ∈ ([] : List PublicKey)) := by
  obtain ⟨_, _, tx, _, _, hr, hc, hn, hd, hv, -⟩ := exists_send
  exact ⟨tx, authorised_iff Sample.uniqueNames Sample.start_start hr hc hd hv hn⟩

end CordaIbc
