import CordaIbc.Lib.Weighed
import CordaIbc.Proofs.PacketLog
import CordaIbc.Proofs.Vouchers

/-!
# What the packets of a host moved

On a host whose ports are all bound to `ics20.Module`, the escrow and the vouchers of the bank follow
from the packets sent, credited and refunded so far: a transaction moves the bank the way its packet
says (`Chain.BankMove`), so the totals of a denomination are sums over the three logs
(`Chain.BankLog`).
-/

namespace CordaIbc

open ChannelOuterClass (Packet Acknowledgement)
open ContractState StateClass

/-! ## What a packet says -/

namespace Ics20
variable (P : Platform)

/-- The denomination and the amount of a packet. -/
def tokenOf (packet : Packet) : Result (Denom × Int) := do
  let data ← P.toFungibleTokenPacketData packet.data
  let amount ← toBigInteger data.amount
  .ok (Denom.fromString data.denom, amount)

/-- The denomination goes back where the packet comes from. -/
def returns (packet : Packet) (denom : Denom) : Bool :=
  DenomPath.hasPrefixes denom.denomTrace.path [packet.sourcePort, packet.sourceChannel]

/-- The denomination behind the end the packet is for. -/
def carried (packet : Packet) (denom : Denom) : Result Denom := do
  let port ← Identifier.of packet.destinationPort
  let channel ← Identifier.of packet.destinationChannel
  .ok (denom.addPath port channel)

/-- The amount of a packet whose denomination meets a condition. -/
def amountIf (q : Denom → Bool) (packet : Packet) : Int :=
  match tokenOf P packet with
  | .ok (denom, amount) => if q denom then amount else 0
  | .error _ => 0

/-- What the packet locks of a denomination where it is sent. -/
def lockedBy (d : Denom) (packet : Packet) : Int :=
  amountIf P (fun denom => !returns packet denom && denom = d) packet

/-- What it burns there. -/
def burnedBy (d : Denom) (packet : Packet) : Int :=
  amountIf P (fun denom => returns packet denom && denom = d) packet

/-- What it unlocks of a denomination where it is received. -/
def unlockedBy (d : Denom) (packet : Packet) : Int :=
  amountIf P (fun denom => returns packet denom && denom.removePrefix = .ok d) packet

/-- What it mints there. -/
def mintedBy (d : Denom) (packet : Packet) : Int :=
  amountIf P (fun denom => !returns packet denom && carried packet denom = .ok d) packet

variable {P} {packet : Packet} {denom d : Denom} {amount : Int} {q : Denom → Bool}
  {port channel : Identifier}

theorem hasPrefix_eq_returns (hport : port.id = packet.sourcePort)
    (hchannel : channel.id = packet.sourceChannel) :
    denom.hasPrefix port channel = returns packet denom := by
  rw [Denom.hasPrefix, hport, hchannel, returns]

theorem carried_of (hport : port.id = packet.destinationPort)
    (hchannel : channel.id = packet.destinationChannel) :
    carried packet denom = .ok (denom.addPath port channel) := by
  rw [carried, Identifier.of_ok.2 hport, Identifier.of_ok.2 hchannel]
  rfl

theorem tokenOf_of {data : FungibleTokenPacketData}
    (hdata : P.toFungibleTokenPacketData packet.data = .ok data)
    (hamount : toBigInteger data.amount = .ok amount) :
    tokenOf P packet = .ok (Denom.fromString data.denom, amount) := by
  simp only [tokenOf, hdata, hamount, Result.ok_bind]

/-- The packet of a transfer names what it transfers. -/
theorem tokenOf_transferPacket (chan : IbcChannel)
    (hjson : ∀ data, P.toFungibleTokenPacketData (P.toJson data) = .ok data) {msg : MsgTransfer}
    (hamount : toBigInteger msg.token.amount = .ok amount) (hplain : denom.Plain) :
    tokenOf P (transferPacket P msg denom chan) = .ok (denom, amount) := by
  have hdata : P.toFungibleTokenPacketData (transferPacket P msg denom chan).data =
      .ok ⟨denom.toString, msg.token.amount, msg.sender, msg.receiver⟩ := hjson _
  have h := tokenOf_of hdata hamount
  rwa [Denom.fromString_toString hplain] at h

theorem amountIf_of (h : tokenOf P packet = .ok (denom, amount)) :
    amountIf P q packet = if q denom then amount else 0 := by
  rw [amountIf, h]

/-- The packet is of an amount that is not negative, if any. -/
def NonnegToken (P : Platform) (packet : Packet) : Prop :=
  ∀ denom amount, tokenOf P packet = .ok (denom, amount) → 0 ≤ amount

theorem NonnegToken.amountIf (h : NonnegToken P packet) : 0 ≤ amountIf P q packet := by
  unfold Ics20.amountIf
  split
  · rename_i denom amount ht
    split
    · exact h denom amount ht
    · exact le_rfl
  · exact le_rfl

end Ics20

/-! ## The logs -/

namespace LedgerTransaction

/-- The packet a transaction receives with success. -/
def credited? (tx : LedgerTransaction) : Option Packet :=
  tx.received?.bind fun (packet, ack) => if ack = successAck then some packet else none

/-- The packet a transaction takes back on an error acknowledgement. -/
def refunded? (P : Platform) (tx : LedgerTransaction) : Option Packet :=
  match tx.datagramHandlerCommands with
  | [(.handlePacketAcknowledgement msg, _)] =>
    match P.toAcknowledgement msg.acknowledgement, tx.channelOut? with
    | .ok (.error _), some _ => some msg.packet
    | _, _ => none
  | _ => none

variable {P : Platform} {tx : LedgerTransaction} {packet : Packet}

theorem credited_iff : tx.credited? = some packet ↔ tx.received? = some (packet, successAck) := by
  unfold credited?
  rw [Option.bind_eq_some_iff]
  constructor
  · rintro ⟨⟨p, ack⟩, hr, h⟩
    simp only at h
    split at h
    · rename_i hack
      cases h
      rw [hr, hack]
    · cases h
  · intro h
    exact ⟨_, h, if_pos rfl⟩

theorem credited_eq_none (h : tx.received? = none) : tx.credited? = none := by
  rw [credited?, h]
  rfl

theorem credited_eq_none_of_error {message : String}
    (h : tx.received? = some (packet, .error message)) : tx.credited? = none := by
  rw [credited?, h]
  rfl

theorem refunded_eq_none_of_channelOut (h : tx.channelOut? = none) : tx.refunded? P = none := by
  unfold refunded?
  split
  · rw [h]
    split
    · rename_i h'
      cases h'
    · rfl
  · rfl

theorem refunded_eq_none_of_ne {handler : DatagramHandler} {signers : List PublicKey}
    (hd : tx.datagramHandlerCommands = [(handler, signers)])
    (hne : ∀ msg, handler ≠ .handlePacketAcknowledgement msg) : tx.refunded? P = none := by
  unfold refunded?
  rw [hd]
  cases handler <;> first | rfl | exact absurd rfl (hne _)

theorem refunded_of {msg : MsgAcknowledgement} {signers : List PublicKey} {message : String}
    {chan : IbcChannel} (hd : tx.datagramHandlerCommands = [(.handlePacketAcknowledgement msg, signers)])
    (hack : P.toAcknowledgement msg.acknowledgement = .ok (.error message))
    (hout : tx.channelOut? = some chan) : tx.refunded? P = some msg.packet := by
  unfold refunded?
  rw [hd]
  simp only [hack, hout]

theorem refunded_eq_none_of_result {msg : MsgAcknowledgement} {signers : List PublicKey} {bytes : Bytes}
    (hd : tx.datagramHandlerCommands = [(.handlePacketAcknowledgement msg, signers)])
    (hack : P.toAcknowledgement msg.acknowledgement = .ok (.result bytes)) :
    tx.refunded? P = none := by
  unfold refunded?
  rw [hd]
  simp only [hack]

end LedgerTransaction

/-- The packets received with success in a run of a host. -/
def creditedPackets (tr : List LedgerTransaction) : List Packet := tr.filterMap (·.credited?)

/-- The packets refunded in a run of a host. -/
def refundedPackets (P : Platform) (tr : List LedgerTransaction) : List Packet :=
  tr.filterMap (·.refunded? P)

section
variable {P : Platform} {tr : List LedgerTransaction} {tx : LedgerTransaction} {packet : Packet}

theorem creditedPackets_snoc :
    creditedPackets (tr ++ [tx]) = creditedPackets tr ++ tx.credited?.toList := by
  unfold creditedPackets
  cases h : tx.credited? <;> simp [h]

theorem refundedPackets_snoc :
    refundedPackets P (tr ++ [tx]) = refundedPackets P tr ++ (tx.refunded? P).toList := by
  unfold refundedPackets
  cases h : tx.refunded? P <;> simp [h]

theorem creditedPackets_eq : creditedPackets tr =
    (receivedPackets tr).filterMap fun (p, ack) => if ack = successAck then some p else none := by
  rw [receivedPackets, List.filterMap_filterMap]
  rfl

theorem mem_creditedPackets :
    packet ∈ creditedPackets tr ↔ (packet, successAck) ∈ receivedPackets tr := by
  simp only [creditedPackets, receivedPackets, List.mem_filterMap, LedgerTransaction.credited_iff]

end

/-! ## What a transaction does to the bank -/

namespace Ics20

/-- A bank before and after it moves the packet sent, credited or refunded. -/
inductive Moves (P : Platform) (bank bank' : Bank) :
    Option Packet → Option Packet → Option Packet → Prop
  | sends {packet : Packet} {denom : Denom} {amount : Int} {sender : Address}
    (htoken : tokenOf P packet = .ok (denom, amount))
    (hdebit : debit bank (!returns packet denom) sender denom amount = .ok bank') :
    Moves P bank bank' (some packet) none none
  | credits {packet : Packet} {denom : Denom} {amount : Int} {receiver : Address}
    (htoken : tokenOf P packet = .ok (denom, amount))
    (hcredit : credit P bank (returns packet denom) packet receiver denom amount = .ok bank') :
    Moves P bank bank' none (some packet) none
  | refunds {packet : Packet} {denom : Denom} {amount : Int} {sender : Address}
    (htoken : tokenOf P packet = .ok (denom, amount))
    (hrefund : refund bank (!returns packet denom) sender denom amount = .ok bank') :
    Moves P bank bank' none none (some packet)

variable {P : Platform} {bank bank' : Bank} {sent credited refunded : Option Packet} {d : Denom}

/-- The escrow of a denomination follows the packets. -/
theorem Moves.locked (h : Moves P bank bank' sent credited refunded) :
    bank'.locked.total d = bank.locked.total d + weigh (lockedBy P d) sent.toList -
      weigh (unlockedBy P d) credited.toList - weigh (lockedBy P d) refunded.toList := by
  cases h with
  | @sends packet denom amount sender htoken hdebit =>
    have hlocked : lockedBy P d packet = if !returns packet denom && denom = d then amount else 0 :=
      amountIf_of htoken
    cases hr : returns packet denom with
    | true =>
      rw [hr] at hdebit hlocked
      obtain ⟨minted, -, rfl⟩ := Bank.burn_ok.1 hdebit
      simp [hlocked]
    | false =>
      rw [hr] at hdebit hlocked
      obtain ⟨allocated, -, rfl⟩ := Bank.lock_ok.1 hdebit
      simp [hlocked, BalanceMap.total_up, eq_comm]
  | @credits packet denom amount receiver htoken hcredit =>
    have hunlocked : unlockedBy P d packet =
        if returns packet denom && denom.removePrefix = .ok d then amount else 0 := amountIf_of htoken
    cases hr : returns packet denom with
    | true =>
      rw [hr] at hcredit hunlocked
      obtain ⟨d', hd', hunlock⟩ := Result.bind_ok.1 hcredit
      obtain ⟨locked, hdown, rfl⟩ := Bank.unlock_ok.1 hunlock
      simp [hunlocked, hd', BalanceMap.total_down hdown, eq_comm]
    | false =>
      rw [hr] at hcredit hunlocked
      simp only [credit, Bool.false_eq_true, if_false, Result.bind_ok, Except.ok.injEq] at hcredit
      obtain ⟨_, -, _, -, rfl⟩ := hcredit
      simp [hunlocked, Bank.mint, Bank.recordDenom]
  | @refunds packet denom amount sender htoken hrefund =>
    have hlocked : lockedBy P d packet = if !returns packet denom && denom = d then amount else 0 :=
      amountIf_of htoken
    cases hr : returns packet denom with
    | true =>
      rw [hr] at hrefund hlocked
      obtain rfl := Except.ok.inj hrefund
      simp [hlocked, Bank.mint]
    | false =>
      rw [hr] at hrefund hlocked
      obtain ⟨locked, hdown, rfl⟩ := Bank.unlock_ok.1 hrefund
      simp [hlocked, BalanceMap.total_down hdown, eq_comm]

/-- So do the vouchers. -/
theorem Moves.minted (h : Moves P bank bank' sent credited refunded) :
    bank'.minted.total d = bank.minted.total d - weigh (burnedBy P d) sent.toList +
      weigh (mintedBy P d) credited.toList + weigh (burnedBy P d) refunded.toList := by
  cases h with
  | @sends packet denom amount sender htoken hdebit =>
    have hburned : burnedBy P d packet = if returns packet denom && denom = d then amount else 0 :=
      amountIf_of htoken
    cases hr : returns packet denom with
    | true =>
      rw [hr] at hdebit hburned
      obtain ⟨minted, hdown, rfl⟩ := Bank.burn_ok.1 hdebit
      simp [hburned, BalanceMap.total_down hdown, eq_comm]
    | false =>
      rw [hr] at hdebit hburned
      obtain ⟨allocated, -, rfl⟩ := Bank.lock_ok.1 hdebit
      simp [hburned]
  | @credits packet denom amount receiver htoken hcredit =>
    have hminted : mintedBy P d packet =
        if !returns packet denom && carried packet denom = .ok d then amount else 0 := amountIf_of htoken
    cases hr : returns packet denom with
    | true =>
      rw [hr] at hcredit hminted
      obtain ⟨d', -, hunlock⟩ := Result.bind_ok.1 hcredit
      obtain ⟨locked, -, rfl⟩ := Bank.unlock_ok.1 hunlock
      simp [hminted]
    | false =>
      rw [hr] at hcredit hminted
      simp only [credit, Bool.false_eq_true, if_false, Result.bind_ok, Except.ok.injEq,
        Identifier.of_ok] at hcredit
      obtain ⟨port, hport, channel, hchannel, rfl⟩ := hcredit
      rw [carried_of hport hchannel] at hminted
      simp [hminted, Bank.mint, Bank.recordDenom, BalanceMap.total_up, eq_comm]
  | @refunds packet denom amount sender htoken hrefund =>
    have hburned : burnedBy P d packet = if returns packet denom && denom = d then amount else 0 :=
      amountIf_of htoken
    cases hr : returns packet denom with
    | true =>
      rw [hr] at hrefund hburned
      obtain rfl := Except.ok.inj hrefund
      simp [hburned, Bank.mint, BalanceMap.total_up, eq_comm]
    | false =>
      rw [hr] at hrefund hburned
      obtain ⟨locked, -, rfl⟩ := Bank.unlock_ok.1 hrefund
      simp [hburned]

/-- What is minted back or for a receiver keeps the vouchers at least zero. -/
theorem Moves.minted_nonneg (h : Moves P bank bank' sent credited refunded)
    (hpos : ∀ packet, credited = some packet ∨ refunded = some packet → NonnegToken P packet)
    (hn : bank.minted.Nonneg) : bank'.minted.Nonneg := by
  cases h with
  | @sends packet denom amount sender _ hdebit =>
    cases hr : returns packet denom with
    | true =>
      rw [hr] at hdebit
      obtain ⟨minted, hdown, rfl⟩ := Bank.burn_ok.1 hdebit
      exact hn.down hdown
    | false =>
      rw [hr] at hdebit
      obtain ⟨allocated, -, rfl⟩ := Bank.lock_ok.1 hdebit
      exact hn
  | @credits packet denom amount receiver htoken hcredit =>
    cases hr : returns packet denom with
    | true =>
      rw [hr] at hcredit
      obtain ⟨d', -, hunlock⟩ := Result.bind_ok.1 hcredit
      obtain ⟨locked, -, rfl⟩ := Bank.unlock_ok.1 hunlock
      exact hn
    | false =>
      rw [hr] at hcredit
      simp only [credit, Bool.false_eq_true, if_false, Result.bind_ok, Except.ok.injEq] at hcredit
      obtain ⟨_, -, _, -, rfl⟩ := hcredit
      exact hn.up (hpos packet (.inl rfl) denom amount htoken)
  | @refunds packet denom amount sender htoken hrefund =>
    cases hr : returns packet denom with
    | true =>
      rw [hr] at hrefund
      obtain rfl := Except.ok.inj hrefund
      exact hn.up (hpos packet (.inr rfl) denom amount htoken)
    | false =>
      rw [hr] at hrefund
      obtain ⟨locked, -, rfl⟩ := Bank.unlock_ok.1 hrefund
      exact hn

end Ics20

namespace Chain

/-- Every port is bound to `ics20.Module`. -/
def OnlyIcs20 (c : Chain) : Prop := ∀ port m, c.module? port = some m → m = .ics20

/-- The escrow of the bank, empty without one. -/
def locked (c : Chain) : BalanceMap :=
  match c.states.lookup bankId with
  | some (.bank b) => b.locked
  | _ => ∅

/-- The vouchers of the bank, none without one. -/
def minted (c : Chain) : BalanceMap :=
  match c.states.lookup bankId with
  | some (.bank b) => b.minted
  | _ => ∅

/-- A transaction leaves the escrow and the vouchers alone, or moves its packet. -/
inductive BankMove (P : Platform) (c : Chain) (tx : LedgerTransaction) : Prop
  | rests (hsent : tx.sent? = none) (hcredited : tx.credited? = none)
    (hrefunded : tx.refunded? P = none) (hlocked : (c.apply tx).locked = c.locked)
    (hminted : (c.apply tx).minted = c.minted)
  | moves {bank bank' : Bank} (hbank : c.states.lookup bankId = some (.bank bank))
    (hbank' : (c.apply tx).states.lookup bankId = some (.bank bank'))
    (hmoves : Ics20.Moves P bank bank' tx.sent? tx.credited? (tx.refunded? P))

section
variable {P : Platform} {c : Chain} {tx : LedgerTransaction} {outs : List ContractState} {bank : Bank}

theorem locked_of_lookup (h : c.states.lookup bankId = some (.bank bank)) :
    c.locked = bank.locked := by
  rw [locked, h]

theorem minted_of_lookup (h : c.states.lookup bankId = some (.bank bank)) :
    c.minted = bank.minted := by
  rw [minted, h]

theorem accounts_of_no_bank (h : ∀ b, c.states.lookup bankId ≠ some (.bank b)) :
    c.locked = ∅ ∧ c.minted = ∅ := by
  unfold locked minted
  split
  · rename_i b hb
    exact absurd hb (h b)
  · exact ⟨rfl, rfl⟩

/-- Without a bank among the outputs, the accounts stay as they are. -/
theorem Inv.accounts_rest (hi : c.Inv) (ht : Takes P c tx outs) (hno : ∀ b, ContractState.bank b ∉ outs) :
    (c.apply tx).locked = c.locked ∧ (c.apply tx).minted = c.minted := by
  by_cases h : ∃ b, (c.apply tx).states.lookup bankId = some (.bank b)
  · obtain ⟨b, hl⟩ := h
    rcases ht.lookup_cases hl with ⟨hm, -⟩ | ⟨-, hcur⟩
    · exact absurd hm (hno b)
    · rw [locked_of_lookup hl, locked_of_lookup hcur, minted_of_lookup hl, minted_of_lookup hcur]
      exact ⟨rfl, rfl⟩
  · have hafter : ∀ b, (c.apply tx).states.lookup bankId ≠ some (.bank b) := not_exists.1 h
    have hbefore : ∀ b, c.states.lookup bankId ≠ some (.bank b) := by
      intro b hcur
      obtain ⟨t, hl, hu⟩ := hi.lookup_next ht hcur
      cases t <;> first | exact hu.elim | exact hafter _ hl
    obtain ⟨hlocked, hminted⟩ := accounts_of_no_bank hbefore
    obtain ⟨hlocked', hminted'⟩ := accounts_of_no_bank hafter
    exact ⟨hlocked'.trans hlocked.symm, hminted'.trans hminted.symm⟩

/-- A bank among the outputs is the next one. -/
theorem Inv.lookup_bank (hi : c.Inv) (ht : Takes P c tx outs) (hm : ContractState.bank bank ∈ outs) :
    (c.apply tx).states.lookup bankId = some (.bank bank) := hi.lookup_of_mem ht hm rfl

/-- A transaction that sends and receives nothing, and takes nothing back. -/
theorem BankMove.quiet (hsent : tx.sent? = none) (hrecv : tx.received? = none)
    (hrefunded : tx.refunded? P = none)
    (haccounts : (c.apply tx).locked = c.locked ∧ (c.apply tx).minted = c.minted) : BankMove P c tx :=
  .rests hsent (LedgerTransaction.credited_eq_none hrecv) hrefunded haccounts.1 haccounts.2

section
variable (hi : c.Inv) (ht : Takes P c tx outs) (hports : c.OnlyIcs20)
include hi ht hports

/-- A datagram on a host with no other module. -/
theorem Inv.bankMove_datagram
    (hjson : ∀ data, P.toFungibleTokenPacketData (P.toJson data) = .ok data) (hplain : c.PlainDenoms)
    {handler : DatagramHandler} {signers : List PublicKey} (hr : Runs P c tx handler signers outs) :
    BankMove P c tx := by
  have hcmd := hr.command
  have hcur : ∀ {b : Bank}, (Context.create tx.inputStates tx.referenceStates).getInput Bank = .ok b →
      c.states.lookup bankId = some (.bank b) := fun hb =>
    hr.inputs _ (Context.mem_of_getInput hb) bankId rfl
  have hmod : ∀ {host : Host} {port : Identifier} {m : Module},
      (Context.create tx.inputStates tx.referenceStates).getReference Host = .ok host →
      host.lookupModule port = .ok m → m = .ics20 := fun hhost hm =>
    hports _ _ (module_of_host (hr.references _ (Context.mem_of_getReference hhost) _ rfl) hm)
  have hchan : ∀ {chan : IbcChannel}, ContractState.channel chan ∈ outs →
      tx.channelOut? = some chan := ht.channelOut
  have hexec := hr.executes
  cases hexec with
  | createClient | updateClient | connOpenInit | connOpenTry | connOpenAck | connOpenConfirm
  | chanOpenInit | chanOpenTry | chanOpenTryPrevious | chanOpenAck | chanOpenConfirm | chanCloseInit
  | chanCloseConfirm =>
    exact .quiet (IbcChannel.sent_eq_none_of_ne hcmd nofun) (IbcChannel.received_eq_none_of_ne hcmd nofun)
      (LedgerTransaction.refunded_eq_none_of_ne hcmd nofun) (hi.accounts_rest ht (by simp))
  | @sendPacket _ host chan packet m outs hhost hmodule heffect hsend =>
    obtain rfl := hmod hhost hmodule
    have hsent := IbcChannel.sent_of_createOutgoingPacket hcmd
      (hchan (List.mem_append_right _ (List.mem_singleton_self _))) hsend.sequence
    have hrecv := IbcChannel.received_eq_none_of_ne hcmd nofun
    have hrefunded := LedgerTransaction.refunded_eq_none_of_ne (P := P) hcmd nofun
    cases heffect with
    | @ics20 msg amount sender port channel bank bank' denom _ hamount _ hport hchannel hbank hdenom
        hdebit =>
      have htoken := Ics20.tokenOf_transferPacket chan hjson hamount
        (Ics20.plain_of_resolveToken (hplain bank (hcur hbank)) hdenom)
      have hreturns : denom.hasPrefix port channel =
          Ics20.returns (Ics20.transferPacket P msg denom chan) denom :=
        Ics20.hasPrefix_eq_returns hport hchannel
      refine .moves (hcur hbank) (hi.lookup_bank ht (List.mem_append_left _ List.mem_cons_self)) ?_
      rw [hsent, LedgerTransaction.credited_eq_none hrecv, hrefunded]
      exact .sends htoken (hreturns ▸ hdebit)
  | @recvPacket msg host port chan chan' m ack outs hhost hport hmodule heffect hrecv =>
    obtain rfl := hmod hhost hmodule
    have hsent := IbcChannel.sent_eq_none_of_ne hcmd nofun
    have hreceived := IbcChannel.received_of_handlePacketRecv hcmd
      (hchan (List.mem_append_right _ (List.mem_singleton_self _))) hrecv.receive
    have hrefunded := LedgerTransaction.refunded_eq_none_of_ne (P := P) hcmd nofun
    cases heffect with
    | @ics20 data amount receiver srcPort srcChannel bank bank' _ hdata hamount _ hsrcPort hsrcChannel
        hbank hcredit =>
      have hnext := hi.lookup_bank ht (List.mem_append_left _ List.mem_cons_self)
      rcases hcredit with ⟨hcredit, rfl⟩ | ⟨message, -, rfl, rfl⟩
      · refine .moves (hcur hbank) hnext ?_
        rw [hsent, LedgerTransaction.credited_iff.2 hreceived, hrefunded]
        rw [Ics20.hasPrefix_eq_returns hsrcPort hsrcChannel] at hcredit
        exact .credits (Ics20.tokenOf_of hdata hamount) hcredit
      · refine .rests hsent (LedgerTransaction.credited_eq_none_of_error hreceived) hrefunded ?_ ?_
        · rw [locked_of_lookup hnext, locked_of_lookup (hcur hbank)]
        · rw [minted_of_lookup hnext, minted_of_lookup (hcur hbank)]
  | @acknowledgePacket msg host port chan chan' m ack outs hhost hport hmodule hack heffect hacks =>
    obtain rfl := hmod hhost hmodule
    have hsent := IbcChannel.sent_eq_none_of_ne hcmd nofun
    have hrecv := IbcChannel.received_eq_none_of_ne hcmd nofun
    have hout := hchan (List.mem_append_right _ (List.mem_singleton_self _))
    cases heffect with
    | ics20Result hbank =>
      have hnext := hi.lookup_bank ht (List.mem_append_left _ List.mem_cons_self)
      refine .quiet hsent hrecv (LedgerTransaction.refunded_eq_none_of_result hcmd hack) ?_
      rw [locked_of_lookup hnext, locked_of_lookup (hcur hbank), minted_of_lookup hnext,
        minted_of_lookup (hcur hbank)]
      exact ⟨rfl, rfl⟩
    | ics20Error hdata hamount _ hsrcPort hsrcChannel hbank hrefund =>
      refine .moves (hcur hbank) (hi.lookup_bank ht (List.mem_append_left _ List.mem_cons_self)) ?_
      rw [hsent, LedgerTransaction.credited_eq_none hrecv, LedgerTransaction.refunded_of hcmd hack hout]
      rw [Ics20.hasPrefix_eq_returns hsrcPort hsrcChannel] at hrefund
      exact .refunds (Ics20.tokenOf_of hdata hamount) hrefund

theorem Inv.bankMove (hjson : ∀ data, P.toFungibleTokenPacketData (P.toJson data) = .ok data)
    (hplain : c.PlainDenoms) : BankMove P c tx := by
  have hquiet : (∀ chan, ContractState.channel chan ∉ outs) →
      (c.apply tx).locked = c.locked ∧ (c.apply tx).minted = c.minted → BankMove P c tx := by
    intro hno haccounts
    have hout := ht.channelOut_eq_none hno
    exact .quiet (LedgerTransaction.sent_eq_none hout) (LedgerTransaction.received_eq_none hout)
      (LedgerTransaction.refunded_eq_none_of_channelOut hout) haccounts
  have heffect := ht.effect
  cases heffect with
  | @addBank host host' b hhost hadd hbank =>
    rcases hbank with rfl | ⟨_, rfl⟩
    · obtain ⟨hlocked, hminted⟩ := accounts_of_no_bank (hi.bank_free hhost hadd)
      have hnext : (c.apply tx).states.lookup bankId = some (.bank (.create host)) :=
        hi.lookup_bank ht (by simp)
      refine hquiet (by simp) ?_
      rw [hlocked, hminted, locked_of_lookup hnext, minted_of_lookup hnext]
      exact ⟨rfl, rfl⟩
    · exact hquiet (by simp) (hi.accounts_rest ht (by simp))
  | fund hbank =>
    have hnext := hi.lookup_bank ht (List.mem_singleton_self _)
    refine hquiet (by simp) ?_
    rw [locked_of_lookup hnext, locked_of_lookup hbank, minted_of_lookup hnext, minted_of_lookup hbank]
    exact ⟨rfl, rfl⟩
  | datagram hcmd hin href hexec =>
    exact hi.bankMove_datagram ht hports hjson hplain ⟨hcmd, hin, href, hexec⟩

end

end

/-! ## The totals of a run -/

/-- The totals of the bank are sums over the packets sent, credited and refunded. -/
structure BankLog (P : Platform) (tr : List LedgerTransaction) (c : Chain) : Prop where
  locked : ∀ d, c.locked.total d = weigh (Ics20.lockedBy P d) (sentPackets tr) -
    weigh (Ics20.unlockedBy P d) (creditedPackets tr) -
    weigh (Ics20.lockedBy P d) (refundedPackets P tr)
  minted : ∀ d, c.minted.total d = weigh (Ics20.mintedBy P d) (creditedPackets tr) +
    weigh (Ics20.burnedBy P d) (refundedPackets P tr) -
    weigh (Ics20.burnedBy P d) (sentPackets tr)

section
variable {P : Platform} {c c₀ : Chain} {tx : LedgerTransaction} {tr : List LedgerTransaction}
  {ok : Chain → LedgerTransaction → Prop}

theorem BankLog.step (h : BankLog P tr c) (hm : BankMove P c tx) :
    BankLog P (tr ++ [tx]) (c.apply tx) := by
  have hold := h.locked
  have hold' := h.minted
  refine ⟨fun d => ?_, fun d => ?_⟩
  · rw [sentPackets_snoc, creditedPackets_snoc, refundedPackets_snoc]
    simp only [weigh_append]
    have hd := hold d
    cases hm with
    | rests hsent hcredited hrefunded hlocked =>
      simp only [hsent, hcredited, hrefunded, hlocked, Option.toList_none, weigh_nil]
      omega
    | moves hbank hbank' hmoves =>
      have hmove := hmoves.locked (d := d)
      rw [locked_of_lookup hbank] at hd
      rw [locked_of_lookup hbank']
      omega
  · rw [sentPackets_snoc, creditedPackets_snoc, refundedPackets_snoc]
    simp only [weigh_append]
    have hd := hold' d
    cases hm with
    | rests hsent hcredited hrefunded _ hminted =>
      simp only [hsent, hcredited, hrefunded, hminted, Option.toList_none, weigh_nil]
      omega
    | moves hbank hbank' hmoves =>
      have hmove := hmoves.minted (d := d)
      rw [minted_of_lookup hbank] at hd
      rw [minted_of_lookup hbank']
      omega

theorem Start.bankLog (h : c.Start) : BankLog P [] c := by
  obtain ⟨_, _, _, _, _, host, -, rfl⟩ := h
  obtain ⟨hlocked, hminted⟩ := accounts_of_no_bank (c := ofHost host)
    fun b hl => by cases (lookup_ofHost hl).2
  refine ⟨fun d => ?_, fun d => ?_⟩
  · rw [hlocked]
    rfl
  · rw [hminted]
    rfl

/-- What a transaction does on every run of a host with no other module. -/
theorem bankMove_run (hjson : ∀ data, P.toFungibleTokenPacketData (P.toJson data) = .ok data)
    (h₀ : c₀.Start) (hports : c₀.OnlyIcs20) (hr : Run (Step P ok) c₀ tr c) {c' : Chain}
    (hc : c.Commits P tx c') : c' = c.apply tx ∧ BankMove P c tx := by
  obtain ⟨rfl, outs, ht⟩ := commit_ok hc
  have hports' : c.OnlyIcs20 := fun port m hm => hports port m ((module_run h₀.inv hr port) ▸ hm)
  exact ⟨rfl, (Inv.run h₀.inv hr).bankMove ht hports' hjson (PlainDenoms.run h₀ hr)⟩

theorem BankLog.run (hjson : ∀ data, P.toFungibleTokenPacketData (P.toJson data) = .ok data)
    (h₀ : c₀.Start) (hports : c₀.OnlyIcs20) (hr : Run (Step P ok) c₀ tr c) : BankLog P tr c := by
  refine hr.invariant (I := BankLog P) h₀.bankLog ?_
  rintro tr c tx c' hr h ⟨-, hc⟩
  obtain ⟨rfl, hm⟩ := bankMove_run hjson h₀ hports hr hc
  exact h.step hm

/-- No amount credited or refunded is negative, so no vouchers are. -/
theorem minted_nonneg_run (hjson : ∀ data, P.toFungibleTokenPacketData (P.toJson data) = .ok data)
    (h₀ : c₀.Start) (hports : c₀.OnlyIcs20) (hr : Run (Step P ok) c₀ tr c)
    (hpos : ∀ p, p ∈ creditedPackets tr ∨ p ∈ refundedPackets P tr → Ics20.NonnegToken P p) :
    c.minted.Nonneg := by
  induction hr with
  | nil =>
    obtain ⟨_, _, _, _, _, host, -, rfl⟩ := h₀
    rw [(accounts_of_no_bank (c := ofHost host) fun b hl => by cases (lookup_ofHost hl).2).2]
    exact BalanceMap.nonneg_empty
  | @snoc tr c c' tx hr hs ih =>
    have hold : c.minted.Nonneg := ih fun p hp => hpos p <| by
      rw [creditedPackets_snoc, refundedPackets_snoc]
      exact hp.imp (List.mem_append_left _) (List.mem_append_left _)
    have hnew : ∀ p, tx.credited? = some p ∨ tx.refunded? P = some p →
        Ics20.NonnegToken P p := fun p hp => hpos p <| by
      rw [creditedPackets_snoc, refundedPackets_snoc]
      exact hp.imp (fun h => List.mem_append_right _ (Option.mem_toList.2 h))
        fun h => List.mem_append_right _ (Option.mem_toList.2 h)
    obtain ⟨rfl, hm⟩ := bankMove_run hjson h₀ hports hr hs.2
    cases hm with
    | rests _ _ _ _ hminted => rwa [hminted]
    | moves hbank hbank' hmoves =>
      rw [minted_of_lookup hbank] at hold
      rw [minted_of_lookup hbank']
      exact hmoves.minted_nonneg hnew hold

end

/-! ## The refunds of a run -/

/-- A packet is refunded once, and not stored any more. -/
structure RefundLog (P : Platform) (tr : List LedgerTransaction) (c : Chain) : Prop where
  nodup : (refundedPackets P tr).Nodup
  sent : ∀ p ∈ refundedPackets P tr, p ∈ sentPackets tr
  settled : ∀ p ∈ refundedPackets P tr, ∀ i chan, c.states.lookup i = some (.channel chan) →
    i.id = p.sourceChannel → chan.packets.lookup p.sequence = none

section
variable {P : Platform} {c c' : Chain} {tx : LedgerTransaction} {tr : List LedgerTransaction}
  {chan chan' : IbcChannel}

theorem command_of_refunded {p : Packet} (h : tx.refunded? P = some p) : ∃ msg signers message,
    tx.datagramHandlerCommands = [(.handlePacketAcknowledgement msg, signers)] ∧
      P.toAcknowledgement msg.acknowledgement = .ok (.error message) ∧ msg.packet = p := by
  unfold LedgerTransaction.refunded? at h
  split at h
  · rename_i msg signers hd
    split at h
    · rename_i message _ hack _
      exact ⟨msg, signers, message, hd, hack, Option.some.inj h⟩
    · cases h
  · cases h

/-- A transaction that refunds nothing, and puts no packet back. -/
theorem RefundLog.quiet (h : RefundLog P tr c) (hrefunded : tx.refunded? P = none)
    (hsettled : ∀ p ∈ refundedPackets P tr, ∀ i chan, c'.states.lookup i = some (.channel chan) →
      i.id = p.sourceChannel → chan.packets.lookup p.sequence = none) :
    RefundLog P (tr ++ [tx]) c' := by
  have hall : refundedPackets P (tr ++ [tx]) = refundedPackets P tr := by
    rw [refundedPackets_snoc, hrefunded]
    simp
  refine ⟨hall ▸ h.nodup, fun p hp => ?_, hall ▸ hsettled⟩
  rw [hall] at hp
  rw [sentPackets_snoc]
  exact List.mem_append_left _ (h.sent p hp)

/-- What was refunded does not come back into its channel. -/
theorem RefundLog.settled_change (h : RefundLog P tr c) (hlog : SendLog tr c)
    (hcur : c.states.lookup chan'.id = some (.channel chan)) {ctx : Context}
    {signers : List PublicKey} {handler : DatagramHandler}
    (hchange : IbcChannel.Change P ctx signers handler chan chan') {p : Packet}
    (hp : p ∈ refundedPackets P tr) (hid : chan'.id.id = p.sourceChannel) :
    chan'.packets.lookup p.sequence = none := by
  have hnone := h.settled p hp _ chan hcur hid
  rcases hl : chan'.packets.lookup p.sequence with _ | q
  · rfl
  obtain ⟨-, hq | ⟨_, _, _, _, _, _, _, _, hsend, hseq⟩⟩ := hchange.packet_cases hl
  · rw [hnone] at hq
    cases hq
  · -- a packet sent now has a new sequence
    have hon : p ∈ sentOn chan'.id.id tr := mem_sentOn.2 ⟨h.sent p hp, hid.symm⟩
    obtain ⟨hlt, -, -⟩ := (hlog.numbered _).exists_getElem hon
    have hnext := hlog.next _ _ hcur
    have hsequence := hsend.sequence
    omega

theorem RefundLog.step (h : RefundLog P tr c) (hlog : SendLog tr c) (hrec : c.Recorded)
    (hs : ChannelStep P c tx) : RefundLog P (tr ++ [tx]) (c.apply tx) := by
  cases hs with
  | leaves hout hleaves =>
    refine h.quiet (LedgerTransaction.refunded_eq_none_of_channelOut hout) fun p hp i chan hl => ?_
    exact h.settled p hp i chan ((hleaves.lookup i chan).1 hl)
  | @creates handler _ _ chan hruns _ hcont _ _ hcreation hwrites =>
    have hne : ∀ msg, handler ≠ .handlePacketAcknowledgement msg := by
      rintro msg rfl
      cases hcont
    refine h.quiet (LedgerTransaction.refunded_eq_none_of_ne hruns.command hne) fun p hp i d hl hid => ?_
    by_cases hi : i = chan.id
    · subst hi
      rw [hwrites.self] at hl
      cases hl
      rw [hcreation.new.packets, Finmap.lookup_empty]
    · exact h.settled p hp i d ((hwrites.other i hi d).1 hl) hid
  | @changes handler signers _ chan chan' hruns _ _ _ _ hcur hchange hwrites =>
    have hsettled : ∀ p ∈ refundedPackets P tr, ∀ i d,
        (c.apply tx).states.lookup i = some (.channel d) → i.id = p.sourceChannel →
        d.packets.lookup p.sequence = none := fun p hp i d hl hid => by
      by_cases hi : i = chan'.id
      · subst hi
        rw [hwrites.self] at hl
        cases hl
        exact h.settled_change hlog hcur hchange hp hid
      · exact h.settled p hp i d ((hwrites.other i hi d).1 hl) hid
    cases hr : tx.refunded? P with
    | none => exact h.quiet hr hsettled
    | some p =>
      obtain ⟨msg, _, _, hd, -, rfl⟩ := command_of_refunded hr
      obtain ⟨rfl, rfl⟩ : handler = .handlePacketAcknowledgement msg ∧ signers = _ := by
        have hboth := hruns.command.symm.trans hd
        simpa using hboth
      cases hchange with
      | @settle _ _ _ _ hacks =>
        obtain ⟨n, rfl⟩ := settle_eq hacks.settle
        obtain ⟨hsent, -⟩ := hlog.packets chan (hrec _ _ hcur) _ _ hacks.packet
        have hnew : msg.packet ∉ refundedPackets P tr := fun hp => by
          have hnone := h.settled _ hp _ chan hcur hacks.channel
          rw [hacks.packet] at hnone
          cases hnone
        have hall : refundedPackets P (tr ++ [tx]) = refundedPackets P tr ++ [msg.packet] := by
          rw [refundedPackets_snoc, hr]
          rfl
        refine ⟨?_, fun p hp => ?_, fun p hp i d hl hid => ?_⟩
        · rw [hall]
          exact List.nodup_append.2 ⟨h.nodup, List.nodup_singleton _, fun a ha b hb hab =>
            hnew (List.mem_singleton.1 hb ▸ hab ▸ ha)⟩
        · rw [sentPackets_snoc]
          rw [hall] at hp
          rcases List.mem_append.1 hp with hp | hp
          · exact List.mem_append_left _ (h.sent p hp)
          · exact List.mem_append_left _ (List.mem_singleton.1 hp ▸ hsent)
        · rw [hall] at hp
          rcases List.mem_append.1 hp with hp | hp
          · exact hsettled p hp i d hl hid
          · obtain rfl := List.mem_singleton.1 hp
            obtain rfl : i = chan.id := Identifier.ext (hid.trans hacks.channel.symm)
            rw [show (c.apply tx).states.lookup chan.id = _ from hwrites.self] at hl
            cases hl
            exact Finmap.lookup_erase _ _

theorem RefundLog.nil : RefundLog P [] c := by
  refine ⟨List.nodup_nil, fun p hp => ?_, fun p hp => ?_⟩
  · cases hp
  · cases hp

theorem RefundLog.run {ok : Chain → LedgerTransaction → Prop} {c₀ : Chain} (h₀ : c₀.Start)
    (hr : Run (Step P ok) c₀ tr c) : RefundLog P tr c := by
  refine hr.invariant (I := RefundLog P) .nil ?_
  rintro tr c tx c' hr h ⟨-, hc⟩
  obtain ⟨rfl, outs, ht⟩ := commit_ok hc
  have hlogs := Logs.run h₀ hr
  exact h.step hlogs.send hlogs.recorded (hlogs.inv.channelStep ht)

end

end Chain

end CordaIbc
