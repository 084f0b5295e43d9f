import CordaIbc.Net
import CordaIbc.Proofs.Answer
import CordaIbc.Proofs.Send
import CordaIbc.Sample.Net

/-!
# Vouchers on their way back

A voucher that its holder sends back over an open channel is burned, whatever happened before. The
other host unlocks the amount for the receiver the transfer names, out of what that receiver locked
itself: the return goes through exactly when that covers it (`Net.voucher_redeemed_iff`).
-/

namespace CordaIbc

open ChannelOuterClass (Packet Acknowledgement)
open ContractState StateClass

/-! ## A return -/

namespace Ics20
variable {P : Platform} {ctx : Context} {bank bank' : Bank} {packet : Packet} {d : Denom} {x : Int}
  {holder receiver : Address}

/-- A bank after an owner was paid. -/
structure Paid (d : Denom) (x : Int) (o : Address) (bank bank' : Bank) : Prop where
  allocated : ∀ d' o', bank'.allocated.balance d' o' =
    bank.allocated.balance d' o' + if d' = d ∧ o' = o then x else 0
  minted : bank'.minted = bank.minted

/-- A bank after a holder's vouchers were burned. -/
structure Burnt (d : Denom) (x : Int) (o : Address) (bank bank' : Bank) : Prop where
  minted : ∀ d' o', bank'.minted.balance d' o' =
    bank.minted.balance d' o' - if d' = d ∧ o' = o then x else 0
  allocated : bank'.allocated = bank.allocated
  locked : bank'.locked = bank.locked

theorem burnt_of_burn (h : bank.burn holder d x = .ok bank') : Burnt d x holder bank bank' := by
  obtain ⟨minted, hdown, rfl⟩ := Bank.burn_ok.1 h
  refine ⟨fun d' o' => ?_, rfl, rfl⟩
  rw [BalanceMap.balance_down hdown]
  split
  · rename_i hd
    rw [hd.1, hd.2]
  · rw [Int.sub_zero]

theorem paid_of_unlock (h : bank.unlock receiver d x = .ok bank') : Paid d x receiver bank bank' := by
  obtain ⟨locked, -, rfl⟩ := Bank.unlock_ok.1 h
  refine ⟨fun d' o' => ?_, rfl⟩
  rw [BalanceMap.balance_up]
  split
  · rename_i hd
    rw [hd.1, hd.2]
  · rw [Int.add_zero]

section
variable {data : FungibleTokenPacketData} {port channel : Identifier}
  (hdata : P.toFungibleTokenPacketData packet.data = .ok data)
  (hamount : toBigInteger data.amount = .ok x)
  (hreceiver : Address.fromBech32 P.toCrypto data.receiver = .ok receiver)
  (hport : port.id = packet.sourcePort) (hchannel : channel.id = packet.sourceChannel)
  (hdenom : Denom.fromString data.denom = d.addPath port channel)
  (hbank : ctx.getInput Bank = .ok bank)
include hdata hamount hreceiver hport hchannel hdenom hbank

/-- A packet that brings vouchers back unlocks them for its receiver. -/
theorem onRecvPacket_returned : onRecvPacket P ctx packet = catchIllegalArgument
    (do let ctx ← ctx.addOutput (← bank.unlock receiver d x)
        .ok (ctx, successAck))
    (fun message => do
      let ctx ← ctx.addOutput bank
      .ok (ctx, .error message)) := by
  have hcredit : credit P bank ((Denom.fromString data.denom).hasPrefix port channel) packet receiver
      (Denom.fromString data.denom) x = bank.unlock receiver d x := by
    rw [hdenom, Denom.hasPrefix_addPath, credit, if_pos rfl, Denom.removePrefix_addPath]
    rfl
  simp only [onRecvPacket, hdata, hamount, hreceiver, Identifier.of_ok.2 hport,
    Identifier.of_ok.2 hchannel, hbank, Result.ok_bind, hcredit]

theorem le_of_returned {ctx' : Context} (hok : onRecvPacket P ctx packet = .ok (ctx', successAck)) :
    x ≤ bank.locked.balance d receiver := by
  rw [onRecvPacket_returned hdata hamount hreceiver hport hchannel hdenom hbank] at hok
  cases hunlock : bank.unlock receiver d x with
  | ok b =>
    obtain ⟨locked, hdown, -⟩ := Bank.unlock_ok.1 hunlock
    exact BalanceMap.le_of_down hdown
  | error e =>
    obtain ⟨message, rfl⟩ := Bank.unlock_onlyIllegalArgument bank receiver d x e hunlock
    rw [hunlock] at hok
    obtain ⟨_, -, hack⟩ := Result.bind_ok.1 hok
    cases hack

/-- The receiver is paid exactly when its own escrow covers the amount. -/
theorem returned_iff (hpos : 0 < x) (hno : ∀ b : Bank, ContractState.bank b ∉ ctx.outStates.states) :
    (∃ ctx' bank', onRecvPacket P ctx packet = .ok (ctx', successAck) ∧
      Context.Outputs ctx [.bank bank'] ctx' ∧ Paid d x receiver bank bank') ↔
      x ≤ bank.locked.balance d receiver := by
  constructor
  · rintro ⟨ctx', bank', hok, -⟩
    exact le_of_returned hdata hamount hreceiver hport hchannel hdenom hbank hok
  · intro hle
    obtain ⟨locked, hdown⟩ := BalanceMap.down_isOk hpos hle
    obtain ⟨bank', hunlock⟩ : ∃ bank', bank.unlock receiver d x = .ok bank' :=
      ⟨_, Bank.unlock_ok.2 ⟨locked, hdown, rfl⟩⟩
    obtain ⟨ctx', hadd⟩ : ∃ ctx', ctx.addOutput bank' = .ok ctx' := Context.exists_addOutput hno
    refine ⟨ctx', bank', ?_, (Context.addOutput_ibc rfl hadd).2, paid_of_unlock hunlock⟩
    simp only [onRecvPacket_returned hdata hamount hreceiver hport hchannel hdenom hbank, hunlock,
      Result.ok_bind, hadd, catchIllegalArgument]

end

end Ics20

namespace Net

/-- A holder of the vouchers of a denomination, where a transfer channel is open. -/
structure Holds (n : Net Side) (s : Side) (a b : IbcChannel) (bankA bankB : Bank) (d : Denom) (x : Int)
    (holder : Address) : Prop extends Paired n s a b where
  port : (n s).module? a.portId = some .ics20
  portPeer : (n s.peer).module? b.portId = some .ics20
  currentBank : (n s).states.lookup bankId = some (.bank bankA)
  peerBank : (n s.peer).states.lookup bankId = some (.bank bankB)
  positive : 0 < x
  enough : x ≤ bankB.minted.balance (d.addPath b.portId b.id) holder

/-- A transfer that sends an amount of the vouchers back. -/
structure SendsBack (P : Platform) (bank : Bank) (b : IbcChannel) (d : Denom) (x : Int)
    (holder receiver : Address) (msg : MsgTransfer) : Prop where
  port : b.portId.id = msg.sourcePort
  channel : b.id.id = msg.sourceChannel
  token : Ics20.resolveToken bank msg.token.denom = .ok (d.addPath b.portId b.id)
  amount : toBigInteger msg.token.amount = .ok x
  sender : Address.fromBech32 P.toCrypto msg.sender = .ok holder
  receiver : Address.fromBech32 P.toCrypto msg.receiver = .ok receiver
  timeout : msg.timeoutHeight.isZero = true ∨ HEIGHT.lt msg.timeoutHeight = true

section
variable {P : Platform} {n₀ n : Net Side} {tr : List (Side × LedgerTransaction)} {s : Side}
  {a b : IbcChannel} {bankA bankB : Bank} {d : Denom} {x : Int} {holder receiver : Address}

/-- A voucher that is held can be named by its hash. -/
theorem Holds.named (hinj : Function.Injective P.sha256)
    (hjson : ∀ data, P.toFungibleTokenPacketData (P.toJson data) = .ok data) (h₀ : n₀.Start)
    (hr : Run (Step P TracksPeer) n₀ tr n) (h : Holds n s a b bankA bankB d x holder) :
    Ics20.resolveToken bankB ((d.addPath b.portId b.id).toIbcDenom P.toCrypto) =
      .ok (d.addPath b.portId b.id) := by
  have hown : Run (Chain.Step P fun _ _ => True) (n₀ s.peer) (own s.peer tr) (n s.peer) :=
    run_own (fun _ _ _ => trivial) hr
  have hvouchers := Chain.Vouchers.run hinj hjson (h₀ s.peer) hown
  have hentry : bankB.minted.entry (d.addPath b.portId b.id) holder ≠ none := by
    intro hnone
    have hzero : bankB.minted.balance (d.addPath b.portId b.id) holder = 0 := by
      rw [BalanceMap.balance, hnone]
      rfl
    have hpos := h.positive
    have hle := h.enough
    omega
  have hknows := hvouchers.minted bankB h.peerBank _ _ hentry
    ⟨b.portId, b.id, h.portPeer, Denom.hasPrefix_addPath⟩
  rw [Ics20.resolveToken, if_pos Denom.hasPrefixes_toIbcDenom]
  exact orThrow_ok.2 hknows

/-- Sent back, the vouchers are burned and a packet is stored. -/
theorem Holds.exists_sent (h₀ : n₀.Start) (hr : Run (Step P TracksPeer) n₀ tr n)
    (h : Holds n s a b bankA bankB d x holder)
    (hcounter : ∀ host, (n s.peer).states.lookup hostId = some (.host host) →
      host.nextClientSequence ≤ 2 ^ 63)
    {anyMsg : Any} {msg : MsgTransfer} (hmsg : P.unpackMsgTransfer anyMsg = .ok msg)
    (hback : SendsBack P bankB b d x holder receiver msg) (signers : List PublicKey) :
    ∃ ins refs ctx' bank',
      (∀ t ∈ ins ++ refs, ∀ i, t.id? = some i → (n s.peer).states.lookup i = some t) ∧
      (DatagramHandler.createOutgoingPacket anyMsg).execute P (.create ins refs) signers = .ok ctx' ∧
      ctx'.outStates.states = [.bank bank',
        .channel (b.sent (Ics20.transferPacket P msg (d.addPath b.portId b.id) b))] ∧
      Ics20.Burnt (d.addPath b.portId b.id) x holder bankB bank' := by
  have hown : Run (Chain.Step P fun _ _ => True) (n₀ s.peer) (own s.peer tr) (n s.peer) :=
    run_own (fun _ _ _ => trivial) hr
  have htracking := Tracking.run h₀ (fun _ _ _ h => h) hr
  obtain ⟨host, conn, client, hready, t, k, hlt, hclientId⟩ :=
    (Chain.Linked.run (h₀ s.peer) hown).exists_ready (htracking.inv s.peer) h.peerBank h.currentPeer
      h.openedPeer h.portPeer
  obtain ⟨cs, himpl, -⟩ := htracking.client s.peer _ client hready.currentClient
  obtain ⟨k', hcorda⟩ := Chain.CordaIds.run (h₀ s.peer) hown _ client cs hready.currentClient himpl
  obtain ⟨rfl, -⟩ := Host.clientIdentifier_inj (hclientId.symm.trans hcorda)
  have hk : k < 2 ^ 63 := Nat.lt_of_lt_of_le hlt (hcounter host hready.currentHost)
  obtain ⟨minted, hdown⟩ := BalanceMap.down_isOk h.positive h.enough
  obtain ⟨bank', hburn⟩ : ∃ bank', bankB.burn holder (d.addPath b.portId b.id) x = .ok bank' :=
    ⟨_, Bank.burn_ok.2 ⟨minted, hdown, rfl⟩⟩
  have hdebit : Ics20.debit bankB (!(d.addPath b.portId b.id).hasPrefix b.portId b.id) holder
      (d.addPath b.portId b.id) x = .ok bank' := by
    rw [Denom.hasPrefix_addPath]
    exact hburn
  have hheight : client.impl.getLatestHeight P = .ok HEIGHT := by rw [himpl]; rfl
  obtain ⟨ins, refs, ctx', hcur, hexec, houts⟩ := hready.exists_sent hmsg hback.port hback.channel
    hback.token hback.amount hback.sender hdebit hheight hback.timeout
    (Handler.checkTimestamp_ok hclientId hready.clientId hk fun hne => absurd rfl hne) signers
  exact ⟨ins, refs, ctx', bank', hcur, hexec, houts, Ics20.burnt_of_burn hburn⟩

/-- In every state that two hosts reach, a holder of vouchers can name them, and every transfer that
sends some of them back burns them and makes a packet; the other host answers it with success, and
pays the receiver, exactly when what is locked under the receiver's own name covers the amount. -/
theorem voucher_redeemed_iff
    (hjson : ∀ data, P.toFungibleTokenPacketData (P.toJson data) = .ok data) (h₀ : n₀.Start)
    (hr : Run (Step P TracksPeer) n₀ tr n) (h : Holds n s a b bankA bankB d x holder)
    (hcounter : ∀ host, (n s.peer).states.lookup hostId = some (.host host) →
      host.nextClientSequence ≤ 2 ^ 63) :
    (Function.Injective P.sha256 →
      Ics20.resolveToken bankB ((d.addPath b.portId b.id).toIbcDenom P.toCrypto) =
        .ok (d.addPath b.portId b.id)) ∧
    ∀ anyMsg msg receiver signers, P.unpackMsgTransfer anyMsg = .ok msg →
      SendsBack P bankB b d x holder receiver msg →
      ∃ ins refs ctx' bank' packet,
        (∀ t ∈ ins ++ refs, ∀ i, t.id? = some i → (n s.peer).states.lookup i = some t) ∧
        (DatagramHandler.createOutgoingPacket anyMsg).execute P (.create ins refs) signers =
          .ok ctx' ∧
        ctx'.outStates.states = [.bank bank', .channel (b.sent packet)] ∧
        Ics20.Burnt (d.addPath b.portId b.id) x holder bankB bank' ∧
        packet.destinationPort = a.portId.id ∧ packet.destinationChannel = a.id.id ∧
        ∃ m, (n s).module? a.portId = some m ∧ ∀ ctx, ctx.getInput Bank = .ok bankA →
          (∀ bank, ContractState.bank bank ∉ ctx.outStates.states) →
          ((∃ ctx'' bank'', m.onRecvPacket P ctx packet = .ok (ctx'', successAck) ∧
            Context.Outputs ctx [.bank bank''] ctx'' ∧ Ics20.Paid d x receiver bankA bank'') ↔
            x ≤ bankA.locked.balance d receiver) := by
  refine ⟨fun hinj => h.named hinj hjson h₀ hr, fun anyMsg msg receiver signers hmsg hback => ?_⟩
  have hown : Run (Chain.Step P fun _ _ => True) (n₀ s.peer) (own s.peer tr) (n s.peer) :=
    run_own (fun _ _ _ => trivial) hr
  obtain ⟨ins, refs, ctx', bank', hcur, hexec, houts, hburnt⟩ :=
    h.exists_sent h₀ hr hcounter hmsg hback signers
  refine ⟨ins, refs, ctx', bank', _, hcur, hexec, houts, hburnt, h.namesBack.port,
    h.namesBack.channel, .ics20, h.port, fun ctx hbank hno => ?_⟩
  have hplain : (d.addPath b.portId b.id).Plain :=
    Ics20.plain_of_resolveToken (Chain.PlainDenoms.run (h₀ s.peer) hown bankB h.peerBank)
      hback.token
  have hdata : P.toFungibleTokenPacketData
      (Ics20.transferPacket P msg (d.addPath b.portId b.id) b).data =
      .ok ⟨(d.addPath b.portId b.id).toString, msg.token.amount, msg.sender, msg.receiver⟩ := hjson _
  exact Ics20.returned_iff hdata hback.amount hback.receiver hback.port hback.channel
    (Denom.fromString_toString hplain) hbank h.positive hno

end

/-! ### A return to another owner than the one who locked -/

namespace ReturnedElsewhere
open Sample

def voucher : Denom := ⟨⟨"transfer/channel-0", "atom"⟩⟩

def atom : Denom := ⟨⟨"", "atom"⟩⟩

/-- The 5 vouchers go back to an owner. -/
def back (receiver : String) : MsgTransfer :=
  { sourcePort := "transfer", sourceChannel := "channel-0", token := ⟨"transfer/channel-0/atom", "5"⟩
    sender := addressB, receiver, timeoutHeight := .default, timeoutTimestamp := 0 }

def P : Platform := netPlatform (transferring "channel-0") [atoms, back addressC, back addressA]

/-- The owners a, b and c. -/
def owner (b : UInt8) : Address := account b

/-- The channels, what is locked and minted, and what is bound. -/
def outcome (n : Net Side) : List (Option ContractState) × List Int × List (Option Module) :=
  ([(n .left).states.lookup (channel 0), (n .right).states.lookup (channel 0)],
    (match (n .left).states.lookup bankId, (n .right).states.lookup bankId,
        (n .right).states.lookup hostId with
      | some (.bank bankA), some (.bank bankB), some (ContractState.host h) =>
        [bankA.locked.balance atom (owner 97), bankA.locked.balance atom (owner 99),
          bankB.minted.balance voucher (owner 98), h.nextClientSequence]
      | _, _, _ => []),
    [(n .left).module? transferPort, (n .right).module? transferPort])

theorem outcome_transferred : (fun r => outcome r.2) <$> runNet P sides tracksPeer pair transferred =
    .ok ([some (.channel (sender "channel-0")), some (.channel receiver)], [5, 0, 5, 1],
      [some .ics20, some .ics20]) := by decide +kernel

theorem fromBech32_owner : Address.fromBech32 P.toCrypto addressA = .ok (owner 97) ∧
    Address.fromBech32 P.toCrypto addressB = .ok (owner 98) ∧
    Address.fromBech32 P.toCrypto addressC = .ok (owner 99) := by decide +kernel

theorem toBigInteger_five : toBigInteger "5" = .ok 5 := by decide +kernel

theorem sendsBack {bank : Bank} (r : String) {o : Address}
    (hr : Address.fromBech32 P.toCrypto r = .ok o) :
    SendsBack P bank receiver atom 5 (owner 98) o (back r) := by
  have hcarries : DenomPath.hasPrefixes "transfer/channel-0/atom" ["ibc"] = false := by decide
  refine ⟨rfl, rfl, ?_, toBigInteger_five, fromBech32_owner.2.1, hr, .inl rfl⟩
  show Ics20.resolveToken bank "transfer/channel-0/atom" = _
  rw [Ics20.resolveToken, hcarries]
  rfl

theorem exists_reached : ∃ tr n bankA bankB, Run (Step P TracksPeer) pair tr n ∧
    Holds n .left (sender "channel-0") receiver bankA bankB atom 5 (owner 98) ∧
    (∀ host, (n .right).states.lookup hostId = some (.host host) →
      host.nextClientSequence ≤ 2 ^ 63) ∧
    bankA.locked.balance atom (owner 97) = 5 ∧ bankA.locked.balance atom (owner 99) = 0 := by
  obtain ⟨⟨tr, n⟩, hrun, hout⟩ := Result.map_ok.1 outcome_transferred
  have hr : Run (Step P TracksPeer) pair ([] ++ tr) n :=
    run_of_net mem_sides (fun _ _ _ h => tracksPeer_ok h) hrun .nil
  simp only [outcome, Prod.mk.injEq, List.cons.injEq, and_true] at hout
  obtain ⟨⟨hleft, hright⟩, hbanks, hmoduleLeft, hmoduleRight⟩ := hout
  split at hbanks
  · rename_i bankA bankB host hbankA hbankB hhost
    simp only [List.cons.injEq, and_true] at hbanks
    obtain ⟨hlocked, hnothing, hminted, hclients⟩ := hbanks
    refine ⟨tr, n, bankA, bankB, hr, ⟨⟨hleft, hright, rfl, rfl, ⟨rfl, rfl⟩, ⟨rfl, rfl⟩⟩, hmoduleLeft,
      hmoduleRight, hbankA, hbankB, by decide, hminted.ge⟩, fun h hh => ?_, hlocked, hnothing⟩
    rw [hhost] at hh
    cases hh
    omega
  · cases hbanks

/-- The vouchers of what a locked come back for c, and are not paid. -/
theorem voucher_lost : ∃ tr n bankA bankB, Run (Step P TracksPeer) pair tr n ∧
    Holds n .left (sender "channel-0") receiver bankA bankB atom 5 (owner 98) ∧
    bankA.locked.balance atom (owner 97) = 5 ∧ P.unpackMsgTransfer ⟨"", [1]⟩ = .ok (back addressC) ∧
    SendsBack P bankB receiver atom 5 (owner 98) (owner 99) (back addressC) ∧
    ∀ ctx ctx', ctx.getInput Bank = .ok bankA →
      Ics20.onRecvPacket P ctx (Ics20.transferPacket P (back addressC) voucher receiver) ≠
        .ok (ctx', successAck) := by
  obtain ⟨tr, n, bankA, bankB, hr, hholds, -, hlocked, hnothing⟩ := exists_reached
  refine ⟨tr, n, bankA, bankB, hr, hholds, hlocked, rfl, sendsBack addressC fromBech32_owner.2.2,
    fun ctx ctx' hbank hok => ?_⟩
  have hdata : P.toFungibleTokenPacketData
      (Ics20.transferPacket P (back addressC) voucher receiver).data =
      .ok ⟨voucher.toString, "5", addressB, addressC⟩ := toFungibleTokenPacketData_toJson _
  have hdenom : Denom.fromString voucher.toString = atom.addPath transferPort (channel 0) := by
    decide +kernel
  have hle : 5 ≤ bankA.locked.balance atom (owner 99) :=
    Ics20.le_of_returned hdata toBigInteger_five fromBech32_owner.2.2 rfl rfl hdenom hbank hok
  omega

/-- Back to a, they are. -/
theorem voucher_redeemed : ∃ (n : Net Side) (bankA : Bank) (packet : Packet),
    (n .left).states.lookup bankId = some (.bank bankA) ∧
    ∃ m, (n .left).module? transferPort = some m ∧ ∀ ctx, ctx.getInput Bank = .ok bankA →
      (∀ bank, ContractState.bank bank ∉ ctx.outStates.states) →
      ∃ ctx'' bank'', m.onRecvPacket P ctx packet = .ok (ctx'', successAck) ∧
        Context.Outputs ctx [.bank bank''] ctx'' ∧ Ics20.Paid atom 5 (owner 97) bankA bank'' := by
  obtain ⟨tr, n, bankA, bankB, hr, hholds, hcounter, hlocked, -⟩ := exists_reached
  obtain ⟨-, hback⟩ := voucher_redeemed_iff toFungibleTokenPacketData_toJson start_pair hr hholds
    hcounter
  obtain ⟨_, _, _, _, packet, -, -, -, -, -, -, m, hmodule, hiff⟩ :=
    hback ⟨"", [2]⟩ (back addressA) (owner 97) [] rfl (sendsBack addressA fromBech32_owner.1)
  exact ⟨n, bankA, packet, hholds.currentBank, m, hmodule, fun ctx hbank hno =>
    (hiff ctx hbank hno).2 hlocked.ge⟩

end ReturnedElsewhere

end Net

end CordaIbc
