import CordaIbc.Proofs.Uniqueness

/-!
# The supply of vouchers

`excess b d` is what a state adds to the vouchers of a denomination less what it adds to the supply
its bank states. An accepted datagram leaves the sum of it as it was (`Executes.conserves`), as long
as vouchers are consumed only where they are burned; so on a ledger the supply is the sum of the
unconsumed vouchers (`supply_eq_vouchers`).
-/

namespace CordaIbc

open ChannelOuterClass (Packet Acknowledgement)
open Context StateClass ContractState

/-! ## Amounts -/

/-- The amount of a voucher, when it is of the denomination and of the base id. -/
def Voucher.worth (b : StateRef) (d : Denom) (v : Voucher) : Int :=
  if v.baseId = b ∧ v.amount.token = d.denomTrace then v.amount.quantity else 0

/-- The supply of a bank, when it is of the base id. -/
def CashBank.issued (b : StateRef) (d : Denom) (bank : CashBank) : Int :=
  if bank.baseId = b then bank.supplyOf d else 0

namespace ContractState

def vouchers (b : StateRef) (d : Denom) : ContractState → Int
  | voucher s => s.worth b d
  | _ => 0

def supply (b : StateRef) (d : Denom) : ContractState → Int
  | cashBank s => s.issued b d
  | _ => 0

def excess (b : StateRef) (d : Denom) (s : ContractState) : Int := s.vouchers b d - s.supply b d

end ContractState

section
variable {b : StateRef} {d : Denom} {l : List ContractState}

theorem sum_excess : (l.map (excess b d)).sum =
    ((filterIsInstance Voucher l).map (·.worth b d)).sum -
      ((filterIsInstance CashBank l).map (·.issued b d)).sum := by
  induction l with
  | nil => rfl
  | cons s l ih =>
    rw [List.map_cons, List.sum_cons, ih]
    cases s <;>
      simp [filterIsInstance, cast?, excess, ContractState.vouchers, ContractState.supply] <;> omega

theorem sum_excess_append {l' : List ContractState} :
    ((l ++ l').map (excess b d)).sum = (l.map (excess b d)).sum + (l'.map (excess b d)).sum := by
  rw [List.map_append, List.sum_append]

theorem sum_excess_vouchers {vs : List Voucher} :
    ((vs.map ContractState.voucher).map (excess b d)).sum = (vs.map (·.worth b d)).sum := by
  rw [List.map_map]
  congr 1
  exact List.map_congr_left fun v _ => Int.sub_zero _

/-- Neither a voucher nor a cash bank. -/
def ContractState.Plain (s : ContractState) : Prop :=
  (∀ v, s ≠ .voucher v) ∧ ∀ bank, s ≠ .cashBank bank

theorem ContractState.Plain.excess {s : ContractState} (h : s.Plain) : s.excess b d = 0 := by
  cases s <;> first | rfl | skip
  case voucher v => exact absurd rfl (h.1 v)
  case cashBank bank => exact absurd rfl (h.2 bank)

theorem sum_excess_of_plain (h : ∀ s ∈ l, s.Plain) : (l.map (excess b d)).sum = 0 := by
  refine List.sum_eq_zero fun x hx => ?_
  obtain ⟨s, hs, rfl⟩ := List.mem_map.1 hx
  exact (h s hs).excess

theorem CashBank.issued_setSupply {bank : CashBank} {denom : Denom} {amount : Int} :
    (bank.setSupply denom (bank.supplyOf denom + amount)).issued b d =
      bank.issued b d + if bank.baseId = b ∧ denom = d then amount else 0 := by
  unfold CashBank.issued
  rw [CashBank.setSupply_baseId, CashBank.supplyOf_setSupply]
  by_cases hb : bank.baseId = b <;> by_cases hd : d = denom <;> simp [hb, hd, eq_comm]

end

/-! ## Datagrams -/

/-- Vouchers of a positive amount are inputs of a datagram only where it burns. -/
def BurnsOnly (P : Platform) (ctx : Context) (handler : DatagramHandler) : Prop :=
  ∀ v, ContractState.voucher v ∈ ctx.inStates → v.amount.quantity ≠ 0 →
    ∃ anyMsg, handler = .createOutgoingPacket anyMsg ∧ Ics20Cash.Takes P ctx anyMsg false

section
variable {P : Platform} {ctx : Context} {signers : List PublicKey} {handler : DatagramHandler}
  {outs : List ContractState} {b : StateRef} {d : Denom}

/-- What the modules put out, as far as vouchers and their supply go. -/
inductive Supplies (P : Platform) (ctx : Context) (outs : List ContractState) : Prop
  | plain (h : ∀ s ∈ outs, s.Plain)
  | keep {bank : CashBank} {rest : List ContractState} (hbank : ctx.getInput CashBank = .ok bank)
    (houts : outs = .cashBank bank :: rest) (hrest : ∀ s ∈ rest, s.Plain)
  | mint {bank bank₁ bank' : CashBank} {v : Voucher} {receiver : Address} {denom : Denom}
    {amount : Int} (hbank : ctx.getInput CashBank = .ok bank)
    (hsame : bank₁ = bank ∨ bank₁ = bank.recordDenom P.toCrypto denom)
    (hmint : bank₁.mint P.toCrypto receiver denom amount = .ok (bank', v))
    (houts : outs = [.cashBank bank', .voucher v])
  | burn {bank bank' : CashBank} {sender : Address} {denom : Denom} {quantity : Int}
    {change : Option Voucher} (hbank : ctx.getInput CashBank = .ok bank)
    (hburn : Ics20Cash.VoucherBurn P ctx bank bank' sender denom quantity change)
    (houts : outs = .cashBank bank' :: change.toList.map .voucher)

theorem plain_of_cash {l : List ContractState} (h : ∀ s ∈ l, ∃ c, s = .cash c) :
    ∀ s ∈ l, s.Plain := fun s hs => by
  obtain ⟨c, rfl⟩ := h s hs
  exact ⟨nofun, nofun⟩

theorem Ics20Cash.CashEffect.supplies (h : Ics20Cash.CashEffect P ctx outs) :
    Supplies P ctx outs := by
  cases h with
  | pay hbank hcash => exact .keep hbank rfl (plain_of_cash hcash)
  | payOnly hcash => exact .plain (plain_of_cash hcash)
  | mint hbank hsame hmint => exact .mint hbank hsame hmint rfl

theorem Supplies.bank {bank : Bank} : Supplies P ctx [.bank bank] :=
  .plain fun s hs => by rw [List.mem_singleton.1 hs]; exact ⟨nofun, nofun⟩

theorem Supplies.nil : Supplies P ctx [] := .plain nofun

theorem RecvEffect.supplies {packet : Packet} {m : Module} {ack : Acknowledgement}
    (h : RecvEffect P ctx packet m ack outs) : Supplies P ctx outs := by
  cases h with
  | nop => exact .nil
  | ics20 => exact .bank
  | ics20cash hrecv houts =>
    obtain ⟨ss, he, ho⟩ := Ics20Cash.onRecvPacket_ok hrecv
    rw [houts.unique ho]
    exact he.supplies

theorem AckEffect.supplies {packet : Packet} {m : Module} {ack : Acknowledgement}
    (h : AckEffect P ctx packet m ack outs) : Supplies P ctx outs := by
  cases h with
  | nop => exact .nil
  | ics20Result => exact .bank
  | ics20Error => exact .bank
  | ics20cash hsettle houts =>
    obtain ⟨ss, he, ho⟩ := Ics20Cash.onAcknowledgePacket_ok hsettle
    rw [houts.unique ho]
    exact he.supplies

/-- The burning branch is taken exactly where `Burns` says. -/
theorem SendEffect.supplies {anyMsg : Any} {host : Host} {chan : IbcChannel} {packet : Packet}
    {m : Module} (hhost : ctx.getReference Host = .ok host)
    (hchan : ctx.getInput IbcChannel = .ok chan) (hmodule : host.lookupModule chan.portId = .ok m)
    (h : SendEffect P ctx signers anyMsg chan packet m outs) :
    Supplies P ctx outs ∧ (Ics20Cash.Takes P ctx anyMsg false → ∃ bank bank' sender denom quantity change,
      ctx.getInput CashBank = .ok bank ∧
      Ics20Cash.VoucherBurn P ctx bank bank' sender denom quantity change ∧
      outs = .cashBank bank' :: change.toList.map .voucher) := by
  have hm : Ics20Cash.Takes P ctx anyMsg false → m = .ics20cash := fun hb =>
    hb.module_eq hhost hchan hmodule
  cases h with
  | nop => exact ⟨.nil, fun hb => absurd (hm hb) nofun⟩
  | ics20 => exact ⟨.bank, fun hb => absurd (hm hb) nofun⟩
  | @ics20cash msg quantity sender port channel bank denom _ _ _ hmsg hamount hsender hport hchannel
      hbank hdenom hdebit houts _ _ =>
    unfold Ics20Cash.debit at hdebit
    split at hdebit
    · rename_i hsource
      obtain ⟨-, cs, ho, hs⟩ := Ics20Cash.lockCash_ok hdebit
      rw [houts.unique ho]
      refine ⟨.keep hbank rfl (plain_of_cash hs), fun hb => ?_⟩
      rw [hb.source_eq hmsg hbank hdenom hport hchannel] at hsource
      cases hsource
    · obtain ⟨bank', change, hburn, ho⟩ := Ics20Cash.burnVouchers_ok hdebit
      rw [houts.unique ho]
      exact ⟨.burn hbank hburn rfl, fun _ => ⟨_, _, _, _, _, _, hbank, hburn, rfl⟩⟩

theorem sum_worth (vs : List Voucher) (b₀ : StateRef) (denom : Denom)
    (h : ∀ v ∈ vs, v.baseId = b₀ ∧ v.amount.token = denom.denomTrace) :
    (vs.map (·.worth b d)).sum =
      if b₀ = b ∧ denom = d then (((vs.map (·.amount.quantity)).sum : Nat) : Int) else 0 := by
  induction vs with
  | nil => simp
  | cons v vs ih =>
    obtain ⟨hb, ht⟩ := h v List.mem_cons_self
    have hd : denom.denomTrace = d.denomTrace ↔ denom = d :=
      ⟨fun e => by cases denom; cases d; cases e; rfl, fun e => e ▸ rfl⟩
    rw [List.map_cons, List.sum_cons, ih fun w hw => h w (List.mem_cons_of_mem _ hw),
      Voucher.worth, hb, ht]
    by_cases hc : b₀ = b ∧ denom = d
    · simp [hc]
    · simp [hc, hd]

theorem sum_inStates {bank : CashBank} (hbank : ctx.getInput CashBank = .ok bank) :
    (ctx.inStates.map (excess b d)).sum =
      ((ctx.getInputs Voucher).map (·.worth b d)).sum - bank.issued b d := by
  rw [sum_excess, show filterIsInstance CashBank ctx.inStates = [bank] from getInput_ok.1 hbank]
  simp [getInputs]

/-- Burning takes the vouchers it consumes, less the change, off the supply. -/
theorem Ics20Cash.VoucherBurn.conserves {bank bank' : CashBank} {sender : Address} {denom : Denom}
    {quantity : Int} {change : Option Voucher} (hbank : ctx.getInput CashBank = .ok bank)
    (h : Ics20Cash.VoucherBurn P ctx bank bank' sender denom quantity change)
    (hbase : ∀ v ∈ ctx.getInputs Voucher, v.baseId = bank.baseId) :
    (ctx.inStates.map (excess b d)).sum =
      ((ContractState.cashBank bank' :: change.toList.map .voucher).map (excess b d)).sum := by
  obtain ⟨-, -, hbank'⟩ := CashBank.burn_ok h.burn
  have hin := sum_worth (b := b) (d := d) (ctx.getInputs Voucher) bank.baseId denom fun v hv =>
    ⟨hbase v hv, h.token v hv⟩
  have hout := sum_worth (b := b) (d := d) change.toList bank.baseId denom fun v hv =>
      ⟨(h.change_mem v (by simpa using hv)).1, (h.change_mem v (by simpa using hv)).2.1⟩
  have hissued : bank'.issued b d =
      bank.issued b d + if bank.baseId = b ∧ denom = d then -quantity else 0 := by
    rw [hbank', sub_eq_add_neg, CashBank.issued_setSupply]
  have hchange : (change.toList.map (·.amount.quantity)).sum =
      (change.map (·.amount.quantity)).getD 0 := by cases change <;> simp
  rw [sum_inStates hbank, hin, h.sum, List.map_cons, List.sum_cons, sum_excess_vouchers, hout,
    hchange, show excess b d (.cashBank bank') = 0 - bank'.issued b d from rfl, hissued]
  split <;> omega

/-- Minting and keeping leave the excess as it is, and burning does when it takes every voucher
consumed. -/
theorem Supplies.conserves (h : Supplies P ctx outs)
    (hbase : ∀ bank, ctx.getInput CashBank = .ok bank →
      ∀ v ∈ ctx.getInputs Voucher, v.baseId = bank.baseId)
    (hkept : ∀ bank, ContractState.cashBank bank ∈ ctx.inStates →
      ∃ bank', ContractState.cashBank bank' ∈ outs)
    (hzero : (∀ v ∈ ctx.getInputs Voucher, v.amount.quantity = 0) ∨
      ∃ bank bank' sender denom quantity change, ctx.getInput CashBank = .ok bank ∧
        Ics20Cash.VoucherBurn P ctx bank bank' sender denom quantity change ∧
        outs = .cashBank bank' :: change.toList.map .voucher) :
    (ctx.inStates.map (excess b d)).sum = (outs.map (excess b d)).sum := by
  rcases hzero with hzero | ⟨bank, bank', _, _, _, _, hbank, hburn, rfl⟩
  · have hin : ((ctx.getInputs Voucher).map (·.worth b d)).sum = 0 := by
      refine List.sum_eq_zero fun x hx => ?_
      obtain ⟨v, hv, rfl⟩ := List.mem_map.1 hx
      simp [Voucher.worth, hzero v hv]
    cases h with
    | plain hplain =>
      have hnone : filterIsInstance CashBank ctx.inStates = [] := by
        refine List.eq_nil_iff_forall_not_mem.2 fun bank hb => ?_
        obtain ⟨bank', hb'⟩ := hkept bank (mem_filterIsInstance.1 hb)
        exact (hplain _ hb').2 bank' rfl
      rw [sum_excess_of_plain hplain, sum_excess, hnone]
      exact (congrArg (· - 0) hin).trans (Int.sub_zero 0)
    | keep hbank houts hrest =>
      rw [sum_inStates hbank, hin, houts, List.map_cons, List.sum_cons, sum_excess_of_plain hrest]
      simp [excess, ContractState.vouchers, ContractState.supply]
    | @mint bank bank₁ bank' v receiver denom amount hbank hsame hmint houts =>
      obtain ⟨hbank', hvb, hvt, hvq, -⟩ := CashBank.mint_ok hmint
      have hissued₁ : bank₁.issued b d = bank.issued b d ∧ bank₁.baseId = bank.baseId := by
        rcases hsame with rfl | rfl <;> exact ⟨rfl, rfl⟩
      have hissued : bank'.issued b d =
          bank.issued b d + if bank.baseId = b ∧ denom = d then amount else 0 := by
        rw [hbank', CashBank.issued_setSupply, hissued₁.1, hissued₁.2]
      have hout := sum_worth (b := b) (d := d) [v] bank.baseId denom fun w hw => by rw [List.mem_singleton.1 hw]; exact ⟨hvb.trans hissued₁.2, hvt⟩
      rw [sum_inStates hbank, hin, houts, List.map_cons, List.sum_cons,
        show [ContractState.voucher v] = [v].map ContractState.voucher from rfl,
        sum_excess_vouchers, hout, show excess b d (.cashBank bank') = 0 - bank'.issued b d from rfl,
        hissued]
      have hq : (([v].map (·.amount.quantity)).sum : Nat) = amount := by simpa using hvq
      rw [hq]
      split <;> omega
    | burn hbank hburn houts => rw [houts]; exact hburn.conserves hbank (hbase _ hbank)
  · exact hburn.conserves hbank (hbase _ hbank)

theorem sum_excess_append_channel {chan : IbcChannel} :
    ((outs ++ [ContractState.channel chan]).map (excess b d)).sum = (outs.map (excess b d)).sum := by
  rw [sum_excess_append]
  simp [excess, ContractState.vouchers, ContractState.supply]

/-- What a datagram puts out besides its channel. -/
theorem Executes.supplies (h : Executes P ctx signers handler outs) :
    (∃ outs', (outs = outs' ∨ ∃ chan, outs = outs' ++ [.channel chan]) ∧ Supplies P ctx outs' ∧
      ∀ anyMsg, handler = .createOutgoingPacket anyMsg → Ics20Cash.Takes P ctx anyMsg false →
        ∃ bank bank' sender denom quantity change, ctx.getInput CashBank = .ok bank ∧
          Ics20Cash.VoucherBurn P ctx bank bank' sender denom quantity change ∧
          outs' = .cashBank bank' :: change.toList.map .voucher) := by
  have hplain : ∀ {l : List ContractState} {dh : DatagramHandler}, (∀ s ∈ l, s.Plain) →
      (∀ anyMsg, dh ≠ .createOutgoingPacket anyMsg) →
      ∃ outs', (l = outs' ∨ ∃ chan, l = outs' ++ [.channel chan]) ∧ Supplies P ctx outs' ∧
        ∀ anyMsg, dh = .createOutgoingPacket anyMsg → Ics20Cash.Takes P ctx anyMsg false →
          ∃ bank bank' sender denom quantity change, ctx.getInput CashBank = .ok bank ∧
            Ics20Cash.VoucherBurn P ctx bank bank' sender denom quantity change ∧
            outs' = .cashBank bank' :: change.toList.map .voucher :=
    fun hl hd => ⟨_, .inl rfl, .plain hl, fun anyMsg he => absurd he (hd anyMsg)⟩
  cases h with
  | sendPacket hhost hmodule heffect hsend =>
    obtain ⟨hs, hb⟩ := heffect.supplies hhost hsend.input hmodule
    exact ⟨_, .inr ⟨_, rfl⟩, hs, fun anyMsg he => by cases he; exact hb⟩
  | recvPacket _ _ _ heffect _ => exact ⟨_, .inr ⟨_, rfl⟩, heffect.supplies, nofun⟩
  | acknowledgePacket _ _ _ _ heffect _ => exact ⟨_, .inr ⟨_, rfl⟩, heffect.supplies, nofun⟩
  | _ => exact hplain (by simp [ContractState.Plain]) nofun

/-- An accepted datagram that consumes vouchers only where it burns moves the vouchers and their
supply alike. -/
theorem Executes.conserves (h : Executes P ctx signers handler outs)
    (hbase : ∀ t ∈ ctx.inIbcStates, ∀ t' ∈ ctx.inIbcStates, t.baseId = t'.baseId)
    (hkept : ∀ bank, ContractState.cashBank bank ∈ ctx.inStates →
      ∃ bank', ContractState.cashBank bank' ∈ outs)
    (hburns : BurnsOnly P ctx handler) :
    (ctx.inStates.map (excess b d)).sum = (outs.map (excess b d)).sum := by
  obtain ⟨outs', houts, hs, hb⟩ := h.supplies
  have hsum : (outs.map (excess b d)).sum = (outs'.map (excess b d)).sum := by
    rcases houts with rfl | ⟨chan, rfl⟩
    · rfl
    · exact sum_excess_append_channel
  rw [hsum]
  refine hs.conserves (fun bank hbank v hv => ?_) (fun bank hbank => ?_) ?_
  · exact hbase _ (List.mem_filterMap.2 ⟨_, mem_filterIsInstance.1 hv, rfl⟩) _
      (List.mem_filterMap.2 ⟨_, mem_of_getInput hbank, rfl⟩)
  · obtain ⟨bank', hb'⟩ := hkept bank hbank
    refine ⟨bank', ?_⟩
    rcases houts with rfl | ⟨chan, rfl⟩
    · exact hb'
    · simpa using hb'
  · by_cases hz : ∀ v ∈ ctx.getInputs Voucher, v.amount.quantity = 0
    · exact .inl hz
    · simp only [not_forall] at hz
      obtain ⟨v, hv, hq⟩ := hz
      obtain ⟨anyMsg, rfl, hburn⟩ := hburns v (mem_filterIsInstance.1 hv) hq
      exact .inr (hb anyMsg rfl hburn)

end

/-! ## The ledger -/

namespace LedgerTransaction

/-- A datagram consumes vouchers of a positive amount only where it burns them. -/
def BurnsOnly (P : Platform) (tx : LedgerTransaction) : Prop :=
  ∀ handler signers, tx.datagramHandlerCommands = [(handler, signers)] →
    CordaIbc.BurnsOnly P (.create tx.inputStates tx.referenceStates) handler

/-- What a transaction takes from the vouchers of a denomination, it takes from the supply. -/
def Conserves (tx : LedgerTransaction) : Prop :=
  ∀ b d, (tx.inputStates.map (excess b d)).sum = (tx.outputs.map (excess b d)).sum

variable {tx : LedgerTransaction}

theorem Conserves.of_plain (hin : ∀ s ∈ tx.inputStates, s.Plain) (hout : ∀ s ∈ tx.outputs, s.Plain) :
    tx.Conserves := fun b d => by
  rw [sum_excess_of_plain hin, sum_excess_of_plain hout]

theorem Conserves.of_misc (h : MiscEffect tx) : tx.Conserves := by
  cases h with
  | cashBank hin hadd hout =>
    intro b d
    rw [(hout.map _).sum_eq, hin]
    simp [excess, ContractState.vouchers, ContractState.supply, CashBank.issued, CashBank.create,
      CashBank.supplyOf]
  | genesis hin hout | host _ _ hin _ hout | fund hin hout =>
    exact .of_plain (by simp [hin, ContractState.Plain]) (by simp [hout, ContractState.Plain])
  | bank hin hadd hout =>
    refine .of_plain (by simp [hin, ContractState.Plain]) fun s hs => ?_
    have hs := hout.mem_iff.1 hs
    simp only [List.mem_cons, List.not_mem_nil, or_false] at hs
    rcases hs with rfl | rfl <;> exact ⟨by rintro _ ⟨⟩, by rintro _ ⟨⟩⟩

theorem Conserves.of_other (h : tx.touchesIbc = false) : tx.Conserves := by
  have hb : ∀ s ∈ tx.inputStates ++ tx.outputs, s.Plain := fun s hs => by
    have h₁ : s.belongsToIbc = false := by
      have := List.any_eq_false.1 h s hs
      simpa using this
    constructor
    · rintro v rfl
      cases h₁
    · rintro bank rfl
      cases h₁
  exact .of_plain (fun s hs => hb s (List.mem_append_left _ hs))
    fun s hs => hb s (List.mem_append_right _ hs)

end LedgerTransaction

namespace Ledger

section
variable {P : Platform} {l : Ledger} {tx : LedgerTransaction}

theorem Inv.conserves (hi : l.Inv) (hc : Commits P l tx) (ha : Accepted tx)
    (hn : tx.DistinctOutputs) (hb : tx.BurnsOnly P) : tx.Conserves := by
  cases ht : tx.touchesIbc with
  | false => exact .of_other ht
  | true =>
    rcases verify_cases (hc.verify ht) with hm | ⟨handler, signers, hm, hd⟩
    · exact .of_misc hm
    · obtain ⟨ctx', he, hv⟩ := verify_datagram hm hd (hc.verify ht)
      obtain ⟨outs, hexec, ho⟩ := executes_of_ok he
      have houts : ctx'.outStates.states = outs := by rw [ho.outStates]; rfl
      have hperm : tx.outputs.Perm outs :=
        houts ▸ (Context.perm_iff_nodup hv.length hv.subset).2 (hn (by simp [hd]))
      obtain ⟨b₀, -, hbin, -, -⟩ := hv.baseId
      have hin : ctx'.inIbcStates = (Context.create tx.inputStates tx.referenceStates).inIbcStates := by
        unfold Context.inIbcStates; rw [ho.inStates]
      rw [hin] at hbin
      intro b d
      rw [(hperm.map _).sum_eq]
      refine hexec.conserves (fun t ht t' ht' => (hbin t ht).trans (hbin t' ht').symm)
        (fun bank hbank => ?_) (hb handler signers hd)
      obtain ⟨o, ho, -, hu⟩ := hi.exists_updates hc ha hbank (k := (bank.baseId, bankId)) rfl
      cases o <;> first | exact hu.elim | skip
      case cashBank bank' => exact ⟨bank', hperm.mem_iff.1 ho⟩

theorem total_excess {b : StateRef} {d : Denom} :
    l.total (excess b d) = l.total (ContractState.vouchers b d) - l.total (ContractState.supply b d) := by
  have h : l.total (excess b d) + l.total (ContractState.supply b d) =
      l.total (ContractState.vouchers b d) := by
    unfold total
    rw [← Finmap.sumOver_add]
    exact Finmap.sumOver_congr _ fun _ _ _ => Int.sub_add_cancel _ _
  omega

/-- The one cash bank of a base id states the whole supply. -/
theorem Inv.total_supply (hi : l.Inv) {r : StateRef} {n : Party} {bank : CashBank}
    (hl : l.states.lookup r = some ⟨.cashBank bank, n⟩) (d : Denom) :
    l.total (ContractState.supply bank.baseId d) = bank.supplyOf d := by
  unfold total
  rw [Finmap.sumOver_eq_termAt (k := r), Finmap.termAt_of_lookup _ hl]
  · simp [ContractState.supply, CashBank.issued]
  · intro r' s hl' hne
    cases hs : s.data <;> try rfl
    rename_i bank'
    have hb : bank'.baseId ≠ bank.baseId := fun he =>
      hne (hi.unique r' r s _ (bank.baseId, bankId) hl' hl (by rw [hs, ← he]; rfl) rfl)
    simp [ContractState.supply, CashBank.issued, hb]

/-- In a run whose datagrams have distinct outputs and consume vouchers of a positive amount only
where they burn them, the supply a cash bank states of a denomination is the sum of its unconsumed
vouchers, and every transaction takes from the supply what it takes from the vouchers. -/
theorem supply_eq_vouchers (hinj : P.toCrypto.UniqueNames) {l₀ : Ledger}
    {tr : List LedgerTransaction} (h₀ : l₀.Start)
    (hr : Run (Step P fun tx => tx.DistinctOutputs ∧ tx.BurnsOnly P) l₀ tr l) :
    (∀ r n bank, l.states.lookup r = some ⟨.cashBank bank, n⟩ → ∀ d : Denom,
      bank.supplyOf d = l.total (ContractState.vouchers bank.baseId d)) ∧
    ∀ tx ∈ tr, tx.Conserves := by
  have hI : l.Inv ∧ (∀ b d, l.total (excess b d) = 0) ∧ ∀ tx ∈ tr, tx.Conserves := by
    refine hr.invariant (I := fun tr l => l.Inv ∧ (∀ b d, l.total (excess b d) = 0) ∧
      ∀ tx ∈ tr, tx.Conserves) ⟨h₀.inv, fun b d => ?_, nofun⟩ ?_
    · refine Finmap.sumOver_eq_zero _ fun r s hl => ?_
      obtain ⟨g, hg⟩ := h₀.genesis r s hl
      rw [hg]; rfl
    · rintro tr l tx l' - ⟨hi, hz, hs⟩ ⟨⟨hn, hb⟩, hcommit⟩
      obtain ⟨hc, rfl⟩ := commit_ok.1 hcommit
      have ha := hc.accepted hinj hn
      have hcons := hi.conserves hc ha hn hb
      refine ⟨hi.apply hc ha, fun b d => ?_, fun t ht => ?_⟩
      · rw [total_apply _ hc hi.known, hz, hcons b d]
        omega
      · rcases List.mem_append.1 ht with ht | ht
        · exact hs t ht
        · rw [List.mem_singleton.1 ht]; exact hcons
  obtain ⟨hi, hz, hs⟩ := hI
  refine ⟨fun r n bank hl d => ?_, hs⟩
  have h := hz bank.baseId d
  rw [total_excess, hi.total_supply hl d] at h
  omega

end

/-! ### A voucher left behind -/

namespace DroppedVoucher
open Sample ChannelOuterClass

def packet : Packet :=
  { sequence := 1, sourcePort := "transfer", sourceChannel := "channel-0"
    destinationPort := "transfer", destinationChannel := "channel-0"
    data := Sample.toJson ⟨"atom", "5", addressA, addressB⟩, timeoutHeight := .default, timeoutTimestamp := 0 }

/-- What the second chain shows for the packet. -/
def commitment : SignedTransaction :=
  shows 2 [.channel { peerChannel with packets := peerChannel.packets.insert 1 packet }]

def P : Platform := platform [handshake, commitment] []

/-- A host with a cash bank and an open channel, and a packet that mints a voucher of 5. -/
def minting : List Proposal :=
  [hostCreate "jp.datachain.corda.ibc.ics20cash.Module",
    bankCreate (out 1 0) (.cashBankCreate (notary 66)) (fun h => .cashBank (.create h (notary 66)))
      [(notary 66).owningKey]] ++ openChannel 3 (out 2 0) ++
  [datagram [out 7 0, out 2 1] [out 6 0, out 5 0, out 3 1] (.handlePacketRecv
    { packet, proofCommitment := [1], proofHeight := HEIGHT })]

/-- A `HandleConnOpenInit` that takes the voucher as a second input. -/
def drop : Proposal :=
  datagram [out 6 0, out 8 1] [out 3 1] (.handleConnOpenInit
    { clientId, counterparty := ⟨clientId, "", PREFIX⟩, version := none, delayPeriod := 0 })

def denom : Denom := ⟨⟨"transfer/channel-0", "atom"⟩⟩

/-- The supply the cash bank at a reference states, and the vouchers. -/
def books (l : Ledger) (r : StateRef) : Option (Int × Int) :=
  match l.states.lookup r with
  | some ⟨.cashBank s, _⟩ =>
    some (s.supplyOf denom, l.total (ContractState.vouchers s.baseId denom))
  | _ => none

/-- The transactions of `minting` repeat no output and consume no voucher. -/
theorem books_minting : (runScript P 1 start minting).map (fun x =>
    (x.1.all fun tx => tx.outputs.Nodup ∧ filterIsInstance Voucher tx.inputStates = [],
      books x.2 (out 8 0))) = .ok (true, some (5, 5)) := by
  decide +kernel

theorem books_drop :
    (runScript P 1 start (minting ++ [drop])).map (fun x => books x.2 (out 8 0)) =
      .ok (some (5, 0)) := by
  decide +kernel

end DroppedVoucher

open DroppedVoucher Sample in
/-- A reachable ledger whose cash bank states a supply of 5 and that has no vouchers. -/
theorem supply_without_vouchers : ∃ tr l r n bank, Sample.start.Start ∧
    Run (Step P fun _ => True) Sample.start tr l ∧
    l.states.lookup r = some ⟨.cashBank bank, n⟩ ∧ bank.supplyOf denom = 5 ∧
    l.total (ContractState.vouchers bank.baseId denom) = 0 := by
  obtain ⟨⟨tr, l⟩, hscript, hbooks⟩ := Result.map_ok.1 books_drop
  have hr := run_of_script (t := []) hscript (fun _ _ => trivial) .nil
  unfold books at hbooks
  split at hbooks
  · rename_i bank n hl
    rw [Option.some.injEq, Prod.mk.injEq] at hbooks
    exact ⟨_, l, _, n, bank, start_start, hr, hl, hbooks.1, hbooks.2⟩
  · cases hbooks

open DroppedVoucher Sample in
/-- A run that mints a voucher of 5 and consumes none. -/
theorem supply_eq_vouchers_minting : ∃ tr l r n bank,
    Run (Step P fun tx => tx.DistinctOutputs ∧ tx.BurnsOnly P) start tr l ∧
    l.states.lookup r = some ⟨.cashBank bank, n⟩ ∧
    bank.supplyOf denom = l.total (ContractState.vouchers bank.baseId denom) ∧
    bank.supplyOf denom = 5 := by
  obtain ⟨⟨tr, l⟩, hscript, hbooks⟩ := Result.map_ok.1 books_minting
  obtain ⟨hall, hbooks⟩ := Prod.mk.inj hbooks
  have hr : Run (Step P fun tx => tx.DistinctOutputs ∧ tx.BurnsOnly P) start ([] ++ tr) l := by
    refine run_of_script hscript (fun tx htx => ?_) .nil
    have h := List.all_eq_true.1 hall tx htx
    simp only [decide_eq_true_eq] at h
    refine ⟨fun _ => h.1, fun handler signers _ v hv => ?_⟩
    have hmem : v ∈ filterIsInstance Voucher tx.inputStates := mem_filterIsInstance.2 hv
    rw [h.2] at hmem
    cases hmem
  unfold books at hbooks
  split at hbooks
  · rename_i bank n hl
    rw [Option.some.injEq, Prod.mk.injEq] at hbooks
    exact ⟨_, l, _, n, bank, hr, hl, (supply_eq_vouchers uniqueNames start_start hr).1 _ _ _ hl denom,
      hbooks.1⟩
  · cases hbooks

end Ledger

end CordaIbc
