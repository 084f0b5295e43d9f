import CordaIbc.Lib.Run
import CordaIbc.Proofs.Answer
import CordaIbc.Proofs.Authorisation

/-!
# The accounts of a bank

A call of the bank adds its amount to one entry of a map, or takes it off, and leaves every other
entry alone (`BalanceMap.Adds`). The totals of a denomination follow call by call
(`Bank.accounts_exact`), and so does what a receive does to the bank of its context: what the
acknowledgement says, and nothing when that is an error (`Ics20.onRecvPacket_bank`).
-/

namespace CordaIbc

open ChannelOuterClass (Packet Acknowledgement)
open Context StateClass ContractState

namespace Result
variable {α β : Type} {x : Result α} {f : α → β}

/-- What is computed from a value fails when the value does. -/
theorem map_error : (∃ e, (do let a ← x; .ok (f a)) = .error e) ↔ ∃ e, x = .error e := by
  cases x with
  | error e => exact ⟨fun _ => ⟨e, rfl⟩, fun _ => ⟨e, rfl⟩⟩
  | ok a =>
    constructor
    · rintro ⟨e, he⟩
      cases he
    · rintro ⟨e, he⟩
      cases he

end Result

/-! ## One map -/

namespace BalanceMap

/-- `m'` is `m` with an amount of either sign added to the entry of an owner in a denomination. -/
structure Adds (m : BalanceMap) (denom : Denom) (owner : Address) (amount : Int) (m' : BalanceMap) :
    Prop where
  entry : m'.entry denom owner = some (m.balance denom owner + amount)
  frame : ∀ d o, ¬ (d = denom ∧ o = owner) → m'.entry d o = m.entry d o
  total : ∀ d, m'.total d = m.total d + if d = denom then amount else 0

variable {m m' : BalanceMap} {d : Denom} {o : Address} {a : Int}

theorem adds_up : m.Adds d o a (m.up d o a) := by
  refine ⟨?_, ?_, fun d' => total_up⟩
  · rw [entry_up, if_pos ⟨rfl, rfl⟩]
  · intro d' o' hne
    rw [entry_up, if_neg hne]

theorem adds_down (h : m.down d o a = .ok m') : m.Adds d o (-a) m' := by
  refine ⟨?_, ?_, ?_⟩
  · obtain ⟨b, he, -, rfl⟩ := down_ok.1 h
    rw [entry_put, if_pos ⟨rfl, rfl⟩, balance_of_entry he, Int.sub_eq_add_neg]
  · intro d' o' hne
    obtain ⟨b, -, -, rfl⟩ := down_ok.1 h
    rw [entry_put, if_neg hne]
  · intro d'
    rw [total_down h]
    split <;> omega

/-- A debit fails exactly when the entry is missing or smaller. -/
theorem down_error : (∃ e, m.down d o a = .error e) ↔ ∀ b, m.entry d o = some b → b < a := by
  constructor
  · rintro ⟨e, he⟩ b hb
    by_contra hlt
    have hok := down_ok.2 ⟨b, hb, Int.not_lt.1 hlt, rfl⟩
    rw [he] at hok
    cases hok
  · intro h
    cases hd : m.down d o a with
    | error e => exact ⟨e, rfl⟩
    | ok m' =>
      obtain ⟨b, hb, hle, -⟩ := down_ok.1 hd
      exact absurd (h b hb) (Int.not_lt.2 hle)

end BalanceMap

/-! ## Calls -/

namespace Bank

/-- The maps of a bank. -/
inductive Account
  | allocated | locked | minted
deriving DecidableEq, Repr

def account (bank : Bank) : Account → BalanceMap
  | .allocated => bank.allocated
  | .locked => bank.locked
  | .minted => bank.minted

inductive Op
  | allocate | lock | unlock | mint | burn
deriving DecidableEq, Repr

/-- A call of one of the bank's operations. -/
structure Call where
  op : Op
  owner : Address
  denom : Denom
  amount : Int

namespace Call

def run (c : Call) (bank : Bank) : Result Bank :=
  match c.op with
  | .allocate => .ok (bank.allocate c.owner c.denom c.amount)
  | .lock => bank.lock c.owner c.denom c.amount
  | .unlock => bank.unlock c.owner c.denom c.amount
  | .mint => .ok (bank.mint c.owner c.denom c.amount)
  | .burn => bank.burn c.owner c.denom c.amount

/-- What a call adds to the entry of its owner and denomination in a map. -/
def delta (c : Call) : Account → Option Int
  | .allocated =>
    match c.op with
    | .allocate | .unlock => some c.amount
    | .lock => some (-c.amount)
    | .mint | .burn => none
  | .locked =>
    match c.op with
    | .lock => some c.amount
    | .unlock => some (-c.amount)
    | .allocate | .mint | .burn => none
  | .minted =>
    match c.op with
    | .mint => some c.amount
    | .burn => some (-c.amount)
    | .allocate | .lock | .unlock => none

/-- The map a call takes its amount from. -/
def debited (c : Call) : Option Account :=
  match c.op with
  | .lock => some .allocated
  | .unlock => some .locked
  | .burn => some .minted
  | .allocate | .mint => none

/-- The call adds its amount to its own entries, and changes nothing else of the bank. -/
structure Changes (c : Call) (bank bank' : Bank) : Prop where
  adds : ∀ account amount, c.delta account = some amount →
    (bank.account account).Adds c.denom c.owner amount (bank'.account account)
  keeps : ∀ account, c.delta account = none → bank'.account account = bank.account account
  participants : bank'.participants = bank.participants
  baseId : bank'.baseId = bank.baseId
  denoms : bank'.denoms = bank.denoms

/-- The entry to debit is missing, or smaller than the amount. -/
def Uncovered (c : Call) (bank : Bank) : Prop :=
  ∃ account, c.debited = some account ∧
    ∀ b, (bank.account account).entry c.denom c.owner = some b → b < c.amount

variable {c : Call} {bank bank' : Bank}

theorem changes_of_run (h : c.run bank = .ok bank') : c.Changes bank bank' := by
  obtain ⟨op, owner, denom, amount⟩ := c
  cases op with
  | allocate =>
    obtain rfl := Except.ok.inj h
    refine ⟨?_, ?_, rfl, rfl, rfl⟩
    · rintro (_ | _ | _) _ ⟨⟩
      exact BalanceMap.adds_up
    · rintro (_ | _ | _) hnone
      · cases hnone
      · rfl
      · rfl
  | lock =>
    obtain ⟨allocated, hdown, rfl⟩ := lock_ok.1 h
    refine ⟨?_, ?_, rfl, rfl, rfl⟩
    · rintro (_ | _ | _) _ ⟨⟩
      · exact BalanceMap.adds_down hdown
      · exact BalanceMap.adds_up
    · rintro (_ | _ | _) hnone
      · cases hnone
      · cases hnone
      · rfl
  | unlock =>
    obtain ⟨locked, hdown, rfl⟩ := unlock_ok.1 h
    refine ⟨?_, ?_, rfl, rfl, rfl⟩
    · rintro (_ | _ | _) _ ⟨⟩
      · exact BalanceMap.adds_up
      · exact BalanceMap.adds_down hdown
    · rintro (_ | _ | _) hnone
      · cases hnone
      · cases hnone
      · rfl
  | mint =>
    obtain rfl := Except.ok.inj h
    refine ⟨?_, ?_, rfl, rfl, rfl⟩
    · rintro (_ | _ | _) _ ⟨⟩
      exact BalanceMap.adds_up
    · rintro (_ | _ | _) hnone
      · rfl
      · rfl
      · cases hnone
  | burn =>
    obtain ⟨minted, hdown, rfl⟩ := burn_ok.1 h
    refine ⟨?_, ?_, rfl, rfl, rfl⟩
    · rintro (_ | _ | _) _ ⟨⟩
      exact BalanceMap.adds_down hdown
    · rintro (_ | _ | _) hnone
      · rfl
      · rfl
      · cases hnone

/-- A call fails exactly when what it debits does not cover it. -/
theorem run_error : (∃ e, c.run bank = .error e) ↔ c.Uncovered bank := by
  obtain ⟨op, owner, denom, amount⟩ := c
  have huncovered : ∀ account : Account,
      (∃ e, (bank.account account).down denom owner amount = .error e) ↔
        ∃ a, some account = some a ∧ ∀ b, (bank.account a).entry denom owner = some b → b < amount := by
    intro account
    rw [BalanceMap.down_error]
    exact ⟨fun h => ⟨account, rfl, h⟩, fun ⟨_, ha, h⟩ => Option.some.inj ha ▸ h⟩
  cases op with
  | allocate => exact ⟨fun ⟨_, h⟩ => absurd h nofun, fun ⟨_, h, _⟩ => absurd h nofun⟩
  | lock => exact Result.map_error.trans (huncovered .allocated)
  | unlock => exact Result.map_error.trans (huncovered .locked)
  | mint => exact ⟨fun ⟨_, h⟩ => absurd h nofun, fun ⟨_, h, _⟩ => absurd h nofun⟩
  | burn => exact Result.map_error.trans (huncovered .minted)

/-- What the calls of one operation in a denomination sum to. -/
def amounts (op : Op) (denom : Denom) (calls : List Call) : Int :=
  ((calls.filter fun c => c.op = op ∧ c.denom = denom).map amount).sum

theorem amounts_snoc {op : Op} {denom : Denom} {calls : List Call} :
    amounts op denom (calls ++ [c]) =
      amounts op denom calls + if c.op = op ∧ c.denom = denom then c.amount else 0 := by
  unfold amounts
  rw [List.filter_append, List.map_append, List.sum_append]
  by_cases h : c.op = op ∧ c.denom = denom
  · simp [h]
  · simp [h]

/-- The totals that the calls so far lead to. -/
structure Totals (bank₀ : Bank) (calls : List Call) (bank : Bank) (denom : Denom) : Prop where
  held : bank.allocated.total denom + bank.locked.total denom =
    bank₀.allocated.total denom + bank₀.locked.total denom + amounts .allocate denom calls
  minted : bank.minted.total denom =
    bank₀.minted.total denom + amounts .mint denom calls - amounts .burn denom calls

theorem Changes.totals {bank₀ : Bank} {calls : List Call} {denom : Denom}
    (hc : c.Changes bank bank') (h : Totals bank₀ calls bank denom) :
    Totals bank₀ (calls ++ [c]) bank' denom := by
  have htotal : ∀ account, (bank'.account account).total denom = (bank.account account).total denom +
      if c.denom = denom then (c.delta account).getD 0 else 0 := by
    intro account
    cases hd : c.delta account with
    | none =>
      rw [hc.keeps account hd]
      simp
    | some amount =>
      rw [(hc.adds account amount hd).total denom]
      simp [eq_comm]
  have hallocated := htotal .allocated
  have hlocked := htotal .locked
  have hminted := htotal .minted
  have hheld := h.held
  have hminted₀ := h.minted
  obtain ⟨op, owner, d, amount⟩ := c
  refine ⟨?_, ?_⟩
  all_goals
    simp only [amounts_snoc]
    by_cases hd : d = denom
    · cases op <;> simp [account, delta, hd] at hallocated hlocked hminted ⊢ <;> omega
    · simp [account, hd] at hallocated hlocked hminted ⊢
      omega

theorem totals_of_run {bank₀ : Bank} {calls : List Call}
    (h : Run (fun b c b' => Call.run c b = .ok b') bank₀ calls bank) (denom : Denom) :
    Totals bank₀ calls bank denom := by
  induction h with
  | nil => exact ⟨by simp [amounts], by simp [amounts]⟩
  | snoc _ hc ih => exact (changes_of_run hc).totals ih

end Call

/-- The accounting of a bank is exact: over any successful calls the totals move by the amounts
allocated, minted and burned; a call changes its own entries by its amount, and nothing else; and it
fails exactly when what it debits does not cover it. -/
theorem accounts_exact (bank₀ : Bank) :
    (∀ calls bank, Run (fun b (c : Call) b' => c.run b = .ok b') bank₀ calls bank →
      ∀ denom, Call.Totals bank₀ calls bank denom) ∧
    (∀ (c : Call) bank, c.run bank₀ = .ok bank → c.Changes bank₀ bank) ∧
    ∀ c : Call, (∃ e, c.run bank₀ = .error e) ↔ c.Uncovered bank₀ := by
  refine ⟨?_, ?_, ?_⟩
  · intro calls bank hrun denom
    exact Call.totals_of_run hrun denom
  · intro c bank hc
    exact Call.changes_of_run hc
  · intro c
    exact Call.run_error

section
open Sample

/-- Ten atoms are allocated, and four of the twenty are locked. -/
def atomCalls : List Call :=
  [⟨.allocate, Sample.account 98, ⟨⟨"", "atom"⟩⟩, 10⟩, ⟨.lock, Sample.account 97, ⟨⟨"", "atom"⟩⟩, 4⟩]

theorem accounts_exact_atoms : ∃ bank,
    Run (fun b (c : Call) b' => c.run b = .ok b') liveBank atomCalls bank ∧
      bank.allocated.total ⟨⟨"", "atom"⟩⟩ + bank.locked.total ⟨⟨"", "atom"⟩⟩ = 20 := by
  obtain ⟨bank, hlock⟩ : ∃ bank, Call.run ⟨.lock, Sample.account 97, ⟨⟨"", "atom"⟩⟩, 4⟩
      (liveBank.allocate (Sample.account 98) ⟨⟨"", "atom"⟩⟩ 10) = .ok bank := ⟨_, rfl⟩
  have hrun : Run (fun b (c : Call) b' => c.run b = .ok b') liveBank atomCalls bank :=
    (Run.nil.snoc rfl).snoc hlock
  exact ⟨bank, hrun, ((accounts_exact liveBank).1 _ _ hrun _).held.trans (by decide +kernel)⟩

end

end Bank

/-! ## What a receive does to the bank -/

namespace DenomPath
variable {path a b : String}

/-- What has two names in front can be cut behind them. -/
theorem exists_removePrefix (h : hasPrefixes path [a, b] = true) :
    ∃ path', removePrefix path = .ok path' := by
  obtain ⟨rest, hs⟩ := hasPrefixes_two.1 h
  unfold removePrefix splitLimit
  rw [hs]
  rcases rest with _ | ⟨x, _ | ⟨y, rest⟩⟩
  · exact ⟨"", rfl⟩
  · exact ⟨x, rfl⟩
  · have hlen : ¬ (a :: b :: x :: y :: rest).length ≤ 3 := by simp
    simp only [if_neg hlen]
    exact ⟨_, rfl⟩

end DenomPath

theorem Denom.exists_removePrefix {d : Denom} {p c : Identifier} (h : d.hasPrefix p c = true) :
    ∃ d', d.removePrefix = .ok d' := by
  obtain ⟨path, hpath⟩ := DenomPath.exists_removePrefix h
  exact ⟨_, Result.bind_ok.2 ⟨path, hpath, rfl⟩⟩

namespace Ics20
variable {P : Platform} {bank bank' : Bank} {receiver : Address} {denom : Denom} {amount : Int}
  {packet : Packet} {sp sc dp dc : Identifier}

/-- A denomination that comes back is unlocked without its prefix; any other is recorded and minted
behind the prefix of the destination. -/
structure Credited (P : Platform) (sp sc dp dc : Identifier) (receiver : Address) (denom : Denom)
    (amount : Int) (bank bank' : Bank) : Prop where
  unlocked : denom.hasPrefix sp sc = true →
    ∃ d, denom.removePrefix = .ok d ∧ bank.unlock receiver d amount = .ok bank'
  minted : denom.hasPrefix sp sc = false → bank' =
    (bank.recordDenom P.toCrypto (denom.addPath dp dc)).mint receiver (denom.addPath dp dc) amount

/-- The denomination comes back, and the escrow entry is missing or too small. -/
def Short (sp sc : Identifier) (receiver : Address) (denom : Denom) (amount : Int) (bank : Bank) :
    Prop :=
  denom.hasPrefix sp sc = true ∧ ∃ d, denom.removePrefix = .ok d ∧
    ∀ b, bank.locked.entry d receiver = some b → b < amount

section
variable (hdp : dp.id = packet.destinationPort) (hdc : dc.id = packet.destinationChannel)
include hdp hdc

theorem credited_of_credit
    (h : credit P bank (denom.hasPrefix sp sc) packet receiver denom amount = .ok bank') :
    Credited P sp sc dp dc receiver denom amount bank bank' := by
  refine ⟨?_, ?_⟩
  · intro hs
    rw [hs] at h
    exact Result.bind_ok.1 h
  · intro hs
    unfold credit at h
    rw [hs, Identifier.of_ok.2 hdp, Identifier.of_ok.2 hdc] at h
    exact (Except.ok.inj h).symm

/-- The path operations never make a receive fail: only the escrow does. -/
theorem credit_error :
    (∃ e, credit P bank (denom.hasPrefix sp sc) packet receiver denom amount = .error e) ↔
      Short sp sc receiver denom amount bank := by
  constructor
  · rintro ⟨e, he⟩
    by_cases hs : denom.hasPrefix sp sc = true
    · obtain ⟨d, hd⟩ := Denom.exists_removePrefix hs
      rw [hs] at he
      unfold credit at he
      rw [if_pos rfl, hd] at he
      exact ⟨hs, d, hd, BalanceMap.down_error.1 (Result.map_error.1 ⟨e, he⟩)⟩
    · have hcovered : Covered bank (denom.hasPrefix sp sc) receiver denom amount :=
        fun h => absurd h hs
      obtain ⟨bank', hok⟩ := @credit_of_covered P _ _ _ _ _ _ _ _ hdp hdc hcovered
      rw [hok] at he
      cases he
  · rintro ⟨hs, d, hd, hshort⟩
    cases hc : credit P bank (denom.hasPrefix sp sc) packet receiver denom amount with
    | error e => exact ⟨e, rfl⟩
    | ok bank' =>
      obtain ⟨d', b, hd', hb, hle⟩ := covered_of_credit hc hs
      obtain rfl : d' = d := Except.ok.inj (hd'.symm.trans hd)
      exact absurd (hshort b hb) (Int.not_lt.2 hle)

end

/-- A receive puts out one bank. With an error acknowledgement it is the input; with a result it is
credited with the packet's amount; and the acknowledgement is an error exactly when the escrow falls
short. -/
theorem onRecvPacket_bank {ctx : Context} {data : FungibleTokenPacketData}
    (hbank : ctx.getInput Bank = .ok bank) (hempty : ctx.outStates = .empty)
    (hsp : sp.id = packet.sourcePort) (hsc : sc.id = packet.sourceChannel)
    (hdp : dp.id = packet.destinationPort) (hdc : dc.id = packet.destinationChannel)
    (hdata : P.toFungibleTokenPacketData packet.data = .ok data)
    (hamount : toBigInteger data.amount = .ok amount)
    (hreceiver : Address.fromBech32 P.toCrypto data.receiver = .ok receiver) :
    ∃ ctx' ack bank', onRecvPacket P ctx packet = .ok (ctx', ack) ∧
      Outputs ctx [.bank bank'] ctx' ∧ ack.IsAnswer ∧
      ((∃ message, ack = .error message) → bank' = bank) ∧
      (ack = successAck →
        Credited P sp sc dp dc receiver (Denom.fromString data.denom) amount bank bank') ∧
      ((∃ message, ack = .error message) ↔
        Short sp sc receiver (Denom.fromString data.denom) amount bank) := by
  have hno : ∀ b : Bank, (up b : ContractState) ∉ ctx.outStates.states := by
    rw [hempty]
    exact fun _ => List.not_mem_nil
  have hshort := @credit_error P bank receiver (Denom.fromString data.denom) amount packet sp sc dp dc
    hdp hdc
  unfold onRecvPacket
  rw [hdata, Result.ok_bind, hamount, Result.ok_bind, hreceiver, Result.ok_bind,
    Identifier.of_ok.2 hsp, Result.ok_bind, Identifier.of_ok.2 hsc, Result.ok_bind, hbank,
    Result.ok_bind]
  cases hcredit : credit P bank ((Denom.fromString data.denom).hasPrefix sp sc) packet receiver
      (Denom.fromString data.denom) amount with
  | ok bank' =>
    obtain ⟨ctx', hadd⟩ : ∃ ctx', ctx.addOutput bank' = .ok ctx' := exists_addOutput hno
    refine ⟨ctx', successAck, bank', ?_, (addOutput_ibc rfl hadd).2, .inl rfl, (by rintro ⟨_, ⟨⟩⟩),
      fun _ => credited_of_credit hdp hdc hcredit, ?_⟩
    · simp only [Result.ok_bind, hadd, catchIllegalArgument]
    · rw [← hshort, hcredit]
      constructor
      · rintro ⟨_, h⟩
        cases h
      · rintro ⟨_, h⟩
        cases h
  | error e =>
    obtain ⟨message, rfl⟩ := credit_onlyIllegalArgument _ _ _ _ _ _ e hcredit
    obtain ⟨ctx', hadd⟩ : ∃ ctx', ctx.addOutput bank = .ok ctx' := exists_addOutput hno
    refine ⟨ctx', .error message, bank, ?_, (addOutput_ibc rfl hadd).2, .inr ⟨message, rfl⟩,
      fun _ => rfl, (by rintro ⟨⟩), ?_⟩
    · show (do let ctx ← ctx.addOutput bank; .ok (ctx, _)) = _
      rw [hadd, Result.ok_bind]
    · rw [← hshort, hcredit]
      exact ⟨fun _ => ⟨_, rfl⟩, fun _ => ⟨_, rfl⟩⟩

section
open Sample

/-- A voucher for five atoms that comes back to a bank with nothing in escrow. -/
def returning : Packet :=
  { sequence := 1, sourcePort := "transfer", sourceChannel := "channel-0"
    destinationPort := "transfer", destinationChannel := "channel-0"
    data := toJson ⟨"transfer/channel-0/atom", "5", addressA, addressB⟩, timeoutHeight := .default
    timeoutTimestamp := 0 }

theorem onRecvPacket_bank_short : ∃ ctx' message,
    onRecvPacket (platform [] []) (.create [.bank liveBank] []) returning =
        .ok (ctx', .error message) ∧
      Outputs (.create [.bank liveBank] []) [.bank liveBank] ctx' := by
  have hdata : (platform [] []).toFungibleTokenPacketData returning.data =
      .ok ⟨"transfer/channel-0/atom", "5", addressA, addressB⟩ := toFungibleTokenPacketData_toJson _
  have hamount : toBigInteger "5" = .ok 5 := by decide +kernel
  have hreceiver : Address.fromBech32 (platform [] []).toCrypto addressB = .ok (Sample.account 98) := by
    decide +kernel
  obtain ⟨ctx', ack, bank', hrecv, ho, -, hkept, -, hshort⟩ := @onRecvPacket_bank (platform [] [])
    liveBank (Sample.account 98) 5 returning transferPort (channel 0) transferPort (channel 0)
    (.create [.bank liveBank] []) _ rfl rfl rfl rfl rfl rfl hdata hamount hreceiver
  obtain ⟨message, rfl⟩ := hshort.2 ⟨by decide +kernel, ⟨⟨"", "atom"⟩⟩, by decide +kernel, nofun⟩
  obtain rfl := hkept ⟨message, rfl⟩
  exact ⟨ctx', message, hrecv, ho⟩

end

end Ics20

end CordaIbc
