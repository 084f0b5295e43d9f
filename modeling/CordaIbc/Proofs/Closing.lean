import CordaIbc.Proofs.EndStep
import CordaIbc.Sample.Net

/-!
# Closing a channel

A close takes a channel as it is: `HandleChanCloseInit` and `HandleChanCloseConfirm` look neither at its
packets nor for the callbacks of the module its port is bound to. A CLOSED channel never changes
again (`Chain.closed_stays`), so a packet a close finds on it stays there. The CLOSED channels of the
transfer modules have no packets as long as every close finds none, and no longer
(`Chain.closedEmpty_iff`).
-/

namespace CordaIbc

open ChannelOuterClass (Packet)

/-- The datagrams that close the channel in the inputs. -/
def DatagramHandler.closesChannel : DatagramHandler → Bool
  | handleChanCloseInit _ | handleChanCloseConfirm _ => true
  | _ => false

namespace IbcChannel

section
variable {P : Platform} {ctx : Context} {signers : List PublicKey} {d : DatagramHandler}
  {chan chan' : IbcChannel}

/-- No datagram goes on with a CLOSED channel. -/
theorem Change.notClosed (h : Change P ctx signers d chan chan') : chan.end_.state ≠ .closed := by
  intro hclosed
  cases h with
  | tryPrevious _ hinit => rw [hinit] at hclosed; cases hclosed
  | ack hstate => rcases hstate with hs | hs <;> rw [hs] at hclosed <;> cases hclosed
  | confirm hstate => rw [hstate] at hclosed; cases hclosed
  | closeInit hstate | closeConfirm hstate => exact hstate hclosed
  | send _ _ _ hsend => exact hsend.notClosed hclosed
  | recv hrecv =>
    obtain ⟨_, _, hopened, -⟩ := hrecv.proof
    rw [hopened.chanOpen] at hclosed
    cases hclosed
  | settle hacks =>
    obtain ⟨_, _, hopened, -⟩ := hacks.proof
    rw [hopened.chanOpen] at hclosed
    cases hclosed

/-- A channel becomes CLOSED by a close, which leaves its packets. -/
theorem Change.closes (h : Change P ctx signers d chan chan') (hclosed : chan'.end_.state = .closed) :
    d.closesChannel = true ∧ chan'.portId = chan.portId ∧ chan'.packets = chan.packets := by
  have hnot := h.notClosed
  cases h with
  | tryPrevious | ack | confirm => cases hclosed
  | closeInit | closeConfirm => exact ⟨rfl, rfl, rfl⟩
  | send => exact absurd hclosed hnot
  | recv hrecv =>
    rcases receive_cases hrecv.receive with ⟨-, -, rfl⟩ | ⟨-, -, rfl⟩ <;>
      exact absurd hclosed hnot
  | settle hacks =>
    obtain ⟨i, rfl⟩ := settle_eq hacks.settle
    exact absurd hclosed hnot

theorem Creation.notClosed (h : Creation ctx chan) : chan.end_.state ≠ .closed := by
  cases h with
  | mk _ hstate =>
    intro hclosed
    rcases hstate with hs | hs <;> cases hs.symm.trans hclosed

end

end IbcChannel

/-- A close puts out the channel in the inputs, with its packets. -/
theorem Executes.close {P : Platform} {ctx : Context} {signers : List PublicKey}
    {d : DatagramHandler} {outs : List ContractState} (h : Executes P ctx signers d outs)
    (hd : d.closesChannel = true) :
    ∃ chan, ctx.getInput IbcChannel = .ok chan ∧ outs = [.channel (chan.withState .closed)] := by
  cases h with
  | chanCloseInit hchan | chanCloseConfirm hchan => exact ⟨_, hchan, rfl⟩
  | _ => cases hd

namespace Chain

/-- A module that moves funds for its packets is bound to the port. -/
def Transfers (c : Chain) (port : Identifier) : Prop :=
  c.module? port = some .ics20 ∨ c.module? port = some .ics20cash

/-- The CLOSED channels of the transfer modules have no packets. -/
def ClosedEmpty (c : Chain) : Prop :=
  ∀ i chan, c.states.lookup i = some (.channel chan) → c.Transfers chan.portId →
    chan.end_.state = .closed → chan.packets = ∅

/-- A close of a channel of a transfer module finds no packets on it. -/
def ClosesEmpty (c : Chain) (tx : LedgerTransaction) : Prop :=
  ∀ d signers chan, tx.datagramHandlerCommands = [(d, signers)] → d.closesChannel = true →
    ContractState.channel chan ∈ tx.inputStates → c.Transfers chan.portId → chan.packets = ∅

section
variable {P : Platform} {c c' : Chain} {tx : LedgerTransaction} {outs : List ContractState}
  {i : Identifier} {chan : IbcChannel}

theorem Start.closedEmpty (h : c.Start) : c.ClosedEmpty := by
  obtain ⟨_, _, _, _, _, host, -, rfl⟩ := h
  intro i chan hl
  obtain ⟨-, hs⟩ := lookup_ofHost hl
  cases hs

theorem Inv.transfers_next (hi : c.Inv) (ht : Takes P c tx outs) {port : Identifier} :
    (c.apply tx).Transfers port ↔ c.Transfers port := by
  unfold Transfers
  rw [hi.module_next ht]

theorem ClosedEmpty.apply (he : c.ClosedEmpty) (hi : c.Inv) (ht : Takes P c tx outs)
    (hok : ClosesEmpty c tx) : (c.apply tx).ClosedEmpty := by
  intro i chan hl hm hclosed
  rw [hi.transfers_next ht] at hm
  cases hi.channelStep ht with
  | leaves _ hleaves => exact he i chan ((hleaves.lookup i chan).1 hl) hm hclosed
  | @creates _ _ _ chan' _ _ _ _ _ hcreation hwrites =>
    by_cases hid : i = chan'.id
    · subst hid
      cases hwrites.self.symm.trans hl
      exact absurd hclosed hcreation.notClosed
    · exact he i chan ((hwrites.other i hid chan).1 hl) hm hclosed
  | @changes _ _ _ prev chan' hruns _ _ _ hprev _ hchange hwrites =>
    by_cases hid : i = chan'.id
    · subst hid
      cases hwrites.self.symm.trans hl
      obtain ⟨hd, hport, hpackets⟩ := hchange.closes hclosed
      rw [hport] at hm
      rw [hpackets]
      exact hok _ _ prev hruns.command hd (Context.mem_of_getInput hprev) hm
    · exact he i chan ((hwrites.other i hid chan).1 hl) hm hclosed

/-- A close after which no CLOSED channel has packets found none. -/
theorem Inv.closesEmpty (hi : c.Inv) (hc : c.Commits P tx c') (he : c'.ClosedEmpty) :
    ClosesEmpty c tx := by
  intro d signers chan hcmd hd hin hm
  obtain ⟨rfl, -⟩ := commit_ok hc
  obtain ⟨outs, _, h⟩ := datagram_of_commits hc hcmd
  have ht : Takes P c tx outs :=
    ⟨.datagram hcmd h.inputs h.references h.executes, h.perm, h.base⟩
  obtain ⟨chan₀, hinput, rfl⟩ := h.executes.close hd
  obtain rfl : chan = chan₀ := Context.eq_of_getInput hinput hin
  have hnext : (c.apply tx).states.lookup chan.id = some (.channel (chan.withState .closed)) :=
    hi.lookup_of_mem ht List.mem_cons_self rfl
  have hempty := he _ _ hnext ((hi.transfers_next ht).2 hm) rfl
  exact hempty

/-- A CLOSED channel stays as it is. -/
theorem Inv.closed_next (hi : c.Inv) (ht : Takes P c tx outs)
    (hl : c.states.lookup i = some (.channel chan)) (hclosed : chan.end_.state = .closed) :
    (c.apply tx).states.lookup i = some (.channel chan) := by
  cases hi.channelStep ht with
  | leaves _ hleaves => exact (hleaves.lookup i chan).2 hl
  | creates _ _ _ _ hnew _ hwrites =>
    refine (hwrites.other i ?_ chan).2 hl
    rintro rfl
    rw [hnew] at hl
    cases hl
  | changes _ _ _ _ _ hcur hchange hwrites =>
    refine (hwrites.other i ?_ chan).2 hl
    rintro rfl
    cases hcur.symm.trans hl
    exact hchange.notClosed hclosed

end

/-- In every run a CLOSED channel stays as it is. -/
theorem closed_stays {P : Platform} {ok : Chain → LedgerTransaction → Prop} {c₀ c : Chain}
    {tr : List LedgerTransaction} (hi : c₀.Inv) (hr : Run (Step P ok) c₀ tr c) {i : Identifier}
    {chan : IbcChannel} (hl : c₀.states.lookup i = some (.channel chan)) (hclosed : chan.end_.state = .closed) :
    c.states.lookup i = some (.channel chan) := by
  refine (hr.invariant (I := fun _ c => c.Inv ∧ c.states.lookup i = some (.channel chan)) ⟨hi, hl⟩ ?_).2
  rintro - c tx c' - ⟨hi, hl⟩ ⟨-, hc⟩
  obtain ⟨rfl, outs, ht⟩ := commit_ok hc
  exact ⟨hi.apply ht, hi.closed_next ht hl hclosed⟩

/-- The CLOSED channels of the transfer modules have no packets in the runs in which every close finds
none, and in no other. -/
theorem closedEmpty_iff {P : Platform} {c₀ : Chain} (h₀ : c₀.Start) :
    (∀ tr c, Run (Step P ClosesEmpty) c₀ tr c → c.ClosedEmpty) ∧
    ∀ tr c, Run (fun c tx c' => Step P (fun _ _ => True) c tx c' ∧ c'.ClosedEmpty) c₀ tr c →
      Run (Step P ClosesEmpty) c₀ tr c := by
  constructor
  · intro tr c hr
    refine (hr.invariant (I := fun _ c => c.Inv ∧ c.ClosedEmpty) ⟨h₀.inv, h₀.closedEmpty⟩ ?_).2
    rintro - c tx c' - ⟨hi, he⟩ ⟨hok, hc⟩
    obtain ⟨rfl, outs, ht⟩ := commit_ok hc
    exact ⟨hi.apply ht, he.apply hi ht hok⟩
  · intro tr c hr
    refine (hr.invariant (I := fun tr c => c.Inv ∧ Run (Step P ClosesEmpty) c₀ tr c)
      ⟨h₀.inv, .nil⟩ ?_).2
    rintro tr c tx c' - ⟨hi, hr⟩ ⟨⟨-, hc⟩, he⟩
    have hok : ClosesEmpty c tx := hi.closesEmpty hc he
    obtain ⟨rfl, outs, ht⟩ := commit_ok hc
    exact ⟨hi.apply ht, .snoc hr ⟨hok, hc⟩⟩

/-! ### A close over a pending transfer -/

namespace PendingTransfer
open Sample

def P : Platform := platform [handshake] [atoms]

/-- An account on an open channel. -/
def funded : List Move := opened ++ [allocate (account 97) ⟨⟨"", "atom"⟩⟩ 10]

def close : Move :=
  { inputs := [channel 0], references := [hostId, connection 0]
    command := .datagram (.handleChanCloseInit { portId := "transfer", channelId := "channel-0" }) }

/-- The channel of a script: the module of its port, its state and its first packet. -/
def outcome (c : Chain) : Option (Option Module × ChannelOuterClass.State × Option Packet) :=
  match c.states.lookup (channel 0) with
  | some (.channel chan) => some (c.module? chan.portId, chan.end_.state, chan.packets.lookup 1)
  | _ => none

theorem exists_of_outcome {c : Chain} {m : Option Module} {state : ChannelOuterClass.State}
    {packet : Option Packet} (h : outcome c = some (m, state, packet)) : ∃ chan,
      c.states.lookup (channel 0) = some (.channel chan) ∧ c.module? chan.portId = m ∧
      chan.end_.state = state ∧ chan.packets.lookup 1 = packet := by
  unfold outcome at h
  split at h
  · rename_i chan hchan
    simp only [Option.some.injEq, Prod.mk.injEq] at h
    exact ⟨chan, hchan, h⟩
  · cases h

theorem outcome_pending :
    (fun r => outcome r.2) <$> runMoves P (ofHost (host 1)) (funded ++ [transfer 0 0, close]) =
      .ok (some (some .ics20, .closed, some (packetTo "channel-0"))) := by decide +kernel

/-- A run that closes the channel over the packet of a transfer, which stays on it in every run from
there. -/
theorem transfer_stranded : ∃ tr c chan, (ofHost (host 1)).Start ∧
    Run (Step P fun _ _ => True) (ofHost (host 1)) tr c ∧
    c.states.lookup (channel 0) = some (.channel chan) ∧ c.module? chan.portId = some .ics20 ∧
    chan.end_.state = .closed ∧ chan.packets.lookup 1 = some (packetTo "channel-0") ∧
    ¬ c.ClosedEmpty ∧ ∀ tr' c', Run (Step P fun _ _ => True) c tr' c' →
      c'.states.lookup (channel 0) = some (.channel chan) := by
  obtain ⟨⟨txs, c⟩, hrun, hout⟩ := Result.map_ok.1 outcome_pending
  obtain ⟨chan, hchan, hm, hclosed, hpacket⟩ := exists_of_outcome hout
  have hr : Run (Step P fun _ _ => True) (ofHost (host 1)) ([] ++ txs) c :=
    run_of_moves hrun (fun _ _ _ _ _ => trivial) .nil
  refine ⟨_, c, chan, start_host 1, hr, hchan, hm, hclosed, hpacket, fun he => ?_,
    fun tr' c' hr' => closed_stays (Inv.run (start_host 1).inv hr) hr' hchan hclosed⟩
  have hempty := he _ chan hchan (.inl hm) hclosed
  rw [hempty, Finmap.lookup_empty] at hpacket
  cases hpacket

/-- The channel a transaction consumes has no packets, and is then CLOSED. -/
def closedFrom (r : List LedgerTransaction × Chain × LedgerTransaction × Chain) : Bool :=
  let (_, _, tx, c') := r
  (tx.inputStates.all fun
    | .channel chan => chan.packets = ∅
    | _ => true) &&
  match c'.states.lookup (channel 0) with
  | some (.channel chan) => chan.end_.state = .closed
  | _ => false

theorem closedFrom_funded :
    closedFrom <$> runThen P (ofHost (host 1)) funded close = .ok true := by decide +kernel

/-- No move of the script closes a channel. -/
theorem closesEmpty_funded : ∀ m ∈ funded, ∀ c tx, m.build P c = .ok tx → ClosesEmpty c tx := by
  intro m hm c tx hbuild d signers chan hd hcloses
  have hcmd := Move.datagram_of_build hbuild hd
  simp only [funded, opened, List.cons_append, List.nil_append, List.mem_cons, List.not_mem_nil,
    or_false] at hm
  rcases hm with rfl | rfl | rfl | rfl | rfl | rfl | rfl <;> cases hcmd <;> cases hcloses

end PendingTransfer

open PendingTransfer Sample in
/-- `closedEmpty_iff` on a channel that is closed before any transfer. -/
theorem closedEmpty_funded : ∃ tr c chan, Run (Step P ClosesEmpty) (ofHost (host 1)) tr c ∧
    c.states.lookup (channel 0) = some (.channel chan) ∧ chan.end_.state = .closed ∧
    c.ClosedEmpty := by
  obtain ⟨⟨txs, c, tx, c'⟩, hthen, hout⟩ := Result.map_ok.1 closedFrom_funded
  obtain ⟨hr, -, hc⟩ := run_of_then hthen closesEmpty_funded
  simp only [closedFrom, Bool.and_eq_true, List.all_eq_true] at hout
  obtain ⟨hins, hclosed⟩ := hout
  have hok : ClosesEmpty c tx := fun d signers chan _ _ hin _ => by simpa using hins _ hin
  have hr' : Run (Step P ClosesEmpty) (ofHost (host 1)) (txs ++ [tx]) c' := .snoc hr ⟨hok, hc⟩
  split at hclosed
  · rename_i chan hchan
    exact ⟨_, c', chan, hr', hchan, by simpa using hclosed, (closedEmpty_iff (start_host 1)).1 _ _ hr'⟩
  · cases hclosed

end Chain

end CordaIbc
