import CordaIbc.Proofs.Channels
import CordaIbc.Proofs.Delivery

/-!
# A packet is received once

A receipt is kept by the channel that received the packet, and a commitment does not cover the
channel it is for. So a packet is received once only if no two open channels of the receiver ever have
one counterparty, which holds if tried channels are acknowledged towards those they were tried with
(`Net.received_once`). Without that a packet is received twice (`Net.Crossed.received_twice`).
-/

namespace CordaIbc

open ChannelOuterClass (Packet Acknowledgement)
open ContractState StateClass

/-- Two packets are of one end, under one sequence. -/
structure ChannelOuterClass.Packet.SameSource (p q : Packet) : Prop where
  port : p.sourcePort = q.sourcePort
  channel : p.sourceChannel = q.sourceChannel
  sequence : p.sequence = q.sequence

namespace Net

section
variable {P : Platform} {ok : Net Side → Side → LedgerTransaction → Prop} {n₀ n n' : Net Side}
  {tr : List (Side × LedgerTransaction)}

/-- The channel that accepts a packet is open, and names the end the packet is from. -/
theorem opened_of_accepts {s : Side} {tx : LedgerTransaction} {msg : MsgRecvPacket}
    {signers : List PublicKey} {c : Chain} (hc : (n s).Commits P tx c)
    (hd : tx.datagramHandlerCommands = [(.handlePacketRecv msg, signers)]) :
    ∃ chan chan' ack, (n s).states.lookup chan.id = some (.channel chan) ∧
      Receives P (.create tx.inputStates tx.referenceStates) msg ack chan chan' ∧
      tx.received? = some (msg.packet, ack) ∧ chan.end_.state = .opened := by
  obtain ⟨outs, ctx', htakes⟩ := Chain.datagram_of_commits hc hd
  obtain ⟨chan, ha⟩ := Chain.acceptsPacket_of_commit hc hd
  obtain ⟨ack, chan', hrecv, hreceived⟩ := ha.receives
  obtain ⟨conn, client, hopened, -⟩ := hrecv.proof
  exact ⟨chan, chan', ack, htakes.inputs _ ha.input _ rfl, hrecv, hreceived, hopened.chanOpen⟩

/-- What a host has received came over a channel that was open towards its source. -/
theorem opened_of_received (h₀ : n₀.Start) (hr : Run (Step P ok) n₀ tr n) {s : Side} {p : Packet}
    {ack : Acknowledgement} (hp : (p, ack) ∈ receivedPackets (own s tr)) :
    ∃ chan, ContractState.channel chan ∈ (n s).history ∧ chan.end_.state = .opened ∧
      chan.id.id = p.destinationChannel ∧ p.sourceChannel = chan.end_.counterparty.channelId := by
  induction hr with
  | nil => cases hp
  | @snoc tr n n' a hr hs ih =>
    obtain ⟨t, tx⟩ := a
    by_cases ht : t = s
    · subst ht
      rw [own_self, receivedPackets_snoc] at hp
      rcases List.mem_append.1 hp with hp | hp
      · obtain ⟨chan, hm, hrest⟩ := ih hp
        exact ⟨chan, hs.history hm, hrest⟩
      · obtain ⟨msg, signers, hd, rfl⟩ :=
          LedgerTransaction.command_of_received (Option.mem_toList.1 hp)
        obtain ⟨chan, _, _, hcur, hrecv, -, hopen⟩ := opened_of_accepts hs.commits hd
        exact ⟨chan, hs.history ((logs_run h₀ hr t).recorded _ chan hcur), hopen,
          hrecv.channel, hrecv.srcChannel⟩
    · rw [own_ne ht] at hp
      obtain ⟨chan, hm, hrest⟩ := ih hp
      exact ⟨chan, hs.history hm, hrest⟩

/-- If tried channels are acknowledged towards those they were tried with, a host accepts no packet of
an end and sequence that it has received before. -/
theorem not_sameSource_of_accepts (h₀ : n₀.Start)
    (htracks : ∀ n s tx, ok n s tx → TracksPeer n s tx)
    (hacks : ∀ n s tx, ok n s tx → tx.AcksTriedChannel)
    (hr : Run (Step P ok) n₀ tr n) {s : Side} {p : Packet} {ack : Acknowledgement}
    (hp : (p, ack) ∈ receivedPackets (own s tr)) {tx : LedgerTransaction} {c : Chain}
    (hc : (n s).Commits P tx c) {msg : MsgRecvPacket} {signers : List PublicKey}
    (hd : tx.datagramHandlerCommands = [(.handlePacketRecv msg, signers)]) :
    ¬ p.SameSource msg.packet := by
  rintro ⟨-, hchannel, hsequence⟩
  obtain ⟨chan, hpast, hopen, hdest, hsrc⟩ := opened_of_received h₀ hr hp
  obtain ⟨chan', next, ack', hcur', hrecv', -, hopen'⟩ := opened_of_accepts hc hd
  have hlog := logs_run h₀ hr s
  -- both channels were open towards one end
  have hinv := channels_inv h₀ htracks hacks hr
  have hpeer := hinv s.peer
  rw [Side.peer_peer] at hpeer
  have hsame : chan.end_.counterparty.channelId = chan'.end_.counterparty.channelId := by
    rw [← hsrc, ← hrecv'.srcChannel, hchannel]
  have hid : chan.id.id = chan'.id.id :=
    (hinv s).opened_unique hpeer ⟨chan, hpast, rfl, rfl⟩ ⟨chan', hlog.recorded _ chan' hcur', rfl, rfl⟩
      (ChannelOuterClass.State.phase_opened.2 hopen)
      (ChannelOuterClass.State.phase_opened.2 hopen') hsame
  -- so the one channel has acknowledged the packet before
  obtain ⟨i, d, hl, hi, -, -, -, -, hack⟩ := hlog.recv.channel _ ack hp
  obtain rfl : i = chan'.id := Identifier.ext (hi.symm.trans (hdest.symm.trans hid))
  rw [hcur'] at hl
  cases hl
  have hfresh := ((hlog.recv.book _ chan' hcur').recv hopen' hrecv'.receive).1
  rw [hsequence] at hack
  exact hfresh (Finmap.mem_of_lookup_eq_some hack)

/-- Two hosts track each other, and tried channels are acknowledged towards those they were tried
with. Then no two packets that a host accepts are of one end and sequence. -/
theorem received_once (h₀ : n₀.Start)
    (hr : Run (Step P fun n s tx => TracksPeer n s tx ∧ tx.AcksTriedChannel) n₀ tr n) {s : Side}
    {tr₁ tr₂ tr₃ : List (Side × LedgerTransaction)} {tx tx' : LedgerTransaction}
    (htr : tr = tr₁ ++ (s, tx) :: tr₂ ++ (s, tx') :: tr₃) {msg msg' : MsgRecvPacket}
    {signers signers' : List PublicKey}
    (hd : tx.datagramHandlerCommands = [(.handlePacketRecv msg, signers)])
    (hd' : tx'.datagramHandlerCommands = [(.handlePacketRecv msg', signers')]) :
    ¬ msg.packet.SameSource msg'.packet := by
  subst htr
  obtain ⟨n₃, n₄, hr₃, hs', -⟩ := hr.exists_step
  obtain ⟨n₁, n₂, hr₁, hs, -⟩ := hr₃.exists_step
  obtain ⟨_, _, ack, -, -, hreceived, -⟩ := opened_of_accepts hs.commits hd
  have hmem : (msg.packet, ack) ∈ receivedPackets (own s (tr₁ ++ (s, tx) :: tr₂)) := by
    refine List.mem_filterMap.2 ⟨tx, mem_own.2 ?_, hreceived⟩
    exact List.mem_append_right _ List.mem_cons_self
  exact not_sameSource_of_accepts h₀ (fun _ _ _ h => h.1) (fun _ _ _ h => h.2) hr₃ hmem hs'.commits hd'

end

/-! ### A packet received on two channels -/

namespace Crossed
open Sample

/-- What the hosts show from the handshake to the packet. -/
def shownPacket : List (Side × ContractState) := shown ++
  [(.left, .channel (channelOf .left 0 (channelEnd .opened "channel-1"))),
    (.left, .channel ((channelOf .left 0 (channelEnd .opened "channel-1")).sent
      (packetTo "channel-1")))]

/-- Both channels of the second host are open towards the first host's, and it receives the packet on
either. -/
def receiving : List (Side × Move) := script ++
  [(.right, confirmChannel 1 9), fund, (.left, transfer 0 0),
    (.right, receive 1 (packetTo "channel-1") 10), (.right, receive 0 (packetTo "channel-0") 10)]

/-- The packet a transaction receives. -/
def packet? (tx : LedgerTransaction) : Option Packet :=
  match tx.datagramHandlerCommands with
  | [(.handlePacketRecv msg, _)] => some msg.packet
  | _ => none

theorem commands_of_packet {tx : LedgerTransaction} {p : Packet} (h : packet? tx = some p) :
    ∃ msg signers, tx.datagramHandlerCommands = [(.handlePacketRecv msg, signers)] ∧
      msg.packet = p := by
  unfold packet? at h
  split at h
  · exact ⟨_, _, ‹_›, Option.some.inj h⟩
  · cases h

/-- The transactions after the first `k`, by their hosts and the packets they receive. -/
def received (k : Nat) (r : List (Side × LedgerTransaction) × Net Side) :
    List (Side × Option Packet) := (r.1.drop k).map fun a => (a.1, packet? a.2)

theorem exists_of_received {k : Nat} {tr : List (Side × LedgerTransaction)} {n : Net Side}
    {a b c : Side × Option Packet} (h : received k (tr, n) = [a, b, c]) : ∃ tr₁ x y z,
      tr = tr₁ ++ [x, y, z] ∧ (x.1, packet? x.2) = a ∧ (y.1, packet? y.2) = b ∧
        (z.1, packet? z.2) = c := by
  have htr : tr.take k ++ tr.drop k = tr := List.take_append_drop k tr
  unfold received at h
  generalize tr.drop k = rest at h htr
  match rest with
  | [] | [_] | [_, _] | _ :: _ :: _ :: _ :: _ => simp at h
  | [x, y, z] =>
    simp only [List.map_cons, List.map_nil, List.cons.injEq, and_true] at h
    exact ⟨_, x, y, z, htr.symm, h⟩

theorem outcome_receiving : received 17 <$> runNet (netPlatform shownPacket [atoms]) sides tracksPeer
    pair receiving = .ok [(.left, none), (.right, some (packetTo "channel-1")),
      (.right, some (packetTo "channel-0"))] := by decide +kernel

/-- One packet, received twice. -/
theorem received_twice : ∃ (P : Platform) (n₀ n : Net Side) (s : Side)
    (tr₁ tr₂ tr₃ : List (Side × LedgerTransaction)) (tx tx' : LedgerTransaction)
    (msg msg' : MsgRecvPacket) (signers signers' : List PublicKey), n₀.Start ∧
    Run (Step P TracksPeer) n₀ (tr₁ ++ (s, tx) :: tr₂ ++ (s, tx') :: tr₃) n ∧
    tx.datagramHandlerCommands = [(.handlePacketRecv msg, signers)] ∧
    tx'.datagramHandlerCommands = [(.handlePacketRecv msg', signers')] ∧
    msg.packet.SameSource msg'.packet := by
  obtain ⟨⟨tr, n⟩, hrun, hout⟩ := Result.map_ok.1 outcome_receiving
  have hr : Run (Step (netPlatform shownPacket [atoms]) TracksPeer) pair ([] ++ tr) n :=
    run_of_net mem_sides (fun _ _ _ h => tracksPeer_ok h) hrun .nil
  obtain ⟨tr₁, x, ⟨s, tx⟩, ⟨s', tx'⟩, rfl, -, hy, hz⟩ := exists_of_received hout
  obtain ⟨rfl, hp⟩ := Prod.mk.inj hy
  obtain ⟨rfl, hp'⟩ := Prod.mk.inj hz
  obtain ⟨msg, signers, hd, hm⟩ := commands_of_packet hp
  obtain ⟨msg', signers', hd', hm'⟩ := commands_of_packet hp'
  refine ⟨netPlatform shownPacket [atoms], pair, n, .right, tr₁ ++ [x], [], [], tx, tx', msg, msg',
    signers, signers', start_pair, ?_, hd, hd', ?_⟩
  · simpa using hr
  · rw [hm, hm']
    exact ⟨rfl, rfl, rfl⟩

/-- The second packet of the channel. -/
def another : Packet := { packetTo "channel-0" with sequence := 2 }

/-- Two packets over the channel of the usual handshake. -/
def both : List (Side × Move) := transferred ++ [(.left, transfer 0 0), (.right, receive 0 another 10)]

def P : Platform := netPlatform (transferring "channel-0" ++
  [(.left, .channel ((sender "channel-0").sent another))]) [atoms]

theorem outcome_both : received 14 <$>
      runNet P sides (fun n s tx => tracksPeer n s tx && untried tx) pair both =
    .ok [(.right, some (packetTo "channel-0")), (.left, none), (.right, some another)] := by
  decide +kernel

/-- What the theorem says of the two packets. -/
theorem received_both : ¬ (packetTo "channel-0").SameSource another := by
  obtain ⟨⟨tr, n⟩, hrun, hout⟩ := Result.map_ok.1 outcome_both
  have hr : Run (Step P fun n s tx => TracksPeer n s tx ∧ tx.AcksTriedChannel) pair ([] ++ tr) n := by
    refine run_of_net mem_sides (fun n s tx h => ?_) hrun .nil
    obtain ⟨htracks, huntried⟩ := Bool.and_eq_true_iff.1 h
    exact ⟨tracksPeer_ok htracks, acksTried_of_untried huntried⟩
  obtain ⟨tr₁, ⟨s, tx⟩, y, ⟨s', tx'⟩, rfl, hx, -, hz⟩ := exists_of_received hout
  obtain ⟨rfl, hp⟩ := Prod.mk.inj hx
  obtain ⟨rfl, hp'⟩ := Prod.mk.inj hz
  obtain ⟨msg, signers, hd, hm⟩ := commands_of_packet hp
  obtain ⟨msg', signers', hd', hm'⟩ := commands_of_packet hp'
  rw [← hm, ← hm']
  have htr : [] ++ (tr₁ ++ [(Side.right, tx), y, (Side.right, tx')]) =
      tr₁ ++ (Side.right, tx) :: [y] ++ (Side.right, tx') :: [] := by simp
  exact received_once start_pair hr htr hd hd'

end Crossed

end Net

end CordaIbc
