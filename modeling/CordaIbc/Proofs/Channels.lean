import CordaIbc.Proofs.Books
import CordaIbc.Proofs.Linked
import CordaIbc.Sample.Net

/-!
# The channel handshake of two hosts

The channels of two hosts that track each other are a handshake too (`Tracking.channelStep`). Their
terms, the two ports and the ordering, may change while a channel is initial. Open channels that name
each other agree if a tried channel is only acknowledged towards the channel it was tried with, and
with the version it was tried with once that channel is open (`Net.channels_agree`). `chanOpenAck`
asks for neither (`Net.Crossed.channels_disagree`).
-/

namespace CordaIbc

open ContractState StateClass

namespace ChannelOuterClass

/-- A channel has no other state than these four. -/
def State.phase : State → Handshake.Phase
  | .tryOpen => .tryOpen
  | .opened => .opened
  | .closed => .closed
  | _ => .init

theorem State.phase_opened {s : State} : s.phase = .opened ↔ s = .opened := by
  cases s <;> simp [phase]

theorem State.phase_tryOpen {s : State} : s.phase = .tryOpen ↔ s = .tryOpen := by
  cases s <;> simp [phase]

theorem State.phase_closed {s : State} : s.phase = .closed ↔ s = .closed := by
  cases s <;> simp [phase]

theorem State.phase_init {s : State} (h : s = .init) : s.phase = .init := by
  rw [h]
  rfl

structure Terms where
  portId : String
  counterpartyPortId : String
  ordering : Order

def kind : Handshake.Kind Terms where
  flip terms := { terms with
    portId := terms.counterpartyPortId, counterpartyPortId := terms.portId }
  rigid := False

/-- The end at a port. -/
def Channel.toEnd (portId : String) (e : Channel) : Handshake.End String Terms String where
  phase := e.state.phase
  terms := ⟨portId, e.counterparty.portId, e.ordering⟩
  peer := e.counterparty.channelId
  version := e.version

end ChannelOuterClass

def IbcChannel.toEnd (chan : IbcChannel) :
    Handshake.End String ChannelOuterClass.Terms String := chan.end_.toEnd chan.portId.id

instance : EndClass IbcChannel ChannelOuterClass.Terms String where
  id chan := chan.id
  id?_up _ := rfl
  toEnd chan := chan.toEnd

/-- A channel that was tried is acknowledged towards the channel it was tried with. -/
def LedgerTransaction.AcksTriedChannel (tx : LedgerTransaction) : Prop :=
  ∀ msg signers, tx.datagramHandlerCommands = [(.handleChanOpenAck msg, signers)] →
    ∀ chan, ContractState.channel chan ∈ tx.inputStates → chan.end_.state = .tryOpen →
      msg.counterpartyChannelId = chan.end_.counterparty.channelId

namespace IbcChannel
variable {P : Platform} {ctx : Context} {signers : List PublicKey} {d : DatagramHandler}
  {chan chan' : IbcChannel}

theorem receive_toEnd {packet : ChannelOuterClass.Packet} {ack : ChannelOuterClass.Acknowledgement}
    (h : Handler.recvPacket.receive (chan.answered packet ack) packet = .ok chan') :
    chan'.toEnd = chan.toEnd := by
  rcases receive_cases h with ⟨-, -, rfl⟩ | ⟨-, -, rfl⟩ <;> rfl

theorem settle_toEnd {packet : ChannelOuterClass.Packet}
    (h : Handler.acknowledgePacket.settle chan packet = .ok chan') :
    (chan'.settled packet).toEnd = chan.toEnd := by
  obtain ⟨n, rfl⟩ := settle_eq h
  rfl

/-- A channel that a datagram opens is acknowledged or confirmed. -/
theorem Change.opened_of_tried (h : Change P ctx signers d chan chan')
    (htry : chan.end_.state = .tryOpen) (hopen : chan'.end_.state = .opened) :
    (∃ msg, d = .handleChanOpenAck msg ∧
      chan' = chan.acked msg.counterpartyChannelId msg.counterpartyVersion) ∨
      chan' = chan.withState .opened := by
  cases h with
  | tryPrevious | closeInit | closeConfirm => cases hopen
  | ack => exact .inl ⟨_, rfl, rfl⟩
  | confirm => exact .inr rfl
  | send => exact absurd (htry.symm.trans hopen) (by decide)
  | recv hrecv =>
    rw [receive_end hrecv.receive, htry] at hopen
    cases hopen
  | settle hacks =>
    obtain ⟨n, rfl⟩ := settle_eq hacks.settle
    exact absurd (htry.symm.trans hopen) (by decide)

end IbcChannel

namespace Chain
variable {P : Platform} {c p : Chain} {tx : LedgerTransaction} {handler : DatagramHandler}
  {signers : List PublicKey} {outs : List ContractState} {chan : IbcChannel}

/-- The peer once had the end that its client shows. -/
theorem channel_past {client : IbcClientState} {proofs : List Bytes} {bytes : Bytes}
    {height : Height} {pre : MerklePrefix} {port id : String} {e : ChannelOuterClass.Channel}
    (h : Net.Honest P p client proofs) (hb : bytes ∈ proofs)
    (hp : ProvesChannel P client height pre bytes port id e) :
    (p.book IbcChannel).past id (e.toEnd port) := by
  obtain ⟨peer, hpeer, rfl, hid, rfl⟩ := h.channel hb hp
  exact ⟨peer, hpeer, hid, rfl⟩

/-- What a datagram makes of a channel, as far as what it is shown of the peer is honest. -/
theorem Runs.channelChange (hr : Runs P c tx handler signers outs) (hi : c.Inv)
    (hhonest : ∀ client,
      (Context.create tx.inputStates tx.referenceStates).getReference IbcClientState = .ok client →
        Net.Honest P p client handler.proofs) (hm : ContractState.channel chan ∈ outs)
    {d : Option (Handshake.End String ChannelOuterClass.Terms String)}
    (hd : (c.book IbcChannel).cur chan.id.id = d) :
    Handshake.Change ChannelOuterClass.kind (p.book IbcChannel) chan.id.id d chan.toEnd := by
  have hnew : ∀ host, (Context.create tx.inputStates tx.referenceStates).getInput Host = .ok host →
      chan.id = host.generateChannelIdentifier.2 → none = d := fun host h hid => by
    have hmints : host.Mints (.channel chan) := hid
    have hfree := hi.lookup_eq_none (hr.inputs _ (Context.mem_of_getInput h) _ rfl) hmints rfl
    exact (book_cur_of_none hfree).symm.trans hd
  have hcur : ∀ prev,
      (Context.create tx.inputStates tx.referenceStates).getInput IbcChannel = .ok prev →
      chan.id = prev.id → some prev.toEnd = d := fun prev h hid => by
    have hl : c.states.lookup chan.id = some (.channel prev) :=
      hid ▸ hr.inputs _ (Context.mem_of_getInput h) _ rfl
    exact (book_cur_of_lookup (t := prev) hl).symm.trans hd
  have hexec := hr.executes
  cases hexec with
  | createClient | updateClient | connOpenInit | connOpenTry | connOpenAck | connOpenConfirm =>
    simp at hm
  | chanOpenInit hhost =>
    simp only [List.mem_cons, reduceCtorEq, ContractState.channel.injEq, List.not_mem_nil, or_false,
      false_or] at hm
    subst hm
    obtain rfl := hnew _ hhost rfl
    exact .init rfl
  | @chanOpenTry _ _ _ _ _ _ hhost _ hclient _ _ _ _ hproof hport =>
    simp only [List.mem_cons, reduceCtorEq, ContractState.channel.injEq, List.not_mem_nil, or_false,
      false_or] at hm
    subst hm
    obtain rfl := hnew _ hhost rfl
    have hpast := channel_past (hhonest _ hclient.ref) List.mem_cons_self hproof
    refine .tryNew rfl hpast rfl ?_
    exact congrArg (fun port => ChannelOuterClass.Terms.mk _ port _) hport.symm
  | @chanOpenTryPrevious _ _ prev _ _ _ _ _ _ hclient _ hprevious _ hinit _ _ _ _ hproof hport =>
    simp only [List.mem_cons, reduceCtorEq, ContractState.channel.injEq, List.not_mem_nil, or_false,
      false_or] at hm
    subst hm
    obtain rfl := hcur prev hprevious rfl
    have hpast := channel_past (hhonest _ hclient.ref) List.mem_cons_self hproof
    refine .tryPrevious (ChannelOuterClass.State.phase_init hinit) rfl nofun hpast rfl ?_
    exact congrArg (fun port => ChannelOuterClass.Terms.mk _ port _) hport.symm
  | @chanOpenAck _ prev _ _ hchan _ _ _ hclient hstate _ hproof =>
    obtain rfl : chan = _ := by simpa using hm
    obtain rfl := hcur prev hchan rfl
    have hpast := channel_past (hhonest _ hclient.ref) List.mem_cons_self hproof
    refine .ack ?_ rfl rfl hpast rfl rfl rfl rfl
    rcases hstate with hs | hs
    · exact .inl (ChannelOuterClass.State.phase_init hs)
    · exact .inr (ChannelOuterClass.State.phase_tryOpen.2 hs)
  | @chanOpenConfirm _ prev _ _ hchan _ _ _ hclient hstate _ hproof =>
    obtain rfl : chan = _ := by simpa using hm
    obtain rfl := hcur prev hchan rfl
    have hpast := channel_past (hhonest _ hclient.ref) List.mem_cons_self hproof
    exact .confirm (ChannelOuterClass.State.phase_tryOpen.2 hstate) hpast rfl rfl rfl (.inr rfl)
  | @chanCloseInit _ prev _ hchan _ _ _ hstate | @chanCloseConfirm _ prev _ _ hchan _ _ _ _ hstate =>
    obtain rfl : chan = _ := by simpa using hm
    obtain rfl := hcur prev hchan rfl
    exact .close fun h => hstate (ChannelOuterClass.State.phase_closed.1 h)
  | sendPacket _ _ heffect hsend =>
    obtain rfl := heffect.bankOuts.channel_eq hm
    obtain rfl := hcur _ hsend.input rfl
    exact .same
  | recvPacket _ _ _ heffect hrecv =>
    obtain rfl := heffect.bankOuts.channel_eq hm
    have hid := receive_id hrecv.receive
    obtain rfl := hcur _ hrecv.input hid
    rw [IbcChannel.receive_toEnd hrecv.receive]
    exact .same
  | acknowledgePacket _ _ _ _ heffect hacks =>
    obtain rfl := heffect.bankOuts.channel_eq hm
    have hid := settle_id hacks.settle
    obtain rfl := hcur _ hacks.input hid
    rw [IbcChannel.settle_toEnd hacks.settle]
    exact .same

/-- A transaction of a host is a step of its part of the handshake. -/
theorem ChannelStep.step {okBook : Handshake.Book String ChannelOuterClass.Terms String →
      Option (Handshake.End String ChannelOuterClass.Terms String) →
      Handshake.End String ChannelOuterClass.Terms String → Prop}
    (hs : ChannelStep P c tx) (hi : c.Inv)
    (hhonest : ∀ handler signers client, tx.datagramHandlerCommands = [(handler, signers)] →
      (∀ t ∈ tx.referenceStates, ∀ i, t.id? = some i → c.states.lookup i = some t) →
      (Context.create tx.inputStates tx.referenceStates).getReference IbcClientState = .ok client →
        Net.Honest P p client handler.proofs) (hok : tx.AcksTriedChannel)
    (hnew : ∀ e, okBook (p.book IbcChannel) none e)
    (hchanges : ∀ handler signers chan chan',
      tx.datagramHandlerCommands = [(handler, signers)] → ContractState.channel chan ∈ tx.inputStates →
      IbcChannel.Change P (.create tx.inputStates tx.referenceStates) signers handler chan chan' →
      okBook (p.book IbcChannel) (some chan.toEnd) chan'.toEnd) :
    Handshake.Step ChannelOuterClass.kind okBook (p.book IbcChannel) (c.book IbcChannel)
      ((c.apply tx).book IbcChannel) := by
  cases hs with
  | leaves _ hleaves => exact hleaves.step
  | @creates _ _ _ chan hruns hm _ _ hfree _ hwrites =>
    have hnone : (c.book IbcChannel).cur chan.id.id = none := book_cur_of_none hfree
    have hchange := hruns.channelChange hi
      (fun client => hhonest _ _ client hruns.command hruns.references) hm hnone
    exact hwrites.step hnone hchange nofun (hnew _)
  | @changes _ _ _ prev chan hruns hm _ _ hinput hcur hstep hwrites =>
    have hprev : (c.book IbcChannel).cur chan.id.id = some prev.toEnd :=
      book_cur_of_lookup (t := prev) hcur
    have hchange := hruns.channelChange hi
      (fun client => hhonest _ _ client hruns.command hruns.references) hm hprev
    have hmem := Context.mem_of_getInput hinput
    refine hwrites.step hprev hchange ?_ (hchanges _ _ prev chan hruns.command hmem hstep)
    rintro d ⟨⟩ htry hopen
    have htry := ChannelOuterClass.State.phase_tryOpen.1 htry
    have hopen := ChannelOuterClass.State.phase_opened.1 hopen
    rcases hstep.opened_of_tried htry hopen with ⟨msg, rfl, rfl⟩ | rfl
    · exact hok msg _ hruns.command prev hmem htry
    · rfl

end Chain

/-- Two channels are the ends of one. -/
structure IbcChannel.Agrees (a b : IbcChannel) : Prop where
  names : b.Names a
  ordering : b.end_.ordering = a.end_.ordering
  version : b.end_.version = a.end_.version

namespace Net

/-- A channel that was tried is acknowledged with the version it was tried with, once the channel of
the peer is open. -/
def AcksTriedVersion (n : Net Side) (s : Side) (tx : LedgerTransaction) : Prop :=
  ∀ msg signers, tx.datagramHandlerCommands = [(.handleChanOpenAck msg, signers)] →
    ∀ chan, ContractState.channel chan ∈ tx.inputStates → chan.end_.state = .tryOpen →
      msg.counterpartyVersion = chan.end_.version ∨
        ∀ i peer, (n s.peer).states.lookup i = some (.channel peer) →
          i.id = msg.counterpartyChannelId → peer.end_.state ≠ .opened

section
variable {P : Platform} {ok : Net Side → Side → LedgerTransaction → Prop} {n₀ n n' : Net Side}
  {tr : List (Side × LedgerTransaction)} {a : Side × LedgerTransaction}

theorem start_channels (h₀ : n₀.Start) : (n₀.books IbcChannel).Start := fun s name =>
  (h₀ s).book (fun _ _ h => by cases h) name

theorem Tracking.channelStep (ht : n.Tracking) (h : Step P ok n a n')
    (hok : a.2.AcksTriedChannel) :
    Handshake.Step ChannelOuterClass.kind (fun _ _ _ => True) ((n a.1.peer).book IbcChannel)
      ((n a.1).book IbcChannel) (((n a.1).apply a.2).book IbcChannel) := by
  obtain ⟨-, outs, htakes⟩ := Chain.commit_ok h.commits
  refine ((ht.inv a.1).channelStep htakes).step (ht.inv a.1) ?_ hok (fun _ => trivial)
    fun _ _ _ _ _ _ _ => trivial
  exact fun handler signers client hd href hc => ht.honest h.sound hd href hc

theorem Tracking.channelStep_version (ht : n.Tracking) (h : Step P ok n a n')
    (hok : a.2.AcksTriedChannel) (hversion : n.AcksTriedVersion a.1 a.2) :
    Handshake.Step ChannelOuterClass.kind Handshake.KeepsVersion ((n a.1.peer).book IbcChannel)
      ((n a.1).book IbcChannel) (((n a.1).apply a.2).book IbcChannel) := by
  obtain ⟨-, outs, htakes⟩ := Chain.commit_ok h.commits
  refine ((ht.inv a.1).channelStep htakes).step (ht.inv a.1) ?_ hok (fun _ => nofun) ?_
  · exact fun handler signers client hd href hc => ht.honest h.sound hd href hc
  · intro handler signers chan chan' hd hm hchange
    rintro d ⟨⟩ htry hopen
    have htry := ChannelOuterClass.State.phase_tryOpen.1 htry
    have hopen := ChannelOuterClass.State.phase_opened.1 hopen
    rcases hchange.opened_of_tried htry hopen with ⟨msg, rfl, rfl⟩ | rfl
    · rcases hversion msg signers hd chan hm htry with hsame | hno
      · exact .inl hsame
      · refine .inr fun f hf hfo => ?_
        obtain ⟨i, peer, hid, hl, rfl⟩ := Chain.book_cur_cases hf
        exact hno i peer hl hid (ChannelOuterClass.State.phase_opened.1 hfo)
    · exact .inl rfl

/-- What the channels of two hosts keep, if tried channels are acknowledged towards those they were
tried with. -/
theorem channels_inv (h₀ : n₀.Start) (htracks : ∀ n s tx, ok n s tx → TracksPeer n s tx)
    (hacks : ∀ n s tx, ok n s tx → tx.AcksTriedChannel) (hr : Run (Step P ok) n₀ tr n) (s : Side) :
    Handshake.Inv ChannelOuterClass.kind ((n s).book IbcChannel) ((n s.peer).book IbcChannel) := by
  have hbooks : Run (Handshake.System.Moves ChannelOuterClass.kind fun _ _ _ => True)
      (n₀.books IbcChannel) (tr.map Prod.fst) (n.books IbcChannel) :=
    run_books h₀ htracks (fun _ _ _ ht h => ht.channelStep h (hacks _ _ _ h.ok)) hr
  exact Handshake.System.inv (start_channels h₀) hbooks s

/-- Two hosts track each other, and tried channels are acknowledged towards those they were tried
with, as they were tried. Then two open channels, of which one names the other, agree. -/
theorem channels_agree (h₀ : n₀.Start)
    (hr : Run (Step P fun n s tx => TracksPeer n s tx ∧ tx.AcksTriedChannel ∧
      n.AcksTriedVersion s tx) n₀ tr n) {s : Side} {a b : IbcChannel}
    (ha : (n s).states.lookup a.id = some (.channel a))
    (hb : (n s.peer).states.lookup b.id = some (.channel b)) (hopen : a.end_.state = .opened)
    (hopen' : b.end_.state = .opened) (hnames : a.Names b) : a.Agrees b := by
  have hbooks : Run (Handshake.System.Moves ChannelOuterClass.kind Handshake.KeepsVersion)
      (n₀.books IbcChannel) (tr.map Prod.fst) (n.books IbcChannel) :=
    run_books h₀ (fun _ _ _ h => h.1)
      (fun _ _ _ ht h => ht.channelStep_version h h.ok.2.1 h.ok.2.2) hr
  have hinv := channels_inv h₀ (fun _ _ _ h => h.1) (fun _ _ _ h => h.2.1) hr
  have hright := hinv s.peer
  rw [Side.peer_peer] at hright
  have ha' := Chain.book_cur_of_lookup (t := a) ha
  have hb' := Chain.book_cur_of_lookup (t := b) hb
  rw [← hnames.channel] at hb'
  have hao := ChannelOuterClass.State.phase_opened.2 hopen
  have hbo := ChannelOuterClass.State.phase_opened.2 hopen'
  obtain ⟨hpeer, hterms⟩ := (hinv s).agree hright ((hinv s).recorded _ _ ha') hao
    (hright.recorded _ _ hb') hbo
  obtain ⟨-, hport, hordering⟩ := ChannelOuterClass.Terms.mk.inj hterms
  have hversion := Handshake.System.versions (start_channels h₀) hbooks s _ _ _ ha' hao hb' hbo
  exact ⟨⟨hport, hpeer⟩, hordering, hversion.symm⟩

end

/-! ### Hellos that cross -/

namespace Crossed
open Sample

/-- The first host's channel and the second of the other host's two try each other. Then the first
acknowledges its channel, which was tried with the other host's first, towards the second one. -/
def crossing : List (Side × Move) := linked ++
  [(.left, initChannel (channelEnd .init "")), (.right, initChannel (channelEnd .init "")),
    (.right, initChannel (channelEnd .init "")),
    (.left, retryChannel 0 (channelEnd .init "channel-0") 5),
    (.right, retryChannel 1 (channelEnd .init "channel-0") 6), (.left, ackChannel 0 "channel-1" 7)]

/-- The other host acknowledges its first channel; it is shown what the first host had before. -/
def script : List (Side × Move) := crossing ++ [(.right, ackChannel 0 "channel-0" 8)]

/-- What the hosts show for that. -/
def shown : List (Side × ContractState) := linking ++
  [(.right, .channel (channelOf .right 0 (channelEnd .init ""))),
    (.left, .channel (channelOf .left 0 (channelEnd .init ""))),
    (.right, .channel (channelOf .right 1 (channelEnd .tryOpen "channel-0"))),
    (.left, .channel (channelOf .left 0 (channelEnd .tryOpen "channel-0")))]

/-- The first channels of both hosts. -/
def outcome (r : List (Side × LedgerTransaction) × Net Side) : List (Option ContractState) :=
  [(r.2 .left).states.lookup (channel 0), (r.2 .right).states.lookup (channel 0)]

theorem outcome_script : outcome <$> runNet (netPlatform shown []) sides tracksPeer pair script =
    .ok [some (.channel (channelOf .left 0 (channelEnd .opened "channel-1"))),
      some (.channel (channelOf .right 0 (channelEnd .opened "channel-0")))] := by decide +kernel

/-- Open channels, of which one names the other, need not agree. -/
theorem channels_disagree : ∃ (P : Platform) (n₀ n : Net Side)
    (tr : List (Side × LedgerTransaction)) (a b : IbcChannel), n₀.Start ∧
    Run (Step P TracksPeer) n₀ tr n ∧ (n .right).states.lookup a.id = some (.channel a) ∧
    (n .left).states.lookup b.id = some (.channel b) ∧ a.end_.state = .opened ∧
    b.end_.state = .opened ∧ a.Names b ∧ ¬ a.Agrees b := by
  obtain ⟨⟨tr, n⟩, hrun, hout⟩ := Result.map_ok.1 outcome_script
  have hr : Run (Step (netPlatform shown []) TracksPeer) pair ([] ++ tr) n :=
    run_of_net mem_sides (fun _ _ _ h => tracksPeer_ok h) hrun .nil
  simp only [outcome, List.cons.injEq, and_true] at hout
  refine ⟨_, pair, n, tr, channelOf .right 0 (channelEnd .opened "channel-0"),
    channelOf .left 0 (channelEnd .opened "channel-1"), start_pair, hr, hout.2, hout.1, rfl, rfl,
    ⟨rfl, rfl⟩, ?_⟩
  exact fun h => absurd h.names.channel (by decide)

/-- No tried channel is acknowledged. -/
def untried (tx : LedgerTransaction) : Bool :=
  tx.inputStates.all fun
    | .channel chan => tx.datagramHandlerCommands.all fun
      | (.handleChanOpenAck _, _) => chan.end_.state ≠ .tryOpen
      | _ => true
    | _ => true

theorem not_tried {tx : LedgerTransaction} (h : untried tx = true) {msg : MsgChannelOpenAck}
    {signers : List PublicKey}
    (hd : tx.datagramHandlerCommands = [(.handleChanOpenAck msg, signers)]) {chan : IbcChannel}
    (hm : ContractState.channel chan ∈ tx.inputStates) : chan.end_.state ≠ .tryOpen := by
  have hall := List.all_eq_true.1 h _ hm
  simp only [hd, List.all_cons, List.all_nil, Bool.and_true] at hall
  exact of_decide_eq_true hall

theorem acksTried_of_untried {tx : LedgerTransaction} (h : untried tx = true) :
    tx.AcksTriedChannel := by
  intro msg signers hd chan hm htry
  exact absurd htry (not_tried h hd hm)

/-- The usual handshake. -/
def opening : List (Side × Move) := linked ++
  [(.left, initChannel (channelEnd .init "")), (.right, tryChannel (channelEnd .init "channel-0") 5),
    (.left, ackChannel 0 "channel-0" 6), (.right, confirmChannel 0 7)]

theorem outcome_opening : outcome <$> runNet (netPlatform (transferring "") []) sides
      (fun n s tx => tracksPeer n s tx && untried tx) pair opening =
    .ok [some (.channel (channelOf .left 0 (channelEnd .opened "channel-0"))),
      some (.channel (channelOf .right 0 (channelEnd .opened "channel-0")))] := by decide +kernel

/-- The channels of the usual handshake agree. -/
theorem opened_agree : (channelOf .left 0 (channelEnd .opened "channel-0")).Agrees
    (channelOf .right 0 (channelEnd .opened "channel-0")) := by
  obtain ⟨⟨tr, n⟩, hrun, hout⟩ := Result.map_ok.1 outcome_opening
  have hr : Run (Step (netPlatform (transferring "") []) fun n s tx =>
      TracksPeer n s tx ∧ tx.AcksTriedChannel ∧ n.AcksTriedVersion s tx) pair ([] ++ tr) n := by
    refine run_of_net mem_sides (fun n s tx h => ?_) hrun .nil
    obtain ⟨htracks, huntried⟩ := Bool.and_eq_true_iff.1 h
    refine ⟨tracksPeer_ok htracks, acksTried_of_untried huntried, fun msg signers hd chan hm htry => ?_⟩
    exact absurd htry (not_tried huntried hd hm)
  simp only [outcome, List.cons.injEq, and_true] at hout
  have hb : (n (Side.peer .left)).states.lookup (channel 0) = _ := hout.2
  exact channels_agree start_pair hr hout.1 hb rfl rfl ⟨rfl, rfl⟩

end Crossed

end Net

end CordaIbc
