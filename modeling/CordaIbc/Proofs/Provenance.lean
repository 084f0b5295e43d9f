import CordaIbc.Proofs.Delivery
import CordaIbc.Proofs.Vouchers

/-!
# Where a transfer comes from

A packet names its source port, and any two ports can be joined by a channel. What `ics20.Module`
credits for a packet was locked or burned on the other host when the source port is bound to
`ics20.Module` there, and only then (`Net.created_iff`): `NopModule` commits whatever packet it is
given.
-/

namespace CordaIbc

open ChannelOuterClass (Packet Acknowledgement)
open ContractState StateClass

namespace Ics20

/-- A bank after a send: the amount is in the escrow of the source, or burned elsewhere. -/
structure Moved (t : Transfer) (bank bank' : Bank) : Prop where
  locked : ∀ d o, bank'.locked.balance d o = bank.locked.balance d o +
    if t.source = true ∧ d = t.denom ∧ o = t.sender then t.amount else 0
  minted : ∀ d o, bank'.minted.balance d o = bank.minted.balance d o -
    if t.source = false ∧ d = t.denom ∧ o = t.sender then t.amount else 0

/-- A transaction in which `ics20.Module.createOutgoingPacket` creates a packet: the packet's amount
is locked or burned in it. -/
structure Creates (P : Platform) (tx : LedgerTransaction) (packet : Packet) (t : Transfer) :
    Prop where
  command : ∃ anyMsg signers host port,
    tx.datagramHandlerCommands = [(.createOutgoingPacket anyMsg, signers)] ∧
    ContractState.host host ∈ tx.referenceStates ∧ port.id = packet.sourcePort ∧
    host.lookupModule port = .ok .ics20
  sent : tx.sent? = some packet
  reads : transferOf P packet = .ok t
  moved : ∃ bank bank', ContractState.bank bank ∈ tx.inputStates ∧
    ContractState.bank bank' ∈ tx.outputs ∧ Moved t bank bank'

/-- A transaction in which `ics20.ModuleCallbacks.onRecvPacket` succeeds on a packet: the amount of
the denomination the packet names is unlocked or minted in it. -/
structure Credits (P : Platform) (tx : LedgerTransaction) (packet : Packet) (denom : Denom)
    (amount : Int) : Prop where
  data : ∃ data, P.toFungibleTokenPacketData packet.data = .ok data ∧
    Denom.fromString data.denom = denom ∧ toBigInteger data.amount = .ok amount
  credited : ∃ receiver port channel bank bank', port.id = packet.sourcePort ∧
    channel.id = packet.sourceChannel ∧ ContractState.bank bank ∈ tx.inputStates ∧
    ContractState.bank bank' ∈ tx.outputs ∧
    credit P bank (denom.hasPrefix port channel) packet receiver denom amount = .ok bank'

theorem debit_moved {bank bank' : Bank} {t : Transfer}
    (h : debit bank t.source t.sender t.denom t.amount = .ok bank') : Moved t bank bank' := by
  refine ⟨(debit_locks h).locked, fun d o => ?_⟩
  unfold debit at h
  split at h
  · rename_i hs
    obtain ⟨allocated, -, rfl⟩ := Bank.lock_ok.1 h
    simp [hs]
  · rename_i hs
    obtain ⟨minted, hdown, rfl⟩ := Bank.burn_ok.1 h
    rw [BalanceMap.balance_down hdown]
    split
    · rename_i hd
      rw [if_pos ⟨by simpa using hs, hd⟩, hd.1, hd.2]
    · rename_i hd
      rw [if_neg fun he => hd he.2, Int.sub_zero]

end Ics20

namespace Chain

section
variable {P : Platform} {ok : Chain → LedgerTransaction → Prop} {c₀ c c' : Chain}
  {tr : List LedgerTransaction} {tx : LedgerTransaction} {packet : Packet}

/-- The module that creates a packet is bound to its source port. -/
structure SendsPacket (P : Platform) (c : Chain) (tx : LedgerTransaction) (packet : Packet)
    (m : Module) : Prop where
  effect : ∃ anyMsg signers chan outs,
    tx.datagramHandlerCommands = [(.createOutgoingPacket anyMsg, signers)] ∧
    SendEffect P (.create tx.inputStates tx.referenceStates) signers anyMsg chan packet m outs ∧
    ∀ o ∈ outs, o ∈ tx.outputs
  host : ∃ host port, ContractState.host host ∈ tx.referenceStates ∧ port.id = packet.sourcePort ∧
    host.lookupModule port = .ok m
  inputs : ∀ s ∈ tx.inputStates, ∀ i, s.id? = some i → c.states.lookup i = some s
  references : ∀ s ∈ tx.referenceStates, ∀ i, s.id? = some i → c.states.lookup i = some s

theorem sendsPacket_of_commit (hc : c.Commits P tx c') (hs : tx.sent? = some packet) :
    ∃ m, SendsPacket P c tx packet m := by
  have hcmd : ∃ anyMsg signers,
      tx.datagramHandlerCommands = [(.createOutgoingPacket anyMsg, signers)] := by
    unfold LedgerTransaction.sent? at hs
    split at hs
    · rename_i anyMsg signers hd
      exact ⟨anyMsg, signers, hd⟩
    · cases hs
  obtain ⟨anyMsg, signers, hd⟩ := hcmd
  obtain ⟨outs, ctx', ht⟩ := datagram_of_commits hc hd
  have htakes := ht.takes hd
  have hexec := ht.executes
  cases hexec with
  | @sendPacket _ host chan p m outs hhost hmodule heffect hsend =>
    have hout := htakes.channelOut (List.mem_append_right _ (List.mem_singleton_self _))
    have hsent := IbcChannel.sent_of_createOutgoingPacket hd hout hsend.sequence
    obtain rfl : p = packet := Option.some.inj (hsent.symm.trans hs)
    exact ⟨m, ⟨anyMsg, signers, chan, outs, hd, heffect, fun o ho =>
      ht.perm.mem_iff.2 (List.mem_append_left _ ho)⟩,
      ⟨host, chan.portId, Context.mem_of_getReference hhost, hsend.port, hmodule⟩,
      ht.inputs, ht.references⟩

theorem SendsPacket.module? {m : Module} (h : SendsPacket P c tx packet m) {port : Identifier}
    (hport : port.id = packet.sourcePort) : c.module? port = some m := by
  obtain ⟨host, port', hhost, hport', hmodule⟩ := h.host
  obtain rfl : port = port' := Identifier.ext (hport.trans hport'.symm)
  exact module_of_host (h.references _ hhost hostId rfl) hmodule

/-- What `ics20.Module` sends it has locked or burned. -/
theorem SendsPacket.creates (h : SendsPacket P c tx packet .ics20) (hs : tx.sent? = some packet)
    (hjson : ∀ data, P.toFungibleTokenPacketData (P.toJson data) = .ok data)
    (hplain : c.PlainDenoms) : ∃ t, Ics20.Creates P tx packet t := by
  obtain ⟨anyMsg, signers, chan, outs, hd, heffect, houts⟩ := h.effect
  obtain ⟨host, port, hhost, hport, hmodule⟩ := h.host
  cases heffect with
  | @ics20 msg amount sender srcPort srcChannel bank bank' denom _ hamount hsender hsrcPort hsrcChannel
      hbank hdenom hdebit =>
    have hin := Context.mem_of_getInput hbank
    have hreads : Ics20.transferOf P (Ics20.transferPacket P msg denom chan) = _ :=
      Ics20.transferOf_transferPacket hjson hamount hsender hsrcPort hsrcChannel
        (Ics20.plain_of_resolveToken (hplain bank (h.inputs _ hin bankId rfl)) hdenom)
    exact ⟨_, ⟨anyMsg, signers, host, port, hd, hhost, hport, hmodule⟩, hs, hreads, bank, bank', hin,
      houts _ (List.mem_singleton_self _), Ics20.debit_moved hdebit⟩

/-- What `ics20.Module` acknowledges with success it has credited. -/
theorem credits_of_commit (hc : c.Commits P tx c') {msg : MsgRecvPacket}
    {signers : List PublicKey}
    (hd : tx.datagramHandlerCommands = [(.handlePacketRecv msg, signers)]) {port : Identifier}
    (hport : port.id = msg.packet.destinationPort) (hm : c.module? port = some .ics20)
    (hack : tx.received? = some (msg.packet, successAck)) :
    ∃ denom amount, Ics20.Credits P tx msg.packet denom amount := by
  obtain ⟨outs, ctx', ht⟩ := datagram_of_commits hc hd
  have htakes := ht.takes hd
  have hexec := ht.executes
  cases hexec with
  | @recvPacket _ host port' chan chan' m ack outs hhost hport' hmodule heffect hrecv =>
    have hout := htakes.channelOut (List.mem_append_right _ (List.mem_singleton_self _))
    have hreceived := IbcChannel.received_of_handlePacketRecv hd hout hrecv.receive
    obtain rfl : ack = successAck := (Prod.mk.inj (Option.some.inj (hreceived.symm.trans hack))).2
    obtain rfl : port = port' := Identifier.ext (hport.trans hport'.symm)
    have hhost' := ht.references _ (Context.mem_of_getReference hhost) hostId rfl
    obtain rfl : m = .ics20 := Option.some.inj ((module_of_host hhost' hmodule).symm.trans hm)
    cases heffect with
    | @ics20 data amount receiver srcPort srcChannel bank bank' _ hdata hamount _ hsrcPort hsrcChannel
        hbank hcredit =>
      rcases hcredit with ⟨hcredit, -⟩ | ⟨message, -, -, he⟩
      · have hbank' : ContractState.bank bank' ∈ tx.outputs :=
          ht.perm.mem_iff.2 (List.mem_append_left _ (List.mem_singleton_self _))
        exact ⟨_, amount, ⟨data, hdata, rfl, hamount⟩, receiver, srcPort, srcChannel, bank, bank',
          hsrcPort, hsrcChannel, Context.mem_of_getInput hbank, hbank', hcredit⟩
      · cases he

end

end Chain

/-- Packets that agree read as the same transfer. -/
theorem ChannelOuterClass.Packet.Agrees.transfer {P : Platform} {p q : Packet} (h : q.Agrees p)
    {t : Ics20.Transfer} (hq : Ics20.transferOf P q = .ok t) {tx : LedgerTransaction} {denom : Denom}
    {amount : Int} (hp : Ics20.Credits P tx p denom amount) : t.denom = denom ∧ t.amount = amount := by
  obtain ⟨data, -, -, hdata, hamount, -, -, -, hdenom, -⟩ := Ics20.transferOf_ok.1 hq
  obtain ⟨data', hdata', hdenom', hamount'⟩ := hp.data
  rw [h.data, hdata'] at hdata
  cases hdata
  rw [hamount'] at hamount
  exact ⟨hdenom.symm.trans hdenom', (Except.ok.inj hamount).symm⟩

namespace Net

/-- In every run of two hosts that track each other, what `ics20.Module` credits for a packet was
locked or burned on the other host, in the transaction that created the packet with `ics20.Module`,
exactly when the packet's source port is bound to `ics20.Module` there. -/
theorem created_iff {P : Platform} {n₀ n : Net Side} {tr₁ tr₂ : List (Side × LedgerTransaction)}
    {s : Side} {tx : LedgerTransaction} (hinj : Function.Injective P.sha256)
    (hjson : ∀ data, P.toFungibleTokenPacketData (P.toJson data) = .ok data) (h₀ : n₀.Start)
    (hr : Run (Step P TracksPeer) n₀ (tr₁ ++ (s, tx) :: tr₂) n) {msg : MsgRecvPacket}
    {signers : List PublicKey}
    (hd : tx.datagramHandlerCommands = [(.handlePacketRecv msg, signers)]) {port : Identifier}
    (hport : port.id = msg.packet.destinationPort) (hm : (n₀ s).module? port = some .ics20)
    (hack : tx.received? = some (msg.packet, successAck)) :
    ∃ denom amount, Ics20.Credits P tx msg.packet denom amount ∧
      ((∃ tx' q t, (s.peer, tx') ∈ tr₁ ∧ q.Agrees msg.packet ∧ Ics20.Creates P tx' q t ∧
          t.denom = denom ∧ t.amount = amount) ↔
        ∃ port, port.id = msg.packet.sourcePort ∧ (n₀ s.peer).module? port = some .ics20) := by
  obtain ⟨n₁, n₂, hr₁, hs, -⟩ := hr.exists_step
  have hown : ∀ t, Run (Chain.Step P fun _ _ => True) (n₀ t) (own t tr₁) (n₁ t) := fun t =>
    run_own (fun _ _ _ => trivial) hr₁
  have hm₁ : (n₁ s).module? port = some .ics20 :=
    (Chain.module_run (h₀ s).inv (hown s) port).trans hm
  obtain ⟨denom, amount, hcredits⟩ := Chain.credits_of_commit hs.commits hd hport hm₁ hack
  refine ⟨denom, amount, hcredits, ?_, ?_⟩
  · -- the transaction that created the packet found the module under the port
    rintro ⟨tx', q, t, hmem, hagrees, hcreates, -⟩
    obtain ⟨_, _, c₁, c₂, -, hr', -, hc⟩ := (hown s.peer).exists_step_of_mem (mem_own.2 hmem)
    obtain ⟨m, hsends⟩ := Chain.sendsPacket_of_commit hc hcreates.sent
    obtain ⟨_, _, host, port', -, hhost, hport', hmodule⟩ := hcreates.command
    have hmod := Chain.module_of_host (hsends.references _ hhost hostId rfl) hmodule
    refine ⟨port', hport'.trans hagrees.sourcePort, ?_⟩
    rw [← Chain.module_run (h₀ _).inv hr', hmod]
  · rintro ⟨port', hport', hm'⟩
    obtain ⟨chan, ha⟩ := Chain.acceptsPacket_of_commit hs.commits hd
    have htrack := Tracking.run h₀ (fun _ _ _ h => h) hr₁
    obtain ⟨q, hq, hagrees⟩ :=
      htrack.sent_of_accepts hinj hs.sound hd ha (logs_run h₀ hr₁ s.peer).send
    obtain ⟨tx', hmem, hsent⟩ := List.mem_filterMap.1 hq
    obtain ⟨_, _, c₁, c₂, -, hr', -, hc⟩ := (hown s.peer).exists_step_of_mem hmem
    obtain ⟨m, hsends⟩ := Chain.sendsPacket_of_commit hc hsent
    have hmod := hsends.module? (hport'.trans hagrees.sourcePort.symm)
    rw [Chain.module_run (h₀ _).inv hr', hm'] at hmod
    cases hmod
    obtain ⟨t, hcreates⟩ := hsends.creates hsent hjson (Chain.PlainDenoms.run (h₀ _) hr')
    obtain ⟨hdenom, hamount⟩ := hagrees.transfer hcreates.reads hcredits
    exact ⟨tx', q, t, mem_own.1 hmem, hagrees, hcreates, hdenom, hamount⟩

/-! ### A packet of another module -/

namespace Unbacked
open Sample

/-- The first host binds the transfer port to `NopModule`. -/
def nopHost : Host :=
  { host 1 with modules := (∅ : Finmap fun _ => Module).insert transferPort .nop }

def mixed : Net Side
  | .left => .ofHost nopHost
  | .right => .ofHost (host 2)

theorem start_mixed : mixed.Start := by
  intro s
  cases s with
  | left =>
    refine ⟨⟨[notary 1]⟩, base 1, notary 1, [(transferPort, "jp.datachain.corda.ibc.ics26.NopModule")],
      clientStateFactoryNames, nopHost, ?_, rfl⟩
    simp [Host.create, Host.instances, Module.createInstance, ClientStateFactory.createInstance,
      clientStateFactoryNames, nopHost, Sample.host, Bind.bind, Except.bind]
  | right => exact start_host 2

/-- Packets are read from a table as well. -/
def P : Platform :=
  { netPlatform (transferring "channel-0") [atoms] with
    unpackPacket any := entry [packetTo "channel-0"] any.value }

/-- A channel between the transfer ports. -/
def opening : List (Side × Move) := linked ++
  [(.left, initChannel (channelEnd .init "")), (.right, tryChannel (channelEnd .init "channel-0") 5),
    (.left, ackChannel 0 "channel-0" 6), (.right, confirmChannel 0 7)]

def script : List (Side × Move) := opening ++
  [(.left,
      { inputs := [channel 0], references := [hostId, connection 0, hostClient]
        command := .datagram (.createOutgoingPacket ⟨"", [0]⟩) }),
    (.right, receive 0 (packetTo "channel-0") 8)]

def consumesBank (tx : LedgerTransaction) : Bool :=
  tx.inputStates.any fun
    | .bank _ => true
    | _ => false

/-- Who received what at the end of a script, and whether the first host consumed a bank. -/
def outcome (r : List (Side × LedgerTransaction) × Net Side) :
    Option (Side × Option (Packet × Acknowledgement)) × Bool :=
  (r.1.getLast?.map fun (s, tx) => (s, tx.received?), (own .left r.1).any consumesBank)

theorem outcome_script : outcome <$> runNet P sides tracksPeer mixed script =
    .ok (some (.right, some (packetTo "channel-0", successAck)), false) := by decide +kernel

theorem outcome_transferred : outcome <$> runNet P sides tracksPeer pair transferred =
    .ok (some (.right, some (packetTo "channel-0", successAck)), true) := by decide +kernel

/-- The last transaction of a script receives the packet. -/
theorem exists_last {tr : List (Side × LedgerTransaction)} {n : Net Side} {spends : Bool}
    (h : outcome (tr, n) = (some (.right, some (packetTo "channel-0", successAck)), spends)) :
    ∃ tr₁ tx msg signers, tr = tr₁ ++ [(Side.right, tx)] ∧
      tx.received? = some (packetTo "channel-0", successAck) ∧
      tx.datagramHandlerCommands = [(.handlePacketRecv msg, signers)] ∧
      msg.packet = packetTo "channel-0" ∧ (own .left tr₁).any consumesBank = spends := by
  obtain ⟨hlast, hspends⟩ := Prod.mk.inj h
  obtain ⟨⟨s, tx⟩, hlast, he⟩ := Option.map_eq_some_iff.1 hlast
  obtain ⟨rfl, hrecv⟩ := Prod.mk.inj he
  obtain ⟨msg, signers, hd, hp⟩ := LedgerTransaction.command_of_received hrecv
  have htr : tr = tr.dropLast ++ [(Side.right, tx)] :=
    (List.dropLast_append_getLast? _ hlast).symm
  refine ⟨tr.dropLast, tx, msg, signers, htr, hrecv, hd, hp, ?_⟩
  have hother : (Side.right, tx).1 ≠ Side.left := by simp
  have hown : own .left tr = own .left tr.dropLast := by
    rw [htr, List.dropLast_concat, own_ne hother]
  exact hown ▸ hspends

/-- A run in which `ics20.Module` accepts a packet that `NopModule` made up: no transaction of the
other host that created it locked or burned anything. -/
theorem accepted_unbacked : ∃ tr₁ tx n msg signers, mixed.Start ∧
    (mixed .left).module? transferPort = some .nop ∧
    (mixed .right).module? transferPort = some .ics20 ∧
    Run (Step P TracksPeer) mixed (tr₁ ++ [(Side.right, tx)]) n ∧
    tx.datagramHandlerCommands = [(.handlePacketRecv msg, signers)] ∧
    msg.packet = packetTo "channel-0" ∧ tx.received? = some (msg.packet, successAck) ∧
    ¬ ∃ tx' q t, (Side.left, tx') ∈ tr₁ ∧ q.Agrees msg.packet ∧ Ics20.Creates P tx' q t := by
  obtain ⟨⟨tr, n⟩, hrun, hout⟩ := Result.map_ok.1 outcome_script
  obtain ⟨tr₁, tx, msg, signers, rfl, hrecv, hd, hp, hno⟩ := exists_last hout
  have hr := run_of_net mem_sides (fun _ _ _ h => tracksPeer_ok h) hrun .nil
  refine ⟨tr₁, tx, n, msg, signers, start_mixed, by decide +kernel, by decide +kernel, hr, hd, hp,
    hp ▸ hrecv, ?_⟩
  rintro ⟨tx', q, t, hmem, -, hcreates⟩
  obtain ⟨bank, -, hbank, -⟩ := hcreates.moved
  have hspends : consumesBank tx' = true := List.any_eq_true.2 ⟨_, hbank, rfl⟩
  rw [List.any_eq_true.2 ⟨tx', mem_own.2 hmem, hspends⟩] at hno
  cases hno

end Unbacked

open Unbacked Sample in
/-- `created_iff` on a transfer between two hosts with `ics20.Module`. -/
theorem created_transferred : ∃ (tr₁ : List (Side × LedgerTransaction)) (tx tx' : LedgerTransaction)
    (q : Packet) (t : Ics20.Transfer) (denom : Denom) (amount : Int),
    tx.received? = some (packetTo "channel-0", successAck) ∧
    Ics20.Credits Unbacked.P tx (packetTo "channel-0") denom amount ∧
    (Side.left, tx') ∈ tr₁ ∧ q.Agrees (packetTo "channel-0") ∧ Ics20.Creates Unbacked.P tx' q t ∧
    t.denom = denom ∧ t.amount = amount := by
  obtain ⟨⟨tr, n⟩, hrun, hout⟩ := Result.map_ok.1 outcome_transferred
  obtain ⟨tr₁, tx, msg, signers, rfl, hrecv, hd, hp, -⟩ := exists_last hout
  have hr : Run (Step Unbacked.P TracksPeer) pair ([] ++ (tr₁ ++ [(Side.right, tx)])) n :=
    run_of_net mem_sides (fun _ _ _ h => tracksPeer_ok h) hrun .nil
  have hport : transferPort.id = msg.packet.destinationPort := by rw [hp]; rfl
  obtain ⟨denom, amount, hcredits, hiff⟩ := created_iff sha256_injective
    toFungibleTokenPacketData_toJson start_pair hr hd hport (by decide +kernel) (hp ▸ hrecv)
  obtain ⟨tx', q, t, hmem, hagrees, hcreates, hdenom, hamount⟩ :=
    hiff.2 ⟨transferPort, by rw [hp]; rfl, by decide +kernel⟩
  rw [hp] at hcredits hagrees
  exact ⟨tr₁, tx, tx', q, t, denom, amount, hrecv, hcredits, hmem, hagrees, hcreates, hdenom, hamount⟩

end Net

end CordaIbc
