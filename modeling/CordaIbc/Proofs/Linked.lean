import CordaIbc.Proofs.EndStep

/-!
# What an open channel runs over

The connection of an open channel is open, and the client of every connection is there, in every
state a host reaches (`Chain.Linked`). An open connection never changes again.
-/

namespace CordaIbc

open ContractState StateClass

theorem receive_end {chan chan' : IbcChannel} {packet : ChannelOuterClass.Packet}
    {ack : ChannelOuterClass.Acknowledgement}
    (h : Handler.recvPacket.receive (chan.answered packet ack) packet = .ok chan') :
    chan'.end_ = chan.end_ := by
  rcases receive_cases h with ⟨-, -, rfl⟩ | ⟨-, -, rfl⟩ <;> rfl

namespace IbcChannel
variable {P : Platform} {ctx : Context} {signers : List PublicKey} {d : DatagramHandler}
  {chan chan' : IbcChannel}

theorem Change.counterpartyPort (h : Change P ctx signers d chan chan') :
    chan'.end_.counterparty.portId = chan.end_.counterparty.portId := by
  cases h with
  | tryPrevious _ _ _ hcounterparty => exact hcounterparty.symm
  | ack | confirm | closeInit | closeConfirm | send => rfl
  | recv hrecv => rcases receive_cases hrecv.receive with ⟨-, -, rfl⟩ | ⟨-, -, rfl⟩ <;> rfl
  | settle hacks =>
    obtain ⟨n, rfl⟩ := settle_eq hacks.settle
    rfl

end IbcChannel

namespace Chain

structure Linked (c : Chain) : Prop where
  channel : ∀ i chan, c.states.lookup i = some (.channel chan) → chan.end_.state = .opened →
    ∃ conn : IbcConnection, c.states.lookup conn.id = some (.connection conn) ∧
      chan.end_.connectionHopsList = [conn.id.id] ∧ conn.end_.state = .opened
  connection : ∀ i conn, c.states.lookup i = some (.connection conn) →
    ∃ client : IbcClientState, c.states.lookup client.id = some (.client client) ∧
      client.id.id = conn.end_.clientId

section
variable {P : Platform} {c c' : Chain} {tx : LedgerTransaction} {outs : List ContractState}
  {tr : List LedgerTransaction}

theorem Start.linked (h : c.Start) : c.Linked := by
  obtain ⟨_, _, _, _, _, host, -, rfl⟩ := h
  refine ⟨fun i chan hl => ?_, fun i conn hl => ?_⟩
  · cases (lookup_ofHost hl).2
  · cases (lookup_ofHost hl).2

/-- An open connection stays as it is. -/
theorem ConnectionStep.lookup_opened (hs : ConnectionStep P c tx) {i : Identifier}
    {conn : IbcConnection} (hl : c.states.lookup i = some (.connection conn))
    (hopen : conn.end_.state = .opened) :
    (c.apply tx).states.lookup i = some (.connection conn) := by
  cases hs with
  | leaves hleaves => exact (hleaves.lookup i conn).2 hl
  | @creates _ _ _ conn' _ _ hnew _ hwrites =>
    have hi : i ≠ conn'.id := by
      rintro rfl
      rw [hl] at hnew
      cases hnew
    exact (hwrites.other i hi conn).2 hl
  | @changes _ _ _ d conn' _ _ _ hcur hchange hwrites =>
    have hi : i ≠ conn'.id := by
      rintro rfl
      rw [hl] at hcur
      cases hcur
      cases hchange with
      | tryPrevious _ hinit => rw [hopen] at hinit; cases hinit
      | ack hstate => rcases hstate with h | h <;> rw [hopen] at h <;> cases h
      | confirm hstate => rw [hopen] at hstate; cases hstate
    exact (hwrites.other i hi conn).2 hl

/-- An open channel that is put out was open before, or is opened over an open connection. -/
theorem Runs.opened_cases {handler : DatagramHandler} {signers : List PublicKey}
    (hr : Runs P c tx handler signers outs) {chan : IbcChannel}
    (hm : ContractState.channel chan ∈ outs) (hopen : chan.end_.state = .opened) :
    (∃ conn : IbcConnection, c.states.lookup conn.id = some (.connection conn) ∧
      chan.end_.connectionHopsList = [conn.id.id] ∧ conn.end_.state = .opened) ∨
    ∃ prev : IbcChannel, ContractState.channel prev ∈ tx.inputStates ∧
      prev.end_.state = .opened ∧
      chan.end_.connectionHopsList = prev.end_.connectionHopsList := by
  have hexec := hr.executes
  cases hexec with
  | createClient | updateClient | connOpenInit | connOpenTry | connOpenAck | connOpenConfirm =>
    simp at hm
  | chanOpenInit | chanOpenTry | chanOpenTryPrevious =>
    simp only [List.mem_cons, reduceCtorEq, ContractState.channel.injEq, List.not_mem_nil, or_false,
      false_or] at hm
    subst hm
    cases hopen
  | @chanOpenAck _ _ conn _ _ _ _ hconn _ _ hconnOpen =>
    obtain rfl : chan = _ := by simpa using hm
    exact .inl ⟨conn, hr.references _ (Context.mem_of_getReference hconn.ref) _ rfl, hconn.hops,
      hconnOpen⟩
  | @chanOpenConfirm _ _ conn _ _ _ _ hconn _ _ hconnOpen =>
    obtain rfl : chan = _ := by simpa using hm
    exact .inl ⟨conn, hr.references _ (Context.mem_of_getReference hconn.ref) _ rfl, hconn.hops,
      hconnOpen⟩
  | chanCloseInit | chanCloseConfirm =>
    obtain rfl : chan = _ := by simpa using hm
    cases hopen
  | sendPacket _ _ heffect hsend =>
    obtain rfl := heffect.bankOuts.channel_eq hm
    exact .inr ⟨_, Context.mem_of_getInput hsend.input, hopen, rfl⟩
  | recvPacket _ _ _ heffect hrecv =>
    obtain rfl := heffect.bankOuts.channel_eq hm
    have hend : chan.end_ = _ := receive_end hrecv.receive
    exact .inr ⟨_, Context.mem_of_getInput hrecv.input, hend ▸ hopen, by rw [hend]⟩
  | acknowledgePacket _ _ _ _ heffect hacks =>
    obtain rfl := heffect.bankOuts.channel_eq hm
    obtain ⟨n, rfl⟩ := settle_eq hacks.settle
    exact .inr ⟨_, Context.mem_of_getInput hacks.input, hopen, rfl⟩

/-- A connection that is put out has its client. -/
theorem Runs.client {handler : DatagramHandler} {signers : List PublicKey}
    (hr : Runs P c tx handler signers outs) {conn : IbcConnection}
    (hm : ContractState.connection conn ∈ outs) :
    ∃ client : IbcClientState, c.states.lookup client.id = some (.client client) ∧
      client.id.id = conn.end_.clientId := by
  have hexec := hr.executes
  have hcur : ∀ {client : IbcClientState} {id : String},
      ClientOf (.create tx.inputStates tx.referenceStates) id client →
      c.states.lookup client.id = some (.client client) ∧ client.id.id = id := fun h =>
    ⟨hr.references _ (Context.mem_of_getReference h.ref) _ rfl, h.id⟩
  cases hexec with
  | createClient | updateClient | chanOpenInit | chanOpenTry | chanOpenTryPrevious | chanOpenAck
  | chanOpenConfirm | chanCloseInit | chanCloseConfirm => simp at hm
  | sendPacket _ _ heffect => exact absurd hm heffect.bankOuts.connection_notMem
  | recvPacket _ _ _ heffect => exact absurd hm heffect.bankOuts.connection_notMem
  | acknowledgePacket _ _ _ _ heffect => exact absurd hm heffect.bankOuts.connection_notMem
  | connOpenInit _ hclient | connOpenTry _ hclient =>
    simp only [List.mem_cons, reduceCtorEq, ContractState.connection.injEq, List.not_mem_nil,
      or_false, false_or] at hm
    subst hm
    exact ⟨_, hcur hclient⟩
  | connOpenAck _ _ hclient | connOpenConfirm _ _ hclient =>
    obtain rfl : conn = _ := by simpa using hm
    exact ⟨_, hcur hclient⟩

theorem Linked.apply (h : c.Linked) (hi : c.Inv) (ht : Takes P c tx outs) : (c.apply tx).Linked := by
  have hconnStep := hi.connectionStep ht
  have hclient : ∀ id : String, (∃ client : IbcClientState,
      c.states.lookup client.id = some (.client client) ∧ client.id.id = id) →
      ∃ client : IbcClientState, (c.apply tx).states.lookup client.id = some (.client client) ∧
        client.id.id = id := by
    rintro id ⟨client, hl, hid⟩
    obtain ⟨t, hl', hu⟩ := hi.lookup_next ht hl
    cases t <;> first | exact hu.elim | skip
    rename_i client'
    have hsame : client'.id = client.id := hu
    exact ⟨client', hsame ▸ hl', hsame ▸ hid⟩
  have hconn : ∀ hops : List String, (∃ conn : IbcConnection,
      c.states.lookup conn.id = some (.connection conn) ∧ hops = [conn.id.id] ∧
        conn.end_.state = .opened) → ∃ conn : IbcConnection,
      (c.apply tx).states.lookup conn.id = some (.connection conn) ∧ hops = [conn.id.id] ∧
        conn.end_.state = .opened := by
    rintro hops ⟨conn, hl, hhops, hopen⟩
    exact ⟨conn, hconnStep.lookup_opened hl hopen, hhops, hopen⟩
  refine ⟨fun i chan hl hopen => ?_, fun i conn hl => ?_⟩
  · refine hconn _ ?_
    have hchanStep := hi.channelStep ht
    cases hchanStep with
    | leaves _ hleaves => exact h.channel i chan ((hleaves.lookup i chan).1 hl) hopen
    | @creates _ _ _ chan' _ _ _ _ _ hcreation hwrites =>
      by_cases hid : i = chan'.id
      · subst hid
        rw [hwrites.self] at hl
        cases hl
        cases hcreation with
        | mk _ hstate => rcases hstate with hs | hs <;> cases hs.symm.trans hopen
      · exact h.channel i chan ((hwrites.other i hid chan).1 hl) hopen
    | @changes _ _ _ prev chan' hruns hm _ _ hinput hcur _ hwrites =>
      by_cases hid : i = chan'.id
      · subst hid
        rw [hwrites.self] at hl
        cases hl
        rcases hruns.opened_cases hm hopen with hnew | ⟨d, hd, hdopen, hhops⟩
        · exact hnew
        · obtain rfl := Context.eq_of_getInput hinput hd
          rw [hhops]
          exact h.channel _ _ hcur hdopen
      · exact h.channel i chan ((hwrites.other i hid chan).1 hl) hopen
  · refine hclient _ ?_
    cases hconnStep with
    | leaves hleaves => exact h.connection i conn ((hleaves.lookup i conn).1 hl)
    | @creates _ _ _ conn' hruns hm _ _ hwrites =>
      by_cases hid : i = conn'.id
      · subst hid
        rw [hwrites.self] at hl
        cases hl
        exact hruns.client hm
      · exact h.connection i conn ((hwrites.other i hid conn).1 hl)
    | @changes _ _ _ _ conn' hruns hm _ _ _ hwrites =>
      by_cases hid : i = conn'.id
      · subst hid
        rw [hwrites.self] at hl
        cases hl
        exact hruns.client hm
      · exact h.connection i conn ((hwrites.other i hid conn).1 hl)

theorem Linked.run {ok : Chain → LedgerTransaction → Prop} {c₀ : Chain} (h₀ : c₀.Start)
    (hr : Run (Step P ok) c₀ tr c) : c.Linked := by
  refine hr.invariant (I := fun _ c => c.Linked) h₀.linked ?_
  rintro tr c tx c' hr h ⟨-, hc⟩
  obtain ⟨rfl, outs, ht⟩ := commit_ok hc
  exact h.apply (Inv.run h₀.inv hr) ht

end

end Chain

end CordaIbc
