import CordaIbc.Proofs.Ends

/-!
# What a transaction does to the ends of a chain

A transaction puts out at most one channel and at most one connection. `ChannelStep` and
`ConnectionStep` tell the two cases apart: the states of the class stay as they are (`Leaves`), or one
of them is written (`Writes`), made afresh or from its predecessor.
-/

namespace CordaIbc

open ContractState StateClass

/-- The states of a class are those that `cls?` puts under one number. -/
structure IsClass (T : Type) [StateClass T] (k : Nat) : Prop where
  cls : ∀ t : T, (up t).cls? = some k
  exists_up : ∀ s : ContractState, s.cls? = some k → ∃ t : T, s = up t

theorem isClass_channel : IsClass IbcChannel 3 :=
  ⟨fun _ => rfl, fun s h => by cases s <;> first | exact ⟨_, rfl⟩ | cases h⟩

theorem isClass_connection : IsClass IbcConnection 2 :=
  ⟨fun _ => rfl, fun s h => by cases s <;> first | exact ⟨_, rfl⟩ | cases h⟩

theorem up_inj {T : Type} [StateClass T] {t t' : T} (h : (up t : ContractState) = up t') : t = t' :=
  Option.some.inj ((cast?_eq.2 rfl).symm.trans (cast?_eq.2 h))

/-- In states of distinct classes, a class has one instance. -/
theorem filterIsInstance_eq {T : Type} [StateClass T] {k : Nat} (hT : IsClass T k)
    {l : List ContractState} (hn : (l.filterMap cls?).Nodup) {t : T} (ht : up t ∈ l) :
    filterIsInstance T l = [t] := by
  obtain ⟨l₁, l₂, rfl⟩ := List.append_of_mem ht
  rw [List.filterMap_append, List.filterMap_cons_some (hT.cls t), List.nodup_append] at hn
  obtain ⟨-, hn₂, hn₁⟩ := hn
  have hnil : ∀ l : List ContractState, k ∉ l.filterMap cls? → filterIsInstance T l = [] := by
    intro l hk
    refine List.eq_nil_iff_forall_not_mem.2 fun u hu => hk ?_
    exact List.mem_filterMap.2 ⟨_, mem_filterIsInstance.1 hu, hT.cls u⟩
  have h₁ : filterIsInstance T l₁ = [] :=
    hnil l₁ fun hk => hn₁ k hk k List.mem_cons_self rfl
  have h₂ : filterIsInstance T l₂ = [] := hnil l₂ (List.nodup_cons.1 hn₂).1
  have hself : cast? (up t) = some t := cast?_eq.2 rfl
  unfold filterIsInstance at h₁ h₂ ⊢
  rw [List.filterMap_append, List.filterMap_cons_some hself, h₁, h₂, List.nil_append]

/-- The one channel a transaction puts out. -/
def LedgerTransaction.channelOut? (tx : LedgerTransaction) : Option IbcChannel :=
  match filterIsInstance IbcChannel tx.outputs with
  | [chan] => some chan
  | _ => none

/-- A change keeps the identifier. -/
theorem IbcChannel.Change.id {P : Platform} {ctx : Context} {signers : List PublicKey}
    {d : DatagramHandler} {chan chan' : IbcChannel} (h : Change P ctx signers d chan chan') :
    chan'.id = chan.id := by
  cases h with
  | tryPrevious | ack | confirm | closeInit | closeConfirm | send => rfl
  | recv hrecv => rcases receive_cases hrecv.receive with ⟨-, -, rfl⟩ | ⟨-, -, rfl⟩ <;> rfl
  | settle hacks =>
    obtain ⟨n, rfl⟩ := settle_eq hacks.settle
    rfl

theorem IbcConnection.Change.id {ctx : Context} {d : DatagramHandler} {conn conn' : IbcConnection}
    (h : Change ctx d conn conn') : conn'.id = conn.id := by
  cases h <;> rfl

namespace Chain

/-- The states of a class are the same on two chains. -/
structure Leaves (T : Type) [StateClass T] (c c' : Chain) : Prop where
  lookup : ∀ i (t : T), c'.states.lookup i = some (up t) ↔ c.states.lookup i = some (up t)
  history : ∀ t : T, up t ∈ c'.history ↔ up t ∈ c.history

/-- One state of a class is written. -/
structure Writes {T : Type} [StateClass T] (c c' : Chain) (i : Identifier) (t : T) : Prop where
  self : c'.states.lookup i = some (up t)
  other : ∀ j, j ≠ i → ∀ u : T, c'.states.lookup j = some (up u) ↔ c.states.lookup j = some (up u)
  history : ∀ u : T, up u ∈ c'.history ↔ u = t ∨ up u ∈ c.history

section
variable {P : Platform} {c : Chain} {tx : LedgerTransaction} {outs : List ContractState} {T : Type}
  [StateClass T] {k : Nat}

/-- A state that is no output of its class stays what it is. -/
theorem Inv.lookup_up_iff (hi : c.Inv) (ht : Takes P c tx outs) (hT : IsClass T k) {i : Identifier}
    (hno : ∀ t : T, up t ∈ outs → (up t).id? ≠ some i) (t : T) :
    (c.apply tx).states.lookup i = some (up t) ↔ c.states.lookup i = some (up t) := by
  constructor
  · intro hl
    rcases ht.lookup_cases hl with ⟨hm, hid⟩ | ⟨-, hl⟩
    · exact absurd hid (hno t hm)
    · exact hl
  · intro hl
    refine (ht.lookup_of_notMem fun o ho hid => ?_).trans hl
    have hcls := (updates_cls (hi.updates_of_mem ht hl ho hid)).trans (hT.cls t)
    obtain ⟨u, rfl⟩ := hT.exists_up o hcls
    exact hno u ho hid

theorem Takes.mem_history (ht : Takes P c tx outs) {s : ContractState} :
    s ∈ (c.apply tx).history ↔ s ∈ outs ∨ s ∈ c.history := by
  show s ∈ tx.outputs ++ c.history ↔ _
  rw [List.mem_append, ht.perm.mem_iff]

theorem Inv.leaves (hi : c.Inv) (ht : Takes P c tx outs) (hT : IsClass T k)
    (hno : ∀ t : T, up t ∉ outs) : Leaves T c (c.apply tx) := by
  refine ⟨fun i t => hi.lookup_up_iff ht hT (fun t hm => absurd hm (hno t)) t, fun t => ?_⟩
  rw [ht.mem_history, or_iff_right (hno t)]

theorem Inv.writes (hi : c.Inv) (ht : Takes P c tx outs) (hT : IsClass T k) {t : T}
    {i : Identifier} (hm : up t ∈ outs) (hid : (up t).id? = some i) :
    Writes c (c.apply tx) i t := by
  have hone : ∀ u : T, up u ∈ outs → u = t := fun u hu => by
    have h := filterIsInstance_eq hT (Effect.origin ht.effect).1 hm
    have hmem := mem_filterIsInstance.2 hu
    rw [h, List.mem_singleton] at hmem
    exact hmem
  refine ⟨hi.lookup_of_mem ht hm hid, fun j hj u => ?_, fun u => ?_⟩
  · refine hi.lookup_up_iff ht hT (fun v hv hvid => ?_) u
    rw [hone v hv, hid] at hvid
    exact hj (Option.some.inj hvid).symm
  · rw [ht.mem_history]
    constructor
    · rintro (hu | hu)
      · exact .inl (hone u hu)
      · exact .inr hu
    · rintro (rfl | hu)
      · exact .inl hm
      · exact .inr hu

theorem Takes.channelOut (ht : Takes P c tx outs) {chan : IbcChannel}
    (hm : ContractState.channel chan ∈ outs) : tx.channelOut? = some chan := by
  have hn : (tx.outputs.filterMap cls?).Nodup :=
    (ht.perm.filterMap _).nodup_iff.2 (Effect.origin ht.effect).1
  unfold LedgerTransaction.channelOut?
  rw [filterIsInstance_eq isClass_channel hn (ht.perm.mem_iff.2 hm)]

theorem Takes.channelOut_eq_none (ht : Takes P c tx outs)
    (hno : ∀ chan, ContractState.channel chan ∉ outs) : tx.channelOut? = none := by
  have h : filterIsInstance IbcChannel tx.outputs = [] :=
    List.eq_nil_iff_forall_not_mem.2 fun chan hm =>
      hno chan (ht.perm.mem_iff.1 (mem_filterIsInstance.1 hm))
  unfold LedgerTransaction.channelOut?
  rw [h]

/-- A datagram executed on current states. -/
structure Runs (P : Platform) (c : Chain) (tx : LedgerTransaction) (handler : DatagramHandler)
    (signers : List PublicKey) (outs : List ContractState) : Prop where
  command : tx.datagramHandlerCommands = [(handler, signers)]
  inputs : ∀ s ∈ tx.inputStates, ∀ i, s.id? = some i → c.states.lookup i = some s
  references : ∀ s ∈ tx.referenceStates, ∀ i, s.id? = some i → c.states.lookup i = some s
  executes : Executes P (.create tx.inputStates tx.referenceStates) signers handler outs

/-- What a transaction does to the channels. -/
inductive ChannelStep (P : Platform) (c : Chain) (tx : LedgerTransaction) : Prop
  | leaves (hout : tx.channelOut? = none) (hleaves : Leaves IbcChannel c (c.apply tx))
  | creates {handler : DatagramHandler} {signers : List PublicKey} {outs : List ContractState}
    {chan : IbcChannel} (hruns : Runs P c tx handler signers outs)
    (hm : ContractState.channel chan ∈ outs) (hcont : handler.continuesChannel = false)
    (hout : tx.channelOut? = some chan) (hnew : c.states.lookup chan.id = none)
    (hcreation : IbcChannel.Creation (.create tx.inputStates tx.referenceStates) chan)
    (hwrites : Writes c (c.apply tx) chan.id chan)
  | changes {handler : DatagramHandler} {signers : List PublicKey} {outs : List ContractState}
    {chan chan' : IbcChannel} (hruns : Runs P c tx handler signers outs)
    (hm : ContractState.channel chan' ∈ outs) (hcont : handler.continuesChannel = true)
    (hout : tx.channelOut? = some chan')
    (hinput : (Context.create tx.inputStates tx.referenceStates).getInput IbcChannel = .ok chan)
    (hcur : c.states.lookup chan'.id = some (.channel chan))
    (hchange : IbcChannel.Change P (.create tx.inputStates tx.referenceStates) signers handler chan
      chan') (hwrites : Writes c (c.apply tx) chan'.id chan')

/-- What a transaction does to the connections. -/
inductive ConnectionStep (P : Platform) (c : Chain) (tx : LedgerTransaction) : Prop
  | leaves (hleaves : Leaves IbcConnection c (c.apply tx))
  | creates {handler : DatagramHandler} {signers : List PublicKey} {outs : List ContractState}
    {conn : IbcConnection} (hruns : Runs P c tx handler signers outs)
    (hm : ContractState.connection conn ∈ outs) (hnew : c.states.lookup conn.id = none)
    (hcreation : IbcConnection.Creation (.create tx.inputStates tx.referenceStates) conn)
    (hwrites : Writes c (c.apply tx) conn.id conn)
  | changes {handler : DatagramHandler} {signers : List PublicKey} {outs : List ContractState}
    {conn conn' : IbcConnection} (hruns : Runs P c tx handler signers outs)
    (hm : ContractState.connection conn' ∈ outs)
    (hinput : (Context.create tx.inputStates tx.referenceStates).getInput IbcConnection = .ok conn)
    (hcur : c.states.lookup conn'.id = some (.connection conn))
    (hchange : IbcConnection.Change (.create tx.inputStates tx.referenceStates) handler conn conn')
    (hwrites : Writes c (c.apply tx) conn'.id conn')

/-- An identifier that the host hands out is free. -/
theorem Inv.lookup_eq_none (hi : c.Inv) {host : Host} {o : ContractState} {i : Identifier}
    (hhost : c.states.lookup hostId = some (.host host)) (hm : host.Mints o)
    (hid : o.id? = some i) : c.states.lookup i = none := by
  rcases hl : c.states.lookup i with _ | s
  · rfl
  · exact absurd hid (hi.notMem_of_mints hhost hm hl)

theorem Inv.channelStep (hi : c.Inv) (ht : Takes P c tx outs) : ChannelStep P c tx := by
  by_cases hno : ∀ chan, ContractState.channel chan ∉ outs
  · exact .leaves (ht.channelOut_eq_none hno) (hi.leaves ht isClass_channel hno)
  obtain ⟨chan', hm⟩ := not_forall_not.1 hno
  have hwrites : Writes c (c.apply tx) chan'.id chan' := hi.writes ht isClass_channel hm rfl
  have heffect := ht.effect
  cases heffect with
  | addBank _ _ hbank => rcases hbank with rfl | ⟨_, rfl⟩ <;> simp at hm
  | fund => simp at hm
  | datagram hcmd hin href hexec =>
    have hruns : Runs P c tx _ _ _ := ⟨hcmd, hin, href, hexec⟩
    rcases hexec.channel_cases hm with ⟨hcont, hcreation⟩ | ⟨hcont, chan, hinput, hchange⟩
    · refine .creates hruns hm hcont (ht.channelOut hm) ?_ hcreation hwrites
      cases hcreation with
      | @mk host port end_ _ hhost =>
        have hmints : host.Mints (.channel (.create host port host.generateChannelIdentifier.2 end_)) :=
          rfl
        exact hi.lookup_eq_none (hin _ (Context.mem_of_getInput hhost) _ rfl) hmints rfl
    · have hcur := hin _ (Context.mem_of_getInput hinput) _ rfl
      have hid : chan'.id = chan.id := hchange.id
      exact .changes hruns hm hcont (ht.channelOut hm) hinput (hid ▸ hcur) hchange hwrites

theorem Inv.connectionStep (hi : c.Inv) (ht : Takes P c tx outs) : ConnectionStep P c tx := by
  by_cases hno : ∀ conn, ContractState.connection conn ∉ outs
  · exact .leaves (hi.leaves ht isClass_connection hno)
  obtain ⟨conn', hm⟩ := not_forall_not.1 hno
  have hwrites : Writes c (c.apply tx) conn'.id conn' := hi.writes ht isClass_connection hm rfl
  have heffect := ht.effect
  cases heffect with
  | addBank _ _ hbank => rcases hbank with rfl | ⟨_, rfl⟩ <;> simp at hm
  | fund => simp at hm
  | datagram hcmd hin href hexec =>
    have hruns : Runs P c tx _ _ _ := ⟨hcmd, hin, href, hexec⟩
    rcases hexec.connection_cases hm with hcreation | ⟨conn, hinput, hchange⟩
    · refine .creates hruns hm ?_ hcreation hwrites
      cases hcreation with
      | @mk host end_ hhost =>
        have hmints : host.Mints (.connection (.create host host.generateConnectionIdentifier.2 end_)) :=
          rfl
        exact hi.lookup_eq_none (hin _ (Context.mem_of_getInput hhost) _ rfl) hmints rfl
    · have hcur := hin _ (Context.mem_of_getInput hinput) _ rfl
      have hid : conn'.id = conn.id := hchange.id
      exact .changes hruns hm hinput (hid ▸ hcur) hchange hwrites

end

end Chain

end CordaIbc
