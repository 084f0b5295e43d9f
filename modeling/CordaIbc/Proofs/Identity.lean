import CordaIbc.Proofs.Inversion

/-!
# Identifiers of the outputs

Every state that is not fungible comes out of a datagram either as the successor of an input of its
class and identifier (`Updates`) or under an identifier the host had not handed out (`Mints`); the
outputs of one datagram are of different classes. With `Owns`, the identifiers a host has handed
out, this is what keeps identifiers unique on a ledger and in a store.
-/

namespace CordaIbc

open ChannelOuterClass (Channel Packet Acknowledgement)
open Context StateClass

/-! ## Classes and owners -/

namespace ContractState

/-- The kind of a state that is not fungible. -/
def cls? : ContractState → Option Nat
  | host _ => some 0
  | client _ => some 1
  | connection _ => some 2
  | channel _ => some 3
  | bank _ | cashBank _ => some 4
  | genesis _ | voucher _ | cash _ | other _ => none

/-- `s` follows `s₀` in the life of one state. -/
def Updates : ContractState → ContractState → Prop
  | host h, host h' => h.participants = h'.participants ∧ h.baseId = h'.baseId ∧
    h.notary = h'.notary ∧ h.modules = h'.modules ∧
    h.clientStateFactories = h'.clientStateFactories ∧
    h.nextClientSequence ≤ h'.nextClientSequence ∧
    h.nextConnectionSequence ≤ h'.nextConnectionSequence ∧
    h.nextChannelSequence ≤ h'.nextChannelSequence ∧ h.bankIds ⊆ h'.bankIds
  | client c, client c' => c'.id = c.id
  | connection c, connection c' => c'.id = c.id
  | channel c, channel c' => c'.id = c.id
  | bank _, bank _ => True
  | cashBank _, cashBank _ => True
  | _, _ => False

variable {s s' : ContractState} {i : Identifier}

theorem Updates.id? (h : Updates s s') : s'.id? = s.id? := by
  cases s <;> cases s' <;> first | exact h.elim | skip
  case host => rfl
  case bank => rfl
  case cashBank => rfl
  all_goals exact congrArg some h

theorem Updates.refl_of_key (h : s.id? = some i) : Updates s s := by
  cases s <;> first | exact rfl | exact trivial | skip
  case host => exact ⟨rfl, rfl, rfl, rfl, rfl, le_rfl, le_rfl, le_rfl, fun _ h => h⟩
  all_goals cases h

end ContractState

open ContractState

namespace Host

/-- The host has handed out the identifier of the state. -/
def Owns (h : Host) : ContractState → Prop
  | .client s => ∃ t, ∃ n < h.nextClientSequence, s.id = clientIdentifier t n
  | .connection s => ∃ n < h.nextConnectionSequence, s.id = connectionIdentifier n
  | .channel s => ∃ n < h.nextChannelSequence, s.id = channelIdentifier n
  | .bank _ | .cashBank _ => bankId ∈ h.bankIds
  | _ => True

/-- The identifier of the state is the next one the host hands out for its class. -/
def Mints (h : Host) : ContractState → Prop
  | .client s => ∃ t, s.id = clientIdentifier t h.nextClientSequence
  | .connection s => s.id = connectionIdentifier h.nextConnectionSequence
  | .channel s => s.id = channelIdentifier h.nextChannelSequence
  | .bank _ | .cashBank _ => bankId ∉ h.bankIds
  | _ => False

variable {h h' : Host} {s s' : ContractState} {i : Identifier}

theorem Owns.mono (hu : Updates (.host h) (.host h')) (ho : h.Owns s) : h'.Owns s := by
  obtain ⟨-, -, -, -, -, h₁, h₂, h₃, h₄⟩ := hu
  cases s <;> first | exact trivial | exact h₄ ho | skip
  case client => obtain ⟨t, n, hn, e⟩ := ho; exact ⟨t, n, by omega, e⟩
  case connection => obtain ⟨n, hn, e⟩ := ho; exact ⟨n, by omega, e⟩
  case channel => obtain ⟨n, hn, e⟩ := ho; exact ⟨n, by omega, e⟩

theorem Owns.updates (hu : Updates s s') (ho : h.Owns s) : h.Owns s' := by
  cases s <;> cases s' <;> first | exact hu.elim | exact trivial | exact ho | skip
  case client => obtain ⟨t, n, hn, e⟩ := ho; exact ⟨t, n, hn, Eq.trans hu e⟩
  case connection => obtain ⟨n, hn, e⟩ := ho; exact ⟨n, hn, Eq.trans hu e⟩
  case channel => obtain ⟨n, hn, e⟩ := ho; exact ⟨n, hn, Eq.trans hu e⟩

/-- The first letters of the identifier of an owned state give its class away. -/
theorem Owns.kind (ho : h.Owns s) (hi : s.id? = some i) :
    s.cls? = some 0 ∧ i.kind = ['h', 'o', 's'] ∨
    s.cls? = some 1 ∧ (∃ t n, i = clientIdentifier t n) ∨
    s.cls? = some 2 ∧ i.kind = ['c', 'o', 'n'] ∨
    s.cls? = some 3 ∧ i.kind = ['c', 'h', 'a'] ∨
    s.cls? = some 4 ∧ i.kind = ['b', 'a', 'n'] := by
  cases s <;> first | (cases hi; done) | skip
  all_goals obtain rfl := Option.some.inj hi
  case host => exact .inl ⟨rfl, kind_host⟩
  case client =>
    obtain ⟨t, n, -, e⟩ := ho
    exact .inr (.inl ⟨rfl, t, n, e⟩)
  case connection =>
    obtain ⟨n, -, e⟩ := ho
    exact .inr (.inr (.inl ⟨rfl, (congrArg _ e).trans kind_connection⟩))
  case channel =>
    obtain ⟨n, -, e⟩ := ho
    exact .inr (.inr (.inr (.inl ⟨rfl, (congrArg _ e).trans kind_channel⟩)))
  all_goals exact .inr (.inr (.inr (.inr ⟨rfl, kind_bank⟩)))

theorem Owns.cls_eq (ho : h.Owns s) (ho' : h'.Owns s') (hi : s.id? = some i)
    (hi' : s'.id? = some i) : s.cls? = s'.cls? := by
  rcases ho.kind hi with ⟨e, k⟩ | ⟨e, t, n, k⟩ | ⟨e, k⟩ | ⟨e, k⟩ | ⟨e, k⟩ <;>
    rcases ho'.kind hi' with ⟨e', k'⟩ | ⟨e', t', n', k'⟩ | ⟨e', k'⟩ | ⟨e', k'⟩ | ⟨e', k'⟩ <;>
    first
    | exact e.trans e'.symm
    | exact absurd (k.symm.trans k') (by decide)
    | (obtain ⟨h₁, h₂, h₃, h₄⟩ := client_kind_ne ((congrArg Identifier.kind k).symm.trans k')
       contradiction)
    | (obtain ⟨h₁, h₂, h₃, h₄⟩ := client_kind_ne ((congrArg Identifier.kind k').symm.trans k)
       contradiction)

/-- A state under a new identifier is owned once the counters have moved past it. -/
theorem Mints.owns_of (hm : h.Mints s)
    (h₁ : h.nextClientSequence < h'.nextClientSequence ∨ s.cls? ≠ some 1)
    (h₂ : h.nextConnectionSequence < h'.nextConnectionSequence ∨ s.cls? ≠ some 2)
    (h₃ : h.nextChannelSequence < h'.nextChannelSequence ∨ s.cls? ≠ some 3)
    (h₄ : bankId ∈ h'.bankIds ∨ s.cls? ≠ some 4) : h'.Owns s := by
  cases s <;> first | exact hm.elim | exact trivial | skip
  case client => obtain ⟨t, e⟩ := hm; exact ⟨t, _, h₁.resolve_right (by simp [cls?]), e⟩
  case connection => exact ⟨_, h₂.resolve_right (by simp [cls?]), hm⟩
  case channel => exact ⟨_, h₃.resolve_right (by simp [cls?]), hm⟩
  all_goals exact h₄.resolve_right (by simp [cls?])

/-- No owned state has the identifier of a minted one. -/
theorem Owns.id_ne (ho : h.Owns s) (hm : h.Mints s') (hi : s.id? = some i) : s'.id? ≠ some i := by
  intro hi'
  -- a host with every counter one further owns both, so they have one class
  let h₁ : Host := { h with
    nextClientSequence := h.nextClientSequence + 1
    nextConnectionSequence := h.nextConnectionSequence + 1
    nextChannelSequence := h.nextChannelSequence + 1, bankIds := bankId :: h.bankIds }
  have ho' : h₁.Owns s' :=
    hm.owns_of (.inl (Nat.lt_succ_self _)) (.inl (Nat.lt_succ_self _)) (.inl (Nat.lt_succ_self _))
      (.inl List.mem_cons_self)
  have hc := ho.cls_eq ho' hi hi'
  cases s <;> cases s' <;> first | (cases hc; done) | exact hm.elim | skip
  case client =>
    obtain ⟨t, n, hn, e⟩ := ho
    obtain ⟨t', e'⟩ := hm
    have := Option.some.inj (hi.trans hi'.symm)
    have := clientIdentifier_inj (e.symm.trans (this.trans e'))
    omega
  case connection =>
    obtain ⟨n, hn, e⟩ := ho
    have := Option.some.inj (hi.trans hi'.symm)
    have := connectionIdentifier_inj (e.symm.trans (this.trans hm))
    omega
  case channel =>
    obtain ⟨n, hn, e⟩ := ho
    have := Option.some.inj (hi.trans hi'.symm)
    have := channelIdentifier_inj (e.symm.trans (this.trans hm))
    omega
  all_goals exact hm ho

end Host

/-! ## The outputs of a datagram -/

section
variable {P : Platform} {ctx : Context} {signers : List PublicKey} {outs : List ContractState}

/-- What modules output: the successor of a bank, and states outside the identified classes. -/
structure BankOuts (ctx : Context) (outs : List ContractState) : Prop where
  cls : outs.filterMap cls? = [] ∨ outs.filterMap cls? = [4]
  origin : ∀ s ∈ outs, ∀ i, s.id? = some i → ∃ s₀ ∈ ctx.inStates, Updates s₀ s

theorem BankOuts.nil : BankOuts ctx [] := ⟨.inl rfl, nofun⟩

theorem BankOuts.bank {bank bank' : Bank} (h : ctx.getInput Bank = .ok bank) :
    BankOuts ctx [.bank bank'] :=
  ⟨.inr rfl, fun s hs i _ => ⟨.bank bank, mem_of_getInput h, by
    rw [List.mem_singleton.1 hs]; trivial⟩⟩

theorem filterMap_cls_eq_nil {l : List ContractState} (h : ∀ s ∈ l, s.cls? = none) :
    l.filterMap cls? = [] := List.filterMap_eq_nil_iff.2 h

theorem BankOuts.cashBank {bank bank' : CashBank} {rest : List ContractState}
    (h : ctx.getInput CashBank = .ok bank)
    (hrest : ∀ s ∈ rest, (∃ c, s = .cash c) ∨ ∃ v, s = .voucher v) :
    BankOuts ctx (.cashBank bank' :: rest) := by
  constructor
  · right
    show 4 :: rest.filterMap cls? = [4]
    rw [filterMap_cls_eq_nil]
    intro s hs
    rcases hrest s hs with ⟨c, rfl⟩ | ⟨v, rfl⟩ <;> rfl
  · intro s hs i hi
    rcases List.mem_cons.1 hs with rfl | hs
    · exact ⟨.cashBank bank, mem_of_getInput h, trivial⟩
    · rcases hrest s hs with ⟨c, rfl⟩ | ⟨v, rfl⟩ <;> cases hi

theorem BankOuts.cash {rest : List ContractState} (h : ∀ s ∈ rest, ∃ c, s = .cash c) :
    BankOuts ctx rest := by
  refine ⟨.inl (filterMap_cls_eq_nil fun s hs => ?_), fun s hs i hi => ?_⟩
  · obtain ⟨c, rfl⟩ := h s hs; rfl
  · obtain ⟨c, rfl⟩ := h s hs; cases hi

/-- Modules put out no channel of their own. -/
theorem BankOuts.channel_eq {chan chan' : IbcChannel} (h : BankOuts ctx outs)
    (hm : ContractState.channel chan ∈ outs ++ [.channel chan']) : chan = chan' := by
  rcases List.mem_append.1 hm with hm | hm
  · have h₃ : 3 ∈ outs.filterMap cls? := List.mem_filterMap.2 ⟨_, hm, rfl⟩
    rcases h.cls with e | e <;> rw [e] at h₃ <;> simp at h₃
  · simpa using hm

theorem Ics20Cash.CashEffect.bankOuts (h : Ics20Cash.CashEffect P ctx outs) :
    BankOuts ctx outs := by
  cases h with
  | pay hbank hcash => exact .cashBank hbank fun s hs => .inl (hcash s hs)
  | payOnly hcash => exact .cash hcash
  | mint hbank _ _ =>
    exact .cashBank hbank fun s hs => .inr ⟨_, List.mem_singleton.1 hs⟩

theorem SendEffect.bankOuts {anyMsg : Any} {chan : IbcChannel} {packet : Packet} {m : Module}
    (h : SendEffect P ctx signers anyMsg chan packet m outs) : BankOuts ctx outs := by
  cases h with
  | nop _ => exact .nil
  | ics20 _ _ _ _ _ hbank _ _ => exact .bank hbank
  | ics20cash _ _ _ _ _ hbank _ hdebit houts _ _ =>
    unfold Ics20Cash.debit at hdebit
    split at hdebit
    · obtain ⟨-, cs, ho, hs⟩ := Ics20Cash.lockCash_ok hdebit
      rw [houts.unique ho]
      exact .cashBank hbank fun s h => .inl (hs s h)
    · obtain ⟨bank', change, -, ho⟩ := Ics20Cash.burnVouchers_ok hdebit
      rw [houts.unique ho]
      refine .cashBank hbank fun s h => ?_
      obtain ⟨v, -, rfl⟩ := List.mem_map.1 h
      exact .inr ⟨v, rfl⟩

theorem RecvEffect.bankOuts {packet : Packet} {m : Module} {ack : Acknowledgement}
    (h : RecvEffect P ctx packet m ack outs) : BankOuts ctx outs := by
  cases h with
  | nop => exact .nil
  | ics20 _ _ _ _ _ hbank _ => exact .bank hbank
  | ics20cash hrecv houts =>
    obtain ⟨ss, he, ho⟩ := Ics20Cash.onRecvPacket_ok hrecv
    rw [houts.unique ho]
    exact he.bankOuts

theorem AckEffect.bankOuts {packet : Packet} {m : Module} {ack : Acknowledgement}
    (h : AckEffect P ctx packet m ack outs) : BankOuts ctx outs := by
  cases h with
  | nop => exact .nil
  | ics20Result hbank => exact .bank hbank
  | ics20Error _ _ _ _ _ hbank _ => exact .bank hbank
  | ics20cash hsettle houts =>
    obtain ⟨ss, he, ho⟩ := Ics20Cash.onAcknowledgePacket_ok hsettle
    rw [houts.unique ho]
    exact he.bankOuts

theorem Ics20Cash.CashEffect.not_bank (h : Ics20Cash.CashEffect P ctx outs) (bank : Bank) :
    ContractState.bank bank ∉ outs := by
  cases h with
  | pay _ hcash =>
    intro hb
    obtain ⟨c, hc⟩ := hcash (.bank bank) (by simpa using hb)
    cases hc
  | payOnly hcash =>
    intro hb
    obtain ⟨c, hc⟩ := hcash _ hb
    cases hc
  | mint => simp

theorem SendEffect.not_bank {anyMsg : Any} {chan : IbcChannel} {packet : Packet} {m : Module}
    (h : SendEffect P ctx signers anyMsg chan packet m outs) (hm : m ≠ .ics20) (bank : Bank) :
    ContractState.bank bank ∉ outs := by
  cases h with
  | nop _ => exact List.not_mem_nil
  | ics20 => exact absurd rfl hm
  | ics20cash _ _ _ _ _ _ _ hdebit houts _ _ =>
    unfold Ics20Cash.debit at hdebit
    split at hdebit
    · obtain ⟨-, cs, ho, hs⟩ := Ics20Cash.lockCash_ok hdebit
      rw [houts.unique ho]
      intro hb
      obtain ⟨c, hc⟩ := hs (.bank bank) (by simpa using hb)
      cases hc
    · obtain ⟨bank', change, -, ho⟩ := Ics20Cash.burnVouchers_ok hdebit
      rw [houts.unique ho]
      simp

theorem RecvEffect.not_bank {packet : Packet} {m : Module} {ack : Acknowledgement}
    (h : RecvEffect P ctx packet m ack outs) (hm : m ≠ .ics20) (bank : Bank) :
    ContractState.bank bank ∉ outs := by
  cases h with
  | nop => exact List.not_mem_nil
  | ics20 => exact absurd rfl hm
  | ics20cash hrecv houts =>
    obtain ⟨ss, he, ho⟩ := Ics20Cash.onRecvPacket_ok hrecv
    rw [houts.unique ho]
    exact he.not_bank bank

theorem AckEffect.not_bank {packet : Packet} {m : Module} {ack : Acknowledgement}
    (h : AckEffect P ctx packet m ack outs) (hm : m ≠ .ics20) (bank : Bank) :
    ContractState.bank bank ∉ outs := by
  cases h with
  | nop => exact List.not_mem_nil
  | ics20Result | ics20Error => exact absurd rfl hm
  | ics20cash hsettle houts =>
    obtain ⟨ss, he, ho⟩ := Ics20Cash.onAcknowledgePacket_ok hsettle
    rw [houts.unique ho]
    exact he.not_bank bank

theorem Handler.connOpenTry_previous_ok {host nextHost : Host} {id : Identifier}
    {msg : MsgConnectionOpenTry} {versions : List Connection.Version}
    (h : connOpenTry.previous ctx host msg = .ok (nextHost, id, versions)) :
    (msg.previousConnectionId = "" ∧ nextHost = host.generateConnectionIdentifier.1 ∧
      id = host.generateConnectionIdentifier.2 ∧ versions = []) ∨
    ∃ prev, ctx.getInput IbcConnection = .ok prev ∧ prev.id.id = msg.previousConnectionId ∧
      prev.end_.state = .init ∧ prev.end_.counterparty.connectionId = "" ∧
      prev.end_.counterparty.prefix_ = msg.counterparty.prefix_ ∧
      prev.end_.clientId = msg.clientId ∧
      prev.end_.counterparty.clientId = msg.counterparty.clientId ∧
      prev.end_.delayPeriod = msg.delayPeriod ∧ nextHost = host ∧ id = prev.id ∧
      versions = prev.end_.versionsList := by
  unfold connOpenTry.previous at h
  split at h
  · simp only [Result.bind_ok, requireId_ok, require_ok, Except.ok.injEq, Prod.mk.injEq] at h
    obtain ⟨prev, hprev, -, hid, -, ⟨h₁, h₂, h₃, h₄, h₅⟩, -, hinit, rfl, rfl, rfl⟩ := h
    exact .inr ⟨prev, hprev, hid, hinit, h₁, h₂, h₃, h₄, h₅, rfl, rfl, rfl⟩
  · rename_i hne
    simp only [Except.ok.injEq, Prod.mk.injEq] at h
    obtain ⟨rfl, rfl, rfl⟩ := h
    exact .inl ⟨by simpa using hne, rfl, rfl, rfl⟩

/-- Where an output comes from: an input, or the counters of the input host. -/
def Origin (ctx : Context) (outs : List ContractState) (s : ContractState) : Prop :=
  (∃ s₀ ∈ ctx.inStates, Updates s₀ s) ∨
    ∃ host host', ctx.getInput Host = .ok host ∧ ContractState.host host' ∈ outs ∧
      Updates (.host host) (.host host') ∧ host.Mints s ∧ host'.Owns s

theorem Origin.of_input {T : Type} [StateClass T] {t : T} {s : ContractState}
    (h : ctx.getInput T = .ok t) (hu : Updates (up t) s) : Origin ctx outs s :=
  .inl ⟨_, mem_of_getInput h, hu⟩

theorem Origin.pair {host host' : Host} {s : ContractState} (h : ctx.getInput Host = .ok host)
    (hu : Updates (.host host) (.host host')) (hs : Origin ctx [.host host', s] s) :
    ∀ t ∈ [.host host', s], ∀ i, t.id? = some i → Origin ctx [.host host', s] t := by
  simp only [List.mem_cons, List.not_mem_nil, or_false]
  rintro t (rfl | rfl) i -
  · exact .of_input h hu
  · exact hs

theorem Origin.single {s : ContractState} (hs : Origin ctx [s] s) :
    ∀ t ∈ [s], ∀ i, t.id? = some i → Origin ctx [s] t := by
  rintro t ht i -
  rw [List.mem_singleton.1 ht]
  exact hs

theorem Origin.append {chan : IbcChannel} (h : BankOuts ctx outs)
    (hs : Origin ctx (outs ++ [.channel chan]) (.channel chan)) :
    ((outs ++ [ContractState.channel chan]).filterMap cls?).Nodup ∧
      ∀ t ∈ outs ++ [.channel chan], ∀ i, t.id? = some i →
        Origin ctx (outs ++ [.channel chan]) t := by
  refine ⟨?_, fun t ht i hi => ?_⟩
  · rw [List.filterMap_append]
    rcases h.cls with e | e <;> rw [e] <;> simp [cls?]
  · rcases List.mem_append.1 ht with ht | ht
    · exact .inl (h.origin t ht i hi)
    · rw [List.mem_singleton.1 ht]; exact hs

theorem updates_generateClientIdentifier (host : Host) (t : ClientType) :
    Updates (.host host) (.host (host.generateClientIdentifier t).1) :=
  ⟨rfl, rfl, rfl, rfl, rfl, Nat.le_succ _, le_rfl, le_rfl, fun _ h => h⟩

theorem updates_generateConnectionIdentifier (host : Host) :
    Updates (.host host) (.host host.generateConnectionIdentifier.1) :=
  ⟨rfl, rfl, rfl, rfl, rfl, le_rfl, Nat.le_succ _, le_rfl, fun _ h => h⟩

theorem updates_generateChannelIdentifier (host : Host) :
    Updates (.host host) (.host host.generateChannelIdentifier.1) :=
  ⟨rfl, rfl, rfl, rfl, rfl, le_rfl, le_rfl, Nat.le_succ _, fun _ h => h⟩

theorem updates_host_refl (host : Host) : Updates (.host host) (.host host) :=
  ⟨rfl, rfl, rfl, rfl, rfl, le_rfl, le_rfl, le_rfl, fun _ h => h⟩

/-- A receipt moves what the ordering of the channel goes by. -/
theorem receive_cases {chan chan' : IbcChannel} {packet : Packet}
    (h : Handler.recvPacket.receive chan packet = .ok chan') :
    chan.end_.ordering = .unordered ∧ packet.sequence ∉ chan.receipts ∧
        chan' = { chan with receipts := insert packet.sequence chan.receipts } ∨
      chan.end_.ordering = .ordered ∧ packet.sequence = chan.nextSequenceRecv ∧
        chan' = { chan with nextSequenceRecv := chan.nextSequenceRecv + 1 } := by
  unfold Handler.recvPacket.receive at h
  split at h
  · rename_i ho
    simp only [Result.bind_ok, require_ok, Except.ok.injEq] at h
    obtain ⟨-, hn, rfl⟩ := h
    exact .inl ⟨ho, hn, rfl⟩
  · rename_i ho
    simp only [Result.bind_ok, require_ok, Except.ok.injEq] at h
    obtain ⟨-, hn, rfl⟩ := h
    exact .inr ⟨ho, hn, rfl⟩
  · cases h

theorem receive_id {chan chan' : IbcChannel} {packet : Packet}
    (h : Handler.recvPacket.receive chan packet = .ok chan') : chan'.id = chan.id := by
  rcases receive_cases h with ⟨-, -, rfl⟩ | ⟨-, -, rfl⟩ <;> rfl

/-- A settlement moves the counter of an ordered channel, and nothing else. -/
theorem settle_eq {chan chan' : IbcChannel} {packet : Packet}
    (h : Handler.acknowledgePacket.settle chan packet = .ok chan') :
    ∃ n, chan' = { chan with nextSequenceAck := n } := by
  unfold Handler.acknowledgePacket.settle at h
  split at h
  · simp only [Result.bind_ok, Except.ok.injEq] at h
    obtain ⟨-, -, rfl⟩ := h
    exact ⟨_, rfl⟩
  · cases h
    exact ⟨_, rfl⟩

theorem settle_id {chan chan' : IbcChannel} {packet : Packet}
    (h : Handler.acknowledgePacket.settle chan packet = .ok chan') : chan'.id = chan.id := by
  obtain ⟨n, rfl⟩ := settle_eq h
  rfl

/-- The outputs of a datagram are of different classes, and each comes from an input or from the
counters of the input host. -/
theorem Executes.origin {d : DatagramHandler} (h : Executes P ctx signers d outs) :
    (outs.filterMap cls?).Nodup ∧ ∀ s ∈ outs, ∀ i, s.id? = some i → Origin ctx outs s := by
  cases h with
  | @createClient _ host _ t hhost _ _ =>
    have hu := updates_generateClientIdentifier host t
    exact ⟨by simp [cls?], .pair hhost hu (.inr ⟨host, _, hhost, List.mem_cons_self, hu, ⟨t, rfl⟩,
      ⟨t, _, Nat.lt_succ_self _, rfl⟩⟩)⟩
  | updateClient hclient _ _ =>
    exact ⟨by simp [cls?], .single (.of_input hclient rfl)⟩
  | @connOpenInit _ host _ hhost _ _ =>
    have hu := updates_generateConnectionIdentifier host
    exact ⟨by simp [cls?], .pair hhost hu (.inr ⟨host, _, hhost, List.mem_cons_self, hu, rfl,
      ⟨_, Nat.lt_succ_self _, rfl⟩⟩)⟩
  | @connOpenTry _ host _ _ _ _ _ hhost _ hprevious _ _ _ _ _ _ =>
    refine ⟨by simp [cls?], ?_⟩
    obtain ⟨-, rfl, rfl, -⟩ | ⟨prev, hprev, -, -, -, -, -, -, -, rfl, rfl, -⟩ :=
      Handler.connOpenTry_previous_ok hprevious
    · have hu := updates_generateConnectionIdentifier host
      exact .pair hhost hu (.inr ⟨host, _, hhost, List.mem_cons_self, hu, rfl,
        ⟨_, Nat.lt_succ_self _, rfl⟩⟩)
    · exact .pair hhost (updates_host_refl _) (.of_input hprev rfl)
  | connOpenAck hconn _ _ _ _ _ _ _ => exact ⟨by simp [cls?], .single (.of_input hconn rfl)⟩
  | connOpenConfirm hconn _ _ _ _ => exact ⟨by simp [cls?], .single (.of_input hconn rfl)⟩
  | @chanOpenInit _ host _ _ _ hhost _ _ _ _ =>
    have hu := updates_generateChannelIdentifier host
    exact ⟨by simp [cls?], .pair hhost hu (.inr ⟨host, _, hhost, List.mem_cons_self, hu, rfl,
      ⟨_, Nat.lt_succ_self _, rfl⟩⟩)⟩
  | @chanOpenTry _ host _ _ _ _ hhost _ _ _ _ _ _ _ _ =>
    have hu := updates_generateChannelIdentifier host
    exact ⟨by simp [cls?], .pair hhost hu (.inr ⟨host, _, hhost, List.mem_cons_self, hu, rfl,
      ⟨_, Nat.lt_succ_self _, rfl⟩⟩)⟩
  | chanOpenTryPrevious hhost _ _ _ hprevious _ _ _ _ _ _ _ _ =>
    exact ⟨by simp [cls?], .pair hhost (updates_host_refl _) (.of_input hprevious rfl)⟩
  | chanOpenAck hchan _ _ _ _ _ _ _ => exact ⟨by simp [cls?], .single (.of_input hchan rfl)⟩
  | chanOpenConfirm hchan _ _ _ _ _ _ _ => exact ⟨by simp [cls?], .single (.of_input hchan rfl)⟩
  | chanCloseInit hchan _ _ _ _ _ => exact ⟨by simp [cls?], .single (.of_input hchan rfl)⟩
  | chanCloseConfirm hchan _ _ _ _ _ _ _ => exact ⟨by simp [cls?], .single (.of_input hchan rfl)⟩
  | sendPacket _ _ heffect hsend => exact Origin.append heffect.bankOuts (.of_input hsend.input rfl)
  | recvPacket _ _ _ heffect hrecv =>
    have hid := receive_id hrecv.receive
    exact Origin.append heffect.bankOuts (.of_input hrecv.input hid)
  | acknowledgePacket _ _ _ _ heffect hacks =>
    have hid := settle_id hacks.settle
    exact Origin.append heffect.bankOuts (.of_input hacks.input hid)

/-- States of different classes that hosts own have different identifiers. -/
theorem ids_nodup {l : List ContractState} (hc : (l.filterMap cls?).Nodup)
    (ho : ∀ s ∈ l, ∀ i, s.id? = some i → ∃ h : Host, h.Owns s) : (l.filterMap id?).Nodup := by
  induction l with
  | nil => exact List.nodup_nil
  | cons s l ih =>
    have ih := fun hc => ih hc fun t ht => ho t (List.mem_cons_of_mem _ ht)
    cases hi : s.id? with
    | none =>
      rw [List.filterMap_cons_none hi]
      refine ih ?_
      cases hs : s.cls? with
      | none => rwa [List.filterMap_cons_none hs] at hc
      | some c => rw [List.filterMap_cons_some hs] at hc; exact (List.nodup_cons.1 hc).2
    | some i =>
      obtain ⟨h, hs⟩ := ho s List.mem_cons_self i hi
      have hcls : ∃ c, s.cls? = some c := by
        rcases hs.kind hi with ⟨e, -⟩ | ⟨e, -⟩ | ⟨e, -⟩ | ⟨e, -⟩ | ⟨e, -⟩ <;> exact ⟨_, e⟩
      obtain ⟨c, hcs⟩ := hcls
      rw [List.filterMap_cons_some hcs, List.nodup_cons] at hc
      rw [List.filterMap_cons_some hi, List.nodup_cons]
      refine ⟨fun hm => hc.1 ?_, ih hc.2⟩
      obtain ⟨t, ht, hti⟩ := List.mem_filterMap.1 hm
      obtain ⟨h', ht'⟩ := ho t (List.mem_cons_of_mem _ ht) i hti
      exact List.mem_filterMap.2 ⟨t, ht, (ht'.cls_eq hs hti hi).trans hcs⟩

end

end CordaIbc
