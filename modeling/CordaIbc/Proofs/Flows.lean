import CordaIbc.Proofs.Participants
import CordaIbc.Proofs.Picks

/-!
# What the contract makes of a flow (workflows/flows, contracts/Ibc.kt)

A flow runs the handler that the contract runs again, so the contract takes what a flow has built,
with three exceptions (`Flow.Fits`): the owner of a cash bank must be the node itself; the bank of a
transfer port is consumed whatever module the port is bound to, and `NopModule` puts none out; and
the vouchers of the vault may be of other hosts. On a reachable ledger these are all the exceptions
(`Flow.verify_iff`).
-/

namespace CordaIbc

open ChannelOuterClass (Packet Acknowledgement)
open StateClass ContractState Context

/-! ## Banks -/

namespace Ics20Cash
variable {P : Platform} {ctx ctx' : Context} {packet : Packet} {ack : Acknowledgement}

/-- A receipt puts the bank out. -/
theorem bank_of_onRecvPacket (h : onRecvPacket P ctx packet = .ok (ctx', ack)) :
    ∃ (bank : CashBank) (rest : List ContractState), Outputs ctx (.cashBank bank :: rest) ctx' := by
  simp only [onRecvPacket, Result.bind_ok] at h
  obtain ⟨data, -, receiver, -, bank, -, port, -, channel, -, h⟩ := h
  split at h
  · simp only [Result.bind_ok, Except.ok.injEq, Prod.mk.injEq] at h
    obtain ⟨-, -, cash, -, ctx₁, h₁, key, -, ctx₂, h₂, rfl, -⟩ := h
    obtain ⟨cs, ho, -⟩ := payCash_outputs h₂
    exact ⟨bank, cs, (addOutput_ibc (T := CashBank) rfl h₁).2.trans ho⟩
  · simp only [Result.bind_ok, Except.ok.injEq, Prod.mk.injEq] at h
    obtain ⟨-, -, port', -, channel', -, amount, -, ⟨bank', voucher⟩, -, ctx₁, h₁, ctx₂, h₂, rfl,
      -⟩ := h
    exact ⟨bank', _, addOutput_two rfl rfl h₁ h₂⟩

/-- So does an acknowledgement, unless it pays cash back. -/
theorem onAcknowledgePacket_bank (h : onAcknowledgePacket P ctx packet ack = .ok ctx')
    (hcash : ctx.getInputs Cash = []) :
    ∃ (bank : CashBank) (rest : List ContractState), Outputs ctx (.cashBank bank :: rest) ctx' := by
  cases ack with
  | notSet => cases h
  | result bytes =>
    simp only [onAcknowledgePacket, Result.bind_ok] at h
    obtain ⟨bank, -, h₁⟩ := h
    exact ⟨bank, [], (addOutput_ibc (T := CashBank) rfl h₁).2⟩
  | error message =>
    simp only [onAcknowledgePacket, refundTokens, Result.bind_ok] at h
    obtain ⟨data, -, sender, -, bank, -, port, -, channel, -, h⟩ := h
    split at h
    · -- there is no cash to take the sum of
      simp only [bankCash, hcash, Result.bind_ok] at h
      obtain ⟨_, ⟨owner, howner, -⟩, -⟩ := h
      exact absurd (single_ok.1 howner) (by simp)
    · simp only [Result.bind_ok] at h
      obtain ⟨-, -, amount, -, ⟨bank', voucher⟩, -, ctx₁, h₁, h₂⟩ := h
      exact ⟨bank', _, addOutput_two rfl rfl h₁ h₂⟩

end Ics20Cash

theorem Context.eq_of_getReference {ctx : Context} {T : Type} [StateClass T] {t t' : T}
    (h : ctx.getReference T = .ok t) (h' : up t' ∈ ctx.refStates) : t' = t := by
  have : t' ∈ ctx.getReferences T := mem_filterIsInstance.2 h'
  rw [getReference_ok.1 h] at this
  exact List.mem_singleton.1 this

/-- The type url of a packed transfer is not that of a packet. -/
def Packing.Typed (M : Packing) (P : Platform) : Prop :=
  ∀ msg packet, P.unpackPacket (M.transfer msg) ≠ .ok packet

namespace Flow

/-- One of the outputs is a bank. -/
def PutsBank (outs : List ContractState) : Prop := ∃ o ∈ outs, o.id? = some bankId

section
variable {P : Platform} {ctx : Context} {signers : List PublicKey} {outs : List ContractState}
  {packet : Packet} {m : Module} {ack : Acknowledgement}

theorem PutsBank.of_outputs {ctx' : Context} {o : ContractState} {rest : List ContractState}
    (houts : Outputs ctx outs ctx') (h : Outputs ctx (o :: rest) ctx') (ho : o.id? = some bankId) :
    PutsBank outs := by
  rw [houts.unique h]
  exact ⟨o, List.mem_cons_self, ho⟩

/-- A transfer module puts its bank out. -/
theorem putsBank_of_send {anyMsg : Any} {chan : IbcChannel}
    (h : SendEffect P ctx signers anyMsg chan packet m outs) (hm : m ≠ .nop) : PutsBank outs := by
  cases h with
  | nop _ => exact absurd rfl hm
  | ics20 => exact ⟨_, List.mem_singleton_self _, rfl⟩
  | ics20cash _ _ _ _ _ _ _ hdebit houts _ _ =>
    obtain ⟨bank', rest, ho, -⟩ := Ics20Cash.debit_outputs hdebit
    exact .of_outputs houts ho rfl

theorem putsBank_of_recv (h : RecvEffect P ctx packet m ack outs) (hm : m ≠ .nop) :
    PutsBank outs := by
  cases h with
  | nop => exact absurd rfl hm
  | ics20 => exact ⟨_, List.mem_singleton_self _, rfl⟩
  | ics20cash hrecv houts =>
    obtain ⟨bank, rest, ho⟩ := Ics20Cash.bank_of_onRecvPacket hrecv
    exact .of_outputs houts ho rfl

theorem putsBank_of_ack (h : AckEffect P ctx packet m ack outs) (hm : m ≠ .nop)
    (hcash : ctx.getInputs Cash = []) : PutsBank outs := by
  cases h with
  | nop => exact absurd rfl hm
  | ics20Result _ => exact ⟨_, List.mem_singleton_self _, rfl⟩
  | ics20Error => exact ⟨_, List.mem_singleton_self _, rfl⟩
  | ics20cash hsettle houts =>
    obtain ⟨bank, rest, ho⟩ := Ics20Cash.onAcknowledgePacket_bank hsettle hcash
    exact .of_outputs houts ho rfl

end

/-! ## What is picked -/

section
variable {P : Platform} {M : Packing} {hub : ServiceHub} {flow : Flow} {host : Found Host}
  {handler : DatagramHandler} {inputs refs : List StateAndRef} {s : StateAndRef} {b : StateRef}

/-- The flow may consume vouchers. -/
def IsTransfer : Flow → Prop
  | transfer _ _ => True
  | _ => False

/-- A state of the vault, of the base id unless it is a voucher that a transfer consumes. -/
structure Picked (hub : ServiceHub) (flow : Flow) (inputs : List StateAndRef) (b : StateRef)
    (s : StateAndRef) : Prop where
  mem : s ∈ hub.states
  base : ∀ i, s.state.data.ibc? = some i → i.baseId = b ∨
    (∃ v, s.state.data = .voucher v) ∧ s ∈ inputs ∧ flow.IsTransfer
  known : ∃ participants, s.state.data.participants? = some participants

theorem participants_of_ibc {o : ContractState} {i : IbcState} (h : o.ibc? = some i) :
    ∃ participants, o.participants? = some participants := by
  cases o <;> first | exact ⟨_, rfl⟩ | cases h

theorem Picked.of_has {T : Type} [StateClass T] {found : Found T} (h : hub.Has b found) :
    Picked hub flow inputs b found.stateAndRef := by
  obtain ⟨hmem, i, hi, hb⟩ := h
  refine ⟨hmem, fun j hj => .inl ?_, participants_of_ibc hi⟩
  rw [show found.stateAndRef.state.data = up found.data from rfl, hi] at hj
  cases hj
  exact hb

theorem Picked.of_cash {coins : List StateAndRef} (h : hub.Coins Cash coins) (hs : s ∈ coins) :
    Picked hub flow inputs b s := by
  obtain ⟨c, hc⟩ := h.data s hs
  refine ⟨h.mem s hs, fun i hi => ?_, by rw [hc]; exact ⟨_, rfl⟩⟩
  rw [hc] at hi
  cases hi

theorem BankOf.picked {port : String} {bank : List StateAndRef} (h : BankOf hub b port bank)
    (hs : s ∈ bank) : Picked hub flow inputs b s := by
  cases h with
  | none => exact absurd hs List.not_mem_nil
  | bank _ hbank =>
    rw [List.mem_singleton.1 hs]
    exact .of_has hbank
  | cashBank _ hbank =>
    rw [List.mem_singleton.1 hs]
    exact .of_has hbank

theorem Picks.picked (h : Picks P M hub flow host handler inputs refs) (hs : s ∈ inputs ++ refs) :
    Picked hub flow inputs host.data.baseId s := by
  have hbase : ∀ {b : StateRef}, hub.Has b host → host.data.baseId = b := by
    rintro b ⟨-, i, hi, hb⟩
    cases hi
    exact hb
  cases h with
  | clientCreate hhost =>
    rw [hbase hhost]
    simp only [List.append_nil, List.mem_singleton] at hs
    rw [hs]
    exact .of_has hhost
  | connOpenInit hhost hclient =>
    rw [hbase hhost]
    simp only [List.mem_append, List.mem_cons, List.not_mem_nil, or_false] at hs
    rcases hs with rfl | rfl
    · exact .of_has hhost
    · exact .of_has hclient
  | connOpenTry hhost hclient _ hconn =>
    rw [hbase hhost]
    simp only [List.mem_append, List.mem_cons, List.not_mem_nil, or_false, Option.mem_toList,
      Option.map_eq_some_iff] at hs
    rcases hs with (rfl | ⟨conn, hc, rfl⟩) | rfl
    · exact .of_has hhost
    · exact .of_has (hconn conn hc)
    · exact .of_has hclient
  | connOpenAck hhost hconn hclient | connOpenConfirm hhost hconn hclient =>
    rw [hbase hhost]
    simp only [List.mem_append, List.mem_cons, List.not_mem_nil, or_false] at hs
    rcases hs with rfl | rfl | rfl
    · exact .of_has hconn
    · exact .of_has hhost
    · exact .of_has hclient
  | chanOpenInit hhost hconn =>
    rw [hbase hhost]
    simp only [List.mem_append, List.mem_cons, List.not_mem_nil, or_false] at hs
    rcases hs with rfl | rfl
    · exact .of_has hhost
    · exact .of_has hconn
  | chanOpenTry hhost hconn hclient _ hchan =>
    rw [hbase hhost]
    simp only [List.mem_append, List.mem_cons, List.not_mem_nil, or_false, Option.mem_toList,
      Option.map_eq_some_iff] at hs
    rcases hs with (rfl | ⟨chan, hc, rfl⟩) | rfl | rfl
    · exact .of_has hhost
    · exact .of_has (hchan chan hc)
    · exact .of_has hclient
    · exact .of_has hconn
  | chanOpenAck hhost hchan hconn hclient | chanOpenConfirm hhost hchan hconn hclient
  | chanCloseConfirm hhost hchan hconn hclient | sendPacket hhost hchan hconn hclient =>
    rw [hbase hhost]
    simp only [List.mem_append, List.mem_cons, List.not_mem_nil, or_false] at hs
    rcases hs with rfl | rfl | rfl | rfl
    · exact .of_has hchan
    · exact .of_has hhost
    · exact .of_has hclient
    · exact .of_has hconn
  | chanCloseInit hhost hchan hconn =>
    rw [hbase hhost]
    simp only [List.mem_append, List.mem_cons, List.not_mem_nil, or_false] at hs
    rcases hs with rfl | rfl | rfl
    · exact .of_has hchan
    · exact .of_has hhost
    · exact .of_has hconn
  | recvPacket hhost hchan hconn hclient hbank hcoins =>
    rw [hbase hhost]
    simp only [List.mem_append, List.mem_cons, List.not_mem_nil, or_false] at hs
    rcases hs with ((hs | hs) | rfl) | rfl | rfl | rfl
    · exact hbank.picked hs
    · exact .of_cash hcoins hs
    · exact .of_has hchan
    · exact .of_has hhost
    · exact .of_has hconn
    · exact .of_has hclient
  | acknowledgePacket hhost hchan hconn hclient hbank =>
    rw [hbase hhost]
    simp only [List.mem_append, List.mem_cons, List.not_mem_nil, or_false] at hs
    rcases hs with (rfl | hs) | rfl | rfl | rfl
    · exact .of_has hchan
    · exact hbank.picked hs
    · exact .of_has hhost
    · exact .of_has hclient
    · exact .of_has hconn
  | sendTransfer hhost hchan hconn hclient hbank =>
    rw [hbase hhost]
    simp only [List.mem_append, List.mem_cons, List.not_mem_nil, or_false] at hs
    rcases hs with (rfl | rfl) | rfl | rfl | rfl
    · exact .of_has hchan
    · exact .of_has hbank
    · exact .of_has hhost
    · exact .of_has hclient
    · exact .of_has hconn
  | transfer hhost hchan hconn hclient hbank hcoins =>
    rw [hbase hhost]
    simp only [List.mem_append, List.mem_cons, List.not_mem_nil, or_false] at hs
    rcases hs with ((rfl | rfl) | hs) | rfl | rfl | rfl
    · exact .of_has hchan
    · exact .of_has hbank
    · rcases hcoins with hcoins | hcoins
      · exact .of_cash hcoins hs
      · obtain ⟨v, hv⟩ := hcoins.data s hs
        exact ⟨hcoins.mem s hs, fun i _ => .inr ⟨⟨v, hv⟩, List.mem_append_right _ hs, trivial⟩,
          by rw [hv]; exact ⟨_, rfl⟩⟩
    · exact .of_has hhost
    · exact .of_has hclient
    · exact .of_has hconn

/-- One reference of the vault, one state. -/
theorem ref_ne {t : StateAndRef} (hs : s ∈ hub.states) (ht : t ∈ hub.states)
    (hne : s.state.data ≠ t.state.data) : s.ref ≠ t.ref := fun hr =>
  hne (by rw [List.inj_on_of_nodup_map hub.distinct hs ht hr])

theorem Picks.nodup (h : Picks P M hub flow host handler inputs refs) :
    (inputs.map (·.ref)).Nodup := by
  have htwo : ∀ {s t : StateAndRef}, s ∈ hub.states → t ∈ hub.states →
      s.state.data ≠ t.state.data → ([s, t].map (·.ref)).Nodup := by
    intro s t hs ht hne
    simp [ref_ne hs ht hne]
  -- coins after states of other classes
  have hcoins : ∀ {T : Type} [StateClass T] {coins rest : List StateAndRef}, hub.Coins T coins →
      (rest.map (·.ref)).Nodup → (∀ s ∈ rest, s ∈ hub.states) →
      (∀ s ∈ rest, ∀ t : T, s.state.data ≠ up t) → ((rest ++ coins).map (·.ref)).Nodup := by
    intro T _ coins rest hc hrest hmem hclass
    rw [List.map_append]
    refine List.nodup_append.2 ⟨hrest, hc.nodup, ?_⟩
    intro r hr r' hr'
    obtain ⟨s, hs, rfl⟩ := List.mem_map.1 hr
    obtain ⟨t, ht, rfl⟩ := List.mem_map.1 hr'
    obtain ⟨c, hcd⟩ := hc.data t ht
    exact ref_ne (hmem s hs) (hc.mem t ht) (by rw [hcd]; exact hclass s hs c)
  -- a bank and a channel
  have hbank : ∀ {bank : List StateAndRef} {port : String} {chan : Found IbcChannel} {b : StateRef},
      BankOf hub b port bank → hub.Has b chan →
      ((chan.stateAndRef :: bank).map (·.ref)).Nodup ∧
        ∀ s ∈ chan.stateAndRef :: bank, s ∈ hub.states ∧ ∀ c : Cash, s.state.data ≠ .cash c := by
    rintro bank port chan b hb ⟨hchan, -⟩
    cases hb with
    | none => simpa using ⟨hchan, nofun⟩
    | bank _ hbank =>
      refine ⟨htwo hchan hbank.1 nofun, fun s hs => ?_⟩
      simp only [List.mem_cons, List.not_mem_nil, or_false] at hs
      rcases hs with rfl | rfl
      · exact ⟨hchan, nofun⟩
      · exact ⟨hbank.1, nofun⟩
    | cashBank _ hbank =>
      refine ⟨htwo hchan hbank.1 nofun, fun s hs => ?_⟩
      simp only [List.mem_cons, List.not_mem_nil, or_false] at hs
      rcases hs with rfl | rfl
      · exact ⟨hchan, nofun⟩
      · exact ⟨hbank.1, nofun⟩
  cases h with
  | clientCreate | connOpenInit | connOpenAck | connOpenConfirm | chanOpenInit | chanOpenAck
  | chanOpenConfirm | chanCloseInit | chanCloseConfirm | sendPacket => exact List.nodup_singleton _
  | @connOpenTry _ _ _ _ conn hhost _ _ hconn =>
    cases conn with
    | none => exact List.nodup_singleton _
    | some conn => exact htwo hhost.1 (hconn conn rfl).1 nofun
  | @chanOpenTry _ _ _ _ _ chan hhost _ _ _ hchan =>
    cases chan with
    | none => exact List.nodup_singleton _
    | some chan => exact htwo hhost.1 (hchan chan rfl).1 nofun
  | @recvPacket _ _ _ chan _ _ bank coins _ hchan _ _ hb hc =>
    obtain ⟨hnodup, hmem⟩ := hbank hb hchan
    have hperm : (bank ++ coins ++ [chan.stateAndRef]).Perm (chan.stateAndRef :: bank ++ coins) :=
      List.perm_append_singleton _ _
    exact (hperm.map _).nodup_iff.2 (hcoins hc hnodup (fun s hs => (hmem s hs).1)
      fun s hs => (hmem s hs).2)
  | acknowledgePacket _ hchan _ _ hb => exact (hbank hb hchan).1
  | sendTransfer _ hchan _ _ hb => exact htwo hchan.1 hb.1 nofun
  | transfer _ hchan _ _ hb hc =>
    have hnodup := htwo hchan.1 hb.1 nofun
    rcases hc with hc | hc
    · refine hcoins hc hnodup (fun s hs => ?_) fun s hs => ?_ <;>
        simp only [List.mem_cons, List.not_mem_nil, or_false] at hs <;> rcases hs with rfl | rfl
      · exact hchan.1
      · exact hb.1
      · exact nofun
      · exact nofun
    · refine hcoins hc hnodup (fun s hs => ?_) fun s hs => ?_ <;>
        simp only [List.mem_cons, List.not_mem_nil, or_false] at hs <;> rcases hs with rfl | rfl
      · exact hchan.1
      · exact hb.1
      · exact nofun
      · exact nofun

/-! ## What is put out -/

/-- The port is no transfer port, or its module is one that puts a bank out. -/
def Settles (hub : ServiceHub) (b : StateRef) (port : String) : Prop :=
  port = "transfer" ∨ port = "transfer-old" → ∀ host p, hub.queryIbcHost b = some host →
    p.id = port → host.data.modules.lookup p ≠ some .nop

/-- What the contract asks of a flow over what the flow itself checks. -/
def Fits (hub : ServiceHub) (builder : TransactionBuilder) : Flow → Prop
  | cashBankCreate _ owner => owner.owningKey = hub.ourIdentity.owningKey
  | recvPacket b msg => Settles hub b msg.packet.destinationPort
  | acknowledgePacket b msg => Settles hub b msg.packet.destinationPort
  | transfer b _ => ∀ s ∈ builder.inputs, ∀ v, s.state.data = .voucher v → v.baseId = b
  | _ => True

theorem BankOf.id {port : String} {bank : List StateAndRef} (h : BankOf hub b port bank)
    (hs : s ∈ bank) : s.state.data.id? = some bankId ∧ (port = "transfer" ∨ port = "transfer-old") := by
  cases h with
  | none => exact absurd hs List.not_mem_nil
  | bank hport _ =>
    rw [List.mem_singleton.1 hs]
    exact ⟨rfl, .inr hport⟩
  | cashBank hport _ =>
    rw [List.mem_singleton.1 hs]
    exact ⟨rfl, .inl hport⟩

theorem BankOf.no_cash {port : String} {bank : List StateAndRef} (h : BankOf hub b port bank)
    (chan : Found IbcChannel) (refStates : List ContractState) :
    (Context.create ((chan.stateAndRef :: bank).map (·.state.data)) refStates).getInputs Cash = [] := by
  cases h with
  | none => rfl
  | bank => rfl
  | cashBank => rfl

/-- A channel that is consumed has a successor among the outputs. -/
theorem channel_next {ctx : Context} {o : List ContractState} {chan chan₀ chan' : IbcChannel}
    {i : Identifier} (hin : ctx.getInput IbcChannel = .ok chan₀)
    (hchan : ContractState.channel chan ∈ ctx.inStates) (hid : chan'.id = chan₀.id)
    (hi : (ContractState.channel chan).id? = some i) :
    ∃ s ∈ o ++ [.channel chan'], s.id? = some i := by
  obtain rfl := eq_of_getInput hin hchan
  exact ⟨_, List.mem_append_right _ (List.mem_singleton_self _), (congrArg some hid).trans hi⟩

theorem Picks.next {outs : List ContractState} {builder : TransactionBuilder}
    (h : Picks P M hub flow host handler inputs refs) (htyped : M.Typed P)
    (hq : hub.queryIbcHost host.data.baseId = some host) (hfits : flow.Fits hub builder)
    (hexec : Executes P (.create (inputs.map (·.state.data)) (refs.map (·.state.data)))
      [hub.ourIdentity.owningKey] handler outs) :
    ∀ s ∈ inputs, ∀ i, s.state.data.id? = some i → ∃ o ∈ outs, o.id? = some i := by
  intro s hs i hi
  cases h with
  | clientCreate =>
    rw [List.mem_singleton.1 hs] at hi
    cases hexec with
    | createClient => exact ⟨_, List.mem_cons_self, hi⟩
  | connOpenInit =>
    rw [List.mem_singleton.1 hs] at hi
    cases hexec with
    | connOpenInit => exact ⟨_, List.mem_cons_self, hi⟩
  | chanOpenInit =>
    rw [List.mem_singleton.1 hs] at hi
    cases hexec with
    | chanOpenInit => exact ⟨_, List.mem_cons_self, hi⟩
  | connOpenTry _ _ hnone _ =>
    cases hexec with
    | connOpenTry _ _ hprevious =>
      rcases List.mem_cons.1 hs with rfl | hs
      · exact ⟨_, List.mem_cons_self, hi⟩
      · obtain ⟨conn, hconn, rfl⟩ := Option.map_eq_some_iff.1 (Option.mem_toList.1 hs)
        refine ⟨_, List.mem_cons_of_mem _ (List.mem_singleton_self _), ?_⟩
        rcases Handler.connOpenTry_previous_ok hprevious with ⟨hno, -, -, -⟩ |
          ⟨prev, hprev, -, -, -, -, -, -, -, -, rfl, -⟩
        · rw [hnone hno] at hconn
          cases hconn
        · obtain rfl := eq_of_getInput hprev
            (List.mem_map_of_mem (f := fun s : StateAndRef => s.state.data)
              (List.mem_cons_of_mem _ hs))
          exact hi
  | chanOpenTry _ _ _ hnone _ =>
    cases hexec with
    | chanOpenTry _ _ _ hnew =>
      rw [hnone hnew] at hs
      rw [List.mem_singleton.1 hs] at hi
      exact ⟨_, List.mem_cons_self, hi⟩
    | chanOpenTryPrevious _ _ _ _ hprevious =>
      rcases List.mem_cons.1 hs with rfl | hs
      · exact ⟨_, List.mem_cons_self, hi⟩
      · obtain ⟨chan, -, rfl⟩ := Option.map_eq_some_iff.1 (Option.mem_toList.1 hs)
        obtain rfl := eq_of_getInput hprevious
          (List.mem_map_of_mem (f := fun s : StateAndRef => s.state.data)
            (List.mem_cons_of_mem _ hs))
        exact ⟨_, List.mem_cons_of_mem _ (List.mem_singleton_self _), hi⟩
  | connOpenAck =>
    rw [List.mem_singleton.1 hs] at hi
    cases hexec with
    | connOpenAck hconn =>
      obtain rfl := eq_of_getInput hconn List.mem_cons_self
      exact ⟨_, List.mem_cons_self, hi⟩
  | connOpenConfirm =>
    rw [List.mem_singleton.1 hs] at hi
    cases hexec with
    | connOpenConfirm hconn =>
      obtain rfl := eq_of_getInput hconn List.mem_cons_self
      exact ⟨_, List.mem_cons_self, hi⟩
  | chanOpenAck =>
    rw [List.mem_singleton.1 hs] at hi
    cases hexec with
    | chanOpenAck hchan => exact channel_next (o := []) hchan List.mem_cons_self rfl hi
  | chanOpenConfirm =>
    rw [List.mem_singleton.1 hs] at hi
    cases hexec with
    | chanOpenConfirm hchan => exact channel_next (o := []) hchan List.mem_cons_self rfl hi
  | chanCloseInit =>
    rw [List.mem_singleton.1 hs] at hi
    cases hexec with
    | chanCloseInit hchan => exact channel_next (o := []) hchan List.mem_cons_self rfl hi
  | chanCloseConfirm =>
    rw [List.mem_singleton.1 hs] at hi
    cases hexec with
    | chanCloseConfirm hchan => exact channel_next (o := []) hchan List.mem_cons_self rfl hi
  | sendPacket =>
    rw [List.mem_singleton.1 hs] at hi
    cases hexec with
    | sendPacket _ _ _ hsend => exact channel_next hsend.input List.mem_cons_self rfl hi
  | @recvPacket b msg _ chan _ _ bank coins hhost _ _ _ hbank hcoins =>
    cases hexec with
    | @recvPacket _ host₀ port _ chan' m _ _ href hport hmodule heffect hrecv =>
      have hmem := List.mem_map_of_mem (f := fun s : StateAndRef => s.state.data) hs
      rcases List.mem_append.1 hs with hs | hs
      · rcases List.mem_append.1 hs with hs | hs
        · -- a bank is picked for a transfer port, whose module puts it out
          obtain ⟨hid, htransfer⟩ := hbank.id hs
          rw [hid] at hi
          cases hi
          have hm : m ≠ .nop := by
            rintro rfl
            obtain ⟨-, j, hj, hb⟩ := hhost
            cases hj
            obtain rfl := eq_of_getReference href List.mem_cons_self
            obtain rfl : host.data.baseId = b := hb
            exact hfits htransfer host port hq hport (notNull_ok.1 hmodule)
          obtain ⟨o, ho, hoid⟩ := putsBank_of_recv heffect hm
          exact ⟨o, List.mem_append_left _ ho, hoid⟩
        · obtain ⟨c, hc⟩ := hcoins.data s hs
          rw [hc] at hi
          cases hi
      · rw [List.mem_singleton.1 hs] at hi hmem
        have hid := receive_id hrecv.receive
        exact channel_next hrecv.input hmem hid hi
  | @acknowledgePacket b msg _ chan _ _ bank hhost _ _ _ hbank =>
    cases hexec with
    | @acknowledgePacket _ host₀ port _ chan' m _ _ href hport hmodule _ heffect hacks =>
      have hmem := List.mem_map_of_mem (f := fun s : StateAndRef => s.state.data) hs
      rcases List.mem_cons.1 hs with rfl | hs
      · have hid := settle_id hacks.settle
        exact channel_next hacks.input hmem hid hi
      · obtain ⟨hid, htransfer⟩ := hbank.id hs
        rw [hid] at hi
        cases hi
        have hm : m ≠ .nop := by
          rintro rfl
          obtain ⟨-, j, hj, hb⟩ := hhost
          cases hj
          obtain rfl := eq_of_getReference href List.mem_cons_self
          obtain rfl : host.data.baseId = b := hb
          exact hfits htransfer host port hq hport (notNull_ok.1 hmodule)
        obtain ⟨o, ho, hoid⟩ := putsBank_of_ack heffect hm (hbank.no_cash chan _)
        exact ⟨o, List.mem_append_left _ ho, hoid⟩
  | sendTransfer =>
    cases hexec with
    | @sendPacket _ _ _ _ m _ _ _ heffect hsend =>
      have hm : m ≠ .nop := by
        rintro rfl
        cases heffect with
        | nop hmsg => exact htyped _ _ hmsg
      have hmem := List.mem_map_of_mem (f := fun s : StateAndRef => s.state.data) hs
      simp only [List.mem_cons, List.not_mem_nil, or_false] at hs
      rcases hs with rfl | rfl
      · exact channel_next hsend.input hmem rfl hi
      · cases hi
        obtain ⟨o, ho, hoid⟩ := putsBank_of_send heffect hm
        exact ⟨o, List.mem_append_left _ ho, hoid⟩
  | transfer _ _ _ _ _ hcoins =>
    cases hexec with
    | @sendPacket _ _ _ _ m _ _ _ heffect hsend =>
      have hm : m ≠ .nop := by
        rintro rfl
        cases heffect with
        | nop hmsg => exact htyped _ _ hmsg
      have hmem := List.mem_map_of_mem (f := fun s : StateAndRef => s.state.data) hs
      simp only [List.mem_append, List.mem_cons, List.not_mem_nil, or_false] at hs
      rcases hs with (rfl | rfl) | hs
      · exact channel_next hsend.input hmem rfl hi
      · cases hi
        obtain ⟨o, ho, hoid⟩ := putsBank_of_send heffect hm
        exact ⟨o, List.mem_append_left _ ho, hoid⟩
      · rcases hcoins with hc | hc
        · obtain ⟨c, hc⟩ := hc.data s hs
          rw [hc] at hi
          cases hi
        · obtain ⟨v, hv⟩ := hc.data s hs
          rw [hv] at hi
          cases hi

end

/-! ## Verification -/

/-- The contract accepts a datagram whose inputs go on and whose states have one base id. -/
theorem verifyResults_of_executes {P : Platform} {ins refs outs : List ContractState}
    {signers : List PublicKey} {handler : DatagramHandler} {ctx : Context} {b : StateRef}
    (hexec : Executes P (.create ins refs) signers handler outs)
    (houts : Outputs (.create ins refs) outs ctx) (hin : ∃ s ∈ ins, ∃ i, s.key? = some (b, i))
    (hnext : ∀ s ∈ ins, ∀ i, s.id? = some i → ∃ o ∈ outs, o.id? = some i)
    (hbase : ∀ s ∈ ins ++ refs, ∀ i, s.ibc? = some i → i.baseId = b) :
    ctx.verifyResults P.toCrypto ctx.outStates.states = .ok () := by
  have hstates : ctx.outStates.states = outs := houts.outStates
  have hins : ctx.inIbcStates = ins.filterMap (·.ibc?) := congrArg _ houts.inStates
  have hrefs : ctx.refIbcStates = refs.filterMap (·.ibc?) := congrArg _ houts.refStates
  have houtIbc : ctx.outIbcStates = outs.filterMap (·.ibc?) := congrArg _ hstates
  have hout : ∀ o ∈ outs, ∀ i, o.ibc? = some i → i.baseId = b := by
    intro o ho i hi
    obtain ⟨s, hs, j, hj, -, hb, -⟩ := hexec.covers o ho i hi
    rw [← hb]
    exact hbase s (List.mem_append_left _ hs) j hj
  have hsucc : ∀ s ∈ ins, ∀ i, s.ibc? = some i → i.fungible = false →
      ∃ j ∈ outs.filterMap (·.ibc?), j.fungible = false ∧ j.id = i.id := by
    intro s hs i hi hf
    obtain ⟨o, ho, hoid⟩ := hnext s hs i.id (id_of_key (key_eq_some.2 ⟨i, hi, hf, rfl, rfl⟩))
    obtain ⟨b', hk⟩ := key_of_id hoid
    obtain ⟨j, hj, hjf, -, hji⟩ := key_eq_some.1 hk
    exact ⟨j, List.mem_filterMap.2 ⟨o, ho, hj⟩, hjf, hji⟩
  refine Context.verifyResults_of ⟨rfl, fun _ h => h, ?_, b, ?_, ?_, ?_, ?_⟩ <;>
    simp only [hins, hrefs, houtIbc]
  · intro i hi hf
    obtain ⟨s, hs, he⟩ := List.mem_filterMap.1 hi
    obtain ⟨j, hj, hjf, hji⟩ := hsucc s hs i he hf
    exact ⟨j, hj, hjf, congrArg (fun k : Identifier => P.toCrypto.nameUUIDFromBytes k.id) hji⟩
  · obtain ⟨s, hs, i, hk⟩ := hin
    obtain ⟨t, ht, hf, -, -⟩ := key_eq_some.1 hk
    obtain ⟨j, hj, -, -⟩ := hsucc s hs t ht hf
    obtain ⟨o, ho, hoj⟩ := List.mem_filterMap.1 hj
    exact ⟨j, hj, hout o ho j hoj⟩
  · intro t ht
    obtain ⟨s, hs, he⟩ := List.mem_filterMap.1 ht
    exact hbase s (List.mem_append_left _ hs) t he
  · intro t ht
    obtain ⟨s, hs, he⟩ := List.mem_filterMap.1 ht
    exact hbase s (List.mem_append_right _ hs) t he
  · intro t ht
    obtain ⟨o, ho, he⟩ := List.mem_filterMap.1 ht
    exact hout o ho t he

section
variable {P : Platform} {M : Packing} {hub : ServiceHub} {flow : Flow} {host : Found Host}
  {handler : DatagramHandler} {inputs refs : List StateAndRef} {builder : TransactionBuilder}
  {id : SecureHash} {l l' : Ledger}

theorem Picks.base (h : Picks P M hub flow host handler inputs refs)
    (hfits : ∀ b msg, flow = .transfer b msg → ∀ s ∈ inputs, ∀ v, s.state.data = .voucher v →
      v.baseId = b) :
    ∀ s ∈ inputs ++ refs, ∀ i, s.state.data.ibc? = some i → i.baseId = host.data.baseId := by
  intro s hs i hi
  rcases (h.picked hs).base i hi with hb | ⟨⟨v, hv⟩, hin, hflow⟩
  · exact hb
  · cases h with
    | @transfer b _ _ _ _ _ _ _ hhost =>
      obtain ⟨-, j, hj, hb⟩ := hhost
      cases hj
      rw [hv] at hi
      cases hi
      exact (hfits b _ rfl s hin v hv).trans (Eq.symm hb)
    | _ => exact hflow.elim

theorem Picks.exists_key (h : Picks P M hub flow host handler inputs refs) :
    ∃ s ∈ inputs, ∃ i, s.state.data.key? = some (host.data.baseId, i) := by
  have hkey : ∀ s ∈ inputs, ∀ i, s.state.data.ibc? = some i → i.fungible = false →
      ∃ s ∈ inputs, ∃ i, s.state.data.key? = some (host.data.baseId, i) := by
    intro s hs i hi hf
    rcases (h.picked (List.mem_append_left _ hs)).base i hi with hb | ⟨⟨v, hv⟩, -⟩
    · exact ⟨s, hs, i.id, key_eq_some.2 ⟨i, hi, hf, hb, rfl⟩⟩
    · rw [hv] at hi
      cases hi
      cases hf
  cases h with
  | recvPacket => exact hkey _ (List.mem_append_right _ (List.mem_singleton_self _)) _ rfl rfl
  | _ => exact hkey _ List.mem_cons_self _ rfl rfl

section
variable (hbuilt : builder.Built P hub handler inputs refs)
include hbuilt

theorem commands_of_built (id : SecureHash) : (builder.toLedgerTransaction id).miscCommands = [] ∧
    (builder.toLedgerTransaction id).datagramHandlerCommands =
      [(handler, [hub.ourIdentity.owningKey])] := by
  obtain ⟨others, hothers, hcmd⟩ := hbuilt.commands
  have hnone : ∀ {α : Type} (f : CommandWithParties → Option α),
      (∀ c, (∃ name, c.value = .other name) → f c = none) → others.filterMap f = [] := fun f hf =>
    List.filterMap_eq_nil_iff.2 fun c hc => hf c (hothers c hc)
  constructor
  · show List.filterMap _ builder.commands = _
    rw [hcmd, List.filterMap_append, hnone _ fun c ⟨_, hc⟩ => by simp only [hc]]
    rfl
  · show List.filterMap _ builder.commands = _
    rw [hcmd, List.filterMap_append, hnone _ fun c ⟨_, hc⟩ => by simp only [hc]]
    rfl

/-- The contract runs the handler again, and compares the outputs with themselves. -/
theorem verify_of_built (id : SecureHash) : ∃ ctx, handler.execute P
      (.create (inputs.map (·.state.data)) (refs.map (·.state.data)))
      [hub.ourIdentity.owningKey] = .ok ctx ∧
    Ibc.verify P (builder.toLedgerTransaction id) =
      ctx.verifyResults P.toCrypto ctx.outStates.states := by
  obtain ⟨ctx, hexec, hout⟩ := hbuilt.exec
  obtain ⟨hmisc, hdatagram⟩ := commands_of_built hbuilt id
  refine ⟨ctx, hexec, ?_⟩
  unfold Ibc.verify
  rw [hmisc, hdatagram]
  show (handler.execute P (.create (builder.inputs.map _) (builder.references.map _)) _ >>= _) = _
  rw [hbuilt.inputs_eq, hbuilt.references_eq, hexec, Result.ok_bind]
  show ctx.verifyResults P.toCrypto builder.outputs = _
  rw [hout]

end

/-- What a flow with a datagram has built is accepted if it fits. -/
theorem RunsDatagram.verify (h : flow.RunsDatagram P M hub builder host handler inputs refs)
    (htyped : M.Typed P) (hfits : flow.Fits hub builder) :
    Ibc.verify P (builder.toLedgerTransaction id) = .ok () := by
  obtain ⟨ctx, hexec, hverify⟩ := verify_of_built h.built id
  obtain ⟨outs, hexecutes, houts⟩ := executes_of_ok hexec
  rw [hverify]
  have hbase := h.picks.base (by
    rintro b msg rfl s hs v hv
    exact hfits s (by rwa [h.built.inputs_eq]) v hv)
  refine verifyResults_of_executes (b := host.data.baseId) hexecutes houts ?_ ?_ ?_
  · obtain ⟨s, hs, i, hk⟩ := h.picks.exists_key
    exact ⟨_, List.mem_map_of_mem hs, i, hk⟩
  · intro o ho i hi
    obtain ⟨s, hs, rfl⟩ := List.mem_map.1 ho
    exact h.picks.next htyped h.host_eq hfits hexecutes s hs i hi
  · intro o ho i hi
    rw [← List.map_append] at ho
    obtain ⟨s, hs, rfl⟩ := List.mem_map.1 ho
    exact hbase s hs i hi

theorem RunsMisc.verify_iff {command : MiscCommands} {outputs : List ContractState}
    (h : flow.RunsMisc hub builder command inputs outputs) :
    Ibc.verify P (builder.toLedgerTransaction id) = .ok () ↔ flow.Fits hub builder := by
  obtain ⟨hsets, hin, href, hout, -, hcmd⟩ := h
  obtain ⟨notary, ins, refs, outs, commands⟩ := builder
  subst hin href hout hcmd
  have hverify : ∀ (command : MiscCommands) (ins : List StateAndRef) (outs : List ContractState),
      Ibc.verify P (TransactionBuilder.toLedgerTransaction ⟨notary, ins, [], outs,
        [⟨.misc command, [hub.ourIdentity.owningKey]⟩]⟩ id) =
      command.verify (TransactionBuilder.toLedgerTransaction ⟨notary, ins, [], outs,
        [⟨.misc command, [hub.ourIdentity.owningKey]⟩]⟩ id) [hub.ourIdentity.owningKey] :=
    fun _ _ _ => rfl
  rw [hverify]
  cases hsets with
  | genesisCreate => exact ⟨fun _ => trivial, fun _ => rfl⟩
  | hostCreate _ hcreate =>
    refine ⟨fun _ => trivial, fun _ => ?_⟩
    simp only [MiscCommands.verify, Result.bind_ok, require_ok, single_ok]
    exact ⟨(), rfl, (), rfl, _, rfl, _, rfl, _, hcreate, rfl⟩
  | bankCreate _ hcreate =>
    refine ⟨fun _ => trivial, fun _ => ?_⟩
    simp only [MiscCommands.verify, Result.bind_ok, require_ok, single_ok]
    exact ⟨(), rfl, (), rfl, _, rfl, _, rfl, _, rfl, _, hcreate, rfl⟩
  | cashBankCreate _ hcreate =>
    simp only [MiscCommands.verify, Result.bind_ok, require_ok, single_ok]
    constructor
    · rintro ⟨-, -, -, -, _, -, _, -, _, -, _, -, -, hkey, -⟩
      exact List.mem_singleton.1 hkey
    · intro hkey
      exact ⟨(), rfl, (), rfl, _, rfl, _, rfl, _, rfl, _, hcreate, (), List.mem_singleton.2 hkey, rfl⟩
  | fundAllocate _ =>
    refine ⟨fun _ => trivial, fun _ => ?_⟩
    simp only [MiscCommands.verify, Result.bind_ok, require_ok, single_ok]
    exact ⟨(), rfl, (), rfl, _, rfl, _, rfl, rfl⟩

end

end Flow

end CordaIbc
