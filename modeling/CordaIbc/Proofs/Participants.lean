import CordaIbc.Nodes
import CordaIbc.Proofs.Projection

/-!
# The participants and the notary of a host

Every state of a host has the participants of the host, so the vaults of the same nodes hold them
all, and it is under the notary that the host names (`Ledger.Homogeneous`). A datagram hands both on
from what it consumes (`Executes.covers`).
-/

namespace CordaIbc

open StateClass ContractState

/-! ## Datagrams -/

/-- One of the states that is not fungible has the base id of this one and, unless this one is
fungible, its participants. -/
def ContractState.CoveredBy (ins : List ContractState) (o : ContractState) : Prop :=
  ∀ i, o.ibc? = some i → ∃ s ∈ ins, ∃ j, s.ibc? = some j ∧ j.fungible = false ∧
    j.baseId = i.baseId ∧ (i.fungible = false → o.participants? = s.participants?)

namespace Context
variable {ctx : Context} {o : ContractState}

/-- What the datagram consumes covers the output. -/
def Covers (ctx : Context) (o : ContractState) : Prop := o.CoveredBy ctx.inStates

theorem Covers.of_input {T : Type} [StateClass T] {t : T} {j : IbcState}
    (h : ctx.getInput T = .ok t) (ht : (up t).ibc? = some j) (hf : j.fungible = false)
    (ho : ∀ i, o.ibc? = some i → j.baseId = i.baseId ∧
      (i.fungible = false → o.participants? = (up t).participants?)) : ctx.Covers o :=
  fun i hi => ⟨up t, mem_of_getInput h, j, ht, hf, ho i hi⟩

theorem Covers.cash (c : Cash) : ctx.Covers (.cash c) := nofun

theorem Covers.host {host host' : Host} (h : ctx.getInput Host = .ok host)
    (hb : host'.baseId = host.baseId) (hp : host'.participants = host.participants) :
    ctx.Covers (.host host') := by
  refine .of_input h rfl rfl ?_
  rintro _ ⟨⟩
  exact ⟨hb.symm, fun _ => congrArg some hp⟩

theorem Covers.bank {bank bank' : Bank} (h : ctx.getInput Bank = .ok bank)
    (hb : bank'.baseId = bank.baseId) (hp : bank'.participants = bank.participants) :
    ctx.Covers (.bank bank') := by
  refine .of_input h rfl rfl ?_
  rintro _ ⟨⟩
  exact ⟨hb.symm, fun _ => congrArg some hp⟩

theorem Covers.cashBank {bank bank' : CashBank} (h : ctx.getInput CashBank = .ok bank)
    (hb : bank'.baseId = bank.baseId) (hp : bank'.participants = bank.participants) :
    ctx.Covers (.cashBank bank') := by
  refine .of_input h rfl rfl ?_
  rintro _ ⟨⟩
  exact ⟨hb.symm, fun _ => congrArg some hp⟩

theorem Covers.voucher {bank : CashBank} {v : Voucher} (h : ctx.getInput CashBank = .ok bank)
    (hb : v.baseId = bank.baseId) : ctx.Covers (.voucher v) := by
  refine .of_input h rfl rfl ?_
  rintro _ ⟨⟩
  exact ⟨hb.symm, nofun⟩

theorem Covers.channel {chan chan' : IbcChannel} (h : ctx.getInput IbcChannel = .ok chan)
    (hb : chan'.baseId = chan.baseId) (hp : chan'.participants = chan.participants) :
    ctx.Covers (.channel chan') := by
  refine .of_input h rfl rfl ?_
  rintro _ ⟨⟩
  exact ⟨hb.symm, fun _ => congrArg some hp⟩

theorem Covers.connection {conn conn' : IbcConnection} (h : ctx.getInput IbcConnection = .ok conn)
    (hb : conn'.baseId = conn.baseId) (hp : conn'.participants = conn.participants) :
    ctx.Covers (.connection conn') := by
  refine .of_input h rfl rfl ?_
  rintro _ ⟨⟩
  exact ⟨hb.symm, fun _ => congrArg some hp⟩

/-- What a host creates has its base id and participants. -/
theorem Covers.created {host : Host} {i : IbcState} (h : ctx.getInput Host = .ok host)
    (hi : o.ibc? = some i) (hb : i.baseId = host.baseId)
    (hp : o.participants? = some host.participants) : ctx.Covers o := by
  refine .of_input h rfl rfl fun j hj => ?_
  rw [hi] at hj
  cases hj
  exact ⟨hb.symm, fun _ => hp⟩

end Context

namespace Ics20
variable {P : Platform} {bank bank' : Bank} {source : Bool} {owner : Address} {denom : Denom}
  {amount : Int} {packet : ChannelOuterClass.Packet}

theorem debit_keeps (h : debit bank source owner denom amount = .ok bank') :
    bank'.baseId = bank.baseId ∧ bank'.participants = bank.participants := by
  cases source with
  | true =>
    obtain ⟨allocated, -, rfl⟩ := Bank.lock_ok.1 h
    exact ⟨rfl, rfl⟩
  | false =>
    obtain ⟨minted, -, rfl⟩ := Bank.burn_ok.1 h
    exact ⟨rfl, rfl⟩

theorem credit_keeps (h : credit P bank source packet owner denom amount = .ok bank') :
    bank'.baseId = bank.baseId ∧ bank'.participants = bank.participants := by
  cases source with
  | true =>
    obtain ⟨_, -, h⟩ := Result.bind_ok.1 h
    obtain ⟨locked, -, rfl⟩ := Bank.unlock_ok.1 h
    exact ⟨rfl, rfl⟩
  | false =>
    simp only [credit, Bool.false_eq_true, if_false, Result.bind_ok, Except.ok.injEq] at h
    obtain ⟨port, -, channel, -, rfl⟩ := h
    exact ⟨rfl, rfl⟩

theorem refund_keeps (h : refund bank source owner denom amount = .ok bank') :
    bank'.baseId = bank.baseId ∧ bank'.participants = bank.participants := by
  cases source with
  | true =>
    obtain ⟨locked, -, rfl⟩ := Bank.unlock_ok.1 h
    exact ⟨rfl, rfl⟩
  | false =>
    cases h
    exact ⟨rfl, rfl⟩

end Ics20

section
variable {P : Platform} {ctx : Context} {signers : List PublicKey} {outs : List ContractState}
  {packet : ChannelOuterClass.Packet} {m : Module} {ack : ChannelOuterClass.Acknowledgement}

theorem Ics20Cash.CashEffect.covers (h : Ics20Cash.CashEffect P ctx outs) :
    ∀ o ∈ outs, ctx.Covers o := by
  cases h with
  | pay hbank hcash =>
    intro o ho
    rcases List.mem_cons.1 ho with rfl | ho
    · exact .cashBank hbank rfl rfl
    · obtain ⟨c, rfl⟩ := hcash o ho
      exact .cash c
  | payOnly hcash =>
    intro o ho
    obtain ⟨c, rfl⟩ := hcash o ho
    exact .cash c
  | mint hbank hsame hmint =>
    obtain ⟨rfl, hv, -⟩ := CashBank.mint_ok hmint
    intro o ho
    simp only [List.mem_cons, List.not_mem_nil, or_false] at ho
    rcases hsame with rfl | rfl <;> rcases ho with rfl | rfl
    · exact .cashBank hbank rfl rfl
    · exact .voucher hbank hv
    · exact .cashBank hbank rfl rfl
    · exact .voucher hbank hv

theorem Ics20Cash.debit_outputs {bank : CashBank} {source : Bool} {sender : Address} {denom : Denom}
    {quantity : Int} {ctx' : Context} (h : debit P ctx bank source sender denom quantity = .ok ctx') :
    ∃ bank' rest, Context.Outputs ctx (.cashBank bank' :: rest) ctx' ∧ bank'.baseId = bank.baseId ∧
      bank'.participants = bank.participants ∧
      ∀ o ∈ rest, (∃ c, o = .cash c) ∨ ∃ v : Voucher, o = .voucher v ∧ v.baseId = bank.baseId := by
  cases source with
  | true =>
    obtain ⟨-, cs, ho, hcash⟩ := lockCash_ok h
    exact ⟨bank, cs, ho, rfl, rfl, fun o ho => .inl (hcash o ho)⟩
  | false =>
    obtain ⟨bank', change, hburn, ho⟩ := burnVouchers_ok h
    obtain ⟨-, -, rfl⟩ := CashBank.burn_ok hburn.burn
    refine ⟨_, _, ho, rfl, rfl, fun o ho => .inr ?_⟩
    obtain ⟨v, hv, rfl⟩ := List.mem_map.1 ho
    exact ⟨v, rfl, (hburn.change_mem v (Option.mem_toList.1 hv)).1⟩

theorem SendEffect.covers {anyMsg : Any} {chan : IbcChannel}
    (h : SendEffect P ctx signers anyMsg chan packet m outs) : ∀ o ∈ outs, ctx.Covers o := by
  cases h with
  | nop _ => nofun
  | ics20 _ _ _ _ _ hbank _ hdebit =>
    obtain ⟨hb, hp⟩ := Ics20.debit_keeps hdebit
    intro o ho
    rw [List.mem_singleton.1 ho]
    exact .bank hbank hb hp
  | ics20cash _ _ _ _ _ hbank _ hdebit houts _ _ =>
    obtain ⟨bank', rest, ho, hb, hp, hrest⟩ := Ics20Cash.debit_outputs hdebit
    rw [houts.unique ho]
    intro o ho
    rcases List.mem_cons.1 ho with rfl | ho
    · exact .cashBank hbank hb hp
    · rcases hrest o ho with ⟨c, rfl⟩ | ⟨v, rfl, hv⟩
      · exact .cash c
      · exact .voucher hbank hv

theorem RecvEffect.covers (h : RecvEffect P ctx packet m ack outs) : ∀ o ∈ outs, ctx.Covers o := by
  cases h with
  | nop => nofun
  | ics20 _ _ _ _ _ hbank hcredit =>
    intro o ho
    rw [List.mem_singleton.1 ho]
    rcases hcredit with ⟨h, -⟩ | ⟨_, -, rfl, -⟩
    · obtain ⟨hb, hp⟩ := Ics20.credit_keeps h
      exact .bank hbank hb hp
    · exact .bank hbank rfl rfl
  | ics20cash hrecv houts =>
    obtain ⟨outs', heffect, ho⟩ := Ics20Cash.onRecvPacket_ok hrecv
    rw [houts.unique ho]
    exact heffect.covers

theorem AckEffect.covers (h : AckEffect P ctx packet m ack outs) : ∀ o ∈ outs, ctx.Covers o := by
  cases h with
  | nop => nofun
  | ics20Result hbank =>
    intro o ho
    rw [List.mem_singleton.1 ho]
    exact .bank hbank rfl rfl
  | ics20Error _ _ _ _ _ hbank hrefund =>
    obtain ⟨hb, hp⟩ := Ics20.refund_keeps hrefund
    intro o ho
    rw [List.mem_singleton.1 ho]
    exact .bank hbank hb hp
  | ics20cash hsettle houts =>
    obtain ⟨outs', heffect, ho⟩ := Ics20Cash.onAcknowledgePacket_ok hsettle
    rw [houts.unique ho]
    exact heffect.covers

theorem receive_keeps {chan chan' : IbcChannel}
    (h : Handler.recvPacket.receive (chan.answered packet ack) packet = .ok chan') :
    chan'.baseId = chan.baseId ∧ chan'.participants = chan.participants := by
  rcases receive_cases h with ⟨-, -, rfl⟩ | ⟨-, -, rfl⟩ <;> exact ⟨rfl, rfl⟩

/-- Every output of a datagram has the base id and the participants of something it consumes. -/
theorem Executes.covers {d : DatagramHandler} (h : Executes P ctx signers d outs) :
    ∀ o ∈ outs, ctx.Covers o := by
  have hpair : ∀ {s t : ContractState}, ctx.Covers s → ctx.Covers t → ∀ o ∈ [s, t], ctx.Covers o := by
    intro s t hs ht o ho
    simp only [List.mem_cons, List.not_mem_nil, or_false] at ho
    rcases ho with rfl | rfl
    · exact hs
    · exact ht
  have hone : ∀ {s : ContractState}, ctx.Covers s → ∀ o ∈ [s], ctx.Covers o := by
    intro s hs o ho
    rwa [List.mem_singleton.1 ho]
  have hlast : ∀ {os : List ContractState} {s : ContractState}, (∀ o ∈ os, ctx.Covers o) →
      ctx.Covers s → ∀ o ∈ os ++ [s], ctx.Covers o := by
    intro os s hos hs o ho
    rcases List.mem_append.1 ho with ho | ho
    · exact hos o ho
    · rwa [List.mem_singleton.1 ho]
  cases h with
  | createClient hhost _ _ => exact hpair (.host hhost rfl rfl) (.created hhost rfl rfl rfl)
  | updateClient hclient _ _ =>
    refine hone (.of_input hclient rfl rfl ?_)
    rintro _ ⟨⟩
    exact ⟨rfl, fun _ => rfl⟩
  | connOpenInit hhost _ _ => exact hpair (.host hhost rfl rfl) (.created hhost rfl rfl rfl)
  | connOpenTry hhost _ hprevious _ _ _ _ _ _ =>
    rcases Handler.connOpenTry_previous_ok hprevious with ⟨-, rfl, -, -⟩ |
      ⟨prev, -, -, -, -, -, -, -, -, rfl, -, -⟩ <;>
    exact hpair (.host hhost rfl rfl) (.created hhost rfl rfl rfl)
  | connOpenAck hconn _ _ _ _ _ _ _ => exact hone (.connection hconn rfl rfl)
  | connOpenConfirm hconn _ _ _ _ => exact hone (.connection hconn rfl rfl)
  | chanOpenInit hhost _ _ _ _ => exact hpair (.host hhost rfl rfl) (.created hhost rfl rfl rfl)
  | chanOpenTry hhost _ _ _ _ _ _ _ _ =>
    exact hpair (.host hhost rfl rfl) (.created hhost rfl rfl rfl)
  | chanOpenTryPrevious hhost _ _ _ _ _ _ _ _ _ _ _ _ =>
    exact hpair (.host hhost rfl rfl) (.created hhost rfl rfl rfl)
  | chanOpenAck hchan _ _ _ _ _ _ _ => exact hone (.channel hchan rfl rfl)
  | chanOpenConfirm hchan _ _ _ _ _ _ _ => exact hone (.channel hchan rfl rfl)
  | chanCloseInit hchan _ _ _ _ _ => exact hone (.channel hchan rfl rfl)
  | chanCloseConfirm hchan _ _ _ _ _ _ _ => exact hone (.channel hchan rfl rfl)
  | sendPacket _ _ heffect hsend => exact hlast heffect.covers (.channel hsend.input rfl rfl)
  | recvPacket _ _ _ heffect hrecv =>
    obtain ⟨hb, hp⟩ := receive_keeps hrecv.receive
    exact hlast heffect.covers (.channel hrecv.input hb hp)
  | acknowledgePacket _ _ _ _ heffect hacks =>
    obtain ⟨n, rfl⟩ := settle_eq hacks.settle
    exact hlast heffect.covers (.channel hacks.input rfl rfl)

end

/-! ## Transactions -/

namespace LedgerTransaction
variable {P : Platform} {tx : LedgerTransaction} {o : ContractState} {b : StateRef} {i : Identifier}

/-- The transaction makes the host of a genesis: with its participants, under its notary. -/
def Founds (tx : LedgerTransaction) (host : Host) : Prop :=
  ∃ g, (⟨⟨.genesis g, host.notary⟩, host.baseId⟩ : StateAndRef) ∈ tx.inputs ∧
    host.participants = g.participants

theorem covered_or_founds (hv : Ibc.verify P tx = .ok ()) (ho : o ∈ tx.outputs)
    (hk : o.key? = some (b, i)) :
    o.CoveredBy tx.inputStates ∨ ∃ host, o = .host host ∧ tx.Founds host := by
  have hbank : ∀ {host host' : Host} {bank : ContractState} {j : IbcState},
      tx.inputStates = [.host host] → host.addBank bankId = .ok host' →
      bank.ibc? = some j → j.baseId = host.baseId → bank.participants? = some host.participants →
      tx.outputs.Perm [.host host', bank] → o.CoveredBy tx.inputStates := by
    intro host host' bank j hin hadd hbank hb hp hout
    simp only [Host.addBank, Result.bind_ok, Except.ok.injEq] at hadd
    obtain ⟨-, -, rfl⟩ := hadd
    have ho := hout.mem_iff.1 ho
    simp only [List.mem_cons, List.not_mem_nil, or_false] at ho
    intro i hi
    refine ⟨.host host, by rw [hin]; exact List.mem_singleton_self _, _, rfl, rfl, ?_⟩
    rcases ho with rfl | rfl
    · cases hi
      exact ⟨rfl, fun _ => rfl⟩
    · rw [hbank] at hi
      cases hi
      exact ⟨hb.symm, fun _ => hp⟩
  rcases verify_cases hv with hm | ⟨handler, signers, -, hd⟩
  · cases hm with
    | genesis _ hout =>
      rw [hout, List.mem_singleton] at ho
      subst ho
      cases hk
    | @host g t host moduleNames factoryNames ht hdata _ hcreate hout =>
      rw [hout, List.mem_singleton] at ho
      simp only [Host.create, Result.bind_ok, Except.ok.injEq] at hcreate
      obtain ⟨modules, -, factories, -, rfl⟩ := hcreate
      refine .inr ⟨_, ho, g, ?_, rfl⟩
      obtain ⟨⟨data, notary⟩, ref⟩ := t
      cases hdata
      exact ht
    | bank hin hadd hout => exact .inl (hbank hin hadd rfl rfl rfl hout)
    | cashBank hin hadd hout => exact .inl (hbank hin hadd rfl rfl rfl hout)
    | @fund bank _ _ _ hin hout =>
      rw [hout, List.mem_singleton] at ho
      subst ho
      refine .inl fun i hi => ⟨.bank bank, by rw [hin]; exact List.mem_singleton_self _, _, rfl, rfl, ?_⟩
      cases hi
      exact ⟨rfl, fun _ => rfl⟩
  · obtain ⟨outs, ctx', hexec, houts, hv⟩ := verify_executes hd hv
    have hmem : o ∈ outs := by
      have := hv.subset o ho
      rwa [houts.outStates] at this
    exact .inl (hexec.covers o hmem)

end LedgerTransaction

/-! ## Ledgers -/

namespace Ledger

/-- Every host is that of a genesis, and its states are like it. -/
structure Homogeneous (tr : List LedgerTransaction) (l : Ledger) : Prop where
  founded : ∀ r n h, l.states.lookup r = some ⟨.host h, n⟩ →
    n = h.notary ∧ ∃ tx ∈ tr, tx.Founds h
  alike : ∀ r s b i, l.states.lookup r = some s → s.data.key? = some (b, i) →
    ∀ r' n h, l.states.lookup r' = some ⟨.host h, n⟩ → h.baseId = b →
      s.data.participants? = some h.participants ∧ s.notary = h.notary

section
variable {P : Platform} {l : Ledger} {tx : LedgerTransaction} {tr : List LedgerTransaction}
  {r : StateRef} {n : Party} {h h' : Host}

/-- A host after a transaction is alike the host of its base id before. -/
theorem Inv.host_eq (hi : l.Inv) (hc : Commits P l tx) (ha : Accepted tx)
    (hl : l.states.lookup r = some ⟨.host h, n⟩) {r' : StateRef} {n' : Party}
    (hl' : (l.apply tx).states.lookup r' = some ⟨.host h', n'⟩) (hb : h'.baseId = h.baseId) :
    h'.participants = h.participants ∧ h'.notary = h.notary := by
  obtain ⟨r₁, n₁, h₁, hl₁, hu⟩ := hi.host_apply hc ha hl
  obtain rfl := (hi.apply hc ha).unique _ _ _ _ _ hl₁ hl' (hostKey h₁)
    (by rw [hostKey, hb, hu.2.1])
  rw [hl₁] at hl'
  cases hl'
  exact ⟨hu.1.symm, hu.2.2.1.symm⟩

/-- An output under a notary is notarised as its inputs are. -/
theorem output_notary {s : TransactionState} (hr : r.txhash = tx.id)
    (hl : (l.apply tx).states.lookup r = some s) (hj : tx.outputs[r.index]? = some s.data) :
    s.notary = tx.notary := by
  obtain ⟨txhash, index⟩ := r
  obtain rfl : txhash = tx.id := hr
  rw [lookup_apply_output hj] at hl
  exact (congrArg TransactionState.notary (Option.some.inj hl)).symm

theorem Homogeneous.apply (hh : l.Homogeneous tr) (hi : l.Inv) (hc : Commits P l tx)
    (ha : Accepted tx) : (l.apply tx).Homogeneous (tr ++ [tx]) := by
  have hn : ∀ s ∈ tx.inputs, s.state.notary = tx.notary := fun s hs =>
    hc.notary s (List.mem_append_left _ hs)
  have hverify : ∀ o ∈ tx.outputs, ∀ k, o.key? = some k → Ibc.verify P tx = .ok () :=
    fun o ho k hk => hc.verify (List.any_eq_true.2
      ⟨o, List.mem_append_right _ ho, belongsToIbc_of_key (b := k.1) (i := k.2) hk⟩)
  have hcases : ∀ r s b i, (l.apply tx).states.lookup r = some s → s.data.key? = some (b, i) →
      (∃ host, s.data = .host host ∧ tx.Founds host ∧ s.notary = host.notary) ∨
      ∃ r₁ n₁ h₁, l.states.lookup r₁ = some ⟨.host h₁, n₁⟩ ∧ h₁.baseId = b ∧
        s.data.participants? = some h₁.participants ∧ s.notary = h₁.notary := by
    intro r s b i hl hk
    rcases lookup_apply_cases hl with ⟨hr, hj⟩ | ⟨-, hl⟩
    · have ho := List.mem_of_getElem? hj
      have hnotary := output_notary hr hl hj
      rcases LedgerTransaction.covered_or_founds (hverify _ ho _ hk) ho hk with
        hcov | ⟨host, hs, g, hg, hp⟩
      · -- an input of the same base id is alike the host of that before the transaction
        obtain ⟨t, ht, hf, hb, rfl⟩ := key_eq_some.1 hk
        obtain ⟨u, hu, j, hj', hjf, hjb, hpart⟩ := hcov t ht
        obtain ⟨⟨⟨u', n'⟩, r'⟩, hu', rfl⟩ := List.mem_map.1 hu
        have hl' := hc.inputs _ hu'
        have huk : u'.key? = some (b, j.id) := key_eq_some.2 ⟨j, hj', hjf, hjb.trans hb, rfl⟩
        obtain ⟨r₁, n₁, h₁, hl₁, hb₁, -⟩ := hi.owner _ _ _ _ hl' huk
        obtain ⟨hp₁, hn₁⟩ := hh.alike _ _ _ _ hl' huk _ _ _ hl₁ hb₁
        exact .inr ⟨r₁, n₁, h₁, hl₁, hb₁, (hpart hf).trans hp₁,
          (hnotary.trans (hn _ hu').symm).trans hn₁⟩
      · exact .inl ⟨host, hs, ⟨g, hg, hp⟩, hnotary.trans (hn _ hg).symm⟩
    · obtain ⟨r₁, n₁, h₁, hl₁, hb₁, -⟩ := hi.owner _ _ _ _ hl hk
      obtain ⟨hp₁, hn₁⟩ := hh.alike _ _ _ _ hl hk _ _ _ hl₁ hb₁
      exact .inr ⟨r₁, n₁, h₁, hl₁, hb₁, hp₁, hn₁⟩
  constructor
  · intro r n h hl
    rcases hcases r _ _ _ hl (hostKey h) with ⟨host, hs, hf, hn⟩ | ⟨r₁, n₁, h₁, hl₁, hb₁, -, hn⟩
    · cases hs
      exact ⟨hn, tx, List.mem_append_right _ (List.mem_singleton_self tx), hf⟩
    · obtain ⟨hp, hnotary⟩ := hi.host_eq hc ha hl₁ hl hb₁.symm
      obtain ⟨-, tx₁, htx₁, g, hg, hpg⟩ := hh.founded _ _ _ hl₁
      refine ⟨hn.trans hnotary.symm, tx₁, List.mem_append_left _ htx₁, g, ?_, hp.trans hpg⟩
      rwa [hnotary, ← hb₁]
  · intro r s b i hl hk r' n h hl' hb
    rcases hcases r s b i hl hk with ⟨host, hs, hf, hn⟩ | ⟨r₁, n₁, h₁, hl₁, hb₁, hp₁, hn₁⟩
    · obtain ⟨data, notary⟩ := s
      subst hs
      obtain ⟨rfl, rfl⟩ := Prod.mk.inj (Option.some.inj hk)
      obtain rfl := (hi.apply hc ha).unique _ _ _ _ _ hl hl' (hostKey host) (by rw [hostKey, hb])
      rw [hl] at hl'
      cases hl'
      exact ⟨rfl, hn⟩
    · obtain ⟨hp, hnotary⟩ := hi.host_eq hc ha hl₁ hl' (hb.trans hb₁.symm)
      exact ⟨hp₁.trans (congrArg some hp.symm), hn₁.trans hnotary.symm⟩

theorem Homogeneous.run {l₀ : Ledger} (hinj : P.toCrypto.UniqueNames) (h₀ : l₀.Start)
    (hr : Run (Step P LedgerTransaction.DistinctOutputs) l₀ tr l) :
    l.Inv ∧ l.Homogeneous tr := by
  have hstart : l₀.Homogeneous [] := by
    constructor
    · intro r n h hl
      obtain ⟨g, hg⟩ := h₀.genesis r _ hl
      cases hg
    · intro r s b i hl hk
      obtain ⟨g, hg⟩ := h₀.genesis r s hl
      rw [hg] at hk
      cases hk
  refine hr.invariant (I := fun tr l => l.Inv ∧ l.Homogeneous tr) ⟨h₀.inv, hstart⟩ ?_
  rintro tr l tx l' - ⟨hi, hh⟩ ⟨hn, hcommit⟩
  obtain ⟨hc, rfl⟩ := commit_ok.1 hcommit
  have ha := hc.accepted hinj hn
  exact ⟨hi.apply hc ha, hh.apply hi hc ha⟩

/-- Every unconsumed state of a host has the participants of the genesis it goes back to, which an
earlier transaction consumed, and is under the notary of that; the host names this notary. -/
theorem descends_run {l₀ : Ledger} (hinj : P.toCrypto.UniqueNames) (h₀ : l₀.Start)
    (hr : Run (Step P LedgerTransaction.DistinctOutputs) l₀ tr l)
    {s : TransactionState} {b : StateRef} {i : Identifier} (hl : l.states.lookup r = some s)
    (hk : s.data.key? = some (b, i)) :
    ∃ tx ∈ tr, ∃ g, (⟨⟨.genesis g, s.notary⟩, b⟩ : StateAndRef) ∈ tx.inputs ∧
      s.data.participants? = some g.participants ∧ ∀ h, s.data = .host h → h.notary = s.notary := by
  obtain ⟨hi, hh⟩ := Homogeneous.run hinj h₀ hr
  obtain ⟨r₁, n₁, h₁, hl₁, rfl, -⟩ := hi.owner r s b i hl hk
  obtain ⟨hp, hn⟩ := hh.alike r s _ i hl hk _ _ _ hl₁ rfl
  obtain ⟨-, tx, htx, g, hg, hpg⟩ := hh.founded _ _ _ hl₁
  refine ⟨tx, htx, g, by rwa [hn], by rw [hp, hpg], fun h hs => ?_⟩
  obtain ⟨data, notary⟩ := s
  subst hs
  exact (hh.founded _ _ _ hl).1.symm

end

open RepeatedOutputs Sample in
/-- The client of a host that goes back to the first genesis. -/
theorem descends_run_hostAndClient : ∃ tx ∈ [createHost, hostAndClient], ∃ g,
    (⟨⟨.genesis g, notary 1⟩, base 1⟩ : StateAndRef) ∈ tx.inputs ∧
      (ContractState.client client).participants? = some g.participants ∧
      ∀ h, ContractState.client client = .host h → h.notary = notary 1 :=
  descends_run (s := ⟨.client client, notary 1⟩) uniqueNames start_start
    run_hostAndClient (lookup_apply_output (i := 1) (by rfl)) rfl

end Ledger

end CordaIbc
