import CordaIbc.Proofs.Flows
import CordaIbc.Proofs.Vault

/-!
# Flows on a ledger (workflows/flows)

A node whose vault shows the ledger runs a flow to its end. On a reachable ledger the flow ends with a
new ledger exactly when it fits, the node can sign and the contracts of the other states accept the
transaction, which is one that the ledger's invariants speak of: its outputs are distinct.
-/

namespace CordaIbc

open StateClass ContractState Context

namespace Flow

section
variable {P : Platform} {M : Packing} {hub : ServiceHub} {flow : Flow} {host : Found Host}
  {handler : DatagramHandler} {command : MiscCommands} {inputs refs : List StateAndRef}
  {outputs : List ContractState} {builder : TransactionBuilder} {id : SecureHash} {l l' : Ledger}
  {s : StateAndRef} {b : StateRef}

theorem lookup_of_sees (hs : hub.Sees l) (hmem : s ∈ hub.states)
    (hknown : ∃ participants, s.state.data.participants? = some participants) :
    l.states.lookup s.ref = some s.state := by
  obtain ⟨participants, hp⟩ := hknown
  exact ((hs s.state s.ref participants hp).1 hmem).1

/-- A set-up flow finds what it consumes in the vault. -/
theorem Sets.lookup (h : Sets hub flow command inputs outputs) (hs : hub.Sees l) :
    ∀ s ∈ inputs, l.states.lookup s.ref = some s.state := by
  intro s hmem
  cases h with
  | genesisCreate => exact absurd hmem List.not_mem_nil
  | hostCreate hgenesis _ =>
    rw [List.mem_singleton.1 hmem]
    exact lookup_of_sees hs hgenesis ⟨_, rfl⟩
  | bankCreate hhost _ | cashBankCreate hhost _ =>
    rw [List.mem_singleton.1 hmem]
    exact lookup_of_sees hs hhost.1 ⟨_, rfl⟩
  | fundAllocate hbank =>
    rw [List.mem_singleton.1 hmem]
    exact lookup_of_sees hs hbank.1 ⟨_, rfl⟩

/-! ## What a flow has built -/

theorem distinctOutputs_of_call (h : flow.call P M hub = .ok builder) :
    (builder.toLedgerTransaction id).DistinctOutputs := by
  intro hne
  rcases runs_of_call h with ⟨command, inputs, outputs, -, -, -, -, -, hcmd⟩ |
    ⟨host, handler, inputs, refs, hrun⟩
  · refine absurd ?_ hne
    show List.filterMap _ builder.commands = _
    rw [hcmd]
    rfl
  · obtain ⟨ctx, -, hout⟩ := hrun.built.exec
    show builder.outputs.Nodup
    rw [hout]
    exact ctx.outStates.nodup

/-- What a flow has built is signed for, unless it pays with the cash of another. -/
theorem signedBy_of_call (h : flow.call P M hub = .ok builder)
    (hflow : ∀ b msg, flow ≠ .recvPacket b msg) : builder.SignedBy hub.ourIdentity.owningKey := by
  rcases runs_of_call h with ⟨command, inputs, outputs, -, -, -, -, -, hcmd⟩ |
    ⟨host, handler, inputs, refs, hrun⟩
  · intro c hc k hk
    rw [hcmd, List.mem_singleton] at hc
    subst hc
    exact List.mem_singleton.1 hk
  · exact hrun.signed hflow

/-- What a flow consumes is distinct, and what it reads is unconsumed. -/
theorem reads_of_call (h : flow.call P M hub = .ok builder) (hs : hub.Sees l) :
    (∀ s ∈ builder.inputs ++ builder.references, l.states.lookup s.ref = some s.state) ∧
      (builder.inputs.map (·.ref)).Nodup := by
  rcases runs_of_call h with ⟨command, inputs, outputs, hsets, hin, href, -, -, -⟩ |
    ⟨host, handler, inputs, refs, hrun⟩
  · rw [hin, href, List.append_nil]
    refine ⟨hsets.lookup hs, ?_⟩
    cases hsets with
    | genesisCreate => exact List.nodup_nil
    | hostCreate | bankCreate | cashBankCreate | fundAllocate => exact List.nodup_singleton _
  · rw [hrun.built.inputs_eq, hrun.built.references_eq]
    refine ⟨fun s hmem => ?_, hrun.picks.nodup⟩
    have hp := hrun.picks.picked hmem
    exact lookup_of_sees hs hp.mem hp.known

/-! ## The exceptions -/

/-- A datagram that the contract takes fits, on a ledger whose identifiers are those of hosts. -/
theorem RunsDatagram.fits (h : flow.RunsDatagram P M hub builder host handler inputs refs)
    (hinj : P.toCrypto.UniqueNames) (hi : l.Inv) (hs : hub.Sees l)
    (hv : Ibc.verify P (builder.toLedgerTransaction id) = .ok ()) : flow.Fits hub builder := by
  obtain ⟨ctx, hexec, hverify⟩ := verify_of_built h.built id
  rw [hverify] at hv
  obtain ⟨outs, hexecutes, houts⟩ := executes_of_ok hexec
  have hverified := verifyResults_ok hv
  have hstates : ctx.outStates.states = outs := houts.outStates
  -- a channel is the only output on a port of `NopModule`, and no channel follows a bank
  have hsettles : ∀ {b : StateRef} {port : String} {bank : List StateAndRef} {chan : Found IbcChannel}
      {chan' : IbcChannel}, hub.Has b host → BankOf hub b port bank → hub.Has b chan →
      (∀ s ∈ bank, s ∈ inputs) → chan'.id = chan.data.id →
      (∀ p, p.id = port → host.data.modules.lookup p = some .nop → outs = [.channel chan']) →
      Settles hub b port := by
    intro b port bank chan chan' hhost hbank hchan hmem hid hnop htransfer host' p hq hp hmodule
    obtain ⟨-, j, hj, hb⟩ := hhost
    cases hj
    obtain rfl : host.data.baseId = b := hb
    rw [h.host_eq] at hq
    cases hq
    have houts' := hnop p hp hmodule
    obtain ⟨s, hsb⟩ : ∃ s, s ∈ bank := by
      cases hbank with
      | none hno hno' => exact absurd htransfer (by simp [hno, hno'])
      | bank => exact ⟨_, List.mem_singleton_self _⟩
      | cashBank => exact ⟨_, List.mem_singleton_self _⟩
    obtain ⟨hsid, -⟩ := hbank.id hsb
    obtain ⟨b', hk⟩ := key_of_id hsid
    obtain ⟨t, ht, hf, -, hti⟩ := key_eq_some.1 hk
    have htin : t ∈ ctx.inIbcStates := by
      rw [Context.inIbcStates, houts.inStates]
      exact List.mem_filterMap.2 ⟨_, List.mem_map_of_mem (hmem s hsb), ht⟩
    obtain ⟨o, ho, -, hlin⟩ := hverified.successor t htin hf
    rw [Context.outIbcStates, hstates, houts'] at ho
    obtain rfl : o = ⟨chan'.baseId, chan'.id, false⟩ := by simpa [ibc?] using ho
    have hbank' : chan'.id = bankId := (hinj hlin).trans hti
    -- the channel is one of the host, whose identifiers are numbered
    obtain ⟨hmemChan, j, hj, hb⟩ := hchan
    cases hj
    have hl := lookup_of_sees hs hmemChan ⟨_, rfl⟩
    obtain ⟨_, _, h₁, -, -, n, -, hn⟩ := hi.owner _ _ _ _ hl rfl
    have hn : chan.data.id = Host.channelIdentifier n := hn
    rw [hid, hn] at hbank'
    exact absurd (Host.kind_channel.symm.trans ((congrArg Identifier.kind hbank').trans
      Host.kind_bank)) (by decide)
  obtain ⟨hpicks, hq, -, hbuilt, -⟩ := h
  cases hpicks with
  | @recvPacket b msg _ chan _ _ bank coins hhost hchan hconn hclient hbank hcoins =>
    cases hexecutes with
    | @recvPacket _ host₀ port chan₀ chan' m _ _ href hport hmodule heffect hrecv =>
      have hid := receive_id hrecv.receive
      obtain rfl := eq_of_getInput hrecv.input
        (List.mem_map_of_mem (f := fun s : StateAndRef => s.state.data)
          (List.mem_append_right (bank ++ coins) (List.mem_singleton_self chan.stateAndRef)))
      obtain rfl := eq_of_getReference href List.mem_cons_self
      refine hsettles hhost hbank hchan (fun s hs => List.mem_append_left _
        (List.mem_append_left _ hs)) hid fun p hp hnop => ?_
      obtain rfl : p = port := Identifier.ext (hp.trans hport.symm)
      rw [Host.lookupModule, hnop] at hmodule
      cases hmodule
      cases heffect with
      | nop => rfl
  | @acknowledgePacket b msg _ chan _ _ bank hhost hchan hconn hclient hbank =>
    cases hexecutes with
    | @acknowledgePacket _ host₀ port chan₀ chan' m _ _ href hport hmodule _ heffect hacks =>
      have hsettled := settle_id hacks.settle
      have hid : (chan'.settled msg.packet).id = chan₀.id := hsettled
      obtain rfl := eq_of_getInput hacks.input
        (List.mem_map_of_mem (f := fun s : StateAndRef => s.state.data)
          (List.mem_cons_self (a := chan.stateAndRef) (l := bank)))
      obtain rfl := eq_of_getReference href List.mem_cons_self
      refine hsettles hhost hbank hchan (fun s hs => List.mem_cons_of_mem _ hs) hid
        fun p hp hnop => ?_
      obtain rfl : p = port := Identifier.ext (hp.trans hport.symm)
      rw [Host.lookupModule, hnop] at hmodule
      cases hmodule
      cases heffect with
      | nop => rfl
  | @transfer b msg _ chan _ _ bank coins hhost hchan hconn hclient hbank hcoins =>
    intro s hs v hv
    rw [hbuilt.inputs_eq] at hs
    obtain ⟨b', -, hin, -, -⟩ := hverified.baseId
    rw [Context.inIbcStates, houts.inStates] at hin
    obtain ⟨-, j, hj, hb⟩ := hchan
    have h₁ := hin ⟨v.baseId, v.id, true⟩ (List.mem_filterMap.2
      ⟨_, List.mem_map_of_mem hs, by rw [hv]; rfl⟩)
    have h₂ := hin j (List.mem_filterMap.2 ⟨_, List.mem_cons_self, hj⟩)
    exact h₁.trans (h₂.symm.trans hb)
  | _ => trivial

/-! ## Finality -/

/-- The contract accepts what a flow has built exactly when it fits. -/
theorem verify_iff (hinj : P.toCrypto.UniqueNames) (htyped : M.Typed P) (hi : l.Inv)
    (hs : hub.Sees l) (hcall : flow.call P M hub = .ok builder) :
    Ibc.verify P (builder.toLedgerTransaction id) = .ok () ↔ flow.Fits hub builder := by
  rcases runs_of_call hcall with ⟨command, inputs, outputs, hrun⟩ |
    ⟨host, handler, inputs, refs, hrun⟩
  · exact hrun.verify_iff
  · exact ⟨hrun.fits hinj hi hs, hrun.verify htyped⟩

theorem finality_ok {builder : TransactionBuilder} : hub.finality P builder id l = .ok l' ↔
    builder.SignedBy hub.ourIdentity.owningKey ∧
      Ledger.Commits P l (builder.toLedgerTransaction id) ∧
      l' = l.apply (builder.toLedgerTransaction id) := by
  rw [ServiceHub.finality, Result.bind_ok, ← Ledger.commit_ok]
  constructor
  · rintro ⟨u, hsigned, hc⟩
    exact ⟨fun c hmem => require_ok.1 hsigned c hmem, hc⟩
  · rintro ⟨hsigned, hc⟩
    exact ⟨(), require_ok.2 fun c hmem => hsigned c hmem, hc⟩

/-- Only a receipt that pays with cash needs a signature that the node may not have. -/
def SignsFor (hub : ServiceHub) (builder : TransactionBuilder) (flow : Flow) : Prop :=
  ∀ b msg, flow = .recvPacket b msg → builder.SignedBy hub.ourIdentity.owningKey

theorem signedBy_iff (hcall : flow.call P M hub = .ok builder) :
    builder.SignedBy hub.ourIdentity.owningKey ↔ flow.SignsFor hub builder := by
  constructor
  · exact fun h _ _ _ => h
  · intro h
    by_cases hrecv : ∃ b msg, flow = .recvPacket b msg
    · obtain ⟨b, msg, rfl⟩ := hrecv
      exact h b msg rfl
    · exact signedBy_of_call hcall fun b msg he => hrecv ⟨b, msg, he⟩

end

section
open Sample Ledger.RepeatedOutputs

/-- What `IbcClientCreateFlow` builds on the host. -/
def clientBuilder : TransactionBuilder :=
  { notary := notary 1, inputs := [⟨⟨.host host, notary 1⟩, ⟨⟨[2]⟩, 0⟩⟩]
    outputs := [.host nextHost, .client client]
    commands := [⟨.datagram (.handleClientCreate msg), [(notary 1).owningKey]⟩] }

def packing : Packing := ⟨fun _ => ⟨"", []⟩, fun _ => ⟨"", []⟩⟩

theorem typed_packing : packing.Typed P := by
  intro msg packet h
  cases h

end

end Flow

end CordaIbc
