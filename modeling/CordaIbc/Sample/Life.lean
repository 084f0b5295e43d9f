import CordaIbc.Lifecycle
import CordaIbc.Sample.Chain

/-!
# Scripts of one channel

A script of a channel makes each execution from the channel before it, over a fixed host, client and
open connection.
-/

namespace CordaIbc

open IbcChannel

namespace Sample

def runCalls (P : Platform) : IbcChannel → List (IbcChannel → Call) → Result (List Call × IbcChannel)
  | chan, [] => .ok ([], chan)
  | chan, f :: fs => do
    let k := f chan
    require (k.handler.continuesChannel = true)
    require (ContractState.channel chan ∈ k.inStates)
    let ctx ← k.execute P
    let chan' ← single (filterIsInstance IbcChannel ctx.outStates.states)
    let (ks, chan'') ← runCalls P chan' fs
    .ok (k :: ks, chan'')

/-- A creation and the calls after it. -/
def runLife (P : Platform) (k : Call) (fs : List (IbcChannel → Call)) :
    Result (IbcChannel × List Call × IbcChannel) := do
  require (k.handler.continuesChannel = false)
  let ctx ← k.execute P
  let chan₀ ← single (filterIsInstance IbcChannel ctx.outStates.states)
  let (ks, chan) ← runCalls P chan₀ fs
  .ok (chan₀, ks, chan)

section
variable {P : Platform} {chan₀ chan chan' : IbcChannel} {k : Call} {ks tr : List Call}
  {fs : List (IbcChannel → Call)} {ok : IbcChannel → Call → Prop}

theorem channel_mem_of_single {states : List ContractState}
    (h : single (filterIsInstance IbcChannel states) = .ok chan) :
    ContractState.channel chan ∈ states := by
  have hm : chan ∈ filterIsInstance IbcChannel states := by
    rw [single_ok.1 h]
    exact List.mem_singleton_self _
  exact mem_filterIsInstance.1 hm

theorem run_of_calls (h : runCalls P chan fs = .ok (ks, chan'))
    (hok : ∀ f ∈ fs, ∀ chan, ok chan (f chan)) (hr : Run (Step P ok) chan₀ tr chan) :
    Run (Step P ok) chan₀ (tr ++ ks) chan' := by
  induction fs generalizing chan tr ks with
  | nil => cases h; rwa [List.append_nil]
  | cons f fs ih =>
    simp only [runCalls, Result.bind_ok, require_ok, Except.ok.injEq, Prod.mk.injEq] at h
    obtain ⟨-, hcont, -, hmem, ctx, hexec, chan₁, hsingle, ⟨ks', chan₂⟩, hrest, rfl, rfl⟩ := h
    have hstep : Step P ok chan (f chan) chan₁ :=
      ⟨hok f List.mem_cons_self chan, hcont, hmem, ctx, hexec, channel_mem_of_single hsingle⟩
    rw [← List.singleton_append, ← List.append_assoc]
    exact ih hrest (fun f hf => hok f (List.mem_cons_of_mem _ hf)) (.snoc hr hstep)

/-- The executions of a script are its own. -/
theorem mem_calls (h : runCalls P chan fs = .ok (ks, chan')) (hk : k ∈ ks) :
    ∃ f ∈ fs, ∃ chan, k = f chan := by
  induction fs generalizing chan ks with
  | nil =>
    cases h
    cases hk
  | cons f fs ih =>
    simp only [runCalls, Result.bind_ok, require_ok, Except.ok.injEq, Prod.mk.injEq] at h
    obtain ⟨-, -, -, -, -, -, chan₁, -, ⟨ks', chan₂⟩, hrest, rfl, rfl⟩ := h
    rcases List.mem_cons.1 hk with rfl | hk
    · exact ⟨f, List.mem_cons_self, chan, rfl⟩
    · obtain ⟨g, hg, hgk⟩ := ih hrest hk
      exact ⟨g, List.mem_cons_of_mem _ hg, hgk⟩

theorem run_of_life (h : runLife P k fs = .ok (chan₀, ks, chan))
    (hok : ∀ f ∈ fs, ∀ chan, ok chan (f chan)) :
    Creates P k chan₀ ∧ Run (Step P ok) chan₀ ks chan ∧ ∀ k ∈ ks, ∃ f ∈ fs, ∃ chan, k = f chan := by
  simp only [runLife, Result.bind_ok, require_ok, Except.ok.injEq, Prod.mk.injEq] at h
  obtain ⟨-, hcont, ctx, hexec, chan₁, hsingle, ⟨ks', chan₂⟩, hrest, rfl, rfl, rfl⟩ := h
  exact ⟨⟨hcont, ctx, hexec, channel_mem_of_single hsingle⟩, run_of_calls hrest hok .nil,
    fun _ hk => mem_calls hrest hk⟩

end

/-! ### Calls -/

def liveClient : IbcClientState :=
  .create (host 1) hostClient (.corda
    { anyClientState := clientState 2
      anyConsensusStates := (∅ : Finmap fun _ => Any).insert HEIGHT Host.defaultConsensusState
      counterpartyBaseId := base 2, counterpartyNotaryKey := (notary 2).owningKey })

def liveConnection : IbcConnection :=
  .create (host 1) (connection 0)
    { clientId, versionsList := [VERSION], state := .opened
      counterparty := ⟨clientId, "connection-0", PREFIX⟩, delayPeriod := 0 }

def references : List ContractState :=
  [.host (host 1), .connection liveConnection, .client liveClient]

/-- A handshake call that consumes the host. -/
def hostCall (handler : DatagramHandler) (inStates : List ContractState := []) : Call :=
  { inStates := .host (host 1) :: inStates
    refStates := [.connection liveConnection, .client liveClient], signers := [], handler }

/-- A call that references the host. -/
def channelCall (handler : DatagramHandler) (inStates : List ContractState) : Call :=
  { inStates, refStates := references, signers := [], handler }

def initCall : Call :=
  hostCall (.handleChanOpenInit { portId := "transfer", channel := channelEnd .init "" })

/-- Five of a token. -/
def five {T : Type} (token : T) : TokenAmount T := ⟨5, token, by decide⟩

/-- A bank in which the first owner has ten atoms. -/
def liveBank : Bank :=
  (Bank.create (host 1)).allocate (account 97) ⟨⟨"", "atom"⟩⟩ 10

def sendCall (chan : IbcChannel) : Call :=
  channelCall (.createOutgoingPacket ⟨"", [0]⟩) [.bank liveBank, .channel chan]

/-- The first transfer of the table. -/
def liveTransfer : MsgTransfer :=
  { sourcePort := "transfer", sourceChannel := "channel-0", token := ⟨"atom", "5"⟩, sender := addressA
    receiver := addressB, timeoutHeight := .default, timeoutTimestamp := 0 }

end Sample

end CordaIbc
