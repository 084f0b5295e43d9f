import CordaIbc.Networks
import CordaIbc.Proofs.Concurrency
import CordaIbc.Proofs.Delivery
import CordaIbc.Proofs.Ledgers
import CordaIbc.Proofs.Serves

/-!
# Networks are nets

Every run of two networks with honest relayers is a run of their ledgers (`ledgers_run`), so what they
hold of the two hosts is a net. What holds of the runs of nets holds of the nodes, whatever the order in
which they build and end their flows; for one, what a host receives is what the other sent.
-/

namespace CordaIbc

open ChannelOuterClass (Packet Acknowledgement)
open StateClass ContractState

/-! ## One network -/

namespace Nodes
variable {P : Platform} {M : Packing} {l₀ : Ledger} {n n' : Nodes} {tr : List Event} {e : Event}

/-- What an event puts on the ledger, the ledger takes. -/
theorem Step.commits (h : Good P M l₀ tr n) (hstep : Step P M n e n') :
    match e.transaction? with
    | none => n'.ledger = n.ledger
    | some tx => Ledger.Commits P n.ledger tx ∧ tx.DistinctOutputs ∧ n'.ledger = n.ledger.apply tx := by
  cases hstep with
  | build => rfl
  | finish hdraft hfinality =>
    obtain ⟨-, hc, rfl⟩ := Flow.finality_ok.1 hfinality
    exact ⟨hc, Flow.distinctOutputs_of_call (h.kept _ hdraft).call, rfl⟩
  | other hother hcommands hcommit =>
    obtain ⟨hc, rfl⟩ := Ledger.commit_ok.1 hcommit
    exact ⟨hc, fun hne => absurd hcommands hne, rfl⟩

end Nodes

/-! ## What relayers carry -/

namespace CordaClientState
variable {P : Platform} {K : ProofCodec} {stx : VerifiedTransaction} {proof : CommitmentProof}
  {cs : CordaClientState} {T : Type} [StateClass T] {t : T}

/-- What a proof of a transaction proves, the transaction put out. -/
theorem Proves.mem_outputs (h : cs.Proves P proof t) (hK : K.Carries P stx)
    (hproof : stx.toProof P K = .ok proof) : up t ∈ stx.tx.outputs := by
  obtain ⟨stx', ftx, hread, -, hout, -⟩ := proves_iff.1 h
  rw [stx.read_of_toProof hK hproof, Except.ok.injEq] at hread
  obtain ⟨-, rfl⟩ := Prod.mk.inj hread
  have hmem : t ∈ filterIsInstance T (stx.buildFilteredTransaction K).outputs := by
    rw [hout]
    exact List.mem_singleton_self t
  obtain ⟨o, ho, hcast⟩ := List.mem_filterMap.1 hmem
  rw [cast?_eq.1 hcast] at ho
  exact (List.mem_filter.1 ho).1

end CordaClientState

/-! ## The simulation -/

namespace Networks
open Ledger

/-- The events of one network. -/
def own (s : Side) (tr : List (Side × Nodes.Event)) : List Nodes.Event :=
  tr.filterMap fun a => if a.1 = s then some a.2 else none

section
variable {P : Platform} {M : Packing} {K : ProofCodec} {b : Side → StateRef} {w₀ w w' : Networks}
  {a : Side × Nodes.Event} {tr : List (Side × Nodes.Event)} {tx : LedgerTransaction}

/-- A run of networks is a run of the nodes of each. -/
theorem run_own (hr : Run (Step P M K b) w₀ tr w) (s : Side) :
    Run (Nodes.Step P M) (w₀.nodes s) (own s tr) (w.nodes s) := by
  induction hr with
  | nil => exact .nil
  | @snoc tr w w' a _ hs ih =>
    by_cases ha : a.1 = s
    · have he : own s (tr ++ [a]) = own s tr ++ [a.2] := by simp [own, ha]
      rw [he]
      subst ha
      exact .snoc ih hs.node
    · have he : own s (tr ++ [a]) = own s tr := by simp [own, ha]
      rw [he, (hs.other s (Ne.symm ha)).1]
      exact ih

/-- What an honest relayer carries, the other ledger put out. -/
theorem Relayed.shown {past : List LedgerTransaction} {b : StateRef} (h : Relayed P K past tx) :
    Ledgers.Shown P b past tx := by
  intro handler signers hd _ _ _ _ _ proof hproof T _ t hp
  obtain ⟨stx, hstx, hK, hmade⟩ := h handler signers hd proof hproof
  exact ⟨stx.tx, hstx, hp.mem_outputs hK hmade⟩

/-- The ledgers of the networks. -/
def ledgers (w : Networks) : Ledgers where
  ledger s := (w.nodes s).ledger
  past := w.past

/-- The transactions that the ledgers took. -/
def carried (tr : List (Side × Nodes.Event)) : List (Side × LedgerTransaction) :=
  tr.filterMap fun a => a.2.transaction?.map fun tx => (a.1, tx)

theorem taken_carried : Ledgers.taken b (carried tr) = taken b tr := by
  rw [Ledgers.taken, carried, List.filter_filterMap, taken]
  refine List.filterMap_congr fun a _ => ?_
  cases a.2.transaction? with
  | none => rfl
  | some tx => cases hs : tx.spends (b a.1) <;> simp [Option.filter, hs]

/-- A run of networks is a run of their ledgers. -/
theorem ledgers_run (hinj : P.toCrypto.UniqueNames) (htyped : M.Typed P) (h₀ : w₀.Start)
    (hr : Run (Step P M K b) w₀ tr w) :
    Run (Ledgers.Step P LedgerTransaction.DistinctOutputs b) w₀.ledgers (carried tr) w.ledgers := by
  induction hr with
  | nil => exact .nil
  | @snoc tr w w' a hr hs ih =>
    have hcommits := hs.node.commits (Nodes.Good.run_of hinj htyped (h₀.nodes _) (run_own hr a.1))
    have hpast := hs.past
    have hother : ∀ s, s ≠ a.1 → w'.ledgers.ledger s = w.ledgers.ledger s ∧ w'.past s = w.past s :=
      fun s hne => ⟨congrArg Nodes.ledger (hs.other s hne).1, (hs.other s hne).2⟩
    cases htx : a.2.transaction? with
    | none =>
      rw [htx] at hcommits hpast
      have hsame : w'.ledgers = w.ledgers := by
        have hall : ∀ s, w'.ledgers.ledger s = w.ledgers.ledger s ∧ w'.past s = w.past s := by
          intro s
          by_cases hne : s = a.1
          · exact hne ▸ ⟨hcommits, by simpa using hpast⟩
          · exact hother s hne
        exact congrArg₂ Ledgers.mk (funext fun s => (hall s).1) (funext fun s => (hall s).2)
      rw [hsame, show carried (tr ++ [a]) = carried tr by simp [carried, htx]]
      exact ih
    | some tx =>
      rw [htx] at hcommits hpast
      obtain ⟨hc, hn, hledger⟩ := hcommits
      rw [show carried (tr ++ [a]) = carried tr ++ [(a.1, tx)] by simp [carried, htx]]
      refine .snoc ih ⟨⟨hn, Ledger.commit_ok.2 ⟨hc, hledger⟩⟩, hpast, hother, fun hspends => ?_,
        fun hspends => hs.tracks tx htx hspends⟩
      exact (hs.relayed tx htx hspends).shown

/-- In every run of two networks with honest relayers, what the ledgers hold of the two hosts is a net
that took their transactions, from the chains that the hosts started as. -/
theorem net_run (hinj : P.toCrypto.UniqueNames) (htyped : M.Typed P) (hb : b .left ≠ b .right)
    (h₀ : w₀.Start) (hr : Run (Step P M K b) w₀ tr w) (hhosts : ∀ s, ¬ (w.nodes s).ledger.Lacks (b s)) :
    ∃ n₀ n : Net Side, n₀.Start ∧ Run (Net.Step P Net.TracksPeer) n₀ (taken b tr) n ∧
      ∀ s, (n s).baseId = b s ∧ (w.nodes s).ledger.Shows (n s) := by
  rw [← taken_carried]
  exact Ledgers.simulated_run hinj hb ⟨fun s => (h₀.nodes s).ledger, h₀.past⟩
    (ledgers_run hinj htyped h₀ hr) hhosts

/-- The transactions that a ledger took for its host. -/
def ofHost (b : Side → StateRef) (w : Networks) (s : Side) : List LedgerTransaction :=
  (w.past s).filter (·.spends (b s))

theorem own_taken (h₀ : w₀.Start) (hr : Run (Step P M K b) w₀ tr w) (s : Side) :
    Net.own s (taken b tr) = ofHost b w s := by
  induction hr with
  | nil => simp [taken, Net.own, ofHost, h₀.past s]
  | @snoc tr w w' a _ hs ih =>
    have hsnoc : taken b (tr ++ [a]) = taken b tr ++ taken b [a] := by simp [taken]
    have hown : Net.own s (taken b (tr ++ [a])) = ofHost b w s ++ Net.own s (taken b [a]) := by
      rw [hsnoc, ← ih]
      exact List.filterMap_append
    rw [hown]
    by_cases hne : s = a.1
    · subst hne
      rw [ofHost, ofHost, hs.past, List.filter_append]
      congr 1
      cases htx : a.2.transaction? with
      | none => simp [taken, Net.own, htx]
      | some tx =>
        by_cases hspends : tx.spends (b a.1) = true <;> simp [taken, Net.own, htx, hspends]
    · have hnone : Net.own s (taken b [a]) = [] := by
        rw [Net.own, List.filterMap_eq_nil_iff]
        intro x hx
        obtain ⟨a', ha', hx⟩ := List.mem_filterMap.1 hx
        obtain ⟨tx, -, rfl⟩ := Option.map_eq_some_iff.1 hx
        rw [List.mem_singleton.1 ha']
        exact if_neg (Ne.symm hne)
      rw [hnone, List.append_nil, ofHost, ofHost, (hs.other s hne).2]

/-- In every run of two networks with honest relayers: what a host receives, the other sent; the packets
that a channel sent are numbered from one, and the next number is not used; and on an ordered channel the
data received is the front of the data sent. -/
theorem delivered_run (hinj : P.toCrypto.UniqueNames) (hsha : Function.Injective P.sha256)
    (htyped : M.Typed P) (hb : b .left ≠ b .right) (h₀ : w₀.Start) (hr : Run (Step P M K b) w₀ tr w)
    (hhosts : ∀ s, ¬ (w.nodes s).ledger.Lacks (b s)) (s : Side) :
    (∀ p ack, (p, ack) ∈ receivedPackets (ofHost b w s) →
      ∃ q ∈ sentPackets (ofHost b w s.peer), q.Agrees p) ∧
    ∀ r m chan, (w.nodes s).ledger.states.lookup r = some ⟨.channel chan, m⟩ → chan.baseId = b s →
      Numbered Packet.sequence (sentOn chan.id.id (ofHost b w s)) ∧
      chan.nextSequenceSend = (sentOn chan.id.id (ofHost b w s)).length + 1 ∧
      (chan.end_.ordering = .ordered →
        (receivedOn chan.id.id (ofHost b w s)).map (·.1.data) <+:
          (sentFrom chan.end_.counterparty.portId chan.end_.counterparty.channelId
            (ofHost b w s.peer)).map (·.data)) := by
  obtain ⟨n₀, n, hstart, hrun, hshown⟩ := net_run hinj htyped hb h₀ hr hhosts
  rw [← own_taken h₀ hr, ← own_taken h₀ hr]
  refine ⟨fun p ack hp => Net.delivered hsha hstart hrun s p ack hp, fun r m chan hl hbase => ?_⟩
  have hcur : (n s).states.lookup chan.id = some (.channel chan) := by
    refine (hshown s).2.lookup r _ chan.id hl ?_
    rw [(hshown s).1, ← hbase]
    rfl
  have hsend := (Net.logs_run hstart hrun s).send
  exact ⟨hsend.numbered _, hsend.next _ chan hcur, Net.ordered_prefix hsha hstart hrun hcur⟩

end

/-! ### Two hosts, and a client on the first -/

namespace Pair
open Sample

def hub (s : Side) : ServiceHub where
  ourIdentity := notary (number s)
  states := [genesis s]
  distinct := List.nodup_singleton _
  notaryIdentities := [notary (number s)]
  partyFromKey _ := none

def host (s : Side) : Host :=
  { participants := [notary (number s)], baseId := base (number s), notary := notary (number s)
    nextClientSequence := 0, nextConnectionSequence := 0, nextChannelSequence := 0, modules := ∅
    clientStateFactories := (∅ : Finmap fun _ => ClientStateFactory).insert
      "ibc.lightclients.corda.v1.ClientState" .corda, bankIds := [] }

/-- A `IbcHostCreateFlow` that has built its transaction. -/
def hostCreate (s : Side) : Draft where
  hub := hub s
  flow := .hostCreate (base (number s)) [] clientStateFactoryNames
  builder :=
    { notary := notary (number s), inputs := [genesis s], outputs := [.host (host s)]
      commands := [⟨.misc (.hostCreate [] clientStateFactoryNames), [(notary (number s)).owningKey]⟩] }

/-- A `IbcClientCreateFlow` on the first host. -/
def clientCreate : Draft where
  hub := (hub .left).record ((hostCreate .left).builder.toLedgerTransaction ⟨[2]⟩)
  flow := .clientCreate (base 1) Ledger.RepeatedOutputs.msg
  builder := Flow.clientBuilder

def P : Platform := platform [] []

def K : ProofCodec := ⟨fun _ => [], fun _ => []⟩

theorem sees_ledger (s : Side) : (hub s).Sees (ledger s) := by
  intro t r participants hp
  constructor
  · intro h
    obtain ⟨rfl, rfl⟩ := StateAndRef.mk.inj (List.mem_singleton.1 h)
    cases hp
    exact ⟨Finmap.lookup_insert _, List.mem_singleton_self _⟩
  · rintro ⟨hl, -⟩
    obtain ⟨rfl, rfl⟩ := lookup_ledger hl
    exact List.mem_singleton_self _

theorem call_hostCreate (s : Side) :
    (hostCreate s).flow.call P Flow.packing (hub s) = .ok (hostCreate s).builder := by
  cases s <;> rfl

theorem commits_hostCreate (s : Side) :
    Ledger.Commits P (ledger s) ((hostCreate s).builder.toLedgerTransaction ⟨[2]⟩) := by
  cases s
  · exact ⟨by decide, by decide, by decide, by decide, by decide, by decide, fun _ => by decide⟩
  · exact ⟨by decide, by decide, by decide, by decide, by decide, by decide, fun _ => by decide⟩

/-- The nodes of a network once they have their host. -/
def founded (s : Side) : Nodes :=
  ⟨(ledger s).apply ((hostCreate s).builder.toLedgerTransaction ⟨[2]⟩), [hostCreate s]⟩

theorem finish_hostCreate (s : Side) : Nodes.Step P Flow.packing ⟨ledger s, [hostCreate s]⟩
    (.finish (hostCreate s) ⟨[2]⟩) (founded s) :=
  .finish List.mem_cons_self (Flow.finality_ok.2 ⟨(Flow.signedBy_iff (call_hostCreate s)).2
    fun _ _ he => Flow.noConfusion he, commits_hostCreate s, rfl⟩)

def clientTransaction : LedgerTransaction := Flow.clientBuilder.toLedgerTransaction ⟨[3]⟩

theorem step_build_client : Nodes.Step P Flow.packing (founded .left) (.build clientCreate)
    ⟨(founded .left).ledger, [clientCreate, hostCreate .left]⟩ :=
  .build ((sees_ledger .left).record (commits_hostCreate .left) (start_ledger .left).known) rfl

/-- The nodes of the first network once their host has a client. -/
def served : Nodes :=
  ⟨(founded .left).ledger.apply clientTransaction, [clientCreate, hostCreate .left]⟩

theorem step_finish_client : Nodes.Step P Flow.packing
    ⟨(founded .left).ledger, [clientCreate, hostCreate .left]⟩ (.finish clientCreate ⟨[3]⟩) served := by
  have hcall : clientCreate.flow.call P Flow.packing clientCreate.hub = .ok clientCreate.builder := rfl
  exact .finish List.mem_cons_self (Flow.finality_ok.2 ⟨(Flow.signedBy_iff hcall).2
    fun _ _ he => Flow.noConfusion he,
    ⟨by decide, by decide, by decide, by decide, by decide, by decide, fun _ => by decide⟩, rfl⟩)

/-- What a step leaves. -/
def next (w : Networks) (s : Side) (n : Nodes) (e : Nodes.Event) : Networks :=
  ⟨Function.update w.nodes s n, Function.update w.past s (w.past s ++ e.transaction?.toList)⟩

theorem step_next {w : Networks} {s : Side} {n : Nodes} {e : Nodes.Event}
    (h : Nodes.Step P Flow.packing (w.nodes s) e n)
    (hcarried : ∀ tx ∈ e.transaction?, tx.spends (ids s) = true →
      Relayed P K (w.past s.peer) tx ∧ Ledgers.Tracks (ids s.peer) tx) :
    Step P Flow.packing K ids w (s, e) (next w s n e) := by
  refine ⟨?_, Function.update_self .., fun t ht => ?_, ?_, ?_⟩
  · show Nodes.Step P Flow.packing (w.nodes s) e (Function.update w.nodes s n s)
    rwa [Function.update_self]
  · exact ⟨Function.update_of_ne ht _ _, Function.update_of_ne ht _ _⟩
  · exact fun tx htx hs => (hcarried tx htx hs).1
  · exact fun tx htx hs => (hcarried tx htx hs).2

def first : Networks := ⟨fun s => ⟨ledger s, []⟩, fun _ => []⟩

theorem start_first : first.Start := ⟨fun s => ⟨start_ledger s, rfl⟩, fun _ => rfl⟩

def events : List (Side × Nodes.Event) :=
  [(.left, .build (hostCreate .left)), (.left, .finish (hostCreate .left) ⟨[2]⟩),
    (.right, .build (hostCreate .right)), (.right, .finish (hostCreate .right) ⟨[2]⟩),
    (.left, .build clientCreate), (.left, .finish clientCreate ⟨[3]⟩)]

theorem relayed_client (past : List LedgerTransaction) : Relayed P K past clientTransaction := by
  intro handler signers hd proof hproof
  obtain ⟨rfl, -⟩ := Prod.mk.inj (List.cons.inj hd).1
  cases hproof

theorem tracks_client : Ledgers.Tracks (ids .right) clientTransaction := by
  intro client hclient
  rcases List.mem_cons.1 hclient with he | hclient
  · cases he
  · cases List.mem_singleton.1 hclient
    exact ⟨_, rfl, rfl⟩

theorem exists_run : ∃ w, Run (Step P Flow.packing K ids) first events w ∧
    (w.nodes .left) = served ∧ (w.nodes .right) = founded .right := by
  have hbuild : ∀ (s : Side) (w : Networks), w.nodes s = ⟨ledger s, []⟩ →
      Step P Flow.packing K ids w (s, .build (hostCreate s))
        (next w s ⟨ledger s, [hostCreate s]⟩ (.build (hostCreate s))) := by
    intro s w hw
    refine step_next ?_ fun tx htx => by cases htx
    rw [hw]
    exact .build (sees_ledger s) (call_hostCreate s)
  have hfinish : ∀ (s : Side) (w : Networks), w.nodes s = ⟨ledger s, [hostCreate s]⟩ →
      Step P Flow.packing K ids w (s, .finish (hostCreate s) ⟨[2]⟩)
        (next w s (founded s) (.finish (hostCreate s) ⟨[2]⟩)) := by
    intro s w hw
    refine step_next (hw ▸ finish_hostCreate s) fun tx htx hs => ?_
    obtain rfl := Option.some.inj htx
    cases s <;> exact absurd hs (by decide)
  have h₁ := Run.snoc .nil (hbuild .left first rfl)
  have h₂ := h₁.snoc (hfinish .left _ rfl)
  have h₃ := h₂.snoc (hbuild .right _ rfl)
  have h₄ := h₃.snoc (hfinish .right _ rfl)
  have h₅ := h₄.snoc (step_next (s := .left) step_build_client fun tx htx => by cases htx)
  have h₆ := h₅.snoc (step_next (s := .left) step_finish_client fun tx htx _ => by
    obtain rfl := Option.some.inj htx
    exact ⟨relayed_client _, tracks_client⟩)
  exact ⟨_, h₆, rfl, rfl⟩

theorem hosts {w : Networks} (hl : w.nodes .left = served) (hr : w.nodes .right = founded .right)
    (s : Side) : ¬ (w.nodes s).ledger.Lacks (ids s) := by
  intro h
  cases s with
  | left =>
    rw [hl] at h
    exact h ⟨⟨[3]⟩, 0⟩ _ hostId (Ledger.lookup_apply_output (by rfl)) rfl
  | right =>
    rw [hr] at h
    exact h ⟨⟨[2]⟩, 0⟩ _ hostId (Ledger.lookup_apply_output (by rfl)) rfl

theorem ids_ne : ids .left ≠ ids .right := by decide

/-- The net of the two hosts takes the creation of the client. -/
theorem net_run_pair : ∃ n₀ n : Net Side, n₀.Start ∧
    Run (Net.Step P Net.TracksPeer) n₀ [(.left, clientTransaction)] n ∧
    ∀ s, (n s).baseId = ids s := by
  obtain ⟨w, hrun, hl, hr⟩ := exists_run
  obtain ⟨n₀, n, hstart, hnet, hshown⟩ := net_run uniqueNames Flow.typed_packing ids_ne start_first hrun
    (hosts hl hr)
  exact ⟨n₀, n, hstart, hnet, fun s => (hshown s).1⟩

/-- Neither host receives what was not sent. -/
theorem delivered_run_pair : ∃ w, Run (Step P Flow.packing K ids) first events w ∧
    ∀ s p ack, (p, ack) ∈ receivedPackets (ofHost ids w s) →
      ∃ q ∈ sentPackets (ofHost ids w s.peer), q.Agrees p := by
  obtain ⟨w, hrun, hl, hr⟩ := exists_run
  exact ⟨w, hrun, fun s => (delivered_run uniqueNames sha256_injective Flow.typed_packing ids_ne
    start_first hrun (hosts hl hr) s).1⟩

end Pair

end Networks

end CordaIbc
