import CordaIbc.Host
import CordaIbc.Lib.Run

/-!
# The identifiers of a host

A host hands out identifiers from its three counters. Over any sequence of calls a counter is the
number of calls of its kind, so an identifier is the one of its kind under that number
(`Numbering.run`): all of them differ, and the name of a client tells its type and its number
(`generated_identifiers`).
-/

namespace CordaIbc

namespace Host

/-- The counters of a host. -/
inductive Counter where
  | client | connection | channel
deriving DecidableEq, Repr

/-- A call that hands out an identifier. -/
inductive Call where
  | client (clientType : ClientType)
  | connection
  | channel
deriving DecidableEq, Repr

def next (host : Host) : Counter → Nat
  | .client => host.nextClientSequence
  | .connection => host.nextConnectionSequence
  | .channel => host.nextChannelSequence

/-- The counter a call takes its number from. -/
def Call.counter : Call → Counter
  | .client _ => .client
  | .connection => .connection
  | .channel => .channel

/-- The identifier a call hands out under a number. -/
def Call.identifier : Call → Nat → Identifier
  | .client clientType => clientIdentifier clientType
  | .connection => connectionIdentifier
  | .channel => channelIdentifier

def generate (host : Host) : Call → Host × Identifier
  | .client clientType => host.generateClientIdentifier clientType
  | .connection => host.generateConnectionIdentifier
  | .channel => host.generateChannelIdentifier

/-- A call and its identifier, as a step of the host. -/
def Generates (host : Host) (a : Call × Identifier) (host' : Host) : Prop :=
  host.generate a.1 = (host', a.2)

/-- The calls of a counter. -/
def calls (k : Counter) (tr : List (Call × Identifier)) : Nat := tr.countP fun a => a.1.counter = k

section
variable {host host' : Host} {call call' : Call} {k : Counter} {n m : Nat} {id : Identifier}
  {tr : List (Call × Identifier)}

theorem next_generate :
    (host.generate call).1.next k = host.next k + if call.counter = k then 1 else 0 := by
  cases call <;> cases k <;> rfl

theorem id_generate : (host.generate call).2 = call.identifier (host.next call.counter) := by
  cases call <;> rfl

theorem generates_generate (call : Call) :
    Generates host (call, (host.generate call).2) (host.generate call).1 := rfl

theorem Call.identifier_inj (h : call.identifier n = call'.identifier m) : call = call' ∧ n = m := by
  have hkind := congrArg Identifier.kind h
  cases call with
  | client t =>
    cases call' with
    | client t' =>
      obtain ⟨rfl, rfl⟩ := clientIdentifier_inj h
      exact ⟨rfl, rfl⟩
    | connection => exact absurd kind_connection (client_kind_ne hkind).2.2.1
    | channel => exact absurd kind_channel (client_kind_ne hkind).2.2.2
  | connection =>
    cases call' with
    | client t' => exact absurd kind_connection (client_kind_ne hkind.symm).2.2.1
    | connection => exact ⟨rfl, connectionIdentifier_inj h⟩
    | channel =>
      have hne := kind_connection.symm.trans (hkind.trans kind_channel)
      simp at hne
  | channel =>
    cases call' with
    | client t' => exact absurd kind_channel (client_kind_ne hkind.symm).2.2.2
    | connection =>
      have hne := kind_channel.symm.trans (hkind.trans kind_connection)
      simp at hne
    | channel => exact ⟨rfl, channelIdentifier_inj h⟩

theorem Call.identifier_ne : call.identifier n ≠ hostId ∧ call.identifier n ≠ bankId := by
  refine ⟨fun h => ?_, fun h => ?_⟩
  all_goals have hkind := congrArg Identifier.kind h
  all_goals cases call
  · exact absurd kind_host (client_kind_ne hkind).1
  · have hne := kind_connection.symm.trans (hkind.trans kind_host)
    simp at hne
  · have hne := kind_channel.symm.trans (hkind.trans kind_host)
    simp at hne
  · exact absurd kind_bank (client_kind_ne hkind).2.1
  · have hne := kind_connection.symm.trans (hkind.trans kind_bank)
    simp at hne
  · have hne := kind_channel.symm.trans (hkind.trans kind_bank)
    simp at hne

/-- The counters count the calls, and the identifiers handed out are those below them. -/
structure Numbering (tr : List (Call × Identifier)) (host : Host) : Prop where
  next : ∀ k, host.next k = calls k tr
  below : ∀ a ∈ tr, ∃ n < host.next a.1.counter, a.2 = a.1.identifier n
  nodup : (tr.map Prod.snd).Nodup

theorem Numbering.step (h : Numbering tr host) (hs : Generates host (call, id) host') :
    Numbering (tr ++ [(call, id)]) host' := by
  have hhost : (host.generate call).1 = host' := congrArg Prod.fst hs
  have hid : (host.generate call).2 = id := congrArg Prod.snd hs
  rw [id_generate] at hid
  have hnext : ∀ k, host'.next k = host.next k + if call.counter = k then 1 else 0 := fun k => by
    rw [← hhost, next_generate]
  refine ⟨fun k => ?_, fun a ha => ?_, ?_⟩
  · rw [hnext, h.next, calls, calls, List.countP_append, List.countP_singleton]
    simp
  · rcases List.mem_append.1 ha with ha | ha
    · obtain ⟨n, hn, he⟩ := h.below a ha
      refine ⟨n, ?_, he⟩
      rw [hnext]
      omega
    · obtain rfl := List.mem_singleton.1 ha
      refine ⟨host.next call.counter, ?_, hid.symm⟩
      rw [hnext, if_pos rfl]
      exact Nat.lt_succ_self _
  · rw [List.map_append]
    refine List.nodup_append.2 ⟨h.nodup, List.nodup_singleton _, ?_⟩
    -- an earlier identifier has a smaller number
    rintro i hi j hj rfl
    obtain rfl : i = id := List.mem_singleton.1 hj
    obtain ⟨⟨call', i⟩, ha, rfl⟩ := List.mem_map.1 hi
    obtain ⟨n, hn, he⟩ := h.below _ ha
    obtain ⟨rfl, rfl⟩ := Call.identifier_inj (hid.trans he)
    exact Nat.lt_irrefl _ hn

theorem Numbering.run {genesis : Genesis} {ref : StateRef} {notary : Party}
    {moduleNames : List (Identifier × String)} {clientStateFactoryNames : List (String × String)}
    {host₀ : Host} (h₀ : create genesis ref notary moduleNames clientStateFactoryNames = .ok host₀)
    (hr : Run Generates host₀ tr host) : Numbering tr host := by
  refine hr.invariant (I := Numbering) ?_ fun tr host a host' _ h hs => h.step hs
  simp only [create, Result.bind_ok, Except.ok.injEq] at h₀
  obtain ⟨_, -, _, -, rfl⟩ := h₀
  refine ⟨fun k => ?_, fun a ha => ?_, List.nodup_nil⟩
  · cases k <;> rfl
  · cases ha

/-- The identifiers handed out on a run from a new host differ from each other and from the names of
the host and the bank, and the one of a client is read back as its type and the number it was made
from. -/
theorem generated_identifiers {genesis : Genesis} {ref : StateRef} {notary : Party}
    {moduleNames : List (Identifier × String)} {clientStateFactoryNames : List (String × String)}
    {host₀ : Host} (h₀ : create genesis ref notary moduleNames clientStateFactoryNames = .ok host₀)
    (hr : Run Generates host₀ tr host) (hfew : ∀ k, calls k tr < 2 ^ 63) :
    (tr.map Prod.snd).Nodup ∧
    (∀ a ∈ tr, a.2 ≠ hostId ∧ a.2 ≠ bankId ∧ a.2.id.toList.all isIdentifierChar = true) ∧
    ∀ tr₁ tr₂ clientType id, tr = tr₁ ++ (.client clientType, id) :: tr₂ →
      ∃ host₁, Run Generates host₀ tr₁ host₁ ∧ ∀ parser : Host,
        parser.parseClientIdentifier id = .ok (clientType, (host₁.nextClientSequence : Int)) := by
  have h := Numbering.run h₀ hr
  refine ⟨h.nodup, fun a ha => ?_, ?_⟩
  · obtain ⟨n, -, he⟩ := h.below a ha
    have hne : a.1.identifier n ≠ hostId ∧ a.1.identifier n ≠ bankId := Call.identifier_ne
    exact ⟨he ▸ hne.1, he ▸ hne.2, a.2.valid⟩
  · rintro tr₁ tr₂ clientType id rfl
    obtain ⟨host₁, host₂, hr₁, hs, -⟩ := hr.exists_step
    refine ⟨host₁, hr₁, fun parser => ?_⟩
    have hnext : host₁.nextClientSequence = calls .client tr₁ := (Numbering.run h₀ hr₁).next .client
    have hle : calls .client tr₁ ≤ calls .client (tr₁ ++ (.client clientType, id) :: tr₂) := by
      rw [calls, calls, List.countP_append]
      omega
    have hlt := hfew .client
    obtain rfl : clientIdentifier clientType host₁.nextClientSequence = id := congrArg Prod.snd hs
    exact parseClientIdentifier_clientIdentifier parser (by omega)

end

/-- A new host. -/
def fresh : Host :=
  { participants := [], baseId := ⟨⟨[]⟩, 0⟩, notary := ⟨⟨[]⟩⟩, nextClientSequence := 0
    nextConnectionSequence := 0, nextChannelSequence := 0, modules := ∅, clientStateFactories := ∅
    bankIds := [] }

/-- Two clients of different types and a channel between them. -/
def three : List (Call × Identifier) :=
  [(.client .localhostClient, clientIdentifier .localhostClient 0), (.channel, channelIdentifier 0),
    (.client .cordaClient, clientIdentifier .cordaClient 1)]

theorem generated_three : (three.map Prod.snd).Nodup ∧ ∃ host₁ : Host,
    fresh.parseClientIdentifier (clientIdentifier .cordaClient 1) =
      .ok (.cordaClient, (host₁.nextClientSequence : Int)) := by
  have h₀ : create ⟨[]⟩ ⟨⟨[]⟩, 0⟩ ⟨⟨[]⟩⟩ [] [] = .ok fresh := rfl
  have hr : Run Generates fresh three _ :=
    ((Run.nil.snoc (generates_generate (.client .localhostClient))).snoc
      (generates_generate .channel)).snoc (generates_generate (.client .cordaClient))
  obtain ⟨hnodup, -, hparse⟩ := generated_identifiers h₀ hr fun k => by cases k <;> decide
  obtain ⟨host₁, -, hclient⟩ := hparse (three.take 2) [] .cordaClient _ rfl
  exact ⟨hnodup, host₁, hclient fresh⟩

end Host

end CordaIbc
