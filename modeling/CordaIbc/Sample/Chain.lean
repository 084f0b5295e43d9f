import CordaIbc.Chain
import CordaIbc.Sample

/-!
# Scripts on chains

A chain keeps its states by identifier, so a script names what it consumes and references by
identifier.
-/

namespace CordaIbc

namespace Sample

/-- A transaction to be built from the current states of a chain. -/
structure Move where
  inputs : List Identifier
  references : List Identifier
  command : CommandData
  outputs : List ContractState → List ContractState := id
  signers : List PublicKey := []
  /-- Inputs that have no identifier. -/
  fungible : List ContractState := []

def Move.build (P : Platform) (c : Chain) (m : Move) : Result LedgerTransaction := do
  let fetch (i : Identifier) : Result StateAndRef := do
    .ok ⟨⟨← orThrow (c.states.lookup i) (.other "unknown identifier"), notary 1⟩, ⟨⟨[]⟩, 0⟩⟩
  let identified ← m.inputs.mapM fetch
  let inputs := identified ++ m.fungible.map fun s => ⟨⟨s, notary 1⟩, ⟨⟨[]⟩, 0⟩⟩
  let references ← m.references.mapM fetch
  let states ← made P m.command m.signers (inputs.map (·.state.data)) (references.map (·.state.data))
  .ok { id := ⟨[]⟩, notary := notary 1, inputs, references, outputs := m.outputs states
        commands := [⟨m.command, m.signers⟩] }

section
variable {P : Platform} {c : Chain} {m : Move} {tx : LedgerTransaction}

theorem Move.build_commands (h : m.build P c = .ok tx) : tx.commands = [⟨m.command, m.signers⟩] := by
  simp only [build, Result.bind_ok, Except.ok.injEq] at h
  obtain ⟨_, -, _, -, _, -, rfl⟩ := h
  rfl

theorem Move.commands_of_build (h : m.build P c = .ok tx) {handler : DatagramHandler}
    (hm : m.command = .datagram handler) : tx.datagramHandlerCommands = [(handler, m.signers)] := by
  simp [LedgerTransaction.datagramHandlerCommands, build_commands h, hm]

theorem Move.datagram_of_build (h : m.build P c = .ok tx) {handler : DatagramHandler}
    {signers : List PublicKey} (hd : tx.datagramHandlerCommands = [(handler, signers)]) :
    m.command = .datagram handler := by
  rw [LedgerTransaction.datagramHandlerCommands, build_commands h] at hd
  cases hm : m.command <;> simp [hm] at hd
  rw [hd.1]

theorem Move.misc_of_build (h : m.build P c = .ok tx) {command : MiscCommands}
    {signers : List PublicKey} (hd : tx.miscCommands = [(command, signers)]) :
    m.command = .misc command := by
  rw [LedgerTransaction.miscCommands, build_commands h] at hd
  cases hm : m.command <;> simp [hm] at hd
  rw [hd.1]

end

/-- Build and commit moves. -/
def runMoves (P : Platform) : Chain → List Move → Result (List LedgerTransaction × Chain)
  | c, [] => .ok ([], c)
  | c, m :: ms => do
    let tx ← m.build P c
    require tx.DistinctOutputs "not distinct"
    let c ← c.commit P tx
    let (txs, c) ← runMoves P c ms
    .ok (tx :: txs, c)

/-- A script that runs through is a run. -/
theorem run_of_moves {P : Platform} {ok : Chain → LedgerTransaction → Prop} {ms : List Move}
    {c₀ c c' : Chain} {t txs : List LedgerTransaction} (h : runMoves P c ms = .ok (txs, c'))
    (hok : ∀ m ∈ ms, ∀ c tx, m.build P c = .ok tx → ok c tx) (hr : Run (Chain.Step P ok) c₀ t c) :
    Run (Chain.Step P ok) c₀ (t ++ txs) c' := by
  induction ms generalizing c t txs with
  | nil => cases h; rwa [List.append_nil]
  | cons m ms ih =>
    simp only [runMoves, Result.bind_ok, require_ok, Except.ok.injEq, Prod.mk.injEq] at h
    obtain ⟨tx, hbuild, -, hn, c₁, hc, ⟨txs', c₂⟩, hrest, rfl, rfl⟩ := h
    rw [← List.singleton_append, ← List.append_assoc]
    exact ih hrest (fun m hm => hok m (List.mem_cons_of_mem _ hm))
      (.snoc hr ⟨hok m List.mem_cons_self c tx hbuild, hn, hc⟩)

/-- A script and one move more. -/
def runThen (P : Platform) (c : Chain) (ms : List Move) (m : Move) :
    Result (List LedgerTransaction × Chain × LedgerTransaction × Chain) := do
  let (txs, c) ← runMoves P c ms
  let tx ← m.build P c
  require tx.DistinctOutputs "not distinct"
  let c' ← c.commit P tx
  .ok (txs, c, tx, c')

theorem run_of_then {P : Platform} {ok : Chain → LedgerTransaction → Prop} {ms : List Move} {m : Move}
    {c₀ c c' : Chain} {txs : List LedgerTransaction} {tx : LedgerTransaction}
    (h : runThen P c₀ ms m = .ok (txs, c, tx, c'))
    (hok : ∀ m ∈ ms, ∀ c tx, m.build P c = .ok tx → ok c tx) :
    Run (Chain.Step P ok) c₀ txs c ∧ m.build P c = .ok tx ∧ c.Commits P tx c' := by
  simp only [runThen, Result.bind_ok, require_ok, Except.ok.injEq, Prod.mk.injEq] at h
  obtain ⟨⟨txs', c₁⟩, hrun, tx', hbuild, -, hn, c₂, hc, rfl, rfl, rfl, rfl⟩ := h
  exact ⟨run_of_moves hrun hok .nil, hbuild, hn, hc⟩

/-! ### Hosts -/

/-- The host of the `n`-th chain, with the transfer port bound to `ics20.Module`. -/
def host (n : UInt8) : Host :=
  { participants := [notary n], baseId := base n, notary := notary n, nextClientSequence := 0
    nextConnectionSequence := 0, nextChannelSequence := 0
    modules := (∅ : Finmap fun _ => Module).insert transferPort .ics20
    clientStateFactories := (∅ : Finmap fun _ => ClientStateFactory).insert
      "ibc.lightclients.corda.v1.ClientState" .corda, bankIds := [] }

theorem start_host (n : UInt8) : (Chain.ofHost (host n)).Start := by
  refine ⟨⟨[notary n]⟩, base n, notary n, [(transferPort, "jp.datachain.corda.ibc.ics20.Module")],
    clientStateFactoryNames, host n, ?_, rfl⟩
  simp [Host.create, Host.instances, Module.createInstance, ClientStateFactory.createInstance,
    clientStateFactoryNames, host, Bind.bind, Except.bind]

/-! ### Moves -/

def hostClient : Identifier := Host.clientIdentifier .cordaClient 0

def connection (n : Nat) : Identifier := Host.connectionIdentifier n

def channel (n : Nat) : Identifier := Host.channelIdentifier n

def createBank : Move :=
  { inputs := [hostId], references := [], command := .misc .bankCreate
    outputs := fun
      | [.host h] => [.host { h with bankIds := [bankId] }, .bank (.create h)]
      | _ => [] }

def createCashBank (owner : Party) : Move :=
  { inputs := [hostId], references := [], command := .misc (.cashBankCreate owner)
    outputs := fun
      | [.host h] => [.host { h with bankIds := [bankId] }, .cashBank (.create h owner)]
      | _ => []
    signers := [owner.owningKey] }

def allocate (owner : Address) (denom : Denom) (amount : Int) : Move :=
  { inputs := [bankId], references := [], command := .misc (.fundAllocate owner denom amount)
    outputs := fun
      | [.bank b] => [.bank (b.allocate owner denom amount)]
      | _ => [] }

/-- A client of the `n`-th chain. -/
def createClient (n : UInt8) : Move :=
  { inputs := [hostId], references := []
    command := .datagram (.handleClientCreate ⟨clientState n, Host.defaultConsensusState⟩) }

def connOpenInit : Move :=
  { inputs := [hostId], references := [hostClient]
    command := .datagram (.handleConnOpenInit
      { clientId, counterparty := ⟨clientId, "", PREFIX⟩, version := none, delayPeriod := 0 }) }

def connOpenAck (i : Identifier) (msg : MsgConnectionOpenAck) : Move :=
  { inputs := [i], references := [hostId, hostClient], command := .datagram (.handleConnOpenAck msg) }

def chanOpenInit : Move :=
  { inputs := [hostId], references := [connection 0]
    command := .datagram (.handleChanOpenInit
      { portId := "transfer", channel := channelEnd .init "" }) }

def chanOpenAck (i : Identifier) (msg : MsgChannelOpenAck) : Move :=
  { inputs := [i], references := [hostId, connection 0, hostClient]
    command := .datagram (.handleChanOpenAck msg) }

/-- A packet handler on a channel and the bank. -/
def onPacket (i : Identifier) (handler : DatagramHandler) : Move :=
  { inputs := [bankId, i], references := [hostId, connection 0, hostClient]
    command := .datagram handler }

/-- From a new host to a bank, an open connection and an open channel to the second chain, whose
part of the handshake is the first proof of the table. -/
def opened : List Move :=
  [createBank, createClient 2, connOpenInit,
    connOpenAck (connection 0)
      { connectionId := "connection-0", counterpartyConnectionId := "connection-0"
        version := VERSION, clientState := clientState 1, proofHeight := HEIGHT, proofTry := [0]
        proofClient := [0], proofConsensus := [0], consensusHeight := HEIGHT },
    chanOpenInit,
    chanOpenAck (channel 0)
      { portId := "transfer", channelId := "channel-0", counterpartyChannelId := "channel-0"
        counterpartyVersion := "ics20-1", proofTry := [0], proofHeight := HEIGHT }]

end Sample

end CordaIbc
