import CordaIbc.Net
import CordaIbc.Sample.Chain

/-!
# Scripts on nets

A move of a script belongs to a host of the net. Before it is taken, whatever its proofs reveal is
looked up in the past of the hosts.
-/

namespace CordaIbc

open StateClass ContractState

namespace Sample

section
variable {ι : Type}

/-- What the proofs of a transaction reveal was put out by the hosts it is of. -/
def honest (P : Platform) (hosts : List ι) (n : Net ι) (tx : LedgerTransaction) : Bool :=
  tx.datagramHandlerCommands.all fun (handler, _) => handler.proofs.all fun bytes =>
    match P.deserialize bytes with
    | .error _ => true
    | .ok stx => match stx.coreTransaction with
      | .wire _ => true
      | .filtered ftx => ftx.outputs.all fun s => match s.ibc? with
        | none => true
        | some t => hosts.all fun i => (n i).baseId ≠ t.baseId ∨ s ∈ (n i).history

theorem sound_of_honest {P : Platform} {hosts : List ι} {n : Net ι} {tx : LedgerTransaction}
    (hhosts : ∀ i, i ∈ hosts) (h : honest P hosts n tx = true) : Net.Sound P n tx := by
  intro handler signers hd client cs _ _ proof hproof T _ t ht i hi
  obtain ⟨j, hj, hbase⟩ := ht.baseId
  have hext := ht.extract
  simp only [CordaClientState.extractState, Result.bind_ok] at hext
  obtain ⟨⟨stx, ftx⟩, hstx, hsingle⟩ := hext
  obtain ⟨hser, hcore, -⟩ := (CommitmentProof.toSignedTransaction_ok P).1 hstx
  have hm : up t ∈ ftx.outputs := mem_of_single hsingle
  unfold honest at h
  rw [hd] at h
  have hall := List.all_eq_true.1 (List.all_eq_true.1 h _ (List.mem_singleton_self _)) _ hproof
  simp only [hser, hcore] at hall
  have hout := List.all_eq_true.1 hall _ hm
  simp only [hj] at hout
  have hin := of_decide_eq_true (List.all_eq_true.1 hout i (hhosts i))
  exact hin.resolve_left fun hne => hne (hi.trans hbase.symm)

variable [DecidableEq ι]

def set (n : Net ι) (i : ι) (c : Chain) : Net ι := fun j => if j = i then c else n j

/-- Build and commit moves, with a check before each. -/
def runNet (P : Platform) (hosts : List ι) (good : Net ι → ι → LedgerTransaction → Bool) :
    Net ι → List (ι × Move) → Result (List (ι × LedgerTransaction) × Net ι)
  | n, [] => .ok ([], n)
  | n, (i, m) :: ms => do
    let tx ← m.build P (n i)
    require (honest P hosts n tx = true) "dishonest"
    require (good n i tx = true) "not good"
    require tx.DistinctOutputs "not distinct"
    let c ← (n i).commit P tx
    let (txs, n) ← runNet P hosts good (set n i c) ms
    .ok ((i, tx) :: txs, n)

theorem step_of_set {P : Platform} {hosts : List ι} {ok : Net ι → ι → LedgerTransaction → Prop}
    {n : Net ι} {i : ι} {tx : LedgerTransaction} {c : Chain} (hhosts : ∀ i, i ∈ hosts)
    (hhonest : honest P hosts n tx = true) (hok : ok n i tx) (hn : tx.DistinctOutputs)
    (hc : (n i).commit P tx = .ok c) :
    Net.Step P ok n (i, tx) (set n i c) where
  ok := hok
  sound := sound_of_honest hhosts hhonest
  distinct := hn
  commit := by rw [hc, set, if_pos rfl]
  other j hj := if_neg hj

/-- A script that runs through is a run. -/
theorem run_of_net {P : Platform} {hosts : List ι} {good : Net ι → ι → LedgerTransaction → Bool}
    {ok : Net ι → ι → LedgerTransaction → Prop} (hhosts : ∀ i, i ∈ hosts)
    (hok : ∀ n i tx, good n i tx = true → ok n i tx) {ms : List (ι × Move)} {n₀ n n' : Net ι}
    {t txs : List (ι × LedgerTransaction)} (h : runNet P hosts good n ms = .ok (txs, n'))
    (hr : Run (Net.Step P ok) n₀ t n) : Run (Net.Step P ok) n₀ (t ++ txs) n' := by
  induction ms generalizing n t txs with
  | nil => cases h; rwa [List.append_nil]
  | cons a ms ih =>
    obtain ⟨i, m⟩ := a
    simp only [runNet, Result.bind_ok, require_ok, Except.ok.injEq, Prod.mk.injEq] at h
    obtain ⟨tx, -, -, hhonest, -, hgood, -, hn, c, hc, ⟨txs', n₂⟩, hrest, rfl, rfl⟩ := h
    rw [← List.singleton_append, ← List.append_assoc]
    exact ih hrest (.snoc hr (step_of_set hhosts hhonest (hok n i tx hgood) hn hc))

end

/-! ### Two hosts -/

def sides : List Side := [.left, .right]

theorem mem_sides (s : Side) : s ∈ sides := by cases s <;> decide

/-- The two chains. -/
def number : Side → UInt8
  | .left => 1
  | .right => 2

/-- The clients a transaction puts out are of a base id. -/
def tracks (b : StateRef) (tx : LedgerTransaction) : Bool :=
  tx.outputs.all fun
    | .client c => match c.impl with
      | .corda cs => cs.counterpartyBaseId = b
      | .fabric _ => false
    | _ => true

theorem tracks_ok {b : StateRef} {tx : LedgerTransaction} (h : tracks b tx = true) :
    ∀ client, ContractState.client client ∈ tx.outputs →
      ∃ cs, client.impl = .corda cs ∧ cs.counterpartyBaseId = b := by
  intro client hm
  have hc := List.all_eq_true.1 h _ hm
  cases himpl : client.impl with
  | corda cs =>
    simp only [himpl] at hc
    exact ⟨cs, rfl, of_decide_eq_true hc⟩
  | fabric _ =>
    simp only [himpl] at hc
    cases hc

/-- The clients a transaction puts out track the peer. -/
def tracksPeer (n : Net Side) (s : Side) (tx : LedgerTransaction) : Bool :=
  tracks (n s.peer).baseId tx

theorem tracksPeer_ok {n : Net Side} {s : Side} {tx : LedgerTransaction}
    (h : tracksPeer n s tx = true) : Net.TracksPeer n s tx := tracks_ok h

/-- Both chains, just created. -/
def pair : Net Side := fun s => .ofHost (host (number s))

theorem start_pair : pair.Start := fun s => start_host (number s)

/-! ### An open connection -/

def liveClientOf (s : Side) : IbcClientState :=
  .create (host (number s)) hostClient (.corda
    { anyClientState := clientState (number s.peer)
      anyConsensusStates := (∅ : Finmap fun _ => Any).insert HEIGHT Host.defaultConsensusState
      counterpartyBaseId := base (number s.peer)
      counterpartyNotaryKey := (notary (number s.peer)).owningKey })

def connectionOf (s : Side) (state : Connection.State) (peer : String) : IbcConnection :=
  .create (host (number s)) (connection 0)
    { clientId, versionsList := [VERSION], state, counterparty := ⟨clientId, peer, PREFIX⟩
      delayPeriod := 0 }

/-- A channel of a side that was just created. -/
def channelOf (s : Side) (n : Nat) (e : ChannelOuterClass.Channel) : IbcChannel :=
  .create (host (number s)) transferPort (channel n) e

/-- The platform on which a proof is the number of a state in a list, shown by a side. -/
def netPlatform (shown : List (Side × ContractState)) (transfers : List MsgTransfer) : Platform :=
  platform (shown.map fun (s, t) => shows (number s) [t]) transfers

/-- What the sides show while they open a connection. -/
def linking : List (Side × ContractState) :=
  [(.left, .client (liveClientOf .left)), (.right, .client (liveClientOf .right)),
    (.left, .connection (connectionOf .left .init "")),
    (.right, .connection (connectionOf .right .tryOpen "connection-0")),
    (.left, .connection (connectionOf .left .opened "connection-0"))]

def confirmConnection (n : Nat) (proof : UInt8) : Move :=
  { inputs := [connection n], references := [hostId, hostClient]
    command := .datagram (.handleConnOpenConfirm
      { connectionId := (connection n).id, proofAck := [proof], proofHeight := HEIGHT }) }

/-- From new hosts to banks and an open connection. -/
def linked : List (Side × Move) :=
  [(.left, createBank), (.right, createBank), (.left, createClient 2), (.right, createClient 1),
    (.left, connOpenInit),
    (.right,
      { inputs := [hostId], references := [hostClient]
        command := .datagram (.handleConnOpenTry
          { clientId, previousConnectionId := "", clientState := clientState 2
            counterparty := ⟨clientId, "connection-0", PREFIX⟩, delayPeriod := 0
            counterpartyVersionsList := [VERSION], proofHeight := HEIGHT, proofInit := [2]
            proofClient := [0], proofConsensus := [0], consensusHeight := HEIGHT }) }),
    (.left, connOpenAck (connection 0)
      { connectionId := "connection-0", counterpartyConnectionId := "connection-0"
        version := VERSION, clientState := clientState 1, proofHeight := HEIGHT, proofTry := [3]
        proofClient := [1], proofConsensus := [1], consensusHeight := HEIGHT }),
    (.right, confirmConnection 0 4)]

/-- The proof of a side's client. -/
def clientProof : Side → Bytes
  | .left => [0]
  | .right => [1]

/-- A connection tried with the peer's first one, on a proof, maybe in place of a previous one. -/
def tryConnection (s : Side) (previous : Option Nat) (proof : UInt8) : Move :=
  { inputs := hostId :: (previous.map connection).toList, references := [hostClient]
    command := .datagram (.handleConnOpenTry
      { clientId, previousConnectionId := ((previous.map connection).map (·.id)).getD ""
        clientState := clientState (number s), counterparty := ⟨clientId, "connection-0", PREFIX⟩
        delayPeriod := 0, counterpartyVersionsList := [VERSION], proofHeight := HEIGHT
        proofInit := [proof], proofClient := clientProof s.peer, proofConsensus := clientProof s.peer
        consensusHeight := HEIGHT }) }

/-- A connection acknowledged towards a connection of the peer, on a proof. -/
def ackConnection (s : Side) (n : Nat) (peer : String) (proof : UInt8) : Move :=
  connOpenAck (connection n)
    { connectionId := (connection n).id, counterpartyConnectionId := peer, version := VERSION
      clientState := clientState (number s), proofHeight := HEIGHT, proofTry := [proof]
      proofClient := clientProof s.peer, proofConsensus := clientProof s.peer
      consensusHeight := HEIGHT }

/-! ### Channels -/

def initChannel (e : ChannelOuterClass.Channel) : Move :=
  { inputs := [hostId], references := [connection 0]
    command := .datagram (.handleChanOpenInit { portId := "transfer", channel := e }) }

def tryMsg (previous : String) (e : ChannelOuterClass.Channel) (proof : UInt8) : MsgChannelOpenTry :=
  { portId := "transfer", previousChannelId := previous, channel := e
    counterpartyVersion := e.version, proofInit := [proof], proofHeight := HEIGHT }

/-- A channel tried on a proof. -/
def tryChannel (e : ChannelOuterClass.Channel) (proof : UInt8) : Move :=
  { inputs := [hostId], references := [connection 0, hostClient]
    command := .datagram (.handleChanOpenTry (tryMsg "" e proof)) }

/-- A channel tried in place of a previous one. -/
def retryChannel (n : Nat) (e : ChannelOuterClass.Channel) (proof : UInt8) : Move :=
  { inputs := [hostId, channel n], references := [connection 0, hostClient]
    command := .datagram (.handleChanOpenTry (tryMsg (channel n).id e proof)) }

/-- A channel acknowledged towards a channel of the peer, on a proof. -/
def ackChannel (n : Nat) (peer : String) (proof : UInt8) : Move :=
  chanOpenAck (channel n)
    { portId := "transfer", channelId := (channel n).id, counterpartyChannelId := peer
      counterpartyVersion := "ics20-1", proofTry := [proof], proofHeight := HEIGHT }

def confirmChannel (n : Nat) (proof : UInt8) : Move :=
  { inputs := [channel n], references := [hostId, connection 0, hostClient]
    command := .datagram (.handleChanOpenConfirm
      { portId := "transfer", channelId := (channel n).id, proofAck := [proof]
        proofHeight := HEIGHT }) }

/-- The transfer with a number in the table. -/
def transfer (n : Nat) (number : UInt8) : Move :=
  onPacket (channel n) (.createOutgoingPacket ⟨"", [number]⟩)

def receive (n : Nat) (packet : ChannelOuterClass.Packet) (proof : UInt8) : Move :=
  onPacket (channel n) (.handlePacketRecv
    { packet, proofCommitment := [proof], proofHeight := HEIGHT })

def acknowledge (n : Nat) (packet : ChannelOuterClass.Packet) (acknowledgement : Bytes)
    (proof : UInt8) : Move :=
  onPacket (channel n) (.handlePacketAcknowledgement
    { packet, acknowledgement, proofAcked := [proof], proofHeight := HEIGHT })

/-! ### A transfer -/

/-- The transfer of 5 atom from one owner to another. -/
def atoms : MsgTransfer :=
  { sourcePort := "transfer", sourceChannel := "channel-0", token := ⟨"atom", "5"⟩, sender := addressA
    receiver := addressB, timeoutHeight := .default, timeoutTimestamp := 0 }

/-- Its packet, sent to a channel. -/
def packetTo (channel : String) : ChannelOuterClass.Packet :=
  { sequence := 1, sourcePort := "transfer", sourceChannel := "channel-0"
    destinationPort := "transfer", destinationChannel := channel
    data := toJson ⟨"atom", "5", addressA, addressB⟩, timeoutHeight := .default, timeoutTimestamp := 0 }

/-- The first host's channel, with the packet it stored. -/
def sender (channel : String) : IbcChannel :=
  (channelOf .left 0 (channelEnd .opened "channel-0")).sent (packetTo channel)

/-- The second host's channel, with the acknowledgement. -/
def receiver : IbcChannel :=
  { channelOf .right 0 (channelEnd .opened "channel-0") with
    receipts := {1}
    acknowledgements := (∅ : Finmap fun _ : Nat => ChannelOuterClass.Acknowledgement).insert 1 successAck }

/-- What the sides show until the second host has the packet. -/
def transferring (channel : String) : List (Side × ContractState) := linking ++
  [(.left, .channel (channelOf .left 0 (channelEnd .init ""))),
    (.right, .channel (channelOf .right 0 (channelEnd .tryOpen "channel-0"))),
    (.left, .channel (channelOf .left 0 (channelEnd .opened "channel-0"))),
    (.left, .channel (sender channel)), (.right, .channel receiver)]

def fund : Side × Move := (.left, allocate (account 97) ⟨⟨"", "atom"⟩⟩ 10)

/-- The packet is sent when the channel is open. -/
def transferred : List (Side × Move) := linked ++
  [(.left, initChannel (channelEnd .init "")), fund,
    (.right, tryChannel (channelEnd .init "channel-0") 5), (.left, ackChannel 0 "channel-0" 6),
    (.right, confirmChannel 0 7), (.left, transfer 0 0), (.right, receive 0 (packetTo "channel-0") 8)]

end Sample

end CordaIbc
