import CordaIbc.Ledger
import CordaIbc.Sample.Bech32

/-!
# A platform to run the contract on

Stand-ins for the library functions, for concrete runs: hashes and encodings are injective, keys are
their own encodings, a signature is the key and the bytes it signs, and a proof is the number of a
signed transaction in a table. What results ask of a platform holds of this one (`uniqueNames`,
`sha256_injective`, `toFungibleTokenPacketData_toJson`).
-/

namespace CordaIbc

namespace Sample

/-! ## Text -/

/-- The US-ASCII bytes of a string. -/
def ascii (s : String) : Bytes := s.toList.map fun c => UInt8.ofNat c.toNat

/-- A text as bytes: every character between marks, then an end mark. -/
def encodeText : List Char → Bytes
  | [] => [0]
  | c :: cs =>
    1 :: UInt8.ofNat (c.toNat / 65536) :: UInt8.ofNat (c.toNat / 256 % 256) ::
      UInt8.ofNat (c.toNat % 256) :: encodeText cs

/-- The text at the front, and the bytes after it. -/
def decodeText : Bytes → Option (List Char × Bytes)
  | 0 :: rest => some ([], rest)
  | 1 :: a :: b :: c :: rest =>
    (decodeText rest).map fun (cs, rest) =>
      (Char.ofNat (a.toNat * 65536 + b.toNat * 256 + c.toNat) :: cs, rest)
  | _ => none

theorem decodeText_encodeText (cs : List Char) (rest : Bytes) :
    decodeText (encodeText cs ++ rest) = some (cs, rest) := by
  induction cs with
  | nil => rfl
  | cons c cs ih =>
    have hlt : c.toNat < 1114112 := by
      rcases c.valid with h | ⟨-, h⟩
      · exact Nat.lt_trans h (by decide)
      · exact h
    have hc : c.toNat / 65536 % 256 * 65536 + c.toNat / 256 % 256 % 256 * 256 + c.toNat % 256 % 256 =
        c.toNat := by omega
    simp only [encodeText, List.cons_append, decodeText, ih, Option.map_some, UInt8.toNat_ofNat', hc,
      Char.ofNat_toNat]

def toJson (data : FungibleTokenPacketData) : Bytes :=
  encodeText data.denom.toList ++ (encodeText data.amount.toList ++
    (encodeText data.sender.toList ++ encodeText data.receiver.toList))

def toFungibleTokenPacketData (bytes : Bytes) : Result FungibleTokenPacketData := do
  let parse (bytes : Bytes) : Result (List Char × Bytes) :=
    orThrow (decodeText bytes) (.other "InvalidProtocolBufferException")
  let (denom, bytes) ← parse bytes
  let (amount, bytes) ← parse bytes
  let (sender, bytes) ← parse bytes
  let (receiver, _) ← parse bytes
  .ok ⟨.ofList denom, .ofList amount, .ofList sender, .ofList receiver⟩

theorem toFungibleTokenPacketData_toJson (data : FungibleTokenPacketData) :
    toFungibleTokenPacketData (toJson data) = .ok data := by
  have h := decodeText_encodeText data.receiver.toList []
  rw [List.append_nil] at h
  simp [toFungibleTokenPacketData, toJson, decodeText_encodeText, h, orThrow, Bind.bind, Except.bind]

/-! ## The platform -/

def crypto : Crypto where
  sha256 := id
  nameUUIDFromBytes := ascii
  bech32Decode := Bech32.decode
  decodePublicKey bytes := .ok ⟨bytes⟩
  currencyGetInstance code := .ok ⟨code⟩
  defaultFractionDigits _ := 0

theorem sha256_injective : Function.Injective crypto.sha256 := fun _ _ h => h

theorem toNat_lt_of_isIdentifierChar {c : Char} (h : isIdentifierChar c = true) :
    c.toNat < 128 := by
  have halpha : c.isAlpha = (decide (c.val ≥ 'A'.val ∧ c.val ≤ 'Z'.val) ||
      (c.val ≥ 'a'.val && c.val ≤ 'z'.val)) := rfl
  simp only [isIdentifierChar, Char.isAlphanum, halpha, Char.isDigit, Bool.or_eq_true,
    Bool.and_eq_true, decide_eq_true_eq, UInt32.le_iff_toNat_le, ge_iff_le, List.mem_cons,
    List.not_mem_nil, or_false] at h
  have hc : c.toNat = c.val.toNat := rfl
  rcases h with ((⟨-, h⟩ | ⟨-, h⟩) | ⟨-, h⟩) | h
  · exact Nat.lt_of_le_of_lt h (by decide)
  · exact Nat.lt_of_le_of_lt h (by decide)
  · exact Nat.lt_of_le_of_lt h (by decide)
  · rcases h with rfl | rfl | rfl | rfl | rfl | rfl | rfl | rfl | rfl <;> decide

theorem uniqueNames : crypto.UniqueNames := fun i j h => by
  have hinv : ∀ k : Identifier, (ascii k.id).map (fun b => Char.ofNat b.toNat) = k.id.toList :=
    fun k => by
      rw [ascii, List.map_map]
      refine (List.map_congr_left fun c hc => ?_).trans (List.map_id _)
      have hlt := toNat_lt_of_isIdentifierChar (List.all_eq_true.1 k.valid c hc)
      simp [Nat.mod_eq_of_lt (show c.toNat < 256 by omega)]
  refine Identifier.ext (String.toList_injective ?_)
  rw [← hinv i, ← hinv j]
  exact congrArg _ h

/-- No light-client service runs. -/
def fabric : FabricService where
  unpackClientState _ := .error (.other "unavailable")
  latestHeightOf _ := .error (.other "unavailable")
  unpackConsensusState _ := .error (.other "unavailable")
  clientType _ := .error (.other "unavailable")
  getLatestHeight _ := .error (.other "unavailable")
  checkHeaderAndUpdateState _ _ := .error (.other "unavailable")
  verifyClientState _ _ _ _ _ _ := .error (.other "unavailable")
  verifyClientConsensusState _ _ _ _ _ _ _ := .error (.other "unavailable")
  verifyConnectionState _ _ _ _ _ _ := .error (.other "unavailable")
  verifyChannelState _ _ _ _ _ _ _ := .error (.other "unavailable")
  verifyPacketCommitment _ _ _ _ _ _ _ _ _ _ := .error (.other "unavailable")
  verifyPacketAcknowledgement _ _ _ _ _ _ _ _ _ _ := .error (.other "unavailable")

/-- The element a one-byte index names. -/
def entry {α : Type} (table : List α) : Bytes → Result α
  | [n] => orThrow table[n.toNat]? (.other "InvalidProtocolBufferException")
  | _ => .error (.other "InvalidProtocolBufferException")

theorem mem_of_entry {α : Type} {table : List α} {bytes : Bytes} {a : α}
    (h : entry table bytes = .ok a) : a ∈ table := by
  unfold entry at h
  split at h
  · exact List.mem_of_getElem? (orThrow_ok.1 h)
  · cases h

/-- The quantity of a token in some cash. -/
def quantityOf (token : Issued) (coins : List Cash) : Nat :=
  ((coins.filter (·.amount.token = token)).map (·.amount.quantity)).sum

/-- Corda's cash contract without exits: who owns cash that is consumed signs a move; an issue is signed
by the issuer and adds to a token, and nothing else does. -/
def verifyCash (inputs outputs : List ContractState) (commands : List (String × List PublicKey)) :
    Result Unit := do
  let spent := filterIsInstance Cash inputs
  let paid := filterIsInstance Cash outputs
  let signers (name : String) := (commands.filter (·.1 = name)).flatMap (·.2)
  require (∀ c ∈ spent, c.owner.owningKey ∈ signers "Cash.Commands.Move") "the owning keys must sign"
  require (∀ c ∈ spent ++ paid, quantityOf c.amount.token spent = quantityOf c.amount.token paid ∨
    quantityOf c.amount.token spent < quantityOf c.amount.token paid ∧
      c.amount.token.issuerParty.owningKey ∈ signers "Cash.Commands.Issue") "the amounts balance"

/-- The platform on which proofs and transfers are read from tables. -/
def platform (proofs : List SignedTransaction) (transfers : List MsgTransfer) : Platform where
  toCrypto := crypto
  hashConcat a b := ⟨a.bytes ++ b.bytes⟩
  isValid key signature hash _ := signature = key.encoded ++ hash.bytes
  verifyFiltered ftx := require (ftx.componentGroups = ftx.id.bytes)
  deserialize := entry proofs
  unpackCordaClientState any := .ok ⟨any.value.take 32, 0, any.value.drop 32⟩
  unpackCordaConsensusState _ := .ok ()
  unpackMsgTransfer any := entry transfers any.value
  unpackPacket _ := .error (.other "InvalidProtocolBufferException")
  toJson
  toFungibleTokenPacketData
  verifyOthers := verifyCash
  toAcknowledgement
    | [] => .ok .notSet
    | 1 :: bytes => .ok (.result bytes)
    | _ => .ok (.error "")
  fabric

/-! ## Chains -/

/-- The notary of the `n`-th chain. -/
def notary (n : UInt8) : Party := ⟨⟨[n]⟩⟩

/-- The base id of the `n`-th chain. -/
def base (n : UInt8) : StateRef := ⟨⟨List.replicate 32 n⟩, 0⟩

/-- A client state that tracks the `n`-th chain. -/
def clientState (n : UInt8) : Any :=
  ⟨"/ibc.lightclients.corda.v1.ClientState", (base n).txhash.bytes ++ [n]⟩

def clientStateFactoryNames : List (String × String) :=
  [("ibc.lightclients.corda.v1.ClientState",
    "jp.datachain.corda.ibc.clients.corda.CordaClientStateFactory")]

def transferPort : Identifier := ⟨"transfer", by decide⟩

/-- The owner that one byte addresses. -/
def account (b : UInt8) : Address := ⟨[b], List.cons_ne_nil _ _⟩

/-- `account 97`. -/
def addressA : String := "cosmos1vyl8dkts"

/-- `account 98`. -/
def addressB : String := "cosmos1vgwetu6h"

/-- `account 99`. -/
def addressC : String := "cosmos1vvpnf64d"

/-- A transaction of the `n`-th chain that shows the given outputs, signed by its notary. -/
def shows (n : UInt8) (outputs : List ContractState) : SignedTransaction :=
  { coreTransaction := .filtered ⟨⟨[n]⟩, some (notary n), outputs, [n]⟩
    sigs := [⟨[n, n], (notary n).owningKey, [], none⟩], sigs_nonempty := nofun }

/-! ## Scripts -/

/-- A transaction to be built from the states of a ledger. -/
structure Proposal where
  inputs : List StateRef
  references : List StateRef
  command : CommandData
  signers : List PublicKey := []
  outputs : List ContractState → List ContractState := id
  notary : Party := notary 1

/-- What outputs are made from: what the handler puts out, or the inputs when the command is no
datagram. -/
def made (P : Platform) (command : CommandData) (signers : List PublicKey)
    (inStates refStates : List ContractState) : Result (List ContractState) :=
  match command with
  | .datagram handler => do
    let ctx ← handler.execute P (.create inStates refStates) signers
    .ok ctx.outStates.states
  | _ => .ok inStates

/-- The transaction of a proposal. -/
def Proposal.build (P : Platform) (n : UInt8) (l : Ledger) (p : Proposal) :
    Result LedgerTransaction := do
  let fetch (r : StateRef) : Result StateAndRef := do
    .ok ⟨← orThrow (l.states.lookup r) (.other "unknown reference"), r⟩
  let inputs ← p.inputs.mapM fetch
  let references ← p.references.mapM fetch
  let states ← made P p.command p.signers (inputs.map (·.state.data))
    (references.map (·.state.data))
  .ok { id := ⟨[n]⟩, notary := p.notary, inputs, references, outputs := p.outputs states
        commands := [⟨p.command, p.signers⟩] }

theorem Proposal.build_commands {P : Platform} {n : UInt8} {l : Ledger} {p : Proposal}
    {tx : LedgerTransaction} (h : p.build P n l = .ok tx) :
    tx.commands = [⟨p.command, p.signers⟩] := by
  simp only [build, Result.bind_ok, Except.ok.injEq] at h
  obtain ⟨_, -, _, -, _, -, rfl⟩ := h
  rfl

/-- Build and commit proposals, under the ids `n`, `n + 1`, … -/
def runScript (P : Platform) : UInt8 → Ledger → List Proposal →
    Result (List LedgerTransaction × Ledger)
  | _, l, [] => .ok ([], l)
  | n, l, p :: ps => do
    let tx ← p.build P n l
    let l ← l.commit P tx
    let (txs, l) ← runScript P (n + 1) l ps
    .ok (tx :: txs, l)

/-- A script that runs through is a run. -/
theorem run_of_script {P : Platform} {ok : LedgerTransaction → Prop} {ps : List Proposal}
    {n : UInt8} {l₀ l l' : Ledger} {t txs : List LedgerTransaction}
    (h : runScript P n l ps = .ok (txs, l')) (hok : ∀ tx ∈ txs, ok tx)
    (hr : Run (Ledger.Step P ok) l₀ t l) : Run (Ledger.Step P ok) l₀ (t ++ txs) l' := by
  induction ps generalizing n l t txs with
  | nil => cases h; rwa [List.append_nil]
  | cons p ps ih =>
    simp only [runScript, Result.bind_ok, Except.ok.injEq, Prod.mk.injEq] at h
    obtain ⟨tx, -, l₁, hc, ⟨txs', l₂⟩, hrest, rfl, rfl⟩ := h
    rw [← List.singleton_append, ← List.append_assoc]
    exact ih hrest (fun tx htx => hok tx (List.mem_cons_of_mem _ htx))
      (.snoc hr ⟨hok _ List.mem_cons_self, hc⟩)

/-- The ledger of the first chain, with its genesis. -/
def start : Ledger :=
  ⟨(∅ : Finmap fun _ => TransactionState).insert (base 1) ⟨.genesis ⟨[notary 1]⟩, notary 1⟩,
    [(base 1).txhash]⟩

theorem start_start : start.Start := by
  have h : ∀ r s, start.states.lookup r = some s →
      r = base 1 ∧ s = ⟨.genesis ⟨[notary 1]⟩, notary 1⟩ := fun r s hl => by
    by_cases hr : r = base 1
    · subst hr
      rw [start, Finmap.lookup_insert] at hl
      exact ⟨rfl, (Option.some.inj hl).symm⟩
    · rw [start, Finmap.lookup_insert_of_ne _ hr] at hl
      cases hl
  exact ⟨fun r s hl => ⟨⟨[notary 1]⟩, by rw [(h r s hl).2]⟩,
    fun r s hl => by rw [(h r s hl).1]; exact List.mem_singleton_self _⟩

/-- The `i`-th output of the `n`-th transaction of a script. -/
def out (n : UInt8) (i : Nat) : StateRef := ⟨⟨[n]⟩, i⟩

/-- The host of the first chain, with the transfer port bound to a class. -/
def hostCreate (moduleName : String) : Proposal :=
  { inputs := [base 1], references := []
    command := .misc (.hostCreate [(transferPort, moduleName)] clientStateFactoryNames)
    outputs := fun _ => match Host.create ⟨[notary 1]⟩ (base 1) (notary 1)
        [(transferPort, moduleName)] clientStateFactoryNames with
      | .ok host => [.host host]
      | .error _ => [] }

/-- A bank for the host at a reference. -/
def bankCreate (host : StateRef) (command : MiscCommands) (bank : Host → ContractState)
    (signers : List PublicKey) : Proposal :=
  { inputs := [host], references := [], command := .misc command, signers
    outputs := fun
      | [.host h] => [.host { h with bankIds := [bankId] }, bank h]
      | _ => [] }

def datagram (inputs references : List StateRef) (handler : DatagramHandler)
    (signers : List PublicKey := []) : Proposal :=
  { inputs, references, command := .datagram handler, signers }

/-! ### An open channel to the second chain -/

def clientId : String := "corda-ibc-0"

def peerHost : Host :=
  { participants := [notary 2], baseId := base 2, notary := notary 2, nextClientSequence := 1
    nextConnectionSequence := 1, nextChannelSequence := 1, modules := ∅, clientStateFactories := ∅
    bankIds := [] }

/-- The client of the second chain that tracks the first. -/
def peerClient : IbcClientState :=
  .create peerHost (Host.clientIdentifier .cordaClient 0) (.corda
    { anyClientState := clientState 1
      anyConsensusStates := (∅ : Finmap fun _ => Any).insert HEIGHT Host.defaultConsensusState
      counterpartyBaseId := base 1, counterpartyNotaryKey := (notary 1).owningKey })

def peerConnection : IbcConnection :=
  .create peerHost (Host.connectionIdentifier 0)
    { clientId, versionsList := [VERSION], state := .tryOpen
      counterparty := ⟨clientId, "connection-0", PREFIX⟩, delayPeriod := 0 }

/-- The end of a transfer channel, on either chain. -/
def channelEnd (state : ChannelOuterClass.State) (peer : String) : ChannelOuterClass.Channel :=
  { state, ordering := .unordered, counterparty := ⟨"transfer", peer⟩
    connectionHopsList := ["connection-0"], version := "ics20-1" }

def peerChannel : IbcChannel :=
  .create peerHost transferPort (Host.channelIdentifier 0) (channelEnd .tryOpen "channel-0")

/-- What the second chain shows for the handshake. -/
def handshake : SignedTransaction :=
  shows 2 [.client peerClient, .connection peerConnection, .channel peerChannel]

/-- From a host to a client, an open connection and an open channel; the proof of the handshake is
the first of the table. The host ends up at `out (n + 3) 0`, the client at `out n 1`, the
connection at `out (n + 2) 0` and the channel at `out (n + 4) 0`. -/
def openChannel (n : UInt8) (host : StateRef) : List Proposal :=
  [datagram [host] [] (.handleClientCreate ⟨clientState 2, Host.defaultConsensusState⟩),
    datagram [out n 0] [out n 1] (.handleConnOpenInit
      { clientId, counterparty := ⟨clientId, "", PREFIX⟩, version := none, delayPeriod := 0 }),
    datagram [out (n + 1) 1] [out (n + 1) 0, out n 1] (.handleConnOpenAck
      { connectionId := "connection-0", counterpartyConnectionId := "connection-0"
        version := VERSION, clientState := clientState 1, proofHeight := HEIGHT, proofTry := [0]
        proofClient := [0], proofConsensus := [0], consensusHeight := HEIGHT }),
    datagram [out (n + 1) 0] [out (n + 2) 0] (.handleChanOpenInit
      { portId := "transfer", channel := channelEnd .init "" }),
    datagram [out (n + 3) 1] [out (n + 3) 0, out (n + 2) 0, out n 1] (.handleChanOpenAck
      { portId := "transfer", channelId := "channel-0", counterpartyChannelId := "channel-0"
        counterpartyVersion := "ics20-1", proofTry := [0], proofHeight := HEIGHT })]

end Sample

end CordaIbc
