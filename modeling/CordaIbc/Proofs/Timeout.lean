import CordaIbc.Sample.Life
import Mathlib.Data.Prod.Lex

/-!
# Timeouts of packets

Heights and timestamps are `uint64`s that the contract holds as `Long`s and compares as such. Two
`Long`s of the same sign compare as the `uint64`s do, two of different signs the other way. So the
timeout guards of `sendPacket` and `recvPacket` follow the rule of the protocol as long as what
decides them has one sign (`Handler.timeout_guards_iff`).
-/

namespace CordaIbc

open ChannelOuterClass (Packet Acknowledgement)

/-! ## The order of the wire -/

/-- The `uint64` a `Long` holds. -/
def unsigned (a : Long) : Nat := a.toUInt64.toNat

def SameSign (a b : Long) : Prop := a < 0 ↔ b < 0

section
variable {a b : Long}

theorem toInt_eq_unsigned :
    a.toInt = if unsigned a < 2 ^ 63 then (unsigned a : Int) else unsigned a - 2 ^ 64 := by
  have h : a.toInt = _ := BitVec.toInt_eq_toNat_cond a.toBitVec
  rw [h, show a.toBitVec.toNat = unsigned a from rfl]
  split <;> split <;> omega

theorem neg_iff_unsigned : a < 0 ↔ 2 ^ 63 ≤ unsigned a := by
  have hlt : unsigned a < 2 ^ 64 := a.toUInt64.toNat_lt
  rw [Int64.lt_iff_toInt_lt, toInt_eq_unsigned, Int64.toInt_zero]
  split <;> omega

theorem unsigned_injective : Function.Injective unsigned := by
  intro a b h
  refine Int64.toInt_inj.1 ?_
  rw [toInt_eq_unsigned, toInt_eq_unsigned, h]

theorem unsigned_eq_zero : unsigned a = 0 ↔ a = 0 :=
  ⟨fun h => unsigned_injective h, fun h => by rw [h]; rfl⟩

theorem lt_iff_unsigned : a < b ↔ (SameSign a b ↔ unsigned a < unsigned b) := by
  have ha : unsigned a < 2 ^ 64 := a.toUInt64.toNat_lt
  have hb : unsigned b < 2 ^ 64 := b.toUInt64.toNat_lt
  have hsign : SameSign a b ↔ (2 ^ 63 ≤ unsigned a ↔ 2 ^ 63 ≤ unsigned b) := by
    rw [SameSign, neg_iff_unsigned, neg_iff_unsigned]
  rw [hsign, Int64.lt_iff_toInt_lt, toInt_eq_unsigned, toInt_eq_unsigned]
  split <;> split <;> omega

end

namespace Height

/-- A height as it is on the wire, in lexicographic order. -/
def wire (h : Height) : ℕ ×ₗ ℕ := toLex (unsigned h.revisionNumber, unsigned h.revisionHeight)

/-- The numbers that decide a comparison have one sign. -/
def Comparable (a b : Height) : Prop :=
  if a.revisionNumber = b.revisionNumber then SameSign a.revisionHeight b.revisionHeight
  else SameSign a.revisionNumber b.revisionNumber

variable {a b : Height}

theorem wire_le_iff : b.wire ≤ a.wire ↔ unsigned b.revisionNumber < unsigned a.revisionNumber ∨
    b.revisionNumber = a.revisionNumber ∧
      unsigned b.revisionHeight ≤ unsigned a.revisionHeight := by
  rw [wire, wire, Prod.Lex.toLex_le_toLex]
  exact or_congr_right (and_congr_left fun _ => unsigned_injective.eq_iff)

theorem lt_iff_wire : a.lt b = true ↔ (a.Comparable b ↔ ¬ b.wire ≤ a.wire) := by
  rw [wire_le_iff, lt, Comparable]
  split
  · rename_i h
    have hlt : ¬ unsigned b.revisionNumber < unsigned a.revisionNumber := by
      rw [h]
      exact Nat.lt_irrefl _
    rw [decide_eq_true_eq, lt_iff_unsigned]
    refine iff_congr Iff.rfl ?_
    rw [or_iff_right hlt, and_iff_right h.symm, Nat.not_le]
  · rename_i h
    have hne : unsigned a.revisionNumber ≠ unsigned b.revisionNumber := fun heq =>
      h (unsigned_injective heq)
    rw [decide_eq_true_eq, lt_iff_unsigned]
    refine iff_congr Iff.rfl ?_
    rw [or_iff_left fun h' => h h'.1.symm]
    omega

end Height

/-! ## The rule -/

/-- A height has reached the timeout height, if there is one. -/
def HeightPassed (height timeoutHeight : Height) : Prop :=
  timeoutHeight ≠ .default ∧ timeoutHeight.wire ≤ height.wire

/-- A timestamp, where there is one, has reached the timeout timestamp, if there is one. -/
def TimestampPassed (timestamp : Option Long) (timeoutTimestamp : Long) : Prop :=
  timeoutTimestamp ≠ 0 ∧ ∃ t ∈ timestamp, unsigned timeoutTimestamp ≤ unsigned t

def TimedOut (height : Height) (timestamp : Option Long) (packet : Packet) : Prop :=
  HeightPassed height packet.timeoutHeight ∨ TimestampPassed timestamp packet.timeoutTimestamp

/-- The height guard is right. -/
def HeightFits (height timeoutHeight : Height) : Prop :=
  timeoutHeight = .default ∨ height.Comparable timeoutHeight

/-- The timestamp guard is right. -/
def TimestampFits (timestamp : Option Long) (timeoutTimestamp : Long) : Prop :=
  timeoutTimestamp = 0 ∨ ∀ t ∈ timestamp, SameSign t timeoutTimestamp

/-- Both guards are right, or one that is right rejects, or both are wrong and one limit has
passed. -/
def GuardsFit (height : Height) (timestamp : Option Long) (packet : Packet) : Prop :=
  let h := HeightFits height packet.timeoutHeight
  let t := TimestampFits timestamp packet.timeoutTimestamp
  let hp := HeightPassed height packet.timeoutHeight
  let tp := TimestampPassed timestamp packet.timeoutTimestamp
  h ∧ t ∨ h ∧ hp ∨ t ∧ tp ∨ ¬ h ∧ ¬ t ∧ ¬ (hp ↔ tp)

section
variable {height timeoutHeight : Height} {timestamp : Option Long} {timeout : Long} {packet : Packet}

theorem heightGuard_iff : timeoutHeight.isZero = true ∨ height.lt timeoutHeight = true ↔
    (HeightFits height timeoutHeight ↔ ¬ HeightPassed height timeoutHeight) := by
  unfold HeightFits HeightPassed
  rw [Height.lt_iff_wire, Height.isZero, decide_eq_true_eq]
  by_cases h : timeoutHeight = .default <;> simp [h]

theorem timestampGuard_iff : timeout = 0 ∨ (∀ t ∈ timestamp, t < timeout) ↔
    (TimestampFits timestamp timeout ↔ ¬ TimestampPassed timestamp timeout) := by
  unfold TimestampFits TimestampPassed
  by_cases h : timeout = 0
  · simp [h]
  · cases timestamp with
    | none => simp [h]
    | some t => simp [h, lt_iff_unsigned]

/-- The guards follow the rule together. -/
theorem guards_iff : ((packet.timeoutHeight.isZero = true ∨ height.lt packet.timeoutHeight = true) ∧
      (packet.timeoutTimestamp = 0 ∨ ∀ t ∈ timestamp, t < packet.timeoutTimestamp) ↔
        ¬ TimedOut height timestamp packet) ↔ GuardsFit height timestamp packet := by
  rw [heightGuard_iff, timestampGuard_iff]
  unfold TimedOut GuardsFit
  by_cases h : HeightFits height packet.timeoutHeight <;>
    by_cases t : TimestampFits timestamp packet.timeoutTimestamp <;>
    by_cases hp : HeightPassed height packet.timeoutHeight <;>
    by_cases tp : TimestampPassed timestamp packet.timeoutTimestamp <;> simp [h, t, hp, tp]

end

/-! ## The guards of the handlers -/

namespace Handler

variable (P : Platform) (ctx : Context)

/-- What `recvPacket` checks before the timeouts. -/
def recvPacket.identify (packet : Packet) :
    Result (Host × IbcChannel × IbcConnection × IbcClientState) := do
  let host ← ctx.getReference Host
  let chan ← ctx.getInput IbcChannel
  requireId chan.portId packet.destinationPort
  requireId chan.id packet.destinationChannel
  let conn ← ctx.getReference IbcConnection
  requireId conn.id (← single chan.end_.connectionHopsList)
  let client ← ctx.getReference IbcClientState
  requireId client.id conn.end_.clientId
  require (chan.end_.state = .opened) "channel state is not OPEN"
  require (packet.sourcePort = chan.end_.counterparty.portId)
    "packet source port doesn't match the counterparty's port"
  require (packet.sourceChannel = chan.end_.counterparty.channelId)
    "packet source channel doesn't match the counterparty's channel"
  require (conn.end_.state = .opened) "connection state is not OPEN"
  .ok (host, chan, conn, client)

def recvPacket.timeoutGuards (host : Host) (packet : Packet) : Result Unit := do
  let selfHeight := host.getCurrentHeight
  let timeoutHeight := packet.timeoutHeight
  require (timeoutHeight.isZero ∨ selfHeight.lt timeoutHeight)
    "block height >= packet timeout height"
  require (packet.timeoutTimestamp = 0 ∨ host.currentTimestamp < packet.timeoutTimestamp)
    "block timestamp >= packet timeout timestamp"

/-- What `recvPacket` does after the timeouts. -/
def recvPacket.accept (packet : Packet) (proof : CommitmentProof) (proofHeight : Height)
    (acknowledgement : Acknowledgement) (chan : IbcChannel) (conn : IbcConnection)
    (client : IbcClientState) : Result Context := do
  client.impl.verifyPacketCommitment P proofHeight conn.end_.delayPeriod 0
    conn.end_.counterparty.prefix_ proof (← Identifier.of packet.sourcePort)
    (← Identifier.of packet.sourceChannel) packet.sequence (packet.toCommitment P.toCrypto)
  let chan := { chan with
    acknowledgements := chan.acknowledgements.insert packet.sequence acknowledgement }
  let chan ← recvPacket.receive chan packet
  ctx.addOutput chan

theorem recvPacket_eq (packet : Packet) (proof : CommitmentProof) (proofHeight : Height)
    (acknowledgement : Acknowledgement) :
    recvPacket P ctx packet proof proofHeight acknowledgement =
      (recvPacket.identify ctx packet >>= fun (host, chan, conn, client) =>
        recvPacket.timeoutGuards host packet >>= fun _ =>
          recvPacket.accept P ctx packet proof proofHeight acknowledgement chan conn client) := by
  unfold recvPacket recvPacket.identify recvPacket.timeoutGuards recvPacket.accept
  simp only [bind_assoc, Result.ok_bind]

/-- What `sendPacket` checks before the timeouts. -/
def sendPacket.identify (packet : Packet) :
    Result (Host × IbcChannel × IbcConnection × IbcClientState) := do
  let host ← ctx.getReference Host
  let chan ← ctx.getInput IbcChannel
  requireId chan.portId packet.sourcePort
  requireId chan.id packet.sourceChannel
  let conn ← ctx.getReference IbcConnection
  requireId conn.id (← single chan.end_.connectionHopsList)
  let client ← ctx.getReference IbcClientState
  requireId client.id conn.end_.clientId
  require (chan.end_.state ≠ .closed) "channel is CLOSED"
  require (packet.destinationPort = chan.end_.counterparty.portId)
    "packet destination port doesn't match the counterparty's port"
  require (packet.destinationChannel = chan.end_.counterparty.channelId)
    "packet destination channel doesn't match the counterparty's channel"
  .ok (host, chan, conn, client)

def sendPacket.timeoutGuards (host : Host) (client : IbcClientState) (clientId : String)
    (packet : Packet) : Result Unit := do
  let latestHeight ← client.impl.getLatestHeight P
  let timeoutHeight := packet.timeoutHeight
  require (timeoutHeight.isZero ∨ latestHeight.lt timeoutHeight)
    "receiving chain block height >= packet timeout height"
  sendPacket.checkTimestamp P host client clientId latestHeight packet

/-- What `sendPacket` does after the timeouts. -/
def sendPacket.accept (packet : Packet) (chan : IbcChannel) : Result Context := do
  require (packet.sequence = chan.nextSequenceSend) "packet sequence ≠ next send sequence"
  ctx.addOutput { chan with
    nextSequenceSend := chan.nextSequenceSend + 1
    packets := chan.packets.insert packet.sequence packet }

theorem sendPacket_eq (packet : Packet) :
    sendPacket P ctx packet =
      (sendPacket.identify ctx packet >>= fun (host, chan, conn, client) =>
        sendPacket.timeoutGuards P host client conn.end_.clientId packet >>= fun _ =>
          sendPacket.accept ctx packet chan) := by
  unfold sendPacket sendPacket.identify sendPacket.timeoutGuards sendPacket.accept
  simp only [bind_assoc, Result.ok_bind]

/-- What `sendPacket` knows of the receiving chain: the latest height of the client and, when its
identifier is of a type with timestamps, the timestamp at that height. -/
structure sendPacket.Knows (host : Host) (client : IbcClientState) (clientId : String)
    (height : Height) (timestamp : Option Long) : Prop where
  latestHeight : client.impl.getLatestHeight P = .ok height
  latestTimestamp : ∃ clientType n,
    (Identifier.of clientId >>= host.parseClientIdentifier) = .ok (clientType, n) ∧
      if clientType ≠ .soloMachineClient ∧ clientType ≠ .cordaClient then
        ∃ t, client.impl.timestampAt P height = .ok t ∧ timestamp = some t
      else timestamp = none

variable {P} {ctx} {host : Host} {packet : Packet}

theorem recvPacket.timeoutGuards_ok : recvPacket.timeoutGuards host packet = .ok () ↔
    (packet.timeoutHeight.isZero = true ∨ host.getCurrentHeight.lt packet.timeoutHeight = true) ∧
      (packet.timeoutTimestamp = 0 ∨
        ∀ t ∈ some host.currentTimestamp, t < packet.timeoutTimestamp) := by
  simp only [recvPacket.timeoutGuards, Result.bind_ok, require_ok, Option.mem_some_iff, forall_eq',
    exists_const]

theorem sendPacket.timeoutGuards_ok {client : IbcClientState} {clientId : String} {height : Height}
    {timestamp : Option Long} (h : sendPacket.Knows P host client clientId height timestamp) :
    sendPacket.timeoutGuards P host client clientId packet = .ok () ↔
      (packet.timeoutHeight.isZero = true ∨ height.lt packet.timeoutHeight = true) ∧
        (packet.timeoutTimestamp = 0 ∨ ∀ t ∈ timestamp, t < packet.timeoutTimestamp) := by
  obtain ⟨hheight, clientType, n, hparse, htimestamp⟩ := h
  obtain ⟨id, hid, hparse⟩ := Result.bind_ok.1 hparse
  simp only [sendPacket.timeoutGuards, sendPacket.checkTimestamp, hheight, Result.ok_bind, hid,
    hparse, Result.bind_ok, require_ok, exists_const]
  refine and_congr_right fun _ => ?_
  split at htimestamp
  · rename_i htype
    obtain ⟨t, ht, rfl⟩ := htimestamp
    rw [if_pos htype, ht, Result.ok_bind, require_ok]
    simp only [Option.mem_some_iff, forall_eq']
  · rename_i htype
    subst htimestamp
    rw [if_neg htype]
    simp [pure, Except.pure]

/-! ### A host is at its first height and at time zero -/

theorem heightGuard_HEIGHT {h : Height} : h.isZero = true ∨ HEIGHT.lt h = true ↔
    h ≠ HEIGHT ∧ 0 ≤ h.revisionNumber ∧ (h.revisionNumber = 0 → 0 ≤ h.revisionHeight) := by
  obtain ⟨number, height⟩ := h
  have hone : (1 : Long).toInt = 1 := rfl
  simp only [Height.isZero, Height.lt, HEIGHT, Height.default, ne_eq, Height.mk.injEq,
    decide_eq_true_eq, ← Int64.toInt_inj, Int64.le_iff_toInt_le, Int64.lt_iff_toInt_lt,
    Int64.toInt_zero, hone]
  by_cases hn : number.toInt = 0
  · rw [if_pos hn.symm, decide_eq_true_eq]
    omega
  · rw [if_neg (Ne.symm hn), decide_eq_true_eq]
    omega

theorem heightPassed_HEIGHT {h : Height} : HeightPassed HEIGHT h ↔ h = HEIGHT := by
  obtain ⟨number, height⟩ := h
  have hzero : unsigned (0 : Long) = 0 := rfl
  have hone : unsigned (1 : Long) = 1 := rfl
  simp only [HeightPassed, Height.wire_le_iff, HEIGHT, Height.default, ne_eq, Height.mk.injEq,
    ← unsigned_injective.eq_iff (f := unsigned), hzero, hone]
  omega

theorem not_timestampPassed_zero {t : Long} : ¬ TimestampPassed (some 0) t := by
  rintro ⟨hne, s, hs, hle⟩
  cases hs
  exact hne (unsigned_eq_zero.1 (Nat.le_zero.1 hle))

theorem timestampGuard_zero {t : Long} : (t = 0 ∨ ∀ s ∈ some (0 : Long), s < t) ↔ 0 ≤ t := by
  have hall : (∀ s ∈ some (0 : Long), s < t) ↔ 0 < t := by simp
  rw [hall, ← Int64.toInt_inj, Int64.le_iff_toInt_le, Int64.lt_iff_toInt_lt, Int64.toInt_zero]
  omega

theorem guardsFit_host : GuardsFit host.getCurrentHeight (some host.currentTimestamp) packet ↔
    packet.timeoutHeight = HEIGHT ∨
      0 ≤ packet.timeoutTimestamp ∧ 0 ≤ packet.timeoutHeight.revisionNumber ∧
        (packet.timeoutHeight.revisionNumber = 0 → 0 ≤ packet.timeoutHeight.revisionHeight) := by
  rw [← guards_iff, show host.getCurrentHeight = HEIGHT from rfl,
    show host.currentTimestamp = 0 from rfl, heightGuard_HEIGHT, timestampGuard_zero, TimedOut,
    heightPassed_HEIGHT, or_iff_left not_timestampPassed_zero]
  tauto

/-- The packets a Corda client lets pass are those that pass on the height. -/
theorem timeoutGuards_of_sendPacket {ctx' : Context} {client : IbcClientState}
    {state : CordaClientState} (h : sendPacket P ctx packet = .ok ctx')
    (hclient : ctx.getReference IbcClientState = .ok client) (hcorda : client.impl = .corda state) :
    packet.timeoutHeight.isZero = true ∨ HEIGHT.lt packet.timeoutHeight = true := by
  obtain ⟨chan, hsends, -⟩ := sendPacket_ok h
  obtain ⟨conn, client', -, ⟨hclient', -⟩, height, hheight, hguard⟩ := hsends.client
  obtain rfl := Except.ok.inj (hclient'.symm.trans hclient)
  rw [hcorda] at hheight
  obtain rfl := Except.ok.inj hheight
  exact hguard

/-- When the guards of `recvPacket` and of `sendPacket` follow the rule, and which of the packets sent
over a Corda client pass the guards of `recvPacket`. -/
theorem timeout_guards_iff (host : Host) (packet : Packet) :
    ((recvPacket.timeoutGuards host packet = .ok () ↔
        ¬ TimedOut host.getCurrentHeight (some host.currentTimestamp) packet) ↔
      packet.timeoutHeight = HEIGHT ∨
        0 ≤ packet.timeoutTimestamp ∧ 0 ≤ packet.timeoutHeight.revisionNumber ∧
          (packet.timeoutHeight.revisionNumber = 0 → 0 ≤ packet.timeoutHeight.revisionHeight)) ∧
    (∀ (P : Platform) (client : IbcClientState) (clientId : String) (height : Height)
        (timestamp : Option Long), sendPacket.Knows P host client clientId height timestamp →
      ((sendPacket.timeoutGuards P host client clientId packet = .ok () ↔
        ¬ TimedOut height timestamp packet) ↔ GuardsFit height timestamp packet)) ∧
    (∀ (P : Platform) (ctx ctx' : Context) (client : IbcClientState) (state : CordaClientState),
      sendPacket P ctx packet = .ok ctx' → ctx.getReference IbcClientState = .ok client →
      client.impl = .corda state →
      (recvPacket.timeoutGuards host packet = .ok () ↔ 0 ≤ packet.timeoutTimestamp)) := by
  refine ⟨?_, ?_, ?_⟩
  · rw [← guardsFit_host, ← guards_iff, recvPacket.timeoutGuards_ok]
  · intro P client clientId height timestamp hknows
    rw [sendPacket.timeoutGuards_ok hknows]
    exact guards_iff
  · intro P ctx ctx' client state h hclient hcorda
    rw [recvPacket.timeoutGuards_ok]
    have hheight := timeoutGuards_of_sendPacket h hclient hcorda
    rw [show host.getCurrentHeight = HEIGHT from rfl, show host.currentTimestamp = 0 from rfl,
      timestampGuard_zero]
    exact and_iff_right hheight

end Handler

/-! ### A timeout beyond the year 2262 -/

namespace FarTimeout
open Sample

def P : Platform := platform [] []

def chan : IbcChannel :=
  .create (host 1) transferPort (channel 0) (channelEnd .opened "channel-0")

def ctx : Context := .create [.channel chan] references

/-- A packet that times out at a `uint64` timestamp, in nanoseconds. -/
def packet (timeoutTimestamp : Long) : Packet :=
  { sequence := 1, sourcePort := "transfer", sourceChannel := "channel-0"
    destinationPort := "transfer", destinationChannel := "channel-0"
    data := toJson ⟨"atom", "3", addressA, "x"⟩, timeoutHeight := .default, timeoutTimestamp }

theorem sent_far : (Handler.sendPacket P ctx (packet (.ofNat (2 ^ 63)))).isOk = true := by
  decide +kernel

theorem sent_near : (Handler.sendPacket P ctx (packet 1)).isOk = true := by decide +kernel

/-- A packet is sent over a Corda client, has not timed out at its counterparty, and is rejected there
for its timeout. -/
theorem far_rejected : ∃ (P : Platform) (ctx ctx' : Context) (client : IbcClientState)
    (state : CordaClientState) (host : Host) (packet : Packet),
    Handler.sendPacket P ctx packet = .ok ctx' ∧ ctx.getReference IbcClientState = .ok client ∧
      client.impl = .corda state ∧
      ¬ TimedOut host.getCurrentHeight (some host.currentTimestamp) packet ∧
      Handler.recvPacket.timeoutGuards host packet =
        .error (.illegalArgument "block timestamp >= packet timeout timestamp") := by
  have hsent := sent_far
  rcases h : Handler.sendPacket P ctx (packet (.ofNat (2 ^ 63))) with e | ctx'
  · rw [h] at hsent
    cases hsent
  · refine ⟨P, ctx, ctx', liveClient, _, peerHost, _, h, rfl, rfl, ?_, by decide +kernel⟩
    rintro (⟨hne, -⟩ | htimestamp)
    · exact hne rfl
    · exact Handler.not_timestampPassed_zero htimestamp

/-- A platform on which every Fabric client is at one height and one timestamp, in nanoseconds. -/
def fabricAt (timestamp : Long) : Platform :=
  { P with fabric := { Sample.fabric with
      getLatestHeight := fun _ => .ok HEIGHT
      unpackConsensusState := fun _ => .ok timestamp } }

def fabricId : Identifier := Host.clientIdentifier .fabricClient 0

def fabricClient : IbcClientState :=
  .create (host 1) fabricId (.fabric
    { anyClientState := ⟨"", []⟩
      anyConsensusStates := (∅ : Finmap fun _ => Any).insert HEIGHT ⟨"", []⟩ })

theorem knows_fabric (timestamp : Long) : Handler.sendPacket.Knows (fabricAt timestamp) (host 1)
    fabricClient fabricId.id HEIGHT (some timestamp) where
  latestHeight := rfl
  latestTimestamp := by
    refine ⟨.fabricClient, 0, ?_, timestamp, rfl, rfl⟩
    rw [Identifier.of_id, Result.ok_bind]
    exact Host.parseClientIdentifier_clientIdentifier _ (by decide)

/-- A packet passes the guards of its receiver, and those of its sender over a client that knows a
timestamp before that of the packet. -/
theorem near_passes : Handler.recvPacket.timeoutGuards peerHost (packet 1) = .ok () ∧
    Handler.sendPacket.timeoutGuards (fabricAt 5) (host 1) fabricClient fabricId.id (packet 7) =
      .ok () := by
  have hsent := sent_near
  rcases h : Handler.sendPacket P ctx (packet 1) with e | ctx'
  · rw [h] at hsent
    cases hsent
  refine ⟨((Handler.timeout_guards_iff peerHost (packet 1)).2.2 P ctx ctx' liveClient _ h rfl rfl).2
    (by decide), ?_⟩
  have hiff := ((Handler.timeout_guards_iff (host 1) (packet 7)).2.1 (fabricAt 5) fabricClient
    fabricId.id HEIGHT (some 5) (knows_fabric 5)).2
  have hsign : TimestampFits (some 5) (packet 7).timeoutTimestamp := by
    refine .inr fun t ht => ?_
    cases ht
    exact iff_of_false (by decide) (by decide)
  refine (hiff (.inl ⟨.inl rfl, hsign⟩)).2 ?_
  rintro (⟨hne, -⟩ | ⟨-, t, ht, hle⟩)
  · exact hne rfl
  · cases ht
    exact absurd hle (by decide)

end FarTimeout

end CordaIbc
