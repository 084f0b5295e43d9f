import CordaIbc.ChannelQuery
import CordaIbc.Proofs.Bookkeeping

/-!
# The packets a relayer is told to submit

A query for unreceived packets looks at the receipts of the channel, which only an unordered channel
has. On an ordered one it returns what was received with the rest
(`ChannelQueryService.unreceived_iff`).
-/

namespace CordaIbc

open ChannelOuterClass (Packet Acknowledgement)
open IbcChannel Context

/-- The sequence a datagram receives. -/
def DatagramHandler.received? : DatagramHandler → Option Nat
  | handlePacketRecv msg => some msg.packet.sequence
  | _ => none

/-- The sequences that the executions of a channel received, in order. -/
def receivedSequences (tr : List Call) : List Nat := tr.filterMap fun k => k.handler.received?

namespace IbcChannel

variable {P : Platform} {ok : IbcChannel → Call → Prop} {k k₀ : Call} {chan₀ chan chan' : IbcChannel}
  {tr : List Call} {received : List Nat}

/-- The acknowledgements of a channel are for what it received; so are the receipts, but an ordered
channel has none. -/
structure Remembers (received : List Nat) (chan : IbcChannel) : Prop where
  book : chan.RecvBook
  acknowledgements : ∀ n, n ∈ chan.acknowledgements ↔ n ∈ received
  receipts : chan.end_.ordering ≠ .ordered → ∀ n, n ∈ chan.receipts ↔ n ∈ received

theorem New.remembers (h : chan.New) : chan.Remembers [] := by
  refine ⟨h.recvBook, ?_, ?_⟩
  · intro n
    rw [h.acknowledgements]
    exact ⟨fun hn => absurd hn Finmap.notMem_empty, fun hn => absurd hn List.not_mem_nil⟩
  · intro _ n
    rw [h.receipts]
    exact ⟨fun hn => absurd hn (Finset.notMem_empty n), fun hn => absurd hn List.not_mem_nil⟩

/-- A datagram that receives nothing leaves the acknowledgements and the receipts. -/
theorem Remembers.keeps (hb : chan.Remembers received) (hbook : chan'.RecvBook)
    (hacks : chan'.acknowledgements = chan.acknowledgements)
    (hreceipts : chan'.receipts = chan.receipts)
    (hordering : chan'.end_.ordering = chan.end_.ordering) : chan'.Remembers received := by
  refine ⟨hbook, ?_, ?_⟩
  · rw [hacks]
    exact hb.acknowledgements
  · rw [hordering, hreceipts]
    exact hb.receipts

theorem Remembers.recv (hb : chan.Remembers received) (hbook : chan'.RecvBook) {packet : Packet}
    {ack : Acknowledgement}
    (h : Handler.recvPacket.receive (chan.answered packet ack) packet = .ok chan') :
    chan'.Remembers (received ++ [packet.sequence]) := by
  have hinsert : ∀ n, n ∈ chan.acknowledgements.insert packet.sequence ack ↔
      n ∈ received ++ [packet.sequence] := by
    intro n
    rw [Finmap.mem_insert, hb.acknowledgements, List.mem_append, List.mem_singleton, or_comm]
  rcases receive_cases h with ⟨-, -, rfl⟩ | ⟨ho, -, rfl⟩
  · refine ⟨hbook, hinsert, ?_⟩
    intro hne n
    show n ∈ insert packet.sequence chan.receipts ↔ _
    rw [Finset.mem_insert, hb.receipts hne, List.mem_append, List.mem_singleton, or_comm]
  · exact ⟨hbook, hinsert, fun hne => absurd ho hne⟩

theorem Remembers.change (hb : chan.Remembers received) {ctx : Context} {signers : List PublicKey}
    {d : DatagramHandler} (h : Change P ctx signers d chan chan') :
    chan'.Remembers (received ++ d.received?.toList) := by
  have hbook := (hb.book.change h).1
  cases h with
  | tryPrevious _ hinit hordering =>
    obtain ⟨-, hreceipts, hacks⟩ := hb.book.fresh (.inl hinit)
    rw [show DatagramHandler.received? (.handleChanOpenTry _) = none from rfl, Option.toList_none,
      List.append_nil]
    exact hb.keeps hbook hacks.symm hreceipts.symm hordering.symm
  | ack | confirm | closeInit | closeConfirm | send =>
    rw [show (DatagramHandler.received? _).toList = [] from rfl, List.append_nil]
    exact hb.keeps hbook rfl rfl rfl
  | recv hrecv => exact hb.recv hbook hrecv.receive
  | settle hacks =>
    obtain ⟨n, rfl⟩ := settle_eq hacks.settle
    rw [show (DatagramHandler.received? (.handlePacketAcknowledgement _)).toList = [] from rfl,
      List.append_nil]
    exact hb.keeps hbook rfl rfl rfl

theorem Remembers.run (h₀ : Creates P k₀ chan₀) (hr : Run (Step P ok) chan₀ tr chan) :
    chan.Remembers (receivedSequences tr) := by
  refine hr.invariant (I := fun tr chan => chan.Remembers (receivedSequences tr)) h₀.new.remembers ?_
  intro tr chan k chan' _ hb hs
  have hsnoc : receivedSequences (tr ++ [k]) =
      receivedSequences tr ++ k.handler.received?.toList := by
    unfold receivedSequences
    rw [List.filterMap_append]
    cases hk : k.handler.received? with
    | none => simp [hk]
    | some n => simp [hk]
  rw [hsnoc]
  exact hb.change hs.change

end IbcChannel

namespace ChannelQueryService

section
variable {P : Platform} {k₀ : Call} {chan₀ chan : IbcChannel} {tr : List Call}
  {vault : List ContractState} {request : QueryRequest}

theorem unreceivedPackets_eq (hquery : channelOf P.toCrypto vault request = .ok chan) :
    unreceivedPackets P.toCrypto vault request =
      .ok (request.sequences.filter fun n => n ∉ chan.receipts) := by
  unfold unreceivedPackets
  rw [hquery]
  rfl

/-- A query for unreceived packets returns the sequences that the channel has not received, in their
order, exactly when the channel is not ordered, or none of the sequences was received. -/
theorem unreceived_iff (h₀ : Creates P k₀ chan₀)
    (hr : Run (IbcChannel.Step P fun _ _ => True) chan₀ tr chan)
    (hquery : channelOf P.toCrypto vault request = .ok chan) :
    unreceivedPackets P.toCrypto vault request =
        .ok (request.sequences.filter fun n => n ∉ receivedSequences tr) ↔
      (chan.end_.ordering = .ordered →
        ∀ n ∈ request.sequences, n ∉ Finset.Ico 1 chan.nextSequenceRecv) := by
  have hb : chan.Remembers (receivedSequences tr) := .run h₀ hr
  rw [unreceivedPackets_eq hquery, Except.ok.injEq]
  by_cases ho : chan.end_.ordering = .ordered
  · obtain ⟨hreceipts, hkeys⟩ := hb.book.ordered ho
    have hall : (request.sequences.filter fun n => n ∉ chan.receipts) = request.sequences := by
      rw [hreceipts]
      exact List.filter_eq_self.2 fun n _ => by simp
    have hmem : ∀ n, n ∈ receivedSequences tr ↔ n ∈ Finset.Ico 1 chan.nextSequenceRecv := by
      intro n
      rw [← hkeys, Finmap.mem_keys, hb.acknowledgements]
    rw [hall, eq_comm, List.filter_eq_self]
    constructor
    · intro hnone _ n hn hreceived
      exact of_decide_eq_true (hnone n hn) ((hmem n).2 hreceived)
    · intro hnone n hn
      exact decide_eq_true fun hreceived => hnone ho n hn ((hmem n).1 hreceived)
  · constructor
    · intro _ ho'
      exact absurd ho' ho
    · intro _
      exact List.filter_congr fun n _ => decide_eq_decide.2 (not_congr (hb.receipts ho n))

end

/-! ### A packet of an ordered channel -/

namespace Resubmitted
open Sample

/-- An ordered end to the second chain's. -/
def orderedEnd (state : ChannelOuterClass.State) (peer : String) : ChannelOuterClass.Channel :=
  { channelEnd state peer with ordering := .ordered }

def initCall : Call :=
  hostCall (.handleChanOpenInit { portId := "transfer", channel := orderedEnd .init "" })

def ackCall (chan : IbcChannel) : Call :=
  channelCall (.handleChanOpenAck
    { portId := "transfer", channelId := "channel-0", counterpartyChannelId := "channel-0"
      counterpartyVersion := "ics20-1", proofTry := [0], proofHeight := HEIGHT })
    [.channel chan]

def incoming : Packet :=
  { sequence := 1, sourcePort := "transfer", sourceChannel := "channel-0"
    destinationPort := "transfer", destinationChannel := "channel-0"
    data := toJson ⟨"photon", "3", "x", addressA⟩, timeoutHeight := .default, timeoutTimestamp := 0 }

def recvCall (chan : IbcChannel) : Call :=
  channelCall (.handlePacketRecv { packet := incoming, proofCommitment := [1], proofHeight := HEIGHT })
    [.bank liveBank, .channel chan]

/-- The second chain's end. -/
def peer : IbcChannel :=
  .create peerHost transferPort (channel 0) (orderedEnd .tryOpen "channel-0")

def P : Platform := platform [shows 2 [.channel peer], shows 2 [.channel (peer.sent incoming)]] []

/-- A relayer asks about the first packet. -/
def request : QueryRequest :=
  { baseId := some (base 1), portId := "transfer", channelId := "channel-0", sequences := [1] }

/-- What a life leaves: the sequences received, and what the request finds and returns. -/
def outcome (r : IbcChannel × List Call × IbcChannel) : List Nat × Bool × Option (List Nat) × Nat :=
  (receivedSequences r.2.1, channelOf P.toCrypto [.channel r.2.2] request = .ok r.2.2,
    (unreceivedPackets P.toCrypto [.channel r.2.2] request).toOption, r.2.2.nextSequenceRecv)

theorem outcome_received : outcome <$> runLife P initCall [ackCall, recvCall] =
    .ok ([1], true, some [1], 2) := by decide +kernel

theorem outcome_opened : outcome <$> runLife P initCall [ackCall] = .ok ([], true, some [1], 1) := by
  decide +kernel

/-- The first packet of an ordered channel is received, and the relayer is told to submit it. -/
theorem received_resubmitted : ∃ (P : Platform) (k₀ : Call) (chan₀ : IbcChannel) (tr : List Call)
    (chan : IbcChannel) (vault : List ContractState) (request : QueryRequest), Creates P k₀ chan₀ ∧
      Run (IbcChannel.Step P fun _ _ => True) chan₀ tr chan ∧
      channelOf P.toCrypto vault request = .ok chan ∧ 1 ∈ receivedSequences tr ∧
      unreceivedPackets P.toCrypto vault request = .ok [1] := by
  obtain ⟨⟨chan₀, tr, chan⟩, hlife, hout⟩ := Result.map_ok.1 outcome_received
  obtain ⟨h₀, hr, -⟩ : Creates P initCall chan₀ ∧
      Run (IbcChannel.Step P fun _ _ => True) chan₀ tr chan ∧
      ∀ k ∈ tr, ∃ f ∈ [ackCall, recvCall], ∃ chan, k = f chan :=
    run_of_life hlife fun _ _ _ => trivial
  simp only [outcome, Prod.mk.injEq, decide_eq_true_eq] at hout
  obtain ⟨hreceived, hquery, hanswer, -⟩ := hout
  refine ⟨P, initCall, chan₀, tr, chan, _, request, h₀, hr, hquery, ?_, ?_⟩
  · rw [hreceived]
    exact List.mem_singleton_self 1
  · cases h : unreceivedPackets P.toCrypto [.channel chan] request with
    | error e =>
      rw [h] at hanswer
      cases hanswer
    | ok l =>
      rw [h] at hanswer
      rw [Option.some.inj hanswer]

/-- Before it is received, that is what the relayer should do. -/
theorem unreceived_submitted : ∃ chan, unreceivedPackets P.toCrypto [.channel chan] request = .ok [1] := by
  obtain ⟨⟨chan₀, tr, chan⟩, hlife, hout⟩ := Result.map_ok.1 outcome_opened
  obtain ⟨h₀, hr, -⟩ : Creates P initCall chan₀ ∧
      Run (IbcChannel.Step P fun _ _ => True) chan₀ tr chan ∧
      ∀ k ∈ tr, ∃ f ∈ [ackCall], ∃ chan, k = f chan :=
    run_of_life hlife fun _ _ _ => trivial
  simp only [outcome, Prod.mk.injEq, decide_eq_true_eq] at hout
  obtain ⟨hreceived, hquery, -, hnext⟩ := hout
  have hexact := (unreceived_iff h₀ hr hquery).2 fun _ n hn hin => by
    rw [List.mem_singleton.1 hn, hnext] at hin
    exact absurd hin (by decide)
  rw [hreceived] at hexact
  exact ⟨chan, hexact⟩

end Resubmitted

end ChannelQueryService

end CordaIbc
