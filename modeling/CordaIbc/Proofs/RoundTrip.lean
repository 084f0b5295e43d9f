import CordaIbc.Conversion
import CordaIbc.Proofs.Regroup
import CordaIbc.Sample

/-!
# A bank and its message

The strings of a message are read back: a denomination by `Denom.fromString_toString`, an address by
its groups of five bits, an amount by its digits. So no two keys of a map become one, and a bank is
read back from its message (`LinkedBank.bank_toCorda_toProto`).
-/

namespace CordaIbc

/-! ## Amounts -/

theorem toBigInteger_toString_int (n : Int) : toBigInteger (toString n) = .ok n := by
  cases n with
  | ofNat n => exact toBigInteger_toString n
  | negSucc n =>
    have hdigit : ∀ c ∈ Nat.toDigits 10 (n + 1), c.isDigit = true := fun c hc =>
      Nat.isDigit_of_mem_toDigits (by decide) (by decide) hc
    have hvalue := digitsValue_of_isDigit hdigit
    rw [Nat.ofDigitChars_ten_toDigits] at hvalue
    have hnil : Nat.toDigits 10 (n + 1) ≠ [] := Nat.toDigits_ne_nil
    have hchars : (toString (Int.negSucc n)).toList = '-' :: Nat.toDigits 10 (n + 1) := by
      show ("-" ++ toString (n + 1)).toList = _
      rw [String.toList_append, Nat.toString_eq_repr, Nat.toList_repr]
      rfl
    unfold toBigInteger
    rw [hchars]
    simp only [hvalue, hnil, if_false, if_true, Except.ok.injEq]
    omega

/-! ## Addresses -/

/-- What is assumed of Bech32: up to 90 characters, decoding undoes encoding. -/
def Codec.DecodesBech32 (C : Crypto) (K : Codec) : Prop :=
  ∀ data : Bytes, (∀ b ∈ data, b.toNat < 32) → (K.bech32Encode "cosmos" data).length ≤ 90 →
    C.bech32Decode (K.bech32Encode "cosmos" data) = .ok ("cosmos", data)

section
variable {C : Crypto} {K : Codec} {a : Address}

theorem Address.fromBech32_toBech32 (hcodec : K.DecodesBech32 C) {s : String}
    (h : a.toBech32 K = .ok s) (hlength : s.length ≤ 90) : fromBech32 C s = .ok a := by
  obtain ⟨v, hv, hfits, hback⟩ := exists_groups a.bytes
  unfold toBech32 at h
  rw [hv] at h
  obtain rfl := Except.ok.inj h
  unfold fromBech32
  rw [hcodec v hfits hlength, Result.ok_bind]
  simp only [require, if_true, Result.ok_bind, hback]
  exact of_ok.2 rfl

theorem Address.exists_toBech32 : ∃ s, a.toBech32 K = .ok s := by
  obtain ⟨v, hv, -, -⟩ := exists_groups a.bytes
  refine ⟨K.bech32Encode "cosmos" v, ?_⟩
  unfold toBech32
  rw [hv]
  rfl

/-! ## Maps -/

/-- The address has a Bech32 form that can be decoded. -/
def Address.Short (K : Codec) (a : Address) : Prop := ∀ s, a.toBech32 K = .ok s → s.length ≤ 90

/-- The denominations are some string's, and the addresses short. -/
structure LinkedBalances.Readable (K : Codec) (m : LinkedBalances) : Prop where
  denoms : ∀ e ∈ m.entries, ∃ s, e.1 = Denom.fromString s
  addresses : ∀ e ∈ m.entries, ∀ b ∈ e.2.entries, b.1.Short K

theorem balances_toCorda_toProto (hcodec : K.DecodesBech32 C) {m : LinkedMap Address Int}
    (h : ∀ b ∈ m.entries, b.1.Short K) :
    ∃ p, balancesToProto K m = .ok p ∧ p.toCorda C = .ok m := by
  obtain ⟨m', hto, hback⟩ : ∃ m', m.convertM (Address.toBech32 K) Amount.toString = .ok m' ∧
      m'.convertM (Address.fromBech32 C) Amount.fromString = .ok m := by
    refine LinkedMap.convertM_inverse ?_ ?_
    · intro b hb
      obtain ⟨s, hs⟩ := Address.exists_toBech32 (K := K) (a := b.1)
      exact ⟨s, hs, Address.fromBech32_toBech32 hcodec hs (h b hb s hs)⟩
    · intro b _
      exact ⟨toString b.2, rfl, toBigInteger_toString_int b.2⟩
  refine ⟨⟨m'⟩, ?_, hback⟩
  unfold balancesToProto
  rw [hto]
  rfl

theorem Denom.fromString_toString_fromString {d : Denom} (h : ∃ s, d = fromString s) :
    fromString d.toString = d := by
  obtain ⟨s, rfl⟩ := h
  exact fromString_toString (plain_fromString s)

theorem LinkedBalances.toCorda_toProto (hcodec : K.DecodesBech32 C) {m : LinkedBalances}
    (h : m.Readable K) : ∃ p, balanceMapToProto K m = .ok p ∧ p.toCorda C = .ok m := by
  obtain ⟨m', hto, hback⟩ : ∃ m' : LinkedMap String BankProto.BalanceMapPerDenom,
      m.convertM (fun denom => .ok denom.toString) (balancesToProto K) = .ok m' ∧
      m'.convertM (fun s => .ok (Denom.fromString s)) (·.toCorda C) = .ok m := by
    refine LinkedMap.convertM_inverse ?_ ?_
    · intro e he
      exact ⟨e.1.toString, rfl, congrArg Except.ok (Denom.fromString_toString_fromString (h.denoms e he))⟩
    · intro e he
      exact balances_toCorda_toProto hcodec (h.addresses e he)
  refine ⟨⟨m'⟩, ?_, hback⟩
  unfold balanceMapToProto
  rw [hto]
  rfl

theorem denoms_toCorda_toProto {m : LinkedMap String Denom}
    (h : ∀ e ∈ m.entries, ∃ s, e.2 = Denom.fromString s) :
    ∃ p, denomsToProto m = .ok p ∧ p.toCorda = .ok m := by
  obtain ⟨m', hto, hback⟩ : ∃ m' : LinkedMap String String,
      m.convertM .ok (fun denom => .ok denom.toString) = (.ok m' : Result _) ∧
      m'.convertM .ok (fun s => .ok (Denom.fromString s)) = (.ok m : Result _) := by
    refine LinkedMap.convertM_inverse ?_ ?_
    · intro e _
      exact ⟨e.1, rfl, rfl⟩
    · intro e he
      exact ⟨e.2.toString, rfl, congrArg Except.ok (Denom.fromString_toString_fromString (h e he))⟩
  refine ⟨⟨m'⟩, ?_, ?_⟩
  · unfold denomsToProto
    rw [hto]
    rfl
  · rw [LinkedMap.convertM_ok_left] at hback
    exact hback

/-! ## Parties -/

/-- What is assumed of Corda: the encodings of names and keys are read back. -/
structure NamedParty.Readable (C : Crypto) (K : Codec) (party : NamedParty) : Prop where
  name : ∀ n, party.nameOrNull = some n → n.toProto.toCorda K = .ok n
  key : C.decodePublicKey party.owningKey.encoded = .ok party.owningKey

theorem NamedParty.toCorda_toProto {party : NamedParty} (h : party.Readable C K)
    (hnamed : party.nameOrNull ≠ none) :
    ∃ p, party.toProto = .ok p ∧ p.toCorda C K = .ok party := by
  obtain ⟨nameOrNull, owningKey⟩ := party
  obtain ⟨name, rfl⟩ := Option.ne_none_iff_exists'.1 hnamed
  refine ⟨_, rfl, ?_⟩
  unfold CordaTypes.Party.toCorda
  rw [h.name name rfl, Result.ok_bind, h.key]
  rfl

theorem parties_toCorda_toProto {parties : List NamedParty}
    (h : ∀ party ∈ parties, party.Readable C K)
    (hnamed : ∀ party ∈ parties, party.nameOrNull ≠ none) :
    ∃ ps, parties.mapM NamedParty.toProto = .ok ps ∧ ps.mapM (·.toCorda C K) = .ok parties := by
  induction parties with
  | nil => exact ⟨[], rfl, rfl⟩
  | cons party parties ih =>
    obtain ⟨ps, hto, hback⟩ := ih (fun q hq => h q (List.mem_cons_of_mem _ hq))
      fun q hq => hnamed q (List.mem_cons_of_mem _ hq)
    obtain ⟨p, hp, hp'⟩ := NamedParty.toCorda_toProto (h party List.mem_cons_self)
      (hnamed party List.mem_cons_self)
    refine ⟨p :: ps, ?_, ?_⟩
    · rw [List.mapM_cons, hp, Result.ok_bind, hto]
      rfl
    · rw [List.mapM_cons, hp', Result.ok_bind, hback]
      rfl

theorem Sha256Ref.toCorda_toProto (ref : Sha256Ref) : ref.ref.toProto.toCorda = .ok ref := by
  unfold CordaTypes.StateRef.toCorda
  exact dif_pos ref.sha256

/-! ## Banks -/

theorem LinkedBalances.exists_state (m : BalanceMap) : ∃ l : LinkedBalances, l.state = m := by
  obtain ⟨l, rfl⟩ := LinkedMap.exists_toFinmap m
  obtain ⟨l', rfl⟩ := LinkedMap.exists_mapValues (f := LinkedMap.toFinmap) LinkedMap.exists_toFinmap l
  exact ⟨l', rfl⟩

/-- Every bank is what some bank of Kotlin's is compared by. -/
theorem LinkedBank.exists_state (bank : Bank) (name : AbstractParty → Option CordaX500Name)
    (hsha256 : bank.baseId.txhash.bytes.length = 32) : ∃ linked : LinkedBank, linked.state = bank ∧
      linked.participants = bank.participants.map fun party => ⟨name party, party.owningKey⟩ := by
  obtain ⟨allocated, ha⟩ := LinkedBalances.exists_state bank.allocated
  obtain ⟨locked, hl⟩ := LinkedBalances.exists_state bank.locked
  obtain ⟨minted, hm⟩ := LinkedBalances.exists_state bank.minted
  obtain ⟨denoms, hd⟩ := LinkedMap.exists_toFinmap bank.denoms
  refine ⟨⟨_, ⟨bank.baseId, hsha256⟩, allocated, locked, minted, denoms⟩, ?_, rfl⟩
  unfold state
  rw [ha, hl, hm, hd, List.map_map]
  exact congrArg (fun ps => { bank with participants := ps }) (List.map_id _)

/-- A bank of named parties is read back from its message. -/
theorem LinkedBank.bank_toCorda_toProto {bank : LinkedBank} (hcodec : K.DecodesBech32 C)
    (hparties : ∀ party ∈ bank.participants, party.Readable C K)
    (hnamed : ∀ party ∈ bank.participants, party.nameOrNull ≠ none)
    (hallocated : bank.allocated.Readable K) (hlocked : bank.locked.Readable K)
    (hminted : bank.minted.Readable K)
    (hdenoms : ∀ e ∈ bank.denoms.entries, ∃ s, e.2 = Denom.fromString s) :
    ∃ p, bank.toProto K = .ok p ∧ p.toCorda C K = .ok bank := by
  obtain ⟨participants, hps, hps'⟩ := parties_toCorda_toProto hparties hnamed
  obtain ⟨allocated, ha, ha'⟩ := LinkedBalances.toCorda_toProto hcodec hallocated
  obtain ⟨locked, hl, hl'⟩ := LinkedBalances.toCorda_toProto hcodec hlocked
  obtain ⟨minted, hm, hm'⟩ := LinkedBalances.toCorda_toProto hcodec hminted
  obtain ⟨denoms, hd, hd'⟩ := denoms_toCorda_toProto hdenoms
  refine ⟨⟨participants, bank.baseId.ref.toProto, allocated, locked, minted, denoms⟩, ?_, ?_⟩
  · unfold toProto
    rw [hps, Result.ok_bind, ha, Result.ok_bind, hl, Result.ok_bind, hm, Result.ok_bind, hd]
    rfl
  · unfold BankProto.Bank.toCorda
    rw [hps', Result.ok_bind, Sha256Ref.toCorda_toProto, Result.ok_bind, ha', Result.ok_bind, hl',
      Result.ok_bind, hm', Result.ok_bind, hd']
    rfl

end

/-! ### A bank with a voucher -/

namespace SentBank
open Sample

def C : Crypto := { crypto with bech32Decode := Bech32.decodeUnchecked }

def K : Codec := { bech32Encode := Bech32.encode, checkX500Name := fun _ => .ok () }

def owner : Address := ⟨[97, 108, 105, 99, 101], nofun⟩

def balances (amount : Int) : LinkedMap Address Int := ⟨[(owner, amount)], List.nodup_singleton _⟩

/-- Atoms and vouchers for photons. -/
def held : LinkedBalances where
  entries := [(Denom.fromString "atom", balances 10),
    (Denom.fromString "transfer/channel-0/photon", balances (-3))]
  nodup := by decide +kernel

def bank : LinkedBank where
  participants := [⟨some ⟨none, none, "PartyA", "London", none, "GB"⟩, (notary 1).owningKey⟩]
  baseId := ⟨base 1, rfl⟩
  allocated := held
  locked := .empty
  minted := held
  denoms := ⟨[("ibc/00", Denom.fromString "transfer/channel-0/photon")], List.nodup_singleton _⟩

theorem decodesBech32 : K.DecodesBech32 C := fun _ hdata _ => Bech32.decodeUnchecked_encode hdata

theorem short : owner.Short K := by
  have hlength : (owner.toBech32 K).toOption.map String.length = some 21 := by decide +kernel
  intro s hs
  rw [hs] at hlength
  have : s.length = 21 := Option.some.inj hlength
  omega

theorem readable : held.Readable K := by
  constructor
  · intro e he
    rcases List.mem_cons.1 he with rfl | he
    · exact ⟨_, rfl⟩
    · obtain rfl := List.mem_singleton.1 he
      exact ⟨_, rfl⟩
  · intro e he b hb
    rcases List.mem_cons.1 he with rfl | he
    · obtain rfl := List.mem_singleton.1 hb
      exact short
    · obtain rfl := List.mem_singleton.1 he
      obtain rfl := List.mem_singleton.1 hb
      exact short

theorem sent_back : ∃ p, bank.toProto K = .ok p ∧ p.toCorda C K = .ok bank := by
  refine LinkedBank.bank_toCorda_toProto decodesBech32 ?_ ?_ readable ⟨nofun, nofun⟩ readable ?_
  · intro party hparty
    obtain rfl := List.mem_singleton.1 hparty
    exact ⟨fun n hn => by cases hn; rfl, rfl⟩
  · intro party hparty
    obtain rfl := List.mem_singleton.1 hparty
    exact nofun
  · intro e he
    obtain rfl := List.mem_singleton.1 he
    exact ⟨_, rfl⟩

end SentBank

end CordaIbc
