import CordaIbc.Lib.Run

/-!
# Handshakes over stale proofs

Two sides open ends towards each other: an end is tried on the proof that the peer has an initial
one, and opened on the proof that the peer has tried or opened one towards it. A proof shows an end
the peer had at some time, maybe not the one it has now. `Step` is one move of one side.

An end that was tried may be opened towards another peer than the one it was tried with, and then
nothing agrees. If no move does that (`KeepsPeer`), two open ends that know of each other agree
(`Inv.agree`) and no two ends of one side are open towards one peer (`Inv.opened_unique`). If none
brings another version than the end was tried with once the peer is open (`KeepsVersion`), their
versions agree too (`System.versions`).
-/

universe u v w

/-- The two parties. -/
inductive Side
  | left | right
deriving DecidableEq

namespace Side

def peer : Side → Side
  | left => right
  | right => left

@[simp] theorem peer_peer (s : Side) : s.peer.peer = s := by cases s <;> rfl

@[simp] theorem peer_ne (s : Side) : s.peer ≠ s := by cases s <;> exact nofun

theorem eq_or_eq_peer (s t : Side) : t = s ∨ t = s.peer := by cases s <;> cases t <;> simp [peer]

end Side

namespace Handshake

inductive Phase
  | init | tryOpen | opened | closed
deriving DecidableEq

/-- Ends pass their phases in this order. -/
def Phase.rank : Phase → Nat
  | init => 0
  | tryOpen => 1
  | opened => 2
  | closed => 3

theorem Phase.rank_inj {p q : Phase} (h : p.rank = q.rank) : p = q := by
  cases p <;> cases q <;> first | rfl | cases h

structure End (ι : Type u) (τ : Type v) (ν : Type w) where
  phase : Phase
  terms : τ
  peer : ι
  version : ν

/-- The ends of one side, and every end it ever had. -/
structure Book (ι : Type u) (τ : Type v) (ν : Type w) where
  cur : ι → Option (End ι τ ν)
  past : ι → End ι τ ν → Prop

/-- `flip` turns the terms of an end into those of its peer; the terms of a rigid kind never
change. -/
structure Kind (τ : Type v) where
  flip : τ → τ
  rigid : Prop

variable {ι : Type u} {τ : Type v} {ν : Type w} (K : Kind τ)

/-- What may become of the end `i` of one side, as the book `p` of the other tells. -/
inductive Change (p : Book ι τ ν) (i : ι) : Option (End ι τ ν) → End ι τ ν → Prop
  | same {d : End ι τ ν} : Change p i (some d) d
  | init {e : End ι τ ν} (he : e.phase = .init) : Change p i none e
  | tryNew {e f : End ι τ ν} (he : e.phase = .tryOpen) (hf : p.past e.peer f)
    (hinit : f.phase = .init) (hterms : f.terms = K.flip e.terms) : Change p i none e
  | tryPrevious {d e f : End ι τ ν} (hd : d.phase = .init) (he : e.phase = .tryOpen)
    (hrigid : K.rigid → e.terms = d.terms) (hf : p.past e.peer f) (hinit : f.phase = .init)
    (hterms : f.terms = K.flip e.terms) : Change p i (some d) e
  | ack {d e f : End ι τ ν} (hd : d.phase = .init ∨ d.phase = .tryOpen) (he : e.phase = .opened)
    (hsame : e.terms = d.terms) (hf : p.past e.peer f) (htry : f.phase = .tryOpen)
    (hpeer : f.peer = i) (hterms : f.terms = K.flip e.terms) (hversion : f.version = e.version) :
    Change p i (some d) e
  | confirm {d f : End ι τ ν} (hd : d.phase = .tryOpen) (hf : p.past d.peer f)
    (hopen : f.phase = .opened) (hpeer : f.peer = i) (hversion : f.version = d.version)
    (hterms : K.rigid ∨ f.terms = K.flip d.terms) : Change p i (some d) { d with phase := .opened }
  | close {d : End ι τ ν} (hd : d.phase ≠ .closed) : Change p i (some d) { d with phase := .closed }

/-- A tried end is opened towards the peer it was tried with. -/
def KeepsPeer (d : Option (End ι τ ν)) (e : End ι τ ν) : Prop :=
  ∀ d', d = some d' → d'.phase = .tryOpen → e.phase = .opened → e.peer = d'.peer

/-- A tried end is opened with the version it was tried with, or its peer is not open. -/
def KeepsVersion (p : Book ι τ ν) (d : Option (End ι τ ν)) (e : End ι τ ν) : Prop :=
  ∀ d', d = some d' → d'.phase = .tryOpen → e.phase = .opened →
    e.version = d'.version ∨ ∀ f, p.cur e.peer = some f → f.phase ≠ .opened

/-- `b'` is `b` with `e` as its end `i`. -/
structure Writes (b b' : Book ι τ ν) (i : ι) (e : End ι τ ν) : Prop where
  self : b'.cur i = some e
  other : ∀ j, j ≠ i → b'.cur j = b.cur j
  past : ∀ j f, b'.past j f ↔ b.past j f ∨ j = i ∧ f = e

/-- One move of the side with book `b`, the other having `p`; `ok` is asked of every write. -/
inductive Step (ok : Book ι τ ν → Option (End ι τ ν) → End ι τ ν → Prop) (p b b' : Book ι τ ν) : Prop
  | stay (hcur : ∀ i, b'.cur i = b.cur i) (hpast : ∀ i e, b'.past i e ↔ b.past i e)
  | write {i : ι} {e : End ι τ ν} (hchange : Change K p i (b.cur i) e)
    (hpeer : KeepsPeer (b.cur i) e) (hok : ok p (b.cur i) e) (hwrites : Writes b b' i e)

/-! ## The invariant -/

/-- The peer had tried an end towards this one. -/
def Acked (p : Book ι τ ν) (i : ι) (e : End ι τ ν) : Prop :=
  ∃ f, p.past e.peer f ∧ f.phase = .tryOpen ∧ f.peer = i ∧ f.terms = K.flip e.terms ∧
    f.version = e.version

/-- This end had been tried, and the peer had opened one towards it. -/
def Confirmed (b p : Book ι τ ν) (i : ι) (e : End ι τ ν) : Prop :=
  (∃ d, b.past i d ∧ d.phase = .tryOpen ∧ d.peer = e.peer ∧ d.terms = e.terms) ∧
    ∃ f, p.past e.peer f ∧ f.phase = .opened ∧ f.peer = i ∧ f.version = e.version ∧
      (K.rigid ∨ f.terms = K.flip e.terms)

structure Inv (b p : Book ι τ ν) : Prop where
  recorded : ∀ i d, b.cur i = some d → b.past i d
  /-- An end of the past has not gone further than the current one. -/
  current : ∀ i e, b.past i e → ∃ d, b.cur i = some d ∧ e.phase.rank ≤ d.phase.rank
  /-- An end is in a phase once. -/
  once : ∀ i e d, b.past i e → b.past i d → e.phase = d.phase → e = d
  rigid : K.rigid → ∀ i e d, b.past i e → b.past i d → e.terms = d.terms
  keeps : ∀ i d e, b.past i d → b.past i e → d.phase = .tryOpen → e.phase = .opened →
    e.peer = d.peer ∧ e.terms = d.terms
  tried : ∀ i e, b.past i e → e.phase = .tryOpen →
    ∃ f, p.past e.peer f ∧ f.phase = .init ∧ f.terms = K.flip e.terms
  opened : ∀ i e, b.past i e → e.phase = .opened → Acked K p i e ∨ Confirmed K b p i e

variable {K} {b b' p p' : Book ι τ ν} {i : ι} {d e f : End ι τ ν}
  {ok : Book ι τ ν → Option (End ι τ ν) → End ι τ ν → Prop}

theorem Change.rank_lt (h : Change K p i (some d) e) : e = d ∨ d.phase.rank < e.phase.rank := by
  cases h with
  | same => exact .inl rfl
  | tryPrevious hd he => exact .inr (by rw [hd, he]; decide)
  | ack hd he => exact .inr (by rcases hd with hd | hd <;> rw [hd, he] <;> decide)
  | confirm hd => exact .inr (by rw [hd]; exact Nat.one_lt_two)
  | close hd =>
    right
    show d.phase.rank < 3
    cases hp : d.phase <;> first | decide | exact absurd hp hd

theorem Change.rigid (h : Change K p i (some d) e) (hr : K.rigid) : e.terms = d.terms := by
  cases h with
  | same | confirm | close => rfl
  | tryPrevious _ _ hrigid => exact hrigid hr
  | ack _ _ hsame => exact hsame

theorem Step.past_mono (h : Step K ok p b b') (hp : b.past i e) : b'.past i e := by
  cases h with
  | stay _ hpast => exact (hpast i e).2 hp
  | write _ _ _ hw => exact (hw.past i e).2 (.inl hp)

namespace Inv

/-- Whatever an end was before, it was less far. -/
theorem past_of_change (h : Inv K b p) (hc : Change K p i (b.cur i) e) (hd : b.past i d) :
    d = e ∨ d.phase.rank < e.phase.rank := by
  obtain ⟨c, hcur, hle⟩ := h.current i d hd
  rw [hcur] at hc
  rcases hc.rank_lt with rfl | hlt
  · rcases Nat.lt_or_eq_of_le hle with hlt | heq
    · exact .inr hlt
    · exact .inl (h.once i d _ hd (h.recorded i _ hcur) (Phase.rank_inj heq))
  · exact .inr (Nat.lt_of_le_of_lt hle hlt)

/-- The other side's moves keep the invariant. -/
theorem peer_step (h : Inv K b p) (hs : Step K ok b p p') : Inv K b p' where
  recorded := h.recorded
  current := h.current
  once := h.once
  rigid := h.rigid
  keeps := h.keeps
  tried i e hp he := by
    obtain ⟨f, hf, hrest⟩ := h.tried i e hp he
    exact ⟨f, hs.past_mono hf, hrest⟩
  opened i e hp he := by
    rcases h.opened i e hp he with ⟨f, hf, hrest⟩ | ⟨hd, f, hf, hrest⟩
    · exact .inl ⟨f, hs.past_mono hf, hrest⟩
    · exact .inr ⟨hd, f, hs.past_mono hf, hrest⟩

/-- How an end came to be opened, when it is written. -/
theorem opened_of_change (h : Inv K b p) (hc : Change K p i (b.cur i) e) (he : e.phase = .opened)
    (hm : ∀ j d, b.past j d → b'.past j d) : Acked K p i e ∨ Confirmed K b' p i e := by
  generalize hcur : b.cur i = c at hc
  cases hc with
  | same =>
    rcases h.opened i e (h.recorded i e hcur) he with ha | ⟨⟨d, hd, hrest⟩, hf⟩
    · exact .inl ha
    · exact .inr ⟨⟨d, hm i d hd, hrest⟩, hf⟩
  | init h' | tryNew h' | tryPrevious _ h' => rw [he] at h'; cases h'
  | ack _ _ _ hf htry hpeer hterms hversion => exact .inl ⟨_, hf, htry, hpeer, hterms, hversion⟩
  | @confirm d f hd hf hopen hpeer hversion hterms =>
    exact .inr ⟨⟨d, hm i d (h.recorded i d hcur), hd, rfl, rfl⟩, f, hf, hopen, hpeer, hversion, hterms⟩
  | close => cases he

/-- A tried end is not written over by one with another peer or other terms. -/
theorem keeps_of_change (h : Inv K b p) (hc : Change K p i (b.cur i) e)
    (hk : KeepsPeer (b.cur i) e) (hd : b.past i d) (htry : d.phase = .tryOpen)
    (he : e.phase = .opened) : e.peer = d.peer ∧ e.terms = d.terms := by
  obtain ⟨c, hcur, hle⟩ := h.current i d hd
  rw [htry] at hle
  rw [hcur] at hc hk
  cases hc with
  | same => exact h.keeps i d e hd (h.recorded i e hcur) htry he
  | tryPrevious _ h' => rw [he] at h'; cases h'
  | ack hc _ hsame =>
    rcases hc with hc | hc
    · rw [hc] at hle
      exact absurd hle (by decide)
    · obtain rfl := h.once i d c hd (h.recorded i c hcur) (htry.trans hc.symm)
      exact ⟨hk d rfl htry he, hsame⟩
  | confirm hc =>
    obtain rfl := h.once i d c hd (h.recorded i c hcur) (htry.trans hc.symm)
    exact ⟨rfl, rfl⟩
  | close => cases he

/-- A side's own moves keep the invariant. -/
theorem step (h : Inv K b p) (hs : Step K ok p b b') : Inv K b' p := by
  cases hs with
  | stay hcur hpast =>
    refine ⟨fun i d => ?_, fun i e => ?_, fun i e d => ?_, fun hr i e d => ?_, fun i d e => ?_,
      fun i e => ?_, fun i e => ?_⟩
    · rw [hcur, hpast]; exact h.recorded i d
    · rw [hcur, hpast]; exact h.current i e
    · rw [hpast, hpast]; exact h.once i e d
    · rw [hpast, hpast]; exact h.rigid hr i e d
    · rw [hpast, hpast]; exact h.keeps i d e
    · rw [hpast]; exact h.tried i e
    · rw [hpast]
      intro hp he
      rcases h.opened i e hp he with ha | ⟨⟨d, hd, hrest⟩, hf⟩
      · exact .inl ha
      · exact .inr ⟨⟨d, (hpast i d).2 hd, hrest⟩, hf⟩
  | @write i e hc hk _ hw =>
    have hm : ∀ j d, b.past j d → b'.past j d := fun j d hd => (hw.past j d).2 (.inl hd)
    refine ⟨fun j d hd => ?_, fun j f hf => ?_, fun j f d hf hd hp => ?_, fun hr j f d hf hd => ?_,
      fun j d f hd hf htry ho => ?_, fun j f hf htry => ?_, fun j f hf ho => ?_⟩
    · by_cases hj : j = i
      · subst hj
        rw [hw.self] at hd
        cases hd
        exact (hw.past j e).2 (.inr ⟨rfl, rfl⟩)
      · rw [hw.other j hj] at hd
        exact hm j d (h.recorded j d hd)
    · by_cases hj : j = i
      · subst hj
        refine ⟨e, hw.self, ?_⟩
        rcases (hw.past j f).1 hf with hf | ⟨-, rfl⟩
        · rcases h.past_of_change hc hf with rfl | hlt
          · exact Nat.le_refl _
          · exact Nat.le_of_lt hlt
        · exact Nat.le_refl _
      · rw [hw.other j hj]
        exact h.current j f (((hw.past j f).1 hf).resolve_right fun h' => hj h'.1)
    · rcases (hw.past j f).1 hf with hf | ⟨rfl, rfl⟩ <;>
        rcases (hw.past _ d).1 hd with hd | ⟨hj, rfl⟩
      · exact h.once j f d hf hd hp
      · subst hj
        rcases h.past_of_change hc hf with rfl | hlt
        · rfl
        · rw [hp] at hlt; exact absurd hlt (Nat.lt_irrefl _)
      · rcases h.past_of_change hc hd with rfl | hlt
        · rfl
        · rw [hp] at hlt; exact absurd hlt (Nat.lt_irrefl _)
      · rfl
    · -- every end of the past has the terms of the one written over
      have hterms : ∀ d, b.past i d → e.terms = d.terms := fun d hd => by
        obtain ⟨c, hcur, -⟩ := h.current i d hd
        rw [hcur] at hc
        exact (hc.rigid hr).trans (h.rigid hr i c d (h.recorded i c hcur) hd)
      rcases (hw.past j f).1 hf with hf | ⟨rfl, rfl⟩ <;>
        rcases (hw.past _ d).1 hd with hd | ⟨hj, rfl⟩
      · exact h.rigid hr j f d hf hd
      · subst hj; exact (hterms f hf).symm
      · exact hterms d hd
      · rfl
    · rcases (hw.past j d).1 hd with hd | ⟨rfl, rfl⟩ <;>
        rcases (hw.past _ f).1 hf with hf | ⟨hj, rfl⟩
      · exact h.keeps j d f hd hf htry ho
      · subst hj; exact h.keeps_of_change hc hk hd htry ho
      · rcases h.past_of_change hc hf with rfl | hlt
        · rw [ho] at htry; cases htry
        · rw [ho, htry] at hlt; exact absurd hlt (by decide)
      · rw [ho] at htry; cases htry
    · rcases (hw.past j f).1 hf with hf | ⟨rfl, rfl⟩
      · exact h.tried j f hf htry
      · generalize hcur : b.cur j = c at hc
        cases hc with
        | same => exact h.tried j f (h.recorded j f hcur) htry
        | init h' => rw [htry] at h'; cases h'
        | tryNew _ hf hinit hterms => exact ⟨_, hf, hinit, hterms⟩
        | tryPrevious _ _ _ hf hinit hterms => exact ⟨_, hf, hinit, hterms⟩
        | ack _ h' => rw [htry] at h'; cases h'
        | confirm | close => cases htry
    · rcases (hw.past j f).1 hf with hf | ⟨rfl, rfl⟩
      · rcases h.opened j f hf ho with ha | ⟨⟨d, hd, hrest⟩, hg⟩
        · exact .inl ha
        · exact .inr ⟨⟨d, hm j d hd, hrest⟩, hg⟩
      · exact h.opened_of_change hc ho hm

/-! ## Agreement -/

/-- Two open ends, of which one names the other, name each other and have each other's terms. -/
theorem agree (h : Inv K b p) (h' : Inv K p b) (he : b.past i e) (ho : e.phase = .opened)
    (hf : p.past e.peer f) (ho' : f.phase = .opened) : f.peer = i ∧ f.terms = K.flip e.terms := by
  rcases h.opened i e he ho with ⟨g, hg, htry, rfl, hterms, -⟩ | ⟨⟨d, hd, htry, hpeer, hsame⟩, g, hg,
    hopen, rfl, -, hterms⟩
  · obtain ⟨h₁, h₂⟩ := h'.keeps e.peer g f hg hf htry ho'
    exact ⟨h₁, h₂.trans hterms⟩
  · obtain rfl := h'.once e.peer g f hg hf (hopen.trans ho'.symm)
    refine ⟨rfl, ?_⟩
    rcases hterms with hr | hterms
    · obtain ⟨a, ha, -, haterms⟩ := h.tried _ d hd htry
      rw [hpeer] at ha
      rw [h'.rigid hr e.peer g a hg ha, haterms, hsame]
    · exact hterms

/-- The peer has tried or opened an end towards every open one. -/
theorem peer_of_opened (h : Inv K b p) (he : b.past i e) (ho : e.phase = .opened) :
    ∃ f, p.past e.peer f ∧ (f.phase = .tryOpen ∨ f.phase = .opened) ∧ f.peer = i := by
  rcases h.opened i e he ho with ⟨f, hf, htry, hpeer, -⟩ | ⟨-, f, hf, hopen, hpeer, -⟩
  · exact ⟨f, hf, .inl htry, hpeer⟩
  · exact ⟨f, hf, .inr hopen, hpeer⟩

theorem peer_unique (h : Inv K b p) (hd : b.past i d) (he : b.past i e)
    (hd' : d.phase = .tryOpen ∨ d.phase = .opened) (he' : e.phase = .tryOpen ∨ e.phase = .opened) :
    d.peer = e.peer := by
  rcases hd' with hd' | hd' <;> rcases he' with he' | he'
  · rw [h.once i d e hd he (hd'.trans he'.symm)]
  · exact (h.keeps i d e hd he hd' he').1.symm
  · exact (h.keeps i e d he hd he' hd').1
  · rw [h.once i d e hd he (hd'.trans he'.symm)]

/-- No two ends of one side are ever open towards one peer. -/
theorem opened_unique {i' : ι} {e' : End ι τ ν} (h : Inv K b p) (h' : Inv K p b)
    (he : b.past i e) (he' : b.past i' e') (ho : e.phase = .opened) (ho' : e'.phase = .opened)
    (hp : e.peer = e'.peer) : i = i' := by
  obtain ⟨f, hf, hphase, rfl⟩ := h.peer_of_opened he ho
  obtain ⟨f', hf', hphase', rfl⟩ := h.peer_of_opened he' ho'
  exact h'.peer_unique hf (hp ▸ hf') hphase hphase'

end Inv

/-! ## Versions -/

/-- Two open ends, of which one names the other, have one version. -/
def SameVersions (b p : Book ι τ ν) : Prop :=
  ∀ i e f, b.cur i = some e → e.phase = .opened → p.cur e.peer = some f → f.phase = .opened →
    e.version = f.version

theorem SameVersions.symm (h : SameVersions b p) (hb : Inv K b p) (hp : Inv K p b) :
    SameVersions p b := fun i f e hf hfo he heo => by
  obtain ⟨hpeer, -⟩ := hp.agree hb (hp.recorded i f hf) hfo (hb.recorded _ e he) heo
  exact (h f.peer e f he heo (hpeer ▸ hf) hfo).symm

theorem SameVersions.step (h : SameVersions b p) (hb : Inv K b p) (hb' : Inv K b' p)
    (hp' : Inv K p b') (hs : Step K KeepsVersion p b b') : SameVersions b' p := by
  cases hs with
  | stay hcur _ => exact fun i e f he => h i e f (hcur i ▸ he)
  | @write i e hc _ hok hw =>
    intro j g f hg ho hf ho'
    by_cases hj : j = i
    · subst hj
      rw [hw.self] at hg
      cases hg
      have hmem : ∀ d, b.past j d → b'.past j d := fun d hd => (hw.past j d).2 (.inl hd)
      have hself : b'.past j e := (hw.past j e).2 (.inr ⟨rfl, rfl⟩)
      have hfpast := hp'.recorded _ f hf
      obtain ⟨hpeer, -⟩ := hb'.agree hp' hself ho hfpast ho'
      -- how the peer came to be open
      have hcase : (∃ d, b'.past j d ∧ d.phase = .tryOpen ∧ d.version = f.version) ∨
          e.version = f.version := by
        rcases hp'.opened _ f hfpast ho' with ⟨d, hd, htry, -, -, hv⟩ | ⟨-, d, hd, hopen, -, hv, -⟩
        · exact .inl ⟨d, hpeer ▸ hd, htry, hv⟩
        · rw [hpeer] at hd
          exact .inr (hb'.once j d e hd hself (hopen.trans ho.symm) ▸ hv)
      generalize hcur : b.cur j = c at hc hok
      cases hc with
      | same => exact h j e f hcur ho hf ho'
      | init h' | tryNew h' | tryPrevious _ h' => rw [ho] at h'; cases h'
      | @ack d _ _ hd =>
        rcases hcase with ⟨a, ha, htry, hv⟩ | hv
        · have hrec := hmem d (hb.recorded j d hcur)
          rcases hd with hd | hd
          · -- an end acknowledged from its initial phase was never tried
            rcases (hw.past j a).1 ha with ha | ⟨-, rfl⟩
            · obtain ⟨c, hc, hle⟩ := hb.current j a ha
              rw [hcur] at hc
              cases hc
              rw [htry, hd] at hle
              exact absurd hle (by decide)
            · rw [ho] at htry; cases htry
          · obtain rfl := hb'.once j a d ha hrec (htry.trans hd.symm)
            rcases hok a rfl hd ho with hsame | hno
            · exact hsame.trans hv
            · exact absurd ho' (hno f hf)
        · exact hv
      | @confirm d a hd ha hopen _ hv _ =>
        obtain rfl := hp'.once _ a f ha hfpast (hopen.trans ho'.symm)
        exact hv.symm
      | close => cases ho
    · rw [hw.other j hj] at hg
      exact h j g f hg ho hf ho'

/-! ## Both sides -/

/-- The books of both sides. -/
abbrev System (ι : Type u) (τ : Type v) (ν : Type w) := Side → Book ι τ ν

namespace System

/-- One side moves, the other stands still. -/
structure Moves (K : Kind τ) (ok : Book ι τ ν → Option (End ι τ ν) → End ι τ ν → Prop)
    (S : System ι τ ν) (s : Side) (S' : System ι τ ν) : Prop where
  own : Step K ok (S s.peer) (S s) (S' s)
  other : S' s.peer = S s.peer

/-- Nothing has happened yet. -/
def Start (S : System ι τ ν) : Prop := ∀ s i, (S s).cur i = none ∧ ∀ e, ¬ (S s).past i e

variable {S₀ S S' : System ι τ ν} {s : Side} {tr : List Side}

theorem Start.inv (h : S.Start) : Inv K (S s) (S s.peer) where
  recorded i d hd := by
    rw [(h s i).1] at hd
    cases hd
  current i e he := absurd he ((h s i).2 e)
  once i e _ he := absurd he ((h s i).2 e)
  rigid _ i e _ he := absurd he ((h s i).2 e)
  keeps i d _ hd := absurd hd ((h s i).2 d)
  tried i e he := absurd he ((h s i).2 e)
  opened i e he := absurd he ((h s i).2 e)

theorem Moves.inv (hm : Moves K ok S s S') (h : ∀ t, Inv K (S t) (S t.peer)) :
    ∀ t, Inv K (S' t) (S' t.peer) := fun t => by
  have hs := h s.peer
  rw [Side.peer_peer] at hs
  rcases Side.eq_or_eq_peer s t with rfl | rfl
  · rw [hm.other]
    exact (h t).step hm.own
  · rw [Side.peer_peer, hm.other]
    exact hs.peer_step hm.own

/-- Every run in which tried ends are opened towards their peers keeps the invariant. -/
theorem inv (h₀ : S₀.Start) (hr : Run (Moves K ok) S₀ tr S) : ∀ t, Inv K (S t) (S t.peer) :=
  hr.invariant (I := fun _ S => ∀ t, Inv K (S t) (S t.peer)) (fun _ => h₀.inv)
    fun _ _ _ _ _ hi hm => hm.inv hi

/-- Every run in which they are opened with their versions too keeps the versions. -/
theorem versions (h₀ : S₀.Start) (hr : Run (Moves K KeepsVersion) S₀ tr S) :
    ∀ t, SameVersions (S t) (S t.peer) := by
  refine hr.invariant (I := fun _ S => ∀ t, SameVersions (S t) (S t.peer))
    (fun t i e _ he => by rw [(h₀ t i).1] at he; cases he) fun tr S s S' hr' hv hm t => ?_
  have hi := inv h₀ hr'
  have hi' := hm.inv hi
  have hp' := hi' s.peer
  rw [Side.peer_peer, hm.other] at hp'
  have hb' := hi' s
  rw [hm.other] at hb'
  have hown : SameVersions (S' s) (S s.peer) := (hv s).step (hi s) hb' hp' hm.own
  rcases Side.eq_or_eq_peer s t with rfl | rfl
  · rwa [hm.other]
  · rw [Side.peer_peer, hm.other]
    exact hown.symm hb' hp'

end System

end Handshake
