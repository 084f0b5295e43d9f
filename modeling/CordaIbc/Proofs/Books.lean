import CordaIbc.Net
import CordaIbc.Proofs.EndStep

/-!
# The ends of a chain as a book

The connections of a chain, or its channels, are the ends of one side of a handshake
(`Handshake.Book`), by the names of their identifiers. A transaction that leaves the states of the
class as they are leaves the book as it is (`Leaves.cur_eq`, `Leaves.past_iff`); one that writes a
state writes one end (`Writes.book`). A run of two hosts is then a run of their books
(`Net.run_books`).
-/

namespace CordaIbc

open StateClass

/-- A class of states that are ends. -/
class EndClass (T : Type) [StateClass T] (τ ν : outParam Type) where
  id : T → Identifier
  id?_up : ∀ t : T, (up t).id? = some (id t)
  toEnd : T → Handshake.End String τ ν

namespace Chain

variable {T τ ν : Type} [StateClass T] [EndClass T τ ν]

variable (T) in
def book (c : Chain) : Handshake.Book String τ ν where
  cur name :=
    match Identifier.of name with
    | .ok i => ((c.states.lookup i).bind fun s => (cast? s : Option T)).map EndClass.toEnd
    | .error _ => none
  past name e := ∃ t : T, up t ∈ c.history ∧ (EndClass.id t).id = name ∧ EndClass.toEnd t = e

section
variable {c c' : Chain} {i : Identifier} {t : T} {name : String}

theorem book_cur (i : Identifier) : (c.book T).cur i.id =
    ((c.states.lookup i).bind fun s => (cast? s : Option T)).map EndClass.toEnd := by
  unfold book
  simp only [Identifier.of_id]

theorem book_cur_of_lookup (h : c.states.lookup i = some (up t)) :
    (c.book T).cur i.id = some (EndClass.toEnd t) := by
  rw [book_cur, h, Option.bind_some, cast?_up, Option.map_some]

theorem book_cur_of_none (h : c.states.lookup i = none) : (c.book T).cur i.id = none := by
  rw [book_cur, h, Option.bind_none, Option.map_none]

theorem book_cur_cases {e : Handshake.End String τ ν} (h : (c.book T).cur name = some e) :
    ∃ (i : Identifier) (t : T), i.id = name ∧ c.states.lookup i = some (up t) ∧
      EndClass.toEnd t = e := by
  cases hi : Identifier.of name with
  | error _ =>
    unfold book at h
    simp only [hi] at h
    cases h
  | ok i =>
    obtain rfl := Identifier.of_ok.1 hi
    rw [book_cur] at h
    obtain ⟨t, ht, he⟩ := Option.map_eq_some_iff.1 h
    obtain ⟨s, hs, hc⟩ := Option.bind_eq_some_iff.1 ht
    rw [cast?_eq.1 hc] at hs
    exact ⟨i, t, rfl, hs, he⟩

/-- What a lookup tells of the class. -/
theorem bind_cast_eq {a b : Option ContractState}
    (h : ∀ t : T, a = some (up t) ↔ b = some (up t)) :
    (a.bind fun s => (cast? s : Option T)) = b.bind fun s => (cast? s : Option T) := by
  have hiff : ∀ (x : Option ContractState) (t : T),
      (x.bind fun s => (cast? s : Option T)) = some t ↔ x = some (up t) := fun x t => by
    rw [Option.bind_eq_some_iff]
    constructor
    · rintro ⟨s, hs, hc⟩
      rwa [cast?_eq.1 hc] at hs
    · exact fun hs => ⟨_, hs, cast?_up t⟩
  refine Option.ext fun t => ?_
  rw [hiff, hiff]
  exact h t

theorem Leaves.cur_eq (h : Leaves T c c') (name : String) :
    (c'.book T).cur name = (c.book T).cur name := by
  cases hi : Identifier.of name with
  | error _ =>
    unfold book
    simp only [hi]
  | ok i =>
    obtain rfl := Identifier.of_ok.1 hi
    rw [book_cur, book_cur, bind_cast_eq (h.lookup i)]

theorem Leaves.past_iff (h : Leaves T c c') (name : String) (e : Handshake.End String τ ν) :
    (c'.book T).past name e ↔ (c.book T).past name e := by
  constructor
  · rintro ⟨t, ht, hrest⟩
    exact ⟨t, (h.history t).1 ht, hrest⟩
  · rintro ⟨t, ht, hrest⟩
    exact ⟨t, (h.history t).2 ht, hrest⟩

theorem Writes.book (h : Writes c c' (EndClass.id t) t) :
    Handshake.Writes (c.book T) (c'.book T) (EndClass.id t).id (EndClass.toEnd t) where
  self := book_cur_of_lookup h.self
  other name hne := by
    cases hi : Identifier.of name with
    | error _ =>
      unfold Chain.book
      simp only [hi]
    | ok i =>
      obtain rfl := Identifier.of_ok.1 hi
      have hid : i ≠ EndClass.id t := fun he => hne (congrArg Identifier.id he)
      rw [book_cur, book_cur, bind_cast_eq (h.other i hid)]
  past name e := by
    constructor
    · rintro ⟨u, hu, rfl, rfl⟩
      rcases (h.history u).1 hu with rfl | hu
      · exact .inr ⟨rfl, rfl⟩
      · exact .inl ⟨u, hu, rfl, rfl⟩
    · rintro (⟨u, hu, hrest⟩ | ⟨rfl, rfl⟩)
      · exact ⟨u, (h.history u).2 (.inr hu), hrest⟩
      · exact ⟨t, (h.history t).2 (.inl rfl), rfl, rfl⟩

theorem Leaves.step {K : Handshake.Kind τ} {p : Handshake.Book String τ ν}
    {okBook : Handshake.Book String τ ν → Option (Handshake.End String τ ν) →
      Handshake.End String τ ν → Prop} (h : Leaves T c c') :
    Handshake.Step K okBook p (c.book T) (c'.book T) := .stay h.cur_eq h.past_iff

/-- A state that is written is a step of the handshake, given what was there. -/
theorem Writes.step {K : Handshake.Kind τ} {p : Handshake.Book String τ ν}
    {okBook : Handshake.Book String τ ν → Option (Handshake.End String τ ν) →
      Handshake.End String τ ν → Prop} (h : Writes c c' (EndClass.id t) t)
    {d : Option (Handshake.End String τ ν)} (hd : (c.book T).cur (EndClass.id t).id = d)
    (hchange : Handshake.Change K p (EndClass.id t).id d (EndClass.toEnd t))
    (hpeer : Handshake.KeepsPeer d (EndClass.toEnd t)) (hok : okBook p d (EndClass.toEnd t)) :
    Handshake.Step K okBook p (c.book T) (c'.book T) := by
  subst hd
  exact .write hchange hpeer hok h.book

/-- A host that has just been created has no ends. -/
theorem Start.book (h : c.Start) (hT : ∀ (host : Host) (t : T), up t ≠ .host host)
    (name : String) : (c.book T).cur name = none ∧ ∀ e, ¬ (c.book T).past name e := by
  obtain ⟨_, _, _, _, _, host, -, rfl⟩ := h
  constructor
  · by_contra hne
    obtain ⟨e, he⟩ := Option.ne_none_iff_exists'.1 hne
    obtain ⟨i, t, -, hl, -⟩ := book_cur_cases he
    exact hT host t (lookup_ofHost hl).2
  · rintro e ⟨t, ht, -⟩
    exact hT host t (List.mem_singleton.1 ht)

end

end Chain

namespace Net

variable (T : Type) {τ ν : Type} [StateClass T] [EndClass T τ ν]

/-- The books of two hosts. -/
def books (n : Net Side) : Handshake.System String τ ν := fun s => (n s).book T

variable {T} {K : Handshake.Kind τ} {P : Platform} {ok : Net Side → Side → LedgerTransaction → Prop}
  {okBook : Handshake.Book String τ ν → Option (Handshake.End String τ ν) →
    Handshake.End String τ ν → Prop}
  {n₀ n n' : Net Side} {tr : List (Side × LedgerTransaction)}

theorem Step.moves {a : Side × LedgerTransaction} (h : Step P ok n a n')
    (hs : Handshake.Step K okBook ((n a.1.peer).book T) ((n a.1).book T)
      (((n a.1).apply a.2).book T)) :
    Handshake.System.Moves K okBook (n.books T) a.1 (n'.books T) where
  own := by
    show Handshake.Step K okBook _ _ ((n' a.1).book T)
    rw [h.apply]
    exact hs
  other := by
    show (n' a.1.peer).book T = _
    rw [h.other _ (Side.peer_ne _)]
    rfl

/-- A run of two hosts that track each other is a run of their books, if each transaction is a step
of its host's. -/
theorem run_books (h₀ : n₀.Start) (htracks : ∀ n s tx, ok n s tx → TracksPeer n s tx)
    (hstep : ∀ n a n', n.Tracking → Step P ok n a n' →
      Handshake.Step K okBook ((n a.1.peer).book T) ((n a.1).book T) (((n a.1).apply a.2).book T))
    (hr : Run (Step P ok) n₀ tr n) :
    Run (Handshake.System.Moves K okBook) (n₀.books T) (tr.map Prod.fst) (n.books T) := by
  induction hr with
  | nil => exact .nil
  | @snoc tr n n' a hr hs ih =>
    rw [List.map_append]
    exact .snoc ih (hs.moves (hstep n a n' (Tracking.run h₀ htracks hr) hs))

end Net

end CordaIbc
