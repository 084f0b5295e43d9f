import Mathlib.Data.Finmap

/-!
# Maps with an order of entries

A map that remembers the order its keys were put in, and the conversions that build another map key
by key and value by value, either of which may fail. A conversion of the keys may merge entries; two
conversions of which one undoes the other on the keys and on the values at hand lose nothing
(`LinkedMap.convertM_inverse`).
-/

universe u

structure LinkedMap (κ ν : Type u) where
  entries : List (κ × ν)
  nodup : (entries.map Prod.fst).Nodup

namespace LinkedMap

section
variable {κ ν : Type u}

theorem ext_entries {m m' : LinkedMap κ ν} (h : m.entries = m'.entries) : m = m' := by
  cases m
  cases m'
  cases h
  rfl

def empty : LinkedMap κ ν := ⟨[], List.nodup_nil⟩

/-- A new key comes last; a key that is there keeps its place. -/
def putEntry [DecidableEq κ] (k : κ) (v : ν) : List (κ × ν) → List (κ × ν)
  | [] => [(k, v)]
  | e :: es => if e.1 = k then (k, v) :: es else e :: putEntry k v es

section
variable [DecidableEq κ] {k : κ} {v : ν} {es : List (κ × ν)}

theorem map_fst_putEntry_of_mem (h : k ∈ es.map Prod.fst) :
    (putEntry k v es).map Prod.fst = es.map Prod.fst := by
  induction es with
  | nil => cases h
  | cons e es ih =>
    unfold putEntry
    split
    · rename_i he
      rw [List.map_cons, List.map_cons, he]
    · rename_i he
      rcases List.mem_cons.1 h with rfl | h
      · exact absurd rfl he
      · rw [List.map_cons, List.map_cons, ih h]

theorem putEntry_of_notMem (h : k ∉ es.map Prod.fst) : putEntry k v es = es ++ [(k, v)] := by
  induction es with
  | nil => rfl
  | cons e es ih =>
    rw [List.map_cons, List.mem_cons, not_or] at h
    rw [putEntry, if_neg (Ne.symm h.1), ih h.2, List.cons_append]

theorem nodup_putEntry (h : (es.map Prod.fst).Nodup) : ((putEntry k v es).map Prod.fst).Nodup := by
  by_cases hk : k ∈ es.map Prod.fst
  · rwa [map_fst_putEntry_of_mem hk]
  · rw [putEntry_of_notMem hk, List.map_append]
    exact h.append (List.nodup_singleton _) (by simpa using hk)

def put (m : LinkedMap κ ν) (k : κ) (v : ν) : LinkedMap κ ν :=
  ⟨putEntry k v m.entries, nodup_putEntry m.nodup⟩

end

/-! ## The map without its order -/

def toAList (m : LinkedMap κ ν) : AList fun _ : κ => ν :=
  ⟨m.entries.map fun e => ⟨e.1, e.2⟩, by
    rw [List.NodupKeys, List.keys, List.map_map]
    exact m.nodup⟩

/-- The same keys with other values. -/
def mapValues {ν' : Type u} (f : ν → ν') (m : LinkedMap κ ν) : LinkedMap κ ν' :=
  ⟨m.entries.map fun e => (e.1, f e.2), by
    rw [List.map_map]
    exact m.nodup⟩

def toFinmap (m : LinkedMap κ ν) : Finmap fun _ : κ => ν := m.toAList.toFinmap

theorem exists_toFinmap (m : Finmap fun _ : κ => ν) : ∃ l : LinkedMap κ ν, l.toFinmap = m := by
  induction m using Finmap.induction_on with
  | H s =>
    refine ⟨⟨s.entries.map fun e => (e.1, e.2), ?_⟩, congrArg AList.toFinmap (AList.ext ?_)⟩
    · rw [List.map_map]
      exact s.nodupKeys
    · show (s.entries.map fun e => (e.1, e.2)).map _ = _
      rw [List.map_map]
      exact List.map_id _

theorem exists_mapValues {ν' : Type u} {f : ν → ν'} (hf : Function.Surjective f)
    (m : LinkedMap κ ν') : ∃ l : LinkedMap κ ν, l.mapValues f = m := by
  refine ⟨m.mapValues (Function.surjInv hf), ext_entries ?_⟩
  show (m.entries.map _).map _ = m.entries
  rw [List.map_map]
  refine (List.map_congr_left fun e _ => ?_).trans (List.map_id _)
  exact Prod.ext rfl (Function.surjInv_eq hf e.2)

end

/-! ## Conversions -/

section
variable {ε κ κ' ν ν' : Type u} [DecidableEq κ] [DecidableEq κ']

/-- The map of the converted entries, put in one by one. -/
def transformM (f : κ × ν → Except ε (κ' × ν')) (m : LinkedMap κ ν) :
    Except ε (LinkedMap κ' ν') :=
  m.entries.foldlM (fun acc e => do
    let (k, v) ← f e
    .ok (acc.put k v)) empty

def mapKeysM (f : κ → Except ε κ') : LinkedMap κ ν → Except ε (LinkedMap κ' ν) :=
  transformM fun e => do .ok (← f e.1, e.2)

def mapValuesM (f : ν → Except ε ν') : LinkedMap κ ν → Except ε (LinkedMap κ ν') :=
  transformM fun e => do .ok (e.1, ← f e.2)

/-- First the keys, then the values. -/
def convertM (f : κ → Except ε κ') (g : ν → Except ε ν') (m : LinkedMap κ ν) :
    Except ε (LinkedMap κ' ν') := do
  let m ← m.mapKeysM f
  m.mapValuesM g

omit [DecidableEq κ] in
/-- A conversion that succeeds on every entry, with different keys, keeps the entries apart. -/
theorem transformM_eq {t : κ × ν → Except ε (κ' × ν')}
    (h : List.Forall₂ (fun e e' => t e = .ok e') m.entries m'.entries) : transformM t m = .ok m' := by
  have hrun : ∀ (es : List (κ × ν)) (es' : List (κ' × ν')) (acc : LinkedMap κ' ν')
      (hnodup : ((acc.entries ++ es').map Prod.fst).Nodup),
      List.Forall₂ (fun e e' => t e = .ok e') es es' →
      es.foldlM (fun acc e => do
        let (k, v) ← t e
        Except.ok (acc.put k v)) acc = .ok ⟨acc.entries ++ es', hnodup⟩ := by
    intro es
    induction es with
    | nil =>
      intro es' acc hnodup hes
      cases hes
      exact congrArg Except.ok (ext_entries (List.append_nil _).symm)
    | cons e es ih =>
      intro es' acc hnodup hes
      cases hes with
      | @cons _ e' _ es' he hes =>
        have hnew : e'.1 ∉ acc.entries.map Prod.fst := by
          intro hmem
          rw [List.map_append, List.map_cons] at hnodup
          exact (List.nodup_append.1 hnodup).2.2 _ hmem _ List.mem_cons_self rfl
        have hput : acc.entries ++ e' :: es' = (acc.put e'.1 e'.2).entries ++ es' := by
          show _ = putEntry e'.1 e'.2 acc.entries ++ es'
          rw [putEntry_of_notMem hnew, List.append_assoc, List.singleton_append]
        rw [List.foldlM_cons, he]
        refine (ih es' (acc.put e'.1 e'.2) (hput ▸ hnodup) hes).trans ?_
        exact congrArg Except.ok (ext_entries hput.symm)
  exact hrun m.entries m'.entries empty (by simpa [empty] using m'.nodup) h

theorem exists_forall₂ {α β : Type u} {R : α → β → Prop} {l : List α} (h : ∀ a ∈ l, ∃ b, R a b) :
    ∃ l', List.Forall₂ R l l' := by
  induction l with
  | nil => exact ⟨[], .nil⟩
  | cons a l ih =>
    obtain ⟨b, hb⟩ := h a List.mem_cons_self
    obtain ⟨l', hl'⟩ := ih fun a ha => h a (List.mem_cons_of_mem _ ha)
    exact ⟨b :: l', .cons hb hl'⟩

variable {f : κ → Except ε κ'} {f' : κ' → Except ε κ} {g : ν → Except ε ν'} {g' : ν' → Except ε ν}
  {m : LinkedMap κ ν}

omit [DecidableEq κ] [DecidableEq κ'] in
/-- The entries with their keys converted, and not yet their values. -/
theorem exists_between {es : List (κ × ν)} {es' : List (κ' × ν')}
    (h : List.Forall₂ (fun e e' => f e.1 = .ok e'.1 ∧ g e.2 = .ok e'.2) es es') :
    ∃ l : List (κ' × ν), List.Forall₂ (fun e e' => f e.1 = .ok e'.1 ∧ e.2 = e'.2) es l ∧
      List.Forall₂ (fun e e' => e.1 = e'.1 ∧ g e.2 = .ok e'.2) l es' ∧
      l.map Prod.fst = es'.map Prod.fst := by
  induction h with
  | nil => exact ⟨[], .nil, .nil, rfl⟩
  | @cons e e' _ _ he _ ih =>
    obtain ⟨l, hl, hl', hkeys⟩ := ih
    refine ⟨(e'.1, e.2) :: l, .cons ⟨he.1, rfl⟩ hl, .cons ⟨rfl, he.2⟩ hl', ?_⟩
    rw [List.map_cons, List.map_cons, hkeys]

omit [DecidableEq κ] in
theorem convertM_eq {m' : LinkedMap κ' ν'}
    (h : List.Forall₂ (fun e e' => f e.1 = .ok e'.1 ∧ g e.2 = .ok e'.2) m.entries m'.entries) :
    convertM f g m = .ok m' := by
  obtain ⟨l, hl, hl', hkeys⟩ := exists_between h
  let middle : LinkedMap κ' ν := ⟨l, hkeys ▸ m'.nodup⟩
  have hfst : mapKeysM f m = .ok middle := by
    refine transformM_eq (hl.imp ?_)
    rintro ⟨k, v⟩ ⟨k', v'⟩ ⟨hk, hv⟩
    simp only at hk hv
    rw [hk, hv]
    rfl
  have hsnd : mapValuesM g middle = .ok m' := by
    refine transformM_eq (hl'.imp ?_)
    rintro ⟨k, v⟩ ⟨k', v'⟩ ⟨hk, hv⟩
    simp only at hk hv
    rw [hk, hv]
    rfl
  unfold convertM
  rw [hfst]
  exact hsnd

theorem mapKeysM_ok : mapKeysM Except.ok m = (.ok m : Except ε (LinkedMap κ ν)) :=
  transformM_eq (List.forall₂_same.2 fun _ _ => rfl)

theorem convertM_ok_left : convertM Except.ok g m = m.mapValuesM g := by
  unfold convertM
  rw [mapKeysM_ok]
  rfl

/-- When the keys and the values are read back, so is the map, and in its order. -/
theorem convertM_inverse (hkeys : ∀ e ∈ m.entries, ∃ k, f e.1 = .ok k ∧ f' k = .ok e.1)
    (hvalues : ∀ e ∈ m.entries, ∃ v, g e.2 = .ok v ∧ g' v = .ok e.2) :
    ∃ m', convertM f g m = .ok m' ∧ convertM f' g' m' = .ok m := by
  have hentries : ∀ e ∈ m.entries, ∃ e' : κ' × ν', (f e.1 = .ok e'.1 ∧ g e.2 = .ok e'.2) ∧
      f' e'.1 = .ok e.1 ∧ g' e'.2 = .ok e.2 := by
    intro e he
    obtain ⟨k, hk, hk'⟩ := hkeys e he
    obtain ⟨v, hv, hv'⟩ := hvalues e he
    exact ⟨(k, v), ⟨hk, hv⟩, hk', hv'⟩
  obtain ⟨l', hl'⟩ := exists_forall₂ hentries
  have hback : List.Forall₂ (fun e' e => f' e'.1 = .ok e.1 ∧ g' e'.2 = .ok e.2) l' m.entries :=
    (hl'.imp fun _ _ h => h.2).flip
  have hnodup : (l'.map Prod.fst).Nodup := by
    refine List.Nodup.of_map f' ?_
    have hmap : (l'.map Prod.fst).map f' = (m.entries.map Prod.fst).map Except.ok := by
      rw [List.map_map, List.map_map, ← List.forall₂_eq_eq_eq, List.forall₂_map_left_iff,
        List.forall₂_map_right_iff]
      exact hback.imp fun _ _ h => h.1
    rw [hmap]
    exact m.nodup.map fun _ _ h => Except.ok.inj h
  refine ⟨⟨l', hnodup⟩, convertM_eq (hl'.imp fun _ _ h => h.1), convertM_eq hback⟩

end

end LinkedMap
