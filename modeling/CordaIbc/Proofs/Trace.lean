import CordaIbc.Denom

/-!
# Denomination traces

Parsing inverts printing, and dropping a prefix inverts adding it. Adding back a prefix that was
dropped gives the denomination itself, unless its path is the prefix and one more slash: that slash is
dropped as well (`Denom.laws_iff`).
-/

namespace CordaIbc

theorem joinToString_cons {x : String} {xs : List String} {sep : Char} (h : xs ≠ []) :
    (joinToString (x :: xs) sep).toList = x.toList ++ sep :: (joinToString xs sep).toList := by
  obtain ⟨y, ys, rfl⟩ := List.exists_cons_of_ne_nil h
  simp [joinToString, List.intercalate]

theorem joinToString_concat {xs : List String} {x : String} {sep : Char} (h : xs ≠ []) :
    (joinToString (xs ++ [x]) sep).toList = (joinToString xs sep).toList ++ sep :: x.toList := by
  induction xs with
  | nil => exact absurd rfl h
  | cons y ys ih =>
    rcases ys with _ | ⟨z, zs⟩
    · simp [joinToString, List.intercalate]
    · rw [List.cons_append, joinToString_cons (by simp), ih (List.cons_ne_nil _ _),
        joinToString_cons (List.cons_ne_nil _ _), List.append_assoc, List.cons_append]

namespace DenomPath
variable {path : String} {p c : Identifier} {rest : List String}

/-- A prefix and one more slash. -/
def dangling (p c : Identifier) : String := p.id ++ "/" ++ c.id ++ "/"

/-- What is left of a path after its first two names. -/
theorem removePrefix_of_split (h : split path '/' = p.id :: c.id :: rest) :
    removePrefix path = .ok (joinToString rest '/') := by
  unfold removePrefix splitLimit
  rw [h]
  rcases rest with _ | ⟨x, _ | ⟨y, rest⟩⟩
  · simp [joinToString]
  · simp [joinToString, require, Result.ok_bind]
  · have hlen : ¬ rest.length + 1 + 1 + 1 + 1 ≤ 3 := by omega
    simp [require, Result.ok_bind, hlen]

theorem addPath_of_split (h : split path '/' = p.id :: c.id :: rest) :
    addPath (joinToString rest '/') p c = path ↔ path ≠ dangling p c := by
  have hpath : joinToString (p.id :: c.id :: rest) '/' = path := by rw [← h, joinToString_split]
  have hlist : path.toList = p.id.toList ++ '/' :: (joinToString (c.id :: rest) '/').toList := by
    rw [← hpath]
    exact joinToString_cons (List.cons_ne_nil _ _)
  have hdangling : (dangling p c).toList = p.id.toList ++ '/' :: (c.id.toList ++ ['/']) := by
    simp [dangling]
  unfold addPath
  rcases rest with _ | ⟨x, xs⟩
  · -- the path is the prefix
    have hlist : path.toList = p.id.toList ++ '/' :: c.id.toList := by simpa [joinToString] using hlist
    refine iff_of_true ?_ fun he => ?_
    · exact String.toList_injective (by simp [joinToString, hlist])
    · rw [he, hdangling] at hlist
      simp at hlist
  · -- a slash follows it
    rw [joinToString_cons (List.cons_ne_nil _ _)] at hlist
    by_cases hempty : joinToString (x :: xs) '/' = ""
    · rw [if_pos hempty]
      rw [hempty] at hlist
      refine iff_of_false (fun he => ?_) fun hne => hne ?_
      · rw [← he] at hlist
        simp at hlist
      · exact String.toList_injective (hlist.trans hdangling.symm)
    · rw [if_neg hempty]
      refine iff_of_true ?_ fun he => ?_
      · exact String.toList_injective (by simp [hlist])
      · rw [he, hdangling] at hlist
        simp only [List.append_cancel_left_eq, List.cons.injEq, true_and] at hlist
        exact hempty (String.toList_injective hlist.symm)

end DenomPath

namespace Denom
variable {d : Denom} {p c : Identifier}

/-- What is unlocked for a voucher with a prefix, and what that prefix makes of it. -/
theorem exists_removePrefix_of_hasPrefix (h : d.hasPrefix p c = true) : ∃ d',
    d.removePrefix = .ok d' ∧ (d'.addPath p c = d ↔ d.denomTrace.path ≠ DenomPath.dangling p c) := by
  obtain ⟨rest, hs⟩ := DenomPath.hasPrefixes_two.1 h
  refine ⟨⟨{ d.denomTrace with path := joinToString rest '/' }⟩, ?_, ?_⟩
  · simp only [removePrefix, DenomPath.removePrefix_of_split hs, Result.ok_bind]
  · rw [← DenomPath.addPath_of_split hs]
    obtain ⟨path, baseDenom⟩ := d
    simp [addPath]

theorem hasPrefix_of_dangling (h : d.denomTrace.path = DenomPath.dangling p c) :
    d.hasPrefix p c = true := by
  refine DenomPath.hasPrefixes_two.2 ⟨[""], ?_⟩
  have hs : split (DenomPath.dangling p c) '/' = split p.id '/' ++ split (c.id ++ "/") '/' :=
    split_append (by simp [DenomPath.dangling])
  have hs' : split (c.id ++ "/") '/' = split c.id '/' ++ split "" '/' := split_append (by simp)
  have hempty : split "" '/' = [""] := by decide
  rw [h, hs, hs', hempty, split_eq_singleton p.slash_notMem, split_eq_singleton c.slash_notMem]
  rfl

/-- A string with a path prints as it was. -/
theorem toString_fromString {s : String} (h : (fromString s).denomTrace.path ≠ "") :
    s = (fromString s).denomTrace.path ++ "/" ++ (fromString s).denomTrace.baseDenom := by
  have hlast : (fromString s).denomTrace.baseDenom = (split s '/').getLast split_ne_nil := by
    show (split s '/').getLastD "" = _
    rw [List.getLastD_eq_getLast?, List.getLast?_eq_some_getLast split_ne_nil]
    rfl
  have hinit : (split s '/').dropLast ≠ [] := by
    intro hnil
    refine h ?_
    show joinToString (split s '/').dropLast '/' = ""
    rw [hnil]
    rfl
  have hparts : joinToString ((split s '/').dropLast ++ [(split s '/').getLast split_ne_nil]) '/' = s := by
    rw [List.dropLast_append_getLast, joinToString_split]
  refine String.toList_injective ?_
  rw [← congrArg String.toList hparts, joinToString_concat hinit, hlast]
  simp [fromString]

/-- The strings whose path is a prefix and one more slash. -/
theorem path_eq_dangling_iff {s : String} : (fromString s).denomTrace.path = DenomPath.dangling p c ↔
    ∃ base : String, '/' ∉ base.toList ∧ s = p.id ++ "/" ++ c.id ++ "//" ++ base := by
  have hne : DenomPath.dangling p c ≠ "" := fun h => by
    have hl := congrArg String.toList h
    simp [DenomPath.dangling] at hl
  constructor
  · intro h
    refine ⟨_, plain_fromString s, ?_⟩
    have hs := toString_fromString (h ▸ hne)
    rw [h] at hs
    exact String.toList_injective (by rw [congrArg String.toList hs]; simp [DenomPath.dangling])
  · rintro ⟨base, hbase, rfl⟩
    have h₁ : split (p.id ++ "/" ++ c.id ++ "//" ++ base) '/' =
        split p.id '/' ++ split (c.id ++ "//" ++ base) '/' := split_append (by simp)
    have h₂ : split (c.id ++ "//" ++ base) '/' = split c.id '/' ++ split ("/" ++ base) '/' :=
      split_append (by simp)
    have h₃ : split ("/" ++ base) '/' = split "" '/' ++ split base '/' := split_append (by simp)
    have hempty : split "" '/' = [""] := by decide
    have hparts : split (p.id ++ "/" ++ c.id ++ "//" ++ base) '/' = [p.id, c.id, "", base] := by
      rw [h₁, h₂, h₃, hempty, split_eq_singleton p.slash_notMem, split_eq_singleton c.slash_notMem,
        split_eq_singleton hbase]
      rfl
    show joinToString (split _ '/').dropLast '/' = _
    rw [hparts]
    refine String.toList_injective ?_
    simp [joinToString, List.intercalate, DenomPath.dangling]

/-- For every string a packet can carry. -/
theorem laws_iff (s : String) (p c : Identifier) :
    (fromString (fromString s).toString = fromString s ∧
      ((fromString s).addPath p c).hasPrefix p c = true ∧
      ((fromString s).addPath p c).removePrefix = .ok (fromString s) ∧
      ((fromString s).hasPrefix p c = true → ∃ d, (fromString s).removePrefix = .ok d ∧
        d.addPath p c = fromString s ∧ ∀ e : Denom, e.addPath p c = fromString s → e = d)) ↔
      ¬ ∃ base : String, '/' ∉ base.toList ∧ s = p.id ++ "/" ++ c.id ++ "//" ++ base := by
  rw [← path_eq_dangling_iff]
  constructor
  · rintro ⟨-, -, -, hback⟩ hpath
    obtain ⟨d, hd, hadd, -⟩ := hback (hasPrefix_of_dangling hpath)
    obtain ⟨d', hd', hiff⟩ := exists_removePrefix_of_hasPrefix (hasPrefix_of_dangling hpath)
    obtain rfl := Except.ok.inj (hd.symm.trans hd')
    exact hiff.1 hadd hpath
  · intro hpath
    refine ⟨fromString_toString (plain_fromString s), hasPrefix_addPath, removePrefix_addPath,
      fun h => ?_⟩
    obtain ⟨d, hd, hiff⟩ := exists_removePrefix_of_hasPrefix h
    refine ⟨d, hd, hiff.2 hpath, fun e he => ?_⟩
    have hremove : (e.addPath p c).removePrefix = .ok e := removePrefix_addPath
    rw [he, hd] at hremove
    exact (Except.ok.inj hremove).symm

/-- The trace `transfer/channel-0//atom` has the prefix, and loses a slash with it. -/
theorem slash_lost : ∃ (s : String) (p c : Identifier) (d : Denom),
    (fromString s).hasPrefix p c = true ∧ (fromString s).removePrefix = .ok d ∧
    d.addPath p c ≠ fromString s := by
  refine ⟨"transfer/channel-0//atom", ⟨"transfer", by decide⟩, ⟨"channel-0", by decide⟩,
    fromString "atom", ?_, ?_, ?_⟩
  all_goals decide +kernel

end Denom

end CordaIbc
