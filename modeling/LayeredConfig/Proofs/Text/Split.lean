import LayeredConfig.Text.Split
import Mathlib

/-!
# Cutting and joining — pieces and the text between marks

What is cut at a mark is the text again when it is joined with the mark (`intercalate_splitOn`). What is
joined with a character that no piece has is cut into the same pieces (`splitOn_intercalate`). A mark
that is found in a text is found in every part of it that holds it (`indexOf?_of_append_left`,
`indexOf?_of_append_right`).
-/

namespace LayeredConfig.Text

/-! ## 1. Joining what was cut -/

theorem splitOn_of_cutAt? {mark cs before after : List Char} (h : cutAt? mark cs = some (before, after))
    (hshorter : after.length < cs.length) : splitOn mark cs = before :: splitOn mark after := by
  rw [splitOn, h]
  exact if_pos hshorter

theorem splitOn_ne_nil (mark cs : List Char) : splitOn mark cs ≠ [] := by
  rw [splitOn]
  split
  next => exact List.cons_ne_nil _ _
  next =>
    split
    next => exact List.cons_ne_nil _ _
    next => exact List.cons_ne_nil _ _

theorem intercalate_splitOn (mark cs : List Char) : mark.intercalate (splitOn mark cs) = cs := by
  induction cs using splitOn.induct mark with
  | case1 cs hcut =>
    rw [splitOn, hcut]
    exact List.intercalate_singleton
  | case2 cs before after hcut hshorter ih =>
    rw [splitOn_of_cutAt? hcut hshorter, List.intercalate_cons_of_ne_nil (splitOn_ne_nil mark after), ih]
    exact (eq_append_of_cutAt? hcut).symm
  | case3 cs before after hcut hlonger =>
    rw [splitOn, hcut]
    dsimp only
    rw [if_neg hlonger, List.intercalate_singleton]

theorem mem_intercalate {mark : List Char} {pieces : List (List Char)} {piece : List Char} {c : Char}
    (hpiece : piece ∈ pieces) (hc : c ∈ piece) : c ∈ mark.intercalate pieces := by
  induction pieces with
  | nil => exact absurd hpiece List.not_mem_nil
  | cons first rest ih =>
    cases rest with
    | nil =>
      rw [List.intercalate_singleton, ← List.mem_singleton.1 hpiece]
      exact hc
    | cons second rest =>
      rw [List.intercalate_cons_cons]
      rcases List.mem_cons.1 hpiece with rfl | hpiece
      · exact List.mem_append_left _ (List.mem_append_left _ hc)
      · exact List.mem_append_right _ (ih hpiece)

theorem mem_of_mem_splitOn {mark cs piece : List Char} {c : Char} (hpiece : piece ∈ splitOn mark cs)
    (hc : c ∈ piece) : c ∈ cs := by
  rw [← intercalate_splitOn mark cs]
  exact mem_intercalate hpiece hc

/-- A change that is made letter by letter is made in the pieces and in the marks between them. -/
theorem flatMap_intercalate (f : Char → List Char) (mark : List Char) (pieces : List (List Char)) :
    (mark.intercalate pieces).flatMap f = (mark.flatMap f).intercalate (pieces.map (·.flatMap f)) := by
  induction pieces with
  | nil => rfl
  | cons first rest ih =>
    cases rest with
    | nil => rw [List.map_singleton, List.intercalate_singleton, List.intercalate_singleton]
    | cons second rest =>
      rw [List.map_cons] at ih ⊢
      rw [List.map_cons, List.intercalate_cons_cons, List.intercalate_cons_cons, List.flatMap_append,
        List.flatMap_append, ih]

theorem replaceChar_of_notMem {c : Char} {cs : List Char} (h : c ∉ cs) (new : List Char) :
    replaceChar c new cs = cs := by
  have hsame : ∀ x ∈ cs, (if x = c then new else [x]) = [x] := by
    intro x hx
    rw [if_neg]
    rintro rfl
    exact h hx
  rw [replaceChar, List.flatMap_congr hsame, List.flatMap_singleton']

theorem replaceChar_self (c : Char) (cs : List Char) : replaceChar c [c] cs = cs := by
  have hself : ∀ x ∈ cs, (if x = c then [c] else [x]) = [x] := by
    intro x _
    split
    next hx => rw [hx]
    next => rfl
  rw [replaceChar, List.flatMap_congr hself, List.flatMap_singleton']

/-! ## 2. Cutting what was joined -/

variable {d : Char} {piece : List Char}

theorem cutAt?_of_notMem (h : d ∉ piece) : cutAt? [d] piece = none :=
  cutAt?_eq_none_of_notInfix fun hmark => h (hmark.subset (List.mem_singleton_self d))

theorem cutAt?_append_cons (h : d ∉ piece) (after : List Char) :
    cutAt? [d] (piece ++ d :: after) = some (piece, after) := by
  have hfirst : cutAt? [d] (d :: after) = some ([], after) := by
    simp [cutAt?, indexOf?]
  rw [cutAt?_append_of_notMem h, hfirst, Option.map_some, Prod.map, List.append_nil]
  rfl

theorem cutAt?_of_mem (h : d ∈ piece) :
    cutAt? [d] piece = some (piece.takeWhile (· ≠ d), (piece.dropWhile (· ≠ d)).tail) := by
  obtain ⟨before, after, rfl, hbefore⟩ := List.eq_append_cons_of_mem h
  have hkept : ∀ c ∈ before, decide (c ≠ d) = true := by
    intro c hc
    rw [decide_eq_true_eq]
    rintro rfl
    exact hbefore hc
  rw [cutAt?_append_cons hbefore, List.takeWhile_append_of_pos hkept,
    List.dropWhile_append_of_pos hkept]
  simp

theorem cutAt?_cons_of_notPrefix {mark rest : List Char} {c : Char} (h : ¬mark <+: c :: rest) :
    cutAt? mark (c :: rest) = (cutAt? mark rest).map (Prod.map (c :: ·) id) := by
  have hlater : mark.isPrefixOf (c :: rest) = false := by
    rw [Bool.eq_false_iff]
    exact fun hmark => h (List.isPrefixOf_iff_prefix.1 hmark)
  rw [cutAt?, cutAt?, indexOf?, hlater, if_neg Bool.false_ne_true, Option.map_map, Option.map_map]
  congr 1
  funext i
  show (_, (c :: rest).drop (i + 1 + _)) = _
  rw [Nat.add_right_comm]
  rfl

/-- Two characters that differ cannot begin a mark within the one that follows. -/
theorem cutAt?_append_of_notInfix {e : Char} (hne : d ≠ e) (h : ¬[d, e] <:+: piece)
    (after : List Char) : cutAt? [d, e] (piece ++ d :: e :: after) = some (piece, after) := by
  induction piece with
  | nil => simp [cutAt?, indexOf?]
  | cons c piece ih =>
    have hprefix : ¬[d, e] <+: c :: (piece ++ d :: e :: after) := by
      intro hmark
      obtain ⟨rfl, hrest⟩ := List.cons_prefix_cons.1 hmark
      cases piece with
      | nil => exact hne (List.cons_prefix_cons.1 hrest).1.symm
      | cons second piece =>
        obtain ⟨rfl, -⟩ := List.cons_prefix_cons.1 hrest
        exact h ⟨[], piece, rfl⟩
    rw [List.cons_append, cutAt?_cons_of_notPrefix hprefix,
      ih fun hmark => h (hmark.trans (List.suffix_cons c piece).isInfix)]
    rfl

theorem splitOn_of_notMem (h : d ∉ piece) : splitOn [d] piece = [piece] := by
  rw [splitOn, cutAt?_of_notMem h]

theorem splitOn_append_cons (h : d ∉ piece) (after : List Char) :
    splitOn [d] (piece ++ d :: after) = piece :: splitOn [d] after := by
  apply splitOn_of_cutAt? (cutAt?_append_cons h after)
  simp only [List.length_append, List.length_cons]
  omega

theorem splitOn_intercalate {pieces : List (List Char)} (h : ∀ piece ∈ pieces, d ∉ piece)
    (hne : pieces ≠ []) : splitOn [d] ([d].intercalate pieces) = pieces := by
  induction pieces with
  | nil => contradiction
  | cons first rest ih =>
    obtain ⟨hfirst, hrest⟩ := List.forall_mem_cons.1 h
    cases rest with
    | nil =>
      rw [List.intercalate_singleton]
      exact splitOn_of_notMem hfirst
    | cons second rest =>
      rw [List.intercalate_cons_cons, List.append_assoc, List.singleton_append,
        splitOn_append_cons hfirst, ih hrest (List.cons_ne_nil second rest)]

/-! ## 3. Searching a part of a text -/

section Search

variable {mark cs : List Char} {i : Nat}

/-- The search ends where the mark begins for the first time. -/
theorem indexOf?_eq_some_iff :
    indexOf? mark cs = some i ↔ mark <+: cs.drop i ∧ ∀ j < i, ¬mark <+: cs.drop j := by
  induction cs generalizing i with
  | nil =>
    rw [indexOf?]
    by_cases hmark : mark = []
    · subst hmark
      rw [if_pos rfl]
      cases i with
      | zero => simp
      | succ i =>
        constructor
        · simp
        · exact fun h => absurd List.nil_prefix (h.2 0 (Nat.succ_pos i))
    · simp [hmark]
  | cons c cs ih =>
    rw [indexOf?]
    by_cases hp : mark <+: c :: cs
    · rw [if_pos (List.isPrefixOf_iff_prefix.2 hp)]
      cases i with
      | zero => simp [hp]
      | succ i =>
        constructor
        · simp
        · exact fun h => absurd hp (h.2 0 (Nat.succ_pos i))
    · rw [if_neg (by rwa [List.isPrefixOf_iff_prefix])]
      cases i with
      | zero => simp [hp]
      | succ i =>
        rw [Nat.forall_lt_succ_left']
        simp [ih, hp]

theorem indexOf?_append_of_some (h : indexOf? mark cs = some i) (back : List Char) :
    indexOf? mark (cs ++ back) = some i := by
  have hle := indexOf?_add_length_le h
  rw [indexOf?_eq_some_iff] at h ⊢
  refine ⟨?_, fun j hj hp => h.2 j hj ?_⟩
  · rw [List.drop_append_of_le_length (by omega)]
    exact h.1.trans (List.prefix_append _ back)
  · rw [List.drop_append_of_le_length (by omega)] at hp
    refine List.prefix_of_prefix_length_le hp (List.prefix_append _ back) ?_
    rw [List.length_drop]
    omega

theorem indexOf?_of_append_left {front : List Char}
    (h : indexOf? mark (front ++ cs) = some (front.length + i)) : indexOf? mark cs = some i := by
  rw [indexOf?_eq_some_iff, List.drop_length_add_append] at h
  refine indexOf?_eq_some_iff.2 ⟨h.1, fun j hj hp => h.2 (front.length + j) (by omega) ?_⟩
  rwa [List.drop_length_add_append]

theorem indexOf?_of_append_right {back : List Char} (h : indexOf? mark (cs ++ back) = some i)
    (hle : i + mark.length ≤ cs.length) : indexOf? mark cs = some i := by
  rw [indexOf?_eq_some_iff] at h ⊢
  refine ⟨?_, fun j hj hp => h.2 j hj ?_⟩
  · rw [List.drop_append_of_le_length (by omega)] at h
    refine List.prefix_of_prefix_length_le h.1 (List.prefix_append _ back) ?_
    rw [List.length_drop]
    omega
  · rw [List.drop_append_of_le_length (by omega)]
    exact hp.trans (List.prefix_append _ back)

end Search

end LayeredConfig.Text
