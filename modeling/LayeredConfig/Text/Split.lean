/-!
# Cutting texts at a mark — search, split, join and replace

All functions read from left to right and never let two occurrences of the mark overlap. An
empty mark is found at once by the search and cuts nothing.
-/

namespace LayeredConfig.Text

/-- The offset of the first occurrence of `mark`. -/
def indexOf? (mark : List Char) : List Char → Option Nat
  | [] => if mark = [] then some 0 else none
  | c :: rest =>
    if mark.isPrefixOf (c :: rest) then some 0 else (indexOf? mark rest).map (· + 1)

/-- The offset of the first occurrence of `mark` at or after `start`. -/
def indexFrom? (mark : List Char) (start : Nat) (cs : List Char) : Option Nat :=
  (indexOf? mark (cs.drop start)).map (· + start)

theorem indexOf?_add_length_le {mark cs : List Char} {i : Nat} (h : indexOf? mark cs = some i) :
    i + mark.length ≤ cs.length := by
  induction cs generalizing i with
  | nil =>
    simp only [indexOf?] at h
    split at h
    next hm =>
      obtain rfl : 0 = i := by simpa using h
      simp [hm]
    next => simp at h
  | cons c rest ih =>
    simp only [indexOf?] at h
    split at h
    next hp =>
      obtain rfl : 0 = i := by simpa using h
      simpa using (List.isPrefixOf_iff_prefix.1 hp).length_le
    next =>
      obtain ⟨j, hj, rfl⟩ := Option.map_eq_some_iff.1 h
      have := ih hj
      simp only [List.length_cons]
      omega

theorem eq_append_of_indexOf? {mark cs : List Char} {i : Nat} (h : indexOf? mark cs = some i) :
    cs = cs.take i ++ mark ++ cs.drop (i + mark.length) := by
  induction cs generalizing i with
  | nil =>
    simp only [indexOf?] at h
    split at h
    next hm => simp [hm]
    next => simp at h
  | cons c rest ih =>
    simp only [indexOf?] at h
    split at h
    next hp =>
      obtain rfl : 0 = i := by simpa using h
      obtain ⟨after, ha⟩ := List.isPrefixOf_iff_prefix.1 hp
      rw [← ha]
      simp
    next =>
      obtain ⟨j, hj, rfl⟩ := Option.map_eq_some_iff.1 h
      have hrest := ih hj
      rw [show j + 1 + mark.length = (j + mark.length) + 1 by omega, List.take_succ_cons,
        List.drop_succ_cons, List.cons_append, List.cons_append, ← hrest]

theorem infix_of_indexOf? {mark cs : List Char} {i : Nat} (h : indexOf? mark cs = some i) :
    mark <:+: cs :=
  ⟨cs.take i, cs.drop (i + mark.length), (eq_append_of_indexOf? h).symm⟩

/-- The search passes over a text that lacks the first character of the mark. -/
theorem indexOf?_append_of_notMem {c : Char} {cs : List Char} (h : c ∉ cs)
    (more rest : List Char) :
    indexOf? (c :: more) (cs ++ rest) = (indexOf? (c :: more) rest).map (· + cs.length) := by
  induction cs with
  | nil => simp
  | cons x cs ih =>
    obtain ⟨hx, hcs⟩ : c ≠ x ∧ c ∉ cs := by simpa using h
    have hprefix : (c :: more).isPrefixOf (x :: (cs ++ rest)) = false := by
      rw [List.isPrefixOf_cons_cons, beq_eq_false_iff_ne.2 hx, Bool.false_and]
    rw [List.cons_append, indexOf?, hprefix, if_neg Bool.false_ne_true, ih hcs, Option.map_map]
    rfl

theorem le_of_indexFrom? {mark cs : List Char} {start i : Nat}
    (h : indexFrom? mark start cs = some i) : start ≤ i := by
  obtain ⟨j, _, rfl⟩ := Option.map_eq_some_iff.1 h
  exact Nat.le_add_left ..

theorem indexFrom?_add_length_le {mark cs : List Char} {start i : Nat} (hm : mark ≠ [])
    (h : indexFrom? mark start cs = some i) : i + mark.length ≤ cs.length := by
  obtain ⟨j, hj, rfl⟩ := Option.map_eq_some_iff.1 h
  have := indexOf?_add_length_le hj
  have := List.length_pos_iff.2 hm
  simp only [List.length_drop] at *
  omega

/-- The text cut at the first occurrence of `mark`: what stands before it and what after. -/
def cutAt? (mark cs : List Char) : Option (List Char × List Char) :=
  (indexOf? mark cs).map fun i => (cs.take i, cs.drop (i + mark.length))

theorem eq_append_of_cutAt? {mark cs before after : List Char}
    (h : cutAt? mark cs = some (before, after)) : cs = before ++ mark ++ after := by
  obtain ⟨i, hi, he⟩ := Option.map_eq_some_iff.1 h
  obtain ⟨rfl, rfl⟩ := Prod.mk.inj he
  exact eq_append_of_indexOf? hi

theorem indexOf?_of_cutAt? {mark cs before after : List Char}
    (h : cutAt? mark cs = some (before, after)) : indexOf? mark cs = some before.length := by
  obtain ⟨i, hi, he⟩ := Option.map_eq_some_iff.1 h
  obtain ⟨rfl, rfl⟩ := Prod.mk.inj he
  have := indexOf?_add_length_le hi
  rw [hi, List.length_take, Nat.min_eq_left (by omega)]

theorem cutAt?_append_of_notMem {c : Char} {cs : List Char} (h : c ∉ cs)
    (more rest : List Char) :
    cutAt? (c :: more) (cs ++ rest) =
      (cutAt? (c :: more) rest).map (Prod.map (cs ++ ·) id) := by
  rw [cutAt?, cutAt?, indexOf?_append_of_notMem h, Option.map_map, Option.map_map]
  congr 1
  funext i
  show ((cs ++ rest).take (i + cs.length), (cs ++ rest).drop (i + cs.length + _)) = _
  rw [Nat.add_comm i, List.take_length_add_append, Nat.add_assoc, List.drop_length_add_append]
  rfl

theorem cutAt?_eq_none_of_notInfix {mark cs : List Char} (h : ¬mark <:+: cs) :
    cutAt? mark cs = none := by
  cases hcut : cutAt? mark cs with
  | none => rfl
  | some parts =>
    obtain ⟨i, hi, _⟩ := Option.map_eq_some_iff.1 hcut
    exact absurd (infix_of_indexOf? hi) h

/-- The pieces between the occurrences of `mark`; there is one more piece than occurrences. -/
def splitOn (mark : List Char) (cs : List Char) : List (List Char) :=
  match cutAt? mark cs with
  | none => [cs]
  | some (before, after) =>
    if after.length < cs.length then before :: splitOn mark after else [cs]
termination_by cs.length

/-- The text with every occurrence of `mark` replaced by `new`. -/
def replace (mark new cs : List Char) : List Char :=
  List.intercalate new (splitOn mark cs)

/-- The text with every occurrence of one character replaced by `new`. -/
def replaceChar (c : Char) (new cs : List Char) : List Char :=
  cs.flatMap fun x => if x = c then new else [x]

end LayeredConfig.Text
