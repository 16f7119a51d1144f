import LayeredConfig.Text.Split

/-!
# Delimiters of placeholders — where a body ends and where its default begins

A placeholder is an opening mark, a body and a closing mark. The body is a key, or a key and a
default with a separator in between. Bodies may hold placeholders, so both scanners below count
how deep they are nested. What counts as the start of a nested one is the bare bracket if the
marks are brackets, so that a plain pair of brackets in a body stays together.
-/

namespace LayeredConfig.Placeholder

/-- The marks around a body and the one inside it; without a separator there are no defaults. -/
structure Delimiters where
  opening : List Char
  closing : List Char
  separator : Option (List Char)
  opening_ne_nil : opening ≠ []
  closing_ne_nil : closing ≠ []
  separator_ne_nil : separator ≠ some []
  deriving DecidableEq, Repr

namespace Delimiters

/-- Delimiters with the given marks, which must not be empty; an empty separator is none. -/
def ofMarks? (opening closing : List Char) (separator : Option (List Char)) : Option Delimiters :=
  if h : opening ≠ [] ∧ closing ≠ [] then
    some {
      opening, closing
      separator := separator.filter (· ≠ [])
      opening_ne_nil := h.1
      closing_ne_nil := h.2
      separator_ne_nil := by
        intro hs
        simpa using (Option.filter_eq_some_iff.1 hs).2 }
  else none

/-- `${key:default}`. -/
def standard : Delimiters where
  opening := ['$', '\x7b']
  closing := ['\x7d']
  separator := some [':']
  opening_ne_nil := by decide
  closing_ne_nil := by decide
  separator_ne_nil := by decide

instance : Inhabited Delimiters := ⟨standard⟩

/-- The bracket that a closing bracket belongs to. -/
def openingBracket? : List Char → Option Char
  | ['\x7d'] => some '\x7b'
  | [']'] => some '['
  | [')'] => some '('
  | _ => none

/-- What starts a nested placeholder: the bracket that the opening mark ends with if the closing
mark closes it, the whole opening mark otherwise. -/
def nested (d : Delimiters) : List Char :=
  match openingBracket? d.closing with
  | some bracket => if d.opening.getLast? = some bracket then [bracket] else d.opening
  | none => d.opening

theorem nested_ne_nil (d : Delimiters) : d.nested ≠ [] := by
  unfold nested
  split
  · split
    · simp
    · exact d.opening_ne_nil
  · exact d.opening_ne_nil

theorem length_opening_pos (d : Delimiters) : 0 < d.opening.length :=
  List.length_pos_iff.2 d.opening_ne_nil

theorem length_closing_pos (d : Delimiters) : 0 < d.closing.length :=
  List.length_pos_iff.2 d.closing_ne_nil

theorem length_nested_pos (d : Delimiters) : 0 < d.nested.length :=
  List.length_pos_iff.2 d.nested_ne_nil

/-- The offset of the mark that closes the body at the front of a text, when `depth` nested
placeholders are still open. -/
def closeIndex? (d : Delimiters) (depth : Nat) (cs : List Char) : Option Nat :=
  match cs with
  | [] => none
  | c :: rest =>
    if d.closing.isPrefixOf (c :: rest) then
      match depth with
      | 0 => some 0
      | depth + 1 =>
        (closeIndex? d depth ((c :: rest).drop d.closing.length)).map (· + d.closing.length)
    else if d.nested.isPrefixOf (c :: rest) then
      (closeIndex? d (depth + 1) ((c :: rest).drop d.nested.length)).map (· + d.nested.length)
    else (closeIndex? d depth rest).map (· + 1)
termination_by cs.length
decreasing_by
  all_goals have := d.length_closing_pos; have := d.length_nested_pos
  all_goals simp only [List.length_drop, List.length_cons]; omega

theorem closing_prefix_of_closeIndex? {d : Delimiters} {depth : Nat} {cs : List Char} {i : Nat}
    (h : d.closeIndex? depth cs = some i) : d.closing <+: cs.drop i := by
  fun_induction d.closeIndex? depth cs generalizing i with
  | case1 => simp at h
  | case2 c rest hc =>
    obtain rfl : 0 = i := by simpa using h
    exact List.isPrefixOf_iff_prefix.1 hc
  | case3 depth c rest hc ih =>
    obtain ⟨j, hj, rfl⟩ := Option.map_eq_some_iff.1 h
    simpa [List.drop_drop, Nat.add_comm] using ih hj
  | case4 depth c rest hc hn ih =>
    obtain ⟨j, hj, rfl⟩ := Option.map_eq_some_iff.1 h
    simpa [List.drop_drop, Nat.add_comm] using ih hj
  | case5 depth c rest hc hn ih =>
    obtain ⟨j, hj, rfl⟩ := Option.map_eq_some_iff.1 h
    exact ih hj

theorem eq_append_of_closeIndex? {d : Delimiters} {depth : Nat} {cs : List Char} {i : Nat}
    (h : d.closeIndex? depth cs = some i) :
    cs = cs.take i ++ d.closing ++ cs.drop (i + d.closing.length) := by
  have hp := List.prefix_iff_eq_append.1 (closing_prefix_of_closeIndex? h)
  rw [List.drop_drop] at hp
  rw [List.append_assoc, hp, List.take_append_drop]

theorem closeIndex?_add_length_le {d : Delimiters} {depth : Nat} {cs : List Char} {i : Nat}
    (h : d.closeIndex? depth cs = some i) : i + d.closing.length ≤ cs.length := by
  have hle := (closing_prefix_of_closeIndex? h).length_le
  have := d.length_closing_pos
  rw [List.length_drop] at hle
  omega

/-- The text before and after the first separator that is not inside a nested placeholder, when
`depth` of them are still open. -/
def splitFrom? (d : Delimiters) (separator : List Char) (depth : Nat) (cs : List Char) :
    Option (List Char × List Char) :=
  match cs with
  | [] => none
  | c :: rest =>
    if d.nested.isPrefixOf (c :: rest) then
      (splitFrom? d separator (depth + 1) ((c :: rest).drop d.nested.length)).map
        fun (key, default) => (d.nested ++ key, default)
    else if 0 < depth && d.closing.isPrefixOf (c :: rest) then
      (splitFrom? d separator (depth - 1) ((c :: rest).drop d.closing.length)).map
        fun (key, default) => (d.closing ++ key, default)
    else if depth = 0 && separator.isPrefixOf (c :: rest) then
      some ([], (c :: rest).drop separator.length)
    else
      (splitFrom? d separator depth rest).map fun (key, default) => (c :: key, default)
termination_by cs.length
decreasing_by
  all_goals have := d.length_closing_pos; have := d.length_nested_pos
  all_goals simp only [List.length_drop, List.length_cons]; omega

theorem eq_append_of_splitFrom? {d : Delimiters} {separator : List Char} {depth : Nat}
    {cs key default : List Char} (h : d.splitFrom? separator depth cs = some (key, default)) :
    cs = key ++ separator ++ default := by
  have hdrop {mark text : List Char} (hp : mark.isPrefixOf text) :
      text = mark ++ text.drop mark.length :=
    (List.prefix_iff_eq_append.1 (List.isPrefixOf_iff_prefix.1 hp)).symm
  fun_induction d.splitFrom? separator depth cs generalizing key default with
  | case1 => simp at h
  | case2 depth c rest hp ih =>
    obtain ⟨⟨front, behind⟩, hparts, he⟩ := Option.map_eq_some_iff.1 h
    obtain ⟨rfl, rfl⟩ : d.nested ++ front = key ∧ behind = default := by simpa using he
    rw [hdrop hp, ih hparts, List.append_assoc, List.append_assoc, List.append_assoc]
  | case3 depth c rest _ hp ih =>
    obtain ⟨⟨front, behind⟩, hparts, he⟩ := Option.map_eq_some_iff.1 h
    obtain ⟨rfl, rfl⟩ : d.closing ++ front = key ∧ behind = default := by simpa using he
    rw [hdrop (Bool.and_eq_true_iff.1 hp).2, ih hparts, List.append_assoc, List.append_assoc,
      List.append_assoc]
  | case4 depth c rest _ _ hp =>
    obtain ⟨rfl, rfl⟩ : [] = key ∧ (c :: rest).drop separator.length = default := by simpa using h
    exact hdrop (Bool.and_eq_true_iff.1 hp).2
  | case5 depth c rest _ _ _ ih =>
    obtain ⟨⟨front, behind⟩, hparts, he⟩ := Option.map_eq_some_iff.1 h
    obtain ⟨rfl, rfl⟩ : c :: front = key ∧ behind = default := by simpa using he
    rw [ih hparts, List.cons_append, List.cons_append]

/-- The key part of a body, and its default part if it has one. -/
def split (d : Delimiters) (body : List Char) : List Char × Option (List Char) :=
  match d.separator.bind fun separator => d.splitFrom? separator 0 body with
  | some (key, default) => (key, some default)
  | none => (body, none)

/-- A body is its key part alone, or both parts with the separator between them. -/
theorem split_cases (d : Delimiters) (body : List Char) :
    ((d.split body).1 = body ∧ (d.split body).2 = none) ∨
      ∃ separator default, d.separator = some separator ∧ (d.split body).2 = some default ∧
        body = (d.split body).1 ++ separator ++ default := by
  unfold split
  split
  next key default h =>
    obtain ⟨separator, hseparator, hsplit⟩ := Option.bind_eq_some_iff.1 h
    exact .inr ⟨separator, default, hseparator, rfl, eq_append_of_splitFrom? hsplit⟩
  next => exact .inl ⟨rfl, rfl⟩

theorem key_infix_body (d : Delimiters) (body : List Char) : (d.split body).1 <:+: body := by
  obtain ⟨hkey, _⟩ | ⟨separator, default, _, _, hbody⟩ := d.split_cases body
  · refine ⟨[], [], ?_⟩
    rw [List.nil_append, List.append_nil, hkey]
  · refine ⟨[], separator ++ default, ?_⟩
    rw [List.nil_append, ← List.append_assoc, ← hbody]

theorem default_infix_body {d : Delimiters} {body default : List Char}
    (h : (d.split body).2 = some default) : default <:+: body := by
  obtain ⟨_, hnone⟩ | ⟨separator, default', _, hsome, hbody⟩ := d.split_cases body
  · rw [hnone] at h
    contradiction
  · rw [hsome] at h
    obtain rfl : default' = default := by simpa using h
    refine ⟨(d.split body).1 ++ separator, [], ?_⟩
    rw [List.append_nil, ← hbody]

end Delimiters

end LayeredConfig.Placeholder
