import LayeredConfig.Placeholder.Delimiters
import Mathlib.Data.List.Basic

/-!
# Balance — the two scanners count alike

The search for the end of a body looks for the closing mark first, the search for its separator for
the mark that nests. Where no two marks share a character both of them pass the same marks, so the
end of a body is found where all placeholders in it are closed, and its parts have all of theirs
closed again (`body_and_parts_balanced`).
-/

namespace LayeredConfig.Placeholder

/-- A mark does not begin where a text without any of its characters begins. -/
theorem not_prefix_of_disjoint {mark front : List Char} (hmark : mark ≠ []) (hfront : front ≠ [])
    (h : mark.Disjoint front) (rest : List Char) : ¬mark <+: front ++ rest := by
  cases mark with
  | nil => contradiction
  | cons c mark =>
    cases front with
    | nil => contradiction
    | cons first front =>
      intro hp
      rcases List.cons_prefix_cons.1 hp with ⟨rfl, -⟩
      exact h List.mem_cons_self List.mem_cons_self

/-- A text that begins with a mark, as a scanner takes it apart. -/
theorem exists_cons_of_append {mark : List Char} (hmark : mark ≠ []) (rest : List Char) :
    ∃ c tail, mark ++ rest = c :: tail ∧ mark.isPrefixOf (c :: tail) = true ∧
      (c :: tail).drop mark.length = rest := by
  cases mark with
  | nil => contradiction
  | cons c mark =>
    refine ⟨c, mark ++ rest, rfl, ?_, ?_⟩
    · rw [← List.cons_append, List.isPrefixOf_iff_prefix]
      exact List.prefix_append (c :: mark) rest
    · rw [← List.cons_append, List.drop_left]

namespace Delimiters

/-! ## 1. Marks -/

/-- No two of the marks have a character in common. -/
structure Apart (d : Delimiters) : Prop where
  opening_closing : d.opening.Disjoint d.closing
  opening_separator : ∀ separator, d.separator = some separator → d.opening.Disjoint separator
  closing_separator : ∀ separator, d.separator = some separator → d.closing.Disjoint separator

theorem nested_suffix_opening (d : Delimiters) : d.nested <:+ d.opening := by
  unfold nested
  split
  next bracket _ =>
    split
    next hlast =>
      rcases List.getLast?_eq_some_iff.1 hlast with ⟨front, hfront⟩
      exact ⟨front, hfront.symm⟩
    next => exact List.suffix_rfl
  next => exact List.suffix_rfl

section Apart

variable {d : Delimiters} (hd : d.Apart)

include hd

theorem Apart.closing_nested : d.closing.Disjoint d.nested := by
  intro c hclosing hnested
  exact hd.opening_closing (d.nested_suffix_opening.subset hnested) hclosing

theorem Apart.nested_separator {separator : List Char} (h : d.separator = some separator) :
    d.nested.Disjoint separator := by
  intro c hnested
  exact hd.opening_separator separator h (d.nested_suffix_opening.subset hnested)

theorem Apart.opening_getD_separator : d.opening.Disjoint (d.separator.getD []) := by
  cases h : d.separator with
  | none => exact List.disjoint_nil_right d.opening
  | some separator => exact hd.opening_separator separator h

theorem Apart.closing_getD_separator : d.closing.Disjoint (d.separator.getD []) := by
  cases h : d.separator with
  | none => exact List.disjoint_nil_right d.closing
  | some separator => exact hd.closing_separator separator h

theorem Apart.not_closing_prefix_nested (rest : List Char) : ¬d.closing <+: d.nested ++ rest :=
  not_prefix_of_disjoint d.closing_ne_nil d.nested_ne_nil hd.closing_nested rest

end Apart

/-! ## 2. Depth -/

/-- How many placeholders are open behind a text, when `depth` of them are open in front of it. There
is no answer if a closing mark has nothing to close. -/
def depthAfter? (d : Delimiters) (depth : Nat) (cs : List Char) : Option Nat :=
  match cs with
  | [] => some depth
  | c :: rest =>
    if d.closing.isPrefixOf (c :: rest) then
      match depth with
      | 0 => none
      | depth + 1 => depthAfter? d depth ((c :: rest).drop d.closing.length)
    else if d.nested.isPrefixOf (c :: rest) then
      depthAfter? d (depth + 1) ((c :: rest).drop d.nested.length)
    else depthAfter? d depth rest
termination_by cs.length
decreasing_by
  all_goals have := d.length_closing_pos; have := d.length_nested_pos
  all_goals simp only [List.length_drop, List.length_cons]; omega

/-- Every placeholder of a text is closed in it, and nothing else is. -/
def Balanced (d : Delimiters) (cs : List Char) : Prop :=
  d.depthAfter? 0 cs = some 0

/-- Wherever the separator stands in a text, it is inside a placeholder. -/
def Unseparated (d : Delimiters) (cs : List Char) : Prop :=
  ∀ separator front back, d.separator = some separator → cs = front ++ separator ++ back →
    d.depthAfter? 0 front ≠ some 0

section Steps

variable {d : Delimiters}

@[simp] theorem depthAfter?_nil (depth : Nat) : d.depthAfter? depth [] = some depth := by
  rw [depthAfter?]

theorem depthAfter?_closing_zero (rest : List Char) :
    d.depthAfter? 0 (d.closing ++ rest) = none := by
  rcases exists_cons_of_append d.closing_ne_nil rest with ⟨c, tail, hcs, hp, -⟩
  rw [hcs, depthAfter?, if_pos hp]

theorem depthAfter?_closing (depth : Nat) (rest : List Char) :
    d.depthAfter? (depth + 1) (d.closing ++ rest) = d.depthAfter? depth rest := by
  rcases exists_cons_of_append d.closing_ne_nil rest with ⟨c, tail, hcs, hp, hrest⟩
  rw [hcs, depthAfter?, if_pos hp]
  show d.depthAfter? depth ((c :: tail).drop d.closing.length) = _
  rw [hrest]

theorem depthAfter?_nested {rest : List Char} (h : ¬d.closing <+: d.nested ++ rest) (depth : Nat) :
    d.depthAfter? depth (d.nested ++ rest) = d.depthAfter? (depth + 1) rest := by
  rcases exists_cons_of_append d.nested_ne_nil rest with ⟨c, tail, hcs, hp, hrest⟩
  rw [← List.isPrefixOf_iff_prefix, hcs] at h
  rw [hcs, depthAfter?.eq_def]
  dsimp only
  rw [if_neg h, if_pos hp, hrest]

theorem depthAfter?_plain {c : Char} {rest : List Char} (hclosing : ¬d.closing <+: c :: rest)
    (hnested : ¬d.nested <+: c :: rest) (depth : Nat) :
    d.depthAfter? depth (c :: rest) = d.depthAfter? depth rest := by
  rw [← List.isPrefixOf_iff_prefix] at hclosing hnested
  rw [depthAfter?.eq_def]
  dsimp only
  rw [if_neg hclosing, if_neg hnested]

/-- No mark begins in a text without any of their characters. -/
theorem depthAfter?_append_of_disjoint {front : List Char} (hclosing : d.closing.Disjoint front)
    (hnested : d.nested.Disjoint front) (depth : Nat) (rest : List Char) :
    d.depthAfter? depth (front ++ rest) = d.depthAfter? depth rest := by
  induction front with
  | nil => rfl
  | cons c front ih =>
    rw [List.disjoint_cons_right] at hclosing hnested
    have hc : d.closing.Disjoint [c] := List.disjoint_singleton.2 hclosing.1
    have hn : d.nested.Disjoint [c] := List.disjoint_singleton.2 hnested.1
    rw [List.cons_append, depthAfter?_plain, ih hclosing.2 hnested.2]
    · exact not_prefix_of_disjoint d.closing_ne_nil (List.cons_ne_nil c []) hc (front ++ rest)
    · exact not_prefix_of_disjoint d.nested_ne_nil (List.cons_ne_nil c []) hn (front ++ rest)

/-- A text that has a depth closes something at its front only if something is open there. -/
theorem depth_pos_of_closing {depth after : Nat} {cs : List Char} (hp : d.closing <+: cs)
    (h : d.depthAfter? depth cs = some after) : 0 < depth := by
  rcases hp with ⟨rest, rfl⟩
  cases depth with
  | zero =>
    rw [depthAfter?_closing_zero] at h
    contradiction
  | succ depth => exact Nat.succ_pos depth

end Steps

/-! ## 3. The end of a body -/

theorem eq_append_of_isPrefixOf {mark cs : List Char} (h : mark.isPrefixOf cs) :
    cs = mark ++ cs.drop mark.length :=
  (List.prefix_iff_eq_append.1 (List.isPrefixOf_iff_prefix.1 h)).symm

theorem take_add_of_isPrefixOf {mark cs : List Char} (h : mark.isPrefixOf cs) (n : Nat) :
    cs.take (n + mark.length) = mark ++ (cs.drop mark.length).take n := by
  rw [eq_append_of_isPrefixOf h, Nat.add_comm, List.take_length_add_append, List.drop_left]

/-- What stands in front of the end that is found opens and closes its own placeholders, and closes
those that were open before. -/
theorem depthAfter?_take_of_closeIndex? {d : Delimiters} {depth size : Nat} {cs : List Char}
    (h : d.closeIndex? depth cs = some size) : d.depthAfter? depth (cs.take size) = some 0 := by
  fun_induction d.closeIndex? depth cs generalizing size with
  | case1 => contradiction
  | case2 c rest hc =>
    obtain rfl : 0 = size := by simpa using h
    rw [List.take_zero, depthAfter?_nil]
  | case3 c rest hc depth ih =>
    rcases Option.map_eq_some_iff.1 h with ⟨less, hless, rfl⟩
    rw [take_add_of_isPrefixOf hc, depthAfter?_closing, ih hless]
  | case4 depth c rest hc hn ih =>
    rcases Option.map_eq_some_iff.1 h with ⟨less, hless, rfl⟩
    -- A mark that begins in the shorter text begins in the whole one.
    have hshort := List.take_prefix (less + d.nested.length) (c :: rest)
    rw [take_add_of_isPrefixOf hn] at hshort ⊢
    rw [depthAfter?_nested, ih hless]
    intro hp
    exact hc (List.isPrefixOf_iff_prefix.2 (hp.trans hshort))
  | case5 depth c rest hc hn ih =>
    rcases Option.map_eq_some_iff.1 h with ⟨less, hless, rfl⟩
    have hshort := List.take_prefix (less + 1) (c :: rest)
    rw [List.take_succ_cons] at hshort ⊢
    rw [depthAfter?_plain, ih hless]
    · intro hp
      exact hc (List.isPrefixOf_iff_prefix.2 (hp.trans hshort))
    · intro hp
      exact hn (List.isPrefixOf_iff_prefix.2 (hp.trans hshort))

/-! ## 4. The separator of a body -/

/-- A mark that shares no character with the separator does not reach into it. -/
theorem prefix_of_prefix_append {mark front separator back : List Char}
    (hne : separator ≠ []) (hmark : mark.Disjoint separator)
    (h : mark <+: front ++ separator ++ back) : mark <+: front := by
  rw [List.append_assoc] at h
  rcases List.prefix_or_prefix_of_prefix h (List.prefix_append front (separator ++ back)) with
    hshort | ⟨more, rfl⟩
  · exact hshort
  -- Else the mark is the front and more, and what is more begins like the separator.
  cases more with
  | nil => exact ⟨[], by rw [List.append_nil, List.append_nil]⟩
  | cons c more =>
    cases separator with
    | nil => contradiction
    | cons first separator =>
      have hmore := (List.prefix_append_right_inj front).1 h
      rw [List.cons_append] at hmore
      rcases List.cons_prefix_cons.1 hmore with ⟨rfl, -⟩
      have hmem : c ∈ front ++ c :: more := List.mem_append_right front List.mem_cons_self
      exact absurd List.mem_cons_self (hmark hmem)

/-- A mark at the front of a text stands in front of the first separator. -/
theorem exists_behind_mark {mark front separator back cs : List Char} (hne : separator ≠ [])
    (hmark : mark.Disjoint separator) (hcs : cs = front ++ separator ++ back)
    (hp : mark.isPrefixOf cs) :
    ∃ inside, front = mark ++ inside ∧ cs.drop mark.length = inside ++ separator ++ back := by
  rw [List.isPrefixOf_iff_prefix, hcs] at hp
  rcases prefix_of_prefix_append hne hmark hp with ⟨inside, rfl⟩
  refine ⟨inside, rfl, ?_⟩
  rw [hcs]
  simp only [List.append_assoc, List.drop_left]

section Separator

variable {d : Delimiters} (hd : d.Apart) {separator : List Char}
  (hseparator : d.separator = some separator)

include hd hseparator

theorem Apart.depthAfter?_separator (depth : Nat) (rest : List Char) :
    d.depthAfter? depth (separator ++ rest) = d.depthAfter? depth rest :=
  depthAfter?_append_of_disjoint (hd.closing_separator separator hseparator)
    (hd.nested_separator hseparator) depth rest

/-- The parts of a text with as many placeholders closed as opened: the key closes all those that are
open in front of it, and the default leaves open those that the text leaves open. -/
theorem depthAfter?_of_splitFrom? {depth after : Nat} {cs key default : List Char}
    (h : d.splitFrom? separator depth cs = some (key, default))
    (hcs : d.depthAfter? depth cs = some after) :
    d.depthAfter? depth key = some 0 ∧ d.depthAfter? 0 default = some after := by
  fun_induction d.splitFrom? separator depth cs generalizing key default with
  | case1 => contradiction
  | case2 depth c rest hn ih =>
    rcases Option.map_eq_some_iff.1 h with ⟨⟨front, behind⟩, hparts, he⟩
    obtain ⟨rfl, rfl⟩ : d.nested ++ front = key ∧ behind = default := by simpa using he
    rw [eq_append_of_isPrefixOf hn, depthAfter?_nested (hd.not_closing_prefix_nested _)] at hcs
    rw [depthAfter?_nested (hd.not_closing_prefix_nested _)]
    exact ih hparts hcs
  | case3 depth c rest _ hc ih =>
    rcases Bool.and_eq_true_iff.1 hc with ⟨hdepth, hc⟩
    rw [decide_eq_true_eq] at hdepth
    obtain ⟨less, rfl⟩ : ∃ less, depth = less + 1 := ⟨depth - 1, by omega⟩
    rcases Option.map_eq_some_iff.1 h with ⟨⟨front, behind⟩, hparts, he⟩
    obtain ⟨rfl, rfl⟩ : d.closing ++ front = key ∧ behind = default := by simpa using he
    rw [eq_append_of_isPrefixOf hc, depthAfter?_closing] at hcs
    rw [depthAfter?_closing]
    exact ih hparts hcs
  | case4 depth c rest _ _ hs =>
    rcases Bool.and_eq_true_iff.1 hs with ⟨hdepth, hs⟩
    obtain rfl : depth = 0 := by simpa using hdepth
    obtain ⟨rfl, rfl⟩ : [] = key ∧ (c :: rest).drop separator.length = default := by simpa using h
    rw [eq_append_of_isPrefixOf hs, hd.depthAfter?_separator hseparator] at hcs
    exact ⟨depthAfter?_nil 0, hcs⟩
  | case5 depth c rest hn hc hs ih =>
    rcases Option.map_eq_some_iff.1 h with ⟨⟨front, behind⟩, hparts, he⟩
    obtain ⟨rfl, rfl⟩ : c :: front = key ∧ behind = default := by simpa using he
    have hnested : ¬d.nested <+: c :: rest := fun hp => hn (List.isPrefixOf_iff_prefix.2 hp)
    -- With nothing open a closing mark would have nothing to close, but the text has a depth.
    have hclosing : ¬d.closing <+: c :: rest := by
      intro hp
      apply hc
      rw [decide_eq_true (depth_pos_of_closing hp hcs), List.isPrefixOf_iff_prefix.2 hp]
      rfl
    have hkey : c :: front <+: c :: rest := by
      rw [eq_append_of_splitFrom? hparts, List.append_assoc]
      exact List.prefix_append (c :: front) _
    rw [depthAfter?_plain hclosing hnested] at hcs
    rw [depthAfter?_plain (fun hp => hclosing (hp.trans hkey))
      (fun hp => hnested (hp.trans hkey))]
    exact ih hparts hcs

/-- A separator where nothing is open is found, unless there is one before it. -/
theorem splitFrom?_of_depthAfter?_zero {depth : Nat} {cs front back : List Char}
    (hcs : cs = front ++ separator ++ back) (hfront : d.depthAfter? depth front = some 0) :
    ∃ key default, d.splitFrom? separator depth cs = some (key, default) ∧
      key.length ≤ front.length := by
  have hne : separator ≠ [] := by
    rintro rfl
    exact d.separator_ne_nil hseparator
  fun_induction d.splitFrom? separator depth cs generalizing front with
  | case1 =>
    rw [List.append_assoc] at hcs
    have hseparator' := (List.append_eq_nil_iff.1 (List.append_eq_nil_iff.1 hcs.symm).2).1
    contradiction
  | case2 depth c rest hn ih =>
    rcases exists_behind_mark hne (hd.nested_separator hseparator) hcs hn with
      ⟨inside, rfl, hrest⟩
    rw [depthAfter?_nested (hd.not_closing_prefix_nested _)] at hfront
    rcases ih hrest hfront with ⟨key, default, hparts, hle⟩
    refine ⟨d.nested ++ key, default, ?_, ?_⟩
    · rw [hparts]
      rfl
    · simp only [List.length_append]
      omega
  | case3 depth c rest _ hc ih =>
    rcases Bool.and_eq_true_iff.1 hc with ⟨hdepth, hc⟩
    rw [decide_eq_true_eq] at hdepth
    obtain ⟨less, rfl⟩ : ∃ less, depth = less + 1 := ⟨depth - 1, by omega⟩
    rcases exists_behind_mark hne (hd.closing_separator separator hseparator) hcs hc with
      ⟨inside, rfl, hrest⟩
    rw [depthAfter?_closing] at hfront
    rcases ih hrest hfront with ⟨key, default, hparts, hle⟩
    refine ⟨d.closing ++ key, default, ?_, ?_⟩
    · rw [hparts]
      rfl
    · simp only [List.length_append]
      omega
  | case4 depth c rest _ _ hs =>
    exact ⟨[], (c :: rest).drop separator.length, rfl, Nat.zero_le _⟩
  | case5 depth c rest hn hc hs ih =>
    cases front with
    | nil =>
      -- Then the separator stands right here, and nothing is open.
      obtain rfl : depth = 0 := by simpa using hfront
      have hp : separator <+: c :: rest := by
        rw [hcs]
        exact List.prefix_append separator back
      have hhere : separator.isPrefixOf (c :: rest) = true := List.isPrefixOf_iff_prefix.2 hp
      rw [hhere] at hs
      contradiction
    | cons first front =>
      obtain ⟨rfl, hrest⟩ : c = first ∧ rest = front ++ separator ++ back := by simpa using hcs
      have hshort : c :: front <+: c :: rest := by
        rw [hrest, List.append_assoc]
        exact List.prefix_append (c :: front) _
      have hnested : ¬d.nested <+: c :: front := by
        intro hp
        exact hn (List.isPrefixOf_iff_prefix.2 (hp.trans hshort))
      have hclosing : ¬d.closing <+: c :: front := by
        intro hp
        apply hc
        rw [decide_eq_true (depth_pos_of_closing hp hfront),
          List.isPrefixOf_iff_prefix.2 (hp.trans hshort)]
        rfl
      rw [depthAfter?_plain hclosing hnested] at hfront
      rcases ih hrest hfront with ⟨key, default, hparts, hle⟩
      refine ⟨c :: key, default, ?_, ?_⟩
      · rw [hparts]
        rfl
      · simp only [List.length_cons]
        omega

end Separator

/-! ## 5. Bodies and their parts -/

theorem splitFrom?_of_split {d : Delimiters} {body default : List Char}
    (h : (d.split body).2 = some default) :
    ∃ separator, d.separator = some separator ∧
      d.splitFrom? separator 0 body = some ((d.split body).1, default) := by
  unfold split at h ⊢
  split at h
  next key behind hparts =>
    obtain rfl : behind = default := by simpa using h
    rcases Option.bind_eq_some_iff.1 hparts with ⟨separator, hseparator, hsplit⟩
    exact ⟨separator, hseparator, hsplit⟩
  next => contradiction

theorem fst_split_of_snd_none {d : Delimiters} {body : List Char} (h : (d.split body).2 = none) :
    (d.split body).1 = body := by
  rcases d.split_cases body with ⟨hkey, -⟩ | ⟨_, default, -, hdefault, -⟩
  · exact hkey
  · rw [h] at hdefault
    contradiction

section Parts

variable {d : Delimiters} (hd : d.Apart) {body : List Char}

include hd

theorem Apart.balanced_key (h : d.Balanced body) : d.Balanced (d.split body).1 := by
  cases hdefault : (d.split body).2 with
  | none =>
    rw [fst_split_of_snd_none hdefault]
    exact h
  | some default =>
    rcases splitFrom?_of_split hdefault with ⟨separator, hseparator, hparts⟩
    exact (depthAfter?_of_splitFrom? hd hseparator hparts h).1

theorem Apart.balanced_default (h : d.Balanced body) {default : List Char}
    (hdefault : (d.split body).2 = some default) : d.Balanced default := by
  rcases splitFrom?_of_split hdefault with ⟨separator, hseparator, hparts⟩
  exact (depthAfter?_of_splitFrom? hd hseparator hparts h).2

/-- The text is cut at the first separator outside of its placeholders, if there is one. -/
theorem Apart.unseparated_key : d.Unseparated (d.split body).1 := by
  intro separator front back hseparator hkey hfront
  cases hdefault : (d.split body).2 with
  | none =>
    rw [fst_split_of_snd_none hdefault] at hkey
    rcases splitFrom?_of_depthAfter?_zero hd hseparator hkey hfront with ⟨_, _, hparts, -⟩
    rw [split, hseparator, Option.bind_some, hparts] at hdefault
    contradiction
  | some default =>
    rcases splitFrom?_of_split hdefault with ⟨separator', hseparator', hparts⟩
    obtain rfl : separator = separator' := Option.some.inj (hseparator.symm.trans hseparator')
    have hbody : body = front ++ separator ++ (back ++ separator ++ default) := by
      have h := eq_append_of_splitFrom? hparts
      rw [hkey] at h
      simpa only [List.append_assoc] using h
    -- The cut is no later than this separator, but the separator is in front of the cut.
    rcases splitFrom?_of_depthAfter?_zero hd hseparator hbody hfront with ⟨key, _, hparts', hle⟩
    rw [hparts] at hparts'
    obtain ⟨rfl, -⟩ : (d.split body).1 = key ∧ _ := by simpa using hparts'
    have hpos : 0 < separator.length := by
      rw [List.length_pos_iff]
      rintro rfl
      exact d.separator_ne_nil hseparator
    rw [hkey] at hle
    simp only [List.length_append] at hle
    omega

end Parts

/-- **Balance.** With marks that share no character, the end of a body that is found in any text is
where the placeholders in it are all closed, and so are those in its key and those in its default.
No separator in the key stands outside of them. -/
theorem body_and_parts_balanced {d : Delimiters} (hd : d.Apart) {text : List Char}
    {start size : Nat}
    (hsize : d.closeIndex? 0 (text.drop (start + d.opening.length)) = some size) :
    let body := (text.drop (start + d.opening.length)).take size
    d.Balanced body ∧
      d.closing <+: text.drop (start + d.opening.length + size) ∧
      d.Balanced (d.split body).1 ∧
      d.Unseparated (d.split body).1 ∧
      ((d.split body).2 = none → (d.split body).1 = body) ∧
      ∀ default, (d.split body).2 = some default →
        d.Balanced default ∧
          ∃ separator, d.separator = some separator ∧
            body = (d.split body).1 ++ separator ++ default := by
  intro body
  have hbody : d.Balanced body := depthAfter?_take_of_closeIndex? hsize
  refine ⟨hbody, ?_, hd.balanced_key hbody, hd.unseparated_key, fst_split_of_snd_none, ?_⟩
  · rw [← List.drop_drop]
    exact closing_prefix_of_closeIndex? hsize
  · intro default hdefault
    refine ⟨hd.balanced_default hbody hdefault, ?_⟩
    rcases splitFrom?_of_split hdefault with ⟨separator, hseparator, hparts⟩
    exact ⟨separator, hseparator, eq_append_of_splitFrom? hparts⟩

/-- `$[key::default]`. -/
def squareMarks : Delimiters where
  opening := ['$', '[']
  closing := [']']
  separator := some [':', ':']
  opening_ne_nil := by decide
  closing_ne_nil := by decide
  separator_ne_nil := by decide

theorem squareMarks_apart : squareMarks.Apart where
  opening_closing := by simp [squareMarks]
  opening_separator := by simp [squareMarks]
  closing_separator := by simp [squareMarks]

/-- `-$[a$[b::c]::[d]::$[e]]]`: the bare brackets of the default are closed in it, and the separators
behind the first one do not count. -/
def bracketed : List Char := "-$[a$[b::c]::[d]::$[e]]]".toList

theorem body_and_parts_balanced_bracketed :
    squareMarks.closeIndex? 0 (bracketed.drop (1 + squareMarks.opening.length)) = some 19 ∧
      squareMarks.split "a$[b::c]::[d]::$[e]".toList =
        ("a$[b::c]".toList, some "[d]::$[e]".toList) ∧
      squareMarks.Balanced "a$[b::c]".toList ∧
      squareMarks.Balanced "[d]::$[e]".toList := by
  have hsize : squareMarks.closeIndex? 0 (bracketed.drop (1 + squareMarks.opening.length)) =
      some 19 := by cbv
  have hbody : (bracketed.drop (1 + squareMarks.opening.length)).take 19 =
      "a$[b::c]::[d]::$[e]".toList := by decide
  have hsplit : squareMarks.split "a$[b::c]::[d]::$[e]".toList =
      ("a$[b::c]".toList, some "[d]::$[e]".toList) := by cbv
  have h := body_and_parts_balanced squareMarks_apart hsize
  dsimp only at h
  rw [hbody, hsplit] at h
  rcases h with ⟨-, -, hkey, -, -, hdefault⟩
  exact ⟨hsize, hsplit, hkey, (hdefault _ rfl).1⟩

end Delimiters

end LayeredConfig.Placeholder
