import LayeredConfig.Proofs.Placeholder.Balance
import LayeredConfig.Proofs.Placeholder.Template

/-!
# Crossing — templates written with any marks

What is written for a template is crossed by both scanners as a whole, whatever the marks are. But an
opening mark with several of the brackets that nest opens as many levels, and its closing mark ends
only one of them (`Template.crosses_writeIn`). So a placeholder is found as it was written if its
opening mark opens one level, or if no other placeholder is nested in it.
-/

namespace LayeredConfig.Placeholder

/-! ## 1. Scanners -/

/-- A scan over nested marks: how it goes on behind a mark and behind any other character. `shift` says
what the text passed adds to the answer, and `stops` where the scan ends if nothing is open. -/
structure Scanner (d : Delimiters) (β : Type) where
  run : Nat → List Char → Option β
  shift : List Char → β → β
  stops : List Char → Prop
  shift_nil : shift [] = id
  shift_append : ∀ front back, shift (front ++ back) = shift front ∘ shift back
  run_closing : ∀ depth rest, ¬d.nested <+: d.closing ++ rest →
    run (depth + 1) (d.closing ++ rest) = (run depth rest).map (shift d.closing)
  run_nested : ∀ depth rest, ¬d.closing <+: d.nested ++ rest →
    run depth (d.nested ++ rest) = (run (depth + 1) rest).map (shift d.nested)
  run_plain : ∀ depth c rest, ¬d.closing <+: c :: rest → ¬d.nested <+: c :: rest →
    (depth = 0 → ¬stops (c :: rest)) → run depth (c :: rest) = (run depth rest).map (shift [c])
  mem_separator_of_stops : ∀ c rest, stops (c :: rest) → c ∈ d.separator.getD []

namespace Delimiters

variable (d : Delimiters)

/-- How many of the brackets that nest stand in an opening mark in front of its last character. -/
def surplus : Nat :=
  d.opening.dropLast.countP fun c => d.nested = [c]

theorem nested_cases : d.nested = d.opening ∨ ∃ bracket, d.nested = [bracket] := by
  unfold nested
  split
  next bracket _ =>
    split
    next => exact .inr ⟨bracket, rfl⟩
    next => exact .inl rfl
  next => exact .inl rfl

/-- An opening mark is the mark that nests, or it ends with it and that is a single bracket. -/
theorem exists_front : ∃ front, d.opening = front ++ d.nested ∧
    d.surplus = front.countP (fun c => d.nested = [c]) ∧
      (front = [] ∨ ∃ bracket, d.nested = [bracket]) := by
  by_cases h : ∃ bracket, d.nested = [bracket]
  · rcases h with ⟨bracket, hbracket⟩
    rcases d.nested_suffix_opening with ⟨front, hfront⟩
    refine ⟨front, hfront.symm, ?_, .inr ⟨bracket, hbracket⟩⟩
    rw [surplus, ← hfront, hbracket, List.dropLast_concat]
  · have hopening : d.nested = d.opening := by
      rcases d.nested_cases with hopening | hbracket
      · exact hopening
      · exact absurd hbracket h
    refine ⟨[], hopening.symm, ?_, .inl rfl⟩
    rw [surplus, List.countP_nil, List.countP_eq_zero]
    intro c _ hc
    exact h ⟨c, of_decide_eq_true hc⟩

section Steps

variable {d}

theorem closeIndex?_closing_zero (rest : List Char) :
    d.closeIndex? 0 (d.closing ++ rest) = some 0 := by
  rcases exists_cons_of_append d.closing_ne_nil rest with ⟨c, tail, hcs, hp, -⟩
  rw [hcs, closeIndex?, if_pos hp]

theorem closeIndex?_closing (depth : Nat) (rest : List Char) :
    d.closeIndex? (depth + 1) (d.closing ++ rest) =
      (d.closeIndex? depth rest).map (· + d.closing.length) := by
  rcases exists_cons_of_append d.closing_ne_nil rest with ⟨c, tail, hcs, hp, hrest⟩
  rw [hcs, closeIndex?, if_pos hp]
  show (d.closeIndex? depth ((c :: tail).drop d.closing.length)).map _ = _
  rw [hrest]

theorem closeIndex?_nested {rest : List Char} (h : ¬d.closing <+: d.nested ++ rest) (depth : Nat) :
    d.closeIndex? depth (d.nested ++ rest) =
      (d.closeIndex? (depth + 1) rest).map (· + d.nested.length) := by
  rcases exists_cons_of_append d.nested_ne_nil rest with ⟨c, tail, hcs, hp, hrest⟩
  rw [← List.isPrefixOf_iff_prefix, hcs] at h
  rw [hcs, closeIndex?.eq_def]
  dsimp only
  rw [if_neg h, if_pos hp, hrest]

theorem closeIndex?_plain {c : Char} {rest : List Char} (hclosing : ¬d.closing <+: c :: rest)
    (hnested : ¬d.nested <+: c :: rest) (depth : Nat) :
    d.closeIndex? depth (c :: rest) = (d.closeIndex? depth rest).map (· + 1) := by
  rw [← List.isPrefixOf_iff_prefix] at hclosing hnested
  rw [closeIndex?.eq_def]
  dsimp only
  rw [if_neg hclosing, if_neg hnested]

end Steps

/-- The search for the end of a body. -/
def search : Scanner d Nat where
  run := d.closeIndex?
  shift cs := (· + cs.length)
  stops _ := False
  shift_nil := rfl
  shift_append front back := by
    funext i
    show i + (front ++ back).length = i + back.length + front.length
    rw [List.length_append]
    omega
  run_closing depth rest _ := closeIndex?_closing depth rest
  run_nested depth _ h := closeIndex?_nested h depth
  run_plain depth _ _ hclosing hnested _ := closeIndex?_plain hclosing hnested depth
  mem_separator_of_stops _ _ h := h.elim

/-- The search for the separator of a body. -/
def cut {separator : List Char} (h : d.separator = some separator) :
    Scanner d (List Char × List Char) where
  run := d.splitFrom? separator
  shift cs := fun (key, default) => (cs ++ key, default)
  stops cs := separator <+: cs
  shift_nil := rfl
  shift_append front back := by
    funext ⟨key, default⟩
    show ((front ++ back) ++ key, default) = (front ++ (back ++ key), default)
    rw [List.append_assoc]
  run_closing depth rest hnested := by
    rcases exists_cons_of_append d.closing_ne_nil rest with ⟨c, tail, hcs, hp, hrest⟩
    rw [← List.isPrefixOf_iff_prefix, hcs] at hnested
    rw [hcs, splitFrom?.eq_def]
    dsimp only
    rw [if_neg hnested, if_pos (by rw [hp]; simp), hrest]
    rfl
  run_nested depth rest _ := by
    rcases exists_cons_of_append d.nested_ne_nil rest with ⟨c, tail, hcs, hp, hrest⟩
    rw [hcs, splitFrom?.eq_def]
    dsimp only
    rw [if_pos hp, hrest]
  run_plain depth c rest hclosing hnested hstops := by
    rw [← List.isPrefixOf_iff_prefix] at hclosing hnested
    have hseparator : ¬(decide (depth = 0) && separator.isPrefixOf (c :: rest)) = true := by
      intro hhere
      rcases Bool.and_eq_true_iff.1 hhere with ⟨hdepth, hp⟩
      exact hstops (of_decide_eq_true hdepth) (List.isPrefixOf_iff_prefix.1 hp)
    rw [splitFrom?.eq_def]
    dsimp only
    rw [if_neg hnested, if_neg (by simp [hclosing]), if_neg hseparator]
    rfl
  mem_separator_of_stops c rest hstops := by
    rw [h, Option.getD_some]
    cases separator with
    | nil => exact absurd h d.separator_ne_nil
    | cons first separator =>
      rcases List.cons_prefix_cons.1 hstops with ⟨rfl, -⟩
      exact List.mem_cons_self

end Delimiters

/-! ## 2. Crossing a text -/

namespace Scanner

variable {d : Delimiters} {β : Type} {S : Scanner d β} {a b c : Nat}

/-- The scan passes over a text: it is `before` deep in front of it and `behind` deep behind it. -/
def Crosses (S : Scanner d β) (before : Nat) (cs : List Char) (behind : Nat) : Prop :=
  ∀ rest, S.run before (cs ++ rest) = (S.run behind rest).map (S.shift cs)

namespace Crosses

theorem nil : S.Crosses a [] a := by
  intro rest
  rw [S.shift_nil, Option.map_id]
  rfl

theorem append {front back : List Char} (hfront : S.Crosses a front b)
    (hback : S.Crosses b back c) : S.Crosses a (front ++ back) c := by
  intro rest
  rw [List.append_assoc, hfront, hback, Option.map_map, S.shift_append]

/-- Nothing happens in a text without any of the characters of the marks. -/
theorem of_disjoint {cs : List Char} (hclosing : d.closing.Disjoint cs)
    (hnested : d.nested.Disjoint cs)
    (hseparator : a = 0 → (∀ text, ¬S.stops text) ∨ cs.Disjoint (d.separator.getD [])) :
    S.Crosses a cs a := by
  induction cs with
  | nil => exact nil
  | cons c cs ih =>
    rw [List.disjoint_cons_right] at hclosing hnested
    have hc : d.closing.Disjoint [c] := List.disjoint_singleton.2 hclosing.1
    have hn : d.nested.Disjoint [c] := List.disjoint_singleton.2 hnested.1
    have hrest : S.Crosses a cs a := by
      apply ih hclosing.2 hnested.2
      intro ha
      exact (hseparator ha).imp_right List.disjoint_of_disjoint_cons_left
    have hfirst : S.Crosses a [c] a := by
      intro rest
      apply S.run_plain
      · exact not_prefix_of_disjoint d.closing_ne_nil (List.cons_ne_nil c []) hc rest
      · exact not_prefix_of_disjoint d.nested_ne_nil (List.cons_ne_nil c []) hn rest
      · intro ha hstops
        rcases hseparator ha with hnever | hdisjoint
        · exact hnever _ hstops
        · exact hdisjoint List.mem_cons_self (S.mem_separator_of_stops c rest hstops)
    exact hfirst.append hrest

end Crosses

section Marks

variable (hd : d.Apart)

include hd

theorem crosses_closing (a : Nat) : S.Crosses (a + 1) d.closing a := by
  intro rest
  apply S.run_closing
  exact not_prefix_of_disjoint d.nested_ne_nil d.closing_ne_nil (List.disjoint_symm hd.closing_nested) rest

theorem crosses_nested (a : Nat) : S.Crosses a d.nested (a + 1) := by
  intro rest
  exact S.run_nested a rest (hd.not_closing_prefix_nested rest)

/-- Where single brackets nest, each of them opens a level. -/
theorem crosses_brackets {bracket : Char} (hbracket : d.nested = [bracket]) {cs : List Char}
    (hcs : cs ⊆ d.opening) (a : Nat) :
    S.Crosses a cs (a + cs.countP fun c => d.nested = [c]) := by
  induction cs generalizing a with
  | nil => exact .nil
  | cons c cs ih =>
    rw [List.cons_subset] at hcs
    by_cases hc : d.nested = [c]
    · have hfirst : S.Crosses a [c] (a + 1) := by
        rw [← hc]
        exact crosses_nested hd a
      rw [List.countP_cons, if_pos (by simpa using hc), Nat.add_comm _ 1, ← Nat.add_assoc]
      exact hfirst.append (ih hcs.2 (a + 1))
    · have hfirst : S.Crosses a [c] a := by
        apply Crosses.of_disjoint
        · rw [List.disjoint_singleton]
          exact hd.opening_closing hcs.1
        · rw [List.disjoint_singleton, hbracket, List.mem_singleton]
          rintro rfl
          exact hc hbracket
        · intro _
          right
          rw [List.singleton_disjoint]
          exact hd.opening_getD_separator hcs.1
      rw [List.countP_cons, if_neg (by simpa using hc), Nat.add_zero]
      exact hfirst.append (ih hcs.2 a)

/-- An opening mark opens one level, and one more for each bracket in front of its last character. -/
theorem crosses_opening (a : Nat) : S.Crosses a d.opening (a + d.surplus + 1) := by
  rcases d.exists_front with ⟨front, hopening, hsurplus, hfront⟩
  have hcrosses : S.Crosses a front (a + d.surplus) := by
    rw [hsurplus]
    rcases hfront with rfl | ⟨bracket, hbracket⟩
    · exact .nil
    · apply crosses_brackets hd hbracket
      rw [hopening]
      exact List.subset_append_left front d.nested
  rw [hopening]
  exact hcrosses.append (crosses_nested hd _)

end Marks

end Scanner

/-! ## 3. Crossing what is written -/

namespace Template

open Scanner

variable {d : Delimiters} (hd : d.Apart) {β : Type} {S : Scanner d β}

include hd

theorem crosses_separator {a : Nat} (h : (∀ text, ¬S.stops text) ∨ 0 < a) :
    S.Crosses a (d.separator.getD []) a := by
  apply Crosses.of_disjoint hd.closing_getD_separator
  · intro c hc
    exact hd.opening_getD_separator (d.nested_suffix_opening.subset hc)
  · intro hzero
    exact .inl (h.resolve_right (by omega))

/-- A placeholder is crossed if its body is crossed inside of it. -/
theorem crosses_written {a b : Nat} {body : List Char}
    (hbody : S.Crosses (a + d.surplus + 1) body (b + 1)) : S.Crosses a (d.written body) b :=
  ((crosses_opening hd a).append hbody).append (crosses_closing hd b)

/-- Each placeholder leaves as many levels open as its opening mark opens too many. The scan stops
nowhere in the text: directly in a key there is no separator, and elsewhere something is open. -/
theorem crosses_writeIn {p : Place} (t : Template p) (ht : t.Fits d) {a : Nat}
    (h : (∀ text, ¬S.stops text) ∨ p = .key ∨ 0 < a) :
    S.Crosses a (t.writeIn d) (a + d.surplus * t.placeholders) := by
  induction t generalizing a with
  | nil => exact .nil
  | @literal p cs rest ih =>
    rcases ht with ⟨⟨hopening, hclosing, hseparator⟩, hrest⟩
    refine Crosses.append (Crosses.of_disjoint ?_ ?_ fun ha => ?_) (ih hrest h)
    · exact List.disjoint_symm hclosing
    · intro c hc hmem
      exact hopening hmem (d.nested_suffix_opening.subset hc)
    · rcases h with hnever | rfl | hpos
      · exact .inl hnever
      · exact .inr (hseparator rfl)
      · omega
  | bare key rest ihkey ih =>
    have hbody : S.Crosses (a + d.surplus + 1) (key.writeIn d)
        (a + d.surplus * (key.placeholders + 1) + 1) := by
      have hkey := ihkey ht.1 (a := a + d.surplus + 1) (.inr (.inl rfl))
      rwa [show a + d.surplus + 1 + d.surplus * key.placeholders =
        a + d.surplus * (key.placeholders + 1) + 1 by rw [Nat.mul_succ]; omega] at hkey
    have hrest := ih ht.2 (a := a + d.surplus * (key.placeholders + 1))
      (h.imp_right (Or.imp_right fun hpos => by omega))
    rw [writeIn, placeholders, Nat.mul_add, ← Nat.add_assoc]
    exact (crosses_written hd hbody).append hrest
  | defaulted key default rest ihkey ihdefault ih =>
    -- Inside the marks something is open, so neither the separator nor the default ends the scan.
    have hbody : S.Crosses (a + d.surplus + 1)
        (key.writeIn d ++ d.separator.getD [] ++ default.writeIn d)
        (a + d.surplus * (key.placeholders + default.placeholders + 1) + 1) := by
      have hkey := ihkey ht.1 (a := a + d.surplus + 1) (.inr (.inl rfl))
      have hdefault := ihdefault ht.2.1
        (a := a + d.surplus + 1 + d.surplus * key.placeholders) (.inr (.inr (by omega)))
      have hparts := (hkey.append (crosses_separator hd (.inr (by omega)))).append hdefault
      rwa [show a + d.surplus + 1 + d.surplus * key.placeholders + d.surplus * default.placeholders =
        a + d.surplus * (key.placeholders + default.placeholders + 1) + 1 by
          rw [Nat.mul_succ, Nat.mul_add]; omega] at hparts
    have hrest := ih ht.2.2
      (a := a + d.surplus * (key.placeholders + default.placeholders + 1))
      (h.imp_right (Or.imp_right fun hpos => by omega))
    rw [writeIn, placeholders, Nat.mul_add, ← Nat.add_assoc]
    exact (crosses_written hd hbody).append hrest

/-- With one level for each placeholder, or without placeholders in it, a key leaves nothing open. -/
theorem crosses_key (key : Template .key) (hkey : key.Fits d)
    (h : d.surplus = 0 ∨ key.placeholders = 0) : S.Crosses 0 (key.writeIn d) 0 := by
  have hcrosses := key.crosses_writeIn hd hkey (S := S) (a := 0) (.inr (.inl rfl))
  rwa [Nat.zero_add, Nat.mul_eq_zero.2 h] at hcrosses

theorem crosses_body (key : Template .key) (hkey : key.Fits d) (default : Template .text)
    (hdefault : default.Fits d) :
    d.search.Crosses 0 (key.writeIn d ++ d.separator.getD [] ++ default.writeIn d)
      (d.surplus * (key.placeholders + default.placeholders)) := by
  have hnever : ∀ text, ¬d.search.stops text := fun _ h => h
  have hfront := key.crosses_writeIn hd hkey (a := 0) (.inl hnever)
  have hback := default.crosses_writeIn hd hdefault (a := d.surplus * key.placeholders) (.inl hnever)
  rw [Nat.zero_add] at hfront
  rw [Nat.mul_add]
  exact (hfront.append (crosses_separator hd (.inl hnever))).append hback

end Template

/-! ## 4. Cutting what is written -/

namespace Delimiters

variable {d : Delimiters} {body after : List Char}

theorem length_lt_written (d : Delimiters) (body rest : List Char) :
    body.length < (d.written body ++ rest).length := by
  have := d.length_opening_pos
  simp only [written, List.length_append]
  omega

theorem opening_infix_written (d : Delimiters) (body after : List Char) :
    d.opening <:+: d.written body ++ after := by
  rw [written, List.append_assoc, List.append_assoc]
  exact (List.prefix_append d.opening _).isInfix

theorem first?_nil (d : Delimiters) : d.first? [] = none := by
  have hindex : Text.indexOf? d.opening [] = none := by
    rw [Text.indexOf?, if_neg d.opening_ne_nil]
  rw [first?, Text.cutAt?, hindex]
  rfl

theorem cutAt?_written (body after : List Char) :
    Text.cutAt? d.opening (d.written body ++ after) = some ([], body ++ (d.closing ++ after)) := by
  have hwritten : d.written body ++ after = d.opening ++ (body ++ (d.closing ++ after)) := by
    simp only [written, List.append_assoc]
  rcases exists_cons_of_append d.opening_ne_nil (body ++ (d.closing ++ after)) with
    ⟨c, tail, hcs, hp, hrest⟩
  rw [hwritten, hcs, Text.cutAt?, Text.indexOf?, if_pos hp, Option.map_some, Nat.zero_add, hrest]
  rfl

/-- The search that starts in a body that it crosses ends right behind the body. -/
theorem first?_written (h : d.search.Crosses 0 body 0) (after : List Char) :
    d.first? (d.written body ++ after) = some ([], body, after) := by
  have hclose : d.closeIndex? 0 (body ++ (d.closing ++ after)) = some body.length := by
    have hbody := h (d.closing ++ after)
    change d.closeIndex? 0 _ = (d.closeIndex? 0 _).map _ at hbody
    rw [hbody, closeIndex?_closing_zero]
    exact congrArg some (Nat.zero_add body.length)
  rw [first?, cutAt?_written]
  show (d.closeIndex? 0 (body ++ (d.closing ++ after))).map _ = _
  rw [hclose, Option.map_some, List.take_left, ← List.append_assoc, List.drop_left' (by simp)]

/-- Where a level is left open behind a body and closed by nothing that follows, there is no
placeholder. -/
theorem first?_written_eq_none (hd : d.Apart) {a b : Nat}
    (hbody : d.search.Crosses 0 body (a + 1)) (hafter : d.search.Crosses a after b) :
    d.first? (d.written body ++ after) = none := by
  -- The search ends at the end of the text, still `b` levels deep.
  have hend : d.closeIndex? b [] = none := by rw [closeIndex?]
  have hall := ((hbody.append (Scanner.crosses_closing hd a)).append hafter) []
  change d.closeIndex? 0 _ = (d.closeIndex? b []).map _ at hall
  rw [hend, Option.map_none, List.append_nil, List.append_assoc] at hall
  rw [first?, cutAt?_written]
  show (d.closeIndex? 0 (body ++ (d.closing ++ after))).map _ = _
  rw [hall, Option.map_none]

theorem first?_append_of_disjoint {cs : List Char} (h : cs.Disjoint d.opening)
    (rest : List Char) :
    d.first? (cs ++ rest) = (d.first? rest).map (Prod.map (cs ++ ·) id) := by
  have hcut : Text.cutAt? d.opening (cs ++ rest) =
      (Text.cutAt? d.opening rest).map (Prod.map (cs ++ ·) id) := by
    cases hopening : d.opening with
    | nil => exact absurd hopening d.opening_ne_nil
    | cons c more =>
      rw [hopening, List.disjoint_cons_right] at h
      exact Text.cutAt?_append_of_notMem h.1 more rest
  rw [first?, first?, hcut]
  cases Text.cutAt? d.opening rest with
  | none => rfl
  | some parts => rw [Option.map_some, Option.map_map]; rfl

theorem split_of_crosses
    (h : ∀ separator (hs : d.separator = some separator), (d.cut hs).Crosses 0 body 0) :
    d.split body = (body, none) := by
  have hnone : (d.separator.bind fun separator => d.splitFrom? separator 0 body) = none := by
    rw [Option.bind_eq_none_iff]
    intro separator hs
    have hbody := h separator hs []
    change d.splitFrom? separator 0 (body ++ []) = (d.splitFrom? separator 0 []).map _ at hbody
    rw [List.append_nil, splitFrom?, Option.map_none] at hbody
    exact hbody
  rw [split, hnone]

theorem split_append_separator (hd : d.Apart) {separator key : List Char}
    (hs : d.separator = some separator) (h : (d.cut hs).Crosses 0 key 0) (default : List Char) :
    d.split (key ++ separator ++ default) = (key, some default) := by
  have hne : separator ≠ [] := by
    rintro rfl
    exact d.separator_ne_nil hs
  have hzero : d.splitFrom? separator 0 (separator ++ default) = some ([], default) := by
    have hnested : ¬d.nested <+: separator ++ default :=
      not_prefix_of_disjoint d.nested_ne_nil hne (hd.nested_separator hs) default
    rcases exists_cons_of_append hne default with ⟨c, tail, hcs, hp, hrest⟩
    rw [← List.isPrefixOf_iff_prefix, hcs] at hnested
    rw [hcs, splitFrom?, if_neg hnested, if_neg (by simp), if_pos (by simp [hp]), hrest]
  have hkey := h (separator ++ default)
  change d.splitFrom? separator 0 _ = (d.splitFrom? separator 0 _).map _ at hkey
  rw [split, hs, Option.bind_some, List.append_assoc, hkey, hzero, Option.map_some]
  show (key ++ [], some default) = (key, some default)
  rw [List.append_nil]

end Delimiters

end LayeredConfig.Placeholder
