import LayeredConfig.Proofs.Profile.Names
import LayeredConfig.Proofs.Profile.RoundTrip
import Mathlib.Data.List.Chain

/-!
# Spacing — blanks around tokens are free

Of two tokens in a row at least one is a mark, and names are proper (`Tidy`). A text is scanned to
tokens exactly if they are tidy and the text is made of them, with blanks or nothing around each
(`scan_eq_iff`). So blanks next to a mark or at an end change neither the tokens nor what is read
(`spacing_is_free`).
-/

namespace LayeredConfig.Profile

namespace Token

/-! ## 1. Tokens in a row -/

def isMark : Token → Bool
  | .name _ => false
  | _ => true

theorem chars_of_ofMark? {c : Char} {mark : Token} (h : ofMark? c = some mark) :
    mark.chars = [c] := by
  unfold ofMark? at h
  grind [chars]

theorem isMark_of_ofMark? {c : Char} {mark : Token} (h : ofMark? c = some mark) :
    mark.isMark = true := by
  cases mark with
  | name cs => exact absurd h (ofMark?_ne_name c cs)
  | _ => rfl

/-- A mark is one character, and that character is the mark. -/
theorem exists_ofMark? {t : Token} (h : t.isMark = true) :
    ∃ c, t.chars = [c] ∧ ofMark? c = some t := by
  match t with
  | .opening | .closing | .and | .or | .not => exact ⟨_, rfl, by decide⟩

/-- One of the two tokens is a mark, so they stay two when nothing stands between them. -/
def Parted (t u : Token) : Prop :=
  t.isMark = true ∨ u.isMark = true

/-- Tokens as a text has them: names are names, and tokens in a row are parted. -/
structure Tidy (ts : List Token) : Prop where
  named : Expr.Named ts
  parted : ts.IsChain Parted

theorem parted_scanFrom (gap cs : List Char) : (scanFrom gap cs).IsChain Parted := by
  -- A name comes from the gap in front of a mark or the end, and a gap has one name at most.
  induction cs generalizing gap with
  | nil =>
    show (ofGap gap).IsChain _
    unfold ofGap
    split
    next => exact .nil
    next => exact .singleton _
  | cons c cs ih =>
    cases hmark : ofMark? c with
    | none =>
      rw [scanFrom_plain hmark]
      exact ih _
    | some mark =>
      have hisMark := isMark_of_ofMark? hmark
      have hrest : (mark :: scanFrom [] cs).IsChain Parted :=
        List.isChain_cons.2 ⟨fun _ _ => .inl hisMark, ih []⟩
      rw [scanFrom_mark hmark, ofGap]
      split
      next => exact hrest
      next => exact .cons_cons (.inr hisMark) hrest

theorem tidy_scan (cs : List Char) : Tidy (scan cs) :=
  ⟨fun _ => isName_of_mem_scan, parted_scanFrom [] cs⟩

theorem Tidy.tail {t : Token} {ts : List Token} (h : Tidy (t :: ts)) : Tidy ts :=
  ⟨h.named.of_subset (List.subset_cons_self t ts), h.parted.tail⟩

theorem Tidy.isMark_of_name {cs : List Char} {ts : List Token} (h : Tidy (.name cs :: ts)) :
    ∀ t ∈ ts.head?, t.isMark = true := fun t ht =>
  ((List.isChain_cons.1 h.parted).1 t ht).resolve_left Bool.false_ne_true

/-! ## 2. Tokens with blanks around them -/

/-- The text is made of the tokens in their order, each as it is written, with blanks or nothing in
front of each and behind the last. -/
inductive Spaced : List Token → List Char → Prop
  | nil {gap} (hgap : ∀ c ∈ gap, Text.isBlank c = true) : Spaced [] gap
  | cons {gap t ts rest} (hgap : ∀ c ∈ gap, Text.isBlank c = true) (hrest : Spaced ts rest) :
    Spaced (t :: ts) (gap ++ t.chars ++ rest)

namespace Spaced

variable {ts us : List Token} {gap cs ds : List Char}

theorem blanks (hgap : ∀ c ∈ gap, Text.isBlank c = true) (h : Spaced ts cs) :
    Spaced ts (gap ++ cs) := by
  cases h with
  | nil hcs => exact .nil (List.forall_mem_append.2 ⟨hgap, hcs⟩)
  | cons hfirst hrest =>
    rw [← List.append_assoc, ← List.append_assoc]
    exact .cons (List.forall_mem_append.2 ⟨hgap, hfirst⟩) hrest

theorem append (hts : Spaced ts cs) (hus : Spaced us ds) : Spaced (ts ++ us) (cs ++ ds) := by
  induction hts with
  | nil hgap => exact hus.blanks hgap
  | cons hgap _ ih =>
    rw [List.append_assoc _ _ ds]
    exact .cons hgap ih

end Spaced

theorem spaced_ofGap (gap : List Char) : Spaced (ofGap gap) gap := by
  unfold ofGap
  split
  next hnone => exact .nil (Text.trim_eq_nil_iff.1 hnone)
  next =>
    obtain ⟨before, after, hbefore, hafter, hgap⟩ := Text.exists_eq_surrounded gap
    have hspaced : Spaced [.name (Text.trim gap)] (before ++ Text.trim gap ++ after) :=
      .cons hbefore (.nil hafter)
    rwa [← hgap] at hspaced

theorem spaced_scanFrom (gap cs : List Char) : Spaced (scanFrom gap cs) (gap ++ cs) := by
  induction cs generalizing gap with
  | nil =>
    rw [List.append_nil]
    exact spaced_ofGap gap
  | cons c cs ih =>
    cases hmark : ofMark? c with
    | none =>
      have hspaced := ih (gap ++ [c])
      rwa [List.append_assoc, ← scanFrom_plain hmark] at hspaced
    | some mark =>
      have hrest : Spaced (mark :: scanFrom [] cs) ([] ++ mark.chars ++ cs) := .cons nofun (ih [])
      rw [chars_of_ofMark? hmark] at hrest
      rw [scanFrom_mark hmark]
      exact (spaced_ofGap gap).append hrest

theorem spaced_scan (cs : List Char) : Spaced (scan cs) cs :=
  spaced_scanFrom [] cs

/-! ## 3. Which texts have the tokens -/

section Blanks

variable {gap cs : List Char} (hgap : ∀ c ∈ gap, Text.isBlank c = true)
include hgap

theorem endsName_blanks (h : endsName cs = true) : endsName (gap ++ cs) = true := by
  induction gap with
  | nil => exact h
  | cons c gap ih =>
    obtain ⟨hc, hgap⟩ := List.forall_mem_cons.1 hgap
    exact endsName_blank hc (ih hgap)

theorem Scans.blanks {ts : List Token} (h : Scans cs ts) : Scans (gap ++ cs) ts := by
  induction gap with
  | nil => exact h
  | cons c gap ih =>
    obtain ⟨hc, hgap⟩ := List.forall_mem_cons.1 hgap
    exact .blank hc (ih hgap)

end Blanks

/-- A name ends in front of tokens that start with a mark, however they are spaced. -/
theorem Spaced.endsName {ts : List Token} {cs : List Char} (h : Spaced ts cs)
    (hfirst : ∀ t ∈ ts.head?, t.isMark = true) {rest : List Char} (hrest : endsName rest = true) :
    endsName (cs ++ rest) = true := by
  cases h with
  | nil hgap => exact endsName_blanks hgap hrest
  | @cons _ t _ _ hgap _ =>
    obtain ⟨c, hchars, hmark⟩ := exists_ofMark? (hfirst t rfl)
    rw [hchars, List.append_assoc, List.append_assoc]
    exact endsName_blanks hgap (endsName_mark hmark _)

theorem Spaced.scans {ts : List Token} {cs : List Char} (h : Spaced ts cs) (htidy : Tidy ts) :
    Scans cs ts := by
  induction h with
  | @nil gap hgap =>
    have hscans := Scans.blanks hgap .nil
    rwa [List.append_nil] at hscans
  | @cons gap t ts rest hgap hspaced ih =>
    rw [List.append_assoc]
    refine Scans.blanks hgap ?_
    have hrest := ih htidy.tail
    by_cases hmark : t.isMark = true
    · obtain ⟨c, hchars, hc⟩ := exists_ofMark? hmark
      rw [hchars]
      exact .mark hc hrest
    · -- What follows a name must not go on with it: the next token is a mark.
      match t with
      | .name cs =>
        have hname := htidy.named cs List.mem_cons_self
        exact (Scans.name hname).append hrest fun _ => hspaced.endsName htidy.isMark_of_name
      | .opening | .closing | .and | .or | .not => exact absurd rfl hmark

/-- The tokens of a text are the tidy ones that it is made of, and there are no others. -/
theorem scan_eq_iff {cs : List Char} {ts : List Token} : scan cs = ts ↔ Tidy ts ∧ Spaced ts cs := by
  constructor
  · rintro rfl
    exact ⟨tidy_scan cs, spaced_scan cs⟩
  · exact fun ⟨htidy, hspaced⟩ => (hspaced.scans htidy).scan_eq

-- Two names in a row are not tidy: with a blank between them they would be one name.
example : scan "a b & c".toList = [.name "a b".toList, .and, .name ['c']] := by decide

theorem scan_eq_nil_iff {cs : List Char} : scan cs = [] ↔ ∀ c ∈ cs, Text.isBlank c = true := by
  constructor
  · intro hnone
    have hspaced := spaced_scan cs
    rw [hnone] at hspaced
    cases hspaced with
    | nil hgap => exact hgap
  · exact scan_of_blank

end Token

/-! ## 4. Reading -/

/-- Reading looks at nothing but the tokens; a text is blank if it has none. -/
theorem parse_eq_of_scan_eq {cs ds : List Char} (h : Token.scan cs = Token.scan ds) :
    parse cs = parse ds := by
  have hblank : cs.all Text.isBlank = ds.all Text.isBlank := by
    rw [Bool.eq_iff_iff, List.all_eq_true, List.all_eq_true, ← Token.scan_eq_nil_iff,
      ← Token.scan_eq_nil_iff, h]
  rw [parse, parse, hblank, h]

/-- Two texts are read as one tree, or refused for one reason, each together with itself. -/
def ReadAlike (s other : String) : Prop :=
  (∃ e, Condition.treeOf (.text s) = .ok (s, e) ∧
    Condition.treeOf (.text other) = .ok (other, e)) ∨
  ∃ reason, Condition.treeOf (.text s) = .error (.malformedExpression s reason) ∧
    Condition.treeOf (.text other) = .error (.malformedExpression other reason)

theorem readAlike_of_scan_eq {s other : String}
    (h : Token.scan s.toList = Token.scan other.toList) : ReadAlike s other := by
  rw [ReadAlike, treeOf_text, treeOf_text, ← parse_eq_of_scan_eq h]
  cases parse s.toList with
  | ok e => exact .inl ⟨e, rfl, rfl⟩
  | error reason => exact .inr ⟨reason, rfl, rfl⟩

/-- **Spacing.** Every token of a text is one of the five marks or a name that is not empty, has no
marks in it and no blanks at its ends, and so is a profile name. Of two tokens in a row one is a mark.
The text is made of its tokens with blanks around them, which thus stand next to a mark or at an end,
and the texts with the same tokens are those that are made of them in this way: they are all read as
one tree or refused for one reason. -/
theorem spacing_is_free (s : String) :
    (∀ t ∈ Token.scan s.toList, t.text ∈ ["(", ")", "&", "|", "!"] ∨
      ∃ cs, t = .name cs ∧ IsName cs ∧ nameOf (.text t.text) = .ok t.text) ∧
      (Token.scan s.toList).IsChain Token.Parted ∧
      Token.Spaced (Token.scan s.toList) s.toList ∧
      ∀ other : String,
        (Token.scan other.toList = Token.scan s.toList ↔
          Token.Spaced (Token.scan s.toList) other.toList) ∧
        (Token.Spaced (Token.scan s.toList) other.toList → ReadAlike s other) := by
  have htidy := Token.tidy_scan s.toList
  have hsame : ∀ other : String, Token.scan other.toList = Token.scan s.toList ↔
      Token.Spaced (Token.scan s.toList) other.toList := fun other => by
    rw [Token.scan_eq_iff, and_iff_right htidy]
  refine ⟨fun t ht => ?_, htidy.parted, Token.spaced_scan s.toList, fun other =>
    ⟨hsame other, fun hspaced => readAlike_of_scan_eq ((hsame other).2 hspaced).symm⟩⟩
  match t with
  | .opening | .closing | .and | .or | .not => exact .inl (by decide)
  | .name cs =>
    have hname := htidy.named cs ht
    exact .inr ⟨cs, rfl, hname, hname.isProfileName.nameOf⟩

/-- `a b & !(c | d)`: the blank inside the name stays, and those around the tokens may go or change. -/
def Token.spacious : List Token :=
  [.name "a b".toList, .and, .not, .opening, .name ['c'], .or, .name ['d'], .closing]

theorem spacing_is_free_group :
    Token.scan " a b&! ( c|d )".toList = Token.spacious ∧
      (IsName "a b".toList ∧ nameOf (.text "a b") = .ok "a b") ∧
      Token.Spaced Token.spacious "a b\t& !(c |d)".toList ∧
      Token.scan "a b\t& !(c |d)".toList = Token.spacious ∧
      ReadAlike " a b&! ( c|d )" "a b\t& !(c |d)" := by
  have hscan : Token.scan " a b&! ( c|d )".toList = Token.spacious := by decide
  have hblank : ∀ c ∈ [' '], Text.isBlank c = true := List.forall_mem_singleton.2 (by decide)
  have htab : ∀ c ∈ ['\t'], Text.isBlank c = true := List.forall_mem_singleton.2 (by decide)
  have hgroup : Token.Spaced [.opening, .name ['c'], .or, .name ['d'], .closing] "(c |d)".toList :=
    @Token.Spaced.cons [] _ _ _ nofun (@Token.Spaced.cons [] _ _ _ nofun
      (@Token.Spaced.cons [' '] _ _ _ hblank (@Token.Spaced.cons [] _ _ _ nofun
        (@Token.Spaced.cons [] _ _ _ nofun (.nil nofun)))))
  have hspaced : Token.Spaced Token.spacious "a b\t& !(c |d)".toList :=
    @Token.Spaced.cons [] _ _ _ nofun (@Token.Spaced.cons ['\t'] _ _ _ htab
      (@Token.Spaced.cons [' '] _ _ _ hblank hgroup))
  obtain ⟨htokens, -, -, hothers⟩ := spacing_is_free " a b&! ( c|d )"
  rw [hscan] at htokens hothers
  obtain ⟨hsame, hread⟩ := hothers "a b\t& !(c |d)"
  refine ⟨hscan, ?_, hspaced, hsame.2 hspaced, hread hspaced⟩
  obtain hmark | ⟨cs, hcs, hname, hnameOf⟩ := htokens (.name "a b".toList) List.mem_cons_self
  · exact absurd hmark (by decide)
  · cases hcs
    exact ⟨hname, hnameOf⟩

end LayeredConfig.Profile
