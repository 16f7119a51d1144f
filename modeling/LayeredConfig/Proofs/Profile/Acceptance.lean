import LayeredConfig.Profile.Condition
import LayeredConfig.Proofs.Profile.Grammar

/-!
# Acceptance — which texts are profile expressions

A text is an expression exactly if the grammar derives its tokens, and every other text is refused
together with the text itself (`accepts_exactly_grammar`). No derivation has both operators on one
level, however deep the level is (`not_expression_of_mixed`).
-/

namespace LayeredConfig.Profile

open Grammar

/-! ## 1. Levels -/

/-- Tokens on one level: what is opened among them is closed again, and nothing else is. -/
inductive OneLevel : List Token → Prop
  | nil : OneLevel []
  | token {t ts} (hopening : t ≠ .opening) (hclosing : t ≠ .closing) (h : OneLevel ts) :
    OneLevel (t :: ts)
  | group {inside ts} (hinside : OneLevel inside) (h : OneLevel ts) :
    OneLevel (.opening :: (inside ++ .closing :: ts))

/-- For each level that is open, the operator it has so far; the innermost level first. -/
abbrev Levels : Type := List (Option Operator)

namespace Levels

/-- The innermost level takes an operator, which must be the one it has if it has any. -/
def take (op : Operator) : Levels → Option Levels
  | [] => none
  | current :: outer => if ∀ other ∈ current, other = op then some (some op :: outer) else none

/-- The levels behind a token. -/
def step (levels : Levels) : Token → Option Levels
  | .opening => some (none :: levels)
  | .closing => levels.tail?
  | .and => levels.take .and
  | .or => levels.take .or
  | .not => some levels
  | .name _ => some levels

/-- The levels behind some tokens, unless two operators meet on one level or a level is closed that
was not opened. -/
def run (levels : Levels) (ts : List Token) : Option Levels :=
  ts.foldlM step levels

theorem run_cons (levels : Levels) (t : Token) (ts : List Token) :
    levels.run (t :: ts) = (levels.step t).bind (·.run ts) := rfl

theorem run_append (levels : Levels) (ts us : List Token) :
    levels.run (ts ++ us) = (levels.run ts).bind (·.run us) :=
  List.foldlM_append

theorem step_token (levels : Levels) (op : Operator) : levels.step op.token = levels.take op := by
  cases op <;> rfl

theorem take_of_free {current : Option Operator} {op : Operator} (h : ∀ other ∈ current, other = op)
    (outer : Levels) : take op (current :: outer) = some (some op :: outer) :=
  if_pos h

theorem take_of_ne {op other : Operator} (h : op ≠ other) (outer : Levels) :
    take other (some op :: outer) = none :=
  if_neg fun hfree => h (hfree op rfl)

theorem take_eq_some {op : Operator} {levels taken : Levels} (h : levels.take op = some taken) :
    ∃ current outer, levels = current :: outer ∧ (∀ other ∈ current, other = op) ∧
      taken = some op :: outer := by
  match levels with
  | [] => contradiction
  | current :: outer =>
    obtain ⟨hfree, htaken⟩ := Option.ite_none_right_eq_some.1 h
    exact ⟨current, outer, rfl, hfree, (Option.some.inj htaken).symm⟩

end Levels

/-! ### Derivations -/

mutual

theorem run_of_unary {ts : List Token} {e : Expr} (h : Unary ts e) (levels : Levels) :
    levels.run ts = some levels := by
  match h with
  | .not h => exact run_of_unary h levels
  | .group h =>
    -- The group has a level of its own, and the closing parenthesis takes it away again.
    obtain ⟨current, hgroup⟩ := run_of_expression h levels
    show (Levels.run (none :: levels) _) = _
    rw [Levels.run_append, hgroup]
    rfl
  | .name => rfl

theorem run_of_expression {ts : List Token} {e : Expr} (h : Expression ts e) (outer : Levels) :
    ∃ current, Levels.run (none :: outer) ts = some (current :: outer) := by
  match h with
  | .operand h => exact ⟨none, run_of_unary h _⟩
  | .and first others | .or first others =>
    rw [Levels.run_append, run_of_unary first, Option.bind_some]
    exact run_of_operands others (fun _ hnone => absurd hnone (Option.not_mem_none _)) outer

theorem run_of_operands {op : Operator} {ts : List Token} {es : List Expr}
    (h : Operands op ts es) {current : Option Operator} (hfree : ∀ other ∈ current, other = op)
    (outer : Levels) : ∃ next, Levels.run (current :: outer) ts = some (next :: outer) := by
  match h with
  | .nil => exact ⟨current, rfl⟩
  | .cons first others =>
    rw [Levels.run_cons, Levels.step_token, Levels.take_of_free hfree, Option.bind_some,
      Levels.run_append, run_of_unary first, Option.bind_some]
    refine run_of_operands others (fun other hother => ?_) outer
    exact (Option.some.inj hother).symm

end

/-- A level that has an operator still has it behind tokens on that level. -/
theorem OneLevel.run_eq {ts : List Token} (h : OneLevel ts) {current : Option Operator}
    {outer levels : Levels} (hrun : Levels.run (current :: outer) ts = some levels) :
    ∃ next, levels = next :: outer ∧ ∀ op ∈ current, next = some op := by
  induction h generalizing current outer levels with
  | nil =>
    obtain rfl : current :: outer = levels := Option.some.inj hrun
    exact ⟨current, rfl, fun _ hop => hop⟩
  | @token t ts hopening hclosing _ ih =>
    -- Of the tokens that are no parenthesis only an operator changes the level.
    have htake : ∀ op : Operator, Levels.run (current :: outer) (op.token :: ts) = some levels →
        ∃ next, levels = next :: outer ∧ ∀ other ∈ current, next = some other := by
      intro op hrun
      rw [Levels.run_cons, Levels.step_token] at hrun
      obtain ⟨taken, htaken, hrun⟩ := Option.bind_eq_some_iff.1 hrun
      obtain ⟨_, _, ⟨⟩, hfree, rfl⟩ := Levels.take_eq_some htaken
      obtain ⟨next, rfl, hnext⟩ := ih hrun
      refine ⟨next, rfl, fun other hother => ?_⟩
      rw [hfree other hother]
      exact hnext op rfl
    match t with
    | .opening => exact absurd rfl hopening
    | .closing => exact absurd rfl hclosing
    | .and => exact htake .and hrun
    | .or => exact htake .or hrun
    | .not | .name _ => exact ih hrun
  | group _ _ ihinside ih =>
    -- While the group is open, this level lies below the one of the group.
    rw [Levels.run_cons] at hrun
    replace hrun : Levels.run (none :: current :: outer) _ = some levels := hrun
    rw [Levels.run_append] at hrun
    obtain ⟨inside, hinside, hrun⟩ := Option.bind_eq_some_iff.1 hrun
    obtain ⟨next, rfl, -⟩ := ihinside hinside
    exact ih hrun

/-- A derivation has no level with two operators, whatever stands around the level. -/
theorem not_expression_of_mixed {op other : Operator} (hne : op ≠ other) {between : List Token}
    (hbetween : OneLevel between) (before after : List Token) (e : Expr) :
    ¬Expression (before ++ op.token :: (between ++ other.token :: after)) e := by
  intro h
  obtain ⟨current, hrun⟩ := run_of_expression h []
  rw [Levels.run_append] at hrun
  obtain ⟨levels, -, hrun⟩ := Option.bind_eq_some_iff.1 hrun
  rw [Levels.run_cons, Levels.step_token] at hrun
  obtain ⟨taken, htaken, hrun⟩ := Option.bind_eq_some_iff.1 hrun
  -- From here on the level has the operator `op`, and the other one comes before it is left.
  obtain ⟨_, outer, -, -, rfl⟩ := Levels.take_eq_some htaken
  rw [Levels.run_append] at hrun
  obtain ⟨behind, hbehind, hrun⟩ := Option.bind_eq_some_iff.1 hrun
  obtain ⟨next, rfl, hnext⟩ := hbetween.run_eq hbehind
  obtain rfl := hnext op rfl
  rw [Levels.run_cons, Levels.step_token, Levels.take_of_ne hne] at hrun
  contradiction

/-! ## 2. Texts -/

/-- A text of blanks alone has no tokens, and no tokens are no expression. -/
theorem parse_eq_ok_iff {cs : List Char} {e : Expr} :
    parse cs = .ok e ↔ Expression (Token.scan cs) e := by
  unfold parse
  split
  next hblank =>
    have hscan : Token.scan cs = [] := Token.scan_of_blank (List.all_eq_true.1 hblank)
    have hnone : parseTokens [] = .error .expectedName := by
      rw [parseTokens, Parser.expression, Parser.unary]
    rw [hscan, ← parseTokens_eq_ok_iff, hnone]
    simp only [reduceCtorEq]
  next => exact parseTokens_eq_ok_iff

theorem treeOf_text (s : String) : Condition.treeOf (.text s) =
    ((parse s.toList).map fun e => (s, e)).mapError fun reason => .malformedExpression s reason := by
  unfold Condition.treeOf
  dsimp only [Value.plain]
  cases parse s.toList <;> rfl

theorem treeOf_eq_ok_iff {s written : String} {e : Expr} :
    Condition.treeOf (.text s) = .ok (written, e) ↔ s = written ∧ parse s.toList = .ok e := by
  rw [treeOf_text]
  cases parse s.toList <;> simp [Except.map, Except.mapError]

theorem treeOf_eq_error_of_rejected {s : String} (h : ∀ e, parse s.toList ≠ .ok e) :
    ∃ reason, Condition.treeOf (.text s) = .error (.malformedExpression s reason) := by
  rw [treeOf_text]
  cases hparse : parse s.toList with
  | ok e => exact absurd hparse (h e)
  | error reason => exact ⟨reason, rfl⟩

/-- **Acceptance.** A text is read as an expression exactly if the grammar derives its tokens, with
the tree of the derivation. Every other text is refused together with itself: blank ones, and those
in which both operators stand on one level, at any depth. -/
theorem accepts_exactly_grammar (s : String) :
    (∀ written e, Condition.treeOf (.text s) = .ok (written, e) ↔
      s = written ∧ Expression (Token.scan s.toList) e) ∧
      ((∀ e, ¬Expression (Token.scan s.toList) e) →
        ∃ reason, Condition.treeOf (.text s) = .error (.malformedExpression s reason)) ∧
      (Text.isBlankText s = true →
        Condition.treeOf (.text s) = .error (.malformedExpression s .blank)) ∧
      ∀ op other : Operator, op ≠ other → ∀ before between after, OneLevel between →
        Token.scan s.toList = before ++ op.token :: (between ++ other.token :: after) →
          ∃ reason, Condition.treeOf (.text s) = .error (.malformedExpression s reason) := by
  refine ⟨fun written e => ?_, fun hnone => ?_, fun hblank => ?_,
    fun op other hne before between after hbetween hscan => ?_⟩
  · rw [treeOf_eq_ok_iff, parse_eq_ok_iff]
  · exact treeOf_eq_error_of_rejected fun e h => hnone e (parse_eq_ok_iff.1 h)
  · have hall : s.toList.all Text.isBlank = true := hblank
    rw [treeOf_text, parse, if_pos hall]
    rfl
  · refine treeOf_eq_error_of_rejected fun e h => ?_
    rw [parse_eq_ok_iff, hscan] at h
    exact not_expression_of_mixed hne hbetween before after e h

/-- A group between the two operators does not part them, and a group around one of them does. -/
theorem accepts_exactly_grammar_groups :
    Expression (Token.scan "!(a | b) & c".toList)
        (.and [.not (.or [.literal ['a'], .literal ['b']]), .literal ['c']]) ∧
      ∃ reason, Condition.treeOf (.text "!(a & (b | c) | d)") =
        .error (.malformedExpression "!(a & (b | c) | d)" reason) := by
  constructor
  · have h := (accepts_exactly_grammar "!(a | b) & c").1 "!(a | b) & c"
      (.and [.not (.or [.literal ['a'], .literal ['b']]), .literal ['c']])
    have htree : Condition.treeOf (.text "!(a | b) & c") = .ok ("!(a | b) & c",
        .and [.not (.or [.literal ['a'], .literal ['b']]), .literal ['c']]) := by
      cbv
    exact (h.1 htree).2
  · have hbetween : OneLevel [.opening, .name ['b'], .or, .name ['c'], .closing] :=
      @OneLevel.group [.name ['b'], .or, .name ['c']] []
        (.token (by decide) (by decide) (.token (by decide) (by decide)
          (.token (by decide) (by decide) .nil))) .nil
    exact (accepts_exactly_grammar "!(a & (b | c) | d)").2.2.2 .and .or (by decide)
      [.not, .opening, .name ['a']] _ [.name ['d'], .closing] hbetween (by cbv)

end LayeredConfig.Profile
