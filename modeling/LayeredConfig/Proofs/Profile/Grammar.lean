import LayeredConfig.Profile.Condition
import LayeredConfig.Proofs.Profile.Tokens

/-!
# Grammar — which token lists are expressions

The grammar is given as rules, without a cursor and without looking ahead. Reading succeeds exactly
on what the rules derive, and gives the tree of the derivation (`parseTokens_eq_ok_iff`).
-/

namespace LayeredConfig.Profile

/-! ## 1. Rules -/

namespace Grammar

mutual

/-- `expression := unary ( ("&" unary)* | ("|" unary)* )`. An operand alone stands for itself, and
the operands of one operator make one node. -/
inductive Expression : List Token → Expr → Prop
  | operand {ts e} (h : Unary ts e) : Expression ts e
  | and {ts more e f es} (first : Unary ts e) (others : Operands .and more (f :: es)) :
    Expression (ts ++ more) (.and (e :: f :: es))
  | or {ts more e f es} (first : Unary ts e) (others : Operands .or more (f :: es)) :
    Expression (ts ++ more) (.or (e :: f :: es))

/-- `unary := "!" unary | "(" expression ")" | name`. Parentheses leave no node. -/
inductive Unary : List Token → Expr → Prop
  | not {ts e} (h : Unary ts e) : Unary (.not :: ts) (.not e)
  | group {ts e} (h : Expression ts e) : Unary (.opening :: (ts ++ [.closing])) e
  | name {cs} : Unary [.name cs] (.literal cs)

/-- Operands that each follow the same operator. -/
inductive Operands : Operator → List Token → List Expr → Prop
  | nil {op} : Operands op [] []
  | cons {op ts more e es} (first : Unary ts e) (others : Operands op more es) :
    Operands op (op.token :: (ts ++ more)) (e :: es)

end

end Grammar

open Grammar

/-! ## 2. Reading -/

namespace Parser

/-- A reading from the front of `ts` gives `a` and leaves `rest`. -/
def Reads {α : Type} {ts : List Token} (x : Except Reason (α × Rest ts)) (a : α)
    (rest : List Token) : Prop :=
  ∃ h, x = .ok (a, ⟨rest, h⟩)

variable {ts rest : List Token} {e : Expr} {es : List Expr} {op : Operator}

theorem ofToken?_token (op : Operator) : Operator.ofToken? op.token = some op := by
  cases op <;> rfl

theorem not_reads_error {α : Type} {a : α} {reason : Reason} :
    ¬Reads (.error reason : Except Reason (α × Rest ts)) a rest :=
  fun ⟨_, h⟩ => nomatch h

/-! ### Negations, groups and names -/

theorem startsUnary_of_reads (h : Reads (unary ts) e rest) : startsUnary ts = true := by
  match ts with
  | .not :: _ | .opening :: _ | .name _ :: _ => rfl
  | [] | .closing :: _ | .and :: _ | .or :: _ =>
    rw [unary] at h
    exact absurd h not_reads_error

theorem reads_unary_not_iff {more : List Token} :
    Reads (unary (.not :: more)) e rest ↔
      ∃ operand, e = .not operand ∧ Reads (unary more) operand rest := by
  constructor
  · rintro ⟨hlt, h⟩
    rw [unary] at h
    split at h
    · split at h
      next => contradiction
      next operand after hmore =>
        obtain ⟨left, hleft⟩ := after
        cases h
        exact ⟨operand, rfl, hleft, hmore⟩
    · contradiction
  · rintro ⟨operand, rfl, hmore⟩
    -- The check for a dangling negation cannot stop what is then read as an operand.
    have hstarts := startsUnary_of_reads hmore
    obtain ⟨hlt, hmore⟩ := hmore
    refine ⟨Nat.lt_succ_of_lt hlt, ?_⟩
    rw [unary, if_pos hstarts, hmore]
    rfl

theorem reads_unary_name_iff {cs : List Char} {more : List Token} :
    Reads (unary (.name cs :: more)) e rest ↔ e = .literal cs ∧ rest = more := by
  rw [unary]
  constructor
  · rintro ⟨hlt, h⟩
    cases h
    exact ⟨rfl, rfl⟩
  · rintro ⟨rfl, rfl⟩
    exact ⟨Nat.lt_succ_self _, rfl⟩

/-! ### Chains -/

theorem endsGroup_of_startsUnary (h : startsUnary ts = true) : endsGroup ts = false := by
  match ts with
  | .not :: _ | .opening :: _ | .name _ :: _ => rfl

theorem endsGroup_cases (h : endsGroup ts = true) : ts = [] ∨ ∃ more, ts = .closing :: more := by
  cases ts with
  | nil => exact .inl rfl
  | cons token more =>
    cases token with
    | closing => exact .inr ⟨more, rfl⟩
    | _ => exact absurd h Bool.false_ne_true

theorem exists_of_reads_chain (h : Reads (chain op ts) es rest) :
    ∃ more, ts = op.token :: more := by
  match ts with
  | [] =>
    rw [chain] at h
    exact absurd h not_reads_error
  | token :: more =>
    by_cases htoken : token = op.token
    · exact ⟨more, by rw [htoken]⟩
    · rw [chain, if_pos htoken] at h
      exact absurd h not_reads_error

/-- A chain is its last operand, or an operand with the rest of the chain behind it. -/
theorem reads_chain_cases (h : Reads (chain op ts) es rest) :
    ∃ more first after, ts = op.token :: more ∧ Reads (unary more) first after ∧
      ((endsGroup after = true ∧ es = [first] ∧ rest = after) ∨
        ∃ others, Reads (chain op after) others rest ∧ es = first :: others) := by
  obtain ⟨more, rfl⟩ := exists_of_reads_chain h
  obtain ⟨hlt, h⟩ := h
  rw [chain, if_neg (not_not.2 rfl)] at h
  split at h
  next => contradiction
  next =>
  -- What comes behind the operand decides: the end, an operator, or the end of a group.
  split at h
  next => contradiction
  next first _ hfirst =>
    cases h
    exact ⟨more, first, [], rfl, ⟨_, hfirst⟩, .inl ⟨rfl, rfl, rfl⟩⟩
  next first next behind hbehind hfirst =>
    refine ⟨more, first, next :: behind, rfl, ⟨_, hfirst⟩, ?_⟩
    split at h
    next =>
      split at h
      next => contradiction
      next others after hafter hothers =>
        cases h
        exact .inr ⟨others, ⟨_, hothers⟩, rfl⟩
    next =>
      split at h
      next hclosing =>
        cases h
        subst hclosing
        exact .inl ⟨rfl, rfl, rfl⟩
      next => contradiction

theorem reads_chain_last {more : List Token} (hfirst : Reads (unary more) e rest)
    (hend : endsGroup rest = true) : Reads (chain op (op.token :: more)) [e] rest := by
  have hends := endsGroup_of_startsUnary (startsUnary_of_reads hfirst)
  obtain ⟨hlt, hfirst⟩ := hfirst
  refine ⟨Nat.lt_succ_of_lt hlt, ?_⟩
  rw [chain, if_neg (not_not.2 rfl), hends, if_neg Bool.false_ne_true, hfirst]
  obtain rfl | ⟨behind, rfl⟩ := endsGroup_cases hend
  · rfl
  · rfl

theorem reads_chain_cons {more after : List Token} (hfirst : Reads (unary more) e after)
    (hothers : Reads (chain op after) es rest) :
    Reads (chain op (op.token :: more)) (e :: es) rest := by
  have hends := endsGroup_of_startsUnary (startsUnary_of_reads hfirst)
  obtain ⟨behind, rfl⟩ := exists_of_reads_chain hothers
  obtain ⟨hlt, hfirst⟩ := hfirst
  obtain ⟨hlt', hothers⟩ := hothers
  refine ⟨Nat.lt_succ_of_lt (Nat.lt_trans hlt' hlt), ?_⟩
  rw [chain, if_neg (not_not.2 rfl), hends, if_neg Bool.false_ne_true, hfirst]
  simp only [ofToken?_token, Option.isSome_some, if_true, hothers]

/-! ### Expressions -/

/-- An expression is an operand, or an operand with a chain behind it. -/
theorem reads_expression_cases (h : Reads (expression ts) e rest) :
    ∃ first after, Reads (unary ts) first after ∧
      ((endsGroup after = true ∧ e = first ∧ rest = after) ∨
        ∃ op others, Reads (chain op after) others rest ∧ e = op.node (first :: others)) := by
  obtain ⟨hlt, h⟩ := h
  rw [expression] at h
  split at h
  next => contradiction
  next hfirst =>
    cases h
    exact ⟨e, [], ⟨_, hfirst⟩, .inl ⟨rfl, rfl, rfl⟩⟩
  next first next behind hbehind hfirst =>
    refine ⟨first, next :: behind, ⟨_, hfirst⟩, ?_⟩
    split at h
    next op hop =>
      split at h
      next => contradiction
      next others after hafter hothers =>
        cases h
        exact .inr ⟨op, others, ⟨_, hothers⟩, rfl⟩
    next =>
      split at h
      next hclosing =>
        cases h
        subst hclosing
        exact .inl ⟨rfl, rfl, rfl⟩
      next => contradiction

theorem reads_expression_single (hfirst : Reads (unary ts) e rest)
    (hend : endsGroup rest = true) : Reads (expression ts) e rest := by
  obtain ⟨hlt, hfirst⟩ := hfirst
  refine ⟨hlt, ?_⟩
  rw [expression, hfirst]
  obtain rfl | ⟨behind, rfl⟩ := endsGroup_cases hend
  · rfl
  · rfl

theorem reads_expression_chain {after : List Token} (hfirst : Reads (unary ts) e after)
    (hothers : Reads (chain op after) es rest) :
    Reads (expression ts) (op.node (e :: es)) rest := by
  obtain ⟨behind, rfl⟩ := exists_of_reads_chain hothers
  obtain ⟨hlt, hfirst⟩ := hfirst
  obtain ⟨hlt', hothers⟩ := hothers
  refine ⟨Nat.lt_trans hlt' hlt, ?_⟩
  rw [expression, hfirst]
  simp only [ofToken?_token, hothers]

theorem startsUnary_of_reads_expression (h : Reads (expression ts) e rest) :
    startsUnary ts = true := by
  obtain ⟨first, after, hfirst, -⟩ := reads_expression_cases h
  exact startsUnary_of_reads hfirst

theorem reads_unary_opening_iff {more : List Token} :
    Reads (unary (.opening :: more)) e rest ↔ Reads (expression more) e (.closing :: rest) := by
  constructor
  · rintro ⟨hlt, h⟩
    cases more with
    | nil =>
      rw [unary] at h
      contradiction
    | cons next behind =>
      by_cases hclosing : next = .closing
      · rw [hclosing, unary] at h
        contradiction
      · rw [unary] at h
        · split at h
          next => contradiction
          next hgroup =>
            cases h
            exact ⟨_, hgroup⟩
          next => contradiction
        · exact hclosing
  · intro hgroup
    have hstarts := startsUnary_of_reads_expression hgroup
    obtain ⟨hlt, hgroup⟩ := hgroup
    refine ⟨Nat.lt_succ_of_lt (Nat.lt_of_succ_lt hlt), ?_⟩
    cases more with
    | nil => contradiction
    | cons next behind =>
      -- An empty group is refused before an expression is looked for.
      have hclosing : next ≠ .closing := by
        rintro rfl
        contradiction
      rw [unary]
      · rw [hgroup]
      · exact hclosing

/-! ## 3. What is read is derived

The induction is on the tokens that are left, as the reading itself goes. -/

theorem expression_of_operands {more : List Token} (first : Unary ts e)
    (others : Operands op more es) (h : es ≠ []) : Expression (ts ++ more) (op.node (e :: es)) := by
  match op, es with
  | _, [] => exact absurd rfl h
  | .and, _ :: _ => exact .and first others
  | .or, _ :: _ => exact .or first others

mutual

theorem unary_of_reads {ts rest : List Token} {e : Expr} (h : Reads (unary ts) e rest) :
    ∃ front, ts = front ++ rest ∧ Unary front e := by
  match ts with
  | [] | .closing :: _ | .and :: _ | .or :: _ =>
    rw [unary] at h
    exact absurd h not_reads_error
  | .not :: more =>
    obtain ⟨operand, rfl, hmore⟩ := reads_unary_not_iff.1 h
    obtain ⟨front, rfl, hoperand⟩ := unary_of_reads hmore
    exact ⟨.not :: front, rfl, .not hoperand⟩
  | .opening :: more =>
    obtain ⟨front, rfl, hgroup, -⟩ := expression_of_reads (reads_unary_opening_iff.1 h)
    exact ⟨.opening :: (front ++ [.closing]), by simp, .group hgroup⟩
  | .name cs :: more =>
    obtain ⟨rfl, rfl⟩ := reads_unary_name_iff.1 h
    exact ⟨[.name cs], rfl, .name⟩
termination_by (ts.length, 0)

theorem expression_of_reads {ts rest : List Token} {e : Expr}
    (h : Reads (expression ts) e rest) :
    ∃ front, ts = front ++ rest ∧ Expression front e ∧ endsGroup rest = true := by
  obtain ⟨first, after, hfirst, hafter⟩ := reads_expression_cases h
  -- An operand takes at least one token away, so the chain behind it is read from fewer.
  have := hfirst.1
  obtain ⟨front, rfl, hfront⟩ := unary_of_reads hfirst
  rcases hafter with ⟨hend, rfl, rfl⟩ | ⟨op, others, hothers, rfl⟩
  · exact ⟨front, rfl, .operand hfront, hend⟩
  · obtain ⟨middle, rfl, hmiddle, hne, hend⟩ := operands_of_reads hothers
    refine ⟨front ++ middle, (List.append_assoc ..).symm, ?_, hend⟩
    exact expression_of_operands hfront hmiddle hne
termination_by (ts.length, 1)

theorem operands_of_reads {op : Operator} {ts rest : List Token} {es : List Expr}
    (h : Reads (chain op ts) es rest) :
    ∃ front, ts = front ++ rest ∧ Operands op front es ∧ es ≠ [] ∧ endsGroup rest = true := by
  obtain ⟨more, first, after, rfl, hfirst, hafter⟩ := reads_chain_cases h
  have := hfirst.1
  obtain ⟨front, rfl, hfront⟩ := unary_of_reads hfirst
  rcases hafter with ⟨hend, rfl, rfl⟩ | ⟨others, hothers, rfl⟩
  · refine ⟨op.token :: (front ++ []), by simp, .cons hfront .nil, List.cons_ne_nil _ _, hend⟩
  · obtain ⟨middle, rfl, hmiddle, -, hend⟩ := operands_of_reads hothers
    refine ⟨op.token :: (front ++ middle), ?_, .cons hfront hmiddle, List.cons_ne_nil _ _, hend⟩
    rw [List.cons_append, List.append_assoc]
termination_by (ts.length, 0)

end

/-! ## 4. What is derived is read

The induction is on the derivation, whatever follows the tokens it derives. -/

mutual

theorem reads_of_unary {ts : List Token} {e : Expr} (h : Unary ts e) (rest : List Token) :
    Reads (unary (ts ++ rest)) e rest := by
  match h with
  | .not h => exact reads_unary_not_iff.2 ⟨_, rfl, reads_of_unary h rest⟩
  | .group h =>
    rw [List.cons_append, List.append_assoc]
    exact reads_unary_opening_iff.2 (reads_of_expression h rfl)
  | .name => exact reads_unary_name_iff.2 ⟨rfl, rfl⟩

theorem reads_of_expression {ts rest : List Token} {e : Expr} (h : Expression ts e)
    (hend : endsGroup rest = true) :
    Reads (expression (ts ++ rest)) e rest := by
  match h with
  | .operand h => exact reads_expression_single (reads_of_unary h rest) hend
  | .and first others | .or first others =>
    rw [List.append_assoc]
    have hothers := reads_of_operands others (List.cons_ne_nil _ _) hend
    exact reads_expression_chain (reads_of_unary first _) hothers

theorem reads_of_operands {op : Operator} {ts rest : List Token} {es : List Expr}
    (h : Operands op ts es) (hne : es ≠ []) (hend : endsGroup rest = true) :
    Reads (chain op (ts ++ rest)) es rest := by
  match h with
  | .nil => exact absurd rfl hne
  | @Operands.cons _ _ _ _ [] first others =>
    cases others
    rw [List.append_nil, List.cons_append]
    exact reads_chain_last (reads_of_unary first rest) hend
  | @Operands.cons _ _ _ _ (_ :: _) first others =>
    rw [List.cons_append, List.append_assoc]
    have hothers := reads_of_operands others (List.cons_ne_nil _ _) hend
    exact reads_chain_cons (reads_of_unary first _) hothers

end

end Parser

theorem parseTokens_eq_ok_iff {ts : List Token} {e : Expr} :
    parseTokens ts = .ok e ↔ Expression ts e := by
  constructor
  · intro h
    unfold parseTokens at h
    split at h
    next => contradiction
    next hreads =>
      cases h
      obtain ⟨front, rfl, hfront, -⟩ := Parser.expression_of_reads ⟨_, hreads⟩
      rwa [List.append_nil]
    next => contradiction
  · intro h
    have hreads : Parser.Reads (Parser.expression (ts ++ [])) e [] :=
      Parser.reads_of_expression h rfl
    rw [List.append_nil] at hreads
    obtain ⟨_, hreads⟩ := hreads
    rw [parseTokens, hreads]

end LayeredConfig.Profile
