import LayeredConfig.Proofs.Profile.Acceptance

/-!
# Round trip — what is written for a tree is read as that tree

Operands are put in parentheses exactly where the grammar asks for a group, so a well-formed tree is
read back from its text, and the trees that are read are the well-formed ones
(`tree_and_text_inverse`).
-/

namespace LayeredConfig.Profile

open Grammar Token

namespace Expr

/-- A tree that can be written: names are names, and a chain has two operands or more. -/
inductive WellFormed : Expr → Prop
  | literal {name} (h : IsName name) : WellFormed (.literal name)
  | not {e} (h : WellFormed e) : WellFormed (.not e)
  | and {es} (hlength : 2 ≤ es.length) (h : ∀ e ∈ es, WellFormed e) : WellFormed (.and es)
  | or {es} (hlength : 2 ≤ es.length) (h : ∀ e ∈ es, WellFormed e) : WellFormed (.or es)

/-! ## 1. Trees that are read -/

/-- All names among the tokens are names. -/
def Named (ts : List Token) : Prop :=
  ∀ cs, .name cs ∈ ts → IsName cs

theorem Named.of_subset {ts us : List Token} (h : Named ts) (hsub : us ⊆ ts) : Named us :=
  fun cs hcs => h cs (hsub hcs)

mutual

theorem wellFormed_of_unary {ts : List Token} {e : Expr} (h : Unary ts e) (hnamed : Named ts) :
    e.WellFormed := by
  match h with
  | .not h => exact .not (wellFormed_of_unary h (hnamed.of_subset (List.subset_cons_self _ _)))
  | .group h =>
    refine wellFormed_of_expression h (hnamed.of_subset ?_)
    exact List.subset_cons_of_subset _ (List.subset_append_left _ _)
  | .name => exact .literal (hnamed _ List.mem_cons_self)

theorem wellFormed_of_expression {ts : List Token} {e : Expr} (h : Expression ts e)
    (hnamed : Named ts) : e.WellFormed := by
  match h with
  | .operand h => exact wellFormed_of_unary h hnamed
  | .and first others | .or first others =>
    have hfirst := wellFormed_of_unary first (hnamed.of_subset (List.subset_append_left _ _))
    have hothers := wellFormed_of_operands others (hnamed.of_subset (List.subset_append_right _ _))
    -- The rule has a second operand, so the node has two or more.
    constructor
    · simp
    · exact List.forall_mem_cons.2 ⟨hfirst, hothers⟩

theorem wellFormed_of_operands {op : Operator} {ts : List Token} {es : List Expr}
    (h : Operands op ts es) (hnamed : Named ts) : ∀ e ∈ es, WellFormed e := by
  match h with
  | .nil => exact fun e he => absurd he List.not_mem_nil
  | .cons first others =>
    have hparts := hnamed.of_subset (List.subset_cons_self _ _)
    refine List.forall_mem_cons.2 ⟨?_, ?_⟩
    · exact wellFormed_of_unary first (hparts.of_subset (List.subset_append_left _ _))
    · exact wellFormed_of_operands others (hparts.of_subset (List.subset_append_right _ _))

end

theorem wellFormed_of_parse {cs : List Char} {e : Expr} (h : parse cs = .ok e) : e.WellFormed :=
  wellFormed_of_expression (parse_eq_ok_iff.1 h) fun _ hname => isName_of_mem_scan hname

/-! ## 2. Trees that are written -/

/-- An operand as it is written. -/
def operandText (e : Expr) : List Char :=
  grouped e.isCompound e.chars

/-- Further operands as they are written, each behind the sign of their operator. -/
def furtherText (sign : Char) (es : List Expr) : List Char :=
  es.flatMap fun e => ' ' :: sign :: ' ' :: e.operandText

theorem intercalate_operandChars (sign : Char) (e : Expr) (es : List Expr) :
    [' ', sign, ' '].intercalate (operandChars (e :: es)) =
      e.operandText ++ furtherText sign es := by
  induction es generalizing e with
  | nil =>
    show [' ', sign, ' '].intercalate [e.operandText] = _
    rw [List.intercalate_singleton, furtherText, List.flatMap_nil, List.append_nil]
  | cons f es ih =>
    have hcons : operandChars (e :: f :: es) = e.operandText :: operandChars (f :: es) := rfl
    have hne : operandChars (f :: es) ≠ [] := List.cons_ne_nil _ _
    rw [hcons, List.intercalate_cons_of_ne_nil hne, ih, List.append_assoc]
    rfl

/-- What is written for a tree is scanned to tokens of which the tree is derived. -/
def Written (e : Expr) : Prop :=
  ∃ ts, Scans e.chars ts ∧ Expression ts e

/-- What is written for an operand is scanned to tokens of which it is derived as an operand. -/
def WrittenOperand (e : Expr) : Prop :=
  ∃ ts, Scans e.operandText ts ∧ Unary ts e

theorem WrittenOperand.written {e : Expr} (h : e.WrittenOperand) (hsimple : e.isCompound = false) :
    e.Written := by
  obtain ⟨ts, hscans, hunary⟩ := h
  rw [operandText, hsimple] at hscans
  exact ⟨ts, hscans, .operand hunary⟩

theorem Written.operand {e : Expr} (h : e.Written) (hcompound : e.isCompound = true) :
    e.WrittenOperand := by
  obtain ⟨ts, hscans, hexpression⟩ := h
  refine ⟨.opening :: (ts ++ [.closing]), ?_, .group hexpression⟩
  have hclosing : Scans [')'] [.closing] := .mark rfl .nil
  rw [operandText, hcompound]
  exact .mark rfl (hscans.append hclosing fun rest _ => endsName_mark rfl rest)

theorem scans_furtherText {op : Operator} {sign : Char} (hsign : ofMark? sign = some op.token)
    {es : List Expr} (h : ∀ e ∈ es, e.WrittenOperand) :
    ∃ ts, Scans (furtherText sign es) ts ∧ Operands op ts es := by
  induction es with
  | nil => exact ⟨[], .nil, .nil⟩
  | cons e es ih =>
    obtain ⟨⟨ts, hscans, hunary⟩, hes⟩ := List.forall_mem_cons.1 h
    obtain ⟨more, hmore, hoperands⟩ := ih hes
    have hblank : Text.isBlank ' ' = true := by decide
    -- The operand may end in a name, so what follows it must not go on with that name.
    have hends : ∀ rest, endsName rest = true → endsName (furtherText sign es ++ rest) = true := by
      intro rest hrest
      cases es with
      | nil => exact hrest
      | cons f es => exact endsName_blank hblank (endsName_mark hsign _)
    exact ⟨op.token :: (ts ++ more),
      .blank hblank (.mark hsign (.blank hblank (hscans.append hmore hends))),
      .cons hunary hoperands⟩

/-- Two operands or more are not written without their operator. -/
theorem node_eq (op : Operator) {es : List Expr} (hlength : 2 ≤ es.length) :
    op.node es =
      match op with
      | .and => .and es
      | .or => .or es := by
  match es, hlength with
  | _ :: _ :: _, _ => rfl

theorem written_chain {op : Operator} {sign : Char} (hsign : ofMark? sign = some op.token)
    {es : List Expr} (hlength : 2 ≤ es.length) (h : ∀ e ∈ es, e.WrittenOperand) :
    ∃ ts, Scans ([' ', sign, ' '].intercalate (operandChars es)) ts ∧ Expression ts (op.node es) := by
  match es, hlength with
  | e :: f :: es, _ =>
    obtain ⟨⟨ts, hscans, hunary⟩, hes⟩ := List.forall_mem_cons.1 h
    obtain ⟨more, hmore, hoperands⟩ := scans_furtherText hsign hes
    have hblank : Text.isBlank ' ' = true := by decide
    rw [intercalate_operandChars]
    refine ⟨ts ++ more, hscans.append hmore fun rest _ => ?_, ?_⟩
    · exact endsName_blank hblank (endsName_mark hsign _)
    · exact Parser.expression_of_operands hunary hoperands (List.cons_ne_nil _ _)

/-- The induction is on the tree, for the whole of it and for it as an operand at once. -/
theorem WellFormed.written {e : Expr} (h : e.WellFormed) : e.Written ∧ e.WrittenOperand := by
  induction h with
  | literal h =>
    have hoperand : WrittenOperand (.literal _) := ⟨_, Scans.name h, .name⟩
    exact ⟨hoperand.written rfl, hoperand⟩
  | not _ ih =>
    obtain ⟨ts, hscans, hunary⟩ := ih.2
    have hoperand : WrittenOperand (.not _) := ⟨.not :: ts, .mark rfl hscans, .not hunary⟩
    exact ⟨hoperand.written rfl, hoperand⟩
  | @and es hlength _ ih =>
    have hsign : ofMark? '&' = some Operator.and.token := rfl
    obtain ⟨ts, hscans, h⟩ := written_chain hsign hlength fun e he => (ih e he).2
    rw [node_eq .and hlength] at h
    have hwritten : Written (.and es) := ⟨ts, hscans, h⟩
    exact ⟨hwritten, hwritten.operand rfl⟩
  | @or es hlength _ ih =>
    have hsign : ofMark? '|' = some Operator.or.token := rfl
    obtain ⟨ts, hscans, h⟩ := written_chain hsign hlength fun e he => (ih e he).2
    rw [node_eq .or hlength] at h
    have hwritten : Written (.or es) := ⟨ts, hscans, h⟩
    exact ⟨hwritten, hwritten.operand rfl⟩

theorem WellFormed.parse_chars {e : Expr} (h : e.WellFormed) : parse e.chars = .ok e := by
  obtain ⟨ts, hscans, hexpression⟩ := h.written.1
  rw [parse_eq_ok_iff, hscans.scan_eq]
  exact hexpression

theorem WellFormed.treeOf_text {e : Expr} (h : e.WellFormed) :
    Condition.treeOf (.text e.text) = .ok (e.text, e) := by
  rw [treeOf_eq_ok_iff, text, String.toList_ofList]
  exact ⟨rfl, h.parse_chars⟩

end Expr

namespace Condition

theorem ofExpressions_text {s : String} {e : Expr} (h : treeOf (.text s) = .ok (s, e)) :
    ofExpressions [.text s] = .ok ⟨[s], [e]⟩ := by
  have hread : [Value.text s].mapM treeOf = .ok [(s, e)] := by
    rw [List.mapM_cons, h]
    rfl
  rw [ofExpressions, hread]
  rfl

end Condition

/-- **Round trip.** Every well-formed tree is read back from its text. Every tree that is read is
well-formed, so it is read back from its text too, and the text that was read and the text of its
tree make conditions that hold of the same activities and ask about the same profiles. -/
theorem tree_and_text_inverse :
    (∀ e : Expr, e.WellFormed → Condition.treeOf (.text e.text) = .ok (e.text, e)) ∧
      ∀ (s written : String) (e : Expr), Condition.treeOf (.text s) = .ok (written, e) →
        e.WellFormed ∧ Condition.treeOf (.text e.text) = .ok (e.text, e) ∧
          ∃ c c', Condition.ofExpressions [.text s] = .ok c ∧
            Condition.ofExpressions [.text e.text] = .ok c' ∧
            (∀ isActive, c'.holds isActive = c.holds isActive) ∧
            ∀ {m : Type → Type} [Monad m] (ask : List Char → m Bool),
              c'.evaluate ask = c.evaluate ask := by
  refine ⟨fun e => Expr.WellFormed.treeOf_text, fun s written e h => ?_⟩
  obtain ⟨rfl, hparse⟩ := treeOf_eq_ok_iff.1 h
  have hwellFormed := Expr.wellFormed_of_parse hparse
  -- The two texts have the same tree, and a condition looks at nothing else.
  refine ⟨hwellFormed, hwellFormed.treeOf_text, ⟨[s], [e]⟩, ⟨[e.text], [e]⟩,
    Condition.ofExpressions_text h, Condition.ofExpressions_text hwellFormed.treeOf_text,
    fun isActive => rfl, fun ask => rfl⟩

/-- `!(a b & (c | !!d))`: a name with a blank in it, a chain in a chain, and a double negation. -/
def Expr.nested : Expr :=
  .not (.and [.literal "a b".toList, .or [.literal ['c'], .not (.not (.literal ['d']))]])

theorem tree_and_text_inverse_nested :
    Expr.nested.WellFormed ∧ Expr.nested.text = "!(a b & (c | !!d))" ∧
      Condition.treeOf (.text Expr.nested.text) = .ok (Expr.nested.text, Expr.nested) ∧
      ∃ c, Condition.ofExpressions [.text "! ((a b)&(c|!(!d)))"] = .ok c ∧
        ∃ c', Condition.ofExpressions [.text Expr.nested.text] = .ok c' ∧
          ∀ isActive, c'.holds isActive = c.holds isActive := by
  have hnested : Expr.nested.WellFormed := by
    have hinner : Expr.WellFormed (.or [.literal ['c'], .not (.not (.literal ['d']))]) := by
      refine .or (by decide) (List.forall_mem_cons.2 ⟨?_, List.forall_mem_singleton.2 ?_⟩)
      · exact .literal (by decide)
      · exact .not (.not (.literal (by decide)))
    refine .not (.and (by decide) ?_)
    exact List.forall_mem_cons.2 ⟨.literal (by decide), List.forall_mem_singleton.2 hinner⟩
  have hread : Condition.treeOf (.text "! ((a b)&(c|!(!d)))") =
      .ok ("! ((a b)&(c|!(!d)))", Expr.nested) := by
    cbv
  obtain ⟨-, -, c, c', hc, hc', hholds, -⟩ := tree_and_text_inverse.2 _ _ _ hread
  exact ⟨hnested, by decide, tree_and_text_inverse.1 _ hnested, c, hc, c', hc', hholds⟩

end LayeredConfig.Profile
