import LayeredConfig.Proofs.Action.Effects
import LayeredConfig.Proofs.Profile.Names
import LayeredConfig.Proofs.Profile.RoundTrip

/-!
# Evaluation — the truth of expressions when asking has effects

If asking about a profile answers alike in all states of a kind and stays among them, then evaluating
an expression gives its truth under these answers (`Expr.Over.answers`). If asking can only fail, then
so can evaluating, and no state but the one of the first question is left (`Expr.Over.idleOr`).
-/

namespace LayeredConfig.Profile

open LayeredConfig.Action

namespace Expr

/-- All names in the tree are of one kind. -/
inductive Over (valid : List Char → Prop) : Expr → Prop
  | literal {name} (h : valid name) : Over valid (.literal name)
  | not {e} (h : Over valid e) : Over valid (.not e)
  | and {es} (h : ∀ e ∈ es, Over valid e) : Over valid (.and es)
  | or {es} (h : ∀ e ∈ es, Over valid e) : Over valid (.or es)

theorem WellFormed.over {e : Expr} (h : e.WellFormed) : e.Over IsProfileName := by
  induction h with
  | literal h => exact .literal h.isProfileName
  | not _ ih => exact .not ih
  | and _ _ ih => exact .and ih
  | or _ _ ih => exact .or ih

variable {σ : Type} {valid : List Char → Prop} {ask : List Char → Action σ Bool}

/-! ## 1. Questions that change the state -/

section Respects

variable {R : σ → σ → Prop} [Std.Refl R] [IsTrans σ R]

mutual

/-- Evaluating does no more to the state than asking does. -/
theorem evaluate_respects (hask : ∀ name, (ask name).Respects R) (e : Expr) :
    (e.evaluate ask).Respects R := by
  match e with
  | .literal name => exact hask name
  | .not operand => exact (evaluate_respects hask operand).bind fun _ => .pure _
  | .and operands => exact evaluateAll_respects hask operands
  | .or operands => exact evaluateAny_respects hask operands

theorem evaluateAll_respects (hask : ∀ name, (ask name).Respects R) (es : List Expr) :
    (evaluateAll ask es).Respects R := by
  match es with
  | [] => exact .pure true
  | e :: es =>
    refine (evaluate_respects hask e).bind fun b => ?_
    cases b with
    | false => exact .pure false
    | true => exact evaluateAll_respects hask es

theorem evaluateAny_respects (hask : ∀ name, (ask name).Respects R) (es : List Expr) :
    (evaluateAny ask es).Respects R := by
  match es with
  | [] => exact .pure false
  | e :: es =>
    refine (evaluate_respects hask e).bind fun b => ?_
    cases b with
    | false => exact evaluateAny_respects hask es
    | true => exact .pure true

end

end Respects

/-! ## 2. Questions that are answered -/

section Answers

variable {P : σ → Prop} {isActive : List Char → Bool}

theorem evaluateAll_answers {es : List Expr}
    (h : ∀ e ∈ es, (e.evaluate ask).Answers P (e.holds isActive)) :
    (evaluateAll ask es).Answers P (allHold isActive es) := by
  induction es with
  | nil => exact .pure true
  | cons e es ih =>
    obtain ⟨he, hes⟩ := List.forall_mem_cons.1 h
    refine he.bind ?_
    cases hfirst : e.holds isActive with
    | false => simpa [allHold, hfirst] using Answers.pure (P := P) false
    | true => simpa [allHold, hfirst] using ih hes

theorem evaluateAny_answers {es : List Expr}
    (h : ∀ e ∈ es, (e.evaluate ask).Answers P (e.holds isActive)) :
    (evaluateAny ask es).Answers P (anyHolds isActive es) := by
  induction es with
  | nil => exact .pure false
  | cons e es ih =>
    obtain ⟨he, hes⟩ := List.forall_mem_cons.1 h
    refine he.bind ?_
    cases hfirst : e.holds isActive with
    | false => simpa [anyHolds, hfirst] using ih hes
    | true => simpa [anyHolds, hfirst] using Answers.pure (P := P) true

theorem Over.answers (hask : ∀ name, valid name → (ask name).Answers P (isActive name)) {e : Expr}
    (h : e.Over valid) : (e.evaluate ask).Answers P (e.holds isActive) := by
  induction h with
  | literal h => exact hask _ h
  | not _ ih => exact ih.bind (.pure _)
  | and _ ih => exact evaluateAll_answers ih
  | or _ ih => exact evaluateAny_answers ih

end Answers

/-! ## 3. Questions that fail -/

section Failing

variable {Q : σ → Prop} {s : σ}

theorem evaluateAll_idleOr {es : List Expr} (h : ∀ e ∈ es, IdleOr Q s (e.evaluate ask)) :
    IdleOr Q s (evaluateAll ask es) := by
  induction es with
  | nil => exact .pure true
  | cons e es ih =>
    obtain ⟨he, hes⟩ := List.forall_mem_cons.1 h
    refine he.bind fun b => ?_
    cases b with
    | false => exact .pure false
    | true => exact ih hes

theorem evaluateAny_idleOr {es : List Expr} (h : ∀ e ∈ es, IdleOr Q s (e.evaluate ask)) :
    IdleOr Q s (evaluateAny ask es) := by
  induction es with
  | nil => exact .pure false
  | cons e es ih =>
    obtain ⟨he, hes⟩ := List.forall_mem_cons.1 h
    refine he.bind fun b => ?_
    cases b with
    | false => exact ih hes
    | true => exact .pure true

theorem Over.idleOr (hask : ∀ name, valid name → IdleOr Q s (ask name)) {e : Expr}
    (h : e.Over valid) : IdleOr Q s (e.evaluate ask) := by
  induction h with
  | literal h => exact hask _ h
  | not _ ih => exact ih.bind fun _ => .pure _
  | and _ ih => exact evaluateAll_idleOr ih
  | or _ ih => exact evaluateAny_idleOr ih

end Failing

end Expr

end LayeredConfig.Profile
