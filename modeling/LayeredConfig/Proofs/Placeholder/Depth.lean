import LayeredConfig.Proofs.Placeholder.Failures

/-!
# Depth — what more room changes

A run that stops for want of depth says so. Any other run is the same at every greater depth
(`expandAt_approx_of_le`), so an expansion ends with one outcome or with none (`Ends.unique`).
-/

namespace LayeredConfig.Placeholder

/-! ## 1. Runs that are cut off -/

section Outcomes

variable {ε α β : Type}

/-- The outcome is not the want of depth. -/
def Definite (o : Except (Failure ε) α) : Prop :=
  o ≠ .error .exhausted

theorem definite_ok (a : α) : Definite (.ok a : Except (Failure ε) α) := fun h => nomatch h

theorem definite_error_iff {failure : Failure ε} :
    Definite (.error failure : Except (Failure ε) α) ↔ failure ≠ .exhausted := by
  rw [Definite, ne_eq, Except.error.injEq]

/-- A failure is as definite in one part of a run as it is in the whole. -/
theorem Definite.error {failure : Failure ε}
    (h : Definite (.error failure : Except (Failure ε) α)) :
    Definite (.error failure : Except (Failure ε) β) :=
  definite_error_iff.2 (definite_error_iff.1 h)

theorem definite_map_iff (f : α → β) (o : Except (Failure ε) α) :
    Definite (f <$> o) ↔ Definite o := by
  cases o with
  | ok a => exact ⟨fun _ => definite_ok a, fun _ => definite_ok (f a)⟩
  | error e => exact ⟨Definite.error, Definite.error⟩

end Outcomes

namespace Run

variable {ε α β : Type}

/-- The run stopped for want of depth. -/
def CutOff (x : Run ε α) : Prop :=
  x.outcome = .error .exhausted

/-- The run `x` is `y`, or it was cut off. -/
def Approx (x y : Run ε α) : Prop :=
  x.EqUnless (· = .exhausted) y

theorem CutOff.approx {x : Run ε α} (h : x.CutOff) (y : Run ε α) : x.Approx y :=
  fun hx => absurd rfl (hx .exhausted h)

/-- A run that was not cut off is the one that it approximates. -/
theorem Approx.eq {x y : Run ε α} (h : x.Approx y) (hx : ¬x.CutOff) : x = y := by
  apply h
  rintro failure hfailure rfl
  exact hx hfailure

/-! ## 2. Outcomes in the limit -/

/-- From some depth on the runs have this outcome, which is not the want of depth. -/
def Converges (f : Nat → Run ε α) (o : Except (Failure ε) α) : Prop :=
  Definite o ∧ ∃ least, ∀ depth ≥ least, (f depth).outcome = o

theorem Converges.unique {f : Nat → Run ε α} {o o' : Except (Failure ε) α} (h : Converges f o)
    (h' : Converges f o') : o = o' := by
  rcases h with ⟨_, n, hn⟩
  rcases h' with ⟨_, m, hm⟩
  rw [← hn (max n m) (Nat.le_max_left n m), hm (max n m) (Nat.le_max_right n m)]

theorem converges_const {x : Run ε α} {o : Except (Failure ε) α} (h : x.outcome = o)
    (ho : Definite o) : Converges (fun _ => x) o :=
  ⟨ho, 0, fun _ _ => h⟩

theorem converges_ask {lookup : List Char → Except ε (Option (List Char))} {key : List Char}
    {value : Option (List Char)} (h : lookup key = .ok value) :
    Converges (fun _ => Run.ask lookup key) (.ok value) := by
  refine converges_const ?_ (definite_ok value)
  rw [outcome_ask, h]
  rfl

theorem Converges.of_succ {f : Nat → Run ε α} {o : Except (Failure ε) α}
    (h : Converges (fun depth => f (depth + 1)) o) : Converges f o := by
  rcases h with ⟨ho, n, hn⟩
  refine ⟨ho, n + 1, fun depth hdepth => ?_⟩
  have hprev : (f (depth - 1 + 1)).outcome = o := hn (depth - 1) (by omega)
  rwa [Nat.sub_add_cancel (by omega)] at hprev

theorem Converges.map {f : Nat → Run ε α} {o : Except (Failure ε) α} (h : Converges f o)
    (g : α → β) : Converges (fun depth => g <$> f depth) (g <$> o) := by
  rcases h with ⟨ho, n, hn⟩
  refine ⟨(definite_map_iff g o).2 ho, n, fun depth hdepth => ?_⟩
  rw [outcome_map, hn depth hdepth]

theorem Converges.bind_ok {f : Nat → Run ε α} {g : Nat → α → Run ε β} {a : α}
    {o : Except (Failure ε) β} (hf : Converges f (.ok a)) (hg : Converges (g · a) o) :
    Converges (fun depth => f depth >>= g depth) o := by
  rcases hf with ⟨_, n, hn⟩
  rcases hg with ⟨ho, m, hm⟩
  refine ⟨ho, max n m, fun depth hdepth => ?_⟩
  rw [outcome_bind, hn depth (by omega)]
  exact hm depth (by omega)

theorem Converges.bind_error {f : Nat → Run ε α} {g : Nat → α → Run ε β} {e : Failure ε}
    (hf : Converges f (.error e)) : Converges (fun depth => f depth >>= g depth) (.error e) := by
  rcases hf with ⟨he, n, hn⟩
  refine ⟨he.error, n, fun depth hdepth => ?_⟩
  rw [outcome_bind, hn depth hdepth]
  rfl

end Run

/-! ## 3. Expansions -/

namespace Expander

variable {ε : Type}

theorem expandAt_approx_succ (x : Expander) (lookup : Lookup ε) (depth : Nat)
    (active : List (List Char)) (text : List Char) :
    (x.expandAt lookup depth active text).Approx (x.expandAt lookup (depth + 1) active text) := by
  induction depth generalizing active text with
  | zero =>
    have hcut : (x.expandAt lookup 0 active text).CutOff := rfl
    exact hcut.approx _
  | succ depth ih =>
    rw [expandAt_succ, expandAt_succ]
    apply read_eqUnless
    intro body
    by_cases hmem : body ∈ active
    · rw [settle_of_mem hmem, settle_of_mem hmem]
      exact .refl _
    · rw [settle_of_notMem hmem, settle_of_notMem hmem]
      exact substitute_eqUnless x lookup (ih (body :: active)) body

theorem expandAt_approx_of_le (x : Expander) (lookup : Lookup ε) {n m : Nat} (h : n ≤ m)
    (active : List (List Char)) (text : List Char) :
    (x.expandAt lookup n active text).Approx (x.expandAt lookup m active text) := by
  induction h with
  | refl => exact .refl _
  | step _ ih => exact ih.trans (expandAt_approx_succ x lookup _ active text)

/-- However much depth there is beyond some bound, the expansion of a text inside the bodies
`active` has this outcome. -/
def Ends (x : Expander) (lookup : Lookup ε) (active : List (List Char)) (text : List Char)
    (o : Except (Failure ε) (List Char)) : Prop :=
  Run.Converges (fun depth => x.expandAt lookup depth active text) o

theorem ends_of_outcome {x : Expander} {lookup : Lookup ε} {depth : Nat}
    {active : List (List Char)} {text : List Char} {o : Except (Failure ε) (List Char)}
    (h : (x.expandAt lookup depth active text).outcome = o) (ho : Definite o) :
    x.Ends lookup active text o := by
  refine ⟨ho, depth, fun more hmore => ?_⟩
  -- A run that is not cut off is the run at every greater depth.
  have hne : ¬(x.expandAt lookup depth active text).CutOff := by
    rw [Run.CutOff, h]
    exact ho
  show (x.expandAt lookup more active text).outcome = o
  rw [← (expandAt_approx_of_le x lookup hmore active text).eq hne, h]

theorem Ends.unique {x : Expander} {lookup : Lookup ε} {active : List (List Char)}
    {text : List Char} {o o' : Except (Failure ε) (List Char)}
    (h : x.Ends lookup active text o) (h' : x.Ends lookup active text o') : o = o' :=
  Run.Converges.unique h h'

end Expander

end LayeredConfig.Placeholder
