import LayeredConfig.Proofs.Placeholder.Termination

/-!
# Dependence — an expansion sees no keys but those it asks for

Which key is asked for next depends on what the keys before it stand for. Two lookups that agree on
the keys that an expansion over the first one asks for give the same run (`expand_eq_of_agree`), so
over the second one too no other keys are asked for.
-/

namespace LayeredConfig.Placeholder

variable {ε : Type}

/-! ## 1. Runs -/

namespace Run

variable {α β : Type} {A : List Char → Prop}

/-- `A` holds of every key that the run asks for. -/
def AsksOnly (A : List Char → Prop) (x : Run ε α) : Prop :=
  ∀ key ∈ x.asked, A key

theorem asked_bind_of_ok {x : Run ε α} {f : α → Run ε β} {a : α} (h : x.outcome = .ok a) :
    (x >>= f).asked = x.asked ++ (f a).asked := by
  rw [bind_of_ok h]
  exact List.filterMap_append

theorem asked_bind_of_error {x : Run ε α} {f : α → Run ε β} {e : Failure ε}
    (h : x.outcome = .error e) : (x >>= f).asked = x.asked := by
  rw [bind_of_error h]
  rfl

/-- A key that a part asks for is one that the whole asks for. -/
theorem asksOnly_hereditary : Hereditary fun _ (x : Run ε _) => x.AsksOnly A where
  first {_ _ x f} h key hkey := by
    apply h key
    cases hx : x.outcome with
    | ok a =>
      rw [asked_bind_of_ok hx]
      exact List.mem_append_left _ hkey
    | error e => rwa [asked_bind_of_error hx]
  second ha h key hkey := by
    apply h key
    rw [asked_bind_of_ok ha]
    exact List.mem_append_right _ hkey

end Run

/-! ## 2. Two lookups -/

namespace Expander

variable (x : Expander) {lookup lookup' : Lookup ε} {A : List Char → Prop}

theorem ask_eqIf (hagree : ∀ key, A key → lookup key = lookup' key) (key : List Char) :
    Run.EqIf (fun _ => Run.AsksOnly A) (Run.ask lookup key) (Run.ask lookup' key) := by
  intro hasks
  rw [Run.ask, Run.ask, hagree key (hasks key List.mem_cons_self)]

/-- As long as the first expansion asks only for keys on which the lookups agree, the second one
takes the same steps. -/
theorem expandAt_eqIf (hagree : ∀ key, A key → lookup key = lookup' key) (depth : Nat)
    (active : List (List Char)) (text : List Char) :
    Run.EqIf (fun _ => Run.AsksOnly A) (x.expandAt lookup depth active text)
      (x.expandAt lookup' depth active text) := by
  induction depth generalizing active text with
  | zero => exact .refl _
  | succ depth ih =>
    rw [expandAt_succ, expandAt_succ]
    refine read_eqIf Run.asksOnly_hereditary x (fun body => ?_) text _
    by_cases hmem : body ∈ active
    · rw [settle_of_mem hmem, settle_of_mem hmem]
      exact .refl _
    · rw [settle_of_notMem hmem, settle_of_notMem hmem]
      exact substitute_eqIf Run.asksOnly_hereditary x (ask_eqIf hagree) (ih (body :: active)) body

/-- All depths that are enough give one run. -/
theorem expandAt_eq_of_enough {n m : Nat} {active : List (List Char)} {text : List Char}
    (hn : ¬(x.expandAt lookup n active text).CutOff)
    (hm : ¬(x.expandAt lookup m active text).CutOff) :
    x.expandAt lookup n active text = x.expandAt lookup m active text := by
  obtain hle | hle := Nat.le_total n m
  · exact (expandAt_approx_of_le x lookup hle active text).eq hn
  · exact ((expandAt_approx_of_le x lookup hle active text).eq hm).symm

/-- An expansion over another lookup is the same, steps and all, if the lookups agree on the keys
that it asks for over the first one. -/
theorem expand_eq_of_agree {values values' : List (List Char)} (hwithin : lookup.Within values)
    (hwithin' : lookup'.Within values') {text : List Char}
    (hagree : ∀ key ∈ (x.expand values lookup text).asked, lookup key = lookup' key) :
    x.expand values' lookup' text = x.expand values lookup text := by
  have hsame : x.expand values lookup text =
      x.expandAt lookup' (depthFor (text :: values)) [] text :=
    expandAt_eqIf x (A := (· ∈ (x.expand values lookup text).asked)) hagree _ [] text
      fun _ hkey => hkey
  -- Each expansion has its own bound on the depth, and both bounds are enough for `lookup'`.
  have henough : ¬(x.expandAt lookup' (depthFor (text :: values)) [] text).CutOff := by
    rw [← hsame]
    exact (finishes_expand x hwithin text).definite
  have henough' : ¬(x.expand values' lookup' text).CutOff :=
    (finishes_expand x hwithin' text).definite
  rw [hsame]
  exact expandAt_eq_of_enough x henough' henough

end Expander

end LayeredConfig.Placeholder
