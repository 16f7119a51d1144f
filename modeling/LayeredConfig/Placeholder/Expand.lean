import LayeredConfig.Placeholder.Delimiters
import LayeredConfig.Placeholder.Run

/-!
# Expansion of placeholders

A placeholder is replaced by the value of its key, and that value is expanded first. Without a
value the default takes its place; without a default a lenient expansion leaves the placeholder
as it stands and a strict one fails. A body that is met again while it is being expanded is
circular.

The text changes in place: what replaces a placeholder is not searched again, the search goes
on right after it.
-/

namespace LayeredConfig.Placeholder

/-- Delimiters, and whether placeholders without a value may stay. -/
structure Expander where
  delimiters : Delimiters
  lenient : Bool
  deriving DecidableEq, Repr

/-- What stands under a key, if anything. -/
abbrev Lookup (ε : Type) : Type := List Char → Except ε (Option (List Char))

namespace Expander

variable {ε : Type}

/-- The key of a body and what takes the place of the placeholder; `inner` expands the parts of
the body and the value found. The default is expanded even if it is not needed. -/
def substitute (x : Expander) (lookup : Lookup ε) (inner : List Char → Run ε (List Char))
    (body : List Char) : Run ε (List Char × Option (List Char)) := do
  let (keyPart, defaultPart) := x.delimiters.split body
  let key ← inner keyPart
  let default ←
    match defaultPart with
    | some part => do
      let expanded ← inner part
      pure (some expanded)
    | none => pure none
  let value ← Run.ask lookup key
  match value with
  | some found => do
    let expanded ← inner found
    pure (key, some expanded)
  | none => pure (key, default)

theorem substitute_eq (x : Expander) (lookup : Lookup ε) (inner : List Char → Run ε (List Char))
    (body : List Char) :
    x.substitute lookup inner body = (do
      let key ← inner (x.delimiters.split body).1
      let default ← (x.delimiters.split body).2.mapM inner
      let value ← Run.ask lookup key
      let found ← value.mapM inner
      pure (key, found.or default)) := by
  simp only [substitute]
  obtain ⟨keyPart, defaultPart⟩ := x.delimiters.split body
  refine bind_congr fun key => ?_
  cases defaultPart with
  | some part =>
    simp only [Option.mapM_some, map_eq_pure_bind, bind_assoc, pure_bind]
    refine bind_congr fun default => bind_congr fun value => ?_
    cases value <;> simp
  | none =>
    simp only [Option.mapM_none, pure_bind]
    refine bind_congr fun value => ?_
    cases value <;> simp

/-- Replaces the placeholders of a buffer from an index on. `text` is what the buffer held at
first, `active` are the bodies that are being expanded around it. -/
def expandFrom (x : Expander) (resolve : List Char → Run ε (List Char × Option (List Char)))
    (active : List (List Char)) (text buffer : List Char) (index : Nat) : Run ε (List Char) :=
  match h : Text.indexFrom? x.delimiters.opening index buffer with
  | none => pure buffer
  | some start =>
    have := Text.le_of_indexFrom? h
    have := Text.indexFrom?_add_length_le x.delimiters.opening_ne_nil h
    let inside := start + x.delimiters.opening.length
    match x.delimiters.closeIndex? 0 (buffer.drop inside) with
    | none => pure buffer
    | some size =>
      let body := (buffer.drop inside).take size
      let stop := inside + size + x.delimiters.closing.length
      if body ∈ active then Run.fail (.circular body)
      else do
        let (key, replacement) ← resolve body
        match replacement with
        | some new => do
          Run.step (.resolved key)
          expandFrom x resolve active text (buffer.take start ++ new ++ buffer.drop stop)
            (start + new.length)
        | none =>
          if x.lenient then expandFrom x resolve active text buffer stop
          else Run.fail (.unresolved key text)
termination_by buffer.length - index
decreasing_by
  all_goals
    have := x.delimiters.length_opening_pos
  · simp only [List.length_append, List.length_take, List.length_drop]
    omega
  · omega

/-- Expands a text inside the bodies `active`, at most `depth` levels deep. -/
def expandAt (x : Expander) (lookup : Lookup ε) :
    (depth : Nat) → (active : List (List Char)) → (text : List Char) → Run ε (List Char)
  | 0, _, _ => Run.fail .exhausted
  | depth + 1, active, text =>
    let resolve (body : List Char) :=
      x.substitute lookup (expandAt x lookup depth (body :: active)) body
    x.expandFrom resolve active text text 0

/-- A bound on how many texts occur inside given texts, and so on how many bodies can be active
at once. -/
def depthFor (texts : List (List Char)) : Nat :=
  texts.foldl (fun n cs => n + (cs.length + 1) * (cs.length + 1)) 1

theorem depthFor_cons (cs : List Char) (others : List (List Char)) :
    depthFor (cs :: others) = depthFor others + (cs.length + 1) * (cs.length + 1) := by
  have hfold : ∀ (texts : List (List Char)) n m,
      texts.foldl (fun n cs => n + (cs.length + 1) * (cs.length + 1)) (n + m) =
        texts.foldl (fun n cs => n + (cs.length + 1) * (cs.length + 1)) n + m := by
    intro texts
    induction texts with
    | nil => intro n m; rfl
    | cons first texts ih =>
      intro n m
      rw [List.foldl_cons, List.foldl_cons, Nat.add_right_comm, ih]
  exact hfold others 1 _

/-- Expands a text over a lookup whose answers are all among `values`. -/
def expand (x : Expander) (values : List (List Char)) (lookup : Lookup ε) (text : List Char) :
    Run ε (List Char) :=
  x.expandAt lookup (depthFor (text :: values)) [] text

end Expander

end LayeredConfig.Placeholder
