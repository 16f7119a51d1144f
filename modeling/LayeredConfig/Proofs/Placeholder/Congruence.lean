import LayeredConfig.Proofs.Placeholder.Layout

/-!
# Congruence — runs that are the same because their parts are

Two runs can be shown to be the same under a condition on the first one: that it does not fail in
some way, or asks for some keys only. If every run passes the condition on to its parts
(`Hereditary`), the parts can be compared one by one.
-/

namespace LayeredConfig.Placeholder

/-! ## 1. Runs -/

namespace Run

variable {ε α β : Type} {H : (α : Type) → Run ε α → Prop}

/-- A condition that a sequence of two runs passes on to both. -/
structure Hereditary (H : (α : Type) → Run ε α → Prop) : Prop where
  first : ∀ {α β : Type} {x : Run ε α} {f : α → Run ε β}, H β (x >>= f) → H α x
  second : ∀ {α β : Type} {x : Run ε α} {f : α → Run ε β} {a : α},
    x.outcome = .ok a → H β (x >>= f) → H β (f a)

/-- Under the condition the two runs are one. -/
def EqIf (H : (α : Type) → Run ε α → Prop) (x y : Run ε α) : Prop :=
  H α x → x = y

namespace EqIf

theorem refl (x : Run ε α) : EqIf H x x := fun _ => rfl

theorem bind (hH : Hereditary H) {x y : Run ε α} {f g : α → Run ε β} (hxy : EqIf H x y)
    (hfg : ∀ a, EqIf H (f a) (g a)) : EqIf H (x >>= f) (y >>= g) := by
  intro h
  obtain rfl := hxy (hH.first h)
  cases ha : x.outcome with
  | error e => rw [bind_of_error ha, bind_of_error ha]
  | ok a => rw [bind_of_ok ha, bind_of_ok ha, hfg a (hH.second ha h)]

theorem mapM (hH : Hereditary H) {f g : α → Run ε β} (hfg : ∀ a, EqIf H (f a) (g a))
    (o : Option α) : EqIf H (o.mapM f) (o.mapM g) := by
  cases o with
  | none => exact .refl _
  | some a =>
    rw [Option.mapM_some, Option.mapM_some, map_eq_pure_bind, map_eq_pure_bind]
    exact .bind hH (hfg a) fun _ => .refl _

end EqIf

end Run

/-! ## 2. Parts of an expansion -/

namespace Expander

variable {ε : Type} {H : (α : Type) → Run ε α → Prop} (hH : Run.Hereditary H) (x : Expander)

include hH

theorem read_eqIf {r s : List Char → Run ε (List Char × Option (List Char))}
    (h : ∀ body, Run.EqIf H (r body) (s body)) (text : List Char) (l : Layout) :
    Run.EqIf H (x.read r text l) (x.read s text l) := by
  induction l with
  | rest cs => exact .refl _
  | placeholder before body after ih =>
    rw [read, read]
    exact .bind hH (h body) fun _ => .bind hH (.refl _) fun _ => .bind hH ih fun _ => .refl _

theorem substitute_eqIf {lookup lookup' : Lookup ε} {f g : List Char → Run ε (List Char)}
    (hask : ∀ key, Run.EqIf H (Run.ask lookup key) (Run.ask lookup' key))
    (h : ∀ text, Run.EqIf H (f text) (g text)) (body : List Char) :
    Run.EqIf H (x.substitute lookup f body) (x.substitute lookup' g body) := by
  rw [substitute_eq, substitute_eq]
  exact .bind hH (h _) fun key => .bind hH (.mapM hH h _) fun _ =>
    .bind hH (hask key) fun _ => .bind hH (.mapM hH h _) fun _ => .refl _

end Expander

end LayeredConfig.Placeholder
