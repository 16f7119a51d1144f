import LayeredConfig.Proofs.Placeholder.Congruence

/-!
# Failures — which of them a run can have

What holds of every failure of the parts of a run holds of every failure of the run. So a fact
about failures needs a proof only where an expansion fails by itself: at a body that is active, at
a placeholder without a value, and in the lookup. In the same way two runs are equal up to a
kind of failure if their parts are.
-/

namespace LayeredConfig.Placeholder

/-! ## 1. Runs -/

namespace Run

variable {ε α β : Type} {P : Failure ε → Prop}

/-- If the run fails then `P` holds of the failure. -/
def FailsOnly (x : Run ε α) (P : Failure ε → Prop) : Prop :=
  ∀ failure, x.outcome = .error failure → P failure

namespace FailsOnly

theorem of_ok {x : Run ε α} (result : α) (h : x.outcome = .ok result) : x.FailsOnly P := by
  intro failure hfailure
  rw [h] at hfailure
  contradiction

theorem of_error {x : Run ε α} {failure : Failure ε} (h : x.outcome = .error failure)
    (hP : P failure) : x.FailsOnly P := by
  intro other hother
  rw [h] at hother
  obtain rfl := Except.error.inj hother
  exact hP

theorem bind {x : Run ε α} {f : α → Run ε β} (hx : x.FailsOnly P)
    (hf : ∀ a, x.outcome = .ok a → (f a).FailsOnly P) : (x >>= f).FailsOnly P := by
  intro failure h
  rcases outcome_bind_cases h with ⟨e, he, heq⟩ | ⟨a, ha, h⟩
  · obtain rfl := Except.error.inj heq
    exact hx failure he
  · exact hf a ha failure h

theorem mapM {f : α → Run ε β} {o : Option α} (hf : ∀ a ∈ o, (f a).FailsOnly P) :
    (o.mapM f).FailsOnly P := by
  cases o with
  | none => exact of_ok none rfl
  | some a =>
    rw [Option.mapM_some, map_eq_pure_bind]
    exact (hf a rfl).bind fun b _ => of_ok (some b) rfl

theorem ask {lookup : Lookup ε} {key : List Char}
    (h : ∀ error, lookup key = .error error → P (.lookup error)) :
    (Run.ask lookup key).FailsOnly P := by
  cases hkey : lookup key with
  | ok value => exact of_ok value (by rw [outcome_ask, hkey]; rfl)
  | error error => exact of_error (by rw [outcome_ask, hkey]; rfl) (h error hkey)

end FailsOnly

/-- A failure of a part is one of the whole. -/
theorem failsOnly_hereditary : Hereditary fun _ (x : Run ε _) => x.FailsOnly P where
  first h failure hfailure := by
    apply h failure
    rw [bind_of_error hfailure]
  second ha h failure hfailure := by
    apply h failure
    rw [bind_of_ok ha]
    exact hfailure

/-- The run `x` is `y`, or it failed in a way that `P` tells of. -/
def EqUnless (P : Failure ε → Prop) (x y : Run ε α) : Prop :=
  x.FailsOnly (¬P ·) → x = y

namespace EqUnless

theorem refl (x : Run ε α) : x.EqUnless P x := fun _ => rfl

theorem trans {x y z : Run ε α} (hxy : x.EqUnless P y) (hyz : y.EqUnless P z) :
    x.EqUnless P z := by
  intro h
  obtain rfl := hxy h
  exact hyz h

theorem of_failed {x : Run ε α} {failure : Failure ε} (h : x.outcome = .error failure)
    (hP : P failure) (y : Run ε α) : x.EqUnless P y :=
  fun hx => absurd hP (hx failure h)

end EqUnless

end Run

/-! ## 2. Parts of an expansion -/

namespace Layout

/-- The bodies of a layout. -/
def bodies : Layout → List (List Char)
  | .rest _ => []
  | .placeholder _ body after => body :: after.bodies

theorem infix_of_mem_bodies {d : Delimiters} {cs body : List Char}
    (h : body ∈ (ofText d cs).bodies) : body <:+: cs := by
  fun_induction ofText d cs with
  | case1 cs hfirst => contradiction
  | case2 cs before first after hfirst ih =>
    have hcs := Delimiters.eq_append_of_first? hfirst
    rcases List.mem_cons.1 h with rfl | h
    · refine ⟨before ++ d.opening, d.closing ++ after, ?_⟩
      rw [hcs, Delimiters.written]
      simp only [List.append_assoc]
    · refine (ih h).trans ⟨before ++ d.written first, [], ?_⟩
      rw [List.append_nil, ← hcs]

end Layout

namespace Expander

variable {ε : Type} {x : Expander} {lookup : Lookup ε} {P : Failure ε → Prop}

theorem failsOnly_fill {text body key : List Char} (replacement : Option (List Char))
    (hstrict : x.lenient = false → P (.unresolved key text)) :
    (x.fill text body key replacement).FailsOnly P := by
  unfold fill
  cases replacement with
  | some new => exact .of_ok new rfl
  | none =>
    show (if x.lenient then _ else _ : Run ε _).FailsOnly P
    by_cases hmode : x.lenient = true
    · rw [if_pos hmode]
      exact .of_ok _ rfl
    · rw [if_neg hmode]
      exact .of_error rfl (hstrict (Bool.not_eq_true _ ▸ hmode))

theorem failsOnly_read {resolve : List Char → Run ε (List Char × Option (List Char))}
    {text : List Char} {l : Layout} (hstrict : x.lenient = false → ∀ key, P (.unresolved key text))
    (h : ∀ body ∈ l.bodies, (resolve body).FailsOnly P) :
    (x.read resolve text l).FailsOnly P := by
  induction l with
  | rest cs => exact .of_ok cs rfl
  | placeholder before body after ih =>
    rw [read]
    have hafter := ih fun other hother => h other (List.mem_cons_of_mem body hother)
    exact (h body List.mem_cons_self).bind fun _ _ =>
      (failsOnly_fill _ fun hmode => hstrict hmode _).bind fun _ _ =>
        hafter.bind fun _ _ => .of_ok _ rfl

theorem failsOnly_substitute {inner : List Char → Run ε (List Char)} {body : List Char}
    (hlookup : ∀ key error, lookup key = .error error → P (.lookup error))
    (hparts : ∀ part, part <:+: body → (inner part).FailsOnly P)
    (hvalues : ∀ key value, lookup key = .ok (some value) → (inner value).FailsOnly P) :
    (x.substitute lookup inner body).FailsOnly P := by
  rw [substitute_eq]
  refine (hparts _ (x.delimiters.key_infix_body body)).bind fun key _ => ?_
  refine (Run.FailsOnly.mapM fun default hdefault => hparts _ ?_).bind fun default _ => ?_
  · exact Delimiters.default_infix_body hdefault
  -- The value that is expanded is one that the lookup gave.
  refine (Run.FailsOnly.ask (hlookup key)).bind fun value hvalue => ?_
  refine (Run.FailsOnly.mapM fun found hfound => hvalues key found ?_).bind fun _ _ => .of_ok _ rfl
  rw [Run.lookup_of_outcome_ask hvalue, Option.mem_def.1 hfound]

theorem read_eqUnless (x : Expander) {r s : List Char → Run ε (List Char × Option (List Char))}
    (h : ∀ body, (r body).EqUnless P (s body)) (text : List Char) (l : Layout) :
    (x.read r text l).EqUnless P (x.read s text l) :=
  read_eqIf Run.failsOnly_hereditary x h text l

theorem substitute_eqUnless (x : Expander) (lookup : Lookup ε)
    {f g : List Char → Run ε (List Char)} (h : ∀ text, (f text).EqUnless P (g text))
    (body : List Char) :
    (x.substitute lookup f body).EqUnless P (x.substitute lookup g body) :=
  substitute_eqIf Run.failsOnly_hereditary x (fun _ => .refl _) h body

end Expander

end LayeredConfig.Placeholder
