/-!
# Runs of an expansion — the steps taken and how they ended

An expansion asks for keys, and each answer decides what is asked next. A run keeps the steps in
order, those before a failure included.
-/

namespace LayeredConfig.Placeholder

/-- A key is asked for, or a placeholder is replaced by what its key stands for. -/
inductive Step where
  | asked (key : List Char)
  | resolved (key : List Char)
  deriving DecidableEq, Repr

/-- Why an expansion fails; `ε` is how a lookup fails. -/
inductive Failure (ε : Type) where
  | unresolved (key text : List Char)
  | circular (body : List Char)
  | lookup (error : ε)
  | exhausted
  deriving DecidableEq, Repr

/-- The steps of a computation and its outcome. -/
structure Run (ε α : Type) where
  steps : List Step
  outcome : Except (Failure ε) α

namespace Run

variable {ε α β : Type}

protected def pure (a : α) : Run ε α := ⟨[], .ok a⟩

protected def bind (x : Run ε α) (f : α → Run ε β) : Run ε β :=
  match x.outcome with
  | .ok a => ⟨x.steps ++ (f a).steps, (f a).outcome⟩
  | .error e => ⟨x.steps, .error e⟩

instance : Monad (Run ε) where
  pure := Run.pure
  bind := Run.bind

/-- A run that fails at once. -/
def fail (failure : Failure ε) : Run ε α := ⟨[], .error failure⟩

/-- A run of a single step. -/
def step (s : Step) : Run ε Unit := ⟨[s], .ok ()⟩

/-- Asks a lookup for a key. -/
def ask (lookup : List Char → Except ε (Option (List Char))) (key : List Char) :
    Run ε (Option (List Char)) where
  steps := [.asked key]
  outcome := (lookup key).mapError .lookup

/-- The keys asked for, in order. -/
def asked (x : Run ε α) : List (List Char) :=
  x.steps.filterMap fun
    | .asked key => some key
    | .resolved _ => none

/-! ## Laws -/

theorem bind_of_ok {x : Run ε α} {f : α → Run ε β} {a : α} (h : x.outcome = .ok a) :
    x >>= f = ⟨x.steps ++ (f a).steps, (f a).outcome⟩ := by
  show Run.bind x f = _
  rw [Run.bind, h]

theorem bind_of_error {x : Run ε α} {f : α → Run ε β} {e : Failure ε}
    (h : x.outcome = .error e) : x >>= f = ⟨x.steps, .error e⟩ := by
  show Run.bind x f = _
  rw [Run.bind, h]

protected theorem id_map (x : Run ε α) : id <$> x = x := by
  obtain ⟨steps, outcome⟩ := x
  cases outcome <;> simp [Functor.map, Run.bind, Run.pure]

protected theorem pure_bind (a : α) (f : α → Run ε β) : pure a >>= f = f a := by
  simp only [bind, pure, Run.bind, Run.pure, List.nil_append]

protected theorem bind_assoc {γ : Type} (x : Run ε α) (f : α → Run ε β) (g : β → Run ε γ) :
    x >>= f >>= g = x >>= fun a => f a >>= g := by
  obtain ⟨steps, outcome⟩ := x
  cases outcome with
  | error e => rfl
  | ok a =>
    simp only [bind, Run.bind]
    cases (f a).outcome <;> simp

instance : LawfulMonad (Run ε) :=
  LawfulMonad.mk' (Run ε) Run.id_map Run.pure_bind Run.bind_assoc

@[simp] theorem outcome_pure (a : α) : (pure a : Run ε α).outcome = .ok a := rfl

@[simp] theorem outcome_fail (failure : Failure ε) :
    (Run.fail failure : Run ε α).outcome = .error failure := rfl

@[simp] theorem outcome_step (s : Step) : (Run.step s : Run ε Unit).outcome = .ok () := rfl

@[simp] theorem outcome_ask (lookup : List Char → Except ε (Option (List Char)))
    (key : List Char) : (Run.ask lookup key).outcome = (lookup key).mapError .lookup := rfl

theorem lookup_of_outcome_ask {lookup : List Char → Except ε (Option (List Char))}
    {key : List Char} {value : Option (List Char)} (h : (Run.ask lookup key).outcome = .ok value) :
    lookup key = .ok value := by
  rw [outcome_ask] at h
  cases hkey : lookup key with
  | error e => rw [hkey] at h; contradiction
  | ok found =>
    rw [hkey] at h
    exact congrArg Except.ok (Except.ok.inj h)

@[simp] theorem outcome_bind (x : Run ε α) (f : α → Run ε β) :
    (x >>= f).outcome = x.outcome >>= fun a => (f a).outcome := by
  cases h : x.outcome with
  | ok a => rw [bind_of_ok h]; rfl
  | error e => rw [bind_of_error h]; rfl

/-- A sequence of two parts ends as its first part if that fails, and else as its second. -/
theorem except_bind_cases {φ : Type} {x : Except φ α} {f : α → Except φ β} {o : Except φ β}
    (h : x >>= f = o) :
    (∃ e, x = .error e ∧ o = .error e) ∨ ∃ a, x = .ok a ∧ f a = o := by
  cases x with
  | error e => exact .inl ⟨e, rfl, h.symm⟩
  | ok a => exact .inr ⟨a, rfl, h⟩

theorem outcome_bind_cases {x : Run ε α} {f : α → Run ε β} {o : Except (Failure ε) β}
    (h : (x >>= f).outcome = o) :
    (∃ e, x.outcome = .error e ∧ o = .error e) ∨ ∃ a, x.outcome = .ok a ∧ (f a).outcome = o := by
  rw [outcome_bind] at h
  exact except_bind_cases h

@[simp] theorem outcome_map (f : α → β) (x : Run ε α) :
    (f <$> x).outcome = f <$> x.outcome := by
  rw [map_eq_pure_bind, outcome_bind]
  cases x.outcome <;> rfl

@[simp] theorem fail_bind (failure : Failure ε) (f : α → Run ε β) :
    Run.fail failure >>= f = Run.fail failure := rfl

end Run

end LayeredConfig.Placeholder
