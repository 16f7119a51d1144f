import LayeredConfig.Event

/-!
# Actions — operations that change a state and report events

An action may fail, and a failed action keeps the changes and events that came before the failure.
-/

namespace LayeredConfig

/-- What is left after an action: the state, what was reported, and the result. -/
structure Outcome (σ α : Type) where
  state : σ
  events : List Event
  result : Except Error α

/-- An operation on a state. -/
def Action (σ α : Type) : Type := σ → Outcome σ α

namespace Action

variable {σ τ α β : Type}

protected def pure (a : α) : Action σ α := fun s => ⟨s, [], .ok a⟩

protected def bind (x : Action σ α) (f : α → Action σ β) : Action σ β := fun s =>
  let first := x s
  match first.result with
  | .ok a =>
    let second := f a first.state
    ⟨second.state, first.events ++ second.events, second.result⟩
  | .error e => ⟨first.state, first.events, .error e⟩

instance : Monad (Action σ) where
  pure := Action.pure
  bind := Action.bind

/-- Fails without a change. -/
def fail (e : Error) : Action σ α := fun s => ⟨s, [], .error e⟩

/-- Gives what a computation without state gives. -/
def ofExcept (x : Except Error α) : Action σ α := fun s => ⟨s, [], x⟩

/-- Reports events. -/
def emit (events : List Event) : Action σ Unit := fun s => ⟨s, events, .ok ()⟩

/-- A function of the state. -/
def read (f : σ → α) : Action σ α := fun s => ⟨s, [], .ok (f s)⟩

/-- Changes the state. -/
def modify (f : σ → σ) : Action σ Unit := fun s => ⟨f s, [], .ok ()⟩

/-- Works on a part of the state. -/
def onPart (part : σ → τ) (put : τ → σ → σ) (x : Action τ α) : Action σ α := fun s =>
  let inner := x (part s)
  ⟨put inner.state s, inner.events, inner.result⟩

/-- Works on a state of its own. -/
def within (state : τ) (x : Action τ α) : Action σ α :=
  onPart (fun _ => state) (fun _ s => s) x

/-- Goes on after a failure as a function of the error says. -/
def handle (x : Action σ α) (f : Error → Action σ α) : Action σ α := fun s =>
  let first := x s
  match first.result with
  | .ok a => ⟨first.state, first.events, .ok a⟩
  | .error e =>
    let second := f e first.state
    ⟨second.state, first.events ++ second.events, second.result⟩

/-! ## Laws -/

section Laws

variable {x : Action σ α} {f : α → Action σ β} {s : σ}

theorem bind_of_ok {a : α} (h : (x s).result = .ok a) :
    (x >>= f) s =
      ⟨(f a (x s).state).state, (x s).events ++ (f a (x s).state).events,
        (f a (x s).state).result⟩ := by
  show Action.bind x f s = _
  rw [Action.bind, h]

theorem bind_of_error {e : Error} (h : (x s).result = .error e) :
    (x >>= f) s = ⟨(x s).state, (x s).events, .error e⟩ := by
  show Action.bind x f s = _
  rw [Action.bind, h]

theorem state_bind_pure (g : α → β) :
    ((x >>= fun a => pure (g a)) s).state = (x s).state := by
  cases h : (x s).result with
  | ok a => rw [bind_of_ok h]; rfl
  | error e => rw [bind_of_error h]

theorem result_bind : ((x >>= f) s).result =
    (x s).result >>= fun a => (f a (x s).state).result := by
  cases h : (x s).result with
  | ok a => rw [bind_of_ok h]; rfl
  | error e => rw [bind_of_error h]; rfl

/-- Two sequences that go on alike do the same from a state where their first parts do. -/
theorem bind_eq_of_eq {y : Action σ α} (h : x s = y s) : (x >>= f) s = (y >>= f) s := by
  show Action.bind x f s = Action.bind y f s
  rw [Action.bind, Action.bind, h]

theorem handle_of_ok {a : α} (h : (x s).result = .ok a) (g : Error → Action σ α) :
    x.handle g s = x s := by
  simp only [Action.handle, h]
  rw [← h]

theorem handle_of_error {e : Error} (h : (x s).result = .error e) (g : Error → Action σ α) :
    x.handle g s =
      ⟨(g e (x s).state).state, (x s).events ++ (g e (x s).state).events,
        (g e (x s).state).result⟩ := by
  simp only [Action.handle, h]

theorem ok_of_bind {b : β} (h : ((x >>= f) s).result = .ok b) :
    ∃ a, (x s).result = .ok a ∧ (f a (x s).state).result = .ok b := by
  rw [result_bind] at h
  cases hx : (x s).result with
  | error e =>
    rw [hx] at h
    contradiction
  | ok a =>
    rw [hx] at h
    exact ⟨a, rfl, h⟩

theorem ofExcept_apply (r : Except Error α) : (ofExcept r : Action σ α) s = ⟨s, [], r⟩ := rfl

theorem result_ofExcept (r : Except Error α) : ((ofExcept r : Action σ α) s).result = r := rfl

theorem read_bind (g : σ → α) : (read g >>= f) s = f (g s) s := rfl

theorem ofExcept_ok_bind (a : α) : (ofExcept (.ok a) >>= f) s = f a s := rfl

theorem emit_bind (events : List Event) (g : Unit → Action σ β) :
    (emit events >>= g) s = ⟨(g () s).state, events ++ (g () s).events, (g () s).result⟩ := rfl

theorem emit_bind_ofExcept (events : List Event) (r : Except Error α) :
    (emit events >>= fun _ => ofExcept r : Action σ α) s = ⟨s, events, r⟩ := by
  rw [emit_bind, ofExcept_apply, List.append_nil]

end Laws

protected theorem id_map (x : Action σ α) : id <$> x = x := by
  funext s
  show Action.bind x (fun a => Action.pure (id a)) s = x s
  unfold Action.bind Action.pure
  cases x s with
  | mk state events result => cases result <;> simp

protected theorem bind_assoc {γ : Type} (x : Action σ α) (f : α → Action σ β)
    (g : β → Action σ γ) : x >>= f >>= g = x >>= fun a => f a >>= g := by
  funext s
  cases hx : (x s).result with
  | error e =>
    have hfirst : ((x >>= f) s).result = .error e := by rw [bind_of_error hx]
    rw [bind_of_error hfirst, bind_of_error hx, bind_of_error hx]
  | ok a =>
    rw [bind_of_ok hx]
    cases hf : (f a (x s).state).result with
    | error e =>
      have hfirst : ((x >>= f) s).result = .error e := by rw [bind_of_ok hx, hf]
      rw [bind_of_error hfirst, bind_of_ok hx, bind_of_error hf]
    | ok b =>
      have hfirst : ((x >>= f) s).result = .ok b := by rw [bind_of_ok hx, hf]
      rw [bind_of_ok hfirst, bind_of_ok hx, bind_of_ok hf, List.append_assoc]

instance : LawfulMonad (Action σ) :=
  LawfulMonad.mk' (Action σ) Action.id_map (fun _ _ => rfl) Action.bind_assoc

end Action

end LayeredConfig
