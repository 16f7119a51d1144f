import LayeredConfig.Action
import Mathlib.Order.Defs.Unbundled

/-!
# Effects — what an action does because its parts do

A sequence of actions goes from state to state as its parts do (`Respects`), and if each part has a
result that depends on no state and changes none then so has the sequence (`Gives`). If each part has
one result in all states of a kind and stays among them then so does the sequence (`Answers`). The errors of
a sequence are those of its parts (`FailsOnly`).
-/

namespace LayeredConfig.Action

variable {σ α β : Type} {x : Action σ α} {f : α → Action σ β}

theorem error_of_map {g : α → β} {r : Except Error α} {e : Error} (h : g <$> r = .error e) :
    r = .error e := by
  cases r with
  | ok a => contradiction
  | error => exact congrArg Except.error (Except.error.inj h)

theorem ok_of_map {g : α → β} {r : Except Error α} {b : β} (h : g <$> r = .ok b) :
    ∃ a, r = .ok a := by
  cases r with
  | ok a => exact ⟨a, rfl⟩
  | error => contradiction

theorem result_bind_pure (x : Action σ α) (g : α → β) (s : σ) :
    ((x >>= fun a => pure (g a)) s).result = g <$> (x s).result := by
  rw [result_bind]
  cases (x s).result with
  | ok a => rfl
  | error => rfl

/-- A function of a result adds no failure. -/
theorem error_of_bind_pure {g : α → β} {s : σ} {e : Error}
    (h : ((x >>= fun a => pure (g a)) s).result = .error e) : (x s).result = .error e :=
  error_of_map ((result_bind_pure x g s).symm.trans h)

/-- What only works on a result leaves the state and the events before it. -/
theorem bind_of_still {g : α → Except Error β} (hf : ∀ a s, f a s = ⟨s, [], g a⟩) (s : σ) :
    (x >>= f) s = ⟨(x s).state, (x s).events, (x s).result >>= g⟩ := by
  cases h : (x s).result with
  | ok a =>
    rw [bind_of_ok h, hf, List.append_nil]
    rfl
  | error e =>
    rw [bind_of_error h]
    rfl

/-! ## 1. Where the state goes -/

/-- Whatever its result, the action leads from a state to one that is related to it. -/
def Respects (R : σ → σ → Prop) (x : Action σ α) : Prop :=
  ∀ s, R s (x s).state

namespace Respects

variable {R : σ → σ → Prop}

theorem of_state_eq [Std.Refl R] (h : ∀ s, (x s).state = s) : x.Respects R := by
  intro s
  rw [h]
  exact refl_of R s

theorem bind [IsTrans σ R] (hx : x.Respects R) (hf : ∀ a, (f a).Respects R) :
    (x >>= f).Respects R := by
  intro s
  cases h : (x s).result with
  | ok a =>
    rw [bind_of_ok h]
    exact trans_of R (hx s) (hf a _)
  | error e =>
    rw [bind_of_error h]
    exact hx s

theorem handle [IsTrans σ R] {g : Error → Action σ α} (hx : x.Respects R)
    (hg : ∀ e, (g e).Respects R) : (x.handle g).Respects R := by
  intro s
  cases h : (x s).result with
  | ok a =>
    rw [handle_of_ok h]
    exact hx s
  | error e =>
    rw [handle_of_error h]
    exact trans_of R (hx s) (hg e _)

variable [Std.Refl R]

theorem pure (a : α) : (Pure.pure a : Action σ α).Respects R := .of_state_eq fun _ => rfl

theorem fail (e : Error) : (Action.fail e : Action σ α).Respects R := .of_state_eq fun _ => rfl

theorem ofExcept (r : Except Error α) : (Action.ofExcept r : Action σ α).Respects R :=
  .of_state_eq fun _ => rfl

theorem emit (events : List Event) : (Action.emit events : Action σ Unit).Respects R :=
  .of_state_eq fun _ => rfl

theorem read (g : σ → α) : (Action.read g).Respects R := .of_state_eq fun _ => rfl

theorem within {τ : Type} (t : τ) (x : Action τ α) : (Action.within t x : Action σ α).Respects R :=
  .of_state_eq fun _ => rfl

end Respects

/-! ## 2. Results that depend on no state -/

/-- The action leaves every state as it is, reports the same events in all of them, and has this
result. -/
def Gives (x : Action σ α) (a : α) : Prop :=
  ∃ events, ∀ s, x s = ⟨s, events, .ok a⟩

namespace Gives

variable {a : α} {b : β}

theorem result_eq (h : x.Gives a) (s : σ) : (x s).result = .ok a := by
  obtain ⟨events, hx⟩ := h
  rw [hx]

theorem state_eq (h : x.Gives a) (s : σ) : (x s).state = s := by
  obtain ⟨events, hx⟩ := h
  rw [hx]

theorem pure (a : α) : (Pure.pure a : Action σ α).Gives a := ⟨[], fun _ => rfl⟩

theorem emit (events : List Event) : (Action.emit events : Action σ Unit).Gives () :=
  ⟨events, fun _ => rfl⟩

theorem ofExcept (a : α) : (Action.ofExcept (.ok a) : Action σ α).Gives a := ⟨[], fun _ => rfl⟩

theorem within {τ : Type} {t t' : τ} {x : Action τ α} {events : List Event}
    (h : x t = ⟨t', events, .ok a⟩) : (Action.within t x : Action σ α).Gives a := by
  refine ⟨events, fun s => ?_⟩
  rw [Action.within, Action.onPart, h]

theorem bind (hx : x.Gives a) (hf : (f a).Gives b) : (x >>= f).Gives b := by
  obtain ⟨first, hx⟩ := hx
  obtain ⟨second, hf⟩ := hf
  refine ⟨first ++ second, fun s => ?_⟩
  have hresult : (x s).result = .ok a := by rw [hx]
  rw [bind_of_ok hresult, hx, hf]

theorem handle (hx : x.Gives a) (g : Error → Action σ α) : (x.handle g).Gives a := by
  obtain ⟨events, hx⟩ := hx
  refine ⟨events, fun s => ?_⟩
  have hresult : (x s).result = .ok a := by rw [hx]
  rw [handle_of_ok hresult, hx]

end Gives

/-! ## 3. Results in states of one kind -/

/-- In every state with `P` the action has the result `a`, and it leaves a state with `P`. -/
def Answers (P : σ → Prop) (x : Action σ α) (a : α) : Prop :=
  ∀ s, P s → (x s).result = .ok a ∧ P (x s).state

namespace Answers

variable {P : σ → Prop} {a : α} {b : β}

theorem pure (a : α) : (Pure.pure a : Action σ α).Answers P a := fun _ h => ⟨rfl, h⟩

theorem ofExcept {r : Except Error α} (h : r = .ok a) : (Action.ofExcept r : Action σ α).Answers P a :=
  fun _ hs => ⟨h, hs⟩

theorem bind (hx : x.Answers P a) (hf : (f a).Answers P b) : (x >>= f).Answers P b := by
  intro s hs
  obtain ⟨hresult, hstate⟩ := hx s hs
  rw [bind_of_ok hresult]
  exact hf _ hstate

end Answers

/-- From this state the action succeeds without a change, or fails in a state with `Q`. -/
def IdleOr (Q : σ → Prop) (s : σ) (x : Action σ α) : Prop :=
  ((∃ a, (x s).result = .ok a) ∧ (x s).state = s) ∨
    (∃ e, (x s).result = .error e) ∧ Q (x s).state

namespace IdleOr

variable {Q : σ → Prop} {s : σ}

theorem pure (a : α) : IdleOr Q s (Pure.pure a : Action σ α) := .inl ⟨⟨a, rfl⟩, rfl⟩

theorem bind (hx : IdleOr Q s x) (hf : ∀ a, IdleOr Q s (f a)) : IdleOr Q s (x >>= f) := by
  rcases hx with ⟨⟨a, hresult⟩, hstate⟩ | ⟨⟨e, hresult⟩, hfailed⟩
  · rw [IdleOr, bind_of_ok hresult, hstate]
    exact hf a
  · rw [IdleOr, bind_of_error hresult]
    exact .inr ⟨⟨e, rfl⟩, hfailed⟩

theorem of_error {e : Error} (h : IdleOr Q s x) (hresult : (x s).result = .error e) :
    Q (x s).state := by
  rcases h with ⟨⟨a, hok⟩, -⟩ | ⟨-, hfailed⟩
  · rw [hok] at hresult
    contradiction
  · exact hfailed

end IdleOr

/-! ## 4. Failures of one kind -/

/-- Whatever the state, all errors of the action are of a kind. -/
def FailsOnly (P : Error → Prop) (x : Action σ α) : Prop :=
  ∀ s e, (x s).result = .error e → P e

namespace FailsOnly

variable {P Q : Error → Prop}

theorem mono (h : x.FailsOnly Q) (hPQ : ∀ e, Q e → P e) : x.FailsOnly P :=
  fun s e hresult => hPQ e (h s e hresult)

theorem of_gives {a : α} (h : x.Gives a) : x.FailsOnly P := by
  intro s e hresult
  rw [h.result_eq s] at hresult
  contradiction

theorem pure (a : α) : (Pure.pure a : Action σ α).FailsOnly P := nofun

theorem emit (events : List Event) : (Action.emit events : Action σ Unit).FailsOnly P := nofun

theorem fail {e : Error} (h : P e) : (Action.fail e : Action σ α).FailsOnly P :=
  fun _ _ hresult => Except.error.inj hresult ▸ h

theorem ofExcept {r : Except Error α} (h : ∀ e, r = .error e → P e) :
    (Action.ofExcept r : Action σ α).FailsOnly P :=
  fun _ e hresult => h e hresult

theorem bind (hx : x.FailsOnly P) (hf : ∀ a, (f a).FailsOnly P) : (x >>= f).FailsOnly P := by
  intro s e h
  cases hresult : (x s).result with
  | ok a =>
    rw [bind_of_ok hresult] at h
    exact hf a _ e h
  | error e' =>
    rw [bind_of_error hresult] at h
    exact Except.error.inj h ▸ hx s e' hresult

/-- The rest has the value of the result to go by. -/
theorem ofExcept_bind {r : Except Error β} {g : β → Action σ α} (hr : ∀ e, r = .error e → P e)
    (hg : ∀ b, r = .ok b → (g b).FailsOnly P) : (Action.ofExcept r >>= g).FailsOnly P := by
  cases r with
  | ok b => exact fun s => hg b rfl s
  | error e => exact fun _ _ h => Except.error.inj h ▸ hr e rfl

/-- What is caught is not among the errors any more, unless it is raised again. -/
theorem handle {g : Error → Action σ α} (hx : x.FailsOnly Q)
    (hg : ∀ e, Q e → (g e).FailsOnly P) : (x.handle g).FailsOnly P := by
  intro s e h
  cases hresult : (x s).result with
  | ok a =>
    rw [handle_of_ok hresult, hresult] at h
    contradiction
  | error e' =>
    rw [handle_of_error hresult] at h
    exact hg e' (hx s e' hresult) _ e h

end FailsOnly

end LayeredConfig.Action
