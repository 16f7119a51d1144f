import LayeredConfig.Proofs.Placeholder.Termination

/-!
# Leniency — what a strict and a lenient expansion have in common

A strict run and a lenient run over one lookup take the same steps until the strict one fails on a
key that has no value, and if it never does they are the same run (`strict_and_lenient_agree`). What
a lenient run leaves in the text can change the keys it asks for later, but not the ones before.
-/

namespace LayeredConfig.Placeholder

/-! ## 1. Runs that go on where others stop -/

section Steps

variable {ε : Type} {lookup : Lookup ε} {key : List Char} {steps : List Step}

/-- The last step asks for a key that has no value. -/
def AskedInVain (lookup : Lookup ε) (key : List Char) (steps : List Step) : Prop :=
  steps.getLast? = some (.asked key) ∧ lookup key = .ok none

theorem AskedInVain.append_left (h : AskedInVain lookup key steps) (before : List Step) :
    AskedInVain lookup key (before ++ steps) := by
  obtain ⟨hlast, hnone⟩ := h
  refine ⟨?_, hnone⟩
  rw [List.getLast?_append, hlast, Option.some_or]

end Steps

namespace Run

variable {ε α β : Type} {lookup : Lookup ε} {before : List Step}

/-- After the steps `before`, the run `y` is the run `x`, or it goes on where `x` stopped: at a key
without a value, right after asking for it. -/
inductive Continues (lookup : Lookup ε) (before : List Step) (x y : Run ε α) : Prop
  | same (h : x = y)
  | stopped {key text : List Char} (hfails : x.outcome = .error (.unresolved key text))
    (hasked : AskedInVain lookup key (before ++ x.steps)) (hsteps : x.steps <+: y.steps)

namespace Continues

theorem refl (x : Run ε α) : x.Continues lookup before x := .same rfl

theorem bind {x y : Run ε α} {f g : α → Run ε β} (hxy : x.Continues lookup before y)
    (hfg : ∀ a, x.outcome = .ok a → (f a).Continues lookup (before ++ x.steps) (g a)) :
    (x >>= f).Continues lookup before (y >>= g) := by
  rcases hxy with rfl | ⟨hfails, hasked, hsteps⟩
  · cases ha : x.outcome with
    | error e =>
      rw [bind_of_error ha, bind_of_error ha]
      exact .refl _
    | ok a =>
      -- The first parts are one run, so what matters is where the second parts part.
      rw [bind_of_ok ha, bind_of_ok ha]
      rcases hfg a ha with hsame | ⟨hfails, hasked, hsteps⟩
      · rw [hsame]
        exact .refl _
      · refine .stopped hfails ?_ ?_
        · rwa [← List.append_assoc]
        · exact List.prefix_append_right_inj _ |>.2 hsteps
  · -- The first run stopped in its first part, and the second one has done as many steps there.
    rw [bind_of_error hfails]
    refine .stopped rfl hasked (hsteps.trans ?_)
    cases hy : y.outcome with
    | error e =>
      rw [bind_of_error hy]
    | ok a =>
      rw [bind_of_ok hy]
      exact List.prefix_append _ _

theorem mapM {f g : α → Run ε β} (hfg : ∀ a, (f a).Continues lookup before (g a))
    (o : Option α) : (o.mapM f).Continues lookup before (o.mapM g) := by
  cases o with
  | none => exact .refl _
  | some a =>
    rw [Option.mapM_some, Option.mapM_some, map_eq_pure_bind, map_eq_pure_bind]
    exact (hfg a).bind fun _ _ => .refl _

end Continues

end Run

/-! ## 2. Expansions -/

namespace Expander

variable {ε : Type} {lookup : Lookup ε}

/-- A body that comes to nothing has just asked for its key, after its parts were expanded. -/
theorem askedInVain_of_substitute {x : Expander} {inner : List Char → Run ε (List Char)}
    {body key : List Char} (h : (x.substitute lookup inner body).outcome = .ok (key, none)) :
    AskedInVain lookup key (x.substitute lookup inner body).steps := by
  rw [substitute_eq] at h ⊢
  rcases Run.outcome_bind_cases h with ⟨_, _, h⟩ | ⟨name, hname, h⟩
  · contradiction
  rw [Run.bind_of_ok hname]
  apply AskedInVain.append_left
  rcases Run.outcome_bind_cases h with ⟨_, _, h⟩ | ⟨default, hdefault, h⟩
  · contradiction
  rw [Run.bind_of_ok hdefault]
  apply AskedInVain.append_left
  rcases Run.outcome_bind_cases h with ⟨_, _, h⟩ | ⟨value, hvalue, h⟩
  · contradiction
  rw [Run.bind_of_ok hvalue]
  cases value with
  | none =>
    -- There is no value to expand, so asking was the last step.
    obtain ⟨rfl, -⟩ : name = key ∧ default = none := by simpa using h
    exact ⟨rfl, Run.lookup_of_outcome_ask hvalue⟩
  | some value =>
    rw [Option.mapM_some, map_eq_pure_bind, bind_assoc] at h
    rcases Run.outcome_bind_cases h with ⟨_, _, h⟩ | ⟨found, _, h⟩
    · contradiction
    · simp at h

variable {d : Delimiters} {before : List Step}

theorem fill_continues {text body key : List Char} (replacement : Option (List Char))
    (hasked : replacement = none → AskedInVain lookup key before) :
    (fill ⟨d, false⟩ text body key replacement : Run ε _).Continues lookup before
      (fill ⟨d, true⟩ text body key replacement) := by
  cases replacement with
  | some new => exact .refl _
  | none =>
    refine .stopped rfl ?_ List.nil_prefix
    show AskedInVain lookup key (before ++ [])
    rw [List.append_nil]
    exact hasked rfl

theorem read_continues {r s : List Char → Run ε (List Char × Option (List Char))}
    (h : ∀ before body, (r body).Continues lookup before (s body))
    (hasked : ∀ body key, (r body).outcome = .ok (key, none) →
      AskedInVain lookup key (r body).steps)
    (text : List Char) (l : Layout) :
    (read ⟨d, false⟩ r text l).Continues lookup before (read ⟨d, true⟩ s text l) := by
  induction l generalizing before with
  | rest cs => exact .refl _
  | placeholder front body after ih =>
    rw [read, read]
    refine (h before body).bind fun settled hsettled => ?_
    rcases settled with ⟨key, replacement⟩
    refine (fill_continues replacement fun hnone => ?_).bind fun _ _ => ih.bind fun _ _ => .refl _
    exact (hasked body key (hnone ▸ hsettled)).append_left before

theorem substitute_continues {f g : List Char → Run ε (List Char)}
    (h : ∀ before text, (f text).Continues lookup before (g text)) (body : List Char) :
    (substitute ⟨d, false⟩ lookup f body).Continues lookup before
      (substitute ⟨d, true⟩ lookup g body) := by
  rw [substitute_eq, substitute_eq]
  exact (h _ _).bind fun _ _ => (Run.Continues.mapM (h _) _).bind fun _ _ =>
    Run.Continues.bind (.refl _) fun _ _ => (Run.Continues.mapM (h _) _).bind fun _ _ => .refl _

theorem expandAt_continues (depth : Nat) (active : List (List Char)) (text : List Char) :
    (expandAt ⟨d, false⟩ lookup depth active text).Continues lookup before
      (expandAt ⟨d, true⟩ lookup depth active text) := by
  -- On the depth, for all steps before: a part of a body is expanded with the body active.
  induction depth generalizing active text before with
  | zero => exact .refl _
  | succ depth ih =>
    rw [expandAt_succ, expandAt_succ]
    refine read_continues (fun before body => ?_) (fun body key hnone => ?_) text _
    · by_cases hmem : body ∈ active
      -- A circular body fails the strict and the lenient run alike.
      · rw [settle_of_mem hmem, settle_of_mem hmem]
        exact .refl _
      · rw [settle_of_notMem hmem, settle_of_notMem hmem]
        exact substitute_continues (fun _ => ih (body :: active)) body
    · by_cases hmem : body ∈ active
      · rw [settle_of_mem hmem] at hnone
        contradiction
      · rw [settle_of_notMem hmem] at hnone ⊢
        exact askedInVain_of_substitute hnone

/-- A lenient expansion leaves a placeholder without a value as it is. -/
theorem lenient_failsOnly (depth : Nat) (active : List (List Char)) (text : List Char) :
    (expandAt ⟨d, true⟩ lookup depth active text).FailsOnly
      (∀ key whole, · ≠ .unresolved key whole) := by
  induction depth generalizing active text with
  | zero => exact .of_error rfl fun _ _ h => nomatch h
  | succ depth ih =>
    rw [expandAt_succ]
    refine failsOnly_read (fun hstrict => nomatch hstrict) fun body _ => ?_
    by_cases hmem : body ∈ active
    · rw [settle_of_mem hmem]
      exact .of_error rfl fun _ _ h => nomatch h
    · rw [settle_of_notMem hmem]
      exact failsOnly_substitute (fun _ _ _ _ _ h => nomatch h) (fun part _ => ih _ part)
        fun _ value _ => ih _ value

end Expander

/-! ## 3. Agreement -/

namespace Run

variable {ε α : Type} {lookup : Lookup ε}

/-- How the strict and the lenient run of one expansion go together: they are the same run if the
strict one has a result or finds a circular body, and if it fails for want of a value then the key
without one is the last it asked for, and the lenient run asks for the same keys up to there. -/
structure Agrees (lookup : Lookup ε) (strict lenient : Run ε α) : Prop where
  of_ok : ∀ result, strict.outcome = .ok result → lenient = strict
  of_circular : ∀ body, strict.outcome = .error (.circular body) → lenient = strict
  of_unresolved : ∀ key whole, strict.outcome = .error (.unresolved key whole) →
    strict.asked.getLast? = some key ∧ lookup key = .ok none ∧ strict.asked <+: lenient.asked
  ne_unresolved : ∀ key whole, lenient.outcome ≠ .error (.unresolved key whole)

theorem Continues.agrees {strict lenient : Run ε α} (h : strict.Continues lookup [] lenient)
    (hlenient : lenient.FailsOnly (∀ key whole, · ≠ .unresolved key whole)) :
    Agrees lookup strict lenient := by
  have hne : ∀ key whole, lenient.outcome ≠ .error (.unresolved key whole) :=
    fun key whole hfails => hlenient _ hfails key whole rfl
  rcases h with rfl | @⟨key, whole, hfails, ⟨hlast, hnone⟩, hsteps⟩
  · exact ⟨fun _ _ => rfl, fun _ _ => rfl, fun key whole hfails => absurd hfails (hne key whole),
      hne⟩
  · refine ⟨fun _ h => ?_, fun _ h => ?_, fun key' whole' h => ?_, hne⟩
    · rw [hfails] at h
      cases h
    · rw [hfails] at h
      cases h
    -- The step asked last is the last of all keys asked for.
    · rw [hfails] at h
      obtain ⟨rfl, -⟩ : key = key' ∧ whole = whole' := by simpa using h
      refine ⟨?_, hnone, hsteps.filterMap _⟩
      obtain ⟨earlier, hearlier⟩ := List.getLast?_eq_some_iff.1 hlast
      rw [List.nil_append] at hearlier
      rw [asked, hearlier, List.filterMap_append]
      simp

end Run

namespace Expander

variable {ε : Type}

/-- **Agreement.** With any delimiters, over any lookup and however deep, the strict and the lenient
expansion of a text agree wherever the strict one succeeds, and up to the key that it fails on. -/
theorem strict_and_lenient_agree (d : Delimiters) (lookup : Lookup ε) (text : List Char) :
    (∀ depth, Run.Agrees lookup (expandAt ⟨d, false⟩ lookup depth [] text)
      (expandAt ⟨d, true⟩ lookup depth [] text)) ∧
      ∀ values, Run.Agrees lookup (expand ⟨d, false⟩ values lookup text)
        (expand ⟨d, true⟩ values lookup text) := by
  have hdepth : ∀ depth, Run.Agrees lookup (expandAt ⟨d, false⟩ lookup depth [] text)
      (expandAt ⟨d, true⟩ lookup depth [] text) := fun depth =>
    (expandAt_continues depth [] text).agrees (lenient_failsOnly depth [] text)
  exact ⟨hdepth, fun values => hdepth _⟩

/-- `${b}${x${n}}`. -/
def halfKnown : List Char := "$\x7bb\x7d$\x7bx$\x7bn\x7d\x7d".toList

/-- Where the strict run stops, the lenient one goes on with a key that has a placeholder in it. -/
theorem strict_and_lenient_agree_halfKnown :
    (expandAt ⟨.standard, false⟩ ring 3 [] halfKnown).outcome =
        .error (.unresolved ['n'] "x$\x7bn\x7d".toList) ∧
      ring ['n'] = .ok none ∧
      [['b'], ['n']] <+: (expandAt ⟨.standard, true⟩ ring 3 [] halfKnown).asked := by
  have hfails : (expandAt ⟨.standard, false⟩ ring 3 [] halfKnown).outcome =
      .error (.unresolved ['n'] "x$\x7bn\x7d".toList) := by
    cbv
  have hstrict : (expandAt ⟨.standard, false⟩ ring 3 [] halfKnown).asked = [['b'], ['n']] := by
    cbv
  have hagree := (strict_and_lenient_agree .standard ring halfKnown).1 3
  obtain ⟨-, hnone, hasked⟩ := hagree.of_unresolved ['n'] "x$\x7bn\x7d".toList hfails
  rw [hstrict] at hasked
  exact ⟨hfails, hnone, hasked⟩

end Expander

end LayeredConfig.Placeholder
