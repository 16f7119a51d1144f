import LayeredConfig.Proofs.Environment.Reading
import LayeredConfig.Proofs.Profile.Conditions

/-!
# Calls — an environment in use

Questions about profiles are answered by the profiles that a read gives, and do not change what later
reads give (`accepts_answers`, `Call.asks_respects`). A call that fails leaves the chain and the profiles
as they were (`Call.untouched_of_error`), and no call brings in repetitions (`Call.perform_keeps`).
-/

namespace LayeredConfig.Environment

open Resolver (Caches)
open Profile (IsProfileName)

/-- A call of an environment that is about its profiles. -/
inductive Call where
  | activeProfiles
  | defaultProfiles
  | setActive (profiles : List Value)
  | addActive (profile : Value)
  | setDefaults (profiles : List Value)
  | isProfileActive (profile : Value)
  | accepts (expressions : List Value)
  | acceptsOnly (condition : Profile.Condition) (further : List Value)

namespace Call

/-- What a call does, and what it answers. -/
def perform : Call → Action Environment Value
  | .activeProfiles => do
    let profiles ← Environment.activeProfiles
    pure (.tuple (profiles.map .text))
  | .defaultProfiles => do
    let profiles ← Environment.defaultProfiles
    pure (.tuple (profiles.map .text))
  | .setActive profiles => do
    Environment.setActive profiles
    pure .null
  | .addActive profile => do
    Environment.addActive profile
    pure .null
  | .setDefaults profiles => do
    Environment.setDefaults profiles
    pure .null
  | .isProfileActive profile => do
    let found ← Environment.isProfileActive profile
    pure (.bool found)
  | .accepts expressions => do
    let holds ← Environment.accepts expressions
    pure (.bool holds)
  | .acceptsOnly condition further => do
    let holds ← Environment.acceptsOnly condition further
    pure (.bool holds)

/-- Whether a call asks for something; the others set profiles. -/
def asks : Call → Bool
  | .setActive _ | .addActive _ | .setDefaults _ => false
  | _ => true

/-- All names in a condition that is given as trees are profile names. Those in expressions that are
read are anyway. -/
def WellNamed : Call → Prop
  | .acceptsOnly condition _ => ∀ e ∈ condition.trees, e.Over IsProfileName
  | _ => True

end Call

/-! ## 1. Questions -/

section Questions

variable {R : Environment → Environment → Prop} [Std.Refl R] [IsTrans Environment R]
  (hactive : Environment.activeProfiles.Respects R)
  (hdefaults : Environment.defaultProfiles.Respects R)

include hactive hdefaults

/-- A question does no more to the environment than reading its profiles does. -/
theorem isProfileActive_respects (profile : Value) : (isProfileActive profile).Respects R := by
  refine (Action.Respects.ofExcept _).bind fun name => hactive.bind fun active => ?_
  split
  next => exact .pure _
  next =>
    split
    next => exact hdefaults.bind fun _ => .pure _
    next => exact .pure _

theorem acceptsCondition_respects (c : Profile.Condition) : (acceptsCondition c).Respects R :=
  Profile.Expr.evaluateAny_respects (fun _ => isProfileActive_respects hactive hdefaults _) c.trees

theorem accepts_respects (expressions : List Value) : (accepts expressions).Respects R :=
  (Action.Respects.ofExcept _).bind fun c => acceptsCondition_respects hactive hdefaults c

theorem acceptsOnly_respects (c : Profile.Condition) (further : List Value) :
    (acceptsOnly c further).Respects R := by
  rw [acceptsOnly]
  split
  next => exact acceptsCondition_respects hactive hdefaults c
  next => exact .fail _

theorem Call.asks_respects {call : Call} (h : call.asks = true) : call.perform.Respects R := by
  cases call with
  | activeProfiles => exact hactive.bind fun _ => .pure _
  | defaultProfiles => exact hdefaults.bind fun _ => .pure _
  | isProfileActive profile =>
    exact (isProfileActive_respects hactive hdefaults profile).bind fun _ => .pure _
  | accepts expressions => exact (accepts_respects hactive hdefaults expressions).bind fun _ => .pure _
  | acceptsOnly condition further =>
    exact (acceptsOnly_respects hactive hdefaults condition further).bind fun _ => .pure _
  | setActive | addActive | setDefaults => contradiction

end Questions

/-! ## 2. Answers -/

/-- A profile counts as active if it is among the active ones, or among the default ones while there
are no active ones. -/
def countsAsActive (active defaults : List String) (name : String) : Bool :=
  decide (name ∈ active ∨ active = [] ∧ name ∈ defaults)

section Answers

variable {active defaults : List String}

theorem activeProfiles_answers : activeProfiles.Answers (Reads active defaults) active :=
  fun e h => ⟨(result_activeProfiles e).trans h.active_eq,
    h.of_readsAlike (activeProfiles_respects e)⟩

theorem defaultProfiles_answers (hnone : active = []) :
    defaultProfiles.Answers (Reads active defaults) defaults :=
  fun e h => ⟨(result_defaultProfiles e).trans (h.defaults_eq hnone),
    h.of_readsAlike (defaultProfiles_respects e)⟩

theorem isProfileActive_answers {profile : Value} {name : String}
    (h : Profile.nameOf profile = .ok name) :
    (isProfileActive profile).Answers (Reads active defaults)
      (countsAsActive active defaults name) := by
  refine (Action.Answers.ofExcept h).bind (activeProfiles_answers.bind ?_)
  rw [countsAsActive]
  split
  next hmem =>
    rw [decide_eq_true (.inl hmem)]
    exact .pure true
  next hmem =>
    split
    next hnone =>
      replace hnone : active = [] := List.isEmpty_iff.1 hnone
      refine (defaultProfiles_answers hnone).bind ?_
      simpa [hmem, hnone] using Action.Answers.pure _
    next hsome =>
      replace hsome : active ≠ [] := by simpa using hsome
      simpa [hmem, hsome] using Action.Answers.pure _

theorem acceptsCondition_answers {c : Profile.Condition}
    (h : ∀ e ∈ c.trees, e.Over IsProfileName) :
    (acceptsCondition c).Answers (Reads active defaults)
      (c.holds fun name => countsAsActive active defaults (String.ofList name)) :=
  Profile.Expr.evaluateAny_answers fun e he =>
    (h e he).answers fun _ hname => isProfileActive_answers hname.nameOf

/-- Any one of the expressions must hold. -/
theorem accepts_answers {texts : List String} {trees : List Profile.Expr} (hne : texts ≠ [])
    (h : List.Forall₂ Profile.Derives texts trees) :
    (accepts (texts.map .text)).Answers (Reads active defaults)
      (trees.any fun tree => tree.holds fun name => countsAsActive active defaults (String.ofList name)) := by
  have hread := Profile.Condition.ofExpressions_of_derived hne h
  rw [← Profile.Expr.anyHolds_eq_any]
  exact (Action.Answers.ofExcept hread).bind
    (acceptsCondition_answers (Profile.Condition.over_of_ofExpressions hread))

end Answers

/-! ## 3. Failures -/

/-- The chain and the profiles are as they were; the resolver may have built expanders. -/
structure Untouched (e e' : Environment) : Prop where
  chain_eq : e'.chain = e.chain
  active_eq : e'.active = e.active
  defaults_eq : e'.defaults = e.defaults

theorem Untouched.refl (e : Environment) : Untouched e e := ⟨rfl, rfl, rfl⟩

section Failures

variable {e : Environment} {err : Error}

theorem untouched_of_seedActive (h : (seedActive e).result = .error err) :
    Untouched e (seedActive e).state := by
  obtain ⟨r, -, hresult, hstate⟩ := seedActive_apply e
  rw [hstate, Action.error_of_map (hresult.symm.trans h)]
  exact ⟨rfl, rfl, rfl⟩

theorem untouched_of_activeProfiles (h : (activeProfiles e).result = .error err) :
    Untouched e (activeProfiles e).state := by
  obtain ⟨r, -, hresult, hstate⟩ := activeProfiles_apply e
  rw [hstate, hresult.symm.trans h]
  exact ⟨rfl, rfl, rfl⟩

theorem untouched_of_defaultProfiles (h : (defaultProfiles e).result = .error err) :
    Untouched e (defaultProfiles e).state := by
  obtain ⟨r, -, hresult, hstate⟩ := defaultProfiles_apply e
  rw [hstate, hresult.symm.trans h]
  exact ⟨rfl, rfl, rfl⟩

/-- Profiles are set all together or not at all. -/
theorem untouched_of_sets {put : Environment → List String → Environment} {profiles : List Value}
    {o : Outcome Environment Unit} (hsets : Sets put profiles e o) (h : o.result = .error err) :
    Untouched e o.state := by
  cases hsets with
  | stored => contradiction
  | refused => exact .refl e

/-- A profile that is none is refused before anything else is done. -/
theorem untouched_of_addActive {profile : Value} (h : (addActive profile e).result = .error err) :
    Untouched e (addActive profile e).state := by
  rw [addActive] at h ⊢
  cases hname : Profile.nameOf profile with
  | error => exact .refl e
  | ok name =>
    rw [hname, Action.ofExcept_ok_bind, Action.emit_bind] at h
    rw [Action.ofExcept_ok_bind, Action.emit_bind]
    cases hseed : (seedActive e).result with
    | ok =>
      rw [Action.bind_of_ok hseed] at h
      contradiction
    | error =>
      rw [Action.bind_of_error hseed]
      exact untouched_of_seedActive hseed

/-- While there are no active profiles a question needs the default ones. -/
theorem isProfileActive_of_failed_defaults (hfresh : e.resolver.Fresh) {profile : Value}
    {name : String} (hname : Profile.nameOf profile = .ok name) (hactive : e.activeRead = .ok [])
    (hdefaults : e.defaultsRead = .error err) :
    (isProfileActive profile e).result = .error err ∧
      Untouched e (isProfileActive profile e).state := by
  obtain ⟨r, hcaches, hresult, hstate⟩ := activeProfiles_apply e
  rw [hactive] at hresult hstate
  -- The first read has found nothing to keep, so the second starts from what was stored.
  replace hstate : (activeProfiles e).state = { e with resolver := r } := by
    rw [hstate, active_of_activeRead hactive]
    rfl
  have hsame : ({ e with resolver := r } : Environment).defaultsRead = e.defaultsRead :=
    defaultsRead_eq hfresh rfl hcaches (.inl rfl)
  have hfails : (defaultProfiles { e with resolver := r }).result = .error err := by
    rw [result_defaultProfiles, hsame, hdefaults]
  have hasked : (defaultProfiles >>= fun defaults => pure (decide (name ∈ defaults)) :
      Action Environment Bool) { e with resolver := r } = ⟨_, _, .error err⟩ :=
    Action.bind_of_error hfails
  have huntouched := untouched_of_defaultProfiles hfails
  rw [isProfileActive, hname, Action.ofExcept_ok_bind, Action.bind_of_ok hresult, hstate]
  simp only [List.not_mem_nil, if_false, List.isEmpty_nil, if_true, hasked]
  exact ⟨trivial, huntouched.chain_eq, huntouched.active_eq, huntouched.defaults_eq⟩

/-- A question that fails changes nothing; one that is answered has found what all reads give. -/
theorem isProfileActive_cases (hfresh : e.resolver.Fresh) (profile : Value) :
    ((∃ err, (isProfileActive profile e).result = .error err) ∧
        Untouched e (isProfileActive profile e).state) ∨
      ∃ active defaults, Reads active defaults e := by
  cases hname : Profile.nameOf profile with
  | error err =>
    rw [isProfileActive, hname]
    exact .inl ⟨⟨err, rfl⟩, .refl e⟩
  | ok name =>
    cases hactive : e.activeRead with
    | error err =>
      have hresult := (result_activeProfiles e).trans hactive
      rw [isProfileActive, hname, Action.ofExcept_ok_bind, Action.bind_of_error hresult]
      exact .inl ⟨⟨err, rfl⟩, untouched_of_activeProfiles hresult⟩
    | ok active =>
      by_cases hnone : active = []
      · subst hnone
        cases hdefaults : e.defaultsRead with
        | error err =>
          obtain ⟨hresult, huntouched⟩ :=
            isProfileActive_of_failed_defaults hfresh hname hactive hdefaults
          exact .inl ⟨⟨err, hresult⟩, huntouched⟩
        | ok defaults => exact .inr ⟨[], defaults, hfresh, hactive, fun _ => hdefaults⟩
      · exact .inr ⟨active, [], hfresh, hactive, fun h => absurd h hnone⟩

theorem untouched_of_isProfileActive (hfresh : e.resolver.Fresh) {profile : Value}
    (h : (isProfileActive profile e).result = .error err) :
    Untouched e (isProfileActive profile e).state := by
  rcases isProfileActive_cases hfresh profile with ⟨-, huntouched⟩ | ⟨active, defaults, hreads⟩
  · exact huntouched
  · cases hname : Profile.nameOf profile with
    | error =>
      rw [isProfileActive, hname]
      exact .refl e
    | ok name =>
      have hanswers := (isProfileActive_answers hname e hreads).1
      rw [h] at hanswers
      contradiction

theorem acceptsCondition_idleOr (hfresh : e.resolver.Fresh)
    (hnone : ¬∃ active defaults, Reads active defaults e) (c : Profile.Condition)
    (h : ∀ e ∈ c.trees, e.Over IsProfileName) :
    Action.IdleOr (Untouched e) e (acceptsCondition c) := by
  refine Profile.Expr.evaluateAny_idleOr fun tree htree => (h tree htree).idleOr fun name _ => ?_
  exact .inr ((isProfileActive_cases hfresh _).resolve_right hnone)

/-- If a condition fails then the first question has failed. -/
theorem untouched_of_acceptsCondition (hfresh : e.resolver.Fresh) {c : Profile.Condition}
    (hnamed : ∀ e ∈ c.trees, e.Over IsProfileName) (h : (acceptsCondition c e).result = .error err) :
    Untouched e (acceptsCondition c e).state := by
  by_cases hreads : ∃ active defaults, Reads active defaults e
  · -- Where the profiles can be read every question has an answer, and so has the condition.
    obtain ⟨active, defaults, hreads⟩ := hreads
    have hanswers := (acceptsCondition_answers hnamed e hreads).1
    rw [h] at hanswers
    contradiction
  · exact (acceptsCondition_idleOr hfresh hreads c hnamed).of_error h

theorem untouched_of_accepts (hfresh : e.resolver.Fresh) {expressions : List Value}
    (h : (accepts expressions e).result = .error err) : Untouched e (accepts expressions e).state := by
  rw [accepts] at h ⊢
  cases hread : Profile.Condition.ofExpressions expressions with
  | error => exact .refl e
  | ok c =>
    rw [hread] at h
    exact untouched_of_acceptsCondition hfresh (Profile.Condition.over_of_ofExpressions hread) h

theorem untouched_of_acceptsOnly (hfresh : e.resolver.Fresh) {c : Profile.Condition}
    (hnamed : ∀ e ∈ c.trees, e.Over IsProfileName) {further : List Value}
    (h : (acceptsOnly c further e).result = .error err) :
    Untouched e (acceptsOnly c further e).state := by
  rw [acceptsOnly] at h ⊢
  split at h
  next halone =>
    rw [if_pos halone]
    exact untouched_of_acceptsCondition hfresh hnamed h
  next halone =>
    rw [if_neg halone]
    exact .refl e

theorem untouched_of_bind_pure {α β : Type} {x : Action Environment α} {g : α → β}
    (h : ((x >>= fun a => pure (g a)) e).result = .error err)
    (hx : (x e).result = .error err → Untouched e (x e).state) :
    Untouched e ((x >>= fun a => pure (g a)) e).state := by
  rw [Action.state_bind_pure]
  exact hx (Action.error_of_bind_pure h)

/-- A call that fails changes nothing but the expanders that the resolver keeps. -/
theorem Call.untouched_of_error {call : Call} (hnamed : call.WellNamed) (hfresh : e.resolver.Fresh)
    (h : (call.perform e).result = .error err) : Untouched e (call.perform e).state := by
  cases call with
  | activeProfiles => exact untouched_of_bind_pure h untouched_of_activeProfiles
  | defaultProfiles => exact untouched_of_bind_pure h untouched_of_defaultProfiles
  | setActive profiles => exact untouched_of_bind_pure h (untouched_of_sets (setActive_sets profiles e))
  | addActive => exact untouched_of_bind_pure h untouched_of_addActive
  | setDefaults profiles =>
    exact untouched_of_bind_pure h (untouched_of_sets (setDefaults_sets profiles e))
  | isProfileActive => exact untouched_of_bind_pure h (untouched_of_isProfileActive hfresh)
  | accepts => exact untouched_of_bind_pure h (untouched_of_accepts hfresh)
  | acceptsOnly => exact untouched_of_bind_pure h (untouched_of_acceptsOnly hfresh hnamed)

end Failures

/-! ## 4. Whatever is called -/

/-- The chain stays, the resolver stays but for the expanders it keeps, and profiles that are stored
without repetitions stay without them. -/
structure Keeps (e e' : Environment) : Prop where
  chain_eq : e'.chain = e.chain
  caches : Caches e.resolver e'.resolver
  active_nodup : e.active.Nodup → e'.active.Nodup
  defaults_nodup : e.defaults.Nodup → e'.defaults.Nodup

instance : Std.Refl Keeps where
  refl _ := ⟨rfl, refl_of Caches _, id, id⟩

instance : IsTrans Environment Keeps where
  trans _ _ _ h h' :=
    ⟨h'.chain_eq.trans h.chain_eq, trans_of Caches h.caches h'.caches,
      h'.active_nodup ∘ h.active_nodup, h'.defaults_nodup ∘ h.defaults_nodup⟩

/-- What is stored after a read has no repetitions if what was stored before has none. -/
theorem nodup_kept (e : Environment) (unset : List String) (key : String) {stored : List String}
    (h : stored.Nodup) : (kept (e.readOf unset key stored) stored).Nodup := by
  rcases kept_cases e unset key stored with hsame | ⟨-, -, profiles, -, htaken⟩
  · rwa [hsame]
  · rw [htaken]
    exact Profile.nodup_distinctNames profiles

theorem seedActive_keeps : seedActive.Respects Keeps := by
  intro e
  obtain ⟨r, hcaches, -, hstate⟩ := seedActive_apply e
  rw [hstate]
  exact ⟨rfl, hcaches, nodup_kept e [] activeKey, id⟩

theorem activeProfiles_keeps : activeProfiles.Respects Keeps :=
  seedActive_keeps.bind fun _ => .read _

theorem defaultProfiles_keeps : defaultProfiles.Respects Keeps := by
  intro e
  obtain ⟨r, hcaches, -, hstate⟩ := defaultProfiles_apply e
  rw [hstate]
  exact ⟨rfl, hcaches, id, nodup_kept e [reservedProfile] defaultKey⟩

section Setting

variable {R : Environment → Environment → Prop} [Std.Refl R]

theorem respects_of_sets {put : Environment → List String → Environment} {profiles : List Value}
    {e : Environment} {o : Outcome Environment Unit} (hsets : Sets put profiles e o)
    (hput : ∀ names, Profile.namesOf profiles = .ok names → R e (put e (Profile.distinctNames names))) :
    R e o.state := by
  cases hsets with
  | stored hnames => exact hput _ hnames
  | refused => exact refl_of R e

/-- One more name joins what is active once that has been read. -/
theorem addActive_respects [IsTrans Environment R] (hseed : seedActive.Respects R) {profile : Value}
    (hadd : ∀ name, Profile.nameOf profile = .ok name → ∀ e : Environment,
      R e { e with active := Profile.distinctNames (e.active ++ [name]) }) :
    (addActive profile).Respects R := by
  rw [addActive]
  cases hname : Profile.nameOf profile with
  | error => exact .of_state_eq fun _ => rfl
  | ok name =>
    have hjoin : (Action.modify fun e : Environment =>
        { e with active := Profile.distinctNames (e.active ++ [name]) }).Respects R := hadd name hname
    exact (Action.Respects.emit _).bind fun _ => hseed.bind fun _ => hjoin

end Setting

theorem setActive_keeps (profiles : List Value) : (setActive profiles).Respects Keeps :=
  fun e => respects_of_sets (setActive_sets profiles e) fun names _ =>
    ⟨rfl, refl_of Caches _, fun _ => Profile.nodup_distinctNames names, id⟩

theorem setDefaults_keeps (profiles : List Value) : (setDefaults profiles).Respects Keeps :=
  fun e => respects_of_sets (setDefaults_sets profiles e) fun names _ =>
    ⟨rfl, refl_of Caches _, id, fun _ => Profile.nodup_distinctNames names⟩

theorem addActive_keeps (profile : Value) : (addActive profile).Respects Keeps :=
  addActive_respects seedActive_keeps fun _ _ _ =>
    ⟨rfl, refl_of Caches _, fun _ => Profile.nodup_distinctNames _, id⟩

theorem Call.perform_keeps (call : Call) : call.perform.Respects Keeps := by
  cases hasks : call.asks with
  | true => exact Call.asks_respects activeProfiles_keeps defaultProfiles_keeps hasks
  | false =>
    cases call with
    | setActive profiles => exact (setActive_keeps profiles).bind fun _ => .pure _
    | addActive profile => exact (addActive_keeps profile).bind fun _ => .pure _
    | setDefaults profiles => exact (setDefaults_keeps profiles).bind fun _ => .pure _
    | _ => contradiction

/-- Reads give the same after a call that fails, whatever was stored on its way. -/
theorem Call.readsAlike_of_error {call : Call} {e : Environment} {err : Error}
    (hfresh : e.resolver.Fresh) (h : (call.perform e).result = .error err) :
    ReadsAlike e (call.perform e).state := by
  cases hasks : call.asks with
  | true => exact Call.asks_respects activeProfiles_respects defaultProfiles_respects hasks e
  | false =>
    have hnamed : call.WellNamed := by
      cases call with
      | acceptsOnly => contradiction
      | _ => trivial
    have huntouched := Call.untouched_of_error hnamed hfresh h
    exact .of_kept huntouched.chain_eq (call.perform_keeps e).caches (.inl huntouched.active_eq)
      (.inl huntouched.defaults_eq)

end LayeredConfig.Environment
