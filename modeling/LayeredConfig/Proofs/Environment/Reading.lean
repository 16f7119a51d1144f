import LayeredConfig.Environment
import LayeredConfig.Proofs.Profile.Names
import LayeredConfig.Proofs.Resolver.Caching

/-!
# Reading — what the profiles of an environment are when they are asked for

Profiles that were not set are taken from the configuration when they are read. `activeRead` and
`defaultsRead` say what a read gives, and the read keeps just that (`activeProfiles_apply`,
`defaultProfiles_apply`). To have read before makes no difference to what a read gives
(`activeProfiles_respects`, `defaultProfiles_respects`).
-/

namespace LayeredConfig.Environment

open Resolver (Caches)

/-! ## 1. What the configuration names -/

/-- The profiles that the configuration names under a key. -/
def configured (e : Environment) (key : String) : Except Error (List String) :=
  (configuredProfiles key e).result

theorem configured_eq (e : Environment) (key : String) :
    e.configured key =
      (Resolver.getValue e.chain.layers key (some (.kind .str)) .null e.resolver).result >>=
        profileEntries :=
  Action.result_bind

theorem configuredProfiles_state (key : String) (e : Environment) :
    ∃ r, Caches e.resolver r ∧ (configuredProfiles key e).state = { e with resolver := r } := by
  have hcaches :=
    Resolver.getValue_respects e.chain.layers key (some (.kind .str)) .null e.resolver
  refine ⟨_, hcaches, ?_⟩
  rw [configuredProfiles]
  cases hvalue : (resolving (fun sources => Resolver.getValue sources key (some (.kind .str)) .null)
    e).result with
  | ok v =>
    rw [Action.bind_of_ok hvalue]
    rfl
  | error err =>
    rw [Action.bind_of_error hvalue]
    rfl

/-- What the configuration names depends on what the sources give for the keys that are consulted, and on
what is set for placeholders. -/
theorem configured_of_hits {e e' : Environment} (hfresh : e.resolver.Fresh)
    (hcaches : Caches e.resolver e'.resolver) {key : String}
    (h : ∀ k ∈ e.resolver.consulted e.chain.layers key,
      Source.firstHit? k e'.chain.layers = Source.firstHit? k e.chain.layers) :
    e'.configured key = e.configured key := by
  have hvalue := (hfresh.unchanged fun _ => id).value key (some (.kind .str)) .null h
  rw [configured_eq, configured_eq, hcaches.result_getValue hfresh, hvalue]

theorem configured_congr {e e' : Environment} (hfresh : e.resolver.Fresh)
    (hchain : e'.chain = e.chain) (hcaches : Caches e.resolver e'.resolver) (key : String) :
    e'.configured key = e.configured key :=
  configured_of_hits hfresh hcaches fun k _ => by rw [hchain]

/-! ## 2. Profiles that are taken from the configuration -/

/-- Profiles are taken from the configuration and set, if it names any. -/
def take (key : String) (set : List Value → Action Environment Unit) : Action Environment Unit := do
  let names ← configuredProfiles key
  if names.isEmpty then pure () else set (names.map .text)

/-- The profiles that there are after that: those stored so far if the configuration names none. -/
def taken (e : Environment) (key : String) (stored : List String) : Except Error (List String) := do
  let names ← e.configured key
  let profiles ← Profile.namesOf (names.map .text)
  pure (if names = [] then stored else Profile.distinctNames profiles)

section Taken

variable {e : Environment} {key : String} {names : List String} (stored : List String)

theorem taken_of_error {err : Error} (h : e.configured key = .error err) :
    e.taken key stored = .error err := by
  rw [taken, h]
  rfl

theorem taken_of_nil (h : e.configured key = .ok []) : e.taken key stored = .ok stored := by
  rw [taken, h]
  rfl

theorem taken_of_names (h : e.configured key = .ok names) (hne : names ≠ []) :
    e.taken key stored = Profile.distinctNames <$> Profile.namesOf (names.map .text) := by
  rw [taken, h]
  show (Profile.namesOf _ >>= fun profiles => pure (if names = [] then _ else _)) = _
  simp only [if_neg hne]
  exact bind_pure_comp _ _

theorem taken_cases {stored taken : List String} (h : e.taken key stored = .ok taken) :
    taken = stored ∨ ∃ values profiles, Profile.namesOf values = .ok profiles ∧
      taken = Profile.distinctNames profiles := by
  cases hnames : e.configured key with
  | error =>
    rw [taken_of_error stored hnames] at h
    contradiction
  | ok names =>
    by_cases hnone : names = []
    · rw [taken_of_nil stored (hnone ▸ hnames)] at h
      exact .inl (Except.ok.inj h).symm
    · rw [taken_of_names stored hnames hnone] at h
      cases hprofiles : Profile.namesOf (names.map .text) with
      | error =>
        rw [hprofiles] at h
        contradiction
      | ok profiles =>
        rw [hprofiles] at h
        exact .inr ⟨_, profiles, hprofiles, (Except.ok.inj h).symm⟩

end Taken

/-- What is stored after a read: what it gave, or what was stored before if it failed. -/
def kept (read : Except Error (List String)) (stored : List String) : List String :=
  read.toOption.getD stored

/-- What comes of setting profiles: they are put in their place, or the first that is no name is
refused. -/
inductive Sets (put : Environment → List String → Environment) (profiles : List Value)
    (e : Environment) : Outcome Environment Unit → Prop
  | stored {names events} (hnames : Profile.namesOf profiles = .ok names) :
    Sets put profiles e ⟨put e (Profile.distinctNames names), events, .ok ()⟩
  | refused {err} (hnames : Profile.namesOf profiles = .error err) :
    Sets put profiles e ⟨e, [], .error err⟩

theorem setActive_sets (profiles : List Value) (e : Environment) :
    Sets (fun e names => { e with active := names }) profiles e (setActive profiles e) := by
  rw [setActive]
  cases hnames : Profile.namesOf profiles with
  | ok names => exact .stored hnames
  | error err => exact .refused hnames

theorem setDefaults_sets (profiles : List Value) (e : Environment) :
    Sets (fun e names => { e with defaults := names }) profiles e (setDefaults profiles e) := by
  rw [setDefaults]
  cases hnames : Profile.namesOf profiles with
  | ok names => exact .stored hnames
  | error err => exact .refused hnames

theorem take_apply {set : List Value → Action Environment Unit}
    {put : Environment → List String → Environment}
    (hset : ∀ profiles e, Sets put profiles e (set profiles e)) (key : String) {e : Environment}
    {stored : List String}
    (hstored : ∀ r, put { e with resolver := r } stored = { e with resolver := r }) :
    ∃ r, Caches e.resolver r ∧ (take key set e).result = (fun _ => ()) <$> e.taken key stored ∧
      (take key set e).state = put { e with resolver := r } (kept (e.taken key stored) stored) := by
  obtain ⟨r, hcaches, hstate⟩ := configuredProfiles_state key e
  refine ⟨r, hcaches, ?_⟩
  rw [take]
  cases hnames : e.configured key with
  | error err =>
    rw [Action.bind_of_error hnames, hstate, taken_of_error stored hnames]
    exact ⟨rfl, (hstored r).symm⟩
  | ok names =>
    rw [Action.bind_of_ok hnames, hstate]
    by_cases hne : names = []
    · subst hne
      rw [taken_of_nil stored hnames]
      exact ⟨rfl, (hstored r).symm⟩
    · have hsome : ¬names.isEmpty = true := by simpa using hne
      rw [taken_of_names stored hnames hne, if_neg hsome]
      -- The profiles are set from where the configuration has been read.
      generalize hafter : set (names.map .text) { e with resolver := r } = o
      have hsets := hset (names.map .text) { e with resolver := r }
      rw [hafter] at hsets
      cases hsets with
      | stored hprofiles =>
        rw [hprofiles]
        exact ⟨rfl, rfl⟩
      | refused hprofiles =>
        rw [hprofiles]
        exact ⟨rfl, (hstored r).symm⟩

/-! ## 3. What a read gives -/

/-- What a read gives of profiles that are taken from the configuration while those stored are `unset`,
that is, while none were set. -/
def readOf (e : Environment) (unset : List String) (key : String) (stored : List String) :
    Except Error (List String) :=
  if stored = unset then e.taken key stored else .ok stored

/-- What is stored after a read was stored before, or has been taken in place of what was unset. -/
theorem kept_cases (e : Environment) (unset : List String) (key : String) (stored : List String) :
    kept (e.readOf unset key stored) stored = stored ∨
      stored = unset ∧ ∃ values profiles, Profile.namesOf values = .ok profiles ∧
        kept (e.readOf unset key stored) stored = Profile.distinctNames profiles := by
  cases hread : e.readOf unset key stored with
  | error => exact .inl rfl
  | ok names =>
    rw [readOf] at hread
    split at hread
    next hunset =>
      rcases taken_cases hread with hsame | htaken
      · exact .inl hsame
      · exact .inr ⟨hunset, htaken⟩
    next => exact .inl (Except.ok.inj hread).symm

/-- What a read of the active profiles gives. -/
def activeRead (e : Environment) : Except Error (List String) :=
  e.readOf [] activeKey e.active

/-- What a read of the default profiles gives. -/
def defaultsRead (e : Environment) : Except Error (List String) :=
  e.readOf [reservedProfile] defaultKey e.defaults

section Seed

variable {seed : Action Environment Unit} {e : Environment} {stored : List String}

theorem seed_apply {set : List Value → Action Environment Unit}
    {put : Environment → List String → Environment}
    (hset : ∀ profiles e, Sets put profiles e (set profiles e)) (key : String) {unset : List String}
    (hstored : ∀ r, put { e with resolver := r } stored = { e with resolver := r })
    (hseed : seed e = if stored = unset then take key set e else ⟨e, [], .ok ()⟩) :
    ∃ r, Caches e.resolver r ∧ (seed e).result = (fun _ => ()) <$> e.readOf unset key stored ∧
      (seed e).state = put { e with resolver := r } (kept (e.readOf unset key stored) stored) := by
  rw [readOf, hseed]
  by_cases hunset : stored = unset
  · rw [if_pos hunset, if_pos hunset]
    exact take_apply hset key hstored
  · rw [if_neg hunset, if_neg hunset]
    exact ⟨e.resolver, refl_of Caches _, rfl, (hstored e.resolver).symm⟩

/-- A read gives what is stored once the profiles have been taken. -/
theorem read_after_seed {read : Except Error (List String)} (put : List String → Environment)
    {get : Environment → List String} (hget : ∀ names, get (put names) = names)
    (hresult : (seed e).result = (fun _ => ()) <$> read)
    (hstate : (seed e).state = put (kept read stored)) :
    ((seed >>= fun _ => Action.read get) e).result = read ∧
      ((seed >>= fun _ => Action.read get) e).state = put (kept read stored) := by
  cases read with
  | ok names =>
    rw [Action.bind_of_ok hresult, hstate]
    exact ⟨congrArg Except.ok (hget names), rfl⟩
  | error err =>
    rw [Action.bind_of_error hresult, hstate]
    exact ⟨rfl, rfl⟩

end Seed

theorem seedActive_apply (e : Environment) :
    ∃ r, Caches e.resolver r ∧ (seedActive e).result = (fun _ => ()) <$> e.activeRead ∧
      (seedActive e).state = { e with resolver := r, active := kept e.activeRead e.active } := by
  apply seed_apply setActive_sets activeKey fun _ => rfl
  rw [seedActive, Action.read_bind]
  cases e.active with
  | nil => rfl
  | cons => rfl

theorem seedDefaults_apply (e : Environment) :
    ∃ r, Caches e.resolver r ∧ (seedDefaults e).result = (fun _ => ()) <$> e.defaultsRead ∧
      (seedDefaults e).state =
        { e with resolver := r, defaults := kept e.defaultsRead e.defaults } := by
  apply seed_apply setDefaults_sets defaultKey fun _ => rfl
  rw [seedDefaults, Action.read_bind]
  split
  next => rfl
  next => rfl

theorem activeProfiles_apply (e : Environment) :
    ∃ r, Caches e.resolver r ∧ (activeProfiles e).result = e.activeRead ∧
      (activeProfiles e).state = { e with resolver := r, active := kept e.activeRead e.active } := by
  obtain ⟨r, hcaches, hresult, hstate⟩ := seedActive_apply e
  let put (names : List String) : Environment := { e with resolver := r, active := names }
  exact ⟨r, hcaches, read_after_seed put (fun _ => rfl) hresult hstate⟩

theorem defaultProfiles_apply (e : Environment) :
    ∃ r, Caches e.resolver r ∧ (defaultProfiles e).result = e.defaultsRead ∧
      (defaultProfiles e).state =
        { e with resolver := r, defaults := kept e.defaultsRead e.defaults } := by
  obtain ⟨r, hcaches, hresult, hstate⟩ := seedDefaults_apply e
  let put (names : List String) : Environment := { e with resolver := r, defaults := names }
  exact ⟨r, hcaches, read_after_seed put (fun _ => rfl) hresult hstate⟩

theorem active_of_activeRead {e : Environment} (h : e.activeRead = .ok []) : e.active = [] := by
  by_contra hsome
  rw [activeRead, readOf, if_neg hsome] at h
  exact hsome (Except.ok.inj h)

theorem result_activeProfiles (e : Environment) : (activeProfiles e).result = e.activeRead :=
  (activeProfiles_apply e).choose_spec.2.1

theorem result_defaultProfiles (e : Environment) : (defaultProfiles e).result = e.defaultsRead :=
  (defaultProfiles_apply e).choose_spec.2.1

/-! ## 4. Reading again -/

section Again

variable {e e' : Environment} (hfresh : e.resolver.Fresh) (hchain : e'.chain = e.chain)
  (hcaches : Caches e.resolver e'.resolver)

include hfresh hchain hcaches

theorem readOf_congr (unset : List String) (key : String) (stored : List String) :
    e'.readOf unset key stored = e.readOf unset key stored := by
  rw [readOf, readOf, taken, taken, configured_congr hfresh hchain hcaches]

/-- What has been read and kept is read again. -/
theorem readOf_kept (unset : List String) (key : String) (stored : List String) :
    e'.readOf unset key (kept (e.readOf unset key stored) stored) = e.readOf unset key stored := by
  rw [readOf_congr hfresh hchain hcaches]
  cases hread : e.readOf unset key stored with
  | error err => exact hread
  | ok names =>
    show e.readOf unset key names = _
    by_cases hunset : names = unset
    · -- A read that leaves the profiles unset has found them so.
      have hstored : stored = names := by
        rw [readOf] at hread
        split at hread
        next h => rw [h, hunset]
        next => exact Except.ok.inj hread
      rw [← hread, hstored]
    · rw [readOf, if_neg hunset]

theorem activeRead_eq (hactive : e'.active = e.active ∨ e'.active = kept e.activeRead e.active) :
    e'.activeRead = e.activeRead := by
  rcases hactive with h | h
  · rw [activeRead, activeRead, h, readOf_congr hfresh hchain hcaches]
  · rw [activeRead, h]
    exact readOf_kept hfresh hchain hcaches [] activeKey e.active

theorem defaultsRead_eq
    (hdefaults : e'.defaults = e.defaults ∨ e'.defaults = kept e.defaultsRead e.defaults) :
    e'.defaultsRead = e.defaultsRead := by
  rcases hdefaults with h | h
  · rw [defaultsRead, defaultsRead, h, readOf_congr hfresh hchain hcaches]
  · rw [defaultsRead, h]
    exact readOf_kept hfresh hchain hcaches [reservedProfile] defaultKey e.defaults

end Again

/-- A read of the active profiles gives `active` and, if these are none, a read of the default profiles
gives `defaults`. -/
structure Reads (active defaults : List String) (e : Environment) : Prop where
  fresh : e.resolver.Fresh
  active_eq : e.activeRead = .ok active
  defaults_eq : active = [] → e.defaultsRead = .ok defaults

/-- Reads of the second environment give what those of the first give, as long as no expander that is kept
is out of date. -/
def ReadsAlike (e e' : Environment) : Prop :=
  e.resolver.Fresh → e'.resolver.Fresh ∧ e'.activeRead = e.activeRead ∧
    e'.defaultsRead = e.defaultsRead

instance : Std.Refl ReadsAlike where
  refl _ hfresh := ⟨hfresh, rfl, rfl⟩

instance : IsTrans Environment ReadsAlike where
  trans _ _ _ h h' hfresh := by
    obtain ⟨hfresh', hactive, hdefaults⟩ := h hfresh
    obtain ⟨hfresh'', hactive', hdefaults'⟩ := h' hfresh'
    exact ⟨hfresh'', hactive'.trans hactive, hdefaults'.trans hdefaults⟩

theorem ReadsAlike.of_kept {e e' : Environment} (hchain : e'.chain = e.chain)
    (hcaches : Caches e.resolver e'.resolver)
    (hactive : e'.active = e.active ∨ e'.active = kept e.activeRead e.active)
    (hdefaults : e'.defaults = e.defaults ∨ e'.defaults = kept e.defaultsRead e.defaults) :
    ReadsAlike e e' := fun hfresh =>
  ⟨hcaches.fresh hfresh, activeRead_eq hfresh hchain hcaches hactive,
    defaultsRead_eq hfresh hchain hcaches hdefaults⟩

theorem Reads.of_readsAlike {active defaults : List String} {e e' : Environment}
    (h : Reads active defaults e) (halike : ReadsAlike e e') : Reads active defaults e' where
  fresh := (halike h.fresh).1
  active_eq := (halike h.fresh).2.1.trans h.active_eq
  defaults_eq hnone := (halike h.fresh).2.2.trans (h.defaults_eq hnone)

theorem activeProfiles_respects : activeProfiles.Respects ReadsAlike := by
  intro e
  obtain ⟨r, hcaches, -, hstate⟩ := activeProfiles_apply e
  rw [hstate]
  exact .of_kept rfl hcaches (.inr rfl) (.inl rfl)

theorem defaultProfiles_respects : defaultProfiles.Respects ReadsAlike := by
  intro e
  obtain ⟨r, hcaches, -, hstate⟩ := defaultProfiles_apply e
  rw [hstate]
  exact .of_kept rfl hcaches (.inl rfl) (.inr rfl)

end LayeredConfig.Environment
