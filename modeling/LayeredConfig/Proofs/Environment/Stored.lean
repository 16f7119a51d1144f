import LayeredConfig.Proofs.Environment.Union
import LayeredConfig.Proofs.Profile.Lists

/-!
# Stored profiles — what stays and what comes

Profiles come from a call, from the configuration or from a parent, and all of them are checked on their
way, so what is stored stays proper (`Call.perform_staysProper`, `merge_staysProper`). Active profiles
keep their places in front of those that join them until others are set (`Call.perform_keepsActive`), and
default profiles stay once they are others than the reserved one alone (`Call.perform_keepsDefaults`).
-/

namespace LayeredConfig.Environment

open Profile (IsProper)

/-! ## 1. What may become of profiles -/

/-- Both lists of profiles are proper. -/
structure StoresProper (e : Environment) : Prop where
  active : IsProper e.active
  defaults : IsProper e.defaults

def StaysProper (e e' : Environment) : Prop := e.StoresProper → e'.StoresProper

/-- Active profiles keep their places; new ones come behind them. -/
def KeepsActive (e e' : Environment) : Prop :=
  e.active.Nodup → e'.active.Nodup ∧ e.active <+: e'.active

/-- Default profiles stay as they are once they are not the reserved one alone. -/
def KeepsDefaults (e e' : Environment) : Prop :=
  e.defaults ≠ [reservedProfile] → e'.defaults = e.defaults

instance : Std.Refl StaysProper where
  refl _ := id

instance : IsTrans Environment StaysProper where
  trans _ _ _ h h' := h' ∘ h

instance : Std.Refl KeepsActive where
  refl _ h := ⟨h, List.prefix_refl _⟩

instance : IsTrans Environment KeepsActive where
  trans _ _ _ h h' hnodup := by
    obtain ⟨hnodup', hfront⟩ := h hnodup
    obtain ⟨hnodup'', hfront'⟩ := h' hnodup'
    exact ⟨hnodup'', hfront.trans hfront'⟩

instance : Std.Refl KeepsDefaults where
  refl _ _ := rfl

instance : IsTrans Environment KeepsDefaults where
  trans _ _ _ h h' hne := by
    have hsame := h hne
    exact (h' (hsame ▸ hne)).trans hsame

section SameProfiles

variable {e e' : Environment}

theorem StaysProper.of_eq (hactive : e'.active = e.active) (hdefaults : e'.defaults = e.defaults) :
    StaysProper e e' :=
  fun h => ⟨hactive ▸ h.active, hdefaults ▸ h.defaults⟩

theorem KeepsActive.of_eq (h : e'.active = e.active) : KeepsActive e e' :=
  fun hnodup => ⟨h ▸ hnodup, h ▸ List.prefix_refl _⟩

theorem KeepsDefaults.of_eq (h : e'.defaults = e.defaults) : KeepsDefaults e e' :=
  fun _ => h

theorem isProper_reserved : IsProper [reservedProfile] :=
  Profile.isProper_iff.2 ⟨List.nodup_singleton _, by decide⟩

end SameProfiles

/-! ## 2. Reads -/

theorem isProper_kept (e : Environment) (unset : List String) (key : String) {stored : List String}
    (h : IsProper stored) : IsProper (kept (e.readOf unset key stored) stored) := by
  rcases kept_cases e unset key stored with hsame | ⟨-, values, profiles, hprofiles, htaken⟩
  · rwa [hsame]
  · rw [htaken]
    exact Profile.isProper_of_namesOf hprofiles

theorem seedActive_staysProper : seedActive.Respects StaysProper := by
  intro e h
  obtain ⟨r, -, -, hstate⟩ := seedActive_apply e
  rw [hstate]
  exact ⟨isProper_kept e [] activeKey h.active, h.defaults⟩

theorem seedActive_keepsActive : seedActive.Respects KeepsActive := by
  intro e
  obtain ⟨r, -, -, hstate⟩ := seedActive_apply e
  rw [hstate]
  rcases kept_cases e [] activeKey e.active with hsame | ⟨hnone, values, profiles, -, htaken⟩
  · exact .of_eq hsame
  · -- Profiles are taken where there are none, so there is nothing whose place could change.
    intro _
    show (kept (e.readOf [] activeKey e.active) e.active).Nodup ∧ e.active <+: kept _ e.active
    rw [htaken, hnone]
    exact ⟨Profile.nodup_distinctNames profiles, List.nil_prefix⟩

theorem seedActive_keepsDefaults : seedActive.Respects KeepsDefaults := by
  intro e
  obtain ⟨r, -, -, hstate⟩ := seedActive_apply e
  rw [hstate]
  exact .of_eq rfl

theorem activeProfiles_staysProper : activeProfiles.Respects StaysProper :=
  seedActive_staysProper.bind fun _ => .read _

theorem activeProfiles_keepsActive : activeProfiles.Respects KeepsActive :=
  seedActive_keepsActive.bind fun _ => .read _

theorem activeProfiles_keepsDefaults : activeProfiles.Respects KeepsDefaults :=
  seedActive_keepsDefaults.bind fun _ => .read _

theorem defaultProfiles_staysProper : defaultProfiles.Respects StaysProper := by
  intro e h
  obtain ⟨r, -, -, hstate⟩ := defaultProfiles_apply e
  rw [hstate]
  exact ⟨h.active, isProper_kept e [reservedProfile] defaultKey h.defaults⟩

theorem defaultProfiles_keepsActive : defaultProfiles.Respects KeepsActive := by
  intro e
  obtain ⟨r, -, -, hstate⟩ := defaultProfiles_apply e
  rw [hstate]
  exact .of_eq rfl

theorem defaultProfiles_keepsDefaults : defaultProfiles.Respects KeepsDefaults := by
  intro e
  obtain ⟨r, -, -, hstate⟩ := defaultProfiles_apply e
  rw [hstate]
  rcases kept_cases e [reservedProfile] defaultKey e.defaults with hsame | ⟨hunset, -⟩
  · exact .of_eq hsame
  · exact fun hne => absurd hunset hne

/-! ## 3. Calls -/

theorem setActive_staysProper (profiles : List Value) : (setActive profiles).Respects StaysProper :=
  fun e => respects_of_sets (setActive_sets profiles e) fun _ hnames h =>
    ⟨Profile.isProper_of_namesOf hnames, h.defaults⟩

theorem setDefaults_staysProper (profiles : List Value) :
    (setDefaults profiles).Respects StaysProper :=
  fun e => respects_of_sets (setDefaults_sets profiles e) fun _ hnames h =>
    ⟨h.active, Profile.isProper_of_namesOf hnames⟩

theorem setActive_keepsDefaults (profiles : List Value) :
    (setActive profiles).Respects KeepsDefaults :=
  fun e => respects_of_sets (setActive_sets profiles e) fun _ _ => .of_eq rfl

theorem setDefaults_keepsActive (profiles : List Value) :
    (setDefaults profiles).Respects KeepsActive :=
  fun e => respects_of_sets (setDefaults_sets profiles e) fun _ _ => .of_eq rfl

theorem addActive_staysProper (profile : Value) : (addActive profile).Respects StaysProper :=
  addActive_respects seedActive_staysProper fun _ hname _ h =>
    ⟨h.active.join (List.Subset.refl _) (Profile.isProper_singleton hname), h.defaults⟩

theorem addActive_keepsActive (profile : Value) : (addActive profile).Respects KeepsActive :=
  addActive_respects seedActive_keepsActive fun name _ _ hnodup =>
    ⟨Profile.nodup_distinctNames _, Profile.prefix_distinctNames_append hnodup [name]⟩

theorem addActive_keepsDefaults (profile : Value) : (addActive profile).Respects KeepsDefaults :=
  addActive_respects seedActive_keepsDefaults fun _ _ _ => .of_eq rfl

namespace Call

/-- Whether a call puts others in place of the active profiles. -/
def setsActive : Call → Bool
  | .setActive _ => true
  | _ => false

/-- Whether a call puts others in place of the default profiles. -/
def setsDefaults : Call → Bool
  | .setDefaults _ => true
  | _ => false

theorem perform_staysProper (call : Call) : call.perform.Respects StaysProper := by
  cases hasks : call.asks with
  | true => exact asks_respects activeProfiles_staysProper defaultProfiles_staysProper hasks
  | false =>
    cases call with
    | setActive profiles => exact (setActive_staysProper profiles).bind fun _ => .pure _
    | addActive profile => exact (addActive_staysProper profile).bind fun _ => .pure _
    | setDefaults profiles => exact (setDefaults_staysProper profiles).bind fun _ => .pure _
    | _ => contradiction

theorem perform_keepsActive {call : Call} (h : call.setsActive = false) :
    call.perform.Respects KeepsActive := by
  cases hasks : call.asks with
  | true => exact asks_respects activeProfiles_keepsActive defaultProfiles_keepsActive hasks
  | false =>
    cases call with
    | addActive profile => exact (addActive_keepsActive profile).bind fun _ => .pure _
    | setDefaults profiles => exact (setDefaults_keepsActive profiles).bind fun _ => .pure _
    | _ => contradiction

theorem perform_keepsDefaults {call : Call} (h : call.setsDefaults = false) :
    call.perform.Respects KeepsDefaults := by
  cases hasks : call.asks with
  | true => exact asks_respects activeProfiles_keepsDefaults defaultProfiles_keepsDefaults hasks
  | false =>
    cases call with
    | setActive profiles => exact (setActive_keepsDefaults profiles).bind fun _ => .pure _
    | addActive profile => exact (addActive_keepsDefaults profile).bind fun _ => .pure _
    | _ => contradiction

end Call

/-! ## 4. Merges -/

section Merges

variable {active defaults : List String}

theorem absorb_staysProper (hactive : IsProper active) (hdefaults : IsProper defaults) :
    (absorb active defaults).Respects StaysProper := by
  refine fun e h => ⟨?_, ?_⟩
  · show IsProper (if active.isEmpty then _ else _)
    split
    next => exact h.active
    next => exact h.active.join (List.Subset.refl _) hactive
  · -- The reserved profile may have given way, so only a part of the old names is left.
    show IsProper (if defaults.isEmpty then _ else _)
    split
    next => exact h.defaults
    next => exact h.defaults.join (List.filter_subset_self _) hdefaults

theorem absorb_keepsActive (active defaults : List String) :
    (absorb active defaults).Respects KeepsActive := by
  intro e hnodup
  show (if active.isEmpty then _ else _ : List String).Nodup ∧
    e.active <+: if active.isEmpty then _ else _
  split
  next => exact ⟨hnodup, List.prefix_refl _⟩
  next => exact ⟨Profile.nodup_distinctNames _, Profile.prefix_distinctNames_append hnodup active⟩

theorem profiles_staysProper : profiles.Respects StaysProper :=
  activeProfiles_staysProper.bind fun _ => defaultProfiles_staysProper.bind fun _ => .pure _

theorem profiles_keepsActive : profiles.Respects KeepsActive :=
  activeProfiles_keepsActive.bind fun _ => defaultProfiles_keepsActive.bind fun _ => .pure _

theorem profiles_keepsDefaults : profiles.Respects KeepsDefaults :=
  activeProfiles_keepsDefaults.bind fun _ => defaultProfiles_keepsDefaults.bind fun _ => .pure _

/-- What is read of a proper environment is proper, since it is what is stored from then on. -/
theorem isProper_of_profiles {e : Environment} (hfresh : e.resolver.Fresh) (h : e.StoresProper)
    (hread : (profiles e).result = .ok (active, defaults)) : IsProper active ∧ IsProper defaults := by
  obtain ⟨-, -, r, -, hstate⟩ := reads_of_profiles hfresh hread
  have hkept := profiles_staysProper e h
  rw [hstate] at hkept
  exact ⟨hkept.active, hkept.defaults⟩

/-- The parent is only read. -/
theorem parent_merge (p : Pair) : (merge p).state.parent = (profiles p.parent).state := by
  cases hread : (profiles p.parent).result with
  | ok read => rw [(merge_of_ok hread).2]
  | error err => rw [(merge_of_error hread).2]

theorem merge_staysProper {p : Pair} (hfresh : p.parent.resolver.Fresh)
    (hchild : p.child.StoresProper) (hparent : p.parent.StoresProper) :
    (merge p).state.child.StoresProper := by
  have hadopting : p.adopting.StoresProper := ⟨hchild.active, hchild.defaults⟩
  cases hread : (profiles p.parent).result with
  | ok read =>
    obtain ⟨hactive, hdefaults⟩ := isProper_of_profiles hfresh hparent hread
    rw [(merge_of_ok hread).2]
    exact absorb_staysProper hactive hdefaults _ hadopting
  | error err =>
    rw [(merge_of_error hread).2]
    exact hadopting

theorem merge_keepsActive (p : Pair) : KeepsActive p.child (merge p).state.child := by
  cases hread : (profiles p.parent).result with
  | ok read =>
    rw [(merge_of_ok hread).2]
    exact absorb_keepsActive read.1 read.2 p.adopting
  | error err =>
    rw [(merge_of_error hread).2]
    exact .of_eq rfl

theorem mergeSelf_staysProper {e : Environment} (hfresh : e.resolver.Fresh) (h : e.StoresProper) :
    (mergeSelf e).state.StoresProper := by
  have hread := profiles_staysProper e h
  cases hresult : (profiles e).result with
  | ok read =>
    obtain ⟨hactive, hdefaults⟩ := isProper_of_profiles hfresh h hresult
    rw [(mergeSelf_of_ok hresult).2]
    exact absorb_staysProper hactive hdefaults _ hread
  | error err =>
    rw [(mergeSelf_of_error hresult).2]
    exact hread

theorem mergeSelf_keepsActive : mergeSelf.Respects KeepsActive := by
  rw [mergeSelf_eq]
  exact profiles_keepsActive.bind fun read => absorb_keepsActive read.1 read.2

end Merges

end LayeredConfig.Environment
