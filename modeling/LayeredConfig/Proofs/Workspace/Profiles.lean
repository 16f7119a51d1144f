import LayeredConfig.Proofs.Environment.Stored
import LayeredConfig.Proofs.Workspace.Calls

/-!
# Profiles — what environments store in a workspace in use

Every call either leaves the profiles of an environment or does to them what its own call or a merge does
(`Call.change_after`), and environments that come new are fresh. So the profiles of all environments are
proper in every workspace that is reached; active ones stay until others are set, and so do default ones
once there are others than the reserved one, merges apart (`stored_profiles_proper`).
-/

namespace LayeredConfig.Workspace

open Environment (Pair StoresProper StaysProper KeepsActive KeepsDefaults reservedProfile)
open Profile (IsProper)

/-! ## 1. Environments that a call leaves alone -/

/-- The environments are as they were, and those behind them are fresh. -/
def Extends (w w' : Workspace) : Prop :=
  ∃ added, w'.environments = w.environments ++ added ∧
    ∀ e ∈ added, e.active = [] ∧ e.defaults = [reservedProfile]

theorem Extends.of_eq {w w' : Workspace} (h : w'.environments = w.environments) : Extends w w' :=
  ⟨[], by rw [h, List.append_nil], nofun⟩

instance : Std.Refl Extends where
  refl _ := .of_eq rfl

instance : IsTrans Workspace Extends where
  trans _ _ _ h h' := by
    obtain ⟨added, hadded, hfresh⟩ := h
    obtain ⟨added', hadded', hfresh'⟩ := h'
    refine ⟨added ++ added', by rw [hadded', hadded, List.append_assoc], fun e he => ?_⟩
    exact (List.mem_append.1 he).elim (hfresh e) (hfresh' e)

namespace Call

/-- Whether a call is for what an environment stores. -/
def isForProfiles : Call → Bool
  | .onEnvironment .. | .merge .. => true
  | _ => false

theorem setChain_extends (i : Nat) (changed : Chain Nat × Event) :
    (setChain i changed).Respects Extends :=
  fun _ => .of_eq rfl

theorem addChain_extends (c : Chain Nat) : (addChain c).Respects Extends :=
  fun _ => .of_eq rfl

theorem newEnvironment_extends (chain : Nat) (registry : Registry) :
    (Workspace.newEnvironment chain registry).Respects Extends :=
  fun _ => ⟨_, rfl, List.forall_mem_singleton.2 ⟨rfl, rfl⟩⟩

theorem buildEnvironment_extends (host : Host) (l : Layering) (registry : Registry) :
    (Workspace.buildEnvironment host l registry).Respects Extends := by
  have hbind : (Workspace.bindTraceId none).Respects Extends := fun _ => .of_eq rfl
  refine hbind.bind fun _ => (l.build_respects host).bind fun c w => ?_
  rw [adoptEnvironment_apply]
  exact ⟨_, rfl, List.forall_mem_singleton.2 ⟨rfl, rfl⟩⟩

theorem extends_after {call : Call} (h : call.isForProfiles = false) (w : Workspace) :
    Extends w (call.after w) := by
  have hchange (i source : Nat) (change : Chain Nat → Layer Nat → Except Error (Chain Nat × Event)) :
      (Workspace.changeChain i source change).Respects Extends :=
    (Action.Respects.read _).bind fun _ => (Action.Respects.ofExcept _).bind fun _ =>
      setChain_extends i _
  have hnew (sources : List Nat) : (Workspace.newChain sources).Respects Extends :=
    (Action.Respects.read _).bind fun _ => (Action.Respects.emit _).bind fun _ => addChain_extends _
  have hremove (i : Nat) (name : String) : (Workspace.removeFrom i name).Respects Extends := by
    refine (Action.Respects.read _).bind fun removed => ?_
    split
    next => exact .pure _
    next => exact (setChain_extends i _).bind fun _ => .pure _
  cases call with
  | addSource => exact .of_eq rfl
  | setStore => exact .of_eq rfl
  | newChain sources => exact hnew sources w
  | changeChain chain source change => exact hchange chain source change w
  | removeFrom chain name => exact hremove chain name w
  | newResolver => exact .of_eq rfl
  | onResolver => exact .of_eq rfl
  | newEnvironment chain registry => exact newEnvironment_extends chain registry w
  | buildEnvironment host l registry => exact buildEnvironment_extends host l registry w
  | bindTraceId => exact .of_eq rfl
  | onEnvironment => contradiction
  | merge => contradiction

end Call

variable {w w' : Workspace} {i : Nat}

theorem Extends.length_le (h : Extends w w') : w.environments.length ≤ w'.environments.length := by
  obtain ⟨added, hadded, -⟩ := h
  rw [hadded, List.length_append]
  exact Nat.le_add_right ..

theorem Extends.environment_eq (h : Extends w w') (hi : i < w.environments.length) :
    w'.environment i = w.environment i := by
  obtain ⟨added, hadded, -⟩ := h
  rw [environment, environment, hadded, List.getD_append _ _ _ _ hi]

theorem Extends.storesProper (h : Extends w w') (hi : w.environments.length ≤ i)
    (hi' : i < w'.environments.length) : (w'.load i).StoresProper := by
  obtain ⟨added, hadded, hfresh⟩ := h
  have hmem : w'.environment i ∈ added := by
    have hlt : i - w.environments.length < added.length := by
      rw [hadded, List.length_append] at hi'
      omega
    rw [environment, hadded, List.getD_append_right _ _ _ _ hi, List.getD_eq_getElem _ _ hlt]
    exact List.getElem_mem hlt
  obtain ⟨hactive, hdefaults⟩ := hfresh _ hmem
  refine ⟨?_, ?_⟩
  · show IsProper (w'.environment i).active
    rw [hactive]
    exact Profile.isProper_nil
  · show IsProper (w'.environment i).defaults
    rw [hdefaults]
    exact Environment.isProper_reserved

/-! ## 2. What a call does to an environment -/

/-- What becomes of an environment in a call: its profiles stay, or the call or the merge is its own. -/
inductive Change (w : Workspace) (i : Nat) : Call → Environment → Prop where
  | untouched {call e} (hactive : e.active = (w.load i).active)
      (hdefaults : e.defaults = (w.load i).defaults) : Change w i call e
  | called (call : Environment.Call) :
    Change w i (.onEnvironment i call) (call.perform (w.load i)).state
  | mergedChild {parent} (hne : i ≠ parent) (hp : parent < w.environments.length) :
    Change w i (.merge i parent) (Environment.merge (w.pair i parent)).state.child
  | mergedParent {child} (hne : child ≠ i) :
    Change w i (.merge child i) (Environment.merge (w.pair child i)).state.parent
  | mergedSelf : Change w i (.merge i i) (Environment.mergeSelf (w.load i)).state

theorem environment_merge_of_ne {child parent : Nat} (hc : child ≠ i) (hp : parent ≠ i) :
    (merge child parent w).state.environment i = w.environment i := by
  by_cases hne : child = parent
  · subst hne
    rw [merge_apply_self]
    exact environment_store_of_ne hc
  · rw [state_merge hne, environment_store_of_ne hp, environment_store_of_ne hc]
    rfl

theorem change_of_environment_eq {call : Call} (h : w'.environment i = w.environment i) :
    Change w i call (w'.load i) := by
  refine .untouched ?_ ?_
  · show (w'.environment i).active = (w.environment i).active
    rw [h]
  · show (w'.environment i).defaults = (w.environment i).defaults
    rw [h]

theorem Call.change_after (hw : w.Sound) {call : Call} (hfor : call.IsFor w)
    (hi : i < w.environments.length) : Change w i call ((call.after w).load i) := by
  cases hforProfiles : call.isForProfiles with
  | false => exact change_of_environment_eq ((call.extends_after hforProfiles w).environment_eq hi)
  | true =>
    cases call with
    | onEnvironment j call =>
      by_cases hj : j = i
      · subst hj
        rw [Call.after, load_onEnvironment hw hi call.perform_keeps]
        exact .called call
      · exact change_of_environment_eq (environment_store_of_ne hj)
    | merge child parent =>
      rw [Call.after]
      by_cases hne : child = parent
      · subst hne
        by_cases hc : child = i
        · subst hc
          rw [merge_apply_self, load_onEnvironment hw hi Environment.mergeSelf_keeps]
          exact .mergedSelf
        · exact change_of_environment_eq (environment_merge_of_ne hc hc)
      · by_cases hc : child = i
        · subst hc
          rw [load_merge_child hw hi hfor.2 hne]
          exact .mergedChild hne hfor.2
        · by_cases hp : parent = i
          · subst hp
            rw [load_merge_parent hw hfor.1 hi hne]
            exact .mergedParent hne
          · exact change_of_environment_eq (environment_merge_of_ne hc hp)
    | _ => contradiction

theorem Call.length_after {call : Call} (h : call.isForProfiles = true) (w : Workspace) :
    (call.after w).environments.length = w.environments.length := by
  cases call with
  | onEnvironment environment call => exact length_onEnvironment environment _ w
  | merge child parent => exact length_merge child parent w
  | _ => contradiction

theorem Call.length_le_after (call : Call) (w : Workspace) :
    w.environments.length ≤ (call.after w).environments.length := by
  cases h : call.isForProfiles with
  | false => exact (call.extends_after h w).length_le
  | true => exact (call.length_after h w).ge

/-! ## 3. What a call keeps -/

namespace Call

/-- Whether a call puts others in place of the active profiles of an environment. -/
def setsActive (i : Nat) : Call → Bool
  | .onEnvironment environment call => environment == i && call.setsActive
  | _ => false

/-- Whether a call sets the default profiles of an environment or merges others into them. -/
def setsDefaults (i : Nat) : Call → Bool
  | .onEnvironment environment call => environment == i && call.setsDefaults
  | .merge child _ => child == i
  | _ => false

end Call

/-- All environments store proper profiles. -/
def StoresAllProper (w : Workspace) : Prop :=
  ∀ i < w.environments.length, (w.load i).StoresProper

namespace Change

variable {call : Call} {e : Environment}

theorem storesProper (h : Change w i call e) (hw : w.Sound) (hproper : w.StoresAllProper)
    (hi : i < w.environments.length) : e.StoresProper := by
  cases h with
  | untouched hactive hdefaults => exact StaysProper.of_eq hactive hdefaults (hproper i hi)
  | called call => exact call.perform_staysProper _ (hproper i hi)
  | mergedChild hne hp =>
    exact Environment.merge_staysProper (hw.fresh_load hp) (hproper i hi) (hproper _ hp)
  | mergedParent hne =>
    rw [Environment.parent_merge]
    exact Environment.profiles_staysProper _ (hproper i hi)
  | mergedSelf => exact Environment.mergeSelf_staysProper (hw.fresh_load hi) (hproper i hi)

theorem keepsActive (h : Change w i call e) (hcall : call.setsActive i = false) :
    KeepsActive (w.load i) e := by
  cases h with
  | untouched hactive hdefaults => exact .of_eq hactive
  | called call =>
    have hcalled : call.setsActive = false := by simpa [Call.setsActive] using hcall
    exact Environment.Call.perform_keepsActive hcalled _
  | @mergedChild parent hne hp => exact Environment.merge_keepsActive (w.pair i parent)
  | mergedParent hne =>
    rw [Environment.parent_merge]
    exact Environment.profiles_keepsActive _
  | mergedSelf => exact Environment.mergeSelf_keepsActive _

theorem keepsDefaults (h : Change w i call e) (hcall : call.setsDefaults i = false) :
    KeepsDefaults (w.load i) e := by
  cases h with
  | untouched hactive hdefaults => exact .of_eq hdefaults
  | called call =>
    have hcalled : call.setsDefaults = false := by simpa [Call.setsDefaults] using hcall
    exact Environment.Call.perform_keepsDefaults hcalled _
  | mergedChild hne hp => simp [Call.setsDefaults] at hcall
  | mergedParent hne =>
    rw [Environment.parent_merge]
    exact Environment.profiles_keepsDefaults _
  | mergedSelf => simp [Call.setsDefaults] at hcall

end Change

/-! ## 4. Runs of calls -/

theorem Call.storesAllProper_after {call : Call} (hw : w.Sound) (hfor : call.IsFor w)
    (hproper : w.StoresAllProper) : (call.after w).StoresAllProper := by
  intro i hi
  by_cases hold : i < w.environments.length
  · exact (call.change_after hw hfor hold).storesProper hw hproper hold
  · -- Only a call that is not for profiles adds environments, and those it adds are fresh.
    have hnew : w.environments.length ≤ i := Nat.le_of_not_lt hold
    cases hforProfiles : call.isForProfiles with
    | false => exact (call.extends_after hforProfiles w).storesProper hnew hi
    | true => exact absurd hi (Nat.not_lt.2 (call.length_after hforProfiles w ▸ hnew))

theorem Reached.storesAllProper (hw : Reached w) : w.StoresAllProper := by
  induction hw with
  | empty => exact fun _ hi => absurd hi (Nat.not_lt_zero _)
  | after hw hfor ih => exact Call.storesAllProper_after hw.sound hfor ih

/-- What each of some calls does to the profiles of an environment all of them do. -/
theorem related_foldl_after (R : Environment → Environment → Prop) [Std.Refl R]
    [IsTrans Environment R] {calls : List Call} (hw : w.Sound) (hi : i < w.environments.length)
    (hfor : Call.AllFor w calls)
    (hstep : ∀ call ∈ calls, ∀ {w e}, Change w i call e → R (w.load i) e) :
    R (w.load i) ((calls.foldl Call.after w).load i) := by
  induction calls generalizing w with
  | nil => exact refl _
  | cons call calls ih =>
    obtain ⟨hcall, hcalls⟩ := hfor
    obtain ⟨hfirst, hrest⟩ := List.forall_mem_cons.1 hstep
    have hi' := Nat.lt_of_lt_of_le hi (call.length_le_after w)
    exact trans_of R (hfirst (call.change_after hw hcall hi)) (ih (hw.after hcall) hi' hcalls hrest)

/-- **Stored profiles.** In every workspace that is reached, the profiles that an environment stores are
proper. Whatever is called from there on, with or without success, the active ones stay in front until
others are set; so do the default ones as they are, if there are others than the reserved one alone, until
others are set or merged into them. -/
theorem stored_profiles_proper {w : Workspace} (hw : Reached w) {i : Nat}
    (hi : i < w.environments.length) :
    IsProper (w.environment i).active ∧ IsProper (w.environment i).defaults ∧
      ∀ calls, Call.AllFor w calls →
        ((∀ call ∈ calls, call.setsActive i = false) →
          (w.environment i).active <+: ((calls.foldl Call.after w).environment i).active) ∧
        ((w.environment i).defaults ≠ [reservedProfile] →
          (∀ call ∈ calls, call.setsDefaults i = false) →
            ((calls.foldl Call.after w).environment i).defaults = (w.environment i).defaults) := by
  have hproper := hw.storesAllProper i hi
  refine ⟨hproper.active, hproper.defaults, fun calls hfor => ⟨fun hcalls => ?_, fun hne hcalls => ?_⟩⟩
  · have hkept := related_foldl_after KeepsActive hw.sound hi hfor fun call hcall _ _ hchange =>
      hchange.keepsActive (hcalls call hcall)
    exact (hkept hproper.active.nodup).2
  · exact related_foldl_after KeepsDefaults hw.sound hi hfor
      (fun call hcall _ _ hchange => hchange.keepsDefaults (hcalls call hcall)) hne

/-- An environment that has read its configured profiles. -/
def seeded : Workspace :=
  [Call.addSource ⟨"app", .mapping [(Environment.activeKey, .text "b, a, b"),
      (Environment.defaultKey, .text "d")]⟩,
    .newChain [0], .newEnvironment 0 .standard, .onEnvironment 0 .activeProfiles,
    .onEnvironment 0 .defaultProfiles].foldl Call.after .empty

/-- Another configuration, one more profile, one that is refused, and merges in both directions. -/
def laterCalls : List Call :=
  [.setStore 0 (.mapping [(Environment.activeKey, .text "z")]), .onEnvironment 0 .activeProfiles,
    .onEnvironment 0 (.addActive (.text "c")), .onEnvironment 0 (.addActive (.text "!c")),
    .newChain [], .newEnvironment 1 .standard, .onEnvironment 1 (.setActive [.text "e", .text "a"]),
    .merge 1 0]

theorem stored_profiles_proper_later :
    IsProper (seeded.environment 0).active ∧ IsProper (seeded.environment 0).defaults ∧
      (seeded.environment 0).active <+: ((laterCalls.foldl Call.after seeded).environment 0).active ∧
      ((laterCalls.foldl Call.after seeded).environment 0).defaults =
        (seeded.environment 0).defaults := by
  have hw : Reached seeded := Reached.empty.afterAll (by decide)
  have hfor : Call.AllFor seeded laterCalls := by decide
  obtain ⟨hactive, hdefaults, hkept⟩ := stored_profiles_proper hw (i := 0) (by decide)
  obtain ⟨hfront, hsame⟩ := hkept laterCalls hfor
  exact ⟨hactive, hdefaults, hfront (by decide), hsame (by cbv; decide) (by decide)⟩

/-- The configuration is not asked again, and those of a parent come last. -/
example : (((laterCalls ++ [Call.merge 0 1]).foldl Call.after seeded).environment 0).active =
    ["b", "a", "c", "e"] := by
  cbv

end LayeredConfig.Workspace
