import LayeredConfig.Proofs.Workspace.Calls

/-!
# Failures — what is left of a call that fails

A call of an environment that fails leaves its chain, the profiles that it stores and those that reads
give. So does a merge that fails, except that sources of the parent have been adopted if their names
were new (`failure_changes_nothing`).
-/

namespace LayeredConfig.Workspace

open Environment (Pair activeProfiles defaultProfiles)

/-- The environment has the chain that it had, and reads of its profiles give what they gave. -/
structure Unchanged (w w' : Workspace) (i : Nat) : Prop where
  chain_eq : w'.chain (w'.environment i).chain = w.chain (w.environment i).chain
  active_eq : (onEnvironment i activeProfiles w').result = (onEnvironment i activeProfiles w).result
  defaults_eq :
    (onEnvironment i defaultProfiles w').result = (onEnvironment i defaultProfiles w).result

variable {w w' : Workspace} {i child parent : Nat} {err : Error}

theorem Unchanged.of_readsAlike (hw : w.Sound) (hi : i < w.environments.length)
    (hchain : w'.chain (w'.environment i).chain = w.chain (w.environment i).chain)
    (h : Environment.ReadsAlike (w.load i) (w'.load i)) : Unchanged w w' i where
  chain_eq := hchain
  active_eq := by
    rw [result_onEnvironment, result_onEnvironment, Environment.result_activeProfiles,
      Environment.result_activeProfiles, (h (hw.fresh_load hi)).2.1]
  defaults_eq := by
    rw [result_onEnvironment, result_onEnvironment, Environment.result_defaultProfiles,
      Environment.result_defaultProfiles, (h (hw.fresh_load hi)).2.2]

/-! ## 1. Calls -/

theorem unchanged_of_call (hw : w.Sound) (hi : i < w.environments.length)
    {call : Environment.Call} (h : (onEnvironment i call.perform w).result = .error err) :
    Unchanged w (onEnvironment i call.perform w).state i := by
  -- What is stored may have been read on the way, so the two environments are compared by their reads.
  refine .of_readsAlike hw hi (congrArg w.chain (chain_environment_store i i _ w)) ?_
  rw [load_onEnvironment hw hi call.perform_keeps]
  exact Environment.Call.readsAlike_of_error (hw.fresh_load hi) h

theorem environment_of_failed_call (hw : w.Sound) (hi : i < w.environments.length)
    {call : Environment.Call} (hnamed : call.WellNamed)
    (h : (onEnvironment i call.perform w).result = .error err) :
    (onEnvironment i call.perform w).state.environment i = w.environment i := by
  have huntouched := Environment.Call.untouched_of_error hnamed (hw.fresh_load hi) h
  show (store i (call.perform (w.load i)).state w).environment i = _
  rw [environment_store_self hi, huntouched.active_eq, huntouched.defaults_eq]
  rfl

/-! ## 2. Merges -/

section FailedMerge

variable (hw : w.Sound) (hc : child < w.environments.length) (hp : parent < w.environments.length)
  (h : (merge child parent w).result = .error err)

include h

/-- A merge that fails has read the profiles of the parent in vain, and the child has its sources. -/
theorem child_of_failed_merge (hne : child ≠ parent) :
    (Environment.merge (w.pair child parent)).state.child = (w.pair child parent).adopting := by
  rw [result_merge hne] at h
  rw [(Environment.merge_of_error (Environment.error_of_merge h)).2]

include hc

theorem environment_of_failed_merge (hne : child ≠ parent) :
    (merge child parent w).state.environment child = w.environment child := by
  rw [state_merge hne, environment_store_of_ne (Ne.symm hne), child_of_failed_merge h hne]
  exact environment_store_self hc

include hw hp

theorem load_of_failed_merge (hne : child ≠ parent) :
    (merge child parent w).state.load child = (w.pair child parent).adopting :=
  (load_merge_child hw hc hp hne).trans (child_of_failed_merge h hne)

end FailedMerge

/-- An environment that is merged into itself may keep what it read before the merge failed. -/
theorem readsAlike_of_failed_mergeSelf (hw : w.Sound) (hi : i < w.environments.length)
    (h : (merge i i w).result = .error err) :
    Environment.ReadsAlike (w.load i) ((merge i i w).state.load i) := by
  rw [merge_apply_self] at h ⊢
  have hprofiles := Environment.error_of_mergeSelf h
  obtain ⟨r, hcaches, hstate⟩ :=
    Environment.state_profiles_of_error (hw.fresh_load hi) hprofiles
  rw [load_onEnvironment hw hi Environment.mergeSelf_keeps,
    (Environment.mergeSelf_of_error hprofiles).2, hstate]
  exact .of_kept rfl hcaches (.inr rfl) (.inl rfl)

theorem unchanged_of_failed_merge (hw : w.Sound) (hc : child < w.environments.length)
    (hp : parent < w.environments.length) (h : (merge child parent w).result = .error err)
    (hnames : (w.chain (w.environment parent).chain).names ⊆
      (w.chain (w.environment child).chain).names) :
    Unchanged w (merge child parent w).state child := by
  have hadopt := Chain.adopt_of_names_subset hnames
  refine .of_readsAlike hw hc ?_ ?_
  · rw [chain_environment_merge, chain_merge hw hc, chain_adoptNumbers_child hw hc, hadopt]
  · by_cases hne : child = parent
    · subst hne
      exact readsAlike_of_failed_mergeSelf hw hc h
    · have hsame : (w.pair child parent).adopting = w.load child := by
        have hview := view_adopt w (w.chain (w.environment child).chain)
          (w.chain (w.environment parent).chain)
        rw [hadopt] at hview
        exact congrArg (fun chain => { w.load child with chain := chain }) hview.symm
      rw [load_of_failed_merge hw hc hp h hne, hsame]
      exact refl_of Environment.ReadsAlike _

/-- **Failures.** A call of an environment that fails leaves the chain, and what reads of the profiles
give; what is stored of them stays as well, unless there are trees with names that are none. A merge that
fails leaves what another environment stores, and all of this if the parent has no new names. -/
theorem failure_changes_nothing {w : Workspace} (hw : Reached w) :
    (∀ i < w.environments.length, ∀ (call : Environment.Call) err,
      (onEnvironment i call.perform w).result = .error err →
        Unchanged w (onEnvironment i call.perform w).state i ∧
          (call.WellNamed →
            (onEnvironment i call.perform w).state.environment i = w.environment i)) ∧
      ∀ child < w.environments.length, ∀ parent < w.environments.length, ∀ err,
        (merge child parent w).result = .error err →
          (child ≠ parent →
            (merge child parent w).state.environment child = w.environment child) ∧
          ((w.chain (w.environment parent).chain).names ⊆
              (w.chain (w.environment child).chain).names →
            Unchanged w (merge child parent w).state child) :=
  ⟨fun _ hi _ _ h => ⟨unchanged_of_call hw.sound hi h,
      fun hnamed => environment_of_failed_call hw.sound hi hnamed h⟩,
    fun _ hc _ hp _ h => ⟨fun hne => environment_of_failed_merge hc h hne,
      fun hnames => unchanged_of_failed_merge hw.sound hc hp h hnames⟩⟩

/-- An environment without sources, and one whose chain configures a profile that has no value. -/
def emptyAndUnresolved : Workspace :=
  [Call.newChain [], .newEnvironment 0 .standard,
    .addSource ⟨"app", .mapping [(Environment.activeKey, .text "$\x7bmissing\x7d")]⟩,
    .newChain [0], .newEnvironment 1 .standard].foldl Call.after .empty

theorem reached_emptyAndUnresolved : Reached emptyAndUnresolved :=
  Reached.empty.afterAll (by decide)

/-- A read fails, and so do two merges. -/
theorem failure_changes_nothing_unresolved :
    Unchanged emptyAndUnresolved
        (onEnvironment 1 (Environment.Call.perform .activeProfiles) emptyAndUnresolved).state 1 ∧
      (onEnvironment 1 (Environment.Call.perform .activeProfiles)
        emptyAndUnresolved).state.environment 1 = emptyAndUnresolved.environment 1 ∧
      (merge 0 1 emptyAndUnresolved).state.environment 0 = emptyAndUnresolved.environment 0 ∧
      Unchanged emptyAndUnresolved (merge 1 1 emptyAndUnresolved).state 1 := by
  obtain ⟨hcalls, hmerges⟩ := failure_changes_nothing reached_emptyAndUnresolved
  have hread := hcalls 1 (by decide) .activeProfiles
    (.unresolved "missing" "$\x7bmissing\x7d") (by cbv)
  have hmerge := hmerges 0 (by decide) 1 (by decide)
    (.unresolved "missing" "$\x7bmissing\x7d") (by cbv)
  have hself := hmerges 1 (by decide) 1 (by decide)
    (.unresolved "missing" "$\x7bmissing\x7d") (by cbv)
  exact ⟨hread.1, hread.2 trivial, hmerge.1 (by decide), hself.2 (List.Subset.refl _)⟩

/-- The source of the parent has been adopted before its profiles are read. -/
theorem failure_changes_chain :
    ¬∀ (w : Workspace) (child parent : Nat) (err : Error), Reached w →
      child < w.environments.length → parent < w.environments.length →
      (merge child parent w).result = .error err →
      (merge child parent w).state.chain (w.environment child).chain =
        w.chain (w.environment child).chain := by
  intro h
  have hchain := h emptyAndUnresolved 0 1 (.unresolved "missing" "$\x7bmissing\x7d")
    reached_emptyAndUnresolved (by decide) (by decide) (by cbv)
  have hbefore : (emptyAndUnresolved.chain 0).names = [] := by cbv
  have hafter : ((merge 0 1 emptyAndUnresolved).state.chain 0).names = ["app"] := by cbv
  have hnames := congrArg Chain.names hchain
  rw [show (emptyAndUnresolved.environment 0).chain = 0 from rfl, hbefore, hafter] at hnames
  contradiction

end LayeredConfig.Workspace
