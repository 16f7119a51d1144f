import LayeredConfig.Proofs.Workspace.Calls

/-!
# Merging — what a child has of its parent

The active profiles that a child stores come first and those of the parent behind them
(`active_after_merge`). So do its sources, and what the child found in them it finds still
(`merge_conserves`).
-/

namespace LayeredConfig.Workspace

open Environment (Pair activeProfiles)

/-! ## 1. What joins -/

/-- The sources of a parent whose names its child does not have. -/
def newSources (w : Workspace) (child parent : Nat) : List Source :=
  (w.load parent).chain.layers.filter fun l => l.name ∉ (w.load child).chain.names

theorem layers_pair_adopting (w : Workspace) (child parent : Nat) :
    (w.pair child parent).adopting.chain.layers =
      (w.load child).chain.layers ++ newSources w child parent :=
  Chain.layers_adopt (w.load child).chain (w.load parent).chain

/-! ## 2. Active profiles -/

/-- What the child misses as it reads its active profiles is not in the new sources either. -/
def FillsNoGap (w : Workspace) (child parent : Nat) : Prop :=
  ∀ key ∈ (w.load child).resolver.consulted (w.load child).chain.layers Environment.activeKey,
    Source.firstHit? key (w.load child).chain.layers = .ok none →
      Source.firstHit? key (newSources w child parent) = .ok none

section Active

variable {w : Workspace} {child parent : Nat} {active parentActive : List String}

theorem active_merge (hw : w.Sound) (hc : child < w.environments.length)
    (hp : parent < w.environments.length) (hne : child ≠ parent)
    (hparent : (w.load parent).activeRead = .ok parentActive)
    (hmerge : (merge child parent w).result = .ok ()) :
    ((merge child parent w).state.load child).active =
      (w.environment child).active ++
        parentActive.filter (· ∉ (w.environment child).active) := by
  rw [result_merge hne] at hmerge
  rw [load_merge_child hw hc hp hne]
  exact Environment.active_merge (hw.fresh_load hp) (hw.fits_environment hc).active_nodup
    (hw.fits_environment hp).active_nodup hparent hmerge

theorem activeRead_merge_self (hw : w.Sound) (hc : child < w.environments.length)
    (hmerge : (merge child child w).result = .ok ()) :
    ((merge child child w).state.load child).activeRead = (w.load child).activeRead := by
  rw [merge_apply_self] at hmerge ⊢
  rw [load_onEnvironment hw hc Environment.mergeSelf_keeps]
  exact Environment.activeRead_mergeSelf (hw.fresh_load hc) (hw.fits_environment hc).active_nodup
    hmerge

/-- A child that stores no profiles after the merge either reads what it read before. -/
theorem activeRead_merge_of_no_gap (hw : w.Sound) (hc : child < w.environments.length)
    (hp : parent < w.environments.length)
    (hactive : ((merge child parent w).state.load child).active = (w.load child).active)
    (hgap : FillsNoGap w child parent) :
    ((merge child parent w).state.load child).activeRead = (w.load child).activeRead := by
  have hkeeps := load_child_merge hw hc hp
  refine Environment.activeRead_of_hits (hw.fresh_load hc) hkeeps.caches hactive fun key hkey => ?_
  rw [hkeeps.chain_eq, layers_pair_adopting]
  by_cases hmissed : Source.firstHit? key (w.load child).chain.layers = .ok none
  · rw [Source.firstHit?_append_of_none hmissed, hgap key hkey hmissed, hmissed]
  · exact Source.firstHit?_append_of_ne_none hmissed _

end Active

/-- **Union.** After a merge the active profiles are those of the child and then the new ones of the
parent, provided that the child stores its own where the parent has some, and that the new sources fill no
gap where nothing is stored. An environment that is merged into itself reads what it read. -/
theorem active_after_merge {w : Workspace} (hw : Reached w) {child parent : Nat}
    (hc : child < w.environments.length) (hp : parent < w.environments.length)
    {active parentActive : List String}
    (hactive : (onEnvironment child activeProfiles w).result = .ok active)
    (hparent : (onEnvironment parent activeProfiles w).result = .ok parentActive)
    (hmerge : (merge child parent w).result = .ok ())
    (hstored : child ≠ parent → parentActive ≠ [] → (w.environment child).active = active)
    (hgap : child ≠ parent → parentActive = [] → (w.environment child).active = [] →
      FillsNoGap w child parent) :
    (onEnvironment child activeProfiles (merge child parent w).state).result =
      .ok (active ++ parentActive.filter (· ∉ active)) := by
  have hsound := hw.sound
  rw [result_onEnvironment, Environment.result_activeProfiles] at hactive hparent ⊢
  by_cases hne : child = parent
  · subst hne
    cases hactive.symm.trans hparent
    have hnone : active.filter (· ∉ active) = [] :=
      List.filter_eq_nil_iff.2 fun name hname => by simpa using hname
    rw [activeRead_merge_self hsound hc hmerge, hactive, hnone, List.append_nil]
  · have hjoined := active_merge hsound hc hp hne hparent hmerge
    by_cases hnone : parentActive = []
    · subst hnone
      rw [List.filter_nil, List.append_nil] at hjoined ⊢
      rw [← hactive]
      by_cases hunset : (w.environment child).active = []
      · -- Nothing is stored, so the read looks into the sources, which now are also the parent's.
        exact activeRead_merge_of_no_gap hsound hc hp hjoined (hgap hne rfl hunset)
      · have hread : (w.load child).activeRead = .ok (w.environment child).active :=
          Environment.activeRead_of_ne_nil hunset
        rw [Environment.activeRead_of_ne_nil (hjoined ▸ hunset), hjoined, hread]
    · rw [hstored hne hnone] at hjoined
      have hsome : active ++ parentActive.filter (· ∉ active) ≠ [] := by
        intro h
        obtain ⟨rfl, hfilter⟩ := List.append_eq_nil_iff.1 h
        exact hnone (by simpa using hfilter)
      rw [Environment.activeRead_of_ne_nil (hjoined ▸ hsome), hjoined]

/-- An environment whose chain configures a profile, and one without sources that has set another. -/
def configuredAndSet : Workspace :=
  [Call.addSource ⟨"app", .mapping [(Environment.activeKey, .text "a")]⟩,
    .newChain [0], .newEnvironment 0 .standard,
    .newChain [], .newEnvironment 1 .standard, .onEnvironment 1 (.setActive [.text "b"])].foldl
      Call.after .empty

theorem reached_configuredAndSet : Reached configuredAndSet :=
  Reached.empty.afterAll (by decide)

/-- The profile that is configured is there after the merge if it was read before. -/
theorem active_after_merge_read :
    (onEnvironment 0 activeProfiles
      (merge 0 1 ((Call.onEnvironment 0 .activeProfiles).after configuredAndSet)).state).result =
        .ok ["a", "b"] :=
  have hw : Reached ((Call.onEnvironment 0 .activeProfiles).after configuredAndSet) :=
    reached_configuredAndSet.after (by decide)
  @active_after_merge _ hw 0 1 (by decide) (by decide) ["a"] ["b"] (by cbv) (by cbv) (by cbv)
    (fun _ _ => by cbv) fun _ h => absurd h (by decide)

/-- A profile that is only configured is lost to the one of the parent. -/
theorem active_after_merge_unread :
    ¬∀ (w : Workspace) (child parent : Nat) (active parentActive : List String), Reached w →
      child < w.environments.length → parent < w.environments.length →
      (onEnvironment child activeProfiles w).result = .ok active →
      (onEnvironment parent activeProfiles w).result = .ok parentActive →
      (merge child parent w).result = .ok () →
      (onEnvironment child activeProfiles (merge child parent w).state).result =
        .ok (active ++ parentActive.filter (· ∉ active)) := by
  intro h
  have hunion := h configuredAndSet 0 1 ["a"] ["b"] reached_configuredAndSet (by decide) (by decide)
    (by cbv) (by cbv) (by cbv)
  have hlost : (onEnvironment 0 activeProfiles (merge 0 1 configuredAndSet).state).result =
      .ok ["b"] := by
    cbv
  rw [hlost] at hunion
  exact absurd (Except.ok.inj hunion) (by decide)

/-! ## 3. Sources and values -/

/-- The value of a key in an environment as text, without expansion. -/
def rawOf (w : Workspace) (i : Nat) (key : String) : Except Error Value :=
  (onEnvironment i (Environment.resolving fun sources => Resolver.getRaw sources key) w).result

theorem rawOf_eq (w : Workspace) (i : Nat) (key : String) :
    rawOf w i key =
      (Resolver.rawValue (w.load i).resolver.registry (w.load i).chain.layers key).2 := by
  show (Resolver.getRaw (w.load i).chain.layers key (w.load i).resolver).result = _
  rw [Resolver.getRaw_apply]

/-- What stays and what comes as a parent is merged into a child. -/
structure Conserves (w w' : Workspace) (child parent : Nat) : Prop where
  sources_eq : w'.sources = w.sources
  layers_eq : (w'.chain (w'.environment child).chain).layers =
    (w.chain (w.environment child).chain).layers ++
      (w.chain (w.environment parent).chain).layers.filter fun l =>
        l.name ∉ (w.chain (w.environment child).chain).names
  names_nodup : (w'.chain (w'.environment child).chain).names.Nodup
  parent_eq : w'.chain (w'.environment parent).chain = w.chain (w.environment parent).chain
  raw_eq : ∀ key, Source.firstHit? key (w.load child).chain.layers ≠ .ok none →
    rawOf w' child key = rawOf w child key
  raw_new : ∀ key, Source.firstHit? key (w.load child).chain.layers = .ok none →
    rawOf w' child key =
      (Resolver.getRaw (newSources w child parent) key (w.load child).resolver).result

section Merged

variable {w : Workspace} {child parent : Nat}

theorem conserves_merge (hw : w.Sound) (hc : child < w.environments.length)
    (hp : parent < w.environments.length) :
    Conserves w (merge child parent w).state child parent := by
  have hkeeps := load_child_merge hw hc hp
  have hraw (key : String) : rawOf (merge child parent w).state child key =
      (Resolver.rawValue (w.load child).resolver.registry
        ((w.load child).chain.layers ++ newSources w child parent) key).2 := by
    rw [rawOf_eq, hkeeps.chain_eq, hkeeps.caches.registry_eq, layers_pair_adopting]
    rfl
  refine ⟨sources_merge child parent w, ?_, Chain.nodup_names _, ?_, fun key hfound => ?_,
    fun key hnone => ?_⟩
  · rw [chain_environment_merge, chain_merge hw hc, chain_adoptNumbers_child hw hc,
      Chain.layers_adopt]
  · rw [chain_environment_merge, chain_merge hw hc, chain_adoptNumbers_parent hw hc]
  · -- What the child found, or failed at, stands before all new sources.
    have hhit := Source.firstHit?_append_of_ne_none hfound (newSources w child parent)
    rw [hraw, Resolver.rawValue_eq_of_hit hhit, rawOf_eq]
  · have hhit := Source.firstHit?_append_of_none hnone (newSources w child parent)
    rw [hraw, Resolver.rawValue_eq_of_hit hhit, Resolver.getRaw_apply]

/-- No chain changes in a second merge. -/
theorem chains_merge_again (hw : w.Sound) (hc : child < w.environments.length)
    (hp : parent < w.environments.length) :
    (merge child parent (merge child parent w).state).state.chains =
      (merge child parent w).state.chains := by
  have hw' := hw.merge hc hp
  have hc' : child < (merge child parent w).state.environments.length := by rwa [length_merge]
  rw [chains_merge hw' hc']
  refine chains_adoptNumbers_of_eq hw' hc' ?_
  rw [chain_environment_merge, chain_environment_merge, chain_merge hw hc, chain_merge hw hc,
    chain_adoptNumbers_child hw hc, chain_adoptNumbers_parent hw hc, Chain.adopt_adopt]

theorem agrees_merge_again (hw : w.Sound) (hc : child < w.environments.length)
    (hp : parent < w.environments.length) (hmerge : (merge child parent w).result = .ok ()) :
    (merge child parent (merge child parent w).state).result = .ok () ∧
      Environment.Agrees ((merge child parent w).state.load child)
        ((merge child parent (merge child parent w).state).state.load child) := by
  have hw' := hw.merge hc hp
  have hc' : child < (merge child parent w).state.environments.length := by rwa [length_merge]
  have hp' : parent < (merge child parent w).state.environments.length := by rwa [length_merge]
  by_cases hne : child = parent
  · subst hne
    rw [merge_apply_self] at hmerge hw' hc' ⊢
    rw [load_onEnvironment hw' hc' Environment.mergeSelf_keeps, result_onEnvironment,
      load_onEnvironment hw hc Environment.mergeSelf_keeps]
    exact Environment.mergeSelf_again (hw.fresh_load hc) (hw.fits_environment hc).active_nodup
      hmerge (hw.fits_environment hc).defaults_nodup
  · rw [result_merge hne] at hmerge ⊢
    rw [load_merge_child hw' hc' hp' hne, load_merge_child hw hc hp hne, load_merge hw hc hp hne]
    exact Environment.merge_again (hw.fresh_load hp) (hw.fits_environment hc).active_nodup
      (hw.fits_environment hp).active_nodup hmerge

end Merged

/-- **Conservation.** A merge that succeeds puts the sources of the parent that have new names behind
those of the child, and changes no value that the child had. A second merge of the same parent changes
no chain, no active profile, and of the default profiles at most the order. -/
theorem merge_conserves {w : Workspace} (hw : Reached w) {child parent : Nat}
    (hc : child < w.environments.length) (hp : parent < w.environments.length)
    (hmerge : (merge child parent w).result = .ok ()) :
    Conserves w (merge child parent w).state child parent ∧
      (merge child parent (merge child parent w).state).result = .ok () ∧
      (merge child parent (merge child parent w).state).state.chains =
        (merge child parent w).state.chains ∧
      Environment.Agrees ((merge child parent w).state.load child)
        ((merge child parent (merge child parent w).state).state.load child) := by
  obtain ⟨hresult, hagrees⟩ := agrees_merge_again hw.sound hc hp hmerge
  exact ⟨conserves_merge hw.sound hc hp, hresult, chains_merge_again hw.sound hc hp, hagrees⟩

/-- Two environments whose chains each have a source of one name, and the second another one besides. -/
def overlapping : Workspace :=
  [Call.addSource ⟨"app", .mapping [("a", .text "1")]⟩,
    .addSource ⟨"app", .mapping [("a", .text "2"), ("b", .text "3")]⟩,
    .addSource ⟨"lib", .mapping [("a", .text "4"), ("c", .text "5")]⟩,
    .newChain [0], .newEnvironment 0 .standard, .newChain [1, 2],
    .newEnvironment 1 .standard].foldl Call.after .empty

theorem merge_conserves_overlapping :
    Conserves overlapping (merge 0 1 overlapping).state 0 1 ∧
      (merge 0 1 (merge 0 1 overlapping).state).result = .ok () ∧
      (merge 0 1 (merge 0 1 overlapping).state).state.chains =
        (merge 0 1 overlapping).state.chains ∧
      Environment.Agrees ((merge 0 1 overlapping).state.load 0)
        ((merge 0 1 (merge 0 1 overlapping).state).state.load 0) :=
  have hw : Reached overlapping := Reached.empty.afterAll (by decide)
  merge_conserves hw (by decide) (by decide) (by cbv)

/-- The namesake is left out with its values. -/
example : ["a", "b", "c"].map (rawOf (merge 0 1 overlapping).state 0) =
    [.ok (.text "1"), .ok .null, .ok (.text "5")] := by
  cbv

end LayeredConfig.Workspace
