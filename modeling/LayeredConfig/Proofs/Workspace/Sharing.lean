import LayeredConfig.Proofs.Environment.Union
import LayeredConfig.Workspace

/-!
# Sharing — environments behind their numbers

An environment is kept as the number of its chain, the number of its resolver, and its profiles. Where
a workspace is `Sound`, to put an environment back does not reach into another one, and a merge by
number is a merge of what stands behind the numbers (`load_merge`).
-/

namespace LayeredConfig.Workspace

open Environment (Keeps Pair)

/-- The numbers in an environment are those of so many chains and resolvers, and its profiles are stored
without repetitions. -/
structure Fits (chains resolvers : Nat) (e : BoundEnvironment) : Prop where
  chain_lt : e.chain < chains
  resolver_lt : e.resolver < resolvers
  active_nodup : e.active.Nodup
  defaults_nodup : e.defaults.Nodup

/-- All environments fit in, no two of them have one resolver, and expanders that are kept are for the
marks in force. -/
structure Sound (w : Workspace) : Prop where
  fits : ∀ e ∈ w.environments, Fits w.chains.length w.resolvers.length e
  resolvers_nodup : (w.environments.map (·.resolver)).Nodup
  fresh : ∀ r ∈ w.resolvers, r.resolver.Fresh

variable {w : Workspace} {i j : Nat} {e : Environment}

/-! ## 1. What a number leads to -/

theorem environment_eq (hi : i < w.environments.length) : w.environment i = w.environments[i] :=
  List.getD_eq_getElem _ _ hi

theorem environment_mem (hi : i < w.environments.length) : w.environment i ∈ w.environments := by
  rw [environment_eq hi]
  exact List.getElem_mem hi

namespace Sound

theorem fits_environment (hw : w.Sound) (hi : i < w.environments.length) :
    Fits w.chains.length w.resolvers.length (w.environment i) :=
  hw.fits _ (environment_mem hi)

theorem resolver_ne (hw : w.Sound) (hi : i < w.environments.length)
    (hj : j < w.environments.length) (hne : i ≠ j) :
    (w.environment i).resolver ≠ (w.environment j).resolver := by
  intro h
  have hi' : i < (w.environments.map (·.resolver)).length := by simpa using hi
  have hj' : j < (w.environments.map (·.resolver)).length := by simpa using hj
  have hsame : (w.environments.map (·.resolver))[i] = (w.environments.map (·.resolver))[j] := by
    simpa [environment_eq hi, environment_eq hj] using h
  exact hne (hw.resolvers_nodup.getElem_inj_iff.1 hsame)

theorem fresh_load (hw : w.Sound) (hi : i < w.environments.length) :
    (w.load i).resolver.Fresh := by
  have hlt := (hw.fits_environment hi).resolver_lt
  have hresolver : w.resolver (w.environment i).resolver ∈ w.resolvers := by
    rw [resolver, List.getD_eq_getElem _ _ hlt]
    exact List.getElem_mem hlt
  exact hw.fresh _ hresolver

end Sound

/-! ## 2. Putting an environment back -/

theorem environment_store_self (hi : i < w.environments.length) :
    (store i e w).environment i =
      { w.environment i with active := e.active, defaults := e.defaults } := by
  simp [store, environment, List.getD_eq_getElem?_getD, hi]

theorem environment_store_of_ne (hne : i ≠ j) :
    (store i e w).environment j = w.environment j := by
  simp [store, environment, List.getD_eq_getElem?_getD, hne]

theorem chain_environment_store (i j : Nat) (e : Environment) (w : Workspace) :
    ((store i e w).environment j).chain = (w.environment j).chain := by
  by_cases hne : i = j
  · subst hne
    by_cases hi : i < w.environments.length
    · rw [environment_store_self hi]
    · simp [store, environment, List.getD_eq_getElem?_getD, hi]
  · rw [environment_store_of_ne hne]

theorem length_store (i : Nat) (e : Environment) (w : Workspace) :
    (store i e w).environments.length = w.environments.length :=
  List.length_set

theorem load_store_self (hw : w.Sound) (hi : i < w.environments.length) :
    (store i e w).load i = { e with chain := (w.load i).chain } := by
  have hresolver : ((store i e w).resolver (w.environment i).resolver).resolver = e.resolver := by
    simp [store, resolver, List.getD_eq_getElem?_getD, (hw.fits_environment hi).resolver_lt]
  rw [load, environment_store_self hi, hresolver]
  rfl

theorem load_store_of_ne (hw : w.Sound) (hi : i < w.environments.length)
    (hj : j < w.environments.length) (hne : i ≠ j) : (store i e w).load j = w.load j := by
  have hresolver : (store i e w).resolver (w.environment j).resolver =
      w.resolver (w.environment j).resolver := by
    simp [store, resolver, List.getD_eq_getElem?_getD, hw.resolver_ne hi hj hne]
  rw [load, environment_store_of_ne hne, hresolver]
  rfl

theorem store_load (hw : w.Sound) (hi : i < w.environments.length) : store i (w.load i) w = w := by
  have hlt := (hw.fits_environment hi).resolver_lt
  have hresolvers : w.resolvers.set (w.environment i).resolver
      (w.resolver (w.environment i).resolver) = w.resolvers := by
    rw [resolver, List.getD_eq_getElem _ _ hlt, List.set_getElem_self]
  have henvironments : w.environments.set i (w.environment i) = w.environments := by
    rw [environment_eq hi, List.set_getElem_self]
  show ({ w with
    resolvers := w.resolvers.set _ (w.resolver _)
    environments := w.environments.set i (w.environment i) } : Workspace) = w
  rw [hresolvers, henvironments]

theorem Sound.store (hw : w.Sound) (hi : i < w.environments.length) (hfresh : e.resolver.Fresh)
    (hactive : e.active.Nodup) (hdefaults : e.defaults.Nodup) : (store i e w).Sound where
  fits e' he' := by
    rw [Workspace.store, List.length_set]
    rcases List.mem_or_eq_of_mem_set he' with he' | rfl
    · exact hw.fits e' he'
    · exact { hw.fits_environment hi with active_nodup := hactive, defaults_nodup := hdefaults }
  resolvers_nodup := by
    -- The numbers of resolvers stay.
    have hi' : i < (w.environments.map (·.resolver)).length := by simpa using hi
    have hthere : (w.environment i).resolver = (w.environments.map (·.resolver))[i] := by
      rw [List.getElem_map, environment_eq hi]
    rw [Workspace.store, List.map_set, hthere, List.set_getElem_self]
    exact hw.resolvers_nodup
  fresh r hr := by
    rcases List.mem_or_eq_of_mem_set hr with hr | rfl
    · exact hw.fresh r hr
    · exact hfresh

theorem Sound.store_keeps (hw : w.Sound) (hi : i < w.environments.length)
    (h : Keeps (w.load i) e) : (Workspace.store i e w).Sound :=
  hw.store hi (h.caches.fresh (hw.fresh_load hi))
    (h.active_nodup (hw.fits_environment hi).active_nodup)
    (h.defaults_nodup (hw.fits_environment hi).defaults_nodup)

/-! ## 3. Calls of one environment -/

section OnEnvironment

variable {α : Type} {x : Action Environment α}

theorem result_onEnvironment (i : Nat) (x : Action Environment α) (w : Workspace) :
    (onEnvironment i x w).result = (x (w.load i)).result := rfl

theorem length_onEnvironment (i : Nat) (x : Action Environment α) (w : Workspace) :
    (onEnvironment i x w).state.environments.length = w.environments.length :=
  length_store i _ w

theorem load_onEnvironment (hw : w.Sound) (hi : i < w.environments.length)
    (hx : x.Respects Keeps) : (onEnvironment i x w).state.load i = (x (w.load i)).state := by
  show (store i (x (w.load i)).state w).load i = _
  rw [load_store_self hw hi, ← (hx (w.load i)).chain_eq]

theorem Sound.onEnvironment (hw : w.Sound) (hi : i < w.environments.length)
    (hx : x.Respects Keeps) : (onEnvironment i x w).state.Sound :=
  hw.store_keeps hi (hx (w.load i))

end OnEnvironment

/-! ## 4. Merging by number -/

theorem view_adopt (w : Workspace) (c other : Chain Nat) :
    w.view (c.adopt other).1 = ((w.view c).adopt (w.view other)).1 :=
  Chain.map_adopt _ c other

/-- The environments behind two numbers. -/
def pair (w : Workspace) (child parent : Nat) : Pair := ⟨w.load child, w.load parent⟩

variable {child parent : Nat}

theorem chain_adoptNumbers_child (hw : w.Sound) (hc : child < w.environments.length)
    (parent : Nat) : (adoptNumbers child parent w).chain (w.environment child).chain =
      ((w.chain (w.environment child).chain).adopt (w.chain (w.environment parent).chain)).1 := by
  simp [adoptNumbers, chain, List.getD_eq_getElem?_getD, (hw.fits_environment hc).chain_lt]

theorem load_adoptNumbers_child (hw : w.Sound) (hc : child < w.environments.length) :
    (adoptNumbers child parent w).load child = (w.pair child parent).adopting := by
  show (⟨w.view ((adoptNumbers child parent w).chain (w.environment child).chain), _, _, _⟩ :
    Environment) = _
  rw [chain_adoptNumbers_child hw hc, view_adopt]
  rfl

/-- The parent keeps its chain, also if the child shares it. -/
theorem chain_adoptNumbers_parent (hw : w.Sound) (hc : child < w.environments.length) :
    (adoptNumbers child parent w).chain (w.environment parent).chain =
      w.chain (w.environment parent).chain := by
  by_cases hshared : (w.environment child).chain = (w.environment parent).chain
  · have hlt := (hw.fits_environment hc).chain_lt
    rw [hshared] at hlt
    simp [adoptNumbers, chain, List.getD_eq_getElem?_getD, hshared, hlt, Chain.adopt_self]
  · simp [adoptNumbers, chain, List.getD_eq_getElem?_getD, hshared]

theorem load_adoptNumbers_parent (hw : w.Sound) (hc : child < w.environments.length) :
    (adoptNumbers child parent w).load parent = w.load parent := by
  show (⟨w.view ((adoptNumbers child parent w).chain (w.environment parent).chain), _, _, _⟩ :
    Environment) = _
  rw [chain_adoptNumbers_parent hw hc]
  rfl

/-- No chain changes where the child has nothing to adopt. -/
theorem chains_adoptNumbers_of_eq (hw : w.Sound) (hc : child < w.environments.length)
    (h : ((w.chain (w.environment child).chain).adopt (w.chain (w.environment parent).chain)).1 =
      w.chain (w.environment child).chain) : (adoptNumbers child parent w).chains = w.chains := by
  have hlt := (hw.fits_environment hc).chain_lt
  rw [adoptNumbers, h, chain, List.getD_eq_getElem _ _ hlt, List.set_getElem_self]

theorem Sound.adoptNumbers (hw : w.Sound) (child parent : Nat) :
    (adoptNumbers child parent w).Sound where
  fits e he := by
    rw [Workspace.adoptNumbers, List.length_set]
    exact hw.fits e he
  resolvers_nodup := hw.resolvers_nodup
  fresh := hw.fresh

theorem merge_apply_self (i : Nat) : merge i i = onEnvironment i Environment.mergeSelf :=
  if_pos rfl

theorem result_merge (hne : child ≠ parent) (w : Workspace) :
    (merge child parent w).result = (Environment.merge (w.pair child parent)).result := by
  rw [merge, if_neg hne]
  rfl

theorem state_merge (hne : child ≠ parent) (w : Workspace) :
    (merge child parent w).state =
      store parent (Environment.merge (w.pair child parent)).state.parent
        (store child (Environment.merge (w.pair child parent)).state.child
          (adoptNumbers child parent w)) := by
  rw [merge, if_neg hne]
  rfl

section Merging

variable (hw : w.Sound) (hc : child < w.environments.length) (hp : parent < w.environments.length)

include hw hc

theorem Sound.store_merged (parent : Nat) :
    (Workspace.store child (Environment.merge (w.pair child parent)).state.child
      (Workspace.adoptNumbers child parent w)).Sound := by
  refine (hw.adoptNumbers child parent).store_keeps hc ?_
  rw [load_adoptNumbers_child hw hc]
  exact (Environment.merge_keeps (w.pair child parent)).1

include hp

theorem load_parent_store_merged (hne : child ≠ parent) :
    (store child (Environment.merge (w.pair child parent)).state.child
      (adoptNumbers child parent w)).load parent = w.load parent := by
  rw [load_store_of_ne (hw.adoptNumbers child parent) hc hp hne, load_adoptNumbers_parent hw hc]

theorem Sound.merge : (Workspace.merge child parent w).state.Sound := by
  by_cases hne : child = parent
  · rw [hne, merge_apply_self]
    exact hw.onEnvironment hp Environment.mergeSelf_keeps
  · rw [state_merge hne]
    refine (hw.store_merged hc parent).store_keeps ?_ ?_
    · rwa [length_store]
    · rw [load_parent_store_merged hw hc hp hne]
      exact (Environment.merge_keeps (w.pair child parent)).2

theorem load_merge_child (hne : child ≠ parent) :
    (merge child parent w).state.load child =
      (Environment.merge (w.pair child parent)).state.child := by
  have hsound := hw.store_merged hc parent
  have hkeeps := (Environment.merge_keeps (w.pair child parent)).1
  -- The parent is put back last; it has another resolver, so the child stays.
  rw [state_merge hne, load_store_of_ne hsound (by rwa [length_store]) (by rwa [length_store])
    (Ne.symm hne), load_store_self (hw.adoptNumbers child parent) hc,
    load_adoptNumbers_child hw hc, ← hkeeps.chain_eq]

theorem load_merge_parent (hne : child ≠ parent) :
    (merge child parent w).state.load parent =
      (Environment.merge (w.pair child parent)).state.parent := by
  have hkeeps := (Environment.merge_keeps (w.pair child parent)).2
  have hchain : (w.load parent).chain =
      (Environment.merge (w.pair child parent)).state.parent.chain := hkeeps.chain_eq.symm
  rw [state_merge hne, load_store_self (hw.store_merged hc parent) (by rwa [length_store]),
    load_parent_store_merged hw hc hp hne, hchain]

/-- A merge by number is a merge of what stands behind the numbers. -/
theorem load_merge (hne : child ≠ parent) :
    (merge child parent w).state.pair child parent =
      (Environment.merge (w.pair child parent)).state := by
  rw [pair, load_merge_child hw hc hp hne, load_merge_parent hw hc hp hne]

omit hp

/-- Whether a merge succeeds or fails, and also if an environment is merged into itself, chains change by
what the child adopts alone. -/
theorem chains_merge :
    (merge child parent w).state.chains = (adoptNumbers child parent w).chains := by
  by_cases hne : child = parent
  · subst hne
    rw [merge_apply_self, chains_adoptNumbers_of_eq hw hc (Chain.adopt_self _)]
    rfl
  · rw [state_merge hne]
    rfl

theorem chain_merge (i : Nat) :
    (merge child parent w).state.chain i = (adoptNumbers child parent w).chain i := by
  rw [chain, chains_merge hw hc]
  rfl

include hp

theorem load_child_merge :
    Keeps (w.pair child parent).adopting ((merge child parent w).state.load child) := by
  by_cases hne : child = parent
  · -- All names of its own chain are there, so an environment adopts nothing from itself.
    subst hne
    have hself : (w.pair child child).adopting = w.load child := by
      rw [Pair.adopting, pair, Chain.adopt_self]
    rw [merge_apply_self, load_onEnvironment hw hc Environment.mergeSelf_keeps, hself]
    exact Environment.mergeSelf_keeps (w.load child)
  · rw [load_merge_child hw hc hp hne]
    exact (Environment.merge_keeps (w.pair child parent)).1

end Merging

theorem chain_environment_merge (child parent i : Nat) (w : Workspace) :
    ((merge child parent w).state.environment i).chain = (w.environment i).chain := by
  by_cases hne : child = parent
  · rw [hne, merge_apply_self]
    exact chain_environment_store parent i _ w
  · rw [state_merge hne, chain_environment_store, chain_environment_store]
    rfl

theorem sources_merge (child parent : Nat) (w : Workspace) :
    (merge child parent w).state.sources = w.sources := by
  by_cases hne : child = parent
  · rw [hne, merge_apply_self]
    rfl
  · rw [state_merge hne]
    rfl

theorem length_merge (child parent : Nat) (w : Workspace) :
    (merge child parent w).state.environments.length = w.environments.length := by
  by_cases hne : child = parent
  · rw [hne, merge_apply_self, length_onEnvironment]
  · rw [state_merge hne, length_store, length_store]
    rfl

end LayeredConfig.Workspace
