import LayeredConfig.Proofs.Environment.Calls
import LayeredConfig.Proofs.Environment.Merge

/-!
# Union — the profiles of a child after a merge

A merge reads both kinds of profiles of the parent, and if that succeeds then the profiles that the
child stores are joined by them (`merge_of_ok`). Names that are there keep their places
(`active_absorb`), so to join the same names again changes nothing (`absorb_again`), and an environment
that is merged into itself reads from then on what it stores (`profiles_mergeSelf`).
-/

namespace LayeredConfig.Environment

open Resolver (Caches)

/-! ## 1. Both reads -/

/-- The profiles of a parent as a merge reads them. -/
def profiles : Action Environment (List String × List String) := do
  let active ← activeProfiles
  let defaults ← defaultProfiles
  pure (active, defaults)

/-- What comes of both reads: what they gave is kept, and nothing else than the active profiles is
kept if either failed. -/
inductive ProfilesRead (e : Environment) : Outcome Environment (List String × List String) → Prop
  | read {r active defaults events} (hcaches : Caches e.resolver r)
      (hactive : e.activeRead = .ok active) (hdefaults : e.defaultsRead = .ok defaults) :
    ProfilesRead e ⟨⟨e.chain, r, active, defaults⟩, events, .ok (active, defaults)⟩
  | failed {r err events} (hcaches : Caches e.resolver r)
      (hfailed : ∀ active defaults, e.activeRead = .ok active → e.defaultsRead ≠ .ok defaults) :
    ProfilesRead e ⟨⟨e.chain, r, kept e.activeRead e.active, e.defaults⟩, events, .error err⟩

theorem profiles_read {e : Environment} (hfresh : e.resolver.Fresh) :
    ProfilesRead e (profiles e) := by
  obtain ⟨r, hcaches, hresult, hstate⟩ := activeProfiles_apply e
  rw [profiles]
  cases hactive : e.activeRead with
  | error err =>
    rw [hactive] at hresult
    rw [Action.bind_of_error hresult, hstate]
    exact .failed hcaches fun _ _ h => absurd (hactive.symm.trans h) nofun
  | ok active =>
    -- The default profiles are read where the active ones have been read.
    obtain ⟨r', hcaches', hresult', hstate'⟩ :=
      defaultProfiles_apply ⟨e.chain, r, active, e.defaults⟩
    have hsame : (⟨e.chain, r, active, e.defaults⟩ : Environment).defaultsRead = e.defaultsRead :=
      defaultsRead_eq hfresh rfl hcaches (.inl rfl)
    replace hstate : (activeProfiles e).state = ⟨e.chain, r, active, e.defaults⟩ := by
      rw [hstate, hactive]
      rfl
    rw [hactive] at hresult
    rw [hsame] at hresult' hstate'
    rw [Action.bind_of_ok hresult, hstate, Action.state_bind_pure, Action.result_bind_pure, hresult',
      hstate']
    cases hdefaults : e.defaultsRead with
    | error err =>
      have hkept : active = kept e.activeRead e.active := by rw [hactive]; rfl
      rw [hkept]
      exact .failed (trans_of Caches hcaches hcaches') fun _ _ _ h =>
        absurd (hdefaults.symm.trans h) nofun
    | ok defaults => exact .read (trans_of Caches hcaches hcaches') hactive hdefaults

theorem profiles_keeps : profiles.Respects Keeps :=
  activeProfiles_keeps.bind fun _ => defaultProfiles_keeps.bind fun _ => .pure _

section Reads

variable {e : Environment} {active defaults : List String}

theorem reads_of_profiles (hfresh : e.resolver.Fresh)
    (h : (profiles e).result = .ok (active, defaults)) :
    e.activeRead = .ok active ∧ e.defaultsRead = .ok defaults ∧
      ∃ r, Caches e.resolver r ∧ (profiles e).state = ⟨e.chain, r, active, defaults⟩ := by
  generalize ho : profiles e = o at h
  have hread := profiles_read hfresh
  rw [ho] at hread
  cases hread with
  | read hcaches hactive hdefaults =>
    cases h
    exact ⟨hactive, hdefaults, _, hcaches, rfl⟩
  | failed => contradiction

/-- Where the reads fail no more than the active profiles may be kept. -/
theorem state_profiles_of_error {err : Error} (hfresh : e.resolver.Fresh)
    (h : (profiles e).result = .error err) :
    ∃ r, Caches e.resolver r ∧
      (profiles e).state = ⟨e.chain, r, kept e.activeRead e.active, e.defaults⟩ := by
  generalize ho : profiles e = o at h
  have hread := profiles_read hfresh
  rw [ho] at hread
  cases hread with
  | read => contradiction
  | failed hcaches => exact ⟨_, hcaches, rfl⟩

theorem profiles_of_reads (hfresh : e.resolver.Fresh) (hactive : e.activeRead = .ok active)
    (hdefaults : e.defaultsRead = .ok defaults) :
    (profiles e).result = .ok (active, defaults) := by
  generalize ho : profiles e = o
  have hread := profiles_read hfresh
  rw [ho] at hread
  cases hread with
  | read _ hactive' hdefaults' =>
    rw [hactive] at hactive'
    rw [hdefaults] at hdefaults'
    cases hactive'
    cases hdefaults'
    rfl
  | failed _ hfailed => exact absurd hdefaults (hfailed active defaults hactive)

theorem nodup_of_profiles (hfresh : e.resolver.Fresh) (hstored : e.active.Nodup)
    (h : (profiles e).result = .ok (active, defaults)) : active.Nodup := by
  obtain ⟨-, -, r, -, hstate⟩ := reads_of_profiles hfresh h
  have hkept := (profiles_keeps e).active_nodup hstored
  rwa [hstate] at hkept

/-- Profiles that were read once are read again. -/
theorem profiles_again (hfresh : e.resolver.Fresh)
    (h : (profiles e).result = .ok (active, defaults)) :
    (profiles (profiles e).state).result = .ok (active, defaults) := by
  obtain ⟨hactive, hdefaults, r, hcaches, hstate⟩ := reads_of_profiles hfresh h
  have hactive' : (⟨e.chain, r, active, defaults⟩ : Environment).activeRead = e.activeRead :=
    activeRead_eq hfresh rfl hcaches (.inr (by rw [hactive]; rfl))
  have hdefaults' : (⟨e.chain, r, active, defaults⟩ : Environment).defaultsRead = e.defaultsRead :=
    defaultsRead_eq hfresh rfl hcaches (.inr (by rw [hdefaults]; rfl))
  rw [hstate]
  exact profiles_of_reads (hcaches.fresh hfresh) (hactive'.trans hactive)
    (hdefaults'.trans hdefaults)

end Reads

/-! ## 2. How a merge ends -/

/-- The child with the sources of the parent. -/
def Pair.adopting (p : Pair) : Environment :=
  { p.child with chain := (p.child.chain.adopt p.parent.chain).1 }

theorem onParent_bind {α β : Type} (x : Action Environment α) (f : α → Action Environment β) :
    onParent (x >>= f) = onParent x >>= fun a => onParent (f a) := by
  funext p
  cases h : (x p.parent).result with
  | ok a =>
    have hparent : (onParent x p).result = .ok a := h
    rw [Action.bind_of_ok hparent, onParent, Action.onPart, Action.bind_of_ok h]
    rfl
  | error err =>
    have hparent : (onParent x p).result = .error err := h
    rw [Action.bind_of_error hparent, onParent, Action.onPart, Action.bind_of_error h]
    rfl

/-- The profiles of the parent are read and join those of the child. -/
def joinProfiles : Action Pair Unit := do
  let read ← onParent profiles
  onChild (absorb read.1 read.2)

/-- Profiles join once the sources have joined. -/
theorem merge_eq (p : Pair) :
    (merge p).result = (joinProfiles ⟨p.adopting, p.parent⟩).result ∧
      (merge p).state = (joinProfiles ⟨p.adopting, p.parent⟩).state := by
  have hprofiles : onParent profiles = onParent activeProfiles >>= fun active =>
      onParent defaultProfiles >>= fun defaults => pure (active, defaults) := by
    rw [profiles, onParent_bind]
    simp only [onParent_bind]
    rfl
  -- What the parent is asked for does not depend on what the child has adopted.
  have hmerge : merge p = (onChild (adoptSources p.parent.chain) >>= fun _ => joinProfiles) p := by
    rw [merge, Action.read_bind, joinProfiles, hprofiles]
    simp only [bind_assoc, pure_bind]
  have hadopt : (onChild (adoptSources p.parent.chain) p).result = .ok () := rfl
  rw [hmerge, Action.bind_of_ok hadopt]
  exact ⟨rfl, rfl⟩

theorem mergeSelf_eq : mergeSelf = profiles >>= fun read => absorb read.1 read.2 := by
  rw [mergeSelf, profiles]
  simp only [bind_assoc, pure_bind]

section Ends

variable {p : Pair} {e : Environment} {active defaults : List String} {err : Error}

theorem merge_of_ok (h : (profiles p.parent).result = .ok (active, defaults)) :
    (merge p).result = .ok () ∧
      (merge p).state = ⟨(absorb active defaults p.adopting).state, (profiles p.parent).state⟩ := by
  have hread : (onParent profiles ⟨p.adopting, p.parent⟩).result = .ok (active, defaults) := h
  rw [(merge_eq p).1, (merge_eq p).2, joinProfiles, Action.bind_of_ok hread]
  exact ⟨rfl, rfl⟩

theorem merge_of_error (h : (profiles p.parent).result = .error err) :
    (merge p).result = .error err ∧
      (merge p).state = ⟨p.adopting, (profiles p.parent).state⟩ := by
  have hread : (onParent profiles ⟨p.adopting, p.parent⟩).result = .error err := h
  rw [(merge_eq p).1, (merge_eq p).2, joinProfiles, Action.bind_of_error hread]
  exact ⟨rfl, rfl⟩

theorem mergeSelf_of_ok (h : (profiles e).result = .ok (active, defaults)) :
    (mergeSelf e).result = .ok () ∧
      (mergeSelf e).state = (absorb active defaults (profiles e).state).state := by
  rw [mergeSelf_eq, Action.bind_of_ok h]
  exact ⟨rfl, rfl⟩

theorem mergeSelf_of_error (h : (profiles e).result = .error err) :
    (mergeSelf e).result = .error err ∧ (mergeSelf e).state = (profiles e).state := by
  rw [mergeSelf_eq, Action.bind_of_error h]
  exact ⟨rfl, rfl⟩

/-- A merge fails exactly if the profiles of the parent cannot be read. -/
theorem result_merge (p : Pair) :
    (merge p).result = (fun _ => ()) <$> (profiles p.parent).result := by
  cases hread : (profiles p.parent).result with
  | ok read => exact (merge_of_ok hread).1
  | error err => exact (merge_of_error hread).1

theorem result_mergeSelf (e : Environment) :
    (mergeSelf e).result = (fun _ => ()) <$> (profiles e).result := by
  cases hread : (profiles e).result with
  | ok read => exact (mergeSelf_of_ok hread).1
  | error err => exact (mergeSelf_of_error hread).1

theorem error_of_merge (h : (merge p).result = .error err) :
    (profiles p.parent).result = .error err :=
  Action.error_of_map ((result_merge p).symm.trans h)

theorem ok_of_merge (h : (merge p).result = .ok ()) :
    ∃ read, (profiles p.parent).result = .ok read :=
  Action.ok_of_map ((result_merge p).symm.trans h)

theorem error_of_mergeSelf (h : (mergeSelf e).result = .error err) :
    (profiles e).result = .error err :=
  Action.error_of_map ((result_mergeSelf e).symm.trans h)

theorem ok_of_mergeSelf (h : (mergeSelf e).result = .ok ()) :
    ∃ read, (profiles e).result = .ok read :=
  Action.ok_of_map ((result_mergeSelf e).symm.trans h)

end Ends

/-! ## 3. Profiles that join -/

section Joining

variable {e : Environment} {active defaults : List String}

/-- New names come behind those that are stored, in their order. -/
theorem active_absorb (hstored : e.active.Nodup) (hactive : active.Nodup) (defaults : List String) :
    (absorb active defaults e).state.active =
      e.active ++ active.filter (· ∉ e.active) := by
  show (if active.isEmpty then _ else _) = _
  split
  next hnone => rw [List.isEmpty_iff.1 hnone, List.filter_nil, List.append_nil]
  next =>
    rw [Profile.distinctNames_append, Profile.distinctNames_of_nodup hstored,
      Profile.addNames_of_nodup hactive]

theorem mem_defaults_absorb (hsome : defaults ≠ []) (active : List String) {name : String} :
    name ∈ (absorb active defaults e).state.defaults ↔
      name ∈ e.defaults ∧ name ≠ reservedProfile ∨ name ∈ defaults := by
  show name ∈ (if defaults.isEmpty then _ else _) ↔ _
  rw [if_neg (by simpa using hsome), Profile.mem_distinctNames]
  simp

theorem defaults_absorb_nil (active : List String) :
    (absorb active [] e).state.defaults = e.defaults := rfl

theorem absorb_keeps (active defaults : List String) : (absorb active defaults).Respects Keeps := by
  refine fun e => ⟨rfl, refl_of Caches _, fun h => ?_, fun h => ?_⟩
  · show (if active.isEmpty then _ else _ : List String).Nodup
    split
    next => exact h
    next => exact Profile.nodup_distinctNames _
  · show (if defaults.isEmpty then _ else _ : List String).Nodup
    split
    next => exact h
    next => exact Profile.nodup_distinctNames _

/-- The second environment has the chain and the active profiles of the first, and its default
profiles in some order. -/
structure Agrees (e e' : Environment) : Prop where
  chain_eq : e'.chain = e.chain
  active_eq : e'.active = e.active
  mem_defaults_iff : ∀ name, name ∈ e'.defaults ↔ name ∈ e.defaults

theorem Agrees.trans {e e' e'' : Environment} (h : Agrees e e') (h' : Agrees e' e'') : Agrees e e'' where
  chain_eq := h'.chain_eq.trans h.chain_eq
  active_eq := h'.active_eq.trans h.active_eq
  mem_defaults_iff name := (h'.mem_defaults_iff name).trans (h.mem_defaults_iff name)

/-- To join names that are there changes nothing but the order of default profiles, as long as the
reserved one is not to give way. -/
theorem absorb_of_subset (hstored : e.active.Nodup) (hnodup : active.Nodup)
    (hactive : active ⊆ e.active) (hdefaults : defaults ⊆ e.defaults)
    (hreserved : defaults ≠ [] → reservedProfile ∈ e.defaults → reservedProfile ∈ defaults) :
    Agrees e (absorb active defaults e).state where
  chain_eq := rfl
  active_eq := by
    have hnone : active.filter (· ∉ e.active) = [] :=
      List.filter_eq_nil_iff.2 fun name hname => by simpa using hactive hname
    rw [active_absorb hstored hnodup, hnone, List.append_nil]
  mem_defaults_iff name := by
    by_cases hsome : defaults = []
    · rw [hsome, defaults_absorb_nil]
    · rw [mem_defaults_absorb hsome]
      constructor
      · rintro (⟨h, -⟩ | h)
        · exact h
        · exact hdefaults h
      · intro h
        by_cases hname : name = reservedProfile
        · exact .inr (hname ▸ hreserved hsome (hname ▸ h))
        · exact .inl ⟨h, hname⟩

theorem absorb_self (hstored : e.active.Nodup) :
    Agrees e (absorb e.active e.defaults e).state :=
  absorb_of_subset hstored hstored (List.Subset.refl _) (List.Subset.refl _) fun _ => id

theorem absorb_again (hstored : e.active.Nodup) (hnodup : active.Nodup) :
    Agrees (absorb active defaults e).state
      (absorb active defaults (absorb active defaults e).state).state := by
  refine absorb_of_subset ((absorb_keeps active defaults e).active_nodup hstored) hnodup ?_ ?_ ?_
  · intro name hname
    rw [active_absorb hstored hnodup, List.mem_append]
    by_cases hthere : name ∈ e.active
    · exact .inl hthere
    · exact .inr (List.mem_filter.2 ⟨hname, by simpa using hthere⟩)
  · intro name hname
    exact (mem_defaults_absorb (List.ne_nil_of_mem hname) active).2 (.inr hname)
  · intro hsome hthere
    rcases (mem_defaults_absorb hsome active).1 hthere with ⟨-, hne⟩ | hthere
    · exact absurd rfl hne
    · exact hthere

end Joining

/-- Besides adopting sources a merge does no more to the child than a call does, and no more to the
parent at all. -/
theorem merge_keeps (p : Pair) :
    Keeps p.adopting (merge p).state.child ∧ Keeps p.parent (merge p).state.parent := by
  cases hread : (profiles p.parent).result with
  | ok read =>
    rw [(merge_of_ok hread).2]
    exact ⟨absorb_keeps read.1 read.2 p.adopting, profiles_keeps p.parent⟩
  | error err =>
    rw [(merge_of_error hread).2]
    exact ⟨refl_of Keeps p.adopting, profiles_keeps p.parent⟩

theorem mergeSelf_keeps : mergeSelf.Respects Keeps := by
  rw [mergeSelf_eq]
  exact profiles_keeps.bind fun read => absorb_keeps read.1 read.2

/-! ## 4. Merging again -/

section Again

variable {e : Environment} {active defaults : List String} {err : Error}

/-- Default profiles that were read and then put in another order are read in that order. -/
theorem defaultsRead_of_reordered {e' : Environment} (hfresh : e.resolver.Fresh)
    (hchain : e'.chain = e.chain) (hcaches : Caches e.resolver e'.resolver)
    (hread : e.defaultsRead = .ok defaults) (hnodup : defaults.Nodup) (hnodup' : e'.defaults.Nodup)
    (h : ∀ name, name ∈ e'.defaults ↔ name ∈ defaults) : e'.defaultsRead = .ok e'.defaults := by
  by_cases hreserved : e'.defaults = [reservedProfile]
  · -- A single name has no other order, so they are just what was read.
    have hsame : defaults = e'.defaults := by
      have hperm := (List.perm_ext_iff_of_nodup hnodup' hnodup).2 h
      rw [hreserved] at hperm ⊢
      exact List.singleton_perm.1 hperm |>.symm
    rw [← hsame, ← hread]
    refine defaultsRead_eq hfresh hchain hcaches (.inr ?_)
    rw [hread]
    exact hsame.symm
  · rw [defaultsRead, readOf, if_neg hreserved]

/-- A second merge of the same parent changes nothing but the order of default profiles. -/
theorem merge_again {p : Pair} (hfresh : p.parent.resolver.Fresh)
    (hchild : p.child.active.Nodup) (hparent : p.parent.active.Nodup)
    (h : (merge p).result = .ok ()) :
    (merge (merge p).state).result = .ok () ∧
      Agrees (merge p).state.child (merge (merge p).state).state.child := by
  obtain ⟨⟨active, defaults⟩, hread⟩ := ok_of_merge h
  obtain ⟨-, hstate⟩ := merge_of_ok hread
  have hagain : (profiles (merge p).state.parent).result = .ok (active, defaults) := by
    rw [hstate]
    exact profiles_again hfresh hread
  -- The sources have joined already, so the child is the one that the first merge left.
  have hadopting : (merge p).state.adopting = (merge p).state.child := by
    rw [Pair.adopting, hstate, (profiles_keeps p.parent).chain_eq]
    show ({ (absorb active defaults p.adopting).state with
      chain := ((p.child.chain.adopt p.parent.chain).1.adopt p.parent.chain).1 } : Environment) = _
    rw [Chain.adopt_adopt]
    rfl
  obtain ⟨hresult, hstate'⟩ := merge_of_ok hagain
  refine ⟨hresult, ?_⟩
  rw [hstate', hadopting, hstate]
  exact absorb_again hchild (nodup_of_profiles hfresh hparent hread)

end Again

/-! ## 5. Reading after a merge -/

/-- The active profiles that a child stores after a merge. -/
theorem active_merge {p : Pair} {active : List String} (hfresh : p.parent.resolver.Fresh)
    (hchild : p.child.active.Nodup) (hparent : p.parent.active.Nodup)
    (hread : p.parent.activeRead = .ok active) (h : (merge p).result = .ok ()) :
    (merge p).state.child.active = p.child.active ++ active.filter (· ∉ p.child.active) := by
  obtain ⟨⟨active', defaults⟩, hprofiles⟩ := ok_of_merge h
  have hsame : active' = active :=
    Except.ok.inj ((reads_of_profiles hfresh hprofiles).1.symm.trans hread)
  subst hsame
  rw [(merge_of_ok hprofiles).2]
  exact active_absorb hchild (nodup_of_profiles hfresh hparent hprofiles) defaults

theorem activeRead_of_ne_nil {e : Environment} (h : e.active ≠ []) :
    e.activeRead = .ok e.active := by
  rw [activeRead, readOf, if_neg h]

/-- Other sources change nothing if they give the same for the keys that a read consults. -/
theorem activeRead_of_hits {e e' : Environment} (hfresh : e.resolver.Fresh)
    (hcaches : Caches e.resolver e'.resolver) (hactive : e'.active = e.active)
    (h : ∀ k ∈ e.resolver.consulted e.chain.layers activeKey,
      Source.firstHit? k e'.chain.layers = Source.firstHit? k e.chain.layers) :
    e'.activeRead = e.activeRead := by
  rw [activeRead, activeRead, readOf, readOf, taken, taken, hactive,
    configured_of_hits hfresh hcaches h]

/-! ## 6. Merging into itself -/

section Itself

variable {e : Environment} (hfresh : e.resolver.Fresh) (hactive : e.active.Nodup)
  (h : (mergeSelf e).result = .ok ())

include hfresh hactive h

/-- To be merged into itself does no more to an environment than both reads do. -/
theorem agrees_mergeSelf : Agrees (profiles e).state (mergeSelf e).state := by
  obtain ⟨⟨active, defaults⟩, hread⟩ := ok_of_mergeSelf h
  obtain ⟨-, -, r, -, hstate⟩ := reads_of_profiles hfresh hread
  rw [(mergeSelf_of_ok hread).2, hstate]
  exact absorb_self (nodup_of_profiles hfresh hactive hread)

theorem activeRead_mergeSelf : (mergeSelf e).state.activeRead = e.activeRead := by
  obtain ⟨⟨active, defaults⟩, hread⟩ := ok_of_mergeSelf h
  obtain ⟨hactiveRead, -, r, -, hstate⟩ := reads_of_profiles hfresh hread
  have hkeeps := mergeSelf_keeps e
  apply activeRead_eq hfresh hkeeps.chain_eq hkeeps.caches
  right
  rw [(agrees_mergeSelf hfresh hactive h).active_eq, hstate, hactiveRead]
  rfl

variable (hdefaults : e.defaults.Nodup)

include hdefaults

/-- From then on it reads what it stores. -/
theorem profiles_mergeSelf :
    (profiles (mergeSelf e).state).result =
      .ok ((mergeSelf e).state.active, (mergeSelf e).state.defaults) := by
  obtain ⟨⟨active, defaults⟩, hread⟩ := ok_of_mergeSelf h
  obtain ⟨hactiveRead, hdefaultsRead, r, -, hstate⟩ := reads_of_profiles hfresh hread
  have hkeeps := mergeSelf_keeps e
  have hagrees := agrees_mergeSelf hfresh hactive h
  have hnodup := (profiles_keeps e).defaults_nodup hdefaults
  rw [hstate] at hagrees hnodup
  apply profiles_of_reads (hkeeps.caches.fresh hfresh)
  · rw [activeRead_mergeSelf hfresh hactive h, hactiveRead, hagrees.active_eq]
  · -- The default profiles may stand in another order than that in which they were read.
    exact defaultsRead_of_reordered hfresh hkeeps.chain_eq hkeeps.caches hdefaultsRead hnodup
      (hkeeps.defaults_nodup hdefaults) hagrees.mem_defaults_iff

theorem mergeSelf_again :
    (mergeSelf (mergeSelf e).state).result = .ok () ∧
      Agrees (mergeSelf e).state (mergeSelf (mergeSelf e).state).state := by
  have hkeeps := mergeSelf_keeps e
  have hfresh' := hkeeps.caches.fresh hfresh
  have hagain := profiles_mergeSelf hfresh hactive h hdefaults
  have hresult := (mergeSelf_of_ok hagain).1
  obtain ⟨-, -, r, -, hstate⟩ := reads_of_profiles hfresh' hagain
  have hread : Agrees (mergeSelf e).state (profiles (mergeSelf e).state).state := by
    rw [hstate]
    exact ⟨rfl, rfl, fun _ => Iff.rfl⟩
  exact ⟨hresult, hread.trans (agrees_mergeSelf hfresh' (hkeeps.active_nodup hactive) hresult)⟩

end Itself

end LayeredConfig.Environment
