import LayeredConfig.Proofs.Chain.Joining
import LayeredConfig.Proofs.Layering.Loading
import LayeredConfig.Proofs.Layering.Order

/-!
# Build — the chain of all layers

Each layer joins last, and no two layers have one name, so the chain lists the layers in the order
in which they are loaded (`build_gives`).
-/

namespace LayeredConfig

variable {σ : Type}

namespace Layering

/-! ## 1. What is loaded -/

/-- The variables that count, without their prefix. -/
def collected (l : Layering) : List (String × Value) :=
  if l.withVariables then Variables.collect (Variables.mark l.variableMark) l.environ else []

/-- The search for the `.env` file, if one is asked for. -/
def dotenvPath (t : FileTree) (l : Layering) : Except Error (Option Path) :=
  if l.withDotenv || l.dotenvStart.isSome then Dotenv.find t l.dotenvStart [] else .ok none

/-- The `.env` file, if one is asked for and found. -/
def dotenvPath? (t : FileTree) (l : Layering) : Option Path :=
  (l.dotenvPath t).toOption.join

theorem dotenvPath?_of_ok {t : FileTree} {l : Layering} {found : Option Path}
    (h : l.dotenvPath t = .ok found) : l.dotenvPath? t = found := by
  rw [dotenvPath?, h]
  rfl

/-- The settings of the `.env` file, none without one. -/
def settings (t : FileTree) (l : Layering) : Dotenv.Settings :=
  ((l.dotenvPath? t).bind (Dotenv.settingsAt? t)).getD []

/-- The layer of variables, if it is asked for. -/
def variableLayers (l : Layering) : List Source :=
  if l.withVariables then [⟨Variables.layerName, .variables l.collected⟩] else []

/-- The layer of the `.env` file, if there is one. -/
def dotenvLayers (t : FileTree) (l : Layering) : List Source :=
  if (l.dotenvPath? t).isSome then [⟨Dotenv.layerName, .mapping (l.settings t)⟩] else []

/-- The layer of the file at a path. -/
def fileLayer (host : Host) (path : String) : Source :=
  ⟨Document.layerName path, .mapping ((Document.entriesAt? host path).getD [])⟩

/-- All layers, from the one that wins to the one that loses. -/
def layers (host : Host) (l : Layering) : List Source :=
  l.variableLayers ++ (l.dotenvLayers host.files ++ (fileOrder l.files).map (fileLayer host))

/-- Every file that is named loads, the search for a `.env` file comes to an end, and the file that
it finds loads. -/
structure Loads (host : Host) (l : Layering) : Prop where
  files : ∀ path ∈ l.files, ∃ entries, Document.entriesAt? host path = some entries
  searched : ∃ found, l.dotenvPath host.files = .ok found
  dotenv : ∀ path, l.dotenvPath host.files = .ok (some path) →
    ∃ settings, Dotenv.settingsAt? host.files path = some settings

/-! ## 2. Layers that join -/

theorem join_gives (c : Chain Store) (path : Option String) (s : Source) :
    (join c path s : Action σ _).Gives (c.addLast s).1 :=
  (Action.Gives.emit _).bind (.pure _)

theorem joinVariables_gives (l : Layering) (c : Chain Store) :
    (l.joinVariables c : Action σ _).Gives (c.addAll l.variableLayers).1 := by
  unfold joinVariables variableLayers collected
  by_cases hwith : l.withVariables = true
  · rw [if_pos hwith, if_pos hwith, if_pos hwith]
    exact (Variables.load_gives _ _).bind (join_gives c none _)
  · rw [if_neg hwith, if_neg hwith]
    exact .pure c

theorem joinDotenv_gives {host : Host} {l : Layering} (h : l.Loads host) (c : Chain Store) :
    (l.joinDotenv host.files c : Action σ _).Gives (c.addAll (l.dotenvLayers host.files)).1 := by
  obtain ⟨found, hfound⟩ := h.searched
  have hdotenv := h.dotenv
  unfold joinDotenv dotenvLayers settings
  rw [dotenvPath?_of_ok hfound]
  rw [hfound] at hdotenv
  unfold dotenvPath at hfound
  by_cases hwith : (l.withDotenv || l.dotenvStart.isSome) = true
  · rw [if_pos hwith] at hfound
    rw [if_pos hwith, hfound]
    refine (Action.Gives.ofExcept found).bind ?_
    cases found with
    | none => exact (Action.Gives.emit _).bind (.pure c)
    | some path =>
      obtain ⟨settings, hsettings⟩ := hdotenv path rfl
      have hread := (Dotenv.read_gives (σ := σ) hsettings).orLayerFailure Dotenv.layerName path.text
        (.dotenvLoad path.text)
      have hjoin := hread.bind (join_gives c (some path.text) _)
      rw [Option.bind_some, hsettings]
      exact hjoin
  · rw [if_neg hwith] at hfound
    cases hfound
    rw [if_neg hwith]
    exact .pure c

theorem joinFiles_gives {host : Host} {paths : List String}
    (h : ∀ path ∈ paths, ∃ entries, Document.entriesAt? host path = some entries) (c : Chain Store) :
    (joinFiles host c paths : Action σ _).Gives (c.addAll (paths.map (fileLayer host))).1 := by
  induction paths generalizing c with
  | nil => exact .pure c
  | cons path paths ih =>
    obtain ⟨entries, hentries⟩ := h path List.mem_cons_self
    have hload := Document.loadLayer_gives (σ := σ) hentries
    have hrest := ih fun other hother => h other (List.mem_cons_of_mem path hother)
    rw [List.map_cons, Chain.addAll_cons, fileLayer, hentries]
    exact hload.bind ((join_gives c (some path) _).bind (hrest _))

theorem entriesAt?_of_joinFiles {host : Host} {paths : List String} {c c' : Chain Store} {s : σ}
    (h : (joinFiles host c paths s).result = .ok c') :
    ∀ path ∈ paths, ∃ entries, Document.entriesAt? host path = some entries := by
  induction paths generalizing c s with
  | nil => exact fun _ hmem => absurd hmem List.not_mem_nil
  | cons path paths ih =>
    obtain ⟨_, hload, h⟩ := Action.ok_of_bind h
    obtain ⟨_, -, hrest⟩ := Action.ok_of_bind h
    exact List.forall_mem_cons.2 ⟨Document.entriesAt?_of_loadLayer hload, ih hrest⟩

theorem dotenvPath_of_joinDotenv {t : FileTree} {l : Layering} {c c' : Chain Store} {s : σ}
    (h : (l.joinDotenv t c s).result = .ok c') :
    ∃ found, l.dotenvPath t = .ok found ∧
      ∀ path, found = some path → ∃ settings, Dotenv.settingsAt? t path = some settings := by
  unfold dotenvPath
  unfold joinDotenv at h
  split at h
  next hwith =>
    rw [if_pos hwith]
    obtain ⟨found, hfound, h⟩ := Action.ok_of_bind h
    rw [Action.result_ofExcept] at hfound
    refine ⟨found, hfound, ?_⟩
    rintro path rfl
    obtain ⟨_, hread, -⟩ := Action.ok_of_bind h
    exact Dotenv.settingsAt?_of_read (Action.ok_of_orLayerFailure hread)
  next hwith =>
    rw [if_neg hwith]
    exact ⟨none, rfl, nofun⟩

/-! ## 3. The whole chain -/

theorem names_layers (host : Host) (l : Layering) :
    (l.layers host).map (·.name) =
      (if l.withVariables then [Variables.layerName] else []) ++
        ((if (l.dotenvPath? host.files).isSome then [Dotenv.layerName] else []) ++
          (fileOrder l.files).map Document.layerName) := by
  unfold layers variableLayers dotenvLayers
  simp only [List.map_append, List.map_map, apply_ite (List.map _)]
  rfl

theorem layerName_injective : Function.Injective Document.layerName := by
  intro path other h
  have hchars := congrArg String.toList h
  simp only [Document.layerName, String.toList_append] at hchars
  exact String.toList_inj.1 (List.append_cancel_left hchars)

theorem layerName_ne (path : String) :
    Document.layerName path ≠ Variables.layerName ∧ Document.layerName path ≠ Dotenv.layerName := by
  constructor
  all_goals
    intro h
    have hchars := congrArg String.toList h
    simp [Document.layerName, Variables.layerName, Dotenv.layerName] at hchars

theorem nodup_names_layers (host : Host) (l : Layering) :
    ((l.layers host).map (·.name)).Nodup := by
  have hfiles := (nodup_fileOrder l.files).map layerName_injective
  -- No file has a layer of such a name, so files can clash with each other only.
  have hother {name : String} (h : ∀ path, Document.layerName path ≠ name) :
      name ∉ (fileOrder l.files).map Document.layerName := by
    intro hmem
    obtain ⟨path, -, hpath⟩ := List.mem_map.1 hmem
    exact h path hpath
  have hvariables := hother fun path => (layerName_ne path).1
  have hdotenv := hother fun path => (layerName_ne path).2
  have hbelow : ((if (l.dotenvPath? host.files).isSome then [Dotenv.layerName] else []) ++
      (fileOrder l.files).map Document.layerName).Nodup := by
    split
    next => exact List.nodup_cons.2 ⟨hdotenv, hfiles⟩
    next => exact hfiles
  have habove : Variables.layerName ∉
      (if (l.dotenvPath? host.files).isSome then [Dotenv.layerName] else []) ++
        (fileOrder l.files).map Document.layerName := by
    intro hmem
    rcases List.mem_append.1 hmem with hmem | hmem
    · split at hmem
      next => exact absurd (List.mem_singleton.1 hmem) (by decide)
      next => exact List.not_mem_nil hmem
    · exact hvariables hmem
  rw [names_layers]
  split
  next => exact List.nodup_cons.2 ⟨habove, hbelow⟩
  next => exact hbelow

theorem build_gives {host : Host} {l : Layering} (h : l.Loads host) :
    ∃ c : Chain Store, c.layers = l.layers host ∧ (l.build host : Action σ _).Gives c := by
  refine ⟨(Chain.empty.addAll (l.layers host)).1, ?_, ?_⟩
  · exact Chain.addAll_layers_of_new (nodup_names_layers host l)
  · have hfiles := fun path hpath => h.files path (mem_fileOrder_iff.1 hpath)
    rw [layers, Chain.addAll_append, Chain.addAll_append]
    exact (joinVariables_gives l _).bind ((joinDotenv_gives h _).bind
      ((joinFiles_gives hfiles _).bind ((Action.Gives.emit _).bind (.pure _))))

/-- Nothing is passed over: a chain that is built has read all that was named. -/
theorem loads_of_build {host : Host} {l : Layering} {c : Chain Store} {s : σ}
    (h : (l.build host s).result = .ok c) : l.Loads host := by
  obtain ⟨_, -, h⟩ := Action.ok_of_bind h
  obtain ⟨_, hdotenv, h⟩ := Action.ok_of_bind h
  obtain ⟨_, hfiles, -⟩ := Action.ok_of_bind h
  obtain ⟨found, hfound, hsettings⟩ := dotenvPath_of_joinDotenv hdotenv
  exact ⟨fun path hpath => entriesAt?_of_joinFiles hfiles path (mem_fileOrder_iff.2 hpath),
    ⟨found, hfound⟩, fun path hpath => hsettings path (Except.ok.inj (hfound.symm.trans hpath))⟩

/-! ## 4. States -/

section Respects

variable {R : σ → σ → Prop} [Std.Refl R] [IsTrans σ R]

theorem join_respects (c : Chain Store) (path : Option String) (s : Source) :
    (join c path s : Action σ _).Respects R :=
  (Action.Respects.emit _).bind fun _ => .pure _

theorem joinFiles_respects (host : Host) (c : Chain Store) (paths : List String) :
    (joinFiles host c paths : Action σ _).Respects R := by
  induction paths generalizing c with
  | nil => exact .pure c
  | cons path paths ih =>
    exact (Document.loadLayer_respects host path).bind fun s =>
      (join_respects c (some path) s).bind fun c => ih c

/-- Whether the chain is built or not, what the action works on stays as it is. -/
theorem build_respects (host : Host) (l : Layering) : (l.build host : Action σ _).Respects R := by
  have hvariables (c : Chain Store) : (l.joinVariables c : Action σ _).Respects R := by
    unfold joinVariables
    split
    next => exact (Variables.load_respects _ _ _).bind fun s => join_respects c none s
    next => exact .pure c
  have hdotenv (c : Chain Store) : (l.joinDotenv host.files c : Action σ _).Respects R := by
    unfold joinDotenv
    split
    next =>
      refine (Action.Respects.ofExcept _).bind fun found => ?_
      cases found with
      | none => exact (Action.Respects.emit _).bind fun _ => .pure c
      | some path =>
        exact ((Dotenv.read_respects host.files path).orLayerFailure _ _ _).bind fun s =>
          join_respects c (some path.text) s
    next => exact .pure c
  exact (hvariables _).bind fun c => (hdotenv c).bind fun c => (joinFiles_respects host c _).bind
    fun _ => (Action.Respects.emit _).bind fun _ => .pure _

end Respects

end Layering

end LayeredConfig
