import LayeredConfig.Document.Yaml
import LayeredConfig.Proofs.Conversion.ToText
import LayeredConfig.Proofs.Layering.Build
import LayeredConfig.Proofs.Resolver.Answers
import LayeredConfig.Proofs.Resolver.Hits
import LayeredConfig.Proofs.Workspace.Adoption

/-!
# Precedence — which value a key has in an environment that is built

Variables win over the `.env` file, and that wins over the files, of which the one counts that is
named last among those with a value for the key (`LastLeaf`). An environment that is built gives the
value that wins as a text (`built_as_layered`).
-/

namespace LayeredConfig

/-! ## 1. The first value -/

/-- The value if there is one, and else the other. -/
def Value.orElse (v other : Value) : Value :=
  if v.isNull then other else v

/-- The first value that is there for a key, nothing if there is none. -/
def Source.firstValue (key : String) (sources : List Source) : Except Error Value :=
  (fun hit => (hit.map (·.2)).getD .null) <$> firstHit? key sources

theorem Source.firstValue_cons {key : String} {s : Source} {v : Value}
    (h : s.content.get key = .ok v) (sources : List Source) :
    firstValue key (s :: sources) = if v.isNull then firstValue key sources else .ok v := by
  unfold firstValue
  rw [firstHit?, h]
  cases hnull : v.isNull with
  | true =>
    show _ <$> (if v.isNull then _ else _) = _
    rw [if_pos hnull]
    rfl
  | false =>
    show _ <$> (if v.isNull then _ else _) = _
    rw [if_neg (by rw [hnull]; decide)]
    rfl

/-- A source that is in front, if it is there at all. -/
theorem Source.firstValue_above {key : String} {s : Source} {rest : List Source} {v w : Value}
    {present : Bool} (hget : s.content.get key = .ok v) (hmissing : present = false → v = .null)
    (hrest : firstValue key rest = .ok w) :
    firstValue key ((if present then [s] else []) ++ rest) = .ok (v.orElse w) := by
  cases present with
  | true =>
    rw [if_pos rfl, List.singleton_append, firstValue_cons hget, hrest, Value.orElse,
      apply_ite Except.ok]
  | false =>
    obtain rfl := hmissing rfl
    exact hrest

theorem Resolver.rawValue_standard {key : String} {sources : List Source} {v : Value}
    (h : Source.firstValue key sources = .ok v) :
    (rawValue .standard sources key).2 = Conversion.textOf v := by
  unfold Source.firstValue at h
  unfold rawValue
  cases hhit : Source.firstHit? key sources with
  | error e =>
    rw [hhit] at h
    contradiction
  | ok hit =>
    rw [hhit] at h
    cases hit with
    | none =>
      cases h
      rfl
    | some hit =>
      obtain ⟨layer, v⟩ := hit
      cases h
      clear hhit
      dsimp only [Option.map_some, Option.getD_some]
      split
      next => rfl
      next => exact Registry.convert_standard_str v

namespace Layering

/-! ## 2. Rules of layering -/

/-- What the variables have for a key, in one of its spellings. -/
def variableFor (l : Layering) (key : String) : Value :=
  ((Variables.resolve? (l.collected.map (·.1)) key).map (Store.valueOf l.collected)).getD .null

/-- What the `.env` file has for a key. -/
def settingFor (t : FileTree) (l : Layering) (key : String) : Value :=
  Store.valueOf (l.settings t) key

/-- What the file at a path has under a dotted key. -/
def leafOf (host : Host) (key path : String) : Value :=
  Store.valueOf ((Document.entriesAt? host path).getD []) key

/-- The value of a key in the file that is named last among those that have one. -/
inductive LastLeaf (host : Host) (files : List String) (key : String) : Value → Prop where
  | found {path : String} (hpath : path ∈ files) (h : (leafOf host key path).isNull = false)
    (hlast : ∀ other ∈ files, other ≠ path → (leafOf host key other).isNull = false →
      LaterIn files path other) : LastLeaf host files key (leafOf host key path)
  | missing (h : ∀ path ∈ files, (leafOf host key path).isNull = true) : LastLeaf host files key .null

theorem LastLeaf.unique {host : Host} {files : List String} {key : String} {v v' : Value}
    (h : LastLeaf host files key v) (h' : LastLeaf host files key v') : v = v' := by
  cases h with
  | @found path hpath h hlast =>
    cases h' with
    | @found other hother h' hlast' =>
      by_cases hsame : other = path
      · rw [hsame]
      · -- Each of the two files would be named behind the other one.
        have hbefore := hlast other hother hsame h'
        exact absurd (hlast' path hpath (Ne.symm hsame) h) hbefore.asymm
    | missing hnone => simp [hnone path hpath] at h
  | missing hnone =>
    cases h' with
    | @found path hpath h' => simp [hnone path hpath] at h'
    | missing => rfl

/-! ## 3. The first value of all layers -/

section Values

variable {host : Host} {t : FileTree} {l : Layering} {key : String}

theorem firstValue_files (host : Host) (key : String) (paths : List String) :
    (∃ front path back, paths = front ++ path :: back ∧ (leafOf host key path).isNull = false ∧
        (∀ other ∈ front, (leafOf host key other).isNull = true) ∧
          Source.firstValue key (paths.map (fileLayer host)) = .ok (leafOf host key path)) ∨
      (∀ path ∈ paths, (leafOf host key path).isNull = true) ∧
        Source.firstValue key (paths.map (fileLayer host)) = .ok .null := by
  induction paths with
  | nil => exact .inr ⟨fun _ h => absurd h List.not_mem_nil, rfl⟩
  | cons path paths ih =>
    have hget : (fileLayer host path).content.get key = .ok (leafOf host key path) := rfl
    rw [List.map_cons, Source.firstValue_cons hget]
    cases hnull : (leafOf host key path).isNull with
    | false => exact .inl ⟨[], path, paths, rfl, hnull, fun _ h => absurd h List.not_mem_nil, rfl⟩
    | true =>
      rw [if_pos rfl]
      rcases ih with ⟨front, found, back, rfl, hfound, hfront, hvalue⟩ | ⟨hnone, hvalue⟩
      · refine .inl ⟨path :: front, found, back, rfl, hfound, ?_, hvalue⟩
        exact List.forall_mem_cons.2 ⟨hnull, hfront⟩
      · exact .inr ⟨List.forall_mem_cons.2 ⟨hnull, hnone⟩, hvalue⟩

theorem exists_lastLeaf (host : Host) (files : List String) (key : String) :
    ∃ v, LastLeaf host files key v ∧
      Source.firstValue key ((fileOrder files).map (fileLayer host)) = .ok v := by
  rcases firstValue_files host key (fileOrder files) with
    ⟨front, path, back, horder, hfound, hfront, hvalue⟩ | ⟨hnone, hvalue⟩
  · have hpath : path ∈ fileOrder files := by
      rw [horder]
      exact List.mem_append_right front List.mem_cons_self
    refine ⟨_, .found (mem_fileOrder_iff.1 hpath) hfound fun other hother hne hleaf => ?_, hvalue⟩
    -- The file has nothing in front of it, so it stands behind, and was named before.
    have hlater := pairwise_fileOrder files
    have hmem := mem_fileOrder_iff.2 hother
    rw [horder] at hlater hmem
    rcases List.mem_append.1 hmem with hmem | hmem
    · simp [hfront other hmem] at hleaf
    · have hbehind := (List.mem_cons.1 hmem).resolve_left hne
      exact (List.pairwise_cons.1 (List.pairwise_append.1 hlater).2.1).1 other hbehind
  · exact ⟨.null, .missing fun path hpath => hnone path (mem_fileOrder_iff.2 hpath), hvalue⟩

theorem variableFor_of_without (h : l.withVariables = false) : l.variableFor key = .null := by
  have hcollected : l.collected = [] := if_neg (Bool.eq_false_iff.1 h)
  have hresolve : Variables.resolve? [] key = none :=
    List.find?_eq_none.2 fun name _ => by simp
  rw [variableFor, hcollected, List.map_nil, hresolve]
  rfl

theorem settingFor_of_without (h : (l.dotenvPath? t).isSome = false) :
    l.settingFor t key = .null := by
  rw [settingFor, settings, Option.isNone_iff_eq_none.1 (Option.isSome_eq_false_iff.1 h)]
  rfl

theorem firstValue_layers {file : Value} (h : LastLeaf host l.files key file) :
    Source.firstValue key (l.layers host) =
      .ok ((l.variableFor key).orElse ((l.settingFor host.files key).orElse file)) := by
  obtain ⟨v, hv, hvalue⟩ := exists_lastLeaf host l.files key
  obtain rfl := h.unique hv
  have hvariable : (⟨Variables.layerName, .variables l.collected⟩ : Source).content.get key =
      .ok (l.variableFor key) := rfl
  have hsetting : (⟨Dotenv.layerName, .mapping (l.settings host.files)⟩ : Source).content.get key =
      .ok (l.settingFor host.files key) := rfl
  exact Source.firstValue_above hvariable variableFor_of_without
    (Source.firstValue_above hsetting settingFor_of_without hvalue)

end Values

/-! ## 4. Environments that are built -/

/-- The chain of an environment lists the layers that were asked for, and each key has the value
that comes first in precedence. -/
structure Layered (host : Host) (l : Layering) (e : Environment) : Prop where
  /-- Variables come before the `.env` file, which comes before the files. Of two files the one that
  is named last comes first. -/
  names : ∃ order : List String, order.Nodup ∧ (∀ path, path ∈ order ↔ path ∈ l.files) ∧
    order.Pairwise (LaterIn l.files) ∧
      e.chain.names = (if l.withVariables then ["system_environment"] else []) ++
        ((if (l.dotenvPath? host.files).isSome then ["dotenv"] else []) ++ order.map ("file:" ++ ·))
  /-- Files count by the last one that has a value for the key. -/
  values : ∀ key, (∃ file, LastLeaf host l.files key file) ∧
    ∀ file, LastLeaf host l.files key file →
      (Environment.resolving (Resolver.getRaw · key) e).result =
        Conversion.textOf ((l.variableFor key).orElse ((l.settingFor host.files key).orElse file))

theorem layered_of_layers {host : Host} {l : Layering} {c : Chain Store}
    (h : c.layers = l.layers host) : Layered host l (.new c .standard) where
  names := by
    refine ⟨fileOrder l.files, nodup_fileOrder l.files, fun _ => mem_fileOrder_iff,
      pairwise_fileOrder l.files, ?_⟩
    show c.layers.map (·.name) = _
    rw [h, names_layers]
    rfl
  values key := by
    obtain ⟨file, hfile, -⟩ := exists_lastLeaf host l.files key
    refine ⟨⟨file, hfile⟩, fun other hother => ?_⟩
    show (Resolver.getRaw c.layers key (.new .standard)).result = _
    rw [Resolver.getRaw_apply, h]
    exact Resolver.rawValue_standard (firstValue_layers hother)

theorem loads_iff (host : Host) (l : Layering) (w : Workspace) :
    l.Loads host ↔ (∀ path ∈ l.files, ∃ s, (Document.loadLayer host path w).result = .ok s) ∧
      (∃ found, l.dotenvPath host.files = .ok found) ∧
        ∀ path, l.dotenvPath host.files = .ok (some path) →
          ∃ s, (Dotenv.read host.files path w).result = .ok s := by
  constructor
  · intro h
    refine ⟨fun path hpath => ?_, h.searched, fun path hpath => ?_⟩
    · obtain ⟨entries, hentries⟩ := h.files path hpath
      exact ⟨_, (Document.loadLayer_gives hentries).result_eq w⟩
    · obtain ⟨settings, hsettings⟩ := h.dotenv path hpath
      exact ⟨_, (Dotenv.read_gives hsettings).result_eq w⟩
  · rintro ⟨hfiles, hsearched, hdotenv⟩
    refine ⟨fun path hpath => ?_, hsearched, fun path hpath => ?_⟩
    · obtain ⟨_, hload⟩ := hfiles path hpath
      exact Document.entriesAt?_of_loadLayer hload
    · obtain ⟨_, hread⟩ := hdotenv path hpath
      exact Dotenv.settingsAt?_of_read hread

theorem buildEnvironment_of_loads {host : Host} {l : Layering} (h : l.Loads host) (w : Workspace) :
    ∃ i, (Workspace.buildEnvironment host l .standard w).result = .ok i ∧
      Layered host l ((Workspace.buildEnvironment host l .standard w).state.load i) := by
  obtain ⟨c, hlayers, hbuild⟩ := build_gives (σ := Workspace) h
  have hbound : (Workspace.bindTraceId none w).result = .ok () := rfl
  have hresult := hbuild.result_eq (Workspace.bindTraceId none w).state
  have hstate := hbuild.state_eq (Workspace.bindTraceId none w).state
  rw [Workspace.buildEnvironment, Action.bind_of_ok hbound, Action.bind_of_ok hresult, hstate,
    Workspace.adoptEnvironment_apply]
  refine ⟨_, rfl, ?_⟩
  rw [Workspace.load_adopted]
  exact layered_of_layers hlayers

theorem loads_of_buildEnvironment {host : Host} {l : Layering} {w : Workspace} {i : Nat}
    (h : (Workspace.buildEnvironment host l .standard w).result = .ok i) : l.Loads host := by
  obtain ⟨_, -, h⟩ := Action.ok_of_bind h
  obtain ⟨_, hbuild, -⟩ := Action.ok_of_bind h
  exact loads_of_build hbuild

/-- **Layering.** With any parser for YAML, an environment is built if and only if the files load, the
system refuses no path in the search for a `.env` file, and the file loads that the search finds. Its
chain and its values are as the rules of layering say. -/
theorem built_as_layered (host : Host) (l : Layering) (w : Workspace) :
    ((∃ i, (Workspace.buildEnvironment host l .standard w).result = .ok i) ↔
        (∀ path ∈ l.files, ∃ s, (Document.loadLayer host path w).result = .ok s) ∧
          (∃ found, l.dotenvPath host.files = .ok found) ∧
            ∀ path, l.dotenvPath host.files = .ok (some path) →
              ∃ s, (Dotenv.read host.files path w).result = .ok s) ∧
      ∀ i, (Workspace.buildEnvironment host l .standard w).result = .ok i →
        Layered host l ((Workspace.buildEnvironment host l .standard w).state.load i) := by
  rw [← loads_iff]
  refine ⟨⟨fun ⟨_, hi⟩ => loads_of_buildEnvironment hi, fun hloads => ?_⟩, fun i hi => ?_⟩
  · obtain ⟨i, hi, -⟩ := buildEnvironment_of_loads hloads w
    exact ⟨i, hi⟩
  · obtain ⟨j, hj, hlayered⟩ := buildEnvironment_of_loads (loads_of_buildEnvironment hi) w
    obtain rfl := Except.ok.inj (hi.symm.trans hj)
    exact hlayered

/-- Two files that have one key in common, of which one is in YAML, and a `.env` file. -/
def sampleHost : Host where
  files :=
    { root := ⟨1, ["srv"]⟩
      files := [(["srv", "a.json"], Utf8.encode "\x7b\"k\":1\x7d".toList),
        (["srv", "b.yml"], Utf8.encode "k: 2".toList),
        (["srv", ".env"], Utf8.encode "T__U='x'\n".toList)]
      directories := [] }
  yaml := Yaml.read

/-- The first file is named again after the second one. -/
def repeated : Layering where
  files := ["a.json", "b.yml", "a.json"]
  environ := [("APP_V", .text "y")]
  variableMark := some "APP"
  withVariables := true
  dotenvStart := none
  withDotenv := true

theorem built_as_layered_repeated :
    ∃ i, (Workspace.buildEnvironment sampleHost repeated .standard .empty).result = .ok i ∧
      (Environment.resolving (Resolver.getRaw · "k") ((Workspace.buildEnvironment sampleHost
        repeated .standard .empty).state.load i)).result = .ok (.text "1") := by
  have hentries : ∀ path ∈ repeated.files, (Document.entriesAt? sampleHost path).isSome := by
    decide +kernel
  have hfound : repeated.dotenvPath sampleHost.files = .ok (some ⟨1, ["srv", ".env"]⟩) :=
    toOption_eq_some_iff.1 (by decide +kernel)
  have hsettings : (Dotenv.settingsAt? sampleHost.files ⟨1, ["srv", ".env"]⟩).isSome := by
    decide +kernel
  obtain ⟨hbuilt, hlayers⟩ := built_as_layered sampleHost repeated .empty
  obtain ⟨i, hi⟩ := hbuilt.2 ⟨fun path hpath => by
      obtain ⟨entries, h⟩ := Option.isSome_iff_exists.1 (hentries path hpath)
      exact ⟨_, (Document.loadLayer_gives h).result_eq _⟩,
    ⟨_, hfound⟩, fun path hpath => by
      obtain rfl := Option.some.inj (Except.ok.inj (hfound.symm.trans hpath))
      obtain ⟨settings, h⟩ := Option.isSome_iff_exists.1 hsettings
      exact ⟨_, (Dotenv.read_gives h).result_eq _⟩⟩
  have hlayered := hlayers i hi
  have hleaf : (leafOf sampleHost "k" "a.json").isNull = false := by
    decide +kernel
  have hlast : LastLeaf sampleHost repeated.files "k" (leafOf sampleHost "k" "a.json") := by
    refine .found List.mem_cons_self hleaf fun other _ hne _ => ?_
    exact ⟨["a.json", "b.yml"], [], rfl, fun hmem => hne (List.mem_singleton.1 hmem)⟩
  have hvariable : (repeated.variableFor "k").isNull = true := by
    decide +kernel
  have hsetting : (repeated.settingFor sampleHost.files "k").isNull = true := by
    decide +kernel
  have hstr : (leafOf sampleHost "k" "a.json").isA .str = false := by
    decide +kernel
  have htext : Conversion.toText (leafOf sampleHost "k" "a.json") = .ok "1" :=
    toOption_eq_some_iff.1 (by decide +kernel)
  refine ⟨i, hi, ?_⟩
  rw [(hlayered.values "k").2 _ hlast, Value.orElse, if_pos hvariable, Value.orElse,
    if_pos hsetting, Conversion.textOf, if_neg (by rw [hleaf]; decide),
    if_neg (by rw [hstr]; decide), htext]
  rfl

end Layering

end LayeredConfig
