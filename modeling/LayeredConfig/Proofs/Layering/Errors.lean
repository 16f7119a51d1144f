import LayeredConfig.Proofs.Document.Names
import LayeredConfig.Proofs.Dotenv.Search
import LayeredConfig.Proofs.Layering.Precedence
import LayeredConfig.Proofs.Text.Utf8

/-!
# Errors — how a build fails

A file that is missing, has an unknown ending or holds no table fails as a layer, and so does a line of
the `.env` file that is no setting. Beside that there are bytes in the `.env` file that are no text, keys
in a YAML file that cannot be written, and paths that the system refuses to look for
(`build_fails_as_documented`). Of the parser for YAML no more is assumed than that its failures are bad
documents.
-/

namespace LayeredConfig

variable {σ α : Type}

/-- What can be the cause when a layer fails: a bad file, or a missing one. -/
def Error.IsLayerCause (e : Error) : Prop :=
  e.category = .invalidFormat ∨ e.category = .notFound

instance (e : Error) : Decidable e.IsLayerCause :=
  inferInstanceAs (Decidable (_ ∨ _))

theorem Action.FailsOnly.orLayerFailure {P Q : Error → Prop} {x : Action σ α} {layer path : String}
    {wrap : Error → Error} (hx : x.FailsOnly Q) (hcause : ∀ e, Q e → e.IsLayerCause → P (wrap e))
    (hother : ∀ e, Q e → ¬e.IsLayerCause → P e) :
    (x.orLayerFailure layer path wrap).FailsOnly P := by
  refine hx.handle fun e he => ?_
  split
  next h =>
    have hlayer : e.IsLayerCause := by simpa [Error.IsLayerCause] using h
    exact (FailsOnly.emit _).bind fun _ => .fail (hcause e he hlayer)
  next h =>
    have hlayer : ¬e.IsLayerCause := by simpa [Error.IsLayerCause] using h
    exact .fail (hother e he hlayer)

/-! ## 1. Structured files -/

namespace Document

/-- The errors that leave the loading of a file as they are. -/
inductive Escapes (host : Host) (path : String) : Error → Prop where
  | refused {format} (hformat : formatFor path = .ok format)
      (h : host.files.refuses (Path.ofString path) = true) :
      Escapes host path (.pathTooLong (Path.ofString path).text)
  | parser {bytes failure f} (hformat : formatFor path = .ok .yaml)
      (hbytes : bytesAt host.files path = .ok bytes) (h : host.yaml bytes = .error failure)
      (hfault : failure.fault? = some f) : Escapes host path (.fault f)
  | key {bytes table} (hformat : formatFor path = .ok .yaml)
      (hbytes : bytesAt host.files path = .ok bytes)
      (h : read host.yaml .yaml bytes = .ok (.dict table)) (hkey : hasNames table = false) :
      Escapes host path (.fault .tooLongToWrite)

theorem formatFor_error {path : String} {e : Error} (h : formatFor path = .error e) :
    e.IsLayerCause := by
  unfold formatFor at h
  dsimp only at h
  split at h
  next => exact nomatch h
  next => cases h; exact .inl rfl

theorem bytesAt_error {t : FileTree} {path : String} {e : Error} (h : bytesAt t path = .error e) :
    e.IsLayerCause ∨
      t.refuses (Path.ofString path) = true ∧ e = .pathTooLong (Path.ofString path).text := by
  unfold bytesAt at h
  dsimp only at h
  split at h
  next hrefused => exact .inr ⟨hrefused, (Except.error.inj h).symm⟩
  next =>
    split at h
    next => exact nomatch h
    next => cases h; exact .inl (.inr rfl)

/-- The parsers of the other formats have no failure but that a document is malformed. -/
theorem yaml_of_fault {yaml : Parser} {format : Format} {bytes : List UInt8} {failure : Failure}
    {f : Fault} (h : read yaml format bytes = .error failure) (hfault : failure.fault? = some f) :
    format = .yaml ∧ yaml bytes = .error failure := by
  have hread {found : Option Value} (hfound : Failure.ofOption found = .error failure) : False := by
    cases found with
    | none => cases hfound; exact nomatch hfault
    | some v => exact nomatch hfound
  cases format with
  | yaml =>
    refine ⟨rfl, ?_⟩
    unfold read at h
    cases hyaml : yaml bytes with
    | ok v =>
      rw [hyaml] at h
      exact nomatch h
    | error failure' =>
      rw [hyaml] at h
      exact congrArg _ (Except.error.inj h)
  | json => exact (hread h).elim
  | toml => exact (hread h).elim

theorem flatten_error {prefixed : String} {table : List (Value × Value)} {f : Fault}
    (h : flatten prefixed table = .error f) : f = .tooLongToWrite ∧ hasNames table = false := by
  unfold flatten at h
  split at h
  next => exact nomatch h
  next hnames => exact ⟨(Except.error.inj h).symm, Bool.eq_false_iff.2 hnames⟩

theorem entriesOf_failsOnly {host : Host} {format : Format} {path : String} {bytes : List UInt8}
    (hformat : formatFor path = .ok format) (hbytes : bytesAt host.files path = .ok bytes) :
    (entriesOf host.yaml format path bytes : Action σ _).FailsOnly fun e =>
      e.IsLayerCause ∨ Escapes host path e := by
  unfold entriesOf
  split
  next failure hread =>
    split
    next f hfault =>
      obtain ⟨rfl, hyaml⟩ := yaml_of_fault hread hfault
      exact .fail (.inr (.parser hformat hbytes hyaml hfault))
    next => exact (Action.FailsOnly.emit _).bind fun _ => .fail (.inl (.inl rfl))
  next table hread =>
    refine (Action.FailsOnly.ofExcept fun e he => ?_).bind fun _ =>
      (Action.FailsOnly.emit _).bind fun _ => .pure _
    cases hflat : flatten "" table with
    | ok entries =>
      rw [hflat] at he
      exact nomatch he
    | error f =>
      rw [hflat] at he
      obtain ⟨rfl, hnames⟩ := flatten_error hflat
      obtain rfl := Except.error.inj he
      have hyaml : format = .yaml := by
        by_contra hne
        exact nomatch hnames.symm.trans (hasNames_of_read hne hread)
      subst hyaml
      exact .inr (.key hformat hbytes hread hnames)
  next => exact (Action.FailsOnly.emit _).bind fun _ => .fail (.inl (.inl rfl))

theorem load_failsOnly {host : Host} {format : Format} {path : String}
    (hformat : formatFor path = .ok format) :
    (load host format path : Action σ _).FailsOnly fun e =>
      e.IsLayerCause ∨ Escapes host path e := by
  refine .ofExcept_bind (fun e he => ?_) fun bytes hbytes =>
    (Action.FailsOnly.emit _).bind fun _ => entriesOf_failsOnly hformat hbytes
  rcases bytesAt_error he with hcause | ⟨hrefused, rfl⟩
  · exact .inl hcause
  · exact .inr (.refused hformat hrefused)

/-- Bad and missing files are reported as such when the layer of a file is loaded. -/
theorem loadLayer_failsOnly (host : Host) (path : String) :
    (loadLayer host path : Action σ Source).FailsOnly fun e =>
      (∃ cause, cause.IsLayerCause ∧ e = .fileLoad path cause) ∨ Escapes host path e := by
  have hload : (Action.ofExcept (formatFor path) >>= fun format =>
      (load host format path : Action σ _)).FailsOnly fun e =>
        e.IsLayerCause ∨ Escapes host path e :=
    .ofExcept_bind (fun e he => .inl (formatFor_error he)) fun format hformat =>
      load_failsOnly hformat
  refine (hload.orLayerFailure (fun e _ hcause => ?_) fun e he hother => ?_).bind fun _ => .pure _
  · exact .inl ⟨e, hcause, rfl⟩
  · exact .inr (he.resolve_left hother)

end Document

/-! ## 2. The `.env` file -/

namespace Dotenv

theorem readLines_error {path : String} {number : Nat} {settings : Settings}
    {lines : List (List Char)} {e : Error}
    (h : (readLines path number settings lines).2 = .error e) : e.category = .invalidFormat := by
  induction lines generalizing number settings with
  | nil => contradiction
  | cons line rest ih =>
    unfold readLines at h
    split at h
    next => exact ih h
    next => exact ih h
    next reason _ =>
      cases h
      cases reason with
      | noEqualsSign => rfl
      | noName => rfl

theorem parse_error {path : String} {bytes : List UInt8} {e : Error}
    (h : (parse path bytes).2 = .error e) :
    e.category = .invalidFormat ∨ e = .undecodable ∧ Utf8.decode? bytes = none := by
  unfold parse at h
  dsimp only at h
  split at h
  next => exact .inl (readLines_error h)
  next hincomplete =>
    split at h
    next =>
      refine .inr ⟨(Except.error.inj h).symm, ?_⟩
      -- Bytes that are a text could be decoded piece by piece as well.
      cases hdecode : Utf8.decode? bytes with
      | none => rfl
      | some cs =>
        rw [Utf8.decodePieces_of_decode? hdecode] at hincomplete
        contradiction
    next => exact .inl (readLines_error h)

theorem read_failsOnly (t : FileTree) (path : Path) :
    (read t path : Action σ Source).FailsOnly fun e =>
      e.category = .invalidFormat ∨
        e = .undecodable ∧ Utf8.decode? ((t.read? path).getD []) = none := by
  refine (Action.FailsOnly.emit _).bind fun _ => (Action.FailsOnly.ofExcept fun e he => ?_).bind
    fun _ => (Action.FailsOnly.emit _).bind fun _ => .ofExcept nofun
  exact parse_error he

end Dotenv

/-! ## 3. All layers -/

namespace Layering

/-- The errors that are promised: a layer fails, and the cause is a bad file or a missing one. -/
inductive Documented (t : FileTree) (l : Layering) : Error → Prop where
  | file {path cause} (hpath : path ∈ l.files) (hcause : cause.IsLayerCause) :
      Documented t l (.fileLoad path cause)
  | dotenv {path cause} (hpath : l.dotenvPath t = .ok (some path)) (hcause : cause.IsLayerCause) :
      Documented t l (.dotenvLoad path.text cause)

theorem Documented.category_eq {t : FileTree} {l : Layering} {e : Error} (h : Documented t l e) :
    e.category = .layerLoad := by
  cases h with
  | file => rfl
  | dotenv => rfl

/-- What stands in the `.env` file that is found is no text. -/
def DotenvIsNoText (t : FileTree) (l : Layering) : Prop :=
  ∃ path, l.dotenvPath t = .ok (some path) ∧ Utf8.decode? ((t.read? path).getD []) = none

/-- One of the files is a YAML document with a key that cannot be written. -/
def HasUnwritableKey (host : Host) (l : Layering) : Prop :=
  ∃ path ∈ l.files, ∃ bytes table, Document.formatFor path = .ok .yaml ∧
    Document.bytesAt host.files path = .ok bytes ∧
      Document.read host.yaml .yaml bytes = .ok (.dict table) ∧ Document.hasNames table = false

/-- The system refuses a path: that of a file of a known format, or one that the search for the
`.env` file tries. -/
inductive Refuses (t : FileTree) (l : Layering) : Path → Prop where
  | file {path format} (hpath : path ∈ l.files) (hformat : Document.formatFor path = .ok format)
      (h : t.refuses (Path.ofString path) = true) : Refuses t l (Path.ofString path)
  | dotenv {p} (hwith : (l.withDotenv || l.dotenvStart.isSome) = true)
      (hp : p ∈ Dotenv.candidates t l.dotenvStart []) (h : t.refuses p = true) : Refuses t l p

variable {host : Host} {t : FileTree} {l : Layering}

theorem joinDotenv_failsOnly (c : Chain Store) :
    (l.joinDotenv t c : Action σ _).FailsOnly fun e =>
      Documented t l e ∨ e = .undecodable ∧ DotenvIsNoText t l ∨
        ∃ p, Refuses t l p ∧ e = .pathTooLong p.text := by
  unfold joinDotenv
  split
  next hwith =>
    refine .ofExcept_bind (fun e he => ?_) fun found hfound => ?_
    · obtain ⟨p, hp, hrefused, rfl⟩ := Dotenv.find_error he
      exact .inr (.inr ⟨p, .dotenv hwith hp hrefused, rfl⟩)
    cases found with
    | none => exact (Action.FailsOnly.emit _).bind fun _ => .pure c
    | some path =>
      have hpath : l.dotenvPath t = .ok (some path) := by rw [dotenvPath, if_pos hwith, hfound]
      refine ((Dotenv.read_failsOnly t path).orLayerFailure (fun e _ hcause => ?_)
        fun e he hother => ?_).bind fun s => .of_gives (join_gives c _ s)
      · exact .inl (.dotenv hpath hcause)
      · rcases he with he | ⟨he, htext⟩
        · exact absurd (.inl he) hother
        · exact .inr (.inl ⟨he, path, hpath, htext⟩)
  next => exact .pure c

theorem joinFiles_failsOnly {paths : List String} (hpaths : ∀ path ∈ paths, path ∈ l.files)
    (c : Chain Store) :
    (joinFiles host c paths : Action σ _).FailsOnly fun e =>
      Documented host.files l e ∨ ∃ path ∈ l.files, Document.Escapes host path e := by
  induction paths generalizing c with
  | nil => exact .pure c
  | cons path paths ih =>
    obtain ⟨hpath, hrest⟩ := List.forall_mem_cons.1 hpaths
    refine ((Document.loadLayer_failsOnly host path).mono fun e he => ?_).bind fun s =>
      (Action.FailsOnly.of_gives (join_gives c _ s)).bind fun c => ih hrest c
    rcases he with ⟨cause, hcause, rfl⟩ | he
    · exact .inl (.file hpath hcause)
    · exact .inr ⟨path, hpath, he⟩

/-- The errors of a build that are not promised. -/
inductive Slips (host : Host) (l : Layering) : Error → Prop where
  | text (h : DotenvIsNoText host.files l) : Slips host l .undecodable
  | key (h : HasUnwritableKey host l) : Slips host l (.fault .tooLongToWrite)
  | path {p} (h : Refuses host.files l p) : Slips host l (.pathTooLong p.text)

theorem slips_of_escapes {path : String} {e : Error} (hyaml : host.yaml.BlamesDocuments)
    (hpath : path ∈ l.files) (h : Document.Escapes host path e) : Slips host l e := by
  cases h with
  | refused hformat hrefused => exact .path (.file hpath hformat hrefused)
  | parser _ _ herror hfault => exact nomatch (hyaml _ _ herror).symm.trans hfault
  | key hformat hbytes htable hkey => exact .key ⟨path, hpath, _, _, hformat, hbytes, htable, hkey⟩

/-- All errors of a build. -/
theorem build_failsOnly (hyaml : host.yaml.BlamesDocuments) :
    (l.build host : Action σ _).FailsOnly fun e => Documented host.files l e ∨ Slips host l e := by
  refine (Action.FailsOnly.of_gives (joinVariables_gives l _)).bind fun c => ?_
  refine ((joinDotenv_failsOnly c).mono fun e he => ?_).bind fun c => ?_
  · rcases he with he | ⟨rfl, htext⟩ | ⟨p, hp, rfl⟩
    · exact .inl he
    · exact .inr (.text htext)
    · exact .inr (.path hp)
  have hfiles : (joinFiles host c (fileOrder l.files) : Action σ _).FailsOnly _ :=
    joinFiles_failsOnly (fun path hpath => mem_fileOrder_iff.1 hpath) c
  refine (hfiles.mono fun e he => ?_).bind fun _ => (Action.FailsOnly.emit _).bind fun _ => .pure _
  exact he.imp_right fun ⟨_, hpath, hescapes⟩ => slips_of_escapes hyaml hpath hescapes

end Layering

/-- **Failures.** Provided that all failures of the YAML parser are bad documents, a build gives an
environment or the failure of a layer over a bad or missing file. Where it fails otherwise the `.env`
file is no text, a YAML file has a key that cannot be written, or the system refuses a path. -/
theorem Workspace.build_fails_as_documented {host : Host} (hyaml : host.yaml.BlamesDocuments)
    (l : Layering) (registry : Registry) (w : Workspace) :
    (∃ i, (buildEnvironment host l registry w).result = .ok i) ∨
      ∃ e, (buildEnvironment host l registry w).result = .error e ∧
        (l.Documented host.files e ∨ e = .undecodable ∧ l.DotenvIsNoText host.files ∨
          e = .fault .tooLongToWrite ∧ l.HasUnwritableKey host ∨
            ∃ p, e = .pathTooLong p.text ∧ l.Refuses host.files p) := by
  cases hresult : (buildEnvironment host l registry w).result with
  | ok i => exact .inl ⟨i, rfl⟩
  | error e =>
    have hbuild : (buildEnvironment host l registry).FailsOnly _ :=
      Action.FailsOnly.bind nofun fun _ => (l.build_failsOnly hyaml).bind fun c w e h => by
        rw [adoptEnvironment_apply] at h
        exact nomatch h
    refine .inr ⟨e, rfl, ?_⟩
    rcases hbuild w e hresult with hdocumented | hslips
    · exact .inl hdocumented
    · cases hslips with
      | text htext => exact .inr (.inl ⟨rfl, htext⟩)
      | key hkey => exact .inr (.inr (.inl ⟨rfl, hkey⟩))
      | path hp => exact .inr (.inr (.inr ⟨_, rfl, hp⟩))

namespace Layering

/-- A parser with the values of another one that takes all its failures for bad documents. -/
def blaming (parse : Document.Parser) : Document.Parser :=
  fun bytes => (parse bytes).mapError fun _ => .malformed

theorem blamesDocuments_blaming (parse : Document.Parser) : (blaming parse).BlamesDocuments := by
  intro bytes failure h
  unfold blaming at h
  cases hparse : parse bytes with
  | ok v =>
    rw [hparse] at h
    exact nomatch h
  | error =>
    rw [hparse] at h
    cases h
    rfl

/-- A `.env` file beside a YAML file. -/
def hostWith (dotenv : List UInt8) : Host where
  files :=
    { root := ⟨1, ["srv"]⟩
      files := [(["srv", ".env"], dotenv), (["srv", "a.yml"], Utf8.encode "a: 1".toList)]
      directories := [] }
  yaml := blaming Yaml.read

/-- The `.env` file is asked for, and two files, of which one is missing. -/
def withMissing : Layering where
  files := ["missing.json", "a.yml"]
  environ := []
  variableMark := none
  withVariables := false
  dotenvStart := none
  withDotenv := true

/-- What stands in the `.env` file is a text. -/
def textHost : Host :=
  hostWith [0x41, 0x3D]

/-- Whether the outcome of a parser is a table whose keys can be written. -/
def isWritableTable : Except Document.Failure Value → Bool
  | .ok (.dict table) => Document.hasNames table
  | _ => false

theorem not_hasUnwritableKey_withMissing : ¬withMissing.HasUnwritableKey textHost := by
  rintro ⟨path, hpath, bytes, table, hformat, hbytes, hread, hkey⟩
  rcases List.mem_pair.1 hpath with rfl | rfl
  · have hjson : (Document.formatFor "missing.json").toOption = some .json := by
      decide +kernel
    rw [hformat] at hjson
    exact nomatch hjson
  · have hnames : (Document.bytesAt textHost.files "a.yml").toOption.map
        (fun bytes => isWritableTable (Document.read textHost.yaml .yaml bytes)) = some true := by
      decide +kernel
    rw [hbytes] at hnames
    have htable : isWritableTable (Document.read textHost.yaml .yaml bytes) = true :=
      Option.some.inj hnames
    rw [hread] at htable
    exact nomatch htable.symm.trans hkey

/-- The kind of the error of an outcome, none if there is no error. -/
def categoryOf {α : Type} : Except Error α → Option Category
  | .ok _ => none
  | .error e => some e.category

theorem build_undecodable :
    categoryOf (Workspace.buildEnvironment (hostWith [0xFF]) withMissing .standard .empty).result =
      some .undecodable := by
  decide +kernel

end Layering

open Layering (hostWith textHost withMissing)

/-- A file that is missing beside a `.env` file that is a text. -/
theorem Workspace.build_fails_as_documented_missing :
    ∃ e, (buildEnvironment textHost withMissing .standard .empty).result = .error e ∧
      withMissing.Documented textHost.files e := by
  have hyaml : textHost.yaml.BlamesDocuments := Layering.blamesDocuments_blaming _
  have hmissing : (Document.entriesAt? textHost "missing.json").isSome = false := by
    decide +kernel
  have hfound : withMissing.dotenvPath textHost.files = .ok (some ⟨1, ["srv", ".env"]⟩) :=
    toOption_eq_some_iff.1 (by decide +kernel)
  have hdotenv : Utf8.decode? ((textHost.files.read? ⟨1, ["srv", ".env"]⟩).getD []) ≠ none := by
    decide +kernel
  have htext : ¬withMissing.DotenvIsNoText textHost.files := by
    rintro ⟨path, hpath, hnone⟩
    obtain rfl := Option.some.inj (Except.ok.inj (hfound.symm.trans hpath))
    exact hdotenv hnone
  have hallowed : ∀ p, ¬withMissing.Refuses textHost.files p := by
    have hfiles : ∀ path ∈ withMissing.files,
        textHost.files.refuses (Path.ofString path) = false := by
      decide +kernel
    have htried : ∀ p ∈ Dotenv.candidates textHost.files none [], textHost.files.refuses p = false := by
      decide +kernel
    intro p hp
    cases hp with
    | file hpath _ h => exact nomatch (hfiles _ hpath).symm.trans h
    | dotenv _ hp h => exact nomatch (htried p hp).symm.trans h
  rcases build_fails_as_documented hyaml withMissing .standard .empty with
    ⟨i, hi⟩ | ⟨e, he, hdocumented | ⟨-, hdotenv⟩ | ⟨-, hkeys⟩ | ⟨p, -, hp⟩⟩
  · have hloads := (Layering.loads_of_buildEnvironment hi).files "missing.json" List.mem_cons_self
    rw [Option.isSome_eq_false_iff, Option.isNone_iff_eq_none] at hmissing
    rw [hmissing] at hloads
    exact nomatch hloads
  · exact ⟨e, he, hdocumented⟩
  · exact absurd hdotenv htext
  · exact absurd hkeys Layering.not_hasUnwritableKey_withMissing
  · exact absurd hp (hallowed p)

/-- A byte that begins no character leaves as another error than that of a layer. -/
theorem Workspace.build_fails_undecodable :
    ¬∀ (host : Host) (l : Layering) (registry : Registry) (w : Workspace),
      host.yaml.BlamesDocuments →
        (∃ i, (buildEnvironment host l registry w).result = .ok i) ∨
          ∃ e, (buildEnvironment host l registry w).result = .error e ∧ l.Documented host.files e := by
  intro h
  have hfailed := h (hostWith [0xFF]) withMissing .standard .empty
    (Layering.blamesDocuments_blaming _)
  have hcategory := Layering.build_undecodable
  rcases hfailed with ⟨i, hi⟩ | ⟨e, he, hdocumented⟩
  · rw [hi] at hcategory
    exact nomatch hcategory
  · rw [he] at hcategory
    exact nomatch hdocumented.category_eq.symm.trans (Option.some.inj hcategory)

end LayeredConfig
