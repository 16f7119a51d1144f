import LayeredConfig.Layering
import LayeredConfig.Proofs.Action.Effects

/-!
# Loading — what the layers hold that are loaded

Whether a file loads, and which entries it gives, depends on the host alone, on its files and its
parser: loading changes no state. The same holds of the `.env` file and of variables.
-/

namespace LayeredConfig

variable {σ α β : Type}

theorem toOption_eq_some_iff {ε : Type} {x : Except ε α} {a : α} :
    x.toOption = some a ↔ x = .ok a := by
  cases x with
  | ok b =>
    exact ⟨fun h => congrArg Except.ok (Option.some.inj h),
      fun h => congrArg some (Except.ok.inj h)⟩
  | error e => exact ⟨nofun, nofun⟩

/-! ## 1. Failures of layers -/

namespace Action

theorem Gives.orLayerFailure {x : Action σ α} {a : α} (h : x.Gives a) (layer path : String)
    (wrap : Error → Error) : (x.orLayerFailure layer path wrap).Gives a :=
  h.handle _

/-- A failure stays a failure. -/
theorem ok_of_orLayerFailure {x : Action σ α} {s : σ} {a : α} {layer path : String}
    {wrap : Error → Error} (h : (x.orLayerFailure layer path wrap s).result = .ok a) :
    (x s).result = .ok a := by
  unfold orLayerFailure at h
  cases hx : (x s).result with
  | ok b => rwa [handle_of_ok hx, hx] at h
  | error e =>
    rw [handle_of_error hx] at h
    dsimp only at h
    split at h
    next => contradiction
    next => contradiction

end Action

/-! ## 2. Structured files -/

namespace Document

/-- The flat entries of the file at a path, if it loads. -/
def entriesAt? (host : Host) (path : String) : Option (List (String × Value)) := do
  let format ← (formatFor path).toOption
  let bytes ← (bytesAt host.files path).toOption
  match read host.yaml format bytes with
  | .ok (.dict table) => (flatten "" table).toOption
  | _ => none

variable {host : Host} {path : String} {entries : List (String × Value)}

theorem entriesAt?_eq_some_iff :
    entriesAt? host path = some entries ↔ ∃ format bytes table, formatFor path = .ok format ∧
      bytesAt host.files path = .ok bytes ∧ read host.yaml format bytes = .ok (.dict table) ∧
        flatten "" table = .ok entries := by
  unfold entriesAt?
  constructor
  · intro h
    obtain ⟨format, hformat, h⟩ := Option.bind_eq_some_iff.1 h
    obtain ⟨bytes, hbytes, h⟩ := Option.bind_eq_some_iff.1 h
    split at h
    next table htable =>
      exact ⟨format, bytes, table, toOption_eq_some_iff.1 hformat, toOption_eq_some_iff.1 hbytes,
        htable, toOption_eq_some_iff.1 h⟩
    next => cases h
  · rintro ⟨format, bytes, table, hformat, hbytes, htable, hflat⟩
    rw [hformat, hbytes]
    show (match read host.yaml format bytes with | .ok (.dict table) => _ | _ => _) = _
    rw [htable]
    dsimp only
    rw [hflat]
    rfl

theorem entriesOf_gives {yaml : Parser} {format : Format} {bytes : List UInt8}
    {table : List (Value × Value)} (hread : read yaml format bytes = .ok (.dict table))
    (hflat : flatten "" table = .ok entries) :
    (entriesOf yaml format path bytes : Action σ _).Gives entries := by
  unfold entriesOf
  rw [hread]
  dsimp only
  rw [hflat]
  exact (Action.Gives.ofExcept entries).bind ((Action.Gives.emit _).bind (.pure entries))

/-- Entries come from a document that is a table and can be flattened. -/
theorem exists_of_entriesOf {yaml : Parser} {format : Format} {bytes : List UInt8} {s : σ}
    (h : (entriesOf yaml format path bytes s).result = .ok entries) :
    ∃ table, read yaml format bytes = .ok (.dict table) ∧ flatten "" table = .ok entries := by
  unfold entriesOf at h
  cases hread : read yaml format bytes with
  | error failure =>
    rw [hread] at h
    dsimp only at h
    cases hfault : failure.fault? with
    | none =>
      rw [hfault] at h
      contradiction
    | some f =>
      rw [hfault] at h
      contradiction
  | ok v =>
    rw [hread] at h
    cases v with
    | dict table =>
      obtain ⟨flat, hflat, h⟩ := Action.ok_of_bind h
      obtain ⟨-, -, h⟩ := Action.ok_of_bind h
      cases h
      refine ⟨table, rfl, ?_⟩
      cases hall : flatten "" table with
      | error f =>
        rw [hall] at hflat
        contradiction
      | ok entries =>
        rw [hall] at hflat
        exact congrArg Except.ok (Except.ok.inj hflat)
    | _ => contradiction

theorem loadLayer_gives (h : entriesAt? host path = some entries) :
    (loadLayer host path : Action σ Source).Gives ⟨layerName path, .mapping entries⟩ := by
  obtain ⟨format, bytes, table, hformat, hbytes, htable, hentries⟩ := entriesAt?_eq_some_iff.1 h
  have hload : (load host format path : Action σ _).Gives entries := by
    unfold load
    rw [hbytes]
    exact (Action.Gives.ofExcept bytes).bind
      ((Action.Gives.emit _).bind (entriesOf_gives htable hentries))
  have hread : (Action.ofExcept (formatFor path) >>= fun format =>
      (load host format path : Action σ _)).Gives entries := by
    rw [hformat]
    exact Action.Gives.bind (Action.Gives.ofExcept format) hload
  exact (hread.orLayerFailure _ _ _).bind (.pure _)

theorem entriesAt?_of_loadLayer {s : σ} {source : Source}
    (h : (loadLayer host path s).result = .ok source) :
    ∃ entries, entriesAt? host path = some entries := by
  unfold loadLayer at h
  obtain ⟨entries, hentries, -⟩ := Action.ok_of_bind h
  have hinner := Action.ok_of_orLayerFailure hentries
  obtain ⟨format, hformat, hload⟩ := Action.ok_of_bind hinner
  rw [Action.result_ofExcept] at hformat
  obtain ⟨bytes, hbytes, hload⟩ := Action.ok_of_bind hload
  rw [Action.result_ofExcept] at hbytes
  obtain ⟨-, -, hload⟩ := Action.ok_of_bind hload
  obtain ⟨table, htable, hflat⟩ := exists_of_entriesOf hload
  exact ⟨entries, entriesAt?_eq_some_iff.2 ⟨format, bytes, table, hformat, hbytes, htable, hflat⟩⟩

end Document

/-! ## 3. Settings and variables -/

namespace Dotenv

/-- The settings in the `.env` file at a path, if it loads. -/
def settingsAt? (t : FileTree) (path : Path) : Option Settings :=
  (parse path.text ((t.read? path).getD [])).2.toOption

variable {t : FileTree} {path : Path}

theorem read_gives {settings : Settings} (h : settingsAt? t path = some settings) :
    (read t path : Action σ Source).Gives ⟨layerName, .mapping settings⟩ := by
  have hsettings := toOption_eq_some_iff.1 h
  unfold read
  dsimp only
  rw [hsettings]
  exact (Action.Gives.emit _).bind ((Action.Gives.ofExcept settings).bind
    ((Action.Gives.emit _).bind (.ofExcept _)))

theorem settingsAt?_of_read {s : σ} {source : Source} (h : (read t path s).result = .ok source) :
    ∃ settings, settingsAt? t path = some settings := by
  unfold read at h
  obtain ⟨-, -, h⟩ := Action.ok_of_bind h
  obtain ⟨settings, hsettings, -⟩ := Action.ok_of_bind h
  rw [Action.result_ofExcept] at hsettings
  exact ⟨settings, toOption_eq_some_iff.2 hsettings⟩

end Dotenv

theorem Source.make_text {name : String} (hname : Text.isBlankText name = false) (store : Store) :
    make (.text name) (some store) = .ok ⟨name, store⟩ := by
  have hof : nameOf (.text name) = .ok name := if_neg (by rw [hname]; decide)
  rw [make, hof]
  rfl

/-- The new mapping comes behind those that are there. -/
theorem Variables.loadFrom_apply (ms : Mappings) (environ : Nat) (given : Option String)
    {name : String} (hname : Text.isBlankText name = false) :
    loadFrom environ given name ms =
      ⟨ms ++ [collect (mark given) (ms.getD environ [])],
        [.variablesLoaded name (collect (mark given) (ms.getD environ [])).length],
        .ok ⟨name, ms.length⟩⟩ := by
  have hmake := fun entries => Source.make_text hname (.variables entries)
  unfold loadFrom
  simp only [hmake]
  rfl

theorem Variables.load_gives_named (environ : List (String × Value)) (given : Option String)
    {name : String} (hname : Text.isBlankText name = false) :
    (load environ given name : Action σ Source).Gives
      ⟨name, .variables (collect (mark given) environ)⟩ := by
  have hload := loadFrom_apply [environ] 0 given hname
  have hresult := congrArg Outcome.result hload
  exact .within (by rw [Action.bind_of_ok hresult, hload]; rfl)

theorem Variables.load_gives (environ : List (String × Value)) (given : Option String) :
    (load environ given layerName : Action σ Source).Gives
      ⟨layerName, .variables (collect (mark given) environ)⟩ :=
  load_gives_named environ given (by decide)

/-! ## 4. States -/

theorem Variables.load_respects {R : σ → σ → Prop} [Std.Refl R] (environ : List (String × Value))
    (given : Option String) (name : String) : (load environ given name : Action σ Source).Respects R :=
  .within _ _

section Respects

variable {R : σ → σ → Prop} [Std.Refl R] [IsTrans σ R]

theorem Action.Respects.orLayerFailure {x : Action σ α} (hx : x.Respects R) (layer path : String)
    (wrap : Error → Error) : (x.orLayerFailure layer path wrap).Respects R := by
  refine hx.handle fun e => ?_
  split
  next => exact (Action.Respects.emit _).bind fun _ => .fail _
  next => exact .fail _

theorem Document.loadLayer_respects (host : Host) (path : String) :
    (loadLayer host path : Action σ _).Respects R := by
  have hentries (format : Format) (bytes : List UInt8) :
      (entriesOf host.yaml format path bytes : Action σ _).Respects R := by
    unfold entriesOf
    split
    next =>
      split
      next => exact .fail _
      next => exact (Action.Respects.emit _).bind fun _ => .fail _
    next =>
      exact (Action.Respects.ofExcept _).bind fun _ => (Action.Respects.emit _).bind fun _ => .pure _
    next => exact (Action.Respects.emit _).bind fun _ => .fail _
  have hload (format : Format) : (load host format path : Action σ _).Respects R :=
    (Action.Respects.ofExcept _).bind fun bytes =>
      (Action.Respects.emit _).bind fun _ => hentries format bytes
  have hread : (Action.ofExcept (formatFor path) >>= fun format =>
      (load host format path : Action σ _)).Respects R :=
    (Action.Respects.ofExcept _).bind hload
  exact (hread.orLayerFailure _ _ _).bind fun _ => .pure _

theorem Dotenv.read_respects (t : FileTree) (path : Path) :
    (read t path : Action σ Source).Respects R :=
  (Action.Respects.emit _).bind fun _ => (Action.Respects.ofExcept _).bind fun _ =>
    (Action.Respects.emit _).bind fun _ => .ofExcept _

end Respects

end LayeredConfig
