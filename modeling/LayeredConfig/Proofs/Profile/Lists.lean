import LayeredConfig.Proofs.Profile.Conditions

/-!
# Lists of profiles — what may be stored

The names in a proper list are profile names, and none comes twice. Names that are accepted make a proper
list once repetitions are left out (`isProper_of_namesOf`), and so do names that are joined to those of
another one (`IsProper.join`).
-/

namespace LayeredConfig.Profile

theorem isBlankText_eq_false_iff {s : String} :
    Text.isBlankText s = false ↔ ∃ c ∈ s.toList, Text.isBlank c = false := by
  simp [Text.isBlankText]

/-- A profile name has a character that is not blank, and does not begin with the mark of negation. -/
theorem nameFault?_eq_none_iff {name : String} :
    nameFault? name = none ↔
      (∃ c ∈ name.toList, Text.isBlank c = false) ∧ name.toList.head? ≠ some '!' := by
  rw [nameFault?, ← isBlankText_eq_false_iff]
  cases Text.isBlankText name with
  | true => simp
  | false =>
    by_cases hhead : name.toList.head? = some '!'
    · simp [hhead]
    · simp [hhead]

/-- A list of profiles as an environment may store it. -/
structure IsProper (profiles : List String) : Prop where
  nodup : profiles.Nodup
  hasText : ∀ name ∈ profiles, ∃ c ∈ name.toList, Text.isBlank c = false
  notNegated : ∀ name ∈ profiles, name.toList.head? ≠ some '!'

theorem isProper_iff {profiles : List String} :
    IsProper profiles ↔ profiles.Nodup ∧ ∀ name ∈ profiles, nameFault? name = none := by
  constructor
  · exact fun h => ⟨h.nodup, fun name hname =>
      nameFault?_eq_none_iff.2 ⟨h.hasText name hname, h.notNegated name hname⟩⟩
  · exact fun ⟨hnodup, hnames⟩ => ⟨hnodup, fun name hname =>
      (nameFault?_eq_none_iff.1 (hnames name hname)).1, fun name hname =>
      (nameFault?_eq_none_iff.1 (hnames name hname)).2⟩

theorem isProper_nil : IsProper [] :=
  ⟨List.nodup_nil, nofun, nofun⟩

theorem isProper_distinctNames {names : List String} (h : ∀ name ∈ names, nameFault? name = none) :
    IsProper (distinctNames names) :=
  isProper_iff.2 ⟨nodup_distinctNames names, fun name hname => h name (mem_distinctNames.1 hname)⟩

theorem nameFault?_of_nameOf {v : Value} {name : String} (h : nameOf v = .ok name) :
    nameFault? name = none := by
  rw [nameOf] at h
  cases hplain : v.plain with
  | text s =>
    rw [hplain] at h
    cases hfault : nameFault? s with
    | none =>
      simp only [hfault] at h
      rwa [← Except.ok.inj h]
    | some reason =>
      simp only [hfault] at h
      split at h <;> cases h
  | _ =>
    rw [hplain] at h
    dsimp only at h
    split at h <;> cases h

theorem isProper_of_namesOf {values : List Value} {names : List String}
    (h : namesOf values = .ok names) : IsProper (distinctNames names) := by
  refine isProper_distinctNames ?_
  have hread := mapM_eq_ok_iff.1 h
  clear h
  induction hread with
  | nil => exact nofun
  | cons hfirst _ ih => exact List.forall_mem_cons.2 ⟨nameFault?_of_nameOf hfirst, ih⟩

theorem isProper_singleton {v : Value} {name : String} (h : nameOf v = .ok name) : IsProper [name] :=
  isProper_iff.2 ⟨List.nodup_singleton name, List.forall_mem_singleton.2 (nameFault?_of_nameOf h)⟩

/-- Names of a proper list stay proper with those of another one behind them. -/
theorem IsProper.join {profiles names more : List String} (h : IsProper profiles)
    (hsub : names ⊆ profiles) (hmore : IsProper more) : IsProper (distinctNames (names ++ more)) := by
  refine isProper_distinctNames fun name hname => ?_
  rcases List.mem_append.1 hname with hname | hname
  · exact (isProper_iff.1 h).2 name (hsub hname)
  · exact (isProper_iff.1 hmore).2 name hname

end LayeredConfig.Profile
