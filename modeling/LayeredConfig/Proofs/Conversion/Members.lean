import LayeredConfig.Proofs.Conversion.Kinds
import LayeredConfig.Proofs.Conversion.Refusals
import Mathlib.Data.List.Nodup

/-!
# Members — enumerations by name

A text converts to the member that it names, in any letter case as long as one name alone is meant, and
what names nothing is refused (`enumeration_by_name`). Letter case counts for names that are not met when
the enumeration is gone through, and an enumeration that derives from a kind with a function of its own
takes no text.
-/

namespace LayeredConfig

namespace Enumeration

variable {e : Enumeration} {name s : String} {m : String × Value} {v : Value}

/-- The declared names, aliases included. -/
def names (e : Enumeration) : List String :=
  e.entries.map (·.1)

/-- A name is declared once, and no name is empty. -/
structure IsDeclarable (e : Enumeration) : Prop where
  nodup_names : e.names.Nodup
  empty_notMem : "" ∉ e.names

/-- A name is met when the enumeration is gone through if it is no alias but the name of a member, and of
flags a single one. -/
def IsMet (e : Enumeration) (name : String) : Prop :=
  ∃ value, (name, name, value) ∈ e.declarations ∧
    (e.flags.isSome = true → isSingleBit value = true)

/-- A text spells a name up to the blanks around it. -/
def Spells (s name : String) : Prop :=
  Text.trimString s = name

instance : Decidable (Spells s name) :=
  inferInstanceAs (Decidable (Text.trimString s = name))

/-- A text matches a name up to letter case and the blanks around it. -/
def Matches (s name : String) : Prop :=
  Text.lowerString name = Text.lowerString (Text.trimString s)

instance : Decidable (Matches s name) :=
  inferInstanceAs (Decidable (Text.lowerString name = Text.lowerString (Text.trimString s)))

theorem map_foldl_declare (entries : List (String × Value)) :
    (entries.foldl declare []).map (·.1) = entries.map (·.1) := by
  induction entries using List.reverseRecOn with
  | nil => rfl
  | append_singleton entries entry ih =>
    rw [List.foldl_concat, declare, List.map_append, List.map_append, ih]
    rfl

theorem map_declarations (e : Enumeration) : e.declarations.map (·.1) = e.names :=
  map_foldl_declare e.entries

theorem mem_names (h : (name, m) ∈ e.declarations) : name ∈ e.names := by
  rw [← map_declarations]
  exact List.mem_map_of_mem h

theorem declaration_unique (he : e.IsDeclarable) {m' : String × Value}
    (h : (name, m) ∈ e.declarations) (h' : (name, m') ∈ e.declarations) : m = m' := by
  have hnodup : (e.declarations.map (·.1)).Nodup := by
    rw [map_declarations]
    exact he.nodup_names
  exact congrArg Prod.snd (List.inj_on_of_nodup_map hnodup h h' rfl)

theorem declared?_eq_none (h : name ∉ e.names) : e.declared? name = none := by
  rw [declared?, Option.map_eq_none_iff, List.find?_eq_none]
  rintro ⟨other, m⟩ hother hname
  exact h (by simpa using beq_iff_eq.1 hname ▸ mem_names hother)

theorem isMet_iff : e.IsMet name ↔ ∃ m ∈ e.listed, m.1 = name := by
  constructor
  · rintro ⟨value, hvalue, hsingle⟩
    exact ⟨(name, value), mem_listed_iff.2 ⟨mem_members_iff.2 hvalue, hsingle⟩, rfl⟩
  · rintro ⟨m, hm, rfl⟩
    obtain ⟨hmember, hsingle⟩ := mem_listed_iff.1 hm
    exact ⟨m.2, mem_members_iff.1 hmember, hsingle⟩

theorem find?_eq_some_of_unique {α : Type} {l : List α} {p : α → Bool} {a : α} (ha : a ∈ l)
    (hp : p a = true) (hunique : ∀ b ∈ l, p b = true → b = a) : l.find? p = some a := by
  cases hfind : l.find? p with
  | none => exact absurd hp (List.find?_eq_none.1 hfind a ha)
  | some b => exact congrArg some (hunique b (List.mem_of_find?_eq_some hfind) (List.find?_some hfind))

/-- The one member whose name a text matches is found if it is met. -/
theorem find?_listed (he : e.IsDeclarable) (hmet : e.IsMet name) (hdeclared : (name, m) ∈ e.declarations)
    (hmatches : Matches s name) (hunique : ∀ other ∈ e.names, Matches s other → other = name) :
    e.listed.find? (fun entry => decide (Matches s entry.1)) = some m := by
  obtain ⟨found, hfound, rfl⟩ := isMet_iff.1 hmet
  have hmember : ∀ entry ∈ e.listed, (entry.1, entry) ∈ e.declarations := fun entry hentry =>
    mem_members_iff.1 (mem_listed_iff.1 hentry).1
  obtain rfl : found = m := declaration_unique he (hmember found hfound) hdeclared
  refine find?_eq_some_of_unique hfound (decide_eq_true hmatches) fun other hother hp => ?_
  have hname : other.1 = found.1 := hunique _ (mem_names (hmember other hother)) (of_decide_eq_true hp)
  exact declaration_unique he (hname ▸ hmember other hother) hdeclared

end Enumeration

namespace Conversion

open Enumeration (Spells Matches)

variable {e : Enumeration} {name s : String} {v w : Value}

theorem memberNamed_of_spells (he : e.IsDeclarable) (hdeclared : e.declared? name = some v)
    (hspells : Spells s name) : memberNamed e s = .ok v := by
  obtain ⟨m, hm, -⟩ := Enumeration.declared?_eq_some hdeclared
  have hempty : name ≠ "" := fun hname => he.empty_notMem (hname ▸ Enumeration.mem_names hm)
  rw [memberNamed, show Text.trimString s = name from hspells]
  dsimp only
  rw [if_neg hempty, hdeclared]

theorem memberNamed_of_matches (he : e.IsDeclarable) (hdeclared : e.declared? name = some v)
    (hmet : e.IsMet name) (hmatches : Matches s name)
    (hunique : ∀ other ∈ e.names, Matches s other → other = name) : memberNamed e s = .ok v := by
  by_cases hspells : Spells s name
  · exact memberNamed_of_spells he hdeclared hspells
  · obtain ⟨m, hm, rfl⟩ := Enumeration.declared?_eq_some hdeclared
    have hempty : Text.trimString s ≠ "" := by
      intro htrim
      have hlower : Text.lowerString name = Text.lowerString "" := htrim ▸ hmatches
      rw [Text.lowerString, Text.lowerString, String.ofList_inj] at hlower
      have hnil : name.toList = [] := Text.lower_eq_nil_iff.1 (hlower.trans rfl)
      exact he.empty_notMem (String.toList_eq_nil_iff.1 hnil ▸ Enumeration.mem_names hm)
    -- Nothing is spelled like the text: its spelling would match too.
    have hundeclared : e.declared? (Text.trimString s) = none :=
      Enumeration.declared?_eq_none fun hmem => hspells (hunique _ hmem rfl)
    have hfind : e.listed.find? (fun entry => decide (Text.lowerString entry.1 =
        Text.lowerString (Text.trimString s))) = some m :=
      Enumeration.find?_listed he hmet hm hmatches hunique
    rw [memberNamed]
    dsimp only
    rw [if_neg hempty, hundeclared]
    dsimp only
    rw [hfind]

/-- What a text is converted to has a name that it matches, and it is spelled so where that name is not
met. -/
theorem exists_matches_of_memberNamed (h : memberNamed e s = .ok w) :
    ∃ name ∈ e.names, Matches s name ∧ (¬e.IsMet name → Spells s name) := by
  unfold memberNamed at h
  dsimp only at h
  split at h
  · contradiction
  · split at h
    next v hdeclared =>
      obtain ⟨m, hm, -⟩ := Enumeration.declared?_eq_some hdeclared
      exact ⟨_, Enumeration.mem_names hm, rfl, fun _ => rfl⟩
    next =>
      split at h
      next entry hfind =>
        have hlisted := List.mem_of_find?_eq_some hfind
        have hdeclared := Enumeration.mem_members_iff.1 (Enumeration.mem_listed_iff.1 hlisted).1
        have hmatches : Text.lowerString entry.1 = Text.lowerString (Text.trimString s) :=
          by simpa using List.find?_some hfind
        exact ⟨entry.1, Enumeration.mem_names hdeclared, hmatches, fun hmet =>
          absurd (Enumeration.isMet_iff.2 ⟨entry, hlisted, rfl⟩) hmet⟩
      next => contradiction

end Conversion

namespace Registry

open Enumeration (Spells Matches)

variable {e : Enumeration} {s : String} {v : Value}

theorem convert_text_enumeration (e : Enumeration) (s : String) :
    standard.convert (.text s) (.enumeration e) = handed (.text s) (.enumeration e) :=
  convert_eq_handed rfl (by simp [EnumClass.kind]) rfl rfl

theorem builtin?_of_not_blocked (h : e.blocked? = none) :
    Conversion.builtin? (.enumeration e) = some (Conversion.toMember e) := by
  simp only [Conversion.builtin?, h, Option.elim_none]

theorem convert_of_memberNamed (hfree : ∀ k ∈ e.bases, standard.find? k = none)
    (h : Conversion.memberNamed e s = .ok v) :
    standard.convert (.text s) (.enumeration e) = .ok v := by
  have hrun : Conversion.toMember e (.text s) = .ok v := h
  rw [convert_text_enumeration, handed_of_builtin (builtin?_of_not_blocked (blocked?_eq_none_iff.2 hfree)),
    hrun]
  rfl

/-- The function of the base is found before the one for enumerations, and it does not take a target. -/
theorem convert_text_of_blocked? {f : Fault} (h : e.blocked? = some f) :
    standard.convert (.text s) (.enumeration e) =
      .error (.conversion (.text s) (.enumeration e) (.rejected f)) := by
  have hrun : Conversion.builtin? (.enumeration e) = some fun _ => .error f := by
    simp only [Conversion.builtin?, h, Option.elim_some]
  calc standard.convert (.text s) (.enumeration e)
      = handed (.text s) (.enumeration e) := convert_text_enumeration e s
    _ = .error (refusalOf (.text s) (.enumeration e) (.fault f)) := by
      rw [handed_of_builtin hrun]
      rfl
    _ = .error (.conversion (.text s) (.enumeration e) (.rejected f)) := by
      rw [refusalOf_of_isRejection (Conversion.blocked?_isRejection h),
        refuse_of_isWritable (Value.isWritable_text s)]

theorem memberNamed_of_convert (h : standard.convert (.text s) (.enumeration e) = .ok v) :
    Conversion.memberNamed e s = .ok v := by
  cases hblocked : e.blocked? with
  | some f => cases h.symm.trans (convert_text_of_blocked? hblocked)
  | none =>
    rw [convert_text_enumeration] at h
    obtain ⟨run, hrun, hv⟩ := ok_of_handed h
    cases (builtin?_of_not_blocked hblocked).symm.trans hrun
    exact hv

/-- The test of an enumeration does not fail, and a text is no value that one is asked to make a member
for. -/
theorem ok_or_refuse_text (e : Enumeration) (s : String) :
    (∃ w, standard.convert (.text s) (.enumeration e) = .ok w) ∨
      ∃ refusal, standard.convert (.text s) (.enumeration e) =
        .error (.conversion (.text s) (.enumeration e) refusal) := by
  cases hblocked : e.blocked? with
  | some f => exact .inr ⟨_, convert_text_of_blocked? hblocked⟩
  | none =>
    rw [convert_text_enumeration, handed_of_builtin (builtin?_of_not_blocked hblocked)]
    have htext : Conversion.toMember e (.text s) = Conversion.memberNamed e s := rfl
    rw [htext]
    cases hresult : Conversion.memberNamed e s with
    | ok w => exact .inl ⟨w, rfl⟩
    | error f =>
      have hrejection := Conversion.memberNamed_rejects e s f hresult
      refine .inr ⟨.rejected f, ?_⟩
      rw [Except.mapError, refusalOf_of_isRejection hrejection,
        refuse_of_isWritable (Value.isWritable_text s)]

theorem convert_text_of_missed
    (h : ∀ name ∈ e.names, Matches s name → ¬e.IsMet name ∧ ¬Spells s name) :
    ∃ refusal, standard.convert (.text s) (.enumeration e) =
      .error (.conversion (.text s) (.enumeration e) refusal) := by
  refine (ok_or_refuse_text e s).resolve_left ?_
  rintro ⟨w, hw⟩
  obtain ⟨name, hname, hmatches, hspells⟩ :=
    Conversion.exists_matches_of_memberNamed (memberNamed_of_convert hw)
  obtain ⟨hmet, hmissed⟩ := h name hname hmatches
  exact hmissed (hspells hmet)

/-- A text converts to the member whose name or alias it spells, and to the one whose name alone it
matches in another letter case if that name is met when the enumeration is gone through. It is refused if
it matches no name, and also if it matches only names that are not met and spells none of them; and an
enumeration that derives from a kind with a function of its own refuses every text, because the nearest such
function is called and does not take a target. -/
theorem enumeration_by_name (e : Enumeration) (he : e.IsDeclarable) (s : String) :
    ((∀ k ∈ e.bases, standard.find? k = none) → ∀ name v, e.declared? name = some v →
      (Spells s name → standard.convert (.text s) (.enumeration e) = .ok v) ∧
        (e.IsMet name → Matches s name → (∀ other ∈ e.names, Matches s other → other = name) →
          standard.convert (.text s) (.enumeration e) = .ok v)) ∧
      ((∀ name ∈ e.names, Matches s name → ¬e.IsMet name ∧ ¬Spells s name) →
        ∃ refusal, standard.convert (.text s) (.enumeration e) =
          .error (.conversion (.text s) (.enumeration e) refusal)) ∧
      ∀ nearer k farther, e.bases = nearer ++ k :: farther →
        (∀ other ∈ nearer, standard.find? other = none) → standard.find? k ≠ none →
          standard.convert (.text s) (.enumeration e) =
            .error (.conversion (.text s) (.enumeration e) (.rejected (excess k))) := by
  refine ⟨fun hfree name v hdeclared => ⟨?spelled, ?matched⟩, convert_text_of_missed,
    fun nearer k farther hbases hnearer hk =>
      convert_text_of_blocked? (blocked?_of_nearest hbases hnearer hk)⟩
  case spelled =>
    intro hspells
    exact convert_of_memberNamed hfree (Conversion.memberNamed_of_spells he hdeclared hspells)
  case matched =>
    intro hmet hmatches hunique
    apply convert_of_memberNamed hfree
    exact Conversion.memberNamed_of_matches he hdeclared hmet hmatches hunique

/-- Modes of which the last name is an alias. -/
def modes : Enumeration :=
  .declaring (.plain 0 "Mode") [("fast", .int 1), ("FAST", .int 2), ("Slow", .int 3), ("LAZY", .int 3)]

theorem isDeclarable_modes : modes.IsDeclarable :=
  ⟨by decide, by decide⟩

theorem declarations_modes : modes.declarations = [("fast", "fast", .int 1), ("FAST", "FAST", .int 2),
    ("Slow", "Slow", .int 3), ("LAZY", "Slow", .int 3)] := by
  with_unfolding_all rfl

theorem declared?_modes_lazy : modes.declared? "LAZY" = some (modes.member ("Slow", .int 3)) := by
  rw [Enumeration.declared?, declarations_modes]
  rfl

theorem enumeration_by_name_modes :
    modes.IsDeclarable ∧
      standard.convert (.text " LAZY") (.enumeration modes) = .ok (modes.member ("Slow", .int 3)) ∧
      standard.convert (.text "sLOW\t") (.enumeration modes) = .ok (modes.member ("Slow", .int 3)) ∧
      ∃ refusal, standard.convert (.text "brisk") (.enumeration modes) =
        .error (.conversion (.text "brisk") (.enumeration modes) refusal) := by
  have hslow : modes.declared? "Slow" = some (modes.member ("Slow", .int 3)) := by
    rw [Enumeration.declared?, declarations_modes]
    rfl
  have hmet : modes.IsMet "Slow" :=
    ⟨.int 3, by simp [declarations_modes], fun hflags => by cases hflags⟩
  have hfree : ∀ k ∈ modes.bases, standard.find? k = none := List.forall_mem_nil _
  refine ⟨isDeclarable_modes, ?_, ?_, ?_⟩
  · exact ((enumeration_by_name modes isDeclarable_modes " LAZY").1 hfree _ _ declared?_modes_lazy).1
      (by decide)
  · exact ((enumeration_by_name modes isDeclarable_modes "sLOW\t").1 hfree _ _ hslow).2 hmet (by decide)
      (by decide)
  · have hnone : ∀ name ∈ modes.names, ¬Matches "brisk" name := by decide
    exact (enumeration_by_name modes isDeclarable_modes "brisk").2.1 fun name hname hmatches =>
      absurd hmatches (hnone name hname)

/-- Levels that are integers as well. -/
def levels : Enumeration :=
  .declaring
    { number := 2, name := "Level", bases := [.made 3 "IntEnum", .int, .made 4 "ReprEnum"], flags := none,
      showsValue := true, isBase_bases := by decide }
    [("LOW", .int 1), ("HIGH", .int 2)]

theorem declarations_access : access.declarations = [("READ", "READ", .int 1),
    ("WRITE", "WRITE", .int 2), ("EXECUTE", "EXECUTE", .int 4), ("ALL", "ALL", .int 7)] := by
  with_unfolding_all rfl

/-- The name of an integral member is refused, and so is in another letter case the name of an alias or of
flags that are not single. -/
theorem enumeration_misses_names :
    (levels.declared? "LOW" = some (levels.member ("LOW", .int 1)) ∧
        ¬∃ w, standard.convert (.text "LOW") (.enumeration levels) = .ok w) ∧
      (modes.declared? "LAZY" = some (modes.member ("Slow", .int 3)) ∧
        Matches "lazy" "LAZY" ∧ (∀ other ∈ modes.names, Matches "lazy" other → other = "LAZY") ∧
        ¬∃ w, standard.convert (.text "lazy") (.enumeration modes) = .ok w) ∧
      access.declared? "ALL" = some (access.member ("ALL", .int 7)) ∧
        Matches "all" "ALL" ∧ (∀ other ∈ access.names, Matches "all" other → other = "ALL") ∧
        ¬∃ w, standard.convert (.text "all") (.enumeration access) = .ok w := by
  have hlow : levels.declared? "LOW" = some (levels.member ("LOW", .int 1)) := rfl
  have hall : access.declared? "ALL" = some (access.member ("ALL", .int 7)) := by
    rw [Enumeration.declared?, declarations_access]
    rfl
  have hlazy : ∀ other ∈ modes.names, Matches "lazy" other → other = "LAZY" := by decide
  have hothers : ∀ other ∈ access.names, Matches "all" other → other = "ALL" := by decide
  refine ⟨⟨hlow, ?integral⟩, ⟨declared?_modes_lazy, by decide, hlazy, ?aliased⟩, hall, by decide,
    hothers, ?combined⟩
  case integral =>
    rintro ⟨w, hw⟩
    have hblocked : levels.blocked? = some (excess .int) := rfl
    cases hw.symm.trans (convert_text_of_blocked? hblocked)
  case aliased =>
    have hmet : ¬modes.IsMet "LAZY" := by
      rintro ⟨value, hvalue, -⟩
      simp [declarations_modes] at hvalue
    have hmissed : ∀ name ∈ modes.names, Matches "lazy" name → ¬modes.IsMet name ∧ ¬Spells "lazy" name := by
      intro name hname hmatches
      rw [hlazy name hname hmatches]
      exact ⟨hmet, by decide⟩
    rintro ⟨w, hw⟩
    obtain ⟨refusal, hrefused⟩ := convert_text_of_missed hmissed
    cases hw.symm.trans hrefused
  case combined =>
    have hmet : ¬access.IsMet "ALL" := by
      rintro ⟨value, hvalue, hsingle⟩
      obtain rfl : value = .int 7 := by simpa [declarations_access] using hvalue
      exact absurd (hsingle rfl) (by decide)
    have hmissed : ∀ name ∈ access.names, Matches "all" name → ¬access.IsMet name ∧ ¬Spells "all" name := by
      intro name hname hmatches
      rw [hothers name hname hmatches]
      exact ⟨hmet, by decide⟩
    rintro ⟨w, hw⟩
    obtain ⟨refusal, hrefused⟩ := convert_text_of_missed hmissed
    cases hw.symm.trans hrefused

end Registry

end LayeredConfig
