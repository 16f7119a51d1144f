import LayeredConfig.Profile.Condition
import LayeredConfig.Proofs.Distinct
import LayeredConfig.Proofs.Profile.Tokens
import Mathlib.Data.List.Nodup

/-!
# Names — which profile names are kept, and where they stand

A name counts at its first place, so names that are joined to others come behind them unless they are
there (`addNames_of_nodup`). Every name that can stand in an expression is a profile name
(`IsName.isProfileName`).
-/

namespace LayeredConfig.Profile

/-! ## 1. Names without repetitions -/

/-- Names joined one after the other to some that are there. -/
def addNames (seen names : List String) : List String :=
  names.foldl (fun seen name => if name ∈ seen then seen else seen ++ [name]) seen

theorem addNames_nil (names : List String) : addNames [] names = distinctNames names := rfl

theorem distinctNames_eq_eraseDups (names : List String) : distinctNames names = names.eraseDups :=
  Distinct.foldl_join_eq_eraseDups names

theorem addNames_cons_of_mem {seen : List String} {name : String} (h : name ∈ seen)
    (names : List String) : addNames seen (name :: names) = addNames seen names := by
  rw [addNames, List.foldl_cons, if_pos h]
  rfl

theorem addNames_cons_of_notMem {seen : List String} {name : String} (h : name ∉ seen)
    (names : List String) : addNames seen (name :: names) = addNames (seen ++ [name]) names := by
  rw [addNames, List.foldl_cons, if_neg h]
  rfl

theorem distinctNames_append (names more : List String) :
    distinctNames (names ++ more) = addNames (distinctNames names) more :=
  List.foldl_append

theorem mem_addNames {seen names : List String} {name : String} :
    name ∈ addNames seen names ↔ name ∈ seen ∨ name ∈ names := by
  induction names generalizing seen with
  | nil => simp [addNames]
  | cons first names ih =>
    by_cases h : first ∈ seen
    · rw [addNames_cons_of_mem h, ih]
      grind
    · rw [addNames_cons_of_notMem h, ih]
      grind

theorem mem_distinctNames {names : List String} {name : String} :
    name ∈ distinctNames names ↔ name ∈ names := by
  rw [← addNames_nil, mem_addNames]
  simp

theorem nodup_addNames {seen : List String} (h : seen.Nodup) (names : List String) :
    (addNames seen names).Nodup := by
  induction names generalizing seen with
  | nil => exact h
  | cons first names ih =>
    by_cases hfirst : first ∈ seen
    · rw [addNames_cons_of_mem hfirst]
      exact ih h
    · rw [addNames_cons_of_notMem hfirst]
      exact ih (List.nodup_append_comm.1 (List.nodup_cons.2 ⟨hfirst, h⟩))

theorem nodup_distinctNames (names : List String) : (distinctNames names).Nodup :=
  nodup_addNames List.nodup_nil names

/-- Names that are there keep their places. -/
theorem prefix_addNames (seen names : List String) : seen <+: addNames seen names := by
  induction names generalizing seen with
  | nil => exact List.prefix_refl seen
  | cons first names ih =>
    by_cases hfirst : first ∈ seen
    · rw [addNames_cons_of_mem hfirst]
      exact ih seen
    · rw [addNames_cons_of_notMem hfirst]
      exact (List.prefix_append seen [first]).trans (ih _)

/-- Names without repetitions come behind those that are there, in their order. -/
theorem addNames_of_nodup {names : List String} (h : names.Nodup) (seen : List String) :
    addNames seen names = seen ++ names.filter (· ∉ seen) := by
  induction names generalizing seen with
  | nil => exact (List.append_nil seen).symm
  | cons first names ih =>
    obtain ⟨hnew, hnames⟩ := List.nodup_cons.1 h
    by_cases hfirst : first ∈ seen
    · rw [addNames_cons_of_mem hfirst, ih hnames, List.filter_cons_of_neg (by simpa using hfirst)]
    · -- The first name is not among the rest, so it takes nothing away from them.
      have hrest : names.filter (· ∉ seen ++ [first]) = names.filter (· ∉ seen) := by
        refine List.filter_congr fun name hname => ?_
        have hne : name ≠ first := fun heq => hnew (heq ▸ hname)
        simp [hne]
      rw [addNames_cons_of_notMem hfirst, ih hnames, hrest,
        List.filter_cons_of_pos (by simpa using hfirst), List.append_assoc, List.singleton_append]

theorem distinctNames_of_nodup {names : List String} (h : names.Nodup) :
    distinctNames names = names := by
  rw [← addNames_nil, addNames_of_nodup h]
  simp

theorem prefix_distinctNames_append {names : List String} (h : names.Nodup) (more : List String) :
    names <+: distinctNames (names ++ more) := by
  rw [distinctNames_append, distinctNames_of_nodup h]
  exact prefix_addNames names more

/-! ## 2. Names in expressions -/

/-- The text is a profile name. -/
def IsProfileName (name : List Char) : Prop :=
  nameFault? (String.ofList name) = none

theorem IsProfileName.nameOf {name : List Char} (h : IsProfileName name) :
    nameOf (.text (String.ofList name)) = .ok (String.ofList name) := by
  have hfault : nameFault? (String.ofList name) = none := h
  simp only [Profile.nameOf, Value.plain, hfault]

/-- A text that can stand in an expression has a character that is not blank, and does not begin with
the mark of negation. -/
theorem IsName.isProfileName {name : List Char} (h : IsName name) : IsProfileName name := by
  have hblank : ¬Text.isBlankText (String.ofList name) = true := by
    intro hall
    rw [Text.isBlankText, String.toList_ofList] at hall
    have hstart : Text.trimStart name = [] :=
      List.dropWhile_eq_nil_iff.2 (List.all_eq_true.1 hall)
    apply h.ne_nil
    rw [← h.trim_eq, Text.trim, hstart]
    rfl
  have hnegated : ¬name.head? = some '!' := fun hhead =>
    h.plain '!' (List.mem_of_mem_head? hhead) (by decide)
  rw [IsProfileName, nameFault?, if_neg hblank, String.toList_ofList, if_neg hnegated]

end LayeredConfig.Profile
