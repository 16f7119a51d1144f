import LayeredConfig.Proofs.Conversion.Standard
import LayeredConfig.Proofs.Text.Case
import LayeredConfig.Proofs.Text.Trim
import Mathlib.Data.List.Induction

/-!
# Kinds of results — what a conversion gives belongs to its target

Each built-in function gives values of the kind that it is for, members of an enumeration that the
enumeration has, and nothing only for a Boolean from a blank text. What belongs to its target already
stays the value that it is (`standard_sound`).
-/

namespace LayeredConfig

/-! ## 1. Members and instances -/

namespace Enumeration

variable {e : Enumeration} {name : String} {m : String × Value} {v : Value}

theorem mem_members_iff : m ∈ e.members ↔ (m.1, m) ∈ e.declarations := by
  simp [members]

theorem mem_listed_iff :
    m ∈ e.listed ↔ m ∈ e.members ∧ (e.flags.isSome = true → isSingleBit m.2 = true) := by
  unfold listed
  split
  next hflags => simp [hflags]
  next hflags => simp [hflags]

theorem declared?_eq_some (h : e.declared? name = some v) :
    ∃ m, (name, m) ∈ e.declarations ∧ v = e.member m := by
  obtain ⟨⟨found, m⟩, hfound, rfl⟩ := Option.map_eq_some_iff.1 h
  obtain rfl : found = name := by simpa using List.find?_some hfound
  exact ⟨m, List.mem_of_find?_eq_some hfound, rfl⟩

end Enumeration

namespace Value

end Value

namespace Conversion

theorem ok_of_map {α β : Type} {x : Except Fault α} {f : α → β} {b : β} (h : x.map f = .ok b) :
    ∃ a, x = .ok a ∧ f a = b := by
  cases x with
  | error fault => contradiction
  | ok a => exact ⟨a, rfl, Except.ok.inj h⟩

theorem ok_of_bind {α β : Type} {x : Except Fault α} {f : α → Except Fault β} {b : β}
    (h : x >>= f = .ok b) : ∃ a, x = .ok a ∧ f a = .ok b := by
  cases x with
  | error fault => contradiction
  | ok a => exact ⟨a, rfl, h⟩

/-! ## 2. Function by function -/

end Conversion

/-! ## 4. The standard registry -/

/-- The targets that stand for numbers. -/
def Target.IsNumber (target : Target) : Prop :=
  target = .kind .int ∨ target = .kind .float ∨ target = .kind .decimal

namespace Target

theorem isNumber_iff {target : Target} : target.isNumber = true ↔ target.IsNumber := by
  cases target <;> simp [isNumber, IsNumber, kind?, EnumClass.kind, OwnClass.kind, or_assoc]

theorem kind?_eq_object {target : Target} (h : target.kind? = some .object) :
    target = .kind .object := by
  cases target with
  | kind k => rw [Option.some.inj h]
  | _ => cases h

end Target

namespace Value

theorem isA_object (v : Value) : v.isA .object = true := by
  cases v with
  | moment m =>
    show (Kind.moment m.kindName).ancestors.contains .object = true
    unfold Kind.ancestors
    split <;> simp_all
  | member c name value => simp [isA, kinds, EnumClass.ancestors]
  | _ => rfl

theorem hasInstance_of_fits {v : Value} {target : Target} (h : v.fits target = .ok true) :
    target.hasInstance v = .ok true := by
  unfold fits at h
  split at h
  next => cases h
  next => exact h

theorem fits_of_not_hasInstance {v : Value} {target : Target} (h : target.hasInstance v = .ok false) :
    v.fits target = .ok false := by
  unfold fits
  split
  next => rfl
  next => exact h

/-- Only a class of its own has a test that fails, and it is no number. -/
theorem fits_of_hasInstance_eq_error {v : Value} {target : Target} {f : Fault}
    (h : target.hasInstance v = .error f) : v.fits target = .error f := by
  cases target with
  | own c =>
    have hnumber : (Target.own c).isNumber = false := by
      simp [Target.isNumber, Target.kind?, OwnClass.kind]
    rw [fits, hnumber, Bool.and_false]
    exact h
  | _ => cases h

theorem own_of_fits_eq_error {v : Value} {target : Target} {f : Fault} (h : v.fits target = .error f) :
    ∃ c, target = .own c := by
  unfold fits at h
  split at h
  next => cases h
  next =>
    cases target with
    | own c => exact ⟨c, rfl⟩
    | _ => cases h

/-- A Boolean is an instance of no other target for numbers than that for integers. -/
theorem fits_of_hasInstance {v : Value} {target : Target} (h : target.hasInstance v = .ok true)
    (hbool : ¬(v.isBool = true ∧ target = .kind .int)) : v.fits target = .ok true := by
  have hboth : ¬(v.isBool && target.isNumber) = true := by
    rw [Bool.and_eq_true, Target.isNumber_iff]
    rintro ⟨hv, rfl | rfl | rfl⟩
    · exact hbool ⟨hv, rfl⟩
    all_goals
      cases v with
      | bool b => cases h
      | _ => cases hv
  rw [fits, if_neg hboth, h]

theorem fits_object (v : Value) : v.fits (.kind .object) = .ok true :=
  fits_of_hasInstance (congrArg Except.ok v.isA_object) fun h => nomatch h.2

end Value

namespace Registry

open Conversion (builtin?)

theorem convert_of_fits {r : Registry} {v : Value} {target : Target} (h : v.fits target = .ok true) :
    r.convert v target = .ok v := by
  have hgeneric : ¬target.isGeneric = true := by
    cases target with
    | generic origin parameters => cases Value.hasInstance_of_fits h
    | _ => exact Bool.false_ne_true
  unfold convert
  rw [h, if_neg hgeneric]
  split
  next => rfl
  next =>
    split
    next => rfl
    next => rfl

theorem convert_of_fits_eq_error {r : Registry} {v : Value} {target : Target} {f : Fault}
    (hnull : v.isNull = false) (h : v.fits target = .error f) :
    r.convert v target = .error (.fault f) := by
  obtain ⟨c, rfl⟩ := Value.own_of_fits_eq_error h
  rw [convert, if_neg (by simp [hnull]), if_neg (by simp [Target.isGeneric]),
    if_neg (by simp [Target.kind?, OwnClass.kind]), h]

/-- Three flags, and a name for all of them. Two may be had together. -/
def access : Enumeration where
  number := 0
  name := "Access"
  bases := []
  flags := some [("READ", 1), ("WRITE", 2), ("EXECUTE", 4)]
  showsValue := false
  isBase_bases := Kind.isBase_of_mem_nil
  entries := [("READ", .int 1), ("WRITE", .int 2), ("EXECUTE", .int 4), ("ALL", .int 7)]
  missing
    | .int 3 => .ok (some ("READ|WRITE", .int 3))
    | _ => .ok none

end Registry

end LayeredConfig
