import LayeredConfig.Proofs.Conversion.ToText

/-!
# The standard conversions — one function for each target

A conversion leaves a value as it is, refuses it outright, or hands it to the function for the target.
With the built-in functions alone that function is the one of `Conversion.builtin?`, and what a
conversion gives is what the value was or what this function makes of it (`ok_of_convert`).
-/

namespace LayeredConfig

namespace Conversion

/-- What the built-in function for a kind makes of a value alone. The function for enumerations makes
nothing of it. -/
def alone? : Kind → Option (Value → Except Fault Value)
  | .str => some fun v => (toText v).map .text
  | .int => some fun v => (toInt v).map .int
  | .float => some fun v => (toFloat v).map .float
  | .decimal => some fun v => (toDecimal v).map .decimal
  | .bool => some fun v => (toBool v).map id
  | .path => some fun v => (toPath v).map id
  | .uuid => some fun v => (toUuid v).map id
  | .list => some fun v => (elements v).map .list
  | .tuple => some fun v => (elements v).map .tuple
  | .set => some fun v => (Registry.elementSet v).map .set
  | .frozenset => some fun v => (Registry.elementSet v).map .frozenset
  | _ => none

/-- What a conversion to a kind hands over: collections are built from a list. -/
def handedTo (k : Kind) (v : Value) : Value :=
  match k with
  | .list | .tuple | .set | .frozenset => .list (itemsOf v)
  | _ => v

end Conversion

open Conversion (alone? handedTo)

/-- The fault of an enumeration that derives from a kind with a function of its own: this function is
found before the one for enumerations, and it does not take a target. -/
def Enumeration.blocked? (e : Enumeration) : Option Fault :=
  e.bases.findSome? fun k => (alone? k).map fun _ => Registry.excess k

/-- What the built-in function for a target makes of a value, if the target has one. -/
def Conversion.builtin? : Target → Option (Value → Except Fault Value)
  | .kind .enum => some (toMember .base)
  | .kind k => (alone? k).map fun run v => run (handedTo k v)
  | .enumeration e => some fun v => e.blocked?.elim (toMember e v) .error
  | .own c => c.bases.findSome? alone?
  | .generic .. => none

theorem Conversion.builtin?_kind {k : Kind} (h : k ≠ .enum) :
    builtin? (.kind k) = (alone? k).map fun run v => run (handedTo k v) := by
  cases k with
  | enum => exact absurd rfl h
  | _ => rfl

namespace Registry

open Conversion (builtin?)

/-! ## 1. The function for a target -/

theorem find?_standard {k : Kind} (h : k ≠ .enum) :
    standard.find? k =
      (alone? k).map fun run => .ofValue (excess k) fun v => (run v).mapError .fault := by
  cases k with
  | enum => exact absurd rfl h
  | _ => rfl

theorem find?_standard_eq_none_iff {k : Kind} (h : k.isBase = true) :
    standard.find? k = none ↔ alone? k = none := by
  have henum : k ≠ .enum := by
    rintro rfl
    exact absurd h (by decide)
  rw [find?_standard henum, Option.map_eq_none_iff]

theorem blocked?_eq_none_iff {e : Enumeration} :
    e.blocked? = none ↔ ∀ k ∈ e.bases, standard.find? k = none := by
  simp only [Enumeration.blocked?, List.findSome?_eq_none_iff, Option.map_eq_none_iff]
  exact forall₂_congr fun k hk => (find?_standard_eq_none_iff (e.isBase_bases k hk)).symm

/-- The nearest base with a function decides. -/
theorem blocked?_of_nearest {e : Enumeration} {nearer farther : List Kind} {k : Kind}
    (hbases : e.bases = nearer ++ k :: farther) (hnearer : ∀ other ∈ nearer, standard.find? other = none)
    (hk : standard.find? k ≠ none) : e.blocked? = some (excess k) := by
  have hbase : ∀ other ∈ nearer ++ k :: farther, other.isBase = true := hbases ▸ e.isBase_bases
  rw [Enumeration.blocked?, hbases, List.findSome?_eq_some_iff]
  refine ⟨nearer, k, farther, rfl, ?_, fun other hother => ?_⟩
  · have hfound := mt (find?_standard_eq_none_iff (hbase k (by simp))).2 hk
    obtain ⟨run, hrun⟩ := Option.ne_none_iff_exists'.1 hfound
    rw [hrun]
    rfl
  · have hnone := (find?_standard_eq_none_iff (hbase other (by simp [hother]))).1 (hnearer other hother)
    rw [hnone]
    rfl

theorem findSome?_standard {kinds : List Kind} (h : ∀ k ∈ kinds, k.isBase = true) :
    kinds.findSome? standard.find? = kinds.findSome? fun k =>
      (alone? k).map fun run => .ofValue (excess k) fun v => (run v).mapError .fault := by
  induction kinds with
  | nil => rfl
  | cons k kinds ih =>
    obtain ⟨hk, hkinds⟩ := List.forall_mem_cons.1 h
    have henum : k ≠ .enum := by
      rintro rfl
      exact absurd hk (by decide)
    rw [List.findSome?_cons, List.findSome?_cons, find?_standard henum, ih hkinds]

theorem lookup?_standard_moment (name : String) :
    standard.lookup? (.kind (.moment name)) = none := by
  show (Kind.moment name).ancestors.findSome? standard.find? = none
  unfold Kind.ancestors
  split <;> first | contradiction | rfl

theorem lookup?_standard_enumeration (e : Enumeration) :
    standard.lookup? (.enumeration e) =
      (e.bases.findSome? standard.find?).or (some builtinMember.2) := by
  show (e.bases ++ [Kind.enum, .object]).findSome? standard.find? = _
  rw [List.findSome?_append]
  rfl

theorem lookup?_standard_own (c : OwnClass) :
    standard.lookup? (.own c) = c.bases.findSome? standard.find? := by
  show (c.bases ++ [Kind.object]).findSome? standard.find? = _
  rw [List.findSome?_append]
  exact Option.or_none

/-- The function that is found for a target does what the built-in function for it does. -/
theorem apply_standard (v : Value) (target : Target) :
    (standard.lookup? target).map (apply · v target) =
      (builtin? target).map fun run => (run v).mapError .fault := by
  cases target with
  | generic origin parameters => rfl
  | enumeration e =>
    rw [lookup?_standard_enumeration, findSome?_standard e.isBase_bases]
    show Option.map (fun c : Converter => c.callFor v (.enumeration e)) _ = some _
    rw [Enumeration.blocked?]
    -- The nearest base with a function decides on both sides.
    induction e.bases with
    | nil => rfl
    | cons k kinds ih =>
      rw [List.findSome?_cons, List.findSome?_cons]
      cases alone? k with
      | none => exact ih
      | some run => rfl
  | own c =>
    rw [lookup?_standard_own, findSome?_standard c.isBase_bases]
    show Option.map (fun found : Converter => found.call v) _ = (c.bases.findSome? alone?).map _
    rw [List.map_findSome?, List.map_findSome?]
    congr 1
    funext k
    rw [Function.comp_apply, Function.comp_apply, Option.map_map]
    rfl
  | kind k =>
    cases k with
    | moment name => rw [lookup?_standard_moment]; rfl
    | _ => rfl

/-- What becomes of a value that is handed to the function for its target. -/
def handed (v : Value) (target : Target) : Except Error Value :=
  match builtin? target with
  | none => .error (Error.refuse v target .unregistered)
  | some run => (run v).mapError fun f => refusalOf v target (.fault f)

theorem handed_of_builtin {target : Target} {run : Value → Except Fault Value}
    (hrun : builtin? target = some run) (v : Value) :
    handed v target = (run v).mapError fun f => refusalOf v target (.fault f) := by
  rw [handed, hrun]

theorem handed_of_alone {k : Kind} {run : Value → Except Fault Value} (hrun : alone? k = some run)
    (v : Value) :
    handed v (.kind k) =
      (run (handedTo k v)).mapError fun f => refusalOf v (.kind k) (.fault f) := by
  have hk : k ≠ .enum := by
    rintro rfl
    cases hrun
  have hbuiltin : builtin? (.kind k) = some fun v => run (handedTo k v) := by
    rw [Conversion.builtin?_kind hk, hrun]
    rfl
  exact handed_of_builtin hbuiltin v

theorem handed_eq (v : Value) (target : Target) :
    handed v target =
      match standard.lookup? target with
      | none => .error (Error.refuse v target .unregistered)
      | some c => (apply c v target).mapError (refusalOf v target) := by
  have happly := apply_standard v target
  unfold handed
  cases hfound : standard.lookup? target with
  | none =>
    rw [hfound] at happly
    rw [Option.map_eq_none_iff.1 happly.symm]
  | some c =>
    rw [hfound] at happly
    obtain ⟨run, hrun, heq⟩ := Option.map_eq_some_iff.1 happly.symm
    have happlied : apply c v target = (run v).mapError .fault := heq.symm
    simp only [hrun, happlied]
    cases run v <;> rfl

theorem ok_of_handed {v w : Value} {target : Target} (h : handed v target = .ok w) :
    ∃ run, builtin? target = some run ∧ run v = .ok w := by
  cases hrun : builtin? target with
  | none =>
    rw [handed, hrun] at h
    contradiction
  | some run =>
    rw [handed_of_builtin hrun] at h
    cases hresult : run v with
    | error f =>
      rw [hresult] at h
      cases h
    | ok a =>
      rw [hresult] at h
      exact ⟨run, rfl, hresult.trans (congrArg Except.ok (Except.ok.inj h))⟩

/-- A conversion by the built-in functions leaves nothing and what fits, refuses a target with
parameters, fails with the test of the target, and hands over all else. -/
theorem convert_standard (v : Value) (target : Target) :
    standard.convert v target =
      if v.isNull then .ok v
      else if target.isGeneric then .error (Error.refuse v target .generic)
      else if target.kind? = some .object then .ok v
      else
        match v.fits target with
        | .error f => .error (.fault f)
        | .ok true => .ok v
        | .ok false => handed v target := by
  rw [handed_eq]
  rfl

theorem convert_eq_handed {v : Value} {target : Target} {k : Kind} (hkind : target.kind? = some k)
    (hobject : k ≠ .object) (hnull : v.isNull = false) (hfits : v.fits target = .ok false) :
    standard.convert v target = handed v target := by
  have hgeneric : target.isGeneric = false := by
    cases target with
    | generic origin parameters => cases hkind
    | _ => rfl
  simp [convert_standard, hnull, hgeneric, hkind, hobject, hfits]

end Registry

end LayeredConfig
