import LayeredConfig.Proofs.Placeholder.Depth
import LayeredConfig.Proofs.Resolver.Lookup
import Mathlib.Algebra.Order.BigOperators.Group.List
import Mathlib.Algebra.Order.Ring.Nat
import Mathlib.Data.List.Infix
import Mathlib.Data.List.Perm.Subperm

/-!
# Termination — expansions over finitely many values come to an end

Every body that is met stands somewhere in the text or in a value, and the bodies that are being
expanded at one time are all different. There are finitely many parts of the text and the values,
so the depth of an expansion is bounded, whatever keys are put together on the way
(`expand_terminates`).
-/

namespace LayeredConfig.Placeholder

/-- Every text that a lookup answers with is among `values`. -/
def Lookup.Within {ε : Type} (lookup : Lookup ε) (values : List (List Char)) : Prop :=
  ∀ key value, lookup key = .ok (some value) → value ∈ values

/-- Looks keys up in a table of keys and values. -/
def Lookup.ofTable : List (List Char × List Char) → Lookup Empty
  | [], _ => .ok none
  | (name, value) :: rest, key => if name = key then .ok (some value) else ofTable rest key

theorem Lookup.ofTable_within (table : List (List Char × List Char)) :
    (Lookup.ofTable table).Within (table.map Prod.snd) := by
  intro key value h
  induction table with
  | nil => simp [Lookup.ofTable] at h
  | cons row rest ih =>
    rcases row with ⟨name, other⟩
    rw [Lookup.ofTable] at h
    by_cases hkey : name = key
    · rw [if_pos hkey] at h
      obtain rfl : other = value := by simpa using h
      exact List.mem_cons_self
    · rw [if_neg hkey] at h
      exact List.mem_cons_of_mem other (ih h)

/-! ## 1. Parts of texts -/

/-- All that occurs in one piece inside given texts. -/
def parts (texts : List (List Char)) : List (List Char) :=
  texts.flatMap fun cs => cs.tails.flatMap List.inits

theorem mem_parts_iff {texts : List (List Char)} {part : List Char} :
    part ∈ parts texts ↔ ∃ cs ∈ texts, part <:+: cs := by
  simp only [parts, List.mem_flatMap, List.mem_tails, List.mem_inits, List.infix_iff_prefix_suffix]
  constructor
  · rintro ⟨cs, hcs, tail, htail, hpart⟩
    exact ⟨cs, hcs, tail, hpart, htail⟩
  · rintro ⟨cs, hcs, tail, hpart, htail⟩
    exact ⟨cs, hcs, tail, htail, hpart⟩

theorem mem_parts_of_mem {texts : List (List Char)} {cs : List Char} (h : cs ∈ texts) :
    cs ∈ parts texts :=
  mem_parts_iff.2 ⟨cs, h, List.infix_rfl⟩

theorem mem_parts_of_isPart {texts : List (List Char)} {part whole : List Char}
    (h : part <:+: whole) (hwhole : whole ∈ parts texts) : part ∈ parts texts := by
  rcases mem_parts_iff.1 hwhole with ⟨cs, hcs, hin⟩
  exact mem_parts_iff.2 ⟨cs, hcs, h.trans hin⟩

theorem length_flatMap_inits_tails (cs : List Char) :
    (cs.tails.flatMap List.inits).length ≤ (cs.length + 1) * (cs.length + 1) := by
  have hle : ∀ n ∈ cs.tails.map fun tail => tail.inits.length, n ≤ cs.length + 1 := by
    intro n hn
    rcases List.mem_map.1 hn with ⟨tail, htail, rfl⟩
    rw [List.length_inits]
    exact Nat.succ_le_succ ((List.mem_tails tail cs).1 htail).length_le
  have hsum := List.sum_le_card_nsmul _ _ hle
  rwa [List.length_map, List.length_tails, Nat.nsmul_eq_mul, ← List.length_flatMap] at hsum

namespace Expander

/-- There is more depth than there are parts. -/
theorem length_parts_lt_depthFor (texts : List (List Char)) :
    (parts texts).length < depthFor texts := by
  induction texts with
  | nil => decide
  | cons cs others ih =>
    have := length_flatMap_inits_tails cs
    rw [parts, List.flatMap_cons, List.length_append, depthFor_cons]
    rw [parts] at ih
    omega

end Expander

/-! ## 2. Depth is never short -/

/-- The failures of an expansion that does not want for depth; a lookup fails for itself. -/
inductive Failure.Genuine {ε : Type} (lookup : Lookup ε) : Failure ε → Prop
  | unresolved (key text : List Char) : Genuine lookup (.unresolved key text)
  | circular (body : List Char) : Genuine lookup (.circular body)
  | lookup {key : List Char} {error : ε} (h : lookup key = .error error) :
    Genuine lookup (.lookup error)

/-- A genuine failure is not the want of depth. -/
theorem Failure.Genuine.ne_exhausted {ε : Type} {lookup : Lookup ε} {failure : Failure ε}
    (h : failure.Genuine lookup) : failure ≠ .exhausted := by
  rintro rfl
  cases h

/-- A run over a lookup that has a result or a genuine failure. -/
def Run.Finishes {ε α : Type} (lookup : Lookup ε) (x : Run ε α) : Prop :=
  (∃ result, x.outcome = .ok result) ∨
    ∃ failure, x.outcome = .error failure ∧ failure.Genuine lookup

section Finishes

variable {ε α : Type} {lookup : Lookup ε} {x : Run ε α}

theorem Run.FailsOnly.finishes (h : x.FailsOnly (Failure.Genuine lookup)) :
    x.Finishes lookup := by
  cases hx : x.outcome with
  | ok result => exact .inl ⟨result, hx⟩
  | error failure => exact .inr ⟨failure, hx, h failure hx⟩

theorem Run.Finishes.definite (h : x.Finishes lookup) : Definite x.outcome := by
  rcases h with ⟨result, hx⟩ | ⟨failure, hx, hfailure⟩
  · rw [hx]
    exact definite_ok result
  · rw [hx]
    exact definite_error_iff.2 hfailure.ne_exhausted

end Finishes

namespace Expander

variable {ε : Type} {x : Expander} {lookup : Lookup ε}

/-- The induction is on the depth. Each level has one more active body, so the depth that is left
and the number of active bodies together stay above the number of parts. -/
theorem failsOnly_expandAt {texts : List (List Char)} (hwithin : lookup.Within texts) {depth : Nat}
    {active : List (List Char)} {text : List Char} (hnodup : active.Nodup)
    (hactive : active ⊆ parts texts) (htext : text ∈ parts texts)
    (hroom : (parts texts).length < depth + active.length) :
    (x.expandAt lookup depth active text).FailsOnly (Failure.Genuine lookup) := by
  induction depth generalizing active text with
  | zero =>
    -- Without depth all parts would be active, and one more: there are not that many.
    have := (hnodup.subperm hactive).length_le
    omega
  | succ depth ih =>
    rw [expandAt_succ]
    refine failsOnly_read (fun _ key => .unresolved key text) fun body hbody => ?_
    by_cases hmem : body ∈ active
    · rw [settle_of_mem hmem]
      exact .of_error rfl (.circular body)
    · have hpart := mem_parts_of_isPart (Layout.infix_of_mem_bodies hbody) htext
      -- What stands in the body and what stands in a value is a part, and one body more is active.
      have hlevel : ∀ inside ∈ parts texts,
          (x.expandAt lookup depth (body :: active) inside).FailsOnly (Failure.Genuine lookup) := by
        intro inside hinside
        refine ih (List.nodup_cons.2 ⟨hmem, hnodup⟩) (List.cons_subset.2 ⟨hpart, hactive⟩)
          hinside ?_
        rw [List.length_cons]
        omega
      rw [settle_of_notMem hmem]
      refine failsOnly_substitute (fun _ _ => .lookup) (fun part hin => ?_)
        fun key value hvalue => ?_
      · exact hlevel part (mem_parts_of_isPart hin hpart)
      · exact hlevel value (mem_parts_of_mem (hwithin key value hvalue))

theorem finishes_expand (x : Expander) {values : List (List Char)} (h : lookup.Within values)
    (text : List Char) : (x.expand values lookup text).Finishes lookup := by
  have hwithin : lookup.Within (text :: values) :=
    fun key value hvalue => List.mem_cons_of_mem text (h key value hvalue)
  apply Run.FailsOnly.finishes
  refine failsOnly_expandAt hwithin List.nodup_nil (List.nil_subset _)
    (mem_parts_of_mem List.mem_cons_self) ?_
  exact length_parts_lt_depthFor (text :: values)

theorem ends_expand (x : Expander) {values : List (List Char)} (h : lookup.Within values)
    (text : List Char) : x.Ends lookup [] text (x.expand values lookup text).outcome :=
  ends_of_outcome rfl (finishes_expand x h text).definite

/-- **Termination.** Over a lookup with finitely many answers an expansion comes to an end, with a
text or with a genuine failure, and more depth would not change how. The lookup of a resolver is
one of these, whatever its sources hold. -/
theorem expand_terminates (x : Expander) (text : List Char) :
    (∀ {ε : Type} (lookup : Lookup ε) (values : List (List Char)), lookup.Within values →
      (x.expand values lookup text).Finishes lookup ∧
        x.Ends lookup [] text (x.expand values lookup text).outcome) ∧
      ∀ (registry : Registry) (sources : List Source),
        (Resolver.lookup registry sources).Within (Resolver.texts registry sources) := by
  constructor
  · intro ε lookup values hwithin
    exact ⟨finishes_expand x hwithin text, ends_expand x hwithin text⟩
  · intro registry sources key value h
    exact Resolver.lookup_mem_texts h

/-- The key `a` stands for a placeholder whose key is put together from another one, and comes to
`a` again. -/
def ring : Lookup Empty :=
  Lookup.ofTable [(['a'], "$\x7b$\x7bb\x7d\x7d".toList), (['b'], ['a'])]

theorem expand_terminates_ring :
    ring.Within ["$\x7b$\x7bb\x7d\x7d".toList, ['a']] ∧
      Expander.Ends ⟨.standard, true⟩ ring [] "$\x7ba\x7d".toList
        (.error (.circular "$\x7bb\x7d".toList)) := by
  have hwithin : ring.Within ["$\x7b$\x7bb\x7d\x7d".toList, ['a']] := Lookup.ofTable_within _
  refine ⟨hwithin, ?_⟩
  have h := ((expand_terminates ⟨.standard, true⟩ "$\x7ba\x7d".toList).1 ring _ hwithin).2
  have houtcome : (Expander.expand ⟨.standard, true⟩ ["$\x7b$\x7bb\x7d\x7d".toList, ['a']] ring
      "$\x7ba\x7d".toList).outcome = .error (.circular "$\x7bb\x7d".toList) := by
    cbv
  rwa [houtcome] at h

end Expander

end LayeredConfig.Placeholder
