import LayeredConfig.Proofs.Placeholder.Grammar

/-!
# Dialects — templates with other marks expand alike

What a template stands for does not depend on the marks that it is written with. So strict expansions
with any two sets of marks have the same result or fail for the same reason, provided that each opening
mark opens one level (`marks_are_interchangeable`). An opening mark with a bracket too many is as good
as any other for placeholders side by side, but not for nested ones.
-/

namespace LayeredConfig.Placeholder

variable {ε : Type}

/-! ## 1. Failures in different texts -/

/-- The failure, less the text that it was met in. -/
def Failure.withoutText : Failure ε → Failure ε
  | .unresolved key _ => .unresolved key []
  | failure => failure

/-- The two outcomes are one result, or failures that differ in the text at most. -/
def Alike {α : Type} (o o' : Except (Failure ε) α) : Prop :=
  o.mapError Failure.withoutText = o'.mapError Failure.withoutText

namespace Alike

variable {α β : Type} {o o' : Except (Failure ε) α}

theorem refl (o : Except (Failure ε) α) : Alike o o := rfl

theorem bind {f f' : α → Except (Failure ε) β} (h : Alike o o') (hf : ∀ a, Alike (f a) (f' a)) :
    Alike (o >>= f) (o' >>= f') := by
  cases o with
  | error failure =>
    cases o' with
    | error failure' => exact congrArg Except.error (Except.error.inj h)
    | ok a' => contradiction
  | ok a =>
    cases o' with
    | error failure' => contradiction
    | ok a' =>
      obtain rfl : a = a' := Except.ok.inj h
      exact hf a

theorem map (h : Alike o o') (f : α → β) : Alike (f <$> o) (f <$> o') := by
  rw [map_eq_pure_bind, map_eq_pure_bind]
  exact h.bind fun a => refl _

theorem eq_ok {a : α} (h : Alike o (.ok a)) : o = .ok a := by
  cases o with
  | error failure => contradiction
  | ok a' => exact congrArg Except.ok (Except.ok.inj h)

end Alike

/-! ## 2. One meaning -/

section Meaning

variable (d d' : Delimiters) (lookup : Lookup ε)

theorem Expander.alike_replacement (whole whole' body body' : List Char)
    {key key' : Except (Failure ε) (List Char)}
    {default default' : Except (Failure ε) (Option (List Char))} (hkey : Alike key key')
    (hdefault : Alike default default') :
    Alike (replacement ⟨d, false⟩ lookup whole body key default)
      (replacement ⟨d', false⟩ lookup whole' body' key' default') := by
  rw [replacement, replacement]
  refine hkey.bind fun name => hdefault.bind fun instead => (Alike.refl _).bind fun value => ?_
  -- Only the text is different where there is nothing to fill in.
  cases value.or instead with
  | some new => exact .refl _
  | none => rfl

theorem Template.alike_meaningIn {p : Place} (t : Template p) (whole whole' : List Char) :
    Alike (t.meaningIn ⟨d, false⟩ lookup whole) (t.meaningIn ⟨d', false⟩ lookup whole') := by
  induction t generalizing whole whole' with
  | nil => exact .refl _
  | literal cs rest ih =>
    rw [meaningIn, meaningIn]
    exact (ih whole whole').bind fun others => .refl _
  | bare key rest ihkey ih =>
    rw [meaningIn, meaningIn]
    exact (Expander.alike_replacement d d' lookup _ _ _ _ (ihkey _ _) (.refl _)).bind fun new =>
      (ih whole whole').bind fun others => .refl _
  | defaulted key default rest ihkey ihdefault ih =>
    rw [meaningIn, meaningIn]
    have hdefault := fun front back => (ihdefault front back).map some
    exact (Expander.alike_replacement d d' lookup _ _ _ _ (ihkey _ _) (hdefault _ _)).bind fun new =>
      (ih whole whole').bind fun others => .refl _

end Meaning

section Results

variable {d : Delimiters} {lookup : Lookup ε} {whole : List Char}

/-- What takes the place of a placeholder is a value or a default. -/
theorem Expander.replacement_eq_ok {body new : List Char} {key : Except (Failure ε) (List Char)}
    {default : Except (Failure ε) (Option (List Char))}
    (h : replacement ⟨d, false⟩ lookup whole body key default = .ok new) :
    (∃ name, lookup name = .ok (some new)) ∨ default = .ok (some new) := by
  rw [replacement] at h
  rcases Run.except_bind_cases h with ⟨_, _, h⟩ | ⟨name, _, h⟩
  · contradiction
  rcases Run.except_bind_cases h with ⟨_, _, h⟩ | ⟨instead, hdefault, h⟩
  · contradiction
  rcases Run.except_bind_cases h with ⟨_, _, h⟩ | ⟨value, hvalue, h⟩
  · contradiction
  cases value with
  | some value =>
    obtain rfl : value = new := Except.ok.inj h
    exact .inl ⟨name, Run.lookup_of_outcome_ask hvalue⟩
  | none =>
    cases instead with
    | some instead =>
      obtain rfl : instead = new := Except.ok.inj h
      exact .inr hdefault
    | none => contradiction

/-- A result is made of literals and values, and neither have characters of the opening mark. -/
theorem Template.disjoint_of_meaningIn
    (hlookup : ∀ key value, lookup key = .ok (some value) → value.Disjoint d.opening)
    {p : Place} (t : Template p) (ht : t.Fits d) {result : List Char}
    (h : t.meaningIn ⟨d, false⟩ lookup whole = .ok result) : result.Disjoint d.opening := by
  induction t generalizing whole result with
  | nil =>
    obtain rfl : [] = result := Except.ok.inj h
    exact List.disjoint_nil_left d.opening
  | literal cs rest ih =>
    rw [meaningIn] at h
    rcases Run.except_bind_cases h with ⟨_, _, h⟩ | ⟨others, hothers, h⟩
    · contradiction
    obtain rfl : cs.chars ++ others = result := Except.ok.inj h
    exact List.disjoint_append_left.2 ⟨ht.1.1, ih ht.2 hothers⟩
  | bare key rest _ ih =>
    rw [meaningIn] at h
    rcases Run.except_bind_cases h with ⟨_, _, h⟩ | ⟨new, hnew, h⟩
    · contradiction
    rcases Run.except_bind_cases h with ⟨_, _, h⟩ | ⟨others, hothers, h⟩
    · contradiction
    obtain rfl : new ++ others = result := Except.ok.inj h
    refine List.disjoint_append_left.2 ⟨?_, ih ht.2 hothers⟩
    -- Without a default it can only be a value that takes the place.
    rcases Expander.replacement_eq_ok hnew with ⟨name, hname⟩ | hdefault
    · exact hlookup name new hname
    · have hnone : none = some new := Except.ok.inj hdefault
      contradiction
  | defaulted key default rest _ ihdefault ih =>
    rw [meaningIn] at h
    rcases Run.except_bind_cases h with ⟨_, _, h⟩ | ⟨new, hnew, h⟩
    · contradiction
    rcases Run.except_bind_cases h with ⟨_, _, h⟩ | ⟨others, hothers, h⟩
    · contradiction
    obtain rfl : new ++ others = result := Except.ok.inj h
    refine List.disjoint_append_left.2 ⟨?_, ih ht.2.2 hothers⟩
    rcases Expander.replacement_eq_ok hnew with ⟨name, hname⟩ | hdefault
    · exact hlookup name new hname
    · rw [map_eq_pure_bind] at hdefault
      rcases Run.except_bind_cases hdefault with ⟨_, _, h⟩ | ⟨instead, hinstead, h⟩
      · contradiction
      obtain rfl : instead = new := Option.some.inj (Except.ok.inj h)
      exact ihdefault ht.2.1 hinstead

end Results

/-! ## 3. Any marks -/

namespace Expander

variable {lookup : Lookup ε}

theorem notInfix_of_disjoint {mark cs : List Char} (hmark : mark ≠ []) (h : cs.Disjoint mark) :
    ¬mark <:+: cs := by
  intro hin
  rcases List.exists_mem_of_ne_nil mark hmark with ⟨c, hc⟩
  exact h (hin.subset hc) hc

section Dialect

variable {d : Delimiters} (hd : d.Apart) {separator : List Char}
  (hs : d.separator = some separator)

include hd hs

theorem comesTo_writeIn
    (hlookup : ∀ key value, lookup key = .ok (some value) → value.Disjoint d.opening)
    {p : Place} (t : Template p) (ht : t.Fits d) (hflat : d.surplus = 0 ∨ t.Flat) :
    ComesTo ⟨d, false⟩ lookup (t.writeIn d) (t.meaningIn ⟨d, false⟩ lookup (t.writeIn d)) := by
  apply comesTo_of_outcome
  · apply outcome_expandAt_writeIn (x := ⟨d, false⟩) hd _ hs t ht hflat (Nat.lt_succ_self _)
    intro key value hvalue
    exact notInfix_of_disjoint d.opening_ne_nil (hlookup key value hvalue)
  · exact t.definite_meaningIn

theorem comesTo_writeIn_nested
    (hlookup : ∀ key value, lookup key = .ok (some value) → value.Disjoint d.opening)
    {p : Place} (t : Template p) (ht : t.Fits d) (hsurplus : d.surplus ≠ 0) (hflat : ¬t.Flat)
    {result : List Char} (h : t.meaningIn ⟨d, false⟩ lookup (t.writeIn d) = .ok result) :
    ∃ text, ComesTo ⟨d, false⟩ lookup (t.writeIn d) (.ok text) ∧ d.opening <:+: text := by
  have hplain : ∀ key value, lookup key = .ok (some value) → ¬d.opening <:+: value :=
    fun key value hvalue => notInfix_of_disjoint d.opening_ne_nil (hlookup key value hvalue)
  rcases outcome_read_nested (x := ⟨d, false⟩) hd hplain hs t ht hsurplus hflat h
    (.of_lt (Nat.lt_succ_self _)) with ⟨text, htext, hopening⟩
  refine ⟨text, comesTo_of_outcome ?_ (definite_ok text), hopening⟩
  rw [expandAt_succ]
  exact htext

/-- **Dialects.** A template that is written with other marks, none of which share a character with one
another, with its literals or with the values, comes to what it comes to with the standard marks: to
the same result, or to a failure for the same key. There is one exception, and it always makes a
difference: where the opening mark has a bracket too many, the first placeholder that has another one
in it stays as it was written. -/
theorem marks_are_interchangeable
    (hlookup : ∀ key value, lookup key = .ok (some value) →
      value.Disjoint d.opening ∧ value.Disjoint Delimiters.standard.opening)
    (t : Template .text) (ht : t.Fits d) :
    (d.surplus = 0 ∨ t.Flat → ∃ o o', ComesTo ⟨d, false⟩ lookup (t.writeIn d) o ∧
      (standard false).ComesTo lookup t.write o' ∧ Alike o o') ∧
    (d.surplus ≠ 0 → ¬t.Flat → ∀ result,
      (standard false).ComesTo lookup t.write (.ok result) →
        ∃ text, ComesTo ⟨d, false⟩ lookup (t.writeIn d) (.ok text) ∧ d.opening <:+: text ∧
          ¬d.opening <:+: result) := by
  have hvalues := fun key value hvalue => (hlookup key value hvalue).1
  have hstandard : Delimiters.standard.separator = some [':'] := rfl
  have hmeant := comesTo_writeIn Delimiters.standard_apart hstandard
    (fun key value hvalue => (hlookup key value hvalue).2) t t.fits_standard (.inl (by decide))
  rw [t.writeIn_standard] at hmeant
  -- Both runs come to the meaning of the tree, and that has no marks in it but those of a failure.
  have halike := t.alike_meaningIn d .standard lookup (t.writeIn d) t.write
  constructor
  · intro hflat
    exact ⟨_, _, comesTo_writeIn hd hs hvalues t ht hflat, hmeant, halike⟩
  · intro hsurplus hflat result hresult
    rw [hmeant.unique hresult] at halike
    have hsame := halike.eq_ok
    rcases comesTo_writeIn_nested hd hs hvalues t ht hsurplus hflat hsame with
      ⟨text, htext, hopening⟩
    refine ⟨text, htext, hopening, notInfix_of_disjoint d.opening_ne_nil ?_⟩
    exact t.disjoint_of_meaningIn hvalues ht hsame

end Dialect

theorem chain_disjoint (key value : List Char) (h : chain key = .ok (some value)) :
    value.Disjoint Delimiters.squareMarks.opening ∧
      value.Disjoint Delimiters.standard.opening := by
  have hvalue : value ∈ [['b'], ['c']] := Lookup.ofTable_within _ key value h
  rcases List.mem_pair.1 hvalue with rfl | rfl
  · simp [Delimiters.squareMarks, Delimiters.standard]
  · simp [Delimiters.squareMarks, Delimiters.standard]

/-- A literal of one character. -/
def single {p : Place} (c : Char) (h : c ∉ p.marks) : Template p :=
  .literal ⟨[c], fun _ hx => List.mem_singleton.1 hx ▸ h⟩ .nil

/-- `${${a}}${n:${a}-}`. -/
def dashed : Template .text :=
  .bare (.bare (single 'a' (by decide)) .nil)
    (.defaulted (single 'n' (by decide))
      (.bare (single 'a' (by decide)) (single '-' (by decide))) .nil)

theorem marks_are_interchangeable_dashed :
    dashed.Fits .squareMarks ∧
      dashed.writeIn .squareMarks = "$[$[a]]$[n::$[a]-]".toList ∧
      ComesTo ⟨.squareMarks, false⟩ chain (dashed.writeIn .squareMarks) (.ok "cb-".toList) := by
  have hfits : dashed.Fits .squareMarks := by
    simp [dashed, single, Template.Fits, Delimiters.squareMarks]
  refine ⟨hfits, by decide, ?_⟩
  rcases (marks_are_interchangeable Delimiters.squareMarks_apart rfl chain_disjoint dashed hfits).1
    (.inl (by decide)) with ⟨o, o', ho, ho', halike⟩
  have hstandard : ((standard false).expand [] chain dashed.write).outcome = .ok "cb-".toList := by
    cbv
  rw [← ho'.1 [], hstandard] at halike
  rwa [halike.eq_ok] at ho

/-- A key that is known. -/
def knownKey : Lookup Empty :=
  Lookup.ofTable [(['b'], ['x'])]

/-- `\x7b\x7bkey:default\x7d`, with two brackets to open and one to close. -/
def doubleBraces : Delimiters :=
  { Delimiters.standard with opening := ['\x7b', '\x7b'], opening_ne_nil := by decide }

/-- `${a:${b}}`. -/
def nestedDefault : Template .text :=
  .defaulted (single 'a' (by decide)) (.bare (single 'b' (by decide)) .nil) .nil

/-- With the standard marks both placeholders are replaced, with a bracket too many neither is. -/
theorem doubled_bracket_does_not_nest :
    doubleBraces.Apart ∧ nestedDefault.Fits doubleBraces ∧
      ((standard false).expand [['x']] knownKey nestedDefault.write).outcome = .ok ['x'] ∧
      (expand ⟨doubleBraces, false⟩ [['x']] knownKey (nestedDefault.writeIn doubleBraces)).outcome =
        .ok "\x7b\x7ba:\x7b\x7bb\x7d\x7d".toList := by
  refine ⟨⟨?_, ?_, ?_⟩, ?_, by cbv, by cbv⟩
  · simp [doubleBraces, Delimiters.standard]
  · simp [doubleBraces, Delimiters.standard]
  · simp [doubleBraces, Delimiters.standard]
  · simp [nestedDefault, single, Template.Fits, doubleBraces, Delimiters.standard]

end Expander

end LayeredConfig.Placeholder
