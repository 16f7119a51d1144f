import LayeredConfig.Proofs.Placeholder.Reading
import LayeredConfig.Proofs.Placeholder.Termination

/-!
# Grammar — expanding what is written for a template

Where no value has placeholders of its own, the expansion of a written template is the meaning of
the tree (`expand_write`), and no body is ever circular.
-/

namespace LayeredConfig.Placeholder

variable {ε : Type} {lookup : Lookup ε} {lenient : Bool}

/-! ## 1. The standard marks -/

theorem Delimiters.standard_apart : standard.Apart where
  opening_closing := by simp [standard]
  opening_separator := by simp [standard]
  closing_separator := by simp [standard]

namespace Expander

/-- Expansion of `${key:default}`. -/
abbrev standard (lenient : Bool) : Expander := ⟨.standard, lenient⟩

theorem outcome_fill_standard (whole body key : List Char) (replacement : Option (List Char)) :
    ((standard lenient).fill whole body key replacement : Run ε _).outcome =
      Template.orKept lenient whole body key replacement := by
  cases replacement with
  | some new => rfl
  | none => cases lenient <;> rfl

end Expander

namespace Template

theorem meaningIn_standard {p : Place} (t : Template p) (whole : List Char) :
    t.meaningIn (.standard lenient) lookup whole = t.meaning lookup lenient whole := by
  induction t generalizing whole with
  | nil => rfl
  | literal cs rest ih => rw [meaningIn, meaning, ih]
  | bare key rest ihkey ih =>
    rw [meaningIn, meaning]
    simp only [Expander.replacement, Expander.outcome_fill_standard, writeIn_standard, ihkey, ih,
      bind_assoc, pure_bind, Option.or_none]
  | defaulted key default rest ihkey ihdefault ih =>
    rw [meaningIn, meaning]
    simp only [Expander.replacement, Expander.outcome_fill_standard, writeIn_standard, ihkey,
      ihdefault, ih, bind_assoc, bind_map_left]
    refine bind_congr fun name => bind_congr fun instead => bind_congr fun value => ?_
    cases value <;> rfl

/-- A meaning fails at a placeholder without a value, or as the lookup does. -/
theorem meaning_failure {p : Place} (t : Template p) {whole : List Char} {failure : Failure ε}
    (h : t.meaning lookup lenient whole = .error failure) :
    (∃ key text, failure = .unresolved key text) ∨ ∃ error, failure = .lookup error := by
  rw [← meaningIn_standard] at h
  exact t.meaningIn_failure h

theorem definite_meaning {p : Place} (t : Template p) (whole : List Char) :
    Definite (t.meaning lookup lenient whole) := by
  rw [← meaningIn_standard]
  exact t.definite_meaningIn

end Template

namespace Expander

/-! ## 2. Whole texts -/

section Grammar

variable (lenient) (hlookup : ∀ key value, lookup key = .ok (some value) →
  ¬Delimiters.standard.opening <:+: value)

include hlookup

theorem outcome_expandAt_write {p : Place} (t : Template p) {depth : Nat}
    (hdepth : t.write.length < depth) :
    ((standard lenient).expandAt lookup depth [] t.write).outcome =
      t.meaning lookup lenient t.write := by
  rw [← t.writeIn_standard] at hdepth ⊢
  rw [← t.meaningIn_standard]
  -- The bracket that nests is the last character of the opening mark, and the only one.
  have hsurplus : Delimiters.standard.surplus = 0 := by decide
  exact outcome_expandAt_writeIn (x := standard lenient) Delimiters.standard_apart hlookup rfl t
    t.fits_standard (.inl hsurplus) hdepth

/-- **Grammar.** Over a lookup without placeholders in its values, what is written for a template
expands to the meaning of the template, strict or lenient, with the depth that any values call
for and with more; and no body is ever circular. -/
theorem expand_write (t : Template .text) :
    (∀ values, ((standard lenient).expand values lookup t.write).outcome =
      t.meaning lookup lenient t.write) ∧
      (standard lenient).Ends lookup [] t.write (t.meaning lookup lenient t.write) ∧
      ∀ depth body, ((standard lenient).expandAt lookup depth [] t.write).outcome ≠
        .error (.circular body) := by
  have hends : (standard lenient).Ends lookup [] t.write (t.meaning lookup lenient t.write) :=
    ⟨t.definite_meaning t.write, t.write.length + 1, fun depth hdepth =>
      outcome_expandAt_write lenient hlookup t hdepth⟩
  refine ⟨fun values => ?_, hends, fun depth body hcircular => ?_⟩
  · exact outcome_expandAt_write lenient hlookup t (length_lt_depthFor t.write values)
  · have hother : (standard lenient).Ends lookup [] t.write (.error (.circular body)) :=
      ends_of_outcome hcircular (definite_error_iff.2 nofun)
    rcases t.meaning_failure (hends.unique hother) with ⟨_, _, h⟩ | ⟨_, h⟩
    · contradiction
    · contradiction

end Grammar

/-- The key `a` stands for the key `b`. -/
def chain : Lookup Empty :=
  Lookup.ofTable [(['a'], ['b']), (['b'], ['c'])]

theorem chain_notInfix (key value : List Char) (h : chain key = .ok (some value)) :
    ¬Delimiters.standard.opening <:+: value := by
  have hvalue : value ∈ [['b'], ['c']] := Lookup.ofTable_within _ key value h
  rcases List.mem_pair.1 hvalue with rfl | rfl
  · decide
  · decide

/-- `${${a}}${n:${a}:}`. -/
def chained : Template .text :=
  .bare (.bare (.literal ⟨['a'], by simp [Place.marks]⟩ .nil) .nil)
    (.defaulted (.literal ⟨['n'], by simp [Place.marks]⟩ .nil)
      (.bare (.literal ⟨['a'], by simp [Place.marks]⟩ .nil)
        (.literal ⟨[':'], by simp [Place.marks]⟩ .nil)) .nil)

theorem expand_write_chained :
    (∀ key value, chain key = .ok (some value) → ¬Delimiters.standard.opening <:+: value) ∧
      chained.write = "$\x7b$\x7ba\x7d\x7d$\x7bn:$\x7ba\x7d:\x7d".toList ∧
      ((standard false).expand [] chain chained.write).outcome = .ok "cb:".toList := by
  have hmeaning : chained.meaning chain false chained.write = .ok "cb:".toList := by cbv
  refine ⟨chain_notInfix, by decide, ?_⟩
  rw [← hmeaning]
  exact (expand_write false chain_notInfix chained).1 []

end Expander

end LayeredConfig.Placeholder
