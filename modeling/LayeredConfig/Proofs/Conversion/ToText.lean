import LayeredConfig.Conversion.Registry

/-!
# Conversion to text — what the built-in functions write for a value

A text stays as it is and nothing stays nothing. Any other value is written, or refused if it is too
long to write (`convert_standard_str`).
-/

namespace LayeredConfig

/-- The text of a value: what is a text already stays, a member gives its name, a collection the texts of
its elements between commas. -/
def Conversion.textOf (v : Value) : Except Error Value :=
  if v.isNull then .ok .null
  else if v.isA .str then .ok v
  else ((toText v).map .text).mapError fun f => Registry.refusalOf v (.kind .str) (.fault f)

theorem Value.isNull_iff {v : Value} : v.isNull = true ↔ v = .null := by
  cases v <;> simp [isNull]

namespace Registry

theorem lookup?_standard_str :
    standard.lookup? (.kind .str) = some (builtin .str .text Conversion.toText).2 := rfl

theorem convert_standard_str (v : Value) :
    standard.convert v (.kind .str) = Conversion.textOf v := by
  have hfits : v.fits (.kind .str) = .ok (v.isA .str) := by
    have hnumber : (Target.kind .str).isNumber = false := rfl
    rw [Value.fits, hnumber, Bool.and_false]
    rfl
  unfold convert Conversion.textOf
  rw [hfits, lookup?_standard_str]
  by_cases hnull : v.isNull = true
  · rw [if_pos hnull, if_pos hnull, Value.isNull_iff.1 hnull]
  · rw [if_neg hnull, if_neg hnull, if_neg (by decide), if_neg (by decide)]
    cases v.isA .str with
    | true => rfl
    | false =>
      show ((_ : Except Fault Value).mapError _).mapError _ = _
      cases Conversion.toText v <;> rfl

end Registry

end LayeredConfig
