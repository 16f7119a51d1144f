import LayeredConfig.Proofs.Conversion.Exactness
import LayeredConfig.Proofs.Number.Written

/-!
# Integers — from texts and back

Each text that writes an integer converts to it, and so does the text that an integer converts to
(`int_text_reads_back`).
-/

namespace LayeredConfig

open Numeral (Written Writes)

namespace Registry

theorem convert_int_text {n : Int} {s : String} (h : Writes n s) :
    standard.convert (.text s) (.kind .int) = .ok (.int n) := by
  have hrun : Conversion.toInt (.text s) = .ok n := Numeral.readInt_of_writes h
  rw [convert_int_eq_handed rfl rfl, hrun]
  rfl

/-- An integer that is not too long to be written converts to its decimal text. -/
theorem convert_str_int {n : Int} (h : n.natAbs < Nat.pow 10 Numeral.maxDigits) :
    standard.convert (.int n) (.kind .str) = .ok (.text (String.ofList (Numeral.intChars n))) := by
  have htext : (Value.int n).text? = some (String.ofList (Numeral.intChars n)) := by
    rw [Value.text?, Value.quoted?, Numeral.intText?, if_pos h]
    all_goals exact nofun
  have hrun : Conversion.toText (.int n) = .ok (String.ofList (Numeral.intChars n)) := by
    rw [Conversion.toText, Conversion.plainText, htext]
    all_goals exact nofun
  rw [convert_standard_str, Conversion.textOf, hrun]
  rfl

/-- An integer comes back from every text that writes it, in any base, letter case and grouping, and from
the text that it converts to. -/
theorem int_text_reads_back (n : Int) :
    (∀ s, Writes n s →
      Conversion.readInt s = .ok n ∧ standard.convert (.text s) (.kind .int) = .ok (.int n)) ∧
      (n.natAbs < Nat.pow 10 Numeral.maxDigits →
        ∃ s, standard.convert (.int n) (.kind .str) = .ok (.text s) ∧
          standard.convert (.text s) (.kind .int) = .ok (.int n)) :=
  ⟨fun _ h => ⟨Numeral.readInt_of_writes h, convert_int_text h⟩,
    fun h => ⟨_, convert_str_int h, convert_int_text (Numeral.writes_decimal h)⟩⟩

theorem int_text_reads_back_grouped :
    (Conversion.readInt "\t+0X_00f_F " = .ok 255 ∧
      standard.convert (.text "\t+0X_00f_F ") (.kind .int) = .ok (.int 255)) ∧
      ∃ s, standard.convert (.int (-12)) (.kind .str) = .ok (.text s) ∧
        standard.convert (.text s) (.kind .int) = .ok (.int (-12)) := by
  have hwritten : Writes 255 "\t+0X_00f_F " := by
    let w : Written 255 :=
      ⟨.hexadecimal, ['+'], ['0', 'X'], 2, ['f', 'F'], by decide, by decide, by decide⟩
    have hblanks : ∀ c ∈ ['\t'], Text.isBlank c = true := by simp [Text.isBlank]
    have hblank : ∀ c ∈ [' '], Text.isBlank c = true := by simp [Text.isBlank]
    have hinner : ['+', '0', 'X', '_', '0', '0', 'f', '_', 'F'].filter (· ≠ '_') = w.chars := by
      decide
    exact Writes.intro w nofun hblanks hblank hinner
  have hshort : ∀ digits, 2 ≤ digits → (-12 : ℤ).natAbs < Nat.pow 10 digits :=
    fun digits hdigits =>
      Nat.lt_of_lt_of_le (by decide : 12 < 10 ^ 2) (Nat.pow_le_pow_right (by decide) hdigits)
  exact ⟨(int_text_reads_back 255).1 _ hwritten, (int_text_reads_back (-12)).2 (hshort _ (by decide))⟩

end Registry

end LayeredConfig
