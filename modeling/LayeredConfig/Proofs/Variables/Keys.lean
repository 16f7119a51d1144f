import LayeredConfig.Dotenv.Line
import LayeredConfig.Proofs.Text.Case
import LayeredConfig.Proofs.Text.Split
import Mathlib

/-!
# Keys — dotted keys and the names they come from

A name in capitals is its dotted key in capitals with two underscores for each dot, however its own
underscores stand (`replaceChar_upper_dottedKey`). So different names have different keys
(`dottedKey_injective`).
-/

namespace LayeredConfig

namespace Dotenv

/-- An ASCII text without dots and small letters. -/
def InCapitals (name : List Char) : Prop :=
  ∀ c ∈ name, c.toNat < 128 ∧ c.isLower = false ∧ c ≠ '.'

theorem upper_lower {name : List Char} (h : InCapitals name) : Text.upper (Text.lower name) = name := by
  rw [Text.lower_of_ascii fun c hc => (h c hc).1, Text.upper, List.flatMap_map]
  have hback : ∀ c ∈ name, Text.upperChar c.toLower = [c] :=
    fun c hc => Text.upperChar_toLower (h c hc).1 (h c hc).2.1
  rw [List.flatMap_congr hback, List.flatMap_singleton']

theorem replaceChar_upper_dottedKey {name : List Char} (h : InCapitals name) :
    Text.replaceChar '.' ['_', '_'] (Text.upper (dottedKey name)) = name := by
  have hpiece : ∀ piece ∈ Text.splitOn ['_', '_'] name, InCapitals piece :=
    fun piece hpiece c hc => h c (Text.mem_of_mem_splitOn hpiece hc)
  -- No piece has a dot, so the dots of the key are those that stand between pieces.
  have hback : ∀ piece ∈ Text.splitOn ['_', '_'] name,
      Text.replaceChar '.' ['_', '_'] (Text.upper (Text.lower piece)) = piece := by
    intro piece hmem
    rw [upper_lower (hpiece piece hmem)]
    exact Text.replaceChar_of_notMem (fun hdot => (hpiece piece hmem _ hdot).2.2 rfl) _
  rw [dottedKey, Text.upper, Text.flatMap_intercalate, Text.replaceChar, Text.flatMap_intercalate,
    List.map_map, List.map_map]
  have hmap : (Text.splitOn ['_', '_'] name).map (fun piece =>
      Text.replaceChar '.' ['_', '_'] (Text.upper (Text.lower piece))) =
        Text.splitOn ['_', '_'] name := by
    rw [List.map_congr_left hback, List.map_id']
  exact (congrArg _ hmap).trans (Text.intercalate_splitOn _ name)

theorem dottedKey_injective {name other : List Char} (hname : InCapitals name)
    (hother : InCapitals other) (h : dottedKey name = dottedKey other) : name = other := by
  rw [← replaceChar_upper_dottedKey hname, h, replaceChar_upper_dottedKey hother]

/-- Underscores in odd runs and at the ends come back too. -/
example : dottedKey "__A___B_".toList = ".a._b_".toList := by cbv

end Dotenv

end LayeredConfig
