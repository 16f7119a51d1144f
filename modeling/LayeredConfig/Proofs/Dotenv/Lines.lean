import LayeredConfig.Dotenv.Line
import LayeredConfig.Proofs.Text.Case
import LayeredConfig.Proofs.Text.Split
import LayeredConfig.Proofs.Text.Trim
import Mathlib

/-!
# Lines — what a written line says

What stands in front of the first equals sign of a line and what stands behind it are read apart
(`parseLine_append`), so a line with a name says the dotted key of the name and the value without what
surrounds it (`parseLine_assignment`). A value in quotes is read as it stands between them
(`cleanValue_quoted`).
-/

namespace LayeredConfig.Dotenv

open Text (isBlank trim trimStart trimEnd)

/-! ## 1. Characters -/

/-- The characters of names. -/
def isNameChar (c : Char) : Bool :=
  c.isAlphanum || c == '_' || c == '.' || c == '-'

theorem toNat_of_isNameChar {c : Char} (h : isNameChar c = true) : c.toNat < 128 := by
  simp only [isNameChar, Char.isAlphanum, Char.isAlpha, Char.isUpper, Char.isLower, Char.isDigit,
    Bool.or_eq_true, Bool.and_eq_true, decide_eq_true_eq, beq_iff_eq, ge_iff_le,
    UInt32.le_iff_toNat_le] at h
  rcases h with (((((⟨-, h⟩ | ⟨-, h⟩) | ⟨-, h⟩) | rfl) | rfl) | rfl)
  · exact Nat.lt_of_le_of_lt h (by decide)
  · exact Nat.lt_of_le_of_lt h (by decide)
  · exact Nat.lt_of_le_of_lt h (by decide)
  · decide
  · decide
  · decide

/-- No character that has a meaning of its own in a line is part of a name. -/
theorem of_isNameChar {c : Char} (h : isNameChar c = true) :
    isBlank c = false ∧ c ≠ '=' ∧ c ≠ '#' := by
  have hascii := toNat_of_isNameChar h
  revert h
  apply Text.of_ascii hascii
  decide

/-- The word in front of a line that exports its variable. -/
def exportWord : List Char := "export ".toList

/-! ## 2. Names -/

/-- The name that is written in front of an equals sign. -/
def nameIn (written : List Char) : List Char :=
  trim (withoutExport (trimStart written))

/-- What a line says that has a value and something written in front of its first equals sign. -/
def lineOf (written value : List Char) : Except LineFault (Option (List Char × List Char)) :=
  if (trimStart written).head? = some '#' then .ok none
  else if nameIn written = [] then .error .noName
  else .ok (some (dottedKey (nameIn written), value))

theorem withoutExport_exportWord (rest : List Char) :
    withoutExport (exportWord ++ rest) = trimStart rest := by
  have hfound : "export ".toList.isPrefixOf? (exportWord ++ rest) = some rest :=
    List.isPrefixOf?_eq_some_iff_append_eq.2 rfl
  rw [withoutExport, hfound]

theorem withoutExport_of_notPrefix {line : List Char} (h : ¬exportWord <+: line) :
    withoutExport line = line := by
  unfold withoutExport
  split
  next rest hrest => exact absurd ⟨rest, List.isPrefixOf?_eq_some_iff_append_eq.1 hrest⟩ h
  next => rfl

theorem mem_of_mem_withoutExport {c : Char} {line : List Char} (h : c ∈ withoutExport line) :
    c ∈ line := by
  by_cases hword : exportWord <+: line
  · obtain ⟨rest, rfl⟩ := hword
    rw [withoutExport_exportWord] at h
    exact List.mem_append_right _ (Text.mem_of_mem_trimStart h)
  · rwa [withoutExport_of_notPrefix hword] at h

/-- The word that exports a name stands in front of the equals sign. -/
theorem withoutExport_append {written : List Char} (h : '=' ∉ written) (after : List Char) :
    withoutExport (written ++ '=' :: after) = withoutExport written ++ '=' :: after := by
  by_cases hword : exportWord <+: written
  · obtain ⟨rest, rfl⟩ := hword
    rw [List.append_assoc, withoutExport_exportWord, withoutExport_exportWord,
      Text.trimStart_append_cons (by decide)]
  · have hlonger : ¬exportWord <+: written ++ '=' :: after := by
      rintro ⟨rest, hrest⟩
      rcases List.append_eq_append_iff.1 hrest with ⟨more, hwritten, -⟩ | ⟨more, hexport, hsign⟩
      · exact hword ⟨more, hwritten.symm⟩
      · cases more with
        | nil => exact hword ⟨[], by rw [hexport, List.append_nil, List.append_nil]⟩
        | cons c more =>
          -- The word would have an equals sign.
          obtain ⟨rfl, -⟩ := List.cons.inj hsign
          have hmem : '=' ∈ exportWord := by rw [hexport]; simp
          exact absurd hmem (by decide)
    rw [withoutExport_of_notPrefix hword, withoutExport_of_notPrefix hlonger]

/-- What stands in front of the first equals sign tells what kind of line it is, and what stands behind it
is the value. -/
theorem parseLine_append {written : List Char} (h : '=' ∉ written) (after : List Char) :
    parseLine (written ++ '=' :: after) = lineOf written (cleanValue (trim after)) := by
  have hsign : isBlank '=' = false := by decide
  have hstart : '=' ∉ trimStart written := fun hmem => h (Text.mem_of_mem_trimStart hmem)
  have hbare : '=' ∉ withoutExport (trimStart written) :=
    fun hmem => hstart (mem_of_mem_withoutExport hmem)
  have hkind : (decide (trimStart written ++ '=' :: Text.trimEnd after = []) ||
      decide ((trimStart written ++ '=' :: Text.trimEnd after).head? = some '#')) =
        decide ((trimStart written).head? = some '#') := by
    cases trimStart written with
    | nil => simp
    | cons first rest => simp
  unfold parseLine
  rw [Text.trim_append_cons hsign]
  dsimp only
  rw [hkind, withoutExport_append hstart, Text.cutAt?_append_cons hbare, lineOf]
  by_cases hhash : (trimStart written).head? = some '#'
  · rw [if_pos hhash, if_pos (decide_eq_true hhash)]
  · rw [if_neg hhash, if_neg (by simpa using hhash)]
    dsimp only
    rw [Text.trim_trimEnd, nameIn]

variable {name : List Char}

theorem trim_name (hname : ∀ c ∈ name, isNameChar c = true) : trim name = name :=
  Text.trim_of_no_blank fun c hc => (of_isNameChar (hname c hc)).1

theorem nameIn_of_name (hname : ∀ c ∈ name, isNameChar c = true) (exported : Bool) :
    nameIn ((if exported then exportWord else []) ++ name) = name := by
  have hstart : trimStart name = name :=
    List.dropWhile_eq_self_iff.2 fun hlength => by
      simp [(of_isNameChar (hname _ (List.getElem_mem hlength))).1]
  cases exported with
  | false =>
    have hword : ¬exportWord <+: name := by
      -- The word ends in a blank.
      rintro ⟨rest, rfl⟩
      exact absurd (of_isNameChar (hname ' ' (List.mem_append_left _ (by decide)))).1 (by decide)
    rw [if_neg Bool.false_ne_true, List.nil_append, nameIn, hstart, withoutExport_of_notPrefix hword,
      trim_name hname]
  | true =>
    have hexport : trimStart (exportWord ++ name) = exportWord ++ name :=
      Text.trimStart_cons_of_not_blank (by decide : isBlank 'e' = false) _
    rw [if_pos rfl, nameIn, hexport, withoutExport_exportWord, hstart, trim_name hname]

theorem parseLine_assignment (exported : Bool) (hne : name ≠ [])
    (hname : ∀ c ∈ name, isNameChar c = true) (after : List Char) :
    parseLine ((if exported then exportWord else []) ++ (name ++ '=' :: after)) =
      .ok (some (dottedKey name, cleanValue (trim after))) := by
  obtain ⟨first, rest, rfl⟩ := List.exists_cons_of_ne_nil hne
  obtain ⟨hblank, -, hhash⟩ := of_isNameChar (hname first List.mem_cons_self)
  have hsigns : '=' ∉ (if exported then exportWord else []) ++ first :: rest := by
    have hin : '=' ∉ first :: rest := fun hmem => (of_isNameChar (hname _ hmem)).2.1 rfl
    cases exported with
    | false => exact hin
    | true => exact fun hmem => (List.mem_append.1 hmem).elim (by decide) hin
  have hcomment : (trimStart ((if exported then exportWord else []) ++ first :: rest)).head? ≠
      some '#' := by
    cases exported with
    | false =>
      rw [if_neg Bool.false_ne_true, List.nil_append, Text.trimStart_cons_of_not_blank hblank]
      simpa using hhash
    | true =>
      have hexport : trimStart (exportWord ++ first :: rest) = exportWord ++ first :: rest :=
        Text.trimStart_cons_of_not_blank (by decide : isBlank 'e' = false) _
      rw [if_pos rfl, hexport]
      exact fun hhash => absurd (Option.some.inj hhash) (by decide)
  rw [← List.append_assoc, parseLine_append hsigns, lineOf, if_neg hcomment,
    nameIn_of_name hname, if_neg hne]

/-! ## 3. Values -/

/-- A character in which a value may stand. -/
def IsQuote (c : Char) : Prop :=
  c = '"' ∨ c = '\''

instance (c : Char) : Decidable (IsQuote c) :=
  inferInstanceAs (Decidable (_ ∨ _))

theorem IsQuote.isBlank {q : Char} (hq : IsQuote q) : isBlank q = false := by
  rcases hq with rfl | rfl
  · decide
  · decide

/-- A text that starts with a quote stands in quotes if it ends with the same one. -/
theorem quote?_cons {q : Char} (hq : IsQuote q) (rest : List Char) :
    quote? (q :: rest) = if rest.getLast? = some q then some q else none := by
  have hquote : (q == '"' || q == '\'') = true := by
    rcases hq with rfl | rfl
    · rfl
    · rfl
  rw [quote?, List.head?_cons, List.getLast?_cons]
  cases rest with
  | nil => rfl
  | cons c rest =>
    rw [List.getLast?_cons, Option.getD_some]
    by_cases hlast : q = rest.getLast?.getD c
    · simp [hquote, ← hlast]
    · simp [hlast, Ne.symm hlast]

theorem cleanValue_quoted {q : Char} (hq : IsQuote q) (value : List Char) :
    cleanValue (trim (q :: (value ++ [q]))) = value := by
  have htrim : trim (q :: (value ++ [q])) = q :: (value ++ [q]) :=
    Text.trim_cons_append_cons hq.isBlank hq.isBlank value []
  have hlast : (value ++ [q]).getLast? = some q := List.getLast?_concat
  rw [htrim, cleanValue, quote?_cons hq, if_pos hlast, Option.isSome_some, if_pos rfl, List.tail_cons,
    List.dropLast_concat]

end LayeredConfig.Dotenv
