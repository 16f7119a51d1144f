import LayeredConfig.Conversion.Reading
import LayeredConfig.Proofs.Text.Case
import LayeredConfig.Proofs.Text.Trim
import Mathlib

/-!
# Written integers — every way to write one reads back

An integer is written in one of four bases, with a sign, the mark of the base, zeros and the digits, their
letters small or capital. However it is written, and wherever underscores stand in it and blanks around
it, it is read as this integer (`readInt_of_writes`), only not from more decimal digits than can be read.
The text of an integer is one of the ways to write it (`writes_decimal`).
-/

namespace LayeredConfig

namespace Numeral

open Text (isBlank baseDigit?)

/-! ## 1. Notations -/

/-- The bases that integers are written in. -/
inductive Radix where
  | decimal
  | hexadecimal
  | octal
  | binary

namespace Radix

def base : Radix → Nat
  | .decimal => 10
  | .hexadecimal => 16
  | .octal => 8
  | .binary => 2

/-- What can stand in front of the digits to name the base. -/
def marks : Radix → List (List Char)
  | .decimal => [[]]
  | .hexadecimal => [['0', 'x'], ['0', 'X']]
  | .octal => [['0', 'o'], ['0', 'O']]
  | .binary => [['0', 'b'], ['0', 'B']]

end Radix

/-- The signs that an integer can be written with; without one it is not negative. -/
def signs (n : Int) : List (List Char) :=
  if n < 0 then [['-']] else [[], ['+']]

/-- A way to write an integer: its digits in a base, in either letter case, after a sign, the mark of the
base, and any number of zeros. -/
structure Written (n : Int) where
  radix : Radix
  sign : List Char
  mark : List Char
  zeros : Nat
  digits : List Char
  sign_mem : sign ∈ signs n
  mark_mem : mark ∈ radix.marks
  lower_digits : digits.map Char.toLower = Nat.toDigits radix.base n.natAbs

namespace Written

variable {n : Int}

/-- Everything after the mark. -/
def figures (w : Written n) : List Char :=
  List.replicate w.zeros '0' ++ w.digits

def chars (w : Written n) : List Char :=
  w.sign ++ (w.mark ++ w.figures)

/-- Decimal figures are limited in number. -/
def IsShort (w : Written n) : Prop :=
  w.radix.base = 10 → w.figures.length ≤ maxDigits

end Written

/-! ## 2. Digits -/

theorem toNat_of_baseDigit? {c : Char} {d : Nat} (h : baseDigit? c = some d) : c.toNat < 128 := by
  have hlast : ∀ last : Char, last.toNat < 128 → c ≤ last → c.toNat < 128 :=
    fun last hlast hle => Nat.lt_of_le_of_lt (UInt32.le_iff_toNat_le.1 hle) hlast
  unfold baseDigit? at h
  split at h
  next hrange => exact hlast '9' (by decide) (by simp_all)
  next =>
    split at h
    next hrange => exact hlast 'z' (by decide) (by simp_all)
    next =>
      split at h
      next hrange => exact hlast 'Z' (by decide) (by simp_all)
      next => contradiction

/-- A digit is an ASCII character of no other use in a numeral, but from ten on it can be the mark of a
base. -/
theorem of_baseDigit? {c : Char} {d : Nat} (h : baseDigit? c = some d) :
    c.toNat < 127 ∧ isBlank c = false ∧ isSpace c = false ∧ c ≠ '_' ∧ c ≠ '+' ∧ c ≠ '-' ∧
      (d < 10 → baseOfMark? c = none) := by
  have hascii := toNat_of_baseDigit? h
  revert d
  apply Text.of_ascii hascii
  decide

theorem baseDigit?_toLower (c : Char) : baseDigit? c.toLower = baseDigit? c := by
  by_cases hupper : c.isUpper = true
  · have hascii : c.toNat < 128 := by
      simp only [Char.isUpper, decide_eq_true_eq, UInt32.le_iff_toNat_le] at hupper
      exact Nat.lt_of_le_of_lt hupper.2 (by decide)
    apply Text.of_ascii hascii
    decide
  · rw [Char.toLower_eq_of_not_isUpper hupper]

theorem of_baseOfMark? {c : Char} {base : Nat} (h : baseOfMark? c = some base) :
    c.toNat < 127 ∧ isBlank c = false ∧ c ≠ '_' := by
  have hletter : (c = 'x' ∨ c = 'X') ∨ (c = 'o' ∨ c = 'O') ∨ c = 'b' ∨ c = 'B' := by
    unfold baseOfMark? at h
    grind
  rcases hletter with (rfl | rfl) | (rfl | rfl) | rfl | rfl <;> decide

/-- Characters that are digits of a base, and what they are worth. -/
def Digits (base : Nat) (cs : List Char) (ds : List Nat) : Prop :=
  List.Forall₂ (fun c d => digitBelow? base c = some d) cs ds

section Digits

variable {base : Nat} {cs : List Char} {ds : List Nat}

theorem digitBelow?_eq_some_iff {c : Char} {d : Nat} :
    digitBelow? base c = some d ↔ baseDigit? c = some d ∧ d < base := by
  simp [digitBelow?, Option.filter_eq_some_iff]

theorem Digits.ne_nil (h : Digits base cs ds) (hne : cs ≠ []) : ds ≠ [] := by
  cases h with
  | nil => contradiction
  | cons _ _ => simp

theorem Digits.of_mem (h : Digits base cs ds) {c : Char} (hc : c ∈ cs) :
    ∃ d < base, baseDigit? c = some d := by
  induction h with
  | nil => contradiction
  | cons hdigit _ ih =>
    rcases List.mem_cons.1 hc with rfl | hc
    · obtain ⟨hvalue, hbelow⟩ := digitBelow?_eq_some_iff.1 hdigit
      exact ⟨_, hbelow, hvalue⟩
    · exact ih hc

theorem scanDigits_of_digits (h : Digits base cs ds) : scanDigits base cs = some (ds, []) := by
  induction h with
  | nil => rfl
  | @cons c d cs ds hdigit _ ih =>
    have hunderscore : c ≠ '_' := (of_baseDigit? (digitBelow?_eq_some_iff.1 hdigit).1).2.2.2.1
    rw [scanDigits, if_neg hunderscore, hdigit]
    dsimp only
    rw [ih, Option.map_some]

theorem ofDigits_append_single (ds : List Nat) (d : Nat) :
    ofDigits base (ds ++ [d]) = ofDigits base ds * base + d := by
  rw [ofDigits, List.foldl_append]
  rfl

theorem ofDigits_zeros (zeros : Nat) (ds : List Nat) :
    ofDigits base (List.replicate zeros 0 ++ ds) = ofDigits base ds := by
  induction zeros with
  | zero => rfl
  | succ zeros ih =>
    rw [List.replicate_succ, List.cons_append, ofDigits, List.foldl_cons, Nat.zero_mul, Nat.add_zero]
    exact ih

/-- The digits of a number are worth the number. -/
theorem digits_toDigits (hbase : 1 < base) (hsixteen : base ≤ 16) (n : Nat) :
    ∃ ds, Digits base (Nat.toDigits base n) ds ∧ ofDigits base ds = n := by
  have hdigit : ∀ d < base, digitBelow? base (Nat.digitChar d) = some d := by
    intro d hd
    have hall : ∀ d < 16, baseDigit? (Nat.digitChar d) = some d := by decide
    exact digitBelow?_eq_some_iff.2 ⟨hall d (by omega), hd⟩
  induction n using Nat.strong_induction_on with
  | h n ih =>
    by_cases hn : n < base
    · refine ⟨[n], ?_, by simp [ofDigits]⟩
      rw [Nat.toDigits_of_lt_base hn]
      exact .cons (hdigit n hn) .nil
    · obtain ⟨ds, hds, hworth⟩ := ih (n / base) (Nat.div_lt_self (by omega) hbase)
      have hlast : n % base < base := Nat.mod_lt n (by omega)
      refine ⟨ds ++ [n % base], ?_, ?_⟩
      · rw [Nat.toDigits_of_base_le hbase (by omega)]
        exact List.rel_append hds (.cons (hdigit _ hlast) .nil)
      · rw [ofDigits_append_single, hworth, Nat.mul_comm]
        exact Nat.div_add_mod n base

end Digits

theorem Radix.one_lt_base (radix : Radix) : 1 < radix.base ∧ radix.base ≤ 16 := by
  cases radix <;> decide

namespace Written

variable {n : Int} (w : Written n)

/-- The figures are worth the integer without its sign. -/
theorem digits_figures :
    ∃ ds, Digits w.radix.base w.figures ds ∧ ofDigits w.radix.base ds = n.natAbs := by
  obtain ⟨hone, hsixteen⟩ := w.radix.one_lt_base
  obtain ⟨ds, hds, hworth⟩ := digits_toDigits hone hsixteen n.natAbs
  -- Letter case does not change what a digit is worth.
  have hlower : Digits w.radix.base w.digits ds := by
    rw [← w.lower_digits] at hds
    simpa only [Digits, List.forall₂_map_left_iff, digitBelow?, baseDigit?_toLower] using hds
  have hzero : digitBelow? w.radix.base '0' = some 0 := digitBelow?_eq_some_iff.2 ⟨rfl, by omega⟩
  have hzeros : Digits w.radix.base (List.replicate w.zeros '0') (List.replicate w.zeros 0) := by
    induction w.zeros with
    | zero => exact .nil
    | succ zeros ih => exact .cons hzero ih
  exact ⟨_, List.rel_append hzeros hlower, (ofDigits_zeros _ _).trans hworth⟩

theorem figures_ne_nil : w.figures ≠ [] := by
  have hdigits : w.digits ≠ [] := by
    rintro hnil
    exact Nat.toDigits_ne_nil (w.lower_digits.symm.trans (by rw [hnil, List.map_nil]))
  simp [figures, hdigits]

theorem exists_baseDigit? {c : Char} (hc : c ∈ w.figures) :
    ∃ d < w.radix.base, baseDigit? c = some d := by
  obtain ⟨ds, hds, -⟩ := w.digits_figures
  exact hds.of_mem hc

theorem baseOfMark?_of_mem_figures (hten : w.radix.base = 10) {c : Char} (hc : c ∈ w.figures) :
    baseOfMark? c = none := by
  obtain ⟨d, hbelow, hd⟩ := w.exists_baseDigit? hc
  exact (of_baseDigit? hd).2.2.2.2.2.2 (by omega)

/-! ## 3. Signs and marks -/

theorem mark_cases : w.radix.base = 10 ∧ w.mark = [] ∨
    w.radix.base ≠ 10 ∧ ∃ c, w.mark = ['0', c] ∧ baseOfMark? c = some w.radix.base := by
  have hmark := w.mark_mem
  cases hradix : w.radix <;> rw [hradix] at hmark
  case decimal => exact .inl ⟨rfl, List.mem_singleton.1 hmark⟩
  all_goals
    refine .inr ⟨by decide, ?_⟩
    rcases List.mem_pair.1 hmark with hmark | hmark
    all_goals exact ⟨_, hmark, by decide⟩

theorem sign_cases : n < 0 ∧ w.sign = ['-'] ∨ 0 ≤ n ∧ (w.sign = [] ∨ w.sign = ['+']) := by
  have hsign := w.sign_mem
  unfold signs at hsign
  split at hsign
  next hn => exact .inl ⟨hn, List.mem_singleton.1 hsign⟩
  next hn => exact .inr ⟨Int.not_lt.1 hn, List.mem_pair.1 hsign⟩

/-- No sign and no space stands where the mark or the first figure does. -/
theorem exists_unsigned : ∃ first rest, w.mark ++ w.figures = first :: rest ∧
    first ≠ '+' ∧ first ≠ '-' ∧ isSpace first = false := by
  rcases w.mark_cases with ⟨-, hmark⟩ | ⟨-, c, hmark, -⟩
  · obtain ⟨first, rest, hfigures⟩ := List.exists_cons_of_ne_nil w.figures_ne_nil
    obtain ⟨d, -, hd⟩ := w.exists_baseDigit? (hfigures ▸ List.mem_cons_self : first ∈ w.figures)
    obtain ⟨-, -, hspace, -, hplus, hminus, -⟩ := of_baseDigit? hd
    exact ⟨first, rest, by rw [hmark, hfigures, List.nil_append], hplus, hminus, hspace⟩
  · exact ⟨'0', c :: w.figures, by rw [hmark]; rfl, by decide, by decide, by decide⟩

/-- All characters of a numeral are in ASCII, and none is blank or an underscore. -/
theorem of_mem_chars {c : Char} (hc : c ∈ w.chars) : c.toNat < 127 ∧ isBlank c = false ∧ c ≠ '_' := by
  rcases List.mem_append.1 hc with hc | hc
  · have hsign : c = '+' ∨ c = '-' := by
      rcases w.sign_cases with ⟨-, hsign⟩ | ⟨-, hsign | hsign⟩ <;> simp_all
    rcases hsign with rfl | rfl <;> decide
  · rcases List.mem_append.1 hc with hc | hc
    · rcases w.mark_cases with ⟨-, hmark⟩ | ⟨-, mark, hmark, hbase⟩ <;> rw [hmark] at hc
      · contradiction
      · rcases List.mem_pair.1 hc with rfl | rfl
        · decide
        · exact of_baseOfMark? hbase
    · obtain ⟨d, -, hd⟩ := w.exists_baseDigit? hc
      obtain ⟨hascii, hblank, -, hunderscore, -⟩ := of_baseDigit? hd
      exact ⟨hascii, hblank, hunderscore⟩

theorem takeSign_chars : takeSign w.chars = (decide (n < 0), w.mark ++ w.figures) := by
  obtain ⟨first, rest, hunsigned, hplus, hminus, -⟩ := w.exists_unsigned
  rw [chars, hunsigned]
  rcases w.sign_cases with ⟨hn, hsign⟩ | ⟨hn, hsign | hsign⟩
  · simp [hsign, takeSign, hn]
  · have hunsigned : takeSign (first :: rest) = (false, first :: rest) := by
      unfold takeSign
      split <;> simp_all
    simp [hsign, hunsigned, hn]
  · simp [hsign, takeSign, hn]

/-- The base that the mark names is the one in force, and ten where there is no mark. -/
theorem takeBase_unsigned :
    takeBase (if w.radix.base = 10 then 10 else 0) (w.mark ++ w.figures) =
      (w.radix.base, w.figures) := by
  rcases w.mark_cases with ⟨hten, hmark⟩ | ⟨hten, c, hmark, hbase⟩
  · rw [if_pos hten, hmark, hten, List.nil_append]
    unfold takeBase
    split
    next mark rest heq =>
      rw [w.baseOfMark?_of_mem_figures hten (by simp [heq])]
      rfl
    next => rfl
  · obtain ⟨first, rest, hfigures⟩ := List.exists_cons_of_ne_nil w.figures_ne_nil
    obtain ⟨d, -, hd⟩ := w.exists_baseDigit? (hfigures ▸ List.mem_cons_self : first ∈ w.figures)
    have hunderscore : first ≠ '_' := (of_baseDigit? hd).2.2.2.1
    rw [if_neg hten, hmark, hfigures]
    simp [takeBase, hbase, hunderscore]

theorem namesBase_chars : Conversion.namesBase w.chars = decide (w.radix.base ≠ 10) := by
  obtain ⟨first, rest, hunsigned, hplus, hminus, -⟩ := w.exists_unsigned
  have hdrop : w.chars.dropWhile (fun c => c == '+' || c == '-') = w.mark ++ w.figures := by
    rw [chars, hunsigned]
    rcases w.sign_cases with ⟨-, hsign⟩ | ⟨-, hsign | hsign⟩ <;> simp [hsign, hplus, hminus]
  rw [Conversion.namesBase, hdrop]
  rcases w.mark_cases with ⟨hten, hmark⟩ | ⟨hten, c, hmark, hbase⟩
  · rw [hmark, List.nil_append]
    split
    next mark rest heq =>
      rw [w.baseOfMark?_of_mem_figures hten (by simp [heq])]
      simp [hten]
    next => simp [hten]
  · simp [hmark, hbase, hten]

/-! ## 4. Reading -/

theorem read_chars (hshort : w.IsShort) :
    read (if w.radix.base = 10 then 10 else 0) w.chars = .ok n := by
  obtain ⟨ds, hds, hworth⟩ := w.digits_figures
  obtain ⟨first, rest, hunsigned, -, -, hspace⟩ := w.exists_unsigned
  have hascii : asciiForm w.chars = w.chars := by
    have hsame : ∀ c ∈ w.chars, asciiChar c = c := fun c hc => if_pos (w.of_mem_chars hc).1
    rw [asciiForm, List.map_congr_left hsame, List.map_id']
  have hstart : w.chars.dropWhile isSpace = w.chars := by
    have hminus : isSpace '-' = false := by decide
    have hplus : isSpace '+' = false := by decide
    rcases w.sign_cases with ⟨-, hsign⟩ | ⟨-, hsign | hsign⟩ <;>
      simp [chars, hsign, hunsigned, hspace, hminus, hplus]
  have hfront : w.figures.head? ≠ some '_' := by
    intro hhead
    exact (w.of_mem_chars (List.mem_append_right _ (List.mem_append_right _
      (List.mem_of_mem_head? hhead)))).2.2 rfl
  have hcount : ¬(w.radix.base = 10 ∧ maxDigits < ds.length) := by
    rw [← hds.length_eq]
    exact fun h => absurd (hshort h.1) (Nat.not_le.2 h.2)
  have hempty : ds ≠ [] := hds.ne_nil w.figures_ne_nil
  have hsigned : (if decide (n < 0) = true then -(n.natAbs : ℤ) else n.natAbs) = n := by
    split
    next hn =>
      rw [decide_eq_true_eq] at hn
      omega
    next hn =>
      rw [decide_eq_true_eq] at hn
      omega
  rw [read, hascii, hstart, w.takeSign_chars]
  dsimp only
  rw [w.takeBase_unsigned]
  dsimp only
  rw [if_neg hfront, scanDigits_of_digits hds]
  dsimp only
  rw [if_neg (by simpa using hcount), if_neg (by simpa using hempty), hworth, if_neg (by grind)]
  exact congrArg Except.ok hsigned

end Written

/-- The texts that write an integer: neither underscores in them nor blanks around them count, and they
have no more decimal figures than can be read. -/
inductive Writes (n : Int) : String → Prop where
  | intro (w : Written n) {before inner after : List Char} (hshort : w.IsShort)
    (hbefore : ∀ c ∈ before, isBlank c = true) (hafter : ∀ c ∈ after, isBlank c = true)
    (hinner : inner.filter (· ≠ '_') = w.chars) : Writes n (String.ofList (before ++ inner ++ after))

theorem readInt_of_writes {n : Int} {s : String} (h : Writes n s) : Conversion.readInt s = .ok n := by
  obtain ⟨w, hshort, hbefore, hafter, hinner⟩ := h
  rename_i before inner after
  have hblank : ∀ c ∈ inner, isBlank c = false := by
    intro c hc
    by_cases hunderscore : c = '_'
    · rw [hunderscore]
      decide
    · have hkept : c ∈ inner.filter (· ≠ '_') := List.mem_filter.2 ⟨hc, by simpa using hunderscore⟩
      exact (w.of_mem_chars (hinner ▸ hkept)).2.1
  have hbase : (if decide (w.radix.base ≠ 10) = true then 0 else 10) =
      if w.radix.base = 10 then 10 else 0 := by
    split <;> simp_all
  rw [Conversion.readInt, String.toList_ofList, Conversion.readIntChars,
    Text.trim_surrounded hbefore hafter, Text.trim_of_no_blank hblank, hinner]
  rw [w.namesBase_chars, hbase, w.read_chars hshort]
  rfl

/-! ## 5. Decimal texts -/

/-- The text of an integer is one of the ways to write it. -/
def decimal (n : Int) : Written n where
  radix := .decimal
  sign := if n < 0 then ['-'] else []
  mark := []
  zeros := 0
  digits := natChars n.natAbs
  sign_mem := by
    unfold signs
    split <;> simp
  mark_mem := by simp [Radix.marks]
  lower_digits := by
    have hsmall : ∀ c ∈ Nat.toDigits 10 n.natAbs, c.toLower = c := by
      intro c hc
      have hdigit := Nat.isDigit_of_mem_toDigits (by decide) (by decide) hc
      apply Char.toLower_eq_of_not_isUpper
      grind [Char.isDigit, Char.isUpper]
    rw [natChars, Radix.base, List.map_congr_left hsmall, List.map_id']

theorem chars_decimal (n : Int) : (decimal n).chars = intChars n := by
  unfold Written.chars Written.figures intChars decimal
  split <;> simp

theorem isShort_decimal {n : Int} (h : n.natAbs < Nat.pow 10 maxDigits) : (decimal n).IsShort := by
  intro _
  -- The bound is a power that is never computed.
  have hpow : ∀ k, Nat.pow 10 k = 10 ^ k := fun _ => rfl
  rw [hpow] at h
  rw [Written.figures, decimal, List.replicate_zero, List.nil_append]
  exact (Nat.length_toDigits_le_iff (by decide) (by decide)).2 h

theorem writes_decimal {n : Int} (h : n.natAbs < Nat.pow 10 maxDigits) :
    Writes n (String.ofList (intChars n)) := by
  have hblank : ∀ c ∈ ([] : List Char), isBlank c = true := nofun
  have hinner : (intChars n).filter (· ≠ '_') = (decimal n).chars := by
    rw [← chars_decimal]
    exact List.filter_eq_self.2 fun c hc => by simpa using ((decimal n).of_mem_chars hc).2.2
  simpa using Writes.intro (decimal n) (isShort_decimal h) hblank hblank hinner

end Numeral

end LayeredConfig
