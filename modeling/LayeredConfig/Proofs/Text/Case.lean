import LayeredConfig.Text.Case

/-!
# Letter case — a text and its small form

Every character has a small form of at least one character, so only the empty text has an empty one. A
fact about ASCII characters is decided over all of them (`of_ascii`), and the small form of an ASCII text
is taken letter by letter, wherever a letter stands (`lower_of_ascii`).
-/

namespace LayeredConfig.Text

theorem lowerExpansions_ne_nil : ∀ entry ∈ lowerExpansions, entry.2 ≠ [] := by
  decide

theorem lowerChar_ne_nil (c : Char) : lowerChar c ≠ [] := by
  unfold lowerChar
  split
  · exact List.cons_ne_nil _ _
  · split
    next code codes hfound =>
      have hcodes := lowerExpansions_ne_nil _ (List.mem_of_find?_eq_some hfound)
      exact fun hnil => hcodes (List.map_eq_nil_iff.1 hnil)
    next => exact List.cons_ne_nil _ _

theorem lower_eq_nil_iff {cs : List Char} : lower cs = [] ↔ cs = [] := by
  cases cs with
  | nil => exact Iff.rfl
  | cons c rest =>
    refine ⟨fun h => ?_, fun h => nomatch h⟩
    obtain ⟨hsmall, -⟩ := List.append_eq_nil_iff.1 h
    split at hsmall
    · split at hsmall <;> contradiction
    · exact absurd hsmall (lowerChar_ne_nil c)

theorem of_ascii {P : Char → Prop} {c : Char} (hc : c.toNat < 128)
    (h : ∀ code < 128, P (Char.ofNat code)) : P c := by
  rw [← Char.ofNat_toNat c]
  exact h c.toNat hc

theorem lowerAfter_of_ascii {cs : List Char} (h : ∀ c ∈ cs, c.toNat < 128) (before : List Char) :
    lowerAfter before cs = cs.map Char.toLower := by
  induction cs generalizing before with
  | nil => rfl
  | cons c cs ih =>
    obtain ⟨hc, hcs⟩ := List.forall_mem_cons.1 h
    have hsigma : (c == 'Σ') = false := by
      rw [beq_eq_false_iff_ne]
      rintro rfl
      exact absurd hc (by decide)
    rw [lowerAfter, ih hcs, hsigma, lowerChar, if_pos hc]
    rfl

theorem lower_of_ascii {cs : List Char} (h : ∀ c ∈ cs, c.toNat < 128) :
    lower cs = cs.map Char.toLower :=
  lowerAfter_of_ascii h []

/-- The capital form of the small form of a letter is the letter, unless it was small before. -/
theorem upperChar_toLower {c : Char} (hc : c.toNat < 128) (hsmall : c.isLower = false) :
    upperChar c.toLower = [c] := by
  obtain ⟨hascii, hupper⟩ : c.toLower.toNat < 128 ∧ c.toLower.toUpper = c := by
    revert hsmall
    apply of_ascii hc
    decide
  rw [upperChar, if_pos hascii, hupper]

end LayeredConfig.Text
