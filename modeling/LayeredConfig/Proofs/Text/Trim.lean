import LayeredConfig.Text.Character
import Mathlib.Data.List.DropRight

/-!
# Trimming — what is taken away and what stays

Blanks at either end do not count (`trim_cons_of_blank`, `trim_append_of_blank`), and nothing is
left to trim in a text that is trimmed (`trim_trim`).
-/

namespace LayeredConfig.Text

theorem trimEnd_eq_rdropWhile (cs : List Char) : trimEnd cs = cs.rdropWhile isBlank := rfl

theorem trim_cons_of_blank {c : Char} (h : isBlank c = true) (cs : List Char) :
    trim (c :: cs) = trim cs := by
  rw [trim, trimStart, List.dropWhile_cons_of_pos h]
  rfl

theorem trimEnd_append_of_blank {c : Char} (h : isBlank c = true) (cs : List Char) :
    trimEnd (cs ++ [c]) = trimEnd cs :=
  List.rdropWhile_concat_pos _ _ _ h

theorem trim_append_of_blank {c : Char} (h : isBlank c = true) (cs : List Char) :
    trim (cs ++ [c]) = trim cs := by
  induction cs with
  | nil => exact trim_cons_of_blank h []
  | cons first cs ih =>
    by_cases hfirst : isBlank first = true
    · rw [List.cons_append, trim_cons_of_blank hfirst, trim_cons_of_blank hfirst, ih]
    · rw [trim, trim, trimStart, trimStart, List.cons_append,
        List.dropWhile_cons_of_neg hfirst, List.dropWhile_cons_of_neg hfirst, ← List.cons_append,
        trimEnd_append_of_blank h]

/-- Blanks around a text do not count. -/
theorem trim_surrounded {before after : List Char} (hbefore : ∀ c ∈ before, isBlank c = true)
    (hafter : ∀ c ∈ after, isBlank c = true) (cs : List Char) :
    trim (before ++ cs ++ after) = trim cs := by
  have hfront : trim (before ++ cs) = trim cs := by
    induction before with
    | nil => rfl
    | cons c before ih =>
      obtain ⟨hc, hbefore⟩ := List.forall_mem_cons.1 hbefore
      rw [List.cons_append, trim_cons_of_blank hc, ih hbefore]
  induction after using List.reverseRecOn with
  | nil => rw [List.append_nil, hfront]
  | append_singleton after last ih =>
    obtain ⟨hafter, hlast⟩ := List.forall_mem_append.1 hafter
    rw [← List.append_assoc, trim_append_of_blank (hlast last (List.mem_singleton_self last)),
      ih hafter]

/-- What trimming takes away are blanks at the two ends. -/
theorem exists_eq_surrounded (cs : List Char) :
    ∃ before after, (∀ c ∈ before, isBlank c = true) ∧ (∀ c ∈ after, isBlank c = true) ∧
      cs = before ++ trim cs ++ after := by
  refine ⟨cs.takeWhile isBlank, (trimStart cs).rtakeWhile isBlank,
    fun c => List.mem_takeWhile_imp, fun c => List.mem_rtakeWhile_imp, ?_⟩
  have hend : trim cs ++ (trimStart cs).rtakeWhile isBlank = trimStart cs :=
    List.rdropWhile_append_rtakeWhile
  rw [List.append_assoc, hend]
  exact List.takeWhile_append_dropWhile.symm

/-- A character that is no blank holds what stands before it. -/
theorem trimEnd_append_cons {c : Char} (h : isBlank c = false) (before after : List Char) :
    trimEnd (before ++ c :: after) = before ++ c :: trimEnd after := by
  induction after using List.reverseRecOn with
  | nil => exact List.rdropWhile_concat_neg _ _ _ (by rw [h]; decide)
  | append_singleton after last ih =>
    have hassoc : before ++ c :: (after ++ [last]) = (before ++ c :: after) ++ [last] := by simp
    rw [hassoc]
    by_cases hlast : isBlank last = true
    · rw [trimEnd_append_of_blank hlast, trimEnd_append_of_blank hlast, ih]
    · rw [trimEnd_eq_rdropWhile, trimEnd_eq_rdropWhile, List.rdropWhile_concat_neg _ _ _ hlast,
        List.rdropWhile_concat_neg _ _ _ hlast, ← hassoc]

theorem trimStart_cons_of_not_blank {c : Char} (h : isBlank c = false) (cs : List Char) :
    trimStart (c :: cs) = c :: cs :=
  List.dropWhile_cons_of_neg (by rw [h]; decide)

theorem trimStart_append_cons {c : Char} (h : isBlank c = false) (before after : List Char) :
    trimStart (before ++ c :: after) = trimStart before ++ c :: after := by
  induction before with
  | nil => exact trimStart_cons_of_not_blank h after
  | cons first before ih =>
    by_cases hfirst : isBlank first = true
    · rw [List.cons_append, trimStart, trimStart, List.dropWhile_cons_of_pos hfirst,
        List.dropWhile_cons_of_pos hfirst]
      exact ih
    · rw [Bool.not_eq_true] at hfirst
      rw [List.cons_append, trimStart_cons_of_not_blank hfirst, trimStart_cons_of_not_blank hfirst,
        List.cons_append]

theorem trim_append_cons {c : Char} (h : isBlank c = false) (before after : List Char) :
    trim (before ++ c :: after) = trimStart before ++ c :: trimEnd after := by
  rw [trim, trimStart_append_cons h, trimEnd_append_cons h]

/-- What is left when the start is trimmed does not start with a blank. -/
theorem not_blank_of_trimStart {first : Char} {cs rest : List Char}
    (h : trimStart cs = first :: rest) : isBlank first = false := by
  have hne : trimStart cs ≠ [] := by rw [h]; exact List.cons_ne_nil first rest
  have hhead : isBlank ((trimStart cs).head hne) = false := List.head_dropWhile_not isBlank hne
  rwa [List.head_eq_iff_head?_eq_some hne |>.2 (by rw [h]; rfl)] at hhead

theorem trim_of_trimStart {first : Char} {cs rest : List Char} (h : trimStart cs = first :: rest) :
    trim cs = first :: trimEnd rest := by
  rw [trim, h]
  exact trimEnd_append_cons (not_blank_of_trimStart h) [] rest

theorem mem_of_mem_trimStart {c : Char} {cs : List Char} (h : c ∈ trimStart cs) : c ∈ cs :=
  (List.dropWhile_sublist isBlank).subset h

theorem trim_cons_append_cons {first c : Char} (hfirst : isBlank first = false)
    (hc : isBlank c = false) (before after : List Char) :
    trim (first :: (before ++ c :: after)) = first :: (before ++ c :: trimEnd after) := by
  rw [← List.cons_append, trim_append_cons hc, trimStart_cons_of_not_blank hfirst, List.cons_append]

/-- A text without blanks has nothing to trim. -/
theorem trim_of_no_blank {cs : List Char} (h : ∀ c ∈ cs, isBlank c = false) : trim cs = cs := by
  have hkept : ∀ c ∈ cs, ¬isBlank c = true := fun c hc => by simp [h c hc]
  have hstart : trimStart cs = cs :=
    List.dropWhile_eq_self_iff.2 fun hlength => hkept _ (List.getElem_mem hlength)
  rw [trim, hstart, trimEnd_eq_rdropWhile]
  exact List.rdropWhile_eq_self_iff.2 fun hne => hkept _ (List.getLast_mem hne)

/-- The end may be trimmed first. -/
theorem trim_trimEnd (cs : List Char) : trim (trimEnd cs) = trim cs := by
  induction cs using List.reverseRecOn with
  | nil => rfl
  | append_singleton cs last ih =>
    by_cases hlast : isBlank last = true
    · rw [trimEnd_append_of_blank hlast, trim_append_of_blank hlast, ih]
    · rw [trimEnd_eq_rdropWhile, List.rdropWhile_concat_neg _ _ _ hlast]

theorem trim_trimStart (cs : List Char) : trim (trimStart cs) = trim cs := by
  have hstart : trimStart (trimStart cs) = trimStart cs := List.dropWhile_idempotent _ _
  rw [trim, hstart, trim]

theorem trim_isInfix (cs : List Char) : trim cs <:+: cs :=
  (List.rdropWhile_prefix isBlank _).isInfix.trans (List.dropWhile_suffix isBlank).isInfix

theorem mem_of_mem_trim {c : Char} {cs : List Char} (h : c ∈ trim cs) : c ∈ cs :=
  (trim_isInfix cs).subset h

/-- A text that starts with no blank still starts with none when its end is trimmed. -/
theorem trimStart_trimEnd {cs : List Char} (h : trimStart cs = cs) :
    trimStart (trimEnd cs) = trimEnd cs := by
  cases cs with
  | nil => rfl
  | cons first cs =>
    have hfirst : ¬isBlank first = true := List.dropWhile_eq_self_iff.1 h (Nat.succ_pos _)
    rcases List.prefix_cons_iff.1 (List.rdropWhile_prefix isBlank (first :: cs)) with
      hnil | ⟨kept, hkept, -⟩
    · rw [trimEnd_eq_rdropWhile, hnil]
      rfl
    · rw [trimEnd_eq_rdropWhile, hkept]
      exact List.dropWhile_cons_of_neg hfirst

theorem trim_trim (cs : List Char) : trim (trim cs) = trim cs := by
  have hstart : trimStart (trimStart cs) = trimStart cs := List.dropWhile_idempotent _ _
  rw [trim, trim, trimStart_trimEnd hstart, trimEnd_eq_rdropWhile, trimEnd_eq_rdropWhile,
    List.rdropWhile_idempotent]

/-- Nothing is left of a text exactly if it is blank. -/
theorem trim_eq_nil_iff {cs : List Char} : trim cs = [] ↔ ∀ c ∈ cs, isBlank c = true := by
  constructor
  · intro h
    -- What is left when the start is trimmed would begin with a character that is not blank.
    have hstart : trimStart cs = [] := by
      cases hkept : trimStart cs with
      | nil => rfl
      | cons first rest => rw [trim_of_trimStart hkept] at h; contradiction
    exact List.dropWhile_eq_nil_iff.1 hstart
  · intro h
    rw [trim, trimStart, List.dropWhile_eq_nil_iff.2 h]
    rfl

end LayeredConfig.Text
