import LayeredConfig.Proofs.Placeholder.Termination
import Mathlib.Data.Nat.Find

/-!
# Cycles — a body is refused only if its expansion has no end

The expansion that refuses no body (`uncheckedAt`) comes to an end if and only if no body is met
again while it is being expanded, and both expansions are then the same (`cycle_check_exact`). A
body that takes part in its own expansion would need less depth for itself than it needs.
-/

namespace LayeredConfig.Placeholder.Expander

variable {ε : Type}

/-! ## 1. Expansion without the check -/

/-- Expands a text, at most `depth` levels deep, and refuses no body. -/
def uncheckedAt (x : Expander) (lookup : Lookup ε) : (depth : Nat) → (text : List Char) →
    Run ε (List Char)
  | 0, _ => Run.fail .exhausted
  | depth + 1, text =>
    x.expandFrom (x.substitute lookup (uncheckedAt x lookup depth)) [] text text 0

theorem uncheckedAt_succ (x : Expander) (lookup : Lookup ε) (depth : Nat) (text : List Char) :
    x.uncheckedAt lookup (depth + 1) text =
      x.read (x.substitute lookup (x.uncheckedAt lookup depth)) text
        (Layout.ofText x.delimiters text) := by
  have hguard : guarded [] (x.substitute lookup (x.uncheckedAt lookup depth)) =
      x.substitute lookup (x.uncheckedAt lookup depth) := by
    funext body
    exact guarded_of_notMem List.not_mem_nil
  have h := expandFrom_eq_read x (x.substitute lookup (x.uncheckedAt lookup depth)) [] text [] text
  rw [hguard] at h
  rw [uncheckedAt]
  simpa only [List.nil_append, List.length_nil, id_map'] using h

theorem uncheckedAt_approx_succ (x : Expander) (lookup : Lookup ε) (depth : Nat)
    (text : List Char) :
    (x.uncheckedAt lookup depth text).Approx (x.uncheckedAt lookup (depth + 1) text) := by
  induction depth generalizing text with
  | zero =>
    have hcut : (x.uncheckedAt lookup 0 text).CutOff := rfl
    exact hcut.approx _
  | succ depth ih =>
    rw [uncheckedAt_succ, uncheckedAt_succ]
    exact read_eqUnless x (substitute_eqUnless x lookup ih) text _

theorem uncheckedAt_approx_of_le (x : Expander) (lookup : Lookup ε) {n m : Nat} (h : n ≤ m)
    (text : List Char) :
    (x.uncheckedAt lookup n text).Approx (x.uncheckedAt lookup m text) := by
  induction h with
  | refl => exact .refl _
  | step _ ih => exact ih.trans (uncheckedAt_approx_succ x lookup _ text)

/-- Only the check finds a body circular. -/
theorem uncheckedAt_ne_circular (x : Expander) (lookup : Lookup ε) (depth : Nat)
    (text body : List Char) :
    (x.uncheckedAt lookup depth text).outcome ≠ .error (.circular body) := by
  suffices h : (x.uncheckedAt lookup depth text).FailsOnly (· ≠ .circular body) from
    fun hcircular => h _ hcircular rfl
  induction depth generalizing text with
  | zero => exact .of_error rfl (fun h => nomatch h)
  | succ depth ih =>
    rw [uncheckedAt_succ]
    refine failsOnly_read (fun _ _ h => nomatch h) fun part _ => ?_
    exact failsOnly_substitute (fun _ _ _ h => nomatch h) (fun inside _ => ih inside)
      fun _ value _ => ih value

/-! ## 2. What the check leaves out -/

/-- Without the check, a body comes to nothing while less than `depth` is left for its parts. -/
def Needs (x : Expander) (lookup : Lookup ε) (depth : Nat) (body : List Char) : Prop :=
  ∀ less < depth, (x.substitute lookup (x.uncheckedAt lookup less) body).CutOff

variable {x : Expander} {lookup : Lookup ε}

theorem Needs.of_le {less depth : Nat} {body : List Char} (h : x.Needs lookup depth body)
    (hle : less ≤ depth) : x.Needs lookup less body :=
  fun n hn => h n (Nat.lt_of_lt_of_le hn hle)

/-- Either a body needs more than some depth, or there is a depth that it needs and that is enough
for it. -/
theorem needs_or_enough (x : Expander) (lookup : Lookup ε) (depth : Nat) (body : List Char) :
    x.Needs lookup (depth + 1) body ∨
      ∃ least ≤ depth, x.Needs lookup least body ∧
        ¬(x.substitute lookup (x.uncheckedAt lookup least) body).CutOff := by
  classical
  by_cases h : ∃ least, ¬(x.substitute lookup (x.uncheckedAt lookup least) body).CutOff
  · have hneeds : x.Needs lookup (Nat.find h) body :=
      fun less hless => not_not.1 (Nat.find_min h hless)
    rcases Nat.lt_or_ge depth (Nat.find h) with hlt | hle
    · exact .inl (hneeds.of_le hlt)
    · exact .inr ⟨Nat.find h, hle, hneeds, Nat.find_spec h⟩
  · exact .inl fun less _ => not_not.1 (not_exists.1 h less)

/-- Where the active bodies are not done with this depth, the check changes nothing that is. The
induction is on the depth: a new body becomes active at the least depth that is enough for it. -/
theorem uncheckedAt_approx_expandAt {depth : Nat} {active : List (List Char)} {text : List Char}
    (hneeds : ∀ body ∈ active, x.Needs lookup depth body) :
    (x.uncheckedAt lookup depth text).Approx (x.expandAt lookup depth active text) := by
  induction depth using Nat.strong_induction_on generalizing active text with
  | h depth ih =>
    cases depth with
    | zero =>
      have hcut : (x.uncheckedAt lookup 0 text).CutOff := rfl
      exact hcut.approx _
    | succ depth =>
      rw [uncheckedAt_succ, expandAt_succ]
      refine read_eqUnless x (fun body => ?_) text _
      by_cases hmem : body ∈ active
      -- The check refuses an active body; without it such a body comes to nothing here.
      · exact (hneeds body hmem depth (Nat.lt_succ_self depth)).approx _
      rcases needs_or_enough x lookup depth body with hbody | ⟨least, hle, hbody, henough⟩
      · exact (hbody depth (Nat.lt_succ_self depth)).approx _
      -- At `least` both runs are the same, and more depth changes neither of them.
      have hsame : ∀ part, (x.uncheckedAt lookup least part).Approx
          (x.expandAt lookup least (body :: active) part) := by
        intro part
        refine ih least (by omega) fun other hother => ?_
        rcases List.mem_cons.1 hother with rfl | hother
        · exact hbody
        · exact (hneeds other hother).of_le (by omega)
      have hchecked : x.substitute lookup (x.uncheckedAt lookup least) body =
          x.substitute lookup (x.expandAt lookup least (body :: active)) body :=
        Run.Approx.eq (substitute_eqUnless x lookup hsame body) henough
      have hmore : x.substitute lookup (x.uncheckedAt lookup least) body =
          x.substitute lookup (x.uncheckedAt lookup depth) body :=
        Run.Approx.eq
          (substitute_eqUnless x lookup (uncheckedAt_approx_of_le x lookup hle) body) henough
      have hmoreChecked : x.substitute lookup (x.expandAt lookup least (body :: active)) body =
          x.substitute lookup (x.expandAt lookup depth (body :: active)) body :=
        Run.Approx.eq
          (substitute_eqUnless x lookup (expandAt_approx_of_le x lookup hle (body :: active)) body)
          (hchecked ▸ henough)
      rw [settle_of_notMem hmem, ← hmore, hchecked, hmoreChecked]
      exact .refl _

/-- An expansion that meets no circular body is the one without the check. -/
theorem expandAt_eqUnless_uncheckedAt (depth : Nat) (active : List (List Char))
    (text : List Char) :
    (x.expandAt lookup depth active text).EqUnless (∃ body, · = .circular body)
      (x.uncheckedAt lookup depth text) := by
  induction depth generalizing active text with
  | zero => exact .refl _
  | succ depth ih =>
    rw [expandAt_succ, uncheckedAt_succ]
    refine read_eqUnless x (fun body => ?_) text _
    by_cases hmem : body ∈ active
    · rw [settle_of_mem hmem]
      exact .of_failed rfl ⟨body, rfl⟩ _
    · rw [settle_of_notMem hmem]
      exact substitute_eqUnless x lookup (ih (body :: active)) body

theorem ends_of_uncheckedAt {depth : Nat} {text : List Char} {o : Except (Failure ε) (List Char)}
    (h : (x.uncheckedAt lookup depth text).outcome = o) (ho : Definite o) :
    x.Ends lookup [] text o := by
  have hcut : ¬(x.uncheckedAt lookup depth text).CutOff := by
    rw [Run.CutOff, h]
    exact ho
  have hsame : x.uncheckedAt lookup depth text = x.expandAt lookup depth [] text :=
    (uncheckedAt_approx_expandAt fun body hbody => absurd hbody List.not_mem_nil).eq hcut
  rw [hsame] at h
  exact ends_of_outcome h ho

/-- **Exactness of the check.** If the expansion without the check comes to an end, at any depth,
the expansion with it has the same outcome; and if the expansion with it finds a circular body, the
one without it has no outcome at any depth. Over a lookup with finitely many answers these are the
only two cases. -/
theorem cycle_check_exact (x : Expander) (lookup : Lookup ε) (text : List Char) :
    (∀ depth o, (x.uncheckedAt lookup depth text).outcome = o → Definite o →
      x.Ends lookup [] text o ∧
        ∀ values, lookup.Within values → (x.expand values lookup text).outcome = o) ∧
      (∀ depth body, (x.expandAt lookup depth [] text).outcome = .error (.circular body) →
        ∀ other, (x.uncheckedAt lookup other text).outcome = .error .exhausted) ∧
      ∀ values, lookup.Within values →
        (∀ depth, (x.uncheckedAt lookup depth text).outcome = .error .exhausted) →
          ∃ body, (x.expand values lookup text).outcome = .error (.circular body) := by
  refine ⟨fun depth o h ho => ⟨ends_of_uncheckedAt h ho, fun values hwithin => ?_⟩,
    fun depth body hcircular other => ?_, fun values hwithin hcut => ?_⟩
  · exact (ends_expand x hwithin text).unique (ends_of_uncheckedAt h ho)
  · -- An outcome without the check would be the one with it, and that is a circular body.
    by_contra hne
    have hends : x.Ends lookup [] text (.error (.circular body)) :=
      ends_of_outcome hcircular (definite_error_iff.2 nofun)
    have hsame := hends.unique (ends_of_uncheckedAt rfl hne)
    exact uncheckedAt_ne_circular x lookup other text body hsame.symm
  · -- An outcome that is not a circular body would be one without the check too.
    by_contra hnone
    have hfails : (x.expand values lookup text).FailsOnly (¬∃ body, · = .circular body) := by
      rintro failure hfailure ⟨body, rfl⟩
      exact hnone ⟨body, hfailure⟩
    have hdefinite := (finishes_expand x hwithin text).definite
    rw [expand, expandAt_eqUnless_uncheckedAt _ _ _ hfails] at hdefinite
    exact hdefinite (hcut _)

/-- A key in both parts of one body is no cycle, a key that is put together from a key and comes
back to itself is one. -/
theorem cycle_check_exact_ring :
    Expander.Ends ⟨.standard, true⟩ ring [] "$\x7bb\x7d$\x7bb:$\x7bb\x7d\x7d".toList
        (.ok "aa".toList) ∧
      ∀ depth, (Expander.uncheckedAt ⟨.standard, true⟩ ring depth "$\x7ba\x7d".toList).outcome =
        .error .exhausted := by
  constructor
  · have h := (cycle_check_exact ⟨.standard, true⟩ ring
      "$\x7bb\x7d$\x7bb:$\x7bb\x7d\x7d".toList).1 3 (.ok "aa".toList)
    exact (h (by cbv) (definite_ok _)).1
  · have h := (cycle_check_exact ⟨.standard, true⟩ ring "$\x7ba\x7d".toList).2.1 4
      "$\x7bb\x7d".toList
    exact h (by cbv)

end LayeredConfig.Placeholder.Expander
