import LayeredConfig.Proofs.Placeholder.Cycle
import LayeredConfig.Proofs.Placeholder.Grammar

/-!
# Reference — a placeholder for a key and the text that stands under it

The expansion of a placeholder for a key has one more body to watch than the expansion of the text
under the key, so it may find a cycle one round earlier. Without the check both come to the same
(`outcome_uncheckedAt_written`); and the check tells only whether there is an end
(`converges_unchecked_iff`), so with it they come to the same too, or both are circular
(`expand_written`).
-/

namespace LayeredConfig.Placeholder

variable {ε : Type}

namespace Run

variable {α : Type} {f g : Nat → Run ε α} {o : Except (Failure ε) α}

theorem converges_succ_iff : Converges (fun depth => f (depth + 1)) o ↔ Converges f o := by
  refine ⟨Converges.of_succ, ?_⟩
  rintro ⟨ho, least, hleast⟩
  exact ⟨ho, least, fun depth hdepth => hleast (depth + 1) (by omega)⟩

theorem Converges.of_outcome_eq (h : Converges f o)
    (hsame : ∀ depth, (f depth).outcome = (g depth).outcome) : Converges g o := by
  obtain ⟨ho, least, hleast⟩ := h
  exact ⟨ho, least, fun depth hdepth => (hsame depth).symm.trans (hleast depth hdepth)⟩

end Run

/-! ## 1. Keys that can be referred to -/

/-- A key can be referred to if it has neither brackets nor a separator. -/
def Referable (key : List Char) : Prop :=
  ∀ c ∈ key, c ≠ '\x7b' ∧ c ≠ '\x7d' ∧ c ≠ ':'

section Referable

variable {key : List Char}

theorem Referable.opening_notInfix (h : Referable key) :
    ¬Delimiters.standard.opening <:+: key := by
  intro hinfix
  have hmem : '\x7b' ∈ key := hinfix.subset (by decide)
  exact (h _ hmem).1 rfl

/-- Nothing happens in a key that can be referred to, neither for its end nor for its separator. -/
theorem Referable.crosses {β : Type} (h : Referable key) (S : Scanner .standard β) :
    S.Crosses 0 key 0 := by
  apply Scanner.Crosses.of_disjoint
  · exact List.singleton_disjoint.2 fun hc => (h _ hc).2.1 rfl
  · exact List.singleton_disjoint.2 fun hc => (h _ hc).1 rfl
  · intro _
    exact .inr (List.disjoint_singleton.2 fun hc => (h _ hc).2.2 rfl)

theorem Referable.layout (h : Referable key) :
    Layout.ofText .standard (Delimiters.standard.written key) =
      .placeholder [] key (.rest []) := by
  have hfirst := Delimiters.first?_written (h.crosses Delimiters.standard.search) []
  rw [List.append_nil] at hfirst
  rw [Layout.ofText_of_first?_some hfirst, Layout.ofText_of_first?_none (Delimiters.first?_nil _)]

theorem Referable.split (h : Referable key) : Delimiters.standard.split key = (key, none) :=
  Delimiters.split_of_crosses fun _ hs => h.crosses (Delimiters.standard.cut hs)

end Referable

/-! ## 2. With and without the check -/

/-- The outcome is a body that is circular. -/
def IsCircular {α : Type} (o : Except (Failure ε) α) : Prop :=
  ∃ body, o = .error (.circular body)

namespace Expander

variable {x : Expander} {lookup : Lookup ε}

theorem uncheckedAt_eq_of_not_circular {depth : Nat} {text : List Char}
    (h : ¬IsCircular (x.expandAt lookup depth [] text).outcome) :
    x.expandAt lookup depth [] text = x.uncheckedAt lookup depth text := by
  refine expandAt_eqUnless_uncheckedAt depth [] text ?_
  rintro failure hfailure ⟨body, rfl⟩
  exact h ⟨body, hfailure⟩

/-- Without the check an expansion comes to an end if and only if with it no body is circular, and
the outcome is the same. -/
theorem converges_unchecked_iff {values : List (List Char)} (hwithin : lookup.Within values)
    {text : List Char} {o : Except (Failure ε) (List Char)} :
    Run.Converges (fun depth => x.uncheckedAt lookup depth text) o ↔
      (x.expand values lookup text).outcome = o ∧ ¬IsCircular o := by
  have hends := ends_expand x hwithin text
  constructor
  · rintro ⟨ho, least, hleast⟩
    have hout : (x.uncheckedAt lookup least text).outcome = o := hleast least (Nat.le_refl least)
    refine ⟨hends.unique (ends_of_uncheckedAt hout ho), ?_⟩
    rintro ⟨body, rfl⟩
    exact uncheckedAt_ne_circular x lookup least text body hout
  · rintro ⟨rfl, hcircular⟩
    have hdefinite := (finishes_expand x hwithin text).definite
    -- At the depth of the expansion the check has found nothing, and a greater depth adds nothing.
    have hsame := uncheckedAt_eq_of_not_circular hcircular
    refine ⟨hdefinite, depthFor (text :: values), fun depth hdepth => ?_⟩
    have hcut : ¬(x.uncheckedAt lookup (depthFor (text :: values)) text).CutOff := by
      rw [← hsame]
      exact hdefinite
    show (x.uncheckedAt lookup depth text).outcome = _
    rw [← (uncheckedAt_approx_of_le x lookup hdepth text).eq hcut, ← hsame]
    rfl

/-! ## 3. A placeholder for a key -/

theorem outcome_uncheckedAt_of_notInfix {cs : List Char} (h : ¬x.delimiters.opening <:+: cs)
    (depth : Nat) : (x.uncheckedAt lookup (depth + 1) cs).outcome = .ok cs := by
  have hfirst : x.delimiters.first? cs = none := by
    rw [Delimiters.first?, Text.cutAt?_eq_none_of_notInfix h]
  rw [uncheckedAt_succ, Layout.ofText_of_first?_none hfirst]
  rfl

section Standard

variable {key value : List Char} (hx : x.delimiters = .standard)
  (h : Referable key) (hvalue : lookup key = .ok (some value))

include hx h hvalue

/-- The key of the body is the body, and it is replaced by what its value comes to. -/
theorem outcome_substitute_of_referable {inner : List Char → Run ε (List Char)}
    (hkey : (inner key).outcome = .ok key) :
    (x.substitute lookup inner key).outcome =
      (fun new => (key, some new)) <$> (inner value).outcome := by
  rw [substitute_eq, hx, h.split]
  show (inner key >>= _ : Run ε _).outcome = _
  rw [Run.outcome_bind, hkey]
  show (Run.ask lookup key >>= _ : Run ε _).outcome = _
  rw [Run.outcome_bind, Run.outcome_ask, hvalue]
  show ((some value).mapM inner >>= _ : Run ε _).outcome = _
  rw [Run.outcome_bind, Option.mapM_some, Run.outcome_map]
  cases (inner value).outcome <;> rfl

theorem outcome_uncheckedAt_written (depth : Nat) :
    (x.uncheckedAt lookup (depth + 2) (Delimiters.standard.written key)).outcome =
      (x.uncheckedAt lookup (depth + 1) value).outcome := by
  have hkey : (x.uncheckedAt lookup (depth + 1) key).outcome = .ok key :=
    outcome_uncheckedAt_of_notInfix (hx ▸ h.opening_notInfix) depth
  have hbody := outcome_substitute_of_referable hx h hvalue hkey
  rw [uncheckedAt_succ, hx, h.layout]
  cases hout : (x.uncheckedAt lookup (depth + 1) value).outcome with
  | error failure =>
    rw [hout] at hbody
    exact outcome_read_of_failed hbody
  | ok new =>
    rw [hout] at hbody
    rw [outcome_read_of_replaced hbody]
    show Except.ok (new ++ []) = Except.ok new
    rw [List.append_nil]

theorem converges_unchecked_written_iff {o : Except (Failure ε) (List Char)} :
    Run.Converges (fun depth =>
        x.uncheckedAt lookup depth (Delimiters.standard.written key)) o ↔
      Run.Converges (fun depth => x.uncheckedAt lookup depth value) o := by
  have hsame := outcome_uncheckedAt_written hx h hvalue
  rw [← Run.converges_succ_iff, ← Run.converges_succ_iff,
    ← Run.converges_succ_iff (f := fun depth => x.uncheckedAt lookup depth value)]
  exact ⟨fun hwritten => hwritten.of_outcome_eq hsame,
    fun hdirect => hdirect.of_outcome_eq fun depth => (hsame depth).symm⟩

/-- A placeholder for a key comes to what the text under the key comes to, or both are circular. -/
theorem expand_written {values : List (List Char)} (hwithin : lookup.Within values) :
    let written := (x.expand values lookup (Delimiters.standard.written key)).outcome
    let direct := (x.expand values lookup value).outcome
    written = direct ∨ IsCircular written ∧ IsCircular direct := by
  intro written direct
  -- If one of the two is not circular, its outcome carries over to the other without the check.
  by_cases hdirect : IsCircular direct
  · by_cases hwritten : IsCircular written
    · exact .inr ⟨hwritten, hdirect⟩
    · have hconverges := (converges_unchecked_iff hwithin).2 ⟨rfl, hwritten⟩
      rw [converges_unchecked_written_iff hx h hvalue] at hconverges
      exact .inl ((converges_unchecked_iff hwithin).1 hconverges).1.symm
  · have hconverges := (converges_unchecked_iff hwithin).2 ⟨rfl, hdirect⟩
    rw [← converges_unchecked_written_iff hx h hvalue] at hconverges
    exact .inl ((converges_unchecked_iff hwithin).1 hconverges).1

end Standard

end Expander

end LayeredConfig.Placeholder
