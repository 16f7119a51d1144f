import LayeredConfig.Proofs.Chain.Joining
import LayeredConfig.Resolver

/-!
# Hits — which source answers a key

A source that has nothing for a key is passed over, so for this key it may stand anywhere or be
missing. Behind the source that answers nothing is read.
-/

namespace LayeredConfig

namespace Source

/-- The source can be read for a key and has nothing for it. -/
def isSilent (s : Source) (key : String) : Bool :=
  match s.content.get key with
  | .ok v => v.isNull
  | .error _ => false

section Hits

variable {s : Source} {key : String} {sources : List Source}

theorem firstHit?_of_silent (h : s.isSilent key = true) :
    firstHit? key (s :: sources) = firstHit? key sources := by
  unfold isSilent at h
  split at h
  next v hget =>
    rw [firstHit?, hget]
    exact if_pos h
  next => contradiction

theorem firstHit?_of_speaks (h : s.isSilent key = false) :
    firstHit? key (s :: sources) = (fun v => some (s.name, v)) <$> s.content.get key := by
  unfold isSilent at h
  rw [firstHit?]
  split at h
  next v hget =>
    rw [hget]
    exact if_neg (Bool.eq_false_iff.1 h)
  next e hget =>
    rw [hget]
    rfl

theorem name_eq_of_speaks (h : s.isSilent key = false) {hit : String × Value}
    (hhit : firstHit? key (s :: sources) = .ok (some hit)) : s.name = hit.1 := by
  rw [firstHit?_of_speaks h] at hhit
  cases hget : s.content.get key with
  | error e =>
    rw [hget] at hhit
    contradiction
  | ok v =>
    rw [hget] at hhit
    cases hhit
    rfl

/-- What a source answers with is something. -/
theorem not_isNull_of_hit {layer : String} {v : Value}
    (h : firstHit? key sources = .ok (some (layer, v))) : v.isNull = false := by
  induction sources with
  | nil => cases h
  | cons s sources ih =>
    cases hs : s.isSilent key with
    | true =>
      rw [firstHit?_of_silent hs] at h
      exact ih h
    | false =>
      rw [firstHit?_of_speaks hs] at h
      rw [isSilent] at hs
      cases hget : s.content.get key with
      | error e =>
        rw [hget] at h
        contradiction
      | ok w =>
        rw [hget] at h hs
        cases h
        exact hs

/-- The first source that has something answers, whatever those behind it have. -/
theorem firstHit?_of_first {above below : List Source} {v : Value}
    (habove : ∀ t ∈ above, t.isSilent key = true) (hget : s.content.get key = .ok v)
    (hv : v.isNull = false) :
    firstHit? key (above ++ s :: below) = .ok (some (s.name, v)) := by
  induction above with
  | nil =>
    have hs : s.isSilent key = false := by
      rw [isSilent, hget]
      exact hv
    rw [List.nil_append, firstHit?_of_speaks hs, hget]
    rfl
  | cons t above ih =>
    obtain ⟨ht, habove⟩ := List.forall_mem_cons.1 habove
    rw [List.cons_append, firstHit?_of_silent ht]
    exact ih habove

/-- Only the sources that have something count. -/
theorem firstHit?_filter (key : String) (sources : List Source) :
    firstHit? key (sources.filter fun s => !s.isSilent key) = firstHit? key sources := by
  induction sources with
  | nil => rfl
  | cons s sources ih =>
    cases hs : s.isSilent key with
    | true => rw [List.filter_cons_of_neg (by simp [hs]), ih, firstHit?_of_silent hs]
    | false =>
      rw [List.filter_cons_of_pos (by simp [hs]), firstHit?_of_speaks hs, firstHit?_of_speaks hs]

theorem firstHit?_append_of_ne_none (h : firstHit? key sources ≠ .ok none) (more : List Source) :
    firstHit? key (sources ++ more) = firstHit? key sources := by
  induction sources with
  | nil => exact absurd rfl h
  | cons s sources ih =>
    rw [List.cons_append]
    cases hs : s.isSilent key with
    | true =>
      rw [firstHit?_of_silent hs] at h ⊢
      rw [firstHit?_of_silent hs]
      exact ih h
    | false => rw [firstHit?_of_speaks hs, firstHit?_of_speaks hs]

theorem firstHit?_append_of_hit {hit : String × Value}
    (h : firstHit? key sources = .ok (some hit)) (more : List Source) :
    firstHit? key (sources ++ more) = .ok (some hit) := by
  rw [firstHit?_append_of_ne_none (h ▸ nofun), h]

theorem firstHit?_append_of_none (h : firstHit? key sources = .ok none) (more : List Source) :
    firstHit? key (sources ++ more) = firstHit? key more := by
  induction sources with
  | nil => rfl
  | cons s sources ih =>
    rw [List.cons_append]
    cases hs : s.isSilent key with
    | true =>
      rw [firstHit?_of_silent hs] at h ⊢
      exact ih h
    | false =>
      rw [firstHit?_of_speaks hs] at h
      cases hget : s.content.get key with
      | error e =>
        rw [hget] at h
        contradiction
      | ok v =>
        rw [hget] at h
        cases h

/-- A source of another name than the one that answers may be taken out. -/
theorem firstHit?_without_of_hit {hit : String × Value}
    (h : firstHit? key sources = .ok (some hit)) {name : String} (hname : hit.1 ≠ name) :
    firstHit? key (Chain.without sources name) = .ok (some hit) := by
  induction sources with
  | nil => cases h
  | cons s sources ih =>
    cases hs : s.isSilent key with
    | true =>
      rw [firstHit?_of_silent hs] at h
      by_cases heq : s.name = name
      · rw [Chain.without, List.filter_cons_of_neg (by simp [heq])]
        exact ih h
      · rw [Chain.without, List.filter_cons_of_pos (by simp [heq]), firstHit?_of_silent hs]
        exact ih h
    | false =>
      have heq : s.name ≠ name := name_eq_of_speaks hs h ▸ hname
      rw [firstHit?_of_speaks hs] at h
      rw [Chain.without, List.filter_cons_of_pos (by simp [heq]), firstHit?_of_speaks hs, h]

end Hits

/-! ## Sources in another order -/

theorem eq_of_perm_of_order {α : Type} {l l' : List α} (hnodup : l.Nodup) (hperm : l'.Perm l)
    (horder : ∀ a b, [a, b].Sublist l → ¬[b, a].Sublist l') : l' = l := by
  induction l generalizing l' with
  | nil => exact hperm.eq_nil
  | cons a l ih =>
    obtain ⟨hnew, hnodup⟩ := List.nodup_cons.1 hnodup
    obtain ⟨front, back, rfl⟩ := List.append_of_mem (hperm.mem_iff.2 List.mem_cons_self)
    cases front with
    | nil =>
      rw [List.nil_append] at hperm horder ⊢
      rw [ih hnodup hperm.cons_inv fun b c hbc hcb => horder b c (hbc.cons a) (hcb.cons a)]
    | cons b front =>
      -- What stands in front of `a` in the second list comes behind it in the first.
      have hrest : (b :: front ++ back).Perm l :=
        (List.perm_middle.symm.trans hperm).cons_inv
      have hb : b ∈ l := hrest.mem_iff.1 List.mem_cons_self
      have hbefore : [a, b].Sublist (a :: l) := (List.singleton_sublist.2 hb).cons_cons a
      refine absurd ?_ (horder a b hbefore)
      exact (List.singleton_sublist.2 (List.mem_append_right front List.mem_cons_self)).cons_cons b

/-- If two sources stand in another order only where one of them is silent, the same one
answers. -/
theorem firstHit?_eq_of_order {key : String} {sources sources' : List Source}
    (hnodup : sources.Nodup) (hperm : sources'.Perm sources)
    (horder : ∀ s t, [s, t].Sublist sources → [t, s].Sublist sources' →
      s.isSilent key = true ∨ t.isSilent key = true) :
    firstHit? key sources' = firstHit? key sources := by
  -- Those that have something stand in one order in both lists.
  have hsame : (sources'.filter fun s => !s.isSilent key) =
      sources.filter fun s => !s.isSilent key := by
    refine eq_of_perm_of_order (hnodup.filter _) (hperm.filter _) fun s t hst hts => ?_
    have hs := (List.mem_filter.1 (hst.subset List.mem_cons_self)).2
    have ht := (List.mem_filter.1 (hts.subset List.mem_cons_self)).2
    rcases horder s t (hst.trans List.filter_sublist) (hts.trans List.filter_sublist) with h | h
    · simp [h] at hs
    · simp [h] at ht
  rw [← firstHit?_filter key sources', hsame, firstHit?_filter]

end Source

end LayeredConfig
