import LayeredConfig.Resolver

/-!
# Lookup — where the answers of a lookup come from

Whatever a source answers with is one of its entries, so the texts that can take the place of a
placeholder are among the texts of the entries of all sources (`lookup_mem_texts`).
-/

namespace LayeredConfig

namespace Store

theorem valueOf_mem {entries : List (String × Value)} {name : String}
    (h : (valueOf entries name).isNull = false) :
    ∃ entry ∈ entries, entry.2 = valueOf entries name := by
  unfold valueOf at h ⊢
  cases hfind : entries.find? (·.1 == name) with
  | none =>
    rw [hfind] at h
    contradiction
  | some entry => exact ⟨entry, List.mem_of_find?_eq_some hfind, rfl⟩

/-- A store answers with one of its entries or with nothing. -/
theorem get_mem_entries {s : Store} {key : String} {v : Value} (h : s.get key = .ok v)
    (hv : v.isNull = false) : ∃ entry ∈ s.entries, entry.2 = v := by
  match s with
  | .mapping entries | .probed entries =>
    simp only [get, Except.ok.injEq] at h
    subst h
    exact valueOf_mem hv
  | .variables entries =>
    simp only [get, Except.ok.injEq] at h
    cases hname : Variables.resolve? (entries.map (·.1)) key with
    | none =>
      rw [hname, Option.map_none, Option.getD_none] at h
      subst h
      simp [Value.isNull] at hv
    | some name =>
      rw [hname, Option.map_some, Option.getD_some] at h
      subst h
      exact valueOf_mem hv
  | .reserved =>
    simp only [get, Except.ok.injEq] at h
    subst h
    simp [Value.isNull] at hv
  | .comparison => simp only [get, reduceCtorEq] at h

end Store

namespace Source

theorem firstHit?_mem {key layer : String} {v : Value} {sources : List Source}
    (h : firstHit? key sources = .ok (some (layer, v))) :
    ∃ s ∈ sources, ∃ entry ∈ s.content.entries, entry.2 = v := by
  induction sources with
  | nil => simp [firstHit?] at h
  | cons s rest ih =>
    rw [firstHit?] at h
    cases hget : s.content.get key with
    | error e =>
      rw [hget] at h
      contradiction
    | ok w =>
      rw [hget] at h
      replace h : (if w.isNull then firstHit? key rest else pure (some (s.name, w))) =
        .ok (some (layer, v)) := h
      split at h
      next hnull =>
        rcases ih h with ⟨other, hother, hentry⟩
        exact ⟨other, List.mem_cons_of_mem s hother, hentry⟩
      next hnull =>
        obtain ⟨-, rfl⟩ : s.name = layer ∧ w = v := by simpa [pure, Except.pure] using h
        exact ⟨s, List.mem_cons_self, Store.get_mem_entries hget (by simpa using hnull)⟩

end Source

namespace Resolver

open Placeholder

theorem text_of_replacement? {v : Value} {cs : List Char}
    (h : replacement? v = .ok (some cs)) : ∃ s, v.plain = .text s ∧ s.toList = cs := by
  unfold replacement? at h
  split at h
  next => simp at h
  next s hs => exact ⟨s, hs, by simpa using h⟩
  next => simp at h
  next => simp at h

/-- Every answer of a lookup is the text of some entry of some source. -/
theorem lookup_mem_texts {registry : Registry} {sources : List Source} {key value : List Char}
    (h : lookup registry sources key = .ok (some value)) : value ∈ texts registry sources := by
  unfold lookup at h
  split at h
  next => contradiction
  next w hraw =>
    rcases text_of_replacement? h with ⟨s, hs, rfl⟩
    unfold rawValue at hraw
    split at hraw
    next => contradiction
    next =>
      obtain rfl : Value.null = w := by simpa using hraw
      contradiction
    next layer v hhit =>
      rcases Source.firstHit?_mem hhit with ⟨source, hsource, entry, hentry, rfl⟩
      refine List.mem_flatMap.2 ⟨source, hsource, List.mem_filterMap.2 ⟨entry, hentry, ?_⟩⟩
      show textOf? registry entry.2 = some s.toList
      unfold textOf?
      split at hraw
      next t ht =>
        obtain rfl : Value.text t = w := by simpa [ht] using hraw
        exact congrArg (fun t => some t.toList) (Value.text.inj hs)
      next hne =>
        replace hraw : registry.convert entry.2 (.kind .str) = .ok w := hraw
        rw [hraw, Except.map, hs]

end Resolver

end LayeredConfig
