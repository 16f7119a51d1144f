import LayeredConfig.Proofs.Resolver.Dependence

/-!
# Caching — expanders that are kept are not seen

Two resolvers that differ in the expanders they keep alone give the same for every key
(`Caches.result_getValue`), as long as what they keep is not out of date.
-/

namespace LayeredConfig.Resolver

variable {r r' : Resolver}

theorem Caches.marks_eq (h : Caches r r') : r'.marks = r.marks := by
  rw [h.same]

theorem Caches.ignoreUnresolvable_eq (h : Caches r r') :
    r'.ignoreUnresolvable = r.ignoreUnresolvable := by
  rw [h.same]

theorem Caches.expansion_eq (h : Caches r r') : r'.expansion = r.expansion := by
  funext x sources text
  rw [expansion, expansion, ← lookup_eq_rawAnswer, ← lookup_eq_rawAnswer, h.registry_eq]

theorem Caches.result_expandValue (h : Caches r r') (hfresh : r.Fresh) (sources : List Source)
    (v : Value) : (expandValue sources v r').result = (expandValue sources v r).result := by
  by_cases htext : ∃ s, v.plain = .text s
  · obtain ⟨s, hs⟩ := htext
    rw [Resolver.result_expandValue hfresh sources hs,
      Resolver.result_expandValue (h.fresh hfresh) sources hs, h.marks_eq, h.ignoreUnresolvable_eq,
      h.expansion_eq]
  · rw [expandValue_of_plain fun s hs => htext ⟨s, hs⟩]
    rfl

theorem Caches.result_find (h : Caches r r') (hfresh : r.Fresh) (sources : List Source)
    (key : String) (target : Option Target) :
    (find sources key target r').result = (find sources key target r).result := by
  cases hhit : Source.firstHit? key sources with
  | error e => rw [find_of_error hhit, find_of_error hhit]
  | ok hit =>
    match hit with
    | none => rw [find_of_none hhit, find_of_none hhit]
    | some (layer, v) =>
      rw [result_find_of_hit hhit, result_find_of_hit hhit, h.result_expandValue hfresh,
        h.registry_eq]

theorem Caches.result_getValue (h : Caches r r') (hfresh : r.Fresh) (sources : List Source)
    (key : String) (target : Option Target) (default : Value) :
    (getValue sources key target default r').result =
      (getValue sources key target default r).result := by
  rw [getValue, Action.result_bind, Action.result_bind, h.result_find hfresh]
  rfl

end LayeredConfig.Resolver
