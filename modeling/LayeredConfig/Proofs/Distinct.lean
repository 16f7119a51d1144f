import Mathlib.Data.List.Induction
import Mathlib.Data.List.Nodup

/-!
# Distinct elements — lists in which each element stands at its first place

Elements that join a list one after the other, unless they are there, make a list without repetitions
(`foldl_join_eq_eraseDups`). What is looked for in it is found where the whole list has it first
(`find?_eraseDups`).
-/

namespace LayeredConfig.Distinct

variable {α : Type} [BEq α] [LawfulBEq α]

theorem eraseDups_concat (l : List α) (a : α) :
    (l ++ [a]).eraseDups = if a ∈ l then l.eraseDups else l.eraseDups ++ [a] := by
  rw [List.eraseDups_append]
  by_cases hmem : a ∈ l
  · rw [if_pos hmem]
    simp [List.removeAll, hmem]
  · rw [if_neg hmem]
    simp [List.removeAll, hmem, List.eraseDups_cons]

theorem nodup_eraseDups (l : List α) : l.eraseDups.Nodup := by
  induction l using List.reverseRecOn with
  | nil => exact List.nodup_nil
  | append_singleton l a ih =>
    rw [eraseDups_concat]
    split
    next => exact ih
    next hnew =>
      refine List.nodup_append.2 ⟨ih, List.nodup_singleton a, fun b hb c hc => ?_⟩
      rintro rfl
      rw [List.mem_singleton.1 hc] at hb
      exact hnew (List.mem_eraseDups.1 hb)

theorem foldl_join_eq_eraseDups (l : List α) :
    l.foldl (fun seen a => if a ∈ seen then seen else seen ++ [a]) [] = l.eraseDups := by
  -- On the list from its end, since the last element is the last to join.
  induction l using List.reverseRecOn with
  | nil => rfl
  | append_singleton l a ih =>
    rw [List.foldl_append, ih, eraseDups_concat, List.foldl_cons, List.foldl_nil]
    simp only [List.mem_eraseDups]

theorem find?_eraseDups (p : α → Bool) (l : List α) : l.eraseDups.find? p = l.find? p := by
  induction l using List.reverseRecOn with
  | nil => rfl
  | append_singleton l a ih =>
    rw [eraseDups_concat, List.find?_append]
    split
    next hmem =>
      rw [ih]
      cases hfind : l.find? p with
      | some b => rfl
      | none =>
        -- The element was there before and did not pass.
        have ha := List.find?_eq_none.1 hfind a hmem
        rw [List.find?_cons_of_neg ha]
        rfl
    next => rw [List.find?_append, ih]

end LayeredConfig.Distinct
