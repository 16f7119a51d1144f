import LayeredConfig.Layering
import LayeredConfig.Proofs.Distinct

/-!
# Order — files that are named more than once

Each file that is named has one place, and of two files the one that is named last comes first
(`pairwise_fileOrder`).
-/

namespace LayeredConfig.Layering

/-- A file is named behind all places where the other one is named. -/
def LaterIn (files : List String) (path other : String) : Prop :=
  ∃ front back, files = front ++ path :: back ∧ other ∉ path :: back

theorem LaterIn.cons {files : List String} {path other : String} (h : LaterIn files path other)
    (first : String) : LaterIn (first :: files) path other := by
  obtain ⟨front, back, rfl, hother⟩ := h
  exact ⟨first :: front, back, rfl, hother⟩

theorem laterIn_of_notMem {files : List String} {path other : String} (hpath : path ∈ files)
    (hother : other ∉ files) : LaterIn files path other := by
  obtain ⟨front, back, rfl⟩ := List.append_of_mem hpath
  exact ⟨front, back, rfl, fun hmem => hother (List.mem_append_right front hmem)⟩

/-- Of two files that are named, one is named last. -/
theorem LaterIn.asymm {files : List String} {path other : String} (h : LaterIn files path other) :
    ¬LaterIn files other path := by
  rintro ⟨front', back', heq, hpath⟩
  obtain ⟨front, back, rfl, hother⟩ := h
  -- The end of the list from one of the two files on is a part of the end from the other on.
  rcases List.append_eq_append_iff.1 heq with ⟨middle, -, hback⟩ | ⟨middle, -, hback⟩
  · refine hother ?_
    rw [hback]
    exact List.mem_append_right middle List.mem_cons_self
  · refine hpath ?_
    rw [hback]
    exact List.mem_append_right middle List.mem_cons_self

/-! ## The order of files -/

theorem fileOrder_cons (path : String) (files : List String) :
    fileOrder (path :: files) =
      if path ∈ files then fileOrder files else fileOrder files ++ [path] := by
  -- In reverse the file comes last, and of equal entries the first one stays.
  rw [fileOrder, List.reverse_cons, Distinct.eraseDups_concat, ← fileOrder]
  simp only [List.mem_reverse]

theorem mem_fileOrder_iff {path : String} {files : List String} :
    path ∈ fileOrder files ↔ path ∈ files := by
  rw [fileOrder, List.mem_eraseDups, List.mem_reverse]

theorem nodup_fileOrder (files : List String) : (fileOrder files).Nodup :=
  Distinct.nodup_eraseDups _

/-- A file that is named in front of all others takes the last place, unless it is named again. -/
theorem pairwise_fileOrder (files : List String) :
    (fileOrder files).Pairwise (LaterIn files) := by
  induction files with
  | nil => exact List.Pairwise.nil
  | cons path files ih =>
    have hrest := ih.imp fun h => h.cons path
    rw [fileOrder_cons]
    by_cases hpath : path ∈ files
    · rwa [if_pos hpath]
    · rw [if_neg hpath, List.pairwise_append]
      refine ⟨hrest, List.pairwise_singleton _ path, fun other hother last hlast => ?_⟩
      obtain rfl := List.mem_singleton.1 hlast
      exact (laterIn_of_notMem (mem_fileOrder_iff.1 hother) hpath).cons last

end LayeredConfig.Layering
