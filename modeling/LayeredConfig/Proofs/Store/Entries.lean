import LayeredConfig.Proofs.Distinct
import LayeredConfig.Store

/-!
# Entries — what is stored when names come again

Entries that are made of pairs have each name at the place where it came first (`names_ofPairs`), with the
value that came last (`lookup_ofPairs`). A value that is written over counts for nothing
(`putEntry_putEntry_self`), and a name that is there can be written earlier (`putEntry_comm`).
-/

namespace LayeredConfig.Store

variable {entries : List (String × Value)} {name : String} {v : Value}

theorem valueOf_eq_lookup (entries : List (String × Value)) (name : String) :
    valueOf entries name = (entries.lookup name).getD .null := by
  unfold valueOf
  induction entries with
  | nil => rfl
  | cons entry rest ih =>
    obtain ⟨n, v⟩ := entry
    by_cases hn : n = name
    · simp [hn]
    · rw [List.find?_cons_of_neg (by simpa using hn), ih, List.lookup_cons,
        beq_eq_false_iff_ne.2 (Ne.symm hn)]

theorem any_name_iff : entries.any (·.1 == name) = true ↔ name ∈ entries.map (·.1) := by
  simp

/-- Entries with another value for a name. -/
def setValue (name : String) (v : Value) (entries : List (String × Value)) : List (String × Value) :=
  entries.map fun (n, old) => if n == name then (n, v) else (n, old)

theorem putEntry_of_mem (h : name ∈ entries.map (·.1)) :
    putEntry entries name v = setValue name v entries :=
  if_pos (any_name_iff.2 h)

theorem putEntry_of_notMem (h : name ∉ entries.map (·.1)) :
    putEntry entries name v = entries ++ [(name, v)] :=
  if_neg (mt any_name_iff.1 h)

theorem names_setValue : (setValue name v entries).map (·.1) = entries.map (·.1) := by
  rw [setValue, List.map_map]
  refine List.map_congr_left fun entry _ => ?_
  show (if entry.1 == name then (entry.1, v) else (entry.1, entry.2)).1 = entry.1
  split
  next => rfl
  next => rfl

theorem setValue_cons_self (name : String) (old : Value) (rest : List (String × Value)) :
    setValue name v ((name, old) :: rest) = (name, v) :: setValue name v rest := by
  simp [setValue]

theorem setValue_cons_of_ne {n : String} (hn : n ≠ name) (old : Value)
    (rest : List (String × Value)) :
    setValue name v ((n, old) :: rest) = (n, old) :: setValue name v rest := by
  simp [setValue, hn]

theorem lookup_setValue_of_ne {other : String} (hne : other ≠ name) :
    (setValue name v entries).lookup other = entries.lookup other := by
  induction entries with
  | nil => rfl
  | cons entry rest ih =>
    obtain ⟨n, old⟩ := entry
    by_cases hn : n = name
    · subst hn
      rw [setValue_cons_self, List.lookup_cons, List.lookup_cons, beq_eq_false_iff_ne.2 hne, ih]
    · rw [setValue_cons_of_ne hn, List.lookup_cons, List.lookup_cons, ih]

theorem lookup_setValue_self (h : name ∈ entries.map (·.1)) :
    (setValue name v entries).lookup name = some v := by
  induction entries with
  | nil => exact absurd h List.not_mem_nil
  | cons entry rest ih =>
    obtain ⟨n, old⟩ := entry
    by_cases hn : n = name
    · subst hn
      rw [setValue_cons_self, List.lookup_cons_self]
    · have hrest : name ∈ rest.map (·.1) := (List.mem_cons.1 h).resolve_left (Ne.symm hn)
      rw [setValue_cons_of_ne hn, List.lookup_cons, beq_eq_false_iff_ne.2 (Ne.symm hn), ih hrest]

theorem lookup_eq_none_iff : entries.lookup name = none ↔ name ∉ entries.map (·.1) := by
  rw [List.lookup_eq_none_iff, List.mem_map]
  constructor
  · rintro h ⟨entry, hentry, rfl⟩
    simpa using h entry hentry
  · intro h entry hentry
    rw [bne_iff_ne]
    rintro rfl
    exact h ⟨entry, hentry, rfl⟩

theorem names_putEntry :
    (putEntry entries name v).map (·.1) =
      if name ∈ entries.map (·.1) then entries.map (·.1) else entries.map (·.1) ++ [name] := by
  by_cases h : name ∈ entries.map (·.1)
  · rw [if_pos h, putEntry_of_mem h, names_setValue]
  · rw [if_neg h, putEntry_of_notMem h, List.map_append, List.map_singleton]

theorem lookup_putEntry (other : String) :
    (putEntry entries name v).lookup other =
      if other = name then some v else entries.lookup other := by
  by_cases h : name ∈ entries.map (·.1)
  · rw [putEntry_of_mem h]
    split
    next hother => rw [hother, lookup_setValue_self h]
    next hother => rw [lookup_setValue_of_ne hother]
  · rw [putEntry_of_notMem h, List.lookup_append]
    split
    next hother =>
      rw [hother, lookup_eq_none_iff.2 h]
      simp
    next hother =>
      have hlast : ([(name, v)] : List (String × Value)).lookup other = none := by simp [hother]
      rw [hlast, Option.or_none]

theorem setValue_of_notMem (h : name ∉ entries.map (·.1)) : setValue name v entries = entries := by
  induction entries with
  | nil => rfl
  | cons entry rest ih =>
    obtain ⟨n, old⟩ := entry
    obtain ⟨hn, hrest⟩ : name ≠ n ∧ name ∉ rest.map (·.1) := by simpa using h
    rw [setValue_cons_of_ne hn.symm, ih hrest]

theorem setValue_append (front back : List (String × Value)) :
    setValue name v (front ++ back) = setValue name v front ++ setValue name v back :=
  List.map_append

theorem setValue_setValue_self (old : Value) :
    setValue name v (setValue name old entries) = setValue name v entries := by
  induction entries with
  | nil => rfl
  | cons entry rest ih =>
    obtain ⟨n, w⟩ := entry
    by_cases hn : n = name
    · subst hn
      rw [setValue_cons_self, setValue_cons_self, setValue_cons_self, ih]
    · rw [setValue_cons_of_ne hn, setValue_cons_of_ne hn, setValue_cons_of_ne hn, ih]

theorem setValue_comm {other : String} (hne : other ≠ name) (w : Value) :
    setValue name v (setValue other w entries) = setValue other w (setValue name v entries) := by
  induction entries with
  | nil => rfl
  | cons entry rest ih =>
    obtain ⟨n, old⟩ := entry
    by_cases hn : n = name
    · subst hn
      rw [setValue_cons_of_ne hne.symm, setValue_cons_self, setValue_cons_self,
        setValue_cons_of_ne hne.symm, ih]
    · rw [setValue_cons_of_ne hn]
      by_cases hother : n = other
      · subst hother
        rw [setValue_cons_self, setValue_cons_self, setValue_cons_of_ne hn, ih]
      · rw [setValue_cons_of_ne hother, setValue_cons_of_ne hother, setValue_cons_of_ne hn, ih]

theorem putEntry_cons_self (name : String) (old : Value) (rest : List (String × Value)) :
    putEntry ((name, old) :: rest) name v = (name, v) :: setValue name v rest := by
  rw [putEntry_of_mem (by simp), setValue_cons_self]

theorem putEntry_cons_of_ne {n : String} (hn : n ≠ name) (old : Value)
    (rest : List (String × Value)) :
    putEntry ((n, old) :: rest) name v = (n, old) :: putEntry rest name v := by
  by_cases h : name ∈ rest.map (·.1)
  · rw [putEntry_of_mem h, putEntry_of_mem (List.mem_cons_of_mem n h), setValue_cons_of_ne hn]
  · have hcons : name ∉ ((n, old) :: rest).map (·.1) := by
      simpa [hn.symm] using h
    rw [putEntry_of_notMem h, putEntry_of_notMem hcons]
    rfl

theorem mem_names_putEntry {other : String} (h : name ∈ entries.map (·.1)) (w : Value) :
    name ∈ (putEntry entries other w).map (·.1) := by
  rw [names_putEntry]
  split
  next => exact h
  next => exact List.mem_append_left _ h

theorem mem_names_putEntry_self : name ∈ (putEntry entries name v).map (·.1) := by
  rw [names_putEntry]
  split
  next h => exact h
  next => exact List.mem_append_right _ (List.mem_singleton_self name)

theorem putEntry_putEntry_self (old : Value) :
    putEntry (putEntry entries name old) name v = putEntry entries name v := by
  rw [putEntry_of_mem mem_names_putEntry_self]
  by_cases h : name ∈ entries.map (·.1)
  · rw [putEntry_of_mem h, putEntry_of_mem h, setValue_setValue_self]
  · rw [putEntry_of_notMem h, putEntry_of_notMem h, setValue_append, setValue_of_notMem h,
      setValue_cons_self]
    rfl

theorem putEntry_comm {other : String} (h : name ∈ entries.map (·.1)) (hne : other ≠ name)
    (w : Value) :
    putEntry (putEntry entries other w) name v = putEntry (putEntry entries name v) other w := by
  rw [putEntry_of_mem (mem_names_putEntry h w), putEntry_of_mem h]
  by_cases hother : other ∈ entries.map (·.1)
  · have hset : other ∈ (setValue name v entries).map (·.1) := by rwa [names_setValue]
    rw [putEntry_of_mem hother, putEntry_of_mem hset, setValue_comm hne]
  · have hset : other ∉ (setValue name v entries).map (·.1) := by rwa [names_setValue]
    rw [putEntry_of_notMem hother, putEntry_of_notMem hset, setValue_append,
      setValue_cons_of_ne hne]
    rfl

theorem mem_of_mem_putEntry {entry : String × Value} (h : entry ∈ putEntry entries name v) :
    entry ∈ entries ∨ entry = (name, v) := by
  by_cases hname : name ∈ entries.map (·.1)
  · rw [putEntry_of_mem hname] at h
    obtain ⟨⟨n, old⟩, hold, hentry⟩ := List.mem_map.1 h
    dsimp only at hentry
    split at hentry
    next hn => exact .inr (by rw [← hentry, eq_of_beq hn])
    next => exact .inl (hentry ▸ hold)
  · rw [putEntry_of_notMem hname] at h
    rcases List.mem_append.1 h with hold | hnew
    · exact .inl hold
    · exact .inr (List.mem_singleton.1 hnew)

theorem ofPairs_append (pairs : List (String × Value)) (pair : String × Value) :
    ofPairs (pairs ++ [pair]) = putEntry (ofPairs pairs) pair.1 pair.2 :=
  List.foldl_append

theorem names_ofPairs (pairs : List (String × Value)) :
    (ofPairs pairs).map (·.1) = (pairs.map (·.1)).eraseDups := by
  induction pairs using List.reverseRecOn with
  | nil => rfl
  | append_singleton pairs pair ih =>
    rw [ofPairs_append, names_putEntry, ih, List.map_append, List.map_singleton,
      Distinct.eraseDups_concat]
    simp only [List.mem_eraseDups]

/-- The value of a name is that of its last pair. -/
theorem lookup_ofPairs (pairs : List (String × Value)) (name : String) :
    (ofPairs pairs).lookup name = pairs.reverse.lookup name := by
  induction pairs using List.reverseRecOn with
  | nil => rfl
  | append_singleton pairs pair ih =>
    rw [ofPairs_append, lookup_putEntry, ih, List.reverse_append, List.reverse_singleton,
      List.singleton_append, List.lookup_cons]
    by_cases hname : name = pair.1
    · simp [hname]
    · rw [if_neg hname, beq_eq_false_iff_ne.2 hname]

theorem nodup_names_ofPairs (pairs : List (String × Value)) : ((ofPairs pairs).map (·.1)).Nodup := by
  rw [names_ofPairs]
  exact Distinct.nodup_eraseDups _

theorem mem_of_mem_ofPairs {pairs : List (String × Value)} {entry : String × Value}
    (h : entry ∈ ofPairs pairs) : entry ∈ pairs := by
  induction pairs using List.reverseRecOn with
  | nil => exact h
  | append_singleton pairs pair ih =>
    rw [ofPairs_append] at h
    rcases mem_of_mem_putEntry h with hold | hnew
    · exact List.mem_append_left _ (ih hold)
    · exact List.mem_append_right _ (List.mem_singleton.2 hnew)

/-- Pairs whose names are distinct are stored as they are. -/
theorem ofPairs_of_nodup {pairs : List (String × Value)} (h : (pairs.map (·.1)).Nodup) :
    ofPairs pairs = pairs := by
  induction pairs using List.reverseRecOn with
  | nil => rfl
  | append_singleton pairs pair ih =>
    rw [List.map_append, List.map_singleton] at h
    obtain ⟨hpairs, -, hlast⟩ := List.nodup_append.1 h
    have hnew : pair.1 ∉ pairs.map (·.1) :=
      fun hmem => hlast pair.1 hmem pair.1 (List.mem_singleton_self _) rfl
    rw [ofPairs_append, ih hpairs, putEntry_of_notMem hnew]

end LayeredConfig.Store
