import LayeredConfig.Proofs.Document.Leaves
import LayeredConfig.Proofs.Document.Names
import LayeredConfig.Proofs.Text.Split
import Mathlib.Data.List.Nodup

/-!
# Nesting — flat documents and the tables they come from

A table of ordinary keys is rebuilt from its flat document by cutting each name at its dots
(`rebuild_named`). A flat document is a table itself, and flattening leaves it as it is
(`flatten_asTable`).
-/

namespace LayeredConfig.Document

/-! ## 1. Rebuilding a table -/

/-- The table under a key, the empty one if there is none. -/
def tableUnder (table : List (Value × Value)) (key : String) : List (Value × Value) :=
  match table.find? fun entry => Value.same (.text key) entry.1 with
  | some (_, .dict inner) => inner
  | _ => []

/-- A table with one more value at the end of a path. Tables that are missing on the way are made. -/
def insertAt (v : Value) : List String → List (Value × Value) → List (Value × Value)
  | [], table => table
  | [key], table => Value.putEntry table (.text key) v
  | key :: next :: path, table =>
    Value.putEntry table (.text key) (.dict (insertAt v (next :: path) (tableUnder table key)))

/-- The parts of a name between its dots. -/
def segments (name : String) : List String :=
  (Text.splitOn ['.'] name.toList).map String.ofList

/-- The nested table of some flat entries, which come in one after the other. -/
def rebuild (flat : List (String × Value)) : List (Value × Value) :=
  flat.foldl (fun table entry => insertAt entry.2 (segments entry.1) table) []

/-! ## 2. Ordinary tables -/

/-- A value that a flat document can hold: no table, and not nothing. -/
def IsLeaf : Value → Prop
  | .dict _ | .null => False
  | _ => True

/-- A key that is seen in a name: it has a character, but no dot. -/
def IsSegment (key : String) : Prop :=
  key ≠ "" ∧ '.' ∉ key.toList

instance (key : String) : Decidable (IsSegment key) :=
  inferInstanceAs (Decidable (_ ∧ _))

/-- Tables with such keys, each of them once, whose values are leaves and tables that are not empty. -/
inductive Ordinary : List (Value × Value) → Prop where
  | nil : Ordinary []
  | leaf {key v rest} (hkey : IsSegment key) (hnew : .text key ∉ rest.map Prod.fst) (hv : IsLeaf v)
      (hrest : Ordinary rest) : Ordinary ((.text key, v) :: rest)
  | table {key inner rest} (hkey : IsSegment key) (hnew : .text key ∉ rest.map Prod.fst)
      (hne : inner ≠ []) (hinner : Ordinary inner) (hrest : Ordinary rest) :
      Ordinary ((.text key, .dict inner) :: rest)

theorem leavesIn_of_isLeaf {v : Value} (h : IsLeaf v) : leavesIn v = [⟨[], v⟩] := by
  cases v with
  | dict entries => exact h.elim
  | null => exact h.elim
  | _ => rfl

theorem hasNamesInside_of_isLeaf {v : Value} (h : IsLeaf v) : hasNamesInside v = true := by
  cases v with
  | dict entries => exact h.elim
  | _ => rfl

mutual

theorem isLeaf_of_mem_leaves (entries : List (Value × Value)) :
    ∀ leaf ∈ leaves entries, IsLeaf leaf.value := by
  cases entries with
  | nil => exact nofun
  | cons entry rest =>
    obtain ⟨key, v⟩ := entry
    rw [leaves, List.forall_mem_append, List.forall_mem_map]
    exact ⟨isLeaf_of_mem_leavesIn v, isLeaf_of_mem_leaves rest⟩

theorem isLeaf_of_mem_leavesIn (v : Value) : ∀ leaf ∈ leavesIn v, IsLeaf leaf.value := by
  cases v with
  | dict entries => exact isLeaf_of_mem_leaves entries
  | null => exact nofun
  | _ => exact List.forall_mem_singleton.2 trivial

end

theorem leaves_cons_leaf {key v : Value} (hv : IsLeaf v) (rest : List (Value × Value)) :
    leaves ((key, v) :: rest) = ⟨[key], v⟩ :: leaves rest := by
  rw [leaves, leavesIn_of_isLeaf hv]
  rfl

theorem leaves_cons_dict (key : Value) (inner rest : List (Value × Value)) :
    leaves ((key, .dict inner) :: rest) = (leaves inner).map (Leaf.under key) ++ leaves rest := rfl

theorem head?_path_of_mem_leaves {entries : List (Value × Value)} {leaf : Leaf}
    (h : leaf ∈ leaves entries) : ∃ entry ∈ entries, leaf.path.head? = some (keyText entry.1) := by
  induction entries with
  | nil => exact absurd h List.not_mem_nil
  | cons entry rest ih =>
    obtain ⟨key, v⟩ := entry
    rw [leaves] at h
    rcases List.mem_append.1 h with h | h
    · obtain ⟨inner, -, rfl⟩ := List.mem_map.1 h
      exact ⟨(key, v), List.mem_cons_self, rfl⟩
    · obtain ⟨entry, hentry, hhead⟩ := ih h
      exact ⟨entry, List.mem_cons_of_mem _ hentry, hhead⟩

theorem path_ne_nil_of_mem_leaves {entries : List (Value × Value)} {leaf : Leaf}
    (h : leaf ∈ leaves entries) : leaf.path ≠ [] := by
  obtain ⟨entry, -, hhead⟩ := head?_path_of_mem_leaves h
  intro hnil
  rw [hnil] at hhead
  exact nomatch hhead

namespace Ordinary

variable {entries : List (Value × Value)}

theorem hasNames (h : Ordinary entries) : hasNames entries = true := by
  induction h with
  | nil => rfl
  | leaf _ _ hv _ ih =>
    rw [Document.hasNames, hasNamesInside_of_isLeaf hv, ih]
    rfl
  | table _ _ _ _ _ ihinner ihrest =>
    rw [Document.hasNames, hasNamesInside, ihinner, ihrest]
    rfl

theorem keys_isText (h : Ordinary entries) : ∀ entry ∈ entries, ∃ key, entry.1 = .text key := by
  induction h with
  | nil => exact nofun
  | leaf _ _ _ _ ih => exact List.forall_mem_cons.2 ⟨⟨_, rfl⟩, ih⟩
  | table _ _ _ _ _ _ ih => exact List.forall_mem_cons.2 ⟨⟨_, rfl⟩, ih⟩

theorem leaves_ne_nil (h : Ordinary entries) (hne : entries ≠ []) : leaves entries ≠ [] := by
  induction h with
  | nil => contradiction
  | leaf _ _ hv _ _ =>
    rw [leaves_cons_leaf hv]
    exact List.cons_ne_nil _ _
  | table _ _ hinner _ _ ihinner _ =>
    rw [leaves_cons_dict]
    simp [ihinner hinner]

theorem path_isSegment (h : Ordinary entries) :
    ∀ leaf ∈ leaves entries, ∀ key ∈ leaf.path, IsSegment key := by
  induction h with
  | nil => exact nofun
  | leaf hkey _ hv _ ih =>
    rw [leaves_cons_leaf hv, List.forall_mem_cons]
    exact ⟨List.forall_mem_singleton.2 hkey, ih⟩
  | table hkey _ _ _ _ ihinner ihrest =>
    rw [leaves_cons_dict, List.forall_mem_append, List.forall_mem_map]
    exact ⟨fun leaf hleaf => List.forall_mem_cons.2 ⟨hkey, ihinner leaf hleaf⟩, ihrest⟩

/-- A way that starts with a new key is another one than those to the leaves that are there. -/
theorem cons_notMem_paths {key : String} (h : Ordinary entries)
    (hnew : .text key ∉ entries.map Prod.fst) (path : List String) :
    key :: path ∉ (leaves entries).map Leaf.path := by
  intro hmem
  obtain ⟨leaf, hleaf, hpath⟩ := List.mem_map.1 hmem
  obtain ⟨entry, hentry, hhead⟩ := head?_path_of_mem_leaves hleaf
  obtain ⟨other, hother⟩ := h.keys_isText entry hentry
  rw [hpath, List.head?_cons, hother] at hhead
  have hsame : key = other := Option.some.inj hhead
  exact hnew (List.mem_map.2 ⟨entry, hentry, hsame ▸ hother⟩)

theorem nodup_paths (h : Ordinary entries) : ((leaves entries).map Leaf.path).Nodup := by
  induction h with
  | nil => exact List.nodup_nil
  | leaf _ hnew hv hrest ih =>
    rw [leaves_cons_leaf hv, List.map_cons, List.nodup_cons]
    exact ⟨hrest.cons_notMem_paths hnew [], ih⟩
  | @table key inner rest _ hnew _ _ hrest ihinner ihrest =>
    have hunder : ((leaves inner).map (Leaf.under (.text key))).map Leaf.path =
        ((leaves inner).map Leaf.path).map (key :: ·) := by
      rw [List.map_map, List.map_map]
      rfl
    rw [leaves_cons_dict, List.map_append, hunder]
    refine List.nodup_append.2 ⟨ihinner.map (List.cons_injective), ihrest, ?_⟩
    rintro _ hpath _ hother rfl
    obtain ⟨path, -, rfl⟩ := List.mem_map.1 hpath
    exact hrest.cons_notMem_paths hnew path hother

end Ordinary

/-! ## 3. Names of ordinary keys -/

theorem segments_fullName {leaf : Leaf} (hne : leaf.path ≠ [])
    (h : ∀ key ∈ leaf.path, IsSegment key) : segments leaf.fullName = leaf.path := by
  have hpieces : ∀ piece ∈ leaf.path.map String.toList, '.' ∉ piece :=
    List.forall_mem_map.2 fun key hkey => (h key hkey).2
  have hdot : ".".toList = ['.'] := rfl
  rw [segments, Leaf.fullName, String.toList_intercalate, hdot,
    Text.splitOn_intercalate hpieces (by simpa using hne), List.map_map]
  simp

theorem shortName_eq_fullName {leaf : Leaf} (h : ∀ key ∈ leaf.path, IsSegment key) :
    leaf.shortName = leaf.fullName := by
  have hkept : leaf.path.dropWhile (· = "") = leaf.path := by
    cases hpath : leaf.path with
    | nil => rfl
    | cons key path =>
      have hkey : key ≠ "" := (h key (hpath ▸ List.mem_cons_self)).1
      exact List.dropWhile_cons_of_neg (by simpa using hkey)
  rw [Leaf.shortName, hkept, Leaf.fullName]

/-- The leaves of a table with their names. -/
def named (entries : List (Value × Value)) : List (String × Value) :=
  (leaves entries).map fun leaf => (leaf.fullName, leaf.value)

theorem nodup_names {entries : List (Value × Value)} (h : Ordinary entries) :
    ((named entries).map (·.1)).Nodup := by
  -- The way to a leaf is read off its name.
  have hpaths : ((named entries).map (·.1)).map segments = (leaves entries).map Leaf.path := by
    rw [named, List.map_map, List.map_map]
    exact List.map_congr_left fun leaf hleaf =>
      segments_fullName (path_ne_nil_of_mem_leaves hleaf) (h.path_isSegment leaf hleaf)
  exact List.Nodup.of_map segments (hpaths ▸ h.nodup_paths)

/-- No leaf of an ordinary table overrides another one. -/
theorem flatten_of_ordinary {entries : List (Value × Value)} (h : Ordinary entries) :
    flatten "" entries = .ok (named entries) := by
  have hnames : ∀ leaf ∈ leaves entries,
      (leaf.shortName, leaf.value) = (leaf.fullName, leaf.value) :=
    fun leaf hleaf => by rw [shortName_eq_fullName (h.path_isSegment leaf hleaf)]
  rw [flatten_eq h.hasNames, List.map_congr_left hnames, ← named, Store.ofPairs_of_nodup (nodup_names h)]

/-! ## 4. Values at the end of a path -/

/-- The keys of a table as they are compared with others. -/
def keysOf (table : List (Value × Value)) : List Value :=
  table.map fun entry => entry.1.plain

section Tables

variable {table : List (Value × Value)} {key : String}

theorem same_eq_false (h : .text key ∉ keysOf table) :
    ∀ entry ∈ table, Value.same (.text key) entry.1 = false := by
  intro entry hentry
  rw [Bool.eq_false_iff, ne_eq, Value.same_text_iff]
  exact fun hkey => h (List.mem_map.2 ⟨entry, hentry, hkey⟩)

theorem putEntry_of_new (h : .text key ∉ keysOf table) (v : Value) :
    Value.putEntry table (.text key) v = table ++ [(.text key, v)] := by
  rw [Value.putEntry, if_neg]
  simpa using same_eq_false h

theorem putEntry_last (h : .text key ∉ keysOf table) (old v : Value) :
    Value.putEntry (table ++ [(.text key, old)]) (.text key) v = table ++ [(.text key, v)] := by
  rw [Value.putEntry, if_pos (by simp), List.map_append, List.map_singleton]
  refine congrArg₂ (· ++ ·) ?_ ?_
  · -- The entries in front have other keys.
    refine (List.map_congr_left fun entry hentry => ?_).trans (List.map_id table)
    dsimp only
    rw [same_eq_false h entry hentry]
    rfl
  · dsimp only
    rw [if_pos (by simp)]

theorem find?_of_new (h : .text key ∉ keysOf table) :
    table.find? (fun entry => Value.same (.text key) entry.1) = none :=
  List.find?_eq_none.2 fun entry hentry => by simp [same_eq_false h entry hentry]

theorem tableUnder_of_new (h : .text key ∉ keysOf table) : tableUnder table key = [] := by
  rw [tableUnder, find?_of_new h]

theorem tableUnder_last (h : .text key ∉ keysOf table) (inner : List (Value × Value)) :
    tableUnder (table ++ [(.text key, .dict inner)]) key = inner := by
  rw [tableUnder, List.find?_append, find?_of_new h, Option.none_or, List.find?_singleton,
    if_pos (by simp)]

/-- A table with one more leaf at the end of its way. -/
def insertLeaf (table : List (Value × Value)) (leaf : Leaf) : List (Value × Value) :=
  insertAt leaf.value leaf.path table

theorem insertLeaf_under {leaf : Leaf} (h : leaf.path ≠ []) (table : List (Value × Value))
    (key : String) :
    insertLeaf table (leaf.under (.text key)) =
      Value.putEntry table (.text key) (.dict (insertLeaf (tableUnder table key) leaf)) := by
  obtain ⟨next, path, hpath⟩ := List.exists_cons_of_ne_nil h
  have hunder : (leaf.under (.text key)).path = key :: leaf.path := rfl
  rw [insertLeaf, insertLeaf, hunder, hpath, insertAt]
  rfl

/-- Leaves below the last key of a table change its table only. -/
theorem foldl_insertLeaf_under (h : .text key ∉ keysOf table) {below : List Leaf}
    (hbelow : ∀ leaf ∈ below, leaf.path ≠ []) (inner : List (Value × Value)) :
    (below.map (Leaf.under (.text key))).foldl insertLeaf (table ++ [(.text key, .dict inner)]) =
      table ++ [(.text key, .dict (below.foldl insertLeaf inner))] := by
  induction below generalizing inner with
  | nil => rfl
  | cons leaf below ih =>
    obtain ⟨hleaf, hbelow⟩ := List.forall_mem_cons.1 hbelow
    rw [List.map_cons, List.foldl_cons, insertLeaf_under hleaf, tableUnder_last h, putEntry_last h,
      ih hbelow, List.foldl_cons]

end Tables

/-! ## 5. There and back -/

theorem new_concat {rest table : List (Value × Value)} {key : String}
    (hrest : ∀ entry ∈ rest, entry.1 ∉ keysOf table) (hkey : .text key ∉ rest.map Prod.fst)
    (v : Value) : ∀ entry ∈ rest, entry.1 ∉ keysOf (table ++ [(Value.text key, v)]) := by
  intro entry hentry hmem
  rw [keysOf, List.map_append, List.map_singleton] at hmem
  rcases List.mem_append.1 hmem with hold | hlast
  · exact hrest entry hentry hold
  · exact hkey (List.mem_map.2 ⟨entry, hentry, List.mem_singleton.1 hlast⟩)

/-- The leaves of an ordinary table with new keys bring in the table again, behind what is there. -/
theorem foldl_insertLeaf {entries table : List (Value × Value)} (h : Ordinary entries)
    (hnew : ∀ entry ∈ entries, entry.1 ∉ keysOf table) :
    (leaves entries).foldl insertLeaf table = table ++ entries := by
  induction h generalizing table with
  | nil => exact (List.append_nil table).symm
  | @leaf key v rest _ hkey hv _ ih =>
    obtain ⟨hfirst, hrest⟩ := List.forall_mem_cons.1 hnew
    have hinsert : insertLeaf table ⟨[.text key], v⟩ = table ++ [(.text key, v)] :=
      putEntry_of_new hfirst v
    rw [leaves_cons_leaf hv, List.foldl_cons, hinsert, ih (new_concat hrest hkey v), List.append_assoc,
      List.singleton_append]
  | @table key inner rest _ hkey hne hinner _ ihinner ihrest =>
    obtain ⟨hfirst, hrest⟩ := List.forall_mem_cons.1 hnew
    have hpaths : ∀ leaf ∈ leaves inner, leaf.path ≠ [] := fun _ => path_ne_nil_of_mem_leaves
    obtain ⟨first, below, hleaves⟩ := List.exists_cons_of_ne_nil (hinner.leaves_ne_nil hne)
    have hinside : below.foldl insertLeaf (insertLeaf [] first) = inner := by
      rw [← List.foldl_cons, ← hleaves]
      exact ihinner nofun
    rw [hleaves, List.forall_mem_cons] at hpaths
    rw [leaves_cons_dict, List.foldl_append, hleaves, List.map_cons, List.foldl_cons,
      insertLeaf_under hpaths.1, tableUnder_of_new hfirst, putEntry_of_new hfirst,
      foldl_insertLeaf_under hfirst hpaths.2, hinside, ihrest (new_concat hrest hkey _),
      List.append_assoc, List.singleton_append]

theorem rebuild_named {entries : List (Value × Value)} (h : Ordinary entries) :
    rebuild (named entries) = entries := by
  have hinsert : ∀ table, ∀ leaf ∈ leaves entries,
      insertAt leaf.value (segments leaf.fullName) table = insertLeaf table leaf :=
    fun table leaf hleaf => by
      rw [segments_fullName (path_ne_nil_of_mem_leaves hleaf) (h.path_isSegment leaf hleaf), insertLeaf]
  rw [rebuild, named, List.foldl_map, List.foldl_ext _ _ _ hinsert]
  exact foldl_insertLeaf h nofun

/-- A flat document as a table of its own. -/
def asTable (flat : List (String × Value)) : List (Value × Value) :=
  flat.map fun entry => (.text entry.1, entry.2)

theorem leaves_asTable {flat : List (String × Value)} (h : ∀ entry ∈ flat, IsLeaf entry.2) :
    leaves (asTable flat) = flat.map fun entry => ⟨[.text entry.1], entry.2⟩ := by
  induction flat with
  | nil => rfl
  | cons entry flat ih =>
    obtain ⟨hentry, hflat⟩ := List.forall_mem_cons.1 h
    rw [asTable, List.map_cons, leaves_cons_leaf hentry, ← asTable, ih hflat, List.map_cons]

theorem hasNames_asTable {flat : List (String × Value)} (h : ∀ entry ∈ flat, IsLeaf entry.2) :
    hasNames (asTable flat) = true :=
  hasNames_iff.2 <| List.forall_mem_map.2 fun entry hentry =>
    ⟨rfl, hasNamesInside_of_isLeaf (h entry hentry)⟩

theorem shortName_text (name : String) (v : Value) : (⟨[.text name], v⟩ : Leaf).shortName = name :=
  ((Leaf.shortName_eq_iff _).2 rfl).trans String.intercalate_singleton

theorem flatten_asTable {flat : List (String × Value)} (h : ∀ entry ∈ flat, IsLeaf entry.2)
    (hnodup : (flat.map (·.1)).Nodup) : flatten "" (asTable flat) = .ok flat := by
  have hentries : (leaves (asTable flat)).map (fun leaf => (leaf.shortName, leaf.value)) = flat := by
    rw [leaves_asTable h, List.map_map]
    refine (List.map_congr_left fun entry _ => ?_).trans (List.map_id flat)
    exact congrArg (·, entry.2) (shortName_text entry.1 entry.2)
  rw [flatten_eq (hasNames_asTable h), hentries, Store.ofPairs_of_nodup hnodup]

/-- **Nothing is lost.** The flat document of an ordinary table has each leaf under a name of its own, and
the table is rebuilt from it, its keys in their order. Any document that is flat stays as it is when it is
flattened. -/
theorem flatten_loses_nothing (entries : List (Value × Value)) :
    (Ordinary entries → flatten "" entries = .ok (named entries) ∧
      ((named entries).map (·.1)).Nodup ∧ rebuild (named entries) = entries) ∧
    (flatten "" entries >>= fun flat => flatten "" (asTable flat)) = flatten "" entries := by
  refine ⟨fun h => ⟨flatten_of_ordinary h, nodup_names h, rebuild_named h⟩, ?_⟩
  cases hflat : flatten "" entries with
  | error e => rfl
  | ok flat =>
    have hnames : hasNames entries = true := by
      by_contra hno
      rw [flatten, if_neg hno] at hflat
      cases hflat
    rw [flatten_eq hnames] at hflat
    obtain rfl := Except.ok.inj hflat
    refine flatten_asTable (fun entry hentry => ?_) (Store.nodup_names_ofPairs _)
    obtain ⟨leaf, hleaf, rfl⟩ := List.mem_map.1 (Store.mem_of_mem_ofPairs hentry)
    exact isLeaf_of_mem_leaves entries leaf hleaf

def nestedTable : List (Value × Value) :=
  [(.text "db", .dict [(.text "host", .text "x"), (.text "pool", .dict [(.text "size", .int 4)])]),
    (.text "tags", .list [.text "a", .null])]

theorem flatten_loses_nothing_nested :
    Ordinary nestedTable ∧
      flatten "" nestedTable =
        .ok [("db.host", .text "x"), ("db.pool.size", .int 4), ("tags", .list [.text "a", .null])] ∧
      rebuild [("db.host", .text "x"), ("db.pool.size", .int 4), ("tags", .list [.text "a", .null])] =
        nestedTable := by
  have hpool : Ordinary [(.text "size", .int 4)] :=
    .leaf (by decide) (by simp) trivial .nil
  have hdb : Ordinary [(.text "host", .text "x"), (.text "pool", .dict [(.text "size", .int 4)])] :=
    .leaf (by decide) (by simp) trivial <|
      .table (by decide) (by simp) (List.cons_ne_nil _ _) hpool .nil
  have htable : Ordinary nestedTable :=
    .table (by decide) (by simp) (List.cons_ne_nil _ _) hdb <|
      .leaf (by decide) (by simp) trivial .nil
  have hnamed : named nestedTable =
      [("db.host", .text "x"), ("db.pool.size", .int 4), ("tags", .list [.text "a", .null])] := by
    cbv
  obtain ⟨hflat, -, hback⟩ := (flatten_loses_nothing nestedTable).1 htable
  rw [hnamed] at hflat hback
  exact ⟨htable, hflat, hback⟩

end LayeredConfig.Document
