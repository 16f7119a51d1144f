import LayeredConfig.Document.Flatten
import LayeredConfig.Proofs.Store.Entries

/-!
# Leaves — what a nested table holds, and under which names

A flat document has the leaves of its table in their order, each stored under a name that the keys on the way
to it make (`flattenEntries_eq`). A name is the texts of all these keys with dots between them, but keys
without a character are left out as long as no other key has come (`flattens_to_leaves`).
-/

namespace LayeredConfig.Document

/-! ## 1. Leaves and their names -/

/-- A value that is no table, with the keys on the way to it. -/
structure Leaf where
  keys : List Value
  value : Value

/-- A leaf as it is found from the table that has its own one under a key. -/
def Leaf.under (key : Value) (leaf : Leaf) : Leaf :=
  ⟨key :: leaf.keys, leaf.value⟩

mutual

/-- The leaves of a table in the order of the document. -/
def leaves : List (Value × Value) → List Leaf
  | [] => []
  | (key, v) :: rest => (leavesIn v).map (Leaf.under key) ++ leaves rest

/-- The leaves that a value holds. A list is a leaf as a whole, and nothing is none. -/
def leavesIn : Value → List Leaf
  | .dict entries => leaves entries
  | .null => []
  | v => [⟨[], v⟩]

end

def keyText (key : Value) : String :=
  key.text?.getD ""

/-- The texts of the keys on the way to a leaf. -/
def Leaf.path (leaf : Leaf) : List String :=
  leaf.keys.map keyText

/-- The texts of all keys on the way to a leaf, with dots between them. -/
def Leaf.fullName (leaf : Leaf) : String :=
  ".".intercalate leaf.path

/-- The texts of the keys from the first one on that has a character, with dots between them. -/
def Leaf.shortName (leaf : Leaf) : String :=
  ".".intercalate (leaf.path.dropWhile (· = ""))

/-- Whether the way to a leaf goes on from a key of the whole table that has no character. -/
def Leaf.startsEmpty (leaf : Leaf) : Bool :=
  match leaf.keys with
  | key :: _ :: _ => keyText key = ""
  | _ => false

/-- The entry of a leaf in the flat document of a table that stands under a name itself. -/
def Leaf.entryUnder (parent : String) (leaf : Leaf) : String × Value :=
  (leaf.keys.foldl nameUnder parent, leaf.value)

/-! ## 2. Entries that are put over others -/

theorem putAll_cons (entries : List (String × Value)) (name : String) (v : Value)
    (others : List (String × Value)) :
    putAll entries ((name, v) :: others) = putAll (Store.putEntry entries name v) others := rfl

theorem putAll_append (entries front back : List (String × Value)) :
    putAll entries (front ++ back) = putAll (putAll entries front) back :=
  List.foldl_append

/-- A name that is there may as well be written before other entries are put. -/
theorem putEntry_putAll {name : String} {v : Value} {entries : List (String × Value)}
    (h : name ∈ entries.map (·.1)) (others : List (String × Value)) :
    Store.putEntry (putAll entries others) name v =
      putAll (Store.putEntry entries name v) (Store.setValue name v others) := by
  induction others generalizing entries with
  | nil => rfl
  | cons entry rest ih =>
    obtain ⟨n, old⟩ := entry
    rw [putAll_cons, ih (Store.mem_names_putEntry h old)]
    by_cases hn : n = name
    · subst hn
      rw [Store.setValue_cons_self, putAll_cons, Store.putEntry_putEntry_self,
        Store.putEntry_putEntry_self]
    · rw [Store.setValue_cons_of_ne hn, putAll_cons, Store.putEntry_comm h hn]

theorem putAll_putEntry (entries others : List (String × Value)) (name : String) (v : Value) :
    putAll entries (Store.putEntry others name v) = Store.putEntry (putAll entries others) name v := by
  induction others generalizing entries with
  | nil => rfl
  | cons entry rest ih =>
    obtain ⟨n, old⟩ := entry
    by_cases hn : n = name
    · subst hn
      rw [Store.putEntry_cons_self, putAll_cons, putAll_cons,
        putEntry_putAll Store.mem_names_putEntry_self, Store.putEntry_putEntry_self]
    · rw [Store.putEntry_cons_of_ne hn, putAll_cons, putAll_cons, ih]

/-- Of entries with equal names only what they leave behind counts for others. -/
theorem putAll_ofPairs (entries pairs : List (String × Value)) :
    putAll entries (Store.ofPairs pairs) = putAll entries pairs := by
  induction pairs using List.reverseRecOn with
  | nil => rfl
  | append_singleton pairs pair ih =>
    rw [Store.ofPairs_append, putAll_putEntry, ih, putAll_append]
    rfl

/-! ## 3. The flat document -/

mutual

theorem flattenEntries_eq (parent : String) (entries : List (Value × Value))
    (flat : List (String × Value)) :
    flattenEntries parent entries flat =
      putAll flat ((leaves entries).map (Leaf.entryUnder parent)) := by
  cases entries with
  | nil => rfl
  | cons entry rest =>
    obtain ⟨key, v⟩ := entry
    rw [flattenEntries, flattenValue_eq (nameUnder parent key) v, flattenEntries_eq parent rest,
      leaves, List.map_append, putAll_append, List.map_map]
    rfl

theorem flattenValue_eq (name : String) (v : Value) (flat : List (String × Value)) :
    flattenValue name v flat = putAll flat ((leavesIn v).map (Leaf.entryUnder name)) := by
  cases v with
  | dict entries =>
    rw [flattenValue, flattenEntries_eq name entries, leavesIn]
    exact putAll_ofPairs flat _
  | _ => rfl

end

/-! ## 4. Names -/

theorem intercalate_join (sep first second : String) (rest : List String) :
    sep.intercalate ((first ++ sep ++ second) :: rest) = sep.intercalate (first :: second :: rest) := by
  cases rest with
  | nil => rw [String.intercalate_singleton, String.intercalate_cons_cons, String.intercalate_singleton]
  | cons third rest =>
    simp only [String.intercalate_cons_cons, String.append_assoc]

/-- Under a name that has a character every key is seen. -/
theorem foldl_nameUnder_of_ne {parent : String} (h : parent ≠ "") (keys : List Value) :
    keys.foldl nameUnder parent = ".".intercalate (parent :: keys.map keyText) := by
  induction keys generalizing parent with
  | nil => exact String.intercalate_singleton.symm
  | cons key keys ih =>
    have hname : nameUnder parent key = parent ++ "." ++ keyText key := if_neg h
    have hne : parent ++ "." ++ keyText key ≠ "" := by simp [h]
    rw [List.foldl_cons, hname, ih hne, List.map_cons, intercalate_join]

theorem foldl_nameUnder_empty (keys : List Value) :
    keys.foldl nameUnder "" = ".".intercalate ((keys.map keyText).dropWhile (· = "")) := by
  induction keys with
  | nil => rfl
  | cons key keys ih =>
    have hname : nameUnder "" key = keyText key := by simp [nameUnder, keyText]
    rw [List.foldl_cons, List.map_cons, hname]
    by_cases hkey : keyText key = ""
    · rw [hkey, ih, List.dropWhile_cons_of_pos (by simp)]
    · rw [foldl_nameUnder_of_ne hkey, List.dropWhile_cons_of_neg (by simpa using hkey)]

theorem Leaf.entryUnder_empty (leaf : Leaf) : leaf.entryUnder "" = (leaf.shortName, leaf.value) :=
  congrArg (·, leaf.value) (foldl_nameUnder_empty leaf.keys)

theorem length_intercalate_cons (sep first : String) (rest : List String) :
    (sep.intercalate rest).length ≤ (sep.intercalate (first :: rest)).length := by
  cases rest with
  | nil => simp
  | cons second rest =>
    rw [String.intercalate_cons_cons]
    simp

theorem length_intercalate_dropWhile (sep : String) (p : String → Bool) (texts : List String) :
    (sep.intercalate (texts.dropWhile p)).length ≤ (sep.intercalate texts).length := by
  induction texts with
  | nil => exact Nat.le_refl _
  | cons first rest ih =>
    rw [List.dropWhile_cons]
    split
    next => exact Nat.le_trans ih (length_intercalate_cons sep first rest)
    next => exact Nat.le_refl _

theorem Leaf.shortName_eq_iff (leaf : Leaf) :
    leaf.shortName = leaf.fullName ↔ leaf.startsEmpty = false := by
  obtain ⟨keys, value⟩ := leaf
  match keys with
  | [] => exact ⟨fun _ => rfl, fun _ => rfl⟩
  | [key] =>
    by_cases hkey : keyText key = ""
    · simp [shortName, fullName, path, startsEmpty, hkey]
    · simp [shortName, fullName, path, startsEmpty, hkey]
  | key :: next :: more =>
    by_cases hkey : keyText key = ""
    · -- The full name has one more dot in front.
      have hlength := length_intercalate_dropWhile "." (· = "") ((next :: more).map keyText)
      have hstarts : startsEmpty ⟨key :: next :: more, value⟩ = true := decide_eq_true hkey
      rw [hstarts]
      refine ⟨fun hsame => ?_, nofun⟩
      have hshort : shortName ⟨key :: next :: more, value⟩ =
          ".".intercalate (((next :: more).map keyText).dropWhile (· = "")) := by
        rw [shortName, path, List.map_cons, List.dropWhile_cons_of_pos (by simpa using hkey)]
      have hfull : fullName ⟨key :: next :: more, value⟩ =
          "." ++ ".".intercalate ((next :: more).map keyText) := by
        rw [fullName, path, List.map_cons, List.map_cons, String.intercalate_cons_cons, hkey,
          String.empty_append]
      rw [hshort, hfull] at hsame
      rw [hsame, String.length_append] at hlength
      have hdot : ".".length = 1 := rfl
      omega
    · have hstarts : startsEmpty ⟨key :: next :: more, value⟩ = false := decide_eq_false hkey
      rw [shortName, fullName, path, List.map_cons, List.dropWhile_cons_of_neg (by simpa using hkey)]
      exact ⟨fun _ => hstarts, fun _ => rfl⟩

theorem flatten_eq {entries : List (Value × Value)} (h : hasNames entries = true) :
    flatten "" entries =
      .ok (Store.ofPairs ((leaves entries).map fun leaf => (leaf.shortName, leaf.value))) := by
  rw [flatten, if_pos h, flattenEntries_eq, List.map_congr_left fun leaf _ => leaf.entryUnder_empty]
  rfl

/-- **Leaves.** The flat document of a table has its leaves, each assigned in the order of the document under
the texts of the keys on the way to it, from the first key with a character on. These are the texts of all
keys, unless the way goes on from a key without a character at the top. There is no flat document if some key
has no text. -/
theorem flattens_to_leaves (entries : List (Value × Value)) :
    flatten "" entries =
        (if hasNames entries then
          .ok (Store.ofPairs ((leaves entries).map fun leaf => (leaf.shortName, leaf.value)))
        else .error .tooLongToWrite) ∧
      (∀ leaf : Leaf, leaf.shortName = leaf.fullName ↔ leaf.startsEmpty = false) ∧
      ((∀ leaf ∈ leaves entries, leaf.startsEmpty = false) →
        flatten "" entries =
          if hasNames entries then
            .ok (Store.ofPairs ((leaves entries).map fun leaf => (leaf.fullName, leaf.value)))
          else .error .tooLongToWrite) := by
  have hflat : flatten "" entries =
      if hasNames entries then
        .ok (Store.ofPairs ((leaves entries).map fun leaf => (leaf.shortName, leaf.value)))
      else .error .tooLongToWrite := by
    by_cases h : hasNames entries = true
    · rw [if_pos h, flatten_eq h]
    · rw [if_neg h, flatten, if_neg h]
  refine ⟨hflat, Leaf.shortName_eq_iff, fun hfull => ?_⟩
  have hnames : ∀ leaf ∈ leaves entries,
      (leaf.shortName, leaf.value) = (leaf.fullName, leaf.value) :=
    fun leaf hleaf => by rw [leaf.shortName_eq_iff.2 (hfull leaf hleaf)]
  rw [hflat, List.map_congr_left hnames]

/-- Two spellings of one name, an empty table, nothing, a list, and keys that are no texts. -/
def mixedTable : List (Value × Value) :=
  [(.text "db", .dict [(.text "host", .text "x"), (.text "", .dict [(.text "k", .int 1)]),
      (.text "pool", .dict []), (.text "off", .null), (.null, .list [.dict [(.text "a", .null)]])]),
    (.text "", .bool true), (.text "db.host", .text "y"), (.bool true, .dict [(.bool false, .int 2)])]

theorem flattens_to_leaves_mixed :
    (∀ leaf ∈ leaves mixedTable, leaf.startsEmpty = false) ∧
      flatten "" mixedTable =
        .ok [("db.host", .text "y"), ("db..k", .int 1), ("db.None", .list [.dict [(.text "a", .null)]]),
          ("", .bool true), ("True.False", .int 2)] := by
  have hfull : ∀ leaf ∈ leaves mixedTable, leaf.startsEmpty = false := by
    have hall : (leaves mixedTable).all (!·.startsEmpty) = true := by cbv
    simpa using hall
  refine ⟨hfull, ((flattens_to_leaves mixedTable).2.2 hfull).trans ?_⟩
  cbv

/-- A key without a character at the top, beside a key of its table. -/
def emptyKeyTable : List (Value × Value) :=
  [(.text "", .dict [(.text "a", .int 1)]), (.text "a", .int 2)]

/-- The key without a character is not seen, and of two leaves only one is left. -/
theorem flatten_drops_empty_key :
    flatten "" emptyKeyTable = .ok [("a", .int 2)] ∧
      Store.ofPairs ((leaves emptyKeyTable).map fun leaf => (leaf.fullName, leaf.value)) =
        [(".a", .int 1), ("a", .int 2)] := by
  constructor
  · cbv
  · cbv

end LayeredConfig.Document
