import LayeredConfig.Dotenv.Load
import Mathlib.Data.List.Find
import Mathlib.Data.List.Infix

/-!
# Search — which `.env` files are looked for

A search visits the directory where it starts and those above it, by cutting the last part off its path
again and again. So it gets to the root of all directories if the path begins there, and only to the
working directory if the path is a relative one. Where the path leads up itself, by a part `..`, what is
visited need not be above the start. A path that the system refuses to look for ends the search.
-/

namespace LayeredConfig

/-! ## 1. Places -/

theorem Path.cons_parents (p : Path) :
    p :: p.parents = p.parts.inits.reverse.map fun parts => { p with parts } := by
  apply List.ext_getElem
  · simp [parents]
  · intro i hi _
    cases i with
    | zero => simp
    | succ i =>
      have hlt : i < p.parts.length := by simpa [parents] using hi
      rw [List.getElem_cons_succ, List.getElem_map, List.getElem_reverse, List.getElem_inits]
      simp [parents]
      omega

namespace FileTree

/-- A place and those above it, nearest first. -/
def ancestors (place : List String) : List (List String) :=
  place.inits.reverse

theorem ancestors_concat (place : List String) (part : String) :
    ancestors (place ++ [part]) = (place ++ [part]) :: ancestors place := by
  simp [ancestors, List.inits_append]

theorem mem_ancestors {dir place : List String} : dir ∈ ancestors place ↔ dir <+: place := by
  rw [ancestors, List.mem_reverse, List.mem_inits]

/-- Of the places above a place only itself begins with it. -/
theorem filter_ancestors_self (place : List String) :
    (ancestors place).filter place.isPrefixOf = [place] := by
  induction place using List.reverseRecOn with
  | nil => rfl
  | append_singleton place part _ =>
    -- What is above is shorter than the place, so it cannot begin with it.
    have hrest : (ancestors place).filter (place ++ [part]).isPrefixOf = [] := by
      rw [List.filter_eq_nil_iff]
      intro dir hdir hp
      have hlonger := ((List.isPrefixOf_iff_prefix.1 hp).trans (mem_ancestors.1 hdir)).length_le
      rw [List.length_append, List.length_singleton] at hlonger
      omega
    rw [ancestors_concat, List.filter_cons_of_pos, hrest]
    exact List.isPrefixOf_iff_prefix.2 List.prefix_rfl

/-- The places on the way from one place to another, and those above it that begin with it. -/
theorem filter_ancestors_append (place parts : List String) :
    (ancestors (place ++ parts)).filter place.isPrefixOf =
      parts.inits.reverse.map (place ++ ·) := by
  induction parts using List.reverseRecOn with
  | nil =>
    rw [List.append_nil, filter_ancestors_self]
    simp
  | append_singleton parts part ih =>
    rw [← List.append_assoc, ancestors_concat, List.filter_cons_of_pos, ih]
    · simp [List.inits_append]
    · exact List.isPrefixOf_iff_prefix.2 ((List.prefix_append place parts).trans
        (List.prefix_append (place ++ parts) [part]))

theorem placeOf_of_notMem {root p : Path} (h : ".." ∉ p.parts) :
    placeOf root p = origin root p ++ p.parts := by
  have hfold : ∀ (parts place : List String), ".." ∉ parts →
      parts.foldl (fun place part => if part = ".." then place.dropLast else place ++ [part]) place =
        place ++ parts := by
    intro parts
    induction parts with
    | nil =>
      intro place _
      rw [List.foldl_nil, List.append_nil]
    | cons part parts ih =>
      intro place hparts
      rw [List.mem_cons, not_or] at hparts
      rw [List.foldl_cons, if_neg (Ne.symm hparts.1), ih _ hparts.2, List.append_assoc,
        List.singleton_append]
  exact hfold p.parts (origin root p) h

theorem placeOf_join_name {name : String} (h : name ≠ "..") (root p : Path) :
    placeOf root (p.join ⟨0, [name]⟩) = placeOf root p ++ [name] := by
  show (p.parts ++ [name]).foldl _ (origin root p) = _
  rw [List.foldl_append, List.foldl_cons, List.foldl_nil, if_neg h]
  rfl

/-! ## 2. Files at places -/

variable {t : FileTree}

theorem isDirectoryAt_of_fileAt? {dir file : List String} {bytes : List UInt8}
    (h : t.fileAt? file = some bytes) (hdir : dir <+: file) (hne : dir ≠ file) :
    t.isDirectoryAt dir = true := by
  rcases Option.map_eq_some_iff.1 h with ⟨pair, hpair, -⟩
  have hmem : pair ∈ t.files := List.mem_reverse.1 (List.mem_of_find?_eq_some hpair)
  have hfile : pair.1 = file := by simpa using List.find?_some hpair
  rw [isDirectoryAt, Bool.or_eq_true]
  right
  rw [List.any_eq_true]
  refine ⟨pair, hmem, ?_⟩
  simp [hfile, hne, hdir]

theorem eq_append_of_walk? {place parts there : List String} (h : ".." ∉ parts)
    (hwalk : t.walk? place parts = some there) : there = place ++ parts := by
  induction parts generalizing place with
  | nil =>
    rw [List.append_nil]
    exact (Option.some.inj hwalk).symm
  | cons part parts ih =>
    rw [List.mem_cons, not_or] at h
    rw [walk?, if_neg (Ne.symm h.1)] at hwalk
    by_cases hdir : t.isDirectoryAt place = true
    · rw [if_pos hdir] at hwalk
      rw [ih h.2 hwalk, List.append_assoc, List.singleton_append]
    · rw [if_neg hdir] at hwalk
      contradiction

/-- There is a way to every file: all places above it are directories. -/
theorem walk?_of_fileAt? {place parts : List String} {bytes : List UInt8} (h : ".." ∉ parts)
    (hfile : t.fileAt? (place ++ parts) = some bytes) :
    t.walk? place parts = some (place ++ parts) := by
  induction parts generalizing place with
  | nil => rw [walk?, List.append_nil]
  | cons part parts ih =>
    -- Something is below this place, so one can go on from here.
    have hdir : t.isDirectoryAt place = true := by
      apply isDirectoryAt_of_fileAt? hfile (List.prefix_append place (part :: parts))
      intro heq
      have := congrArg List.length heq
      rw [List.length_append, List.length_cons] at this
      omega
    rw [List.mem_cons, not_or] at h
    rw [walk?, if_pos hdir, if_neg (Ne.symm h.1)]
    rw [List.append_cons place part parts] at hfile ⊢
    exact ih h.2 hfile

/-- What is read at a path that does not lead up is the file at the place that it names. -/
theorem read?_eq_fileAt? {p : Path} (h : ".." ∉ p.parts) :
    t.read? p = t.fileAt? (placeOf t.root p) := by
  rw [placeOf_of_notMem h]
  show (t.walk? (origin t.root p) p.parts).bind t.fileAt? = _
  cases hfile : t.fileAt? (origin t.root p ++ p.parts) with
  | some bytes => rw [walk?_of_fileAt? h hfile, Option.bind_some, hfile]
  | none =>
    -- There may be a way to the place all the same, but no file is there.
    cases hwalk : t.walk? (origin t.root p) p.parts with
    | none => rfl
    | some there => rw [Option.bind_some, eq_append_of_walk? h hwalk, hfile]

theorem meetsLongName_of_short {place parts : List String}
    (h : ∀ part ∈ parts, part.utf8ByteSize ≤ nameLimit) : t.meetsLongName place parts = false := by
  induction parts generalizing place with
  | nil => rfl
  | cons part parts ih =>
    obtain ⟨hpart, hparts⟩ := List.forall_mem_cons.1 h
    rw [meetsLongName, ih hparts, Bool.or_false, decide_eq_false (Nat.not_lt.2 hpart), Bool.and_false]

/-- The system looks for every path that is short, and whose names are. -/
theorem refuses_of_short {p : Path} (hpath : p.text.utf8ByteSize ≤ pathLimit)
    (hparts : ∀ part ∈ p.parts, part.utf8ByteSize ≤ nameLimit) : t.refuses p = false := by
  rw [refuses, decide_eq_false (Nat.not_lt.2 hpath), Bool.false_or, meetsLongName_of_short hparts]

end FileTree

/-! ## 3. Searching -/

namespace Dotenv

open FileTree

variable {t : FileTree} {start : Option String}

/-- The directories that are visited, by the places that their paths name. -/
def visited (t : FileTree) (start : Option String) : List (List String) :=
  (startOf t start :: (startOf t start).parents).map (placeOf t.root)

/-- There is a `.env` in a directory. -/
def hasSettings (t : FileTree) (dir : List String) : Bool :=
  (t.fileAt? (dir ++ [".env"])).isSome

/-- The path that the system refuses before a file is found. -/
def refused? (t : FileTree) (paths : List Path) : Option Path :=
  (paths.find? fun p => t.refuses p || t.isFile p).filter t.refuses

theorem refused?_eq_some_iff {paths : List Path} {p : Path} :
    refused? t paths = some p ↔ ∃ front back, paths = front ++ p :: back ∧ t.refuses p = true ∧
      ∀ other ∈ front, t.refuses other = false ∧ t.isFile other = false := by
  rw [refused?, Option.filter_eq_some_iff, List.find?_eq_some_iff_append]
  simp only [Bool.not_eq_true', Bool.or_eq_false_iff, Bool.or_eq_true]
  constructor
  · rintro ⟨⟨-, front, back, hpaths, hfront⟩, hp⟩
    exact ⟨front, back, hpaths, hp, hfront⟩
  · rintro ⟨front, back, hpaths, hp, hfront⟩
    exact ⟨⟨.inl hp, front, back, hpaths, hfront⟩, hp⟩

theorem refused?_of_forall {paths : List Path} (h : ∀ p ∈ paths, t.refuses p = false) :
    refused? t paths = none := by
  rw [Option.eq_none_iff_forall_ne_some]
  intro p hp
  obtain ⟨front, back, rfl, hrefused, -⟩ := refused?_eq_some_iff.1 hp
  exact nomatch (h p (List.mem_append_right front List.mem_cons_self)).symm.trans hrefused

theorem firstFile_of_refused {paths : List Path} {p : Path} (h : refused? t paths = some p) :
    firstFile t paths = .error (.pathTooLong p.text) := by
  obtain ⟨hfind, hp⟩ := Option.filter_eq_some_iff.1 h
  rw [firstFile, hfind]
  exact if_pos hp

theorem firstFile_of_allowed {paths : List Path} (h : refused? t paths = none) :
    firstFile t paths = .ok (paths.find? t.isFile) := by
  unfold firstFile
  unfold refused? at h
  cases hfind : paths.find? fun p => t.refuses p || t.isFile p with
  | none =>
    have hnone : paths.find? t.isFile = none := by
      rw [List.find?_eq_none] at hfind ⊢
      exact fun p hp hfile => hfind p hp (Bool.or_eq_true_iff.2 (.inr hfile))
    rw [hnone]
  | some p =>
    rw [hfind] at h
    have hp : t.refuses p = false := by simpa using h
    obtain ⟨hfile, front, back, hpaths, hfront⟩ := List.find?_eq_some_iff_append.1 hfind
    have hsome : paths.find? t.isFile = some p := by
      rw [List.find?_eq_some_iff_append]
      refine ⟨by simpa [hp] using hfile, front, back, hpaths, fun other hother => ?_⟩
      have := hfront other hother
      rw [Bool.not_eq_true', Bool.or_eq_false_iff] at this
      rw [this.2, Bool.not_false]
    rw [hsome]
    exact if_neg (by rw [hp]; decide)

/-- A search fails at one of the paths that it tries. -/
theorem find_error {extras : List String} {e : Error} (h : find t start extras = .error e) :
    ∃ p ∈ candidates t start extras, t.refuses p = true ∧ e = .pathTooLong p.text := by
  cases hrefused : refused? t (candidates t start extras) with
  | none => exact nomatch (firstFile_of_allowed hrefused).symm.trans h
  | some p =>
    have he := Except.error.inj ((firstFile_of_refused hrefused).symm.trans h)
    obtain ⟨front, back, hpaths, hp, -⟩ := refused?_eq_some_iff.1 hrefused
    refine ⟨p, ?_, hp, he.symm⟩
    rw [hpaths]
    exact List.mem_append_right front List.mem_cons_self

/-- The layer of the file at a path, with the path. -/
def layerAt {σ : Type} (t : FileTree) (path : Path) : Action σ (Option (Path × Source)) := do
  let source ← read t path
  pure (some (path, source))

theorem map_placeOf_candidates (t : FileTree) (start : Option String) (extras : List String) :
    (candidates t start extras).map (placeOf t.root) =
      (visited t start).map (· ++ [".env"]) ++
        extras.map fun extra => placeOf t.root (Path.ofString extra) := by
  have hname : (".env" : String) ≠ ".." := by decide
  simp only [candidates, visited, List.map_append, List.map_map]
  congr 1
  apply List.map_congr_left
  intro p _
  exact placeOf_join_name hname t.root p

section Straight

variable (h : ".." ∉ (startOf t start).parts)

include h

/-- What is visited is the start and what is above it, as far up as its path begins. -/
theorem visited_eq :
    visited t start = (ancestors (placeOf t.root (startOf t start))).filter
      (origin t.root (startOf t start)).isPrefixOf := by
  rw [placeOf_of_notMem h, filter_ancestors_append, visited, Path.cons_parents, List.map_map]
  apply List.map_congr_left
  intro parts hparts
  rw [List.mem_reverse, List.mem_inits] at hparts
  exact placeOf_of_notMem fun hup => h (hparts.subset hup)

theorem read?_join_of_mem {p : Path} (hp : p ∈ startOf t start :: (startOf t start).parents) :
    t.read? (p.join ⟨0, [".env"]⟩) = t.fileAt? (placeOf t.root p ++ [".env"]) := by
  have hname : (".env" : String) ≠ ".." := by decide
  rw [Path.cons_parents] at hp
  rcases List.mem_map.1 hp with ⟨parts, hparts, rfl⟩
  rw [List.mem_reverse, List.mem_inits] at hparts
  rw [← placeOf_join_name hname, read?_eq_fileAt?]
  show ".." ∉ parts ++ [".env"]
  rw [List.mem_append, List.mem_singleton, not_or]
  exact ⟨fun hup => h (hparts.subset hup), hname.symm⟩

/-- A file is looked for in the directories that are visited, and then at the further paths. -/
theorem find?_candidates_cases (extras : List String) :
    (∃ dir path, (visited t start).find? (hasSettings t) = some dir ∧
      placeOf t.root path = dir ++ [".env"] ∧ t.read? path = t.fileAt? (dir ++ [".env"]) ∧
        (candidates t start extras).find? t.isFile = some path) ∨
    (visited t start).find? (hasSettings t) = none ∧
      (candidates t start extras).find? t.isFile = (extras.map Path.ofString).find? t.isFile := by
  -- Paths and places are searched in step: there is a file at a path if there is one at its place.
  have hsame : (startOf t start :: (startOf t start).parents).find?
      (t.isFile ∘ (·.join ⟨0, [".env"]⟩)) =
        (startOf t start :: (startOf t start).parents).find? (hasSettings t ∘ placeOf t.root) := by
    apply List.find?_congr
    intro p hp
    exact congrArg Option.isSome (read?_join_of_mem h hp)
  rw [candidates, List.find?_append, List.find?_map, hsame, visited, List.find?_map]
  cases hfound : (startOf t start :: (startOf t start).parents).find?
      (hasSettings t ∘ placeOf t.root) with
  | none => exact .inr ⟨rfl, rfl⟩
  | some p =>
    have hmem := List.mem_of_find?_eq_some hfound
    refine .inl ⟨placeOf t.root p, p.join ⟨0, [".env"]⟩, rfl, ?_, read?_join_of_mem h hmem, rfl⟩
    exact placeOf_join_name (by decide) t.root p

/-- **Search.** From a directory whose path has no part that leads up, the paths tried first lead to the
`.env` of the directory and of those above it, nearest first and nothing else, up to where the path
begins; an absolute one begins at the root of all directories. The nearest file that is there is read.
If there is none the first of the further paths that leads to a file is read, and else nothing is. Only
where the system refuses one of the paths before a file is found does the search fail instead. -/
theorem nearest_file_is_read (extras : List String) :
    let place := placeOf t.root (startOf t start)
    let above := (ancestors place).filter (origin t.root (startOf t start)).isPrefixOf
    (candidates t start extras).map (placeOf t.root) =
      above.map (· ++ [".env"]) ++ extras.map (fun extra => placeOf t.root (Path.ofString extra)) ∧
    ((startOf t start).isAbsolute → above = ancestors place) ∧
    (∀ p, refused? t (candidates t start extras) = some p →
      ∀ σ, (load t start extras : Action σ _) = Action.fail (.pathTooLong p.text)) ∧
    (refused? t (candidates t start extras) = none →
      (∀ dir, above.find? (hasSettings t) = some dir →
        ∃ path, placeOf t.root path = dir ++ [".env"] ∧
          t.read? path = t.fileAt? (dir ++ [".env"]) ∧
            ∀ σ, (load t start extras : Action σ _) = layerAt t path) ∧
      (above.find? (hasSettings t) = none → ∀ σ, (load t start extras : Action σ _) =
        match (extras.map Path.ofString).find? t.isFile with
        | some path => layerAt t path
        | none => do
          Action.emit [.dotenvNotFound]
          pure none)) := by
  intro place above
  have habove : visited t start = above := visited_eq h
  rw [← habove]
  refine ⟨map_placeOf_candidates t start extras, fun habsolute => ?_, fun p hp σ => ?_,
    fun hallowed => ⟨?_, ?_⟩⟩
  · rw [habove]
    show (ancestors place).filter (origin t.root (startOf t start)).isPrefixOf = _
    rw [origin, if_pos habsolute, List.filter_eq_self]
    intro dir _
    rfl
  · rw [load, find, firstFile_of_refused hp]
    rfl
  · intro dir hdir
    rcases find?_candidates_cases h extras with
      ⟨dir', path, hdir', hplace, hread, hfind⟩ | ⟨hnone, -⟩
    · obtain rfl : dir' = dir := Option.some.inj (hdir'.symm.trans hdir)
      refine ⟨path, hplace, hread, fun σ => ?_⟩
      rw [load, find, firstFile_of_allowed hallowed, hfind]
      rfl
    · rw [hnone] at hdir
      contradiction
  · intro hnone σ
    rcases find?_candidates_cases h extras with ⟨dir, _, hdir, -⟩ | ⟨-, hfind⟩
    · rw [hnone] at hdir
      contradiction
    · rw [load, find, firstFile_of_allowed hallowed, hfind]
      cases (extras.map Path.ofString).find? t.isFile with
      | some path => rfl
      | none => rfl

end Straight

/-- A working directory with a `.env` above it and one below. -/
def nestedTree : FileTree where
  root := ⟨1, ["w", "a"]⟩
  files := [(["w", ".env"], [75, 61, 49]), (["w", "a", "b", ".env"], [75, 61, 50])]
  directories := [["w", "a", "c", "d"]]

theorem nearest_file_is_read_above :
    ".." ∉ (startOf nestedTree (some "/w/a/c/d")).parts ∧
      ∃ path, placeOf nestedTree.root path = ["w", ".env"] ∧
        nestedTree.read? path = some [75, 61, 49] ∧
          ∀ σ, (load nestedTree (some "/w/a/c/d") ["a/b/.env"] : Action σ _) =
            layerAt nestedTree path := by
  have hstart : startOf nestedTree (some "/w/a/c/d") = ⟨1, ["w", "a", "c", "d"]⟩ := by cbv
  have hup : ".." ∉ (startOf nestedTree (some "/w/a/c/d")).parts := by
    rw [hstart]
    decide
  refine ⟨hup, ?_⟩
  rcases nearest_file_is_read hup ["a/b/.env"] with ⟨-, -, -, hnearest⟩
  have hallowed : refused? nestedTree (candidates nestedTree (some "/w/a/c/d") ["a/b/.env"]) = none := by
    decide +kernel
  rw [hstart] at hnearest
  exact (hnearest hallowed).1 ["w"] (by decide)

/-- From the working directory the search does not go up to the file above it, and from a path with a part
`..` it goes to a file beside the start. -/
theorem search_leaves_ancestors :
    (placeOf nestedTree.root (startOf nestedTree (some ".")) = ["w", "a"] ∧
      ["w"] ∈ ancestors ["w", "a"] ∧ hasSettings nestedTree ["w"] = true ∧
        find nestedTree (some ".") [] = .ok none) ∧
    placeOf nestedTree.root (startOf nestedTree (some "/w/a/b/../c")) = ["w", "a", "c"] ∧
      ["w", "a", "b"] ∉ ancestors ["w", "a", "c"] ∧
        find nestedTree (some "/w/a/b/../c") [] = .ok (some ⟨1, ["w", "a", "b", ".env"]⟩) := by
  have hhere : startOf nestedTree (some ".") = ⟨0, []⟩ := by cbv
  have hup : startOf nestedTree (some "/w/a/b/../c") = ⟨1, ["w", "a", "b", "..", "c"]⟩ := by cbv
  rw [find, find, candidates, candidates, hhere, hup, firstFile_of_allowed (by decide +kernel),
    firstFile_of_allowed (by decide +kernel)]
  refine ⟨⟨by decide, by decide, by decide, ?_⟩, by decide, by decide, ?_⟩
  all_goals
    apply congrArg
    decide

end Dotenv

end LayeredConfig
