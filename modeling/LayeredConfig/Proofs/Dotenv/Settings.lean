import LayeredConfig.Proofs.Dotenv.Lines
import LayeredConfig.Proofs.Dotenv.Search
import LayeredConfig.Proofs.Layering.Loading
import LayeredConfig.Proofs.Store.Entries
import LayeredConfig.Proofs.Text.Utf8
import LayeredConfig.Proofs.Variables.Keys

/-!
# Settings — what a written file says

Empty lines count for nothing, so a file says what its other lines say, whatever ends them
(`filledLines_append`). Settings whose values stand in double quotes are read back from their file
character by character (`quoted_settings_round_trip`).
-/

namespace LayeredConfig.Dotenv

/-! ## 1. Lines of a text -/

def isLineEnd (c : Char) : Bool :=
  c == '\n' || c == '\r'

theorem isLineEnd_eq_false {c : Char} (h : Text.isBlank c = false) : isLineEnd c = false := by
  rw [isLineEnd, Bool.or_eq_false_iff, beq_eq_false_iff_ne, beq_eq_false_iff_ne]
  constructor
  · rintro rfl
    exact absurd h (by decide)
  · rintro rfl
    exact absurd h (by decide)

/-- What may end a line. -/
inductive LineEnd where
  | lf
  | cr
  | crlf
  deriving DecidableEq, Repr

def LineEnd.text : LineEnd → List Char
  | .lf => ['\n']
  | .cr => ['\r']
  | .crlf => ['\r', '\n']

/-- All lines of a text, also the last one, which nothing ends. -/
def allLines (cs : List Char) : List (List Char) :=
  (lines cs).1 ++ [(lines cs).2]

/-- The lines in which something stands. -/
def filledLines (cs : List Char) : List (List Char) :=
  (allLines cs).filter (· ≠ [])

variable {body : List Char}

theorem linesFrom_append (hbody : ∀ c ∈ body, isLineEnd c = false) (before rest : List Char) :
    linesFrom before (body ++ rest) = linesFrom (body.reverse ++ before) rest := by
  induction body generalizing before with
  | nil => rfl
  | cons c body ih =>
    obtain ⟨hc, hbody⟩ := List.forall_mem_cons.1 hbody
    obtain ⟨hlf, hcr⟩ : c ≠ '\n' ∧ c ≠ '\r' := by simpa [isLineEnd] using hc
    have hstep : linesFrom before (c :: (body ++ rest)) = linesFrom (c :: before) (body ++ rest) := by
      rw [linesFrom]
      · rw [if_neg (by simp [hlf, hcr])]
      · exact fun _ h => absurd h hcr
    rw [List.cons_append, hstep, ih hbody, List.reverse_cons, List.append_assoc,
      List.singleton_append]

theorem linesFrom_lineEnd (e : LineEnd) {rest : List Char}
    (hrest : e = .cr → rest.head? ≠ some '\n') (before : List Char) :
    linesFrom before (e.text ++ rest) =
      (before.reverse :: (linesFrom [] rest).1, (linesFrom [] rest).2) := by
  cases e with
  | lf => rfl
  | crlf => rfl
  | cr =>
    have hnext := hrest rfl
    show linesFrom before ('\r' :: rest) = _
    rw [linesFrom]
    · rfl
    · rintro more - rfl
      exact hnext rfl

theorem allLines_of_line (hbody : ∀ c ∈ body, isLineEnd c = false) : allLines body = [body] := by
  have hlines := linesFrom_append hbody [] []
  rw [List.append_nil, List.append_nil] at hlines
  rw [allLines, lines, hlines, linesFrom, List.reverse_reverse]
  rfl

theorem allLines_append (hbody : ∀ c ∈ body, isLineEnd c = false) (e : LineEnd) {rest : List Char}
    (hrest : e = .cr → rest.head? ≠ some '\n') :
    allLines (body ++ (e.text ++ rest)) = body :: allLines rest := by
  rw [allLines, lines, linesFrom_append hbody, linesFrom_lineEnd e hrest, List.append_nil,
    List.reverse_reverse]
  rfl

theorem filledLines_append (hbody : ∀ c ∈ body, isLineEnd c = false) (e : LineEnd)
    (rest : List Char) :
    filledLines (body ++ (e.text ++ rest)) = [body].filter (· ≠ []) ++ filledLines rest := by
  -- A line feed right behind a carriage return belongs to it. The empty line that it would end alone is not
  -- among the filled ones.
  by_cases hjoined : e = .cr ∧ rest.head? = some '\n'
  · obtain ⟨rfl, hhead⟩ := hjoined
    obtain ⟨more, rfl⟩ := List.head?_eq_some_iff.1 hhead
    have hempty : allLines ('\n' :: more) = [] :: allLines more :=
      @allLines_append [] nofun .lf more nofun
    have hfirst : allLines (body ++ (LineEnd.cr.text ++ '\n' :: more)) = body :: allLines more :=
      allLines_append hbody .crlf nofun
    rw [filledLines, filledLines, hfirst, hempty, List.filter_cons_of_neg (a := []) (by simp)]
    exact List.filter_append [body] _
  · have hrest : e = .cr → rest.head? ≠ some '\n' := fun he hhead => hjoined ⟨he, hhead⟩
    rw [filledLines, allLines_append hbody e hrest]
    exact List.filter_append [body] _

/-! ## 2. Settings of lines -/

/-- What a line sets, if anything. -/
def settingOf? (line : List Char) : Option (List Char × List Char) :=
  (parseLine line).toOption.join

/-- A key and a value as they are stored. -/
def stored (setting : List Char × List Char) : String × Value :=
  (String.ofList setting.1, .text (String.ofList setting.2))

theorem readLines_of_valid {lines : List (List Char)}
    (h : ∀ line ∈ lines, ∃ setting, parseLine line = .ok setting) (path : String) (number : Nat)
    (before : List (String × Value)) :
    readLines path number before lines =
      ([], .ok (((lines.filterMap settingOf?).map stored).foldl
        (fun acc (name, v) => Store.putEntry acc name v) before)) := by
  induction lines generalizing number before with
  | nil => rfl
  | cons line rest ih =>
    obtain ⟨⟨setting, hline⟩, hrest⟩ := List.forall_mem_cons.1 h
    rw [readLines, hline]
    cases setting with
    | none =>
      have hnone : settingOf? line = none := by rw [settingOf?, hline]; rfl
      dsimp only
      rw [ih hrest, List.filterMap_cons_none hnone]
    | some setting =>
      have hsome : settingOf? line = some setting := by rw [settingOf?, hline]; rfl
      dsimp only
      rw [ih hrest, List.filterMap_cons_some hsome]
      rfl

theorem parseLine_nil : parseLine [] = .ok none := rfl

theorem filterMap_filled (lines : List (List Char)) :
    (lines.filter (· ≠ [])).filterMap settingOf? = lines.filterMap settingOf? := by
  rw [List.filterMap_filter]
  refine List.filterMap_congr fun line _ => ?_
  split
  next => rfl
  next hempty =>
    have hnil : line = [] := by simpa using hempty
    rw [hnil, settingOf?, parseLine_nil]
    rfl

theorem parse_of_decode? {bytes : List UInt8} {cs : List Char} (h : Utf8.decode? bytes = some cs)
    (path : String) : parse path bytes = readLines path 0 [] (allLines cs) := by
  unfold parse
  rw [Utf8.decodePieces_of_decode? h]
  dsimp only
  rw [if_pos rfl]
  rfl

theorem parse_encode {cs : List Char}
    (h : ∀ line ∈ filledLines cs, ∃ setting, parseLine line = .ok setting) (path : String) :
    parse path (Utf8.encode cs) =
      ([], .ok (Store.ofPairs (((filledLines cs).filterMap settingOf?).map stored))) := by
  have hall : ∀ line ∈ allLines cs, ∃ setting, parseLine line = .ok setting := by
    intro line hline
    by_cases hempty : line = []
    · exact ⟨none, hempty ▸ parseLine_nil⟩
    · exact h line (List.mem_filter.2 ⟨hline, by simpa using hempty⟩)
  rw [parse_of_decode? (Utf8.decode?_encode cs), filledLines, filterMap_filled]
  exact readLines_of_valid hall path 0 []

theorem load_gives {σ : Type} {t : FileTree} {start : Option String} {extras : List String}
    {path : Path} {bytes : List UInt8} {settings : Settings}
    (hfind : find t start extras = .ok (some path)) (hbytes : t.read? path = some bytes)
    (hparse : parse path.text bytes = ([], .ok settings)) :
    (load t start extras : Action σ _).Gives (some (path, ⟨layerName, .mapping settings⟩)) := by
  have hsettings : settingsAt? t path = some settings := by
    rw [settingsAt?, hbytes, Option.getD_some, hparse]
    rfl
  have hread : (read t path >>= fun source => (pure (some (path, source)) : Action σ _)).Gives _ :=
    (read_gives hsettings).bind (.pure _)
  rw [load, hfind]
  exact (Action.Gives.ofExcept _).bind hread

/-- The value of a line is stored, whatever the other lines say, if no later line has its key. -/
theorem get_line {σ : Type} {t : FileTree} {start : Option String} {extras : List String} {path : Path}
    {cs line key value : List Char} {before after : List (List Char)}
    (hfind : find t start extras = .ok (some path)) (hbytes : t.read? path = some (Utf8.encode cs))
    (hlines : filledLines cs = before ++ line :: after)
    (hline : parseLine line = .ok (some (key, value)))
    (hvalid : ∀ other ∈ before ++ after, ∃ setting, parseLine other = .ok setting)
    (hlast : ∀ other ∈ after, ∀ setting, parseLine other = .ok (some setting) → setting.1 ≠ key) :
    ∃ source, (load t start extras : Action σ _).Gives (some (path, source)) ∧
      source.content.get (String.ofList key) = .ok (.text (String.ofList value)) := by
  have hall : ∀ other ∈ filledLines cs, ∃ setting, parseLine other = .ok setting := by
    intro other hother
    rw [hlines] at hother
    rcases List.mem_append.1 hother with hfront | hback
    · exact hvalid other (List.mem_append_left _ hfront)
    · rcases List.mem_cons.1 hback with rfl | hback
      · exact ⟨_, hline⟩
      · exact hvalid other (List.mem_append_right _ hback)
  refine ⟨_, load_gives hfind hbytes (parse_encode hall path.text), ?_⟩
  have hsetting : settingOf? line = some (key, value) := by
    rw [settingOf?, hline]
    rfl
  -- A later line with the same key would count instead of this one.
  have hnone : ((after.filterMap settingOf?).map stored).reverse.lookup
      (String.ofList key) = none := by
    refine Store.lookup_eq_none_iff.2 fun hmem => ?_
    obtain ⟨pair, hpair, hkey⟩ := List.mem_map.1 hmem
    obtain ⟨setting, hstored, rfl⟩ := List.mem_map.1 (List.mem_reverse.1 hpair)
    obtain ⟨other, hother, hsome⟩ := List.mem_filterMap.1 hstored
    have hparsed : parseLine other = .ok (some setting) :=
      toOption_eq_some_iff.1 (Option.join_eq_some_iff.1 hsome)
    exact hlast other hother setting hparsed (String.ofList_inj.1 hkey)
  have hlookup : (Store.ofPairs (((filledLines cs).filterMap settingOf?).map
      stored)).lookup (String.ofList key) = some (.text (String.ofList value)) := by
    rw [Store.lookup_ofPairs, hlines, List.filterMap_append, List.filterMap_cons_some hsetting,
      List.map_append, List.map_cons, List.reverse_append, List.reverse_cons, List.append_assoc,
      List.lookup_append, hnone, Option.none_or, List.singleton_append]
    exact List.lookup_cons_self
  show Except.ok (Store.valueOf _ _) = _
  rw [Store.valueOf_eq_lookup, hlookup]
  rfl

/-! ## 3. Written files -/

/-- A name and a value that can stand on one line. -/
structure Entry where
  name : List Char
  value : List Char
  name_ne_nil : name ≠ []
  name_chars : ∀ c ∈ name, isNameChar c = true
  value_chars : ∀ c ∈ value, isLineEnd c = false

/-- The key under which a value is stored, and the value. -/
def Entry.setting (entry : Entry) : List Char × List Char :=
  (dottedKey entry.name, entry.value)

/-- A line of a file: a setting, blanks, or a comment that may be indented. -/
inductive Line where
  | setting (exported : Bool) (entry : Entry)
  | blank (blanks : List Char) (h : ∀ c ∈ blanks, Text.isBlank c = true ∧ isLineEnd c = false)
  | comment (indent text : List Char) (hindent : ∀ c ∈ indent, Text.isBlank c = true ∧ isLineEnd c = false)
      (htext : ∀ c ∈ text, isLineEnd c = false)

namespace Line

/-- A line as it is written, its value in double quotes. -/
def text : Line → List Char
  | setting exported entry =>
    (if exported then exportWord else []) ++ (entry.name ++ '=' :: '"' :: (entry.value ++ ['"']))
  | blank blanks _ => blanks
  | comment indent text _ _ => indent ++ '#' :: text

def entry? : Line → Option Entry
  | setting _ entry => some entry
  | blank .. | comment .. => none

theorem parseLine_text (line : Line) : parseLine line.text = .ok (line.entry?.map Entry.setting) := by
  cases line with
  | setting exported entry =>
    have hline := parseLine_assignment exported entry.name_ne_nil entry.name_chars
      ('"' :: (entry.value ++ ['"']))
    rwa [cleanValue_quoted (.inl rfl)] at hline
  | blank blanks h =>
    have htrim : Text.trim blanks = [] := by
      rw [Text.trim, Text.trimStart, List.dropWhile_eq_nil_iff.2 fun c hc => (h c hc).1]
      rfl
    rw [text, parseLine, htrim]
    rfl
  | comment indent text hindent htext =>
    have htrim : Text.trim (indent ++ '#' :: text) = '#' :: Text.trimEnd text := by
      rw [Text.trim, Text.trimStart, List.dropWhile_append_of_pos fun c hc => (hindent c hc).1]
      exact Text.trimEnd_append_cons (by decide : Text.isBlank '#' = false) [] text
    rw [Line.text, parseLine, htrim]
    rfl

theorem notLineEnd_text (line : Line) : ∀ c ∈ line.text, isLineEnd c = false := by
  cases line with
  | setting exported entry =>
    have hword : ∀ c ∈ exportWord, isLineEnd c = false := by
      show ∀ c ∈ "export ".toList, isLineEnd c = false
      simp [isLineEnd]
    have hname : ∀ c ∈ entry.name, isLineEnd c = false :=
      fun c hc => isLineEnd_eq_false (of_isNameChar (entry.name_chars c hc)).1
    have hquote : isLineEnd '"' = false := by decide
    have hvalue : ∀ c ∈ '"' :: (entry.value ++ ['"']), isLineEnd c = false :=
      List.forall_mem_cons.2 ⟨hquote, List.forall_mem_append.2
        ⟨entry.value_chars, List.forall_mem_singleton.2 hquote⟩⟩
    refine List.forall_mem_append.2 ⟨?_, List.forall_mem_append.2
      ⟨hname, List.forall_mem_cons.2 ⟨by decide, hvalue⟩⟩⟩
    cases exported with
    | false => exact nofun
    | true => exact hword
  | blank blanks h => exact fun c hc => (h c hc).2
  | comment indent text hindent htext =>
    exact List.forall_mem_append.2 ⟨fun c hc => (hindent c hc).2,
      List.forall_mem_cons.2 ⟨by decide, htext⟩⟩

end Line

/-- The text of a file: lines with what ends them, and a last line. -/
def fileText (lines : List (Line × LineEnd)) (last : Line) : List Char :=
  lines.flatMap (fun (line, e) => line.text ++ e.text) ++ last.text

theorem filledLines_fileText (lines : List (Line × LineEnd)) (last : Line) :
    filledLines (fileText lines last) =
      ((lines.map (·.1) ++ [last]).map Line.text).filter (· ≠ []) := by
  induction lines with
  | nil => exact congrArg _ (allLines_of_line last.notLineEnd_text)
  | cons entry lines ih =>
    obtain ⟨line, e⟩ := entry
    have hsplit : fileText ((line, e) :: lines) last =
        line.text ++ (e.text ++ fileText lines last) := by
      simp only [fileText, List.flatMap_cons, List.append_assoc]
    rw [hsplit, filledLines_append line.notLineEnd_text, ih, ← List.filter_append]
    rfl

/-- The entries of a file in the order of their lines. -/
def entriesOf (lines : List (Line × LineEnd)) (last : Line) : List Entry :=
  (lines.map (·.1) ++ [last]).filterMap Line.entry?

theorem parse_fileText (path : String) (lines : List (Line × LineEnd)) (last : Line) :
    parse path (Utf8.encode (fileText lines last)) =
      ([], .ok (Store.ofPairs ((entriesOf lines last).map (stored ·.setting)))) := by
  have hvalid : ∀ line ∈ filledLines (fileText lines last), ∃ setting, parseLine line = .ok setting := by
    intro text htext
    rw [filledLines_fileText] at htext
    obtain ⟨line, -, rfl⟩ := List.mem_map.1 (List.mem_filter.1 htext).1
    exact ⟨_, line.parseLine_text⟩
  have hsetting : settingOf? ∘ Line.text = fun line => line.entry?.map Entry.setting := by
    funext line
    rw [Function.comp, settingOf?, line.parseLine_text]
    rfl
  rw [parse_encode hvalid, filledLines_fileText, filterMap_filled, List.filterMap_map, hsetting,
    ← List.map_filterMap, List.map_map]
  rfl

theorem Entry.inCapitals {entry : Entry} (h : ∀ c ∈ entry.name, c.isLower = false ∧ c ≠ '.') :
    InCapitals entry.name :=
  fun c hc => ⟨toNat_of_isNameChar (entry.name_chars c hc), h c hc⟩

/-- **Round trip.** A file of settings with quoted values, between which blank lines and comments may stand,
loads as its entries say: the keys are those of the names in the order in which they come first, and each has
the value of its last entry, character by character. Names in capitals without dots have keys of their own. -/
theorem quoted_settings_round_trip {σ : Type} {t : FileTree} {start : Option String}
    {extras : List String} {path : Path} {lines : List (Line × LineEnd)} {last : Line}
    (hfind : find t start extras = .ok (some path))
    (hbytes : t.read? path = some (Utf8.encode (fileText lines last))) :
    ∃ settings : Settings,
      (load t start extras : Action σ _).Gives (some (path, ⟨layerName, .mapping settings⟩)) ∧
      settings.map (·.1) =
        ((entriesOf lines last).map fun entry => String.ofList (dottedKey entry.name)).eraseDups ∧
      (∀ key, settings.lookup key =
        ((entriesOf lines last).map (stored ·.setting)).reverse.lookup key) ∧
      ∀ entry ∈ entriesOf lines last, ∀ other ∈ entriesOf lines last,
        (∀ c ∈ entry.name, c.isLower = false ∧ c ≠ '.') →
          (∀ c ∈ other.name, c.isLower = false ∧ c ≠ '.') →
            dottedKey entry.name = dottedKey other.name → entry.name = other.name := by
  have hparse := parse_fileText path.text lines last
  refine ⟨Store.ofPairs ((entriesOf lines last).map (stored ·.setting)),
    load_gives hfind hbytes hparse, ?_, Store.lookup_ofPairs _, ?_⟩
  · rw [Store.names_ofPairs, List.map_map]
    rfl
  · intro entry _ other _ hentry hother hkeys
    exact dottedKey_injective (Entry.inCapitals hentry) (Entry.inCapitals hother) hkeys

/-- A tree with a `.env` file in the working directory. -/
def treeOf (bytes : List UInt8) : FileTree where
  root := ⟨1, ["srv"]⟩
  files := [(["srv", ".env"], bytes)]
  directories := []

theorem find_treeOf (bytes : List UInt8) :
    find (treeOf bytes) none [] = .ok (some ⟨1, ["srv", ".env"]⟩) := by
  have hcandidates : candidates (treeOf bytes) none [] = [⟨1, ["srv", ".env"]⟩, ⟨1, [".env"]⟩] := rfl
  have hshort : ∀ p ∈ [(⟨1, ["srv", ".env"]⟩ : Path), ⟨1, [".env"]⟩],
      p.text.utf8ByteSize ≤ FileTree.pathLimit ∧
        ∀ part ∈ p.parts, part.utf8ByteSize ≤ FileTree.nameLimit := by
    decide +kernel
  rw [find, hcandidates, firstFile_of_allowed (refused?_of_forall fun p hp =>
    FileTree.refuses_of_short (hshort p hp).1 (hshort p hp).2)]
  rfl

theorem read?_treeOf (bytes : List UInt8) :
    (treeOf bytes).read? ⟨1, ["srv", ".env"]⟩ = some bytes := by
  cbv

/-- Two names with one key, and a carriage return in front of an empty line that a line feed ends. -/
def mixedLines : List (Line × LineEnd) :=
  [(.setting true ⟨"A__B".toList, "x".toList, by decide, List.all_eq_true.1 (by decide),
      by simp [isLineEnd]⟩, .cr),
    (.blank [] nofun, .lf),
    (.comment [' '] "a=b".toList (List.forall_mem_singleton.2 (by decide)) (by simp [isLineEnd]), .crlf),
    (.setting false ⟨"C_D-E".toList, " = # '".toList, by decide, List.all_eq_true.1 (by decide),
      by simp [isLineEnd]⟩, .lf)]

def mixedLast : Line :=
  .setting false ⟨"a__b".toList, "\"y\\".toList, by decide, List.all_eq_true.1 (by decide),
    by simp [isLineEnd]⟩

theorem quoted_settings_round_trip_mixed :
    ∃ settings : Settings,
      (load (treeOf (Utf8.encode (fileText mixedLines mixedLast))) none [] : Action Unit _).Gives
        (some (⟨1, ["srv", ".env"]⟩, ⟨layerName, .mapping settings⟩)) ∧
      settings.map (·.1) = ["a.b", "c_d-e"] ∧
      settings.lookup "a.b" = some (.text "\"y\\") ∧
      settings.lookup "c_d-e" = some (.text " = # '") := by
  obtain ⟨settings, hload, hnames, hvalues, -⟩ :=
    quoted_settings_round_trip (find_treeOf (Utf8.encode (fileText mixedLines mixedLast)))
      (read?_treeOf (Utf8.encode (fileText mixedLines mixedLast)))
  refine ⟨settings, hload, hnames.trans ?_, (hvalues "a.b").trans ?_, (hvalues "c_d-e").trans ?_⟩
  · cbv
  · cbv
  · cbv

end LayeredConfig.Dotenv
