import LayeredConfig.Proofs.Dotenv.Settings

/-!
# Grammar — which files can be read, and what they set

    line := blanks | blanks "#" text | blanks ["export " blanks] name "=" value

A file whose lines have this form sets what they say, one after the other. Otherwise the first line that is
malformed is named by its number (`reads_line_grammar`).
-/

namespace LayeredConfig.Dotenv

open Text (isBlank trim)

/-! ## 1. The lines of a text -/

/-- A text is cut into lines. Each has what ends it behind it, and nothing ends the last one. -/
inductive CutInto : List Char → List (List Char) → Prop where
  | last {line} (hline : ∀ c ∈ line, isLineEnd c = false) : CutInto line [line]
  | line {line rest lines} (hline : ∀ c ∈ line, isLineEnd c = false) (e : LineEnd)
      (hrest : e = .cr → rest.head? ≠ some '\n') (hlines : CutInto rest lines) :
      CutInto (line ++ (e.text ++ rest)) (line :: lines)

theorem CutInto.eq_allLines {cs : List Char} {lines : List (List Char)} (h : CutInto cs lines) :
    lines = allLines cs := by
  induction h with
  | last hline => exact (allLines_of_line hline).symm
  | line hline e hrest _ ih => rw [allLines_append hline e hrest, ih]

/-- On the way through a text the line so far has no end in it. -/
theorem cutInto_linesFrom (before cs : List Char) (hbefore : ∀ c ∈ before, isLineEnd c = false) :
    CutInto (before.reverse ++ cs) ((linesFrom before cs).1 ++ [(linesFrom before cs).2]) := by
  have hline : ∀ c ∈ before.reverse, isLineEnd c = false :=
    fun c hc => hbefore c (List.mem_reverse.1 hc)
  have hnone : ∀ c ∈ ([] : List Char), isLineEnd c = false := List.forall_mem_nil _
  fun_induction linesFrom before cs with
  | case1 before =>
    rw [List.append_nil]
    exact .last hline
  | case2 before rest lines last hlines ih =>
    rw [hlines] at ih
    exact .line hline .crlf (fun he => by cases he) (ih hnone hnone)
  | case3 before c rest hnext hend lines last hlines ih =>
    rw [hlines] at ih
    obtain rfl | rfl : c = '\n' ∨ c = '\r' := by simpa using hend
    · exact .line hline .lf (fun he => by cases he) (ih hnone hnone)
    · have hrest : rest.head? ≠ some '\n' := by
        intro hhead
        obtain ⟨more, hmore⟩ := List.head?_eq_some_iff.1 hhead
        exact hnext more rfl hmore
      exact .line hline .cr (fun _ => hrest) (ih hnone hnone)
  | case4 before c rest _ hother ih =>
    have hc : isLineEnd c = false := by simpa [isLineEnd] using hother
    have hlonger : ∀ x ∈ c :: before, isLineEnd x = false := List.forall_mem_cons.2 ⟨hc, hbefore⟩
    have hcut := ih hlonger fun x hx => hlonger x (List.mem_reverse.1 hx)
    rwa [List.reverse_cons, List.append_assoc, List.singleton_append] at hcut

theorem cutInto_iff {cs : List Char} {lines : List (List Char)} :
    CutInto cs lines ↔ lines = allLines cs := by
  refine ⟨CutInto.eq_allLines, ?_⟩
  rintro rfl
  exact cutInto_linesFrom [] cs (List.forall_mem_nil _)

/-! ## 2. The parts of a line -/

variable {line : List Char}

/-- A line that says something: it is not blank, and no comment. -/
def Says (line : List Char) : Prop :=
  trim line ≠ [] ∧ (trim line).head? ≠ some '#'

instance (line : List Char) : Decidable (Says line) :=
  inferInstanceAs (Decidable (_ ∧ _))

/-- A line without the blanks around it and without the word that exports its name. -/
def assignment (line : List Char) : List Char :=
  if exportWord <+: trim line then ((trim line).drop exportWord.length).dropWhile isBlank
  else trim line

/-- What stands in front of the first equals sign. -/
def nameOf (line : List Char) : List Char :=
  (assignment line).takeWhile (· ≠ '=')

/-- What stands behind the first equals sign. -/
def valueOf (line : List Char) : List Char :=
  ((assignment line).dropWhile (· ≠ '=')).tail

/-- A line that says something, but has no equals sign, or only blanks in front of the first one. -/
def Malformed (line : List Char) : Prop :=
  Says line ∧ ('=' ∉ assignment line ∨ ∀ c ∈ nameOf line, isBlank c = true)

instance (line : List Char) : Decidable (Malformed line) :=
  decidable_of_iff (Says line ∧ ('=' ∉ assignment line ∨ (nameOf line).all isBlank = true))
    (by rw [List.all_eq_true, Malformed])

/-- The key and the value of a line. -/
def settingOf (line : List Char) : List Char × List Char :=
  (dottedKey (trim (nameOf line)), cleanValue (trim (valueOf line)))

/-- What is wrong with a malformed line. -/
def faultOf (line : List Char) : LineFault :=
  if '=' ∈ assignment line then .noName else .noEqualsSign

theorem assignment_eq (line : List Char) : assignment line = withoutExport (trim line) := by
  rw [assignment]
  split
  next hword =>
    obtain ⟨rest, hrest⟩ := hword
    rw [← hrest, withoutExport_exportWord, List.drop_left]
    rfl
  next hword => rw [withoutExport_of_notPrefix hword]

theorem parseLine_eq_none (h : ¬Says line) : parseLine line = .ok none := by
  have hskip : (decide (trim line = []) || decide ((trim line).head? = some '#')) = true := by
    rw [Bool.or_eq_true, decide_eq_true_eq, decide_eq_true_eq]
    by_contra hboth
    exact h (not_or.1 hboth)
  unfold parseLine
  exact if_pos hskip

theorem parseLine_eq_ite (h : Says line) :
    parseLine line =
      if Malformed line then .error (faultOf line) else .ok (some (settingOf line)) := by
  have hread : ¬(decide (trim line = []) || decide ((trim line).head? = some '#')) = true := by
    rw [Bool.or_eq_true, decide_eq_true_eq, decide_eq_true_eq]
    exact not_or.2 h
  unfold parseLine
  dsimp only
  rw [if_neg hread, ← assignment_eq, faultOf]
  by_cases hsign : '=' ∈ assignment line
  · rw [Text.cutAt?_of_mem hsign, if_pos hsign]
    dsimp only
    rw [← nameOf, ← valueOf, ← settingOf]
    by_cases hname : trim (nameOf line) = []
    · have hmalformed : Malformed line := ⟨h, .inr (Text.trim_eq_nil_iff.1 hname)⟩
      rw [if_pos hname, if_pos hmalformed]
    · have hformed : ¬Malformed line := by
        rintro ⟨-, hnone | hblank⟩
        · exact hnone hsign
        · exact hname (Text.trim_eq_nil_iff.2 hblank)
      rw [if_neg hname, if_neg hformed]
  · have hmalformed : Malformed line := ⟨h, .inl hsign⟩
    rw [Text.cutAt?_of_notMem hsign, if_pos hmalformed, if_neg hsign]

theorem parseLine_of_formed (h : ¬Malformed line) :
    parseLine line = .ok (if Says line then some (settingOf line) else none) := by
  by_cases hsays : Says line
  · rw [parseLine_eq_ite hsays, if_neg h, if_pos hsays]
  · rw [parseLine_eq_none hsays, if_neg hsays]

/-! ## 3. Files -/

/-- The settings of lines that say something, in their order. -/
def settingsOf (lines : List (List Char)) : List (String × Value) :=
  (lines.filter (Says ·)).map (stored ∘ settingOf)

/-- The error that names a malformed line by its number. -/
def lineError (path : String) (number : Nat) (line : List Char) : Error :=
  if '=' ∈ assignment line then .missingName number path else .malformedLine number path

theorem category_lineError (path : String) (number : Nat) (line : List Char) :
    (lineError path number line).category = .invalidFormat := by
  unfold lineError
  split
  next => rfl
  next => rfl

theorem filterMap_settingOf? {lines : List (List Char)} (h : ∀ line ∈ lines, ¬Malformed line) :
    (lines.filterMap settingOf?).map stored = settingsOf lines := by
  induction lines with
  | nil => rfl
  | cons line lines ih =>
    obtain ⟨hline, hlines⟩ := List.forall_mem_cons.1 h
    have hsetting : settingOf? line = if Says line then some (settingOf line) else none := by
      rw [settingOf?, parseLine_of_formed hline]
      rfl
    rw [settingsOf]
    by_cases hsays : Says line
    · rw [if_pos hsays] at hsetting
      rw [List.filterMap_cons_some hsetting, List.filter_cons_of_pos (by simpa using hsays),
        List.map_cons, List.map_cons, ih hlines]
      rfl
    · rw [if_neg hsays] at hsetting
      rw [List.filterMap_cons_none hsetting, List.filter_cons_of_neg (by simpa using hsays), ih hlines]
      rfl

theorem readLines_of_formed {lines : List (List Char)} (h : ∀ line ∈ lines, ¬Malformed line)
    (path : String) : readLines path 0 [] lines = ([], .ok (Store.ofPairs (settingsOf lines))) := by
  rw [readLines_of_valid fun line hline => ⟨_, parseLine_of_formed (h line hline)⟩,
    filterMap_settingOf? h]
  rfl

/-- The lines in front of a malformed one are counted, whatever they say. -/
theorem readLines_of_malformed {front : List (List Char)} (hfront : ∀ other ∈ front, ¬Malformed other)
    (h : Malformed line) (back : List (List Char)) (path : String) (number : Nat) (settings : Settings) :
    readLines path number settings (front ++ line :: back) =
      ([.dotenvInvalidLine path (number + front.length + 1)],
        .error (lineError path (number + front.length + 1) line)) := by
  induction front generalizing number settings with
  | nil =>
    rw [List.nil_append, readLines, parseLine_eq_ite h.1, if_pos h, faultOf, lineError]
    by_cases hsign : '=' ∈ assignment line
    · rw [if_pos hsign, if_pos hsign]
      rfl
    · rw [if_neg hsign, if_neg hsign]
      rfl
  | cons other front ih =>
    obtain ⟨hother, hfront⟩ := List.forall_mem_cons.1 hfront
    have hcount : number + (other :: front).length = number + 1 + front.length := by
      rw [List.length_cons]
      omega
    rw [List.cons_append, readLines, parseLine_of_formed hother, hcount]
    by_cases hsays : Says other
    · rw [if_pos hsays]
      exact ih hfront _ _
    · rw [if_neg hsays]
      exact ih hfront _ _

/-- **Grammar.** A text is cut into lines at each line feed, carriage return, or both. It can be read exactly
if no line is malformed, and then each line that says something sets a key, in the order of the lines. If
there are malformed lines, the first of them is reported by its number, all lines before it counted. -/
theorem reads_line_grammar {bytes : List UInt8} {cs : List Char}
    (hbytes : Utf8.decode? bytes = some cs) (path : String) :
    (∀ lines, CutInto cs lines ↔ lines = allLines cs) ∧
      ((∃ e, (parse path bytes).2 = .error e ∧ e.category = .invalidFormat) ↔
        ∃ line ∈ allLines cs, Malformed line) ∧
      (∀ front line back, allLines cs = front ++ line :: back →
        (∀ other ∈ front, ¬Malformed other) → Malformed line →
          parse path bytes =
            ([.dotenvInvalidLine path (front.length + 1)],
              .error (lineError path (front.length + 1) line))) ∧
      ((∀ line ∈ allLines cs, ¬Malformed line) →
        parse path bytes = ([], .ok (Store.ofPairs (settingsOf (allLines cs))))) := by
  have hfails : ∀ front line back, allLines cs = front ++ line :: back →
      (∀ other ∈ front, ¬Malformed other) → Malformed line →
        parse path bytes =
          ([.dotenvInvalidLine path (front.length + 1)],
            .error (lineError path (front.length + 1) line)) := by
    intro front line back hlines hfront hline
    rw [parse_of_decode? hbytes, hlines, readLines_of_malformed hfront hline, Nat.zero_add]
  have hreads : (∀ line ∈ allLines cs, ¬Malformed line) →
      parse path bytes = ([], .ok (Store.ofPairs (settingsOf (allLines cs)))) := by
    intro h
    rw [parse_of_decode? hbytes, readLines_of_formed h]
  refine ⟨fun _ => cutInto_iff, ⟨?_, ?_⟩, hfails, hreads⟩
  · rintro ⟨e, he, -⟩
    by_contra hnone
    rw [hreads fun line hline hbad => hnone ⟨line, hline, hbad⟩] at he
    exact nomatch he
  · rintro ⟨line, hline, hbad⟩
    -- The first malformed line is the one that counts.
    have hfound : ((allLines cs).find? (Malformed ·)).isSome = true :=
      List.find?_isSome.2 ⟨line, hline, decide_eq_true hbad⟩
    obtain ⟨first, hfirst⟩ := Option.isSome_iff_exists.1 hfound
    obtain ⟨hfirstbad, front, back, hlines, hfront⟩ := List.find?_eq_some_iff_append.1 hfirst
    refine ⟨_, congrArg Prod.snd (hfails front first back hlines ?_ (of_decide_eq_true hfirstbad)),
      category_lineError ..⟩
    exact fun other hother => by simpa using hfront other hother

/-- Lines with different ends, one of them empty, a name that looks like the word that exports, and a name that
is set twice. -/
def formedText : List Char :=
  "# c\r\n\rexport=1\n export  A = 2 # x\nA='3'".toList

/-- A name is missing where a comment stands. -/
def malformedText : List Char :=
  formedText ++ "\rexport #no\n=B\n".toList

theorem reads_line_grammar_mixed :
    parse ".env" (Utf8.encode formedText) = ([], .ok [("export", .text "1"), ("a", .text "3")]) ∧
      parse ".env" (Utf8.encode malformedText) =
        ([.dotenvInvalidLine ".env" 6], .error (.malformedLine 6 ".env")) := by
  have hformed : ∀ line ∈ allLines formedText, ¬Malformed line := by
    decide
  have hlines : allLines malformedText = allLines formedText ++ ["export #no".toList, "=B".toList, []] := by
    cbv
  constructor
  · rw [(reads_line_grammar (Utf8.decode?_encode formedText) ".env").2.2.2 hformed]
    cbv
  · have hbad : Malformed "export #no".toList := by decide
    exact (reads_line_grammar (Utf8.decode?_encode malformedText) ".env").2.2.1 _ _ _ hlines hformed hbad

end LayeredConfig.Dotenv
