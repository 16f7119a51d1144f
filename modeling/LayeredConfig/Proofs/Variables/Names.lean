import LayeredConfig.Proofs.Distinct
import LayeredConfig.Proofs.Dotenv.Settings

/-!
# Names — variables that are found under dotted keys

A variable in capitals is one of the spellings of its dotted key (`mem_spellings_dottedKey`). So it answers
the key that a line of a `.env` file has its value under (`variable_under_dotted_key`).
-/

namespace LayeredConfig.Variables

/-! ## 1. Spellings of a key -/

theorem distinctTexts_eq_eraseDups (texts : List (List Char)) :
    distinctTexts texts = texts.eraseDups := by
  rw [← Distinct.foldl_join_eq_eraseDups]
  simp only [distinctTexts, List.contains_iff_mem]

theorem mem_distinctTexts {texts : List (List Char)} {cs : List Char} :
    cs ∈ distinctTexts texts ↔ cs ∈ texts := by
  rw [distinctTexts_eq_eraseDups, List.mem_eraseDups]

/-- The characters of the names of variables. -/
def isVariableChar (c : Char) : Bool :=
  c.isUpper || c.isDigit || c == '_'

theorem of_isVariableChar {c : Char} (h : isVariableChar c = true) :
    Dotenv.isNameChar c = true ∧ c.isLower = false ∧ c ≠ '.' ∧ c ≠ '-' := by
  have hname : Dotenv.isNameChar c = true := by
    simp only [isVariableChar, Bool.or_eq_true] at h
    simp only [Dotenv.isNameChar, Char.isAlphanum, Char.isAlpha, Bool.or_eq_true]
    tauto
  refine ⟨hname, ?_⟩
  revert h
  apply Text.of_ascii (Dotenv.toNat_of_isNameChar hname)
  decide

section Spelled

variable {v : List Char}

theorem inCapitals_of_variable (hv : ∀ c ∈ v, isVariableChar c = true) : Dotenv.InCapitals v :=
  fun c hc =>
    have hchar := of_isVariableChar (hv c hc)
    ⟨Dotenv.toNat_of_isNameChar hchar.1, hchar.2.1, hchar.2.2.1⟩

/-- Two underscores for each dot of the key in capitals give the name back. -/
theorem mem_spellings_dottedKey (hv : ∀ c ∈ v, isVariableChar c = true) :
    v ∈ spellings (Dotenv.dottedKey v) := by
  have hback := Dotenv.replaceChar_upper_dottedKey (inCapitals_of_variable hv)
  have hdashes : Text.replaceChar '-' ['_'] v = v :=
    Text.replaceChar_of_notMem (fun hmem => (of_isVariableChar (hv _ hmem)).2.2.2 rfl) _
  refine mem_distinctTexts.2 (List.mem_append_right _ ?_)
  unfold underscored
  dsimp only
  rw [hback, hdashes]
  simp

end Spelled

theorem find?_of_takeWhile {α : Type} [DecidableEq α] {l : List α} {p : α → Bool} {a : α}
    (hmem : a ∈ l) (ha : p a = true) (hbefore : ∀ b ∈ l.takeWhile (· ≠ a), p b = false) :
    l.find? p = some a := by
  induction l with
  | nil => exact absurd hmem List.not_mem_nil
  | cons first rest ih =>
    by_cases hfirst : first = a
    · rw [hfirst, List.find?_cons_of_pos ha]
    · rw [List.takeWhile_cons_of_pos (by simpa using hfirst)] at hbefore
      obtain ⟨hno, hrest⟩ := List.forall_mem_cons.1 hbefore
      rw [List.find?_cons_of_neg (by simp [hno])]
      exact ih ((List.mem_cons.1 hmem).resolve_left (Ne.symm hfirst)) hrest

theorem resolve?_eq_some {names : List String} {key v : List Char} (hspelled : v ∈ spellings key)
    (hv : String.ofList v ∈ names)
    (hearlier : ∀ s ∈ (spellings key).takeWhile (· ≠ v), String.ofList s ∉ names) :
    resolve? names (String.ofList key) = some (String.ofList v) := by
  have hfound : (spellings key).find? (fun s => names.contains (String.ofList s)) = some v :=
    find?_of_takeWhile hspelled (List.contains_iff_mem.2 hv) fun s hs => by
      rw [Bool.eq_false_iff]
      exact mt List.contains_iff_mem.1 (hearlier s hs)
  rw [resolve?, String.toList_ofList, List.find?_map]
  exact congrArg (Option.map String.ofList) hfound

/-! ## 2. Variables with a prefix -/

section Collected

variable {front : List Char} {environ : List (String × Value)}

theorem collect_cons_of_front {rest : List Char} (hrest : rest ≠ []) (x : Value) :
    collect front ((String.ofList (front ++ rest), x) :: environ) =
      (String.ofList rest, x) :: collect front environ := by
  have hstrip : front.isPrefixOf? (String.ofList (front ++ rest)).toList = some rest := by
    rw [String.toList_ofList]
    exact List.isPrefixOf?_eq_some_iff_append_eq.2 rfl
  refine List.filterMap_cons_some ?_
  dsimp only
  rw [hstrip]
  cases rest with
  | nil => exact absurd rfl hrest
  | cons => rfl

theorem collect_cons_of_other {name : String}
    (h : ∀ rest ≠ [], name ≠ String.ofList (front ++ rest)) (x : Value) :
    collect front ((name, x) :: environ) = collect front environ := by
  refine List.filterMap_cons_none ?_
  dsimp only
  split
  next => rfl
  next => rfl
  next rest hrest hstrip =>
    have hwhole := List.isPrefixOf?_eq_some_iff_append_eq.1 hstrip
    exact absurd (by rw [hwhole, String.ofList_toList]) (h rest hrest)

/-- What is collected under a name is what stands under the whole name. -/
theorem lookup_collect {v : List Char} (hv : v ≠ []) :
    (collect front environ).lookup (String.ofList v) = environ.lookup (String.ofList (front ++ v)) := by
  induction environ with
  | nil => rfl
  | cons entry environ ih =>
    obtain ⟨name, x⟩ := entry
    -- An entry without the front, or with nothing behind it, is left out on one side and no match on the other.
    by_cases hcounts : ∃ rest ≠ [], name = String.ofList (front ++ rest)
    · obtain ⟨rest, hrest, rfl⟩ := hcounts
      rw [collect_cons_of_front hrest, List.lookup_cons, List.lookup_cons, ih]
      have hsame : (String.ofList v == String.ofList rest) =
          (String.ofList (front ++ v) == String.ofList (front ++ rest)) := by
        rw [Bool.eq_iff_iff, beq_iff_eq, beq_iff_eq, String.ofList_inj, String.ofList_inj,
          List.append_cancel_left_eq]
      rw [hsame]
    · have hother : ∀ rest ≠ [], name ≠ String.ofList (front ++ rest) :=
        fun rest hrest hname => hcounts ⟨rest, hrest, hname⟩
      rw [collect_cons_of_other hother, List.lookup_cons,
        beq_eq_false_iff_ne.2 (Ne.symm (hother v hv)), ih]

theorem notMem_names_collect {s : List Char} (h : String.ofList (front ++ s) ∉ environ.map (·.1)) :
    String.ofList s ∉ (collect front environ).map (·.1) := by
  induction environ with
  | nil => exact List.not_mem_nil
  | cons entry environ ih =>
    obtain ⟨name, x⟩ := entry
    obtain ⟨hname, hrest⟩ := not_or.1 (mt List.mem_cons.2 h)
    by_cases hcounts : ∃ rest ≠ [], name = String.ofList (front ++ rest)
    · obtain ⟨rest, hne, rfl⟩ := hcounts
      rw [collect_cons_of_front hne, List.map_cons, List.mem_cons, not_or]
      refine ⟨fun hsame => hname ?_, ih hrest⟩
      rw [String.ofList_inj.1 hsame]
    · rw [collect_cons_of_other fun rest hne heq => hcounts ⟨rest, hne, heq⟩]
      exact ih hrest

end Collected

/-! ## 3. One key for both -/

theorem get_variable {σ : Type} {environ : List (String × Value)} {given : Option String}
    {v : List Char} {x : Value} (hne : v ≠ []) (hv : ∀ c ∈ v, isVariableChar c = true)
    (hx : environ.lookup (String.ofList (mark given ++ v)) = some x)
    (hearlier : ∀ s ∈ (spellings (Dotenv.dottedKey v)).takeWhile (· ≠ v),
      String.ofList (mark given ++ s) ∉ environ.map (·.1)) :
    ∃ source, (load environ given layerName : Action σ _).Gives source ∧
      source.content.resolveName (String.ofList (Dotenv.dottedKey v)) = .ok (some (String.ofList v)) ∧
      source.content.get (String.ofList (Dotenv.dottedKey v)) = .ok x := by
  have hlookup : (collect (mark given) environ).lookup (String.ofList v) = some x := by
    rw [lookup_collect hne, hx]
  have hmem : String.ofList v ∈ (collect (mark given) environ).map (·.1) := by
    by_contra hnot
    rw [Store.lookup_eq_none_iff.2 hnot] at hlookup
    exact nomatch hlookup
  have hresolve := resolve?_eq_some (mem_spellings_dottedKey hv) hmem fun s hs =>
    notMem_names_collect (hearlier s hs)
  refine ⟨_, load_gives environ given, congrArg Except.ok hresolve, ?_⟩
  show Except.ok (((resolve? _ _).map _).getD _) = _
  rw [hresolve, Option.map_some, Option.getD_some, Store.valueOf_eq_lookup, hlookup]
  rfl

/-- **One key for both.** A variable in capitals answers the dotted key that a line of a `.env` file with
its name has its value under, wherever underscores stand in the name. What stands in double quotes on such
a line is the value as it is. -/
theorem variable_under_dotted_key {σ : Type} {environ : List (String × Value)} {given : Option String}
    {v x : List Char} (hne : v ≠ []) (hv : ∀ c ∈ v, isVariableChar c = true)
    (hx : environ.lookup (String.ofList (mark given ++ v)) = some (.text (String.ofList x)))
    (hearlier : ∀ s ∈ (spellings (Dotenv.dottedKey v)).takeWhile (· ≠ v),
      String.ofList (mark given ++ s) ∉ environ.map (·.1)) :
    (∃ source, (load environ given layerName : Action σ _).Gives source ∧
      source.content.resolveName (String.ofList (Dotenv.dottedKey v)) = .ok (some (String.ofList v)) ∧
      source.content.get (String.ofList (Dotenv.dottedKey v)) = .ok (.text (String.ofList x))) ∧
    (∀ (t : FileTree) (start : Option String) (extras : List String) (path : Path) (cs written : List Char)
        (before after : List (List Char)),
      Dotenv.find t start extras = .ok (some path) →
      t.read? path = some (Utf8.encode cs) →
      Dotenv.filledLines cs = before ++ (v ++ '=' :: written) :: after →
      (∀ other ∈ before ++ after, ∃ setting, Dotenv.parseLine other = .ok setting) →
      (∀ other ∈ after, ∀ setting, Dotenv.parseLine other = .ok (some setting) →
        setting.1 ≠ Dotenv.dottedKey v) →
      ∃ source, (Dotenv.load t start extras : Action σ _).Gives (some (path, source)) ∧
        source.content.get (String.ofList (Dotenv.dottedKey v)) =
          .ok (.text (String.ofList (Dotenv.cleanValue (Text.trim written))))) ∧
    Dotenv.cleanValue (Text.trim ('"' :: (x ++ ['"']))) = x := by
  refine ⟨get_variable hne hv hx hearlier, ?_, Dotenv.cleanValue_quoted (.inl rfl) x⟩
  intro t start extras path cs written before after hfind hbytes hlines hvalid hlast
  have hnames : ∀ c ∈ v, Dotenv.isNameChar c = true := fun c hc => (of_isVariableChar (hv c hc)).1
  have hline := Dotenv.parseLine_assignment false hne hnames written
  exact Dotenv.get_line hfind hbytes hlines hline hvalid hlast

/-- Underscores in odd runs and at both ends, behind a prefix. -/
theorem variable_under_dotted_key_runs :
    (∃ source, (load [("APP__A", .text "n"), ("APP____A__", .text "x # y")] (some "APP") layerName :
        Action Unit _).Gives source ∧
      source.content.resolveName "._a." = .ok (some "___A__") ∧
      source.content.get "._a." = .ok (.text "x # y")) ∧
    (∃ source, (Dotenv.load (Dotenv.treeOf (Utf8.encode "B=\n___A__= \"x # y\" \r\n#".toList)) none [] :
        Action Unit _).Gives (some (⟨1, ["srv", ".env"]⟩, source)) ∧
      source.content.get "._a." = .ok (.text "x # y")) := by
  have hearlier : (spellings (Dotenv.dottedKey "___A__".toList)).takeWhile (· ≠ "___A__".toList) =
      ["._a.".toList, "__a_".toList, "___a__".toList, "._A.".toList, "__A_".toList] := by
    cbv
  obtain ⟨hvariable, hfile, -⟩ := @variable_under_dotted_key Unit
    [("APP__A", .text "n"), ("APP____A__", .text "x # y")] (some "APP") "___A__".toList "x # y".toList
    (by decide) (List.all_eq_true.1 (by decide)) (by cbv) (by rw [hearlier]; decide)
  have hkey : String.ofList (Dotenv.dottedKey "___A__".toList) = "._a." := by cbv
  rw [hkey] at hvariable hfile
  refine ⟨hvariable, ?_⟩
  have hlines : Dotenv.filledLines "B=\n___A__= \"x # y\" \r\n#".toList =
      ["B=".toList] ++ ("___A__".toList ++ '=' :: " \"x # y\" ".toList) :: ["#".toList] := by
    cbv
  have hfirst : Dotenv.parseLine "B=".toList = .ok (some (['b'], [])) := by cbv
  have hlast : Dotenv.parseLine "#".toList = .ok none := by cbv
  refine hfile _ _ _ _ _ _ _ _ (Dotenv.find_treeOf _) (Dotenv.read?_treeOf _) hlines ?_ ?_
  · intro other hother
    rcases List.mem_pair.1 hother with rfl | rfl
    · exact ⟨_, hfirst⟩
    · exact ⟨_, hlast⟩
  · intro other hother setting hsome
    rw [List.mem_singleton.1 hother, hlast] at hsome
    cases hsome

end LayeredConfig.Variables
