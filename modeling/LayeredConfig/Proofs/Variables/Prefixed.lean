import LayeredConfig.Proofs.Variables.Names

/-!
# Prefixed variables — what a key in small letters finds

Among names without small letters, dots and dashes only two spellings of a key can be found: the key in
capitals with one underscore for each dot, or with two (`find?_spellings`). So a key is looked up under a
prefix as these two variables are looked up one after the other (`prefixed_lookup`).
-/

namespace LayeredConfig.Variables

/-! ## 1. Underscores for dots and dashes -/

/-- Neither a small letter nor a dot nor a dash stands in the text; letters beyond ASCII may be small. -/
def IsPlain (cs : List Char) : Prop :=
  ∀ c ∈ cs, c.isLower = false ∧ c ≠ '.' ∧ c ≠ '-'

/-- Capitals, digits and underscores make plain names. -/
theorem isPlain_of_variable {cs : List Char} (h : ∀ c ∈ cs, isVariableChar c = true) : IsPlain cs :=
  fun c hc => (of_isVariableChar (h c hc)).2

/-- A text with other texts in the places of dots and dashes. -/
def marked (dot dash cs : List Char) : List Char :=
  cs.flatMap fun c => if c = '.' then dot else if c = '-' then dash else [c]

section Marked

variable {dot dash cs : List Char}

theorem mem_marked {c : Char} (hdot : c ≠ '.') (hdash : c ≠ '-') (hc : c ∈ cs) :
    c ∈ marked dot dash cs := by
  refine List.mem_flatMap.2 ⟨c, hc, ?_⟩
  rw [if_neg hdot, if_neg hdash]
  exact List.mem_singleton_self c

theorem marked_of_dot_notMem (h : '.' ∉ cs) (dot dot' dash : List Char) :
    marked dot dash cs = marked dot' dash cs := by
  refine List.flatMap_congr fun c hc => ?_
  have hne : c ≠ '.' := fun heq => h (heq ▸ hc)
  rw [if_neg hne, if_neg hne]

theorem marked_of_dash_notMem (h : '-' ∉ cs) (dot dash dash' : List Char) :
    marked dot dash cs = marked dot dash' cs := by
  refine List.flatMap_congr fun c hc => ?_
  have hne : c ≠ '-' := fun heq => h (heq ▸ hc)
  rw [if_neg hne, if_neg hne]

/-- The places of dots and dashes are taken in turn. -/
theorem marked_eq_replaceChar (h : '-' ∉ dot) (dash cs : List Char) :
    marked dot dash cs = Text.replaceChar '-' dash (Text.replaceChar '.' dot cs) := by
  rw [Text.replaceChar, Text.replaceChar, List.flatMap_assoc]
  refine List.flatMap_congr fun c _ => ?_
  by_cases hc : c = '.'
  · rw [if_pos hc, if_pos hc]
    exact (Text.replaceChar_of_notMem h dash).symm
  · rw [if_neg hc, if_neg hc, List.flatMap_singleton]

theorem underscored_eq (cs : List Char) :
    underscored cs =
      [marked ['.'] ['-'] cs, marked ['_'] ['-'] cs, marked ['.'] ['_'] cs, marked ['_'] ['_'] cs,
        marked ['_', '_'] ['_'] cs] := by
  have hdot : '-' ∉ ['.'] := by decide
  have hone : '-' ∉ ['_'] := by decide
  have htwo : '-' ∉ ['_', '_'] := by decide
  simp only [marked_eq_replaceChar hdot, marked_eq_replaceChar hone, marked_eq_replaceChar htwo,
    Text.replaceChar_self]
  rfl

theorem marked_dot_of_isPlain (h : IsPlain (marked ['.'] dash cs)) :
    marked ['.'] dash cs = marked ['_'] dash cs := by
  -- A dot would be left as it is, and the text would not be plain.
  refine marked_of_dot_notMem (fun hdot => ?_) _ _ _
  have hmem : '.' ∈ marked ['.'] dash cs := List.mem_flatMap.2 ⟨'.', hdot, List.mem_singleton_self _⟩
  exact (h '.' hmem).2.1 rfl

theorem marked_dash_of_isPlain (h : IsPlain (marked dot ['-'] cs)) :
    marked dot ['-'] cs = marked dot ['_'] cs := by
  refine marked_of_dash_notMem (fun hdash => ?_) _ _ _
  have hmem : '-' ∈ marked dot ['-'] cs := List.mem_flatMap.2 ⟨'-', hdash, List.mem_singleton_self _⟩
  exact (h '-' hmem).2.2 rfl

end Marked

/-! ## 2. Spellings that can be found -/

section Spellings

variable {q : List Char → Bool}

/-- A candidate that passes only as the first of the others may be left out. -/
theorem find?_cons_of_same {a first : List Char} {rest others : List (List Char)}
    (ha : q a = true → a = first) (hrest : rest.find? q = (first :: others).find? q) :
    (a :: rest).find? q = (first :: others).find? q := by
  cases hqa : q a with
  | true =>
    obtain rfl := ha hqa
    rw [List.find?_cons_of_pos hqa, List.find?_cons_of_pos hqa]
  | false => rw [List.find?_cons_of_neg (by simp [hqa]), hrest]

variable (hq : ∀ cs, q cs = true → IsPlain cs)

include hq

theorem find?_underscored (cs : List Char) :
    (underscored cs).find? q = [marked ['_'] ['_'] cs, marked ['_', '_'] ['_'] cs].find? q := by
  -- A spelling that keeps dots or dashes passes only where there are none, and is then the fourth one.
  rw [underscored_eq]
  refine find?_cons_of_same (fun h => ?both) (find?_cons_of_same (fun h => ?dashes)
    (find?_cons_of_same (fun h => ?dots) rfl))
  case both =>
    have hdots := marked_dot_of_isPlain (hq _ h)
    rw [hdots] at h ⊢
    exact marked_dash_of_isPlain (hq _ h)
  case dashes => exact marked_dash_of_isPlain (hq _ h)
  case dots => exact marked_dot_of_isPlain (hq _ h)

theorem find?_underscored_of_isLower {cs : List Char} {c : Char} (hc : c ∈ cs)
    (hsmall : c.isLower = true) : (underscored cs).find? q = none := by
  -- Whatever dots and dashes become, the small letter stays.
  have hkept : ∀ dot dash, q (marked dot dash cs) = false := by
    intro dot dash
    rw [Bool.eq_false_iff]
    intro hpass
    have hmem : c ∈ marked dot dash cs :=
      mem_marked (by rintro rfl; contradiction) (by rintro rfl; contradiction) hc
    have hplain := (hq _ hpass c hmem).1
    rw [hsmall] at hplain
    contradiction
  rw [underscored_eq]
  simp [hkept]

end Spellings

/-- The characters of keys in small letters. -/
def isKeyChar (c : Char) : Bool :=
  c.isLower || c.isDigit || c == '.' || c == '-' || c == '_'

/-- The name of a variable for a key: the key in capitals with underscores for dots and dashes. -/
def variableName (dot key : List Char) : List Char :=
  marked dot ['_'] (key.map Char.toUpper)

theorem isNameChar_of_isKeyChar {c : Char} (h : isKeyChar c = true) : Dotenv.isNameChar c = true := by
  simp only [isKeyChar, Bool.or_eq_true] at h
  simp only [Dotenv.isNameChar, Char.isAlphanum, Char.isAlpha, Bool.or_eq_true]
  tauto

theorem of_isKeyChar {c : Char} (h : isKeyChar c = true) :
    Text.upperChar c = [c.toUpper] ∧ (c.isLower = false → c.toUpper = c) := by
  have hascii := Dotenv.toNat_of_isNameChar (isNameChar_of_isKeyChar h)
  refine ⟨by rw [Text.upperChar, if_pos hascii], ?_⟩
  apply Text.of_ascii hascii
  decide

theorem find?_spellings {q : List Char → Bool} (hq : ∀ cs, q cs = true → IsPlain cs)
    {key : List Char} (hkey : ∀ c ∈ key, isKeyChar c = true) :
    (spellings key).find? q = [variableName ['_'] key, variableName ['_', '_'] key].find? q := by
  have hupper : Text.upper key = key.map Char.toUpper := by
    rw [List.map_eq_flatMap]
    exact List.flatMap_congr fun c hc => (of_isKeyChar (hkey c hc)).1
  rw [spellings, distinctTexts_eq_eraseDups, Distinct.find?_eraseDups, List.find?_append, hupper]
  by_cases hsmall : ∃ c ∈ key, c.isLower = true
  · obtain ⟨c, hc, hlower⟩ := hsmall
    rw [find?_underscored_of_isLower hq hc hlower, Option.none_or]
    exact find?_underscored hq _
  · -- Without small letters the key is in capitals, and its spellings come twice.
    have hsame : key.map Char.toUpper = key := by
      rw [List.map_congr_left (g := id) fun c hc => ?_, List.map_id]
      exact (of_isKeyChar (hkey c hc)).2 (Bool.eq_false_iff.2 fun hlower => hsmall ⟨c, hc, hlower⟩)
    rw [hsame, Option.or_self, find?_underscored hq, variableName, variableName, hsame]

/-! ## 3. Prefixes -/

/-- What the names that a prefix stands for begin with: nothing without a prefix, and else the prefix with
one underscore at its end, which may be there already. -/
inductive Leads : Option String → List Char → Prop
  | unset : Leads none []
  | blank : Leads (some "") []
  | bare (p : List Char) (c : Char) (h : c ≠ '_') :
    Leads (some (String.ofList (p ++ [c]))) (p ++ [c, '_'])
  | full (p : List Char) : Leads (some (String.ofList (p ++ ['_']))) (p ++ ['_'])

theorem mark_ofList {cs : List Char} (h : cs ≠ []) :
    mark (some (String.ofList cs)) = if cs.getLast? = some '_' then cs else cs ++ ['_'] := by
  rw [mark, Option.map_some, String.toList_ofList]
  cases cs with
  | nil => contradiction
  | cons => rfl

theorem mark_of_leads {given : Option String} {front : List Char} (h : Leads given front) :
    mark given = front := by
  cases h with
  | unset => rfl
  | blank => rfl
  | bare p c hc =>
    rw [mark_ofList (List.concat_ne_nil c p), List.getLast?_concat, if_neg (by simpa using hc),
      List.append_assoc]
    rfl
  | full p => rw [mark_ofList (List.concat_ne_nil '_' p), List.getLast?_concat, if_pos rfl]

theorem leads_mark (given : Option String) : Leads given (mark given) := by
  cases given with
  | none => exact .unset
  | some text =>
    rw [← text.ofList_toList]
    -- The last character of the prefix is an underscore or not.
    cases text.toList using List.reverseRecOn with
    | nil => exact .blank
    | append_singleton p c =>
      by_cases hc : c = '_'
      · subst hc
        rw [mark_of_leads (.full p)]
        exact .full p
      · rw [mark_of_leads (.bare p c hc)]
        exact .bare p c hc

/-- Every prefix leads to one beginning, the one that the loader takes. -/
theorem leads_iff {given : Option String} {front : List Char} :
    Leads given front ↔ mark given = front := by
  constructor
  · exact mark_of_leads
  · rintro rfl
    exact leads_mark given

/-! ## 4. Variables that are set -/

/-- The value of the variable for a key behind a front, if it is set. -/
def setting? (environ : List (String × Value)) (front dot key : List Char) : Option Value :=
  environ.lookup (String.ofList (front ++ variableName dot key))

section Collected

variable {environ : List (String × Value)} {front key dot : List Char}

theorem variableName_ne_nil (hdot : dot ≠ []) (hkey : key ≠ []) : variableName dot key ≠ [] := by
  obtain ⟨c, rest, rfl⟩ := List.exists_cons_of_ne_nil hkey
  rw [variableName, List.map_cons, marked, List.flatMap_cons]
  refine List.append_ne_nil_of_left_ne_nil ?_ _
  split_ifs
  · exact hdot
  · exact List.cons_ne_nil _ _
  · exact List.cons_ne_nil _ _

theorem isPlain_of_contains (hplain : ∀ entry ∈ environ, IsPlain entry.1.toList) {v : List Char}
    (hv : ((collect front environ).map (·.1)).contains (String.ofList v) = true) : IsPlain v := by
  -- Behind the front of a plain name the rest is plain.
  have hwhole : String.ofList (front ++ v) ∈ environ.map (·.1) := by
    by_contra hnot
    exact notMem_names_collect hnot (List.contains_iff_mem.1 hv)
  obtain ⟨entry, hentry, hname⟩ := List.mem_map.1 hwhole
  intro c hc
  apply hplain entry hentry
  rw [hname, String.toList_ofList]
  exact List.mem_append_right front hc

variable (hkey : key ≠ [])

include hkey

theorem contains_collect (hdot : dot ≠ []) :
    ((collect front environ).map (·.1)).contains (String.ofList (variableName dot key)) =
      (setting? environ front dot key).isSome := by
  rw [setting?, ← lookup_collect (variableName_ne_nil hdot hkey), Bool.eq_iff_iff,
    List.contains_iff_mem, ← not_iff_not, ← Store.lookup_eq_none_iff, Option.not_isSome_iff_eq_none]

theorem valueOf_collect (hdot : dot ≠ []) :
    Store.valueOf (collect front environ) (String.ofList (variableName dot key)) =
      (setting? environ front dot key).getD .null := by
  rw [Store.valueOf_eq_lookup, lookup_collect (variableName_ne_nil hdot hkey)]
  rfl

theorem resolve?_collect (hplain : ∀ entry ∈ environ, IsPlain entry.1.toList)
    (hchars : ∀ c ∈ key, isKeyChar c = true) :
    resolve? ((collect front environ).map (·.1)) (String.ofList key) =
      if (setting? environ front ['_'] key).isSome then some (String.ofList (variableName ['_'] key))
      else if (setting? environ front ['_', '_'] key).isSome then
        some (String.ofList (variableName ['_', '_'] key))
      else none := by
  have hspelled : (spellings key).find? (((collect front environ).map (·.1)).contains ∘ String.ofList) =
      [variableName ['_'] key, variableName ['_', '_'] key].find?
        (((collect front environ).map (·.1)).contains ∘ String.ofList) :=
    find?_spellings (fun _ hv => isPlain_of_contains hplain hv) hchars
  rw [resolve?, String.toList_ofList, List.find?_map, hspelled, List.find?_cons, List.find?_cons,
    Function.comp_apply, Function.comp_apply, contains_collect hkey (List.cons_ne_nil _ _),
    contains_collect hkey (List.cons_ne_nil _ _)]
  cases (setting? environ front ['_'] key).isSome with
  | true => rfl
  | false => cases (setting? environ front ['_', '_'] key).isSome <;> rfl

variable (hplain : ∀ entry ∈ environ, IsPlain entry.1.toList)
  (hchars : ∀ c ∈ key, isKeyChar c = true)

include hplain hchars

theorem get_collect :
    (Store.variables (collect front environ)).get (String.ofList key) =
      .ok (((setting? environ front ['_'] key).or (setting? environ front ['_', '_'] key)).getD .null) := by
  rw [Store.get, resolve?_collect hkey hplain hchars]
  cases hone : setting? environ front ['_'] key with
  | some x =>
    show Except.ok (Store.valueOf _ _) = _
    rw [valueOf_collect hkey (List.cons_ne_nil _ _), hone]
    rfl
  | none =>
    cases htwo : setting? environ front ['_', '_'] key with
    | some x =>
      show Except.ok (Store.valueOf _ _) = _
      rw [valueOf_collect hkey (List.cons_ne_nil _ _), htwo]
      rfl
    | none => rfl

theorem contains_variables_collect :
    (Store.variables (collect front environ)).contains (String.ofList key) =
      .ok ((setting? environ front ['_'] key).or (setting? environ front ['_', '_'] key)).isSome := by
  rw [Store.contains, resolve?_collect hkey hplain hchars]
  cases setting? environ front ['_'] key with
  | some x => rfl
  | none => cases setting? environ front ['_', '_'] key <;> rfl

end Collected

/-- What was there before is not where a new mapping comes, so a change of it is not seen. -/
theorem Held.seen_modify {ms : Mappings} {i : Nat} (hi : i < ms.length) (name : String)
    (entries : List (String × Value)) (change : List (String × Value) → List (String × Value)) :
    (⟨name, ms.length⟩ : Held).seen ((ms ++ [entries]).modify i change) =
      ⟨name, .variables entries⟩ := by
  have hother : ((ms ++ [entries]).modify i change)[ms.length]? = some entries := by
    rw [List.getElem?_modify_ne change _ (Nat.ne_of_lt hi), List.getElem?_concat_length]
  rw [Held.seen, List.getD, hother, Option.getD_some]

/-- A source that is loaded sees what was loaded, however the variables change. -/
theorem loadFrom_kept {ms : Mappings} {i : Nat} {environ : List (String × Value)}
    (given : Option String) {name : String} (hname : Text.isBlankText name = false)
    (henviron : ms[i]? = some environ) :
    ∃ held, (loadFrom i given name ms).result = .ok held ∧
      ∀ change, held.seen ((loadFrom i given name ms).state.modify i change) =
        ⟨name, .variables (collect (mark given) environ)⟩ := by
  have hcollected : collect (mark given) (ms.getD i []) = collect (mark given) environ := by
    rw [List.getD, henviron, Option.getD_some]
  rw [loadFrom_apply ms i given hname, hcollected]
  exact ⟨_, rfl, Held.seen_modify (List.getElem?_eq_some_iff.1 henviron).1 name _⟩

/-- **Prefixed variables.** If no name of a variable has small letters, dots or dashes, a key in small letters
has the value of the variable that is its prefix, an underscore and the key in capitals with an underscore for
each dot or dash; if this is not set, then of the one with two underscores for each dot. Whether the key
is there and the name that answers are told by the same two variables. The source that is loaded is the same
wherever the variables stand among the mappings of a program, and it stays so whatever becomes of them. -/
theorem prefixed_lookup {environ : List (String × Value)} {given : Option String}
    {front key : List Char} {name : String} (hplain : ∀ entry ∈ environ, IsPlain entry.1.toList)
    (hleads : Leads given front) (hkey : key ≠ []) (hchars : ∀ c ∈ key, isKeyChar c = true)
    (hname : Text.isBlankText name = false) :
    ∃ source : Source,
      (∀ σ, (load environ given name : Action σ Source).Gives source) ∧
      (∀ (ms : Mappings) (i : Nat), ms[i]? = some environ →
        ∃ held, (loadFrom i given name ms).result = .ok held ∧
          ∀ change, held.seen ((loadFrom i given name ms).state.modify i change) = source) ∧
      source.content.get (String.ofList key) =
        .ok (((setting? environ front ['_'] key).or (setting? environ front ['_', '_'] key)).getD .null) ∧
      source.content.contains (String.ofList key) =
        .ok ((setting? environ front ['_'] key).or (setting? environ front ['_', '_'] key)).isSome ∧
      source.content.resolveName (String.ofList key) = .ok (
        if (setting? environ front ['_'] key).isSome then some (String.ofList (variableName ['_'] key))
        else if (setting? environ front ['_', '_'] key).isSome then
          some (String.ofList (variableName ['_', '_'] key))
        else none) := by
  have hfront : mark given = front := leads_iff.1 hleads
  refine ⟨⟨name, .variables (collect front environ)⟩,
    fun _ => hfront ▸ load_gives_named environ given hname,
    fun ms i henviron => hfront ▸ loadFrom_kept given hname henviron,
    get_collect hkey hplain hchars, contains_variables_collect hkey hplain hchars,
    congrArg Except.ok (resolve?_collect hkey hplain hchars)⟩

/-- Variables of an application, of which one has two underscores. -/
def appVariables : List (String × Value) :=
  [("PATH", .text "/bin"), ("APP_DB__MAX_SIZE", .text ""), ("APP_DB_HOST", .text "here")]

/-- The underscore of the prefix may be left out; the variables may be gone afterwards. -/
theorem prefixed_lookup_app :
    ∃ held, (loadFrom 1 (some "APP") layerName [[], appVariables]).result = .ok held ∧
      let source :=
        held.seen ((loadFrom 1 (some "APP") layerName [[], appVariables]).state.modify 1 fun _ => [])
      source.content.get "db.max-size" = .ok (.text "") ∧
        source.content.contains "db.max-size" = .ok true ∧
        source.content.resolveName "db.max-size" = .ok (some "DB__MAX_SIZE") := by
  have hplain : ∀ entry ∈ appVariables, IsPlain entry.1.toList := by
    simp only [appVariables, List.forall_mem_cons]
    exact ⟨isPlain_of_variable (List.all_eq_true.1 (by decide)),
      isPlain_of_variable (List.all_eq_true.1 (by decide)),
      isPlain_of_variable (List.all_eq_true.1 (by decide)), List.forall_mem_nil _⟩
  have hlayer : Text.isBlankText layerName = false := by decide
  have hone : variableName ['_'] "db.max-size".toList = "DB_MAX_SIZE".toList := by decide
  have htwo : variableName ['_', '_'] "db.max-size".toList = "DB__MAX_SIZE".toList := by decide
  obtain ⟨source, -, hkept, hget, hcontains, hname⟩ := @prefixed_lookup appVariables (some "APP")
    "APP_".toList "db.max-size".toList layerName hplain (.bare "AP".toList 'P' (by decide)) (by decide)
    (List.all_eq_true.1 (by decide)) hlayer
  obtain ⟨held, hheld, hseen⟩ := hkept [[], appVariables] 1 rfl
  rw [setting?, setting?, hone, htwo, String.ofList_toList] at hget hcontains hname
  refine ⟨held, hheld, ?_⟩
  rw [hseen fun _ => []]
  exact ⟨hget, hcontains, hname.trans rfl⟩

end LayeredConfig.Variables
