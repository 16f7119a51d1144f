import LayeredConfig.Proofs.Dotenv.Lines

/-!
# Comments — what a comment behind a value does

A value without quotes is read as if no comment stood behind it. A value in quotes is read without them as
long as nothing follows; with a comment behind it the quotes are part of what is read
(`comment_behind_value`).
-/

namespace LayeredConfig.Dotenv

open Text (isBlank trim trimStart trimEnd)

def remark (comment : List Char) : List Char :=
  ' ' :: '#' :: ' ' :: comment

def inQuotes (q : Char) (body : List Char) : List Char :=
  q :: (body ++ [q])

/-- Text that is written without quotes. A comment cannot begin within it. -/
def Unquoted (value : List Char) : Prop :=
  ¬[' ', '#'] <:+: value ∧ ∀ q, IsQuote q → (trim value).head? ≠ some q

variable {q : Char} {value body : List Char}

theorem trim_append_remark (value comment : List Char) :
    trim (value ++ remark comment) = trimStart (value ++ [' ']) ++ '#' :: trimEnd (' ' :: comment) := by
  have hassoc : value ++ remark comment = (value ++ [' ']) ++ '#' :: ' ' :: comment := by
    simp [remark]
  rw [hassoc, Text.trim_append_cons (by decide)]

theorem IsQuote.ne (hq : IsQuote q) {c : Char} (hc : ¬IsQuote c) : c ≠ q := by
  rintro rfl
  exact hc hq

/-! ## 1. Values without quotes -/

theorem quote?_of_head?_ne (h : ∀ q, IsQuote q → value.head? ≠ some q) : quote? value = none := by
  cases value with
  | nil => rfl
  | cons first rest =>
    have hdouble : first ≠ '"' := fun hq => h '"' (.inl rfl) (congrArg some hq)
    have hsingle : first ≠ '\'' := fun hq => h '\'' (.inr rfl) (congrArg some hq)
    rw [quote?, List.head?_cons, List.getLast?_cons]
    simp [hdouble, hsingle]

theorem cleanValue_hash (rest : List Char) : cleanValue ('#' :: rest) = [] := by
  have hquote : quote? ('#' :: rest) = none :=
    quote?_of_head?_ne fun q hq hhead => hq.ne (by decide) (Option.some.inj hhead)
  rw [cleanValue, hquote, if_neg (by decide), List.head?_cons, if_pos rfl]

theorem cleanValue_of_unquoted (hmark : ¬[' ', '#'] <:+: value)
    (hquote : ∀ q, IsQuote q → value.head? ≠ some q) :
    cleanValue value = if value.head? = some '#' then [] else value := by
  rw [cleanValue, quote?_of_head?_ne hquote, if_neg (by decide),
    Text.cutAt?_eq_none_of_notInfix hmark]

theorem Unquoted.cleanValue_trim (h : Unquoted value) :
    cleanValue (trim value) = if (trim value).head? = some '#' then [] else trim value :=
  cleanValue_of_unquoted (fun hmark => h.1 (hmark.trans (Text.trim_isInfix value))) h.2

theorem Unquoted.cleanValue_remark (h : Unquoted value) (comment : List Char) :
    cleanValue (trim (value ++ remark comment)) = cleanValue (trim value) := by
  rw [h.cleanValue_trim, trim_append_remark, trimStart, List.dropWhile_append, ← trimStart]
  cases hstart : trimStart value with
  | nil =>
    -- The value is blank, so the comment comes first.
    have hblank : trim value = [] := by rw [trim, hstart]; rfl
    rw [hblank]
    exact cleanValue_hash _
  | cons first rest =>
    have htrim : trim value = first :: trimEnd rest := Text.trim_of_trimStart hstart
    have hquote : ∀ q, IsQuote q → first ≠ q := by
      intro q hq hfirst
      apply h.2 q hq
      rw [htrim, List.head?_cons, hfirst]
    have hmark : ¬[' ', '#'] <:+: first :: rest := by
      rw [← hstart]
      exact fun hmark => h.1 (hmark.trans (List.dropWhile_suffix isBlank).isInfix)
    have hfront : (first :: rest ++ [' ']) ++ '#' :: trimEnd (' ' :: comment) =
        first :: rest ++ ' ' :: '#' :: trimEnd (' ' :: comment) := by simp
    have hkept : trim (first :: rest) = trim value := by
      rw [← hstart, Text.trim_trimStart]
    rw [if_neg (by simp), hfront, cleanValue, quote?_of_head?_ne (by simpa using hquote),
      Text.cutAt?_append_of_notInfix (by decide) hmark, if_neg (by decide), htrim]
    dsimp only
    rw [hkept, htrim]
    rfl

/-! ## 2. Values in quotes -/

theorem trim_inQuotes (hq : IsQuote q) (body : List Char) : trim (inQuotes q body) = inQuotes q body :=
  Text.trim_cons_append_cons hq.isBlank hq.isBlank body []

theorem trim_inQuotes_remark (hq : IsQuote q) (body comment : List Char) :
    trim (inQuotes q body ++ remark comment) =
      inQuotes q body ++ ' ' :: '#' :: trimEnd (' ' :: comment) := by
  rw [trim_append_remark, inQuotes, List.cons_append, List.cons_append,
    Text.trimStart_cons_of_not_blank hq.isBlank]
  simp

/-- Whatever is taken away, one of the quotes stays. -/
theorem mem_cleanValue_inQuotes_append (hq : IsQuote q) (body after : List Char) :
    q ∈ cleanValue (inQuotes q body ++ ' ' :: '#' :: after) := by
  have hhash : '#' ≠ q := hq.ne (by decide)
  rw [inQuotes, List.cons_append, cleanValue, quote?_cons hq, List.head?_cons,
    if_neg fun hhead => hhash (Option.some.inj hhead).symm]
  by_cases hlast : (body ++ [q] ++ ' ' :: '#' :: after).getLast? = some q
  · -- The comment ends in the quote that starts the value: the quote between them stays.
    have hmiddle : body ++ [q] ++ ' ' :: '#' :: after = body ++ q :: (' ' :: '#' :: after) := by simp
    rw [if_pos hlast, Option.isSome_some, if_pos rfl, List.tail_cons, hmiddle,
      List.dropLast_append_of_ne_nil (List.cons_ne_nil _ _),
      List.dropLast_cons_of_ne_nil (List.cons_ne_nil _ _)]
    exact List.mem_append_right _ List.mem_cons_self
  · rw [if_neg hlast, if_neg (by decide)]
    split
    next before _ hcut =>
      -- What stands in front of the mark begins with the quote.
      have hparts := Text.eq_append_of_cutAt? hcut
      cases before with
      | nil => exact absurd (List.cons.inj hparts).1.symm (hq.ne (by decide))
      | cons first before =>
        obtain ⟨rfl, -⟩ := List.cons.inj hparts
        rw [Text.trim_of_trimStart (Text.trimStart_cons_of_not_blank hq.isBlank before)]
        exact List.mem_cons_self
    next => exact List.mem_cons_self

theorem notInfix_inQuotes (hq : IsQuote q) (hbody : ¬[' ', '#'] <:+: body) :
    ¬[' ', '#'] <:+: inQuotes q body := by
  have hblank : ' ' ≠ q := hq.ne (by decide)
  have hhash : '#' ≠ q := hq.ne (by decide)
  rw [inQuotes, List.infix_cons_iff, List.infix_concat_iff, List.cons_prefix_cons]
  rintro (⟨h, -⟩ | ⟨front, h⟩ | h)
  · exact hblank h
  · have hlast := congrArg List.getLast? h
    rw [List.getLast?_concat, List.getLast?_append_of_ne_nil front (List.cons_ne_nil _ _)] at hlast
    exact hhash (Option.some.inj hlast)
  · exact hbody h

theorem getLast?_remark (comment : List Char) :
    (' ' :: '#' :: trimEnd (' ' :: comment)).getLast? = some ((trim comment).getLast?.getD '#') := by
  cases hstart : trimStart comment with
  | nil =>
    have hblank : ∀ c ∈ ' ' :: comment, isBlank c = true :=
      List.forall_mem_cons.2 ⟨by decide, List.dropWhile_eq_nil_iff.1 hstart⟩
    have hend : trimEnd (' ' :: comment) = [] := List.rdropWhile_eq_nil_iff.2 hblank
    have htrim : trim comment = [] := by rw [trim, hstart]; rfl
    rw [hend, htrim]
    rfl
  | cons first rest =>
    have hparts : comment = comment.takeWhile isBlank ++ first :: rest := by
      rw [← hstart, trimStart, List.takeWhile_append_dropWhile]
    have hend : trimEnd (' ' :: comment) =
        ' ' :: comment.takeWhile isBlank ++ first :: trimEnd rest := by
      conv_lhs => rw [hparts]
      exact Text.trimEnd_append_cons (Text.not_blank_of_trimStart hstart) (' ' :: _) rest
    calc (' ' :: '#' :: trimEnd (' ' :: comment)).getLast?
        = (' ' :: '#' :: ' ' :: comment.takeWhile isBlank ++ first :: trimEnd rest).getLast? := by
          rw [hend]; rfl
      _ = (first :: trimEnd rest).getLast? := List.getLast?_append_cons _ _ _
      _ = some ((trim comment).getLast?.getD '#') := by
          rw [Text.trim_of_trimStart hstart, List.getLast?_cons, Option.getD_some]

theorem cleanValue_inQuotes_remark (hq : IsQuote q) (hbody : ¬[' ', '#'] <:+: body)
    {comment : List Char} (hlast : (trim comment).getLast? ≠ some q) :
    cleanValue (trim (inQuotes q body ++ remark comment)) = inQuotes q body := by
  have hhash : '#' ≠ q := hq.ne (by decide)
  have hopen : (body ++ [q] ++ ' ' :: '#' :: trimEnd (' ' :: comment)).getLast? ≠ some q := by
    rw [List.getLast?_append_of_ne_nil _ (List.cons_ne_nil _ _), getLast?_remark]
    cases hc : (trim comment).getLast? with
    | none => simpa using hhash
    | some last => simpa [hc] using hlast
  have hnone : quote? (inQuotes q body ++ ' ' :: '#' :: trimEnd (' ' :: comment)) = none := by
    rw [inQuotes, List.cons_append, quote?_cons hq, if_neg hopen]
  have hhead : (inQuotes q body ++ ' ' :: '#' :: trimEnd (' ' :: comment)).head? ≠ some '#' := by
    simpa [inQuotes] using hhash.symm
  rw [trim_inQuotes_remark hq, cleanValue, hnone, if_neg (by decide), if_neg hhead,
    Text.cutAt?_append_of_notInfix (by decide) (notInfix_inQuotes hq hbody)]
  exact trim_inQuotes hq body

/-! ## 3. Lines -/

/-- **Comments.** A comment behind a value without quotes changes nothing: the line says the trimmed
value. A value in quotes is read as it stands between them, but not with a comment behind it: then at least
one of the quotes is read as part of the value, and usually both of them. -/
theorem comment_behind_value {name : List Char} (hname : '=' ∉ name) (comment : List Char) :
    (∀ value, Unquoted value →
      parseLine (name ++ '=' :: (value ++ remark comment)) = parseLine (name ++ '=' :: value) ∧
        ((trim value).head? ≠ some '#' →
          parseLine (name ++ '=' :: value) = lineOf name (trim value))) ∧
      ∀ q body, IsQuote q →
        parseLine (name ++ '=' :: inQuotes q body) = lineOf name body ∧
          ∃ kept, q ∈ kept ∧
            parseLine (name ++ '=' :: (inQuotes q body ++ remark comment)) = lineOf name kept ∧
              (¬[' ', '#'] <:+: body → (trim comment).getLast? ≠ some q → kept = inQuotes q body) := by
  constructor
  · intro value h
    rw [parseLine_append hname, parseLine_append hname, h.cleanValue_remark]
    refine ⟨rfl, fun hhash => ?_⟩
    rw [h.cleanValue_trim, if_neg hhash]
  · intro q body hq
    rw [parseLine_append hname, parseLine_append hname]
    refine ⟨congrArg (lineOf name) (cleanValue_quoted hq body), _, ?_, rfl, ?_⟩
    · rw [trim_inQuotes_remark hq]
      exact mem_cleanValue_inQuotes_append hq body _
    · exact fun hbody hlast => cleanValue_inQuotes_remark hq hbody hlast

theorem comment_behind_value_port :
    '=' ∉ "PORT".toList ∧
      parseLine "PORT= 80#a # c".toList = .ok (some ("port".toList, "80#a".toList)) ∧
      parseLine "PORT='80'".toList = .ok (some ("port".toList, "80".toList)) ∧
      parseLine "PORT='80' # c".toList = .ok (some ("port".toList, "'80'".toList)) := by
  have hname : '=' ∉ "PORT".toList := by decide
  have hport : Unquoted " 80#a".toList := by
    refine ⟨by decide, ?_⟩
    rintro q (rfl | rfl)
    · decide
    · decide
  obtain ⟨hplain, hquoted⟩ := comment_behind_value hname "c".toList
  obtain ⟨hcomment, hvalue⟩ := hplain _ hport
  obtain ⟨hbody, kept, -, hkept, hboth⟩ := hquoted '\'' "80".toList (.inr rfl)
  have hquotes : kept = "'80'".toList := hboth (by decide) (by decide)
  have hline (value : List Char) :
      lineOf "PORT".toList value = .ok (some ("port".toList, value)) := by
    have hkey : dottedKey (nameIn "PORT".toList) = "port".toList := by cbv
    rw [lineOf, if_neg (by decide), if_neg (by decide), hkey]
  rw [hline] at hbody hkept hvalue
  rw [hquotes] at hkept
  exact ⟨hname, hcomment.trans (hvalue (by decide)), hbody, hkept⟩

theorem quotes_stay_before_comment :
    parseLine "NAME=\"tok\"".toList = .ok (some ("name".toList, "tok".toList)) ∧
      parseLine "NAME=\"tok\" # c".toList = .ok (some ("name".toList, "\"tok\"".toList)) := by
  constructor
  · cbv
  · cbv

end LayeredConfig.Dotenv
