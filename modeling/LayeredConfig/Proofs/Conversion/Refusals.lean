import LayeredConfig.Proofs.Conversion.Standard

/-!
# Refusals — how a conversion fails

The built-in functions fail only with faults that a conversion turns into a refusal of the value. A
refusal names the value that was to be converted and its target; it takes the text of the value, and a
value that holds an integer too long to be written has none (`standard_fails_by_refusal`).
-/

namespace LayeredConfig

/-! ## 1. Values with a text -/

namespace Value

/-- The values that a value is made of. -/
def parts : Value → List Value
  | .member _ _ value => [value]
  | .list items | .tuple items | .set items | .frozenset items => items
  | .dict entries => entries.flatMap fun entry => [entry.1, entry.2]
  | _ => []

/-- A value is an integer or holds it, at any depth. -/
inductive Holds (n : Int) : Value → Prop where
  | here : Holds n (.int n)
  | part {v part} (hpart : part ∈ v.parts) (h : Holds n part) : Holds n v

/-- All integers that a value holds are short enough to be written. -/
def IsWritable (v : Value) : Prop :=
  ∀ n, v.Holds n → n.natAbs < Nat.pow 10 Numeral.maxDigits

theorem isWritable_iff {v : Value} :
    v.IsWritable ↔ (∀ n, v = .int n → n.natAbs < Nat.pow 10 Numeral.maxDigits) ∧
      ∀ part ∈ v.parts, part.IsWritable := by
  constructor
  · exact fun hv => ⟨fun n hn => hv n (hn ▸ .here), fun part hpart n hn => hv n (.part hpart hn)⟩
  · rintro ⟨hint, hparts⟩ n (_ | ⟨hpart, hn⟩)
    · exact hint n rfl
    · exact hparts _ hpart n hn

mutual

/-- A value has a quoted text exactly if all integers in it can be written. -/
theorem quoted?_isSome_iff (v : Value) : v.quoted?.isSome = true ↔ v.IsWritable := by
  rw [isWritable_iff]
  cases v with
  | int n =>
    rw [quoted?, Numeral.intText?]
    split <;> simp_all [parts]
  | member c name value =>
    rw [quoted?, Option.isSome_map, quoted?_isSome_iff value]
    simp [parts]
  | list items | tuple items =>
    rw [quoted?, Option.isSome_map, quotedItems?_isSome_iff items]
    simp [parts]
  | set items | frozenset items =>
    rw [quoted?]
    -- An empty set is written as a call, without its items.
    cases items with
    | nil => simp [parts]
    | cons item rest =>
      rw [if_neg (by simp), Option.isSome_map, quotedItems?_isSome_iff (item :: rest)]
      simp [parts]
  | dict entries =>
    rw [quoted?, Option.isSome_map, quotedEntries?_isSome_iff entries]
    simp only [parts, List.forall_mem_flatMap]
    simp
  | _ => simp [quoted?, parts]

theorem quotedItems?_isSome_iff (items : List Value) :
    (quotedItems? items).isSome = true ↔ ∀ v ∈ items, v.IsWritable := by
  cases items with
  | nil => simp [quotedItems?]
  | cons v rest =>
    rw [List.forall_mem_cons, ← quoted?_isSome_iff v, ← quotedItems?_isSome_iff rest, quotedItems?]
    cases quoted? v <;> cases quotedItems? rest <;> simp

theorem quotedEntries?_isSome_iff (entries : List (Value × Value)) :
    (quotedEntries? entries).isSome = true ↔
      ∀ entry ∈ entries, entry.1.IsWritable ∧ entry.2.IsWritable := by
  cases entries with
  | nil => simp [quotedEntries?]
  | cons entry rest =>
    obtain ⟨k, v⟩ := entry
    rw [List.forall_mem_cons, ← quoted?_isSome_iff k, ← quoted?_isSome_iff v,
      ← quotedEntries?_isSome_iff rest, quotedEntries?]
    cases quoted? k <;> cases quoted? v <;> cases quotedEntries? rest <;> simp

end

theorem isWritable_text (s : String) : (Value.text s).IsWritable := by
  rw [← quoted?_isSome_iff]
  rfl

end Value

/-! ## 2. Faults of the built-in functions -/

/-- The faults that a conversion turns into a refusal. -/
def Fault.IsRejection (f : Fault) : Prop :=
  f.category.isRejection = true

theorem Fault.ofNumeral_isRejection (base : Nat) (text : List Char) (e : Numeral.ReadError) :
    (ofNumeral base text e).IsRejection := by
  cases e <;> rfl

theorem Fault.ofDecimal_isRejection (e : Decimal.ReadError) : (ofDecimal e).IsRejection := by
  cases e <;> rfl

theorem Fault.ofUuid_isRejection (e : Uuid.ReadError) : (ofUuid e).IsRejection := by
  cases e <;> rfl

theorem Registry.excess_isRejection (k : Kind) : (excess k).IsRejection := by
  cases k <;> rfl

namespace Conversion

variable {α β ε : Type}

/-- All faults are rejections. -/
def Rejects (x : Except Fault α) : Prop :=
  ∀ f, x = .error f → f.IsRejection

namespace Rejects

theorem ok (a : α) : Rejects (.ok a) := nofun

theorem error {f : Fault} (h : f.IsRejection) : Rejects (.error f : Except Fault α) :=
  fun _ hf => Except.error.inj hf ▸ h

theorem map {x : Except Fault α} (hx : Rejects x) (g : α → β) : Rejects (x.map g) := by
  cases x with
  | ok a => exact ok (g a)
  | error f => exact error (hx f rfl)

theorem bind {x : Except Fault α} {g : α → Except Fault β} (hx : Rejects x)
    (hg : ∀ a, Rejects (g a)) : Rejects (x >>= g) := by
  cases x with
  | ok a => exact hg a
  | error f => exact error (hx f rfl)

theorem mapError {x : Except ε α} {g : ε → Fault} (hg : ∀ e, (g e).IsRejection) :
    Rejects (x.mapError g) := by
  cases x with
  | ok a => exact ok a
  | error e => exact error (hg e)

end Rejects

theorem plainText_rejects (v : Value) : Rejects (plainText v) := by
  unfold plainText
  split
  · exact .ok _
  · exact .error rfl

theorem quotedText_rejects (v : Value) : Rejects (quotedText v) := by
  unfold quotedText
  split
  · exact .ok _
  · exact .error rfl

theorem unsupported_rejects (v : Value) : Rejects (unsupported v : Except Fault α) :=
  .error rfl

mutual

theorem toText_rejects (v : Value) : Rejects (toText v) := by
  cases v with
  | member c name value => exact .ok name
  | bool b => exact .ok _
  | list items | tuple items | set items | frozenset items =>
    exact (toTexts_rejects items).bind fun texts => .ok _
  | _ =>
    simp only [toText]
    exact plainText_rejects _

theorem toTexts_rejects (items : List Value) : Rejects (toTexts items) := by
  cases items with
  | nil => exact .ok []
  | cons v rest => exact (toText_rejects v).bind fun _ => (toTexts_rejects rest).bind fun _ => .ok _

end

theorem truncated_rejects (d : Decimal) : Rejects (truncated d) := by
  cases d with
  | finite negative coefficient exponent => exact .ok _
  | infinite negative => exact .error rfl
  | nan negative signaling payload => exact .error rfl

theorem toInt_rejects (v : Value) : Rejects (toInt v) := by
  unfold toInt
  split
  next s => exact .mapError (Fault.ofNumeral_isRejection _ _)
  next => exact .ok _
  next => exact .ok _
  next =>
    split
    · exact .ok _
    · exact (quotedText_rejects v).bind fun _ => .error rfl
  next d _ => exact truncated_rejects d
  next => exact unsupported_rejects v

theorem floatOfInt_rejects (n : Int) : Rejects (floatOfInt n) := by
  unfold floatOfInt
  split
  · exact .ok _
  · exact .error rfl

theorem toFloat_rejects (v : Value) : Rejects (toFloat v) := by
  unfold toFloat
  split
  next =>
    split
    · exact .ok _
    · exact (quotedText_rejects v).bind fun _ => .error rfl
  next n _ => exact floatOfInt_rejects n
  next => exact .ok _
  next => exact .ok _
  next => exact .ok _
  next =>
    split
    · exact .error rfl
    · exact .ok _
  next => exact unsupported_rejects v

theorem readDecimal_rejects (s : String) : Rejects (readDecimal s) :=
  .mapError Fault.ofDecimal_isRejection

theorem toDecimal_rejects (v : Value) : Rejects (toDecimal v) := by
  unfold toDecimal
  split
  next s _ => exact readDecimal_rejects s
  next => exact (plainText_rejects v).bind readDecimal_rejects
  next => exact (plainText_rejects v).bind readDecimal_rejects
  next => exact unsupported_rejects v

theorem binaryDigit_rejects (v : Value) : Rejects (binaryDigit v) := by
  unfold binaryDigit
  repeat' split
  all_goals first | exact .ok _ | exact .error rfl

theorem toBool_rejects (v : Value) : Rejects (toBool v) := by
  unfold toBool
  split
  next s _ =>
    split
    · exact .ok _
    · exact .ok _
    · exact (plainText_rejects v).bind fun _ => .error rfl
  next =>
    split
    · refine (binaryDigit_rejects v).bind fun digit => ?_
      cases digit with
      | some b => exact .ok _
      | none => exact (quotedText_rejects v).bind fun _ => .error rfl
    · exact unsupported_rejects v

theorem toPath_rejects (v : Value) : Rejects (toPath v) :=
  (plainText_rejects v).bind fun _ => .ok _

theorem toUuid_rejects (v : Value) : Rejects (toUuid v) := by
  refine (plainText_rejects v).bind fun text => ?_
  split
  next u _ => exact .ok _
  next e _ => exact .error (Fault.ofUuid_isRejection e)

theorem memberNamed_rejects (e : Enumeration) (s : String) : Rejects (memberNamed e s) := by
  unfold memberNamed
  dsimp only
  repeat' split
  all_goals first | exact .ok _ | exact .error rfl

/-- An enumeration that makes members may fail in a way of its own. -/
theorem fault_of_memberValued {e : Enumeration} {v : Value} {f : Fault}
    (h : memberValued e v = .error f) : f.IsRejection ∨ e.missing v = .error f := by
  unfold memberValued at h
  split at h
  · exact .inl (Rejects.error (f := .invalidOperation) rfl f h)
  · split at h
    · cases h
    · split at h
      next => cases h
      next =>
        refine .inl ((quotedText_rejects v).bind (fun shown => ?_) f h)
        exact .error (f := .notMember shown e.name) rfl
      next g hmissing =>
        cases hshown : quotedText v with
        | error other =>
          rw [hshown] at h
          exact .inl (Except.error.inj h ▸ quotedText_rejects v other hshown)
        | ok shown =>
          rw [hshown] at h
          exact .inr (hmissing.trans (congrArg Except.error (Except.error.inj h)))

theorem fault_of_toMember {e : Enumeration} {v : Value} {f : Fault}
    (h : toMember e v = .error f) : f.IsRejection ∨ e.missing v = .error f := by
  unfold toMember at h
  split at h
  next s _ => exact .inl (memberNamed_rejects e s f h)
  next => exact fault_of_memberValued h

theorem elements_rejects (v : Value) : Rejects (elements v) := by
  unfold elements
  repeat' split
  all_goals first | exact .ok _ | exact .error rfl

theorem setItems_rejects (items : List Value) : Rejects (setItems items) := by
  unfold setItems
  split
  · exact .error rfl
  · exact .error rfl
  · exact .ok _

theorem elementSet_rejects (v : Value) : Rejects (Registry.elementSet v) :=
  (elements_rejects v).bind setItems_rejects

theorem alone_rejects {k : Kind} {run : Value → Except Fault Value} (hrun : alone? k = some run)
    (v : Value) : Rejects (run v) := by
  cases k with
  | str => cases hrun; exact (toText_rejects v).map _
  | int => cases hrun; exact (toInt_rejects v).map _
  | float => cases hrun; exact (toFloat_rejects v).map _
  | decimal => cases hrun; exact (toDecimal_rejects v).map _
  | bool => cases hrun; exact (toBool_rejects v).map _
  | path => cases hrun; exact (toPath_rejects v).map _
  | uuid => cases hrun; exact (toUuid_rejects v).map _
  | list | tuple => cases hrun; exact (elements_rejects v).map _
  | set | frozenset => cases hrun; exact (elementSet_rejects v).map _
  | _ => cases hrun

theorem blocked?_isRejection {e : Enumeration} {f : Fault} (h : e.blocked? = some f) :
    f.IsRejection := by
  obtain ⟨k, -, hk⟩ := List.exists_of_findSome?_eq_some h
  obtain ⟨run, -, rfl⟩ := Option.map_eq_some_iff.1 hk
  exact Registry.excess_isRejection k

/-- Whatever the built-in function for a target is given, it gives a result or rejects it, or the target
is an enumeration that fails to make a member for it. -/
theorem fault_of_builtin {target : Target} {run : Value → Except Fault Value} {v : Value} {f : Fault}
    (hrun : builtin? target = some run) (h : run v = .error f) :
    f.IsRejection ∨ ∃ e, target = .enumeration e ∧ e.missing v = .error f := by
  cases target with
  | generic origin parameters => cases hrun
  | own c =>
    obtain ⟨k, -, hk⟩ := List.exists_of_findSome?_eq_some hrun
    exact .inl (alone_rejects hk v f h)
  | enumeration e =>
    cases hrun
    cases hblocked : e.blocked? with
    | some g =>
      rw [hblocked] at h
      exact .inl (Except.error.inj h ▸ blocked?_isRejection hblocked)
    | none =>
      rw [hblocked] at h
      exact (fault_of_toMember h).imp_right fun hmissing => ⟨e, rfl, hmissing⟩
  | kind k =>
    by_cases hk : k = .enum
    · subst hk
      cases hrun
      exact .inl ((fault_of_toMember h).resolve_right nofun)
    · obtain ⟨alone, halone, rfl⟩ := Option.map_eq_some_iff.1 ((builtin?_kind hk).symm.trans hrun)
      exact .inl (alone_rejects halone _ f h)

end Conversion

/-! ## 3. Conversions -/

namespace Registry

theorem refusalOf_of_isRejection {f : Fault} (h : f.IsRejection) (v : Value) (target : Target) :
    refusalOf v target (.fault f) = Error.refuse v target (.rejected f) :=
  if_pos h

theorem refusalOf_of_not_isRejection {f : Fault} (h : ¬f.IsRejection) (v : Value) (target : Target) :
    refusalOf v target (.fault f) = .fault f :=
  if_neg h

/-- The faults that pass through a conversion: those of the test of a target, and those that an
enumeration meets in making a member, if they are not taken for a rejection. -/
def Passes (v : Value) (target : Target) (f : Fault) : Prop :=
  v.fits target = .error f ∨
    ¬f.IsRejection ∧ ∃ e, target = .enumeration e ∧ e.missing v = .error f

/-- What does not come out of a conversion was refused, or the target failed. -/
theorem ok_or_refuse (v : Value) (target : Target) :
    (∃ w, standard.convert v target = .ok w) ∨
      (∃ refusal, standard.convert v target = .error (Error.refuse v target refusal)) ∨
      ∃ f, Passes v target f ∧ standard.convert v target = .error (.fault f) := by
  rw [convert_standard]
  split
  next => exact .inl ⟨v, rfl⟩
  next =>
    split
    next => exact .inr (.inl ⟨.generic, rfl⟩)
    next =>
      split
      next => exact .inl ⟨v, rfl⟩
      next =>
        split
        next f hfits => exact .inr (.inr ⟨f, .inl hfits, rfl⟩)
        next => exact .inl ⟨v, rfl⟩
        next =>
          cases hrun : Conversion.builtin? target with
          | none => exact .inr (.inl ⟨.unregistered, by rw [handed, hrun]⟩)
          | some run =>
            rw [handed_of_builtin hrun]
            cases hresult : run v with
            | ok w => exact .inl ⟨w, rfl⟩
            | error f =>
              by_cases hrejection : f.IsRejection
              · exact .inr (.inl ⟨.rejected f,
                  congrArg Except.error (refusalOf_of_isRejection hrejection v target)⟩)
              · have hmissing :=
                  (Conversion.fault_of_builtin hrun hresult).resolve_left hrejection
                exact .inr (.inr ⟨f, .inr ⟨hrejection, hmissing⟩,
                  congrArg Except.error (refusalOf_of_not_isRejection hrejection v target)⟩)

theorem refuse_of_isWritable {v : Value} (h : v.IsWritable) (target : Target) (refusal : Refusal) :
    Error.refuse v target refusal = .conversion v target refusal :=
  if_pos (Value.quoted?_isSome_iff v |>.2 h)

theorem refuse_of_not_isWritable {v : Value} (h : ¬v.IsWritable) (target : Target)
    (refusal : Refusal) : Error.refuse v target refusal = .fault .tooLongToWrite :=
  if_neg fun hsome => h (Value.quoted?_isSome_iff v |>.1 hsome)

/-- The function for identifiers asks an integer for its text. -/
theorem convert_uuid_of_not_isWritable {n : Int} (h : ¬(Value.int n).IsWritable) :
    standard.convert (.int n) (.kind .uuid) = .error (.fault .tooLongToWrite) := by
  have htext : (Value.int n).text? = none := by
    simpa only [Value.text?, Option.not_isSome_iff_eq_none] using
      mt (Value.quoted?_isSome_iff (.int n)).1 h
  have hrun : Conversion.toUuid (.int n) = .error .tooLongToWrite := by
    rw [Conversion.toUuid, Conversion.plainText, htext]
    rfl
  have hbuiltin : Conversion.builtin? (.kind .uuid) = some fun v => (Conversion.toUuid v).map id := rfl
  calc standard.convert (.int n) (.kind .uuid)
      = handed (.int n) (.kind .uuid) := convert_eq_handed rfl (by decide) rfl rfl
    _ = .error (refusalOf (.int n) (.kind .uuid) (.fault .tooLongToWrite)) := by
      rw [handed_of_builtin hbuiltin, hrun]
      rfl
    _ = .error (.fault .tooLongToWrite) := by
      rw [refusalOf_of_isRejection (f := .tooLongToWrite) rfl, refuse_of_not_isWritable h]

/-- Whatever is converted to whatever target: there is a result, or a refusal that names just this value
and this target, or the value holds an integer too long to be written, and then this is what fails in
place of the refusal. A fault of its own comes from the target alone: from its test, or from an
enumeration that is asked for a member. -/
theorem standard_fails_by_refusal (v : Value) (target : Target) :
    (∃ w, standard.convert v target = .ok w) ∨
      (v.IsWritable ∧
        ∃ refusal, standard.convert v target = .error (.conversion v target refusal)) ∨
      (¬v.IsWritable ∧ standard.convert v target = .error (.fault .tooLongToWrite)) ∨
      ∃ f, Passes v target f ∧ standard.convert v target = .error (.fault f) := by
  obtain hok | ⟨refusal, hrefuse⟩ | hpasses := ok_or_refuse v target
  · exact .inl hok
  · by_cases hv : v.IsWritable
    · rw [refuse_of_isWritable hv] at hrefuse
      exact .inr (.inl ⟨hv, refusal, hrefuse⟩)
    · rw [refuse_of_not_isWritable hv] at hrefuse
      exact .inr (.inr (.inl ⟨hv, hrefuse⟩))
  · exact .inr (.inr (.inr hpasses))

theorem not_isWritable_pow : ¬(Value.int (Nat.pow 10 Numeral.maxDigits)).IsWritable := by
  intro h
  -- The power is never computed: only that it is not below itself.
  have hshort := h _ .here
  rw [Int.natAbs_natCast] at hshort
  exact Nat.lt_irrefl _ hshort

/-- A class that says of nothing whether it is an instance. -/
def untestable : OwnClass where
  number := 0
  name := "Any"
  bases := []
  hasInstance _ := .error (.stated .type "typing.Any cannot be used with isinstance()")
  hasSubclass source := .ok (source.contains (.made 0 "Any"))
  isBase_bases := Kind.isBase_of_mem_nil

/-- An integer too long to be written is not refused, and neither is a text for a class that cannot tell
its instances. -/
theorem standard_fails_otherwise :
    (¬((∃ w, standard.convert (.int (Nat.pow 10 Numeral.maxDigits)) (.kind .uuid) = .ok w) ∨
      ∃ refusal, standard.convert (.int (Nat.pow 10 Numeral.maxDigits)) (.kind .uuid) =
        .error (.conversion (.int (Nat.pow 10 Numeral.maxDigits)) (.kind .uuid) refusal))) ∧
      ¬((∃ w, standard.convert (.text "a") (.own untestable) = .ok w) ∨
        ∃ refusal, standard.convert (.text "a") (.own untestable) =
          .error (.conversion (.text "a") (.own untestable) refusal)) := by
  have hlong := convert_uuid_of_not_isWritable not_isWritable_pow
  have htest : standard.convert (.text "a") (.own untestable) =
      .error (.fault (.stated .type "typing.Any cannot be used with isinstance()")) := rfl
  constructor
  · rintro (⟨w, hw⟩ | ⟨refusal, hrefusal⟩)
    · cases hlong.symm.trans hw
    · cases Except.error.inj (hlong.symm.trans hrefusal)
  · rintro (⟨w, hw⟩ | ⟨refusal, hrefusal⟩)
    · cases htest.symm.trans hw
    · cases Except.error.inj (htest.symm.trans hrefusal)

end Registry

end LayeredConfig
