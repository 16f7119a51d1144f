import LayeredConfig.Proofs.Conversion.Kinds
import LayeredConfig.Proofs.Resolver.Dependence

/-!
# Typed lookup — a lookup for a target is one without, and then a conversion

What belongs to a target already is passed on without a conversion, and the conversion would leave it as
it is (`convertTo_some`). So a lookup for a target does what the lookup without one does and converts
what this gives (`find_typed`), and it ends with the source that it ends with (`typed_as_converted`).
-/

namespace LayeredConfig.Resolver

/-! ## 1. What is passed on -/

/-- A Boolean that is passed on goes to a target for Booleans, so it is not taken for a number. -/
theorem fits_of_passed {v : Value} {target : Target} (hinstance : target.hasInstance v = .ok true)
    (hbool : (!(v.isBool && target.kind? ≠ some .bool)) = true) : v.fits target = .ok true := by
  refine Value.fits_of_hasInstance hinstance ?_
  rintro ⟨hisBool, rfl⟩
  simp [hisBool, Target.kind?] at hbool

/-- Whether a value is passed on or converted makes no difference, if there is a value or the target can
tell what nothing is. -/
theorem convertTo_some (registry : Registry) {v : Value} {target : Target}
    (h : v.isNull = true → ∃ b, target.hasInstance v = .ok b) :
    convertTo registry v (some target) = registry.convert v target := by
  unfold convertTo
  dsimp only
  split
  next => rfl
  next =>
    split
    next f hinstance =>
      cases hnull : v.isNull with
      | true =>
        obtain ⟨b, hb⟩ := h hnull
        cases hb.symm.trans hinstance
      | false =>
        have hfits := Value.fits_of_hasInstance_eq_error hinstance
        exact (Registry.convert_of_fits_eq_error hnull hfits).symm
    next b hinstance =>
      split
      next hpassed =>
        obtain ⟨rfl, hbool⟩ := Bool.and_eq_true_iff.1 hpassed
        exact (Registry.convert_of_fits (fits_of_passed hinstance hbool)).symm
      next => rfl

/-! ## 2. Lookup without a target -/

section Find

variable {r : Resolver} {sources : List Source} {key : String}

/-- An expansion never makes nothing of something. -/
theorem not_isNull_of_expandValue {v w : Value} (hv : v.isNull = false)
    (h : (expandValue sources v r).result = .ok w) : w.isNull = false := by
  by_cases htext : ∃ s, v.plain = .text s
  · obtain ⟨s, hs⟩ := htext
    rw [expandValue, hs] at h
    dsimp only at h
    split at h
    next =>
      cases h
      exact hv
    next =>
      obtain ⟨lenient, -, h⟩ := Action.ok_of_bind h
      obtain ⟨expanded, -, h⟩ := Action.ok_of_bind h
      cases h
      exact Value.not_isNull_reworded hv expanded
  · rw [expandValue_of_plain fun s hs => htext ⟨s, hs⟩] at h
    cases h
    exact hv

/-- The value that answers is expanded, and the source that it comes from is reported. -/
theorem find_none_of_hit {layer : String} {v : Value}
    (h : Source.firstHit? key sources = .ok (some (layer, v))) :
    find sources key none r = (expandValue sources v >>= fun expanded => do
      Action.emit [.keyFound layer key expanded.kindName]
      pure expanded) r :=
  find_of_hit h

theorem result_find_none_of_hit {layer : String} {v : Value}
    (h : Source.firstHit? key sources = .ok (some (layer, v))) :
    (find sources key none r).result = (expandValue sources v r).result := by
  rw [find_none_of_hit h, Action.result_bind]
  cases (expandValue sources v r).result with
  | error e => rfl
  | ok expanded => rfl

theorem find_none_eq_null_iff :
    (find sources key none r).result = .ok .null ↔ Source.firstHit? key sources = .ok none := by
  constructor
  · intro h
    cases hhit : Source.firstHit? key sources with
    | error e =>
      rw [find_of_error hhit] at h
      contradiction
    | ok hit =>
      match hit with
      | none => rfl
      | some (layer, v) =>
        -- What answers is something, and so is what comes of it.
        rw [result_find_none_of_hit hhit] at h
        exact nomatch not_isNull_of_expandValue (Source.not_isNull_of_hit hhit) h
  · intro hnone
    rw [find_of_none hnone]

theorem getValue_null (sources : List Source) (key : String) (target : Option Target) :
    getValue sources key target .null = find sources key target := by
  have hsame : ∀ v : Value, (if v.isNull then .null else v) = v := by
    intro v
    cases v <;> rfl
  rw [getValue]
  simp only [hsame, bind_pure]

theorem getValue_apply (target : Option Target) (default : Value) :
    getValue sources key target default r =
      ⟨(find sources key target r).state, (find sources key target r).events,
        (find sources key target r).result >>= fun v => if v.isNull then .ok default else .ok v⟩ := by
  refine Action.bind_of_still (fun v r => ?_) r
  cases v <;> rfl

theorem getRequired_apply (target : Option Target) :
    getRequired sources key target r =
      ⟨(find sources key target r).state, (find sources key target r).events,
        (find sources key target r).result >>= fun v =>
          if v.isNull then .error (.missingKey key) else .ok v⟩ := by
  refine Action.bind_of_still (fun v r => ?_) r
  cases v <;> rfl

end Find

/-! ## 3. Lookup for a target -/

/-- An outcome in which the value is converted. -/
def converting (registry : Registry) (target : Target) (found : Outcome Resolver Value) :
    Outcome Resolver Value :=
  { found with result := found.result >>= fun w => registry.convert w target }

theorem find_typed (r : Resolver) (sources : List Source) (key : String) (target : Target) :
    find sources key (some target) r =
      converting r.registry target (find sources key none r) := by
  cases hhit : Source.firstHit? key sources with
  | error e =>
    rw [find_of_error hhit, find_of_error hhit]
    rfl
  | ok hit =>
    match hit with
    | none =>
      rw [find_of_none hhit, find_of_none hhit]
      rfl
    | some (layer, v) =>
      -- The expansion leaves the registry, so the conversion is by the one that was there before.
      have hregistry := (expandValue_respects sources v r).registry_eq
      rw [find_of_hit hhit, find_none_of_hit hhit]
      cases hexpanded : (expandValue sources v r).result with
      | error e =>
        rw [Action.bind_of_error hexpanded, Action.bind_of_error hexpanded]
        rfl
      | ok expanded =>
        have hnull : expanded.isNull = false :=
          not_isNull_of_expandValue (Source.not_isNull_of_hit hhit) hexpanded
        rw [Action.bind_of_ok hexpanded, Action.bind_of_ok hexpanded, Action.emit_bind,
          Action.emit_bind, Action.read_bind, Action.ofExcept_apply, hregistry,
          convertTo_some _ fun h => absurd h (by simp [hnull])]
        rfl

/-- What a lookup for a target comes to, from what the lookup without one comes to: the value is
converted, and `missing` stands for nothing, whether nothing was found or a conversion made it. -/
def typed (registry : Registry) (target : Target) (missing : Except Error Value)
    (untyped : Outcome Resolver Value) : Outcome Resolver Value where
  state := untyped.state
  events := untyped.events
  result := do
    let w ← untyped.result
    if w.isNull then missing
    else do
      let v ← registry.convert w target
      if v.isNull then missing else pure v

/-- Nothing converts to nothing, so it may be converted before it is replaced. -/
theorem typed_eq (registry : Registry) (target : Target) (missing : Except Error Value)
    (untyped : Outcome Resolver Value) :
    typed registry target missing untyped =
      ⟨untyped.state, untyped.events, (converting registry target untyped).result >>= fun v =>
        if v.isNull then missing else .ok v⟩ := by
  rw [typed, converting]
  cases untyped.result with
  | error e => rfl
  | ok w =>
    show Outcome.mk _ _ (if w.isNull then _ else (registry.convert w target >>= _)) =
      Outcome.mk _ _ (registry.convert w target >>= _)
    cases hw : w.isNull with
    | true =>
      rw [Registry.convert, if_pos hw]
      show _ = Outcome.mk _ _ (if w.isNull then missing else .ok w)
      rw [hw]
      rfl
    | false => rfl

theorem getValue_typed (r : Resolver) (sources : List Source) (key : String) (target : Target)
    (default : Value) :
    getValue sources key (some target) default r =
      typed r.registry target (.ok default) (getValue sources key none .null r) := by
  rw [getValue_null, getValue_apply, find_typed, typed_eq]
  rfl

theorem getRequired_typed (r : Resolver) (sources : List Source) (key : String) (target : Target) :
    getRequired sources key (some target) r =
      typed r.registry target (.error (.missingKey key)) (getValue sources key none .null r) := by
  rw [getValue_null, getRequired_apply, find_typed, typed_eq]
  rfl

/-- What was found and is converted to nothing is missing. -/
theorem result_typed_of_null {registry : Registry} {target : Target} {missing : Except Error Value}
    {untyped : Outcome Resolver Value} {w : Value} (hfound : untyped.result = .ok w)
    (hconvert : registry.convert w target = .ok .null) :
    (typed registry target missing untyped).result = missing := by
  have hconverted : (converting registry target untyped).result = .ok .null := by
    rw [converting, hfound]
    exact hconvert
  rw [typed_eq, hconverted]
  rfl

/-- **Typed lookup.** In every state of a resolver a lookup for a target does what the lookup without one
does, fails where it fails, and otherwise gives the conversion of its value: the default, or the error of a
missing key, stands for nothing. Whether a value is passed on or converted makes no difference, if only the
target can tell what nothing is where there is no value. Nothing is found only where no source has anything,
and if the first source that has something has what converts to nothing, those behind it are not taken. -/
theorem typed_as_converted (r : Resolver) (sources : List Source) (key : String) (target : Target)
    (default : Value) :
    getValue sources key (some target) default r =
        typed r.registry target (.ok default) (getValue sources key none .null r) ∧
      getRequired sources key (some target) r =
        typed r.registry target (.error (.missingKey key)) (getValue sources key none .null r) ∧
      (∀ v : Value, (v.isNull = true → ∃ b, target.hasInstance v = .ok b) →
        convertTo r.registry v (some target) = r.registry.convert v target) ∧
      ((getValue sources key none .null r).result = .ok .null ↔
        Source.firstHit? key sources = .ok none) ∧
      ∀ above s below v w, sources = above ++ s :: below → (∀ t ∈ above, t.isSilent key = true) →
        s.content.get key = .ok v → v.isNull = false → (expandValue sources v r).result = .ok w →
        r.registry.convert w target = .ok .null →
          (getValue sources key (some target) default r).result = .ok default ∧
            (getRequired sources key (some target) r).result = .error (.missingKey key) := by
  refine ⟨getValue_typed r sources key target default, getRequired_typed r sources key target,
    fun v => convertTo_some r.registry, ?nothing, ?first⟩
  case nothing =>
    rw [getValue_null]
    exact find_none_eq_null_iff
  case first =>
    intro above s below v w hsources habove hget hv hexpanded hconvert
    have hhit : Source.firstHit? key sources = .ok (some (s.name, v)) := by
      rw [hsources]
      exact Source.firstHit?_of_first habove hget hv
    have hfound : (getValue sources key none .null r).result = .ok w := by
      rw [getValue_null, result_find_none_of_hit hhit, hexpanded]
    rw [getValue_typed, getRequired_typed]
    exact ⟨result_typed_of_null hfound hconvert, result_typed_of_null hfound hconvert⟩

/-- A switch that is left blank above one that is set. -/
def blankAboveSet : List Source :=
  [⟨"local", .mapping [("debug", .text " $\x7bblank:\x7d ")]⟩,
    ⟨"shared", .mapping [("debug", .text "yes"), ("level", .bool true)]⟩]

/-- The blank switch is no Boolean, but the one behind it is not taken; and a Boolean is converted for an
integer. -/
theorem typed_as_converted_blank :
    (getValue blankAboveSet "debug" none .null (.new .standard)).result = .ok (.text "  ") ∧
      (getValue blankAboveSet "debug" (some (.kind .bool)) (.text "unset") (.new .standard)).result =
        .ok (.text "unset") ∧
      (getRequired blankAboveSet "debug" (some (.kind .bool)) (.new .standard)).result =
        .error (.missingKey "debug") ∧
      (getValue blankAboveSet "level" (some (.kind .int)) .null (.new .standard)).result =
        .ok (.int 1) := by
  have hfound : (getValue blankAboveSet "debug" none .null (.new .standard)).result =
      .ok (.text "  ") := by
    cbv
  have hexpanded : (expandValue blankAboveSet (.text " $\x7bblank:\x7d ") (.new .standard)).result =
      .ok (.text "  ") := by
    cbv
  have hblank : Registry.standard.convert (.text "  ") (.kind .bool) = .ok .null := by cbv
  obtain ⟨-, -, -, -, hmissing⟩ :=
    typed_as_converted (.new .standard) blankAboveSet "debug" (.kind .bool) (.text "unset")
  have hint := (typed_as_converted (.new .standard) blankAboveSet "level" (.kind .int) .null).1
  obtain ⟨hvalue, hrequired⟩ := hmissing [] _ _ _ _ rfl (List.forall_mem_nil _) rfl rfl hexpanded hblank
  refine ⟨hfound, hvalue, hrequired, ?_⟩
  rw [hint]
  cbv

end LayeredConfig.Resolver
