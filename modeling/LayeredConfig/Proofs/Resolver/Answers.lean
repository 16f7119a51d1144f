import LayeredConfig.Proofs.Placeholder.Grammar
import LayeredConfig.Proofs.Resolver.Calls
import Mathlib

/-!
# Answers — what a resolver gives for texts and keys

An expansion goes over the values that the resolver gives without expansion. Whatever was called on
a resolver before, it answers as if every expander were built anew for the settings in force
(`answers_afresh`).
-/

namespace LayeredConfig.Resolver

open Placeholder

/-! ## 1. Expansion over a resolver -/

theorem getRaw_apply (sources : List Source) (key : String) (r : Resolver) :
    getRaw sources key r =
      ⟨r, (rawValue r.registry sources key).1, (rawValue r.registry sources key).2⟩ := by
  rw [getRaw, Action.read_bind]
  exact Action.emit_bind_ofExcept _ _

/-- What a resolver answers for the key of a placeholder: the value without expansion, if it can
stand in a text. -/
def rawAnswer (r : Resolver) (sources : List Source) : Lookup Error := fun key => do
  let v ← (getRaw sources (String.ofList key) r).result
  replacement? v

theorem lookup_eq_rawAnswer (r : Resolver) (sources : List Source) :
    lookup r.registry sources = r.rawAnswer sources := by
  funext key
  rw [lookup, rawAnswer, getRaw_apply]
  cases (rawValue r.registry sources (String.ofList key)).2 <;> rfl

theorem rawAnswer_within (r : Resolver) (sources : List Source) :
    (r.rawAnswer sources).Within (texts r.registry sources) := by
  rw [← lookup_eq_rawAnswer]
  exact fun _ _ => lookup_mem_texts

/-- The run of an expander over the values that a resolver gives without expansion. -/
def expansion (r : Resolver) (x : Expander) (sources : List Source) (text : String) :
    Run Error (List Char) :=
  x.expand (texts r.registry sources) (r.rawAnswer sources) text.toList

/-- What a run comes to for the one who asked for it. -/
def resultOf (run : Run Error (List Char)) : Except Error String :=
  match run.outcome with
  | .ok cs => .ok (String.ofList cs)
  | .error failure => .error (Error.ofFailure failure)

theorem expandWith_eq (r : Resolver) (x : Expander) (sources : List Source) (text : String) :
    expandWith x r.registry sources text =
      (eventsOf r.registry sources (r.expansion x sources text).steps,
        resultOf (r.expansion x sources text)) := by
  rw [expandWith, lookup_eq_rawAnswer]
  rfl

/-- Nothing is replaced in the empty text. -/
theorem resultOf_expansion_empty (r : Resolver) (x : Expander) (sources : List Source) :
    resultOf (r.expansion x sources "") = .ok "" := by
  have hopening : ¬x.delimiters.opening <:+: [] := fun h =>
    x.delimiters.opening_ne_nil (List.infix_nil.1 h)
  have houtcome : (r.expansion x sources "").outcome = .ok [] :=
    Expander.outcome_expandAt_of_notInfix hopening
      (Nat.lt_of_le_of_lt (Nat.zero_le _) (Expander.length_lt_depthFor [] _)) []
  rw [resultOf, houtcome]

theorem expandValue_of_plain {sources : List Source} {v : Value} (hplain : ∀ s, v.plain ≠ .text s) :
    expandValue sources v = pure v := by
  unfold expandValue
  split
  next s hs => exact absurd hs (hplain s)
  next => rfl

/-- The value is converted after the expansion, which may have built an expander. -/
theorem result_find_of_hit {r : Resolver} {sources : List Source} {key layer : String} {v : Value}
    (hhit : Source.firstHit? key sources = .ok (some (layer, v))) (target : Option Target) :
    (find sources key target r).result =
      (expandValue sources v r).result >>= fun expanded => convertTo r.registry expanded target := by
  have hregistry := (expandValue_respects sources v r).registry_eq
  rw [find, hhit, Action.ofExcept_ok_bind]
  show ((expandValue sources v >>= _) r).result = _
  rw [Action.result_bind]
  cases (expandValue sources v r).result with
  | error e => rfl
  | ok expanded =>
    show convertTo (expandValue sources v r).state.registry _ target = _
    rw [hregistry]
    rfl

section Answers

variable {r : Resolver} (hfresh : r.Fresh) (sources : List Source)

include hfresh

/-- An expansion is done by a new expander for the marks in force, whichever are kept. -/
theorem expandText_apply (lenient : Bool) (text : String) :
    expandText sources lenient text r =
      ⟨(expander lenient r).state,
        eventsOf r.registry sources (r.expansion ⟨r.marks.delimiters, lenient⟩ sources text).steps,
        resultOf (r.expansion ⟨r.marks.delimiters, lenient⟩ sources text)⟩ := by
  have hregistry := (expander_respects lenient r).registry_eq
  have hevents : (expander lenient r).events = [] := by
    unfold expander
    split <;> rfl
  rw [expandText, Action.bind_of_ok (hfresh.expander_result lenient), Action.read_bind, hregistry,
    hevents, expandWith_eq]
  exact Action.emit_bind_ofExcept _ _

theorem result_expandValue {v : Value} {s : String} (hplain : v.plain = .text s) :
    (expandValue sources v r).result =
      v.reworded <$>
        resultOf (r.expansion ⟨r.marks.delimiters, r.ignoreUnresolvable⟩ sources s) := by
  unfold expandValue
  rw [hplain]
  dsimp only
  by_cases hempty : s = ""
  · rw [if_pos hempty, hempty, resultOf_expansion_empty]
    exact congrArg Except.ok (Value.reworded_self (hempty ▸ hplain)).symm
  · rw [if_neg hempty, Action.read_bind, Action.result_bind, expandText_apply hfresh,
      map_eq_pure_bind]
    rfl

theorem result_find_of_text {key layer s : String}
    (hhit : Source.firstHit? key sources = .ok (some (layer, .text s))) (target : Option Target) :
    (find sources key target r).result = (do
      let expanded ←
        resultOf (r.expansion ⟨r.marks.delimiters, r.ignoreUnresolvable⟩ sources s)
      convertTo r.registry (.text expanded) target) := by
  rw [result_find_of_hit hhit, result_expandValue hfresh sources (v := .text s) rfl, bind_map_left]
  rfl

end Answers

/-- A resolver answers as if it kept no expanders: a text is expanded by a new expander for the
mode that is asked for, the text under a key by a new one for the mode that is set. What it
refuses to set changes nothing. -/
structure AnswersAfresh (r : Resolver) : Prop where
  lenient : ∃ x, r.settings.expander? true = some x ∧ ∀ sources text,
    (resolvePlaceholders sources text r).result = resultOf (r.expansion x sources text)
  strict : ∃ x, r.settings.expander? false = some x ∧ ∀ sources text,
    (resolveRequiredPlaceholders sources text r).result = resultOf (r.expansion x sources text)
  value : ∃ x, r.settings.expander? r.settings.ignoreUnresolvable = some x ∧
    ∀ sources key layer s, Source.firstHit? key sources = .ok (some (layer, .text s)) →
      ∀ target default, (getValue sources key target default r).result = (do
        let expanded ← resultOf (r.expansion x sources s)
        let v ← convertTo r.registry (.text expanded) target
        pure (if v.isNull then default else v))
  refused : ∀ sources (call : Call) e, call.sets = true →
    (call.perform sources r).result = .error e →
      e.category = .invalidArgument ∧ (call.perform sources r).state = r

theorem Fresh.answersAfresh {r : Resolver} (hfresh : r.Fresh) : r.AnswersAfresh where
  lenient := by
    refine ⟨_, expander?_settings r true, fun sources text => ?_⟩
    rw [resolvePlaceholders, expandText_apply hfresh]
  strict := by
    refine ⟨_, expander?_settings r false, fun sources text => ?_⟩
    rw [resolveRequiredPlaceholders, expandText_apply hfresh]
  value := by
    refine ⟨_, expander?_settings r _, fun sources key layer s hhit target default => ?_⟩
    rw [getValue, Action.result_bind, result_find_of_text hfresh sources hhit, bind_assoc]
    rfl
  refused sources call e hsets h := by
    obtain ⟨hcategory, hsame⟩ := perform_refused hsets h
    exact ⟨hcategory, congrArg Outcome.state hsame⟩

/-- **No stale expanders.** After any calls, failures among them, a resolver has the settings that
the calls have set, and it answers as if every expander were built for these when it is used. -/
theorem answers_afresh (registry : Registry) (calls : List (List Source × Call)) :
    (reached registry calls).settings =
        calls.foldl (fun s (_, call) => s.after call) Settings.standard ∧
      (reached registry calls).AnswersAfresh := by
  obtain ⟨hsettings, hfresh⟩ := reached_settings registry calls
  exact ⟨hsettings, hfresh.answersAfresh⟩

/-- The key `a` has a value, `b` stands for a placeholder that has none. -/
def sample : Source := ⟨"sample", .mapping [("a", .text "1"), ("b", .text "#\x7bn\x7d")]⟩

/-- A mark is changed after an expansion, then refused; then gaps are to stay. -/
def remarked : List (List Source × Call) :=
  [([sample], .resolvePlaceholders "$\x7ba\x7d#\x7ba\x7d"), ([], .setOpening (some "#\x7b")),
    ([], .setOpening (some "")), ([sample], .getValue "b" none .null),
    ([], .setIgnoreUnresolvable true)]

theorem answers_afresh_remarked :
    (reached .standard remarked).settings = ⟨"#\x7b", "\x7d", some ":", true⟩ ∧
      (resolvePlaceholders [sample] "$\x7ba\x7d#\x7ba\x7d" (reached .standard remarked)).result =
        .ok "$\x7ba\x7d1" ∧
      (resolveRequiredPlaceholders [sample] "#\x7bn\x7d" (reached .standard remarked)).result =
        .error (.unresolved "n" "#\x7bn\x7d") ∧
      (getValue [sample] "b" none .null (reached .standard remarked)).result =
        .ok (.text "#\x7bn\x7d") := by
  obtain ⟨hafter, hanswers⟩ := answers_afresh .standard remarked
  have hset : (reached .standard remarked).settings = ⟨"#\x7b", "\x7d", some ":", true⟩ := by
    rw [hafter]
    rfl
  obtain ⟨x, hx, hlenient⟩ := hanswers.lenient
  obtain ⟨y, hy, hstrict⟩ := hanswers.strict
  obtain ⟨z, hz, hvalue⟩ := hanswers.value
  rw [hset] at hx hy hz
  cases hx
  cases hy
  cases hz
  refine ⟨hset, ?_, ?_, ?_⟩
  · rw [hlenient]
    cbv
  · rw [hstrict]
    cbv
  · rw [hvalue [sample] "b" "sample" "#\x7bn\x7d" rfl]
    cbv

end LayeredConfig.Resolver
