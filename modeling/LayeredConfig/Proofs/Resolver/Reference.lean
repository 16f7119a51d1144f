import LayeredConfig.Proofs.Placeholder.Reference
import LayeredConfig.Proofs.Resolver.Answers

/-!
# Reference — reading a key and referring to it

The text under a key, read with `getValue`, and the expansion of a placeholder for the key come to
the same; if one meets a circular body then so does the other (`reading_agrees_with_reference`).
-/

namespace LayeredConfig.Resolver

open Placeholder

/-- Reading a key and expanding a placeholder for it have the same text or fail alike. Where they
find a circular body, it may be another one. -/
structure Agrees (read : Except Error Value) (reference : Except Error String) : Prop where
  returned : ∀ v, read = .ok v ↔ ∃ text, v = .text text ∧ reference = .ok text
  unresolved : ∀ key text,
    read = .error (.unresolved key text) ↔ reference = .error (.unresolved key text)
  circular : (∃ body, read = .error (.circular body)) ↔
    ∃ body, reference = .error (.circular body)

theorem agrees_map_text (reference : Except Error String) :
    Agrees (Value.text <$> reference) reference := by
  cases reference with
  | error e =>
    have hread : Value.text <$> (.error e : Except Error String) = .error e := rfl
    rw [hread]
    exact ⟨by simp, by simp, by simp⟩
  | ok text =>
    have hread : Value.text <$> (.ok text : Except Error String) = .ok (.text text) := rfl
    rw [hread]
    exact ⟨by simp [eq_comm], by simp, by simp⟩

theorem agrees_of_circular {read : Except Error Value} {reference : Except Error String}
    {body other : String} (hread : read = .error (.circular body))
    (hreference : reference = .error (.circular other)) : Agrees read reference := by
  subst hread hreference
  exact ⟨by simp, by simp, by simp⟩

theorem resultOf_of_circular {run : Run Error (List Char)} (h : IsCircular run.outcome) :
    ∃ body, resultOf run = .error (.circular body) := by
  obtain ⟨body, h⟩ := h
  rw [resultOf, h]
  exact ⟨String.ofList body, rfl⟩

theorem rawAnswer_of_text {r : Resolver} {sources : List Source} {key layer s : String}
    (hhit : Source.firstHit? key sources = .ok (some (layer, .text s))) :
    r.rawAnswer sources key.toList = .ok (some s.toList) := by
  rw [rawAnswer, getRaw_apply, String.ofList_toList, rawValue, hhit]
  rfl

/-- A placeholder for a key, with the standard marks. -/
def placeholderFor (key : String) : String := "$\x7b" ++ key ++ "\x7d"

section Reading

variable {r : Resolver} {sources : List Source} {key layer s : String}

/-- The text under a key, expanded, and a placeholder for the key. -/
theorem agrees_expansion {x : Expander} (hx : x.delimiters = .standard)
    (hkey : Referable key.toList)
    (hhit : Source.firstHit? key sources = .ok (some (layer, .text s))) :
    Agrees (Value.text <$> resultOf (r.expansion x sources s))
      (resultOf (r.expansion x sources (placeholderFor key))) := by
  have hwritten : (placeholderFor key).toList = Delimiters.standard.written key.toList := by
    simp [placeholderFor, Delimiters.written, Delimiters.standard]
  have hsame :=
    Expander.expand_written hx hkey (rawAnswer_of_text hhit) (r.rawAnswer_within sources)
  rw [← hwritten] at hsame
  rcases hsame with hsame | ⟨hreference, hread⟩
  · have hresult : resultOf (r.expansion x sources (placeholderFor key)) =
        resultOf (r.expansion x sources s) := by
      rw [resultOf, resultOf, expansion, expansion, hsame]
    rw [hresult]
    exact agrees_map_text _
  · obtain ⟨body, hread⟩ := resultOf_of_circular hread
    obtain ⟨other, hreference⟩ := resultOf_of_circular hreference
    have hfails : Value.text <$> resultOf (r.expansion x sources s) = .error (.circular body) :=
      congrArg (Value.text <$> ·) hread
    exact agrees_of_circular hfails hreference

theorem result_getValue_of_text (hfresh : r.Fresh)
    (hhit : Source.firstHit? key sources = .ok (some (layer, .text s))) (default : Value) :
    (getValue sources key (some (.kind .str)) default r).result =
      Value.text <$>
        resultOf (r.expansion ⟨r.marks.delimiters, r.ignoreUnresolvable⟩ sources s) := by
  rw [getValue, Action.result_bind, result_find_of_text hfresh sources hhit]
  cases resultOf (r.expansion ⟨r.marks.delimiters, r.ignoreUnresolvable⟩ sources s) with
  | error e => rfl
  | ok text => rfl

end Reading

/-- **Reading and referring.** With the standard marks, and whatever was called before, the text
under a key reads as a placeholder for the key expands: in strict mode if placeholders must have
values, in lenient mode if they may stay. -/
theorem reading_agrees_with_reference (registry : Registry) (calls : List (List Source × Call))
    (sources : List Source) (key : String) {layer s : String}
    (hmarks : (reached registry calls).marks = .standard)
    (hkey : ∀ c ∈ key.toList, c ≠ '\x7b' ∧ c ≠ '\x7d' ∧ c ≠ ':')
    (hhit : Source.firstHit? key sources = .ok (some (layer, .text s))) (default : Value) :
    ((reached registry calls).ignoreUnresolvable = false →
      Agrees (getValue sources key (some (.kind .str)) default (reached registry calls)).result
        (resolveRequiredPlaceholders sources (placeholderFor key)
          (reached registry calls)).result) ∧
      ((reached registry calls).ignoreUnresolvable = true →
        Agrees (getValue sources key (some (.kind .str)) default (reached registry calls)).result
          (resolvePlaceholders sources (placeholderFor key)
            (reached registry calls)).result) := by
  have hfresh := (reached_settings registry calls).2
  have hdelimiters : (reached registry calls).marks.delimiters = .standard := by
    rw [hmarks]
    rfl
  rw [result_getValue_of_text hfresh hhit, resolveRequiredPlaceholders, resolvePlaceholders,
    expandText_apply hfresh, expandText_apply hfresh]
  constructor
  · intro hmode
    rw [hmode]
    exact agrees_expansion hdelimiters hkey hhit
  · intro hmode
    rw [hmode]
    exact agrees_expansion hdelimiters hkey hhit

/-- The keys `a` and `b` lead to each other, and `c` to a key without a value. -/
def loops : Source :=
  ⟨"loops", .mapping
    [("a", .text "$\x7bb\x7d"), ("b", .text "$\x7ba\x7d"), ("c", .text "$\x7bd\x7d")]⟩

/-- Reading `a` finds the cycle at `b`, referring to `a` finds it somewhere. -/
theorem reading_agrees_with_reference_loops :
    (getValue [loops] "a" (some (.kind .str)) .null (reached .standard [])).result =
        .error (.circular "b") ∧
      (∃ body, (resolveRequiredPlaceholders [loops] (placeholderFor "a")
        (reached .standard [])).result = .error (.circular body)) ∧
      (getValue [loops] "c" (some (.kind .str)) .null
        (reached .standard [([], .setIgnoreUnresolvable true)])).result =
          .ok (.text "$\x7bd\x7d") := by
  have hread : (getValue [loops] "a" (some (.kind .str)) .null (reached .standard [])).result =
      .error (.circular "b") := by
    cbv
  have hreference : (resolvePlaceholders [loops] (placeholderFor "c")
      (reached .standard [([], .setIgnoreUnresolvable true)])).result = .ok "$\x7bd\x7d" := by
    cbv
  have ha : Source.firstHit? "a" [loops] = .ok (some ("loops", .text "$\x7bb\x7d")) := rfl
  have hc : Source.firstHit? "c" [loops] = .ok (some ("loops", .text "$\x7bd\x7d")) := rfl
  have hstrict := (reading_agrees_with_reference .standard [] [loops] "a" rfl (by simp) ha
    .null).1 rfl
  have hlenient := (reading_agrees_with_reference .standard [([], .setIgnoreUnresolvable true)]
    [loops] "c" rfl (by simp) hc .null).2 rfl
  exact ⟨hread, hstrict.circular.1 ⟨"b", hread⟩,
    (hlenient.returned _).2 ⟨"$\x7bd\x7d", rfl, hreference⟩⟩

end LayeredConfig.Resolver
