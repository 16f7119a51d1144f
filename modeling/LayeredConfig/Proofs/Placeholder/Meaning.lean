import LayeredConfig.Proofs.Placeholder.Termination

/-!
# Meaning — what a text with placeholders stands for

The meaning of a text is given by rules, without a buffer, an index or a bound on depth: literals
stand for themselves, a placeholder for the meaning of the value of its key, else for the meaning
of its default. An expansion ends with an outcome exactly if the rules give that outcome
(`expansion_means`).
-/

namespace LayeredConfig.Placeholder.Expander

variable {ε : Type}

/-! ## 1. Rules -/

section Rules

variable (x : Expander) (lookup : Lookup ε)

mutual

/-- What a text means inside the bodies `active`. -/
inductive Means : List (List Char) → List Char → Except (Failure ε) (List Char) → Prop
  | text {active text o} (h : Reads active text (Layout.ofText x.delimiters text) o) :
    Means active text o

/-- What a part of the layout of `text` means, from left to right. -/
inductive Reads :
    List (List Char) → List Char → Layout → Except (Failure ε) (List Char) → Prop
  | rest {active text cs} : Reads active text (.rest cs) (.ok cs)
  | circular {active text before body after} (h : body ∈ active) :
    Reads active text (.placeholder before body after) (.error (.circular body))
  | failed {active text before body after e} (hnew : body ∉ active)
    (h : Settles (body :: active) body (.error e)) :
    Reads active text (.placeholder before body after) (.error e)
  | unresolved {active text before body after key} (hnew : body ∉ active)
    (h : Settles (body :: active) body (.ok (key, none))) (hstrict : x.lenient = false) :
    Reads active text (.placeholder before body after) (.error (.unresolved key text))
  | kept {active text before body after key o} (hnew : body ∉ active)
    (h : Settles (body :: active) body (.ok (key, none))) (hlenient : x.lenient = true)
    (hafter : Reads active text after o) :
    Reads active text (.placeholder before body after)
      ((before ++ x.delimiters.written body ++ ·) <$> o)
  | replaced {active text before body after key new o} (hnew : body ∉ active)
    (h : Settles (body :: active) body (.ok (key, some new)))
    (hafter : Reads active text after o) :
    Reads active text (.placeholder before body after) ((before ++ new ++ ·) <$> o)

/-- What a body comes to: the key that is asked for, and what takes the place of the placeholder. -/
inductive Settles :
    List (List Char) → List Char → Except (Failure ε) (List Char × Option (List Char)) → Prop
  | keyFails {active body e} (hkey : Means active (x.delimiters.split body).1 (.error e)) :
    Settles active body (.error e)
  | defaultFails {active body key e} (hkey : Means active (x.delimiters.split body).1 (.ok key))
    (hdefault : Defaults active (x.delimiters.split body).2 (.error e)) :
    Settles active body (.error e)
  | lookupFails {active body key default e}
    (hkey : Means active (x.delimiters.split body).1 (.ok key))
    (hdefault : Defaults active (x.delimiters.split body).2 (.ok default))
    (hlookup : lookup key = .error e) : Settles active body (.error (.lookup e))
  | valueFails {active body key default found e}
    (hkey : Means active (x.delimiters.split body).1 (.ok key))
    (hdefault : Defaults active (x.delimiters.split body).2 (.ok default))
    (hlookup : lookup key = .ok (some found)) (hvalue : Means active found (.error e)) :
    Settles active body (.error e)
  | value {active body key default found new}
    (hkey : Means active (x.delimiters.split body).1 (.ok key))
    (hdefault : Defaults active (x.delimiters.split body).2 (.ok default))
    (hlookup : lookup key = .ok (some found)) (hvalue : Means active found (.ok new)) :
    Settles active body (.ok (key, some new))
  | default {active body key default}
    (hkey : Means active (x.delimiters.split body).1 (.ok key))
    (hdefault : Defaults active (x.delimiters.split body).2 (.ok default))
    (hlookup : lookup key = .ok none) : Settles active body (.ok (key, default))

/-- What the default part of a body means, if there is one. -/
inductive Defaults :
    List (List Char) → Option (List Char) → Except (Failure ε) (Option (List Char)) → Prop
  | none {active} : Defaults active none (.ok none)
  | some {active part o} (h : Means active part o) : Defaults active (some part) (some <$> o)

end

end Rules

variable {x : Expander} {lookup : Lookup ε}

/-! ## 2. Every outcome is the meaning -/

section Soundness

variable {active : List (List Char)} {inner : List Char → Run ε (List Char)}
  (hinner : ∀ {text o}, (inner text).outcome = o → Definite o → Means x lookup active text o)

include hinner

theorem defaults_of_outcome {part : Option (List Char)}
    {o : Except (Failure ε) (Option (List Char))} (h : (part.mapM inner).outcome = o)
    (ho : Definite o) : Defaults x lookup active part o := by
  cases part with
  | none =>
    obtain rfl : .ok none = o := h
    exact .none
  | some part =>
    rw [Option.mapM_some, Run.outcome_map] at h
    subst h
    exact .some (hinner rfl ((definite_map_iff _ _).1 ho))

theorem settles_of_outcome {body : List Char}
    {o : Except (Failure ε) (List Char × Option (List Char))}
    (h : (x.substitute lookup inner body).outcome = o) (ho : Definite o) :
    Settles x lookup active body o := by
  rw [substitute_eq] at h
  rcases Run.outcome_bind_cases h with ⟨e, hkey, rfl⟩ | ⟨key, hkey, h⟩
  · exact .keyFails (hinner hkey ho.error)
  replace hkey := hinner hkey (definite_ok key)
  rcases Run.outcome_bind_cases h with ⟨e, hdefault, rfl⟩ | ⟨default, hdefault, h⟩
  · exact .defaultFails hkey (defaults_of_outcome hinner hdefault ho.error)
  replace hdefault := defaults_of_outcome hinner hdefault (definite_ok default)
  rw [Run.outcome_bind, Run.outcome_ask] at h
  cases hlookup : lookup key with
  | error e =>
    rw [hlookup] at h
    obtain rfl : .error (.lookup e) = o := h
    exact .lookupFails hkey hdefault hlookup
  | ok value =>
    rw [hlookup] at h
    replace h : (value.mapM inner >>= fun found => pure (key, found.or default)).outcome = o := h
    cases value with
    | none =>
      obtain rfl : .ok (key, default) = o := h
      exact .default hkey hdefault hlookup
    | some found =>
      rw [Option.mapM_some, map_eq_pure_bind, bind_assoc] at h
      rcases Run.outcome_bind_cases h with ⟨e, hvalue, rfl⟩ | ⟨new, hvalue, h⟩
      · exact .valueFails hkey hdefault hlookup (hinner hvalue ho.error)
      · obtain rfl : .ok (key, some new) = o := h
        exact .value hkey hdefault hlookup (hinner hvalue (definite_ok new))

end Soundness

theorem reads_of_outcome {depth : Nat} {active : List (List Char)} {text : List Char}
    (hinner : ∀ {active text o}, (x.expandAt lookup depth active text).outcome = o →
      Definite o → Means x lookup active text o)
    {l : Layout} {o : Except (Failure ε) (List Char)}
    (h : (x.read (x.settle lookup depth active) text l).outcome = o) (ho : Definite o) :
    Reads x lookup active text l o := by
  induction l generalizing o with
  | rest cs =>
    obtain rfl : .ok cs = o := h
    exact .rest
  | placeholder before body after ih =>
    -- Which rule applies is decided by the body, then by its replacement, then by the mode.
    by_cases hmem : body ∈ active
    · rw [outcome_read_of_failed (congrArg Run.outcome (settle_of_mem hmem))] at h
      subst h
      exact .circular hmem
    have hsettle : x.settle lookup depth active body =
        x.substitute lookup (x.expandAt lookup depth (body :: active)) body := settle_of_notMem hmem
    cases hbody : (x.settle lookup depth active body).outcome with
    | error e =>
      rw [outcome_read_of_failed hbody] at h
      subst h
      rw [hsettle] at hbody
      exact .failed hmem (settles_of_outcome hinner hbody ho.error)
    | ok settled =>
      rcases settled with ⟨key, replacement⟩
      have hmeans := settles_of_outcome hinner (hsettle ▸ hbody) (definite_ok (key, replacement))
      cases replacement with
      | some new =>
        rw [outcome_read_of_replaced hbody] at h
        subst h
        exact .replaced hmem hmeans (ih rfl ((definite_map_iff _ _).1 ho))
      | none =>
        cases hmode : x.lenient with
        | true =>
          rw [outcome_read_of_kept hbody hmode] at h
          subst h
          exact .kept hmem hmeans hmode (ih rfl ((definite_map_iff _ _).1 ho))
        | false =>
          rw [outcome_read_of_unresolved hbody hmode] at h
          subst h
          exact .unresolved hmem hmeans hmode

theorem means_of_outcome {depth : Nat} {active : List (List Char)} {text : List Char}
    {o : Except (Failure ε) (List Char)}
    (h : (x.expandAt lookup depth active text).outcome = o) (ho : Definite o) :
    Means x lookup active text o := by
  induction depth generalizing active text o with
  | zero => exact absurd h.symm ho
  | succ depth ih =>
    rw [expandAt_succ] at h
    exact .text (reads_of_outcome ih h ho)

/-! ## 3. Every meaning is the outcome -/

theorem Means.ends {active : List (List Char)} {text : List Char}
    {o : Except (Failure ε) (List Char)} (h : Means x lookup active text o) :
    x.Ends lookup active text o := by
  -- By induction on the derivation, with the outcome in the limit for each of the four relations.
  refine @Means.rec ε x lookup
    (fun active text o _ => x.Ends lookup active text o)
    (fun active text l o _ =>
      Run.Converges (fun depth => x.read (x.settle lookup depth active) text l) o)
    (fun active body o _ =>
      Run.Converges (fun depth => x.substitute lookup (x.expandAt lookup depth active) body) o)
    (fun active part o _ =>
      Run.Converges (fun depth => part.mapM (x.expandAt lookup depth active)) o)
    ?text ?rest ?circular ?failed ?unresolved ?kept ?replaced
    ?keyFails ?defaultFails ?lookupFails ?valueFails ?value ?default ?none ?some active text o h
  case text =>
    intro active text o _ hreads
    apply Run.Converges.of_succ
    simp only [expandAt_succ]
    exact hreads
  -- A layout: what the body of its first placeholder comes to decides if the rest is read.
  case rest =>
    intro active text cs
    exact Run.converges_const rfl (definite_ok cs)
  case circular =>
    intro active text before body after hmem
    refine ⟨definite_error_iff.2 nofun, 0, fun depth _ => ?_⟩
    exact outcome_read_of_failed (congrArg Run.outcome (settle_of_mem hmem))
  case failed =>
    intro active text before body after e hnew _ ⟨he, n, hn⟩
    refine ⟨he.error, n, fun depth hdepth => outcome_read_of_failed ?_⟩
    rw [settle_of_notMem hnew, hn depth hdepth]
  case unresolved =>
    intro active text before body after key hnew _ hstrict ⟨_, n, hn⟩
    refine ⟨definite_error_iff.2 nofun, n, fun depth hdepth => ?_⟩
    refine outcome_read_of_unresolved ?_ hstrict
    rw [settle_of_notMem hnew, hn depth hdepth]
  case kept =>
    intro active text before body after key o hnew _ hlenient _ ⟨_, n, hn⟩ ⟨ho, m, hm⟩
    refine ⟨(definite_map_iff _ o).2 ho, max n m, fun depth hdepth => ?_⟩
    have hbody : (x.settle lookup depth active body).outcome = .ok (key, none) := by
      rw [settle_of_notMem hnew, hn depth (by omega)]
    rw [outcome_read_of_kept hbody hlenient, hm depth (by omega)]
  case replaced =>
    intro active text before body after key new o hnew _ _ ⟨_, n, hn⟩ ⟨ho, m, hm⟩
    refine ⟨(definite_map_iff _ o).2 ho, max n m, fun depth hdepth => ?_⟩
    have hbody : (x.settle lookup depth active body).outcome = .ok (key, some new) := by
      rw [settle_of_notMem hnew, hn depth (by omega)]
    rw [outcome_read_of_replaced hbody, hm depth (by omega)]
  -- A body: key, default, lookup and value come one after another, and the first that fails ends
  -- it.
  case keyFails =>
    intro active body e _ hkey
    simp only [substitute_eq]
    exact hkey.bind_error
  case defaultFails =>
    intro active body key e _ _ hkey hdefault
    simp only [substitute_eq]
    exact hkey.bind_ok hdefault.bind_error
  case lookupFails =>
    intro active body key default e _ _ hlookup hkey hdefault
    simp only [substitute_eq]
    refine hkey.bind_ok (hdefault.bind_ok (Run.Converges.bind_error ?_))
    refine Run.converges_const ?_ (definite_error_iff.2 nofun)
    rw [Run.outcome_ask, hlookup]
    rfl
  case valueFails =>
    intro active body key default found e _ _ hlookup _ hkey hdefault hvalue
    simp only [substitute_eq]
    refine hkey.bind_ok (hdefault.bind_ok ((Run.converges_ask hlookup).bind_ok ?_))
    exact (hvalue.map some).bind_error
  case value =>
    intro active body key default found new _ _ hlookup _ hkey hdefault hvalue
    simp only [substitute_eq]
    refine hkey.bind_ok (hdefault.bind_ok ((Run.converges_ask hlookup).bind_ok ?_))
    exact (hvalue.map some).bind_ok (Run.converges_const rfl (definite_ok _))
  case default =>
    intro active body key default _ _ hlookup hkey hdefault
    simp only [substitute_eq]
    refine hkey.bind_ok (hdefault.bind_ok ((Run.converges_ask hlookup).bind_ok ?_))
    exact Run.converges_const rfl (definite_ok _)
  case none =>
    intro active
    exact Run.converges_const rfl (definite_ok none)
  case some =>
    intro active part o _ hpart
    simp only [Option.mapM_some]
    exact hpart.map some

theorem ends_iff_means {active : List (List Char)} {text : List Char}
    {o : Except (Failure ε) (List Char)} :
    x.Ends lookup active text o ↔ Means x lookup active text o := by
  constructor
  · rintro ⟨ho, least, hleast⟩
    exact means_of_outcome (hleast least (Nat.le_refl least)) ho
  · exact Means.ends

/-- **Compositional meaning.** Inside any bodies, an expansion in one buffer ends with exactly the
outcome that the rules give for the text as it was at first. Over a lookup with finitely many
answers there is always one, and it is what `expand` gives. -/
theorem expansion_means (x : Expander) (lookup : Lookup ε) (text : List Char) :
    (∀ active o, x.Ends lookup active text o ↔ Means x lookup active text o) ∧
      ∀ values, lookup.Within values →
        Means x lookup [] text (x.expand values lookup text).outcome := by
  constructor
  · intro active o
    exact ends_iff_means
  · intro values hwithin
    exact ends_iff_means.1 (ends_expand x hwithin text)

/-- Two values that make a placeholder when they stand side by side. -/
def halves : Lookup Empty :=
  Lookup.ofTable [(['l'], "$\x7b".toList), (['r'], "l\x7d".toList)]

theorem expansion_means_halves :
    halves.Within ["$\x7b".toList, "l\x7d".toList] ∧
      Means ⟨.standard, false⟩ halves [] "$\x7bl\x7d$\x7br\x7d$\x7bn:-\x7d".toList
        (.ok "$\x7bl\x7d-".toList) := by
  have hwithin : halves.Within ["$\x7b".toList, "l\x7d".toList] := Lookup.ofTable_within _
  refine ⟨hwithin, ?_⟩
  have h := (expansion_means ⟨.standard, false⟩ halves
    "$\x7bl\x7d$\x7br\x7d$\x7bn:-\x7d".toList).2 _ hwithin
  have houtcome : (Expander.expand ⟨.standard, false⟩ ["$\x7b".toList, "l\x7d".toList] halves
      "$\x7bl\x7d$\x7br\x7d$\x7bn:-\x7d".toList).outcome = .ok "$\x7bl\x7d-".toList := by
    cbv
  rwa [houtcome] at h

end LayeredConfig.Placeholder.Expander
