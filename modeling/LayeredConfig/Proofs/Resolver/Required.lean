import LayeredConfig.Proofs.Profile.Names
import LayeredConfig.Proofs.Resolver.Caching
import LayeredConfig.Proofs.Resolver.Typed

/-!
# Required keys — what a validation reports

The keys that calls require are kept in the order of their first mention (`requiredKeys_reached`). A
validation looks all of them up, so it reports every key that is missing, unless a lookup fails: then it
fails as the first one that does (`validation_reports_missing`).
-/

namespace LayeredConfig.Resolver

/-! ## 1. Keys that are required -/

/-- The keys that a call requires. -/
def Call.required : Call → List String
  | .requireKeys keys => keys
  | _ => []

theorem Caches.requiredKeys_eq {r r' : Resolver} (h : Caches r r') :
    r'.requiredKeys = r.requiredKeys := by
  rw [h.same]

theorem MarkSet.requiredKeys_eq {r : Resolver} {call : Call} {e : Error}
    {o : Outcome Resolver Unit} (h : MarkSet r call e o) : o.state.requiredKeys = r.requiredKeys := by
  cases h with
  | refused => rfl
  | set => rfl

theorem required_of_asks {call : Call} (h : call.sets = false) : call.required = [] := by
  cases call with
  | requireKeys => contradiction
  | _ => rfl

theorem requiredKeys_perform (sources : List Source) (call : Call) (r : Resolver) :
    (call.perform sources r).state.requiredKeys =
      Profile.addNames r.requiredKeys call.required := by
  cases hsets : call.sets with
  | false =>
    -- What asks builds expanders at most.
    rw [required_of_asks hsets]
    exact (perform_respects sources hsets r).requiredKeys_eq
  | true =>
    cases call with
    | setOpening mark =>
      rw [Call.perform, Action.state_bind_pure]
      exact (setOpening_markSet mark r).requiredKeys_eq
    | setClosing mark =>
      rw [Call.perform, Action.state_bind_pure]
      exact (setClosing_markSet mark r).requiredKeys_eq
    | setRegistry registry =>
      cases registry with
      | none => rfl
      | some registry => rfl
    | setSeparator | setIgnoreUnresolvable | register | requireKeys => rfl
    | _ => contradiction

theorem requiredKeys_reached (registry : Registry) (calls : List (List Source × Call)) :
    (reached registry calls).requiredKeys =
      (calls.flatMap fun (_, call) => call.required).eraseDups := by
  rw [← Profile.distinctNames_eq_eraseDups]
  -- On the calls from the last one back: what it requires joins what was required before.
  induction calls using List.reverseRecOn with
  | nil => rfl
  | append_singleton calls last ih =>
    rw [reached, List.foldl_append, ← reached, List.flatMap_append, Profile.distinctNames_append, ← ih,
      List.flatMap_singleton]
    exact requiredKeys_perform last.1 last.2 _

/-! ## 2. One lookup after the other -/

/-- What a lookup of a key gives as a text, without a default. -/
def textUnder (r : Resolver) (sources : List Source) (key : String) : Except Error Value :=
  (getValue sources key (some (.kind .str)) .null r).result

/-- What a lookup of a key gives as a text if the key must be there. -/
def requiredText (r : Resolver) (sources : List Source) (key : String) : Except Error Value :=
  (getRequired sources key (some (.kind .str)) r).result

/-- A key that must be there is missing. -/
def misses (r : Resolver) (sources : List Source) (key : String) : Bool :=
  match r.requiredText sources key with
  | .error (.missingKey _) => true
  | _ => false

section Lookups

variable {r : Resolver} {sources : List Source} {key : String}

theorem requiredText_eq :
    r.requiredText sources key = r.textUnder sources key >>= fun v =>
      if v.isNull then .error (.missingKey key) else .ok v := by
  rw [requiredText, textUnder, getValue_null, getRequired_apply]

theorem misses_of_ok {v : Value} (hv : r.textUnder sources key = .ok v) :
    r.misses sources key = v.isNull := by
  rw [misses, requiredText_eq, hv]
  cases v <;> rfl

theorem exists_requiredText_iff {v : Value} (hv : r.textUnder sources key = .ok v) :
    (∃ w, r.requiredText sources key = .ok w) ↔ r.misses sources key = false := by
  rw [misses_of_ok hv, requiredText_eq, hv]
  show (∃ w, (if v.isNull then _ else _) = _) ↔ v.isNull = false
  cases hnull : v.isNull with
  | true => simp
  | false => simp

variable (hfresh : r.Fresh)

include hfresh

theorem missingOf_cons {r' : Resolver} (hcaches : Caches r r') (key : String)
    (rest : List String) :
    ∃ r'', Caches r r'' ∧
      (missingOf sources (key :: rest) r').result =
        r.textUnder sources key >>= fun v =>
          (fun others => if v.isNull then key :: others else others) <$>
            (missingOf sources rest r'').result := by
  -- The first lookup may build an expander, which those behind it do not see.
  have hlookup := getValue_respects sources key (some (.kind .str)) .null r'
  refine ⟨_, trans_of Caches hcaches hlookup, ?_⟩
  rw [missingOf, Action.result_bind, hcaches.result_getValue hfresh, textUnder]
  simp only [Action.result_bind_pure]

theorem missingOf_of_ok {r' : Resolver} (hcaches : Caches r r') {keys : List String}
    (hok : ∀ key ∈ keys, ∃ v, r.textUnder sources key = .ok v) :
    (missingOf sources keys r').result = .ok (keys.filter (r.misses sources)) := by
  -- On the keys, from any state that differs from the first in its expanders alone.
  induction keys generalizing r' with
  | nil => rfl
  | cons key rest ih =>
    obtain ⟨⟨v, hv⟩, hrest⟩ := List.forall_mem_cons.1 hok
    obtain ⟨r'', hcaches'', hcons⟩ := missingOf_cons hfresh hcaches key rest
    rw [hcons, hv, ih hcaches'' hrest, List.filter_cons, misses_of_ok hv]
    rfl

theorem missingOf_of_error {r' : Resolver} (hcaches : Caches r r') {before after : List String}
    {e : Error} (hbefore : ∀ key ∈ before, ∃ v, r.textUnder sources key = .ok v)
    (he : r.textUnder sources key = .error e) :
    (missingOf sources (before ++ key :: after) r').result = .error e := by
  induction before generalizing r' with
  | nil =>
    obtain ⟨r'', -, hcons⟩ := missingOf_cons hfresh hcaches key after
    rw [List.nil_append, hcons, he]
    rfl
  | cons first before ih =>
    obtain ⟨⟨v, hv⟩, hrest⟩ := List.forall_mem_cons.1 hbefore
    obtain ⟨r'', hcaches'', hcons⟩ := missingOf_cons hfresh hcaches first (before ++ key :: after)
    rw [List.cons_append, hcons, hv, ih hcaches'' hrest]
    rfl

end Lookups

/-! ## 3. Validations -/

/-- What comes of the validation of a resolver over sources. -/
structure Validates (r : Resolver) (sources : List Source) : Prop where
  /-- If every lookup can be made, the validation passes where all keys are there. -/
  passes : (∀ key ∈ r.requiredKeys, ∃ v, r.textUnder sources key = .ok v) →
    ((validateRequired sources r).result = .ok () ↔
      ∀ key ∈ r.requiredKeys, ∃ v, r.requiredText sources key = .ok v)
  /-- If every lookup can be made and a key is not there, the validation reports all that are missing, in
  the order in which they were required. -/
  reports : (∀ key ∈ r.requiredKeys, ∃ v, r.textUnder sources key = .ok v) →
    (¬ ∀ key ∈ r.requiredKeys, ∃ v, r.requiredText sources key = .ok v) →
      (validateRequired sources r).result =
        .error (.missingRequired (r.requiredKeys.filter (r.misses sources)))
  /-- If a lookup fails, the validation fails as the first one that does. -/
  fails : ∀ before key after e, r.requiredKeys = before ++ key :: after →
    (∀ earlier ∈ before, ∃ v, r.textUnder sources earlier = .ok v) →
      r.textUnder sources key = .error e → (validateRequired sources r).result = .error e

theorem result_validateRequired (sources : List Source) (r : Resolver) :
    (validateRequired sources r).result =
      (missingOf sources r.requiredKeys r).result >>= fun missing =>
        if missing.isEmpty then .ok () else .error (.missingRequired missing) := by
  rw [validateRequired, Action.read_bind]
  refine congrArg Outcome.result (Action.bind_of_still (fun missing r => ?_) r)
  split <;> rfl

theorem Fresh.validates {r : Resolver} (hfresh : r.Fresh) (sources : List Source) :
    r.Validates sources := by
  have hvalidate := result_validateRequired sources r
  have hself : Caches r r := refl_of Caches r
  -- With no key in the report all keys are there.
  have hpresent (hok : ∀ key ∈ r.requiredKeys, ∃ v, r.textUnder sources key = .ok v) :
      (∀ key ∈ r.requiredKeys, ∃ v, r.requiredText sources key = .ok v) ↔
        r.requiredKeys.filter (r.misses sources) = [] := by
    rw [List.filter_eq_nil_iff]
    refine forall₂_congr fun key hkey => ?_
    obtain ⟨v, hv⟩ := hok key hkey
    rw [exists_requiredText_iff hv, Bool.not_eq_true]
  refine ⟨fun hok => ?passes, fun hok => ?reports, fun before key after e hkeys hbefore he => ?fails⟩
  case passes =>
    rw [hvalidate, missingOf_of_ok hfresh hself hok, hpresent hok]
    cases r.requiredKeys.filter (r.misses sources) with
    | nil => exact iff_of_true rfl rfl
    | cons key missing => exact iff_of_false nofun nofun
  case reports =>
    rw [hvalidate, missingOf_of_ok hfresh hself hok, hpresent hok]
    cases r.requiredKeys.filter (r.misses sources) with
    | nil => exact absurd rfl
    | cons key missing => exact fun _ => rfl
  case fails =>
    rw [hvalidate, hkeys, missingOf_of_error hfresh hself hbefore he]
    rfl

/-- **Validation.** After any calls, failures among them, the keys that are required are those that calls
required, each at its first mention, and no other call changes them. A validation passes if and only if all
of them are there, and otherwise reports all that are missing, in this order; if a lookup fails, it fails as
the first one that does. -/
theorem validation_reports_missing (registry : Registry) (calls : List (List Source × Call)) :
    (reached registry calls).requiredKeys =
        (calls.flatMap fun (_, call) => call.required).eraseDups ∧
      (reached registry calls).requiredKeys.Nodup ∧
      ∀ sources, (reached registry calls).Validates sources ∧
        ∀ call : Call, call.required = [] →
          (call.perform sources (reached registry calls)).state.requiredKeys =
            (reached registry calls).requiredKeys := by
  have hkeys := requiredKeys_reached registry calls
  refine ⟨hkeys, ?nodup, fun sources => ⟨?validates, fun call hnone => ?other⟩⟩
  case nodup =>
    rw [hkeys, ← Profile.distinctNames_eq_eraseDups]
    exact Profile.nodup_distinctNames _
  case validates => exact (reached_settings registry calls).2.validates sources
  case other =>
    rw [requiredKeys_perform, hnone]
    rfl

/-- Keys that are required twice, in two calls with a lookup between them. -/
def requiredTwice : List (List Source × Call) :=
  [([], .requireKeys ["host", "user", "host"]), ([], .getRequired "port" none),
    ([], .requireKeys ["port", "user"])]

/-- One of three keys. -/
def onlyUser : List Source := [⟨"shared", .mapping [("user", .text "")]⟩]

/-- Of three keys two are missing, or one refers to itself. -/
theorem validation_reports_missing_twice :
    (reached .standard requiredTwice).requiredKeys = ["host", "user", "port"] ∧
      (validateRequired onlyUser (reached .standard requiredTwice)).result =
        .error (.missingRequired ["host", "port"]) ∧
      (validateRequired [⟨"loop", .mapping [("user", .text "$\x7buser\x7d")]⟩]
        (reached .standard requiredTwice)).result = .error (.circular "user") ∧
      (Call.validateRequired.perform [] (reached .standard requiredTwice)).state.requiredKeys =
        ["host", "user", "port"] := by
  obtain ⟨hkeys, -, hsources⟩ := validation_reports_missing .standard requiredTwice
  have hnames : (reached .standard requiredTwice).requiredKeys = ["host", "user", "port"] := by
    rw [hkeys]
    decide
  refine ⟨hnames, ?missing, ?loop, ?other⟩
  case missing =>
    have hhost : (reached .standard requiredTwice).requiredText onlyUser "host" =
        .error (.missingKey "host") := by
      cbv
    have hmissing : ["host", "user", "port"].filter
        ((reached .standard requiredTwice).misses onlyUser) = ["host", "port"] := by
      cbv
    have hreports := (hsources onlyUser).1.reports
    simp only [hnames, List.forall_mem_cons, hhost, hmissing] at hreports
    refine hreports ⟨⟨.null, by cbv⟩, ⟨.text "", by cbv⟩, ⟨.null, by cbv⟩, List.forall_mem_nil _⟩ ?_
    rintro ⟨⟨v, hv⟩, -⟩
    contradiction
  case loop =>
    refine (hsources _).1.fails ["host"] "user" ["port"] _ hnames ?_ ?_
    · exact List.forall_mem_singleton.2 ⟨.null, by cbv⟩
    · cbv
  case other =>
    rw [(hsources []).2 .validateRequired rfl, hnames]

end LayeredConfig.Resolver
