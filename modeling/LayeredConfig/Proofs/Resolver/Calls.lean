import LayeredConfig.Proofs.Action.Effects
import LayeredConfig.Resolver
import Mathlib.Data.List.Induction

/-!
# Calls — a resolver in use

A resolver keeps the expanders that it has built. `Settings` says by rules what each call sets.
After any calls a resolver has the settings that the rules give, and every expander that it keeps is
one for the marks in force (`reached_settings`).
-/

namespace LayeredConfig

open Placeholder

theorem Marks.ofMarks?_eq (m : Marks) :
    Delimiters.ofMarks? m.opening.toList m.closing.toList (m.separator.map String.toList) =
      some m.delimiters :=
  dif_pos ⟨m.delimiters.opening_ne_nil, m.delimiters.closing_ne_nil⟩

namespace Resolver

/-! ## 1. Calls and settings -/

/-- A call of a resolver. -/
inductive Call where
  | setOpening (mark : Option String)
  | setClosing (mark : Option String)
  | setSeparator (mark : Option String)
  | setIgnoreUnresolvable (ignore : Bool)
  | setRegistry (registry : Option Registry)
  | register (kind : Kind) (converter : Converter)
  | requireKeys (keys : List String)
  | getValue (key : String) (target : Option Target) (default : Value)
  | getRequired (key : String) (target : Option Target)
  | getRaw (key : String)
  | containsKey (key : String)
  | validateRequired
  | resolvePlaceholders (text : String)
  | resolveRequiredPlaceholders (text : String)

namespace Call

/-- What a call does over the sources that are searched, and what it answers. -/
def perform (sources : List Source) : Call → Action Resolver Value
  | .setOpening mark => do
    Resolver.setOpening mark
    pure .null
  | .setClosing mark => do
    Resolver.setClosing mark
    pure .null
  | .setSeparator mark => do
    Resolver.setSeparator mark
    pure .null
  | .setIgnoreUnresolvable ignore => do
    Resolver.setIgnoreUnresolvable ignore
    pure .null
  | .setRegistry registry => do
    Resolver.setRegistry registry
    pure .null
  | .register kind converter => do
    Resolver.register kind converter
    pure .null
  | .requireKeys keys => do
    Resolver.requireKeys keys
    pure .null
  | .getValue key target default => Resolver.getValue sources key target default
  | .getRequired key target => Resolver.getRequired sources key target
  | .getRaw key => Resolver.getRaw sources key
  | .containsKey key => do
    let found ← Resolver.containsKey sources key
    pure (.bool found)
  | .validateRequired => do
    Resolver.validateRequired sources
    pure .null
  | .resolvePlaceholders text => do
    let expanded ← Resolver.resolvePlaceholders sources text
    pure (.text expanded)
  | .resolveRequiredPlaceholders text => do
    let expanded ← Resolver.resolveRequiredPlaceholders sources text
    pure (.text expanded)

/-- Whether a call sets something; the others ask. -/
def sets : Call → Bool
  | .setOpening _ | .setClosing _ | .setSeparator _ | .setIgnoreUnresolvable _
  | .setRegistry _ | .register .. | .requireKeys _ => true
  | _ => false

end Call

/-- A new resolver after some calls, each over the sources that are searched at its time. A failure
does not end the sequence. -/
def reached (registry : Registry) (calls : List (List Source × Call)) : Resolver :=
  calls.foldl (fun r (sources, call) => (call.perform sources r).state) (.new registry)

/-- What is set for placeholders. -/
structure Settings where
  opening : String
  closing : String
  separator : Option String
  ignoreUnresolvable : Bool
  deriving DecidableEq, Repr

namespace Settings

/-- `${key:default}`, and a placeholder must have a value. -/
def standard : Settings := ⟨"$\x7b", "\x7d", some ":", false⟩

/-- The settings after a call: a mark takes the place of the one before, unless it is empty. -/
def after (s : Settings) : Call → Settings
  | .setOpening (some mark) => if mark = "" then s else { s with opening := mark }
  | .setClosing (some mark) => if mark = "" then s else { s with closing := mark }
  | .setSeparator mark => { s with separator := mark }
  | .setIgnoreUnresolvable ignore => { s with ignoreUnresolvable := ignore }
  | _ => s

/-- A new expander for a mode; there is none for empty marks. -/
def expander? (s : Settings) (lenient : Bool) : Option Expander :=
  (Delimiters.ofMarks? s.opening.toList s.closing.toList (s.separator.map String.toList)).map
    (⟨·, lenient⟩)

end Settings

/-- The settings of a resolver. -/
def settings (r : Resolver) : Settings :=
  ⟨r.marks.opening, r.marks.closing, r.marks.separator, r.ignoreUnresolvable⟩

theorem expander?_settings (r : Resolver) (lenient : Bool) :
    r.settings.expander? lenient = some ⟨r.marks.delimiters, lenient⟩ := by
  have h := r.marks.ofMarks?_eq
  rw [Settings.expander?, settings, h, Option.map_some]

/-! ## 2. Expanders that are kept -/

/-- Every expander that is kept is one for the marks in force. -/
def Fresh (r : Resolver) : Prop :=
  ∀ lenient x, (lenient, x) ∈ r.expanders → x = ⟨r.marks.delimiters, lenient⟩

theorem fresh_new (registry : Registry) : (new registry).Fresh :=
  fun _ _ h => absurd h List.not_mem_nil

theorem fresh_withMarks (r : Resolver) (m : Marks) : (r.withMarks m).Fresh :=
  fun _ _ h => absurd h List.not_mem_nil

/-- The second resolver is the first one but for expanders built since. -/
structure Caches (r r' : Resolver) : Prop where
  same : r' = { r with expanders := r'.expanders }
  fresh : r.Fresh → r'.Fresh

instance : Std.Refl Caches where
  refl _ := ⟨rfl, id⟩

instance : IsTrans Resolver Caches where
  trans r r' r'' h h' := by
    refine ⟨?_, h'.fresh ∘ h.fresh⟩
    rw [h'.same, h.same]

theorem Caches.settings_eq {r r' : Resolver} (h : Caches r r') : r'.settings = r.settings := by
  rw [h.same]
  rfl

theorem Caches.registry_eq {r r' : Resolver} (h : Caches r r') : r'.registry = r.registry := by
  rw [h.same]

theorem expander_respects (lenient : Bool) : (expander lenient).Respects Caches := by
  intro r
  unfold expander
  split
  next => exact refl_of Caches r
  next hnone =>
    refine ⟨rfl, fun hfresh other x hmem => ?_⟩
    rcases List.mem_cons.1 hmem with heq | hmem
    · obtain ⟨rfl, rfl⟩ := Prod.mk.inj heq
      rfl
    · exact hfresh other x hmem

theorem Fresh.expander_result {r : Resolver} (h : r.Fresh) (lenient : Bool) :
    (expander lenient r).result = .ok ⟨r.marks.delimiters, lenient⟩ := by
  unfold expander
  split
  next found x hfind =>
    have hmode : found = lenient := by simpa using List.find?_some hfind
    rw [h lenient x (hmode ▸ List.mem_of_find?_eq_some hfind)]
  next => rfl

/-! ## 3. What asking changes -/

section Asking

variable (sources : List Source)

theorem expandText_respects (lenient : Bool) (text : String) :
    (expandText sources lenient text).Respects Caches :=
  (expander_respects lenient).bind fun _ => (Action.Respects.read _).bind fun _ =>
    (Action.Respects.emit _).bind fun _ => .ofExcept _

theorem expandValue_respects (v : Value) : (expandValue sources v).Respects Caches := by
  unfold expandValue
  split
  next s _ =>
    split
    next => exact .pure _
    next =>
      exact (Action.Respects.read _).bind fun lenient =>
        (expandText_respects sources lenient s).bind fun _ => .pure _
  next => exact .pure _

theorem find_respects (key : String) (target : Option Target) :
    (find sources key target).Respects Caches := by
  refine (Action.Respects.ofExcept _).bind fun hit => ?_
  cases hit with
  | none => exact (Action.Respects.emit _).bind fun _ => .pure _
  | some hit =>
    exact (expandValue_respects sources hit.2).bind fun _ => (Action.Respects.emit _).bind fun _ =>
      (Action.Respects.read _).bind fun _ => .ofExcept _

theorem getValue_respects (key : String) (target : Option Target) (default : Value) :
    (getValue sources key target default).Respects Caches :=
  (find_respects sources key target).bind fun _ => .pure _

theorem getRequired_respects (key : String) (target : Option Target) :
    (getRequired sources key target).Respects Caches := by
  refine (find_respects sources key target).bind fun v => ?_
  split
  next => exact .fail _
  next => exact .pure _

theorem missingOf_respects (keys : List String) : (missingOf sources keys).Respects Caches := by
  induction keys with
  | nil => exact .pure _
  | cons key rest ih =>
    exact (getValue_respects sources key _ _).bind fun _ => ih.bind fun _ => .pure _

theorem validateRequired_respects : (validateRequired sources).Respects Caches := by
  refine (Action.Respects.read _).bind fun keys => ?_
  refine (missingOf_respects sources keys).bind fun missing => ?_
  split
  next => exact .pure _
  next => exact .fail _

/-- A call that sets nothing changes no more than the expanders that are kept. -/
theorem perform_respects {call : Call} (h : call.sets = false) :
    (call.perform sources).Respects Caches := by
  cases call with
  | getValue key target default => exact getValue_respects sources key target default
  | getRequired key target => exact getRequired_respects sources key target
  | getRaw key =>
    exact (Action.Respects.read _).bind fun _ => (Action.Respects.emit _).bind fun _ => .ofExcept _
  | containsKey key => exact (Action.Respects.ofExcept _).bind fun _ => .pure _
  | validateRequired => exact (validateRequired_respects sources).bind fun _ => .pure _
  | resolvePlaceholders text | resolveRequiredPlaceholders text =>
    exact (expandText_respects sources _ text).bind fun _ => .pure _
  | _ => contradiction

end Asking

/-! ## 4. What setting changes -/

/-- What comes of a call that is to set a mark: the mark is refused and nothing changes, or it is
set and no expander is kept. -/
inductive MarkSet (r : Resolver) (call : Call) (e : Error) : Outcome Resolver Unit → Prop where
  | refused (h : r.settings.after call = r.settings) : MarkSet r call e ⟨r, [], .error e⟩
  | set (marks : Marks) (h : r.settings.after call = (r.withMarks marks).settings) :
    MarkSet r call e ⟨r.withMarks marks, [], .ok ()⟩

theorem setOpening_markSet (mark : Option String) (r : Resolver) :
    MarkSet r (.setOpening mark) .emptyOpening (setOpening mark r) := by
  cases mark with
  | none => exact .refused rfl
  | some mark =>
    by_cases hmark : mark = ""
    · subst hmark
      exact .refused rfl
    · rw [setOpening, dif_neg hmark]
      refine .set { r.marks with opening := mark, opening_ne_empty := hmark } ?_
      rw [Settings.after, if_neg hmark]
      rfl

theorem setClosing_markSet (mark : Option String) (r : Resolver) :
    MarkSet r (.setClosing mark) .emptyClosing (setClosing mark r) := by
  cases mark with
  | none => exact .refused rfl
  | some mark =>
    by_cases hmark : mark = ""
    · subst hmark
      exact .refused rfl
    · rw [setClosing, dif_neg hmark]
      refine .set { r.marks with closing := mark, closing_ne_empty := hmark } ?_
      rw [Settings.after, if_neg hmark]
      rfl

theorem MarkSet.settings {r : Resolver} {call : Call} {e : Error} {o : Outcome Resolver Unit}
    (h : MarkSet r call e o) (hfresh : r.Fresh) :
    o.state.settings = r.settings.after call ∧ o.state.Fresh := by
  cases h with
  | refused h => exact ⟨h.symm, hfresh⟩
  | set marks h => exact ⟨h.symm, fresh_withMarks r marks⟩

/-- A refusal is for the mark. -/
theorem MarkSet.of_error {r : Resolver} {call : Call} {e e' : Error} {x : Action Resolver Unit}
    {a : Value} (hx : MarkSet r call e (x r))
    (h : ((x >>= fun _ => pure a) r).result = .error e') :
    e' = e ∧ (x >>= fun _ => pure a) r = ⟨r, [], .error e⟩ := by
  generalize ho : x r = o at hx
  cases hx with
  | refused =>
    rw [Action.bind_of_error (congrArg Outcome.result ho), ho] at h ⊢
    cases h
    exact ⟨rfl, rfl⟩
  | set marks =>
    rw [Action.result_bind, ho] at h
    contradiction

theorem after_of_asks {call : Call} (h : call.sets = false) (s : Settings) : s.after call = s := by
  cases call with
  | setOpening | setClosing | setSeparator | setIgnoreUnresolvable => contradiction
  | _ => rfl

/-- A call changes the settings as the rules say, and no expander that is kept is out of date. -/
theorem perform_settings (sources : List Source) (call : Call) {r : Resolver} (hfresh : r.Fresh) :
    (call.perform sources r).state.settings = r.settings.after call ∧
      (call.perform sources r).state.Fresh := by
  cases hsets : call.sets with
  | false =>
    -- What asks leaves the settings, and builds expanders for them only.
    have hcaches := perform_respects sources hsets r
    rw [after_of_asks hsets]
    exact ⟨hcaches.settings_eq, hcaches.fresh hfresh⟩
  | true =>
    cases call with
    | setOpening mark =>
      rw [Call.perform, Action.state_bind_pure]
      exact (setOpening_markSet mark r).settings hfresh
    | setClosing mark =>
      rw [Call.perform, Action.state_bind_pure]
      exact (setClosing_markSet mark r).settings hfresh
    | setSeparator mark => exact ⟨rfl, fresh_withMarks r _⟩
    | setRegistry registry =>
      cases registry with
      | none => exact ⟨rfl, hfresh⟩
      | some registry => exact ⟨rfl, hfresh⟩
    | setIgnoreUnresolvable | register | requireKeys => exact ⟨rfl, hfresh⟩
    | _ => contradiction

/-- A call that is to set something is refused for its argument or not at all, and where it is
refused it changes nothing. -/
theorem perform_refused {sources : List Source} {call : Call} (hsets : call.sets = true)
    {r : Resolver} {e : Error} (h : (call.perform sources r).result = .error e) :
    e.category = .invalidArgument ∧ call.perform sources r = ⟨r, [], .error e⟩ := by
  cases call with
  | setOpening mark =>
    obtain ⟨rfl, hsame⟩ := (setOpening_markSet mark r).of_error h
    exact ⟨rfl, hsame⟩
  | setClosing mark =>
    obtain ⟨rfl, hsame⟩ := (setClosing_markSet mark r).of_error h
    exact ⟨rfl, hsame⟩
  | setRegistry registry =>
    cases registry with
    | none =>
      cases h
      exact ⟨rfl, rfl⟩
    | some registry => contradiction
  | _ => contradiction

theorem reached_settings (registry : Registry) (calls : List (List Source × Call)) :
    (reached registry calls).settings =
        calls.foldl (fun s (_, call) => s.after call) Settings.standard ∧
      (reached registry calls).Fresh := by
  -- On the calls from the last one back: the state before it is one that was reached.
  induction calls using List.reverseRecOn with
  | nil => exact ⟨rfl, fresh_new registry⟩
  | append_singleton calls last ih =>
    obtain ⟨hsettings, hfresh⟩ := ih
    rw [reached, List.foldl_append, List.foldl_append, ← reached, ← hsettings]
    exact perform_settings last.1 last.2 hfresh

end Resolver

end LayeredConfig
