import LayeredConfig.Proofs.Conversion.Kinds
import LayeredConfig.Proofs.Conversion.Refusals
import Mathlib.Data.List.Induction

/-!
# Registrations — which function converts to a target

The function for a target is the one registered last for the nearest of its kinds that has any
(`lookup?_registered`). Whether a value can be converted is decided before the conversion, from the kinds
of the value alone, and where the target tests a value as it tests the class of the value, this tells what
the conversion does: it refuses the value, leaves it, or calls this one function
(`canConvert_tells_convert`).
-/

namespace LayeredConfig

namespace Registry

variable {calls : List (Kind × Converter)} {target : Target} {v : Value} {k : Kind} {c : Converter}

/-! ## 1. The function for a target -/

/-- The registry after registrations, the first one first. -/
def registered (calls : List (Kind × Converter)) : Registry :=
  calls.foldl (fun r call => r.register call.1 call.2) standard

/-- All functions in the order they came: the built-in ones, each for a kind of its own, and then the
registered ones. -/
def history (calls : List (Kind × Converter)) : List (Kind × Converter) :=
  standard.entries.reverse ++ calls

/-- No function was ever registered for a kind. -/
def IsFree (calls : List (Kind × Converter)) (k : Kind) : Prop :=
  ∀ call ∈ history calls, call.1 ≠ k

/-- A target gets to a kind before any other that has a function. -/
def Reaches (calls : List (Kind × Converter)) (target : Target) (k : Kind) : Prop :=
  ∃ nearer farther, target.ancestors = nearer ++ k :: farther ∧ ∀ kind ∈ nearer, IsFree calls kind

/-- The function for a target is the one registered last for the kind that the target gets to first. -/
structure Serves (calls : List (Kind × Converter)) (target : Target) (k : Kind) (c : Converter) :
    Prop where
  reaches : Reaches calls target k
  last : ∃ earlier later, history calls = earlier ++ (k, c) :: later ∧ ∀ call ∈ later, call.1 ≠ k

theorem registered_append (calls : List (Kind × Converter)) (k : Kind) (c : Converter) :
    registered (calls ++ [(k, c)]) = (registered calls).register k c := by
  rw [registered, List.foldl_append]
  rfl

theorem entries_registered (calls : List (Kind × Converter)) :
    (registered calls).entries = (history calls).reverse := by
  induction calls using List.reverseRecOn with
  | nil => simp [registered, history]
  | append_singleton calls call ih =>
    rw [registered_append, register, ih, history, history, ← List.append_assoc, List.reverse_concat]

theorem find?_registered_eq_none_iff : (registered calls).find? k = none ↔ IsFree calls k := by
  simp [find?, entries_registered, IsFree]

theorem find?_registered_eq_some_iff :
    (registered calls).find? k = some c ↔
      ∃ earlier later, history calls = earlier ++ (k, c) :: later ∧ ∀ call ∈ later, call.1 ≠ k := by
  rw [find?, entries_registered, Option.map_eq_some_iff]
  constructor
  · rintro ⟨⟨kind, found⟩, hfind, rfl⟩
    obtain ⟨hkind, later, earlier, hhistory, hlater⟩ := List.find?_eq_some_iff_append.1 hfind
    obtain rfl : kind = k := of_decide_eq_true hkind
    refine ⟨earlier.reverse, later.reverse, ?_, fun call hcall => ?_⟩
    · simpa using congrArg List.reverse hhistory
    · simpa using hlater call (List.mem_reverse.1 hcall)
  · rintro ⟨earlier, later, hhistory, hlater⟩
    refine ⟨(k, c), List.find?_eq_some_iff_append.2 ⟨?_, later.reverse, earlier.reverse, ?_, ?_⟩, rfl⟩
    · exact decide_eq_true rfl
    · simp [hhistory]
    · simpa using fun kind found hmem => hlater (kind, found) hmem

theorem lookup?_registered :
    (registered calls).lookup? target = some c ↔ ∃ k, Serves calls target k c := by
  rw [lookup?, List.findSome?_eq_some_iff]
  constructor
  · rintro ⟨nearer, k, farther, hancestors, hfind, hnearer⟩
    exact ⟨k, ⟨nearer, farther, hancestors, fun kind hkind =>
      find?_registered_eq_none_iff.1 (hnearer kind hkind)⟩, find?_registered_eq_some_iff.1 hfind⟩
  · rintro ⟨k, ⟨nearer, farther, hancestors, hnearer⟩, hlast⟩
    exact ⟨nearer, k, farther, hancestors, find?_registered_eq_some_iff.2 hlast, fun kind hkind =>
      find?_registered_eq_none_iff.2 (hnearer kind hkind)⟩

theorem lookup?_registered_eq_none_iff :
    (registered calls).lookup? target = none ↔ ∀ k ∈ target.ancestors, IsFree calls k := by
  simp only [lookup?, List.findSome?_eq_none_iff, find?_registered_eq_none_iff]

theorem find?_register_of_ne {r : Registry} {kind : Kind} (h : kind ≠ k) :
    (r.register k c).find? kind = r.find? kind := by
  rw [find?, register, List.find?_cons_of_neg (by simpa using h.symm)]
  rfl

/-- One more function is found only behind kinds that have none. -/
theorem findSome?_register (r : Registry) (k : Kind) (c : Converter) (kinds : List Kind) :
    kinds.findSome? (r.register k c).find? = kinds.findSome? r.find? ∨
      ∃ nearer farther, kinds = nearer ++ k :: farther ∧ ∀ kind ∈ nearer, r.find? kind = none := by
  induction kinds with
  | nil => exact .inl rfl
  | cons kind kinds ih =>
    -- The search ends where either registry has a function; until then they agree.
    by_cases hkind : kind = k
    · exact .inr ⟨[], kinds, by rw [hkind, List.nil_append], List.forall_mem_nil _⟩
    · rw [List.findSome?_cons, List.findSome?_cons, find?_register_of_ne hkind]
      cases hfind : r.find? kind with
      | some found => exact .inl rfl
      | none =>
        rcases ih with hsame | ⟨nearer, farther, rfl, hnearer⟩
        · exact .inl hsame
        · exact .inr ⟨kind :: nearer, farther, rfl, List.forall_mem_cons.2 ⟨hfind, hnearer⟩⟩

theorem reaches_of_lookup?_ne
    (h : (registered (calls ++ [(k, c)])).lookup? target ≠ (registered calls).lookup? target) :
    Reaches calls target k := by
  rw [registered_append] at h
  obtain hsame | ⟨nearer, farther, hancestors, hnearer⟩ :=
    findSome?_register (registered calls) k c target.ancestors
  · exact absurd hsame h
  · exact ⟨nearer, farther, hancestors, fun kind hkind =>
      find?_registered_eq_none_iff.1 (hnearer kind hkind)⟩

/-! ## 2. Before and after -/

theorem convert_congr {r r' : Registry} (h : r.lookup? target = r'.lookup? target) (v : Value) :
    r.convert v target = r'.convert v target := by
  rw [convert, convert, h]

theorem canConvert_congr {r r' : Registry} (h : (r.lookup? target).isSome = (r'.lookup? target).isSome)
    (source : List Kind) : r.canConvert source target = r'.canConvert source target := by
  rw [canConvert, canConvert, h]

theorem lookup?_registered_int (calls : List (Kind × Converter)) :
    (registered calls).lookup? (.kind .int) ≠ none := by
  intro hnone
  have hfree := lookup?_registered_eq_none_iff.1 hnone .int (by decide)
  exact hfree (builtin .int .int Conversion.toInt) (by simp [history, standard]) rfl

/-- Functions for the same kinds, whatever they do, leave the same targets without one. -/
theorem lookup?_registered_eq_none_congr {others : List (Kind × Converter)}
    (h : others.map Prod.fst = calls.map Prod.fst) :
    (registered others).lookup? target = none ↔ (registered calls).lookup? target = none := by
  have hhistory : (history others).map Prod.fst = (history calls).map Prod.fst := by
    rw [history, history, List.map_append, List.map_append, h]
  have hfree : ∀ k, IsFree others k ↔ IsFree calls k := by
    intro k
    have hiff : ∀ calls, IsFree calls k ↔ k ∉ (history calls).map Prod.fst := by
      simp only [IsFree, List.mem_map, not_exists, not_and, ne_eq, implies_true]
    rw [hiff, hiff, hhistory]
  rw [lookup?_registered_eq_none_iff, lookup?_registered_eq_none_iff]
  simp only [hfree]

/-! ## 3. Whether and what -/

/-- The two tests of a target say the same of a value and of its class. -/
def Agrees (target : Target) (v : Value) : Prop :=
  target.hasInstance v = target.hasSubclass v.kinds

theorem agrees_of_ne_own (h : ∀ c, target ≠ .own c) (v : Value) : Agrees target v := by
  cases target with
  | own c => exact absurd rfl (h c)
  | _ => rfl

theorem agrees_ordinary (number : Nat) (name : String) (bases : List Kind)
    (h : ∀ k ∈ bases, k.isBase = true) (v : Value) :
    Agrees (.own (.ordinary number name bases h)) v :=
  rfl

/-- A value is refused, or an integer in it is too long for the refusal. -/
def IsRefused (r : Registry) (v : Value) (target : Target) : Prop :=
  ∃ refusal, (v.IsWritable → r.convert v target = .error (.conversion v target refusal)) ∧
    (¬v.IsWritable → r.convert v target = .error (.fault .tooLongToWrite))

/-- The function for the target is called, and what it gives or meets is what comes out. -/
def IsServed (calls : List (Kind × Converter)) (v : Value) (target : Target) : Prop :=
  ∃ k c, Serves calls target k c ∧
    (registered calls).convert v target = (apply c v target).mapError (refusalOf v target)

/-- The same comes out whatever functions are registered for the same kinds. -/
def IsUncalled (calls : List (Kind × Converter)) (v : Value) (target : Target) : Prop :=
  ∀ others : List (Kind × Converter), others.map Prod.fst = calls.map Prod.fst →
    (registered others).convert v target = (registered calls).convert v target

theorem isRefused_of_refuse {r : Registry} {refusal : Refusal}
    (h : r.convert v target = .error (Error.refuse v target refusal)) : IsRefused r v target := by
  refine ⟨refusal, fun hshort => ?_, fun hlong => ?_⟩
  · rw [h, refuse_of_isWritable hshort]
  · rw [h, refuse_of_not_isWritable hlong]

theorem not_isNull (hv : v ≠ .null) : v.isNull = false :=
  Bool.eq_false_iff.2 (mt Value.isNull_iff.1 hv)

theorem convert_of_isGeneric {r : Registry} (hv : v ≠ .null) (h : target.isGeneric = true) :
    r.convert v target = .error (Error.refuse v target .generic) := by
  rw [convert, if_neg (mt Value.isNull_iff.1 hv), if_pos h]

theorem convert_of_not_fits {r : Registry} (hv : v ≠ .null) (hgeneric : target.isGeneric = false)
    (hfits : v.fits target = .ok false) :
    r.convert v target =
      (r.lookup? target).elim (.error (Error.refuse v target .unregistered))
        fun c => (apply c v target).mapError (refusalOf v target) := by
  have hobject : ¬target.kind? = some .object := by
    intro hkind
    obtain rfl := Target.kind?_eq_object hkind
    cases hfits.symm.trans v.fits_object
  rw [convert, if_neg (mt Value.isNull_iff.1 hv), if_neg (by simp [hgeneric]), if_neg hobject, hfits]
  cases r.lookup? target <;> rfl

theorem isServed_of_lookup? (hv : v ≠ .null) (hgeneric : target.isGeneric = false)
    (hfits : v.fits target = .ok false) (hlookup : (registered calls).lookup? target = some c) :
    IsServed calls v target := by
  obtain ⟨k, hserves⟩ := lookup?_registered.1 hlookup
  refine ⟨k, c, hserves, ?_⟩
  rw [convert_of_not_fits hv hgeneric hfits, hlookup, Option.elim_some]

/-- A value that does not fit is refused where there is no function, and no function is called. -/
theorem isRefused_of_not_fits (hv : v ≠ .null) (hfits : v.fits target = .ok false)
    (hnone : target.isGeneric = true ∨ (registered calls).lookup? target = none) :
    IsRefused (registered calls) v target ∧ IsUncalled calls v target := by
  cases hgeneric : target.isGeneric with
  | true =>
    have hrefuse : ∀ r : Registry, r.convert v target = .error (Error.refuse v target .generic) :=
      fun r => convert_of_isGeneric hv hgeneric
    exact ⟨isRefused_of_refuse (hrefuse _), fun others _ => (hrefuse _).trans (hrefuse _).symm⟩
  | false =>
    have hrefuse : ∀ r : Registry, r.lookup? target = none →
        r.convert v target = .error (Error.refuse v target .unregistered) := by
      intro r hlookup
      rw [convert_of_not_fits hv hgeneric hfits, hlookup, Option.elim_none]
    have hlookup := hnone.resolve_left (by simp [hgeneric])
    refine ⟨isRefused_of_refuse (hrefuse _ hlookup), fun others hkinds => ?_⟩
    rw [hrefuse _ hlookup, hrefuse _ ((lookup?_registered_eq_none_congr hkinds).2 hlookup)]

/-- Whether a value can be converted is told by the test of the target for classes, and by whether there
is a function. -/
theorem canConvert_eq (r : Registry) (hgeneric : target.isGeneric = false)
    (hobject : ¬target.kind? = some .object) (source : List Kind) :
    r.canConvert source target =
      (target.hasSubclass source).map (· || (r.lookup? target).isSome) := by
  rw [canConvert, if_neg (by simp [hgeneric]), if_neg hobject]

/-- What cannot be converted is refused without a call, where the tests of the target agree. -/
theorem isRefused_of_canConvert (hv : v ≠ .null) (hagrees : Agrees target v)
    (h : (registered calls).canConvert v.kinds target = .ok false) :
    IsRefused (registered calls) v target ∧ IsUncalled calls v target := by
  cases hgeneric : target.isGeneric with
  | true =>
    have hinstance : target.hasInstance v = .ok false := by
      cases target with
      | generic origin parameters => rfl
      | _ => cases hgeneric
    exact isRefused_of_not_fits hv (Value.fits_of_not_hasInstance hinstance) (.inl hgeneric)
  | false =>
    by_cases hobject : target.kind? = some .object
    · rw [canConvert, if_neg (by simp [hgeneric]), if_pos hobject] at h
      cases h
    · rw [canConvert_eq _ hgeneric hobject] at h
      cases hsubclass : target.hasSubclass v.kinds with
      | error f =>
        rw [hsubclass] at h
        cases h
      | ok b =>
        rw [hsubclass] at h
        obtain ⟨rfl, hnone⟩ := Bool.or_eq_false_iff.1 (Except.ok.inj h)
        have hfits := Value.fits_of_not_hasInstance (hagrees.trans hsubclass)
        exact isRefused_of_not_fits hv hfits (.inr (by simpa using hnone))

/-- What can be converted stays or is handed to the function for the target, where the tests of the target
agree. -/
theorem stays_or_isServed_of_canConvert (hv : v ≠ .null) (hagrees : Agrees target v)
    (h : (registered calls).canConvert v.kinds target = .ok true) :
    v.fits target = .ok true ∧ (registered calls).convert v target = .ok v ∨
      v.fits target = .ok false ∧ IsServed calls v target := by
  have hgeneric : target.isGeneric = false := by
    by_contra hgeneric
    rw [canConvert, if_pos (by simpa using hgeneric)] at h
    cases h
  by_cases hobject : target.kind? = some .object
  · obtain rfl := Target.kind?_eq_object hobject
    exact .inl ⟨v.fits_object, convert_of_fits v.fits_object⟩
  · rw [canConvert_eq _ hgeneric hobject] at h
    cases hsubclass : target.hasSubclass v.kinds with
    | error f =>
      rw [hsubclass] at h
      cases h
    | ok b =>
      have hinstance : target.hasInstance v = .ok b := hagrees.trans hsubclass
      rw [hsubclass] at h
      have heither : (b || ((registered calls).lookup? target).isSome) = true := Except.ok.inj h
      by_cases hint : v.isBool = true ∧ target = .kind .int
      · -- A Boolean is an integer, but it is handed to the function for integers all the same.
        obtain ⟨hbool, rfl⟩ := hint
        have hfits : v.fits (.kind .int) = .ok false := by
          rw [Value.fits, hbool]
          rfl
        obtain ⟨c, hc⟩ := Option.ne_none_iff_exists'.1 (lookup?_registered_int calls)
        exact .inr ⟨hfits, isServed_of_lookup? hv rfl hfits hc⟩
      · cases b with
        | true =>
          have hfits := Value.fits_of_hasInstance hinstance hint
          exact .inl ⟨hfits, convert_of_fits hfits⟩
        | false =>
          have hfits := Value.fits_of_not_hasInstance hinstance
          obtain ⟨c, hc⟩ := Option.isSome_iff_exists.1 heither
          exact .inr ⟨hfits, isServed_of_lookup? hv hgeneric hfits hc⟩

theorem convert_of_canConvert_eq_error {f : Fault} (hv : v ≠ .null) (hagrees : Agrees target v)
    (h : (registered calls).canConvert v.kinds target = .error f) :
    (registered calls).convert v target = .error (.fault f) := by
  -- Only the tests of a class of its own fail.
  cases target with
  | own c =>
    rw [canConvert_eq _ rfl (by simp [Target.kind?, OwnClass.kind])] at h
    cases hsubclass : (Target.own c).hasSubclass v.kinds with
    | error g =>
      rw [hsubclass] at h
      have hfits := Value.fits_of_hasInstance_eq_error (hagrees.trans hsubclass)
      cases h
      exact convert_of_fits_eq_error (not_isNull hv) hfits
    | ok b =>
      rw [hsubclass] at h
      cases h
  | kind k =>
    unfold canConvert at h
    split at h
    · cases h
    · split at h <;> cases h
  | enumeration e => cases h
  | generic origin parameters => cases h

/-- After any registrations, whether a value can be converted to a target tells what becomes of it, if the
target tests the value as it tests the class of the value. If it cannot, it is refused without a call: the
same comes out whatever functions are registered for the same kinds. If it can, it stays where it fits
already, and otherwise the one function is called that was registered last for the kind that the target
gets to first. In any case the test for values decides. Another registration makes a difference only to
targets that get to its kind before any other with a function. -/
theorem canConvert_tells_convert (calls : List (Kind × Converter)) (v : Value) (hv : v ≠ .null)
    (target : Target) :
    (Agrees target v →
      ((registered calls).canConvert v.kinds target = .ok false →
        IsRefused (registered calls) v target ∧ IsUncalled calls v target) ∧
      ((registered calls).canConvert v.kinds target = .ok true →
        v.fits target = .ok true ∧ (registered calls).convert v target = .ok v ∨
          v.fits target = .ok false ∧ IsServed calls v target) ∧
      ∀ f, (registered calls).canConvert v.kinds target = .error f →
        (registered calls).convert v target = .error (.fault f)) ∧
      (v.fits target = .ok true → (registered calls).convert v target = .ok v) ∧
      (v.fits target = .ok false → IsServed calls v target ∨
        IsRefused (registered calls) v target ∧ IsUncalled calls v target) ∧
      (∀ f, v.fits target = .error f → (registered calls).convert v target = .error (.fault f)) ∧
      ∀ k c,
        (registered (calls ++ [(k, c)])).convert v target ≠ (registered calls).convert v target ∨
            (registered (calls ++ [(k, c)])).canConvert v.kinds target ≠
              (registered calls).canConvert v.kinds target →
          Reaches calls target k := by
  refine ⟨fun hagrees => ⟨isRefused_of_canConvert hv hagrees, stays_or_isServed_of_canConvert hv hagrees,
    fun f => convert_of_canConvert_eq_error hv hagrees⟩, convert_of_fits, fun hfits => ?differs,
    fun f => convert_of_fits_eq_error (not_isNull hv), ?unchanged⟩
  case differs =>
    cases hgeneric : target.isGeneric with
    | true => exact .inr (isRefused_of_not_fits hv hfits (.inl hgeneric))
    | false =>
      cases hlookup : (registered calls).lookup? target with
      | none => exact .inr (isRefused_of_not_fits hv hfits (.inr hlookup))
      | some c => exact .inl (isServed_of_lookup? hv hgeneric hfits hlookup)
  case unchanged =>
    intro k c hchanged
    apply reaches_of_lookup?_ne
    intro hsame
    rcases hchanged with hconvert | hcanConvert
    · exact hconvert (convert_congr hsame v)
    · exact hcanConvert (canConvert_congr (congrArg Option.isSome hsame) v.kinds)

/-- A class of ports, which are numbers of a class that derives from the integers. -/
def port : OwnClass :=
  .ordinary 0 "Port" [.made 1 "Number", .int] (by decide)

/-- A function for the numbers that ports are. -/
def zeroNumber : Kind × Converter :=
  (.made 1 "Number", .ofValue (.argumentCount "zero") fun _ => .ok (.int 0))

/-- A port is read as an integer until there is a function for the class between. -/
theorem canConvert_tells_convert_port :
    Value.text "7" ≠ .null ∧
      IsRefused (registered []) (.text "7") (.kind .bytes) ∧
      IsServed [] (.text "7") (.own port) ∧
      (registered []).convert (.text "7") (.own port) = .ok (.int 7) ∧
      IsServed [zeroNumber] (.text "7") (.own port) ∧
      (registered [zeroNumber]).convert (.text "7") (.own port) = .ok (.int 0) ∧
      Reaches [] (.own port) (.made 1 "Number") := by
  have hv : Value.text "7" ≠ .null := nofun
  have hagrees : Agrees (.own port) (.text "7") := rfl
  have hfits : (Value.text "7").fits (.own port) ≠ .ok true := nofun
  have hseven : (registered []).convert (.text "7") (.own port) = .ok (.int 7) := rfl
  have hzero : (registered [zeroNumber]).convert (.text "7") (.own port) = .ok (.int 0) := rfl
  have hbytes := (canConvert_tells_convert [] (.text "7") hv (.kind .bytes)).1 rfl
  have hbefore := canConvert_tells_convert [] (.text "7") hv (.own port)
  have hafter := canConvert_tells_convert [zeroNumber] (.text "7") hv (.own port)
  refine ⟨hv, (hbytes.1 rfl).1, ?before, hseven, ?after, hzero, ?reached⟩
  case before => exact (((hbefore.1 hagrees).2.1 rfl).resolve_left fun h => hfits h.1).2
  case after => exact (((hafter.1 hagrees).2.1 rfl).resolve_left fun h => hfits h.1).2
  case reached =>
    refine hbefore.2.2.2.2 _ zeroNumber.2 (.inl fun hsame => ?_)
    cases hzero.symm.trans (hsame.trans hseven)

/-- What cannot be converted is not always refused: an integer may be too long for the refusal, and a class
may tell that it is above no other but not whether it has an instance. -/
theorem canConvert_misses_long_integer :
    ((registered []).canConvert (Value.int (Nat.pow 10 Numeral.maxDigits)).kinds (.kind .bytes) =
        .ok false ∧
      ¬∃ refusal, (registered []).convert (.int (Nat.pow 10 Numeral.maxDigits)) (.kind .bytes) =
        .error (.conversion (.int (Nat.pow 10 Numeral.maxDigits)) (.kind .bytes) refusal)) ∧
      (registered []).canConvert (Value.text "a").kinds (.own untestable) = .ok false ∧
        ¬∃ refusal, (registered []).convert (.text "a") (.own untestable) =
          .error (.conversion (.text "a") (.own untestable) refusal) := by
  have hint : ∀ n, Value.int n ≠ .null := by simp
  have hcannot :
      (registered []).canConvert (Value.int (Nat.pow 10 Numeral.maxDigits)).kinds (.kind .bytes) =
        .ok false := rfl
  have hagrees : Agrees (.kind .bytes) (Value.int (Nat.pow 10 Numeral.maxDigits)) := rfl
  obtain ⟨⟨refusal, -, hlong⟩, -⟩ := isRefused_of_canConvert (hint _) hagrees hcannot
  have htest : (registered []).convert (.text "a") (.own untestable) =
      .error (.fault (.stated .type "typing.Any cannot be used with isinstance()")) := rfl
  refine ⟨⟨hcannot, ?_⟩, rfl, ?_⟩
  · rintro ⟨refusal, hrefusal⟩
    cases Except.error.inj ((hlong not_isWritable_pow).symm.trans hrefusal)
  · rintro ⟨refusal, hrefusal⟩
    cases Except.error.inj (htest.symm.trans hrefusal)

end Registry

end LayeredConfig
