import LayeredConfig.Proofs.Environment.Merge
import LayeredConfig.Proofs.Placeholder.Dependence
import LayeredConfig.Proofs.Resolver.Answers
import LayeredConfig.Proofs.Resolver.Hits

/-!
# Dependence — what a resolver gives depends on the keys that are asked for

Sources that give the same for the keys that an expansion asks for make the same expansion. So
sources of lower precedence change nothing that was found without them, and the order of two sources
is seen only where both have something for a key that is asked for (`depends_on_asked`).
-/

namespace LayeredConfig

namespace Source

/-- Some source has a value for the key. -/
def IsFound (key : String) (sources : List Source) : Prop :=
  ∃ hit, firstHit? key sources = .ok (some hit)

end Source

namespace Resolver

open Placeholder

/-! ## 1. Keys that are asked for -/

/-- The keys that expanding a text asks for, in order. -/
def asked (r : Resolver) (lenient : Bool) (sources : List Source) (text : String) : List String :=
  (r.expansion ⟨r.marks.delimiters, lenient⟩ sources text).asked.map String.ofList

/-- The key, and the keys that expanding its value asks for if that is a text. -/
def consulted (r : Resolver) (sources : List Source) (key : String) : List String :=
  key ::
    match Source.firstHit? key sources with
    | .ok (some (_, v)) =>
      match v.plain with
      | .text s => r.asked r.ignoreUnresolvable sources s
      | _ => []
    | _ => []

theorem mem_asked_of_mem {r : Resolver} {lenient : Bool} {sources : List Source} {text : String}
    {key : List Char}
    (h : key ∈ (r.expansion ⟨r.marks.delimiters, lenient⟩ sources text).asked) :
    String.ofList key ∈ r.asked lenient sources text :=
  List.mem_map_of_mem h

section Find

variable {r : Resolver} {sources : List Source} {key : String} {target : Option Target}

theorem find_of_error {e : Error} (h : Source.firstHit? key sources = .error e) :
    find sources key target r = ⟨r, [], .error e⟩ := by
  rw [find, h]
  rfl

theorem find_of_none (h : Source.firstHit? key sources = .ok none) :
    find sources key target r = ⟨r, [.keyNotFound key], .ok .null⟩ := by
  rw [find, h]
  rfl

theorem find_of_hit {layer : String} {v : Value}
    (h : Source.firstHit? key sources = .ok (some (layer, v))) :
    find sources key target r = (expandValue sources v >>= fun expanded => do
      Action.emit [.keyFound layer key expanded.kindName]
      let registry ← Action.read (·.registry)
      Action.ofExcept (convertTo registry expanded target)) r := by
  rw [find, h]
  rfl

end Find

/-! ## 2. Two lists of sources -/

section Pair

variable {r : Resolver} {sources sources' : List Source}

theorem expansion_eq_of_raw {lenient : Bool} {text : String}
    (h : ∀ key ∈ r.asked lenient sources text,
      (getRaw sources' key r).result = (getRaw sources key r).result) :
    r.expansion ⟨r.marks.delimiters, lenient⟩ sources' text =
      r.expansion ⟨r.marks.delimiters, lenient⟩ sources text := by
  refine Expander.expand_eq_of_agree _ (r.rawAnswer_within sources)
    (r.rawAnswer_within sources') fun key hkey => ?_
  have hraw := h (String.ofList key) (mem_asked_of_mem hkey)
  rw [rawAnswer, rawAnswer, hraw]

theorem rawValue_eq_of_hit {registry : Registry} {key : String}
    (h : Source.firstHit? key sources' = Source.firstHit? key sources) :
    rawValue registry sources' key = rawValue registry sources key := by
  rw [rawValue, rawValue, h]

theorem getRaw_eq_of_hit {key : String}
    (h : Source.firstHit? key sources' = Source.firstHit? key sources) :
    getRaw sources' key r = getRaw sources key r := by
  rw [getRaw_apply, getRaw_apply, rawValue_eq_of_hit h]

/-- What is reported depends on the keys that were asked for, too. -/
theorem eventsOf_eq_of_hits {registry : Registry} {x : Run Error (List Char)}
    (h : ∀ key ∈ x.asked, Source.firstHit? (String.ofList key) sources' =
      Source.firstHit? (String.ofList key) sources) :
    eventsOf registry sources' x.steps = eventsOf registry sources x.steps := by
  unfold eventsOf
  refine List.flatMap_congr fun step hstep => ?_
  cases step with
  | resolved key => rfl
  | asked key =>
    have hkey : key ∈ x.asked := List.mem_filterMap.2 ⟨.asked key, hstep, rfl⟩
    show (rawValue _ _ _).1 = (rawValue _ _ _).1
    rw [rawValue_eq_of_hit (h key hkey)]

variable (hfresh : r.Fresh)

include hfresh

theorem expandText_eq_of_hits {lenient : Bool} {text : String}
    (h : ∀ key ∈ r.asked lenient sources text,
      Source.firstHit? key sources' = Source.firstHit? key sources) :
    expandText sources' lenient text r = expandText sources lenient text r := by
  have hrun : r.expansion ⟨r.marks.delimiters, lenient⟩ sources' text =
      r.expansion ⟨r.marks.delimiters, lenient⟩ sources text :=
    expansion_eq_of_raw fun key hkey => congrArg Outcome.result (getRaw_eq_of_hit (h key hkey))
  rw [expandText_apply hfresh, expandText_apply hfresh, hrun,
    eventsOf_eq_of_hits fun key hkey => h _ (mem_asked_of_mem hkey)]

theorem expandValue_eq_of_hits {v : Value}
    (h : ∀ s, v.plain = .text s → ∀ key ∈ r.asked r.ignoreUnresolvable sources s,
      Source.firstHit? key sources' = Source.firstHit? key sources) :
    expandValue sources' v r = expandValue sources v r := by
  unfold expandValue
  cases hplain : v.plain with
  | text s =>
    dsimp only
    by_cases hempty : s = ""
    · rw [if_pos hempty, if_pos hempty]
    · rw [if_neg hempty, if_neg hempty, Action.read_bind, Action.read_bind]
      exact Action.bind_eq_of_eq (expandText_eq_of_hits hfresh (h s hplain))
  | _ => rfl

theorem find_eq_of_hits {key : String}
    (h : ∀ k ∈ r.consulted sources key,
      Source.firstHit? k sources' = Source.firstHit? k sources) (target : Option Target) :
    find sources' key target r = find sources key target r := by
  have hkey := h key List.mem_cons_self
  cases hhit : Source.firstHit? key sources with
  | error e => rw [find_of_error hhit, find_of_error (hkey.trans hhit)]
  | ok hit =>
    cases hit with
    | none => rw [find_of_none hhit, find_of_none (hkey.trans hhit)]
    | some hit =>
      obtain ⟨layer, v⟩ := hit
      -- If the value is a text, the keys that its expansion asks for are consulted as well.
      have hvalue : expandValue sources' v r = expandValue sources v r := by
        refine expandValue_eq_of_hits hfresh fun s hs k hk => h k ?_
        rw [consulted, hhit]
        dsimp only
        rw [hs]
        exact List.mem_cons_of_mem key hk
      rw [find_of_hit hhit, find_of_hit (hkey.trans hhit)]
      exact Action.bind_eq_of_eq hvalue

end Pair

/-- Where `P` holds of the keys that are asked for, a resolver does over the second sources what it
does over the first. -/
structure Unchanged (r : Resolver) (P : String → Prop) (sources sources' : List Source) :
    Prop where
  text : ∀ lenient text, (∀ key ∈ r.asked lenient sources text, P key) →
    expandText sources' lenient text r = expandText sources lenient text r
  value : ∀ key target default, (∀ k ∈ r.consulted sources key, P k) →
    getValue sources' key target default r = getValue sources key target default r
  required : ∀ key target, (∀ k ∈ r.consulted sources key, P k) →
    getRequired sources' key target r = getRequired sources key target r

theorem Fresh.unchanged {r : Resolver} (hfresh : r.Fresh) {P : String → Prop}
    {sources sources' : List Source}
    (h : ∀ key, P key → Source.firstHit? key sources' = Source.firstHit? key sources) :
    r.Unchanged P sources sources' where
  text _ _ hasked := expandText_eq_of_hits hfresh fun key hkey => h key (hasked key hkey)
  value _ target _ hasked :=
    Action.bind_eq_of_eq (find_eq_of_hits hfresh (fun key hkey => h key (hasked key hkey)) target)
  required _ target hasked :=
    Action.bind_eq_of_eq (find_eq_of_hits hfresh (fun key hkey => h key (hasked key hkey)) target)

/-! ## 3. What a resolver depends on -/

/-- A resolver depends on its sources by the keys that are asked for alone. -/
structure DependsOnAsked (r : Resolver) : Prop where
  /-- If other sources give the same for the keys that an expansion asks for, the expansion over
  them asks for the same keys and comes to the same. -/
  expansion : ∀ sources sources' lenient text,
    (∀ key ∈ r.asked lenient sources text,
      (getRaw sources' key r).result = (getRaw sources key r).result) →
      r.asked lenient sources' text = r.asked lenient sources text ∧
        (expandText sources' lenient text r).result = (expandText sources lenient text r).result
  /-- Sources of lower precedence change nothing where all keys were found. -/
  appended : ∀ sources more,
    r.Unchanged (Source.IsFound · sources) sources (sources ++ more)
  /-- A source that joins last changes nothing where all keys were found in others; its namesake
  leaves the chain. -/
  added : ∀ (c : Chain Store) (s : Source),
    r.Unchanged
      (fun key => ∃ layer v,
        Source.firstHit? key c.layers = .ok (some (layer, v)) ∧ layer ≠ s.name)
      c.layers (c.addLast s).1.layers
  /-- The sources of a parent change nothing where all keys were found in the child. -/
  merged : ∀ p : Environment.Pair,
    (Environment.merge p).state.child.resolver = p.child.resolver ∧
      r.Unchanged (Source.IsFound · p.child.chain.layers) p.child.chain.layers
        (Environment.merge p).state.child.chain.layers
  /-- Another order changes nothing if two sources change places only where no key is asked for
  that both have something for. -/
  reordered : ∀ c c' : Chain Store, c'.layers.Perm c.layers →
    r.Unchanged
      (fun key => ∀ s t : Source, [s, t].Sublist c.layers → [t, s].Sublist c'.layers →
        s.isSilent key = true ∨ t.isSilent key = true)
      c.layers c'.layers

theorem Fresh.dependsOnAsked {r : Resolver} (hfresh : r.Fresh) : r.DependsOnAsked where
  expansion sources sources' lenient text h := by
    have hrun := expansion_eq_of_raw h
    rw [asked, asked, hrun, expandText_apply hfresh, expandText_apply hfresh, hrun]
    exact ⟨rfl, rfl⟩
  appended sources more := by
    refine hfresh.unchanged fun key ⟨hit, hhit⟩ => ?_
    rw [Source.firstHit?_append_of_hit hhit, hhit]
  added c s := by
    refine hfresh.unchanged fun key ⟨layer, v, hhit, hname⟩ => ?_
    have hwithout := Source.firstHit?_without_of_hit hhit hname
    rw [Chain.addLast_layers, Source.firstHit?_append_of_hit hwithout, hhit]
  merged p := by
    refine ⟨(Environment.merge_child p).2, hfresh.unchanged fun key ⟨hit, hhit⟩ => ?_⟩
    rw [Environment.merge_child_layers, Source.firstHit?_append_of_hit hhit, hhit]
  reordered c c' hperm := by
    have hnodup : c.layers.Nodup := List.Nodup.of_map _ c.nodup_names
    exact hfresh.unchanged fun _ => Source.firstHit?_eq_of_order hnodup hperm

/-- **Dependence.** After any calls, failures among them, a resolver depends on its sources by the
keys that are asked for alone, in both modes. -/
theorem depends_on_asked (registry : Registry) (calls : List (List Source × Call)) :
    (reached registry calls).DependsOnAsked :=
  (reached_settings registry calls).2.dependsOnAsked

/-- The key `a` stands for the key `b`. -/
def routes : Source := ⟨"routes", .mapping [("a", .text "b"), ("b", .text "1")]⟩

/-- Another value for `a`, and one for a key of its own. -/
def strays : Source := ⟨"strays", .mapping [("a", .text "c"), ("d", .text "2")]⟩

theorem depends_on_asked_routes :
    (reached .standard []).asked false [routes] "$\x7b$\x7ba\x7d\x7d" = ["a", "b"] ∧
      (expandText [routes, strays] false "$\x7b$\x7ba\x7d\x7d" (reached .standard [])).result =
        .ok "1" ∧
      (getValue [strays, routes] "d" none .null (reached .standard [])).result =
        .ok (.text "2") := by
  have hdepends := depends_on_asked .standard []
  have hasked : (reached .standard []).asked false [routes] "$\x7b$\x7ba\x7d\x7d" = ["a", "b"] := by
    cbv
  have hconsulted : (reached .standard []).consulted [routes, strays] "d" = ["d"] := by
    cbv
  refine ⟨hasked, ?_, ?_⟩
  · have happended := (hdepends.appended [routes] [strays]).text false "$\x7b$\x7ba\x7d\x7d"
    rw [hasked] at happended
    rw [show [routes, strays] = [routes] ++ [strays] from rfl, happended]
    · cbv
    · simp only [List.forall_mem_cons]
      exact ⟨⟨_, rfl⟩, ⟨_, rfl⟩, fun _ h => absurd h List.not_mem_nil⟩
  · -- Both sources have something for `a`, but `d` is the only key that is asked for.
    have hreordered := (hdepends.reordered ⟨[routes, strays], by decide⟩
      ⟨[strays, routes], by decide⟩ (List.Perm.swap _ _ _)).value "d" none .null
    rw [hconsulted] at hreordered
    rw [hreordered]
    · cbv
    · intro key hkey s t hst _
      obtain rfl := List.mem_singleton.1 hkey
      cases hst.eq_of_length rfl
      exact .inl rfl

end Resolver

end LayeredConfig
