import LayeredConfig.Proofs.Resolver.Typed

/-!
# Presence — a key is contained where something is found for it

A store that can be read holds a key if and only if it has something for it (`contains_of_isReadable`); a
caller's own store may have whatever a function says (`get_answering`). So the search for a source that holds
a key and the search for a value end at the same source (`scans_of_isReadable`). What is there is found,
though its expansion may fail, and an entry that is nothing hides no other (`contains_as_found`).
-/

namespace LayeredConfig

/-! ## 1. What a store holds -/

namespace Store

/-- A store can be read if it does not serve for comparison only. Variables are texts; what other stores
have, a probed one among them that a caller brings, may be anything or nothing. -/
def IsReadable : Store → Prop
  | .variables entries => ∀ entry ∈ entries, ∃ s, entry.2 = .text s
  | .comparison => False
  | .mapping _ | .probed _ | .reserved => True

/-- A store of a caller, which answers some keys as a function says. -/
def answering (f : String → Value) (keys : List String) : Store :=
  .probed (keys.map fun key => (key, f key))

theorem get_answering (f : String → Value) {keys : List String} {key : String} (h : key ∈ keys) :
    (answering f keys).get key = .ok (f key) := by
  refine congrArg Except.ok ?_
  rw [valueOf, List.find?_map]
  induction keys with
  | nil => exact absurd h List.not_mem_nil
  | cons first rest ih =>
    by_cases hfirst : first = key
    · rw [List.find?_cons_of_pos (by simp [hfirst]), Option.map_some, Option.map_some, hfirst]
      rfl
    · rw [List.find?_cons_of_neg (by simpa using hfirst)]
      exact ih ((List.mem_cons.1 h).resolve_left (Ne.symm hfirst))

theorem not_isNull_valueOf {entries : List (String × Value)} {name : String}
    (htexts : ∀ entry ∈ entries, ∃ s, entry.2 = .text s) (hname : name ∈ entries.map (·.1)) :
    (valueOf entries name).isNull = false := by
  unfold valueOf
  cases hfind : entries.find? (·.1 == name) with
  | some entry =>
    obtain ⟨s, hs⟩ := htexts entry (List.mem_of_find?_eq_some hfind)
    rw [Option.map_some, Option.getD_some, hs]
    rfl
  | none =>
    -- The name is there, so the search does not fail.
    obtain ⟨entry, hentry, rfl⟩ := List.mem_map.1 hname
    exact absurd (beq_self_eq_true entry.1) (List.find?_eq_none.1 hfind entry hentry)

theorem contains_of_isReadable {s : Store} (h : s.IsReadable) (key : String) :
    ∃ v, s.get key = .ok v ∧ s.contains key = .ok (!v.isNull) := by
  match s with
  | .mapping entries | .probed entries => exact ⟨valueOf entries key, rfl, rfl⟩
  | .reserved => exact ⟨.null, rfl, rfl⟩
  | .comparison => exact h.elim
  | .variables entries =>
    rw [get, contains]
    -- It is the name that counts, and under each name there is a text.
    cases hresolve : Variables.resolve? (entries.map (·.1)) key with
    | none => exact ⟨.null, rfl, rfl⟩
    | some name =>
      have hname : name ∈ entries.map (·.1) := List.contains_iff_mem.1 (List.find?_some hresolve)
      refine ⟨valueOf entries name, rfl, ?_⟩
      rw [not_isNull_valueOf h hname]
      rfl

end Store

/-! ## 2. Two searches -/

namespace Source

/-- The source has something for the key. -/
def Holds (s : Source) (key : String) : Prop :=
  ∃ v, s.content.get key = .ok v ∧ v.isNull = false

variable {sources : List Source} {key : String}

theorem not_holds {s : Source} {v : Value} (hget : s.content.get key = .ok v) (hv : v.isNull = true) :
    ¬ s.Holds key := by
  rintro ⟨w, hw, hsome⟩
  cases hget.symm.trans hw
  rw [hv] at hsome
  contradiction

/-- Both searches come to an end, they come to the same, and they find something where a source has it. -/
theorem scans_of_isReadable (h : ∀ s ∈ sources, s.content.IsReadable) (key : String) :
    ∃ hit, firstHit? key sources = .ok hit ∧ anyContains key sources = .ok hit.isSome ∧
      (hit.isSome = true ↔ ∃ s ∈ sources, s.Holds key) := by
  induction sources with
  | nil => exact ⟨none, rfl, rfl, iff_of_false nofun nofun⟩
  | cons s rest ih =>
    obtain ⟨hs, hrest⟩ := List.forall_mem_cons.1 h
    obtain ⟨v, hget, hcontains⟩ := Store.contains_of_isReadable hs key
    obtain ⟨hit, hhit, hany, hheld⟩ := ih hrest
    rw [firstHit?, anyContains, hget, hcontains]
    cases hv : v.isNull with
    | false =>
      have hholds : s.Holds key := ⟨v, hget, hv⟩
      refine ⟨some (s.name, v), if_neg (by simp [hv]), rfl, ?_⟩
      exact iff_of_true rfl ⟨s, List.mem_cons_self, hholds⟩
    | true =>
      -- Neither search ends here, and the source is none of those that have something.
      refine ⟨hit, (if_pos hv).trans hhit, hany, hheld.trans ?_⟩
      rw [List.exists_mem_cons_iff]
      exact (or_iff_right (not_holds hget hv)).symm

/-- What stands behind a source that holds the key is not searched. -/
theorem anyContains_append_of_true (h : anyContains key sources = .ok true) (more : List Source) :
    anyContains key (sources ++ more) = .ok true := by
  induction sources with
  | nil => cases h
  | cons s rest ih =>
    rw [List.cons_append]
    rw [anyContains] at h ⊢
    cases hcontains : s.content.contains key with
    | error e =>
      rw [hcontains] at h
      contradiction
    | ok found =>
      rw [hcontains] at h
      cases found with
      | true => rfl
      | false => exact ih h

end Source

/-! ## 3. Lookup -/

namespace Resolver

/-- A lookup without a target finds something: it gives it, or it fails as it expands it. -/
def Finds (r : Resolver) (sources : List Source) (key : String) : Prop :=
  (∃ w, (getValue sources key none .null r).result = .ok w ∧ w.isNull = false) ∨
    ∃ layer v e, Source.firstHit? key sources = .ok (some (layer, v)) ∧
      (expandValue sources v r).result = .error e ∧
      (getValue sources key none .null r).result = .error e

theorem finds_iff {r : Resolver} {sources : List Source} {key : String}
    {hit : Option (String × Value)} (hhit : Source.firstHit? key sources = .ok hit) :
    r.Finds sources key ↔ hit.isSome = true := by
  rw [Finds, getValue_null]
  match hit with
  | none =>
    rw [find_of_none hhit]
    refine iff_of_false ?_ nofun
    rintro (⟨w, hw, hsome⟩ | ⟨layer, v, e, h, -, -⟩)
    · cases hw
      contradiction
    · cases hhit.symm.trans h
  | some (layer, v) =>
    -- The value is expanded to something, or its expansion fails.
    rw [result_find_none_of_hit hhit]
    refine iff_of_true ?_ rfl
    cases hexpanded : (expandValue sources v r).result with
    | ok w =>
      exact .inl ⟨w, rfl, not_isNull_of_expandValue (Source.not_isNull_of_hit hhit) hexpanded⟩
    | error e => exact .inr ⟨layer, v, e, hhit, hexpanded, rfl⟩

/-- Whether a key is contained, and what a lookup of it does. -/
structure TellsAsFound (r : Resolver) (sources : List Source) (key : String) (found : Bool) :
    Prop where
  contained : containsKey sources key r = ⟨r, [], .ok found⟩
  finds : found = true ↔ r.Finds sources key
  holds : found = true ↔ ∃ s ∈ sources, s.Holds key
  absent : found = false → getValue sources key none .null r = ⟨r, [.keyNotFound key], .ok .null⟩
  /-- Each source holds the key if and only if it has something for it. -/
  each : ∀ s ∈ sources, ∃ v, s.content.get key = .ok v ∧ s.content.contains key = .ok (!v.isNull)
  /-- The first source that has something answers, though those above may have an entry that is nothing,
  and both searches end with it, whatever stands behind it. -/
  first : ∀ above s below v, sources = above ++ s :: below →
    (∀ t ∈ above, t.content.get key = .ok .null) → s.content.get key = .ok v → v.isNull = false →
      getValue sources key none .null r = (expandValue sources v >>= fun expanded => do
          Action.emit [.keyFound s.name key expanded.kindName]
          pure expanded) r ∧
        ∀ behind, Source.anyContains key (above ++ s :: behind) = .ok true ∧
          Source.firstHit? key (above ++ s :: behind) = .ok (some (s.name, v))

/-- **Presence.** Over sources that can be read a resolver contains a key if and only if it finds something
for it, if and only if a source has something for it; and it is the first such source that answers. -/
theorem contains_as_found (r : Resolver) {sources : List Source}
    (hreadable : ∀ s ∈ sources, s.content.IsReadable) (key : String) :
    ∃ found, r.TellsAsFound sources key found := by
  obtain ⟨hit, hhit, hany, hheld⟩ := Source.scans_of_isReadable hreadable key
  refine ⟨hit.isSome, ?contained, (finds_iff hhit).symm, hheld, fun habsent => ?absent,
    fun s hs => Store.contains_of_isReadable (hreadable s hs) key,
    fun above s below v hsources habove hget hv => ?first⟩
  case contained => rw [containsKey, Action.ofExcept_apply, hany]
  case absent =>
    rw [Option.isSome_eq_false_iff, Option.isNone_iff_eq_none] at habsent
    rw [getValue_null, find_of_none (habsent ▸ hhit)]
  case first =>
    have hsilent : ∀ t ∈ above, t.isSilent key = true := by
      intro t ht
      rw [Source.isSilent, habove t ht]
      rfl
    have hfirst (behind : List Source) :
        Source.firstHit? key (above ++ s :: behind) = .ok (some (s.name, v)) :=
      Source.firstHit?_of_first hsilent hget hv
    refine ⟨?_, fun behind => ⟨?_, hfirst behind⟩⟩
    · rw [getValue_null, find_none_of_hit (hsources ▸ hfirst below)]
    · -- The sources up to this one can be read, and the search comes to an end among them.
      have hupTo : ∀ t ∈ above ++ [s], t.content.IsReadable := by
        intro t ht
        apply hreadable t
        rw [hsources, List.append_cons]
        exact List.mem_append_left below ht
      obtain ⟨hit, hhit, hany, -⟩ := Source.scans_of_isReadable hupTo key
      cases (hfirst []).symm.trans hhit
      have hall := Source.anyContains_append_of_true hany behind
      rwa [List.append_assoc] at hall

/-- Settings of which one is nothing, one is false and one refers to itself. -/
def gaps : Source :=
  ⟨"gaps", .mapping [("host", .null), ("debug", .bool false), ("loop", .text "$\x7bloop\x7d")]⟩

def place : Source := ⟨"place", .reserved⟩

/-- A variable that is set and blank. -/
def blankHost : Source := ⟨"env", .variables [("HOST", .text "")]⟩

/-- A source that has something for every key but one. -/
def ownHost : Source :=
  ⟨"own", .answering (fun key => if key = "port" then .null else .text key) ["host", "port"]⟩

def oneOfEach : List Source := [gaps, place, blankHost, ownHost]

/-- The blank variable answers below the setting that is nothing; a key may be contained and fail. -/
theorem contains_as_found_mixed :
    (∀ s ∈ oneOfEach, s.content.IsReadable) ∧
      (getValue oneOfEach "host" none .null (.new .standard)).result = .ok (.text "") ∧
      containsKey oneOfEach "host" (.new .standard) = ⟨.new .standard, [], .ok true⟩ ∧
      (getValue oneOfEach "loop" none .null (.new .standard)).result = .error (.circular "loop") ∧
      containsKey oneOfEach "loop" (.new .standard) = ⟨.new .standard, [], .ok true⟩ ∧
      containsKey oneOfEach "port" (.new .standard) = ⟨.new .standard, [], .ok false⟩ := by
  have hreadable : ∀ s ∈ oneOfEach, s.content.IsReadable := by
    simp only [oneOfEach, List.forall_mem_cons]
    exact ⟨trivial, trivial, List.forall_mem_singleton.2 ⟨"", rfl⟩, trivial, List.forall_mem_nil _⟩
  have hpresence := contains_as_found (.new .standard) hreadable
  refine ⟨hreadable, ?value, ?host, ?circular, ?loop, ?port⟩
  case value =>
    obtain ⟨found, h⟩ := hpresence "host"
    have habove : ∀ t ∈ [gaps, place], t.content.get "host" = .ok .null := by
      simp only [List.forall_mem_cons]
      exact ⟨rfl, rfl, List.forall_mem_nil _⟩
    rw [(h.first _ blankHost [ownHost] (.text "") rfl habove (by cbv) rfl).1]
    cbv
  case host =>
    obtain ⟨found, h⟩ := hpresence "host"
    have hholds : ownHost.Holds "host" := ⟨.text "host", Store.get_answering _ (by simp), rfl⟩
    rw [h.contained, h.holds.2 ⟨ownHost, by simp [oneOfEach], hholds⟩]
  case circular => cbv
  case loop =>
    obtain ⟨found, h⟩ := hpresence "loop"
    have hholds : gaps.Holds "loop" := ⟨.text "$\x7bloop\x7d", rfl, rfl⟩
    rw [h.contained, h.holds.2 ⟨gaps, by simp [oneOfEach], hholds⟩]
  case port =>
    obtain ⟨found, h⟩ := hpresence "port"
    cases found with
    | false => exact h.contained
    | true =>
      -- No source has anything for this key.
      have hnone : ∀ s ∈ oneOfEach, ¬ s.Holds "port" := by
        simp only [oneOfEach, List.forall_mem_cons]
        exact ⟨Source.not_holds rfl rfl, Source.not_holds rfl rfl, Source.not_holds rfl rfl,
          Source.not_holds rfl rfl, List.forall_mem_nil _⟩
      obtain ⟨s, hs, hholds⟩ := h.holds.1 rfl
      exact absurd hholds (hnone s hs)

end Resolver

end LayeredConfig
