import LayeredConfig.Proofs.Placeholder.Crossing
import LayeredConfig.Proofs.Placeholder.Depth

/-!
# Reading — expanding what is written for a template, with any marks

Where no value has placeholders of its own and no literal has a character of the marks, reading what is
written for a template gives the meaning of the tree (`Expander.readsAsMeant`). Every body that is met
is shorter than the text it is met in, so none is ever circular and the length of the text is depth
enough. But where the opening mark has a bracket too many, the first placeholder with another one in it
stays as it is (`Expander.outcome_read_nested`).
-/

namespace LayeredConfig.Placeholder

variable {ε : Type}

/-! ## 1. Meaning -/

/-- What takes the place of a placeholder, by what its key and its default stand for. -/
def Expander.replacement (x : Expander) (lookup : Lookup ε) (whole body : List Char)
    (key : Except (Failure ε) (List Char)) (default : Except (Failure ε) (Option (List Char))) :
    Except (Failure ε) (List Char) := do
  let name ← key
  let instead ← default
  let value ← (lookup name).mapError .lookup
  (x.fill whole body name (value.or instead) : Run ε _).outcome

namespace Template

/-- What a template stands for if it is written with the marks of an expander. The text `whole` is the
one that a placeholder without a value is reported in. -/
def meaningIn (x : Expander) (lookup : Lookup ε) {p : Place} (whole : List Char) :
    Template p → Except (Failure ε) (List Char)
  | .nil => pure []
  | .literal cs rest => do
    let others ← rest.meaningIn x lookup whole
    pure (cs.chars ++ others)
  | .bare key rest => do
    let body := key.writeIn x.delimiters
    let new ← x.replacement lookup whole body (key.meaningIn x lookup body) (pure none)
    let others ← rest.meaningIn x lookup whole
    pure (new ++ others)
  | .defaulted key default rest => do
    let front := key.writeIn x.delimiters
    let back := default.writeIn x.delimiters
    let body := front ++ x.delimiters.separator.getD [] ++ back
    let new ← x.replacement lookup whole body (key.meaningIn x lookup front)
      (some <$> default.meaningIn x lookup back)
    let others ← rest.meaningIn x lookup whole
    pure (new ++ others)

end Template

section Failures

variable {x : Expander} {lookup : Lookup ε} {whole : List Char} {failure : Failure ε}

theorem Expander.replacement_failure {body : List Char} {key : Except (Failure ε) (List Char)}
    {default : Except (Failure ε) (Option (List Char))}
    (h : x.replacement lookup whole body key default = .error failure) :
    key = .error failure ∨ default = .error failure ∨
      (∃ name text, failure = .unresolved name text) ∨ ∃ error, failure = .lookup error := by
  rw [replacement] at h
  rcases Run.except_bind_cases h with ⟨_, hkey, ⟨⟩⟩ | ⟨name, _, h⟩
  · exact .inl hkey
  rcases Run.except_bind_cases h with ⟨_, hdefault, ⟨⟩⟩ | ⟨instead, _, h⟩
  · exact .inr (.inl hdefault)
  rcases Run.except_bind_cases h with ⟨_, hvalue, ⟨⟩⟩ | ⟨value, _, h⟩
  · cases hname : lookup name with
    | error error =>
      rw [hname] at hvalue
      exact .inr (.inr (.inr ⟨error, (Except.error.inj hvalue).symm⟩))
    | ok value =>
      rw [hname] at hvalue
      contradiction
  · have hfill : (x.fill whole body name (value.or instead) : Run ε _).FailsOnly
        fun failure => ∃ name text, failure = .unresolved name text :=
      failsOnly_fill (value.or instead) fun _ => ⟨name, whole, rfl⟩
    exact .inr (.inr (.inl (hfill failure h)))

/-- A meaning fails at a placeholder without a value, or as the lookup does. -/
theorem Template.meaningIn_failure {p : Place} (t : Template p)
    (h : t.meaningIn x lookup whole = .error failure) :
    (∃ name text, failure = .unresolved name text) ∨ ∃ error, failure = .lookup error := by
  induction t generalizing whole with
  | nil => contradiction
  | literal cs rest ih =>
    rw [meaningIn] at h
    rcases Run.except_bind_cases h with ⟨_, hrest, ⟨⟩⟩ | ⟨others, _, h⟩
    · exact ih hrest
    · contradiction
  | bare key rest ihkey ih =>
    rw [meaningIn] at h
    rcases Run.except_bind_cases h with ⟨_, hnew, ⟨⟩⟩ | ⟨new, _, h⟩
    · rcases Expander.replacement_failure hnew with hkey | hdefault | hown
      · exact ihkey hkey
      · contradiction
      · exact hown
    rcases Run.except_bind_cases h with ⟨_, hrest, ⟨⟩⟩ | ⟨others, _, h⟩
    · exact ih hrest
    · contradiction
  | defaulted key default rest ihkey ihdefault ih =>
    rw [meaningIn] at h
    rcases Run.except_bind_cases h with ⟨_, hnew, ⟨⟩⟩ | ⟨new, _, h⟩
    · rcases Expander.replacement_failure hnew with hkey | hdefault | hown
      · exact ihkey hkey
      · rw [map_eq_pure_bind] at hdefault
        rcases Run.except_bind_cases hdefault with ⟨_, hdefault, ⟨⟩⟩ | ⟨instead, _, h⟩
        · exact ihdefault hdefault
        · contradiction
      · exact hown
    rcases Run.except_bind_cases h with ⟨_, hrest, ⟨⟩⟩ | ⟨others, _, h⟩
    · exact ih hrest
    · contradiction

theorem Template.definite_meaningIn {p : Place} (t : Template p) :
    Definite (t.meaningIn x lookup whole) := by
  intro h
  rcases t.meaningIn_failure h with ⟨_, _, h⟩ | ⟨_, h⟩
  · contradiction
  · contradiction

end Failures

namespace Expander

variable {x : Expander} {lookup : Lookup ε}

/-! ## 2. One placeholder -/

/-- A text without an opening mark stands for itself. -/
theorem outcome_expandAt_of_notInfix {cs : List Char} (h : ¬x.delimiters.opening <:+: cs)
    {depth : Nat} (hdepth : 0 < depth) (active : List (List Char)) :
    (x.expandAt lookup depth active cs).outcome = .ok cs := by
  obtain ⟨depth, rfl⟩ : ∃ less, depth = less + 1 := ⟨depth - 1, by omega⟩
  have hfirst : x.delimiters.first? cs = none := by
    rw [Delimiters.first?, Text.cutAt?_eq_none_of_notInfix h]
  rw [expandAt_succ, Layout.ofText_of_first?_none hfirst]
  rfl

theorem outcome_substitute_of_plain {inner : List Char → Run ε (List Char)} {body : List Char}
    (hvalue : ∀ key value, lookup key = .ok (some value) → (inner value).outcome = .ok value) :
    (x.substitute lookup inner body).outcome = (do
      let key ← (inner (x.delimiters.split body).1).outcome
      let default ← ((x.delimiters.split body).2.mapM inner).outcome
      let value ← (lookup key).mapError .lookup
      pure (key, value.or default)) := by
  rw [substitute_eq]
  simp only [Run.outcome_bind, Run.outcome_ask]
  refine bind_congr fun key => bind_congr fun default => ?_
  cases hkey : lookup key with
  | error error => rfl
  | ok value =>
    cases value with
    | none => rfl
    | some value =>
      show (Option.mapM inner (some value)).outcome >>= _ = _
      rw [Option.mapM_some, Run.outcome_map, hvalue key value hkey]
      rfl

section Read

variable {resolve : List Char → Run ε (List Char × Option (List Char))} {whole : List Char}

theorem read_ofText_append_of_disjoint {cs : List Char} (h : cs.Disjoint x.delimiters.opening)
    (rest : List Char) :
    x.read resolve whole (Layout.ofText x.delimiters (cs ++ rest)) =
      (cs ++ ·) <$> x.read resolve whole (Layout.ofText x.delimiters rest) := by
  have hfirst := Delimiters.first?_append_of_disjoint h rest
  cases hrest : x.delimiters.first? rest with
  | none =>
    rw [hrest] at hfirst
    rw [Layout.ofText_of_first?_none hrest, Layout.ofText_of_first?_none hfirst]
    rfl
  | some parts =>
    rcases parts with ⟨before, body, after⟩
    rw [hrest] at hfirst
    rw [Layout.ofText_of_first?_some hrest, Layout.ofText_of_first?_some hfirst, read, read]
    simp only [map_eq_pure_bind, bind_assoc, pure_bind, List.append_assoc]

theorem outcome_read_first {depth : Nat} {active : List (List Char)} {cs body after : List Char}
    (hfirst : x.delimiters.first? cs = some ([], body, after)) (hnew : body ∉ active)
    (hvalue : ∀ key value, lookup key = .ok (some value) →
      (x.expandAt lookup depth (body :: active) value).outcome = .ok value) :
    (x.read (x.settle lookup depth active) whole (Layout.ofText x.delimiters cs)).outcome = (do
      let new ← x.replacement lookup whole body
        (x.expandAt lookup depth (body :: active) (x.delimiters.split body).1).outcome
        ((x.delimiters.split body).2.mapM (x.expandAt lookup depth (body :: active))).outcome
      let others ← (x.read (x.settle lookup depth active) whole
        (Layout.ofText x.delimiters after)).outcome
      pure (new ++ others)) := by
  rw [Layout.ofText_of_first?_some hfirst, outcome_read_placeholder,
    settle_of_notMem hnew, outcome_substitute_of_plain hvalue]
  simp only [replacement, bind_assoc, pure_bind, map_eq_pure_bind, List.nil_append]

/-- Where levels are left open in a body, the text stays as it was written. -/
theorem outcome_read_unclosed (hd : x.delimiters.Apart) {body : List Char} {levels : Nat} {p : Place}
    {rest : Template p} (hrest : rest.Fits x.delimiters)
    (hbody : x.delimiters.search.Crosses 0 body levels) (hlevels : levels ≠ 0) :
    ∃ text, (x.read resolve whole (Layout.ofText x.delimiters
      (x.delimiters.written body ++ rest.writeIn x.delimiters))).outcome = .ok text ∧
        x.delimiters.opening <:+: text := by
  rcases Nat.exists_eq_succ_of_ne_zero hlevels with ⟨less, rfl⟩
  have hafter := rest.crosses_writeIn hd hrest (S := x.delimiters.search) (a := less)
    (.inl fun _ h => h)
  refine ⟨x.delimiters.written body ++ rest.writeIn x.delimiters, ?_,
    x.delimiters.opening_infix_written body _⟩
  rw [Layout.ofText_of_first?_none (Delimiters.first?_written_eq_none hd hbody hafter), read]
  rfl

end Read

/-- If others with a mark in them take the place of the others of a result, the mark is in the result. -/
theorem exists_of_others {mark result : List Char} (new : Except (Failure ε) (List Char))
    {others others' : Except (Failure ε) (List Char)}
    (h : (do
      let front ← new
      let back ← others
      pure (front ++ back)) = .ok result)
    (hothers : ∀ back, others = .ok back → ∃ text, others' = .ok text ∧ mark <:+: text) :
    ∃ text, (do
      let front ← new
      let back ← others'
      pure (front ++ back)) = Except.ok text ∧ mark <:+: text := by
  rcases Run.except_bind_cases h with ⟨_, _, hfail⟩ | ⟨front, hfront, hrest⟩
  · contradiction
  rcases Run.except_bind_cases hrest with ⟨_, _, hfail⟩ | ⟨back, hback, -⟩
  · contradiction
  rcases hothers back hback with ⟨text, htext, hmark⟩
  rw [hfront, htext]
  exact ⟨front ++ text, rfl, hmark.trans (List.suffix_append front text).isInfix⟩

/-! ## 3. Room -/

/-- There is depth for a text, and the active bodies are no shorter than it. -/
structure HasRoom (depth : Nat) (active : List (List Char)) (cs : List Char) : Prop where
  length_le_depth : cs.length ≤ depth
  length_le_body : ∀ body ∈ active, cs.length ≤ body.length

namespace HasRoom

variable {depth : Nat} {active : List (List Char)} {cs body part : List Char}

theorem of_le (h : HasRoom depth active cs) (hle : part.length ≤ cs.length) :
    HasRoom depth active part where
  length_le_depth := Nat.le_trans hle h.length_le_depth
  length_le_body other hother := Nat.le_trans hle (h.length_le_body other hother)

theorem notMem (h : HasRoom depth active cs) (hlt : body.length < cs.length) : body ∉ active := by
  intro hmem
  have := h.length_le_body body hmem
  omega

theorem inside (h : HasRoom (depth + 1) active cs) (hlt : body.length < cs.length)
    (hle : part.length ≤ body.length) : HasRoom depth (body :: active) part where
  length_le_depth := by
    have := h.length_le_depth
    omega
  length_le_body other hother := by
    rcases List.mem_cons.1 hother with rfl | hother
    · exact hle
    · have := h.length_le_body other hother
      omega

theorem of_lt (h : cs.length < depth + 1) : HasRoom depth [] cs where
  length_le_depth := by omega
  length_le_body other hother := absurd hother List.not_mem_nil

theorem depth_pos (h : HasRoom depth active cs) (hlt : body.length < cs.length) : 0 < depth :=
  Nat.lt_of_lt_of_le (Nat.zero_lt_of_lt hlt) h.length_le_depth

end HasRoom

/-! ## 4. A tree of placeholders -/

/-- Wherever there is room for it, reading what is written for a template gives its meaning. -/
def ReadsAsMeant (x : Expander) (lookup : Lookup ε) {p : Place} (t : Template p) : Prop :=
  ∀ depth active whole, HasRoom depth active (t.writeIn x.delimiters) →
    (x.read (x.settle lookup depth active) whole
      (Layout.ofText x.delimiters (t.writeIn x.delimiters))).outcome = t.meaningIn x lookup whole

section Written

variable (hd : x.delimiters.Apart)
  (hlookup : ∀ key value, lookup key = .ok (some value) → ¬x.delimiters.opening <:+: value)
  {depth : Nat} {active : List (List Char)} {whole : List Char}

theorem ReadsAsMeant.inside {p : Place} {t : Template p} (h : x.ReadsAsMeant lookup t)
    {cs body : List Char} (hroom : HasRoom depth active cs) (hlt : body.length < cs.length)
    (hle : (t.writeIn x.delimiters).length ≤ body.length) :
    (x.expandAt lookup depth (body :: active) (t.writeIn x.delimiters)).outcome =
      t.meaningIn x lookup (t.writeIn x.delimiters) := by
  obtain ⟨less, rfl⟩ : ∃ less, depth = less + 1 :=
    ⟨depth - 1, (Nat.sub_add_cancel (hroom.depth_pos hlt)).symm⟩
  rw [expandAt_succ]
  exact h less (body :: active) _ (hroom.inside hlt hle)

include hlookup in
theorem outcome_expandAt_value {cs body : List Char} (hroom : HasRoom depth active cs)
    (hlt : body.length < cs.length) (key value : List Char)
    (h : lookup key = .ok (some value)) :
    (x.expandAt lookup depth (body :: active) value).outcome = .ok value :=
  outcome_expandAt_of_notInfix (hlookup key value h) (hroom.depth_pos hlt) (body :: active)

include hd hlookup

theorem outcome_read_bare {p : Place} {key : Template .key} {rest : Template p}
    (hkey : key.Fits x.delimiters) (hlevel : x.delimiters.surplus = 0 ∨ key.placeholders = 0)
    (hmeaning : x.ReadsAsMeant lookup key)
    (hroom : HasRoom depth active ((Template.bare key rest).writeIn x.delimiters)) :
    (x.read (x.settle lookup depth active) whole
      (Layout.ofText x.delimiters ((Template.bare key rest).writeIn x.delimiters))).outcome = (do
        let new ← x.replacement lookup whole (key.writeIn x.delimiters)
          (key.meaningIn x lookup (key.writeIn x.delimiters)) (pure none)
        let others ← (x.read (x.settle lookup depth active) whole
          (Layout.ofText x.delimiters (rest.writeIn x.delimiters))).outcome
        pure (new ++ others)) := by
  rw [Template.writeIn] at hroom ⊢
  -- The body is the key itself: it is active while it is expanded, and it holds none as long.
  have hlt := x.delimiters.length_lt_written (key.writeIn x.delimiters) (rest.writeIn x.delimiters)
  have hbody := hmeaning.inside hroom hlt (Nat.le_refl _)
  have hfirst := Delimiters.first?_written (key.crosses_key hd hkey hlevel)
    (rest.writeIn x.delimiters)
  rw [outcome_read_first hfirst (hroom.notMem hlt) (outcome_expandAt_value hlookup hroom hlt),
    Delimiters.split_of_crosses fun _ _ => key.crosses_key hd hkey hlevel, hbody]
  rfl

theorem outcome_read_defaulted {p : Place} {key : Template .key} {default : Template .text}
    {rest : Template p} {separator : List Char} (hs : x.delimiters.separator = some separator)
    (hkey : key.Fits x.delimiters) (hdefault : default.Fits x.delimiters)
    (hlevel : x.delimiters.surplus = 0 ∨ key.placeholders = 0 ∧ default.placeholders = 0)
    (hkeymeaning : x.ReadsAsMeant lookup key)
    (hdefaultmeaning : x.ReadsAsMeant lookup default)
    (hroom : HasRoom depth active ((Template.defaulted key default rest).writeIn x.delimiters)) :
    (x.read (x.settle lookup depth active) whole
      (Layout.ofText x.delimiters
        ((Template.defaulted key default rest).writeIn x.delimiters))).outcome = (do
          let new ← x.replacement lookup whole
            (key.writeIn x.delimiters ++ x.delimiters.separator.getD [] ++
              default.writeIn x.delimiters)
            (key.meaningIn x lookup (key.writeIn x.delimiters))
            (some <$> default.meaningIn x lookup (default.writeIn x.delimiters))
          let others ← (x.read (x.settle lookup depth active) whole
            (Layout.ofText x.delimiters (rest.writeIn x.delimiters))).outcome
          pure (new ++ others)) := by
  rw [Template.writeIn] at hroom ⊢
  have hlt := x.delimiters.length_lt_written (key.writeIn x.delimiters ++
    x.delimiters.separator.getD [] ++ default.writeIn x.delimiters) (rest.writeIn x.delimiters)
  have hkeybody := hkeymeaning.inside hroom hlt (by simp)
  have hdefaultbody := hdefaultmeaning.inside hroom hlt (by simp; omega)
  have hcrosses := key.crosses_body hd hkey default hdefault
  rw [Nat.mul_eq_zero.2 (hlevel.imp_right Nat.add_eq_zero_iff.2)] at hcrosses
  have hfirst := Delimiters.first?_written hcrosses (rest.writeIn x.delimiters)
  have hsplit := Delimiters.split_append_separator hd hs
    (key.crosses_key hd hkey (hlevel.imp_right And.left)) (default.writeIn x.delimiters)
  rw [show separator = x.delimiters.separator.getD [] by rw [hs, Option.getD_some]] at hsplit
  -- Both halves are expanded before the key is looked up, the default even if it is not used.
  rw [outcome_read_first hfirst (hroom.notMem hlt) (outcome_expandAt_value hlookup hroom hlt),
    hsplit, hkeybody, Option.mapM_some, Run.outcome_map, hdefaultbody]

variable {separator : List Char} (hs : x.delimiters.separator = some separator)

include hs

/-- The induction is on the tree, at every depth and inside all bodies that leave room for it: what is
written for a part of a placeholder is shorter than the placeholder. -/
theorem readsAsMeant {p : Place} (t : Template p) (ht : t.Fits x.delimiters)
    (hflat : x.delimiters.surplus = 0 ∨ t.Flat) : x.ReadsAsMeant lookup t := by
  induction t with
  | nil =>
    intro depth active whole _
    rw [Template.writeIn, Layout.ofText_of_first?_none x.delimiters.first?_nil, Template.meaningIn,
      read]
    rfl
  | literal cs rest ih =>
    intro depth active whole hroom
    rw [Template.writeIn] at hroom ⊢
    rw [read_ofText_append_of_disjoint ht.1.1, Run.outcome_map,
      ih ht.2 hflat depth active whole (hroom.of_le (by simp)), Template.meaningIn, map_eq_pure_bind]
  | bare key rest ihkey ih =>
    intro depth active whole hroom
    have hlevel := hflat.imp_right And.left
    have hkey := ihkey ht.1 (hlevel.imp_right Template.flat_of_placeholders_eq_zero)
    have hrest : HasRoom depth active (rest.writeIn x.delimiters) :=
      hroom.of_le (by simp [Template.writeIn])
    rw [outcome_read_bare hd hlookup ht.1 hlevel hkey hroom,
      ih ht.2 (hflat.imp_right And.right) depth active whole hrest, Template.meaningIn]
  | defaulted key default rest ihkey ihdefault ih =>
    intro depth active whole hroom
    have hlevel := hflat.imp_right fun h => And.intro h.1 h.2.1
    have hkey := ihkey ht.1
      (hlevel.imp_right fun h => Template.flat_of_placeholders_eq_zero h.1)
    have hdefault := ihdefault ht.2.1
      (hlevel.imp_right fun h => Template.flat_of_placeholders_eq_zero h.2)
    have hrest : HasRoom depth active (rest.writeIn x.delimiters) :=
      hroom.of_le (by simp [Template.writeIn])
    rw [outcome_read_defaulted hd hlookup hs ht.1 ht.2.1 hlevel hkey hdefault hroom,
      ih ht.2.2 (hflat.imp_right fun h => h.2.2) depth active whole hrest, Template.meaningIn]

/-- An opening mark with a bracket too many leaves a level open for every placeholder that is nested.
So the first placeholder with others in it is never closed, and it stays as it was written. -/
theorem outcome_read_nested {p : Place} (t : Template p) (ht : t.Fits x.delimiters)
    (hsurplus : x.delimiters.surplus ≠ 0) (hflat : ¬t.Flat) {result : List Char}
    (hresult : t.meaningIn x lookup whole = .ok result)
    (hroom : HasRoom depth active (t.writeIn x.delimiters)) :
    ∃ text, (x.read (x.settle lookup depth active) whole
      (Layout.ofText x.delimiters (t.writeIn x.delimiters))).outcome = .ok text ∧
        x.delimiters.opening <:+: text := by
  have hmeant : ∀ {p : Place} (t : Template p), t.Fits x.delimiters → t.placeholders = 0 →
      x.ReadsAsMeant lookup t := fun t ht hnone =>
    readsAsMeant hd hlookup hs t ht (.inr (Template.flat_of_placeholders_eq_zero hnone))
  induction t generalizing result with
  | nil => exact absurd trivial hflat
  | literal cs rest ih =>
    rw [Template.meaningIn] at hresult
    rw [Template.writeIn] at hroom ⊢
    rw [read_ofText_append_of_disjoint ht.1.1, Run.outcome_map, map_eq_pure_bind]
    exact exists_of_others (.ok cs.chars) hresult fun others hothers =>
      ih ht.2 hflat hothers (hroom.of_le (by simp))
  | bare key rest _ ih =>
    by_cases hkey : key.placeholders = 0
    -- Without placeholders in its key this one is replaced, and the rest has the nested one.
    · rw [Template.meaningIn] at hresult
      rw [outcome_read_bare hd hlookup ht.1 (.inr hkey) (hmeant key ht.1 hkey) hroom]
      exact exists_of_others _ hresult fun others hothers =>
        ih ht.2 (fun h => hflat ⟨hkey, h⟩) hothers (hroom.of_le (by simp [Template.writeIn]))
    · have hbody := key.crosses_writeIn hd ht.1 (S := x.delimiters.search) (a := 0) (.inr (.inl rfl))
      rw [Nat.zero_add] at hbody
      exact outcome_read_unclosed hd ht.2 hbody (Nat.mul_ne_zero hsurplus hkey)
  | defaulted key default rest _ _ ih =>
    by_cases hparts : key.placeholders + default.placeholders = 0
    · rcases Nat.add_eq_zero_iff.1 hparts with ⟨hkey, hdefault⟩
      rw [Template.meaningIn] at hresult
      rw [outcome_read_defaulted hd hlookup hs ht.1 ht.2.1 (.inr ⟨hkey, hdefault⟩)
        (hmeant key ht.1 hkey) (hmeant default ht.2.1 hdefault) hroom]
      exact exists_of_others _ hresult fun others hothers =>
        ih ht.2.2 (fun h => hflat ⟨hkey, hdefault, h⟩) hothers
          (hroom.of_le (by simp [Template.writeIn]))
    · exact outcome_read_unclosed hd ht.2.2 (key.crosses_body hd ht.1 default ht.2.1)
        (Nat.mul_ne_zero hsurplus hparts)

end Written

/-! ## 5. A whole text -/

theorem length_lt_depthFor (cs : List Char) (others : List (List Char)) :
    cs.length < depthFor (cs :: others) := by
  have hsquare : cs.length + 1 ≤ (cs.length + 1) * (cs.length + 1) :=
    Nat.le_mul_of_pos_left _ (Nat.succ_pos cs.length)
  rw [depthFor_cons]
  omega

/-- The expansion of a text has this outcome, with the depth that any values call for and with more. -/
def ComesTo (x : Expander) (lookup : Lookup ε) (text : List Char)
    (o : Except (Failure ε) (List Char)) : Prop :=
  (∀ values, (x.expand values lookup text).outcome = o) ∧ x.Ends lookup [] text o

theorem ComesTo.unique {text : List Char} {o o' : Except (Failure ε) (List Char)}
    (h : x.ComesTo lookup text o) (h' : x.ComesTo lookup text o') : o = o' :=
  h.2.unique h'.2

/-- The length of a text is depth enough if with it the text comes to an end. -/
theorem comesTo_of_outcome {text : List Char} {o : Except (Failure ε) (List Char)}
    (h : (x.expandAt lookup (text.length + 1) [] text).outcome = o) (ho : Definite o) :
    x.ComesTo lookup text o := by
  refine ⟨fun values => ?_, ends_of_outcome h ho⟩
  have hne : ¬(x.expandAt lookup (text.length + 1) [] text).CutOff := by
    rw [Run.CutOff, h]
    exact ho
  have happrox := expandAt_approx_of_le x lookup (length_lt_depthFor text values) [] text
  rw [expand, ← happrox.eq hne, h]

section Written

variable (hd : x.delimiters.Apart)
  (hlookup : ∀ key value, lookup key = .ok (some value) → ¬x.delimiters.opening <:+: value)
  {separator : List Char} (hs : x.delimiters.separator = some separator)

include hd hlookup hs

theorem outcome_expandAt_writeIn {p : Place} (t : Template p) (ht : t.Fits x.delimiters)
    (hflat : x.delimiters.surplus = 0 ∨ t.Flat) {depth : Nat}
    (hdepth : (t.writeIn x.delimiters).length < depth) :
    (x.expandAt lookup depth [] (t.writeIn x.delimiters)).outcome =
      t.meaningIn x lookup (t.writeIn x.delimiters) := by
  obtain ⟨less, rfl⟩ : ∃ less, depth = less + 1 := ⟨depth - 1, by omega⟩
  rw [expandAt_succ]
  exact readsAsMeant hd hlookup hs t ht hflat less [] _ (.of_lt hdepth)

end Written

end Expander

end LayeredConfig.Placeholder
