import LayeredConfig.Placeholder.Expand

/-!
# Layout — a text as literals and placeholders

Cutting a text at its placeholders, from left to right and before anything is replaced, loses
nothing (`Layout.toText_ofText`). Expansion, which replaces in one buffer and searches that
buffer again, gives the same run as a walk over the layout of the text as it was at first
(`expandFrom_eq_read`), so what replaces a placeholder never takes part in a search.
-/

namespace LayeredConfig.Placeholder

namespace Delimiters

/-- A placeholder with this body, as it is written. -/
def written (d : Delimiters) (body : List Char) : List Char :=
  d.opening ++ body ++ d.closing

/-- The first placeholder of a text: what stands before it, its body, and what follows it. There
is none if the body behind the first opening mark is never closed. -/
def first? (d : Delimiters) (cs : List Char) : Option (List Char × List Char × List Char) :=
  match Text.cutAt? d.opening cs with
  | none => none
  | some (before, inside) =>
    (d.closeIndex? 0 inside).map fun size =>
      (before, inside.take size, inside.drop (size + d.closing.length))

theorem first?_eq_some {d : Delimiters} {cs before body after : List Char}
    (h : d.first? cs = some (before, body, after)) :
    cs = before ++ d.written body ++ after ∧
      Text.indexOf? d.opening cs = some before.length ∧
      d.closeIndex? 0 (body ++ d.closing ++ after) = some body.length := by
  unfold first? at h
  split at h
  next => simp at h
  next before' inside hcut =>
    rcases Option.map_eq_some_iff.1 h with ⟨size, hsize, he⟩
    simp only [Prod.mk.injEq] at he
    rcases he with ⟨rfl, rfl, rfl⟩
    have hinside := eq_append_of_closeIndex? hsize
    have hlength : (inside.take size).length = size := by
      have := closeIndex?_add_length_le hsize
      rw [List.length_take]
      omega
    -- The scan for the closing mark ran over `inside`, which is the body, the mark and the rest.
    refine ⟨?_, Text.indexOf?_of_cutAt? hcut, ?_⟩
    · calc cs = before' ++ d.opening ++ inside := Text.eq_append_of_cutAt? hcut
        _ = before' ++ d.opening ++ (inside.take size ++ d.closing ++
              inside.drop (size + d.closing.length)) := by rw [← hinside]
        _ = _ := by simp only [written, List.append_assoc]
    · rw [← hinside, hlength, hsize]

theorem eq_append_of_first? {d : Delimiters} {cs before body after : List Char}
    (h : d.first? cs = some (before, body, after)) : cs = before ++ d.written body ++ after :=
  (first?_eq_some h).1

theorem length_after_lt {d : Delimiters} {cs before body after : List Char}
    (h : d.first? cs = some (before, body, after)) : after.length < cs.length := by
  have := d.length_opening_pos
  rw [eq_append_of_first? h]
  simp only [written, List.length_append]
  omega

end Delimiters

/-! ## 1. Cutting -/

/-- A text cut at its placeholders, each with the literal in front of it. -/
inductive Layout where
  | rest (cs : List Char)
  | placeholder (before body : List Char) (after : Layout)
  deriving DecidableEq, Repr

namespace Layout

/-- The layout of a text. -/
def ofText (d : Delimiters) (cs : List Char) : Layout :=
  match _h : d.first? cs with
  | none => .rest cs
  | some (before, body, after) => .placeholder before body (ofText d after)
termination_by cs.length
decreasing_by exact Delimiters.length_after_lt _h

theorem ofText_of_first?_none {d : Delimiters} {cs : List Char} (h : d.first? cs = none) :
    ofText d cs = .rest cs := by
  rw [ofText.eq_def]
  split
  next => rfl
  next h' => rw [h] at h'; contradiction

theorem ofText_of_first?_some {d : Delimiters} {cs before body after : List Char}
    (h : d.first? cs = some (before, body, after)) :
    ofText d cs = .placeholder before body (ofText d after) := by
  rw [ofText.eq_def]
  split
  next h' => rw [h] at h'; contradiction
  next h' =>
    rw [h] at h'
    obtain ⟨rfl, rfl, rfl⟩ : _ ∧ _ ∧ _ := by simpa using h'
    rfl

/-- The text that was cut. -/
def toText (d : Delimiters) : Layout → List Char
  | .rest cs => cs
  | .placeholder before body after => before ++ d.written body ++ after.toText d

theorem toText_ofText (d : Delimiters) (cs : List Char) : (ofText d cs).toText d = cs := by
  fun_induction ofText d cs with
  | case1 cs h => rfl
  | case2 cs before body after h ih => rw [toText, ih, ← Delimiters.eq_append_of_first? h]

end Layout

/-! ## 2. Reading a layout -/

namespace Expander

variable {ε : Type}

/-- What stands in the place of a placeholder in the end: what replaces it, or the placeholder
itself where it may stay. -/
def fill (x : Expander) (text body key : List Char) (replacement : Option (List Char)) :
    Run ε (List Char) :=
  match replacement with
  | some new => do
    Run.step (.resolved key)
    pure new
  | none => if x.lenient then pure (x.delimiters.written body) else Run.fail (.unresolved key text)

/-- The text that a layout of `text` comes to, from left to right. -/
def read (x : Expander) (resolve : List Char → Run ε (List Char × Option (List Char)))
    (text : List Char) : Layout → Run ε (List Char)
  | .rest cs => pure cs
  | .placeholder before body after => do
    let (key, replacement) ← resolve body
    let new ← x.fill text body key replacement
    let others ← x.read resolve text after
    pure (before ++ new ++ others)

section Outcomes

variable {x : Expander} {resolve : List Char → Run ε (List Char × Option (List Char))}
  {text before body : List Char} {after : Layout}

theorem outcome_read_placeholder :
    (x.read resolve text (.placeholder before body after)).outcome = (do
      let settled ← (resolve body).outcome
      let new ← (x.fill text body settled.1 settled.2 : Run ε _).outcome
      (before ++ new ++ ·) <$> (x.read resolve text after).outcome) := by
  simp only [read, Run.outcome_bind, ← map_eq_pure_bind, Run.outcome_map]

theorem outcome_read_of_failed {failure : Failure ε}
    (h : (resolve body).outcome = .error failure) :
    (x.read resolve text (.placeholder before body after)).outcome = .error failure := by
  rw [outcome_read_placeholder, h]
  rfl

theorem outcome_read_of_replaced {key new : List Char}
    (h : (resolve body).outcome = .ok (key, some new)) :
    (x.read resolve text (.placeholder before body after)).outcome =
      (before ++ new ++ ·) <$> (x.read resolve text after).outcome := by
  rw [outcome_read_placeholder, h]
  rfl

theorem outcome_read_of_kept {key : List Char} (h : (resolve body).outcome = .ok (key, none))
    (hlenient : x.lenient = true) :
    (x.read resolve text (.placeholder before body after)).outcome =
      (before ++ x.delimiters.written body ++ ·) <$> (x.read resolve text after).outcome := by
  have hfill : (x.fill text body key none : Run ε _).outcome = .ok (x.delimiters.written body) := by
    rw [fill, if_pos hlenient, Run.outcome_pure]
  rw [outcome_read_placeholder, h]
  show (x.fill text body key none : Run ε _).outcome >>= _ = _
  rw [hfill]
  rfl

theorem outcome_read_of_unresolved {key : List Char}
    (h : (resolve body).outcome = .ok (key, none)) (hstrict : x.lenient = false) :
    (x.read resolve text (.placeholder before body after)).outcome =
      .error (.unresolved key text) := by
  have hfill : (x.fill text body key none : Run ε _).outcome = .error (.unresolved key text) := by
    rw [fill, if_neg (by rw [hstrict]; decide), Run.outcome_fail]
  rw [outcome_read_placeholder, h]
  show (x.fill text body key none : Run ε _).outcome >>= _ = _
  rw [hfill]
  rfl

end Outcomes

/-- Refuses a body that is being expanded already. -/
def guarded (active : List (List Char))
    (resolve : List Char → Run ε (List Char × Option (List Char))) (body : List Char) :
    Run ε (List Char × Option (List Char)) :=
  if active.contains body then Run.fail (.circular body) else resolve body

section Guarded

variable {active : List (List Char)} {body : List Char}
  {resolve : List Char → Run ε (List Char × Option (List Char))}

theorem guarded_of_mem (h : body ∈ active) :
    guarded active resolve body = Run.fail (.circular body) :=
  if_pos (List.contains_iff_mem.2 h)

theorem guarded_of_notMem (h : body ∉ active) : guarded active resolve body = resolve body :=
  if_neg fun hmem => h (List.contains_iff_mem.1 hmem)

end Guarded

/-! ## 3. Replacing in one buffer -/

section Buffer

variable {x : Expander} {resolve : List Char → Run ε (List Char × Option (List Char))}
  {active : List (List Char)} {text front rest : List Char}

theorem indexFrom?_append (mark front rest : List Char) :
    Text.indexFrom? mark front.length (front ++ rest) =
      (Text.indexOf? mark rest).map (front.length + ·) := by
  simp only [Text.indexFrom?, List.drop_left, Nat.add_comm]

theorem expandFrom_of_first?_none (h : x.delimiters.first? rest = none) :
    x.expandFrom resolve active text (front ++ rest) front.length = pure (front ++ rest) := by
  rw [expandFrom]
  split
  next => rfl
  next start hstart =>
    rw [indexFrom?_append] at hstart
    rcases Option.map_eq_some_iff.1 hstart with ⟨i, hi, rfl⟩
    simp only [Delimiters.first?, Text.cutAt?, hi, Option.map_some, Option.map_eq_none_iff] at h
    simp only [Nat.add_assoc, List.drop_length_add_append, h]

/-- One turn of the loop: whatever the length of `new`, the search goes on right behind it, at
the text that followed the placeholder. -/
theorem expandFrom_of_first?_some {before body after : List Char}
    (h : x.delimiters.first? rest = some (before, body, after)) :
    x.expandFrom resolve active text (front ++ rest) front.length = (do
      let settled ← guarded active resolve body
      let new ← x.fill text body settled.1 settled.2
      x.expandFrom resolve active text ((front ++ (before ++ new)) ++ after)
        (front ++ (before ++ new)).length) := by
  rcases Delimiters.first?_eq_some h with ⟨rfl, hindex, hclose⟩
  rw [expandFrom]
  split
  next hnone =>
    rw [indexFrom?_append, hindex] at hnone
    contradiction
  next start hstart =>
    rw [indexFrom?_append, hindex] at hstart
    obtain rfl : front.length + before.length = start := by simpa using hstart
    -- The four cuts that the loop makes in the buffer, each named by what it gives.
    have hinside : (front ++ (before ++ x.delimiters.written body ++ after)).drop
        (front.length + before.length + x.delimiters.opening.length) =
          body ++ x.delimiters.closing ++ after := by
      rw [Nat.add_assoc, List.drop_length_add_append]
      simp [Delimiters.written, List.drop_append]
    have hbody : (body ++ x.delimiters.closing ++ after).take body.length = body := by
      rw [List.append_assoc, List.take_left]
    have hbefore : (front ++ (before ++ x.delimiters.written body ++ after)).take
        (front.length + before.length) = front ++ before := by
      rw [List.append_assoc, ← List.append_assoc, ← List.length_append, List.take_left]
    have hafter : (front ++ (before ++ x.delimiters.written body ++ after)).drop
        (front.length + before.length + x.delimiters.opening.length + body.length +
          x.delimiters.closing.length) = after := by
      rw [← List.append_assoc]
      apply List.drop_left'
      simp only [Delimiters.written, List.length_append]
      omega
    simp only [hinside, hclose, hbody, hbefore, hafter]
    by_cases hmem : body ∈ active
    · rw [if_pos hmem, guarded_of_mem hmem, Run.fail_bind]
    · rw [if_neg hmem, guarded_of_notMem hmem]
      refine bind_congr fun settled => ?_
      rcases settled with ⟨key, replacement⟩
      cases replacement with
      | some new =>
        simp only [fill, bind_assoc, pure_bind, List.length_append, List.append_assoc,
          Nat.add_assoc]
      | none =>
        simp only [fill]
        split
        next =>
          simp only [pure_bind, Delimiters.written, List.length_append, List.append_assoc,
            Nat.add_assoc]
        next => rw [Run.fail_bind]

end Buffer

/-- Replacing in one buffer is reading the layout of the text that is left. -/
theorem expandFrom_eq_read (x : Expander)
    (resolve : List Char → Run ε (List Char × Option (List Char))) (active : List (List Char))
    (text front rest : List Char) :
    x.expandFrom resolve active text (front ++ rest) front.length =
      (front ++ ·) <$> x.read (guarded active resolve) text (Layout.ofText x.delimiters rest) := by
  match h : x.delimiters.first? rest with
  | none =>
    rw [expandFrom_of_first?_none h, Layout.ofText_of_first?_none h, read, map_pure]
  | some (before, body, after) =>
    -- One turn of the loop is one placeholder of the layout, and both go on with `after`.
    have := Delimiters.length_after_lt h
    rw [expandFrom_of_first?_some h, Layout.ofText_of_first?_some h, read]
    simp only [expandFrom_eq_read x resolve active text _ after]
    simp only [map_eq_pure_bind, bind_assoc, pure_bind, List.append_assoc]
termination_by rest.length

/-! ## 4. One level of an expansion -/

/-- What a body comes to inside the bodies `active`, with this depth left for its parts. -/
def settle (x : Expander) (lookup : Lookup ε) (depth : Nat) (active : List (List Char)) :
    List Char → Run ε (List Char × Option (List Char)) :=
  guarded active fun body => x.substitute lookup (x.expandAt lookup depth (body :: active)) body

theorem settle_of_mem {x : Expander} {lookup : Lookup ε} {depth : Nat}
    {active : List (List Char)} {body : List Char} (h : body ∈ active) :
    x.settle lookup depth active body = Run.fail (.circular body) :=
  guarded_of_mem h

theorem settle_of_notMem {x : Expander} {lookup : Lookup ε} {depth : Nat}
    {active : List (List Char)} {body : List Char} (h : body ∉ active) :
    x.settle lookup depth active body =
      x.substitute lookup (x.expandAt lookup depth (body :: active)) body :=
  guarded_of_notMem h

theorem expandAt_succ (x : Expander) (lookup : Lookup ε) (depth : Nat)
    (active : List (List Char)) (text : List Char) :
    x.expandAt lookup (depth + 1) active text =
      x.read (x.settle lookup depth active) text (Layout.ofText x.delimiters text) := by
  have h := expandFrom_eq_read x
    (fun body => x.substitute lookup (x.expandAt lookup depth (body :: active)) body)
    active text [] text
  rw [expandAt, settle]
  simpa only [List.nil_append, List.length_nil, id_map'] using h

end Expander

end LayeredConfig.Placeholder
