import LayeredConfig.Proofs.Placeholder.Grammar
import LayeredConfig.Proofs.Text.Split

/-!
# Pieces — what the result of a strict expansion is made of

A strict expansion puts literals together, those of the text, of the defaults that are taken and of the
values. None of them holds a placeholder that is closed in it (`Pieces.first?_eq_none`), but two that
come to stand side by side can make one, and it is not looked for. So a result that is expanded again
stays what it is, unless it has a placeholder across a seam (`resolved_text_stands`).
-/

namespace LayeredConfig.Placeholder

namespace Delimiters

variable {d : Delimiters} {before body after : List Char}

/-! ## 1. Placeholders in a part of a text -/

/-- The end that is found in a text is found in every front of it that holds the closing mark. -/
theorem closeIndex?_of_prefix {depth size : Nat} {whole cs : List Char} (hcs : cs <+: whole)
    (h : d.closeIndex? depth whole = some size) (hle : size + d.closing.length ≤ cs.length) :
    d.closeIndex? depth cs = some size := by
  have hpos := d.length_closing_pos
  -- Whatever mark the search passes ends in front of the end it finds, so it fits into the front.
  fun_induction d.closeIndex? depth whole generalizing cs size with
  | case1 => contradiction
  | case2 c rest hc =>
    obtain rfl : 0 = size := by simpa using h
    have hclosing : d.closing <+: cs :=
      List.prefix_of_prefix_length_le (List.isPrefixOf_iff_prefix.1 hc) hcs (by omega)
    rcases hclosing with ⟨tail, rfl⟩
    exact closeIndex?_closing_zero tail
  | case3 c rest hc depth ih =>
    rcases Option.map_eq_some_iff.1 h with ⟨less, hless, rfl⟩
    have hclosing : d.closing <+: cs :=
      List.prefix_of_prefix_length_le (List.isPrefixOf_iff_prefix.1 hc) hcs (by omega)
    have hdrop := ih (hcs.drop d.closing.length) hless (by rw [List.length_drop]; omega)
    rcases hclosing with ⟨tail, rfl⟩
    rw [List.drop_left] at hdrop
    rw [closeIndex?_closing, hdrop, Option.map_some]
  | case4 depth c rest hc hn ih =>
    rcases Option.map_eq_some_iff.1 h with ⟨less, hless, rfl⟩
    -- No closing mark begins in the front where none begins in the whole text.
    have hclosing : ¬d.closing <+: cs := fun hp =>
      hc (List.isPrefixOf_iff_prefix.2 (hp.trans hcs))
    have hnested : d.nested <+: cs :=
      List.prefix_of_prefix_length_le (List.isPrefixOf_iff_prefix.1 hn) hcs (by omega)
    have hdrop := ih (hcs.drop d.nested.length) hless (by rw [List.length_drop]; omega)
    rcases hnested with ⟨tail, rfl⟩
    rw [List.drop_left] at hdrop
    rw [closeIndex?_nested hclosing, hdrop, Option.map_some]
  | case5 depth c rest hc hn ih =>
    rcases Option.map_eq_some_iff.1 h with ⟨less, hless, rfl⟩
    rcases List.prefix_cons_iff.1 hcs with rfl | ⟨tail, rfl, htail⟩
    · rw [List.length_nil] at hle
      omega
    have hclosing : ¬d.closing <+: c :: tail := fun hp =>
      hc (List.isPrefixOf_iff_prefix.2 (hp.trans hcs))
    have hnested : ¬d.nested <+: c :: tail := fun hp =>
      hn (List.isPrefixOf_iff_prefix.2 (hp.trans hcs))
    rw [List.length_cons] at hle
    rw [closeIndex?_plain hclosing hnested, ih htail hless (by omega), Option.map_some]

theorem first?_of_indexOf? (hindex : Text.indexOf? d.opening (before ++ d.written body ++ after) =
      some before.length)
    (hclose : d.closeIndex? 0 (body ++ d.closing ++ after) = some body.length) :
    d.first? (before ++ d.written body ++ after) = some (before, body, after) := by
  have hwhole : before ++ d.written body ++ after =
      before ++ (d.opening ++ (body ++ d.closing ++ after)) := by
    simp only [written, List.append_assoc]
  rw [first?, Text.cutAt?, hindex, Option.map_some, hwhole, List.take_left,
    List.drop_length_add_append, List.drop_left]
  show (d.closeIndex? 0 (body ++ d.closing ++ after)).map _ = _
  rw [hclose, Option.map_some, List.append_assoc, List.take_left, ← List.append_assoc,
    List.drop_left' (List.length_append ..)]

/-- The first placeholder of a text is the first one of a part that holds it. -/
theorem first?_of_append {front back : List Char}
    (h : d.first? (front ++ (before ++ d.written body ++ after) ++ back) =
      some (front ++ before, body, after ++ back)) :
    d.first? (before ++ d.written body ++ after) = some (before, body, after) := by
  rcases first?_eq_some h with ⟨-, hindex, hclose⟩
  apply first?_of_indexOf?
  · rw [List.append_assoc, List.length_append] at hindex
    apply Text.indexOf?_of_append_right (Text.indexOf?_of_append_left hindex)
    simp only [written, List.length_append]
    omega
  · apply closeIndex?_of_prefix _ hclose
    · simp only [List.length_append]
      omega
    · rw [← List.append_assoc]
      exact List.prefix_append _ back

/-- What stands before the first placeholder of a text has none. -/
theorem first?_before {cs : List Char} (h : d.first? cs = some (before, body, after)) :
    d.first? before = none := by
  rcases first?_eq_some h with ⟨rfl, hindex, -⟩
  cases hbefore : Text.indexOf? d.opening before with
  | none =>
    rw [first?, Text.cutAt?, hbefore]
    rfl
  | some i =>
    -- Else the mark would be found there, in front of the placeholder.
    have hle := Text.indexOf?_add_length_le hbefore
    have := d.length_opening_pos
    rw [List.append_assoc, Text.indexOf?_append_of_some hbefore] at hindex
    obtain rfl : i = before.length := Option.some.inj hindex
    omega

end Delimiters

/-! ## 2. Pieces -/

variable {ε : Type}

/-- The literals that a text is put together from where each of its placeholders can be resolved: what
stands between them, and in the place of each the pieces of its value, or else of its default. -/
inductive Pieces (d : Delimiters) (lookup : Lookup ε) : List Char → List (List Char) → Prop
  | rest {cs} (h : d.first? cs = none) : Pieces d lookup cs [cs]
  | placeholder {cs before body after key value source new others}
    (h : d.first? cs = some (before, body, after))
    (hkey : Pieces d lookup (d.split body).1 key) (hvalue : lookup key.flatten = .ok value)
    (hsource : value.or (d.split body).2 = some source) (hnew : Pieces d lookup source new)
    (hafter : Pieces d lookup after others) : Pieces d lookup cs (before :: (new ++ others))

namespace Pieces

variable {d : Delimiters} {lookup : Lookup ε} {cs piece : List Char} {ps ps' : List (List Char)}

theorem first?_eq_none (h : Pieces d lookup cs ps) (hpiece : piece ∈ ps) :
    d.first? piece = none := by
  induction h with
  | rest h => rwa [List.mem_singleton.1 hpiece]
  | placeholder h _ _ _ _ _ _ ihnew ihafter =>
    rcases List.mem_cons.1 hpiece with rfl | hpiece
    · exact Delimiters.first?_before h
    · exact (List.mem_append.1 hpiece).elim ihnew ihafter

/-- A text has only one sequence of pieces. -/
theorem unique (h : Pieces d lookup cs ps) (h' : Pieces d lookup cs ps') : ps = ps' := by
  induction h generalizing ps' with
  | rest h =>
    cases h' with
    | rest _ => rfl
    | placeholder h' =>
      rw [h] at h'
      contradiction
  | placeholder h _ hvalue hsource _ _ ihkey ihnew ihafter =>
    cases h' with
    | rest h' =>
      rw [h] at h'
      contradiction
    | placeholder h' hkey' hvalue' hsource' hnew' hafter' =>
      rw [h] at h'
      obtain ⟨rfl, rfl, rfl⟩ : _ ∧ _ ∧ _ := by simpa using h'
      rw [← ihkey hkey', hvalue] at hvalue'
      obtain rfl := Except.ok.inj hvalue'
      rw [hsource] at hsource'
      obtain rfl := Option.some.inj hsource'
      rw [ihnew hnew', ihafter hafter']

end Pieces

/-- The first placeholder of the joined pieces, if they have one, stands in one of them as a whole. -/
def Seamless (d : Delimiters) (ps : List (List Char)) : Prop :=
  ∀ before body after, d.first? ps.flatten = some (before, body, after) →
    ∃ front piece back, ps = front ++ piece :: back ∧ front.flatten <+: before ∧
      before ++ d.written body <+: front.flatten ++ piece

/-- Without placeholders in them, pieces have one across a seam or none. -/
theorem seamless_iff {d : Delimiters} {ps : List (List Char)}
    (hps : ∀ piece ∈ ps, d.first? piece = none) : Seamless d ps ↔ d.first? ps.flatten = none := by
  refine ⟨fun h => ?_, fun hnone before body after hfirst => nomatch hnone.symm.trans hfirst⟩
  cases hfirst : d.first? ps.flatten with
  | none => rfl
  | some parts =>
    rcases parts with ⟨before, body, after⟩
    rcases h before body after hfirst with ⟨front, piece, back, rfl, ⟨inside, rfl⟩, hwithin⟩
    rw [List.append_assoc] at hwithin
    rcases (List.prefix_append_right_inj _).1 hwithin with ⟨behind, rfl⟩
    have hflatten : (front ++ (inside ++ d.written body ++ behind) :: back).flatten =
        front.flatten ++ (inside ++ d.written body ++ behind) ++ back.flatten := by
      simp only [List.flatten_append, List.flatten_cons, List.append_assoc]
    have hafter : after = behind ++ back.flatten := by
      have hwhole := Delimiters.eq_append_of_first? hfirst
      rw [hflatten] at hwhole
      simp only [List.append_assoc, List.append_cancel_left_eq] at hwhole
      exact hwhole.symm
    -- Then the piece has this placeholder by itself, and first.
    rw [hflatten, hafter] at hfirst
    have hnone := hps (inside ++ d.written body ++ behind) (by simp)
    rw [Delimiters.first?_of_append hfirst] at hnone
    contradiction

/-! ## 3. Results -/

theorem Run.mapM_eq_ok {α β : Type} {f : α → Run ε β} {o : Option α} {o' : Option β}
    (h : (o.mapM f).outcome = .ok o') :
    o = none ∧ o' = none ∨ ∃ a b, o = some a ∧ o' = some b ∧ (f a).outcome = .ok b := by
  cases o with
  | none => exact .inl ⟨rfl, (Except.ok.inj h).symm⟩
  | some a =>
    rw [Option.mapM_some, map_eq_pure_bind] at h
    rcases Run.outcome_bind_cases h with ⟨_, _, h⟩ | ⟨b, hb, h⟩
    · contradiction
    · exact .inr ⟨a, b, rfl, (Except.ok.inj h).symm, hb⟩

namespace Expander

variable {d : Delimiters} {lookup : Lookup ε}

/-- What takes the place of a placeholder is what its value comes to, or else its default. -/
theorem substitute_eq_ok {x : Expander} {inner : List Char → Run ε (List Char)}
    {body key new : List Char}
    (h : (x.substitute lookup inner body).outcome = .ok (key, some new)) :
    (inner (x.delimiters.split body).1).outcome = .ok key ∧ ∃ value source,
      lookup key = .ok value ∧ value.or (x.delimiters.split body).2 = some source ∧
        (inner source).outcome = .ok new := by
  rw [substitute_eq] at h
  rcases Run.outcome_bind_cases h with ⟨_, _, h⟩ | ⟨name, hkey, h⟩
  · contradiction
  rcases Run.outcome_bind_cases h with ⟨_, _, h⟩ | ⟨default, hdefault, h⟩
  · contradiction
  rcases Run.outcome_bind_cases h with ⟨_, _, h⟩ | ⟨value, hvalue, h⟩
  · contradiction
  rcases Run.outcome_bind_cases h with ⟨_, _, h⟩ | ⟨found, hfound, h⟩
  · contradiction
  obtain ⟨rfl, hnew⟩ : name = key ∧ found.or default = some new := by simpa using h
  refine ⟨hkey, value, ?_⟩
  replace hvalue := Run.lookup_of_outcome_ask hvalue
  rcases Run.mapM_eq_ok hfound with ⟨rfl, rfl⟩ | ⟨source, result, rfl, rfl, hresult⟩
  · -- Without a value it is the default that was expanded.
    rcases Run.mapM_eq_ok hdefault with ⟨-, rfl⟩ | ⟨source, result, hsource, rfl, hresult⟩
    · contradiction
    · obtain rfl : result = new := Option.some.inj hnew
      exact ⟨source, hvalue, hsource, hresult⟩
  · obtain rfl : result = new := Option.some.inj hnew
    exact ⟨source, hvalue, rfl, hresult⟩

theorem pieces_of_outcome_read {depth : Nat} {active : List (List Char)} {whole cs r : List Char}
    (hinner : ∀ {active text r}, (expandAt ⟨d, false⟩ lookup depth active text).outcome = .ok r →
      ∃ ps, Pieces d lookup text ps ∧ ps.flatten = r)
    (h : (read ⟨d, false⟩ (settle ⟨d, false⟩ lookup depth active) whole
      (Layout.ofText d cs)).outcome = .ok r) :
    ∃ ps, Pieces d lookup cs ps ∧ ps.flatten = r := by
  fun_induction Layout.ofText d cs generalizing r with
  | case1 cs hfirst =>
    obtain rfl : cs = r := Except.ok.inj h
    exact ⟨[cs], .rest hfirst, List.flatten_singleton⟩
  | case2 cs before body after hfirst ih =>
    rw [outcome_read_placeholder] at h
    rcases Run.except_bind_cases h with ⟨_, _, h⟩ | ⟨⟨key, replacement⟩, hsettled, h⟩
    · contradiction
    rcases Run.except_bind_cases h with ⟨_, _, h⟩ | ⟨new, hfill, h⟩
    · contradiction
    rw [map_eq_pure_bind] at h
    rcases Run.except_bind_cases h with ⟨_, _, h⟩ | ⟨others, hothers, h⟩
    · contradiction
    obtain rfl : before ++ new ++ others = r := Except.ok.inj h
    -- A body that is settled is not active, and a strict expansion goes on only with a replacement.
    have hmem : body ∉ active := by
      intro hmem
      rw [settle_of_mem hmem] at hsettled
      contradiction
    rw [settle_of_notMem hmem] at hsettled
    cases replacement with
    | none => contradiction
    | some replacement =>
      obtain rfl : replacement = new := Except.ok.inj hfill
      rcases substitute_eq_ok hsettled with ⟨hkey, value, source, hvalue, hsource, hnew⟩
      rcases hinner hkey with ⟨keyPieces, hkeyPieces, rfl⟩
      rcases hinner hnew with ⟨newPieces, hnewPieces, rfl⟩
      rcases ih hothers with ⟨otherPieces, hotherPieces, rfl⟩
      refine ⟨_, .placeholder hfirst hkeyPieces hvalue hsource hnewPieces hotherPieces, ?_⟩
      rw [List.flatten_cons, List.flatten_append, List.append_assoc]

/-- The induction is on the depth: the parts of a body are one level deeper. -/
theorem pieces_of_outcome {depth : Nat} {active : List (List Char)} {text r : List Char}
    (h : (expandAt ⟨d, false⟩ lookup depth active text).outcome = .ok r) :
    ∃ ps, Pieces d lookup text ps ∧ ps.flatten = r := by
  induction depth generalizing active text r with
  | zero => contradiction
  | succ depth ih =>
    rw [expandAt_succ] at h
    exact pieces_of_outcome_read ih h

theorem comesTo_self {x : Expander} {text : List Char} (h : x.delimiters.first? text = none) :
    x.ComesTo lookup text (.ok text) := by
  apply comesTo_of_outcome _ (definite_ok text)
  rw [expandAt_succ, Layout.ofText_of_first?_none h]
  rfl

/-- **Results stand.** A strict expansion that succeeds puts the pieces of its text together, and none
of them has a placeholder. So the result has none exactly if none goes across a seam between two pieces, and
then it stays what it is when it is expanded again, strictly or not. -/
theorem resolved_text_stands {values : List (List Char)} {text r : List Char}
    (h : (expand ⟨d, false⟩ values lookup text).outcome = .ok r) :
    ∃ ps, Pieces d lookup text ps ∧ ps.flatten = r ∧ (∀ piece ∈ ps, d.first? piece = none) ∧
      (Seamless d ps ↔ d.first? r = none) ∧
      (Seamless d ps → ∀ lenient, ComesTo ⟨d, lenient⟩ lookup r (.ok r)) := by
  rcases pieces_of_outcome h with ⟨ps, hps, rfl⟩
  have hnone : ∀ piece ∈ ps, d.first? piece = none := fun _ hpiece => hps.first?_eq_none hpiece
  refine ⟨ps, hps, rfl, hnone, seamless_iff hnone, fun hseamless lenient => ?_⟩
  exact comesTo_self ((seamless_iff hnone).1 hseamless)

/-- The address of a service, put together from other keys. -/
def service : Lookup Empty :=
  Lookup.ofTable [("url".toList, "jdbc://$\x7bhost\x7d:$\x7bport:5432\x7d".toList),
    ("host".toList, "db.local".toList)]

/-- The opening mark at the end is never closed. -/
theorem resolved_text_stands_service :
    ((standard false).expand [] service "$\x7burl\x7d/$\x7bx".toList).outcome =
        .ok "jdbc://db.local:5432/$\x7bx".toList ∧
      ∀ lenient, (standard lenient).ComesTo service "jdbc://db.local:5432/$\x7bx".toList
        (.ok "jdbc://db.local:5432/$\x7bx".toList) := by
  have hresult : ((standard false).expand [] service "$\x7burl\x7d/$\x7bx".toList).outcome =
      .ok "jdbc://db.local:5432/$\x7bx".toList := by cbv
  have hnone : Delimiters.standard.first? "jdbc://db.local:5432/$\x7bx".toList = none := by cbv
  rcases resolved_text_stands hresult with ⟨ps, -, -, -, hseamless, hstands⟩
  exact ⟨hresult, hstands (hseamless.2 hnone)⟩

/-- A default and the text behind it make a placeholder, which the next expansion resolves. -/
theorem joined_pieces_are_expanded :
    ((standard false).expand [] service "$\x7bmissing:$\x7d\x7bhost\x7d".toList).outcome =
        .ok "$\x7bhost\x7d".toList ∧
      ∀ lenient, ((standard lenient).expand [] service "$\x7bhost\x7d".toList).outcome =
        .ok "db.local".toList := by
  refine ⟨by cbv, fun lenient => ?_⟩
  cases lenient with
  | false => cbv
  | true => cbv

end Expander

end LayeredConfig.Placeholder
