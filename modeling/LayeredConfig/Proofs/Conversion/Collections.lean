import LayeredConfig.Proofs.Conversion.Standard
import LayeredConfig.Proofs.Text.Split
import LayeredConfig.Proofs.Text.Trim

/-!
# Collections — their texts and what comes back

A delimited text gives its entries back, whatever blanks stand around them and however many blank entries
stand between them (`splitDelimited_padded`). A collection of texts is written as such a text, so it comes
back from it, and a set does so in whatever order its elements are written (`collections_survive_text`).
-/

namespace LayeredConfig

namespace Conversion

open Text (isBlank trim)

/-! ## 1. Entries of delimited texts -/

variable {d : Char} {items pieces : List String}

/-- What can stand between delimiters and be read back: some text without the delimiter and without
blanks at its ends. -/
structure IsEntry (d : Char) (s : String) : Prop where
  ne_empty : s ≠ ""
  trimmed : Text.trimString s = s
  bare : d ∉ s.toList

/-- Blanks other than the delimiter. -/
def IsPadding (d : Char) (s : String) : Prop :=
  ∀ c ∈ s.toList, isBlank c = true ∧ c ≠ d

/-- The pieces of a text with these entries: each entry with padding on both sides, and any number of
pieces that are padding alone. -/
inductive Padded (d : Char) : (items pieces : List String) → Prop where
  | nil : Padded d [] []
  | blank {blank : String} {items pieces : List String} (hblank : IsPadding d blank)
    (h : Padded d items pieces) : Padded d items (blank :: pieces)
  | entry {item before after : String} {items pieces : List String} (hitem : IsEntry d item)
    (hbefore : IsPadding d before) (hafter : IsPadding d after) (h : Padded d items pieces) :
    Padded d (item :: items) ((before ++ item ++ after) :: pieces)

theorem padded_of_entries (h : ∀ item ∈ items, IsEntry d item) : Padded d items items := by
  induction items with
  | nil => exact .nil
  | cons item items ih =>
    obtain ⟨hitem, hitems⟩ := List.forall_mem_cons.1 h
    have hempty : IsPadding d "" := nofun
    simpa using Padded.entry hitem hempty hempty (ih hitems)

theorem IsPadding.bare {s : String} (h : IsPadding d s) : d ∉ s.toList :=
  fun hd => (h d hd).2 rfl

theorem IsPadding.blank {s : String} (h : IsPadding d s) : ∀ c ∈ s.toList, isBlank c = true :=
  fun c hc => (h c hc).1

namespace Padded

theorem bare (h : Padded d items pieces) : ∀ piece ∈ pieces, d ∉ piece.toList := by
  induction h with
  | nil => nofun
  | blank hblank _ ih => exact List.forall_mem_cons.2 ⟨hblank.bare, ih⟩
  | entry hitem hbefore hafter _ ih =>
    refine List.forall_mem_cons.2 ⟨?_, ih⟩
    simp [hbefore.bare, hitem.bare, hafter.bare]

/-- Trimming leaves the entries, and nothing of a blank piece. -/
theorem filter_trim (h : Padded d items pieces) :
    (pieces.map fun piece => trim piece.toList).filter (· ≠ []) = items.map String.toList := by
  induction h with
  | nil => rfl
  | blank hblank _ ih =>
    rw [List.map_cons, Text.trim_eq_nil_iff.2 hblank.blank, List.filter_cons_of_neg (by simp), ih]
  | @entry item before after _ _ hitem hbefore hafter _ ih =>
    have htrim : trim (before ++ item ++ after).toList = item.toList := by
      rw [String.toList_append, String.toList_append, Text.trim_surrounded hbefore.blank hafter.blank]
      simpa [Text.trimString] using congrArg String.toList hitem.trimmed
    rw [List.map_cons, htrim, List.filter_cons_of_pos (by simpa using hitem.ne_empty), ih,
      List.map_cons]

theorem splitChars (h : Padded d items pieces) :
    splitChars [d] ([d].intercalate (pieces.map String.toList)) = items.map String.toList := by
  rw [Conversion.splitChars]
  cases pieces with
  | nil =>
    -- The empty text is cut into one piece, and this is blank.
    cases h
    have hempty : [d].intercalate (([] : List String).map String.toList) = [] := rfl
    rw [hempty, Text.splitOn_of_notMem List.not_mem_nil]
    rfl
  | cons piece pieces =>
    have hbare : ∀ cs ∈ (piece :: pieces).map String.toList, d ∉ cs :=
      List.forall_mem_map.2 h.bare
    rw [Text.splitOn_intercalate hbare (by simp), List.map_map]
    exact h.filter_trim

end Padded

theorem splitDelimited_padded (h : Padded d items pieces) :
    splitDelimited (String.singleton d) ((String.singleton d).intercalate pieces) = .ok items := by
  have hdelimiter : String.singleton d ≠ "" := by simp
  rw [splitDelimited, if_neg hdelimiter, String.toList_intercalate, String.toList_singleton, h.splitChars,
    List.map_map]
  simp

theorem splitCommas_intercalate (h : ∀ item ∈ items, IsEntry ',' item) :
    splitCommas (",".intercalate items) = items := by
  have hcomma : ",".toList = [','] := rfl
  rw [splitCommas, String.toList_intercalate, hcomma, (padded_of_entries h).splitChars, List.map_map]
  simp

/-! ## 2. Texts as elements -/

theorem toTexts_texts (items : List String) : toTexts (items.map .text) = .ok items := by
  induction items with
  | nil => rfl
  | cons item items ih =>
    rw [List.map_cons, toTexts, ih]
    rfl

theorem unhashableItem?_texts (items : List String) :
    Value.unhashableItem? (items.map .text) = none := by
  induction items with
  | nil => rfl
  | cons item items ih =>
    rw [List.map_cons, Value.unhashableItem?, ih]
    rfl

theorem any_same_text (s : String) (items : List String) :
    (items.map Value.text).any (Value.same (.text s)) = decide (s ∈ items) := by
  simp [List.any_map, Function.comp_def, List.any_beq]

theorem distinct_texts (h : items.Nodup) : Value.distinct (items.map .text) = items.map .text := by
  induction items using List.reverseRecOn with
  | nil => rfl
  | append_singleton items last ih =>
    obtain ⟨hitems, -, hlast⟩ := List.nodup_append.1 h
    have hnew : last ∉ items := fun hmem => hlast last hmem last (List.mem_singleton_self last) rfl
    rw [Value.distinct] at ih ⊢
    rw [List.map_append, List.foldl_append, ih hitems, List.map_singleton, List.foldl_cons,
      List.foldl_nil, Value.insertItem, any_same_text, if_neg (by simpa using hnew)]

theorem setItems_texts (h : items.Nodup) : setItems (items.map .text) = .ok (items.map .text) := by
  rw [setItems, unhashableItem?_texts, distinct_texts h]

theorem sameItems_texts (items : List String) :
    Value.sameItems (items.map .text) (items.map .text) = true := by
  induction items with
  | nil => simp [Value.sameItems]
  | cons item items ih =>
    rw [List.map_cons, Value.sameItems, ih]
    simp

theorem subset_texts {others : List String} (h : items ⊆ others) :
    Value.subset (items.map .text) (others.map .text) = true := by
  induction items with
  | nil => simp [Value.subset]
  | cons item items ih =>
    obtain ⟨hitem, hitems⟩ := List.cons_subset.1 h
    rw [List.map_cons, Value.subset, any_same_text, ih hitems]
    simpa using hitem

end Conversion

/-! ## 3. Collections -/

/-- The kinds of collections. -/
inductive Collection where
  | list
  | tuple
  | set
  | frozenset

namespace Collection

def kind : Collection → Kind
  | .list => .list
  | .tuple => .tuple
  | .set => .set
  | .frozenset => .frozenset

/-- The collection of these elements. -/
def ofItems : Collection → List Value → Value
  | .list => .list
  | .tuple => .tuple
  | .set => .set
  | .frozenset => .frozenset

/-- The orders in which a collection with these elements may be run through: those of a list and of a
tuple stand in their order, those of a set, each of them once, in any. -/
def Orders : Collection → (items order : List String) → Prop
  | .list, items, order | .tuple, items, order => order = items
  | .set, items, order | .frozenset, items, order => items.Nodup ∧ order.Perm items

variable {c : Collection} {items order : List String}

theorem convert_str (c : Collection) (order : List String) :
    Registry.standard.convert (c.ofItems (order.map .text)) (.kind .str) =
      .ok (.text (",".intercalate order)) := by
  have hitems := Conversion.toTexts_texts order
  cases c <;>
    · rw [Registry.convert_standard_str]
      simp [ofItems, Conversion.textOf, Value.isNull, Value.isA, Value.kinds, Kind.ancestors,
        Conversion.toText, hitems, bind, Except.bind, pure, Except.pure, Except.map, Except.mapError]

/-- What a text gives for a collection, once its entries are known. -/
theorem convert_text (horders : c.Orders items order) {s : String}
    (hs : Conversion.splitCommas s = order) :
    Registry.standard.convert (.text s) (.kind c.kind) = .ok (c.ofItems (order.map .text)) := by
  have hitems : Conversion.itemsOf (.text s) = order.map .text := congrArg (List.map Value.text) hs
  have hhanded : Conversion.handedTo c.kind (.text s) = .list (order.map .text) := by
    cases c <;> exact congrArg Value.list hitems
  cases c with
  | list | tuple =>
    rw [kind] at hhanded ⊢
    rw [Registry.convert_eq_handed rfl (by decide) rfl rfl, Registry.handed_of_alone rfl, hhanded]
    rfl
  | set | frozenset =>
    have hnodup : order.Nodup := horders.2.nodup_iff.2 horders.1
    have hset : Registry.elementSet (.list (order.map .text)) = .ok (order.map .text) :=
      Conversion.setItems_texts hnodup
    rw [kind] at hhanded ⊢
    rw [Registry.convert_eq_handed rfl (by decide) rfl rfl, Registry.handed_of_alone rfl, hhanded, hset]
    rfl

/-- The elements make the same collection in every order. -/
theorem same_ofItems (horders : c.Orders items order) :
    (c.ofItems (order.map .text)).same (c.ofItems (items.map .text)) = true := by
  cases c with
  | list | tuple =>
    obtain rfl : order = items := horders
    simp [ofItems, Value.same, Value.plain, Conversion.sameItems_texts]
  | set | frozenset =>
    obtain ⟨-, hperm⟩ := horders
    simp [ofItems, Value.same, Value.plain, Conversion.subset_texts hperm.subset, hperm.length_eq]

end Collection

namespace Registry

open Conversion (IsEntry Padded splitDelimited)

/-- A collection of entries without commas comes back from its text, in whatever order it is written, and
in general a text delimited by any character gives its entries back, whatever padding stands around and
between them. -/
theorem collections_survive_text :
    (∀ (c : Collection) (items order : List String), (∀ item ∈ items, IsEntry ',' item) →
      c.Orders items order →
        ∃ s w, standard.convert (c.ofItems (order.map .text)) (.kind .str) = .ok (.text s) ∧
          standard.convert (.text s) (.kind c.kind) = .ok w ∧
          w.same (c.ofItems (items.map .text)) = true) ∧
      ∀ (d : Char) (items pieces : List String), Padded d items pieces →
        splitDelimited (String.singleton d) ((String.singleton d).intercalate pieces) = .ok items := by
  refine ⟨fun c items order hentries horders => ?_, fun _ _ _ => Conversion.splitDelimited_padded⟩
  have hperm : order.Perm items := by
    cases c with
    | list | tuple => exact .of_eq horders
    | set | frozenset => exact horders.2
  have hsplit : Conversion.splitCommas (",".intercalate order) = order :=
    Conversion.splitCommas_intercalate fun item hitem => hentries item (hperm.mem_iff.1 hitem)
  exact ⟨_, _, c.convert_str order, Collection.convert_text horders hsplit,
    Collection.same_ofItems horders⟩

theorem collections_survive_text_mixed :
    (∃ s w, standard.convert (.frozenset [.text "c", .text "a b"]) (.kind .str) = .ok (.text s) ∧
      standard.convert (.text s) (.kind .frozenset) = .ok w ∧
      w.same (.frozenset [.text "a b", .text "c"]) = true) ∧
      splitDelimited ";" " ; a, b\t;;" = .ok ["a, b"] := by
  have hfirst : IsEntry ',' "a b" := ⟨by decide, by decide, by decide⟩
  have hsecond : IsEntry ',' "c" := ⟨by decide, by decide, by decide⟩
  have hinner : IsEntry ';' "a, b" := ⟨by decide, by decide, by decide⟩
  have hspace : Conversion.IsPadding ';' " " := by simp [Conversion.IsPadding, Text.isBlank]
  have htab : Conversion.IsPadding ';' "\t" := by simp [Conversion.IsPadding, Text.isBlank]
  have hempty : Conversion.IsPadding ';' "" := nofun
  refine ⟨collections_survive_text.1 .frozenset ["a b", "c"] ["c", "a b"] ?_ ?_,
    collections_survive_text.2 ';' ["a, b"] [" ", " a, b\t", "", ""]
      (.blank hspace (.entry hinner hspace htab (.blank hempty (.blank hempty .nil))))⟩
  · simp [hfirst, hsecond]
  · exact ⟨by decide, .swap _ _ _⟩

end Registry

end LayeredConfig
