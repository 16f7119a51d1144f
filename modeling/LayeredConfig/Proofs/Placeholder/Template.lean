import LayeredConfig.Proofs.Placeholder.Layout
import Mathlib.Data.List.Basic

/-!
# Templates — nested placeholders as trees

A template is a sequence of literals and placeholders, and the key and the default of a
placeholder are templates again. The same tree can be written with any marks.
-/

namespace LayeredConfig.Placeholder

/-! ## 1. Trees -/

/-- Where a template stands: directly in a key, or anywhere else. -/
inductive Place where
  | text
  | key
  deriving DecidableEq, Repr

/-- The characters that a literal must not have. -/
def Place.marks : Place → List Char
  | .text => ['$', '\x7b', '\x7d']
  | .key => ['$', '\x7b', '\x7d', ':']

/-- Characters that stand for themselves. -/
structure Literal (p : Place) where
  chars : List Char
  plain : ∀ c ∈ chars, c ∉ p.marks

/-- Literals and placeholders in sequence. -/
inductive Template : Place → Type
  | nil {p : Place} : Template p
  | literal {p : Place} (cs : Literal p) (rest : Template p) : Template p
  | bare {p : Place} (key : Template .key) (rest : Template p) : Template p
  | defaulted {p : Place} (key : Template .key) (default : Template .text) (rest : Template p) :
    Template p

namespace Template

/-- The text of a template. -/
def write {p : Place} : Template p → List Char
  | .nil => []
  | .literal cs rest => cs.chars ++ rest.write
  | .bare key rest => Delimiters.standard.written key.write ++ rest.write
  | .defaulted key default rest =>
    Delimiters.standard.written (key.write ++ ':' :: default.write) ++ rest.write

/-- What a placeholder without a default becomes: its value, or itself where it may stay. -/
def orKept {ε : Type} (lenient : Bool) (whole body key : List Char) :
    Option (List Char) → Except (Failure ε) (List Char)
  | some value => pure value
  | none =>
    if lenient then pure (Delimiters.standard.written body) else throw (.unresolved key whole)

/-- What a template stands for, from left to right. The text `whole` is the one that a placeholder
without a value is reported in. -/
def meaning {ε : Type} (lookup : Lookup ε) (lenient : Bool) {p : Place} (whole : List Char) :
    Template p → Except (Failure ε) (List Char)
  | .nil => pure []
  | .literal cs rest => do
    let others ← rest.meaning lookup lenient whole
    pure (cs.chars ++ others)
  | .bare key rest => do
    let name ← key.meaning lookup lenient key.write
    let value ← (lookup name).mapError .lookup
    let new ← orKept lenient whole key.write name value
    let others ← rest.meaning lookup lenient whole
    pure (new ++ others)
  | .defaulted key default rest => do
    let name ← key.meaning lookup lenient key.write
    let instead ← default.meaning lookup lenient default.write
    let value ← (lookup name).mapError .lookup
    let others ← rest.meaning lookup lenient whole
    pure (value.getD instead ++ others)

end Template

/-! ## 2. Other marks -/

theorem Literal.disjoint {p : Place} (cs : Literal p) {mark : List Char} (h : mark ⊆ p.marks) :
    cs.chars.Disjoint mark :=
  fun c hc hmark => cs.plain c hc (h hmark)

namespace Template

/-- The text of a template with other marks. -/
def writeIn (d : Delimiters) {p : Place} : Template p → List Char
  | .nil => []
  | .literal cs rest => cs.chars ++ rest.writeIn d
  | .bare key rest => d.written (key.writeIn d) ++ rest.writeIn d
  | .defaulted key default rest =>
    d.written (key.writeIn d ++ d.separator.getD [] ++ default.writeIn d) ++ rest.writeIn d

theorem writeIn_standard {p : Place} (t : Template p) : t.writeIn .standard = t.write := by
  induction t with
  | nil => rfl
  | literal cs rest ih => rw [writeIn, write, ih]
  | bare key rest ihkey ih => rw [writeIn, write, ihkey, ih]
  | defaulted key default rest ihkey ihdefault ih =>
    rw [writeIn, write, ihkey, ihdefault, ih]
    simp [Delimiters.standard]

/-- How many placeholders there are in a template, at any depth. -/
def placeholders {p : Place} : Template p → Nat
  | .nil => 0
  | .literal _ rest => rest.placeholders
  | .bare key rest => key.placeholders + 1 + rest.placeholders
  | .defaulted key default rest =>
    key.placeholders + default.placeholders + 1 + rest.placeholders

/-- No placeholder is nested in another one. -/
def Flat {p : Place} : Template p → Prop
  | .nil => True
  | .literal _ rest => rest.Flat
  | .bare key rest => key.placeholders = 0 ∧ rest.Flat
  | .defaulted key default rest =>
    key.placeholders = 0 ∧ default.placeholders = 0 ∧ rest.Flat

theorem flat_of_placeholders_eq_zero {p : Place} {t : Template p} (h : t.placeholders = 0) :
    t.Flat := by
  induction t with
  | nil => trivial
  | literal cs rest ih => exact ih h
  | bare key rest _ _ =>
    rw [placeholders] at h
    omega
  | defaulted key default rest _ _ _ =>
    rw [placeholders] at h
    omega

/-- The literals have none of the characters of the marks; only outside of keys may they have those of
the separator. -/
def Fits (d : Delimiters) {p : Place} : Template p → Prop
  | .nil => True
  | .literal cs rest =>
    (cs.chars.Disjoint d.opening ∧ cs.chars.Disjoint d.closing ∧
      (p = .key → cs.chars.Disjoint (d.separator.getD []))) ∧ rest.Fits d
  | .bare key rest => key.Fits d ∧ rest.Fits d
  | .defaulted key default rest => key.Fits d ∧ default.Fits d ∧ rest.Fits d

theorem fits_standard {p : Place} (t : Template p) : t.Fits .standard := by
  induction t with
  | nil => trivial
  | @literal p cs rest ih =>
    refine ⟨⟨cs.disjoint ?_, cs.disjoint ?_, ?_⟩, ih⟩
    · cases p <;> decide
    · cases p <;> decide
    · rintro rfl
      exact cs.disjoint (by decide)
  | bare key rest ihkey ih => exact ⟨ihkey, ih⟩
  | defaulted key default rest ihkey ihdefault ih => exact ⟨ihkey, ihdefault, ih⟩

end Template

end LayeredConfig.Placeholder
