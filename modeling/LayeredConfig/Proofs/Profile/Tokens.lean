import LayeredConfig.Profile.Token
import LayeredConfig.Proofs.Text.Trim

/-!
# Tokens — what a text is scanned to

Every name that scanning finds is trimmed and free of marks (`isName_of_mem_scan`). What a text is
scanned to does not depend on what surrounds it, as long as a name may end behind it (`Scans`), so
the tokens of a text can be put together from the tokens of its parts.
-/

namespace LayeredConfig.Profile

/-! ## 1. Names -/

/-- A text that can stand as a name: it is not empty, has no blanks at its ends and no marks. -/
structure IsName (cs : List Char) : Prop where
  ne_nil : cs ≠ []
  trim_eq : Text.trim cs = cs
  plain : ∀ c ∈ cs, c ∉ ['(', ')', '&', '|', '!']

theorem isName_iff {cs : List Char} :
    IsName cs ↔
      cs ≠ [] ∧ Text.trim cs = cs ∧ cs.all (· ∉ ['(', ')', '&', '|', '!']) = true := by
  simp only [List.all_eq_true, decide_eq_true_eq]
  exact ⟨fun h => ⟨h.ne_nil, h.trim_eq, h.plain⟩, fun ⟨hne, htrim, hplain⟩ => ⟨hne, htrim, hplain⟩⟩

instance (cs : List Char) : Decidable (IsName cs) :=
  decidable_of_iff _ isName_iff.symm

namespace Token

theorem ofMark?_eq_none_iff {c : Char} :
    ofMark? c = none ↔ c ∉ ['(', ')', '&', '|', '!'] := by
  unfold ofMark?
  grind

theorem ofMark?_of_blank {c : Char} (h : Text.isBlank c = true) : ofMark? c = none := by
  have hmarks : ['(', ')', '&', '|', '!'].all (!Text.isBlank ·) = true := by decide
  rw [ofMark?_eq_none_iff]
  intro hmark
  have hplain := List.all_eq_true.1 hmarks c hmark
  rw [h] at hplain
  contradiction

theorem ofMark?_ne_name (c : Char) (cs : List Char) : ofMark? c ≠ some (.name cs) := by
  unfold ofMark?
  grind

/-- What stands between two marks has at most one name in it, and that is a proper one. -/
theorem ofGap_cases {gap : List Char} (h : ∀ c ∈ gap, ofMark? c = none) :
    ofGap gap = [] ∨ ∃ cs, ofGap gap = [.name cs] ∧ IsName cs := by
  unfold ofGap
  split
  next => exact .inl rfl
  next cs hne =>
    refine .inr ⟨Text.trim gap, rfl, hne, Text.trim_trim gap, fun c hc => ?_⟩
    exact ofMark?_eq_none_iff.1 (h c (Text.mem_of_mem_trim hc))

theorem ofGap_of_isName {cs : List Char} (h : IsName cs) : ofGap cs = [.name cs] := by
  unfold ofGap
  rw [h.trim_eq]
  split
  next => exact absurd rfl h.ne_nil
  next => rfl

theorem isName_of_mem_scanFrom {gap cs name : List Char} (hgap : ∀ c ∈ gap, ofMark? c = none)
    (h : .name name ∈ scanFrom gap cs) : IsName name := by
  have hofGap : ∀ {gap}, (∀ c ∈ gap, ofMark? c = none) → .name name ∈ ofGap gap →
      IsName name := by
    intro gap hgap h
    rcases ofGap_cases hgap with hnone | ⟨cs, hname, hcs⟩
    · rw [hnone] at h
      contradiction
    · rw [hname] at h
      obtain rfl : name = cs := by simpa using h
      exact hcs
  -- On the characters still to come; the gap before them has no mark in it.
  induction cs generalizing gap with
  | nil => exact hofGap hgap h
  | cons c cs ih =>
    rw [scanFrom] at h
    split at h
    next mark hmark =>
      rcases List.mem_append.1 h with h | h
      · exact hofGap hgap h
      · rcases List.mem_cons.1 h with h | h
        · exact absurd (h ▸ hmark) (ofMark?_ne_name c name)
        · exact ih (fun _ hc => absurd hc List.not_mem_nil) h
    next hnone =>
      refine ih (fun x hx => ?_) h
      rcases List.mem_append.1 hx with hx | hx
      · exact hgap x hx
      · rwa [List.mem_singleton.1 hx]

theorem isName_of_mem_scan {cs name : List Char} (h : .name name ∈ scan cs) : IsName name :=
  isName_of_mem_scanFrom (fun _ hc => absurd hc List.not_mem_nil) h

/-! ## 2. Parts of a text -/

theorem scanFrom_mark {c : Char} {mark : Token} (h : ofMark? c = some mark)
    (gap cs : List Char) : scanFrom gap (c :: cs) = ofGap gap ++ mark :: scanFrom [] cs := by
  rw [scanFrom, h]

theorem scanFrom_plain {c : Char} (h : ofMark? c = none) (gap cs : List Char) :
    scanFrom gap (c :: cs) = scanFrom (gap ++ [c]) cs := by
  rw [scanFrom, h]

/-- Blanks in front of a name do not count. -/
theorem scanFrom_cons_of_blank {c : Char} (h : Text.isBlank c = true) (gap cs : List Char) :
    scanFrom (c :: gap) cs = scanFrom gap cs := by
  have hgap : ∀ gap, ofGap (c :: gap) = ofGap gap := by
    intro gap
    rw [ofGap, Text.trim_cons_of_blank h, ofGap]
  induction cs generalizing gap with
  | nil => exact hgap gap
  | cons first cs ih =>
    cases hmark : ofMark? first with
    | some mark => rw [scanFrom_mark hmark, scanFrom_mark hmark, hgap]
    | none => rw [scanFrom_plain hmark, scanFrom_plain hmark, List.cons_append, ih]

theorem scanFrom_blank {c : Char} (h : Text.isBlank c = true) (cs : List Char) :
    scanFrom [] (c :: cs) = scanFrom [] cs := by
  rw [scanFrom_plain (ofMark?_of_blank h), List.nil_append, scanFrom_cons_of_blank h]

theorem scan_of_blank {cs : List Char} (h : ∀ c ∈ cs, Text.isBlank c = true) : scan cs = [] := by
  induction cs with
  | nil => rfl
  | cons c cs ih =>
    rw [scan, scanFrom_blank (h c List.mem_cons_self)]
    exact ih fun x hx => h x (List.mem_cons_of_mem c hx)

/-- Whether a name ends in front of a text: only blanks come before the next mark or the end. -/
def endsName : List Char → Bool
  | [] => true
  | c :: cs => (ofMark? c).isSome || (Text.isBlank c && endsName cs)

theorem endsName_mark {c : Char} {mark : Token} (h : ofMark? c = some mark) (cs : List Char) :
    endsName (c :: cs) = true := by
  rw [endsName, h, Option.isSome_some, Bool.true_or]

theorem endsName_blank {c : Char} {cs : List Char} (h : Text.isBlank c = true)
    (hcs : endsName cs = true) : endsName (c :: cs) = true := by
  rw [endsName, h, hcs, Bool.true_and, Bool.or_true]

theorem scanFrom_of_endsName {gap cs : List Char} (h : endsName cs = true) :
    scanFrom gap cs = ofGap gap ++ scanFrom [] cs := by
  induction cs generalizing gap with
  | nil => exact (List.append_nil _).symm
  | cons c cs ih =>
    cases hmark : ofMark? c with
    | some mark => rw [scanFrom_mark hmark, scanFrom_mark hmark]; rfl
    | none =>
      obtain ⟨hblank, hcs⟩ : Text.isBlank c = true ∧ endsName cs = true := by
        simpa [endsName, hmark] using h
      -- The blank joins the gap here and is skipped there, and trimming makes up for it.
      rw [scanFrom_plain hmark, ih hcs, scanFrom_blank hblank, ofGap, ofGap,
        Text.trim_append_of_blank hblank]

/-- The text is scanned to these tokens wherever a name may end behind it. -/
def Scans (cs : List Char) (ts : List Token) : Prop :=
  ∀ rest, endsName rest = true → scanFrom [] (cs ++ rest) = ts ++ scanFrom [] rest

namespace Scans

variable {front back : List Char} {ts us : List Token}

theorem scan_eq (h : Scans front ts) : scan front = ts := by
  have hnil : scanFrom [] [] = [] := rfl
  have hscan := h [] rfl
  rwa [List.append_nil, hnil, List.append_nil] at hscan

theorem nil : Scans [] [] := fun _ _ => rfl

theorem mark {c : Char} {t : Token} (hc : ofMark? c = some t) (h : Scans back us) :
    Scans (c :: back) (t :: us) := by
  intro rest hrest
  rw [List.cons_append, scanFrom_mark hc, h rest hrest]
  rfl

theorem blank {c : Char} (hc : Text.isBlank c = true) (h : Scans back us) :
    Scans (c :: back) us := by
  intro rest hrest
  rw [List.cons_append, scanFrom_blank hc, h rest hrest]

theorem append (hfront : Scans front ts) (hback : Scans back us)
    (hends : ∀ rest, endsName rest = true → endsName (back ++ rest) = true) :
    Scans (front ++ back) (ts ++ us) := by
  intro rest hrest
  rw [List.append_assoc, hfront _ (hends rest hrest), hback rest hrest, List.append_assoc]

theorem name {cs : List Char} (h : IsName cs) : Scans cs [.name cs] := by
  intro rest hrest
  -- Without a mark in it the name goes into the gap as a whole.
  have hplain : ∀ gap front, (∀ c ∈ front, ofMark? c = none) →
      scanFrom gap (front ++ rest) = scanFrom (gap ++ front) rest := by
    intro gap front hfront
    induction front generalizing gap with
    | nil => rw [List.nil_append, List.append_nil]
    | cons c front ih =>
      rw [List.cons_append, scanFrom_plain (hfront c List.mem_cons_self),
        ih _ fun x hx => hfront x (List.mem_cons_of_mem c hx), List.append_assoc]
      rfl
  rw [hplain [] cs fun c hc => ofMark?_eq_none_iff.2 (h.plain c hc), List.nil_append,
    scanFrom_of_endsName hrest, ofGap_of_isName h]

end Scans

end Token

end LayeredConfig.Profile
