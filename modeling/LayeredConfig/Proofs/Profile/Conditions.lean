import LayeredConfig.Proofs.Profile.Acceptance
import LayeredConfig.Proofs.Profile.Evaluation

/-!
# Conditions — expressions that are read together

Expressions are read in order before anything else is done. A condition has their trees if each of
them is one (`ofExpressions_of_derived`), and else the first that is none is refused
(`ofExpressions_of_rejected`).
-/

namespace LayeredConfig.Profile

/-- All succeed exactly if each does, and then the results are theirs. -/
theorem mapM_eq_ok_iff {ε α β : Type} {f : α → Except ε β} {xs : List α} {ys : List β} :
    xs.mapM f = .ok ys ↔ List.Forall₂ (fun x y => f x = .ok y) xs ys := by
  induction xs generalizing ys with
  | nil => cases ys <;> simp [pure, Except.pure]
  | cons x xs ih =>
    rw [List.mapM_cons]
    cases hfirst : f x with
    | error e => simp [hfirst, bind, Except.bind, List.forall₂_cons_left_iff]
    | ok y =>
      cases hrest : xs.mapM f with
      | error e => simp [hfirst, hrest, bind, Except.bind, List.forall₂_cons_left_iff, ← ih]
      | ok rest =>
        simp [hfirst, hrest, bind, Except.bind, pure, Except.pure, List.forall₂_cons_left_iff,
          ← ih, eq_comm]

/-- The grammar derives the tokens of a text, with this tree. -/
def Derives (text : String) (tree : Expr) : Prop :=
  Grammar.Expression (Token.scan text.toList) tree

theorem Expr.anyHolds_eq_any (isActive : List Char → Bool) (trees : List Expr) :
    anyHolds isActive trees = trees.any (holds isActive) := by
  induction trees with
  | nil => rfl
  | cons tree trees ih => rw [anyHolds, List.any_cons, ih]

namespace Condition

variable {texts : List String} {trees : List Expr}

theorem treeOf_of_derived {text : String} {tree : Expr} (h : Derives text tree) :
    treeOf (.text text) = .ok (text, tree) :=
  treeOf_eq_ok_iff.2 ⟨rfl, parse_eq_ok_iff.2 h⟩

theorem over_of_treeOf {v : Value} {entry : String × Expr} (h : treeOf v = .ok entry) :
    entry.2.Over IsProfileName := by
  rw [treeOf] at h
  cases hplain : v.plain with
  | text s =>
    rw [hplain] at h
    cases hparse : parse s.toList with
    | ok e =>
      simp only [hparse] at h
      cases h
      exact (Expr.wellFormed_of_parse hparse).over
    | error reason =>
      simp only [hparse] at h
      split at h <;> cases h
  | _ =>
    rw [hplain] at h
    dsimp only at h
    split at h <;> cases h

/-- Trees that were read have profile names at their leaves. -/
theorem over_of_ofExpressions {vs : List Value} {c : Condition} (h : ofExpressions vs = .ok c) :
    ∀ tree ∈ c.trees, tree.Over IsProfileName := by
  rw [ofExpressions] at h
  split at h
  next => contradiction
  next =>
    cases hread : vs.mapM treeOf with
    | error e =>
      rw [hread] at h
      contradiction
    | ok read =>
      rw [hread] at h
      cases h
      intro tree htree
      obtain ⟨entry, hentry, rfl⟩ := List.mem_map.1 htree
      have hall := mapM_eq_ok_iff.1 hread
      obtain ⟨i, hi, rfl⟩ := List.mem_iff_getElem.1 hentry
      exact over_of_treeOf (hall.get (hall.length_eq.symm ▸ hi) hi)

theorem mapM_of_derived (h : List.Forall₂ Derives texts trees) :
    (texts.map Value.text).mapM treeOf = .ok (texts.zip trees) := by
  induction h with
  | nil => rfl
  | cons hfirst _ ih =>
    rw [List.map_cons, List.mapM_cons, treeOf_of_derived hfirst, ih]
    rfl

theorem ofExpressions_of_derived (hne : texts ≠ []) (h : List.Forall₂ Derives texts trees) :
    ofExpressions (texts.map .text) = .ok ⟨texts, trees⟩ := by
  have hsome : ¬(texts.map Value.text).isEmpty = true := by simpa using hne
  rw [ofExpressions, if_neg hsome, mapM_of_derived h]
  show Except.ok (⟨(texts.zip trees).map Prod.fst, (texts.zip trees).map Prod.snd⟩ : Condition) = _
  rw [List.map_fst_zip h.length_eq.le, List.map_snd_zip h.length_eq.ge]

/-- The first text that the grammar does not derive is the one that is refused. -/
theorem ofExpressions_of_rejected {s : String} (h : List.Forall₂ Derives texts trees)
    (hs : ∀ tree, ¬Derives s tree) (after : List String) :
    ∃ reason, ofExpressions ((texts ++ s :: after).map .text) =
      .error (.malformedExpression s reason) := by
  obtain ⟨reason, hreason⟩ := (accepts_exactly_grammar s).2.1 hs
  refine ⟨reason, ?_⟩
  have hsome : ¬((texts ++ s :: after).map Value.text).isEmpty = true := by simp
  rw [ofExpressions, if_neg hsome, List.map_append, List.mapM_append, mapM_of_derived h,
    List.map_cons, List.mapM_cons, hreason]
  rfl

theorem exists_first_rejected (h : ∃ s ∈ texts, ∀ tree, ¬Derives s tree) :
    ∃ before trees s after, texts = before ++ s :: after ∧ List.Forall₂ Derives before trees ∧
      ∀ tree, ¬Derives s tree := by
  induction texts with
  | nil =>
    obtain ⟨s, hs, -⟩ := h
    exact absurd hs List.not_mem_nil
  | cons first rest ih =>
    by_cases hfirst : ∃ tree, Derives first tree
    · obtain ⟨tree, htree⟩ := hfirst
      obtain ⟨s, hs, hrejected⟩ := h
      have hrest : s ∈ rest := by
        rcases List.mem_cons.1 hs with rfl | hrest
        · exact absurd htree (hrejected tree)
        · exact hrest
      obtain ⟨before, trees, s, after, rfl, hbefore, hs⟩ := ih ⟨s, hrest, hrejected⟩
      exact ⟨first :: before, tree :: trees, s, after, rfl, .cons htree hbefore, hs⟩
    · exact ⟨[], [], first, rest, rfl, .nil, not_exists.1 hfirst⟩

end Condition

end LayeredConfig.Profile
