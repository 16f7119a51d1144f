import LayeredConfig.Document.Load
import Mathlib.Data.List.Basic

/-!
# Names — keys that can be written

The keys of JSON and TOML documents are texts, which can always be written (`hasNames_of_read`). A key in
a YAML document can be an integer with more digits than are written.
-/

namespace LayeredConfig

namespace Document

theorem hasNames_iff {entries : List (Value × Value)} :
    hasNames entries = true ↔
      ∀ entry ∈ entries, entry.1.text?.isSome = true ∧ hasNamesInside entry.2 = true := by
  induction entries with
  | nil => simp [hasNames]
  | cons entry rest ih =>
    obtain ⟨key, v⟩ := entry
    simp only [hasNames, Bool.and_eq_true, List.forall_mem_cons, ih]

theorem hasNames_putEntry {entries : List (Value × Value)} {key v : Value}
    (h : hasNames entries = true) (hkey : key.text?.isSome = true) (hv : hasNamesInside v = true) :
    hasNames (Value.putEntry entries key v) = true := by
  rw [hasNames_iff] at h ⊢
  intro entry hentry
  unfold Value.putEntry at hentry
  split at hentry
  next =>
    obtain ⟨old, hold, rfl⟩ := List.mem_map.1 hentry
    -- The key that is there stays, and only the value is another one.
    dsimp only
    split
    next => exact ⟨(h old hold).1, hv⟩
    next => exact h old hold
  next =>
    rcases List.mem_append.1 hentry with hold | hnew
    · exact h entry hold
    · rw [List.mem_singleton.1 hnew]
      exact ⟨hkey, hv⟩

theorem hasNamesInside_ofEntries {entries : List (Value × Value)} (h : hasNames entries = true) :
    hasNamesInside (Value.ofEntries entries) = true := by
  have hfold (before : List (Value × Value)) (hbefore : hasNames before = true) :
      hasNames (entries.foldl (fun acc entry => Value.putEntry acc entry.1 entry.2) before) = true := by
    rw [hasNames_iff] at h
    induction entries generalizing before with
    | nil => exact hbefore
    | cons entry rest ih =>
      obtain ⟨hentry, hrest⟩ := List.forall_mem_cons.1 h
      exact ih hrest _ (hasNames_putEntry hbefore hentry.1 hentry.2)
  exact hfold [] rfl

end Document

open Document (hasNames hasNamesInside hasNames_iff hasNamesInside_ofEntries)

/-! ## 1. JSON -/

namespace Json

theorem hasNamesInside_of_takeWord? {cs rest : List Char} {v : Value}
    (h : takeWord? cs = some (v, rest)) : hasNamesInside v = true := by
  obtain ⟨⟨word, w⟩, hmem, hword⟩ := List.exists_of_findSome?_eq_some h
  obtain ⟨after, -, hafter⟩ := Option.map_eq_some_iff.1 hword
  obtain ⟨rfl, rfl⟩ := Prod.mk.inj hafter
  have hall : ∀ entry ∈ words, hasNamesInside entry.2 = true := by decide
  exact hall _ hmem

theorem hasNamesInside_of_takeNumber? {cs rest : List Char} {v : Value}
    (h : takeNumber? cs = some (v, rest)) : hasNamesInside v = true := by
  unfold takeNumber? at h
  obtain ⟨_, -, h⟩ := Option.bind_eq_some_iff.1 h
  dsimp only at h
  split at h
  next =>
    split at h
    next => cases h; rfl
    next => cases h
  next =>
    obtain ⟨_, -, h⟩ := Option.bind_eq_some_iff.1 h
    cases h
    rfl

theorem hasNames_of_takes (fuel : Nat) :
    (∀ {cs v rest}, takeValue? fuel cs = some (v, rest) → hasNamesInside v = true) ∧
      ∀ {cs entries rest}, takeEntries? fuel cs = some (entries, rest) → hasNames entries = true := by
  induction fuel with
  | zero => exact ⟨nofun, nofun⟩
  | succ fuel ih =>
    obtain ⟨ihvalue, ihentries⟩ := ih
    constructor
    · intro cs v rest h
      unfold takeValue? at h
      split at h
      next =>
        obtain ⟨_, -, h⟩ := Option.bind_eq_some_iff.1 h
        cases h
        rfl
      next =>
        split at h
        next => cases h; rfl
        next =>
          obtain ⟨_, hentries, h⟩ := Option.bind_eq_some_iff.1 h
          cases h
          exact hasNamesInside_ofEntries (ihentries hentries)
      next =>
        split at h
        next => cases h; rfl
        next =>
          obtain ⟨_, -, h⟩ := Option.bind_eq_some_iff.1 h
          cases h
          rfl
      next =>
        rcases Option.or_eq_some_iff.1 h with h | ⟨-, h⟩
        · exact hasNamesInside_of_takeWord? h
        · exact hasNamesInside_of_takeNumber? h
    · intro cs entries rest h
      unfold takeEntries? at h
      split at h
      next =>
        obtain ⟨⟨name, rest⟩, -, h⟩ := Option.bind_eq_some_iff.1 h
        dsimp only at h
        split at h
        next =>
          obtain ⟨⟨v, rest⟩, hv, h⟩ := Option.bind_eq_some_iff.1 h
          have hentry : (Value.text (String.ofList name)).text?.isSome = true ∧
              hasNamesInside v = true := ⟨rfl, ihvalue hv⟩
          dsimp only at h
          split at h
          next =>
            cases h
            exact hasNames_iff.2 (List.forall_mem_singleton.2 hentry)
          next =>
            obtain ⟨_, hothers, h⟩ := Option.bind_eq_some_iff.1 h
            cases h
            exact hasNames_iff.2 (List.forall_mem_cons.2 ⟨hentry, hasNames_iff.1 (ihentries hothers)⟩)
          next => cases h
        next => cases h
      next => cases h

theorem hasNamesInside_of_read? {bytes : List UInt8} {v : Value} (h : read? bytes = some v) :
    hasNamesInside v = true := by
  obtain ⟨cs, -, h⟩ := Option.bind_eq_some_iff.1 h
  obtain ⟨_, hv, h⟩ := Option.bind_eq_some_iff.1 h
  dsimp only at h
  split at h
  next =>
    cases h
    exact (hasNames_of_takes _).1 hv
  next => cases h

end Json

/-! ## 2. TOML -/

namespace Toml

/-- All keys inside the nodes of a table can be written. -/
def Named (t : Table) : Prop :=
  ∀ entry ∈ t, hasNamesInside entry.2.toValue = true

theorem named_nil : Named [] := nofun

variable {t t' : Table} {key : String} {node : Node}

theorem hasNames_entryValues : hasNames (entryValues t) = true ↔ Named t := by
  induction t with
  | nil => exact ⟨fun _ => named_nil, fun _ => rfl⟩
  | cons entry rest ih =>
    obtain ⟨key, node⟩ := entry
    rw [Named, List.forall_mem_cons, ← Named, ← ih, entryValues, hasNames, Value.text?]
    simp

theorem named_append (h : Named t) (hnode : hasNamesInside node.toValue = true) :
    Named (t ++ [(key, node)]) := by
  intro entry hentry
  rcases List.mem_append.1 hentry with hold | hnew
  · exact h entry hold
  · rw [List.mem_singleton.1 hnew]
    exact hnode

theorem named_setEntry (h : Named t) (hnode : hasNamesInside node.toValue = true) :
    Named (setEntry t key node) := by
  intro entry hentry
  obtain ⟨old, hold, rfl⟩ := List.mem_map.1 hentry
  dsimp only
  split
  next => exact hnode
  next => exact h old hold

theorem named_of_lookup {inner : Table} (h : Named t) (hlookup : t.lookup key = some (.table inner)) :
    Named inner := by
  have hmem : (key, Node.table inner) ∈ t := by
    obtain ⟨before, after, rfl, -⟩ := List.lookup_eq_some_iff.1 hlookup
    simp
  exact hasNames_entryValues.1 (h _ hmem)

/-- A change at the end of a path can only bring in what the change itself does. -/
theorem named_of_changeAt? {arrays : Bool} {change : Table → Option Table}
    (hchange : ∀ {t t'}, change t = some t' → Named t → Named t') {path : List String}
    (h : changeAt? arrays change path t = some t') (ht : Named t) : Named t' := by
  induction path generalizing t t' with
  | nil => exact hchange h ht
  | cons key path ih =>
    unfold changeAt? at h
    split at h
    next =>
      obtain ⟨new, hnew, rfl⟩ := Option.map_eq_some_iff.1 h
      exact named_append ht (hasNames_entryValues.2 (ih hnew named_nil))
    next inner hlookup =>
      obtain ⟨new, hnew, rfl⟩ := Option.map_eq_some_iff.1 h
      exact named_setEntry ht (hasNames_entryValues.2 (ih hnew (named_of_lookup ht hlookup)))
    next =>
      -- Tables in lists are not looked into.
      split at h
      next =>
        obtain ⟨new, -, rfl⟩ := Option.map_eq_some_iff.1 h
        exact named_setEntry ht rfl
      next => cases h
    next => cases h

theorem named_of_addNew? (hnode : hasNamesInside node.toValue = true)
    (h : addNew? key node t = some t') (ht : Named t) : Named t' := by
  unfold addNew? at h
  split at h
  next => cases h
  next =>
    cases h
    exact named_append ht hnode

theorem named_of_addToArray? (h : addToArray? key t = some t') (ht : Named t) : Named t' := by
  unfold addToArray? at h
  split at h
  next =>
    cases h
    exact named_append ht rfl
  next =>
    cases h
    exact named_setEntry ht rfl
  next => cases h

theorem hasNamesInside_of_takeNumber? {cs rest : List Char} {v : Value}
    (h : takeNumber? cs = some (v, rest)) : hasNamesInside v = true := by
  have hnumber {text : List Char} {isFloat : Bool} {v : Value} (h : numberOf? text isFloat = some v) :
      hasNamesInside v = true := by
    unfold numberOf? at h
    split at h
    next =>
      obtain ⟨x, -, rfl⟩ := Option.map_eq_some_iff.1 h
      rfl
    next =>
      split at h
      next => cases h; rfl
      next => cases h
  unfold takeNumber? at h
  split at h
  next =>
    obtain ⟨v, hv, hfound⟩ := Option.map_eq_some_iff.1 h
    cases hfound
    exact hnumber hv
  next =>
    split at h
    next =>
      obtain ⟨v, hv, hfound⟩ := Option.map_eq_some_iff.1 h
      cases hfound
      exact hnumber hv
    next =>
      unfold takeSpecial? at h
      dsimp only at h
      split at h
      next =>
        obtain ⟨x, -, h⟩ := Option.bind_eq_some_iff.1 h
        cases h
        rfl
      next => cases h

theorem named_of_takes (fuel : Nat) :
    (∀ {cs node rest}, takeValue? fuel cs = some (node, rest) →
        hasNamesInside node.toValue = true) ∧
      ∀ {marks t cs t' rest}, takePairs? fuel marks t cs = some (t', rest) → Named t → Named t' := by
  induction fuel with
  | zero => exact ⟨nofun, nofun⟩
  | succ fuel ih =>
    obtain ⟨ihvalue, ihpairs⟩ := ih
    constructor
    · intro cs node rest h
      unfold takeValue? at h
      split at h
      next => cases h
      next =>
        obtain ⟨start, -, h⟩ := Option.bind_eq_some_iff.1 h
        split at h
        next => cases h; rfl
        next =>
          obtain ⟨_, -, h⟩ := Option.bind_eq_some_iff.1 h
          cases h
          rfl
      next =>
        split at h
        next => cases h; rfl
        next =>
          obtain ⟨_, hpairs, h⟩ := Option.bind_eq_some_iff.1 h
          cases h
          exact hasNames_entryValues.2 (ihpairs hpairs named_nil)
      next =>
        split at h
        next =>
          obtain ⟨_, -, hfound⟩ := Option.map_eq_some_iff.1 h
          cases hfound
          rfl
        next =>
          split at h
          next => cases h; rfl
          next => cases h; rfl
          next =>
            split at h
            next =>
              obtain ⟨_, -, hfound⟩ := Option.map_eq_some_iff.1 h
              cases hfound
              rfl
            next =>
              obtain ⟨_, hnumber, hfound⟩ := Option.map_eq_some_iff.1 h
              cases hfound
              exact hasNamesInside_of_takeNumber? hnumber
    · intro marks t cs t' rest h ht
      unfold takePairs? at h
      obtain ⟨_, -, h⟩ := Option.bind_eq_some_iff.1 h
      dsimp only at h
      split at h
      next =>
        obtain ⟨⟨node, _⟩, hnode, h⟩ := Option.bind_eq_some_iff.1 h
        dsimp only at h
        split at h
        next => cases h
        next =>
          obtain ⟨t₁, hchange, h⟩ := Option.bind_eq_some_iff.1 h
          have ht₁ := named_of_changeAt? (named_of_addNew? (ihvalue hnode)) hchange ht
          split at h
          next =>
            cases h
            exact ht₁
          next => exact ihpairs h ht₁
          next => cases h
      next => cases h

section Lines

variable {p p' : Progress} {cs rest : List Char}

theorem named_of_takePair? (h : takePair? p cs = some (p', rest)) (hp : Named p.table) :
    Named p'.table := by
  unfold takePair? at h
  obtain ⟨_, -, h⟩ := Option.bind_eq_some_iff.1 h
  dsimp only at h
  split at h
  next =>
    obtain ⟨⟨node, _⟩, hnode, h⟩ := Option.bind_eq_some_iff.1 h
    obtain ⟨_, hadd, h⟩ := Option.bind_eq_some_iff.1 h
    cases h
    unfold addPair? at hadd
    dsimp only at hadd
    split at hadd
    next => cases hadd
    next =>
      split at hadd
      next => cases hadd
      next =>
        obtain ⟨_, hchange, hadd⟩ := Option.bind_eq_some_iff.1 hadd
        cases hadd
        exact named_of_changeAt? (named_of_addNew? ((named_of_takes _).1 hnode)) hchange hp
  next => cases h

theorem named_of_takeTableHeader? (h : takeTableHeader? p cs = some (p', rest))
    (hp : Named p.table) : Named p'.table := by
  unfold takeTableHeader? at h
  obtain ⟨_, -, h⟩ := Option.bind_eq_some_iff.1 h
  dsimp only at h
  split at h
  next => cases h
  next =>
    obtain ⟨_, hchange, h⟩ := Option.bind_eq_some_iff.1 h
    split at h
    next =>
      cases h
      exact named_of_changeAt? (fun hsame ht => Option.some.inj hsame ▸ ht) hchange hp
    next => cases h

theorem named_of_takeArrayHeader? (h : takeArrayHeader? p cs = some (p', rest))
    (hp : Named p.table) : Named p'.table := by
  unfold takeArrayHeader? at h
  obtain ⟨_, -, h⟩ := Option.bind_eq_some_iff.1 h
  dsimp only at h
  split at h
  next => cases h
  next =>
    obtain ⟨_, hchange, h⟩ := Option.bind_eq_some_iff.1 h
    split at h
    next =>
      cases h
      exact named_of_changeAt? named_of_addToArray? hchange hp
    next => cases h

theorem named_of_takeStatement? (h : takeStatement? p cs = some (p', rest)) (hp : Named p.table) :
    Named p'.table := by
  unfold takeStatement? at h
  split at h
  next => cases h; exact hp
  next => exact named_of_takeArrayHeader? h hp
  next => exact named_of_takeTableHeader? h hp
  next =>
    split at h
    next => exact named_of_takePair? h hp
    next =>
      split at h
      next => cases h; exact hp
      next => cases h

theorem named_of_readLines? {fuel : Nat} (h : readLines? fuel p cs = some p') (hp : Named p.table) :
    Named p'.table := by
  induction fuel generalizing p cs with
  | zero => cases h
  | succ fuel ih =>
    unfold readLines? at h
    obtain ⟨⟨p₁, rest⟩, hline, h⟩ := Option.bind_eq_some_iff.1 h
    have hp₁ := named_of_takeStatement? hline hp
    obtain ⟨_, -, h⟩ := Option.bind_eq_some_iff.1 h
    split at h
    next => cases h; exact hp₁
    next => exact ih h hp₁
    next => cases h

end Lines

theorem hasNamesInside_of_read? {bytes : List UInt8} {v : Value} (h : read? bytes = some v) :
    hasNamesInside v = true := by
  obtain ⟨cs, -, h⟩ := Option.bind_eq_some_iff.1 h
  obtain ⟨p, hlines, h⟩ := Option.bind_eq_some_iff.1 h
  cases h
  exact hasNames_entryValues.2 (named_of_readLines? hlines named_nil)

end Toml

/-- Only a YAML document can have a key that cannot be written. -/
theorem Document.hasNames_of_read {yaml : Parser} {format : Format} {bytes : List UInt8}
    {table : List (Value × Value)} (hformat : format ≠ .yaml)
    (h : read yaml format bytes = .ok (.dict table)) : hasNames table = true := by
  have hread {found : Option Value} (hfound : Failure.ofOption found = .ok (.dict table)) :
      found = some (.dict table) := by
    cases found with
    | none => cases hfound
    | some v => exact congrArg some (Except.ok.inj hfound)
  cases format with
  | json => exact Json.hasNamesInside_of_read? (hread h)
  | toml => exact Toml.hasNamesInside_of_read? (hread h)
  | yaml => exact absurd rfl hformat

end LayeredConfig
