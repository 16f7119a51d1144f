import LayeredConfig.Proofs.Chain.Calls

/-!
# Replay — the log of a chain leads to its names

A record about a chain says enough to make the same change on a plain list of names. A call that
changes a chain logs one record and any other call none; replayed in order, the records of a run
give the names of the chain after every call (`log_replays_to_names`).
-/

namespace LayeredConfig

/-! ## 1. Changes of a list of names -/

/-- A change of a list of names. -/
inductive NameChange where
  | added (name : String) (position : Nat)
  | removed (name : String) (position : Nat)
  | replaced (name replacement : String)

namespace NameChange

/-- The names but one. -/
def others (name : String) (names : List String) : List String :=
  names.filter (· ≠ name)

/-- Makes a change on a list of names that it fits: what is added has a place among the other names,
what is removed stands where it should, and what is replaced is there. -/
def replay (names : List String) : NameChange → Option (List String)
  | .added name position =>
    if position ≤ (others name names).length then some ((others name names).insertIdx position name)
    else none
  | .removed name position =>
    if names[position]? = some name then some (names.eraseIdx position) else none
  | .replaced name replacement =>
    if name ∈ names then
      let slot := names.idxOf name
      some (others replacement (names.take slot) ++
        replacement :: others replacement (names.drop (slot + 1)))
    else none

theorem insertIdx_length (front back : List String) (name : String) :
    (front ++ back).insertIdx front.length name = front ++ name :: back := by
  induction front with
  | nil => rfl
  | cons first front ih => exact congrArg (first :: ·) ih

variable {front back : List String} {name : String}

theorem replay_added {names : List String} (h : others name names = front ++ back) :
    replay names (.added name front.length) = some (front ++ name :: back) := by
  have hplace : front.length ≤ (front ++ back).length := by simp
  rw [replay, h, if_pos hplace, insertIdx_length]

theorem replay_removed :
    replay (front ++ name :: back) (.removed name front.length) = some (front ++ back) := by
  rw [replay, if_pos (by simp), List.eraseIdx_append_of_length_le (Nat.le_refl _), Nat.sub_self,
    List.eraseIdx_cons_zero]

theorem replay_replaced (h : name ∉ front) (replacement : String) :
    replay (front ++ name :: back) (.replaced name replacement) =
      some (others replacement front ++ replacement :: others replacement back) := by
  have hslot : (front ++ name :: back).idxOf name = front.length := by
    rw [List.idxOf_append_of_notMem h, List.idxOf_cons_self, Nat.add_zero]
  have hdrop : (front ++ name :: back).drop (front.length + 1) = back := by
    rw [List.drop_append, List.drop_of_length_le (Nat.le_succ _), Nat.add_sub_cancel_left]
    rfl
  rw [replay, if_pos (by simp)]
  dsimp only
  rw [hslot, List.take_left, hdrop]

end NameChange

/-! ## 2. What a record says -/

namespace Record

/-- The text in a field. -/
def text? (r : Record) (field : String) : Option String :=
  match r.context.lookup field with
  | some (.text s) => some s
  | _ => none

/-- The count in a field. -/
def count? (r : Record) (field : String) : Option Nat :=
  match r.context.lookup field with
  | some (.int n) => n.toNat?
  | _ => none

/-- The change that a record tells of, if it is about a chain. -/
def nameChange? (r : Record) : Option NameChange := do
  let layer ← r.text? "layer"
  match r.message with
  | "source_added" => (r.count? "position").map (.added layer)
  | "source_removed" => (r.count? "position").map (.removed layer)
  | "source_replaced" => (r.text? "replacement").map (.replaced layer)
  | _ => none

/-- Makes the change that a record tells of. -/
def replay (names : List String) (r : Record) : Option (List String) :=
  r.nameChange?.bind (NameChange.replay names)

/-- Makes the changes that records tell of, in order. -/
def replayAll (names : List String) (records : List Record) : Option (List String) :=
  records.foldlM replay names

end Record

variable (traceId : Option String)

theorem nameChange?_layerAdded (name : String) (position : Nat) (relativeTo : Option String) :
    ((Event.layerAdded name position relativeTo).record traceId).nameChange? =
      some (.added name position) := by
  cases relativeTo <;> rfl

theorem nameChange?_layerRemoved (name : String) (position : Nat) :
    ((Event.layerRemoved name position).record traceId).nameChange? =
      some (.removed name position) := rfl

theorem nameChange?_layerReplaced (name replacement : String) :
    ((Event.layerReplaced name replacement).record traceId).nameChange? =
      some (.replaced name replacement) := rfl

namespace Chain

variable {α : Type}

/-! ## 3. What a call logs -/

namespace Call

/-- A call that fails, or that looks in vain for a layer to remove. -/
def IsIdle (call : Call α) (c : Chain α) : Prop :=
  (∃ e, (call.perform c).result = .error e) ∨ ∃ name, call = .remove name ∧ name ∉ c.names

/-- The records of what a call reports, from a severity on. -/
def log (least : Severity) (traceId : Option String) (call : Call α) (c : Chain α) : List Record :=
  ((call.perform c).events.map (Event.record traceId)).filter fun r => least.rank ≤ r.severity.rank

/-- The records of each of some calls that follow one another. -/
def logs (least : Severity) (traceId : Option String) : List (Call α) → Chain α → List (List Record)
  | [], _ => []
  | call :: calls, c =>
    call.log least traceId c :: logs least traceId calls (call.perform c).state

/-- The chain that some calls leave. -/
def after (calls : List (Call α)) (c : Chain α) : Chain α := (performAll calls c).1

end Call

theorem names_others (l : Layer α) (layers : List (Layer α)) :
    (others l layers).map (·.name) = NameChange.others l.name (layers.map (·.name)) := by
  simp [others, NameChange.others, List.filter_map, Function.comp_def]

theorem SplitsAt.names_eq {layers front back : List (Layer α)} {name : String} {x : Layer α}
    (h : SplitsAt layers name front x back) :
    layers.map (·.name) = front.map (·.name) ++ name :: back.map (·.name) := by
  rw [h.eq_append, List.map_append, List.map_cons, h.name_eq]

variable {c : Chain α} {call : Call α}

/-- A call that reports an event about a change that leads to the names of the changed chain. -/
theorem log_of_change {changed : Chain α} {event : Event} {answer : Option (Layer α)}
    {change : NameChange} (hperform : call.perform c = ⟨changed, [event], .ok answer⟩)
    (hthere : ∀ name, call = .remove name → name ∈ c.names) (hdebug : event.severity = .debug)
    (hrecord : (event.record traceId).nameChange? = some change)
    (hreplay : change.replay c.names = some changed.names) :
    ¬ call.IsIdle c ∧ ∃ r, call.log .debug traceId c = [r] ∧
      r.replay c.names = some (call.perform c).state.names := by
  refine ⟨?_, event.record traceId, ?_, ?_⟩
  · rintro (⟨e, he⟩ | ⟨name, rfl, hname⟩)
    · simp [hperform] at he
    · exact hname (hthere name rfl)
  · simp [Call.log, hperform, Event.record, hdebug, Severity.rank]
  · rw [Record.replay, hrecord, hperform]
    exact hreplay

/-- A layer that comes in between the others is added to their names at its place. -/
theorem log_of_insert {l : Layer α} {changed : Chain α} {relativeTo : Option String}
    (front back : List (Layer α))
    (hperform : call.perform c = ⟨changed, [.layerAdded l.name front.length relativeTo], .ok none⟩)
    (hcall : ∀ name, call ≠ .remove name) (hothers : others l c.layers = front ++ back)
    (hlayers : changed.layers = front ++ l :: back) :
    ¬ call.IsIdle c ∧ ∃ r, call.log .debug traceId c = [r] ∧
      r.replay c.names = some (call.perform c).state.names := by
  have hnames : NameChange.others l.name c.names = front.map (·.name) ++ back.map (·.name) := by
    rw [names, ← names_others, hothers, List.map_append]
  have hlength : front.length = (front.map (·.name)).length := (List.length_map _).symm
  refine log_of_change traceId hperform (fun name h => absurd h (hcall name)) rfl
    (nameChange?_layerAdded traceId l.name front.length relativeTo) ?_
  rw [hlength, NameChange.replay_added hnames, names, hlayers, List.map_append, List.map_cons]

/-- A call that reports nothing and leaves the chain. -/
theorem log_of_idle {answer : Answer α} (hperform : call.perform c = ⟨c, [], answer⟩)
    (hidle : call.IsIdle c) :
    call.IsIdle c ∧ call.log .debug traceId c = [] ∧ (call.perform c).state = c := by
  refine ⟨hidle, ?_, ?_⟩
  · rw [Call.log, hperform]
    rfl
  · rw [hperform]

theorem perform_of_error {e : Error} (h : (call.perform c).result = .error e) :
    call.perform c = ⟨c, [], .error e⟩ := by
  have hchange (f : Chain α → Except Error (Chain α × Event))
      (h : (Call.change f c).result = .error e) : Call.change f c = ⟨c, [], .error e⟩ := by
    unfold Call.change at h ⊢
    split at h <;> cases h
    rfl
  cases call with
  | remove name =>
    simp only [Call.perform] at h
    split at h <;> cases h
  | _ => exact hchange _ h

/-- A call is idle and logs nothing, or it logs one record, which leads to the names after it. -/
theorem log_cases (call : Call α) (c : Chain α) :
    (call.IsIdle c ∧ call.log .debug traceId c = [] ∧ (call.perform c).state = c) ∨
      (¬ call.IsIdle c ∧ ∃ r, call.log .debug traceId c = [r] ∧
        r.replay c.names = some (call.perform c).state.names) := by
  obtain ⟨answer, layers, hstep⟩ := exists_step c call
  obtain ⟨hanswer, hlayers⟩ := perform_of_step hstep
  -- One case for each rule: where the layer comes to stand tells the event and the names after it.
  cases hstep with
  | addFirst l => exact .inr (log_of_insert traceId [] (others l c.layers) rfl (by simp) rfl hlayers)
  | addLast l =>
    have hothers : others l c.layers = others l c.layers ++ [] := (List.append_nil _).symm
    have hperform : (Call.addLast l).perform c =
        ⟨(c.addLast l).1, [.layerAdded l.name (others l c.layers).length none], .ok none⟩ := by
      rw [others_eq_without]
      rfl
    exact .inr (log_of_insert traceId (others l c.layers) [] hperform (by simp) hothers hlayers)
  | @addBefore anchor l x front back hne hsplit =>
    obtain ⟨changed, hadd, hchanged⟩ := addBefore_of_splitsAt c hne hsplit
    have hperform : (Call.addBefore anchor l).perform c =
        ⟨changed, [.layerAdded l.name front.length (some anchor)], .ok none⟩ := by
      simp [Call.perform, Call.change, hadd]
    exact .inr (log_of_insert traceId front (x :: back) hperform (by simp) hsplit.eq_append hchanged)
  | @addAfter anchor l x front back hne hsplit =>
    obtain ⟨changed, hadd, hchanged⟩ := addAfter_of_splitsAt c hne hsplit
    have hperform : (Call.addAfter anchor l).perform c =
        ⟨changed, [.layerAdded l.name (front ++ [x]).length (some anchor)], .ok none⟩ := by
      simp [Call.perform, Call.change, hadd]
    have happend (rest : List (Layer α)) : front ++ x :: rest = front ++ [x] ++ rest := by simp
    rw [happend] at hchanged
    exact .inr (log_of_insert traceId (front ++ [x]) back hperform (by simp)
      (hsplit.eq_append.trans (happend back)) hchanged)
  | @remove name x front back hsplit =>
    obtain ⟨changed, hremove, hchanged⟩ := remove_of_splitsAt c hsplit
    have hperform : (Call.remove name).perform c =
        ⟨changed, [.layerRemoved name front.length], .ok (some x)⟩ := by
      simp [Call.perform, hremove]
    have hlength : front.length = (front.map (·.name)).length := (List.length_map _).symm
    refine .inr (log_of_change traceId hperform ?_ rfl (nameChange?_layerRemoved ..) ?_)
    · rintro _ ⟨⟩
      exact hsplit.name_mem
    · rw [names, hsplit.names_eq, names, hchanged, List.map_append, hlength,
        NameChange.replay_removed]
  | @replace name x front back l hsplit =>
    obtain ⟨changed, hreplace, hchanged⟩ := replace_of_splitsAt c l hsplit
    have hperform : (Call.replace name l).perform c =
        ⟨changed, [.layerReplaced name l.name], .ok none⟩ := by
      simp [Call.perform, Call.change, hreplace]
    refine .inr (log_of_change traceId hperform (by simp) rfl (nameChange?_layerReplaced ..) ?_)
    rw [names, hsplit.names_eq, NameChange.replay_replaced hsplit.notMem_front, names, hchanged,
      List.map_append, List.map_cons, names_others, names_others]
  | @removeAbsent name habsent =>
    have hperform : (Call.remove name).perform c = ⟨c, [], .ok none⟩ := by
      simp [Call.perform, remove_of_absent c habsent]
    exact .inl (log_of_idle traceId hperform (.inr ⟨name, rfl, habsent⟩))
  | beforeItself | afterItself | beforeAbsent | afterAbsent | replaceAbsent =>
    exact .inl (log_of_idle traceId (perform_of_error hanswer) (.inl ⟨_, hanswer⟩))

/-! ## 4. What a run logs -/

theorem logs_take (least : Severity) (calls : List (Call α)) (c : Chain α) (n : Nat) :
    (Call.logs least traceId calls c).take n = Call.logs least traceId (calls.take n) c := by
  induction calls generalizing c n with
  | nil => simp [Call.logs]
  | cons call calls ih =>
    cases n with
    | zero => rfl
    | succ n => exact congrArg (_ :: ·) (ih _ n)

theorem logs_get? (least : Severity) (calls : List (Call α)) (c : Chain α) (i : Nat) :
    (Call.logs least traceId calls c)[i]? =
      calls[i]?.map fun call => call.log least traceId (Call.after (calls.take i) c) := by
  induction calls generalizing c i with
  | nil => rfl
  | cons call calls ih =>
    cases i with
    | zero => rfl
    | succ i => exact ih _ i

theorem replayAll_logs (calls : List (Call α)) (c : Chain α) :
    Record.replayAll c.names (Call.logs .debug traceId calls c).flatten =
      some (Call.after calls c).names := by
  -- On the calls, for all chains: the records of the first call lead to the names before the rest.
  induction calls generalizing c with
  | nil => rfl
  | cons call calls ih =>
    have hfirst : Record.replayAll c.names (call.log .debug traceId c) =
        some (call.perform c).state.names := by
      obtain ⟨-, hlog, hstate⟩ | ⟨-, r, hlog, hreplay⟩ := log_cases traceId call c
      · rw [hlog, hstate]
        rfl
      · simp [hlog, Record.replayAll, hreplay]
    rw [Call.logs, List.flatten_cons, Record.replayAll, List.foldlM_append]
    rw [Record.replayAll] at hfirst
    rw [hfirst]
    exact ih _

/-- From the empty chain on, whatever is called and whether it succeeds or fails: each call that
changes the chain logs one record and each other call none, and after every call the records so far,
replayed in order, give the names of the chain. -/
theorem log_replays_to_names (calls : List (Call α)) :
    (∀ (i : Fin calls.length), ∃ records,
      (Call.logs .debug traceId calls empty)[i.val]? = some records ∧
        (calls[i].IsIdle (Call.after (calls.take i) empty) → records = []) ∧
        (¬ calls[i].IsIdle (Call.after (calls.take i) empty) → ∃ r, records = [r])) ∧
      ∀ n, Record.replayAll [] ((Call.logs .debug traceId calls empty).take n).flatten =
        some (Call.after (calls.take n) empty).names := by
  refine ⟨fun i => ?_, fun n => ?_⟩
  · refine ⟨calls[i].log .debug traceId (Call.after (calls.take i) empty), ?_, ?_⟩
    · simp [logs_get?]
    · obtain ⟨hidle, hlog, -⟩ | ⟨hbusy, r, hlog, -⟩ := log_cases traceId calls[i] _
      · exact ⟨fun _ => hlog, fun h => absurd hidle h⟩
      · exact ⟨fun h => absurd h hbusy, fun _ => ⟨r, hlog⟩⟩
  · rw [logs_take]
    exact replayAll_logs traceId (calls.take n) empty

/-- A layer moves behind another one, a call fails, and a layer that takes a slot loses its place. -/
theorem log_replays_to_names_moved :
    Record.replayAll []
      ((Call.logs .debug (some "t") [.addLast ⟨"a", 0⟩, .addLast ⟨"b", 1⟩, .addLast ⟨"c", 2⟩,
        .addAfter "b" ⟨"a", 3⟩, .remove "x", .addBefore "b" ⟨"b", 4⟩, .replace "a" ⟨"c", 5⟩]
        empty).take 7).flatten = some ["b", "c"] :=
  ((log_replays_to_names (some "t") _).2 7).trans (by cbv)

end Chain

end LayeredConfig
