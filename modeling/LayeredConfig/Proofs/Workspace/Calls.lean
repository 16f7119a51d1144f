import LayeredConfig.Layering
import LayeredConfig.Proofs.Layering.Build
import LayeredConfig.Proofs.Workspace.Adoption
import LayeredConfig.Proofs.Workspace.Sharing

/-!
# Calls — a workspace in use

Sources, chains, resolvers and environments are made, changed and read in any order, and may be shared
in any way. Each call keeps a workspace sound, whether it succeeds or fails, so every workspace that can
be reached is sound (`Reached.sound`).
-/

namespace LayeredConfig.Workspace

/-- A call in a workspace. Objects are given by their numbers, and a chain may be changed in any way. -/
inductive Call where
  | addSource (s : Source)
  | setStore (source : Nat) (store : Store)
  | newChain (sources : List Nat)
  | changeChain (chain source : Nat)
    (change : Chain Nat → Layer Nat → Except Error (Chain Nat × Event))
  | removeFrom (chain : Nat) (name : String)
  | newResolver (chain : Option Nat) (registry : Registry)
  | onResolver (resolver : Nat) (call : Resolver.Call)
  | newEnvironment (chain : Nat) (registry : Registry)
  | buildEnvironment (host : Host) (l : Layering) (registry : Registry)
  | onEnvironment (environment : Nat) (call : Environment.Call)
  | merge (child parent : Nat)
  | bindTraceId (traceId : Option String)

namespace Call

/-- Whether the numbers of chains and environments lead somewhere. -/
def IsFor (w : Workspace) : Call → Prop
  | .newEnvironment chain _ => chain < w.chains.length
  | .onEnvironment environment _ => environment < w.environments.length
  | .merge child parent => child < w.environments.length ∧ parent < w.environments.length
  | _ => True

instance (w : Workspace) (call : Call) : Decidable (call.IsFor w) :=
  match call with
  | .newEnvironment chain _ => inferInstanceAs (Decidable (chain < w.chains.length))
  | .onEnvironment environment _ => inferInstanceAs (Decidable (environment < w.environments.length))
  | .merge child parent =>
    inferInstanceAs (Decidable (child < w.environments.length ∧ parent < w.environments.length))
  | .addSource _ | .setStore .. | .newChain _ | .changeChain .. | .removeFrom .. | .newResolver ..
  | .onResolver .. | .buildEnvironment .. | .bindTraceId _ => inferInstanceAs (Decidable True)

/-- The workspace that a call leaves, whether it succeeds or fails. -/
def after (w : Workspace) : Call → Workspace
  | .addSource s => (Workspace.addSource s w).state
  | .setStore source store => (Workspace.setStore source store w).state
  | .newChain sources => (Workspace.newChain sources w).state
  | .changeChain chain source change => (Workspace.changeChain chain source change w).state
  | .removeFrom chain name => (Workspace.removeFrom chain name w).state
  | .newResolver chain registry => (Workspace.addResolver chain (.new registry) w).state
  | .onResolver resolver call =>
    (Workspace.onResolver resolver (fun sources => call.perform sources) w).state
  | .newEnvironment chain registry => (Workspace.newEnvironment chain registry w).state
  | .buildEnvironment host l registry => (Workspace.buildEnvironment host l registry w).state
  | .onEnvironment environment call => (Workspace.onEnvironment environment call.perform w).state
  | .merge child parent => (Workspace.merge child parent w).state
  | .bindTraceId traceId => (Workspace.bindTraceId traceId w).state

end Call

/-- A workspace that is reached from the empty one by calls. -/
inductive Reached : Workspace → Prop
  | empty : Reached .empty
  | after {w} (h : Reached w) {call : Call} (hfor : call.IsFor w) : Reached (call.after w)

/-! ## 1. What is added and changed -/

variable {w w' : Workspace}

theorem Fits.mono {chains resolvers chains' resolvers' : Nat} {e : BoundEnvironment}
    (h : Fits chains resolvers e) (hchains : chains ≤ chains') (hresolvers : resolvers ≤ resolvers') :
    Fits chains' resolvers' e :=
  { h with
    chain_lt := Nat.lt_of_lt_of_le h.chain_lt hchains
    resolver_lt := Nat.lt_of_lt_of_le h.resolver_lt hresolvers }

/-- If the first workspace is sound then so is the second. -/
def StaysSound (w w' : Workspace) : Prop := w.Sound → w'.Sound

instance : Std.Refl StaysSound where
  refl _ := id

instance : IsTrans Workspace StaysSound where
  trans _ _ _ h h' := h' ∘ h

namespace Sound

theorem fresh_resolver (hw : w.Sound) (i : Nat) : (w.resolver i).resolver.Fresh := by
  by_cases hi : i < w.resolvers.length
  · rw [resolver, List.getD_eq_getElem _ _ hi]
    exact hw.fresh _ (List.getElem_mem hi)
  · rw [resolver, List.getD_eq_default _ _ (Nat.le_of_not_lt hi)]
    exact fun _ _ h => absurd h List.not_mem_nil

/-- Sources and what chains list are free to change. -/
theorem of_chains (hw : w.Sound) (hchains : w.chains.length ≤ w'.chains.length)
    (hresolvers : w'.resolvers = w.resolvers) (henvironments : w'.environments = w.environments) :
    w'.Sound where
  fits e he := by
    rw [henvironments] at he
    rw [hresolvers]
    exact (hw.fits e he).mono hchains (Nat.le_refl _)
  resolvers_nodup := by
    rw [henvironments]
    exact hw.resolvers_nodup
  fresh r hr := hw.fresh r (hresolvers ▸ hr)

theorem of_resolvers (hw : w.Sound) {resolvers : List BoundResolver}
    (hlength : w.resolvers.length ≤ resolvers.length)
    (hfresh : ∀ r ∈ resolvers, r ∈ w.resolvers ∨ r.resolver.Fresh) :
    ({ w with resolvers := resolvers } : Workspace).Sound where
  fits e he := (hw.fits e he).mono (Nat.le_refl _) hlength
  resolvers_nodup := hw.resolvers_nodup
  fresh r hr := (hfresh r hr).elim (hw.fresh r) id

/-- One more environment comes with a resolver of its own. -/
theorem withEnvironment (hw : w.Sound) {chain : Nat} (hchain : chain < w.chains.length)
    {bound : BoundResolver} (hfresh : bound.resolver.Fresh) {active defaults : List String}
    (hactive : active.Nodup) (hdefaults : defaults.Nodup) :
    ({ w with
      resolvers := w.resolvers ++ [bound]
      environments := w.environments ++ [⟨chain, w.resolvers.length, active, defaults⟩] } :
        Workspace).Sound where
  fits e he := by
    have hlength : w.resolvers.length < (w.resolvers ++ [bound]).length := by simp
    rcases List.mem_append.1 he with he | he
    · exact (hw.fits e he).mono (Nat.le_refl _) (Nat.le_of_lt hlength)
    · rw [List.mem_singleton.1 he]
      exact ⟨hchain, hlength, hactive, hdefaults⟩
  resolvers_nodup := by
    rw [List.map_append, List.map_singleton, List.nodup_append_comm, List.singleton_append,
      List.nodup_cons]
    refine ⟨fun hmem => ?_, hw.resolvers_nodup⟩
    obtain ⟨e, he, heq⟩ := List.mem_map.1 hmem
    exact absurd (hw.fits e he).resolver_lt (by simp [heq])
  fresh r hr := by
    rcases List.mem_append.1 hr with hr | hr
    · exact hw.fresh r hr
    · rw [List.mem_singleton.1 hr]
      exact hfresh

end Sound

/-! ## 2. Calls one by one -/

theorem setChain_staysSound (i : Nat) (changed : Chain Nat × Event) :
    (setChain i changed).Respects StaysSound :=
  fun _ hw => hw.of_chains (List.length_set).ge rfl rfl

theorem addChain_staysSound (c : Chain Nat) : (addChain c).Respects StaysSound :=
  fun _ hw => hw.of_chains (by simp [addChain]) rfl rfl

theorem newChain_staysSound (sources : List Nat) : (newChain sources).Respects StaysSound :=
  (Action.Respects.read _).bind fun _ => (Action.Respects.emit _).bind fun _ =>
    addChain_staysSound _

theorem changeChain_staysSound (i source : Nat)
    (change : Chain Nat → Layer Nat → Except Error (Chain Nat × Event)) :
    (changeChain i source change).Respects StaysSound :=
  (Action.Respects.read _).bind fun _ => (Action.Respects.ofExcept _).bind fun _ =>
    setChain_staysSound i _

theorem removeFrom_staysSound (i : Nat) (name : String) :
    (removeFrom i name).Respects StaysSound := by
  refine (Action.Respects.read _).bind fun removed => ?_
  split
  next => exact .pure _
  next => exact (setChain_staysSound i _).bind fun _ => .pure _

theorem addResolver_staysSound (chain : Option Nat) (registry : Registry) :
    (addResolver chain (.new registry)).Respects StaysSound := by
  refine fun w hw => hw.of_resolvers (by simp) fun r hr => ?_
  rcases List.mem_append.1 hr with hr | hr
  · exact .inl hr
  · rw [List.mem_singleton.1 hr]
    exact .inr (Resolver.fresh_new registry)

theorem onResolver_staysSound (i : Nat) (call : Resolver.Call) :
    (onResolver i fun sources => call.perform sources).Respects StaysSound := by
  refine fun w hw => hw.of_resolvers (List.length_set).ge fun r hr => ?_
  rcases List.mem_or_eq_of_mem_set hr with hr | rfl
  · exact .inl hr
  · exact .inr (Resolver.perform_settings _ call (hw.fresh_resolver i)).2

theorem bindTraceId_staysSound (traceId : Option String) :
    (bindTraceId traceId).Respects StaysSound :=
  fun _ hw => hw.of_chains (Nat.le_refl _) rfl rfl

theorem buildEnvironment_staysSound (host : Host) (l : Layering) (registry : Registry) :
    (buildEnvironment host l registry).Respects StaysSound := by
  refine (bindTraceId_staysSound none).bind fun _ => (l.build_respects host).bind fun c => ?_
  intro w hw
  have hadded : ({ w.withSources c.layers with
      chains := w.chains ++ [w.numbered c.layers] } : Workspace).Sound :=
    hw.of_chains (by simp) rfl rfl
  rw [adoptEnvironment_apply]
  exact hadded.withEnvironment (by simp) (Resolver.fresh_new registry) List.nodup_nil
    (List.nodup_singleton _)

theorem Sound.newEnvironment (hw : w.Sound) {chain : Nat} (hchain : chain < w.chains.length)
    (registry : Registry) : (newEnvironment chain registry w).state.Sound :=
  hw.withEnvironment hchain (Resolver.fresh_new registry) List.nodup_nil (List.nodup_singleton _)

/-! ## 3. All calls -/

theorem Sound.after (hw : w.Sound) {call : Call} (hfor : call.IsFor w) : (call.after w).Sound := by
  cases call with
  | addSource => exact hw.of_chains (Nat.le_refl _) rfl rfl
  | setStore => exact hw.of_chains (Nat.le_refl _) rfl rfl
  | newChain sources => exact newChain_staysSound sources w hw
  | changeChain chain source change => exact changeChain_staysSound chain source change w hw
  | removeFrom chain name => exact removeFrom_staysSound chain name w hw
  | newResolver chain registry => exact addResolver_staysSound chain registry w hw
  | onResolver resolver call => exact onResolver_staysSound resolver call w hw
  | newEnvironment chain registry => exact hw.newEnvironment hfor registry
  | buildEnvironment host l registry => exact buildEnvironment_staysSound host l registry w hw
  | onEnvironment environment call => exact hw.onEnvironment hfor call.perform_keeps
  | merge child parent => exact hw.merge hfor.1 hfor.2
  | bindTraceId traceId => exact bindTraceId_staysSound traceId w hw

theorem sound_empty : Workspace.empty.Sound where
  fits _ he := absurd he List.not_mem_nil
  resolvers_nodup := List.nodup_nil
  fresh _ hr := absurd hr List.not_mem_nil

/-- Each call is for the workspace that those before it leave. -/
def Call.AllFor (w : Workspace) : List Call → Prop
  | [] => True
  | call :: calls => call.IsFor w ∧ AllFor (call.after w) calls

def Call.decidableAllFor (w : Workspace) : (calls : List Call) → Decidable (Call.AllFor w calls)
  | [] => inferInstanceAs (Decidable True)
  | call :: calls =>
    have := decidableAllFor (call.after w) calls
    inferInstanceAs (Decidable (call.IsFor w ∧ AllFor (call.after w) calls))

instance (w : Workspace) (calls : List Call) : Decidable (Call.AllFor w calls) :=
  Call.decidableAllFor w calls

theorem Reached.afterAll (hw : Reached w) {calls : List Call} (hfor : Call.AllFor w calls) :
    Reached (calls.foldl Call.after w) := by
  induction calls generalizing w with
  | nil => exact hw
  | cons call calls ih => exact ih (hw.after hfor.1) hfor.2

theorem Reached.sound (hw : Reached w) : w.Sound := by
  induction hw with
  | empty => exact sound_empty
  | after _ hfor ih => exact ih.after hfor

end LayeredConfig.Workspace
