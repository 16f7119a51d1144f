import LayeredConfig.Proofs.Chain.Joining
import LayeredConfig.Workspace

/-!
# Adoption — an environment that is taken into a workspace

The sources, the chain, the resolver and the environment each get the next free number. What is then
read under the number of the environment is the environment that was taken in (`load_adopted`).
-/

namespace LayeredConfig.Workspace

/-- The numbers that sources get which come next. -/
def nextNumbers (w : Workspace) (sources : List Source) : List Nat :=
  List.range' w.sources.length sources.length

/-- The workspace with more sources. -/
def withSources (w : Workspace) (sources : List Source) : Workspace :=
  { w with sources := w.sources ++ sources }

theorem mapM_addSource (sources : List Source) (w : Workspace) :
    (sources.mapM addSource) w =
      ⟨w.withSources sources, [], .ok (w.nextNumbers sources)⟩ := by
  induction sources generalizing w with
  | nil =>
    rw [withSources, List.append_nil]
    rfl
  | cons s sources ih =>
    have hresult : (addSource s w).result = .ok w.sources.length := rfl
    have hrest : (sources.mapM addSource) (addSource s w).state =
        ⟨w.withSources (s :: sources), [],
          .ok (List.range' (w.sources.length + 1) sources.length)⟩ := by
      rw [ih]
      simp [addSource, nextNumbers, withSources]
    rw [List.mapM_cons, Action.bind_of_ok hresult,
      Action.bind_of_ok (congrArg Outcome.result hrest), hrest]
    rfl

theorem source_withSources (w : Workspace) {sources : List Source} {i : Nat}
    (hi : i < sources.length) :
    (w.withSources sources).source (w.sources.length + i) = sources[i] := by
  simp [withSources, source, List.getD_eq_getElem?_getD, hi]

/-- The chain of the sources that come next, by number. -/
def numbered (w : Workspace) (sources : List Source) : Chain Nat :=
  (Chain.empty.addAll ((w.nextNumbers sources).map (w.withSources sources).layerOf)).1

theorem names_nextNumbers (w : Workspace) (sources : List Source) :
    ((w.nextNumbers sources).map (w.withSources sources).layerOf).map (·.name) =
      sources.map (·.name) := by
  apply List.ext_getElem
  · simp [nextNumbers]
  · intro i hi hi'
    have hlength : i < sources.length := by simpa using hi'
    simp [nextNumbers, layerOf, source_withSources, hlength]

theorem view_numbered (w : Workspace) (c : Chain Store) :
    (w.withSources c.layers).view (w.numbered c.layers) = c := by
  have hnodup : ((Chain.empty : Chain Nat).names ++
      ((w.nextNumbers c.layers).map (w.withSources c.layers).layerOf).map (·.name)).Nodup := by
    rw [names_nextNumbers]
    exact c.nodup_names
  have hlayers := Chain.addAll_layers_of_new hnodup
  obtain ⟨layers, hlayersNodup⟩ := c
  unfold view numbered Chain.map
  simp only [Chain.mk.injEq]
  rw [hlayers]
  apply List.ext_getElem
  · simp [nextNumbers, Chain.empty]
  · intro i hi hi'
    simp [Chain.empty, nextNumbers, layerOf, source_withSources, hi']

/-- An environment is stored over one that is new. -/
theorem store_append (w : Workspace) (chain : Nat) (r : Resolver) (e : Environment) :
    store w.environments.length e
        { w with
          resolvers := w.resolvers ++ [⟨some chain, r⟩]
          environments := w.environments ++ [⟨chain, w.resolvers.length, [],
            [Environment.reservedProfile]⟩] } =
      { w with
        resolvers := w.resolvers ++ [⟨some chain, e.resolver⟩]
        environments :=
          w.environments ++ [⟨chain, w.resolvers.length, e.active, e.defaults⟩] } := by
  simp [store, environment, resolver, List.getD_eq_getElem?_getD]

/-- The workspace with one more environment, over a chain and a resolver of its own. -/
def adopted (w : Workspace) (e : Environment) : Workspace :=
  { w.withSources e.chain.layers with
    chains := w.chains ++ [w.numbered e.chain.layers]
    resolvers := w.resolvers ++ [⟨some w.chains.length, e.resolver⟩]
    environments :=
      w.environments ++ [⟨w.chains.length, w.resolvers.length, e.active, e.defaults⟩] }

theorem adoptEnvironment_apply (e : Environment) (w : Workspace) :
    adoptEnvironment e w = ⟨w.adopted e, [], .ok w.environments.length⟩ := by
  have hadded := mapM_addSource e.chain.layers w
  have hresult : ((e.chain.layers.mapM addSource) w).result =
      .ok (w.nextNumbers e.chain.layers) := by
    rw [hadded]
  have hstored := store_append
    { w.withSources e.chain.layers with chains := w.chains ++ [w.numbered e.chain.layers] }
    w.chains.length (.new e.resolver.registry) e
  rw [adoptEnvironment, Action.bind_of_ok hresult, hadded, Action.read_bind]
  exact congrArg (Outcome.mk · [] (.ok w.environments.length)) hstored

/-- What is read back is the environment that was taken in. -/
theorem load_adopted (w : Workspace) (e : Environment) :
    (w.adopted e).load w.environments.length = e := by
  have henvironment : (w.adopted e).environment w.environments.length =
      ⟨w.chains.length, w.resolvers.length, e.active, e.defaults⟩ := by
    simp [environment, adopted, List.getD_eq_getElem?_getD]
  have hchain : (w.adopted e).chain w.chains.length = w.numbered e.chain.layers := by
    simp [chain, adopted, List.getD_eq_getElem?_getD]
  have hresolver : (w.adopted e).resolver w.resolvers.length =
      ⟨some w.chains.length, e.resolver⟩ := by
    simp [resolver, adopted, List.getD_eq_getElem?_getD]
  have hview : (w.adopted e).view (w.numbered e.chain.layers) = e.chain :=
    view_numbered w e.chain
  rw [load, henvironment, hchain, hresolver, hview]

end LayeredConfig.Workspace
