import LayeredConfig.Environment
import LayeredConfig.Proofs.Action.Effects
import LayeredConfig.Proofs.Chain.Joining

/-!
# Merge — what a child takes over from its parent

The sources of the parent join first. Reading and joining profiles, which may fail, comes after that
and changes neither the sources of the child nor its resolver.
-/

namespace LayeredConfig.Environment

/-- The child keeps its sources and its resolver. -/
def KeepsChild (p p' : Pair) : Prop :=
  p'.child.chain = p.child.chain ∧ p'.child.resolver = p.child.resolver

instance : IsTrans Pair KeepsChild where
  trans _ _ _ h h' := ⟨h'.1.trans h.1, h'.2.trans h.2⟩

theorem onParent_respects {α : Type} (x : Action Environment α) :
    (onParent x).Respects KeepsChild :=
  fun _ => ⟨rfl, rfl⟩

theorem absorb_respects (active defaults : List String) :
    (onChild (absorb active defaults)).Respects KeepsChild :=
  fun _ => ⟨rfl, rfl⟩

/-- Whether the merge succeeds or fails, the sources of the parent have joined. -/
theorem merge_child (p : Pair) :
    (merge p).state.child.chain = (p.child.chain.adopt p.parent.chain).1 ∧
      (merge p).state.child.resolver = p.child.resolver := by
  have hprofiles := (onParent_respects activeProfiles).bind fun active =>
    (onParent_respects defaultProfiles).bind fun defaults => absorb_respects active defaults
  exact hprofiles (onChild (adoptSources p.parent.chain) p).state

/-- The chain of the child is as it was, with the layers of the parent behind it whose names are
new. -/
theorem merge_child_layers (p : Pair) :
    (merge p).state.child.chain.layers = p.child.chain.layers ++
      p.parent.chain.layers.filter fun l => !p.child.chain.contains l.name := by
  rw [(merge_child p).1, Chain.adopt_layers]

end LayeredConfig.Environment
