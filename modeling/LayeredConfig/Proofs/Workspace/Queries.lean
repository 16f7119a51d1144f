import LayeredConfig.Proofs.Workspace.Calls

/-!
# Queries — expressions over the profiles of an environment

What reads of the profiles give is one set of names over which expressions have a truth. Whatever was
asked before, a query gives that truth and leaves the profiles as they are read (`query_means_formula`).
-/

namespace LayeredConfig.Workspace

open Environment (Reads activeProfiles defaultProfiles countsAsActive)
open Profile (Derives Expr)

variable {w : Workspace} {i : Nat} {active defaults : List String}

theorem reads_of_results (hw : w.Sound) (hi : i < w.environments.length)
    (hactive : (onEnvironment i activeProfiles w).result = .ok active)
    (hdefaults : (onEnvironment i defaultProfiles w).result = .ok defaults) :
    Reads active defaults (w.load i) where
  fresh := hw.fresh_load hi
  active_eq := (Environment.result_activeProfiles _).symm.trans hactive
  defaults_eq _ := (Environment.result_defaultProfiles _).symm.trans hdefaults

/-- The workspace after some calls of one environment. -/
def afterCalls (w : Workspace) (i : Nat) (calls : List Environment.Call) : Workspace :=
  calls.foldl (fun w call => (onEnvironment i call.perform w).state) w

/-- Asking leaves what reads give. -/
theorem reads_afterCalls (hw : w.Sound) (hi : i < w.environments.length)
    (hreads : Reads active defaults (w.load i)) {asked : List Environment.Call}
    (hasks : ∀ call ∈ asked, call.asks = true) :
    (w.afterCalls i asked).Sound ∧ i < (w.afterCalls i asked).environments.length ∧
      Reads active defaults ((w.afterCalls i asked).load i) := by
  induction asked generalizing w with
  | nil => exact ⟨hw, hi, hreads⟩
  | cons call asked ih =>
    -- One question leaves a workspace to which the hypothesis about the others applies.
    obtain ⟨hcall, hasked⟩ := List.forall_mem_cons.1 hasks
    refine ih (hw.onEnvironment hi call.perform_keeps) ?_ ?_ hasked
    · rwa [length_onEnvironment]
    · rw [load_onEnvironment hw hi call.perform_keeps]
      exact hreads.of_readsAlike (Environment.Call.asks_respects
        Environment.activeProfiles_respects Environment.defaultProfiles_respects hcall _)

theorem accepts_keeps (expressions : List Value) :
    (Environment.accepts expressions).Respects Environment.Keeps :=
  Environment.accepts_respects Environment.activeProfiles_keeps Environment.defaultProfiles_keeps _

/-- **Queries.** Expressions that are all derivable are answered by whether one of them is true as a
formula over what reads give, whatever was asked before, and the active profiles are read as before. If
there are some that are not, one of them is refused and nothing at all has changed. -/
theorem query_means_formula {w : Workspace} (hw : Reached w) {i : Nat}
    (hi : i < w.environments.length) {texts : List String} (hne : texts ≠ []) :
    (∀ trees, List.Forall₂ Derives texts trees → ∀ active defaults,
      (onEnvironment i activeProfiles w).result = .ok active →
      (onEnvironment i defaultProfiles w).result = .ok defaults →
      ∀ asked : List Environment.Call, (∀ call ∈ asked, call.asks = true) →
        (onEnvironment i (Environment.accepts (texts.map .text)) (w.afterCalls i asked)).result =
            .ok (trees.any fun tree =>
              tree.holds fun name => countsAsActive active defaults (String.ofList name)) ∧
          (onEnvironment i activeProfiles
            (onEnvironment i (Environment.accepts (texts.map .text))
              (w.afterCalls i asked)).state).result = .ok active) ∧
      ((∃ s ∈ texts, ∀ tree, ¬Derives s tree) →
        ∃ s ∈ texts, ∃ reason, (∀ tree, ¬Derives s tree) ∧
          onEnvironment i (Environment.accepts (texts.map .text)) w =
            ⟨w, [], .error (.malformedExpression s reason)⟩) := by
  constructor
  · intro trees htrees active defaults hactive hdefaults asked hasked
    have hreads := reads_of_results hw.sound hi hactive hdefaults
    obtain ⟨hsound, hi', hbefore⟩ := reads_afterCalls hw.sound hi hreads hasked
    obtain ⟨hresult, hafter⟩ := Environment.accepts_answers hne htrees _ hbefore
    refine ⟨hresult, ?_⟩
    rw [result_onEnvironment, load_onEnvironment hsound hi' (accepts_keeps _),
      Environment.result_activeProfiles]
    exact hafter.active_eq
  · intro hrejected
    obtain ⟨before, trees, s, after, rfl, hbefore, hs⟩ :=
      Profile.Condition.exists_first_rejected hrejected
    obtain ⟨reason, hread⟩ := Profile.Condition.ofExpressions_of_rejected hbefore hs after
    refine ⟨s, by simp, reason, hs, ?_⟩
    have houtcome : Environment.accepts ((before ++ s :: after).map .text) (w.load i) =
        ⟨w.load i, [], .error (.malformedExpression s reason)⟩ := by
      rw [Environment.accepts, hread]
      rfl
    rw [onEnvironment, Action.onPart, houtcome, store_load hw.sound hi]

/-- An environment whose chain configures two active profiles and a default one. -/
def twoConfigured : Workspace :=
  [Call.addSource ⟨"app", .mapping [(Environment.activeKey, .text "a, b"),
      (Environment.defaultKey, .text "d")]⟩,
    .newChain [0], .newEnvironment 0 .standard].foldl Call.after .empty

/-- Of two expressions the second holds, also after a question about another profile. An expression that
mixes operators is refused behind one that does not. -/
theorem query_means_formula_configured :
    (onEnvironment 0 (Environment.accepts [.text "!a", .text "b & !d"])
        (twoConfigured.afterCalls 0 [.isProfileActive (.text "c")])).result = .ok true ∧
      (onEnvironment 0 activeProfiles
        (onEnvironment 0 (Environment.accepts [.text "!a", .text "b & !d"])
          (twoConfigured.afterCalls 0 [.isProfileActive (.text "c")])).state).result =
            .ok ["a", "b"] ∧
      ∃ s ∈ ["a", "a & b | c"], ∃ reason, (∀ tree, ¬Derives s tree) ∧
        onEnvironment 0 (Environment.accepts [.text "a", .text "a & b | c"]) twoConfigured =
          ⟨twoConfigured, [], .error (.malformedExpression s reason)⟩ := by
  have hw : Reached twoConfigured := Reached.empty.afterAll (by decide)
  have hderived : List.Forall₂ Derives ["!a", "b & !d"]
      [.not (.literal ['a']), .and [.literal ['b'], .not (.literal ['d'])]] :=
    .cons (Profile.parse_eq_ok_iff.1 (by cbv)) (.cons (Profile.parse_eq_ok_iff.1 (by cbv)) .nil)
  have hmixed : ∀ tree, ¬Derives "a & b | c" tree := by
    intro tree htree
    have hparse : Profile.parse "a & b | c".toList = .error .mixedOperators := by cbv
    rw [Profile.parse_eq_ok_iff.2 htree] at hparse
    contradiction
  have hanswered := (@query_means_formula _ hw 0 (by decide) ["!a", "b & !d"] (by decide)).1 _
    hderived ["a", "b"] ["d"] (by cbv) (by cbv) [.isProfileActive (.text "c")] (by decide)
  have hrefused := (@query_means_formula _ hw 0 (by decide) ["a", "a & b | c"] (by decide)).2
    ⟨"a & b | c", by decide, hmixed⟩
  have hholds : ([.not (.literal ['a']), .and [.literal ['b'], .not (.literal ['d'])]].any
      fun tree : Expr =>
        tree.holds fun name => countsAsActive ["a", "b"] ["d"] (String.ofList name)) = true := by
    decide
  rw [hholds] at hanswered
  exact ⟨hanswered.1, hanswered.2, hrefused⟩

end LayeredConfig.Workspace
