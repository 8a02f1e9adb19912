import Mathlib.Logic.Function.Iterate
import Mathlib.Data.Nat.Init
import Mathlib.Tactic.Common

/-!
# Labelled transition systems

A system is a set of initial states and a labelled step relation.  Safety is proved by
`System.Reachable.invariant`: hold initially, be kept by every step.  `System.restrict` keeps
only the steps that meet a side condition on the state they are taken from, which is how a
guarantee that needs a scheduling assumption is stated: it holds in every state reachable
through steps that all meet the assumption.  `Reachable.simulated` carries what is reached over to
a more abstract system.

`iterate_comes_to_rest` is about systems that go on by themselves: an iteration comes to rest when
every step that is not at rest yet raises a bounded rank.
-/

/-- A labelled transition system. -/
structure System (σ ℓ : Type) where
  /-- Where runs begin. -/
  init : σ → Prop
  /-- One step, with the label that names it. -/
  step : σ → ℓ → σ → Prop

namespace System

variable {σ ℓ : Type} {S : System σ ℓ}

/-- The states some finite run ends in. -/
inductive Reachable (S : System σ ℓ) : σ → Prop
  | init {s : σ} : S.init s → Reachable S s
  | step {s s' : σ} {l : ℓ} : Reachable S s → S.step s l s' → Reachable S s'

/-- An invariant that holds initially and is kept by every step holds in every reachable
state. -/
lemma Reachable.invariant {I : σ → Prop} (init : ∀ s, S.init s → I s)
    (step : ∀ s l s', I s → S.step s l s' → I s') {s : σ} (h : S.Reachable s) : I s := by
  induction h with
  | init h => exact init _ h
  | step _ hstep ih => exact step _ _ _ ih hstep

/-- Forward simulation: every step is one step of the abstract system at most, which keeps what is
reached related to something the abstract system reaches. -/
lemma Reachable.simulated {τ κ : Type} {T : System τ κ} {R : σ → τ → Prop}
    (init : ∀ s, S.init s → ∃ a, T.init a ∧ R s a)
    (step : ∀ s l s' a, R s a → S.step s l s' → ∃ a', (a' = a ∨ ∃ k, T.step a k a') ∧ R s' a')
    {s : σ} (h : S.Reachable s) : ∃ a, T.Reachable a ∧ R s a := by
  induction h with
  | init h =>
      obtain ⟨a, ha, hR⟩ := init _ h
      exact ⟨a, .init ha, hR⟩
  | step _ hstep ih =>
      obtain ⟨a, ha, hR⟩ := ih
      obtain ⟨a', hmove, hR'⟩ := step _ _ _ _ hR hstep
      rcases hmove with rfl | ⟨k, hmove⟩
      · exact ⟨a', ha, hR'⟩
      · exact ⟨a', ha.step hmove, hR'⟩

/-- A finite run, with the steps it took.  What `state` and `label` are beyond its length does not
matter. -/
structure Run (S : System σ ℓ) where
  length : ℕ
  state : ℕ → σ
  label : ℕ → ℓ
  init : S.init (state 0)
  step : ∀ n, n < length → S.step (state n) (label n) (state (n + 1))

/-- What every step keeps is kept from any state of a run to any later one. -/
lemma Run.keeps (r : S.Run) {P : σ → Prop} (step : ∀ s l s', P s → S.step s l s' → P s') {m n : ℕ}
    (hmn : m ≤ n) (hn : n ≤ r.length) (h : P (r.state m)) : P (r.state n) := by
  induction n, hmn using Nat.le_induction with
  | base => exact h
  | succ n _ ih => exact step _ _ _ (ih (by omega)) (r.step n (by omega))

/-- The steps of `S` that are taken from a state meeting `ok`. -/
def restrict (S : System σ ℓ) (ok : σ → ℓ → Prop) : System σ ℓ where
  init := S.init
  step s l s' := ok s l ∧ S.step s l s'

/-- A restricted run is a run. -/
lemma Reachable.of_restrict {ok : σ → ℓ → Prop} {s : σ} (h : (S.restrict ok).Reachable s) :
    S.Reachable s := by
  induction h with
  | init h => exact .init h
  | step _ hstep ih => exact ih.step hstep.2

end System

section Iterate

variable {σ : Type} {f : σ → σ} {I : σ → Prop}

lemma iterate_invariant (keep : ∀ s, I s → I (f s)) {s : σ} (hs : I s) (n : ℕ) : I (f^[n] s) := by
  induction n with
  | zero => exact hs
  | succ n ih =>
      rw [Function.iterate_succ_apply']
      exact keep _ ih

/-- An iteration that raises a bounded rank until it is at rest comes to rest for good. -/
lemma iterate_comes_to_rest {Rest : σ → Prop} {rank : σ → ℕ} {bound : ℕ}
    (keep : ∀ s, I s → I (f s)) (le : ∀ s, I s → rank s ≤ bound)
    (step : ∀ s, I s → Rest s ∨ rank s < rank (f s)) (stay : ∀ s, I s → Rest s → Rest (f s))
    {s : σ} (hs : I s) : ∃ k, ∀ n, k ≤ n → Rest (f^[n] s) := by
  -- at rest some time: otherwise the rank would exceed its bound
  have hsome : ∃ k, Rest (f^[k] s) := by
    by_contra hnever
    have hrank : ∀ n, n ≤ rank (f^[n] s) := by
      intro n
      induction n with
      | zero => exact Nat.zero_le _
      | succ n ih =>
          have hlt := (step _ (iterate_invariant keep hs n)).resolve_left fun h => hnever ⟨n, h⟩
          rw [Function.iterate_succ_apply']
          omega
    have hle := le _ (iterate_invariant keep hs (bound + 1))
    have hge := hrank (bound + 1)
    omega
  obtain ⟨k, hk⟩ := hsome
  refine ⟨k, fun n hn => ?_⟩
  induction n, hn using Nat.le_induction with
  | base => exact hk
  | succ n _ ih =>
      rw [Function.iterate_succ_apply']
      exact stay _ (iterate_invariant keep hs n) ih

end Iterate
