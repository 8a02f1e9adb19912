import AtomicUsb.Foundation.Transition

/-!
# Stretches of a run

`System.Path s ls s'` is a stretch of a run of a system, from any state to a later one, with the
labels of its steps.  `Path.invariant` is the induction rule: a relation between what has happened
and where one is, which holds of nothing at the beginning and is kept by every step.
-/

namespace System

variable {σ ℓ : Type} {S : System σ ℓ}

inductive Path (S : System σ ℓ) (s : σ) : List ℓ → σ → Prop
  | nil : Path S s [] s
  | snoc {ls : List ℓ} {s' s'' : σ} {l : ℓ} :
      Path S s ls s' → S.step s' l s'' → Path S s (ls ++ [l]) s''

lemma Path.reachable {s s' : σ} {ls : List ℓ} (h : S.Path s ls s') (hs : S.Reachable s) :
    S.Reachable s' := by
  induction h with
  | nil => exact hs
  | snoc _ hstep ih => exact ih.step hstep

/-- What holds along a stretch that begins in a reachable state. -/
lemma Path.invariant {I : List ℓ → σ → Prop} {s s' : σ} {ls : List ℓ} (h : S.Path s ls s')
    (hs : S.Reachable s) (nil : I [] s)
    (snoc : ∀ ls s' l s'', S.Reachable s' → I ls s' → S.step s' l s'' → I (ls ++ [l]) s'') :
    I ls s' := by
  induction h with
  | nil => exact nil
  | snoc hpath hstep ih => exact snoc _ _ _ _ (hpath.reachable hs) ih hstep

end System
