import AtomicUsb.Foundation.Program
import AtomicUsb.Foundation.Transition
import Mathlib.Logic.Function.Basic

/-!
# Waiting for changes

The controller and the attacher decide from caches, pass after pass, and wait in between until a
cache changes.  Every cache is filled by a reflector, which changes the cache first and then bumps a
counter that the caches share.  That can happen while the loop passes, waits or lets things settle.

`loop_misses_nothing` is that the loop does not wait on results that are out of date: what its last
pass found in a cache is what the cache holds, or the loop is told of the change.  From the
beginning of a pass until the wait is over the counter is not marked as seen, so every change in
between still shows (`Inv.current`).
-/

namespace AtomicUsb

inductive WatchCall
  /-- `timeout(t, rx.changed())`, and whether there was a change in time. -/
  | changed (timeout : ℕ)
  | sleep (duration : ℕ)
  | markUnchanged

abbrev WatchCall.Answer : WatchCall → Type
  | .changed _ => Bool
  | _ => Unit

abbrev WatchProg (α : Type) := Prog WatchCall WatchCall.Answer α

/-! Each call as a program that returns its answer. -/

def changedWithin (timeout : ℕ) : WatchProg Bool := Prog.perform (WatchCall.changed timeout)

def settle (duration : ℕ) : WatchProg Unit := Prog.perform (WatchCall.sleep duration)

def markUnchanged : WatchProg Unit := Prog.perform WatchCall.markUnchanged

/-- Waits until there is a change or the timeout elapses, then lets further changes settle. -/
def waitForChange (timeout debounce : ℕ) : WatchProg Unit := do
  if ← changedWithin timeout then
    settle debounce
  markUnchanged

/-- A loop over caches `ι` of contents `α`. -/
structure WatchLoop (ι α : Type) where
  content : ι → α
  /-- The reflector of the cache has changed it and not bumped the counter yet. -/
  announcing : ι → Bool
  /-- How often the counter was bumped, and how much of that the loop has seen.  The counter itself
  wraps around, and nobody reads it. -/
  version : ℕ
  seen : ℕ
  /-- What is left of `wait_for_change`, or nothing during a pass. -/
  rest : Option (WatchProg Unit)
  /-- What the last pass found in each cache, whenever it looked. -/
  found : ι → List α

namespace WatchLoop

variable {ι α : Type}

/-- How the receiver of the counter answers, and what it has seen then. -/
inductive Answers (s : WatchLoop ι α) : (c : WatchCall) → c.Answer → ℕ → Prop
  | changed {timeout : ℕ} (hunseen : s.seen ≠ s.version) :
      Answers s (.changed timeout) true s.version
  | timedOut {timeout : ℕ} : Answers s (.changed timeout) false s.seen
  | slept {duration : ℕ} : Answers s (.sleep duration) () s.seen
  | marked : Answers s .markUnchanged () s.version

inductive Label (ι α : Type)
  /-- A reflector receives an event and changes its cache. -/
  | receive (i : ι) (x : α)
  | bump (i : ι)
  /-- The pass looks at a cache. -/
  | look (i : ι)
  | finish (timeout debounce : ℕ)
  | call (c : WatchCall)
  | begin

variable [DecidableEq ι]

inductive Step : WatchLoop ι α → Label ι α → WatchLoop ι α → Prop
  | receive {s : WatchLoop ι α} {i : ι} (x : α) (hidle : s.announcing i = false) :
      Step s (.receive i x)
        { s with
          content := Function.update s.content i x
          announcing := Function.update s.announcing i true }
  | bump {s : WatchLoop ι α} {i : ι} (hannouncing : s.announcing i = true) :
      Step s (.bump i)
        { s with
          announcing := Function.update s.announcing i false
          version := s.version + 1 }
  | look {s : WatchLoop ι α} (i : ι) (hpass : s.rest = none) :
      Step s (.look i) { s with found := Function.update s.found i (s.content i :: s.found i) }
  | finish {s : WatchLoop ι α} (timeout debounce : ℕ) (hpass : s.rest = none) :
      Step s (.finish timeout debounce) { s with rest := some (waitForChange timeout debounce) }
  | call {s : WatchLoop ι α} {c : WatchCall} {k : c.Answer → WatchProg Unit} {x : c.Answer}
      {seen : ℕ} (hcall : s.rest = some (.call c k)) (hanswers : s.Answers c x seen) :
      Step s (.call c) { s with rest := some (k x), seen := seen }
  | begin {s : WatchLoop ι α} (hover : s.rest = some (pure ())) :
      Step s .begin { s with rest := none, found := fun _ => [] }

end WatchLoop

/-- The loop and the reflectors, in any order.  It begins with a pass. -/
def watchLoop (ι α : Type) [DecidableEq ι] : System (WatchLoop ι α) (WatchLoop.Label ι α) where
  init s := s.rest = none ∧ (∀ i, s.found i = []) ∧ s.seen ≤ s.version
  step := WatchLoop.Step

namespace WatchLoop

variable {ι α : Type} {s s' : WatchLoop ι α} {l : Label ι α}

/-- The loop waits for a change. -/
def Waits (s : WatchLoop ι α) : Prop :=
  ∃ timeout debounce, s.rest = some (waitForChange timeout debounce)

/-- What the last pass found in a cache is what it holds, or the loop is told. -/
def Current (s : WatchLoop ι α) (i : ι) : Prop :=
  (∀ x ∈ s.found i, x = s.content i) ∨ s.announcing i = true ∨ s.seen ≠ s.version

/-- A program that does not wait for a change. -/
def Settles (p : WatchProg Unit) : Prop := p.Issues fun c => ∀ timeout, c ≠ .changed timeout

structure Inv (s : WatchLoop ι α) : Prop where
  seen_le : s.seen ≤ s.version
  rest : s.rest = none ∨ s.Waits ∨ ∃ p, s.rest = some p ∧ Settles p
  /-- While the loop settles it need not be told: a pass follows. -/
  current : s.rest = none ∨ s.Waits → ∀ i, s.Current i

lemma not_settles_waitForChange (timeout debounce : ℕ) :
    ¬ Settles (waitForChange timeout debounce) := fun h => h.1 timeout rfl

/-- After the answer, whichever it is, the loop settles. -/
lemma settles_of_waits {timeout debounce : ℕ} {c : WatchCall} {k : c.Answer → WatchProg Unit}
    (h : waitForChange timeout debounce = .call c k) (x : c.Answer) : Settles (k x) := by
  cases h
  cases x with
  | false => exact ⟨nofun, fun _ => trivial⟩
  | true => exact ⟨nofun, fun _ => ⟨nofun, fun _ => trivial⟩⟩

/-- A call leaves the loop settling, whether it was waiting before or not. -/
lemma Inv.settles (h : Inv s) {c : WatchCall} {k : c.Answer → WatchProg Unit}
    (hcall : s.rest = some (.call c k)) (x : c.Answer) : Settles (k x) := by
  rcases h.rest with hpass | ⟨timeout, debounce, hwaits⟩ | ⟨p, hp, hsettles⟩
  · rw [hpass] at hcall
    cases hcall
  · exact settles_of_waits (Option.some.inj (hwaits.symm.trans hcall)) x
  · obtain rfl := Option.some.inj (hp.symm.trans hcall)
    exact hsettles.2 x

lemma not_waits_of_settles {p : WatchProg Unit} (hp : Settles p) (h : s.rest = some p) :
    ¬ (s.rest = none ∨ s.Waits) := by
  rintro (hpass | ⟨timeout, debounce, hwaits⟩)
  · rw [hpass] at h
    cases h
  · obtain rfl := Option.some.inj (hwaits.symm.trans h)
    exact not_settles_waitForChange timeout debounce hp

variable [DecidableEq ι]

lemma Step.seen_le (hstep : Step s l s') (h : s.seen ≤ s.version) : s'.seen ≤ s'.version := by
  cases hstep with
  | receive | look | finish | begin => exact h
  | bump => exact Nat.le_succ_of_le h
  | call hcall hanswers =>
      cases hanswers with
      | changed | marked => exact Nat.le_refl _
      | timedOut | slept => exact h

lemma step_rest (h : Inv s) (hstep : Step s l s') :
    s'.rest = none ∨ s'.Waits ∨ ∃ p, s'.rest = some p ∧ Settles p := by
  cases hstep with
  | receive | bump | look => exact h.rest
  | finish timeout debounce hpass => exact .inr (.inl ⟨timeout, debounce, rfl⟩)
  | call hcall hanswers => exact .inr (.inr ⟨_, rfl, h.settles hcall _⟩)
  | begin hover => exact .inl rfl

/-- What has been found in a cache after a look at `i`. -/
lemma mem_looked {i j : ι} {x : α}
    (h : x ∈ Function.update s.found i (s.content i :: s.found i) j) :
    x = s.content j ∨ x ∈ s.found j := by
  by_cases hj : j = i
  · subst hj
    rw [Function.update_self] at h
    exact List.mem_cons.mp h
  · rw [Function.update_of_ne hj] at h
    exact .inr h

lemma step_current (h : Inv s) (hstep : Step s l s') :
    s'.rest = none ∨ s'.Waits → ∀ i, s'.Current i := by
  intro hwaits j
  cases hstep with
  | @receive i x hidle =>
      by_cases hj : j = i
      · subst hj
        exact .inr (.inl (Function.update_self j true s.announcing))
      · rcases h.current hwaits j with hsame | hannouncing | hunseen
        · refine .inl fun x hx => (hsame x hx).trans ?_
          exact (Function.update_of_ne hj _ s.content).symm
        · exact .inr (.inl ((Function.update_of_ne hj true s.announcing).trans hannouncing))
        · exact .inr (.inr hunseen)
  | bump hannouncing => exact .inr (.inr (Nat.ne_of_lt (Nat.lt_succ_of_le h.seen_le)))
  | look i hpass =>
      rcases h.current hwaits j with hsame | htold
      · refine .inl fun x hx => ?_
        rcases mem_looked hx with rfl | hx
        · rfl
        · exact hsame x hx
      · exact .inr htold
  | finish timeout debounce hpass => exact h.current (.inl hpass) j
  | call hcall hanswers => exact absurd hwaits (not_waits_of_settles (h.settles hcall _) rfl)
  | begin hover => exact .inl nofun

lemma inv_of_reachable (h : (watchLoop ι α).Reachable s) : Inv s := by
  refine h.invariant (fun s hs => ?_) fun s l s' hs hstep =>
    ⟨hstep.seen_le hs.seen_le, step_rest hs hstep, step_current hs hstep⟩
  obtain ⟨hpass, hfound, hseen⟩ := hs
  refine ⟨hseen, .inl hpass, fun _ i => .inl fun x hx => ?_⟩
  rw [hfound] at hx
  cases hx

end WatchLoop

/-- **The loop misses nothing.**  While it waits, every cache that does not hold what the last pass
found in it, on any of its looks, has a change yet to be announced, or the wait is over as soon as
the loop looks, and a pass follows. -/
theorem loop_misses_nothing {ι α : Type} [DecidableEq ι] {s : WatchLoop ι α}
    (h : (watchLoop ι α).Reachable s) {timeout debounce : ℕ}
    (hwaits : s.rest = some (waitForChange timeout debounce)) {i : ι} {x : α}
    (hfound : x ∈ s.found i) (hold : x ≠ s.content i) :
    s.announcing i = true ∨ ∃ s', WatchLoop.Step s (.call (.changed timeout)) s' ∧
      s'.rest = some (do settle debounce; markUnchanged) := by
  rcases (WatchLoop.inv_of_reachable h).current (.inr ⟨_, _, hwaits⟩) i with hsame | htold | hunseen
  · exact absurd (hsame x hfound) hold
  · exact .inl htold
  · exact .inr ⟨_, .call hwaits (.changed hunseen), rfl⟩

/-- The cache of the claims changes between two looks of a pass, and the loop is told when it
waits. -/
theorem loop_misses_nothing_told : ∃ s s' : WatchLoop String ℕ, s.found "claims" = [1, 0] ∧
    s.content "claims" = 1 ∧ s.announcing "claims" = false ∧
    WatchLoop.Step s (.call (.changed 1000)) s' := by
  have h : (watchLoop String ℕ).Reachable ⟨fun _ => 0, fun _ => false, 0, 0, none, fun _ => []⟩ :=
    .init ⟨rfl, fun _ => rfl, Nat.le_refl _⟩
  have h := h.step (WatchLoop.Step.look "claims" rfl)
  have h := h.step (WatchLoop.Step.receive (i := "claims") 1 rfl)
  have h := h.step (WatchLoop.Step.look "claims" rfl)
  have h := h.step (WatchLoop.Step.bump (i := "claims") rfl)
  have h := h.step (WatchLoop.Step.finish 1000 250 rfl)
  rcases loop_misses_nothing (i := "claims") (x := 0) h rfl (by decide) (by decide) with
    hannouncing | ⟨s', hstep, -⟩
  · cases hannouncing
  · exact ⟨_, s', rfl, rfl, rfl, hstep⟩

end AtomicUsb
