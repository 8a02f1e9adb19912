import Mathlib.Data.List.Basic
import Mathlib.Tactic.Common

/-!
# Programs that call an environment

A `Prog ι ρ α` is a terminating program that issues requests `i : ι` one at a time, is
answered with some `x : ρ i`, and finally returns an `α`.  Nothing is said about who answers:
the same program can be followed under arbitrary answers (`Prog.Runs`), executed against a
deterministic environment (`Prog.exec`), or taken as the continuation of one party among many
in an interleaving.

`Prog.Ensures` is the program logic.  It carries a ghost state `g : γ`, checks a `Discipline`
at every request and follows the ghost along every answer the discipline admits.  The rules are
those of a weakest-precondition calculus — `ensures_bind`, `Ensures.mono`, `Ensures.frame` — and
`Ensures.sound` and `Ensures.exec` read a proved judgement back on traces and executions.
-/

/-- A program issuing requests `i : ι`, answered in `ρ i`, and returning an `α`. -/
inductive Prog (ι : Type) (ρ : ι → Type) (α : Type)
  /-- Return without further requests. -/
  | pure (a : α)
  /-- Issue the request `i` and continue with the answer. -/
  | call (i : ι) (k : ρ i → Prog ι ρ α)

namespace Prog

variable {ι : Type} {ρ : ι → Type} {α β σ τ γ : Type}

/-- Sequencing: graft `f` onto every leaf. -/
def bind : Prog ι ρ α → (α → Prog ι ρ β) → Prog ι ρ β
  | .pure a, f => f a
  | .call i k, f => .call i (fun x => (k x).bind f)

instance : Monad (Prog ι ρ) where
  pure := Prog.pure
  bind := Prog.bind

/-- Issue one request and return its answer. -/
def perform (i : ι) : Prog ι ρ (ρ i) := .call i .pure

@[simp] lemma pure_bind' (a : α) (f : α → Prog ι ρ β) :
    ((Pure.pure a : Prog ι ρ α) >>= f) = f a := rfl

@[simp] lemma call_bind (i : ι) (k : ρ i → Prog ι ρ α) (f : α → Prog ι ρ β) :
    (Prog.call i k >>= f) = .call i (fun x => k x >>= f) := rfl

@[simp] lemma perform_bind (i : ι) (f : ρ i → Prog ι ρ β) :
    (perform i >>= f) = .call i f := rfl

/-- The request a program is about to issue. -/
def head? : Prog ι ρ α → Option ι
  | .pure _ => none
  | .call i _ => some i

lemma exists_call_of_head? {p : Prog ι ρ α} {i : ι} (h : p.head? = some i) :
    ∃ k, p = .call i k := by
  cases p with
  | pure a => cases h
  | call j k =>
      cases h
      exact ⟨k, rfl⟩

lemma exists_pure_of_head? {p : Prog ι ρ α} (h : p.head? = none) : ∃ a, p = Pure.pure a := by
  cases p with
  | pure a => exact ⟨a, rfl⟩
  | call j k => cases h

/-- A sequence without requests consists of parts without requests. -/
lemma bind_eq_pure {p : Prog ι ρ α} {f : α → Prog ι ρ β} {b : β} (h : (p >>= f) = Pure.pure b) :
    ∃ a, p = Pure.pure a ∧ f a = Pure.pure b := by
  cases p with
  | pure a => exact ⟨a, rfl, h⟩
  | call i k => cases h

/-! ## Traces -/

/-- A request together with the answer it received. -/
abbrev Event (ι : Type) (ρ : ι → Type) := (i : ι) × ρ i

/-- `p.Runs tr a`: answered as recorded in `tr`, the program `p` issues exactly the requests of
`tr` and returns `a`. -/
def Runs : Prog ι ρ α → List (Event ι ρ) → α → Prop
  | .pure a, tr, b => tr = [] ∧ b = a
  | .call i k, tr, b => ∃ x tr', tr = ⟨i, x⟩ :: tr' ∧ (k x).Runs tr' b

@[simp] lemma runs_pure {a b : α} {tr : List (Event ι ρ)} :
    (Pure.pure a : Prog ι ρ α).Runs tr b ↔ tr = [] ∧ b = a := Iff.rfl

@[simp] lemma runs_call {i : ι} {k : ρ i → Prog ι ρ α} {tr : List (Event ι ρ)} {b : α} :
    (Prog.call i k).Runs tr b ↔ ∃ x tr', tr = ⟨i, x⟩ :: tr' ∧ (k x).Runs tr' b := Iff.rfl

/-- A run of a sequence splits into a run of each part. -/
lemma runs_bind {f : α → Prog ι ρ β} {b : β} :
    ∀ {p : Prog ι ρ α} {tr : List (Event ι ρ)},
      (p >>= f).Runs tr b ↔ ∃ tr₁ tr₂ a, tr = tr₁ ++ tr₂ ∧ p.Runs tr₁ a ∧ (f a).Runs tr₂ b
  | .pure a, tr => by
      constructor
      · intro h
        exact ⟨[], tr, a, rfl, ⟨rfl, rfl⟩, h⟩
      · rintro ⟨tr₁, tr₂, a', rfl, ⟨rfl, rfl⟩, h⟩
        exact h
  | .call i k, tr => by
      constructor
      · rintro ⟨x, tr', rfl, h⟩
        obtain ⟨tr₁, tr₂, a, rfl, h₁, h₂⟩ := runs_bind.mp h
        exact ⟨⟨i, x⟩ :: tr₁, tr₂, a, rfl, ⟨x, tr₁, rfl, h₁⟩, h₂⟩
      · rintro ⟨_, tr₂, a, rfl, ⟨x, tr₁, rfl, h₁⟩, h₂⟩
        exact ⟨x, tr₁ ++ tr₂, rfl, runs_bind.mpr ⟨tr₁, tr₂, a, rfl, h₁, h₂⟩⟩

/-- Whatever the answers, every request the program issues satisfies `P`. -/
def Issues (P : ι → Prop) : Prog ι ρ α → Prop
  | .pure _ => True
  | .call i k => P i ∧ ∀ x, (k x).Issues P

lemma Issues.head {P : ι → Prop} {p : Prog ι ρ α} {i : ι} (hp : p.Issues P)
    (hi : p.head? = some i) : P i := by
  obtain ⟨k, rfl⟩ := exists_call_of_head? hi
  exact hp.1

lemma Issues.mono {P Q : ι → Prop} (hPQ : ∀ i, P i → Q i) :
    ∀ {p : Prog ι ρ α}, p.Issues P → p.Issues Q
  | .pure _, _ => trivial
  | .call i _, hp => ⟨hPQ i hp.1, fun x => (hp.2 x).mono hPQ⟩

lemma Issues.bind {P : ι → Prop} {f : α → Prog ι ρ β} :
    ∀ {p : Prog ι ρ α}, p.Issues P → (∀ a, (f a).Issues P) → (p >>= f).Issues P
  | .pure a, _, hf => hf a
  | .call _ _, hp, hf => ⟨hp.1, fun x => (hp.2 x).bind hf⟩

lemma Issues.of_runs {P : ι → Prop} {a : α} : ∀ {p : Prog ι ρ α} {tr : List (Event ι ρ)},
    p.Issues P → p.Runs tr a → ∀ e ∈ tr, P e.1
  | .pure _, _, _, ⟨rfl, _⟩, e, he => absurd he List.not_mem_nil
  | .call _ _, _, hp, ⟨x, tr', rfl, hr⟩, e, he => by
      rcases List.mem_cons.mp he with rfl | he
      · exact hp.1
      · exact (hp.2 x).of_runs hr e he

/-- Follow the program under answers fixed in advance, keeping the trace. -/
def follow (answer : (i : ι) → ρ i) : Prog ι ρ α → List (Event ι ρ) × α
  | .pure a => ([], a)
  | .call i k =>
    (⟨i, answer i⟩ :: ((k (answer i)).follow answer).1, ((k (answer i)).follow answer).2)

lemma runs_follow (answer : (i : ι) → ρ i) :
    ∀ p : Prog ι ρ α, p.Runs (p.follow answer).1 (p.follow answer).2
  | .pure _ => ⟨rfl, rfl⟩
  | .call i k => ⟨answer i, _, rfl, runs_follow answer (k (answer i))⟩

/-! ## The program logic -/

/-- What a request must satisfy in a ghost state, and how the ghost state may evolve with the
answer.  `next` is also where assumptions on the environment go: an answer it does not admit is
not considered. -/
structure Discipline (ι : Type) (ρ : ι → Type) (γ : Type) where
  /-- The request may be issued in this ghost state. -/
  may : γ → ι → Prop
  /-- The ghost states an answered request can lead to. -/
  next : γ → (i : ι) → ρ i → γ → Prop

variable {D : Discipline ι ρ γ}

/-- From the ghost state `g`, every request of the program is allowed by `D`, whatever the
answers `D` admits, and every return value satisfies `Q` together with the final ghost state. -/
def Ensures (D : Discipline ι ρ γ) : Prog ι ρ α → γ → (α → γ → Prop) → Prop
  | .pure a, g, Q => Q a g
  | .call i k, g, Q => D.may g i ∧ ∀ x g', D.next g i x g' → (k x).Ensures D g' Q

@[simp] lemma ensures_call {i : ι} {k : ρ i → Prog ι ρ α} {g : γ} {Q : α → γ → Prop} :
    (Prog.call i k).Ensures D g Q ↔
      D.may g i ∧ ∀ x g', D.next g i x g' → (k x).Ensures D g' Q := Iff.rfl

/-- The sequencing rule. -/
lemma ensures_bind {f : α → Prog ι ρ β} {Q : β → γ → Prop} :
    ∀ {p : Prog ι ρ α} {g : γ},
      (p >>= f).Ensures D g Q ↔ p.Ensures D g (fun a g' => (f a).Ensures D g' Q)
  | .pure _, _ => Iff.rfl
  | .call i k, g => by
      show (D.may g i ∧ ∀ x g', D.next g i x g' → (k x >>= f).Ensures D g' Q) ↔ _
      refine and_congr_right fun _ => forall_congr' fun x => forall_congr' fun g' => ?_
      exact imp_congr_right fun _ => ensures_bind

/-- The consequence rule. -/
lemma Ensures.mono {Q Q' : α → γ → Prop} (hQ : ∀ a g, Q a g → Q' a g) :
    ∀ {p : Prog ι ρ α} {g : γ}, p.Ensures D g Q → p.Ensures D g Q'
  | .pure a, g, h => hQ a g h
  | .call _ _, _, h => ⟨h.1, fun x g' hn => (h.2 x g' hn).mono hQ⟩

/-- What every admitted answer keeps is still there in the end. -/
lemma Ensures.frame {Q : α → γ → Prop} {I : γ → Prop}
    (hI : ∀ g i x g', D.next g i x g' → I g → I g') :
    ∀ {p : Prog ι ρ α} {g : γ}, p.Ensures D g Q → I g → p.Ensures D g fun a g' => Q a g' ∧ I g'
  | .pure _, _, h, hg => ⟨h, hg⟩
  | .call i _, g, h, hg => ⟨h.1, fun x g' hn => (h.2 x g' hn).frame hI (hI g i x g' hn hg)⟩

/-- Sequencing after a part that nothing has to be known about. -/
lemma ensures_bind_of_forall {p : Prog ι ρ α} {f : α → Prog ι ρ β} {g : γ} {Q : β → γ → Prop}
    (hp : p.Ensures D g fun _ _ => True) (hf : ∀ a g', (f a).Ensures D g' Q) :
    (p >>= f).Ensures D g Q :=
  ensures_bind.mpr (hp.mono fun a g' _ => hf a g')

/-- A judgement survives a change of the ghost state that forbids no request and admits no new
answer. -/
lemma Ensures.of_le {R : γ → γ → Prop} {Q : α → γ → Prop}
    (hmay : ∀ g g' i, R g g' → D.may g i → D.may g' i)
    (hnext : ∀ g g' i x g₁, R g g' → D.next g' i x g₁ → D.next g i x g₁)
    (hQ : ∀ a g g', R g g' → Q a g → Q a g') :
    ∀ {p : Prog ι ρ α} {g g' : γ}, R g g' → p.Ensures D g Q → p.Ensures D g' Q
  | .pure a, g, g', hR, h => hQ a g g' hR h
  | .call i _, g, g', hR, h =>
      ⟨hmay g g' i hR h.1, fun x g₁ hn => h.2 x g₁ (hnext g g' i x g₁ hR hn)⟩

/-- The ghost state follows a trace. -/
def Evolves (D : Discipline ι ρ γ) : γ → List (Event ι ρ) → γ → Prop
  | g, [], g' => g' = g
  | g, ⟨i, x⟩ :: tr, g' => ∃ g₁, D.next g i x g₁ ∧ Evolves D g₁ tr g'

/-- What every event of a trace keeps is kept by the trace. -/
lemma Evolves.keeps {I : γ → Prop} {g' : γ} : ∀ {tr : List (Event ι ρ)} {g : γ},
    Evolves D g tr g' → (∀ e ∈ tr, ∀ g g', D.next g e.1 e.2 g' → I g → I g') → I g → I g'
  | [], _, rfl, _, hg => hg
  | e :: _, g, ⟨g₁, hn, he⟩, h, hg =>
      he.keeps (fun e' he' => h e' (List.mem_cons_of_mem _ he'))
        (h e List.mem_cons_self g g₁ hn hg)

/-- What a proved judgement says about a run that the ghost state can follow: the result
satisfies the postcondition. -/
lemma Ensures.sound {Q : α → γ → Prop} {a : α} {g' : γ} :
    ∀ {p : Prog ι ρ α} {g : γ} {tr : List (Event ι ρ)},
      p.Ensures D g Q → p.Runs tr a → Evolves D g tr g' → Q a g'
  | .pure _, _, _, h, ⟨rfl, rfl⟩, rfl => h
  | .call _ _, _, _, h, ⟨x, _, rfl, hr⟩, ⟨g₁, hn, he⟩ => (h.2 x g₁ hn).sound hr he

/-- … and each of its requests was allowed when it was issued. -/
lemma Ensures.allowed {Q : α → γ → Prop} {a : α} :
    ∀ {p : Prog ι ρ α} {g g₁ : γ} {tr₁ tr₂ : List (Event ι ρ)} {e : Event ι ρ},
      p.Ensures D g Q → p.Runs (tr₁ ++ e :: tr₂) a → Evolves D g tr₁ g₁ → D.may g₁ e.1
  | .pure _, _, _, tr₁, _, _, _, ⟨h, _⟩, _ => by simp at h
  | .call _ _, _, _, [], _, _, h, ⟨_, _, heq, _⟩, rfl => by
      cases heq
      exact h.1
  | .call _ _, _, _, _ :: _, _, _, h, ⟨x, _, heq, hr⟩, he => by
      cases heq
      obtain ⟨g₂, hn, he'⟩ := he
      exact (h.2 x g₂ hn).allowed hr he'

/-! ## Execution against a deterministic environment -/

/-- Execute the program against an environment that answers from its own state. -/
def exec (h : (i : ι) → σ → ρ i × σ) : Prog ι ρ α → σ → α × σ
  | .pure a, s => (a, s)
  | .call i k, s => (k (h i s).1).exec h (h i s).2

variable {h : (i : ι) → σ → ρ i × σ}

@[simp] lemma exec_call (i : ι) (k : ρ i → Prog ι ρ α) (s : σ) :
    (Prog.call i k).exec h s = (k (h i s).1).exec h (h i s).2 := rfl

lemma exec_bind (f : α → Prog ι ρ β) :
    ∀ (p : Prog ι ρ α) (s : σ), (p >>= f).exec h s = (f (p.exec h s).1).exec h (p.exec h s).2
  | .pure _, _ => rfl
  | .call _ k, _ => exec_bind f (k _) _

/-- What the program requests and is answered in an execution. -/
def trace (h : (i : ι) → σ → ρ i × σ) : Prog ι ρ α → σ → List (Event ι ρ)
  | .pure _, _ => []
  | .call i k, s => ⟨i, (h i s).1⟩ :: (k (h i s).1).trace h (h i s).2

lemma runs_trace : ∀ (p : Prog ι ρ α) (s : σ), p.Runs (p.trace h s) (p.exec h s).1
  | .pure _, _ => ⟨rfl, rfl⟩
  | .call _ k, _ => ⟨_, _, rfl, runs_trace (k _) _⟩

/-- An environment that answers as the ghost state allows is followed by it. -/
lemma evolves_trace {D : Discipline ι ρ σ} (hD : ∀ i s, D.next s i (h i s).1 (h i s).2) :
    ∀ (p : Prog ι ρ α) (s : σ), Evolves D s (p.trace h s) (p.exec h s).2
  | .pure _, _ => rfl
  | .call i k, s => ⟨_, hD i s, evolves_trace hD (k _) _⟩

/-- The discipline of a deterministic environment: its own state is the ghost. -/
def Discipline.ofHandler (may : σ → ι → Prop) (h : (i : ι) → σ → ρ i × σ) :
    Discipline ι ρ σ where
  may := may
  next s i x s' := (x, s') = h i s

/-- A judgement against a deterministic environment is a statement about its execution. -/
lemma Ensures.exec {may : σ → ι → Prop} {Q : α → σ → Prop} :
    ∀ {p : Prog ι ρ α} {s : σ},
      p.Ensures (Discipline.ofHandler may h) s Q → Q (p.exec h s).1 (p.exec h s).2
  | .pure _, _, hp => hp
  | .call i _, s, hp => (hp.2 (h i s).1 (h i s).2 rfl).exec

end Prog
