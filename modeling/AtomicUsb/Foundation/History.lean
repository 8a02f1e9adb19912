import AtomicUsb.Foundation.Program
import Mathlib.Data.List.Forall2

/-!
# Programs judged by their history

Often what a program may request depends on what it has requested and been answered before.
`Discipline.logged` is the discipline whose ghost state is that history; a judgement under it says
of every request in every run what the events before it are like (`Ensures.logged_allowed`).

The second part reads programs over one set of requests as programs over a larger one
(`Prog.embed`), and the third is about programs that can fail, `ExceptT ε (Prog ι ρ)`.
-/

namespace Prog

variable {ι κ : Type} {ρ : ι → Type} {χ : κ → Type} {ε α β γ : Type}

/-! ## History -/

/-- A request may be issued if the events before it allow it; every answer is admitted. -/
def Discipline.logged (may : List (Event ι ρ) → ι → Prop) :
    Discipline ι ρ (List (Event ι ρ)) where
  may := may
  next log i x log' := log' = log ++ [⟨i, x⟩]

variable {may : List (Event ι ρ) → ι → Prop} {log : List (Event ι ρ)}

lemma ensures_logged_call {i : ι} {k : ρ i → Prog ι ρ α} {Q : α → List (Event ι ρ) → Prop} :
    (Prog.call i k).Ensures (.logged may) log Q ↔
      may log i ∧ ∀ x, (k x).Ensures (.logged may) (log ++ [⟨i, x⟩]) Q := by
  refine and_congr_right fun _ => forall_congr' fun x => ?_
  exact ⟨fun h => h _ rfl, fun h _ hlog => hlog ▸ h⟩

lemma ensures_logged_perform {i : ι} {Q : ρ i → List (Event ι ρ) → Prop} :
    (perform i : Prog ι ρ (ρ i)).Ensures (.logged may) log Q ↔
      may log i ∧ ∀ x, Q x (log ++ [⟨i, x⟩]) :=
  ensures_logged_call

/-- The history of a run is its trace. -/
lemma evolves_logged : ∀ {tr log : List (Event ι ρ)}, Evolves (.logged may) log tr (log ++ tr)
  | [], log => List.append_nil log
  | e :: tr, log => by
      refine ⟨log ++ [e], rfl, ?_⟩
      have h : Evolves (.logged may) (log ++ [e]) tr (log ++ [e] ++ tr) := evolves_logged
      rwa [List.append_assoc] at h

/-- The history only grows. -/
lemma Ensures.logged_grows {p : Prog ι ρ α} {Q : α → List (Event ι ρ) → Prop}
    (h : p.Ensures (.logged may) log Q) :
    p.Ensures (.logged may) log fun a log' => Q a log' ∧ log <+: log' := by
  refine h.frame (I := (log <+: ·)) ?_ (List.prefix_refl log)
  rintro g i x _ rfl hprefix
  exact hprefix.trans (List.prefix_append _ _)

/-- What a judgement says about the requests of a run. -/
lemma Ensures.logged_allowed {p : Prog ι ρ α} {Q : α → List (Event ι ρ) → Prop} {a : α}
    {tr₁ tr₂ : List (Event ι ρ)} {e : Event ι ρ} (h : p.Ensures (.logged may) log Q)
    (hr : p.Runs (tr₁ ++ e :: tr₂) a) : may (log ++ tr₁) e.1 :=
  h.allowed hr evolves_logged

/-- What a judgement says about the result of a run. -/
lemma Ensures.logged_result {p : Prog ι ρ α} {Q : α → List (Event ι ρ) → Prop} {a : α}
    {tr : List (Event ι ρ)} (h : p.Ensures (.logged may) log Q) (hr : p.Runs tr a) :
    Q a (log ++ tr) :=
  h.sound hr evolves_logged

/-- Requests that are allowed after any events of their own kind. -/
lemma Issues.ensures_logged {P : ι → Prop} : ∀ {p : Prog ι ρ α} {log : List (Event ι ρ)},
    p.Issues P → (∀ tr, (∀ e ∈ tr, P e.1) → ∀ i, P i → may (log ++ tr) i) →
    p.Ensures (.logged may) log fun a log' =>
      ∃ tr, log' = log ++ tr ∧ (∀ e ∈ tr, P e.1) ∧ p.Runs tr a
  | .pure _, log, _, _ => ⟨[], (List.append_nil log).symm, by simp, rfl, rfl⟩
  | .call i k, log, h, hmay => by
      refine ensures_logged_call.mpr ⟨?_, fun x => ?_⟩
      · have hhere := hmay [] (by simp) i h.1
        rwa [List.append_nil] at hhere
      · refine ((h.2 x).ensures_logged fun tr htr j hj => ?_).mono ?_
        · rw [List.append_assoc]
          exact hmay _ (List.forall_mem_cons.mpr ⟨h.1, htr⟩) j hj
        · rintro a _ ⟨tr, rfl, htr, hruns⟩
          refine ⟨⟨i, x⟩ :: tr, by simp, List.forall_mem_cons.mpr ⟨h.1, htr⟩, x, tr, rfl, hruns⟩

/-- What the requests of a program are like, beside a judgement about it. -/
lemma Ensures.logged_issues {P : ι → Prop} {Q : α → List (Event ι ρ) → Prop} :
    ∀ {p : Prog ι ρ α} {log : List (Event ι ρ)}, p.Ensures (.logged may) log Q → p.Issues P →
      p.Ensures (.logged may) log fun a log' =>
        Q a log' ∧ ∃ tr, log' = log ++ tr ∧ ∀ e ∈ tr, P e.1
  | .pure _, log, h, _ => ⟨h, [], (List.append_nil log).symm, by simp⟩
  | .call i k, log, h, hp => by
      obtain ⟨hi, hk⟩ := ensures_logged_call.mp h
      refine ensures_logged_call.mpr ⟨hi, fun x => ((hk x).logged_issues (hp.2 x)).mono ?_⟩
      rintro a _ ⟨hQ, tr, rfl, htr⟩
      exact ⟨hQ, ⟨i, x⟩ :: tr, by simp, List.forall_mem_cons.mpr ⟨hp.1, htr⟩⟩

/-- Requests that are only issued if there was none of their kind before are issued once at most. -/
lemma Ensures.logged_once {P : ι → Bool} {Q : α → List (Event ι ρ) → Prop}
    (hfirst : ∀ log i, may log i → P i = true → ∀ e ∈ log, P e.1 = false) :
    ∀ {p : Prog ι ρ α} {log : List (Event ι ρ)}, p.Ensures (.logged may) log Q →
      log.countP (fun e => P e.1) ≤ 1 →
      p.Ensures (.logged may) log fun a log' => Q a log' ∧ log'.countP (fun e => P e.1) ≤ 1
  | .pure _, _, h, hlog => ⟨h, hlog⟩
  | .call i k, log, h, hlog => by
      obtain ⟨hi, hk⟩ := ensures_logged_call.mp h
      refine ensures_logged_call.mpr ⟨hi, fun x => (hk x).logged_once hfirst ?_⟩
      rw [List.countP_append, List.countP_singleton]
      split_ifs with hP
      · have hnone : log.countP (fun e => P e.1) = 0 :=
          List.countP_eq_zero.mpr fun e he => by simp [hfirst log i hi hP e he]
        omega
      · omega

/-! ## A larger set of requests -/

/-- The same program, its requests renamed. -/
def embed (f : ι → κ) (answer : (i : ι) → χ (f i) → ρ i) : Prog ι ρ α → Prog κ χ α
  | .pure a => Pure.pure a
  | .call i k => .call (f i) fun x => (k (answer i x)).embed f answer

variable {f : ι → κ} {answer : (i : ι) → χ (f i) → ρ i}

/-- The events of a program under their new names. -/
def Renamed (f : ι → κ) (answer : (i : ι) → χ (f i) → ρ i) (e : Event κ χ) (e' : Event ι ρ) :
    Prop :=
  ∃ x, e = ⟨f e'.1, x⟩ ∧ answer e'.1 x = e'.2

/-- A judgement about a program is one about the renamed program, if the new discipline allows under
its new name what the old one allowed. -/
lemma Ensures.embed {may' : List (Event κ χ) → κ → Prop} :
    ∀ {p : Prog ι ρ α} {log : List (Event ι ρ)} {log' : List (Event κ χ)}
      {Q : α → List (Event ι ρ) → Prop}, p.Ensures (.logged may) log Q →
    (∀ tr tr' i, List.Forall₂ (Renamed f answer) tr tr' → may (log ++ tr') i →
      may' (log' ++ tr) (f i)) →
    (p.embed f answer).Ensures (.logged may') log' fun a log'' => ∃ tr tr', log'' = log' ++ tr ∧
      List.Forall₂ (Renamed f answer) tr tr' ∧ Q a (log ++ tr')
  | .pure _, log, log', _, h, _ =>
      ⟨[], [], (List.append_nil log').symm, .nil, (List.append_nil log).symm ▸ h⟩
  | .call i k, log, log', Q, h, hmay => by
      obtain ⟨hi, hk⟩ := ensures_logged_call.mp h
      refine ensures_logged_call.mpr ⟨?_, fun x => ?_⟩
      · have hhere := hmay [] [] i .nil (by rwa [List.append_nil])
        rwa [List.append_nil] at hhere
      · refine ((hk (answer i x)).embed fun tr tr' j hren hj => ?_).mono ?_
        · rw [List.append_assoc] at hj ⊢
          exact hmay _ _ j (.cons ⟨x, rfl, rfl⟩ hren) hj
        · rintro a _ ⟨tr, tr', rfl, hren, hQ⟩
          rw [List.append_assoc] at hQ
          exact ⟨⟨f i, x⟩ :: tr, ⟨i, answer i x⟩ :: tr', by simp, .cons ⟨x, rfl, rfl⟩ hren, hQ⟩

/-! ## Programs that can fail -/

variable {D : Discipline ι ρ γ} {g : γ}

lemma ensures_lift {p : Prog ι ρ α} {Q : Except ε α → γ → Prop} :
    (ExceptT.lift p : ExceptT ε (Prog ι ρ) α).run.Ensures D g Q ↔
      p.Ensures D g fun a g' => Q (.ok a) g' := by
  show (p >>= fun a => Pure.pure (Except.ok a)).Ensures D g Q ↔ _
  exact ensures_bind

/-- The sequencing rule: a failure skips the rest. -/
lemma ensures_except_bind {x : ExceptT ε (Prog ι ρ) α} {q : α → ExceptT ε (Prog ι ρ) β}
    {Q : Except ε β → γ → Prop} :
    (x >>= q).run.Ensures D g Q ↔ x.run.Ensures D g fun r g' =>
      (∀ a, r = .ok a → (q a).run.Ensures D g' Q) ∧ ∀ e, r = .error e → Q (.error e) g' := by
  show (x.run >>= ExceptT.bindCont q).Ensures D g Q ↔ _
  rw [ensures_bind]
  constructor
  · refine Ensures.mono fun r g' h => ?_
    cases r with
    | ok a => exact ⟨fun _ heq => Except.ok.inj heq ▸ h, nofun⟩
    | error e => exact ⟨nofun, fun _ heq => Except.error.inj heq ▸ h⟩
  · refine Ensures.mono fun r g' h => ?_
    cases r with
    | ok a => exact h.1 a rfl
    | error e => exact h.2 e rfl

end Prog
