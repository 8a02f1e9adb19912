import AtomicUsb.Agent.Exporter

/-!
# One session per device

Registration, cancellation and the lock of a device are three mechanisms that different steps of
a task update.  The invariant `SessionInv` ties them together: ids of sessions are never shared,
a session that is no longer registered has been cancelled, and only the holder of a device's lock
is past it.  From it follows `one_session_per_device`: one task at a time serves a device, the
latest registration wins, and a task that leaves takes back no registration but its own.
-/

namespace AtomicUsb

/-- The id a task is registered under, between `beginSession` and `endSession`. -/
def Stage.session? : Stage → Option ℕ
  | .waiting id => some id
  | .locked id => some id
  | .serving id => some id
  | .leaving id _ => some id
  | _ => none

/-- The task has the lock of its device. -/
def Stage.holdsLock : Stage → Bool
  | .locked _ => true
  | .serving _ => true
  | _ => false

namespace Exporter

/-- Task `t` is between its `beginSession` and its `endSession`, for this device and with this
id. -/
def InSession (s : Exporter) (t : ℕ) (device : String) (id : ℕ) : Prop :=
  ∃ task, s.tasks t = some task ∧ task.hello.device = device ∧ task.stage.session? = some id

def Serving (s : Exporter) (t : ℕ) (device : String) : Prop :=
  ∃ task id, s.tasks t = some task ∧ task.hello.device = device ∧ task.stage = .serving id

structure SessionInv (s : Exporter) : Prop where
  fresh : ∀ t d id, s.InSession t d id → id < s.nextId
  unique : ∀ t t' d d' id, s.InSession t d id → s.InSession t' d' id → t = t'
  active : ∀ d a, (s.sessions d).active = some a → a.id < s.nextId ∧ s.registered d = some a.id
  current : ∀ t d id, s.InSession t d id →
    (∃ a, (s.sessions d).active = some a ∧ a.id = id) ∨ s.cancelled id = true
  busy : ∀ t task, s.tasks t = some task → task.stage.holdsLock = true →
    (s.sessions task.hello.device).busy = some t

variable {ctx : ExporterContext} {s s' : Exporter} {t : ℕ} {hello : Hello}

/-! ## Steps that register nobody -/

/-- Nobody new is registered, no registration changes, and cancelled tokens stay so. -/
lemma SessionInv.of_le (h : s.SessionInv)
    (hin : ∀ t d id, s'.InSession t d id → s.InSession t d id)
    (hactive : ∀ d, (s'.sessions d).active = (s.sessions d).active)
    (hcancel : ∀ id, s.cancelled id = true → s'.cancelled id = true)
    (hnext : s'.nextId = s.nextId) (hreg : s'.registered = s.registered)
    (hbusy : ∀ t task, s'.tasks t = some task → task.stage.holdsLock = true →
      (s'.sessions task.hello.device).busy = some t) : s'.SessionInv where
  fresh t d id ht := hnext ▸ h.fresh t d id (hin t d id ht)
  unique t t' d d' id ht ht' := h.unique t t' d d' id (hin _ _ _ ht) (hin _ _ _ ht')
  active d a ha := by
    rw [hnext, hreg]
    exact h.active d a (hactive d ▸ ha)
  current t d id ht := by
    rw [hactive d]
    exact (h.current t d id (hin t d id ht)).imp_right (hcancel id)
  busy := hbusy

/-- The stage a task goes on to belongs to no session, or to the one it was in. -/
def StaysIn (s : Exporter) (t : ℕ) (hello : Hello) (stage : Stage) : Prop :=
  stage.session? = none ∨ ∃ old, s.tasks t = some ⟨hello, old⟩ ∧ stage.session? = old.session?

lemma goOn_inSession {outcome : Except String Stage}
    (hstage : ∀ stage, outcome = .ok stage → s.StaysIn t hello stage) {t' : ℕ} {d : String}
    {id : ℕ} (h : (s.goOn t hello outcome).InSession t' d id) : s.InSession t' d id := by
  obtain ⟨task', htask', hd, hid⟩ := h
  by_cases heq : t' = t
  · subst heq
    simp only [goOn, Function.update_self, Option.some.injEq] at htask'
    subst htask'
    cases outcome with
    | error e => cases hid
    | ok stage =>
        rcases hstage stage rfl with hnone | ⟨old, hold, hsame⟩
        · rw [hnone] at hid
          cases hid
        · exact ⟨⟨hello, old⟩, hold, hd, hsame.symm.trans hid⟩
  · simp only [goOn, Function.update_of_ne heq] at htask'
    exact ⟨task', htask', hd, hid⟩

lemma goOn_busy {outcome : Except String Stage}
    (hothers : ∀ t' task, t' ≠ t → s.tasks t' = some task → task.stage.holdsLock = true →
      (s.sessions task.hello.device).busy = some t')
    (hself : ∀ stage, outcome = .ok stage → stage.holdsLock = true →
      (s.sessions hello.device).busy = some t) (t' : ℕ) (task : Task)
    (htask : (s.goOn t hello outcome).tasks t' = some task) (hlock : task.stage.holdsLock = true) :
    ((s.goOn t hello outcome).sessions task.hello.device).busy = some t' := by
  by_cases heq : t' = t
  · subst heq
    simp only [goOn, Function.update_self, Option.some.injEq] at htask
    subst htask
    cases outcome with
    | error e => cases hlock
    | ok stage => exact hself stage rfl hlock
  · simp only [goOn, Function.update_of_ne heq] at htask
    exact hothers t' task heq htask hlock

/-- A step of a task outside the lock of its device. -/
lemma SessionInv.goOn (h : s.SessionInv) {outcome : Except String Stage}
    (hstage : ∀ stage, outcome = .ok stage → s.StaysIn t hello stage)
    (hself : ∀ stage, outcome = .ok stage → stage.holdsLock = true →
      (s.sessions hello.device).busy = some t) : (s.goOn t hello outcome).SessionInv :=
  h.of_le (fun _ _ _ => goOn_inSession hstage) (fun _ => rfl) (fun _ h => h) rfl rfl
    (goOn_busy (fun t' task _ => h.busy t' task) hself)

lemma setBusy_active (device : String) (holder : Option ℕ) (d : String) :
    ((s.setBusy device holder).sessions d).active = (s.sessions d).active := by
  by_cases hd : d = device
  · subst hd
    simp [setBusy, withSessions]
  · simp [setBusy, withSessions, hd]

lemma setBusy_busy_self (device : String) (holder : Option ℕ) :
    ((s.setBusy device holder).sessions device).busy = holder := by
  simp [setBusy, withSessions]

/-- A step of a task that takes or releases the lock: nobody else has it. -/
lemma SessionInv.setBusy (h : s.SessionInv) {holder : Option ℕ} {stage : Stage}
    (hstage : s.StaysIn t hello stage)
    (hfree : ∀ t', t' ≠ t → (s.sessions hello.device).busy ≠ some t')
    (hself : stage.holdsLock = true → holder = some t) :
    ((s.setBusy hello.device holder).goOn t hello (.ok stage)).SessionInv := by
  have hin : ∀ t' d id, ((s.setBusy hello.device holder).goOn t hello
      (.ok stage)).InSession t' d id → s.InSession t' d id := by
    intro t' d id hin
    have hstays : ∀ stage', (.ok stage : Except String Stage) = .ok stage' →
        (s.setBusy hello.device holder).StaysIn t hello stage' := by
      rintro _ ⟨⟩
      exact hstage
    exact goOn_inSession hstays hin
  refine h.of_le hin (setBusy_active _ _) (fun _ h => h) rfl rfl
    (goOn_busy (fun t' task hne htask hlock => ?_) fun stage' hstage' hlock => ?_)
  · have hbusy := h.busy t' task htask hlock
    have hdevice : task.hello.device ≠ hello.device :=
      fun heq => hfree t' hne (heq ▸ hbusy)
    simp only [Exporter.setBusy, withSessions, Function.update_of_ne hdevice]
    exact hbusy
  · cases hstage'
    rw [setBusy_busy_self]
    exact hself hlock

/-! ## Registering and leaving -/

lemma beginSession_inSession {device : UsbDeviceInfo} {t' : ℕ} {d : String} {id : ℕ}
    (h : (s.beginSession t hello device).InSession t' d id) :
    (t' ≠ t ∧ s.InSession t' d id) ∨ (t' = t ∧ d = hello.device ∧ id = s.nextId) := by
  obtain ⟨task, htask, hd, hid⟩ := h
  by_cases heq : t' = t
  · subst heq
    simp only [beginSession, Function.update_self, Option.some.injEq] at htask
    subst htask
    exact Or.inr ⟨rfl, hd.symm, (Option.some.inj hid).symm⟩
  · simp only [beginSession, Function.update_of_ne heq] at htask
    exact Or.inl ⟨heq, task, htask, hd, hid⟩

/-- Registering cancels the session it replaces and no other. -/
lemma beginSession_cancelled {device : UsbDeviceInfo} {id : ℕ} :
    (s.beginSession t hello device).cancelled id = true ↔
      s.cancelled id = true ∨ ∃ a, (s.sessions hello.device).active = some a ∧ a.id = id := by
  cases hact : (s.sessions hello.device).active with
  | none => simp [beginSession, hact]
  | some previous =>
      by_cases hid : id = previous.id
      · subst hid
        simp [beginSession, hact]
      · simp [beginSession, hact, Function.update_of_ne hid, Ne.symm hid]

lemma SessionInv.beginSession (h : s.SessionInv) (device : UsbDeviceInfo) :
    (s.beginSession t hello device).SessionInv where
  fresh t' d id hin := by
    show id < s.nextId + 1
    rcases beginSession_inSession hin with ⟨-, hin⟩ | ⟨-, -, rfl⟩
    · exact Nat.lt_succ_of_lt (h.fresh t' d id hin)
    · exact Nat.lt_succ_self _
  unique t₁ t₂ d d' id h₁ h₂ := by
    rcases beginSession_inSession h₁ with ⟨-, hold₁⟩ | ⟨heq₁, -, hid₁⟩ <;>
      rcases beginSession_inSession h₂ with ⟨-, hold₂⟩ | ⟨heq₂, -, hid₂⟩
    · exact h.unique _ _ _ _ _ hold₁ hold₂
    · exact absurd (h.fresh _ _ _ hold₁) (by omega)
    · exact absurd (h.fresh _ _ _ hold₂) (by omega)
    · exact heq₁.trans heq₂.symm
  active d a ha := by
    by_cases hd : d = hello.device
    · subst hd
      simp only [Exporter.beginSession, Function.update_self, Option.some.injEq] at ha
      subst ha
      exact ⟨Nat.lt_succ_self _, by simp [Exporter.beginSession]⟩
    · simp only [Exporter.beginSession, Function.update_of_ne hd] at ha ⊢
      exact ⟨Nat.lt_succ_of_lt (h.active d a ha).1, (h.active d a ha).2⟩
  current t' d id hin := by
    rw [beginSession_cancelled]
    rcases beginSession_inSession hin with ⟨-, hin⟩ | ⟨-, rfl, rfl⟩
    · rcases h.current t' d id hin with ⟨a, ha, rfl⟩ | hcancel
      · by_cases hd : d = hello.device
        · -- the session that is being replaced gets its token cancelled
          subst hd
          exact Or.inr (Or.inr ⟨a, ha, rfl⟩)
        · left
          exact ⟨a, by simpa [Exporter.beginSession, hd] using ha, rfl⟩
      · exact Or.inr (Or.inl hcancel)
    · left
      refine ⟨⟨s.nextId, s!"{hello.claim.ns}/{hello.claim.name}", device.busDev⟩, ?_, rfl⟩
      simp [Exporter.beginSession]
  busy t' task htask hlock := by
    have hsame : ((s.beginSession t hello device).sessions task.hello.device).busy =
        (s.sessions task.hello.device).busy := by
      by_cases hd : task.hello.device = hello.device
      · simp [Exporter.beginSession, hd]
      · simp [Exporter.beginSession, hd]
    rw [hsame]
    by_cases heq : t' = t
    · subst heq
      simp only [Exporter.beginSession, Function.update_self, Option.some.injEq] at htask
      subst htask
      cases hlock
    · simp only [Exporter.beginSession, Function.update_of_ne heq] at htask
      exact h.busy t' task htask hlock

/-- What is left of the registrations when a session ends. -/
lemma endSession_active {device d : String} {id : ℕ} {a : ActiveSession} :
    ((s.endSession device id).sessions d).active = some a ↔
      (s.sessions d).active = some a ∧ ¬ (d = device ∧ a.id = id) := by
  unfold endSession
  cases hact : (s.sessions device).active with
  | none =>
      rw [Option.any_none, if_neg Bool.false_ne_true]
      refine ⟨fun h => ⟨h, ?_⟩, fun h => h.1⟩
      rintro ⟨rfl, -⟩
      rw [hact] at h
      cases h
  | some b =>
      simp only [Option.any_some, beq_iff_eq]
      by_cases hd : d = device
      · subst hd
        split_ifs with hid
        · simp only [withSessions, Function.update_self, reduceCtorEq, false_iff, not_and, not_not,
            true_and]
          intro h
          rw [hact, Option.some.injEq] at h
          rwa [← h]
        · simp only [hact, Option.some.injEq, true_and]
          constructor
          · rintro rfl
            exact ⟨rfl, hid⟩
          · exact fun h => h.1
      · split_ifs with hid
        · simp [withSessions, hd]
        · simp [hd]

lemma endSession_busy {device d : String} {id : ℕ} :
    ((s.endSession device id).sessions d).busy = (s.sessions d).busy := by
  unfold endSession
  split_ifs
  · by_cases hd : d = device
    · subst hd
      simp [withSessions]
    · simp [withSessions, hd]
  · rfl

lemma endSession_tasks {device : String} {id : ℕ} :
    (s.endSession device id).tasks = s.tasks := by
  unfold endSession
  split_ifs <;> rfl

lemma SessionInv.endSession (h : s.SessionInv) {id : ℕ} {reply : Option String}
    (ht : s.tasks t = some ⟨hello, .leaving id reply⟩) :
    ((s.endSession hello.device id).goOn t hello (.ok (.closed reply))).SessionInv := by
  have hself : s.InSession t hello.device id := ⟨_, ht, rfl, rfl⟩
  have hfields : (s.endSession hello.device id).nextId = s.nextId ∧
      (s.endSession hello.device id).registered = s.registered ∧
      (s.endSession hello.device id).cancelled = s.cancelled := by
    unfold Exporter.endSession
    split_ifs <;> exact ⟨rfl, rfl, rfl⟩
  have hin : ∀ t' d id', ((s.endSession hello.device id).goOn t hello
      (.ok (.closed reply))).InSession t' d id' → t' ≠ t ∧ s.InSession t' d id' := by
    intro t' d id' hin
    constructor
    · rintro rfl
      obtain ⟨task, htask, -, hid⟩ := hin
      simp only [Exporter.goOn, Function.update_self, Option.some.injEq] at htask
      subst htask
      cases hid
    · have hold := goOn_inSession (fun stage hstage => Or.inl (by cases hstage; rfl)) hin
      obtain ⟨task, htask, hrest⟩ := hold
      exact ⟨task, endSession_tasks (s := s) ▸ htask, hrest⟩
  refine ⟨fun t' d id' h' => ?_, fun t₁ t₂ d d' id' h₁ h₂ => ?_, fun d a ha => ?_,
    fun t' d id' h' => ?_, goOn_busy (fun t' task hne htask hlock => ?_) ?_⟩
  · show id' < (s.endSession hello.device id).nextId
    rw [hfields.1]
    exact h.fresh t' d id' (hin _ _ _ h').2
  · exact h.unique _ _ _ _ _ (hin _ _ _ h₁).2 (hin _ _ _ h₂).2
  · show a.id < (s.endSession hello.device id).nextId ∧
      (s.endSession hello.device id).registered d = some a.id
    rw [hfields.1, hfields.2.1]
    exact h.active d a (endSession_active.mp ha).1
  · show (∃ a, ((s.endSession hello.device id).sessions d).active = some a ∧ a.id = id') ∨
      (s.endSession hello.device id).cancelled id' = true
    rw [hfields.2.2]
    refine (h.current t' d id' (hin _ _ _ h').2).imp_left ?_
    rintro ⟨a, ha, rfl⟩
    refine ⟨a, endSession_active.mpr ⟨ha, ?_⟩, rfl⟩
    rintro ⟨-, hid⟩
    exact (hin _ _ _ h').1 (h.unique _ _ _ _ _ (hid ▸ (hin _ _ _ h').2) hself)
  · rw [endSession_busy]
    exact h.busy t' task (endSession_tasks (s := s) ▸ htask) hlock
  · rintro stage ⟨⟩ hlock
    cases hlock

/-! ## All steps -/

lemma SessionInv.step {l : Label} (h : s.SessionInv) (hstep : Step ctx s l s') :
    s'.SessionInv := by
  have hoff : ∀ {α : Type} {outcome : Except String α} {f : α → Stage} {stage : Stage},
      (∀ a, (f a).session? = none ∧ (f a).holdsLock = false) → outcome.map f = .ok stage →
      stage.session? = none ∧ stage.holdsLock = false := by
    intro α outcome f stage hf hstage
    cases outcome with
    | error e => cases hstage
    | ok a =>
        cases hstage
        exact hf a
  have hnonces : ∀ nonces admitted,
      SessionInv { s with nonces := nonces, admitted := admitted } := fun _ _ =>
    h.of_le (fun _ _ _ h => h) (fun _ => rfl) (fun _ h => h) rfl rfl h.busy
  cases hstep with
  | tick _ => exact h.of_le (fun _ _ _ h => h) (fun _ => rfl) (fun _ h => h) rfl rfl h.busy
  | hello hello psk ht =>
      refine h.goOn (fun stage hs => Or.inl (hoff (fun _ => ⟨rfl, rfl⟩) hs).1) fun stage hs hl => ?_
      rw [(hoff (fun _ => ⟨rfl, rfl⟩) hs).2] at hl
      cases hl
  | nonce ht =>
      unfold checkNonce
      split
      · refine (hnonces _ s.admitted).goOn ?_ ?_ <;> rintro _ ⟨⟩
      · refine (hnonces _ (_ :: s.admitted)).goOn ?_ ?_
        · rintro _ ⟨⟩
          exact Or.inl rfl
        · rintro _ ⟨⟩ hl
          cases hl
  | locate ht =>
      refine h.goOn (fun stage hs => Or.inl (hoff (fun _ => ⟨rfl, rfl⟩) hs).1) fun stage hs hl => ?_
      rw [(hoff (fun _ => ⟨rfl, rfl⟩) hs).2] at hl
      cases hl
  | lease ht _ =>
      refine h.goOn (fun stage hs => Or.inl (hoff (fun _ => ⟨rfl, rfl⟩) hs).1) fun stage hs hl => ?_
      rw [(hoff (fun _ => ⟨rfl, rfl⟩) hs).2] at hl
      cases hl
  | beginSession ht => exact h.beginSession _
  | lock ht hfree =>
      refine h.setBusy (Or.inr ⟨_, ht, rfl⟩) (fun t' _ hbusy => ?_) fun _ => rfl
      rw [hfree] at hbusy
      cases hbusy
  | giveUp ht =>
      refine h.goOn ?_ ?_
      · rintro _ ⟨⟩
        exact Or.inr ⟨_, ht, rfl⟩
      · rintro _ ⟨⟩ hl
        cases hl
  | superseded ht _ =>
      refine h.setBusy (Or.inr ⟨_, ht, rfl⟩) (fun t' hne hbusy => hne ?_) fun hl => by cases hl
      exact Option.some.inj (hbusy.symm.trans (h.busy _ _ ht rfl))
  | serve ht _ =>
      refine h.goOn ?_ ?_
      · rintro _ ⟨⟩
        exact Or.inr ⟨_, ht, rfl⟩
      · rintro _ ⟨⟩ _
        exact h.busy _ _ ht rfl
  | served reply ht =>
      refine h.setBusy (Or.inr ⟨_, ht, rfl⟩) (fun t' hne hbusy => hne ?_) fun hl => by cases hl
      exact Option.some.inj (hbusy.symm.trans (h.busy _ _ ht rfl))
  | endSession ht => exact h.endSession ht
  | plugged _ => exact h.of_le (fun _ _ _ h => h) (fun _ => rfl) (fun _ h => h) rfl rfl h.busy
  | observe _ _ => exact h.of_le (fun _ _ _ h => h) (fun _ => rfl) (fun _ h => h) rfl rfl h.busy
  | watch _ hcancel =>
      exact h.of_le (fun _ _ _ h => h) (fun _ => rfl) (fun id hid => (hcancel id).mpr (Or.inl hid))
        rfl rfl h.busy
  | leased _ => exact h.of_le (fun _ _ _ h => h) (fun _ => rfl) (fun _ h => h) rfl rfl h.busy

lemma SessionInv.init (h : s.Init) : s.SessionInv := by
  have hnobody : ∀ t d id, ¬ s.InSession t d id := by
    rintro t d id ⟨task, htask, -⟩
    rw [h.tasks t] at htask
    cases htask
  refine ⟨fun t d id hin => absurd hin (hnobody t d id),
    fun t _ d _ id hin => absurd hin (hnobody t d id), fun d a ha => ?_,
    fun t d id hin => absurd hin (hnobody t d id), fun t task htask => ?_⟩
  · rw [h.sessions d] at ha
    cases ha
  · rw [h.tasks t] at htask
    cases htask

end Exporter

/-- **One data-path session per device, latest registration wins.** Whatever the interleaving of
tasks, in every reachable state: (1) at most one task serves a device; (2) a registered task is
the device's active one or has been cancelled; (3) a task that passes the `is_cancelled` check is
the session last registered for its device; (4) a registration that an `endSession` removes was
made by that very task. -/
theorem one_session_per_device (ctx : ExporterContext) {s : Exporter}
    (hs : (exporter ctx).Reachable s) :
    (∀ d t t', s.Serving t d → s.Serving t' d → t = t') ∧
    (∀ t d id, s.InSession t d id →
      (∃ a, (s.sessions d).active = some a ∧ a.id = id) ∨ s.cancelled id = true) ∧
    (∀ t s', (exporter ctx).step s (.serve t) s' →
      ∃ d id, s.InSession t d id ∧ s.registered d = some id) ∧
    ∀ t s', (exporter ctx).step s (.endSession t) s' → ∀ d a, (s.sessions d).active = some a →
      (s'.sessions d).active ≠ some a →
      s.InSession t d a.id ∧ ∀ t' d', s.InSession t' d' a.id → t' = t := by
  have hinv : s.SessionInv := hs.invariant (fun _ => Exporter.SessionInv.init)
    fun _ _ _ h hstep => h.step hstep
  refine ⟨?_, hinv.current, ?_, ?_⟩
  · rintro d t t' ⟨task, id, ht, rfl, hstage⟩ ⟨task', id', ht', hd', hstage'⟩
    have hbusy := hinv.busy t task ht (by rw [hstage]; rfl)
    have hbusy' := hinv.busy t' task' ht' (by rw [hstage']; rfl)
    rw [hd', hbusy, Option.some.injEq] at hbusy'
    exact hbusy'
  · rintro t s' hstep
    cases hstep with
    | @serve _ hello id ht hcancel =>
        have hin : s.InSession t hello.device id := ⟨_, ht, rfl, rfl⟩
        refine ⟨hello.device, id, hin, ?_⟩
        rcases hinv.current t _ id hin with ⟨a, ha, rfl⟩ | hcancelled
        · exact (hinv.active _ a ha).2
        · rw [hcancel] at hcancelled
          cases hcancelled
  · rintro t s' hstep d a ha hgone
    cases hstep with
    | @endSession _ hello id reply ht =>
        have hin : s.InSession t hello.device id := ⟨_, ht, rfl, rfl⟩
        have hown : d = hello.device ∧ a.id = id := by
          by_contra hother
          exact hgone (Exporter.endSession_active.mpr ⟨ha, hother⟩)
        obtain ⟨rfl, rfl⟩ := hown
        exact ⟨hin, fun t' d' hin' => hinv.unique _ _ _ _ _ hin' hin⟩

/-! A camera that is plugged in and leased to the claim of the first hello. -/

def camInfo : UsbDeviceInfo :=
  ⟨"3-1", 3, 7, "046d", "0825", none, none, some "Webcam", none, 0xef, [0x0e], some "480"⟩

def camBody : DeviceBody where
  labels := []
  spec := ⟨"046d", "0825", none, none, some "Webcam", none, .descriptor⟩
  status := some
    { phase := some .available
      attachedTo := some ⟨"default", "cam-claim", "uid-1", "vm", "2024-01-01T00:00:00Z"⟩ }

def camLeased : Exporter :=
  { startedExporter with
    localDevices := fun _ => some camInfo
    changed := true
    objects := fun _ => some camBody }

/-! ### The camera changes hands

While the first task serves the camera, its lease goes to another claim. -/

def otherHello : Hello where
  protocol := "atomic-usb/1"
  device := "usb-cam"
  claim := ⟨"default", "other-claim", "uid-2"⟩
  timestamp := 1000
  nonce := "6e33"
  mac := "0e889c10c7955de579c87593f340ccea55fac89bb65a702042a1e280051a0002"

def handoverHmac (key message : List UInt8) : List UInt8 :=
  if key = Text.bytes "secret" ∧ message = otherHello.macInput then
    [0x0e, 0x88, 0x9c, 0x10, 0xc7, 0x95, 0x5d, 0xe5, 0x79, 0xc8, 0x75, 0x93, 0xf3, 0x40, 0xcc, 0xea,
      0x55, 0xfa, 0xc8, 0x9b, 0xb6, 0x5a, 0x70, 0x20, 0x42, 0xa1, 0xe2, 0x80, 0x05, 0x1a, 0x00,
      0x02]
  else helloHmac key message

def handoverContext : ExporterContext := ⟨.newYear, handoverHmac, "node-a"⟩

def otherBody : DeviceBody :=
  { camBody with
    status := some
      { phase := some .available
        attachedTo := some ⟨"default", "other-claim", "uid-2", "vm", "2024-01-01T00:00:00Z"⟩ } }

/-- The lease goes to the other claim. -/
def Exporter.handOver (s : Exporter) : Exporter := { s with objects := fun _ => some otherBody }

/-! A task as far as it gets before it registers. -/

def Exporter.verifiedHello (s : Exporter) (t : ℕ) (hello : Hello) : Exporter :=
  s.goOn t hello (.ok (.verified startTime))

def Exporter.acceptedHello (s : Exporter) (t : ℕ) (hello : Hello) : Exporter :=
  { s.verifiedHello t hello with
    nonces := (s.nonces.checkAndInsert hello.nonce hello.timestamp startTime.asSecond).2
    admitted := (hello, startTime) :: s.admitted }.goOn t hello (.ok .accepted)

def Exporter.locatedHello (s : Exporter) (t : ℕ) (hello : Hello) : Exporter :=
  (s.acceptedHello t hello).goOn t hello (.ok (.located camInfo))

def Exporter.authorizedHello (s : Exporter) (t : ℕ) (hello : Hello) : Exporter :=
  (s.locatedHello t hello).goOn t hello (.ok (.authorized camInfo))

section Steps

variable {s : Exporter} {t : ℕ} {hello : Hello}

lemma verifiedHello_step (hclock : s.clock = startTime) (hfree : s.tasks t = none)
    (hauth : authenticate handoverContext hello (.ok (Text.bytes "secret")) startTime = .ok ()) :
    Exporter.Step handoverContext s (.hello t) (s.verifiedHello t hello) := by
  have hstep : Exporter.Step handoverContext s (.hello t) _ :=
    .hello hello (.ok (Text.bytes "secret")) hfree
  rw [hclock, hauth] at hstep
  exact hstep

lemma acceptedHello_step
    (hnew : (s.nonces.checkAndInsert hello.nonce hello.timestamp startTime.asSecond).1 = .ok ()) :
    Exporter.Step handoverContext (s.verifiedHello t hello) (.nonce t)
      (s.acceptedHello t hello) := by
  have htask : (s.verifiedHello t hello).tasks t = some ⟨hello, .verified startTime⟩ := by
    simp [Exporter.verifiedHello, Exporter.goOn]
  have hpair : (s.verifiedHello t hello).nonces.checkAndInsert hello.nonce hello.timestamp
      startTime.asSecond = (.ok (), _) := Prod.ext hnew rfl
  have hstep : Exporter.Step handoverContext (s.verifiedHello t hello) (.nonce t) _ := .nonce htask
  rw [Exporter.checkNonce, hpair] at hstep
  exact hstep

lemma locatedHello_step (hlocal : s.localDevices hello.device = some camInfo) :
    Exporter.Step handoverContext (s.acceptedHello t hello) (.locate t)
      (s.locatedHello t hello) := by
  have htask : (s.acceptedHello t hello).tasks t = some ⟨hello, .accepted⟩ := by
    simp [Exporter.acceptedHello, Exporter.goOn]
  have hfound : locate handoverContext hello (s.acceptedHello t hello).localDevices =
      .ok camInfo := by
    have : (s.acceptedHello t hello).localDevices = s.localDevices := rfl
    rw [locate, this, hlocal]
  have hstep : Exporter.Step handoverContext (s.acceptedHello t hello) (.locate t) _ :=
    .locate htask
  rw [hfound] at hstep
  exact hstep

lemma authorizedHello_step (hlease : checkLease hello (.ok (s.objects hello.device)) = .ok ()) :
    Exporter.Step handoverContext (s.locatedHello t hello) (.lease t)
      (s.authorizedHello t hello) := by
  have htask : (s.locatedHello t hello).tasks t = some ⟨hello, .located camInfo⟩ := by
    simp [Exporter.locatedHello, Exporter.goOn]
  have hstep : Exporter.Step handoverContext (s.locatedHello t hello) (.lease t) _ :=
    .lease htask (Or.inl rfl)
  have hobjects : (s.locatedHello t hello).objects = s.objects := rfl
  rw [hobjects, hlease] at hstep
  exact hstep

end Steps

lemma firstHello_authentic : authenticate handoverContext firstHello (.ok (Text.bytes "secret"))
    startTime = .ok () := by decide +kernel

lemma otherHello_authentic : authenticate handoverContext otherHello (.ok (Text.bytes "secret"))
    startTime = .ok () := by decide +kernel

def camFirst : Exporter := camLeased.authorizedHello 0 firstHello

def camServing : Exporter :=
  (((camFirst.beginSession 0 firstHello camInfo).setBusy "usb-cam" (some 0)).goOn 0 firstHello
    (.ok (.locked 1))).goOn 0 firstHello (.ok (.serving 1))

/-- The task of the other claim has registered, which cancels the session of the first. -/
def camReplaced : Exporter :=
  (camServing.handOver.authorizedHello 1 otherHello).beginSession 1 otherHello camInfo

/-- The first task has released the lock, and the second one has taken it. -/
def camTakenOver : Exporter :=
  ((((camReplaced.setBusy "usb-cam" none).goOn 0 firstHello (.ok (.leaving 1 none))).setBusy
    "usb-cam" (some 1)).goOn 1 otherHello (.ok (.locked 2))).goOn 1 otherHello (.ok (.serving 2))

lemma camFirst_reachable : (exporter handoverContext).Reachable camFirst := by
  have h : (exporter handoverContext).Reachable startedExporter := .init startedExporter_init
  have h := h.step (Exporter.Step.plugged fun _ => some camInfo)
  have h := h.step (Exporter.Step.leased fun _ => some camBody)
  have h := h.step (verifiedHello_step (t := 0) rfl rfl firstHello_authentic)
  have h := h.step (acceptedHello_step (s := camLeased) (by decide +kernel))
  have h := h.step (locatedHello_step (s := camLeased) rfl)
  exact h.step (authorizedHello_step (s := camLeased) (by decide +kernel))

lemma camServing_reachable : (exporter handoverContext).Reachable camServing := by
  have h := camFirst_reachable.step (Exporter.Step.beginSession (t := 0) rfl)
  have h := h.step (Exporter.Step.lock (t := 0) rfl rfl)
  exact h.step (Exporter.Step.serve (t := 0) rfl rfl)

lemma camTakenOver_reachable : (exporter handoverContext).Reachable camTakenOver := by
  have h := camServing_reachable.step (Exporter.Step.leased fun _ => some otherBody)
  have h := h.step (verifiedHello_step (t := 1) rfl rfl otherHello_authentic)
  have h := h.step (acceptedHello_step (s := camServing.handOver) (by decide +kernel))
  have h := h.step (locatedHello_step (s := camServing.handOver) rfl)
  have h := h.step (authorizedHello_step (s := camServing.handOver) (by decide +kernel))
  have h := h.step (Exporter.Step.beginSession (t := 1) rfl)
  have h := h.step (Exporter.Step.served (t := 0) none rfl)
  have h := h.step (Exporter.Step.lock (t := 1) rfl rfl)
  exact h.step (Exporter.Step.serve (t := 1) rfl rfl)

/-- The second task is the only one that serves the camera, and the first is cancelled. -/
theorem one_session_per_device_replaced :
    camTakenOver.Serving 1 "usb-cam" ∧ (∀ t, camTakenOver.Serving t "usb-cam" → t = 1) ∧
      camTakenOver.InSession 0 "usb-cam" 1 ∧ camTakenOver.cancelled 1 = true := by
  have hserving : camTakenOver.Serving 1 "usb-cam" := ⟨_, 2, rfl, rfl, rfl⟩
  have hleaving : camTakenOver.InSession 0 "usb-cam" 1 := ⟨_, rfl, rfl, rfl⟩
  obtain ⟨hone, hcurrent, -⟩ := one_session_per_device handoverContext camTakenOver_reachable
  refine ⟨hserving, fun t ht => hone "usb-cam" t 1 ht hserving, hleaving,
    (hcurrent 0 "usb-cam" 1 hleaving).resolve_left ?_⟩
  -- the active session is that of the second task
  rintro ⟨a, hactive, hid⟩
  obtain rfl := Option.some.inj hactive
  cases hid

end AtomicUsb
