import AtomicUsb.Agent.SessionTask

/-!
# The sessions of a node

An agent's attacher compares the sessions it wants with the ones it runs, over and over: it cancels
those that are no longer wanted as they are and starts the ones that are missing.  A cancelled
session takes its time to finish, so the handle of its task is kept, and the next session of the
same claim waits for it before it does anything.

The attacher and its sessions run side by side.  A pass is a sequence of small steps, between which
any session may take a step of its own: it looks at the caches, drops the handles of sessions that
have finished, collects the stale sessions, stops them one by one and starts the missing ones.
Whether a session has finished is asked once for each handle and may be out of date by the time it
matters; all one knows is that a session that had finished has finished.

A session waits for the previous one for 15 seconds at most.  `late` is the step of one that gives
up waiting.
-/

namespace AtomicUsb

/-- The sessions an agent wants, by the UID of their claim; a claim that appears twice counts as it
appears last. -/
def AgentView.desiredMap (view : AgentView) (uid : String) : Option SessionSpec :=
  view.desiredSessions.reverse.find? fun spec => spec.claim.uid = uid

/-- A session's task, and the task it was told to wait for. -/
structure Worker where
  spec : SessionSpec
  previous : Option ℕ
  task : SessionTask

/-- Where a pass is. -/
inductive Attacher.Pass
  | resting
  | retaining
  | collecting
  | stopping (stale : List String)
  | starting (missing : List (String × SessionSpec))

structure Attacher where
  pass : Attacher.Pass
  /-- What the current pass wants, or the last one wanted. -/
  desired : String → Option SessionSpec
  running : String → Option (SessionSpec × ℕ)
  stopping : String → Option ℕ
  workers : ℕ → Option Worker
  next : ℕ

def Control.isFinished : Control → Bool
  | .finished => true
  | _ => false

def Control.isWaiting : Control → Bool
  | .waiting => true
  | _ => false

inductive AttacherLabel
  /-- The attacher itself. -/
  | pass
  | work (id : ℕ) (l : SessionLabel)
  /-- A session gives up waiting for the previous one. -/
  | late (id : ℕ)

namespace Attacher

def initial : Attacher := ⟨.resting, fun _ => none, fun _ => none, fun _ => none, fun _ => none, 0⟩

def isFinished (s : Attacher) (id : ℕ) : Bool :=
  (s.workers id).any fun w => w.task.control.isFinished

/-- A worker goes on as another task. -/
def setTask (s : Attacher) (id : ℕ) (w : Worker) (t : SessionTask) : Attacher :=
  { s with workers := Function.update s.workers id (some { w with task := t }) }

/-- A session is taken out of the running ones and cancelled; its handle is kept. -/
def stop (s : Attacher) (uid : String) (id : ℕ) (w : Worker) (stale : List String) : Attacher :=
  { s.setTask id w { w.task with cancelled := true } with
    running := Function.update s.running uid none
    stopping := Function.update s.stopping uid (some id)
    pass := .stopping stale }

/-- A session is started; it is handed the one it has to wait for. -/
def start (s : Attacher) (uid : String) (spec : SessionSpec)
    (missing : List (String × SessionSpec)) : Attacher :=
  { s with
    workers := Function.update s.workers s.next (some ⟨spec, s.stopping uid, .spawned⟩)
    running := Function.update s.running uid (some (spec, s.next))
    stopping := Function.update s.stopping uid none
    next := s.next + 1
    pass := .starting missing }

/-- Handles are only dropped of sessions that have finished. -/
def Retained (s : Attacher) (stopping : String → Option ℕ) : Prop :=
  ∀ uid, stopping uid = s.stopping uid ∨
    stopping uid = none ∧ ∃ id, s.stopping uid = some id ∧ s.isFinished id = true

/-- The sessions that are wanted otherwise than they are run, or not at all, and any that have
finished. -/
structure Stale (s : Attacher) (stale : List String) : Prop where
  nodup : stale.Nodup
  cause : ∀ uid ∈ stale, ∃ r, s.running uid = some r ∧
    (s.desired uid ≠ some r.1 ∨ s.isFinished r.2 = true)
  complete : ∀ uid r, s.running uid = some r → s.desired uid ≠ some r.1 → uid ∈ stale

/-- The wanted sessions in some order. -/
structure Enumerates (desired : String → Option SessionSpec)
    (entries : List (String × SessionSpec)) : Prop where
  nodup : (entries.map Prod.fst).Nodup
  mem : ∀ uid spec, (uid, spec) ∈ entries ↔ desired uid = some spec

variable (ctx : SessionContext)

inductive Step : Attacher → AttacherLabel → Attacher → Prop
  | look {s : Attacher} (view : AgentView) : s.pass = .resting →
      Step s .pass { s with desired := view.desiredMap, pass := .retaining }
  | retain {s : Attacher} {stopping : String → Option ℕ} : s.pass = .retaining →
      s.Retained stopping → Step s .pass { s with stopping := stopping, pass := .collecting }
  | collect {s : Attacher} {stale : List String} : s.pass = .collecting → s.Stale stale →
      Step s .pass { s with pass := .stopping stale }
  | stop {s : Attacher} {uid : String} {stale : List String} {spec : SessionSpec} {id : ℕ}
      {w : Worker} : s.pass = .stopping (uid :: stale) → s.running uid = some (spec, id) →
      s.workers id = some w → Step s .pass (s.stop uid id w stale)
  | stopped {s : Attacher} {missing : List (String × SessionSpec)} : s.pass = .stopping [] →
      Enumerates s.desired missing → Step s .pass { s with pass := .starting missing }
  | keep {s : Attacher} {uid : String} {spec : SessionSpec}
      {missing : List (String × SessionSpec)} :
      s.pass = .starting ((uid, spec) :: missing) → (s.running uid).isSome = true →
      Step s .pass { s with pass := .starting missing }
  | start {s : Attacher} {uid : String} {spec : SessionSpec}
      {missing : List (String × SessionSpec)} :
      s.pass = .starting ((uid, spec) :: missing) → s.running uid = none →
      Step s .pass (s.start uid spec missing)
  | rest {s : Attacher} : s.pass = .starting [] → Step s .pass { s with pass := .resting }
  | work {s : Attacher} {id : ℕ} {w : Worker} {l : SessionLabel} {t : SessionTask} :
      s.workers id = some w → SessionTask.Step ctx w.spec w.task l t → l ≠ .cancel →
      (l = .started → ∀ k, w.previous = some k → s.isFinished k = true) →
      Step s (.work id l) (s.setTask id w t)
  | late {s : Attacher} {id : ℕ} {w : Worker} {t : SessionTask} :
      s.workers id = some w → SessionTask.Step ctx w.spec w.task .started t →
      Step s (.late id) (s.setTask id w t)

def system : System Attacher AttacherLabel where
  init s := s = initial
  step := Step ctx

/-- No session gives up waiting for the previous one. -/
def punctual : System Attacher AttacherLabel :=
  (system ctx).restrict fun _ l => ∀ id, l ≠ .late id

end Attacher

/-! ## What a session does to its task -/

namespace SessionTask

variable {ctx : SessionContext} {spec : SessionSpec} {t t' : SessionTask} {l : SessionLabel}

lemma Step.label_of_finished (h : Step ctx spec t l t') (ht : t.control.isFinished = true) :
    l = .cancel := by
  cases h with
  | cancel => rfl
  | cut _ hexposed =>
      cases hcontrol : t.control with
      | finished => simp [exposed, hcontrol] at hexposed
      | _ => simp [Control.isFinished, hcontrol] at ht
  | started _ hcontrol | attempt hcontrol | attempting _ hcontrol | attempted hcontrol
  | reporting _ hcontrol | reported hcontrol | woken hcontrol | slept hcontrol =>
      rw [hcontrol] at ht
      cases ht

/-- Only being started ends the wait. -/
lemma Step.label_of_waiting (h : Step ctx spec t l t') (ht : t.control.isWaiting = true) :
    l = .started ∨ l = .cancel := by
  cases h with
  | started => exact Or.inl rfl
  | cancel => exact Or.inr rfl
  | cut _ hexposed =>
      cases hcontrol : t.control with
      | waiting => simp [exposed, hcontrol] at hexposed
      | _ => simp [Control.isWaiting, hcontrol] at ht
  | attempt hcontrol | attempting _ hcontrol | attempted hcontrol
  | reporting _ hcontrol | reported hcontrol | woken hcontrol | slept hcontrol =>
      rw [hcontrol] at ht
      cases ht

/-- A session does not cancel itself. -/
lemma Step.cancelled_eq (h : Step ctx spec t l t') (hl : l ≠ .cancel) :
    t'.cancelled = t.cancelled := by
  cases h with
  | cancel => exact absurd rfl hl
  | @attempted r _ =>
      rcases r with (_ | _) | _ | ⟨_, _⟩ | _
      all_goals rfl
  | @reported sequel _ =>
      cases sequel with
      | pause p => rfl
      | finish => rfl
  | _ => rfl

end SessionTask

/-! ## The sessions that run -/

namespace Attacher

variable {ctx : SessionContext} {s s' : Attacher} {l : AttacherLabel} {id : ℕ} {w : Worker}
  {t : SessionTask}

lemma setTask_workers {i : ℕ} {w' : Worker} (h : (s.setTask id w t).workers i = some w') :
    i = id ∧ w' = { w with task := t } ∨ i ≠ id ∧ s.workers i = some w' := by
  replace h : Function.update s.workers id (some { w with task := t }) i = some w' := h
  by_cases hi : i = id
  · subst hi
    rw [Function.update_self] at h
    exact Or.inl ⟨rfl, (Option.some.inj h).symm⟩
  · rw [Function.update_of_ne hi] at h
    exact Or.inr ⟨hi, h⟩

/-- The pass keeps what is wanted and what is run together. -/
def InPass (s : Attacher) : Prop :=
  match s.pass with
  | .resting => ∀ uid, (s.running uid).map Prod.fst = s.desired uid
  | .retaining | .collecting => True
  | .stopping stale => ∀ uid r, s.running uid = some r → s.desired uid ≠ some r.1 → uid ∈ stale
  | .starting missing => (∀ uid r, s.running uid = some r → s.desired uid = some r.1) ∧
    (∀ uid spec, s.desired uid = some spec →
      (s.running uid).isSome = true ∨ (uid, spec) ∈ missing) ∧
    ∀ e ∈ missing, s.desired e.1 = some e.2

structure Kept (ctx : SessionContext) (s : Attacher) : Prop where
  old : ∀ id w, s.workers id = some w → id < s.next
  reachable : ∀ id w, s.workers id = some w → (SessionTask.system ctx w.spec).Reachable w.task
  running : ∀ uid r, s.running uid = some r → r.1.claim.uid = uid ∧
    ∃ w, s.workers r.2 = some w ∧ w.spec = r.1 ∧ w.task.cancelled = false
  live : ∀ id w, s.workers id = some w → w.task.cancelled = false →
    s.running w.spec.claim.uid = some (w.spec, id)
  named : ∀ uid spec, s.desired uid = some spec → spec.claim.uid = uid
  inPass : s.InPass

/-- A session that runs on. -/
lemma Kept.setTask (h : s.Kept ctx) (hw : s.workers id = some w)
    (ht : (SessionTask.system ctx w.spec).Reachable t) (hc : t.cancelled = w.task.cancelled) :
    (s.setTask id w t).Kept ctx where
  old i w' hi := by
    obtain ⟨rfl, _⟩ | ⟨_, hi⟩ := setTask_workers hi
    · exact h.old _ w hw
    · exact h.old i w' hi
  reachable i w' hi := by
    obtain ⟨rfl, rfl⟩ | ⟨_, hi⟩ := setTask_workers hi
    · exact ht
    · exact h.reachable i w' hi
  running uid r hr := by
    obtain ⟨huid, w', hw', hspec, hcancelled⟩ := h.running uid r hr
    refine ⟨huid, ?_⟩
    by_cases hid : r.2 = id
    · subst hid
      obtain rfl := Option.some.inj (hw.symm.trans hw')
      exact ⟨_, Function.update_self _ _ _, hspec, hc.trans hcancelled⟩
    · exact ⟨w', (Function.update_of_ne hid _ _).trans hw', hspec, hcancelled⟩
  live i w' hi hcancelled := by
    obtain ⟨rfl, rfl⟩ | ⟨_, hi⟩ := setTask_workers hi
    · exact h.live _ w hw (hc.symm.trans hcancelled)
    · exact h.live i w' hi hcancelled
  named := h.named
  inPass := h.inPass

/-- A session that is stopped. -/
lemma Kept.stop {uid : String} {spec : SessionSpec} {stale : List String} (h : s.Kept ctx)
    (hpass : s.pass = .stopping (uid :: stale)) (hrunning : s.running uid = some (spec, id))
    (hw : s.workers id = some w) : (s.stop uid id w stale).Kept ctx where
  old i w' hi := by
    obtain ⟨rfl, _⟩ | ⟨_, hi⟩ := setTask_workers hi
    · exact h.old _ w hw
    · exact h.old i w' hi
  reachable i w' hi := by
    obtain ⟨rfl, rfl⟩ | ⟨_, hi⟩ := setTask_workers hi
    · exact (h.reachable _ w hw).step .cancel
    · exact h.reachable i w' hi
  running uid' r hr := by
    replace hr : Function.update s.running uid none uid' = some r := hr
    by_cases huid : uid' = uid
    · rw [huid, Function.update_self] at hr
      cases hr
    · rw [Function.update_of_ne huid] at hr
      obtain ⟨hnamed, w', hw', hspec, hcancelled⟩ := h.running uid' r hr
      refine ⟨hnamed, w', ?_, hspec, hcancelled⟩
      -- the one that was stopped belongs to another claim
      have hne : r.2 ≠ id := by
        rintro rfl
        obtain rfl := Option.some.inj (hw.symm.trans hw')
        obtain ⟨hnamed', w'', hw'', hspec', _⟩ := h.running uid _ hrunning
        obtain rfl := Option.some.inj (hw.symm.trans hw'')
        exact huid (hnamed.symm.trans ((congrArg (·.claim.uid) (hspec.symm.trans hspec')).trans
          hnamed'))
      exact (Function.update_of_ne hne _ _).trans hw'
  live i w' hi hcancelled := by
    obtain ⟨rfl, rfl⟩ | ⟨hne, hi⟩ := setTask_workers hi
    · cases hcancelled
    · have hlive := h.live i w' hi hcancelled
      have huid : w'.spec.claim.uid ≠ uid := by
        intro heq
        rw [heq, hrunning] at hlive
        exact hne (congrArg Prod.snd (Option.some.inj hlive)).symm
      exact (Function.update_of_ne huid _ _).trans hlive
  named := h.named
  inPass := by
    have hin := h.inPass
    rw [InPass, hpass] at hin
    intro uid' r hr hwanted
    replace hr : Function.update s.running uid none uid' = some r := hr
    by_cases huid : uid' = uid
    · rw [huid, Function.update_self] at hr
      cases hr
    · rw [Function.update_of_ne huid] at hr
      exact (List.mem_cons.mp (hin uid' r hr hwanted)).resolve_left huid

/-- A session that is started. -/
lemma Kept.start {uid : String} {spec : SessionSpec} {missing : List (String × SessionSpec)}
    (h : s.Kept ctx) (hpass : s.pass = .starting ((uid, spec) :: missing))
    (hrunning : s.running uid = none) : (s.start uid spec missing).Kept ctx where
  old i w' hi := by
    replace hi : Function.update s.workers s.next _ i = some w' := hi
    show i < s.next + 1
    by_cases hne : i = s.next
    · omega
    · rw [Function.update_of_ne hne] at hi
      exact Nat.lt_succ_of_lt (h.old i w' hi)
  reachable i w' hi := by
    replace hi : Function.update s.workers s.next _ i = some w' := hi
    by_cases hne : i = s.next
    · rw [hne, Function.update_self] at hi
      rw [← Option.some.inj hi]
      exact .init rfl
    · rw [Function.update_of_ne hne] at hi
      exact h.reachable i w' hi
  running uid' r hr := by
    have hin := h.inPass
    rw [InPass, hpass] at hin
    replace hr : Function.update s.running uid (some (spec, s.next)) uid' = some r := hr
    by_cases huid : uid' = uid
    · rw [huid, Function.update_self] at hr
      obtain rfl := Option.some.inj hr
      have hdesired : s.desired uid = some spec := hin.2.2 (uid, spec) List.mem_cons_self
      exact ⟨(h.named uid spec hdesired).trans huid.symm, _, Function.update_self _ _ _, rfl, rfl⟩
    · rw [Function.update_of_ne huid] at hr
      obtain ⟨hnamed, w', hw', hrest⟩ := h.running uid' r hr
      have hne : r.2 ≠ s.next := (h.old _ w' hw').ne
      exact ⟨hnamed, w', (Function.update_of_ne hne _ _).trans hw', hrest⟩
  live i w' hi hcancelled := by
    have hin := h.inPass
    rw [InPass, hpass] at hin
    have hdesired : s.desired uid = some spec := hin.2.2 (uid, spec) List.mem_cons_self
    have hnamed := h.named uid spec hdesired
    replace hi : Function.update s.workers s.next _ i = some w' := hi
    by_cases hne : i = s.next
    · rw [hne, Function.update_self] at hi
      rw [← Option.some.inj hi, hne, ← hnamed]
      exact Function.update_self _ _ _
    · rw [Function.update_of_ne hne] at hi
      have hlive := h.live i w' hi hcancelled
      have huid : w'.spec.claim.uid ≠ uid := by
        intro heq
        rw [heq, hrunning] at hlive
        cases hlive
      exact (Function.update_of_ne huid _ _).trans hlive
  named := h.named
  inPass := by
    have hin := h.inPass
    rw [InPass, hpass] at hin
    obtain ⟨hwanted, hmissing, hentries⟩ := hin
    have hdesired : s.desired uid = some spec := hentries (uid, spec) List.mem_cons_self
    refine ⟨fun uid' r hr => ?_, fun uid' spec' hspec' => ?_,
      fun e he => hentries e (List.mem_cons_of_mem _ he)⟩
    · replace hr : Function.update s.running uid (some (spec, s.next)) uid' = some r := hr
      by_cases huid : uid' = uid
      · rw [huid, Function.update_self] at hr
        rw [← Option.some.inj hr, huid]
        exact hdesired
      · rw [Function.update_of_ne huid] at hr
        exact hwanted uid' r hr
    · show (Function.update s.running uid (some (spec, s.next)) uid').isSome = true ∨ _
      by_cases huid : uid' = uid
      · rw [huid, Function.update_self]
        exact Or.inl rfl
      · rw [Function.update_of_ne huid]
        exact (hmissing uid' spec' hspec').imp_right fun hmem =>
          (List.mem_cons.mp hmem).resolve_left fun heq => huid (congrArg Prod.fst heq)

lemma desiredMap_named {view : AgentView} {uid : String} {spec : SessionSpec}
    (h : view.desiredMap uid = some spec) : spec.claim.uid = uid := by
  have hfound := List.find?_some (show view.desiredSessions.reverse.find?
    (fun spec => decide (spec.claim.uid = uid)) = some spec from h)
  exact of_decide_eq_true hfound

/-- A step of the attacher that touches no session. -/
lemma Kept.of_same (h : s.Kept ctx) (hworkers : s'.workers = s.workers) (hnext : s'.next = s.next)
    (hrunning : s'.running = s.running)
    (hnamed : ∀ uid spec, s'.desired uid = some spec → spec.claim.uid = uid) (hin : s'.InPass) :
    s'.Kept ctx where
  old := by rw [hworkers, hnext]; exact h.old
  reachable := by rw [hworkers]; exact h.reachable
  running := by rw [hworkers, hrunning]; exact h.running
  live := by rw [hworkers, hrunning]; exact h.live
  named := hnamed
  inPass := hin

lemma Kept.step (h : s.Kept ctx) (hstep : Step ctx s l s') : s'.Kept ctx := by
  have hin := h.inPass
  rw [InPass] at hin
  cases hstep with
  | look view hpass => exact h.of_same rfl rfl rfl (fun _ _ => desiredMap_named) trivial
  | retain hpass hretained => exact h.of_same rfl rfl rfl h.named trivial
  | collect hpass hstale => exact h.of_same rfl rfl rfl h.named hstale.complete
  | stop hpass hrunning hw => exact h.stop hpass hrunning hw
  | @stopped missing hpass hmissing =>
      rw [hpass] at hin
      refine h.of_same rfl rfl rfl h.named ⟨fun uid r hr => ?_, fun uid spec hspec => ?_, ?_⟩
      · by_contra hwanted
        exact absurd (hin uid r hr hwanted) List.not_mem_nil
      · exact Or.inr ((hmissing.mem uid spec).mpr hspec)
      · exact fun e he => (hmissing.mem e.1 e.2).mp he
  | @keep uid spec missing hpass hsome =>
      rw [hpass] at hin
      obtain ⟨hwanted, hmissing, hentries⟩ := hin
      refine h.of_same rfl rfl rfl h.named ⟨hwanted, fun uid' spec' hspec' => ?_,
        fun e he => hentries e (List.mem_cons_of_mem _ he)⟩
      obtain hrun | hmem := hmissing uid' spec' hspec'
      · exact Or.inl hrun
      · obtain heq | hmem := List.mem_cons.mp hmem
        · obtain ⟨rfl, rfl⟩ := Prod.mk.inj heq
          exact Or.inl hsome
        · exact Or.inr hmem
  | start hpass hrunning => exact h.start hpass hrunning
  | rest hpass =>
      rw [hpass] at hin
      obtain ⟨hwanted, hmissing, -⟩ := hin
      refine h.of_same rfl rfl rfl h.named fun uid => ?_
      show (s.running uid).map Prod.fst = s.desired uid
      cases hr : s.running uid with
      | some r => exact (hwanted uid r hr).symm
      | none =>
          cases hd : s.desired uid with
          | none => rfl
          | some spec =>
              obtain hrun | hmem := hmissing uid spec hd
              · rw [hr] at hrun
                cases hrun
              · cases hmem
  | @work id w l t hw hstep hl _ =>
      exact h.setTask hw ((h.reachable id w hw).step hstep) (hstep.cancelled_eq hl)
  | @late id w t hw hstep =>
      exact h.setTask hw ((h.reachable id w hw).step hstep) (hstep.cancelled_eq nofun)

lemma kept_initial : initial.Kept ctx := by
  refine ⟨fun id w hw => ?_, fun id w hw => ?_, fun uid r hr => ?_, fun id w hw => ?_,
    fun uid spec hd => ?_, fun _ => rfl⟩
  · cases hw
  · cases hw
  · cases hr
  · cases hw
  · cases hd

lemma kept_of_reachable (h : (system ctx).Reachable s) : s.Kept ctx := by
  refine h.invariant ?_ fun _ _ _ => Kept.step
  rintro _ rfl
  exact kept_initial

/-- **A claim has one session.**  At any moment of any run, the sessions that have not been
cancelled are exactly the running ones, one for a claim at most.  Each running one is there, under
the UID of its claim, and has not finished, so a running session never goes unnoticed; and between
two passes they are exactly what the last one wanted. -/
theorem running_is_live (h : (system ctx).Reachable s) :
    (∀ id w, s.workers id = some w → (w.task.cancelled = false ↔
      s.running w.spec.claim.uid = some (w.spec, id))) ∧
    (∀ uid spec id, s.running uid = some (spec, id) → spec.claim.uid = uid ∧
      ∃ w, s.workers id = some w ∧ w.spec = spec ∧ w.task.cancelled = false ∧
        w.task.control.isFinished = false) ∧
    (s.pass = .resting → ∀ uid, (s.running uid).map Prod.fst = s.desired uid) := by
  have hkept := kept_of_reachable h
  refine ⟨fun id w hw => ⟨hkept.live id w hw, fun hrunning => ?_⟩, fun uid spec id hrunning => ?_,
    fun hpass => ?_⟩
  · obtain ⟨_, w', hw', _, hcancelled⟩ := hkept.running _ _ hrunning
    obtain rfl := Option.some.inj (hw.symm.trans hw')
    exact hcancelled
  · obtain ⟨huid, w, hw, hspec, hcancelled⟩ := hkept.running _ _ hrunning
    refine ⟨huid, w, hw, hspec, hcancelled, ?_⟩
    cases hcontrol : w.task.control with
    | finished =>
        -- a session only finishes once it was cancelled
        have hsound := SessionTask.sound_of_reachable (hkept.reachable id w hw)
        rw [hcontrol] at hsound
        rw [hsound.1] at hcancelled
        cases hcancelled
    | _ => rfl
  · have hin := hkept.inPass
    rwa [InPass, hpass] at hin

/-! ## The sessions of one claim -/

/-- A session of the claim. -/
def Has (s : Attacher) (uid : String) (id : ℕ) (w : Worker) : Prop :=
  s.workers id = some w ∧ w.spec.claim.uid = uid

/-- The attacher still has the handle of the session. -/
def Handle (s : Attacher) (uid : String) (id : ℕ) : Prop :=
  (∃ spec, s.running uid = some (spec, id)) ∨ s.stopping uid = some id

/-- The sessions of a claim come one after the other: the handle that is kept is that of the latest
one, a session waits for the one before it, and one that no longer waits has no predecessor left. -/
structure Ordered (s : Attacher) : Prop where
  apart : ∀ uid, (s.running uid).isSome = true → s.stopping uid = none
  latest : ∀ uid id, s.Handle uid id → (∃ w, s.Has uid id w) ∧ ∀ i w, s.Has uid i w → i ≤ id
  quiet : ∀ uid, (∀ id, ¬ s.Handle uid id) → ∀ i w, s.Has uid i w →
    w.task.control.isFinished = true
  previous : ∀ uid j w i w', s.Has uid j w → s.Has uid i w' → i < j →
    w'.task.control.isFinished = true ∨
      ∃ k, w.previous = some k ∧ (∃ w'', s.Has uid k w'') ∧ i ≤ k ∧ k < j
  turn : ∀ uid j w i w', s.Has uid j w → s.Has uid i w' → i < j →
    w.task.control.isWaiting = false → w'.task.control.isFinished = true

lemma ordered_initial : initial.Ordered := by
  have hnobody : ∀ uid i w, ¬ initial.Has uid i w := fun _ _ _ hw => nomatch hw.1
  refine ⟨fun _ _ => rfl, fun uid id hid => ?_, fun uid _ i w hw => absurd hw (hnobody uid i w),
    fun uid j w _ _ hw => absurd hw (hnobody uid j w), fun uid j w _ _ hw =>
      absurd hw (hnobody uid j w)⟩
  obtain ⟨_, heq⟩ | heq := hid
  · cases heq
  · cases heq

/-- What is known of a session after a step of one of them. -/
lemma has_setTask (hw : s.workers id = some w)
    (hfinished : w.task.control.isFinished = true → t.control.isFinished = true) {uid : String}
    {i : ℕ} {w' : Worker} (h : (s.setTask id w t).Has uid i w') :
    ∃ w₀, s.Has uid i w₀ ∧ w'.previous = w₀.previous ∧ (i ≠ id → w' = w₀) ∧
      (w₀.task.control.isFinished = true → w'.task.control.isFinished = true) := by
  obtain ⟨hi, huid⟩ := h
  obtain ⟨rfl, rfl⟩ | ⟨hne, hi⟩ := setTask_workers hi
  · exact ⟨w, ⟨hw, huid⟩, rfl, fun hne => absurd rfl hne, hfinished⟩
  · exact ⟨w', ⟨hi, huid⟩, rfl, fun _ => rfl, fun hf => hf⟩

lemma Has.setTask (hw : s.workers id = some w) {uid : String} {i : ℕ} {w' : Worker}
    (h : s.Has uid i w') : ∃ w'', (s.setTask id w t).Has uid i w'' := by
  obtain ⟨hi, huid⟩ := h
  by_cases hne : i = id
  · subst hne
    obtain rfl := Option.some.inj (hw.symm.trans hi)
    exact ⟨_, Function.update_self _ _ _, huid⟩
  · exact ⟨w', (Function.update_of_ne hne _ _).trans hi, huid⟩

lemma Has.unique {uid : String} {i : ℕ} {w w' : Worker} (h : s.Has uid i w) (h' : s.Has uid i w') :
    w = w' :=
  Option.some.inj (h.1.symm.trans h'.1)

/-- A session takes a step; if it stops waiting, all the sessions before it have finished. -/
lemma Ordered.setTask (h : s.Ordered) (hw : s.workers id = some w)
    (hfinished : w.task.control.isFinished = true → t.control.isFinished = true)
    (hturn : t.control.isWaiting = false → w.task.control.isWaiting = false ∨
      ∀ i w', s.Has w.spec.claim.uid i w' → i < id → w'.task.control.isFinished = true) :
    (s.setTask id w t).Ordered where
  apart := h.apart
  latest uid i hi := by
    obtain ⟨⟨w₀, hw₀⟩, hlatest⟩ := h.latest uid i hi
    refine ⟨hw₀.setTask hw, fun j w' hj => ?_⟩
    obtain ⟨w₁, hw₁, _⟩ := has_setTask hw hfinished hj
    exact hlatest j w₁ hw₁
  quiet uid hnone i w' hi := by
    obtain ⟨w₀, hw₀, _, _, hfin⟩ := has_setTask hw hfinished hi
    exact hfin (h.quiet uid hnone i w₀ hw₀)
  previous uid j w₁ i w₂ hj hi hlt := by
    obtain ⟨v₁, hv₁, hprevious, _⟩ := has_setTask hw hfinished hj
    obtain ⟨v₂, hv₂, _, _, hfin⟩ := has_setTask hw hfinished hi
    obtain hdone | ⟨k, hk, ⟨u, hu⟩, hle⟩ := h.previous uid j v₁ i v₂ hv₁ hv₂ hlt
    · exact Or.inl (hfin hdone)
    · exact Or.inr ⟨k, hprevious.trans hk, hu.setTask hw, hle⟩
  turn uid j w₁ i w₂ hj hi hlt hgoing := by
    obtain ⟨v₁, hv₁, _, hsame, _⟩ := has_setTask hw hfinished hj
    obtain ⟨v₂, hv₂, _, _, hfin⟩ := has_setTask hw hfinished hi
    by_cases hne : j = id
    · subst hne
      obtain rfl := Option.some.inj (hw.symm.trans hv₁.1)
      obtain ⟨_, rfl⟩ | ⟨hne, _⟩ := setTask_workers hj.1
      · obtain hbefore | hdone := hturn hgoing
        · exact hfin (h.turn uid j _ i v₂ hv₁ hv₂ hlt hbefore)
        · exact hfin (hdone i v₂ (hv₁.2 ▸ hv₂) hlt)
      · exact absurd rfl hne
    · rw [hsame hne] at hgoing
      exact hfin (h.turn uid j v₁ i v₂ hv₁ hv₂ hlt hgoing)

/-- The handles change, but not what they say. -/
lemma Ordered.of_handles (h : s.Ordered) (hworkers : s'.workers = s.workers)
    (hhandle : ∀ uid id, s'.Handle uid id ↔ s.Handle uid id)
    (hapart : ∀ uid, (s'.running uid).isSome = true → s'.stopping uid = none) : s'.Ordered where
  apart := hapart
  latest uid id hid := by
    simp only [Has, hworkers]
    exact h.latest uid id ((hhandle uid id).mp hid)
  quiet uid hnone := by
    simp only [Has, hworkers]
    exact h.quiet uid fun id hid => hnone id ((hhandle uid id).mpr hid)
  previous := by
    simp only [Has, hworkers]
    exact h.previous
  turn := by
    simp only [Has, hworkers]
    exact h.turn

/-- Handles of finished sessions are dropped: if the latest session of a claim has finished, so have
the others. -/
lemma Ordered.retain (h : s.Ordered) {stopping : String → Option ℕ}
    (hretained : s.Retained stopping) (pass : Pass) :
    Ordered { s with stopping := stopping, pass := pass } where
  apart uid hrunning := by
    obtain hsame | ⟨hnone, _⟩ := hretained uid
    · exact hsame.trans (h.apart uid hrunning)
    · exact hnone
  latest uid id hid := by
    refine h.latest uid id (hid.imp_right fun hstopping => ?_)
    obtain hsame | ⟨hnone, _⟩ := hretained uid
    · exact hsame.symm.trans hstopping
    · cases hnone.symm.trans hstopping
  quiet uid hnone i w hi := by
    obtain hsame | ⟨_, id, hstopping, hfinished⟩ := hretained uid
    · exact h.quiet uid (fun id hid => hnone id (hid.imp_right hsame.trans)) i w hi
    · obtain ⟨⟨w', hw'⟩, hlatest⟩ := h.latest uid id (Or.inr hstopping)
      rw [isFinished, hw'.1, Option.any_some] at hfinished
      obtain hlt | rfl := (hlatest i w hi).lt_or_eq
      · refine h.turn uid id w' i w hw' hi hlt ?_
        cases hcontrol : w'.task.control with
        | waiting =>
            rw [hcontrol] at hfinished
            cases hfinished
        | _ => rfl
      · exact hw'.unique hi ▸ hfinished
  previous := h.previous
  turn := h.turn

lemma Ordered.stop (h : s.Ordered) {uid : String} {spec : SessionSpec} {stale : List String}
    (hrunning : s.running uid = some (spec, id)) (hw : s.workers id = some w) :
    (s.stop uid id w stale).Ordered := by
  have hstopping : s.stopping uid = none := h.apart uid (by rw [hrunning]; rfl)
  have hcancelled : (s.setTask id w { w.task with cancelled := true }).Ordered :=
    h.setTask hw (fun hf => hf) fun hg => Or.inl hg
  refine hcancelled.of_handles rfl (fun uid' id' => ?_) fun uid' hsome => ?_
  · show ((∃ spec', Function.update s.running uid none uid' = some (spec', id')) ∨
      Function.update s.stopping uid (some id) uid' = some id') ↔ s.Handle uid' id'
    by_cases huid : uid' = uid
    · rw [huid, Function.update_self, Function.update_self, Handle, hrunning, hstopping]
      constructor
      · rintro (⟨_, heq⟩ | heq)
        · cases heq
        · exact Or.inl ⟨spec, by rw [Option.some.inj heq]⟩
      · rintro (⟨_, heq⟩ | heq)
        · exact Or.inr (by rw [(Prod.mk.inj (Option.some.inj heq)).2])
        · cases heq
    · rw [Function.update_of_ne huid, Function.update_of_ne huid]
      exact Iff.rfl
  · replace hsome : (Function.update s.running uid none uid').isSome = true := hsome
    show Function.update s.stopping uid (some id) uid' = none
    by_cases huid : uid' = uid
    · rw [huid, Function.update_self] at hsome
      cases hsome
    · rw [Function.update_of_ne huid] at hsome ⊢
      exact h.apart uid' hsome

/-- The session that is started is the latest of its claim, and waits for the one before it. -/
lemma Ordered.start (h : s.Ordered) (hkept : s.Kept ctx) {uid : String} {spec : SessionSpec}
    {missing : List (String × SessionSpec)} (hspec : spec.claim.uid = uid)
    (hrunning : s.running uid = none) : (s.start uid spec missing).Ordered := by
  have hnew : ∀ {uid' i w'}, (s.start uid spec missing).Has uid' i w' →
      i = s.next ∧ uid' = uid ∧ w' = ⟨spec, s.stopping uid, .spawned⟩ ∨
        i < s.next ∧ s.Has uid' i w' := by
    rintro uid' i w' ⟨hi, huid⟩
    replace hi : Function.update s.workers s.next (some ⟨spec, s.stopping uid, .spawned⟩) i =
      some w' := hi
    by_cases hne : i = s.next
    · rw [hne, Function.update_self] at hi
      obtain rfl := Option.some.inj hi
      exact Or.inl ⟨hne, huid.symm.trans hspec, rfl⟩
    · rw [Function.update_of_ne hne] at hi
      exact Or.inr ⟨hkept.old i w' hi, hi, huid⟩
  have hold : ∀ {uid' i w'}, s.Has uid' i w' → (s.start uid spec missing).Has uid' i w' := by
    rintro uid' i w' ⟨hi, huid⟩
    exact ⟨(Function.update_of_ne (hkept.old i w' hi).ne _ _).trans hi, huid⟩
  have hhandle : ∀ {uid' i}, uid' ≠ uid →
      ((s.start uid spec missing).Handle uid' i ↔ s.Handle uid' i) := by
    intro uid' i huid
    show ((∃ spec', Function.update s.running uid _ uid' = some (spec', i)) ∨
      Function.update s.stopping uid none uid' = some i) ↔ _
    rw [Function.update_of_ne huid, Function.update_of_ne huid]
    exact Iff.rfl
  have hself : (s.start uid spec missing).Handle uid s.next :=
    Or.inl ⟨spec, Function.update_self _ _ _⟩
  refine ⟨fun uid' hsome => ?_, fun uid' id hid => ?_, fun uid' hnone i w' hi => ?_,
    fun uid' j w₁ i w₂ hj hi hlt => ?_, fun uid' j w₁ i w₂ hj hi hlt hgoing => ?_⟩
  · replace hsome : (Function.update s.running uid (some (spec, s.next)) uid').isSome = true :=
      hsome
    show Function.update s.stopping uid none uid' = none
    by_cases huid : uid' = uid
    · rw [huid, Function.update_self]
    · rw [Function.update_of_ne huid] at hsome ⊢
      exact h.apart uid' hsome
  · by_cases huid : uid' = uid
    · subst huid
      have hid : id = s.next := by
        obtain ⟨spec', heq⟩ | heq := hid
        · replace heq : Function.update s.running uid' (some (spec, s.next)) uid' = _ := heq
          rw [Function.update_self] at heq
          exact (Prod.mk.inj (Option.some.inj heq)).2.symm
        · replace heq : Function.update s.stopping uid' none uid' = _ := heq
          rw [Function.update_self] at heq
          cases heq
      subst hid
      refine ⟨⟨_, Function.update_self _ _ _, hspec⟩, fun i w' hi => ?_⟩
      obtain ⟨rfl, _⟩ | ⟨hlt, _⟩ := hnew hi
      · exact le_rfl
      · exact hlt.le
    · obtain ⟨⟨w', hw'⟩, hlatest⟩ := h.latest uid' id ((hhandle huid).mp hid)
      refine ⟨⟨w', hold hw'⟩, fun i w'' hi => ?_⟩
      obtain ⟨_, huid', _⟩ | ⟨_, hi⟩ := hnew hi
      · exact absurd huid' huid
      · exact hlatest i w'' hi
  · have huid : uid' ≠ uid := by
      rintro rfl
      exact hnone _ hself
    obtain ⟨_, huid', _⟩ | ⟨_, hi⟩ := hnew hi
    · exact absurd huid' huid
    · exact h.quiet uid' (fun id hid => hnone id ((hhandle huid).mpr hid)) i w' hi
  · obtain ⟨rfl, rfl, rfl⟩ | ⟨hj', hj⟩ := hnew hj
    · obtain ⟨rfl, _⟩ | ⟨_, hi⟩ := hnew hi
      · exact absurd hlt (lt_irrefl _)
      · cases hstopping : s.stopping uid' with
        | some k =>
            obtain ⟨⟨w', hw'⟩, hlatest⟩ := h.latest uid' k (Or.inr hstopping)
            exact Or.inr ⟨k, rfl, ⟨w', hold hw'⟩, hlatest i w₂ hi, hkept.old k w' hw'.1⟩
        | none =>
            refine Or.inl (h.quiet uid' (fun id hid => ?_) i w₂ hi)
            obtain ⟨_, heq⟩ | heq := hid
            · cases hrunning.symm.trans heq
            · cases hstopping.symm.trans heq
    · obtain ⟨rfl, _⟩ | ⟨_, hi⟩ := hnew hi
      · exact absurd (hlt.trans hj') (lt_irrefl _)
      · obtain hdone | ⟨k, hk, ⟨w', hw'⟩, hle⟩ := h.previous uid' j w₁ i w₂ hj hi hlt
        · exact Or.inl hdone
        · exact Or.inr ⟨k, hk, ⟨w', hold hw'⟩, hle⟩
  · obtain ⟨_, _, rfl⟩ | ⟨hj', hj⟩ := hnew hj
    · cases hgoing
    · obtain ⟨rfl, _⟩ | ⟨_, hi⟩ := hnew hi
      · exact absurd (hlt.trans hj') (lt_irrefl _)
      · exact h.turn uid' j w₁ i w₂ hj hi hlt hgoing

lemma Ordered.work (h : s.Ordered) {l : SessionLabel} (hw : s.workers id = some w)
    (hstep : SessionTask.Step ctx w.spec w.task l t) (hl : l ≠ .cancel)
    (hturn : l = .started → ∀ k, w.previous = some k → s.isFinished k = true) :
    (s.setTask id w t).Ordered := by
  refine h.setTask hw (fun hf => absurd (hstep.label_of_finished hf) hl) fun _ => ?_
  cases hwaiting : w.task.control.isWaiting with
  | false => exact Or.inl rfl
  | true =>
      refine Or.inr fun i w' hi hlt => ?_
      have hstarted := (hstep.label_of_waiting hwaiting).resolve_right hl
      obtain hdone | ⟨k, hk, ⟨w'', hw''⟩, hle, _⟩ :=
        h.previous w.spec.claim.uid id w i w' ⟨hw, rfl⟩ hi hlt
      · exact hdone
      · have hfinished := hturn hstarted k hk
        rw [isFinished, hw''.1, Option.any_some] at hfinished
        obtain hlt | rfl := hle.lt_or_eq
        · refine h.turn _ k w'' i w' hw'' hi hlt ?_
          cases hcontrol : w''.task.control with
          | waiting =>
              rw [hcontrol] at hfinished
              cases hfinished
          | _ => rfl
        · exact hw''.unique hi ▸ hfinished

lemma Ordered.step (h : s.Ordered) (hkept : s.Kept ctx) (hstep : Step ctx s l s')
    (hpunctual : ∀ id, l ≠ .late id) : s'.Ordered := by
  cases hstep with
  | look | collect | stopped | keep | rest =>
      exact h.of_handles rfl (fun _ _ => Iff.rfl) h.apart
  | retain _ hretained => exact h.retain hretained _
  | stop _ hrunning hw => exact h.stop hrunning hw
  | @start uid spec missing hpass hrunning =>
      have hin := hkept.inPass
      rw [InPass, hpass] at hin
      exact h.start hkept (hkept.named uid spec (hin.2.2 (uid, spec) List.mem_cons_self)) hrunning
  | work hw hstep hl hturn => exact h.work hw hstep hl hturn
  | late => exact absurd rfl (hpunctual _)

/-- **The sessions of a claim take turns.**  As long as no session gives up waiting for the one
before it, at most one session of a claim is at work at any moment of any run, however the specs
change, the passes fall and the sessions linger; and it is the latest one that started. -/
theorem sessions_take_turns (h : (punctual ctx).Reachable s) {i j : ℕ} {w w' : Worker}
    (hi : s.workers i = some w) (hj : s.workers j = some w')
    (huid : w.spec.claim.uid = w'.spec.claim.uid) (hlt : i < j)
    (hstarted : w'.task.control.isWaiting = false) : w.task.control.isFinished = true := by
  have hordered : s.Kept ctx ∧ s.Ordered := by
    refine h.invariant (I := fun s => s.Kept ctx ∧ s.Ordered) ?_
      fun _ _ _ ⟨hkept, hordered⟩ ⟨hpunctual, hstep⟩ =>
        ⟨hkept.step hstep, hordered.step hkept hstep hpunctual⟩
    rintro _ rfl
    exact ⟨kept_initial, ordered_initial⟩
  exact hordered.2.turn _ j w' i w ⟨hj, rfl⟩ ⟨hi, huid⟩ hlt hstarted

/-! A claim is moved to another slot while its session is running. -/

def slotSpec (slot : ℤ) : SessionSpec := { SessionTask.sampleSpec with slot := slot }

def slotView (slot : ℤ) : AgentView where
  node := "node-b"
  claims := [⟨some "vms", "claim", some "uid-1", 1, none, none, none, [],
    ⟨"vm", { deviceName := some "usb-1" }, none, none⟩,
    some { deviceName := some "usb-1", slot := some slot }⟩]
  devices := ⟨[SessionTask.sampleDevice], List.pairwise_singleton _ _⟩
  vmis := [SessionTask.sampleVmi]

lemma desiredMap_slotView (slot : ℤ) (uid : String) :
    (slotView slot).desiredMap uid = if "uid-1" = uid then some (slotSpec slot) else none := by
  show [slotSpec slot].find? _ = _
  rw [List.find?_singleton]
  simp only [decide_eq_true_eq]
  rfl

lemma enumerates_slotView (slot : ℤ) :
    Enumerates (slotView slot).desiredMap [("uid-1", slotSpec slot)] := by
  refine ⟨List.nodup_singleton _, fun uid spec => ?_⟩
  rw [desiredMap_slotView, List.mem_singleton, Prod.mk.injEq, Option.ite_none_right_eq_some,
    Option.some.injEq, eq_comm, @eq_comm _ spec]

lemma punctual_pass (h : (punctual ctx).Reachable s) (hstep : Step ctx s .pass s') :
    (punctual ctx).Reachable s' :=
  h.step (l := .pass) ⟨fun _ => nofun, hstep⟩

lemma punctual_work (id : ℕ) (h : (punctual ctx).Reachable s) {l : SessionLabel}
    (hw : s.workers id = some w) (hstep : SessionTask.Step ctx w.spec w.task l t) (hl : l ≠ .cancel)
    (hturn : l = .started → ∀ k, w.previous = some k → s.isFinished k = true) :
    (punctual ctx).Reachable (s.setTask id w t) :=
  h.step (l := .work id l) ⟨fun _ => nofun, .work hw hstep hl hturn⟩

lemma stale_nil (h : ∀ uid, s.running uid = none) : s.Stale [] :=
  ⟨List.nodup_nil, fun _ hmem => absurd hmem List.not_mem_nil, fun uid r hr => by
    rw [h uid] at hr
    cases hr⟩

def oneSession : Attacher where
  pass := .resting
  desired := (slotView 0).desiredMap
  running := Function.update (fun _ => none) "uid-1" (some (slotSpec 0, 0))
  stopping := Function.update (fun _ => none) "uid-1" none
  workers := Function.update (fun _ => none) 0 (some ⟨slotSpec 0, none, .spawned⟩)
  next := 1

lemma oneSession_reachable : (punctual SessionTask.sampleContext).Reachable oneSession := by
  have h : (punctual SessionTask.sampleContext).Reachable initial := .init rfl
  have h := punctual_pass h (.look (slotView 0) rfl)
  have h := punctual_pass h (.retain rfl fun _ => Or.inl rfl)
  have h := punctual_pass h (.collect rfl (stale_nil fun _ => rfl))
  have h := punctual_pass h (.stopped rfl (enumerates_slotView 0))
  have h := punctual_pass h (.start rfl rfl)
  exact punctual_pass h (.rest rfl)

/-- The session of slot 0 is no longer what is wanted. -/
lemma stale_moved : Stale { oneSession with
    desired := (slotView 1).desiredMap, pass := .collecting } ["uid-1"] := by
  have hrunning : oneSession.running "uid-1" = some (slotSpec 0, 0) := rfl
  have hwanted : (slotView 1).desiredMap "uid-1" ≠ some (slotSpec 0) := by
    rw [desiredMap_slotView, if_pos rfl]
    intro heq
    cases congrArg (·.slot) (Option.some.inj heq)
  refine ⟨List.nodup_singleton _, List.forall_mem_singleton.mpr ⟨(slotSpec 0, 0), hrunning,
    Or.inl hwanted⟩, fun uid r hr _ => ?_⟩
  replace hr : Function.update (fun _ => none) "uid-1" (some (slotSpec 0, 0)) uid = some r := hr
  by_cases huid : uid = "uid-1"
  · exact List.mem_singleton.mpr huid
  · rw [Function.update_of_ne huid] at hr
    cases hr

/-- The second session is waiting for the first, which is being stopped. -/
def movedSession : Attacher where
  pass := .starting []
  desired := (slotView 1).desiredMap
  running := Function.update (Function.update oneSession.running "uid-1" none) "uid-1"
    (some (slotSpec 1, 1))
  stopping := Function.update (Function.update oneSession.stopping "uid-1" (some 0)) "uid-1" none
  workers := Function.update (Function.update oneSession.workers 0
    (some ⟨slotSpec 0, none, { SessionTask.spawned with cancelled := true }⟩)) 1
    (some ⟨slotSpec 1, some 0, .spawned⟩)
  next := 2

lemma movedSession_reachable : (punctual SessionTask.sampleContext).Reachable movedSession := by
  have hrunning : oneSession.running "uid-1" = some (slotSpec 0, 0) := rfl
  have h := punctual_pass oneSession_reachable (.look (slotView 1) rfl)
  have h := punctual_pass h (.retain rfl fun _ => Or.inl rfl)
  have h := punctual_pass h (.collect rfl stale_moved)
  have h := punctual_pass h (.stop rfl hrunning rfl)
  have h := punctual_pass h (.stopped rfl (enumerates_slotView 1))
  exact punctual_pass h (.start rfl rfl)

theorem sessions_take_turns_moved : ∃ s w, (punctual SessionTask.sampleContext).Reachable s ∧
    s.workers 0 = some w ∧ w.task.control.isFinished = true := by
  have h := punctual_work 0 movedSession_reachable rfl (.started 1704067200 rfl) nofun
    fun _ _ => nofun
  have h := punctual_work 0 h rfl (.cut rfl rfl) nofun nofun
  have h := punctual_work 0 h rfl (.reporting _ rfl rfl) nofun nofun
  have h := punctual_work 0 h rfl (.reporting none rfl trivial) nofun nofun
  have h := punctual_work 0 h rfl (.reporting SessionTask.sampleNow rfl trivial) nofun nofun
  have h := punctual_work 0 h rfl (.reporting () rfl trivial) nofun nofun
  have h := punctual_work 0 h rfl (.reporting SessionTask.done rfl trivial) nofun nofun
  have h := punctual_work 0 h rfl (.reporting () rfl trivial) nofun nofun
  have h := punctual_work 0 h rfl (.reported rfl) nofun nofun
  have h := punctual_work 1 h rfl (.started 1704067200 rfl) nofun fun _ k hk => by
    obtain rfl := Option.some.inj hk
    rfl
  exact ⟨_, _, h, rfl, sessions_take_turns h (i := 0) (j := 1) rfl rfl rfl (by decide) rfl⟩

/-- Once the pass that moved the claim is over, the second session is the live one and the first is
cancelled, whether it has finished or not. -/
theorem running_is_live_moved : ∃ s, (system SessionTask.sampleContext).Reachable s ∧
    (∃ w, s.workers 1 = some w ∧ w.spec = slotSpec 1 ∧ w.task.cancelled = false ∧
      w.task.control.isFinished = false) ∧
    (∃ w, s.workers 0 = some w ∧ w.task.cancelled = true) ∧
    (s.running "uid-1").map Prod.fst = (slotView 1).desiredMap "uid-1" := by
  have h := (punctual_pass movedSession_reachable (.rest rfl)).of_restrict
  obtain ⟨hlive, hrunning, hwanted⟩ := running_is_live h
  refine ⟨_, h, (hrunning "uid-1" (slotSpec 1) 1 rfl).2, ⟨_, rfl, ?_⟩, hwanted rfl "uid-1"⟩
  by_contra hcancelled
  have hfirst := (hlive 0 _ rfl).mp (eq_false_of_ne_true hcancelled)
  cases congrArg Prod.snd (Option.some.inj hfirst)

end Attacher

end AtomicUsb
