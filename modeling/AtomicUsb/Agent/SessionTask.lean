import AtomicUsb.Agent.AttemptProtocol
import AtomicUsb.Foundation.Paths
import Mathlib.Algebra.BigOperators.Intervals
import Mathlib.Algebra.Order.BigOperators.Group.Finset

/-!
# A session as a task

A session task makes one attempt after another until it is cancelled.  An attempt that found a
precondition unmet is followed by a pause until the cluster changes; after any other one the task
sleeps, twice as long each time, and only a connection that held for a while resets this.  When it
is cancelled the task reports the device as detached and is over.

The task is a transition system; whatever else happens on the node or in the cluster reaches it
through the answers it gets and through being cancelled.  It can be cut off only where it awaits
something: at the awaits of an attempt and in its pauses, not while it makes one of the reports
between them.
-/

namespace AtomicUsb

inductive Pause
  /-- Until the cluster changes, or for `maxBackoff`. -/
  | change
  | backoff

/-- What follows a report. -/
inductive Sequel
  | pause (p : Pause)
  | finish

inductive Control
  /-- For the claim's previous session to finish. -/
  | waiting
  /-- An attempt is about to begin. -/
  | ready
  | attempting (rest : SessionProg (Except AttemptError Progress))
  | reporting (rest : SessionProg Unit) (sequel : Sequel)
  | pausing (p : Pause)
  | finished

structure SessionTask where
  control : Control
  reporter : Reporter
  backoff : ℕ
  cancelled : Bool
  /-- What happened since the last attempt, or the final report, began. -/
  log : List SessionEvent

/-- What a task does. -/
inductive SessionLabel
  | started
  | attempt
  | call (e : SessionEvent)
  | attempted (r : Except AttemptError Progress)
  | reported
  | woken
  | slept (millis : ℕ)
  | cancel
  | cut

def Reporter.noted (r : Reporter) : SessionEvent → Reporter
  | ⟨.setSince since, _⟩ => { r with since := since }
  | ⟨.remember entry, _⟩ => { r with last := some entry }
  | _ => r

/-- What a session asks of the API server. -/
def SessionEvent.api? : SessionEvent → Option ApiEvent
  | ⟨.api call, answer⟩ => some ⟨call, answer⟩
  | _ => none

section Reports

variable {ctx : SessionContext} {spec : SessionSpec}

/-- Finding out since when a state lasts asks nothing of the API server. -/
lemma reportSince_runs {state : ConnectionState} {message : String} {awaitingResume : Bool}
    {tr : List SessionEvent} {r : Reporter} {since : String} {now : ℤ}
    (h : (reportSince ctx r state awaitingResume).Runs tr since)
    (hnow : ∀ t : Timestamp, ⟨.now, t⟩ ∈ tr → t.asSecond.toInt = now) :
    tr.filterMap SessionEvent.api? = [] ∧ tr.foldl Reporter.noted r = r ∧
      since =
        (r.connection ctx.rt ctx.config.node spec now state message awaitingResume).since := by
  rw [reportSince] at h
  show _ ∧ _ ∧ since = ite (Reporter.changes r state awaitingResume = true) _ _
  split_ifs at h ⊢ with hchanges
  · obtain ⟨t, tr, rfl, rfl, rfl⟩ := h
    exact ⟨rfl, rfl, by rw [hnow t List.mem_cons_self]⟩
  · obtain ⟨rfl, rfl⟩ := h
    exact ⟨rfl, rfl, rfl⟩

/-- A report as the session makes it is the report of its reporter, with what it read on the way. -/
lemma reportWith_refines {state : ConnectionState} {message : String} {awaitingResume : Bool}
    {tr : List SessionEvent} {r : Reporter} {current : Option ConnectionStatus} {now : ℤ}
    (h : (reportWith ctx spec state message awaitingResume).Runs tr ())
    (hr : ∀ r', ⟨.reporter, r'⟩ ∈ tr → r' = r)
    (hcurrent : ∀ c, ⟨.connection spec.claim.ns spec.claim.name, c⟩ ∈ tr → c = current)
    (hnow : ∀ t : Timestamp, ⟨.now, t⟩ ∈ tr → t.asSecond.toInt = now) :
    (r.reportWith ctx.rt ctx.config.node spec current now state message awaitingResume).Runs
      (tr.filterMap SessionEvent.api?) (tr.foldl Reporter.noted r) := by
  obtain ⟨r', tr, rfl, h⟩ := h
  obtain rfl := hr r' List.mem_cons_self
  replace h : Prog.Runs (ite _ _ _) tr () := h
  by_cases hlast : r'.last = some (state, message, awaitingResume)
  · rw [if_pos hlast] at h
    obtain ⟨rfl, -⟩ := h
    rw [Reporter.reportWith, if_pos hlast]
    exact ⟨rfl, rfl⟩
  · rw [if_neg hlast] at h
    obtain ⟨current', tr, rfl, h⟩ := h
    obtain rfl := hcurrent current' (by simp)
    replace h : Prog.Runs (ite _ _ _) tr () := h
    by_cases htaken : state = .disconnected ∧ Reporter.takenOver ctx.config.node current'
    · rw [if_pos htaken] at h
      obtain ⟨_, _, rfl, rfl, -⟩ := h
      rw [Reporter.reportWith, if_neg hlast, if_pos htaken]
      exact ⟨rfl, rfl⟩
    · rw [if_neg htaken] at h
      obtain ⟨tr₁, _, since, rfl, hsince, u, _, rfl, answer, tr₂, rfl, hend⟩ :=
        Prog.runs_bind.mp h
      obtain ⟨hnone, hsame, rfl⟩ : tr₁.filterMap SessionEvent.api? = [] ∧
          tr₁.foldl Reporter.noted r' = r' ∧ since = (r'.connection ctx.rt ctx.config.node spec now
            state message awaitingResume).since :=
        reportSince_runs hsince fun t ht => hnow t (by simp [ht])
      rw [Reporter.reportWith_eq_call ctx.rt (not_or.mpr ⟨hlast, htaken⟩)]
      obtain ⟨hquiet, hafter⟩ : tr₂.filterMap SessionEvent.api? = [] ∧ ∀ since,
          tr₂.foldl Reporter.noted ⟨r'.last, since⟩ =
            r'.after (state, message, awaitingResume) since answer := by
        rcases answer with (_ | _ | _) | _
        · obtain ⟨rfl, -⟩ := hend
          exact ⟨rfl, fun _ => rfl⟩
        · obtain ⟨_, _, rfl, rfl, -⟩ := hend
          exact ⟨rfl, fun _ => rfl⟩
        · obtain ⟨rfl, -⟩ := hend
          exact ⟨rfl, fun _ => rfl⟩
        · obtain ⟨_, _, rfl, rfl, -⟩ := hend
          exact ⟨rfl, fun _ => rfl⟩
      refine ⟨answer, [], ?_, rfl, ?_⟩
      · show (tr₁ ++ _).filterMap _ = _
        rw [List.filterMap_append, hnone]
        show _ :: tr₂.filterMap _ = _
        rw [hquiet]
        rfl
      · show (tr₁ ++ _).foldl Reporter.noted r' = _
        have hfold : (tr₁.foldl Reporter.noted r').last = r'.last := by rw [hsame]
        refine List.foldl_append.trans ((hafter _).symm ▸ ?_)
        show tr₂.foldl Reporter.noted ⟨(tr₁.foldl Reporter.noted r').last, _⟩ = _
        rw [hfold, hafter]

end Reports

namespace SessionTask

variable (ctx : SessionContext) (spec : SessionSpec)

def spawned : SessionTask := ⟨.waiting, ⟨none, ""⟩, minBackoff, false, []⟩

def noted (t : SessionTask) (e : SessionEvent) : SessionTask :=
  { t with reporter := t.reporter.noted e, log := t.log ++ [e] }

/-- A task reads its own reporter; of everything else it takes any answer. -/
def Answers (t : SessionTask) : SessionEvent → Prop
  | ⟨.reporter, r⟩ => r = t.reporter
  | _ => True

/-- After a part of an attempt. -/
def attempted (t : SessionTask) : Except AttemptError Progress → SessionTask
  | .ok (.plugged target) => { t with control := .attempting (readGreeting ctx spec target).run }
  | .ok (.greeted target greeting) =>
    { t with control := .attempting (attach ctx spec target greeting).run }
  | .ok (.ended millis) =>
    { t with
      control := .reporting (report ctx spec .disconnected "session ended; reconnecting")
        (.pause .backoff)
      backoff := if healthySession ≤ millis then minBackoff else t.backoff }
  | .error (.waiting message) =>
    { t with control := .reporting (report ctx spec .disconnected message) (.pause .change) }
  | .error (.failed message) =>
    { t with control := .reporting (report ctx spec .disconnected message) (.pause .backoff) }

def reported (t : SessionTask) : Sequel → SessionTask
  | .pause p => { t with control := .pausing p }
  | .finish => { t with control := .finished }

/-- The loop is left. -/
def detach (t : SessionTask) : SessionTask :=
  { t with control := .reporting (report ctx spec .disconnected "detached") .finish, log := [] }

/-- The task can be cut off. -/
def exposed (t : SessionTask) : Bool :=
  match t.control with
  | .ready | .pausing _ => true
  | .attempting rest => rest.head?.any (·.waits)
  | _ => false

inductive Step : SessionTask → SessionLabel → SessionTask → Prop
  | started {t : SessionTask} (now : ℤ) : t.control = .waiting →
      Step t .started { t with control := .ready, reporter := .new ctx.rt now }
  | attempt {t : SessionTask} : t.control = .ready →
      Step t .attempt { t with control := .attempting (plugIn ctx spec).run, log := [] }
  | attempting {t : SessionTask} {call : SessionCall}
      {k : call.Answer → SessionProg (Except AttemptError Progress)} (x : call.Answer) :
      t.control = .attempting (.call call k) → t.Answers ⟨call, x⟩ →
      Step t (.call ⟨call, x⟩) { t.noted ⟨call, x⟩ with control := .attempting (k x) }
  | attempted {t : SessionTask} {r : Except AttemptError Progress} :
      t.control = .attempting (.pure r) → Step t (.attempted r) (t.attempted ctx spec r)
  | reporting {t : SessionTask} {call : SessionCall} {k : call.Answer → SessionProg Unit}
      {sequel : Sequel} (x : call.Answer) :
      t.control = .reporting (.call call k) sequel → t.Answers ⟨call, x⟩ →
      Step t (.call ⟨call, x⟩) { t.noted ⟨call, x⟩ with control := .reporting (k x) sequel }
  | reported {t : SessionTask} {sequel : Sequel} :
      t.control = .reporting (.pure ()) sequel → Step t .reported (t.reported sequel)
  | woken {t : SessionTask} : t.control = .pausing .change →
      Step t .woken { t with control := .ready }
  | slept {t : SessionTask} : t.control = .pausing .backoff →
      Step t (.slept t.backoff)
        { t with control := .ready, backoff := min (t.backoff * 2) maxBackoff }
  | cancel {t : SessionTask} : Step t .cancel { t with cancelled := true }
  | cut {t : SessionTask} : t.cancelled = true → t.exposed = true →
      Step t .cut (t.detach ctx spec)

def system : System SessionTask SessionLabel where
  init t := t = spawned
  step := Step ctx spec

/-! ## What a task keeps -/

/-- The reporter has not said goodbye. -/
def Fresh (r : Reporter) : Prop := ∀ entry, r.last = some entry → entry.2.1 ≠ "detached"

/-- The final report was written, or it was seen that another node has taken over the VM. -/
def FinalReport (log : List SessionEvent) : Prop :=
  (∃ since answer, ⟨.api (reportPatch ctx spec .disconnected "detached" since false), answer⟩ ∈
    log) ∨
  ∃ current, ⟨.connection spec.claim.ns spec.claim.name, current⟩ ∈ log ∧
    Reporter.takenOver ctx.config.node current = true

/-- The calls of the final report: it looks at the reporter first. -/
def MayTell (log : List SessionEvent) (call : SessionCall) : Prop :=
  IsReport ctx spec .disconnected "detached" false call ∧ (call = .reporter → log = [])

/-- The history of a task that is being told goodbye to, or has been: the reporter it read had not
said goodbye, and if so the final report is in it. -/
def Farewell (log : List SessionEvent) : Prop :=
  (∀ r, (⟨.reporter, r⟩ : SessionEvent) ∈ log → Fresh r) → FinalReport ctx spec log

/-- What is known about the task where it is. -/
def Sound (t : SessionTask) : Control → Prop
  | .waiting | .ready | .pausing _ => Fresh t.reporter
  | .attempting rest => Fresh t.reporter ∧
    rest.Ensures (.logged (Allowed ctx spec)) t.log (Outcome fun p log => p.Holds ctx spec log)
  | .reporting rest (.pause _) => Fresh t.reporter ∧
    rest.Issues fun call => ∃ message, message ≠ "detached" ∧
      IsReport ctx spec .disconnected message false call
  | .reporting rest .finish => t.cancelled = true ∧ (t.log = [] → Fresh t.reporter) ∧
    (∀ r, (⟨.reporter, r⟩ : SessionEvent) ∈ t.log → Fresh r) ∧
    rest.Ensures (.logged (MayTell ctx spec)) t.log fun _ log => Farewell ctx spec log
  | .finished => t.cancelled = true ∧ FinalReport ctx spec t.log

variable {ctx spec}

lemma Fresh.noted {r : Reporter} (h : Fresh r) {call : SessionCall} {x : call.Answer}
    (hcall : ∀ entry, call = .remember entry → entry.2.1 ≠ "detached") :
    Fresh (r.noted ⟨call, x⟩) := by
  cases call with
  | remember entry =>
      intro entry' heq
      rw [← Option.some.inj heq]
      exact hcall entry rfl
  | _ => exact h

lemma farewell_of_written {log : List SessionEvent} {since : String} {answer : Except ApiError Unit}
    (h : ⟨.api (reportPatch ctx spec .disconnected "detached" since false), answer⟩ ∈ log) :
    Farewell ctx spec log :=
  fun _ => Or.inl ⟨since, answer, h⟩

/-- The final report is written unless the claim is another node's by now. -/
lemma report_detached : (report ctx spec .disconnected "detached").Ensures
    (.logged (MayTell ctx spec)) [] fun _ log => Farewell ctx spec log := by
  refine Prog.ensures_logged_call.mpr ⟨⟨trivial, fun _ => rfl⟩, fun r => ?_⟩
  show Prog.Ensures _ (ite _ _ _) _ _
  split_ifs with hlast
  · exact fun hfresh => absurd rfl (hfresh r (List.mem_singleton_self _) _ hlast)
  · refine Prog.ensures_logged_call.mpr ⟨⟨⟨rfl, rfl⟩, fun h => by cases h⟩, fun current => ?_⟩
    show Prog.Ensures _ (ite _ _ _) _ _
    split_ifs with htaken
    · refine Prog.ensures_logged_call.mpr ⟨⟨rfl, fun h => by cases h⟩, fun _ _ =>
        Or.inr ⟨current, ?_, htaken.2⟩⟩
      simp
    · refine Prog.ensures_bind_of_forall ?_ fun since log => ?_
      · rw [reportSince]
        split_ifs
        · exact Prog.ensures_logged_call.mpr ⟨⟨trivial, fun h => by cases h⟩, fun _ => trivial⟩
        · trivial
      · refine Prog.ensures_logged_call.mpr ⟨⟨trivial, fun h => by cases h⟩, fun u => ?_⟩
        refine Prog.ensures_logged_call.mpr ⟨⟨⟨since, rfl⟩, fun h => by cases h⟩, fun answer => ?_⟩
        have hwritten := List.mem_append_right (log ++ [⟨.setSince since, u⟩])
          (List.mem_singleton_self
            (⟨.api (reportPatch ctx spec .disconnected "detached" since false), answer⟩ :
              SessionEvent))
        rcases answer with (_ | _ | _) | _
        · exact farewell_of_written hwritten
        · exact Prog.ensures_logged_call.mpr ⟨⟨rfl, fun h => by cases h⟩, fun _ =>
            farewell_of_written (List.mem_append_left _ hwritten)⟩
        · exact farewell_of_written hwritten
        · exact Prog.ensures_logged_call.mpr ⟨⟨rfl, fun h => by cases h⟩, fun _ =>
            farewell_of_written (List.mem_append_left _ hwritten)⟩

lemma report_issues {message : String} (hmessage : message ≠ "detached") :
    (report ctx spec .disconnected message).Issues fun call =>
      ∃ message, message ≠ "detached" ∧ IsReport ctx spec .disconnected message false call :=
  (reportWith_issues ctx spec).mono fun _ hcall => ⟨message, hmessage, hcall⟩

/-- After a part of an attempt. -/
lemma sound_attempted {t : SessionTask} {r : Except AttemptError Progress}
    (hfresh : Fresh t.reporter) (hr : Outcome (fun p log => p.Holds ctx spec log) r t.log) :
    Sound ctx spec (t.attempted ctx spec r) (t.attempted ctx spec r).control := by
  rcases r with (message | message) | target | ⟨target, greeting⟩ | millis
  · exact ⟨hfresh, report_issues hr.1⟩
  · exact ⟨hfresh, report_issues hr⟩
  · exact ⟨hfresh, readGreeting_ensures hr.1 hr.2⟩
  · exact ⟨hfresh, attach_ensures hr⟩
  · exact ⟨hfresh, report_issues (by decide)⟩

/-- Where a task can be cut off it has not said goodbye. -/
lemma fresh_of_exposed {t : SessionTask} (h : Sound ctx spec t t.control) (hexposed : t.exposed) :
    Fresh t.reporter := by
  unfold exposed at hexposed
  cases hcontrol : t.control with
  | ready | pausing _ =>
      rw [hcontrol] at h
      exact h
  | attempting rest =>
      rw [hcontrol] at h
      exact h.1
  | _ => simp [hcontrol] at hexposed

lemma sound_step {t t' : SessionTask} {l : SessionLabel} (h : Sound ctx spec t t.control)
    (hstep : Step ctx spec t l t') : Sound ctx spec t' t'.control := by
  cases hstep with
  | started now hcontrol => exact nofun
  | attempt hcontrol =>
      rw [hcontrol] at h
      exact ⟨h, plugIn_ensures⟩
  | attempting x hcontrol hanswers =>
      rw [hcontrol] at h
      obtain ⟨hcall, hrest⟩ := Prog.ensures_logged_call.mp h.2
      refine ⟨h.1.noted fun entry heq => ?_, hrest x⟩
      subst heq
      exact hcall
  | attempted hcontrol =>
      rw [hcontrol] at h
      exact sound_attempted h.1 h.2
  | @reporting call k sequel x hcontrol hanswers =>
      rw [hcontrol] at h
      cases sequel with
      | pause p =>
          refine ⟨h.1.noted fun entry heq => ?_, h.2.2 x⟩
          obtain ⟨message, hmessage, hcall⟩ := h.2.1
          subst heq
          rw [show entry = (.disconnected, message, false) from hcall]
          exact hmessage
      | finish =>
          obtain ⟨hcancelled, hfirst, hread, hrest⟩ := h
          obtain ⟨hcall, hrest⟩ := Prog.ensures_logged_call.mp hrest
          refine ⟨hcancelled, fun hnil => absurd hnil (by simp [noted]), fun r hr => ?_, hrest x⟩
          rcases List.mem_append.mp hr with hr | hr
          · exact hread r hr
          · cases List.mem_singleton.mp hr
            rw [show r = t.reporter from hanswers]
            exact hfirst (hcall.2 rfl)
  | @reported sequel hcontrol =>
      rw [hcontrol] at h
      cases sequel with
      | pause p => exact h.1
      | finish => exact ⟨h.1, h.2.2.2 h.2.2.1⟩
  | woken hcontrol =>
      rw [hcontrol] at h
      exact h
  | slept hcontrol =>
      rw [hcontrol] at h
      exact h
  | cancel =>
      obtain ⟨control, reporter, backoff, cancelled, log⟩ := t
      cases control with
      | reporting rest sequel =>
          cases sequel with
          | pause p => exact h
          | finish => exact ⟨rfl, h.2⟩
      | finished => exact ⟨rfl, h.2⟩
      | _ => exact h
  | cut hcancelled hexposed =>
      have hfresh : Fresh t.reporter := fresh_of_exposed h hexposed
      exact ⟨hcancelled, fun _ => hfresh, fun _ => nofun, report_detached⟩

lemma sound_of_reachable {t : SessionTask} (h : (system ctx spec).Reachable t) :
    Sound ctx spec t t.control := by
  refine h.invariant ?_ fun _ _ _ => sound_step
  rintro _ rfl
  exact nofun

/-- **An attempt keeps to the protocol.**  Whatever the caches, the exporter, the VM and the API
server answer, and however the session went before, an attempt makes a call only at the stage the
call belongs to: it reaches out only to the exporter of a device that is leased to its claim and
available, at most once, sends a hello only with the key it read and its own clock and claim, plugs
in on the VM's side only once the exporter has accepted, passes on only what QEMU said first,
reports the device as awaiting the resume only while nothing has come from a VM it just saw paused,
and as connected only once the greeting is through. -/
theorem attempts_keep_protocol {t : SessionTask} (h : (system ctx spec).Reachable t)
    {call : SessionCall} {k : call.Answer → SessionProg (Except AttemptError Progress)}
    (hcall : t.control = .attempting (.call call k)) : Allowed ctx spec t.log call := by
  have hsound := sound_of_reachable h
  rw [hcall] at hsound
  exact (Prog.ensures_logged_call.mp hsound.2).1

/-! A session whose device is on another node; it finds what it needs and dials. -/

def sampleContext : SessionContext where
  rt := .newYear
  hmac _ _ := []
  config := ⟨"node-b", "agent-b", "10.0.0.2", 7070, false, [], 30000, 90000⟩
  pskFile := "/etc/atomic-usb/psk"
  locator := ⟨"/var/lib/kubelet", none⟩

def sampleSpec : SessionSpec := ⟨⟨"vms", "claim", "uid-1"⟩, "usb-1", 0, "vmi-1", "vm"⟩

def sampleNow : Timestamp := ⟨1704067200, by decide⟩

def beforeAttempt : SessionTask :=
  { spawned with control := .ready, reporter := .new sampleContext.rt 1704067200 }

lemma beforeAttempt_reachable : (system sampleContext sampleSpec).Reachable beforeAttempt :=
  (System.Reachable.init rfl).step (.started 1704067200 rfl)

def sampleDevice : UsbDevice where
  name := "usb-1"
  resourceVersion := 7
  labels := []
  spec := ⟨"1209", "0001", none, none, none, none, .serial⟩
  status := some
    { phase := some .available
      node := some "node-a"
      exporter := some ⟨"10.0.0.1", 7070, "agent-a"⟩
      lastSeen := some "2024-01-01T00:00:00Z"
      attachedTo := some ⟨"vms", "claim", "uid-1", "vm", "2024-01-01T00:00:00Z"⟩ }

def sampleVmi : VmiInfo :=
  ⟨"vms", "vm", "vmi-1", some "Running", some "node-b", true, false, false, none,
    [("pod-1", "node-b")], false, false⟩

def done : Except ApiError Unit := .ok ()

def keyFile : Except String (List UInt8) := .ok (List.replicate 16 42)

theorem attempts_keep_protocol_dial :
    ∃ log, Allowed sampleContext sampleSpec log (.connectTcp "10.0.0.1:7070" connectTimeout) := by
  have h := beforeAttempt_reachable.step (.attempt rfl)
  have h := h.step (.attempting sampleNow rfl trivial)
  have h := h.step (.attempting (some sampleDevice) rfl trivial)
  have h := h.step (.attempting (some sampleVmi) rfl trivial)
  have h := h.step (.attempting true rfl trivial)
  have h := h.step (.attempting _ rfl rfl)
  have h := h.step (.attempting none rfl trivial)
  have h := h.step (.attempting sampleNow rfl trivial)
  have h := h.step (.attempting () rfl trivial)
  have h := h.step (.attempting done rfl trivial)
  have h := h.step (.attempting () rfl trivial)
  have h := h.step (.attempting keyFile rfl trivial)
  exact ⟨_, attempts_keep_protocol h rfl⟩

/-- **A session says goodbye.**  Wherever it is cut off, a session that is over was cancelled, and
the last thing it did was to report the device as detached, unless it saw that another node has
taken over the VM. -/
theorem finished_says_goodbye {t : SessionTask} (h : (system ctx spec).Reachable t)
    (hfinished : t.control = .finished) : t.cancelled = true ∧ FinalReport ctx spec t.log := by
  have hsound := sound_of_reachable h
  rwa [hfinished] at hsound

theorem finished_says_goodbye_early :
    ∃ log, FinalReport sampleContext sampleSpec log := by
  have h := (beforeAttempt_reachable.step .cancel).step (.cut rfl rfl)
  have h := h.step (.reporting _ rfl rfl)
  have h := h.step (.reporting none rfl trivial)
  have h := h.step (.reporting sampleNow rfl trivial)
  have h := h.step (.reporting () rfl trivial)
  have h := h.step (.reporting done rfl trivial)
  have h := h.step (.reporting () rfl trivial)
  exact ⟨_, (finished_says_goodbye (h.step (.reported rfl)) rfl).2⟩

/-! ## Pace -/

def dials (ls : List SessionLabel) : ℕ :=
  ls.countP fun
    | .call e => e.1.dials
    | _ => false

/-- How long the task slept, each time. -/
def sleeps (ls : List SessionLabel) : List ℕ :=
  ls.filterMap fun
    | .slept millis => some millis
    | _ => none

/-- No connection held long enough to count as healthy. -/
def Unsteady (ls : List SessionLabel) : Prop :=
  ∀ millis, .attempted (.ok (.ended millis)) ∈ ls → millis < healthySession

/-- The exporters that were dialled since the task last slept: none, until an attempt does. -/
def spentAt (log : List SessionEvent) : Control → ℕ
  | .attempting _ => log.countP fun e => e.1.dials
  | .reporting _ (.pause .backoff) | .reporting _ .finish | .pausing .backoff | .finished => 1
  | _ => 0

def spent (t : SessionTask) : ℕ := spentAt t.log t.control

/-- The sleep after `n` failures in a row. -/
def backoffAfter (n : ℕ) : ℕ := min (minBackoff * 2 ^ n) maxBackoff

lemma countP_dials_of_undialled {log : List SessionEvent} (h : Undialled log) :
    (log.countP fun e => e.1.dials) = 0 :=
  List.countP_eq_zero.mpr fun e he => by simp [h e he]

lemma spent_attempted {t : SessionTask} {r : Except AttemptError Progress}
    (hcontrol : t.control = .attempting (.pure r)) (hone : t.spent ≤ 1)
    (hr : Outcome (fun p log => p.Holds ctx spec log) r t.log) :
    t.spent ≤ (t.attempted ctx spec r).spent ∧ (t.attempted ctx spec r).spent ≤ 1 := by
  have hspent : t.spent = t.log.countP fun e => e.1.dials := by
    rw [spent, hcontrol]
    rfl
  rcases r with (message | message) | target | ⟨target, greeting⟩ | millis
  · rw [hspent, countP_dials_of_undialled hr.2]
    exact ⟨Nat.zero_le _, Nat.zero_le _⟩
  · exact ⟨hone, le_rfl⟩
  · exact ⟨hspent.le, hspent.symm.le.trans hone⟩
  · exact ⟨hspent.le, hspent.symm.le.trans hone⟩
  · exact ⟨hone, le_rfl⟩

/-- What a step adds to the dials it pays for with a sleep, or leaves for the next one to pay. -/
lemma spent_step {t t' : SessionTask} {l : SessionLabel} (hsound : Sound ctx spec t t.control)
    (hone : t.spent ≤ 1) (hstep : Step ctx spec t l t') :
    dials [l] + t.spent ≤ (sleeps [l]).length + t'.spent ∧ t'.spent ≤ 1 := by
  cases hstep with
  | started now hcontrol =>
      rw [spent, hcontrol]
      exact ⟨le_rfl, Nat.zero_le _⟩
  | attempt hcontrol =>
      rw [spent, hcontrol]
      exact ⟨le_rfl, Nat.zero_le _⟩
  | @attempting call k x hcontrol hanswers =>
      rw [hcontrol] at hsound
      have hcall := (Prog.ensures_logged_call.mp hsound.2).1
      rw [spent, hcontrol] at hone ⊢
      have hspent : spent { t.noted ⟨call, x⟩ with control := .attempting (k x) } =
          (t.log.countP fun e => e.1.dials) + dials [.call ⟨call, x⟩] :=
        List.countP_append
      rw [hspent]
      refine ⟨by rw [spentAt]; omega, ?_⟩
      cases call with
      | connectTcp addr millis =>
          rw [countP_dials_of_undialled hcall.1]
          exact le_rfl
      | _ => exact hone
  | attempted hcontrol =>
      rw [hcontrol] at hsound
      have hspent := spent_attempted hcontrol hone hsound.2
      refine ⟨?_, hspent.2⟩
      show 0 + t.spent ≤ 0 + _
      omega
  | @reporting call k sequel x hcontrol hanswers =>
      have hquiet : dials [.call ⟨call, x⟩] = 0 := by
        have hcall : call.dials = false := by
          rw [hcontrol] at hsound
          cases sequel with
          | pause p =>
              obtain ⟨message, _, hcall⟩ := hsound.2.1
              exact hcall.dials
          | finish => exact (Prog.ensures_logged_call.mp hsound.2.2.2).1.1.dials
        exact List.countP_eq_zero.mpr (List.forall_mem_singleton.mpr (by simp [hcall]))
      rw [spent, hcontrol] at hone ⊢
      rw [hquiet]
      rcases sequel with (_ | _) | _
      all_goals exact ⟨le_rfl, hone⟩
  | @reported sequel hcontrol =>
      rw [spent, hcontrol] at hone ⊢
      rcases sequel with (_ | _) | _
      all_goals exact ⟨le_rfl, hone⟩
  | woken hcontrol =>
      rw [spent, hcontrol]
      exact ⟨le_rfl, Nat.zero_le _⟩
  | slept hcontrol =>
      rw [spent, hcontrol]
      exact ⟨le_rfl, Nat.zero_le _⟩
  | cancel => exact ⟨by show 0 + t.spent ≤ 0 + t.spent; exact le_rfl, hone⟩
  | cut hcancelled hexposed =>
      refine ⟨?_, le_rfl⟩
      show 0 + t.spent ≤ 0 + 1
      omega

/-- An attempt dials once at most. -/
lemma spent_le_one {t : SessionTask} (h : (system ctx spec).Reachable t) : t.spent ≤ 1 := by
  refine (h.invariant (I := fun t => Sound ctx spec t t.control ∧ t.spent ≤ 1) ?_
    fun _ _ _ ⟨hsound, hone⟩ hstep =>
      ⟨sound_step hsound hstep, (spent_step hsound hone hstep).2⟩).2
  rintro _ rfl
  exact ⟨nofun, Nat.zero_le _⟩

lemma dials_append (ls ls' : List SessionLabel) : dials (ls ++ ls') = dials ls + dials ls' :=
  List.countP_append

lemma sleeps_append (ls ls' : List SessionLabel) : sleeps (ls ++ ls') = sleeps ls ++ sleeps ls' :=
  List.filterMap_append

/-- Every dial of a stretch but one is paid for with a sleep. -/
lemma dials_le {t t' : SessionTask} {ls : List SessionLabel} (h : (system ctx spec).Reachable t)
    (hpath : (system ctx spec).Path t ls t') : dials ls ≤ (sleeps ls).length + 1 := by
  have hpaid : dials ls + t.spent ≤ (sleeps ls).length + t'.spent := by
    refine hpath.invariant (I := fun ls t' => dials ls + t.spent ≤ (sleeps ls).length + t'.spent)
      h ?_ fun ls s l s' hs ih hstep => ?_
    · exact le_rfl
    · have hstep := (spent_step (sound_of_reachable hs) (spent_le_one hs) hstep).1
      rw [dials_append, sleeps_append, List.length_append]
      omega
  have hone := spent_le_one (hpath.reachable h)
  omega

/-- Only a sleep and a healthy connection change the backoff. -/
lemma backoff_step {t t' : SessionTask} {l : SessionLabel} (hstep : Step ctx spec t l t') :
    (l = .slept t.backoff ∧ t'.backoff = min (t.backoff * 2) maxBackoff) ∨
    (sleeps [l] = [] ∧ (t'.backoff = t.backoff ∨ t'.backoff = minBackoff ∧
      ∃ millis, l = .attempted (.ok (.ended millis)) ∧ healthySession ≤ millis)) := by
  cases hstep with
  | slept => exact Or.inl ⟨rfl, rfl⟩
  | @attempted r =>
      refine Or.inr ⟨rfl, ?_⟩
      rcases r with (message | message) | target | ⟨target, greeting⟩ | millis
      case ok.ended =>
        show ite _ _ _ = _ ∨ ite _ _ _ = _ ∧ _
        split_ifs with hhealthy
        · exact Or.inr ⟨rfl, millis, rfl, hhealthy⟩
        · exact Or.inl rfl
      all_goals exact Or.inl rfl
  | @reported sequel =>
      refine Or.inr ⟨rfl, Or.inl ?_⟩
      cases sequel with
      | pause p => rfl
      | finish => rfl
  | _ => exact Or.inr ⟨rfl, Or.inl rfl⟩

/-- The backoff, and how it grew while nothing held. -/
structure Paced (ls : List SessionLabel) (t : SessionTask) : Prop where
  low : minBackoff ≤ t.backoff
  high : t.backoff ≤ maxBackoff
  slept : ∀ millis ∈ sleeps ls, minBackoff ≤ millis
  grown : Unsteady ls → backoffAfter (sleeps ls).length ≤ t.backoff ∧
    ∑ i ∈ Finset.range (sleeps ls).length, backoffAfter i ≤ (sleeps ls).sum

lemma paced_nil {t : SessionTask} (hlow : minBackoff ≤ t.backoff) (hhigh : t.backoff ≤ maxBackoff) :
    Paced [] t :=
  ⟨hlow, hhigh, fun _ => nofun, fun _ => ⟨(min_le_left _ _).trans hlow, Nat.zero_le _⟩⟩

lemma backoffAfter_succ_le {n b : ℕ} (h : backoffAfter n ≤ b) :
    backoffAfter (n + 1) ≤ min (b * 2) maxBackoff := by
  rw [backoffAfter] at h ⊢
  rw [pow_succ, ← mul_assoc]
  omega

lemma Paced.step {ls : List SessionLabel} {t t' : SessionTask} {l : SessionLabel}
    (h : Paced ls t) (hstep : Step ctx spec t l t') : Paced (ls ++ [l]) t' := by
  have hrest : Unsteady (ls ++ [l]) → Unsteady ls :=
    fun hun millis hmem => hun millis (List.mem_append_left _ hmem)
  have hlow : minBackoff ≤ maxBackoff := by decide
  obtain ⟨rfl, hb⟩ | ⟨hnone, hb⟩ := backoff_step hstep
  · have hsleeps : sleeps (ls ++ [.slept t.backoff]) = sleeps ls ++ [t.backoff] :=
      sleeps_append _ _
    refine ⟨?_, ?_, ?_, fun hun => ?_⟩
    · have := h.low
      omega
    · omega
    · rw [hsleeps]
      exact List.forall_mem_append.mpr ⟨h.slept, List.forall_mem_singleton.mpr h.low⟩
    · obtain ⟨hgrown, hsum⟩ := h.grown (hrest hun)
      rw [hsleeps, List.length_append, List.sum_append, List.length_singleton, List.sum_singleton,
        Finset.sum_range_succ, hb]
      exact ⟨backoffAfter_succ_le hgrown, Nat.add_le_add hsum hgrown⟩
  · have hsleeps : sleeps (ls ++ [l]) = sleeps ls := by
      rw [sleeps_append, hnone, List.append_nil]
    obtain hb | ⟨hb, millis, rfl, hhealthy⟩ := hb
    · refine ⟨hb ▸ h.low, hb ▸ h.high, hsleeps ▸ h.slept, fun hun => ?_⟩
      rw [hsleeps, hb]
      exact h.grown (hrest hun)
    · refine ⟨hb.ge, hb ▸ hlow, hsleeps ▸ h.slept, fun hun => ?_⟩
      exact absurd (hun millis (by simp)) (by omega)

/-- **A session does not hammer the exporters.**  In any stretch of its life, `n` connections to
exporters are separated by at least `n - 1` sleeps, each of at least `minBackoff`, whatever the
cluster does meanwhile (the pauses that a change of the cluster ends do not help: an attempt that is
followed by one did not dial).  While no connection held for `healthySession`, the sleeps double up
to `maxBackoff`. -/
theorem dials_are_spaced {t t' : SessionTask} {ls : List SessionLabel}
    (h : (system ctx spec).Reachable t) (hpath : (system ctx spec).Path t ls t') :
    dials ls - 1 ≤ (sleeps ls).length ∧ (∀ millis ∈ sleeps ls, minBackoff ≤ millis) ∧
    (dials ls - 1) * minBackoff ≤ (sleeps ls).sum ∧
    (Unsteady ls → ∑ i ∈ Finset.range (dials ls - 1), backoffAfter i ≤ (sleeps ls).sum) := by
  have hbegin : Paced [] t := by
    have hbounds : minBackoff ≤ t.backoff ∧ t.backoff ≤ maxBackoff := by
      refine h.invariant (I := fun t => minBackoff ≤ t.backoff ∧ t.backoff ≤ maxBackoff) ?_
        fun _ _ _ hbounds hstep => ?_
      · rintro _ rfl
        exact ⟨le_rfl, by decide⟩
      · have hnext := (paced_nil hbounds.1 hbounds.2).step hstep
        exact ⟨hnext.low, hnext.high⟩
    exact paced_nil hbounds.1 hbounds.2
  have hpaced : Paced ls t' :=
    hpath.invariant h hbegin fun _ _ _ _ _ hpaced hstep => hpaced.step hstep
  have hdials : dials ls - 1 ≤ (sleeps ls).length := by
    have := dials_le h hpath
    omega
  refine ⟨hdials, hpaced.slept, ?_, fun hun => ?_⟩
  · calc (dials ls - 1) * minBackoff ≤ (sleeps ls).length * minBackoff :=
          Nat.mul_le_mul_right _ hdials
      _ ≤ (sleeps ls).sum := by
          simpa using List.card_nsmul_le_sum _ _ hpaced.slept
  · calc ∑ i ∈ Finset.range (dials ls - 1), backoffAfter i
        ≤ ∑ i ∈ Finset.range (sleeps ls).length, backoffAfter i :=
          Finset.sum_le_sum_of_subset (Finset.range_mono hdials)
      _ ≤ (sleeps ls).sum := (hpaced.grown hun).2

/-- An exporter that nobody answers for is dialled twice, with a sleep in between. -/
theorem dials_are_spaced_twice : ∃ ls, dials ls = 2 ∧ 1 ≤ (sleeps ls).length ∧
    (∀ millis ∈ sleeps ls, 1000 ≤ millis) ∧ 1000 ≤ (sleeps ls).sum ∧
    backoffAfter 0 ≤ (sleeps ls).sum := by
  have p : (system sampleContext sampleSpec).Path beforeAttempt [] beforeAttempt := .nil
  have p := p.snoc (.attempt rfl)
  have p := p.snoc (.attempting sampleNow rfl trivial)
  have p := p.snoc (.attempting (some sampleDevice) rfl trivial)
  have p := p.snoc (.attempting (some sampleVmi) rfl trivial)
  have p := p.snoc (.attempting true rfl trivial)
  have p := p.snoc (.attempting _ rfl rfl)
  have p := p.snoc (.attempting none rfl trivial)
  have p := p.snoc (.attempting sampleNow rfl trivial)
  have p := p.snoc (.attempting () rfl trivial)
  have p := p.snoc (.attempting done rfl trivial)
  have p := p.snoc (.attempting () rfl trivial)
  have p := p.snoc (.attempting keyFile rfl trivial)
  -- nobody answers
  have p := p.snoc (.attempting none rfl trivial)
  have p := p.snoc (.attempted rfl)
  have p := p.snoc (.reporting _ rfl rfl)
  have p := p.snoc (.reporting none rfl trivial)
  have p := p.snoc (.reporting sampleNow rfl trivial)
  have p := p.snoc (.reporting () rfl trivial)
  have p := p.snoc (.reporting done rfl trivial)
  have p := p.snoc (.reporting () rfl trivial)
  have p := p.snoc (.reported rfl)
  have p := p.snoc (.slept rfl)
  have p := p.snoc (.attempt rfl)
  have p := p.snoc (.attempting sampleNow rfl trivial)
  have p := p.snoc (.attempting (some sampleDevice) rfl trivial)
  have p := p.snoc (.attempting (some sampleVmi) rfl trivial)
  have p := p.snoc (.attempting true rfl trivial)
  have p := p.snoc (.attempting _ rfl rfl)
  have p := p.snoc (.attempting none rfl trivial)
  have p := p.snoc (.attempting sampleNow rfl trivial)
  have p := p.snoc (.attempting () rfl trivial)
  have p := p.snoc (.attempting done rfl trivial)
  have p := p.snoc (.attempting () rfl trivial)
  have p := p.snoc (.attempting keyFile rfl trivial)
  have p := p.snoc (.attempting none rfl trivial)
  obtain ⟨hcount, hlong, hsum, hgrown⟩ := dials_are_spaced beforeAttempt_reachable p
  exact ⟨_, rfl, hcount, hlong, hsum, hgrown fun millis hmem => by simp at hmem⟩

end SessionTask

end AtomicUsb
