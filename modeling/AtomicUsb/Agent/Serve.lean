import AtomicUsb.Agent.Exporter
import AtomicUsb.Foundation.Program

/-!
# Serving a device

What a session does while it holds the lock of its device: start `usbredirect`, wait for it to open
the device, splice it onto the connection, and stop it.  `usbredirect` detaches the kernel's drivers
from the device and attaches them again when it is interrupted, which is why `terminate` sends
SIGINT and kills only what lingers; a `Child` that is dropped while it runs is killed at once.

`session` is the part of `handle` under the lock, `serve` the function it calls.  Each is a program
that calls the operating system; the answers are arbitrary, so a run is any order and combination of
outcomes.  Of a `select!` the answer says which branch was ready first.  Logging is left out.

The exporter of `Agent/Exporter.lean` sees a session as a task that goes from stage to stage.  Here
it is about what happens to the child in between (`session_hands_back_iff`).
-/

namespace AtomicUsb

/-- How a process ended, as it is displayed. -/
structure ExitStatus where
  display : String
  deriving DecidableEq

/-- What ends the wait for `usbredirect` to connect. -/
inductive Connection
  | accepted (conn : Except String Unit)
  | exited (status : Except String ExitStatus)
  | timedOut
  | cancelled

/-- What ends a session that has started. -/
inductive SessionEnd
  /-- The bytes that went to the device and to the VM. -/
  | copied (bytes : Except String (ℕ × ℕ))
  | exited (status : Except String ExitStatus)
  | cancelled

inductive OsCall
  /-- Take the lock of the device, waiting for so many milliseconds. -/
  | lock (millis : ℕ)
  | unlock
  | isCancelled
  /-- Listen on a port of the loopback interface. -/
  | bind
  | localAddr
  | spawn (program : String) (args : List String)
  | awaitConnection (millis : ℕ)
  | awaitEnd
  | sleep (millis : ℕ)
  /-- What the child has written to its standard error so far. -/
  | stderr
  | writeLine (reply : Reply)
  | tryWait
  /-- SIGINT. -/
  | interrupt
  | wait (millis : ℕ)
  /-- SIGKILL, and wait. -/
  | kill
  /-- SIGKILL, because the handle is dropped. -/
  | killOnDrop

def OsCall.Answer : OsCall → Type
  | .lock _ => Bool
  | .unlock => Unit
  | .isCancelled => Bool
  | .bind => Except String Unit
  | .localAddr => Except String String
  | .spawn _ _ => Except String Unit
  | .awaitConnection _ => Connection
  | .awaitEnd => SessionEnd
  | .sleep _ => Unit
  | .stderr => List String
  | .writeLine _ => Except String Unit
  | .tryWait => Except String (Option ExitStatus)
  | .interrupt => Unit
  | .wait _ => Option (Except String ExitStatus)
  | .kill => Except String ExitStatus
  | .killOnDrop => Unit

abbrev OsProg := Prog OsCall OsCall.Answer

abbrev OsEvent := Prog.Event OsCall OsCall.Answer

def os (call : OsCall) : OsProg call.Answer := Prog.perform call

def usbredirectConnectTimeout : ℕ := 15000

def previousSessionStopTimeout : ℕ := 15000

def usbredirectStopTimeout : ℕ := 5000

def stderrTailLines : ℕ := 5

/-! ## The program -/

/-- The peer is told why; whether it gets to know is of no interest. -/
def reject (reason : String) : OsProg (Except String Unit) := do
  let _ ← os (.writeLine ⟨false, some reason⟩)
  pure (.ok ())

/-- One iteration of `forward_stderr`. -/
def forwardLine (lines : List String) (line : String) : List String :=
  (if lines.length = stderrTailLines then lines.tail else lines) ++ [line]

/-- `tail` of what `forward_stderr` keeps. -/
def stderrTail (output : List String) : String :=
  match output.foldl forwardLine [] with
  | [] => "no output"
  | lines => " | ".intercalate lines

/-- The handle of a child: its exit status, once it has been waited for. -/
abbrev Child := Option ExitStatus

/-- `terminate` for a child that is not known to have exited. -/
def interruptChild : OsProg Child := do
  os .interrupt
  match ← os (.wait usbredirectStopTimeout) with
  | some (.ok status) => pure (some status)
  | some (.error _) => pure none
  | none => do
    match ← os .kill with
    | .ok status => pure (some status)
    | .error _ => pure none

/-- Stops usbredirect gracefully (so it re-attaches kernel drivers), killing it if it lingers. -/
def terminate : Child → OsProg Child
  | some status => pure (some status)
  | none => do
    match ← os .tryWait with
    | .ok (some status) => pure (some status)
    | _ => interruptChild

/-- The handle goes out of scope, with `kill_on_drop`. -/
def dropChild : Child → OsProg Unit
  | some _ => pure ()
  | none => os .killOnDrop

/-- `serve` from where `usbredirect` has connected. -/
def splice : OsProg (Child × Except String Unit) := do
  match ← os (.writeLine ⟨true, none⟩) with
  | .error e => pure (none, .error e)
  | .ok () => do
    let child ← terminate <| match ← os .awaitEnd with
      | .exited (.ok status) => some status
      | _ => none
    pure (child, .ok ())

/-- `serve` from where `usbredirect` has been spawned. -/
def serveSpawned : OsProg (Child × Except String Unit) := do
  match ← os (.awaitConnection usbredirectConnectTimeout) with
  | .accepted (.ok ()) => splice
  | .accepted (.error e) => pure (none, .error e)
  | .exited status => do
    -- Give the stderr forwarder a moment to capture the reason.
    os (.sleep 100)
    match status with
    | .error e => pure (none, .error e)
    | .ok status => do
      let output ← os .stderr
      let result ← reject s!"usbredirect exited ({status.display}): {stderrTail output}"
      pure (some status, result)
  | .timedOut => do
    let child ← terminate none
    let result ← reject "usbredirect did not open the device in time"
    pure (child, result)
  | .cancelled => do
    let child ← terminate none
    let result ← reject "session cancelled"
    pure (child, result)

def Exporter.serve (usbredirect : String) (device : UsbDeviceInfo) :
    OsProg (Except String Unit) := do
  match ← os .bind with
  | .error e => pure (.error e)
  | .ok () => do
    match ← os .localAddr with
    | .error e => pure (.error e)
    | .ok localAddr => do
      match ← os
          (.spawn usbredirect ["--device", device.busDev, "--to", localAddr]) with
      | .error err => reject s!"cannot start {usbredirect}: {err}"
      | .ok () => do
        let (child, result) ← serveSpawned
        dropChild child
        pure result

/-- The part of `handle` between registering the session and taking the registration back. -/
def session (usbredirect : String) (device : UsbDeviceInfo) : OsProg (Except String Unit) := do
  match ← os (.lock previousSessionStopTimeout) with
  | false => reject "previous session did not stop in time"
  | true => do
    let result ← match ← os .isCancelled with
      | true => reject "session superseded"
      | false => Exporter.serve usbredirect device
    os .unlock
    pure result

/-! ## What a run leaves behind -/

/-- The child is known to have exited. -/
def OsEvent.showsExit : OsEvent → Bool
  | ⟨.awaitConnection _, .exited (.ok _)⟩ => true
  | ⟨.awaitEnd, .exited (.ok _)⟩ => true
  | ⟨.tryWait, .ok (some _)⟩ => true
  | ⟨.wait _, some (.ok _)⟩ => true
  | ⟨.kill, .ok _⟩ => true
  | _ => false

/-- A failure that `serve` returns with, and nothing else. -/
def OsEvent.abandons : OsEvent → Bool
  | ⟨.awaitConnection _, .accepted (.error _)⟩ => true
  | ⟨.awaitConnection _, .exited (.error _)⟩ => true
  | ⟨.writeLine reply, .error _⟩ => reply.ok
  | _ => false

/-- The child has been observed to exit, or was stopped through `terminate`. -/
def HandedBack (tr : List OsEvent) : Prop :=
  (∃ e ∈ tr, OsEvent.showsExit e = true) ∨
    ∃ before stop after child, tr = before ++ stop ++ after ∧ (terminate none).Runs stop child

/-- Accepting the connection of `usbredirect` failed, or waiting for it to exit did, or the reply
could not be written to the peer. -/
def Abandoned (tr : List OsEvent) : Prop := ∃ e ∈ tr, OsEvent.abandons e = true

def OsEvent.spawns : OsEvent → Bool
  | ⟨.spawn _ _, .ok _⟩ => true
  | _ => false

/-- `usbredirect` was started. -/
def Spawned (tr : List OsEvent) : Prop := ∃ e ∈ tr, OsEvent.spawns e = true

section Traces

/-- The session looks after the child. -/
def OsEvent.attends : OsEvent → Bool
  | ⟨.tryWait, _⟩ => true
  | e => OsEvent.showsExit e

lemma OsEvent.attends_of_showsExit {e : OsEvent} (h : OsEvent.showsExit e = true) :
    OsEvent.attends e = true := by
  unfold OsEvent.attends
  split
  · rfl
  · exact h

/-- Nothing happens to the child. -/
def Neutral (tr : List OsEvent) : Prop :=
  ∀ e ∈ tr, OsEvent.attends e = false ∧ OsEvent.abandons e = false

/-- Either the run was abandoned and nobody looked after the child, or the device was handed
back. -/
def ChildSettled (tr : List OsEvent) : Prop :=
  (Abandoned tr ∧ ∀ e ∈ tr, OsEvent.attends e = false) ∨ (¬ Abandoned tr ∧ HandedBack tr)

variable {tr post : List OsEvent}

lemma not_handedBack (h : ∀ e ∈ tr, OsEvent.attends e = false) : ¬ HandedBack tr := by
  rintro (⟨e, he, hexit⟩ | ⟨before, stop, after, child, rfl, hstop⟩)
  · exact Bool.false_ne_true ((h e he).symm.trans (OsEvent.attends_of_showsExit hexit))
  · -- `terminate` asks first whether the child has exited
    obtain ⟨answer, rest, rfl, -⟩ := hstop
    cases h ⟨.tryWait, answer⟩ (by simp)

lemma not_abandoned_iff : ¬ Abandoned tr ↔ ∀ e ∈ tr, OsEvent.abandons e = false := by
  unfold Abandoned
  push Not
  exact forall₂_congr fun e _ => iff_of_eq (Bool.not_eq_true _)

lemma ChildSettled.handedBack_iff (h : ChildSettled tr) : HandedBack tr ↔ ¬ Abandoned tr := by
  rcases h with ⟨habandoned, halone⟩ | ⟨hkept, hback⟩
  · exact iff_of_false (not_handedBack halone) (not_not.mpr habandoned)
  · exact iff_of_true hback hkept

lemma HandedBack.frame (h : HandedBack tr) (pre post : List OsEvent) :
    HandedBack (pre ++ tr ++ post) := by
  rcases h with ⟨e, he, hexit⟩ | ⟨before, stop, after, child, rfl, hstop⟩
  · exact Or.inl ⟨e, by simp [he], hexit⟩
  · exact Or.inr ⟨pre ++ before, stop, after ++ post, child, by simp, hstop⟩

/-- Events around a run that do nothing to the child. -/
lemma ChildSettled.frame (h : ChildSettled tr) (pre post : List OsEvent) (hpre : Neutral pre)
    (hpost : Neutral post) : ChildSettled (pre ++ tr ++ post) := by
  have hframe : ∀ {P : OsEvent → Prop}, (∀ e, OsEvent.attends e = false ∧
      OsEvent.abandons e = false → P e) → ((∀ e ∈ pre ++ tr ++ post, P e) ↔ ∀ e ∈ tr, P e) := by
    intro P hP
    rw [List.forall_mem_append, List.forall_mem_append]
    exact ⟨fun h => h.1.2, fun h => ⟨⟨fun e he => hP e (hpre e he), h⟩,
      fun e he => hP e (hpost e he)⟩⟩
  have hiff : ¬ Abandoned (pre ++ tr ++ post) ↔ ¬ Abandoned tr := by
    rw [not_abandoned_iff, not_abandoned_iff]
    exact hframe fun e he => he.2
  rcases h with ⟨habandoned, halone⟩ | ⟨hkept, hback⟩
  · exact Or.inl ⟨(not_iff_not.mp hiff).mpr habandoned, (hframe fun e he => he.1).mpr halone⟩
  · exact Or.inr ⟨hiff.mpr hkept, hback.frame pre post⟩

lemma ChildSettled.cons {e : OsEvent} (h : ChildSettled tr) (hattends : OsEvent.attends e = false)
    (habandons : OsEvent.abandons e = false) : ChildSettled (e :: tr) := by
  have hframe := h.frame [e] []
    (List.forall_mem_singleton.mpr ⟨hattends, habandons⟩) (fun _ he => absurd he List.not_mem_nil)
  rwa [List.append_nil] at hframe

lemma ChildSettled.append (h : ChildSettled tr) (hpost : Neutral post) :
    ChildSettled (tr ++ post) :=
  h.frame [] post (fun _ he => absurd he List.not_mem_nil) hpost

end Traces

/-! ## Runs of a session -/

section Runs

variable {tr : List OsEvent}

/-- The calls of `terminate`. -/
def OsCall.stopsChild : OsCall → Bool
  | .tryWait | .interrupt | .wait _ | .kill => true
  | _ => false

lemma interruptChild_calls : interruptChild.Issues fun call => call.stopsChild = true := by
  refine ⟨rfl, fun _ => ⟨rfl, fun waited => ?_⟩⟩
  rcases waited with _ | (e | status)
  · refine ⟨rfl, fun killed => ?_⟩
    cases killed <;> exact trivial
  · exact trivial
  · exact trivial

lemma terminate_calls (child : Child) :
    (terminate child).Issues fun call => call.stopsChild = true := by
  cases child with
  | some status => exact trivial
  | none =>
      refine ⟨rfl, fun answer => ?_⟩
      rcases answer with e | (_ | status)
      · exact interruptChild_calls
      · exact interruptChild_calls
      · exact trivial

lemma settled_of_terminate {child : Child} (h : (terminate none).Runs tr child) :
    ChildSettled tr := by
  refine Or.inr ⟨not_abandoned_iff.mpr fun e he => ?_, Or.inr ⟨[], tr, [], child, by simp, h⟩⟩
  have hcall := (terminate_calls none).of_runs h e he
  obtain ⟨call, answer⟩ := e
  cases call <;> first | rfl | cases hcall

lemma reject_neutral {reason : String} {r : Except String Unit}
    (h : (reject reason).Runs tr r) : Neutral tr := by
  obtain ⟨answer, _, rfl, rfl, -⟩ := h
  refine List.forall_mem_singleton.mpr ⟨rfl, ?_⟩
  cases answer <;> rfl

/-- A failure the run ends with. -/
lemma settled_of_abandons {e : OsEvent} {l : List OsEvent} (habandons : OsEvent.abandons e = true)
    (halone : ∀ e' ∈ e :: l, OsEvent.attends e' = false) : ChildSettled (e :: l) :=
  Or.inl ⟨⟨e, List.mem_cons_self, habandons⟩, halone⟩

/-- The run sees the child exit. -/
lemma settled_of_showsExit {e : OsEvent} {l : List OsEvent} (hexit : OsEvent.showsExit e = true)
    (hsteady : ∀ e' ∈ e :: l, OsEvent.abandons e' = false) : ChildSettled (e :: l) :=
  Or.inr ⟨not_abandoned_iff.mpr hsteady, Or.inl ⟨e, List.mem_cons_self, hexit⟩⟩

/-- The run stops the child and does nothing to it any more. -/
lemma terminate_bind_settled {α : Type} {k : Child → OsProg α} {a : α}
    (hk : ∀ child tr, (k child).Runs tr a → Neutral tr)
    (h : (terminate none >>= k).Runs tr a) : ChildSettled tr := by
  obtain ⟨stop, rest, child, rfl, hstop, hrest⟩ := Prog.runs_bind.mp h
  exact (settled_of_terminate hstop).append (hk child rest hrest)

lemma splice_settled {out : Child × Except String Unit} (h : splice.Runs tr out) :
    ChildSettled tr := by
  obtain ⟨answer, tr, rfl, h⟩ := h
  rcases answer with e | ok
  · obtain ⟨rfl, -⟩ := h
    exact settled_of_abandons rfl (List.forall_mem_singleton.mpr rfl)
  · obtain ⟨ended, tr, rfl, h⟩ := h
    refine ChildSettled.cons ?_ rfl rfl
    have hreturn : ∀ (child : Child) tr,
        (pure (child, Except.ok ()) : OsProg (Child × Except String Unit)).Runs tr out →
          Neutral tr := by
      rintro child tr ⟨rfl, -⟩ e he
      exact absurd he List.not_mem_nil
    rcases ended with bytes | (e | status) | _
    · exact (terminate_bind_settled hreturn h).cons rfl rfl
    · exact (terminate_bind_settled hreturn h).cons rfl rfl
    · obtain ⟨rfl, -⟩ := h
      exact settled_of_showsExit rfl (List.forall_mem_singleton.mpr rfl)
    · exact (terminate_bind_settled hreturn h).cons rfl rfl

lemma serveSpawned_settled {out : Child × Except String Unit} (h : serveSpawned.Runs tr out) :
    ChildSettled tr := by
  have hreject : ∀ reason (child : Child) tr,
      (reject reason >>= fun result => pure (child, result)).Runs tr out → Neutral tr := by
    intro reason child tr h
    obtain ⟨tr, _, r, rfl, htold, rfl, -⟩ := Prog.runs_bind.mp h
    rw [List.append_nil]
    exact reject_neutral htold
  obtain ⟨answer, tr, rfl, h⟩ := h
  rcases answer with (e | ok) | (e | status) | _ | _
  · obtain ⟨rfl, -⟩ := h
    exact settled_of_abandons rfl (List.forall_mem_singleton.mpr rfl)
  · exact (splice_settled h).cons rfl rfl
  · obtain ⟨_, _, rfl, rfl, -⟩ := h
    exact settled_of_abandons rfl (by simp [OsEvent.attends, OsEvent.showsExit])
  · obtain ⟨_, _, rfl, output, tr, rfl, h⟩ := h
    have htold : ∀ e ∈ tr, OsEvent.abandons e = false := fun e he => (hreject _ _ _ h e he).2
    exact settled_of_showsExit rfl (List.forall_mem_cons.mpr ⟨rfl,
      List.forall_mem_cons.mpr ⟨rfl, List.forall_mem_cons.mpr ⟨rfl, htold⟩⟩⟩)
  · exact (terminate_bind_settled (hreject _) h).cons rfl rfl
  · exact (terminate_bind_settled (hreject _) h).cons rfl rfl

lemma dropChild_neutral {child : Child} {u : Unit} (h : (dropChild child).Runs tr u) :
    Neutral tr := by
  cases child with
  | some status =>
      obtain ⟨rfl, -⟩ := h
      exact fun e he => absurd he List.not_mem_nil
  | none =>
      obtain ⟨_, _, rfl, rfl, -⟩ := h
      exact List.forall_mem_singleton.mpr ⟨rfl, rfl⟩

lemma serve_settled {usbredirect : String} {device : UsbDeviceInfo} {r : Except String Unit}
    (h : (Exporter.serve usbredirect device).Runs tr r) (hspawned : Spawned tr) :
    ChildSettled tr := by
  obtain ⟨bound, tr, rfl, h⟩ := h
  rcases bound with e | ok
  · obtain ⟨rfl, -⟩ := h
    simp [Spawned, OsEvent.spawns] at hspawned
  · obtain ⟨addr, tr, rfl, h⟩ := h
    rcases addr with e | addr
    · obtain ⟨rfl, -⟩ := h
      simp [Spawned, OsEvent.spawns] at hspawned
    · obtain ⟨spawned, tr, rfl, h⟩ := h
      rcases spawned with e | ok
      · obtain ⟨answer, _, rfl, rfl, -⟩ := h
        simp [Spawned, OsEvent.spawns] at hspawned
      · have hrest :
            (serveSpawned >>= fun out => dropChild out.1 >>= fun _ => pure out.2).Runs tr r := h
        obtain ⟨tr₁, tr₂, out, rfl, hserve, h⟩ := Prog.runs_bind.mp hrest
        obtain ⟨tr₂, _, u, rfl, hdrop, rfl, -⟩ := Prog.runs_bind.mp h
        rw [List.append_nil]
        have hsettled := (serveSpawned_settled hserve).append (dropChild_neutral hdrop)
        exact ((hsettled.cons rfl rfl).cons rfl rfl).cons rfl rfl

/-! ### The lock -/

lemma reject_keepsLock (reason : String) : (reject reason).Issues (· ≠ .unlock) :=
  ⟨nofun, fun _ => trivial⟩

lemma terminate_keepsLock (child : Child) : (terminate child).Issues (· ≠ .unlock) :=
  (terminate_calls child).mono (by rintro _ h rfl; cases h)

lemma splice_keepsLock : splice.Issues (· ≠ .unlock) := by
  refine ⟨nofun, fun answer => ?_⟩
  rcases answer with e | ok
  · exact trivial
  · exact ⟨nofun, fun ended => (terminate_keepsLock _).bind fun _ => trivial⟩

lemma serveSpawned_keepsLock : serveSpawned.Issues (· ≠ .unlock) := by
  refine ⟨nofun, fun answer => ?_⟩
  rcases answer with (e | ok) | (e | status) | _ | _
  · exact trivial
  · exact splice_keepsLock
  · exact ⟨nofun, fun _ => trivial⟩
  · exact ⟨nofun, fun _ => ⟨nofun, fun _ => (reject_keepsLock _).bind fun _ => trivial⟩⟩
  · exact (terminate_keepsLock _).bind fun _ => (reject_keepsLock _).bind fun _ => trivial
  · exact (terminate_keepsLock _).bind fun _ => (reject_keepsLock _).bind fun _ => trivial

lemma serve_keepsLock (usbredirect : String) (device : UsbDeviceInfo) :
    (Exporter.serve usbredirect device).Issues (· ≠ .unlock) := by
  refine ⟨nofun, fun bound => ?_⟩
  rcases bound with e | ok
  · exact trivial
  refine ⟨nofun, fun addr => ?_⟩
  rcases addr with e | addr
  · exact trivial
  refine ⟨nofun, fun spawned => ?_⟩
  rcases spawned with e | ok
  · exact reject_keepsLock _
  · refine serveSpawned_keepsLock.bind fun out => ?_
    obtain ⟨_ | status, result⟩ := out
    · exact ⟨nofun, fun _ => trivial⟩
    · exact trivial

end Runs

/-! ## A session as a whole -/

def OsEvent.told : OsEvent → Option Reply
  | ⟨.writeLine reply, _⟩ => some reply
  | _ => none

/-- The three ways a session can take. -/
lemma session_runs {usbredirect : String} {device : UsbDeviceInfo} {tr : List OsEvent}
    {r : Except String Unit} (h : (session usbredirect device).Runs tr r) :
    (∃ answer, tr = [⟨.lock previousSessionStopTimeout, false⟩,
      ⟨.writeLine ⟨false, some "previous session did not stop in time"⟩, answer⟩]) ∨
    (∃ answer, tr = [⟨.lock previousSessionStopTimeout, true⟩, ⟨.isCancelled, true⟩,
      ⟨.writeLine ⟨false, some "session superseded"⟩, answer⟩, ⟨.unlock, ()⟩]) ∨
    ∃ served, (Exporter.serve usbredirect device).Runs served r ∧
      tr = ⟨.lock previousSessionStopTimeout, true⟩ :: ⟨.isCancelled, false⟩ :: served ++
        [⟨.unlock, ()⟩] := by
  obtain ⟨locked, tr, rfl, h⟩ := h
  cases locked with
  | false =>
      obtain ⟨answer, _, rfl, rfl, -⟩ := h
      exact Or.inl ⟨answer, rfl⟩
  | true =>
      obtain ⟨cancelled, tr, rfl, h⟩ := h
      cases cancelled with
      | true =>
          obtain ⟨answer, _, rfl, u, _, rfl, rfl, -⟩ := h
          exact Or.inr (Or.inl ⟨answer, rfl⟩)
      | false =>
          have hrest : (Exporter.serve usbredirect device >>= fun result =>
              os .unlock >>= fun _ => pure result).Runs tr r := h
          obtain ⟨served, _, result, rfl, hserve, u, _, rfl, rfl, rfl⟩ := Prog.runs_bind.mp hrest
          exact Or.inr (Or.inr ⟨served, hserve, rfl⟩)

/-- **When the lock of a device is released, the device has been handed back — unless `serve` was
left through an error.**  The lock is released once, at the end.  By then `usbredirect` has been
observed to exit or was stopped through `terminate` exactly if accepting its connection did not
fail, waiting for it before it connected did not fail, and the peer could be told that the session
starts. -/
theorem session_hands_back_iff {usbredirect : String} {device : UsbDeviceInfo} {tr : List OsEvent}
    {r : Except String Unit} (h : (session usbredirect device).Runs tr r) (hspawned : Spawned tr) :
    ∃ before, tr = before ++ [⟨.unlock, ()⟩] ∧ (∀ e ∈ before, e.1 ≠ .unlock) ∧
      (HandedBack before ↔ ¬ Abandoned before) := by
  rcases session_runs h with ⟨answer, rfl⟩ | ⟨answer, rfl⟩ | ⟨served, hserve, rfl⟩
  · simp [Spawned, OsEvent.spawns] at hspawned
  · simp [Spawned, OsEvent.spawns] at hspawned
  · have hspawned' : Spawned served := by
      simpa [Spawned, OsEvent.spawns] using hspawned
    refine ⟨_, rfl, ?_, ?_⟩
    · refine List.forall_mem_cons.mpr ⟨nofun, List.forall_mem_cons.mpr ⟨nofun, ?_⟩⟩
      exact (serve_keepsLock usbredirect device).of_runs hserve
    · exact (((serve_settled hserve hspawned').cons rfl rfl).cons rfl rfl).handedBack_iff

/-! Two sessions of a camera. -/

def servedCamera : UsbDeviceInfo :=
  ⟨"1-2", 1, 7, "046d", "0825", none, none, some "Webcam", none, 0xef, [0x0e], some "480"⟩

/-- `usbredirect` has opened the camera and connected. -/
def cameraOpened : List OsEvent :=
  [⟨.lock 15000, true⟩, ⟨.isCancelled, false⟩, ⟨.bind, .ok ()⟩,
    ⟨.localAddr, .ok "127.0.0.1:40217"⟩,
    ⟨.spawn "usbredirect" ["--device", "1-7", "--to", "127.0.0.1:40217"], .ok ()⟩,
    ⟨.awaitConnection 15000, .accepted (.ok ())⟩]

/-- The VM disconnects after a while. -/
def vmDisconnects : List OsEvent :=
  [⟨.writeLine ⟨true, none⟩, .ok ()⟩, ⟨.awaitEnd, .copied (.ok (512, 4096))⟩, ⟨.tryWait, .ok none⟩,
    ⟨.interrupt, ()⟩, ⟨.wait 5000, some (.ok ⟨"exit status: 0"⟩)⟩]

/-- The peer is gone before it is told that the session starts. -/
def peerIsGone : List OsEvent :=
  [⟨.writeLine ⟨true, none⟩, .error "Broken pipe (os error 32)"⟩, ⟨.killOnDrop, ()⟩]

lemma cameraOpened_spawned (rest : List OsEvent) : Spawned (cameraOpened ++ rest) :=
  ⟨⟨.spawn "usbredirect" ["--device", "1-7", "--to", "127.0.0.1:40217"], .ok ()⟩,
    by simp [cameraOpened], rfl⟩

theorem session_hands_back_iff_vmDisconnects :
    (session "usbredirect" servedCamera).Runs
        (cameraOpened ++ vmDisconnects ++ [⟨.unlock, ()⟩]) (.ok ()) ∧
      HandedBack (cameraOpened ++ vmDisconnects) := by
  have hrun : (session "usbredirect" servedCamera).Runs
      (cameraOpened ++ vmDisconnects ++ [⟨.unlock, ()⟩]) (.ok ()) :=
    ⟨true, _, rfl, false, _, rfl, .ok (), _, rfl, .ok "127.0.0.1:40217", _, rfl, .ok (), _, rfl,
      .accepted (.ok ()), _, rfl, .ok (), _, rfl, .copied (.ok (512, 4096)), _, rfl,
      .ok none, _, rfl, (), _, rfl, some (.ok ⟨"exit status: 0"⟩), _, rfl, (), _, rfl, rfl, rfl⟩
  obtain ⟨before, htr, -, hiff⟩ := session_hands_back_iff hrun (cameraOpened_spawned _)
  obtain ⟨rfl, -⟩ := List.append_inj' htr rfl
  refine ⟨hrun, hiff.mpr (not_abandoned_iff.mpr ?_)⟩
  simp [cameraOpened, vmDisconnects, OsEvent.abandons]

/-- The peer is gone: `usbredirect` is killed where it stands, and the lock is released. -/
theorem lock_released_without_hand_back :
    (session "usbredirect" servedCamera).Runs
        (cameraOpened ++ peerIsGone ++ [⟨.unlock, ()⟩]) (.error "Broken pipe (os error 32)") ∧
      Spawned (cameraOpened ++ peerIsGone) ∧ ¬ HandedBack (cameraOpened ++ peerIsGone) := by
  refine ⟨?_, cameraOpened_spawned _, not_handedBack ?_⟩
  · exact ⟨true, _, rfl, false, _, rfl, .ok (), _, rfl, .ok "127.0.0.1:40217", _, rfl,
      .ok (), _, rfl, .accepted (.ok ()), _, rfl, .error "Broken pipe (os error 32)", _, rfl,
      (), _, rfl, (), _, rfl, rfl, rfl⟩
  · simp [cameraOpened, peerIsGone, OsEvent.attends, OsEvent.showsExit]

end AtomicUsb
