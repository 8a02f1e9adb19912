import AtomicUsb.Agent.HandleProtocol

/-!
# The handlers of an exporter

`handle` runs once for every connection.  Here the handlers of a process run side by side, call by
call, over what they share: the clock, the nonces, the local devices, the objects on the API server
and the sessions.  The tasks of `Agent/Exporter.lean` are what is left of them when the calls are
forgotten: `handlers_refine` takes every reachable state of the process to a reachable state of that
exporter, and `complies_of_reachable` says that each handler keeps to the protocol of
`Agent/HandleProtocol.lean`.  What is proved there is used here about the processes that the
operating system runs (`one_child_per_device`).
-/

namespace AtomicUsb

/-! ## The process -/

/-- A connection that is being handled: what is left to do, and what was done. -/
structure Handler where
  rest : HandleProg (Except String Unit)
  log : List HandleEvent

structure ExporterProcess where
  /-- What the handlers share.  Its `tasks` are not used. -/
  shared : Exporter
  handlers : ℕ → Option Handler

/-- Neither the lock of a device nor a token is involved in the call itself. -/
def OsCall.isPlain : OsCall → Bool
  | .lock _ | .unlock | .isCancelled => false
  | _ => true

/-- A `select!` took the branch of the token. -/
def OsEvent.seesToken : OsEvent → Bool
  | ⟨.awaitConnection _, .cancelled⟩ => true
  | ⟨.awaitEnd, .cancelled⟩ => true
  | _ => false

namespace Handle

/-- What handler `t`, in a session, can be answered, and what the call does to what is shared. -/
def OsAnswers (t : ℕ) (s : Exporter) (device : String) (id : ℕ) :
    (call : OsCall) → call.Answer → Exporter → Prop
  | .lock _, true, s' => (s.sessions device).busy = none ∧ s' = s.setBusy device (some t)
  | .lock _, false, s' => s' = s
  | .unlock, _, s' => s' = s.setBusy device none
  | .isCancelled, cancelled, s' => cancelled = s.cancelled id ∧ s' = s
  | call, answer, s' => (OsEvent.seesToken ⟨call, answer⟩ = true → s.cancelled id = true) ∧ s' = s

/-- What handler `t` can be answered, and what the call does to what is shared. -/
def Answers (t : ℕ) (s : Exporter) : (call : HandleCall) → call.Answer → Exporter → Prop
  | .readHello _, _, s' => s' = s
  | .fs _, _, s' => s' = s
  | .now, now, s' => now = s.clock ∧ s' = s
  | .checkNonce nonce timestamp now, answer, s' =>
    ∃ nonces, s.nonces.checkAndInsert nonce timestamp now = (answer, nonces) ∧
      s' = { s with nonces := nonces }
  | .localDevice name, device, s' => device = s.localDevices name ∧ s' = s
  | .getDevice name, answer, s' =>
    (answer = .ok (s.objects name) ∨ ∃ e, answer = .error e) ∧ s' = s
  | .beginSession hello device, id, s' =>
    id = s.nextId ∧ s' = { s.beginSession t hello device with tasks := s.tasks }
  | .os none call, _, s' => call.isPlain = true ∧ s' = s
  | .os (some (device, id)) call, answer, s' => OsAnswers t s device id call answer s'
  | .endSession device id, _, s' => s' = s.endSession device id

end Handle

namespace ExporterProcess

variable (ctx : HandleContext)

inductive Label
  | accept (t : ℕ)
  | call (t : ℕ)
  | around (label : Exporter.Label)

/-- The step is not one of a task. -/
def isAround : Exporter.Label → Bool
  | .tick | .plugged | .observe | .watch | .leased => true
  | _ => false

inductive Step : ExporterProcess → Label → ExporterProcess → Prop
  | accept {p : ExporterProcess} {t : ℕ} (ht : p.handlers t = none) :
      Step p (.accept t)
        { p with handlers := Function.update p.handlers t (some ⟨Handle.handle ctx, []⟩) }
  | call {p : ExporterProcess} {t : ℕ} {c : HandleCall}
      {k : c.Answer → HandleProg (Except String Unit)} {log : List HandleEvent} {x : c.Answer}
      {s' : Exporter} (ht : p.handlers t = some ⟨.call c k, log⟩)
      (hx : Handle.Answers t p.shared c x s') :
      Step p (.call t)
        { shared := s'
          handlers := Function.update p.handlers t (some ⟨k x, log ++ [⟨c, x⟩]⟩) }
  | around {p : ExporterProcess} {l : Exporter.Label} {s' : Exporter} (hl : isAround l = true)
      (h : Exporter.Step ctx.toExporterContext p.shared l s') :
      Step p (.around l) { p with shared := s' }

structure Init (p : ExporterProcess) : Prop where
  shared : p.shared.Init
  handlers : ∀ t, p.handlers t = none

end ExporterProcess

/-- One exporter process, call by call. -/
def exporterProcess (ctx : HandleContext) : System ExporterProcess ExporterProcess.Label where
  init := ExporterProcess.Init
  step := ExporterProcess.Step ctx

/-! ## The child of a handler -/

namespace Handle

/-- Whether the handler has the handle of a child that is not known to have exited, after an
event. -/
def childHeld (held : Bool) : OsEvent → Bool
  | ⟨.spawn _ _, .ok _⟩ => true
  | ⟨.killOnDrop, _⟩ => false
  | e => held && !OsEvent.showsExit e

def ChildHeld (log : List OsEvent) : Bool := log.foldl childHeld false

/-- What happened in the sessions of a device. -/
def logOf (device : String) (log : List HandleEvent) : List OsEvent :=
  log.filterMap fun
    | ⟨.os (some (name, _)) call, answer⟩ => if name = device then some ⟨call, answer⟩ else none
    | _ => none

/-- The handler has the handle of no child. -/
def Childless (log : List HandleEvent) : Prop := ∀ device, ChildHeld (logOf device log) = false

variable {log : List OsEvent}

lemma childHeld_snoc (e : OsEvent) : ChildHeld (log ++ [e]) = childHeld (ChildHeld log) e := by
  unfold ChildHeld
  rw [List.foldl_append]
  rfl

lemma childHeld_snoc_of_dead {e : OsEvent} (h : ChildHeld log = false)
    (hspawn : OsEvent.spawns e = false) : ChildHeld (log ++ [e]) = false := by
  rw [childHeld_snoc, h]
  unfold childHeld
  split
  · cases hspawn
  · rfl
  · rfl

lemma childHeld_snoc_of_exit {e : OsEvent} (h : OsEvent.showsExit e = true) :
    ChildHeld (log ++ [e]) = false := by
  rw [childHeld_snoc]
  unfold childHeld
  split
  · cases h
  · rfl
  · rw [h, Bool.not_true, Bool.and_false]

lemma logOf_append (device : String) (log log' : List HandleEvent) :
    logOf device (log ++ log') = logOf device log ++ logOf device log' :=
  List.filterMap_append ..

lemma Childless.snoc {log : List HandleEvent} {e : HandleEvent} (h : Childless log)
    (he : ∀ device, logOf device [e] = []) : Childless (log ++ [e]) := by
  intro device
  rw [logOf_append, he device, List.append_nil]
  exact h device

lemma logOf_os (device : String) (id : ℕ) (call : OsCall) (x : call.Answer) :
    logOf device [⟨.os (some (device, id)) call, x⟩] = [⟨call, x⟩] := by
  simp [logOf]

lemma logOf_os_ne {device device' : String} (hne : device' ≠ device) (id : ℕ) (call : OsCall)
    (x : call.Answer) : logOf device' [⟨.os (some (device, id)) call, x⟩] = [] := by
  simp [logOf, Ne.symm hne]

/-- Only starting a child gives a handle. -/
lemma Childless.snoc_os {log : List HandleEvent} {session : Option (String × ℕ)} {call : OsCall}
    {x : call.Answer} (h : Childless log) (hspawn : OsEvent.spawns ⟨call, x⟩ = false) :
    Childless (log ++ [⟨.os session call, x⟩]) := by
  rcases session with _ | ⟨name, id⟩
  · exact h.snoc fun _ => rfl
  intro device
  rw [logOf_append]
  by_cases hdevice : device = name
  · subst hdevice
    rw [logOf_os]
    exact childHeld_snoc_of_dead (h device) hspawn
  · rw [logOf_os_ne hdevice, List.append_nil]
    exact h device

/-! ### What `serve` leaves behind -/

/-- A handle that knows of an exit is the handle of a child that is gone. -/
def Reaped (child : Child) (log : List OsEvent) : Prop :=
  child.isSome = true → ChildHeld log = false

/-- Calls that leave the lock and the token alone. -/
abbrev plainly : Prog.Discipline OsCall OsCall.Answer (List OsEvent) :=
  .logged fun _ call => call.isPlain = true

lemma reject_childless {reason : String} (h : ChildHeld log = false) :
    (reject reason).Ensures plainly log fun _ log' => ChildHeld log' = false :=
  Prog.ensures_logged_call.mpr ⟨rfl, fun _ => childHeld_snoc_of_dead h rfl⟩

lemma interruptChild_reaped :
    interruptChild.Ensures plainly log fun child log' => Reaped child log' := by
  refine Prog.ensures_logged_call.mpr ⟨rfl, fun _ => Prog.ensures_logged_call.mpr
    ⟨rfl, fun waited => ?_⟩⟩
  rcases waited with _ | (e | status)
  · refine Prog.ensures_logged_call.mpr ⟨rfl, fun killed => ?_⟩
    rcases killed with e | status
    · exact nofun
    · exact fun _ => childHeld_snoc_of_exit rfl
  · exact nofun
  · exact fun _ => childHeld_snoc_of_exit rfl

lemma terminate_reaped {child : Child} (h : Reaped child log) :
    (terminate child).Ensures plainly log fun child' log' => Reaped child' log' := by
  cases child with
  | some status => exact h
  | none =>
      refine Prog.ensures_logged_call.mpr ⟨rfl, fun answer => ?_⟩
      rcases answer with e | (_ | status)
      · exact interruptChild_reaped
      · exact interruptChild_reaped
      · exact fun _ => childHeld_snoc_of_exit rfl

/-- The child is stopped, and the peer is told why. -/
lemma terminate_reject_reaped {reason : String} :
    (terminate none >>= fun child => reject reason >>= fun result =>
      (pure (child, result) : OsProg (Child × Except String Unit))).Ensures plainly log
        fun out log' => Reaped out.1 log' := by
  refine Prog.ensures_bind.mpr
    ((terminate_reaped fun hsome => by cases hsome).mono fun child log' hreaped => ?_)
  exact Prog.ensures_logged_call.mpr ⟨rfl, fun _ hsome =>
    childHeld_snoc_of_dead (hreaped hsome) rfl⟩

lemma splice_reaped : splice.Ensures plainly log fun out log' => Reaped out.1 log' := by
  refine Prog.ensures_logged_call.mpr ⟨rfl, fun told => ?_⟩
  rcases told with e | ok
  · exact nofun
  refine Prog.ensures_logged_call.mpr ⟨rfl, fun ended => ?_⟩
  show (terminate _ >>= fun child =>
    (pure (child, .ok ()) : OsProg (Child × Except String Unit))).Ensures _ _ _
  refine Prog.ensures_bind.mpr ((terminate_reaped ?_).mono fun _ _ hreaped => hreaped)
  rcases ended with bytes | (e | status) | _
  · exact nofun
  · exact nofun
  · exact fun _ => childHeld_snoc_of_exit rfl
  · exact nofun

lemma serveSpawned_reaped :
    serveSpawned.Ensures plainly log fun out log' => Reaped out.1 log' := by
  refine Prog.ensures_logged_call.mpr ⟨rfl, fun awaited => ?_⟩
  rcases awaited with (e | ok) | (e | status) | _ | _
  · exact nofun
  · exact splice_reaped
  · exact Prog.ensures_logged_call.mpr ⟨rfl, fun _ => nofun⟩
  · -- the exit was seen before anything else was done
    refine Prog.ensures_logged_call.mpr ⟨rfl, fun _ => Prog.ensures_logged_call.mpr
      ⟨rfl, fun _ => Prog.ensures_logged_call.mpr ⟨rfl, fun _ _ => ?_⟩⟩⟩
    exact childHeld_snoc_of_dead (childHeld_snoc_of_dead (childHeld_snoc_of_dead
      (childHeld_snoc_of_exit rfl) rfl) rfl) rfl
  · exact terminate_reject_reaped
  · exact terminate_reject_reaped

/-- However `serve` is left, the handle of the child is gone. -/
lemma serve_childless (usbredirect : String) (device : UsbDeviceInfo)
    (h : ChildHeld log = false) :
    (Exporter.serve usbredirect device).Ensures plainly log fun _ log' =>
      ChildHeld log' = false := by
  refine Prog.ensures_logged_call.mpr ⟨rfl, fun bound => ?_⟩
  have hbound := childHeld_snoc_of_dead (e := ⟨.bind, bound⟩) h rfl
  rcases bound with e | ok
  · exact hbound
  refine Prog.ensures_logged_call.mpr ⟨rfl, fun addr => ?_⟩
  have haddr := childHeld_snoc_of_dead (e := ⟨.localAddr, addr⟩) hbound rfl
  rcases addr with e | addr
  · exact haddr
  refine Prog.ensures_logged_call.mpr ⟨rfl, fun spawned => ?_⟩
  rcases spawned with e | ok
  · exact reject_childless (childHeld_snoc_of_dead haddr rfl)
  · show (serveSpawned >>= fun out => dropChild out.1 >>= fun _ =>
      (pure out.2 : OsProg (Except String Unit))).Ensures _ _ _
    refine Prog.ensures_bind.mpr (serveSpawned_reaped.mono ?_)
    rintro ⟨_ | status, result⟩ log' hreaped
    · refine Prog.ensures_logged_call.mpr ⟨rfl, fun _ => ?_⟩
      show ChildHeld (log' ++ [⟨.killOnDrop, ()⟩]) = false
      rw [childHeld_snoc]
      rfl
    · exact hreaped rfl

/-! ## As tasks of the exporter -/

/-- What is done under the lock, and its release. -/
def released (p : OsProg (Except String Unit)) : OsProg (Except String Unit) := do
  let result ← p
  os .unlock
  pure result

/-- `session` from where it has the lock. -/
def sessionLocked (usbredirect : String) (device : UsbDeviceInfo) :
    OsProg (Except String Unit) := do
  match ← os .isCancelled with
  | true => released (reject "session superseded")
  | false => released (Exporter.serve usbredirect device)

/-- All that is left to do is to tell the peer something. -/
def Tells (p : OsProg (Except String Unit)) : Prop :=
  p.Issues fun call => ∃ reply, call = .writeLine reply

variable (ctx : HandleContext) (cancelled : ℕ → Bool)

/-- Where a handler without a child stands, and the task that stands there.  Before its hello is
found to be authentic, a handler is none of the exporter's tasks. -/
inductive AtStage : HandleProg (Except String Unit) → Option Task → Prop
  | opened : AtStage (handle ctx) none
  | greeted (hello : Hello) : AtStage (authorize ctx hello >>= serveAuthorized ctx hello) none
  | keyed (hello : Hello) (psk : List UInt8) :
      AtStage (authorizeKeyed ctx hello psk >>= serveAuthorized ctx hello) none
  | verified (hello : Hello) (now : Timestamp) :
      AtStage (authorizeNonce ctx hello now >>= serveAuthorized ctx hello)
        (some ⟨hello, .verified now⟩)
  | accepted (hello : Hello) :
      AtStage (authorizeLocal ctx hello >>= serveAuthorized ctx hello) (some ⟨hello, .accepted⟩)
  | located (hello : Hello) (device : UsbDeviceInfo) :
      AtStage (authorizeLease hello device >>= serveAuthorized ctx hello)
        (some ⟨hello, .located device⟩)
  | authorized (hello : Hello) (device : UsbDeviceInfo) :
      AtStage (serveAuthorized ctx hello (.ok device)) (some ⟨hello, .authorized device⟩)
  | waiting (hello : Hello) (device : UsbDeviceInfo) (id : ℕ) :
      AtStage (onOs (some (hello.device, id)) (session ctx.usbredirect device) >>= leave hello id)
        (some ⟨hello, .waiting id⟩)
  | locked (hello : Hello) (device : UsbDeviceInfo) (id : ℕ) :
      AtStage
        (onOs (some (hello.device, id)) (sessionLocked ctx.usbredirect device) >>= leave hello id)
        (some ⟨hello, .locked id⟩)
  | superseded (hello : Hello) (id : ℕ) (p : OsProg (Except String Unit)) (hp : Tells p)
      (hcancel : cancelled id = true) :
      AtStage (onOs (some (hello.device, id)) (released p) >>= leave hello id)
        (some ⟨hello, .locked id⟩)
  | leaving (hello : Hello) (id : ℕ) (reply : Option String) (p : OsProg (Except String Unit))
      (hp : Tells p) :
      AtStage (onOs (some (hello.device, id)) p >>= leave hello id)
        (some ⟨hello, .leaving id reply⟩)
  | closed (p : OsProg (Except String Unit)) (hp : Tells p) (task : Option Task)
      (htask : ∀ a, task = some a → ∃ reply, a.stage = .closed reply) :
      AtStage (onOs none p) task

/-- A handler and its task. -/
inductive Stands : Option Handler → Option Task → Prop
  | absent : Stands none none
  | idle {rest : HandleProg (Except String Unit)} {log : List HandleEvent} {task : Option Task}
      (hlog : Childless log) (hstage : AtStage ctx cancelled rest task) :
      Stands (some ⟨rest, log⟩) task
  | serving {hello : Hello} {id : ℕ} {p : OsProg (Except String Unit)} {log : List HandleEvent}
      (helsewhere : ∀ device, device ≠ hello.device → ChildHeld (logOf device log) = false)
      (hp : p.Ensures plainly (logOf hello.device log) fun _ log' => ChildHeld log' = false) :
      Stands (some ⟨onOs (some (hello.device, id)) (released p) >>= leave hello id, log⟩)
        (some ⟨hello, .serving id⟩)

variable {ctx} {cancelled} {cancelled' : ℕ → Bool}

/-- Cancelled tokens stay cancelled. -/
lemma AtStage.mono {rest : HandleProg (Except String Unit)} {task : Option Task}
    (h : AtStage ctx cancelled rest task)
    (hle : ∀ id, cancelled id = true → cancelled' id = true) :
    AtStage ctx cancelled' rest task := by
  cases h with
  | superseded hello id p hp hcancel => exact .superseded hello id p hp (hle id hcancel)
  | opened => exact .opened
  | greeted hello => exact .greeted hello
  | keyed hello psk => exact .keyed hello psk
  | verified hello now => exact .verified hello now
  | accepted hello => exact .accepted hello
  | located hello device => exact .located hello device
  | authorized hello device => exact .authorized hello device
  | waiting hello device id => exact .waiting hello device id
  | locked hello device id => exact .locked hello device id
  | leaving hello id reply p hp => exact .leaving hello id reply p hp
  | closed p hp _ htask => exact .closed p hp _ htask

lemma Stands.mono {h : Option Handler} {task : Option Task} (hstands : Stands ctx cancelled h task)
    (hle : ∀ id, cancelled id = true → cancelled' id = true) : Stands ctx cancelled' h task := by
  cases hstands with
  | absent => exact .absent
  | idle hlog hstage => exact .idle hlog (hstage.mono hle)
  | serving helsewhere hp => exact .serving helsewhere hp

end Handle

/-- The exporter that shows only where the tasks are. -/
def Exporter.behind (s : Exporter) (tasks : ℕ → Option Task) (admitted : List (Hello × Timestamp))
    (registered : String → Option ℕ) : Exporter :=
  { s with tasks := tasks, admitted := admitted, registered := registered }

namespace Handle

section Steps

variable {ctx : HandleContext} {s s' : Exporter} {t : ℕ} {T : ℕ → Option Task}
  {A : List (Hello × Timestamp)} {R : String → Option ℕ} {log : List HandleEvent}

/-- The task of handler `t` has followed it, in a step of the exporter or in none. -/
def Follows (ctx : HandleContext) (t : ℕ) (a s' : Exporter) (h : Handler) : Prop :=
  ∃ T A R, (s'.behind T A R = a ∨
      ∃ l, Exporter.Step ctx.toExporterContext a l (s'.behind T A R)) ∧
    Stands ctx s'.cancelled (some h) (T t) ∧ ∀ t', t' ≠ t → T t' = a.tasks t'

lemma Follows.stay {h : Handler} (hstands : Stands ctx s.cancelled (some h) (T t)) :
    Follows ctx t (s.behind T A R) s h :=
  ⟨T, A, R, Or.inl rfl, hstands, fun _ _ => rfl⟩

lemma Follows.goOn {h : Handler} {hello : Hello} {l : Exporter.Label} {a : Exporter}
    (outcome : Except String Stage) (admitted : List (Hello × Timestamp))
    (hstep : Exporter.Step ctx.toExporterContext a l
      ((s'.behind a.tasks admitted R).goOn t hello outcome))
    (hstands : Stands ctx s'.cancelled (some h)
      (((s'.behind a.tasks admitted R).goOn t hello outcome).tasks t)) : Follows ctx t a s' h :=
  ⟨_, admitted, R, Or.inr ⟨l, hstep⟩, hstands, fun _ hne => Function.update_of_ne hne _ _⟩

/-- Whatever the next call is answered, the task follows. -/
def Followed (ctx : HandleContext) (t : ℕ) (s : Exporter) (T : ℕ → Option Task)
    (A : List (Hello × Timestamp)) (R : String → Option ℕ) (log : List HandleEvent)
    (rest : HandleProg (Except String Unit)) : Prop :=
  ∀ (c : HandleCall) (k : c.Answer → HandleProg (Except String Unit)) (x : c.Answer)
    (s' : Exporter), rest = .call c k → Answers t s c x s' →
      Follows ctx t (s.behind T A R) s' ⟨k x, log ++ [⟨c, x⟩]⟩

lemma Followed.call {c : HandleCall} {k : c.Answer → HandleProg (Except String Unit)}
    (h : ∀ x s', Answers t s c x s' →
      Follows ctx t (s.behind T A R) s' ⟨k x, log ++ [⟨c, x⟩]⟩) :
    Followed ctx t s T A R log (.call c k) := by
  rintro _ _ x s' ⟨⟩ hx
  exact h x s' hx

/-- Nothing is left to be done. -/
lemma Followed.done {r : Except String Unit} :
    Followed ctx t s T A R log (onOs none (pure r)) := by
  rintro _ _ _ _ ⟨⟩

lemma tells_reject (reason : String) : Tells (reject reason) := ⟨⟨_, rfl⟩, fun _ => trivial⟩

lemma goOn_task (s : Exporter) (t : ℕ) (hello : Hello) (stage : Stage) :
    (s.goOn t hello (.ok stage)).tasks t = some ⟨hello, stage⟩ :=
  Function.update_self _ _ _

lemma goOn_refused (s : Exporter) (t : ℕ) (hello : Hello) (reason : String) :
    (s.goOn t hello (.error reason)).tasks t = some ⟨hello, .closed (some reason)⟩ :=
  Function.update_self _ _ _

lemma goOn_map_error {α : Type} (s : Exporter) (t : ℕ) (hello : Hello) (reason : String)
    (f : α → Stage) : (s.goOn t hello ((Except.error reason).map f)).tasks t =
      some ⟨hello, .closed (some reason)⟩ :=
  Function.update_self _ _ _

lemma goOn_map_ok {α : Type} (s : Exporter) (t : ℕ) (hello : Hello) (a : α) (f : α → Stage) :
    (s.goOn t hello ((Except.ok a).map f)).tasks t = some ⟨hello, f a⟩ :=
  Function.update_self _ _ _

/-- A handler that turns its peer down is a task that is over. -/
lemma AtStage.refused {cancelled : ℕ → Bool} (hello : Hello) (reason : String) :
    AtStage ctx cancelled (onOs none (reject reason)) (some ⟨hello, .closed (some reason)⟩) :=
  .closed _ (tells_reject reason) _ fun _ htask => ⟨some reason, Option.some.inj htask ▸ rfl⟩

/-- … or was never one. -/
lemma AtStage.unseen {cancelled : ℕ → Bool} {p : OsProg (Except String Unit)} (hp : Tells p) :
    AtStage ctx cancelled (onOs none p) none :=
  .closed p hp _ nofun

lemma osAnswers_plain {device : String} {id : ℕ} {call : OsCall} {x : call.Answer}
    (hplain : call.isPlain = true) (h : OsAnswers t s device id call x s') : s' = s := by
  cases call with
  | lock _ | unlock | isCancelled => cases hplain
  | _ => exact h.2

/-! ### One lemma for every stage -/

lemma opened_followed (hlog : Childless log) (htask : T t = none) :
    Followed ctx t s T A R log (handle ctx) := by
  refine .call fun received s' hx => ?_
  obtain rfl : s' = s := hx
  refine .stay (.idle (hlog.snoc fun _ => rfl) ?_)
  rw [htask]
  rcases received with _ | (_ | e | e) | hello
  · exact .unseen (tells_reject _)
  · exact AtStage.unseen (p := pure (.ok ())) trivial
  · exact .unseen (tells_reject _)
  · exact .unseen (tells_reject _)
  · exact .greeted hello

lemma greeted_followed (hlog : Childless log) (htask : T t = none) (hello : Hello) :
    Followed ctx t s T A R log (authorize ctx hello >>= serveAuthorized ctx hello) := by
  refine .call fun raw s' hx => ?_
  obtain rfl : s' = s := hx
  refine .stay (.idle (hlog.snoc fun _ => rfl) ?_)
  rw [htask]
  rcases raw with e | raw
  · exact .unseen (tells_reject _)
  · show AtStage ctx _ (authorizeRead ctx hello (pskOf ctx.pskFile raw) >>=
      serveAuthorized ctx hello) _
    cases pskOf ctx.pskFile raw with
    | error e => exact .unseen (tells_reject _)
    | ok psk => exact .keyed hello psk

lemma keyed_followed (hlog : Childless log) (htask : T t = none) (hello : Hello)
    (psk : List UInt8) :
    Followed ctx t s T A R log (authorizeKeyed ctx hello psk >>= serveAuthorized ctx hello) := by
  refine .call fun now s' hx => ?_
  obtain ⟨rfl, rfl⟩ := hx
  refine .goOn ((authenticate ctx.toExporterContext hello (.ok psk) s'.clock).map
    fun _ => .verified s'.clock) _ (.hello hello (.ok psk) htask)
    (.idle (hlog.snoc fun _ => rfl) ?_)
  show AtStage ctx _ (authorizeVerified ctx hello s'.clock
    (authenticate ctx.toExporterContext hello (.ok psk) s'.clock) >>= serveAuthorized ctx hello) _
  cases authenticate ctx.toExporterContext hello (.ok psk) s'.clock with
  | error reason =>
      rw [goOn_map_error]
      exact .refused hello reason
  | ok u =>
      rw [goOn_map_ok]
      exact .verified hello s'.clock

lemma verified_followed {hello : Hello} {now : Timestamp} (hlog : Childless log)
    (htask : T t = some ⟨hello, .verified now⟩) :
    Followed ctx t s T A R log
      (authorizeNonce ctx hello now >>= serveAuthorized ctx hello) := by
  refine .call fun answer s' hx => ?_
  obtain ⟨nonces, hanswer, rfl⟩ := hx
  have hstep : Exporter.Step ctx.toExporterContext (s.behind T A R) (.nonce t)
      ((s.behind T A R).checkNonce ctx.toExporterContext t hello now) := .nonce htask
  have hnonces : (s.behind T A R).nonces.checkAndInsert hello.nonce hello.timestamp now.asSecond =
      (answer, nonces) := hanswer
  rw [Exporter.checkNonce, hnonces] at hstep
  rcases answer with e | ⟨⟩
  · refine .goOn (R := R) (.error (e.display ctx.rt)) A hstep
      (.idle (hlog.snoc fun _ => rfl) ?_)
    rw [goOn_refused]
    exact .refused hello _
  · refine .goOn (R := R) (.ok .accepted) ((hello, now) :: A) hstep
      (.idle (hlog.snoc fun _ => rfl) ?_)
    rw [goOn_task]
    exact .accepted hello

lemma accepted_followed {hello : Hello} (hlog : Childless log)
    (htask : T t = some ⟨hello, .accepted⟩) :
    Followed ctx t s T A R log (authorizeLocal ctx hello >>= serveAuthorized ctx hello) := by
  refine .call fun found s' hx => ?_
  obtain ⟨hfound, rfl⟩ := hx
  refine .goOn ((locate ctx.toExporterContext hello s'.localDevices).map .located) _
    (.locate htask) (.idle (hlog.snoc fun _ => rfl) ?_)
  unfold locate
  rw [← hfound]
  cases found with
  | none =>
      rw [goOn_map_error]
      exact .refused hello _
  | some device =>
      rw [goOn_map_ok]
      exact .located hello device

lemma located_followed {hello : Hello} {device : UsbDeviceInfo} (hlog : Childless log)
    (htask : T t = some ⟨hello, .located device⟩) :
    Followed ctx t s T A R log (authorizeLease hello device >>= serveAuthorized ctx hello) := by
  refine .call fun answer s' hx => ?_
  obtain ⟨hanswer, rfl⟩ := hx
  refine .goOn ((checkLease hello answer).map fun _ => .authorized device) _
    (.lease htask hanswer) (.idle (hlog.snoc fun _ => rfl) ?_)
  show AtStage ctx _
    (serveAuthorized ctx hello ((checkLease hello answer).map fun _ => device)) _
  cases checkLease hello answer with
  | error reason =>
      rw [goOn_map_error]
      exact .refused hello reason
  | ok u =>
      rw [goOn_map_ok]
      exact .authorized hello device

lemma authorized_followed {hello : Hello} {device : UsbDeviceInfo} (hlog : Childless log)
    (htask : T t = some ⟨hello, .authorized device⟩) :
    Followed ctx t s T A R log (serveAuthorized ctx hello (.ok device)) := by
  refine .call fun id s' hx => ?_
  obtain ⟨rfl, rfl⟩ := hx
  have hstep : Exporter.Step ctx.toExporterContext (s.behind T A R) (.beginSession t)
      ((s.behind T A R).beginSession t hello device) := .beginSession htask
  refine ⟨_, A, _, Or.inr ⟨_, hstep⟩, .idle (hlog.snoc fun _ => rfl) ?_,
    fun _ hne => Function.update_of_ne hne _ _⟩
  rw [Function.update_self]
  exact .waiting hello device s.nextId

lemma waiting_followed {hello : Hello} {device : UsbDeviceInfo} {id : ℕ} (hlog : Childless log)
    (htask : T t = some ⟨hello, .waiting id⟩) :
    Followed ctx t s T A R log
      (onOs (some (hello.device, id)) (session ctx.usbredirect device) >>= leave hello id) := by
  refine .call fun got s' hx => ?_
  cases got with
  | false =>
      obtain rfl : s' = s := hx
      refine .goOn (.ok _) _ (.giveUp htask) (.idle (hlog.snoc_os rfl) ?_)
      rw [goOn_task]
      exact .leaving hello id _ _ (tells_reject "previous session did not stop in time")
  | true =>
      obtain ⟨hfree, rfl⟩ := hx
      refine .goOn (.ok _) _ (.lock htask hfree) (.idle (hlog.snoc_os rfl) ?_)
      rw [goOn_task]
      exact .locked hello device id

lemma locked_followed {hello : Hello} {device : UsbDeviceInfo} {id : ℕ} (hlog : Childless log)
    (htask : T t = some ⟨hello, .locked id⟩) :
    Followed ctx t s T A R log
      (onOs (some (hello.device, id)) (sessionLocked ctx.usbredirect device) >>=
        leave hello id) := by
  refine .call fun cancelled s' hx => ?_
  obtain ⟨hcancelled, rfl⟩ := hx
  have hlog' : Childless (log ++ [⟨.os (some (hello.device, id)) .isCancelled, cancelled⟩]) :=
    hlog.snoc_os rfl
  cases cancelled with
  | true =>
      -- the task is superseded only when the lock is released
      refine .stay (.idle hlog' ?_)
      rw [htask]
      exact .superseded hello id _ (tells_reject "session superseded") hcancelled.symm
  | false =>
      refine .goOn (.ok _) _ (.serve htask hcancelled.symm) ?_
      rw [goOn_task]
      exact .serving (fun other _ => hlog' other) (serve_childless _ _ (hlog' hello.device))

lemma told_shared {session : Option (String × ℕ)} {reply : Reply} {told : Except String Unit}
    (hx : Answers t s (.os session (.writeLine reply)) told s') : s' = s := by
  cases session with
  | none => exact hx.2
  | some session => exact hx.2

lemma superseded_followed {hello : Hello} {id : ℕ} {p : OsProg (Except String Unit)}
    (hlog : Childless log) (htask : T t = some ⟨hello, .locked id⟩) (hp : Tells p)
    (hcancel : s.cancelled id = true) :
    Followed ctx t s T A R log
      (onOs (some (hello.device, id)) (released p) >>= leave hello id) := by
  cases p with
  | pure r =>
      refine .call fun _ s' hx => ?_
      obtain rfl : s' = s.setBusy hello.device none := hx
      refine .goOn (.ok _) _ (.superseded htask hcancel) (.idle (hlog.snoc_os rfl) ?_)
      rw [goOn_task]
      exact .leaving hello id _ (pure r) trivial
  | call c k =>
      obtain ⟨⟨reply, rfl⟩, hk⟩ := hp
      refine .call fun told s' hx => ?_
      obtain rfl := told_shared hx
      refine .stay (.idle (hlog.snoc_os rfl) ?_)
      rw [htask]
      exact .superseded hello id (k told) (hk told) hcancel

lemma leaving_followed {hello : Hello} {id : ℕ} {reply : Option String}
    {p : OsProg (Except String Unit)} (hlog : Childless log)
    (htask : T t = some ⟨hello, .leaving id reply⟩) (hp : Tells p) :
    Followed ctx t s T A R log (onOs (some (hello.device, id)) p >>= leave hello id) := by
  cases p with
  | pure r =>
      refine .call fun _ s' hx => ?_
      obtain rfl : s' = s.endSession hello.device id := hx
      have hstep : Exporter.Step ctx.toExporterContext (s.behind T A R) (.endSession t)
          (((s.behind T A R).endSession hello.device id).goOn t hello (.ok (.closed reply))) :=
        .endSession htask
      have hsame : (s.behind T A R).endSession hello.device id =
          (s.endSession hello.device id).behind T A R := by
        unfold Exporter.endSession
        show (if (s.sessions hello.device).active.any _ = true then _ else _) = _
        split_ifs <;> rfl
      rw [hsame] at hstep
      refine .goOn (.ok (.closed reply)) _ hstep (.idle (hlog.snoc fun _ => rfl) ?_)
      rw [goOn_task]
      exact AtStage.closed (pure r) trivial _ fun _ htask => ⟨reply, Option.some.inj htask ▸ rfl⟩
  | call c k =>
      obtain ⟨⟨reply', rfl⟩, hk⟩ := hp
      refine .call fun told s' hx => ?_
      obtain rfl := told_shared hx
      refine .stay (.idle (hlog.snoc_os rfl) ?_)
      rw [htask]
      exact .leaving hello id reply (k told) (hk told)

lemma closed_followed {p : OsProg (Except String Unit)} (hlog : Childless log) (hp : Tells p)
    (htask : ∀ a, T t = some a → ∃ reply, a.stage = .closed reply) :
    Followed ctx t s T A R log (onOs none p) := by
  cases p with
  | pure r => exact .done
  | call c k =>
      obtain ⟨⟨reply, rfl⟩, hk⟩ := hp
      refine .call fun told s' hx => ?_
      obtain rfl := told_shared hx
      exact .stay (.idle (hlog.snoc_os rfl) (.closed (k told) (hk told) _ htask))

lemma serving_followed {hello : Hello} {id : ℕ} {p : OsProg (Except String Unit)}
    (helsewhere : ∀ device, device ≠ hello.device → ChildHeld (logOf device log) = false)
    (hp : p.Ensures plainly (logOf hello.device log) fun _ log' => ChildHeld log' = false)
    (htask : T t = some ⟨hello, .serving id⟩) :
    Followed ctx t s T A R log
      (onOs (some (hello.device, id)) (released p) >>= leave hello id) := by
  cases p with
  | pure r =>
      refine .call fun _ s' hx => ?_
      obtain rfl : s' = s.setBusy hello.device none := hx
      have hlog : Childless log := by
        intro device
        by_cases hdevice : device = hello.device
        · rw [hdevice]
          exact hp
        · exact helsewhere device hdevice
      refine .goOn (.ok _) _ (.served none htask) (.idle (hlog.snoc_os rfl) ?_)
      rw [goOn_task]
      exact .leaving hello id _ (pure r) trivial
  | call c k =>
      obtain ⟨hplain, hk⟩ := Prog.ensures_logged_call.mp hp
      refine .call fun x s' hx => ?_
      obtain rfl := osAnswers_plain hplain hx
      refine .stay ?_
      rw [htask]
      refine .serving (p := k x) (fun device hdevice => ?_) ?_
      · rw [logOf_append, logOf_os_ne hdevice, List.append_nil]
        exact helsewhere device hdevice
      · rw [logOf_append, logOf_os]
        exact hk x

/-- A call of a handler is at most one step of its task. -/
lemma Stands.followed {rest : HandleProg (Except String Unit)}
    (h : Stands ctx s.cancelled (some ⟨rest, log⟩) (T t)) : Followed ctx t s T A R log rest := by
  generalize hhandler : some (Handler.mk rest log) = handler at h
  generalize htask : T t = task at h
  cases h with
  | absent => cases hhandler
  | idle hlog hstage =>
      cases hhandler
      cases hstage with
      | opened => exact opened_followed hlog htask
      | greeted hello => exact greeted_followed hlog htask hello
      | keyed hello psk => exact keyed_followed hlog htask hello psk
      | verified hello now => exact verified_followed hlog htask
      | accepted hello => exact accepted_followed hlog htask
      | located hello device => exact located_followed hlog htask
      | authorized hello device => exact authorized_followed hlog htask
      | waiting hello device id => exact waiting_followed hlog htask
      | locked hello device id => exact locked_followed hlog htask
      | superseded hello id p hp hcancel => exact superseded_followed hlog htask hp hcancel
      | leaving hello id reply p hp => exact leaving_followed hlog htask hp
      | closed p hp _ hclosed => exact closed_followed hlog hp (htask ▸ hclosed)
  | serving helsewhere hp =>
      cases hhandler
      exact serving_followed helsewhere hp htask

end Steps

end Handle

/-! ## The process as an exporter -/

namespace ExporterProcess

variable {ctx : HandleContext} {p p' : ExporterProcess} {s s' : Exporter} {t id : ℕ}

/-- The exporter whose tasks are the handlers of the process. -/
def Refines (ctx : HandleContext) (p : ExporterProcess) (a : Exporter) : Prop :=
  ∃ tasks admitted registered, a = p.shared.behind tasks admitted registered ∧
    ∀ t, Handle.Stands ctx p.shared.cancelled (p.handlers t) (tasks t)

lemma answers_cancelled {c : HandleCall} {x : c.Answer} (hx : Handle.Answers t s c x s')
    (h : s.cancelled id = true) : s'.cancelled id = true := by
  cases c with
  | readHello _ | fs _ =>
      obtain rfl : s' = s := hx
      exact h
  | now | localDevice _ | getDevice _ =>
      obtain rfl := hx.2
      exact h
  | checkNonce nonce timestamp now =>
      obtain ⟨_, -, rfl⟩ := hx
      exact h
  | beginSession hello device =>
      obtain ⟨-, rfl⟩ := hx
      show (s.beginSession t hello device).cancelled id = true
      exact Exporter.beginSession_cancelled.mpr (Or.inl h)
  | os session call =>
      rcases session with _ | ⟨device, id'⟩
      · obtain rfl := hx.2
        exact h
      cases call with
      | lock _ =>
          cases x with
          | true =>
              obtain rfl := hx.2
              exact h
          | false =>
              obtain rfl : s' = s := hx
              exact h
      | unlock =>
          obtain rfl : s' = s.setBusy device none := hx
          exact h
      | _ =>
          obtain rfl := hx.2
          exact h
  | endSession device id' =>
      obtain rfl : s' = s.endSession device id' := hx
      unfold Exporter.endSession
      split_ifs <;> exact h

/-- What happens around the handlers happens around the tasks. -/
lemma around_behind {l : Exporter.Label} (hl : isAround l = true)
    (h : Exporter.Step ctx.toExporterContext s l s') (tasks : ℕ → Option Task)
    (admitted : List (Hello × Timestamp)) (registered : String → Option ℕ) :
    Exporter.Step ctx.toExporterContext (s.behind tasks admitted registered) l
      (s'.behind tasks admitted registered) := by
  cases h with
  | tick hclock => exact Exporter.Step.tick (s := s.behind tasks admitted registered) hclock
  | plugged devices => exact Exporter.Step.plugged (s := s.behind tasks admitted registered) devices
  | observe hchanged hidle =>
      exact Exporter.Step.observe (s := s.behind tasks admitted registered) hchanged hidle
  | watch hwatching hcancelled =>
      exact Exporter.Step.watch (s := s.behind tasks admitted registered) hwatching hcancelled
  | leased objects => exact Exporter.Step.leased (s := s.behind tasks admitted registered) objects
  | _ => cases hl

lemma around_cancelled {l : Exporter.Label} (hl : isAround l = true)
    (h : Exporter.Step ctx.toExporterContext s l s') (hid : s.cancelled id = true) :
    s'.cancelled id = true := by
  cases h with
  | tick _ | plugged _ | observe _ _ | leased _ => exact hid
  | watch _ hcancelled => exact (hcancelled id).mpr (Or.inl hid)
  | _ => cases hl

/-- One handler and its task move. -/
lemma stands_update {handlers : ℕ → Option Handler} {tasks : ℕ → Option Task}
    {cancelled : ℕ → Bool} {h : Handler}
    (hself : Handle.Stands ctx cancelled (some h) (tasks t))
    (hothers : ∀ t', t' ≠ t → Handle.Stands ctx cancelled (handlers t') (tasks t')) (t' : ℕ) :
    Handle.Stands ctx cancelled (Function.update handlers t (some h) t') (tasks t') := by
  by_cases heq : t' = t
  · subst heq
    rw [Function.update_self]
    exact hself
  · rw [Function.update_of_ne heq]
    exact hothers t' heq

lemma task_of_absent {cancelled : ℕ → Bool} {task : Option Task}
    (h : Handle.Stands ctx cancelled none task) : task = none := by
  cases h
  rfl

lemma refines_step {l : Label} {a : Exporter} (h : Refines ctx p a) (hstep : Step ctx p l p') :
    ∃ a', (a' = a ∨ ∃ k, Exporter.Step ctx.toExporterContext a k a') ∧ Refines ctx p' a' := by
  obtain ⟨T, A, R, rfl, hstands⟩ := h
  cases hstep with
  | @accept t ht =>
      refine ⟨_, Or.inl rfl, T, A, R, rfl, stands_update ?_ fun t' _ => hstands t'⟩
      have habsent := hstands t
      rw [ht] at habsent
      rw [task_of_absent habsent]
      exact .idle (fun _ => rfl) .opened
  | @call t c k log x s' ht hx =>
      have hhere := hstands t
      rw [ht] at hhere
      obtain ⟨T', A', R', hmove, hstands', hothers⟩ := hhere.followed c k x s' rfl hx
      refine ⟨_, hmove, T', A', R', rfl, stands_update hstands' fun t' hne => ?_⟩
      rw [hothers t' hne]
      exact (hstands t').mono fun _ => answers_cancelled hx
  | around hl hmove =>
      exact ⟨_, Or.inr ⟨_, around_behind hl hmove T A R⟩, T, A, R, rfl, fun t =>
        (hstands t).mono fun _ => around_cancelled hl hmove⟩

/-- The handlers refine the exporter. -/
lemma handlers_refine (hp : (exporterProcess ctx).Reachable p) :
    ∃ a, (exporter ctx.toExporterContext).Reachable a ∧ Refines ctx p a := by
  have hinit : ∀ p : ExporterProcess, p.Init → ∃ a : Exporter, a.Init ∧ Refines ctx p a := by
    intro p hinit
    refine ⟨p.shared, hinit.shared, p.shared.tasks, _, _, rfl, fun t => ?_⟩
    rw [hinit.handlers t, hinit.shared.tasks t]
    exact .absent
  exact hp.simulated (T := exporter ctx.toExporterContext) (R := Refines ctx) hinit
    fun _ _ _ _ h hstep => refines_step h hstep

/-- A handler that has the handle of a child is a task that serves. -/
lemma serving_of_child {tasks : ℕ → Option Task} {cancelled : ℕ → Bool} {h : Handler}
    {device : String} (hstands : Handle.Stands ctx cancelled (some h) (tasks t))
    (hchild : Handle.ChildHeld (Handle.logOf device h.log) = true) :
    ∃ hello id, tasks t = some ⟨hello, .serving id⟩ ∧ hello.device = device ∧
      ∀ r, h.rest ≠ .pure r := by
  generalize htask : tasks t = task at hstands
  cases hstands with
  | idle hlog _ =>
      rw [hlog device] at hchild
      cases hchild
  | @serving hello id p log helsewhere hp =>
      refine ⟨hello, id, rfl, ?_, ?_⟩
      · by_contra hne
        rw [helsewhere device (Ne.symm hne)] at hchild
        cases hchild
      · cases p <;> exact fun r => nofun

/-- A handler that has the handle of a child holds the lock of the device, and has not returned. -/
lemma lock_of_held (hp : (exporterProcess ctx).Reachable p) {h : Handler} {device : String}
    (ht : p.handlers t = some h) (hchild : Handle.ChildHeld (Handle.logOf device h.log) = true) :
    (p.shared.sessions device).busy = some t ∧ ∀ r, h.rest ≠ .pure r := by
  obtain ⟨_, ha, T, A, R, rfl, hstands⟩ := handlers_refine hp
  have hinv : (p.shared.behind T A R).SessionInv :=
    ha.invariant (fun _ => Exporter.SessionInv.init) fun _ _ _ h hstep => h.step hstep
  obtain ⟨hello, id, htask, rfl, hrest⟩ := serving_of_child (ht ▸ hstands t) hchild
  exact ⟨hinv.busy t _ htask rfl, hrest⟩

/-! ## Every handler keeps to the protocol -/

/-- What was done was allowed, and so is what is left to do. -/
structure Complies (ctx : HandleContext) (h : Handler) : Prop where
  done : ∀ before e, before ++ [e] <+: h.log → Handle.Allowed ctx before e.1
  left : h.rest.Ensures (.logged (Handle.Allowed ctx)) h.log fun _ log' => Handle.Settled log'

lemma complies_step {l : Label} (hp : ∀ t h, p.handlers t = some h → Complies ctx h)
    (hstep : Step ctx p l p') : ∀ t h, p'.handlers t = some h → Complies ctx h := by
  have hupdate : ∀ {t : ℕ} {h : Handler}, Complies ctx h →
      ∀ t' h', Function.update p.handlers t (some h) t' = some h' → Complies ctx h' := by
    intro t h hself t' h' ht'
    by_cases heq : t' = t
    · rw [heq, Function.update_self] at ht'
      exact Option.some.inj ht' ▸ hself
    · rw [Function.update_of_ne heq] at ht'
      exact hp t' h' ht'
  cases hstep with
  | accept ht => exact hupdate ⟨fun before e h => by simp at h, Handle.handle_ensures⟩
  | @call t c k log x s' ht hx =>
      obtain ⟨hmay, hrest⟩ := Prog.ensures_logged_call.mp (hp t _ ht).left
      refine hupdate ⟨fun before e h => ?_, hrest x⟩
      rcases List.prefix_concat_iff.mp h with heq | hprefix
      · obtain ⟨rfl, hlast⟩ := List.append_inj' heq rfl
        obtain rfl := List.singleton_inj.mp hlast
        exact hmay
      · exact (hp t _ ht).done before e hprefix
  | around => exact hp

lemma complies_of_reachable (hp : (exporterProcess ctx).Reachable p) {h : Handler}
    (ht : p.handlers t = some h) : Complies ctx h := by
  refine hp.invariant (I := fun p => ∀ t h, p.handlers t = some h → Complies ctx h) ?_
    (fun _ _ _ => complies_step) t h ht
  intro p hinit t h ht
  rw [hinit.handlers t] at ht
  cases ht

end ExporterProcess

namespace Handle

/-- Whether `usbredirect`, once started, may be alive after an event: it has not been seen to exit.
That it was sent SIGKILL does not mean that it has. -/
def childAlive (alive : Bool) : OsEvent → Bool
  | ⟨.spawn _ _, .ok _⟩ => true
  | e => alive && !OsEvent.showsExit e

def ChildLives (log : List OsEvent) : Bool := log.foldl childAlive false

/-- The handle of the child was dropped: it was sent SIGKILL, and is not waited for. -/
def ChildDropped (log : List OsEvent) : Prop := ⟨.killOnDrop, ()⟩ ∈ log

/-- A child that is alive and whose handle was not dropped is held. -/
lemma childHeld_of_lives {log : List OsEvent} (hlives : ChildLives log = true)
    (hdropped : ¬ ChildDropped log) : ChildHeld log = true := by
  rw [← hlives]
  refine List.foldl_ext _ _ _ fun alive e he => ?_
  obtain ⟨call, answer⟩ := e
  cases call with
  | killOnDrop => exact absurd he hdropped
  | spawn program args => cases answer <;> rfl
  | _ => rfl

end Handle

open ExporterProcess in
/-- **One child for every device.**  Whatever connections are accepted and however their handlers,
their timeouts and the answers they get interleave: the handler whose `usbredirect` is alive holds
the lock of the device; so there are never two for one device; and a handler that has returned has
left none behind.  All this but for a child whose handle was dropped, which has been sent SIGKILL:
that happens only after accepting its connection, waiting for it, telling the peer or stopping it
failed. -/
theorem one_child_per_device (ctx : HandleContext) {p : ExporterProcess}
    (hp : (exporterProcess ctx).Reachable p) :
    (∀ t h device, p.handlers t = some h → Handle.ChildLives (Handle.logOf device h.log) = true →
      (p.shared.sessions device).busy = some t ∨
        Handle.ChildDropped (Handle.logOf device h.log)) ∧
    (∀ t t' h h' device, p.handlers t = some h → p.handlers t' = some h' →
      Handle.ChildLives (Handle.logOf device h.log) = true →
      Handle.ChildLives (Handle.logOf device h'.log) = true → t = t' ∨
        Handle.ChildDropped (Handle.logOf device h.log) ∨
        Handle.ChildDropped (Handle.logOf device h'.log)) ∧
    (∀ t r log device, p.handlers t = some ⟨.pure r, log⟩ →
      Handle.ChildLives (Handle.logOf device log) = true →
      Handle.ChildDropped (Handle.logOf device log)) ∧
    ∀ t h before after session, p.handlers t = some h →
      h.log = before ++ ⟨.os session .killOnDrop, ()⟩ :: after →
      Handle.Forsaken (Handle.osLog before) := by
  have hheld : ∀ t h device, p.handlers t = some h →
      Handle.ChildLives (Handle.logOf device h.log) = true →
      ((p.shared.sessions device).busy = some t ∧ ∀ r, h.rest ≠ .pure r) ∨
        Handle.ChildDropped (Handle.logOf device h.log) := by
    intro t h device ht hlives
    by_cases hdropped : Handle.ChildDropped (Handle.logOf device h.log)
    · exact Or.inr hdropped
    · exact Or.inl (lock_of_held hp ht (Handle.childHeld_of_lives hlives hdropped))
  refine ⟨fun t h device ht hlives => (hheld t h device ht hlives).imp_left And.left,
    fun t t' h h' device ht ht' hlives hlives' => ?_, fun t r log device ht hlives => ?_,
    fun t h before after session ht hlog => ?_⟩
  · rcases hheld t h device ht hlives with ⟨hbusy, -⟩ | hdropped
    · rcases hheld t' h' device ht' hlives' with ⟨hbusy', -⟩ | hdropped
      · rw [hbusy'] at hbusy
        exact Or.inl (Option.some.inj hbusy).symm
      · exact Or.inr (Or.inr hdropped)
    · exact Or.inr (Or.inl hdropped)
  · exact (hheld t _ device ht hlives).resolve_left fun hlock => hlock.2 r rfl
  · have hallowed : Handle.Allowed ctx before (.os session .killOnDrop) :=
      (complies_of_reachable hp ht).done before ⟨.os session .killOnDrop, ()⟩
        (by rw [hlog]; exact ⟨after, by simp⟩)
    rcases session with _ | ⟨name, id⟩
    · obtain ⟨⟨reason, heq⟩, -⟩ := hallowed
      cases heq
    · obtain ⟨_, _, -, -, -, hforsaken⟩ := hallowed
      exact hforsaken

/-! The camera of `Agent/HandleProtocol.lean` is asked for twice: the first peer is gone before it
is told that its session starts. -/

namespace ExporterProcess

/-- Handler `t` makes these calls, undisturbed. -/
def Goes (t : ℕ) : Exporter → HandleProg (Except String Unit) → List HandleEvent →
    Exporter → HandleProg (Except String Unit) → Prop
  | s, rest, [], s', rest' => s' = s ∧ rest' = rest
  | s, rest, ⟨c, x⟩ :: tr, s', rest' => ∃ k s₁, rest = .call c k ∧ Handle.Answers t s c x s₁ ∧
    Goes t s₁ (k x) tr s' rest'

lemma goes_reachable {ctx : HandleContext} {t : ℕ} {s' : Exporter}
    {rest' : HandleProg (Except String Unit)} :
    ∀ {tr log : List HandleEvent} {p : ExporterProcess} {rest : HandleProg (Except String Unit)},
      (exporterProcess ctx).Reachable p → p.handlers t = some ⟨rest, log⟩ →
      Goes t p.shared rest tr s' rest' →
      ∃ p', (exporterProcess ctx).Reachable p' ∧ p'.shared = s' ∧
        p'.handlers t = some ⟨rest', log ++ tr⟩ ∧ ∀ t', t' ≠ t → p'.handlers t' = p.handlers t'
  | [], log, p, rest, hp, ht, ⟨hs, hrest⟩ =>
      ⟨p, hp, hs.symm, by rw [ht, hrest, List.append_nil], fun _ _ => rfl⟩
  | ⟨c, x⟩ :: tr, log, p, rest, hp, ht, ⟨k, s₁, hrest, hx, hgoes⟩ => by
      subst hrest
      have hnext : Function.update p.handlers t (some ⟨k x, log ++ [⟨c, x⟩]⟩) t =
          some ⟨k x, log ++ [⟨c, x⟩]⟩ := Function.update_self _ _ _
      obtain ⟨p', hp', hs', hlast, hothers⟩ :=
        goes_reachable (hp.step (Step.call ht hx)) hnext hgoes
      refine ⟨p', hp', hs', by rw [hlast, List.append_assoc]; rfl, fun t' hne => ?_⟩
      exact (hothers t' hne).trans (Function.update_of_ne hne _ _)

def keyedHandler : Handler := ⟨Handle.handle Handle.keyedContext, []⟩

def keyedProcess : ExporterProcess :=
  ⟨camLeased, Function.update (Function.update (fun _ => none) 0 (some keyedHandler)) 1
    (some keyedHandler)⟩

lemma keyedProcess_reachable : (exporterProcess Handle.keyedContext).Reachable keyedProcess := by
  have hstart : (exporterProcess Handle.keyedContext).Reachable ⟨startedExporter, fun _ => none⟩ :=
    .init ⟨startedExporter_init, fun _ => rfl⟩
  have hplugged := hstart.step (Step.around rfl (.plugged fun _ => some camInfo))
  have hleased := hplugged.step (Step.around rfl (.leased fun _ => some camBody))
  exact (hleased.step (.accept (t := 0) rfl)).step (.accept (t := 1) rfl)

section Keyed

open Handle

/-- A hello is found to be authentic. -/
lemma keyed_verified {t : ℕ} {s : Exporter} {hello : Hello} (hclock : s.clock = startTime)
    (hauth : authenticate keyedContext.toExporterContext hello
      (.ok (Text.bytes "0123456789abcdef")) startTime = .ok ()) :
    Goes t s (handle keyedContext)
      [⟨.readHello Handle.handshakeTimeout, some (.ok hello)⟩,
        ⟨.fs (.read "/etc/atomic-usb/psk"), .ok (Text.bytes "0123456789abcdef\n")⟩,
        ⟨.now, startTime⟩] s
      (authorizeNonce keyedContext hello startTime >>= serveAuthorized keyedContext hello) := by
  have hkeyed : Goes t s (authorizeRead keyedContext hello (pskOf
      "/etc/atomic-usb/psk" (Text.bytes "0123456789abcdef\n")) >>=
        serveAuthorized keyedContext hello) [⟨.now, startTime⟩] s
      (authorizeNonce keyedContext hello startTime >>= serveAuthorized keyedContext hello) := by
    rw [keyed_psk]
    refine ⟨_, _, rfl, ⟨hclock.symm, rfl⟩, rfl, ?_⟩
    show _ = authorizeVerified keyedContext hello startTime (authenticate
      keyedContext.toExporterContext hello (.ok (Text.bytes "0123456789abcdef")) startTime) >>=
      serveAuthorized keyedContext hello
    rw [hauth]
    rfl
  exact ⟨_, _, rfl, rfl, _, _, rfl, rfl, hkeyed⟩

/-- From there it is served, until `usbredirect` has been started. -/
def startEvents (hello : Hello) (id : ℕ) : List HandleEvent :=
  [⟨.checkNonce hello.nonce hello.timestamp startTime.asSecond, .ok ()⟩,
    ⟨.localDevice "usb-cam", some camInfo⟩, ⟨.getDevice "usb-cam", .ok (some camBody)⟩,
    ⟨.beginSession hello camInfo, id⟩,
    ⟨.os (some ("usb-cam", id)) (.lock previousSessionStopTimeout), true⟩,
    ⟨.os (some ("usb-cam", id)) .isCancelled, false⟩, ⟨.os (some ("usb-cam", id)) .bind, .ok ()⟩,
    ⟨.os (some ("usb-cam", id)) .localAddr, .ok "127.0.0.1:40217"⟩,
    ⟨.os (some ("usb-cam", id))
      (.spawn "usbredirect" ["--device", "3-7", "--to", "127.0.0.1:40217"]), .ok ()⟩]

/-- The peer is gone: `usbredirect` is sent SIGKILL, and the handler returns. -/
def goneEvents (id : ℕ) : List HandleEvent :=
  [⟨.os (some ("usb-cam", id)) (.awaitConnection usbredirectConnectTimeout), .accepted (.ok ())⟩,
    ⟨.os (some ("usb-cam", id)) (.writeLine ⟨true, none⟩), .error "Broken pipe (os error 32)"⟩,
    ⟨.os (some ("usb-cam", id)) .killOnDrop, ()⟩, ⟨.os (some ("usb-cam", id)) .unlock, ()⟩,
    ⟨.endSession "usb-cam" id, ()⟩]

/-- The first handler serves until its peer is gone; then the second one starts a child. -/
lemma keyed_started : ∃ s₁ r s₂ rest, s₁.clock = startTime ∧
    Goes 0 camLeased
      (authorizeNonce keyedContext keyedHello startTime >>=
        serveAuthorized keyedContext keyedHello)
      (startEvents keyedHello 1 ++ goneEvents 1) s₁ (pure r) ∧
    Goes 1 s₁
      (authorizeNonce keyedContext secondHello startTime >>=
        serveAuthorized keyedContext secondHello)
      (startEvents secondHello 2) s₂ rest := by
  refine ⟨_, _, _, _, ?_, ⟨_, _, rfl, ⟨_, rfl, rfl⟩, _, _, rfl, ⟨rfl, rfl⟩,
    _, _, rfl, ⟨Or.inl rfl, rfl⟩, _, _, rfl, ⟨rfl, rfl⟩, _, _, rfl, ⟨rfl, rfl⟩,
    _, _, rfl, ⟨rfl, rfl⟩, _, _, rfl, ⟨nofun, rfl⟩, _, _, rfl, ⟨nofun, rfl⟩,
    _, _, rfl, ⟨nofun, rfl⟩, _, _, rfl, ⟨nofun, rfl⟩, _, _, rfl, ⟨nofun, rfl⟩,
    _, _, rfl, ⟨nofun, rfl⟩, _, _, rfl, rfl, _, _, rfl, rfl, rfl, rfl⟩,
    ⟨_, _, rfl, ⟨_, rfl, rfl⟩, _, _, rfl, ⟨rfl, rfl⟩,
    _, _, rfl, ⟨Or.inl rfl, rfl⟩, _, _, rfl, ⟨rfl, rfl⟩, _, _, rfl, ⟨rfl, rfl⟩,
    _, _, rfl, ⟨rfl, rfl⟩, _, _, rfl, ⟨nofun, rfl⟩, _, _, rfl, ⟨nofun, rfl⟩,
    _, _, rfl, ⟨nofun, rfl⟩, rfl, rfl⟩⟩
  rfl

/-- Both handlers in the process, with what happened to the camera. -/
lemma keyed_reachable : ∃ p h h', (exporterProcess keyedContext).Reachable p ∧
    p.handlers 0 = some h ∧ p.handlers 1 = some h' ∧
    logOf "usb-cam" h.log = logOf "usb-cam" (startEvents keyedHello 1 ++ goneEvents 1) ∧
    logOf "usb-cam" h'.log = logOf "usb-cam" (startEvents secondHello 2) := by
  obtain ⟨s₁, r, s₂, rest, hclock, hfirst, hsecond⟩ := keyed_started
  obtain ⟨p, hp, hshared, hverified, hothers⟩ :=
    goes_reachable (t := 0) keyedProcess_reachable rfl (keyed_verified rfl keyed_authentic)
  obtain ⟨p', hp', hshared', hdone, hothers'⟩ :=
    goes_reachable hp hverified (by rw [hshared]; exact hfirst)
  have hwaits : p'.handlers 1 = some keyedHandler :=
    (hothers' 1 Nat.one_ne_zero).trans (hothers 1 Nat.one_ne_zero)
  obtain ⟨q, hq, hqshared, hqverified, hqothers⟩ := goes_reachable hp' hwaits
    (keyed_verified (hshared'.symm ▸ hclock) second_authentic)
  obtain ⟨q', hq', -, hstarted, hqothers'⟩ :=
    goes_reachable hq hqverified (hqshared ▸ hshared'.symm ▸ hsecond)
  have hkept : q'.handlers 0 = p'.handlers 0 :=
    (hqothers' 0 Nat.zero_ne_one).trans (hqothers 0 Nat.zero_ne_one)
  exact ⟨q', _, _, hq', hkept.trans hdone, hstarted, logOf_append _ _ _, logOf_append _ _ _⟩

end Keyed

end ExporterProcess

/-- The second handler has the lock, although the child of the first may still be there: it was sent
SIGKILL, because the reply could not be written. -/
theorem one_child_per_device_dropped : ∃ p h h',
    (exporterProcess Handle.keyedContext).Reachable p ∧
    p.handlers 0 = some h ∧ p.handlers 1 = some h' ∧
    Handle.ChildLives (Handle.logOf "usb-cam" h.log) = true ∧
    Handle.ChildLives (Handle.logOf "usb-cam" h'.log) = true ∧
    (p.shared.sessions "usb-cam").busy = some 1 ∧
    Handle.ChildDropped (Handle.logOf "usb-cam" h.log) := by
  obtain ⟨p, h, h', hp, hfirst, hsecond, hlog, hlog'⟩ := ExporterProcess.keyed_reachable
  have hlives : Handle.ChildLives (Handle.logOf "usb-cam" h.log) = true := by
    rw [hlog]
    rfl
  have hlives' : Handle.ChildLives (Handle.logOf "usb-cam" h'.log) = true := by
    rw [hlog']
    rfl
  have hkept : ¬ Handle.ChildDropped (Handle.logOf "usb-cam" h'.log) := by
    have hcalls : ∀ e ∈ Handle.logOf "usb-cam"
        (ExporterProcess.startEvents Handle.secondHello 2), e.1 ≠ .killOnDrop := by
      simp [Handle.logOf, ExporterProcess.startEvents]
    rw [hlog']
    exact fun hdropped => hcalls _ hdropped rfl
  obtain ⟨hlock, htwo, -⟩ := one_child_per_device Handle.keyedContext hp
  refine ⟨p, h, h', hp, hfirst, hsecond, hlives, hlives',
    (hlock 1 h' "usb-cam" hsecond hlives').resolve_right hkept, ?_⟩
  exact ((htwo 0 1 h h' "usb-cam" hfirst hsecond hlives hlives').resolve_left nofun).resolve_right
    hkept

end AtomicUsb
