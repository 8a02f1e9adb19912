import AtomicUsb.Agent.Attempt

/-!
# The protocol of an attempt

An attempt goes through stages, and its history shows which of them it has reached: it found what to
connect to (`Ready`), it reached the exporter with the key at hand (`Dialled`), it sent its hello
(`Asked`), the exporter accepted (`Accepted`), the VM's socket took the connection (`Plugged`), QEMU
spoke (`Greeted`) and was heard on the other side (`Forwarded`).  Nothing that happens later undoes
a stage.

`Allowed` says of every call which stage it belongs to.  The three parts of an attempt are judged by
it (`plugIn_ensures`, `readGreeting_ensures`, `attach_ensures`); for `attempt` as a whole and for
the sessions that run it see the module on session tasks.
-/

namespace AtomicUsb

/-! ## Rules -/

section Rules

variable {α β : Type} {may : List SessionEvent → SessionCall → Prop} {log : List SessionEvent}
  {Q : Except AttemptError β → List SessionEvent → Prop}

lemma ensures_ask {call : SessionCall} {q : call.Answer → Attempt β} :
    (ask call >>= q).run.Ensures (.logged may) log Q ↔
      may log call ∧ ∀ x, (q x).run.Ensures (.logged may) (log ++ [⟨call, x⟩]) Q := by
  rw [Prog.ensures_except_bind, ask, Prog.ensures_lift, request, Prog.ensures_logged_perform]
  simp

lemma ensures_require {b : Bool} {e : AttemptError} {q : Unit → Attempt β}
    (hok : b = true → (q ()).run.Ensures (.logged may) log Q) (herr : Q (.error e) log) :
    (require b e >>= q).run.Ensures (.logged may) log Q := by
  cases b with
  | true => exact hok rfl
  | false => exact herr

lemma ensures_okOr {o : Option α} {e : AttemptError} {q : α → Attempt β}
    (hok : ∀ a, o = some a → (q a).run.Ensures (.logged may) log Q)
    (herr : o = none → Q (.error e) log) :
    (okOr o e >>= q).run.Ensures (.logged may) log Q := by
  cases o with
  | some a => exact hok a rfl
  | none => exact herr rfl

lemma ensures_mapErr {r : Except String α} {f : String → AttemptError} {q : α → Attempt β}
    (hok : ∀ a, r = .ok a → (q a).run.Ensures (.logged may) log Q)
    (herr : ∀ e, r = .error e → Q (.error (f e)) log) :
    (mapErr r f >>= q).run.Ensures (.logged may) log Q := by
  cases r with
  | ok a => exact hok a rfl
  | error e => exact herr e rfl

lemma ensures_inTime {r : Option (Except String α)} {late : AttemptError}
    {f : String → AttemptError} {q : α → Attempt β}
    (hok : ∀ a, r = some (.ok a) → (q a).run.Ensures (.logged may) log Q)
    (hlate : Q (.error late) log) (herr : ∀ e, Q (.error (f e)) log) :
    (inTime r late f >>= q).run.Ensures (.logged may) log Q := by
  cases r with
  | some r => exact ensures_mapErr (fun a ha => hok a (congrArg some ha)) fun e _ => herr e
  | none => exact hlate

/-- What was looked at in the file system, as events of a session. -/
lemma ensures_onFs {p : FsProg α} {mayFs : List FsEvent → FsCall → Prop} {q : α → Attempt β}
    {P : α → List FsEvent → Prop} (h : p.Ensures (.logged mayFs) [] P)
    (hmay : ∀ tr looks call, List.Forall₂ (Prog.Renamed SessionCall.fs fun _ x => x) tr looks →
      mayFs looks call → may (log ++ tr) (.fs call))
    (hok : ∀ a tr looks, List.Forall₂ (Prog.Renamed SessionCall.fs fun _ x => x) tr looks →
      P a looks → (q a).run.Ensures (.logged may) (log ++ tr) Q) :
    (onFs p >>= q).run.Ensures (.logged may) log Q := by
  rw [Prog.ensures_except_bind, onFs, Prog.ensures_lift]
  refine (h.embed hmay).mono ?_
  rintro a _ ⟨tr, looks, rfl, hren, hP⟩
  exact ⟨fun _ heq => Except.ok.inj heq ▸ hok a tr looks hren hP, nofun⟩

lemma mem_of_renamed {tr : List SessionEvent} {looks : List FsEvent}
    (h : List.Forall₂ (Prog.Renamed SessionCall.fs fun _ x => x) tr looks) {e : FsEvent}
    (he : e ∈ looks) : (⟨.fs e.1, e.2⟩ : SessionEvent) ∈ tr := by
  induction h with
  | nil => exact absurd he List.not_mem_nil
  | cons hhead _ ih =>
      obtain ⟨x, rfl, rfl⟩ := hhead
      rcases List.mem_cons.mp he with rfl | he
      · exact List.mem_cons_self
      · exact List.mem_cons_of_mem _ (ih he)

end Rules

variable (ctx : SessionContext) (spec : SessionSpec)

/-! ## Reports -/

/-- What a report asks for: nothing but the patch reaches beyond the agent. -/
def IsReport (state : ConnectionState) (message : String) (awaitingResume : Bool) :
    SessionCall → Prop
  | .now | .reporter | .setSince _ => True
  | .connection ns name => ns = spec.claim.ns ∧ name = spec.claim.name
  | .api call => ∃ since, call = reportPatch ctx spec state message since awaitingResume
  | .remember entry => entry = (state, message, awaitingResume)
  | _ => False

variable {state : ConnectionState} {message : String} {awaitingResume : Bool}

lemma reportWith_issues :
    (reportWith ctx spec state message awaitingResume).Issues
      (IsReport ctx spec state message awaitingResume) := by
  refine ⟨trivial, fun r => ?_⟩
  show Prog.Issues _ (ite _ _ _)
  split_ifs
  · trivial
  · refine ⟨⟨rfl, rfl⟩, fun current => ?_⟩
    show Prog.Issues _ (ite _ _ _)
    split_ifs
    · exact ⟨rfl, fun _ => trivial⟩
    · refine Prog.Issues.bind ?_ fun since => ?_
      · rw [reportSince]
        split_ifs
        · exact ⟨trivial, fun _ => trivial⟩
        · trivial
      · refine ⟨trivial, fun _ => ⟨⟨_, rfl⟩, fun answer => ?_⟩⟩
        rcases answer with (_ | _ | _) | _
        · trivial
        · exact ⟨rfl, fun _ => trivial⟩
        · trivial
        · exact ⟨rfl, fun _ => trivial⟩

/-- The rule for a report: it adds nothing but its own calls to the history. -/
lemma ensures_report {may : List SessionEvent → SessionCall → Prop} {log : List SessionEvent}
    {α : Type} {q : Unit → Attempt α} {Q : Except AttemptError α → List SessionEvent → Prop}
    (hmay : ∀ tr, (∀ e ∈ tr, IsReport ctx spec state message awaitingResume e.1) →
      ∀ call, IsReport ctx spec state message awaitingResume call → may (log ++ tr) call)
    (hq : ∀ tr, (∀ e ∈ tr, IsReport ctx spec state message awaitingResume e.1) →
      (q ()).run.Ensures (.logged may) (log ++ tr) Q) :
    (ExceptT.lift (reportWith ctx spec state message awaitingResume) >>= q).run.Ensures
      (.logged may) log Q := by
  rw [Prog.ensures_except_bind, Prog.ensures_lift]
  refine ((reportWith_issues ctx spec).ensures_logged hmay).mono ?_
  rintro _ _ ⟨tr, rfl, htr, -⟩
  exact ⟨fun _ _ => hq tr htr, nofun⟩

/-! ## Stages -/

/-- The attempt found what to connect to: the lease is the claim's, the device is available, the VM
is the one the session is for, and its socket is there. -/
structure Ready (log : List SessionEvent) (now : Timestamp) (target : Target) : Prop where
  clock : ∃ rest, log = ⟨.now, now⟩ :: rest
  device : ∃ device : UsbDevice, ⟨.device spec.device, some device⟩ ∈ log ∧
    device.leaseHolder = some spec.claim.uid ∧
    device.isAvailable ctx.rt now.asSecond.toInt ctx.config.lostAfterSecs = true ∧
    device.statusRef.exporter = some target.exporter
  vmi : ∃ vmi : VmiInfo, ⟨.vmi spec.claim.ns spec.vmName, some vmi⟩ ∈ log ∧ vmi.uid = spec.vmiUid
  socket : ⟨.fs (.isSocket target.socket), true⟩ ∈ log

/-- The exporter answers on its address and the key has been read. -/
structure Dialled (log : List SessionEvent) (now : Timestamp) (target : Target)
    (psk : List UInt8) : Prop extends Ready ctx spec log now target where
  key : ∃ raw, ⟨.fs (.read ctx.pskFile), .ok raw⟩ ∈ log ∧ pskOf ctx.pskFile raw = .ok psk
  connected : ⟨.connectTcp target.exporter.socketAddr connectTimeout, some (.ok ())⟩ ∈ log

/-- The hello of an attempt. -/
def helloOf (now : Timestamp) (psk random : List UInt8) : Hello :=
  Hello.new ctx.hmac psk spec.device spec.claim now.asSecond random

/-- The exporter has been sent the attempt's hello. -/
def Asked (log : List SessionEvent) (target : Target) : Prop :=
  ∃ now psk random, Dialled ctx spec log now target psk ∧ ⟨.random, random⟩ ∈ log ∧
    ⟨.sendHello (helloOf ctx spec now psk random), .ok ()⟩ ∈ log

def Accepted (log : List SessionEvent) (target : Target) : Prop :=
  Asked ctx spec log target ∧
    ∃ reply : Reply, ⟨.readReply handshakeTimeout, some (.ok reply)⟩ ∈ log ∧ reply.ok = true

def Plugged (log : List SessionEvent) (target : Target) : Prop :=
  Accepted ctx spec log target ∧ ⟨.connectVm target.socket, .ok ()⟩ ∈ log

/-- The call reaches out to an exporter. -/
def SessionCall.dials : SessionCall → Bool
  | .connectTcp _ _ => true
  | _ => false

/-- No exporter has been bothered. -/
def Undialled (log : List SessionEvent) : Prop := ∀ e ∈ log, e.1.dials = false

/-- The call reads from the VM. -/
def SessionCall.listens : SessionCall → Bool
  | .readVm _ => true
  | _ => false

/-- QEMU has said nothing. -/
def Silent (log : List SessionEvent) : Prop :=
  ∀ millis bytes, (⟨.readVm millis, some (.ok bytes)⟩ : SessionEvent) ∉ log

/-- The greeting is the first thing QEMU said. -/
def Greeted (log : List SessionEvent) (target : Target) (greeting : List UInt8) : Prop :=
  Plugged ctx spec log target ∧ greeting ≠ [] ∧ ∃ before after,
    log = before ++ ⟨.readVm qemuGreetingTimeout, some (.ok greeting)⟩ :: after ∧ Silent before

def Forwarded (log : List SessionEvent) (target : Target) : Prop :=
  ∃ greeting, Greeted ctx spec log target greeting ∧ ⟨.forward greeting, .ok ()⟩ ∈ log

/-- The VM's latest object, looked at since anything but a report was made, shows it paused. -/
def SeenPaused (log : List SessionEvent) : Prop :=
  ∃ (before after : List SessionEvent) (vmi : VmiInfo),
    log = before ++ ⟨.vmi spec.claim.ns spec.vmName, some vmi⟩ :: after ∧ vmi.paused = true ∧
    ∀ e ∈ after, ∃ message, IsReport ctx spec .connecting message true e.1

section Mono

variable {ctx spec} {log log' : List SessionEvent} {now : Timestamp} {target : Target}
  {psk greeting : List UInt8}

lemma Ready.mono (h : Ready ctx spec log now target) (hgrows : log <+: log') :
    Ready ctx spec log' now target := by
  obtain ⟨⟨rest, rfl⟩, ⟨device, hdevice, hfacts⟩, ⟨vmi, hvmi, huid⟩, hsocket⟩ := h
  obtain ⟨tr, rfl⟩ := hgrows
  have hmem : ∀ e ∈ ⟨.now, now⟩ :: rest, e ∈ ⟨.now, now⟩ :: rest ++ tr :=
    fun e he => List.mem_append_left tr he
  exact ⟨⟨rest ++ tr, rfl⟩, ⟨device, hmem _ hdevice, hfacts⟩, ⟨vmi, hmem _ hvmi, huid⟩,
    hmem _ hsocket⟩

lemma Dialled.mono (h : Dialled ctx spec log now target psk) (hgrows : log <+: log') :
    Dialled ctx spec log' now target psk := by
  obtain ⟨raw, hraw, hpsk⟩ := h.key
  exact ⟨h.toReady.mono hgrows, ⟨raw, hgrows.subset hraw, hpsk⟩, hgrows.subset h.connected⟩

lemma Asked.mono (h : Asked ctx spec log target) (hgrows : log <+: log') :
    Asked ctx spec log' target := by
  obtain ⟨now, psk, random, hdialled, hrandom, hsent⟩ := h
  exact ⟨now, psk, random, hdialled.mono hgrows, hgrows.subset hrandom, hgrows.subset hsent⟩

lemma Accepted.mono (h : Accepted ctx spec log target) (hgrows : log <+: log') :
    Accepted ctx spec log' target := by
  obtain ⟨hasked, reply, hreply, hok⟩ := h
  exact ⟨hasked.mono hgrows, reply, hgrows.subset hreply, hok⟩

lemma Plugged.mono (h : Plugged ctx spec log target) (hgrows : log <+: log') :
    Plugged ctx spec log' target :=
  ⟨h.1.mono hgrows, hgrows.subset h.2⟩

lemma Greeted.mono (h : Greeted ctx spec log target greeting) (hgrows : log <+: log') :
    Greeted ctx spec log' target greeting := by
  obtain ⟨hplugged, hne, before, after, heq, hsilent⟩ := h
  refine ⟨hplugged.mono hgrows, hne, ?_⟩
  obtain ⟨tr, rfl⟩ := hgrows
  exact ⟨before, after ++ tr, by rw [heq, List.append_assoc, List.cons_append], hsilent⟩

lemma Forwarded.mono (h : Forwarded ctx spec log target) (hgrows : log <+: log') :
    Forwarded ctx spec log' target := by
  obtain ⟨greeting, hgreeted, hforward⟩ := h
  exact ⟨greeting, hgreeted.mono hgrows, hgrows.subset hforward⟩

lemma Silent.append {tr : List SessionEvent} (h : Silent log) (htr : Silent tr) :
    Silent (log ++ tr) := by
  intro millis bytes hmem
  rcases List.mem_append.mp hmem with hmem | hmem
  · exact h millis bytes hmem
  · exact htr millis bytes hmem

lemma Silent.snoc {e : SessionEvent} (h : Silent log) (he : e.1.listens = false) :
    Silent (log ++ [e]) := by
  refine h.append fun millis bytes hmem => ?_
  rw [← List.mem_singleton.mp hmem] at he
  cases he

lemma silent_timeout {millis : ℕ} : Silent [⟨.readVm millis, none⟩] := by
  intro millis bytes hmem
  cases List.mem_singleton.mp hmem

lemma silent_nil : Silent [] := fun _ _ => List.not_mem_nil

lemma Undialled.append {tr : List SessionEvent} (h : Undialled log) (htr : Undialled tr) :
    Undialled (log ++ tr) :=
  List.forall_mem_append.mpr ⟨h, htr⟩

lemma Undialled.snoc {e : SessionEvent} (h : Undialled log) (he : e.1.dials = false) :
    Undialled (log ++ [e]) :=
  h.append (List.forall_mem_singleton.mpr he)

lemma undialled_of_renamed {tr : List SessionEvent} {looks : List FsEvent}
    (h : List.Forall₂ (Prog.Renamed SessionCall.fs fun _ x => x) tr looks) : Undialled tr := by
  induction h with
  | nil => exact fun _ he => absurd he List.not_mem_nil
  | cons hhead _ ih =>
      obtain ⟨x, rfl, rfl⟩ := hhead
      exact List.forall_mem_cons.mpr ⟨rfl, ih⟩

lemma IsReport.dials {state : ConnectionState} {message : String} {awaitingResume : Bool}
    {call : SessionCall} (h : IsReport ctx spec state message awaitingResume call) :
    call.dials = false := by
  cases call with
  | connectTcp _ _ => cases h
  | _ => rfl

lemma undialled_of_isReport {state : ConnectionState} {message : String} {awaitingResume : Bool}
    {tr : List SessionEvent} (h : ∀ e ∈ tr, IsReport ctx spec state message awaitingResume e.1) :
    Undialled tr :=
  fun e he => (h e he).dials

lemma silent_of_renamed {tr : List SessionEvent} {looks : List FsEvent}
    (h : List.Forall₂ (Prog.Renamed SessionCall.fs fun _ x => x) tr looks) : Silent tr := by
  induction h with
  | nil => exact fun _ _ => List.not_mem_nil
  | cons hhead _ ih =>
      obtain ⟨x, rfl, rfl⟩ := hhead
      intro millis bytes hmem
      rcases List.mem_cons.mp hmem with heq | hmem
      · cases heq
      · exact ih millis bytes hmem

lemma silent_of_isReport {state : ConnectionState} {message : String} {awaitingResume : Bool}
    {tr : List SessionEvent} (h : ∀ e ∈ tr, IsReport ctx spec state message awaitingResume e.1) :
    Silent tr :=
  fun _ _ hmem => h _ hmem

end Mono

/-! ## Texts

The last report of a session reads `detached`.  A session does not repeat a report, so it matters
that it has never made that one before: nothing else that it reports reads like it. -/

def Starts (start text : String) : Prop := start.toList <+: text.toList

lemma starts_self (start : String) : Starts start start := List.prefix_refl _

lemma Starts.more {start text : String} (h : Starts start text) (more : String) :
    Starts start (text ++ more) := by
  rw [Starts, String.toList_append]
  exact h.trans (List.prefix_append _ _)

lemma Starts.ne_detached {start text : String} (h : Starts start text)
    (hstart : ¬ start.toList <+: "detached".toList) : text ≠ "detached" := by
  rintro rfl
  exact hstart h

/-- A result that is as `P` says, or an error that reads otherwise than `detached`.  An attempt only
waits for the cluster to change if it has bothered no exporter. -/
def Outcome {α : Type} (P : α → List SessionEvent → Prop) :
    Except AttemptError α → List SessionEvent → Prop
  | .ok a, log => P a log
  | .error (.waiting message), log => message ≠ "detached" ∧ Undialled log
  | .error (.failed message), _ => message ≠ "detached"

/-! ## What an attempt may do -/

/-- When a state may be reported. -/
def MayReport (log : List SessionEvent) : ConnectionState → Bool → Prop
  | .connecting, false => ∃ now target, Ready ctx spec log now target
  | .connecting, true =>
    ∃ target, Plugged ctx spec log target ∧ Silent log ∧ SeenPaused ctx spec log
  | .connected, false => ∃ target, Forwarded ctx spec log target
  | _, _ => False

/-- When a call may be made. -/
def Allowed (log : List SessionEvent) : SessionCall → Prop
  | .fs (.read path) => path = ctx.pskFile ∧ ∃ now target, Ready ctx spec log now target
  | .connectTcp addr _ =>
    Undialled log ∧ ∃ now target, Ready ctx spec log now target ∧
      addr = target.exporter.socketAddr
  | .sendHello hello => ∃ now target psk random, Dialled ctx spec log now target psk ∧
    ⟨.random, random⟩ ∈ log ∧ hello = helloOf ctx spec now psk random
  | .readReply _ => ∃ target, Asked ctx spec log target
  | .connectVm path => ∃ target, Accepted ctx spec log target ∧ path = target.socket
  | .readVm _ => ∃ target, Plugged ctx spec log target ∧ Silent log
  | .forward bytes => ∃ target, Greeted ctx spec log target bytes
  | .copy => ∃ target, Forwarded ctx spec log target
  | .api call => ∃ state message since awaitingResume,
    call = reportPatch ctx spec state message since awaitingResume ∧
      MayReport ctx spec log state awaitingResume
  | .remember entry => entry.2.1 ≠ "detached"
  | _ => True

/-- What the history shows where an attempt goes on. -/
def Progress.Holds (log : List SessionEvent) : Progress → Prop
  | .plugged target => Plugged ctx spec log target ∧ Silent log
  | .greeted target greeting => Greeted ctx spec log target greeting
  | .ended _ => ∃ target, Forwarded ctx spec log target

variable {ctx spec} {log : List SessionEvent}

/-- The calls of a report are allowed where the report is. -/
lemma allowed_of_isReport {state : ConnectionState} {message : String} {awaitingResume : Bool}
    {call : SessionCall} (hmay : MayReport ctx spec log state awaitingResume)
    (hmessage : message ≠ "detached")
    (h : IsReport ctx spec state message awaitingResume call) : Allowed ctx spec log call := by
  cases call with
  | api call =>
      obtain ⟨since, rfl⟩ := h
      exact ⟨state, message, since, awaitingResume, rfl, hmay⟩
  | remember entry =>
      rw [show entry = (state, message, awaitingResume) from h]
      exact hmessage
  | now | reporter | setSince _ | connection _ _ => trivial
  | _ => cases h

/-! ## The parts of an attempt -/

lemma findTarget_ensures {now : Timestamp} (hclock : ∃ rest, log = ⟨.now, now⟩ :: rest)
    (hsilent : Silent log) (hfresh : Undialled log) :
    (findTarget ctx spec now).run.Ensures (.logged (Allowed ctx spec)) log
      (Outcome fun target log' =>
        Ready ctx spec log' now target ∧ Silent log' ∧ Undialled log') := by
  refine ensures_ask.mpr ⟨trivial, fun device => ?_⟩
  have hfresh := hfresh.snoc (e := ⟨.device spec.device, device⟩) rfl
  refine ensures_okOr (fun device hdevice => ?_) fun _ =>
    ⟨((starts_self "UsbDevice ").more _ |>.more _).ne_detached (by decide), hfresh⟩
  subst hdevice
  refine ensures_require (fun hlease => ?_) ⟨(starts_self _).ne_detached (by decide), hfresh⟩
  refine ensures_require (fun havailable => ?_)
    ⟨((starts_self "device is ").more _ |>.more _ |>.more _ |>.more _).ne_detached (by decide),
      hfresh⟩
  refine ensures_okOr (fun exporter hexporter => ?_) fun hnone => ?_
  swap
  · -- an available device has an exporter
    rw [UsbDevice.isAvailable, hnone] at havailable
    simp at havailable
  refine ensures_ask.mpr ⟨trivial, fun vmi => ?_⟩
  have hfresh := hfresh.snoc (e := ⟨.vmi spec.claim.ns spec.vmName, vmi⟩) rfl
  refine ensures_okOr (fun vmi hvmi => ?_) fun _ =>
    ⟨(starts_self _).ne_detached (by decide), hfresh⟩
  subst hvmi
  refine ensures_require (fun huid => ?_) ⟨(starts_self _).ne_detached (by decide), hfresh⟩
  have hlocate : (ctx.locator.locate spec.vmiUid (vmi.launcherPodsOn ctx.config.node)
      spec.slot).Ensures (.logged fun _ call => ∀ path, call ≠ .read path) [] _ :=
    ctx.locator.locate_found fun _ _ hcall => hcall
  refine ensures_onFs hlocate ?_ fun socket tr looks hren hfound =>
    ensures_okOr (fun path hpath => ?_) fun _ =>
      ⟨((starts_self "usbredir socket ").more _ |>.more _).ne_detached (by decide),
        hfresh.append (undialled_of_renamed hren)⟩
  · intro tr looks call _ hcall
    cases call with
    | read path => exact absurd rfl (hcall path)
    | _ => trivial
  · refine ⟨?_, ((hsilent.snoc rfl).snoc rfl).append (silent_of_renamed hren),
      hfresh.append (undialled_of_renamed hren)⟩
    obtain ⟨rest, rfl⟩ := hclock
    refine ⟨⟨_, rfl⟩, ⟨device, ?_, beq_iff_eq.mp hlease, havailable, hexporter⟩,
      ⟨vmi, ?_, beq_iff_eq.mp huid⟩, ?_⟩
    · simp
    · simp
    · exact List.mem_append_right _ (mem_of_renamed hren (hfound path hpath))

/-- The key that was read, or why there is none. -/
lemma readPsk_ensures {path : String} :
    (readPsk path).Ensures (.logged fun _ call => call = .read path) [] fun r looks =>
      (∀ psk, r = .ok psk → ∃ raw, ⟨.read path, .ok raw⟩ ∈ looks ∧ pskOf path raw = .ok psk) ∧
      ∀ e, r = .error e → e ≠ "detached" := by
  refine Prog.ensures_logged_call.mpr ⟨rfl, fun raw => ?_⟩
  cases raw with
  | error err =>
      refine ⟨nofun, fun e he => ?_⟩
      rw [← Except.error.inj he]
      exact ((starts_self "reading pre-shared key ").more _ |>.more _ |>.more _).ne_detached
        (by decide)
  | ok raw =>
      refine ⟨fun psk hpsk => ⟨raw, List.mem_singleton_self _, hpsk⟩, fun e he => ?_⟩
      replace he : pskOf path raw = .error e := he
      rw [pskOf] at he
      split_ifs at he
      rw [← Except.error.inj he]
      exact ((starts_self "pre-shared key ").more _ |>.more _).ne_detached (by decide)

lemma openStream_ensures {now : Timestamp} {target : Target}
    (hready : Ready ctx spec log now target) (hsilent : Silent log) (hfresh : Undialled log) :
    (openStream ctx spec now target).run.Ensures (.logged (Allowed ctx spec)) log
      (Outcome fun _ log' => Accepted ctx spec log' target ∧ Silent log') := by
  refine ensures_onFs readPsk_ensures ?_ fun key tr looks hren hkey =>
    ensures_mapErr (fun psk hpsk => ?_) hkey.2
  · rintro tr looks _ _ rfl
    exact ⟨rfl, now, target, hready.mono (List.prefix_append _ _)⟩
  obtain ⟨raw, hraw, hpsk⟩ := hkey.1 psk hpsk
  have hready := hready.mono (List.prefix_append log tr)
  have hsilent := hsilent.append (silent_of_renamed hren)
  have hfresh := hfresh.append (undialled_of_renamed hren)
  refine ensures_ask.mpr ⟨⟨hfresh, now, target, hready, rfl⟩, fun connected =>
    ensures_inTime (fun _ hconnected => ?_)
      (((starts_self "timed out connecting to exporter ").more _ |>.more _ |>.more _).ne_detached
        (by decide)) fun _ =>
      ((starts_self "connecting to exporter ").more _ |>.more _ |>.more _ |>.more _
        |>.more _).ne_detached (by decide)⟩
  have hdialled : Dialled ctx spec (log ++ tr ++ [⟨.connectTcp target.exporter.socketAddr
      connectTimeout, some (.ok ())⟩]) now target psk :=
    ⟨hready.mono (List.prefix_append _ _),
      ⟨raw, List.mem_append_left _ (List.mem_append_right _ (mem_of_renamed hren hraw)), hpsk⟩,
      by simp⟩
  subst hconnected
  refine ensures_ask.mpr ⟨trivial, fun random => ?_⟩
  refine ensures_ask.mpr ⟨⟨now, target, psk, random, hdialled.mono (List.prefix_append _ _),
    by simp, rfl⟩, fun sent => ensures_mapErr (fun _ hsent => ?_) fun _ _ =>
      ((starts_self "sending handshake: ").more _).ne_detached (by decide)⟩
  subst hsent
  have hasked : Asked ctx spec _ target :=
    ⟨now, psk, random, hdialled.mono ((List.prefix_append _ [⟨.random, random⟩]).trans
      (List.prefix_append _ [⟨.sendHello (helloOf ctx spec now psk random), .ok ()⟩])),
      by simp, by simp⟩
  refine ensures_ask.mpr ⟨⟨target, hasked⟩, fun reply => ensures_inTime (fun reply hreply => ?_)
    (((starts_self "exporter on ").more _ |>.more _).ne_detached (by decide)) fun _ =>
    ((starts_self "reading handshake reply: ").more _).ne_detached (by decide)⟩
  subst hreply
  cases hok : reply.ok with
  | false =>
      exact ((starts_self "exporter on ").more _ |>.more _ |>.more _).ne_detached (by decide)
  | true =>
      refine ⟨⟨hasked.mono (List.prefix_append _ _), reply, by simp, hok⟩, ?_⟩
      exact (((hsilent.snoc rfl).snoc rfl).snoc rfl).snoc rfl

/-- The rule for a part of an attempt. -/
lemma ensures_part {α β : Type} {p : Attempt α} {q : α → Attempt β}
    {P : α → List SessionEvent → Prop} {P' : β → List SessionEvent → Prop}
    (h : p.run.Ensures (.logged (Allowed ctx spec)) log (Outcome P))
    (hq : ∀ a log', P a log' → (q a).run.Ensures (.logged (Allowed ctx spec)) log' (Outcome P')) :
    (p >>= q).run.Ensures (.logged (Allowed ctx spec)) log (Outcome P') := by
  refine Prog.ensures_except_bind.mpr (h.mono fun r log' hr => ?_)
  cases r with
  | ok a => exact ⟨fun _ heq => Except.ok.inj heq ▸ hq a log' hr, nofun⟩
  | error e =>
      refine ⟨nofun, fun _ heq => ?_⟩
      obtain rfl := Except.error.inj heq
      cases e with
      | waiting message => exact hr
      | failed message => exact hr

lemma plugIn_ensures : (plugIn ctx spec).run.Ensures (.logged (Allowed ctx spec)) []
    (Outcome fun p log' => p.Holds ctx spec log') := by
  refine ensures_ask.mpr ⟨trivial, fun now => ?_⟩
  have hfresh : Undialled [⟨.now, now⟩] := List.forall_mem_singleton.mpr rfl
  refine ensures_part (findTarget_ensures ⟨[], rfl⟩ (silent_nil.snoc rfl) hfresh)
    fun target log ⟨hready, hsilent, hfresh⟩ => ?_
  have hmay : ∀ tr, MayReport ctx spec (log ++ tr) .connecting false :=
    fun tr => ⟨now, target, hready.mono (List.prefix_append _ _)⟩
  refine ensures_report ctx spec (fun tr _ call hcall => ?_) fun tr htr => ?_
  · refine allowed_of_isReport (hmay tr) ?_ hcall
    exact ((starts_self "connecting to exporter on ").more _).ne_detached (by decide)
  refine ensures_part (openStream_ensures (hready.mono (List.prefix_append _ _))
    (hsilent.append (silent_of_isReport htr)) (hfresh.append (undialled_of_isReport htr)))
    fun _ log ⟨haccepted, hsilent⟩ => ?_
  refine ensures_ask.mpr ⟨⟨target, haccepted, rfl⟩, fun connected =>
    ensures_mapErr (fun _ hconnected => ?_) fun _ _ =>
      ((starts_self "connecting to ").more _ |>.more _ |>.more _).ne_detached (by decide)⟩
  subst hconnected
  exact ⟨⟨haccepted.mono (List.prefix_append _ _), by simp⟩, hsilent.snoc rfl⟩

/-- One time round the loop: the VM is still silent, or has greeted. -/
lemma readGreeting_ensures {target : Target} (hplugged : Plugged ctx spec log target)
    (hsilent : Silent log) :
    (readGreeting ctx spec target).run.Ensures (.logged (Allowed ctx spec)) log
      (Outcome fun p log' => p.Holds ctx spec log') := by
  -- what is left once the paused VM has been reported
  have hlisten : ∀ (paused : Bool) (log' : List SessionEvent), log <+: log' → Silent log' →
      (ask (.readVm qemuGreetingTimeout) >>= fun answer => ExceptT.mk (pure
        (heard spec target paused answer)) : Attempt Progress).run.Ensures
        (.logged (Allowed ctx spec)) log' (Outcome fun p log'' => p.Holds ctx spec log'') := by
    intro paused log' hgrows hsilent'
    have hplugged := hplugged.mono hgrows
    refine ensures_ask.mpr ⟨⟨target, hplugged, hsilent'⟩, fun answer => ?_⟩
    have hplugged := hplugged.mono (List.prefix_append log' [⟨.readVm qemuGreetingTimeout, answer⟩])
    rcases answer with _ | err | _ | ⟨byte, greeting⟩
    · cases paused with
      | false =>
          exact ((starts_self "QEMU did not answer on ").more _ |>.more _ |>.more _).ne_detached
            (by decide)
      | true => exact ⟨hplugged, hsilent'.append silent_timeout⟩
    · exact ((starts_self "reading from QEMU: ").more _).ne_detached (by decide)
    · exact (starts_self _).ne_detached (by decide)
    · exact ⟨hplugged, List.cons_ne_nil _ _, log', [], rfl, hsilent'⟩
  refine ensures_ask.mpr ⟨trivial, fun vmi => ?_⟩
  have hsilent' := hsilent.snoc (e := ⟨.vmi spec.claim.ns spec.vmName, vmi⟩) rfl
  show Prog.Ensures _ (ExceptT.run (ite _ _ _)) _ _
  split_ifs with hpaused
  · obtain ⟨vmi, rfl, hpaused⟩ := (Option.any_eq_true _ _).mp hpaused
    refine ensures_report ctx spec (fun tr htr call hcall => ?_) fun tr htr => ?_
    · have hmay : MayReport ctx spec (_ ++ tr) .connecting true :=
        ⟨target, hplugged.mono (by rw [List.append_assoc]; exact List.prefix_append _ _),
          hsilent'.append (silent_of_isReport htr), log, tr, vmi, by simp, hpaused,
          fun e he => ⟨_, htr e he⟩⟩
      refine allowed_of_isReport hmay ?_ hcall
      exact ((starts_self "ready on ").more _ |>.more _ |>.more _).ne_detached (by decide)
    · refine hlisten _ _ ?_ (hsilent'.append (silent_of_isReport htr))
      rw [List.append_assoc]
      exact List.prefix_append _ _
  · exact hlisten _ _ (List.prefix_append _ _) hsilent'

/-- From the greeting on: it is passed on, and only then is the device reported as attached. -/
lemma attach_ensures {target : Target} {greeting : List UInt8}
    (hgreeted : Greeted ctx spec log target greeting) :
    (attach ctx spec target greeting).run.Ensures (.logged (Allowed ctx spec)) log
      (Outcome fun p log' => p.Holds ctx spec log') := by
  refine ensures_ask.mpr ⟨⟨target, hgreeted⟩, fun forwarded =>
    ensures_mapErr (fun _ hforwarded => ?_) fun _ _ =>
      ((starts_self "forwarding to exporter: ").more _).ne_detached (by decide)⟩
  subst hforwarded
  have hforwarded : Forwarded ctx spec (log ++ [⟨.forward greeting, .ok ()⟩]) target :=
    ⟨greeting, hgreeted.mono (List.prefix_append _ _), by simp⟩
  refine ensures_ask.mpr ⟨trivial, fun started => ?_⟩
  have hforwarded := hforwarded.mono (List.prefix_append _ [⟨.instant, started⟩])
  refine ensures_report ctx spec (fun tr _ call hcall => ?_) fun tr _ => ?_
  · have hmay : MayReport ctx spec (_ ++ tr) .connected false :=
      ⟨target, hforwarded.mono (List.prefix_append _ _)⟩
    refine allowed_of_isReport hmay ?_ hcall
    exact ((starts_self "attached from ").more _ |>.more _ |>.more _).ne_detached (by decide)
  have hforwarded := hforwarded.mono (List.prefix_append _ tr)
  refine ensures_ask.mpr ⟨⟨target, hforwarded⟩, fun copied => ?_⟩
  have hforwarded := hforwarded.mono (List.prefix_append _ [⟨.copy, copied⟩])
  exact ensures_ask.mpr ⟨trivial, fun ended => ⟨target, hforwarded.mono (List.prefix_append _ _)⟩⟩

end AtomicUsb
