import AtomicUsb.Agent.Handle
import AtomicUsb.Agent.StaleSessions

/-!
# What the handler of a connection may do

`MayCall` and `Allowed` say, of every call, what the history has to show before it is made.
`handle_keeps_protocol` is that every run complies: `usbredirect`, say, is only started for a hello
that is authentic and was not seen before, on the device it asks for, which is plugged in and leased
to its claim.

The session under the lock has a history of its own, of the operating system's calls, and is dealt
with first.
-/

namespace AtomicUsb

/-! ## What a session may do -/

/-- `terminate` could not wait for the child. -/
def OsEvent.unstopped : OsEvent → Bool
  | ⟨.wait _, some (.error _)⟩ => true
  | ⟨.kill, .error _⟩ => true
  | _ => false

namespace Handle

section Session

variable (usbredirect : String) (device : UsbDeviceInfo)

def Unanswered (log : List OsEvent) : Prop := ∀ e ∈ log, OsEvent.told e = none

/-- The lock was taken and has not been released, and the session was not superseded while it waited
for it. -/
structure Current (log : List OsEvent) : Prop where
  locked : ⟨.lock previousSessionStopTimeout, true⟩ ∈ log
  held : ∀ e ∈ log, e.1 ≠ .unlock
  kept : ⟨.isCancelled, false⟩ ∈ log

/-- `usbredirect` runs for the device. -/
structure Started (log : List OsEvent) : Prop extends Current log where
  spawned : ∃ addr, ⟨.localAddr, .ok addr⟩ ∈ log ∧
    ⟨.spawn usbredirect ["--device", device.busDev, "--to", addr], .ok ()⟩ ∈ log

/-- `usbredirect` has opened the device. -/
structure Opened (log : List OsEvent) : Prop extends Started usbredirect device log where
  connected : ⟨.awaitConnection usbredirectConnectTimeout, .accepted (.ok ())⟩ ∈ log

/-- The session was left through an error, or stopping the child failed. -/
def Forsaken (log : List OsEvent) : Prop :=
  ∃ e ∈ log, OsEvent.abandons e = true ∨ OsEvent.unstopped e = true

/-- When a session makes a call. -/
def MayCall (log : List OsEvent) : OsCall → Prop
  | .lock _ => log = []
  | .isCancelled => ⟨.lock previousSessionStopTimeout, true⟩ ∈ log
  | .unlock => ⟨.lock previousSessionStopTimeout, true⟩ ∈ log ∧ ∀ e ∈ log, e.1 ≠ .unlock
  | .bind | .localAddr => Current log
  | .spawn program args => Current log ∧ program = usbredirect ∧
    ∃ addr, ⟨.localAddr, .ok addr⟩ ∈ log ∧ args = ["--device", device.busDev, "--to", addr]
  | .writeLine reply => Unanswered log ∧ (reply.ok = true → Opened usbredirect device log)
  | .awaitEnd => Opened usbredirect device log ∧ ⟨.writeLine ⟨true, none⟩, .ok ()⟩ ∈ log
  | .killOnDrop => Started usbredirect device log ∧ Forsaken log
  | _ => Started usbredirect device log

variable {usbredirect device} {log tr : List OsEvent} {e : OsEvent}

lemma Unanswered.append (h : Unanswered log) (htr : Unanswered tr) : Unanswered (log ++ tr) :=
  List.forall_mem_append.mpr ⟨h, htr⟩

lemma Unanswered.snoc (h : Unanswered log) (he : OsEvent.told e = none) : Unanswered (log ++ [e]) :=
  h.append (List.forall_mem_singleton.mpr he)

lemma Forsaken.append (h : Forsaken log) (tr : List OsEvent) : Forsaken (log ++ tr) := by
  obtain ⟨e, he, hwhy⟩ := h
  exact ⟨e, List.mem_append_left tr he, hwhy⟩

lemma forsaken_snoc (he : OsEvent.abandons e = true) : Forsaken (log ++ [e]) :=
  ⟨e, by simp, Or.inl he⟩

lemma Current.append (h : Current log) (htr : ∀ e ∈ tr, e.1 ≠ .unlock) : Current (log ++ tr) where
  locked := List.mem_append_left tr h.locked
  held := List.forall_mem_append.mpr ⟨h.held, htr⟩
  kept := List.mem_append_left tr h.kept

lemma Current.snoc (h : Current log) (he : e.1 ≠ .unlock) : Current (log ++ [e]) :=
  h.append (List.forall_mem_singleton.mpr he)

lemma Started.append (h : Started usbredirect device log) (htr : ∀ e ∈ tr, e.1 ≠ .unlock) :
    Started usbredirect device (log ++ tr) := by
  obtain ⟨addr, haddr, hspawn⟩ := h.spawned
  exact ⟨h.toCurrent.append htr, addr, List.mem_append_left tr haddr,
    List.mem_append_left tr hspawn⟩

lemma Started.snoc (h : Started usbredirect device log) (he : e.1 ≠ .unlock) :
    Started usbredirect device (log ++ [e]) :=
  h.append (List.forall_mem_singleton.mpr he)

lemma Opened.snoc (h : Opened usbredirect device log) (he : e.1 ≠ .unlock) :
    Opened usbredirect device (log ++ [e]) :=
  ⟨h.toStarted.snoc he, List.mem_append_left [e] h.connected⟩

/-- The rule for turning the peer down. -/
lemma reject_ensures {reason : String} (h : Unanswered log) :
    (reject reason).Ensures (.logged (MayCall usbredirect device)) log fun _ _ => True :=
  Prog.ensures_logged_call.mpr ⟨⟨h, nofun⟩, fun _ => trivial⟩

/-- Stopping a child leaves the peer and the lock alone. -/
lemma quiet_of_stopsChild (h : ∀ e ∈ tr, e.1.stopsChild = true) :
    Unanswered tr ∧ ∀ e ∈ tr, e.1 ≠ .unlock := by
  refine ⟨?_, fun e he heq => ?_⟩
  · rintro ⟨call, answer⟩ he
    have hcall := h _ he
    cases call with
    | tryWait | interrupt | wait _ | kill => rfl
    | _ => cases hcall
  · have hcall := h e he
    rw [heq] at hcall
    cases hcall

lemma unstopped_of_interruptChild (h : interruptChild.Runs tr none) :
    ∃ e ∈ tr, OsEvent.unstopped e = true := by
  obtain ⟨_, _, rfl, waited, tr, rfl, h⟩ := h
  rcases waited with _ | (e | status)
  · obtain ⟨killed, _, rfl, h⟩ := h
    cases killed with
    | error e => exact ⟨⟨.kill, .error e⟩, by simp, rfl⟩
    | ok status => cases h.2
  · exact ⟨⟨.wait usbredirectStopTimeout, some (.error e)⟩, by simp, rfl⟩
  · cases h.2

/-- If the child is not known to have ended after `terminate`, something went wrong there. -/
lemma unstopped_of_terminate {child : Child} (h : (terminate child).Runs tr none) :
    ∃ e ∈ tr, OsEvent.unstopped e = true := by
  cases child with
  | some status => cases h.2
  | none =>
      obtain ⟨answer, tr, rfl, h⟩ := h
      have hinterrupt : interruptChild.Runs tr none →
          ∃ e ∈ ⟨.tryWait, answer⟩ :: tr, OsEvent.unstopped e = true := fun h => by
        obtain ⟨e, he, hwhy⟩ := unstopped_of_interruptChild h
        exact ⟨e, List.mem_cons_of_mem _ he, hwhy⟩
      rcases answer with e | (_ | status)
      · exact hinterrupt h
      · exact hinterrupt h
      · cases h.2

lemma terminate_ensures {child : Child} (h : Started usbredirect device log) :
    (terminate child).Ensures (.logged (MayCall usbredirect device)) log fun child' log' =>
      Started usbredirect device log' ∧ (Unanswered log → Unanswered log') ∧
        (child' = none → Forsaken log') := by
  refine ((terminate_calls child).ensures_logged fun tr htr call hcall => ?_).mono ?_
  · have hstarted := h.append (quiet_of_stopsChild htr).2
    cases call with
    | tryWait | interrupt | wait _ | kill => exact hstarted
    | _ => cases hcall
  · rintro child' _ ⟨tr, rfl, htr, hruns⟩
    obtain ⟨hunanswered, hheld⟩ := quiet_of_stopsChild htr
    refine ⟨h.append hheld, fun hsilent => hsilent.append hunanswered, ?_⟩
    rintro rfl
    obtain ⟨e, he, hwhy⟩ := unstopped_of_terminate hruns
    exact ⟨e, List.mem_append_right log he, Or.inr hwhy⟩

/-- How a child is left: its handle is only dropped if something went wrong. -/
def Left (usbredirect : String) (device : UsbDeviceInfo) (out : Child × Except String Unit)
    (log : List OsEvent) : Prop :=
  Started usbredirect device log ∧ (out.1 = none → Forsaken log)

lemma splice_ensures (h : Opened usbredirect device log) (hsilent : Unanswered log) :
    splice.Ensures (.logged (MayCall usbredirect device)) log (Left usbredirect device) := by
  refine Prog.ensures_logged_call.mpr ⟨⟨hsilent, fun _ => h⟩, fun told => ?_⟩
  have hopened := h.snoc (e := ⟨.writeLine ⟨true, none⟩, told⟩) nofun
  rcases told with e | ok
  · exact ⟨hopened.toStarted, fun _ => forsaken_snoc rfl⟩
  · refine Prog.ensures_logged_call.mpr ⟨⟨hopened, by simp⟩, fun ended => ?_⟩
    have hstarted := (hopened.snoc (e := ⟨.awaitEnd, ended⟩) nofun).toStarted
    show (terminate _ >>= fun child =>
      (pure (child, .ok ()) : OsProg (Child × Except String Unit))).Ensures _ _ _
    exact Prog.ensures_bind.mpr ((terminate_ensures hstarted).mono fun _ _ hlog =>
      ⟨hlog.1, hlog.2.2⟩)

/-- The child is stopped, and the peer is told why. -/
lemma terminate_reject_ensures {reason : String} (h : Started usbredirect device log)
    (hsilent : Unanswered log) :
    (terminate none >>= fun child => reject reason >>= fun result =>
      (pure (child, result) : OsProg (Child × Except String Unit))).Ensures
        (.logged (MayCall usbredirect device)) log (Left usbredirect device) := by
  refine Prog.ensures_bind.mpr ((terminate_ensures h).mono
    fun child log' ⟨hstarted, hkept, hforsaken⟩ => ?_)
  exact Prog.ensures_logged_call.mpr ⟨⟨hkept hsilent, nofun⟩, fun _ =>
    ⟨hstarted.snoc nofun, fun hnone => (hforsaken hnone).append _⟩⟩

lemma serveSpawned_ensures (h : Started usbredirect device log) (hsilent : Unanswered log) :
    serveSpawned.Ensures (.logged (MayCall usbredirect device)) log (Left usbredirect device) := by
  refine Prog.ensures_logged_call.mpr ⟨h, fun awaited => ?_⟩
  have hstarted := h.snoc (e := ⟨.awaitConnection usbredirectConnectTimeout, awaited⟩) nofun
  have hsilent := hsilent.snoc (e := ⟨.awaitConnection usbredirectConnectTimeout, awaited⟩) rfl
  rcases awaited with (e | ok) | (e | status) | _ | _
  · exact ⟨hstarted, fun _ => forsaken_snoc rfl⟩
  · exact splice_ensures ⟨hstarted, by simp⟩ hsilent
  · exact Prog.ensures_logged_call.mpr ⟨hstarted, fun _ =>
      ⟨hstarted.snoc nofun, fun _ => (forsaken_snoc rfl).append _⟩⟩
  · refine Prog.ensures_logged_call.mpr ⟨hstarted, fun slept => ?_⟩
    have hstarted := hstarted.snoc (e := ⟨.sleep 100, slept⟩) nofun
    refine Prog.ensures_logged_call.mpr ⟨hstarted, fun output => ?_⟩
    have hstarted := hstarted.snoc (e := ⟨.stderr, output⟩) nofun
    exact Prog.ensures_logged_call.mpr ⟨⟨(hsilent.snoc rfl).snoc rfl, nofun⟩, fun _ =>
      ⟨hstarted.snoc nofun, nofun⟩⟩
  · exact terminate_reject_ensures hstarted hsilent
  · exact terminate_reject_ensures hstarted hsilent

lemma serve_ensures (h : Current log) (hsilent : Unanswered log) :
    (Exporter.serve usbredirect device).Ensures (.logged (MayCall usbredirect device)) log
      fun _ _ => True := by
  refine Prog.ensures_logged_call.mpr ⟨h, fun bound => ?_⟩
  rcases bound with e | ok
  · trivial
  have hcurrent := h.snoc (e := ⟨.bind, .ok ok⟩) nofun
  refine Prog.ensures_logged_call.mpr ⟨hcurrent, fun addr => ?_⟩
  rcases addr with e | addr
  · trivial
  have hcurrent := hcurrent.snoc (e := ⟨.localAddr, .ok addr⟩) nofun
  have hsilent := (hsilent.snoc (e := ⟨.bind, .ok ok⟩) rfl).snoc (e := ⟨.localAddr, .ok addr⟩) rfl
  refine Prog.ensures_logged_call.mpr ⟨⟨hcurrent, rfl, addr, by simp, rfl⟩, fun spawned => ?_⟩
  rcases spawned with e | ok
  · exact reject_ensures (hsilent.snoc rfl)
  · have hstarted : Started usbredirect device (_ ++ [⟨.spawn usbredirect
        ["--device", device.busDev, "--to", addr], .ok ok⟩]) :=
      ⟨hcurrent.snoc nofun, addr, by simp, by simp⟩
    show (serveSpawned >>= fun out => dropChild out.1 >>= fun _ =>
      (pure out.2 : OsProg (Except String Unit))).Ensures _ _ _
    refine Prog.ensures_bind.mpr ((serveSpawned_ensures hstarted (hsilent.snoc rfl)).mono ?_)
    rintro ⟨_ | status, result⟩ log' ⟨hstarted, hforsaken⟩
    · exact Prog.ensures_logged_call.mpr ⟨⟨hstarted, hforsaken rfl⟩, fun _ => trivial⟩
    · trivial

lemma session_ensures :
    (session usbredirect device).Ensures (.logged (MayCall usbredirect device)) [] fun _ log' =>
      ⟨.lock previousSessionStopTimeout, true⟩ ∈ log' → ⟨.unlock, ()⟩ ∈ log' := by
  -- what is left when the lock is held and nothing is left to be done with it
  have hunlock : ∀ (log : List OsEvent) (result : Except String Unit),
      ⟨.lock previousSessionStopTimeout, true⟩ ∈ log → (∀ e ∈ log, e.1 ≠ .unlock) →
      (os .unlock >>= fun _ => pure result : OsProg (Except String Unit)).Ensures
        (.logged (MayCall usbredirect device)) log fun _ log' =>
          ⟨.lock previousSessionStopTimeout, true⟩ ∈ log' → ⟨.unlock, ()⟩ ∈ log' :=
    fun log _ hlock hheld => Prog.ensures_logged_call.mpr
      ⟨⟨hlock, hheld⟩, fun _ _ => List.mem_append_right log (List.mem_singleton_self _)⟩
  refine Prog.ensures_logged_call.mpr ⟨rfl, fun locked => ?_⟩
  have hsilent : Unanswered [⟨.lock previousSessionStopTimeout, locked⟩] :=
    List.forall_mem_singleton.mpr rfl
  cases locked with
  | false =>
      refine Prog.ensures_logged_call.mpr ⟨⟨hsilent, nofun⟩, fun told hlock => ?_⟩
      rcases List.mem_cons.mp hlock with heq | hlock
      · cases heq
      · cases List.mem_singleton.mp hlock
  | true =>
      refine Prog.ensures_logged_call.mpr ⟨List.mem_singleton_self _, fun cancelled => ?_⟩
      cases cancelled with
      | true =>
          refine Prog.ensures_logged_call.mpr ⟨⟨hsilent.snoc rfl, nofun⟩, fun told => ?_⟩
          exact hunlock _ _ List.mem_cons_self (by simp)
      | false =>
          show (Exporter.serve usbredirect device >>= fun result => os .unlock >>= fun _ =>
            (pure result : OsProg (Except String Unit))).Ensures _ _ _
          have hcurrent :
              Current [⟨.lock previousSessionStopTimeout, true⟩, ⟨.isCancelled, false⟩] :=
            ⟨by simp, by simp, by simp⟩
          refine Prog.ensures_bind.mpr (((serve_ensures hcurrent (hsilent.snoc rfl)).logged_issues
            (serve_keepsLock usbredirect device)).mono ?_)
          rintro result _ ⟨-, tr, rfl, htr⟩
          exact hunlock _ _ (by simp) (List.forall_mem_append.mpr ⟨by simp, htr⟩)

end Session

/-! ## What a handler may do -/

section Protocol

variable (ctx : HandleContext)

/-- What happened on the connection and with the child. -/
def osLog (log : List HandleEvent) : List OsEvent :=
  log.filterMap fun
    | ⟨.os _ call, answer⟩ => some ⟨call, answer⟩
    | _ => none

/-- The hello that was read has the MAC of the key that was read, and the time on the clock. -/
structure Authentic (log : List HandleEvent) (hello : Hello) (now : Timestamp) : Prop where
  read : ⟨.readHello handshakeTimeout, some (.ok hello)⟩ ∈ log
  key : ∃ raw psk, ⟨.fs (.read ctx.pskFile), .ok raw⟩ ∈ log ∧ pskOf ctx.pskFile raw = .ok psk ∧
    hello.verify ctx.hmac psk now.asSecond = .ok ()
  clock : ⟨.now, now⟩ ∈ log

/-- … and it was not seen before. -/
def Admitted (log : List HandleEvent) (hello : Hello) : Prop :=
  ∃ now, Authentic ctx log hello now ∧
    ⟨.checkNonce hello.nonce hello.timestamp now.asSecond, .ok ()⟩ ∈ log

/-- … and the device it asks for is plugged in. -/
def Located (log : List HandleEvent) (hello : Hello) (device : UsbDeviceInfo) : Prop :=
  Admitted ctx log hello ∧ ⟨.localDevice hello.device, some device⟩ ∈ log

/-- … and leased to the claim it is for. -/
def Authorized (log : List HandleEvent) (hello : Hello) (device : UsbDeviceInfo) : Prop :=
  Located ctx log hello device ∧ ∃ object lease,
    ⟨.getDevice hello.device, .ok (some object)⟩ ∈ log ∧ object.attachedTo = some lease ∧
    lease.claimUid = hello.claim.uid ∧ lease.ns = hello.claim.ns ∧ lease.claim = hello.claim.name

def Registered (log : List HandleEvent) (hello : Hello) (device : UsbDeviceInfo) (id : ℕ) : Prop :=
  Authorized ctx log hello device ∧ ⟨.beginSession hello device, id⟩ ∈ log

/-- The call is one of those before a session. -/
def isEarly : HandleCall → Bool
  | .os _ _ | .beginSession _ _ | .endSession _ _ => false
  | _ => true

/-- The session is not registered yet, and the peer was told nothing. -/
def Early (log : List HandleEvent) : Prop := ∀ e ∈ log, isEarly e.1 = true

/-- When a call may be made. -/
def Allowed (log : List HandleEvent) : HandleCall → Prop
  | .readHello _ => log = []
  | .fs call => call = .read ctx.pskFile ∧
    ∃ hello, ⟨.readHello handshakeTimeout, some (.ok hello)⟩ ∈ log
  | .now => ∃ raw, ⟨.fs (.read ctx.pskFile), .ok raw⟩ ∈ log
  | .checkNonce nonce timestamp now => ∃ hello read, Authentic ctx log hello read ∧
    nonce = hello.nonce ∧ timestamp = hello.timestamp ∧ now = read.asSecond
  | .localDevice name => ∃ hello, Admitted ctx log hello ∧ name = hello.device
  | .getDevice name => ∃ hello device, Located ctx log hello device ∧ name = hello.device
  | .beginSession hello device => Authorized ctx log hello device ∧ Early log
  | .os none call =>
    (∃ reason, call = .writeLine ⟨false, some reason⟩) ∧ Unanswered (osLog log)
  | .os (some (name, id)) call => ∃ hello device, Registered ctx log hello device id ∧
    name = hello.device ∧ MayCall ctx.usbredirect device (osLog log) call
  | .endSession name id => ∃ hello device, Registered ctx log hello device id ∧
    name = hello.device ∧
    (⟨.lock previousSessionStopTimeout, true⟩ ∈ osLog log → ⟨.unlock, ()⟩ ∈ osLog log)

/-- A session that was registered has been taken back, and nothing was done after that. -/
def Settled (log : List HandleEvent) : Prop :=
  ∀ hello device id, ⟨.beginSession hello device, id⟩ ∈ log →
    log.getLast? = some ⟨.endSession hello.device id, ()⟩

variable {ctx} {log log' : List HandleEvent} {hello : Hello} {device : UsbDeviceInfo} {id : ℕ}
  {now : Timestamp}

lemma osLog_append (log log' : List HandleEvent) : osLog (log ++ log') = osLog log ++ osLog log' :=
  List.filterMap_append ..

lemma Early.osLog_eq (h : Early log) : osLog log = [] := by
  refine List.filterMap_eq_nil_iff.mpr ?_
  rintro ⟨call, answer⟩ he
  have hcall := h _ he
  cases call with
  | os _ _ => cases hcall
  | _ => rfl

lemma osLog_renamed {session : Option (String × ℕ)} {tr : List HandleEvent} {osTr : List OsEvent}
    (h : List.Forall₂ (Prog.Renamed (HandleCall.os session) fun _ x => x) tr osTr) :
    osLog tr = osTr := by
  induction h with
  | nil => rfl
  | cons hhead _ ih =>
      obtain ⟨x, rfl, rfl⟩ := hhead
      exact congrArg (_ :: ·) ih

lemma renamed_begins {session : Option (String × ℕ)} {tr : List HandleEvent} {osTr : List OsEvent}
    (h : List.Forall₂ (Prog.Renamed (HandleCall.os session) fun _ x => x) tr osTr) :
    ⟨.beginSession hello device, id⟩ ∉ tr := by
  induction h with
  | nil => exact List.not_mem_nil
  | cons hhead _ ih =>
      obtain ⟨x, rfl, rfl⟩ := hhead
      intro hbegun
      rcases List.mem_cons.mp hbegun with heq | hbegun
      · cases heq
      · exact ih hbegun

lemma Early.snoc {e : HandleEvent} (h : Early log) (he : isEarly e.1 = true) : Early (log ++ [e]) :=
  List.forall_mem_append.mpr ⟨h, List.forall_mem_singleton.mpr he⟩

lemma Authentic.mono (h : Authentic ctx log hello now) (hgrows : log <+: log') :
    Authentic ctx log' hello now := by
  obtain ⟨raw, psk, hraw, hpsk⟩ := h.key
  exact ⟨hgrows.subset h.read, ⟨raw, psk, hgrows.subset hraw, hpsk⟩, hgrows.subset h.clock⟩

lemma Admitted.mono (h : Admitted ctx log hello) (hgrows : log <+: log') :
    Admitted ctx log' hello := by
  obtain ⟨now, hauthentic, hnonce⟩ := h
  exact ⟨now, hauthentic.mono hgrows, hgrows.subset hnonce⟩

lemma Located.mono (h : Located ctx log hello device) (hgrows : log <+: log') :
    Located ctx log' hello device :=
  ⟨h.1.mono hgrows, hgrows.subset h.2⟩

lemma Authorized.mono (h : Authorized ctx log hello device) (hgrows : log <+: log') :
    Authorized ctx log' hello device := by
  obtain ⟨hlocated, object, lease, hobject, hlease⟩ := h
  exact ⟨hlocated.mono hgrows, object, lease, hgrows.subset hobject, hlease⟩

lemma Registered.mono (h : Registered ctx log hello device id) (hgrows : log <+: log') :
    Registered ctx log' hello device id :=
  ⟨h.1.mono hgrows, hgrows.subset h.2⟩

lemma verify_of_authenticate {psk : List UInt8}
    (h : authenticate ctx.toExporterContext hello (.ok psk) now = .ok ()) :
    hello.verify ctx.hmac psk now.asSecond = .ok () := by
  unfold authenticate at h
  dsimp only at h
  split at h
  · cases h
  · assumption

/-- The rule for turning the peer down before there is a session. -/
lemma refuse_ensures {reason : String} (h : Early log) :
    (onOs none (reject reason)).Ensures (.logged (Allowed ctx)) log fun _ log' => Settled log' := by
  refine Prog.ensures_logged_call.mpr ⟨⟨⟨reason, rfl⟩, ?_⟩, fun answer hello device id hbegun => ?_⟩
  · rw [h.osLog_eq]
    exact fun _ he => absurd he List.not_mem_nil
  · rcases List.mem_append.mp hbegun with hbegun | hbegun
    · cases h _ hbegun
    · cases List.mem_singleton.mp hbegun

/-- A session, from its registration on. -/
lemma session_settles (h : Authorized ctx log hello device) (hearly : Early log) :
    (serveAuthorized ctx hello (.ok device)).Ensures (.logged (Allowed ctx)) log
      fun _ log' => Settled log' := by
  refine Prog.ensures_logged_call.mpr ⟨⟨h, hearly⟩, fun id => ?_⟩
  have hregistered : Registered ctx (log ++ [⟨.beginSession hello device, id⟩]) hello device id :=
    ⟨h.mono (List.prefix_append _ _), by simp⟩
  have hosLog : osLog (log ++ [⟨.beginSession hello device, id⟩]) = [] := by
    rw [osLog_append, hearly.osLog_eq]
    rfl
  show (onOs (some (hello.device, id)) (session ctx.usbredirect device) >>= leave hello id).Ensures
    _ _ _
  refine Prog.ensures_bind.mpr ((session_ensures.embed fun tr osTr call hren hmay => ?_).mono ?_)
  · refine ⟨hello, device, hregistered.mono (List.prefix_append _ _), rfl, ?_⟩
    rw [osLog_append, hosLog, osLog_renamed hren]
    exact hmay
  · rintro result _ ⟨tr, osTr, rfl, hren, hunlocked⟩
    refine Prog.ensures_logged_call.mpr ⟨⟨hello, device, hregistered.mono (List.prefix_append _ _),
      rfl, ?_⟩, fun ended hello' device' id' hbegun => ?_⟩
    · rw [osLog_append, hosLog, osLog_renamed hren]
      exact hunlocked
    · -- there is no other session in the history
      rcases List.mem_append.mp hbegun with hbegun | hbegun
      · rcases List.mem_append.mp hbegun with hbegun | hbegun
        · rcases List.mem_append.mp hbegun with hbegun | hbegun
          · cases hearly _ hbegun
          · obtain ⟨⟨rfl, rfl⟩, rfl⟩ : (hello' = hello ∧ device' = device) ∧ id' = id := by
              simpa using hbegun
            exact List.getLast?_concat
        · exact absurd hbegun (renamed_begins hren)
      · cases List.mem_singleton.mp hbegun

lemma authorizeLease_ensures (h : Located ctx log hello device) (hearly : Early log) :
    (authorizeLease hello device >>= serveAuthorized ctx hello).Ensures (.logged (Allowed ctx)) log
      fun _ log' => Settled log' := by
  refine Prog.ensures_logged_call.mpr ⟨⟨hello, device, h, rfl⟩, fun object => ?_⟩
  have hearly := hearly.snoc (e := ⟨.getDevice hello.device, object⟩) rfl
  cases hlease : checkLease hello object with
  | error reason =>
      show (serveAuthorized ctx hello ((checkLease hello object).map _)).Ensures _ _ _
      rw [hlease]
      exact refuse_ensures hearly
  | ok u =>
      show (serveAuthorized ctx hello ((checkLease hello object).map _)).Ensures _ _ _
      rw [hlease]
      obtain ⟨body, lease, rfl, hatt, hmatch⟩ := checkLease_ok hlease
      exact session_settles ⟨h.mono (List.prefix_append _ _), body, lease, by simp, hatt, hmatch⟩
        hearly

lemma authorizeLocal_ensures (h : Admitted ctx log hello) (hearly : Early log) :
    (authorizeLocal ctx hello >>= serveAuthorized ctx hello).Ensures (.logged (Allowed ctx)) log
      fun _ log' => Settled log' := by
  refine Prog.ensures_logged_call.mpr ⟨⟨hello, h, rfl⟩, fun found => ?_⟩
  have hearly := hearly.snoc (e := ⟨.localDevice hello.device, found⟩) rfl
  cases found with
  | none => exact refuse_ensures hearly
  | some device =>
      exact authorizeLease_ensures ⟨h.mono (List.prefix_append _ _), by simp⟩ hearly

lemma authorizeNonce_ensures (h : Authentic ctx log hello now) (hearly : Early log) :
    (authorizeNonce ctx hello now >>= serveAuthorized ctx hello).Ensures (.logged (Allowed ctx)) log
      fun _ log' => Settled log' := by
  refine Prog.ensures_logged_call.mpr ⟨⟨hello, now, h, rfl, rfl, rfl⟩, fun seen => ?_⟩
  have hearly :=
    hearly.snoc (e := ⟨.checkNonce hello.nonce hello.timestamp now.asSecond, seen⟩) rfl
  cases seen with
  | error e => exact refuse_ensures hearly
  | ok u => exact authorizeLocal_ensures ⟨now, h.mono (List.prefix_append _ _), by simp⟩ hearly

/-- The key was read, from here on. -/
lemma authorizeKeyed_ensures {raw psk : List UInt8}
    (hread : ⟨.readHello handshakeTimeout, some (.ok hello)⟩ ∈ log)
    (hraw : ⟨.fs (.read ctx.pskFile), .ok raw⟩ ∈ log) (hpsk : pskOf ctx.pskFile raw = .ok psk)
    (hearly : Early log) :
    (authorizeKeyed ctx hello psk >>= serveAuthorized ctx hello).Ensures (.logged (Allowed ctx)) log
      fun _ log' => Settled log' := by
  refine Prog.ensures_logged_call.mpr ⟨⟨raw, hraw⟩, fun now => ?_⟩
  have hearly := hearly.snoc (e := ⟨.now, now⟩) rfl
  show (authorizeVerified ctx hello now _ >>= serveAuthorized ctx hello).Ensures _ _ _
  cases hauth : authenticate ctx.toExporterContext hello (.ok psk) now with
  | error reason => exact refuse_ensures hearly
  | ok u =>
      refine authorizeNonce_ensures
        ⟨List.mem_append_left _ hread, ⟨raw, psk, ?_, hpsk, ?_⟩, ?_⟩ hearly
      · exact List.mem_append_left _ hraw
      · exact verify_of_authenticate hauth
      · simp

lemma authorize_ensures (hread : ⟨.readHello handshakeTimeout, some (.ok hello)⟩ ∈ log)
    (hearly : Early log) :
    (authorize ctx hello >>= serveAuthorized ctx hello).Ensures (.logged (Allowed ctx)) log
      fun _ log' => Settled log' := by
  refine Prog.ensures_logged_call.mpr ⟨⟨rfl, hello, hread⟩, fun raw => ?_⟩
  have hearly := hearly.snoc (e := ⟨.fs (.read ctx.pskFile), raw⟩) rfl
  cases raw with
  | error e => exact refuse_ensures hearly
  | ok raw =>
      show (authorizeRead ctx hello (pskOf ctx.pskFile raw) >>= serveAuthorized ctx hello).Ensures
        _ _ _
      cases hpsk : pskOf ctx.pskFile raw with
      | error e => exact refuse_ensures hearly
      | ok psk =>
          exact authorizeKeyed_ensures (List.mem_append_left _ hread) (by simp) hpsk hearly

lemma handle_ensures :
    (handle ctx).Ensures (.logged (Allowed ctx)) [] fun _ log' => Settled log' := by
  refine Prog.ensures_logged_call.mpr ⟨rfl, fun received => ?_⟩
  have hearly : Early [⟨.readHello handshakeTimeout, received⟩] :=
    List.forall_mem_singleton.mpr rfl
  rcases received with _ | (_ | e | e) | hello
  · exact refuse_ensures hearly
  · intro hello device id hbegun
    cases List.mem_singleton.mp hbegun
  · exact refuse_ensures hearly
  · exact refuse_ensures hearly
  · exact authorize_ensures (List.mem_singleton_self _) hearly

/-- The peer is told something. -/
def answers : HandleCall → Bool
  | .os _ (.writeLine _) => true
  | _ => false

lemma answers_of_unanswered (h : Unanswered (osLog log)) : ∀ e ∈ log, answers e.1 = false := by
  rintro ⟨call, answer⟩ he
  cases call with
  | os session call =>
      have hos : ⟨call, answer⟩ ∈ osLog log := List.mem_filterMap.mpr ⟨_, he, rfl⟩
      cases call with
      | writeLine reply => cases h _ hos
      | _ => rfl
  | _ => rfl

lemma answers_of_allowed {call : HandleCall} (h : Allowed ctx log call)
    (hanswers : answers call = true) : ∀ e ∈ log, answers e.1 = false := by
  cases call with
  | os session call =>
      cases call with
      | writeLine reply =>
          rcases session with _ | ⟨name, id⟩
          · exact answers_of_unanswered h.2
          · obtain ⟨_, _, -, -, hunanswered, -⟩ := h
            exact answers_of_unanswered hunanswered
      | _ => cases hanswers
  | _ => cases hanswers

variable (ctx)

/-- **A handler keeps to the protocol.**  Whatever the peer sends and the rest of the agent and the
operating system answer, every call is made only at the stage it belongs to; the peer is told one
thing at most; and a session that is registered is taken back, as the last thing that is done. -/
theorem handle_keeps_protocol {tr : List HandleEvent} {r : Except String Unit}
    (h : (handle ctx).Runs tr r) :
    (∀ before e after, tr = before ++ e :: after → Allowed ctx before e.1) ∧
    tr.countP (fun e => answers e.1) ≤ 1 ∧ Settled tr := by
  have hensures : (handle ctx).Ensures (.logged (Allowed ctx)) [] fun _ log' => Settled log' :=
    handle_ensures
  refine ⟨?_, ?_, hensures.logged_result h⟩
  · rintro before e after rfl
    exact hensures.logged_allowed h
  · exact ((hensures.logged_once (fun _ _ hmay => answers_of_allowed hmay)
      (Nat.zero_le 1)).logged_result h).2

/-! The camera of `Agent/Serve.lean` is asked for, with the key in place, and asked for again. -/

def keyedHello : Hello :=
  { firstHello with mac := "4944e00b8b0d1b7b8e5e9d38520b14af7b5f6bd248322621bf07a5195574e5d1" }

def secondHello : Hello :=
  { keyedHello with
    nonce := "6e32"
    mac := "d11238a26daef25049dc3637e28972bd0fa18c30d24e4dc00f25b2fb42126d6b" }

def keyedHmac (key message : List UInt8) : List UInt8 :=
  if key = Text.bytes "0123456789abcdef" ∧ message = keyedHello.macInput then
    [0x49, 0x44, 0xe0, 0x0b, 0x8b, 0x0d, 0x1b, 0x7b, 0x8e, 0x5e, 0x9d, 0x38, 0x52, 0x0b, 0x14, 0xaf,
      0x7b, 0x5f, 0x6b, 0xd2, 0x48, 0x32, 0x26, 0x21, 0xbf, 0x07, 0xa5, 0x19, 0x55, 0x74, 0xe5,
      0xd1]
  else if key = Text.bytes "0123456789abcdef" ∧ message = secondHello.macInput then
    [0xd1, 0x12, 0x38, 0xa2, 0x6d, 0xae, 0xf2, 0x50, 0x49, 0xdc, 0x36, 0x37, 0xe2, 0x89, 0x72, 0xbd,
      0x0f, 0xa1, 0x8c, 0x30, 0xd2, 0x4e, 0x4d, 0xc0, 0x0f, 0x25, 0xb2, 0xfb, 0x42, 0x12, 0x6d,
      0x6b]
  else []

def keyedContext : HandleContext :=
  ⟨⟨.newYear, keyedHmac, "node-a"⟩, "/etc/atomic-usb/psk", "usbredirect"⟩

lemma onOs_runs {α : Type} (session : Option (String × ℕ)) {a : α} :
    ∀ {p : OsProg α} {tr : List OsEvent}, p.Runs tr a → ∃ tr', (onOs session p).Runs tr' a
  | .pure _, _, ⟨_, heq⟩ => ⟨[], rfl, heq⟩
  | .call call _, _, ⟨x, _, _, h⟩ => by
      obtain ⟨tr', h'⟩ := onOs_runs session h
      exact ⟨⟨.os session call, x⟩ :: tr', x, tr', rfl, h'⟩

lemma servedCamera_runs : ∃ tr, (session "usbredirect" servedCamera).Runs tr (.ok ()) :=
  ⟨_, true, _, rfl, false, _, rfl, .ok (), _, rfl, .ok "127.0.0.1:40217", _, rfl, .ok (), _, rfl,
    .accepted (.ok ()), _, rfl, .ok (), _, rfl, .copied (.ok (512, 4096)), _, rfl,
    .ok none, _, rfl, (), _, rfl, some (.ok ⟨"exit status: 0"⟩), _, rfl, (), _, rfl, rfl, rfl⟩

/-- From where the hello is verified, the session is served to its end. -/
lemma keyed_served : ∃ tr, (authorizeNonce keyedContext keyedHello startTime >>=
    serveAuthorized keyedContext keyedHello).Runs tr (.ok ()) ∧
    ⟨.beginSession keyedHello servedCamera, (1 : ℕ)⟩ ∈ tr := by
  obtain ⟨_, hsession⟩ := servedCamera_runs
  obtain ⟨tr, hserved⟩ := onOs_runs (some ("usb-cam", 1)) hsession
  have hleave : (onOs (some ("usb-cam", 1)) (session "usbredirect" servedCamera) >>=
      leave keyedHello 1).Runs (tr ++ [⟨.endSession "usb-cam" 1, ()⟩]) (.ok ()) :=
    Prog.runs_bind.mpr ⟨tr, _, .ok (), rfl, hserved, (), [], rfl, rfl, rfl⟩
  exact ⟨_, ⟨.ok (), _, rfl, some servedCamera, _, rfl, .ok (some camBody), _, rfl,
    (1 : ℕ), _, rfl, hleave⟩, by simp⟩

lemma keyed_psk : pskOf "/etc/atomic-usb/psk" (Text.bytes "0123456789abcdef\n") =
    .ok (Text.bytes "0123456789abcdef") := by
  decide +kernel

lemma keyed_authentic : authenticate keyedContext.toExporterContext keyedHello
    (.ok (Text.bytes "0123456789abcdef")) startTime = .ok () := by
  decide +kernel

lemma second_authentic : authenticate keyedContext.toExporterContext secondHello
    (.ok (Text.bytes "0123456789abcdef")) startTime = .ok () := by
  decide +kernel

lemma keyed_runs : ∃ tr, (handle keyedContext).Runs tr (.ok ()) ∧
    ⟨.beginSession keyedHello servedCamera, (1 : ℕ)⟩ ∈ tr := by
  obtain ⟨tr, hserved, hbegun⟩ := keyed_served
  have hkeyed : (authorizeKeyed keyedContext keyedHello (Text.bytes "0123456789abcdef") >>=
      serveAuthorized keyedContext keyedHello).Runs (⟨.now, startTime⟩ :: tr) (.ok ()) := by
    refine ⟨startTime, tr, rfl, ?_⟩
    show (authorizeVerified keyedContext keyedHello startTime (authenticate
      keyedContext.toExporterContext keyedHello (.ok (Text.bytes "0123456789abcdef")) startTime) >>=
      serveAuthorized keyedContext keyedHello).Runs tr (.ok ())
    rw [keyed_authentic]
    exact hserved
  have hread : (authorizeRead keyedContext keyedHello (pskOf "/etc/atomic-usb/psk"
      (Text.bytes "0123456789abcdef\n")) >>= serveAuthorized keyedContext keyedHello).Runs
      (⟨.now, startTime⟩ :: tr) (.ok ()) := by
    rw [keyed_psk]
    exact hkeyed
  exact ⟨_, ⟨some (.ok keyedHello), _, rfl, .ok (Text.bytes "0123456789abcdef\n"), _, rfl, hread⟩,
    by simp [hbegun]⟩

/-- The session of the camera is over in the end. -/
theorem handle_keeps_protocol_keyed : ∃ tr, (handle keyedContext).Runs tr (.ok ()) ∧
    tr.countP (fun e => answers e.1) ≤ 1 ∧
    tr.getLast? = some ⟨.endSession "usb-cam" 1, ()⟩ := by
  obtain ⟨tr, hrun, hbegun⟩ := keyed_runs
  have hkept := handle_keeps_protocol keyedContext hrun
  exact ⟨tr, hrun, hkept.2.1, hkept.2.2 _ _ _ hbegun⟩

end Protocol

end Handle

end AtomicUsb
