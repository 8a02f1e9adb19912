import AtomicUsb.Foundation.Transition
import AtomicUsb.Proto

/-!
# The exporter

Serves the devices plugged into a node to attaching agents.  Every connection is a task that
authenticates its hello, registers a session for the device, waits for the session it replaces to
give the device up, and serves.  Tasks run concurrently and are interleaved at the points where
the sources take a lock, read something shared or wait: a task's `Stage` is where it stands.

Around them the wall clock advances, discovery changes the local devices, leases change on the
API server, and a watcher cancels sessions of devices that are gone.
-/

namespace AtomicUsb

/-- What the exporter is run with. -/
structure ExporterContext where
  rt : Runtime
  hmac : List UInt8 → List UInt8 → List UInt8
  node : String

structure ActiveSession where
  id : ℕ
  claim : String
  busDev : String
  deriving DecidableEq

structure DeviceSessions where
  /-- The task that holds the lock of the device. -/
  busy : Option ℕ := none
  active : Option ActiveSession := none

/-- Where a task stands. -/
inductive Stage
  /-- The hello is authentic and fresh, judged by this reading of the clock. -/
  | verified (now : Timestamp)
  /-- The nonce was not seen before. -/
  | accepted
  /-- The device is plugged in, as this one. -/
  | located (device : UsbDeviceInfo)
  /-- The claim holds the lease. -/
  | authorized (device : UsbDeviceInfo)
  /-- Registered under an id, waiting for the lock of the device. -/
  | waiting (id : ℕ)
  | locked (id : ℕ)
  | serving (id : ℕ)
  /-- Done with the device, still registered; `reply` is what the peer was told last. -/
  | leaving (id : ℕ) (reply : Option String)
  | closed (reply : Option String)

structure Task where
  hello : Hello
  stage : Stage

structure Exporter where
  clock : Timestamp
  nonces : NonceCache
  localDevices : String → Option UsbDeviceInfo
  /-- `localDevices` has changed since the watcher last read it. -/
  changed : Bool
  /-- What the watcher has read and not yet acted upon. -/
  watching : Option (String → Option UsbDeviceInfo)
  /-- The `UsbDevice` objects on the API server. -/
  objects : String → Option DeviceBody
  sessions : String → DeviceSessions
  /-- Whether the token of a session is cancelled. -/
  cancelled : ℕ → Bool
  nextId : ℕ
  tasks : ℕ → Option Task
  /-- Every hello that passed both `verify` and the nonce cache so far, with the reading of the
  clock it did so under. -/
  admitted : List (Hello × Timestamp)
  /-- The session that was last registered for a device. -/
  registered : String → Option ℕ

variable (ctx : ExporterContext)

/-! ## `authorize`, in the steps it takes -/

/-- The pre-shared key is read afresh, and reading it can fail. -/
def authenticate (hello : Hello) (psk : Except String (List UInt8)) (now : Timestamp) :
    Except String Unit :=
  match psk with
  | .error e => .error s!"exporter misconfigured: {e}"
  | .ok psk =>
    match hello.verify ctx.hmac psk now.asSecond with
    | .error e => .error s!"authentication failed: {e.display ctx.rt}"
    | .ok () => .ok ()

def locate (hello : Hello) (localDevices : String → Option UsbDeviceInfo) :
    Except String UsbDeviceInfo :=
  match localDevices hello.device with
  | none => .error s!"device {hello.device} is not plugged into node {ctx.node}"
  | some device => .ok device

/-- The lease is authoritative; it is read fresh, and reading it can fail. -/
def checkLease (hello : Hello) (object : Except String (Option DeviceBody)) : Except String Unit :=
  match object with
  | .error e => .error s!"checking lease: {e}"
  | .ok none => .error s!"UsbDevice {hello.device} does not exist"
  | .ok (some object) =>
    match object.attachedTo with
    | none => .error "device is not leased to any claim"
    | some lease =>
      if lease.claimUid = hello.claim.uid ∧ lease.ns = hello.claim.ns ∧
          lease.claim = hello.claim.name then .ok ()
      else .error s!"device is leased to claim {lease.ns}/{lease.claim}"

namespace Exporter

/-- The task goes on, or is rejected. -/
def goOn (s : Exporter) (t : ℕ) (hello : Hello) (outcome : Except String Stage) : Exporter :=
  { s with tasks := Function.update s.tasks t (some ⟨hello, match outcome with
    | .ok stage => stage
    | .error reason => .closed (some reason)⟩) }

/-- Take the lock of the nonce cache, with the time that was read before. -/
def checkNonce (s : Exporter) (t : ℕ) (hello : Hello) (now : Timestamp) : Exporter :=
  match s.nonces.checkAndInsert hello.nonce hello.timestamp now.asSecond with
  | (.error e, nonces) =>
    { s with nonces := nonces }.goOn t hello (.error (e.display ctx.rt))
  | (.ok (), nonces) =>
    { s with nonces := nonces, admitted := (hello, now) :: s.admitted }.goOn t hello (.ok .accepted)

/-! ## Sessions -/

/-- Registers a session as the device's active one, cancelling whichever session held the device
before. -/
def beginSession (s : Exporter) (t : ℕ) (hello : Hello) (device : UsbDeviceInfo) : Exporter :=
  let entry := s.sessions hello.device
  let session : ActiveSession :=
    { id := s.nextId
      claim := s!"{hello.claim.ns}/{hello.claim.name}"
      busDev := device.busDev }
  { s with
    sessions := Function.update s.sessions hello.device { entry with active := some session }
    cancelled := match entry.active with
      | some previous => Function.update s.cancelled previous.id true
      | none => s.cancelled
    nextId := s.nextId + 1
    tasks := Function.update s.tasks t (some ⟨hello, .waiting s.nextId⟩)
    registered := Function.update s.registered hello.device (some s.nextId) }

/-- Replace what is kept about the sessions of a device. -/
def withSessions (s : Exporter) (device : String) (entry : DeviceSessions) : Exporter :=
  { s with sessions := Function.update s.sessions device entry }

/-- Set who holds the lock of a device. -/
def setBusy (s : Exporter) (device : String) (holder : Option ℕ) : Exporter :=
  s.withSessions device { s.sessions device with busy := holder }

/-- Take the registration back, if it is still this session's. -/
def endSession (s : Exporter) (device : String) (id : ℕ) : Exporter :=
  if (s.sessions device).active.any (·.id == id) then
    s.withSessions device { s.sessions device with active := none }
  else s

/-- The sessions a look at `devices` ends: their device is unplugged or re-enumerated. -/
def EndedBy (s : Exporter) (devices : String → Option UsbDeviceInfo) (id : ℕ) : Prop :=
  ∃ name active, (s.sessions name).active = some active ∧ active.id = id ∧
    ((devices name).all fun d => d.busDev ≠ active.busDev) = true

/-! ## Steps -/

inductive Label
  | tick
  | hello (t : ℕ)
  | nonce (t : ℕ)
  | locate (t : ℕ)
  | lease (t : ℕ)
  | beginSession (t : ℕ)
  | lock (t : ℕ)
  /-- The previous session did not stop in time. -/
  | giveUp (t : ℕ)
  /-- The session was cancelled while it waited. -/
  | superseded (t : ℕ)
  /-- The session passes the `is_cancelled` check. -/
  | serve (t : ℕ)
  /-- `serve` returns, and the lock is released. -/
  | served (t : ℕ)
  | endSession (t : ℕ)
  | plugged
  | observe
  | watch
  | leased

inductive Step : Exporter → Label → Exporter → Prop
  | tick {s : Exporter} {now : Timestamp} (h : s.clock.asSecond.toInt ≤ now.asSecond.toInt) :
      Step s .tick { s with clock := now }
  | hello {s : Exporter} {t : ℕ} (hello : Hello) (psk : Except String (List UInt8))
      (ht : s.tasks t = none) :
      Step s (.hello t) (s.goOn t hello
        ((authenticate ctx hello psk s.clock).map fun _ => .verified s.clock))
  | nonce {s : Exporter} {t : ℕ} {hello : Hello} {now : Timestamp}
      (ht : s.tasks t = some ⟨hello, .verified now⟩) :
      Step s (.nonce t) (s.checkNonce ctx t hello now)
  | locate {s : Exporter} {t : ℕ} {hello : Hello} (ht : s.tasks t = some ⟨hello, .accepted⟩) :
      Step s (.locate t) (s.goOn t hello ((locate ctx hello s.localDevices).map .located))
  | lease {s : Exporter} {t : ℕ} {hello : Hello} {device : UsbDeviceInfo}
      {answer : Except String (Option DeviceBody)}
      (ht : s.tasks t = some ⟨hello, .located device⟩)
      (hanswer : answer = .ok (s.objects hello.device) ∨ ∃ e, answer = .error e) :
      Step s (.lease t) (s.goOn t hello
        ((checkLease hello answer).map fun _ => .authorized device))
  | beginSession {s : Exporter} {t : ℕ} {hello : Hello} {device : UsbDeviceInfo}
      (ht : s.tasks t = some ⟨hello, .authorized device⟩) :
      Step s (.beginSession t) (s.beginSession t hello device)
  | lock {s : Exporter} {t : ℕ} {hello : Hello} {id : ℕ}
      (ht : s.tasks t = some ⟨hello, .waiting id⟩)
      (hfree : (s.sessions hello.device).busy = none) :
      Step s (.lock t) ((s.setBusy hello.device (some t)).goOn t hello (.ok (.locked id)))
  | giveUp {s : Exporter} {t : ℕ} {hello : Hello} {id : ℕ}
      (ht : s.tasks t = some ⟨hello, .waiting id⟩) :
      Step s (.giveUp t) (s.goOn t hello
        (.ok (.leaving id (some "previous session did not stop in time"))))
  | superseded {s : Exporter} {t : ℕ} {hello : Hello} {id : ℕ}
      (ht : s.tasks t = some ⟨hello, .locked id⟩) (hcancel : s.cancelled id = true) :
      Step s (.superseded t) ((s.setBusy hello.device none).goOn t hello
        (.ok (.leaving id (some "session superseded"))))
  | serve {s : Exporter} {t : ℕ} {hello : Hello} {id : ℕ}
      (ht : s.tasks t = some ⟨hello, .locked id⟩) (hcancel : s.cancelled id = false) :
      Step s (.serve t) (s.goOn t hello (.ok (.serving id)))
  | served {s : Exporter} {t : ℕ} {hello : Hello} {id : ℕ} (reply : Option String)
      (ht : s.tasks t = some ⟨hello, .serving id⟩) :
      Step s (.served t) ((s.setBusy hello.device none).goOn t hello (.ok (.leaving id reply)))
  | endSession {s : Exporter} {t : ℕ} {hello : Hello} {id : ℕ} {reply : Option String}
      (ht : s.tasks t = some ⟨hello, .leaving id reply⟩) :
      Step s (.endSession t) ((s.endSession hello.device id).goOn t hello (.ok (.closed reply)))
  | plugged {s : Exporter} (localDevices : String → Option UsbDeviceInfo) :
      Step s .plugged { s with localDevices := localDevices, changed := true }
  | observe {s : Exporter} (hchanged : s.changed = true) (hidle : s.watching = none) :
      Step s .observe { s with changed := false, watching := some s.localDevices }
  | watch {s : Exporter} {devices : String → Option UsbDeviceInfo} {cancelled : ℕ → Bool}
      (hwatching : s.watching = some devices)
      (h : ∀ id, cancelled id = true ↔ s.cancelled id = true ∨ s.EndedBy devices id) :
      Step s .watch { s with cancelled := cancelled, watching := none }
  | leased {s : Exporter} (objects : String → Option DeviceBody) :
      Step s .leased { s with objects := objects }

/-- The exporter as it starts. -/
structure Init (s : Exporter) : Prop where
  watching : s.watching = none
  nonces : s.nonces = .empty
  sessions : ∀ name, s.sessions name = {}
  cancelled : ∀ id, s.cancelled id = false
  nextId : s.nextId = 1
  tasks : ∀ t, s.tasks t = none
  admitted : s.admitted = []
  registered : ∀ name, s.registered name = none

end Exporter

/-- One exporter process. -/
def exporter : System Exporter Exporter.Label where
  init := Exporter.Init
  step := Exporter.Step ctx

/-! An exporter that has just started, at second 1000. -/

def sampleContext : ExporterContext := ⟨.newYear, helloHmac, "node-a"⟩

def second (n : ℕ) (h : n ≤ 253402207200) : Timestamp where
  asSecond := Int64.ofNat n
  inRange := by
    rw [Int64.toInt_ofNat_of_lt (by omega)]
    omega

def startTime : Timestamp := second 1000 (by decide)

def startedExporter : Exporter where
  clock := startTime
  nonces := .empty
  localDevices _ := none
  changed := false
  watching := none
  objects _ := none
  sessions _ := {}
  cancelled _ := false
  nextId := 1
  tasks _ := none
  admitted := []
  registered _ := none

/-- A connection presents a hello, with the key in place. -/
def Exporter.presentHello (s : Exporter) (t : ℕ) (hello : Hello) : Exporter :=
  s.goOn t hello ((authenticate sampleContext hello (.ok (Text.bytes "secret")) s.clock).map
    fun _ => .verified s.clock)

lemma presentHello_step (s : Exporter) (t : ℕ) (hello : Hello) (ht : s.tasks t = none) :
    Exporter.Step sampleContext s (.hello t) (s.presentHello t hello) :=
  .hello hello _ ht

/-- A hello that is authentic gets as far as the nonce cache. -/
lemma presentHello_nonce (s : Exporter) (t : ℕ) (hello : Hello)
    (hok : authenticate sampleContext hello (.ok (Text.bytes "secret")) s.clock = .ok ()) :
    Exporter.Step sampleContext (s.presentHello t hello) (.nonce t)
      ((s.presentHello t hello).checkNonce sampleContext t hello s.clock) := by
  refine .nonce ?_
  unfold Exporter.presentHello Exporter.goOn
  rw [hok]
  exact Function.update_self _ _ _

lemma firstHello_verifies :
    authenticate sampleContext firstHello (.ok (Text.bytes "secret")) startTime = .ok () := by
  decide +kernel

lemma startedExporter_init : startedExporter.Init :=
  ⟨rfl, rfl, fun _ => rfl, fun _ => rfl, rfl, fun _ => rfl, rfl, fun _ => rfl⟩

end AtomicUsb
