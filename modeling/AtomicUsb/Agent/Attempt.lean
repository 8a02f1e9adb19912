import AtomicUsb.Agent.Attacher
import AtomicUsb.Agent.Discovery
import AtomicUsb.Psk

/-!
# Attaching a device

One attempt of a session to attach its device: look up the device, the instance and its usbredir
socket in the caches, ask the exporter for the device, plug in on the VM's side, pass QEMU's
greeting on, and splice the two streams until either ends.

The parts are programs.  What they ask of their surroundings is a `SessionCall`: some are answered
at once, the others are where the task waits and where it can be cut off.  A session's reporter
outlives the attempt, so it is read and written by calls too.  An attempt that waits for QEMU's
greeting goes round a loop for as long as the VM is paused; `Progress` says where an attempt goes
on.

Logging and the socket options of `tune_tcp` are left out.
-/

namespace AtomicUsb

/-! ## Calls -/

inductive SessionCall
  | now
  /-- The monotonic clock, in milliseconds. -/
  | instant
  /-- A device, an instance and the `status.connection` of a claim, as the caches have them. -/
  | device (name : String)
  | vmi (ns name : String)
  | connection (ns name : String)
  /-- Sixteen random bytes. -/
  | random
  | fs (call : FsCall)
  /-- The session's reporter, its `since` and its `last`. -/
  | reporter
  | setSince (since : String)
  | remember (entry : ConnectionState × String × Bool)
  | api (call : ApiCall)
  | connectTcp (addr : String) (millis : ℕ)
  | sendHello (hello : Hello)
  | readReply (millis : ℕ)
  | connectVm (path : String)
  | readVm (millis : ℕ)
  /-- Write to the exporter what QEMU sent. -/
  | forward (bytes : List UInt8)
  /-- Splice the two streams. -/
  | copy

/-- `none` is a timeout. -/
abbrev SessionCall.Answer : SessionCall → Type
  | .now => Timestamp
  | .instant => ℕ
  | .device _ => Option UsbDevice
  | .vmi _ _ => Option VmiInfo
  | .connection _ _ => Option ConnectionStatus
  | .random => List UInt8
  | .fs call => call.Answer
  | .reporter => Reporter
  | .setSince _ => Unit
  | .remember _ => Unit
  | .api call => call.Answer
  | .connectTcp _ _ => Option (Except String Unit)
  | .sendHello _ => Except String Unit
  | .readReply _ => Option (Except String Reply)
  | .connectVm _ => Except String Unit
  | .readVm _ => Option (Except String (List UInt8))
  | .forward _ => Except String Unit
  | .copy => Except String (ℕ × ℕ)

/-- The call is an await. -/
def SessionCall.waits : SessionCall → Bool
  | .api _ | .connectTcp _ _ | .sendHello _ | .readReply _ | .connectVm _ | .readVm _
  | .forward _ | .copy => true
  | _ => false

abbrev SessionProg := Prog SessionCall SessionCall.Answer

abbrev SessionEvent := Prog.Event SessionCall SessionCall.Answer

inductive AttemptError
  /-- A precondition is not met yet; retry when cluster state changes. -/
  | waiting (message : String)
  /-- The data path failed; retry with backoff. -/
  | failed (message : String)

abbrev Attempt := ExceptT AttemptError SessionProg

abbrev request (call : SessionCall) : SessionProg call.Answer := Prog.perform call

def ask (call : SessionCall) : Attempt call.Answer := ExceptT.lift (request call)

def onFs {α : Type} (p : FsProg α) : Attempt α :=
  ExceptT.lift (p.embed SessionCall.fs fun _ answer => answer)

/-! The ways to leave an attempt through `?`. -/

def require (b : Bool) (e : AttemptError) : Attempt Unit := if b then pure () else throw e

def okOr {α : Type} (o : Option α) (e : AttemptError) : Attempt α :=
  match o with
  | some a => pure a
  | none => throw e

def mapErr {α : Type} (r : Except String α) (f : String → AttemptError) : Attempt α :=
  match r with
  | .ok a => pure a
  | .error e => throw (f e)

/-- The result of something under a timeout. -/
def inTime {α : Type} (r : Option (Except String α)) (late : AttemptError)
    (f : String → AttemptError) : Attempt α :=
  match r with
  | some r => mapErr r f
  | none => throw late

/-! Milliseconds. -/

def connectTimeout : ℕ := 10000

def handshakeTimeout : ℕ := 40000

def qemuGreetingTimeout : ℕ := 10000

def minBackoff : ℕ := 1000

def maxBackoff : ℕ := 30000

def healthySession : ℕ := 30000

structure SessionContext where
  rt : Runtime
  hmac : List UInt8 → List UInt8 → List UInt8
  config : AgentConfig
  pskFile : String
  locator : SocketLocator

def ExporterEndpoint.socketAddr (e : ExporterEndpoint) : String :=
  if ':' ∈ e.address.toList then s!"[{e.address}]:{e.port}" else s!"{e.address}:{e.port}"

variable (ctx : SessionContext) (spec : SessionSpec)

/-! ## Reports -/

/-- The reporter's state or resume flag changes with this report. -/
def Reporter.changes (r : Reporter) (state : ConnectionState) (awaitingResume : Bool) : Bool :=
  r.last.all fun l => l.1 != state || l.2.2 != awaitingResume

/-- When the reported state began. -/
def reportSince (r : Reporter) (state : ConnectionState) (awaitingResume : Bool) :
    SessionProg String :=
  if r.changes state awaitingResume then do
    let now ← request .now
    pure (ctx.rt.rfc3339 now.asSecond.toInt)
  else pure r.since

def reportPatch (state : ConnectionState) (message since : String) (awaitingResume : Bool) :
    ApiCall :=
  .patchClaimStatus (.agent ctx.config.node) spec.claim.ns spec.claim.name
    { connection := .value
        { state := state
          node := ctx.config.node
          deviceName := spec.device
          slot := spec.slot
          since := since
          message := some message
          awaitingResume := if awaitingResume then some true else none } }

/-- `report_with`, with the cache it reads and the awaits it makes. -/
def reportWith (state : ConnectionState) (message : String) (awaitingResume : Bool) :
    SessionProg Unit := do
  let r ← request .reporter
  if r.last = some (state, message, awaitingResume) then pure ()
  else
    let current ← request (.connection spec.claim.ns spec.claim.name)
    if state = .disconnected ∧ Reporter.takenOver ctx.config.node current then
      request (.remember (state, message, awaitingResume))
    else
      let since ← reportSince ctx r state awaitingResume
      request (.setSince since)
      match ← request (.api (reportPatch ctx spec state message since awaitingResume)) with
      | .ok () => request (.remember (state, message, awaitingResume))
      | .error .notFound => request (.remember (state, message, awaitingResume))
      | .error _ => pure ()

def report (state : ConnectionState) (message : String) : SessionProg Unit :=
  reportWith ctx spec state message false

/-- The device is spliced onto the slot and only the paused VM is missing. -/
def reportAwaitingResume (message : String) : SessionProg Unit :=
  reportWith ctx spec .connecting message true

/-! ## The attempt -/

/-- What an attempt found to connect to. -/
structure Target where
  exporter : ExporterEndpoint
  sourceNode : String
  socket : String

/-- Where an attempt goes on, or that the device was attached for so many milliseconds. -/
inductive Progress
  /-- Plugged in on the VM's side; QEMU's greeting is next. -/
  | plugged (target : Target)
  | greeted (target : Target) (greeting : List UInt8)
  | ended (millis : ℕ)

def unavailable (device : UsbDevice) : String :=
  let phase := match device.statusRef.phase with
    | some p => p.debug
    | none => "unknown"
  let node := device.statusRef.node.getD "unknown node"
  s!"device is {phase} (last seen on {node})"

def refused (node : String) (reply : Reply) : String :=
  let error := reply.error.getD ""
  s!"exporter on {node} refused: {error}"

/-- The part of `attempt` that looks things up. -/
def findTarget (now : Timestamp) : Attempt Target := do
  let device ← okOr (← ask (.device spec.device)) (.waiting s!"UsbDevice {spec.device} not found")
  require (device.leaseHolder == some spec.claim.uid)
    (.waiting "device lease is not held by this claim")
  require (device.isAvailable ctx.rt now.asSecond.toInt ctx.config.lostAfterSecs)
    (.waiting (unavailable device))
  -- an available device has an exporter; the sources panic if it does not
  let exporter ← okOr device.statusRef.exporter
    (.failed "available devices have an exporter")
  let vmi ← okOr (← ask (.vmi spec.claim.ns spec.vmName))
    (.waiting "VirtualMachineInstance not found")
  require (vmi.uid == spec.vmiUid) (.waiting "VirtualMachineInstance was replaced")
  let pods := vmi.launcherPodsOn ctx.config.node
  let socket ← okOr (← onFs (ctx.locator.locate spec.vmiUid pods spec.slot))
    (.waiting s!"usbredir socket {socketName spec.slot} not found for the VM on this node")
  pure ⟨exporter, device.statusRef.node.getD "", socket⟩

/-- The part of `attempt` that asks the exporter for the device. -/
def openStream (now : Timestamp) (target : Target) : Attempt Unit := do
  let psk ← mapErr (← onFs (readPsk ctx.pskFile)) .failed
  let addr := target.exporter.socketAddr
  inTime (← ask (.connectTcp addr connectTimeout))
    (.failed s!"timed out connecting to exporter {addr} on {target.sourceNode}") fun e =>
    .failed s!"connecting to exporter {addr} on {target.sourceNode}: {e}"
  let random ← ask .random
  let hello := Hello.new ctx.hmac psk spec.device spec.claim now.asSecond random
  mapErr (← ask (.sendHello hello)) fun e => .failed s!"sending handshake: {e}"
  let reply ← inTime (← ask (.readReply handshakeTimeout))
    (.failed s!"exporter on {target.sourceNode} did not answer the handshake") fun e =>
    .failed s!"reading handshake reply: {e}"
  require reply.ok (.failed (refused target.sourceNode reply))

/-- `attempt` up to `read_greeting`. -/
def plugIn : Attempt Progress := do
  let now ← ask .now
  let target ← findTarget ctx spec now
  ExceptT.lift (report ctx spec .connecting s!"connecting to exporter on {target.sourceNode}")
  openStream ctx spec now target
  mapErr (← ask (.connectVm target.socket)) fun e =>
    .failed s!"connecting to {target.socket}: {e}"
  pure (.plugged target)

/-- What `read_greeting` makes of what came from the VM. -/
def heard (target : Target) (paused : Bool) :
    Option (Except String (List UInt8)) → Except AttemptError Progress
  | some (.ok []) => .error (.failed "QEMU closed the usbredir socket")
  | some (.ok greeting) => .ok (.greeted target greeting)
  | some (.error err) => .error (.failed s!"reading from QEMU: {err}")
  | none =>
    if paused then .ok (.plugged target)
    else .error (.failed (s!"QEMU did not answer on {socketName spec.slot}; is the slot used by " ++
      "another usbredir client?"))

/-- One iteration of `read_greeting`. -/
def readGreeting (target : Target) : Attempt Progress := do
  let vmi ← ask (.vmi spec.claim.ns spec.vmName)
  let paused := vmi.any (·.paused)
  if paused then
    ExceptT.lift (reportAwaitingResume ctx spec (s!"ready on {socketName spec.slot} with the " ++
      s!"device from {target.sourceNode}; waiting for the VM to resume"))
  let answer ← ask (.readVm qemuGreetingTimeout)
  ExceptT.mk (pure (heard spec target paused answer))

/-- `attempt` from where QEMU has sent its greeting. -/
def attach (target : Target) (greeting : List UInt8) : Attempt Progress := do
  mapErr (← ask (.forward greeting)) fun e => .failed s!"forwarding to exporter: {e}"
  let started ← ask .instant
  ExceptT.lift (report ctx spec .connected
    s!"attached from {target.sourceNode} via {socketName spec.slot}")
  let _ ← ask .copy
  let ended ← ask .instant
  pure (.ended (ended - started))

end AtomicUsb
