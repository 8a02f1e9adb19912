import AtomicUsb.Proto
import AtomicUsb.Controller.Reconcile

/-!
# Sessions on the VM's side

For every claim whose VM runs on its node, an agent keeps a session that connects the VM's usbredir
slot to the exporter of the device.  `desiredSessions` says which sessions an agent wants, and
`Reporter.reportWith` how a session writes `status.connection` of its claim.
-/

namespace AtomicUsb

structure SessionSpec where
  claim : ClaimRef
  device : String
  slot : ℤ
  vmiUid : String
  vmName : String
  deriving DecidableEq

/-- The caches of an agent. -/
structure AgentView where
  node : String
  claims : List UsbDeviceClaim
  devices : DeviceMap
  vmis : List VmiInfo

namespace AgentView

def vmi (view : AgentView) (ns name : String) : Option VmiInfo :=
  view.vmis.find? fun v => v.ns = ns && v.name = name

/-- The session for one claim: it holds a device lease and its VM is running on this node with
usbredir enabled. -/
def desiredSession (view : AgentView) (claim : UsbDeviceClaim) : Option SessionSpec := do
  let uid ← claim.uid
  let ns ← claim.ns
  guard claim.deletionTimestamp.isNone
  let status ← claim.status
  let deviceName ← status.deviceName
  let slot ← status.slot
  let leaseHeld := (view.devices.get? deviceName).any fun d => d.leaseHolder == some uid
  let vmi ← view.vmi ns claim.spec.vmName
  guard (leaseHeld && vmi.isRunning && vmi.clientPassthrough && vmi.node == some view.node)
  pure
    { claim := ⟨ns, claim.name, uid⟩
      device := deviceName
      slot := slot
      vmiUid := vmi.uid
      vmName := claim.spec.vmName }

def desiredSessions (view : AgentView) : List SessionSpec :=
  view.claims.filterMap view.desiredSession

end AgentView

/-- Writes `status.connection` of the claim when it changes. -/
structure Reporter where
  /-- The last report that was made: state, message, and whether it awaits the resume. -/
  last : Option (ConnectionState × String × Bool)
  since : String

namespace Reporter

variable (rt : Runtime)

def new (now : ℤ) : Reporter := ⟨none, rt.rfc3339 now⟩

/-- The status to report; its time is that of the last change of state. -/
def connection (r : Reporter) (node : String) (spec : SessionSpec) (now : ℤ)
    (state : ConnectionState) (message : String) (awaitingResume : Bool) : ConnectionStatus where
  state := state
  node := node
  deviceName := spec.device
  slot := spec.slot
  since := if r.last.all fun l => l.1 != state || l.2.2 != awaitingResume then rt.rfc3339 now
    else r.since
  message := some message
  awaitingResume := if awaitingResume then some true else none

/-- The agent's cache shows the report of another node that took over the VM. -/
def takenOver (node : String) (current : Option ConnectionStatus) : Bool :=
  current.any fun c => c.node != node && c.state == .connected

/-- The reporter after its patch was answered. -/
def after (r : Reporter) (entry : ConnectionState × String × Bool) (since : String) :
    Except ApiError Unit → Reporter
  | .ok () => ⟨some entry, since⟩
  | .error .notFound => ⟨some entry, since⟩
  | .error _ => ⟨r.last, since⟩

/-- One report by the session on `node`, whose cache shows `current` for the claim. -/
def reportWith (r : Reporter) (node : String) (spec : SessionSpec)
    (current : Option ConnectionStatus) (now : ℤ) (state : ConnectionState) (message : String)
    (awaitingResume : Bool) : ApiProg Reporter :=
  let entry := (state, message, awaitingResume)
  if r.last = some entry then pure r
  else if state = .disconnected ∧ takenOver node current then pure { r with last := some entry }
  else
    let connection := r.connection rt node spec now state message awaitingResume
    do
      let answer ← patchClaimStatus (.agent node) spec.claim.ns spec.claim.name
        { connection := .value connection }
      pure (r.after entry connection.since answer)

def report (r : Reporter) (node : String) (spec : SessionSpec) (current : Option ConnectionStatus)
    (now : ℤ) (state : ConnectionState) (message : String) : ApiProg Reporter :=
  r.reportWith rt node spec current now state message false

/-- The device is spliced onto the slot and only the paused VM is missing. -/
def reportAwaitingResume (r : Reporter) (node : String) (spec : SessionSpec)
    (current : Option ConnectionStatus) (now : ℤ) (message : String) : ApiProg Reporter :=
  r.reportWith rt node spec current now .connecting message true

/-- A session only ever writes the connection of its own claim, from its own node. -/
lemma reportWith_issues {r : Reporter} {node : String} {spec : SessionSpec}
    {current : Option ConnectionStatus} {now : ℤ} {state : ConnectionState} {message : String}
    {awaitingResume : Bool} :
    (r.reportWith rt node spec current now state message awaitingResume).Issues fun call =>
      ∃ connection, connection.node = node ∧ call = .patchClaimStatus (.agent node) spec.claim.ns
        spec.claim.name { connection := .value connection } := by
  unfold reportWith
  dsimp only
  split_ifs
  · trivial
  · trivial
  · exact ⟨⟨_, rfl, rfl⟩, fun _ => trivial⟩

/-- The report is not written: it was made before, or it is a disconnection that is nobody's
business any more. -/
def Skips (r : Reporter) (node : String) (current : Option ConnectionStatus)
    (state : ConnectionState) (message : String) (awaitingResume : Bool) : Prop :=
  r.last = some (state, message, awaitingResume) ∨ state = .disconnected ∧ takenOver node current

instance {r : Reporter} {node : String} {current : Option ConnectionStatus}
    {state : ConnectionState} {message : String} {awaitingResume : Bool} :
    Decidable (r.Skips node current state message awaitingResume) :=
  inferInstanceAs (Decidable (_ ∨ _))

lemma reportWith_of_skips {r : Reporter} {node : String} {spec : SessionSpec}
    {current : Option ConnectionStatus} {now : ℤ} {state : ConnectionState} {message : String}
    {awaitingResume : Bool} (h : r.Skips node current state message awaitingResume) :
    ∃ r', r.reportWith rt node spec current now state message awaitingResume = pure r' := by
  unfold reportWith
  dsimp only
  split_ifs with hlast hguard
  · exact ⟨_, rfl⟩
  · exact ⟨_, rfl⟩
  · exact absurd h (not_or.mpr ⟨hlast, hguard⟩)

/-- A report that was not made before and stands in nobody's way is one patch. -/
lemma reportWith_eq_call {r : Reporter} {node : String} {spec : SessionSpec}
    {current : Option ConnectionStatus} {now : ℤ} {state : ConnectionState} {message : String}
    {awaitingResume : Bool} (h : ¬ r.Skips node current state message awaitingResume) :
    r.reportWith rt node spec current now state message awaitingResume =
      .call (.patchClaimStatus (.agent node) spec.claim.ns spec.claim.name
          { connection := .value (r.connection rt node spec now state message awaitingResume) })
        fun answer => pure (r.after (state, message, awaitingResume)
          (r.connection rt node spec now state message awaitingResume).since answer) := by
  unfold reportWith
  dsimp only
  rw [if_neg fun hlast => h (Or.inl hlast), if_neg fun hguard => h (Or.inr hguard)]
  rfl

end Reporter

end AtomicUsb
