import AtomicUsb.Api
import AtomicUsb.Controller.Decide
import AtomicUsb.Controller.Slots

/-!
# The reconcile pass

`reconcileAll` is one pass of the controller: mark devices without heartbeat as lost and release
leases of dead claims, allocate slots, reconcile every claim, then hold or release boots.  It is
a program over `ApiCall`, so it says what is written and in which order but not what the API
server answers; everything it reads comes from a `Snapshot` of the caches taken at its start.

Two outcomes of a pass are not in its return value in the sources and are returned here so that
they can be spoken of: the `released` map it leaves behind, and what it concluded for each claim.
-/

namespace AtomicUsb

structure ControllerConfig where
  /-- Whole seconds without a heartbeat after which a device is lost. -/
  lostAfter : ℕ

/-- What a pass is run with besides its snapshot. -/
structure PassContext where
  rt : Runtime
  config : ControllerConfig
  now : ℤ

abbrev DeviceMap := SortedMap UsbDevice.name

/-- The caches as a pass finds them.  A reflector store has one object per namespace and name, and
no two objects share a UID. -/
structure Snapshot where
  claims : List UsbDeviceClaim
  devices : DeviceMap
  vms : List VmInfo
  vmis : List VmiInfo
  claims_nodup : (claims.map fun c => (c.ns.getD "", c.name)).Nodup
  uids_nodup : (claims.filterMap (·.uid)).Nodup
  vms_nodup : (vms.map fun v => (v.ns, v.name)).Nodup
  vmis_nodup : (vmis.map fun v => (v.ns, v.name)).Nodup

/-- Caches with nothing in them. -/
def Snapshot.empty : Snapshot where
  claims := []
  devices := ⟨[], List.Pairwise.nil⟩
  vms := []
  vmis := []
  claims_nodup := List.nodup_nil
  uids_nodup := List.nodup_nil
  vms_nodup := List.nodup_nil
  vmis_nodup := List.nodup_nil

/-- Instances this controller resumed, with the reason, by VMI UID. -/
abbrev Released := String → Option String

namespace Snapshot

def vm? (snap : Snapshot) (key : String × String) : Option VmInfo :=
  snap.vms.find? fun v => (v.ns, v.name) = key

def vmi? (snap : Snapshot) (key : String × String) : Option VmiInfo :=
  snap.vmis.find? fun v => (v.ns, v.name) = key

end Snapshot

namespace UsbDeviceClaim

def namespaceOrDefault (c : UsbDeviceClaim) : String := c.ns.getD ""

def uidOrDefault (c : UsbDeviceClaim) : String := c.uid.getD ""

def statusOrDefault (c : UsbDeviceClaim) : UsbDeviceClaimStatus := c.status.getD {}

/-- Namespace and name of the claim's VM. -/
def vmKey (c : UsbDeviceClaim) : String × String := (c.namespaceOrDefault, c.spec.vmName)

/-- Not being deleted, and with a UID. -/
def isLive (c : UsbDeviceClaim) : Bool := c.deletionTimestamp.isNone && c.uid.isSome

/-- Oldest first, then by namespace and name; what is missing comes first. -/
def compareAge (a b : UsbDeviceClaim) : Ordering :=
  (compare a.creationTimestamp b.creationTimestamp).then
    ((compare a.ns b.ns).then (compare a.name b.name))

def slotRequest (c : UsbDeviceClaim) : SlotRequest where
  uid := c.uidOrDefault
  name := c.name
  vm := c.vmKey
  pinned := c.spec.slot
  previous := c.status.bind (·.slot)

end UsbDeviceClaim

/-- The claims a pass works on, oldest first. -/
def Snapshot.liveClaims (snap : Snapshot) : List UsbDeviceClaim :=
  (snap.claims.filter (·.isLive)).insertionSort fun a b => (a.compareAge b).isLE

/-- The slots the live claims get. -/
def Snapshot.slots (snap : Snapshot) : SlotResult :=
  allocateSlots (snap.liveClaims.map (·.slotRequest))

/-- Merge-patches a device's status guarded by its resourceVersion.  `none` means someone else
changed the device first, or it was deleted. -/
def casPatchStatus (by_ : Writer) (device : UsbDevice) (patch : DeviceStatusPatch) :
    ApiProg (Except ApiError (Option UsbDevice)) := do
  match ← patchDeviceStatus by_ device.name (some device.resourceVersion) patch with
  | .ok updated => pure (.ok (some (UsbDevice.ofStored device.name updated)))
  | .error .other => pure (.error .other)
  | .error _ => pure (.ok none)

/-- Patch one device of the map and replace the copy; the flag asks for a quick retry after a
lost race. -/
def updateDevice (by_ : Writer) (device : UsbDevice) (patch : DeviceStatusPatch)
    (devices : DeviceMap) : ApiProg (DeviceMap × Except ApiError Bool) := do
  match ← casPatchStatus by_ device patch with
  | .error e => pure (devices, .error e)
  | .ok (some updated) => pure (devices.set updated, .ok false)
  | .ok none => pure (devices, .ok true)

/-! ## Devices -/

variable (ctx : PassContext)

def PassContext.lostAfter : ℤ := (ctx.config.lostAfter : ℤ)

/-- A device that claims to be available without a fresh heartbeat. -/
def UsbDevice.isSilent (d : UsbDevice) : Bool :=
  d.statusRef.phase == some .available &&
    (ctx.rt.ageSecs d.statusRef.lastSeen ctx.now).all fun age => ctx.lostAfter < age

def lostPatch (d : UsbDevice) : DeviceStatusPatch :=
  let node := d.statusRef.node.getD "?"
  { phase := .value .lost
    exporter := .null
    message := .value s!"no heartbeat from the agent on {node} for over {ctx.lostAfter}s" }

/-- First half of the device loop: mark the device as lost. -/
def markLost (name : String) (devices : DeviceMap) : ApiProg (DeviceMap × Except ApiError Bool) :=
  match devices.get? name with
  | none => pure (devices, .ok false)
  | some d =>
    if d.isSilent ctx then updateDevice .lostPass d (lostPatch ctx d) devices
    else pure (devices, .ok false)

/-- Second half of the device loop: release the lease of a deleted claim. -/
def releaseOrphan (live : List String) (name : String) (devices : DeviceMap) :
    ApiProg (DeviceMap × Except ApiError Bool) :=
  match devices.get? name with
  | none => pure (devices, .ok false)
  | some d =>
    match d.attachedTo with
    | none => pure (devices, .ok false)
    | some lease =>
      if lease.claimUid ∈ live then pure (devices, .ok false)
      else updateDevice (.orphanPass live) d { attachedTo := .null } devices

/-- The device loop over the names that are left. -/
def devicePass (live : List String) :
    List String → DeviceMap → ApiProg (DeviceMap × Except ApiError Bool)
  | [], devices => pure (devices, .ok false)
  | name :: names, devices =>
    (markLost ctx name devices).andThen fun devices requeue₁ =>
    (releaseOrphan live name devices).andThen fun devices requeue₂ =>
    (devicePass live names devices).andThen fun devices requeue₃ =>
    pure (devices, .ok (requeue₁ || requeue₂ || requeue₃))

/-! ## Claims -/

/-- Why a claim can never hold a device, if so. -/
def invalidReason (claim : UsbDeviceClaim) (slots : SlotResult) : Option String :=
  match claim.spec.selector.validate ctx.rt with
  | .error reason => some reason
  | .ok () =>
    if claim.spec.vmName = "" then some "spec.vmName is required"
    else
      match slots claim.uidOrDefault with
      | some (.error reason) => some reason
      | _ => none

def grantedSlot (claim : UsbDeviceClaim) (slots : SlotResult) : Option ℤ :=
  match slots claim.uidOrDefault with
  | some (.ok slot) => some slot
  | _ => none

/-- Bind the claim's lifetime to its VM.  The flag asks for a quick retry. -/
def bindOwner (claim : UsbDeviceClaim) (vm : Option VmInfo) (vmi : Option VmiInfo)
    (devices : DeviceMap) : ApiProg (DeviceMap × Except ApiError Bool) :=
  if claim.spec.vmName = "" then pure (devices, .ok false)
  else
    match claimOwnerReferences claim.ownerReferences claim.spec.vmName (vmOwner vm vmi) with
    | none => pure (devices, .ok false)
    | some ownerReferences => do
      match ← patchOwnerReferences (.reconciling claim.uidOrDefault) claim.namespaceOrDefault
          claim.name claim.resourceVersion ownerReferences with
      | .ok () => pure (devices, .ok false)
      | .error .other => pure (devices, .error .other)
      | .error _ => pure (devices, .ok true)

def heldBy (uid : String) (devices : DeviceMap) : List String :=
  (devices.entries.filter fun d => d.leaseHolder == some uid).map (·.name)

def available (devices : DeviceMap) (name : String) : Bool :=
  (devices.get? name).any fun d => d.isAvailable ctx.rt ctx.now ctx.lostAfter

/-- The held device the claim goes on with: the recorded one first, then available ones. -/
def currentDevice (claim : UsbDeviceClaim) (devices : DeviceMap) (held : List String) :
    Option String :=
  (held.filter fun n => (devices.get? n).any claim.spec.selector.matches).argmin fun n =>
    toLex (decide (claim.statusOrDefault.deviceName ≠ some n),
      toLex (!available ctx devices n, n))

/-- The free device to lease: an available one, or any if the claim holds none. -/
def freeCandidate (claim : UsbDeviceClaim) (devices : DeviceMap) (current : Option String) :
    Option UsbDevice :=
  let free := devices.entries.filter fun d =>
    d.leaseHolder == none && claim.spec.selector.matches d
  let first := (sortByKey (fun d : UsbDevice =>
    toLex (!d.isAvailable ctx.rt ctx.now ctx.lostAfter, d.name)) free).head?
  first.filter fun d => d.isAvailable ctx.rt ctx.now ctx.lostAfter || current.isNone

def leaseFor (claim : UsbDeviceClaim) : Attachment where
  ns := claim.namespaceOrDefault
  claim := claim.name
  claimUid := claim.uidOrDefault
  vmName := claim.spec.vmName
  since := ctx.rt.rfc3339 ctx.now

/-- Choose the claim's device, leasing a free one if that is better than what it holds. -/
def leaseTarget (claim : UsbDeviceClaim) (mayHold : Bool) (held : List String)
    (devices : DeviceMap) : ApiProg (DeviceMap × Except ApiError (Option String × Bool)) :=
  if !mayHold then pure (devices, .ok (none, false))
  else
    let current := currentDevice ctx claim devices held
    if current.any (available ctx devices) then pure (devices, .ok (current, false))
    else
      match freeCandidate ctx claim devices current with
      | none => pure (devices, .ok (current, false))
      | some candidate => do
        match ← updateDevice (.reconciling claim.uidOrDefault) candidate
            { attachedTo := .value (leaseFor ctx claim) } devices with
        | (devices, .error e) => pure (devices, .error e)
        | (devices, .ok false) => pure (devices, .ok (some candidate.name, false))
        | (devices, .ok true) => pure (devices, .ok (current, true))

/-- Release the held devices the claim does not go on with. -/
def releaseOthers (uid : String) :
    List String → DeviceMap → ApiProg (DeviceMap × Except ApiError Bool)
  | [], devices => pure (devices, .ok false)
  | name :: names, devices =>
    (match devices.get? name with
      | none => pure (devices, .ok false)
      | some d => updateDevice (.reconciling uid) d { attachedTo := .null } devices
      : ApiProg (DeviceMap × Except ApiError Bool)).andThen fun devices requeue₁ =>
    (releaseOthers uid names devices).andThen fun devices requeue₂ =>
    pure (devices, .ok (requeue₁ || requeue₂))

/-- The part of a claim's status the controller reports. -/
structure ClaimReport where
  phase : Option ClaimPhase
  deviceName : Option String
  sourceNode : Option String
  slot : Option ℤ
  message : Option String
  observedGeneration : Option ℤ
  deriving DecidableEq

def UsbDeviceClaimStatus.report (s : UsbDeviceClaimStatus) : ClaimReport where
  phase := s.phase
  deviceName := s.deviceName
  sourceNode := s.sourceNode
  slot := s.slot
  message := s.message
  observedGeneration := s.observedGeneration

/-- The phase and message of a claim bound to `target`. -/
def claimPhase (claim : UsbDeviceClaim) (vm : Option VmInfo) (vmi : Option VmiInfo)
    (slots : SlotResult) (target : Option String) (devices : DeviceMap) : ClaimPhase × String :=
  let device := target.bind devices.get?
  computePhase
    { invalid := invalidReason ctx claim slots
      device := device
      deviceAvailable := device.any fun d => d.isAvailable ctx.rt ctx.now ctx.lostAfter
      vm := vm
      vmi := vmi
      vmPresent := vmPresent vm vmi
      claim := claim
      slot := grantedSlot claim slots }

def desiredReport (claim : UsbDeviceClaim) (vm : Option VmInfo) (vmi : Option VmiInfo)
    (slots : SlotResult) (target : Option String) (devices : DeviceMap) : ClaimReport :=
  let (phase, message) := claimPhase ctx claim vm vmi slots target devices
  { phase := some phase
    deviceName := target
    sourceNode := (target.bind devices.get?).bind (·.statusRef.node)
    slot := grantedSlot claim slots
    message := some message
    observedGeneration := claim.generation }

/-- The patch that makes a report the stored one, dropping a boot-hold record if asked to. -/
def ClaimReport.toPatch (r : ClaimReport) (dropBootHold : Bool) : ClaimStatusPatch where
  phase := .ofOption r.phase
  deviceName := .ofOption r.deviceName
  sourceNode := .ofOption r.sourceNode
  slot := .ofOption r.slot
  message := .ofOption r.message
  observedGeneration := .ofOption r.observedGeneration
  bootHold := if dropBootHold then .null else .absent

/-- A claim that no longer holds a boot must not keep a stale report. -/
def UsbDeviceClaim.staleBootHold (c : UsbDeviceClaim) : Bool :=
  c.spec.holdBoot.isNone && c.statusOrDefault.bootHold.isSome

/-- Write the claim's status when it changes. -/
def writeReport (claim : UsbDeviceClaim) (desired : ClaimReport) (devices : DeviceMap) :
    ApiProg (DeviceMap × Except ApiError Unit) :=
  if desired ≠ claim.statusOrDefault.report ∨ claim.staleBootHold then do
    match ← patchClaimStatus (.reconciling claim.uidOrDefault) claim.namespaceOrDefault
        claim.name (desired.toPatch claim.staleBootHold) with
    | .ok () => pure (devices, .ok ())
    | .error .notFound => pure (devices, .ok ())
    | .error e => pure (devices, .error e)
  else pure (devices, .ok ())

/-- Ready for a held boot: attached, or spliced onto the slot of a paused VM that only has to
resume to take it. -/
def readyForBoot (claim : UsbDeviceClaim) (vmi : Option VmiInfo) (phase : ClaimPhase)
    (target : Option String) (slot : Option ℤ) : Bool :=
  phase == .attached || claim.statusOrDefault.connection.any fun c =>
    c.awaitingResume == some true && some c.node == vmi.bind (·.node) &&
      some c.deviceName == target && some c.slot == slot

/-- What the boot-hold pass needs to know about a reconciled claim. -/
structure ClaimOutcome where
  /-- A quick retry is needed. -/
  requeue : Bool
  /-- Set when the claim holds its VM's boot. -/
  hold : Option BootHoldClaim

def holdOf (claim : UsbDeviceClaim) (invalid ready : Bool) : Option BootHoldClaim :=
  claim.spec.holdBoot.map fun hold =>
    { name := claim.name
      ready := ready
      invalid := invalid
      timeoutSeconds := hold.timeout
      current := claim.statusOrDefault.bootHold }

def reconcileClaim (snap : Snapshot) (slots : SlotResult) (claim : UsbDeviceClaim)
    (devices : DeviceMap) : ApiProg (DeviceMap × Except ApiError ClaimOutcome) :=
  let vm := snap.vm? claim.vmKey
  let vmi := snap.vmi? claim.vmKey
  let uid := claim.uidOrDefault
  let invalid := invalidReason ctx claim slots
  (bindOwner claim vm vmi devices).andThen fun devices requeue₁ =>
  let held := heldBy uid devices
  (leaseTarget ctx claim (invalid.isNone && vmPresent vm vmi) held devices).andThen
    fun devices (target, requeue₂) =>
  (releaseOthers uid (held.filter fun n => some n ≠ target) devices).andThen
    fun devices requeue₃ =>
  (writeReport claim (desiredReport ctx claim vm vmi slots target devices) devices).andThen
    fun devices () =>
  let phase := (claimPhase ctx claim vm vmi slots target devices).1
  let ready := readyForBoot claim vmi phase target (grantedSlot claim slots)
  pure (devices, .ok
    { requeue := requeue₁ || requeue₂ || requeue₃
      hold := holdOf claim invalid.isSome ready })

/-- The claim loop.  A claim that fails is skipped; what it did to the devices stays. -/
def claimPass (snap : Snapshot) (slots : SlotResult) :
    List UsbDeviceClaim → DeviceMap →
      ApiProg (List (UsbDeviceClaim × Except ApiError ClaimOutcome))
  | [], _ => pure []
  | claim :: claims, devices => do
    let (devices, outcome) ← reconcileClaim ctx snap slots claim devices
    let rest ← claimPass snap slots claims devices
    pure ((claim, outcome) :: rest)

/-! ## Boot holds -/

/-- The holding claims a claim pass collected, with their VM. -/
def collectedHolds (outcomes : List (UsbDeviceClaim × Except ApiError ClaimOutcome)) :
    List ((String × String) × BootHoldClaim) :=
  outcomes.filterMap fun
    | (claim, .ok outcome) => outcome.hold.map fun hold => (claim.vmKey, hold)
    | (_, .error _) => none

def holdsOf (outcomes : List (UsbDeviceClaim × Except ApiError ClaimOutcome))
    (key : String × String) : List BootHoldClaim :=
  (collectedHolds outcomes).filterMap fun h => if h.1 = key then some h.2 else none

/-- The VMs with holding claims, in key order. -/
def heldVms (outcomes : List (UsbDeviceClaim × Except ApiError ClaimOutcome)) :
    List (String × String) :=
  sortByKey toLex ((collectedHolds outcomes).map (·.1)).dedup

/-- Write one boot-hold report; the flag asks for a quick retry. -/
def writeBootHold (ns name : String) (bootHold : Member BootHoldPatch) : ApiProg Bool := do
  match ← patchClaimStatus .bootHold ns name { bootHold := bootHold } with
  | .ok () => pure false
  | .error .notFound => pure false
  | .error _ => pure true

/-- Drop a boot-hold report that no longer describes the VM. -/
def clearStaleBootHold (ns : String) (vmiUid : Option String) (claim : BootHoldClaim) :
    ApiProg Bool :=
  if bootHoldIsStale claim.current vmiUid then writeBootHold ns claim.name .null else pure false

def clearStaleBootHolds (ns : String) (vmiUid : Option String) :
    List BootHoldClaim → ApiProg Bool
  | [] => pure false
  | claim :: claims => do
    let requeue₁ ← clearStaleBootHold ns vmiUid claim
    let requeue₂ ← clearStaleBootHolds ns vmiUid claims
    pure (requeue₁ || requeue₂)

/-- The report a claim should carry; it keeps the time of the last real change. -/
def desiredBootHold (claim : BootHoldClaim) (state : BootHoldState) (vmiUid : Option String)
    (message : String) : BootHoldStatus where
  state := state
  vmiUid := vmiUid
  since :=
    match claim.current with
    | some current =>
      if current.state = state ∧ current.vmiUid = vmiUid then current.since
      else ctx.rt.rfc3339 ctx.now
    | none => ctx.rt.rfc3339 ctx.now
  message := some message

/-- Write the report of one claim, unless it is there already. -/
def updateBootHold (ns : String) (state : BootHoldState) (vmiUid : Option String)
    (message : String) (claim : BootHoldClaim) : ApiProg Bool :=
  let desired := desiredBootHold ctx claim state vmiUid message
  if claim.current = some desired then pure false
  else writeBootHold ns claim.name (.value desired.toPatch)

def writeBootHolds (ns : String) (state : BootHoldState) (vmiUid : Option String)
    (message : String) : List BootHoldClaim → ApiProg Bool
  | [] => pure false
  | claim :: claims => do
    let requeue₁ ← updateBootHold ctx ns state vmiUid message claim
    let requeue₂ ← writeBootHolds ns state vmiUid message claims
    pure (requeue₁ || requeue₂)

/-- The release of the current instance is on record with one of its holding claims. -/
def releaseRecorded (claims : List BootHoldClaim) (vmiUid : Option String) : Bool :=
  claims.any fun c => c.current.any fun b =>
    b.state == .released && b.vmiUid == vmiUid && vmiUid.isSome

/-- What to do with the boot of one VM, given what this process and the claims remember. -/
def bootHoldAction (claims : List BootHoldClaim) (vm : Option VmInfo) (vmi : Option VmiInfo)
    (released : Released) : BootHoldAction :=
  let vmiUid := vmi.map (·.uid)
  decideBootHold ctx.rt
    { vm := vm
      vmi := vmi
      claims := claims
      alreadyReleased := (vmiUid.bind released).isSome || releaseRecorded claims vmiUid
      now := ctx.now }

/-- Applies `decideBootHold` for one VM: resumes it when its devices are ready, and keeps the
holding claims' status up to date. -/
def reconcileBootHold (key : String × String) (claims : List BootHoldClaim)
    (vm : Option VmInfo) (vmi : Option VmiInfo) (released : Released) :
    ApiProg (Released × Bool) :=
  let vmiUid := vmi.map (·.uid)
  let releasedReason := vmiUid.bind released
  match bootHoldAction ctx claims vm vmi released with
  | .hold message => do
    let requeue ← writeBootHolds ctx key.1 .holding vmiUid message claims
    pure (released, requeue)
  | .notConfigured message => do
    let requeue ← writeBootHolds ctx key.1 .notConfigured none message claims
    pure (released, requeue)
  | .release reason => do
    let uid := vmiUid.getD ""
    match ← unpause key.1 key.2 uid with
    | .error _ => pure (released, true)
    | .ok () => do
      let requeue ← writeBootHolds ctx key.1 .released vmiUid reason claims
      pure (Function.update released uid (some reason), requeue)
  | .nothing =>
    match releasedReason with
    | some reason => do
      let requeue ← writeBootHolds ctx key.1 .released vmiUid reason claims
      pure (released, requeue)
    | none => do
      let requeue ← clearStaleBootHolds key.1 vmiUid claims
      pure (released, requeue)

def bootHoldPass (snap : Snapshot)
    (outcomes : List (UsbDeviceClaim × Except ApiError ClaimOutcome)) :
    List (String × String) → Released → ApiProg (Released × Bool)
  | [], released => pure (released, false)
  | key :: keys, released => do
    let (released, requeue₁) ← reconcileBootHold ctx key (holdsOf outcomes key) (snap.vm? key)
      (snap.vmi? key) released
    let (released, requeue₂) ← bootHoldPass snap outcomes keys released
    pure (released, requeue₁ || requeue₂)

/-! ## The pass -/

/-- Forget instances that are gone; their successors are held again. -/
def Released.retainLive (released : Released) (snap : Snapshot) : Released :=
  fun uid => if uid ∈ snap.vmis.map (·.uid) then released uid else none

structure PassResult where
  /-- Whether a quick retry is needed, or the error that ended the pass. -/
  result : Except ApiError Bool
  released : Released
  outcomes : List (UsbDeviceClaim × Except ApiError ClaimOutcome)

def outcomeRequeues (outcome : Except ApiError ClaimOutcome) : Bool :=
  match outcome with
  | .ok outcome => outcome.requeue
  | .error _ => true

def reconcileAll (snap : Snapshot) (released : Released) : ApiProg PassResult := do
  let claims := snap.liveClaims
  let live := claims.filterMap (·.uid)
  match ← devicePass ctx live (snap.devices.entries.map (·.name)) snap.devices with
  | (_, .error e) => pure { result := .error e, released := released, outcomes := [] }
  | (devices, .ok requeue₁) =>
    let outcomes ← claimPass ctx snap snap.slots claims devices
    let (released, requeue₂) ← bootHoldPass ctx snap outcomes (heldVms outcomes)
      (released.retainLive snap)
    pure
      { result := .ok (requeue₁ || outcomes.any (outcomeRequeues ·.2) || requeue₂)
        released := released
        outcomes := outcomes }

end AtomicUsb
