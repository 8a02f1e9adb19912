import AtomicUsb.Foundation.ObjectStore
import AtomicUsb.Identity.Names

/-!
# Custom resources

`UsbDevice` (cluster-scoped, maintained by agents) and `UsbDeviceClaim` (namespaced, created by
users to attach a device to a VM), with the patches that are sent for their status.

Timestamps are RFC 3339 strings in the objects and whole seconds where the sources compute with
them; parsing and printing them, and Rust's `{:?}` of a string, come from outside the sources and
are the fields of `Runtime`.
-/

namespace AtomicUsb

/-- What the programs use of other people's code. -/
structure Runtime where
  /-- An RFC 3339 timestamp in whole seconds, if it parses. -/
  parseTimestamp : String → Option ℤ
  rfc3339 : ℤ → String
  debugStr : String → String

/-- Seconds elapsed since an RFC 3339 timestamp, or `none` if absent or unparseable. -/
def Runtime.ageSecs (rt : Runtime) (timestamp : Option String) (now : ℤ) : Option ℤ :=
  (timestamp.bind rt.parseTimestamp).map fun t => now - t

/-- A runtime that knows one moment only, for examples that take place then. -/
def Runtime.newYear : Runtime where
  parseTimestamp s := if s = "2024-01-01T00:00:00Z" then some 1704067200 else none
  rfc3339 t := if t = 1704067200 then "2024-01-01T00:00:00Z" else ""
  debugStr s := "\"" ++ s ++ "\""

/-! ## `UsbDevice` -/

structure UsbDeviceSpec where
  vendorId : String
  productId : String
  serial : Option String
  manufacturer : Option String
  product : Option String
  bcdDevice : Option String
  /-- Which attributes this object's name was derived from. -/
  identity : IdentitySource
  deriving DecidableEq

inductive DevicePhase
  /-- Plugged in and exported by a healthy agent. -/
  | available
  /-- Removed from its node. -/
  | unplugged
  /-- The agent on its node stopped sending heartbeats. -/
  | lost
  deriving DecidableEq

/-- `{p:?}`. -/
def DevicePhase.debug : DevicePhase → String
  | .available => "Available"
  | .unplugged => "Unplugged"
  | .lost => "Lost"

structure ExporterEndpoint where
  address : String
  port : ℕ
  pod : String
  deriving DecidableEq

/-- The lease on a device: the claim it is reserved for. -/
structure Attachment where
  ns : String
  claim : String
  claimUid : String
  vmName : String
  since : String
  deriving DecidableEq

structure UsbDeviceStatus where
  phase : Option DevicePhase := none
  /-- Node the device is (or was last) plugged into. -/
  node : Option String := none
  portPath : Option String := none
  busNum : Option ℕ := none
  devNum : Option ℕ := none
  speed : Option String := none
  deviceClass : Option String := none
  interfaceClasses : Option (List String) := none
  /-- Where the agent owning the device accepts usbredir sessions. -/
  exporter : Option ExporterEndpoint := none
  /-- Time of the last agent heartbeat. -/
  lastSeen : Option String := none
  message : Option String := none
  /-- Exclusive lease: the claim this device is reserved for. -/
  attachedTo : Option Attachment := none
  deriving DecidableEq

/-- The content of a `UsbDevice` object: all but its name and version. -/
structure DeviceBody where
  labels : List (String × String)
  spec : UsbDeviceSpec
  status : Option UsbDeviceStatus
  deriving DecidableEq

structure UsbDevice extends DeviceBody where
  name : String
  resourceVersion : ℕ
  deriving DecidableEq

/-- The object stored under a name, as the API returns it. -/
def UsbDevice.ofStored (name : String) (o : Versioned DeviceBody) : UsbDevice :=
  { o.value with name := name, resourceVersion := o.version }

/-- The object without its name. -/
def UsbDevice.stored (d : UsbDevice) : Versioned DeviceBody := ⟨d.resourceVersion, d.toDeviceBody⟩

def DeviceBody.statusRef (d : DeviceBody) : UsbDeviceStatus := d.status.getD {}

def DeviceBody.attachedTo (d : DeviceBody) : Option Attachment := d.statusRef.attachedTo

namespace UsbDevice

def fingerprint (d : UsbDevice) : Fingerprint where
  vendorId := d.spec.vendorId
  productId := d.spec.productId
  serial := d.spec.serial
  bcdDevice := d.spec.bcdDevice
  manufacturer := d.spec.manufacturer
  product := d.spec.product

/-- Available with an exporter and a heartbeat newer than `lostAfterSecs`. -/
def isAvailable (rt : Runtime) (d : UsbDevice) (now lostAfterSecs : ℤ) : Bool :=
  d.statusRef.phase == some .available && d.statusRef.exporter.isSome &&
    (rt.ageSecs d.statusRef.lastSeen now).any fun age => age ≤ lostAfterSecs

def leaseHolder (d : UsbDevice) : Option String := d.attachedTo.map (·.claimUid)

@[simp] lemma name_ofStored (name : String) (o : Versioned DeviceBody) :
    (ofStored name o).name = name := rfl

end UsbDevice

/-- The `status` member of a patch sent for a `UsbDevice`.  The two members that are objects
themselves, `exporter` and `attachedTo`, are only ever sent whole, and merging a whole object
replaces it. -/
structure DeviceStatusPatch where
  phase : Member DevicePhase := .absent
  node : Member String := .absent
  portPath : Member String := .absent
  busNum : Member ℕ := .absent
  devNum : Member ℕ := .absent
  speed : Member String := .absent
  deviceClass : Member String := .absent
  interfaceClasses : Member (List String) := .absent
  exporter : Member ExporterEndpoint := .absent
  lastSeen : Member String := .absent
  message : Member String := .absent
  attachedTo : Member Attachment := .absent
  deriving DecidableEq

/-- RFC 7386, member by member. -/
def DeviceStatusPatch.merge (p : DeviceStatusPatch) (s : UsbDeviceStatus) : UsbDeviceStatus where
  phase := p.phase.merge s.phase
  node := p.node.merge s.node
  portPath := p.portPath.merge s.portPath
  busNum := p.busNum.merge s.busNum
  devNum := p.devNum.merge s.devNum
  speed := p.speed.merge s.speed
  deviceClass := p.deviceClass.merge s.deviceClass
  interfaceClasses := p.interfaceClasses.merge s.interfaceClasses
  exporter := p.exporter.merge s.exporter
  lastSeen := p.lastSeen.merge s.lastSeen
  message := p.message.merge s.message
  attachedTo := p.attachedTo.merge s.attachedTo

/-- A status patch leaves everything but the status alone; a missing status is an empty one. -/
def DeviceStatusPatch.apply (p : DeviceStatusPatch) (d : DeviceBody) : DeviceBody :=
  { d with status := some (p.merge d.statusRef) }

@[simp] lemma DeviceStatusPatch.apply_attachedTo (p : DeviceStatusPatch) (d : DeviceBody) :
    (p.apply d).attachedTo = p.attachedTo.merge d.attachedTo := rfl

/-! ## `UsbDeviceClaim` -/

structure HoldBoot where
  timeoutSeconds : Option ℤ
  deriving DecidableEq

def HoldBoot.defaultTimeoutSeconds : ℤ := 300

/-- Seconds to hold the boot; `0` means forever. -/
def HoldBoot.timeout (h : HoldBoot) : ℤ :=
  max (h.timeoutSeconds.getD HoldBoot.defaultTimeoutSeconds) 0

structure DeviceSelector where
  deviceName : Option String := none
  vendorId : Option String := none
  productId : Option String := none
  serial : Option String := none
  product : Option String := none
  /-- Only devices plugged into this node. -/
  node : Option String := none
  portPath : Option String := none
  deriving DecidableEq

namespace DeviceSelector

/-- The check one of the two id fields gets. -/
def validateId (rt : Runtime) (field : String) (value : Option String) : Except String Unit :=
  match value with
  | none => .ok ()
  | some v =>
    if (normalizeUsbId v).isNone then
      .error s!"selector.{field} {rt.debugStr v} is not a 16-bit hex id"
    else .ok ()

def validate (rt : Runtime) (s : DeviceSelector) : Except String Unit :=
  if ([s.deviceName, s.vendorId, s.productId, s.serial, s.product, s.node, s.portPath].any
      (·.isSome)) = false then
    .error "selector must set at least one field"
  else do
    validateId rt "vendorId" s.vendorId
    validateId rt "productId" s.productId

/-- An id in any spelling, against the canonical one. -/
def idMatches (want : Option String) (got : String) : Bool :=
  want.all fun w => normalizeUsbId w == some got

def exact (want got : Option String) : Bool := want.all fun w => some w == got

def «matches» (s : DeviceSelector) (d : UsbDevice) : Bool :=
  exact s.deviceName (some d.name) && idMatches s.vendorId d.spec.vendorId &&
    idMatches s.productId d.spec.productId && exact s.serial d.spec.serial &&
    exact s.product d.spec.product && exact s.node d.statusRef.node &&
    exact s.portPath d.statusRef.portPath

end DeviceSelector

structure UsbDeviceClaimSpec where
  vmName : String
  selector : DeviceSelector
  /-- Pinned usbredir slot. -/
  slot : Option ℤ
  /-- Keep the VM's vCPUs paused after it starts until this device is ready. -/
  holdBoot : Option HoldBoot
  deriving DecidableEq

inductive BootHoldState
  | holding
  | released
  | notConfigured
  deriving DecidableEq

structure BootHoldStatus where
  state : BootHoldState
  /-- UID of the VMI this applies to. -/
  vmiUid : Option String
  since : String
  message : Option String
  deriving DecidableEq

inductive ClaimPhase
  | pending
  | deviceUnavailable
  | waitingForVM
  | vmNotConfigured
  | connecting
  | attached
  | invalid
  deriving DecidableEq

inductive ConnectionState
  | connecting
  | connected
  | disconnected
  deriving DecidableEq

/-- Data path state, reported by the agent on the VM's node. -/
structure ConnectionStatus where
  state : ConnectionState
  node : String
  deviceName : String
  slot : ℤ
  since : String
  message : Option String
  /-- The device is spliced onto the slot and waits for the VM to resume. -/
  awaitingResume : Option Bool
  deriving DecidableEq

structure UsbDeviceClaimStatus where
  phase : Option ClaimPhase := none
  deviceName : Option String := none
  sourceNode : Option String := none
  slot : Option ℤ := none
  message : Option String := none
  observedGeneration : Option ℤ := none
  connection : Option ConnectionStatus := none
  bootHold : Option BootHoldStatus := none
  deriving DecidableEq

structure OwnerReference where
  apiVersion : String
  kind : String
  name : String
  uid : String
  controller : Option Bool
  blockOwnerDeletion : Option Bool
  deriving DecidableEq

structure UsbDeviceClaim where
  ns : Option String
  name : String
  uid : Option String
  resourceVersion : ℕ
  generation : Option ℤ
  creationTimestamp : Option ℤ
  deletionTimestamp : Option ℤ
  ownerReferences : List OwnerReference
  spec : UsbDeviceClaimSpec
  status : Option UsbDeviceClaimStatus
  deriving DecidableEq

/-! ### Patches of a claim's status -/

/-- A boot-hold report as it is serialised into a patch: optional members that are `none` are
left out. -/
structure BootHoldPatch where
  state : BootHoldState
  vmiUid : Member String
  since : String
  message : Member String
  deriving DecidableEq

def BootHoldStatus.toPatch (b : BootHoldStatus) : BootHoldPatch where
  state := b.state
  vmiUid := .skipNone b.vmiUid
  since := b.since
  message := .skipNone b.message

/-- The patch is an object, so it is merged into the report that is there. -/
def BootHoldPatch.merge (p : BootHoldPatch) (old : Option BootHoldStatus) : BootHoldStatus where
  state := p.state
  vmiUid := p.vmiUid.merge (old.bind (·.vmiUid))
  since := p.since
  message := p.message.merge (old.bind (·.message))

/-- The `status` member of a patch sent for a claim.  `connection` is only ever sent whole, with
an explicit null for a missing `awaitingResume`. -/
structure ClaimStatusPatch where
  phase : Member ClaimPhase := .absent
  deviceName : Member String := .absent
  sourceNode : Member String := .absent
  slot : Member ℤ := .absent
  message : Member String := .absent
  observedGeneration : Member ℤ := .absent
  connection : Member ConnectionStatus := .absent
  bootHold : Member BootHoldPatch := .absent
  deriving DecidableEq

/-- What the `bootHold` member does to the stored report. -/
def ClaimStatusPatch.mergeBootHold (p : ClaimStatusPatch) (old : Option BootHoldStatus) :
    Option BootHoldStatus :=
  match p.bootHold with
  | .absent => old
  | .null => none
  | .value b => some (b.merge old)

def ClaimStatusPatch.merge (p : ClaimStatusPatch) (s : UsbDeviceClaimStatus) :
    UsbDeviceClaimStatus where
  phase := p.phase.merge s.phase
  deviceName := p.deviceName.merge s.deviceName
  sourceNode := p.sourceNode.merge s.sourceNode
  slot := p.slot.merge s.slot
  message := p.message.merge s.message
  observedGeneration := p.observedGeneration.merge s.observedGeneration
  connection := p.connection.merge s.connection
  bootHold := p.mergeBootHold s.bootHold

end AtomicUsb
