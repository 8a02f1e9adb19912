import AtomicUsb.Api
import AtomicUsb.Foundation.SortedMap
import AtomicUsb.Identity.Assign

/-!
# Discovery: publishing the devices of a node

`scanOnce` is one scan of an agent.  It reads the devices plugged into the node and the cached
`UsbDevice` objects, assigns names, publishes every named device and marks as unplugged what the
node published before and no longer has.  What it remembers between scans is `Discovery`; the
name each instance was given is kept there for as long as the instance stays plugged in.

Instants of the monotonic clock are milliseconds.  The one read by each `publish` is an input of
the scan, since writes take time.
-/

namespace AtomicUsb

/-- `vendor:product` pattern where either side may be `*`. -/
structure DevicePattern where
  vendorId : Option String
  productId : Option String

def DevicePattern.«matches» (p : DevicePattern) (d : UsbDeviceInfo) : Bool :=
  p.vendorId.all (· == d.vendorId) && p.productId.all (· == d.productId)

structure AgentConfig where
  node : String
  podName : String
  podIp : String
  listenPort : ℕ
  includeHubs : Bool
  ignored : List DevicePattern
  /-- Milliseconds. -/
  heartbeatInterval : ℕ
  /-- Milliseconds. -/
  lostAfter : ℕ

/-- USB class code for hubs. -/
def classHub : UInt8 := 0x09

def AgentConfig.lostAfterSecs (cfg : AgentConfig) : ℤ := (cfg.lostAfter / 1000 : ℕ)

def AgentConfig.heartbeatSecs (cfg : AgentConfig) : ℤ := (cfg.heartbeatInterval / 1000 : ℕ)

/-- Last status written per device (without `lastSeen`) and when. -/
abbrev StatusWrites := String → Option (DeviceStatusPatch × ℕ)

structure Discovery where
  sticky : InstanceKey → Option Assignment
  firstSeen : InstanceKey → Option ℕ
  statusWrites : StatusWrites

def Discovery.new : Discovery := ⟨fun _ => none, fun _ => none, fun _ => none⟩

/-- What one scan finds. -/
structure ScanInput where
  /-- `sysfs::scan`. -/
  found : List UsbDeviceInfo
  /-- The cached `UsbDevice` objects. -/
  objects : List UsbDevice
  now : ℤ
  started : ℕ
  /-- When each name's turn to be published comes. -/
  instant : String → ℕ
  objects_nodup : (objects.map (·.name)).Nodup

/-- The instance an object reports, as far as it does. -/
def UsbDevice.reportedInstance (obj : UsbDevice) : Option InstanceKey :=
  match obj.statusRef.portPath, obj.statusRef.busNum, obj.statusRef.devNum with
  | some portPath, some busNum, some devNum => some ⟨portPath, busNum, devNum⟩
  | _, _, _ => none

/-- One iteration of the loop of `recoverAssignments`. -/
def recoverStep (node : String) (sticky : InstanceKey → Option Assignment) (obj : UsbDevice) :
    InstanceKey → Option Assignment :=
  if obj.statusRef.node ≠ some node ∨ obj.statusRef.phase ≠ some .available then sticky
  else
    match obj.reportedInstance with
    | some key => Function.update sticky key (some ⟨obj.name, obj.spec.identity⟩)
    | none => sticky

/-- Re-adopt the names of devices this node published that are still plugged into the same port
with the same device number. -/
def recoverAssignments (node : String) (objects : List UsbDevice) :
    InstanceKey → Option Assignment :=
  objects.foldl (recoverStep node) fun _ => none

variable (rt : Runtime) (cfg : AgentConfig)

/-! ## Writes -/

def hexByte (b : UInt8) : String := String.ofList (Text.hexEncode [b])

def publishedSpec (d : UsbDeviceInfo) (source : IdentitySource) : UsbDeviceSpec where
  vendorId := d.vendorId
  productId := d.productId
  serial := d.serial
  manufacturer := d.manufacturer
  product := d.product
  bcdDevice := d.bcdDevice
  identity := source

def publishedLabels (d : UsbDeviceInfo) (source : IdentitySource) : List (String × String) :=
  [("atomicusb.safewords.io/vendor-id", some d.vendorId),
   ("atomicusb.safewords.io/product-id", some d.productId),
   ("atomicusb.safewords.io/node", labelValue cfg.node),
   ("atomicusb.safewords.io/identity", some source.debug)].filterMap
    fun (k, v) => v.map fun v => (k, v)

/-- The status an agent publishes, `lastSeen` apart. -/
def publishedStatus (d : UsbDeviceInfo) : DeviceStatusPatch where
  phase := .value .available
  node := .value cfg.node
  portPath := .value d.portPath
  busNum := .value d.busNum
  devNum := .value d.devNum
  speed := .ofOption d.speed
  deviceClass := .value (hexByte d.deviceClass)
  interfaceClasses := .value (d.interfaceClasses.map hexByte)
  exporter := .value ⟨cfg.podIp, cfg.listenPort, cfg.podName⟩
  message := .null

/-- The `body` of a status write: what is published, and when. -/
def heartbeat (d : UsbDeviceInfo) (now : ℤ) : DeviceStatusPatch :=
  { publishedStatus cfg d with lastSeen := .value (rt.rfc3339 now) }

/-- The stored status says what would be published; heartbeat and lease aside. -/
def statusCurrent (d : UsbDeviceInfo) (observed : Option UsbDeviceStatus) : Bool :=
  observed.any fun s =>
    (publishedStatus cfg d).merge {} = { s with lastSeen := none, attachedTo := none }

def heartbeatDue (observed : Option UsbDeviceStatus) (now : ℤ) : Bool :=
  (observed.bind fun s => rt.ageSecs s.lastSeen now).all fun age => cfg.heartbeatSecs ≤ age

def writtenRecently (d : UsbDeviceInfo) (written : Option (DeviceStatusPatch × ℕ))
    (instant : ℕ) : Bool :=
  written.any fun (value, at_) =>
    value = publishedStatus cfg d ∧ instant - at_ < min cfg.heartbeatInterval 10000

/-- First half of `publish`: bring the labels and the spec up to date. -/
def publishSpec (name : String) (d : UsbDeviceInfo) (source : IdentitySource)
    (existing : Option UsbDevice) : ApiProg (Except ApiError Unit) :=
  let spec := publishedSpec d source
  let labels := publishedLabels cfg d source
  if existing.any fun o =>
      o.spec = spec ∧ labels.all fun (k, v) => o.labels.lookup k == some v then pure (.ok ())
  else applyDevice (.agent cfg.node) name labels spec

/-- A device that shows the spec and the labels already is not applied again. -/
lemma publishSpec_current {name : String} {d : UsbDeviceInfo} {source : IdentitySource}
    {o : UsbDevice} (hspec : o.spec = publishedSpec d source)
    (hlabels : ∀ label ∈ publishedLabels cfg d source, o.labels.lookup label.1 = some label.2) :
    publishSpec cfg name d source (some o) = pure (.ok ()) := by
  have hcurrent : (publishedLabels cfg d source).all
      (fun (k, v) => o.labels.lookup k == some v) = true := by
    simpa using fun k v h => hlabels (k, v) h
  exact if_pos (by simp [hspec, hcurrent])

/-- Second half of `publish`: the status, with a heartbeat. -/
def publishStatus (name : String) (d : UsbDeviceInfo) (observed : Option UsbDeviceStatus)
    (now : ℤ) (instant : ℕ) (writes : StatusWrites) : ApiProg StatusWrites :=
  if (statusCurrent cfg d observed && !heartbeatDue rt cfg observed now) ||
      writtenRecently cfg d (writes name) instant then
    pure writes
  else do
    match ← patchDeviceStatus (.agent cfg.node) name none (heartbeat rt cfg d now) with
    | .error _ => pure writes
    | .ok _ => pure (Function.update writes name (some (publishedStatus cfg d, instant)))

def publish (name : String) (d : UsbDeviceInfo) (source : IdentitySource)
    (existing : Option UsbDevice) (now : ℤ) (instant : ℕ) (writes : StatusWrites) :
    ApiProg StatusWrites := do
  match ← publishSpec cfg name d source existing with
  | .error _ => pure writes
  | .ok () => publishStatus rt cfg name d (existing.bind (·.status)) now instant writes

/-- The calls of `publish`: the spec if it is out of date, and the heartbeat, which is left out
while the status is current and no heartbeat is due. -/
lemma issues_publish {P : ApiCall → Prop} {name : String} {d : UsbDeviceInfo}
    {source : IdentitySource} {existing : Option UsbDevice} {now : ℤ} {instant : ℕ}
    {writes : StatusWrites}
    (hspec : ∀ labels, P (.applyDevice (.agent cfg.node) name labels (publishedSpec d source)))
    (hheartbeat : (statusCurrent cfg d (existing.bind (·.status)) = true →
        heartbeatDue rt cfg (existing.bind (·.status)) now = true) →
      P (.patchDeviceStatus (.agent cfg.node) name none (heartbeat rt cfg d now))) :
    (publish rt cfg name d source existing now instant writes).Issues P := by
  refine Prog.Issues.bind ?_ fun applied => ?_
  · unfold publishSpec
    dsimp only
    split
    · trivial
    · exact ⟨hspec _, fun _ => trivial⟩
  · cases applied with
    | error e => trivial
    | ok _ =>
        dsimp only
        unfold publishStatus
        split
        · trivial
        · rename_i hwrite
          refine ⟨hheartbeat fun hcurrent => ?_, fun x => ?_⟩
          · by_contra hdue
            simp [hcurrent, hdue] at hwrite
          · cases x <;> trivial

def unpluggedPatch (now : ℤ) : DeviceStatusPatch where
  phase := .value .unplugged
  exporter := .null
  busNum := .null
  devNum := .null
  message := .value s!"unplugged from {cfg.node} at {rt.rfc3339 now}"

/-- Marks a device this node published as unplugged, unless another node took it over in the
meantime (guarded by resourceVersion). -/
def markUnplugged (obj : UsbDevice) (now : ℤ) : ApiProg Unit := do
  let _ ← patchDeviceStatus (.agent cfg.node) obj.name (some obj.resourceVersion)
    (unpluggedPatch rt cfg now)
  pure ()

/-! ## The scan -/

variable (sha256 : List UInt8 → List UInt8)

/-- The devices of a scan that are exported at all. -/
def ScanInput.devices (input : ScanInput) : List UsbDeviceInfo :=
  input.found.filter fun d =>
    (cfg.includeHubs || !(d.deviceClass == classHub)) && !cfg.ignored.any (·.matches d)

def ScanInput.object? (input : ScanInput) (name : String) : Option UsbDevice :=
  input.objects.find? (·.name = name)

/-- The fingerprint of a plugged-in instance. -/
def fingerprintOf (devices : List UsbDeviceInfo) (key : InstanceKey) : Option Fingerprint :=
  (devices.reverse.find? (·.instanceKey = key)).map (·.fingerprint)

/-- Forget instances that disappeared, and assignments whose object belongs to another
device. -/
def retainSticky (input : ScanInput) (sticky : InstanceKey → Option Assignment) :
    InstanceKey → Option Assignment :=
  fun key => (sticky key).filter fun a => (fingerprintOf (input.devices cfg) key).any fun fp =>
    (input.object? a.name).all fun obj => obj.fingerprint = fp

def updateFirstSeen (input : ScanInput) (firstSeen : InstanceKey → Option ℕ) :
    InstanceKey → Option ℕ :=
  fun key =>
    if (fingerprintOf (input.devices cfg) key).isSome then some ((firstSeen key).getD input.started)
    else none

def ScanInput.known (input : ScanInput) : List KnownDevice :=
  input.objects.map fun o =>
    { name := o.name
      fingerprint := o.fingerprint
      presentOn := if o.isAvailable rt input.now cfg.lostAfterSecs then o.statusRef.node else none }

def scanContext (input : ScanInput) (state : Discovery) : AssignContext where
  node := cfg.node
  sticky := retainSticky cfg input state.sticky
  known := input.known rt cfg
  mayDefer key := (updateFirstSeen cfg input state.firstSeen key).any fun seen =>
    input.started - seen < cfg.lostAfter

/-- The local devices by name, as far as the loop over the decisions has got. -/
abbrev LocalView := String → Option (UsbDeviceInfo × IdentitySource)

/-- One iteration of the loop over the decisions. -/
def adopt (decisions : InstanceKey → Option Decision)
    (acc : (InstanceKey → Option Assignment) × LocalView × Bool) (d : UsbDeviceInfo) :
    (InstanceKey → Option Assignment) × LocalView × Bool :=
  match decisions d.instanceKey with
  | some (.assigned a) =>
    (Function.update acc.1 d.instanceKey (some a),
      Function.update acc.2.1 a.name (some (d, a.source)), acc.2.2)
  | some (.deferred _ _) => (acc.1, acc.2.1, true)
  | none => acc

def adoptAll (decisions : InstanceKey → Option Decision)
    (sticky : InstanceKey → Option Assignment) (devices : List UsbDeviceInfo) :
    (InstanceKey → Option Assignment) × LocalView × Bool :=
  devices.foldl (adopt decisions) (sticky, fun _ => none, false)

/-- The names of the local view, in order. -/
def localNames (decisions : InstanceKey → Option Decision) (devices : List UsbDeviceInfo) :
    List String :=
  sortByKey id (devices.filterMap fun d =>
    match decisions d.instanceKey with
    | some (.assigned a) => some a.name
    | _ => none).dedup

def publishLocal (input : ScanInput) (view : LocalView) (name : String) (writes : StatusWrites) :
    ApiProg StatusWrites :=
  match view name with
  | none => pure writes
  | some (d, source) =>
    publish rt cfg name d source (input.object? name) input.now (input.instant name) writes

def publishAll (input : ScanInput) (view : LocalView) :
    List String → StatusWrites → ApiProg StatusWrites
  | [], writes => pure writes
  | name :: names, writes => do
    let writes ← publishLocal rt cfg input view name writes
    publishAll input view names writes

def unplugMissing (input : ScanInput) (view : LocalView) (obj : UsbDevice) : ApiProg Unit :=
  if obj.statusRef.node = some cfg.node ∧ obj.statusRef.phase = some .available ∧
      (view obj.name).isNone then
    markUnplugged rt cfg obj input.now
  else pure ()

def markAllUnplugged (input : ScanInput) (view : LocalView) : List UsbDevice → ApiProg Unit
  | [] => pure ()
  | obj :: objs => do
    unplugMissing rt cfg input view obj
    markAllUnplugged input view objs

structure ScanResult where
  state : Discovery
  /-- What each plugged-in instance was given. -/
  decisions : InstanceKey → Option Decision
  /-- The local view handed to the exporter. -/
  view : LocalView
  /-- Whether any device is waiting for another node to release its identity. -/
  deferred : Bool

def scanOnce (state : Discovery) (input : ScanInput) : ApiProg ScanResult := do
  let devices := input.devices cfg
  let ctx := scanContext rt cfg input state
  let decisions := assign sha256 ctx devices
  let (sticky, view, deferred) := adoptAll decisions ctx.sticky devices
  let writes ← publishAll rt cfg input view (localNames decisions devices) state.statusWrites
  markAllUnplugged rt cfg input view input.objects
  pure
    { state :=
        { sticky := sticky
          firstSeen := updateFirstSeen cfg input state.firstSeen
          statusWrites := fun name => if (view name).isSome then writes name else none }
      decisions := decisions
      view := view
      deferred := deferred }

end AtomicUsb
