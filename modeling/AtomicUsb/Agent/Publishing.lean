import AtomicUsb.Agent.Discovery
import AtomicUsb.Foundation.Json

/-!
# What a published status looks like on the wire

A device status exists in three forms: the record, the JSON object the API server stores, and the
merge patch an agent sends.  `UsbDeviceStatus.fromValue_mergePatch` says that they agree:
merging the JSON of a patch into the JSON of a status and reading the result is the same as merging
the records (`DeviceStatusPatch.merge`), on which the other modules rest.

`statusCurrentValue` compares the desired and the stored status as JSON, the way `publish` does.
-/

namespace AtomicUsb

open Json (Codec)

/-! ## Records as JSON -/

def DevicePhase.codec : Codec DevicePhase :=
  .plain (fun p => .str p.debug)
    (fun
      | .str "Available" => some .available
      | .str "Unplugged" => some .unplugged
      | .str "Lost" => some .lost
      | _ => none)
    (fun p => by cases p <;> rfl) fun _ => trivial

namespace ExporterEndpoint

def members (e : ExporterEndpoint) : List (String × Json) :=
  [("address", Codec.string.encode e.address),
   ("port", Codec.nat.encode e.port),
   ("pod", Codec.string.encode e.pod)]

def fromValue (v : Json) : Option ExporterEndpoint := do
  let address ← Codec.string.required v "address"
  let port ← Codec.nat.required v "port"
  let pod ← Codec.string.required v "pod"
  pure ⟨address, port, pod⟩

lemma fromValue_of {v : Json} {e : ExporterEndpoint}
    (haddress : Codec.string.required v "address" = some e.address)
    (hport : Codec.nat.required v "port" = some e.port)
    (hpod : Codec.string.required v "pod" = some e.pod) : fromValue v = some e := by
  simp [fromValue, haddress, hport, hpod]

def codec : Codec ExporterEndpoint where
  encode e := Json.object e.members
  decode := fromValue
  decode_encode e := fromValue_of (Codec.required_object _ rfl) (Codec.required_object _ rfl)
    (Codec.required_object _ rfl)
  decode_merge target e := fromValue_of (Codec.required_merged _ target rfl)
    (Codec.required_merged _ target rfl) (Codec.required_merged _ target rfl)
  withoutNulls_encode e := Json.withoutNulls_object (by simp [members, Codec.withoutNull_encode])
  encode_ne_null e := by simp [Json.object]

end ExporterEndpoint

namespace Attachment

def members (a : Attachment) : List (String × Json) :=
  [("namespace", Codec.string.encode a.ns),
   ("claim", Codec.string.encode a.claim),
   ("claimUid", Codec.string.encode a.claimUid),
   ("vmName", Codec.string.encode a.vmName),
   ("since", Codec.string.encode a.since)]

def fromValue (v : Json) : Option Attachment := do
  let ns ← Codec.string.required v "namespace"
  let claim ← Codec.string.required v "claim"
  let claimUid ← Codec.string.required v "claimUid"
  let vmName ← Codec.string.required v "vmName"
  let since ← Codec.string.required v "since"
  pure ⟨ns, claim, claimUid, vmName, since⟩

lemma fromValue_of {v : Json} {a : Attachment}
    (hns : Codec.string.required v "namespace" = some a.ns)
    (hclaim : Codec.string.required v "claim" = some a.claim)
    (hclaimUid : Codec.string.required v "claimUid" = some a.claimUid)
    (hvmName : Codec.string.required v "vmName" = some a.vmName)
    (hsince : Codec.string.required v "since" = some a.since) : fromValue v = some a := by
  simp [fromValue, hns, hclaim, hclaimUid, hvmName, hsince]

def codec : Codec Attachment where
  encode a := Json.object a.members
  decode := fromValue
  decode_encode a := fromValue_of (Codec.required_object _ rfl) (Codec.required_object _ rfl)
    (Codec.required_object _ rfl) (Codec.required_object _ rfl) (Codec.required_object _ rfl)
  decode_merge target a := fromValue_of (Codec.required_merged _ target rfl)
    (Codec.required_merged _ target rfl) (Codec.required_merged _ target rfl)
    (Codec.required_merged _ target rfl) (Codec.required_merged _ target rfl)
  withoutNulls_encode a := Json.withoutNulls_object (by simp [members, Codec.withoutNull_encode])
  encode_ne_null a := by simp [Json.object]

end Attachment

/-! ## The status -/

namespace UsbDeviceStatus

/-- The members of a status; one that is `none` is not written. -/
def fields (s : UsbDeviceStatus) : List (String × Option Json) :=
  [("phase", s.phase.map DevicePhase.codec.encode),
   ("node", s.node.map Codec.string.encode),
   ("portPath", s.portPath.map Codec.string.encode),
   ("busNum", s.busNum.map Codec.nat.encode),
   ("devNum", s.devNum.map Codec.nat.encode),
   ("speed", s.speed.map Codec.string.encode),
   ("deviceClass", s.deviceClass.map Codec.string.encode),
   ("interfaceClasses", s.interfaceClasses.map Codec.strings.encode),
   ("exporter", s.exporter.map ExporterEndpoint.codec.encode),
   ("lastSeen", s.lastSeen.map Codec.string.encode),
   ("message", s.message.map Codec.string.encode),
   ("attachedTo", s.attachedTo.map Attachment.codec.encode)]

def toValue (s : UsbDeviceStatus) : Json := Json.skipNone s.fields

def fromValue (v : Json) : Option UsbDeviceStatus := do
  let _ ← v.asObject
  let phase ← DevicePhase.codec.optional v "phase"
  let node ← Codec.string.optional v "node"
  let portPath ← Codec.string.optional v "portPath"
  let busNum ← Codec.nat.optional v "busNum"
  let devNum ← Codec.nat.optional v "devNum"
  let speed ← Codec.string.optional v "speed"
  let deviceClass ← Codec.string.optional v "deviceClass"
  let interfaceClasses ← Codec.strings.optional v "interfaceClasses"
  let exporter ← ExporterEndpoint.codec.optional v "exporter"
  let lastSeen ← Codec.string.optional v "lastSeen"
  let message ← Codec.string.optional v "message"
  let attachedTo ← Attachment.codec.optional v "attachedTo"
  pure ⟨phase, node, portPath, busNum, devNum, speed, deviceClass, interfaceClasses, exporter,
    lastSeen, message, attachedTo⟩

/-- An object whose members are read as those of `s` is read as `s`. -/
structure ReadAs (v : Json) (s : UsbDeviceStatus) : Prop where
  object : ∃ ms, v = .obj ms
  phase : DevicePhase.codec.optional v "phase" = some s.phase
  node : Codec.string.optional v "node" = some s.node
  portPath : Codec.string.optional v "portPath" = some s.portPath
  busNum : Codec.nat.optional v "busNum" = some s.busNum
  devNum : Codec.nat.optional v "devNum" = some s.devNum
  speed : Codec.string.optional v "speed" = some s.speed
  deviceClass : Codec.string.optional v "deviceClass" = some s.deviceClass
  interfaceClasses : Codec.strings.optional v "interfaceClasses" = some s.interfaceClasses
  exporter : ExporterEndpoint.codec.optional v "exporter" = some s.exporter
  lastSeen : Codec.string.optional v "lastSeen" = some s.lastSeen
  message : Codec.string.optional v "message" = some s.message
  attachedTo : Attachment.codec.optional v "attachedTo" = some s.attachedTo

lemma ReadAs.fromValue_eq {v : Json} {s : UsbDeviceStatus} (h : ReadAs v s) :
    fromValue v = some s := by
  obtain ⟨ms, rfl⟩ := h.object
  simp [fromValue, Json.asObject, h.phase, h.node, h.portPath, h.busNum, h.devNum, h.speed,
    h.deviceClass, h.interfaceClasses, h.exporter, h.lastSeen, h.message, h.attachedTo]

lemma fields_nodup (s : UsbDeviceStatus) : (s.fields.map Prod.fst).Nodup := by
  show (["phase", "node", "portPath", "busNum", "devNum", "speed", "deviceClass",
    "interfaceClasses", "exporter", "lastSeen", "message", "attachedTo"] : List String).Nodup
  decide

lemma get?_toValue (s : UsbDeviceStatus) (k : String) :
    s.toValue.get? k = (s.fields.lookup k).join :=
  Json.get?_skipNone (fields_nodup s) k

lemma fromValue_toValue (s : UsbDeviceStatus) : fromValue s.toValue = some s := by
  refine ReadAs.fromValue_eq ⟨⟨_, rfl⟩, ?_, ?_, ?_, ?_, ?_, ?_, ?_, ?_, ?_, ?_, ?_, ?_⟩ <;>
    exact Codec.optional_encode _ (s.get?_toValue _)

lemma toValue_injective : Function.Injective toValue := by
  intro s t h
  have hread := congrArg fromValue h
  rw [fromValue_toValue, fromValue_toValue] at hread
  exact Option.some.inj hread

end UsbDeviceStatus

namespace DeviceStatusPatch

/-- The members of a patch, with explicit nulls. -/
def fields (p : DeviceStatusPatch) : List (String × Option Json) :=
  [("phase", DevicePhase.codec.member p.phase),
   ("node", Codec.string.member p.node),
   ("portPath", Codec.string.member p.portPath),
   ("busNum", Codec.nat.member p.busNum),
   ("devNum", Codec.nat.member p.devNum),
   ("speed", Codec.string.member p.speed),
   ("deviceClass", Codec.string.member p.deviceClass),
   ("interfaceClasses", Codec.strings.member p.interfaceClasses),
   ("exporter", ExporterEndpoint.codec.member p.exporter),
   ("lastSeen", Codec.string.member p.lastSeen),
   ("message", Codec.string.member p.message),
   ("attachedTo", Attachment.codec.member p.attachedTo)]

def toValue (p : DeviceStatusPatch) : Json := Json.skipNone p.fields

lemma fields_nodup (p : DeviceStatusPatch) : (p.fields.map Prod.fst).Nodup :=
  UsbDeviceStatus.fields_nodup {}

lemma get?_toValue (p : DeviceStatusPatch) (k : String) :
    p.toValue.get? k = (p.fields.lookup k).join := Json.get?_skipNone p.fields_nodup k

end DeviceStatusPatch

/-- A member of a stored status; one that is not stored at all is empty. -/
lemma UsbDeviceStatus.get?_stored (stored : Option UsbDeviceStatus) (k : String) :
    (stored.map toValue).bind (·.get? k) = ((stored.getD {}).fields.lookup k).join := by
  cases stored with
  | some s => exact s.get?_toValue k
  | none => exact get?_toValue {} k

/-- **Merging as JSON is merging the records.** -/
lemma UsbDeviceStatus.fromValue_mergePatch (stored : Option UsbDeviceStatus)
    (p : DeviceStatusPatch) :
    fromValue (Json.mergePatch (stored.map toValue) p.toValue) =
      some (p.merge (stored.getD {})) := by
  refine ReadAs.fromValue_eq ⟨⟨_, rfl⟩, ?_, ?_, ?_, ?_, ?_, ?_, ?_, ?_, ?_, ?_, ?_, ?_⟩ <;>
    exact Codec.optional_merged _ (Json.sorted_object _) (get?_stored stored _) (p.get?_toValue _)

/-- The patch without its nulls is what it makes of an empty status. -/
lemma DeviceStatusPatch.withoutNulls_toValue (p : DeviceStatusPatch) :
    p.toValue.withoutNulls = (p.merge {}).toValue := by
  have hfields : (p.merge {}).fields = p.fields.map fun f => (f.1, Json.withoutNull f.2) := by
    simp [UsbDeviceStatus.fields, fields, merge, Codec.withoutNull_member]
  rw [toValue, Json.withoutNulls_skipNone p.fields_nodup, UsbDeviceStatus.toValue, hfields]

/-- The stored JSON with heartbeat and lease taken out. -/
lemma UsbDeviceStatus.remove_toValue (s : UsbDeviceStatus) :
    ((s.toValue).remove "lastSeen").remove "attachedTo" =
      toValue { s with lastSeen := none, attachedTo := none } := by
  have hlastSeen : (toValue s).remove "lastSeen" = toValue { s with lastSeen := none } := by
    rw [toValue, Json.remove_skipNone s.fields_nodup]
    simp [fields, toValue]
  rw [hlastSeen, toValue, Json.remove_skipNone (fields_nodup _)]
  simp [fields, toValue]

/-! ## Publishing -/

section Publishing

variable (rt : Runtime) (cfg : AgentConfig)

/-- `status_current` of `publish`: the desired status without its nulls is the stored one, heartbeat
and lease aside. -/
def statusCurrentValue (d : UsbDeviceInfo) (observed : Option UsbDeviceStatus) : Bool :=
  observed.any fun s =>
    (publishedStatus cfg d).toValue.withoutNulls =
      (s.toValue.remove "lastSeen").remove "attachedTo"

lemma statusCurrentValue_eq (d : UsbDeviceInfo) (observed : Option UsbDeviceStatus) :
    statusCurrentValue cfg d observed = statusCurrent cfg d observed := by
  cases observed with
  | none => rfl
  | some s =>
      show decide _ = decide _
      rw [decide_eq_decide, DeviceStatusPatch.withoutNulls_toValue,
        UsbDeviceStatus.remove_toValue]
      exact UsbDeviceStatus.toValue_injective.eq_iff

/-- What a heartbeat makes of a status is current. -/
lemma statusCurrent_heartbeat (d : UsbDeviceInfo) (s : UsbDeviceStatus) (now : ℤ) :
    statusCurrent cfg d (some ((heartbeat rt cfg d now).merge s)) = true := by
  simp [statusCurrent, DeviceStatusPatch.merge, publishedStatus, heartbeat]

/-- What unplugging makes of a status is current for no device and no agent. -/
lemma statusCurrent_unplugged (cfg' : AgentConfig) (d : UsbDeviceInfo) (s : UsbDeviceStatus)
    (now : ℤ) : statusCurrent cfg' d (some ((unpluggedPatch rt cfg now).merge s)) = false := by
  simp [statusCurrent, DeviceStatusPatch.merge, publishedStatus, unpluggedPatch]

/-- A call that, if it patches the status of a device at all, patches that of `name`, keeps the
lease of the status `stored` it is merged into, and leaves there one with `P`. -/
def PatchLeaves (stored : Option UsbDeviceStatus) (name : String) (P : UsbDeviceStatus → Prop) :
    ApiCall → Prop
  | .patchDeviceStatus _ n _ patch => n = name ∧ ∃ s,
      UsbDeviceStatus.fromValue
        (Json.mergePatch (stored.map UsbDeviceStatus.toValue) patch.toValue) = some s ∧
      s.attachedTo = stored.bind (·.attachedTo) ∧ P s
  | _ => True

/-- A patch without a lease leaves what merging the records leaves. -/
lemma patchLeaves_of_merge {stored : Option UsbDeviceStatus} {name : String}
    {P : UsbDeviceStatus → Prop} {by_ : Writer} {version : Option ℕ} {patch : DeviceStatusPatch}
    (hlease : patch.attachedTo = .absent) (hP : P (patch.merge (stored.getD {}))) :
    PatchLeaves stored name P (.patchDeviceStatus by_ name version patch) := by
  refine ⟨rfl, _, UsbDeviceStatus.fromValue_mergePatch stored patch, ?_, hP⟩
  have hkeep : (patch.merge (stored.getD {})).attachedTo = (stored.getD {}).attachedTo := by
    show patch.attachedTo.merge _ = _
    rw [hlease]
    rfl
  rw [hkeep]
  cases stored <;> rfl

/-- A call that patches no status of a device. -/
def NoStatusPatch : ApiCall → Prop
  | .patchDeviceStatus .. => False
  | _ => True

/-- A device whose status is current is not written until a heartbeat is due. -/
lemma publish_noStatusPatch {name : String} {d : UsbDeviceInfo} (source : IdentitySource)
    {device : UsbDevice} {now : ℤ} (instant : ℕ) (writes : StatusWrites)
    (hcurrent : statusCurrent cfg d device.status = true)
    (hdue : heartbeatDue rt cfg device.status now = false) :
    (publish rt cfg name d source (some device) now instant writes).Issues NoStatusPatch := by
  refine issues_publish rt cfg (fun _ => trivial) fun hwrite => ?_
  have hnow : heartbeatDue rt cfg device.status now = true := hwrite hcurrent
  rw [hdue] at hnow
  cases hnow

/-- With the spec in place, a status that is not current, or that needs a heartbeat, is written. -/
lemma publish_writes {name : String} {d : UsbDeviceInfo} {source : IdentitySource}
    {existing : Option UsbDevice} {now : ℤ} {instant : ℕ} {writes : StatusWrites}
    (hspec : publishSpec cfg name d source existing = pure (.ok ()))
    (hrecent : writtenRecently cfg d (writes name) instant = false)
    (hneeded : statusCurrentValue cfg d (existing.bind (·.status)) = false ∨
      heartbeatDue rt cfg (existing.bind (·.status)) now = true) :
    (publish rt cfg name d source existing now instant writes).head? =
      some (.patchDeviceStatus (.agent cfg.node) name none (heartbeat rt cfg d now)) := by
  have hwrite : ((statusCurrent cfg d (existing.bind (·.status)) &&
      !heartbeatDue rt cfg (existing.bind (·.status)) now) ||
      writtenRecently cfg d (writes name) instant) = false := by
    rw [statusCurrentValue_eq] at hneeded
    rcases hneeded with h | h <;> simp [h, hrecent]
  unfold publish
  rw [hspec, Prog.pure_bind']
  dsimp only
  rw [publishStatus, hwrite]
  rfl

/-- **Publishing is idempotent and keeps the lease.**  Whatever status is stored, every status patch
that `publish` sends makes of it one that the next publication of the device finds current, so that
no status is written until a heartbeat is due; and it does send one when the status it has seen is
not current, or a heartbeat is due.  Neither its patches nor those for an unplugged device touch the
lease, and what the latter leave is current for no device. -/
theorem publish_idempotent (stored : Option UsbDeviceStatus) (name : String) (d : UsbDeviceInfo)
    (source : IdentitySource) (existing : Option UsbDevice) (now : ℤ) (instant : ℕ)
    (writes : StatusWrites) :
    (publish rt cfg name d source existing now instant writes).Issues
      (PatchLeaves stored name fun s => statusCurrentValue cfg d (some s) = true ∧
        ∀ (source' : IdentitySource) (device : UsbDevice) (later : ℤ) (instant' : ℕ)
          (writes' : StatusWrites), device.status = some s →
          heartbeatDue rt cfg (some s) later = false →
          (publish rt cfg name d source' (some device) later instant' writes').Issues
            NoStatusPatch) ∧
    (publishSpec cfg name d source existing = pure (.ok ()) →
      writtenRecently cfg d (writes name) instant = false →
      statusCurrentValue cfg d (existing.bind (·.status)) = false ∨
        heartbeatDue rt cfg (existing.bind (·.status)) now = true →
      ∃ patch, (publish rt cfg name d source existing now instant writes).head? =
        some (.patchDeviceStatus (.agent cfg.node) name none patch)) ∧
    ∀ obj : UsbDevice,
      (∃ patch, (markUnplugged rt cfg obj now).head? =
        some (.patchDeviceStatus (.agent cfg.node) obj.name (some obj.resourceVersion) patch)) ∧
      (markUnplugged rt cfg obj now).Issues (PatchLeaves stored obj.name fun s =>
        ∀ cfg' d', statusCurrentValue cfg' d' (some s) = false) := by
  refine ⟨issues_publish rt cfg (fun _ => trivial) fun _ => patchLeaves_of_merge rfl ⟨?_, ?_⟩,
    fun hspec hrecent hneeded => ⟨_, publish_writes rt cfg hspec hrecent hneeded⟩,
    fun obj => ⟨⟨_, rfl⟩, patchLeaves_of_merge rfl fun cfg' d' => ?_, fun _ => trivial⟩⟩
  · rw [statusCurrentValue_eq]
    exact statusCurrent_heartbeat rt cfg d _ now
  · intro source' device later instant' writes' hstatus hdue
    refine publish_noStatusPatch rt cfg source' instant' writes' ?_ ?_
    · rw [hstatus]
      exact statusCurrent_heartbeat rt cfg d _ now
    · rwa [hstatus]
  · rw [statusCurrentValue_eq]
    exact statusCurrent_unplugged rt cfg cfg' d' _ now

end Publishing

def freshWebcam : UsbDeviceInfo where
  portPath := "3-1.4"
  busNum := 3
  devNum := 7
  vendorId := "046d"
  productId := "0825"
  serial := some "A1B2"
  manufacturer := none
  product := none
  bcdDevice := some "0012"
  deviceClass := 0xef
  interfaceClasses := [0x0e, 0x01]
  speed := some "480"

def freshAgent : AgentConfig where
  node := "node-1"
  podName := "agent-1"
  podIp := "10.0.0.7"
  listenPort := 4242
  includeHubs := false
  ignored := []
  heartbeatInterval := 10000
  lostAfter := 60000

/-- The webcam before its node came back: lost, but still leased. -/
def lostWebcam : UsbDevice where
  name := "usb-webcam"
  resourceVersion := 7
  labels := publishedLabels freshAgent freshWebcam .serial
  spec := publishedSpec freshWebcam .serial
  status := some
    { phase := some .lost
      node := some "node-1"
      message := some "no heartbeat"
      attachedTo := some ⟨"default", "camera", "u1", "desk", "2023-12-31T00:00:00Z"⟩ }

/-- The lost webcam is published once, keeps its lease, and is not written a second time. -/
theorem publish_idempotent_lost :
    ∃ patch s,
      (publish Runtime.newYear freshAgent "usb-webcam" freshWebcam .serial (some lostWebcam)
        1704067200 0 fun _ => none).head? =
        some (.patchDeviceStatus (.agent "node-1") "usb-webcam" none patch) ∧
      UsbDeviceStatus.fromValue
        (Json.mergePatch (lostWebcam.status.map UsbDeviceStatus.toValue) patch.toValue) =
          some s ∧
      s.attachedTo.map (·.claimUid) = some "u1" ∧
      (publish Runtime.newYear freshAgent "usb-webcam" freshWebcam .serial
        (some { lostWebcam with status := some s }) 1704067200 5000
        fun _ => none).Issues NoStatusPatch := by
  obtain ⟨hpatches, hwrites, -⟩ := publish_idempotent Runtime.newYear freshAgent lostWebcam.status
    "usb-webcam" freshWebcam .serial (some lostWebcam) 1704067200 0 fun _ => none
  obtain ⟨patch, hpatch⟩ := hwrites (publishSpec_current freshAgent rfl (by decide +kernel)) rfl
    (Or.inl (by decide +kernel))
  obtain ⟨-, s, hs, hlease, -, hquiet⟩ := hpatches.head hpatch
  refine ⟨patch, s, hpatch, hs, by rw [hlease]; rfl, hquiet _ _ _ _ _ rfl ?_⟩
  cases hpatch
  rw [UsbDeviceStatus.fromValue_mergePatch] at hs
  cases hs
  decide +kernel

end AtomicUsb
