import AtomicUsb.Agent.Attacher
import AtomicUsb.Agent.Publishing
import AtomicUsb.Controller.EarlyRelease

/-!
# What the stored statuses look like on the wire

The API server stores a status as JSON and merges JSON patches into it; the other modules store
records and merge patches that are records.  `store_follows` says that this makes no difference,
whichever patches arrive in whichever order, and that controllers and agents stay out of each
other's way.

For a device every member is replaced as a whole.  A claim's `connection` and `bootHold` are
objects, which a merge patch changes member by member: a member that a patch leaves out stays.
The patch for `bootHold` leaves out what is `none`, and `BootHoldPatch.merge` keeps the old value as
well.  The patch for `connection` would keep an old message; `Reporter.reportWith` always sends one,
and clears `awaitingResume` with an explicit null.
-/

namespace AtomicUsb

open Json (Codec)

/-! ## Devices -/

@[simp] lemma DevicePhase.codec_replaces : DevicePhase.codec.Replaces :=
  Codec.plain_replaces _ _ _ _

@[simp] lemma ExporterEndpoint.codec_replaces : ExporterEndpoint.codec.Replaces := by
  refine Codec.replaces_of_fields (fun e =>
    [("address", (e.map (·.address)).map Codec.string.encode),
     ("port", (e.map (·.port)).map Codec.nat.encode),
     ("pod", (e.map (·.pod)).map Codec.string.encode)]) (fun _ => rfl) rfl (fun _ _ => rfl)
    (fun _ => ?_) fun _ _ => ?_
  · show (["address", "port", "pod"] : List String).Nodup
    decide
  · simp [Json.mergeFields, -Option.map_map]

@[simp] lemma Attachment.codec_replaces : Attachment.codec.Replaces := by
  refine Codec.replaces_of_fields (fun a =>
    [("namespace", (a.map (·.ns)).map Codec.string.encode),
     ("claim", (a.map (·.claim)).map Codec.string.encode),
     ("claimUid", (a.map (·.claimUid)).map Codec.string.encode),
     ("vmName", (a.map (·.vmName)).map Codec.string.encode),
     ("since", (a.map (·.since)).map Codec.string.encode)]) (fun _ => rfl) rfl (fun _ _ => rfl)
    (fun _ => ?_) fun _ _ => ?_
  · show (["namespace", "claim", "claimUid", "vmName", "since"] : List String).Nodup
    decide
  · simp [Json.mergeFields, -Option.map_map]


lemma UsbDeviceStatus.mergePatch_toValue (stored : Option UsbDeviceStatus)
    (p : DeviceStatusPatch) :
    Json.mergePatch (stored.map toValue) p.toValue = toValue (p.merge (stored.getD {})) := by
  have htarget : Json.mergePatch (stored.map toValue) p.toValue =
      Json.mergePatch (some (toValue (stored.getD {}))) p.toValue := by
    cases stored with
    | some s => rfl
    | none => rfl
  have hfields : Json.mergeFields (fields (stored.getD {})) p.fields =
      fields (p.merge (stored.getD {})) := by
    simp [Json.mergeFields, fields, DeviceStatusPatch.fields, DeviceStatusPatch.merge]
  rw [htarget, toValue, DeviceStatusPatch.toValue,
    Json.mergePatch_skipNone (by rfl) (fields_nodup _), hfields]
  rfl

/-! ## Claims -/

def ClaimPhase.debug : ClaimPhase → String
  | .pending => "Pending"
  | .deviceUnavailable => "DeviceUnavailable"
  | .waitingForVM => "WaitingForVM"
  | .vmNotConfigured => "VMNotConfigured"
  | .connecting => "Connecting"
  | .attached => "Attached"
  | .invalid => "Invalid"

def ClaimPhase.codec : Codec ClaimPhase :=
  .variants debug [.pending, .deviceUnavailable, .waitingForVM, .vmNotConfigured, .connecting,
    .attached, .invalid] fun p => by cases p <;> decide

@[simp] lemma ClaimPhase.codec_replaces : codec.Replaces := Codec.variants_replaces _ _ _

def BootHoldState.debug : BootHoldState → String
  | .holding => "Holding"
  | .released => "Released"
  | .notConfigured => "NotConfigured"

def BootHoldState.codec : Codec BootHoldState :=
  .variants debug [.holding, .released, .notConfigured] fun p => by cases p <;> decide

@[simp] lemma BootHoldState.codec_replaces : codec.Replaces := Codec.variants_replaces _ _ _

def ConnectionState.debug : ConnectionState → String
  | .connecting => "Connecting"
  | .connected => "Connected"
  | .disconnected => "Disconnected"

def ConnectionState.codec : Codec ConnectionState :=
  .variants debug [.connecting, .connected, .disconnected] fun p => by cases p <;> decide

@[simp] lemma ConnectionState.codec_replaces : codec.Replaces := Codec.variants_replaces _ _ _

namespace ConnectionStatus

/-- The members of a report; of one that is not there, none. -/
def fields (c : Option ConnectionStatus) : List (String × Option Json) :=
  [("state", (c.map (·.state)).map ConnectionState.codec.encode),
   ("node", (c.map (·.node)).map Codec.string.encode),
   ("deviceName", (c.map (·.deviceName)).map Codec.string.encode),
   ("slot", (c.map (·.slot)).map Codec.int.encode),
   ("since", (c.map (·.since)).map Codec.string.encode),
   ("message", (c.bind (·.message)).map Codec.string.encode),
   ("awaitingResume", (c.bind (·.awaitingResume)).map Codec.boolean.encode)]

def toValue (c : ConnectionStatus) : Json := Json.skipNone (fields (some c))

def fromValue (v : Json) : Option ConnectionStatus := do
  let state ← ConnectionState.codec.required v "state"
  let node ← Codec.string.required v "node"
  let deviceName ← Codec.string.required v "deviceName"
  let slot ← Codec.int.required v "slot"
  let since ← Codec.string.required v "since"
  let message ← Codec.string.optional v "message"
  let awaitingResume ← Codec.boolean.optional v "awaitingResume"
  pure ⟨state, node, deviceName, slot, since, message, awaitingResume⟩

/-- What `report_with` sends: a merge patch only drops a field that is explicitly null, so
`awaitingResume` is always there. -/
def patchValue (c : ConnectionStatus) : Json :=
  .obj (Json.insertMember "awaitingResume"
    ((c.awaitingResume.map Codec.boolean.encode).getD .null) c.toValue.members)

lemma fields_nodup (c : Option ConnectionStatus) : ((fields c).map Prod.fst).Nodup := by
  show (["state", "node", "deviceName", "slot", "since", "message", "awaitingResume"] :
    List String).Nodup
  decide

lemma get?_toValue (c : ConnectionStatus) (k : String) :
    c.toValue.get? k = ((fields (some c)).lookup k).join := Json.get?_skipNone (fields_nodup _) k

lemma fromValue_toValue (c : ConnectionStatus) : fromValue c.toValue = some c := by
  have hstate : ConnectionState.codec.required c.toValue "state" = some c.state :=
    Codec.required_get? _ (c.get?_toValue _)
  have hnode : Codec.string.required c.toValue "node" = some c.node :=
    Codec.required_get? _ (c.get?_toValue _)
  have hdeviceName : Codec.string.required c.toValue "deviceName" = some c.deviceName :=
    Codec.required_get? _ (c.get?_toValue _)
  have hslot : Codec.int.required c.toValue "slot" = some c.slot :=
    Codec.required_get? _ (c.get?_toValue _)
  have hsince : Codec.string.required c.toValue "since" = some c.since :=
    Codec.required_get? _ (c.get?_toValue _)
  have hmessage : Codec.string.optional c.toValue "message" = some c.message :=
    Codec.optional_encode _ (c.get?_toValue _)
  have hawaiting : Codec.boolean.optional c.toValue "awaitingResume" = some c.awaitingResume :=
    Codec.optional_encode _ (c.get?_toValue _)
  simp [fromValue, hstate, hnode, hdeviceName, hslot, hsince, hmessage, hawaiting]

/-- A report that carries a message replaces the one that is there. -/
lemma mergePatch_patchValue (old : Option ConnectionStatus) {c : ConnectionStatus}
    (h : c.message.isSome = true) :
    Json.mergePatch (old.map toValue) c.patchValue = c.toValue := by
  have htarget : Json.mergePatch (old.map toValue) c.patchValue =
      Json.mergePatch (some (Json.skipNone (fields old))) c.patchValue := by
    cases old with
    | some b => rfl
    | none => rfl
  have hpatch : c.patchValue = _ := Json.insertMember_skipNone (fields_nodup _) (by simp [fields]) _
  rw [htarget, hpatch, Json.mergePatch_skipNone (by rfl) (fields_nodup _), toValue]
  obtain ⟨message, hmessage⟩ := Option.isSome_iff_exists.mp h
  cases hawaiting : c.awaitingResume with
  | none =>
      simp [Json.mergeFields, fields, hmessage, hawaiting, -Option.map_map, -Option.map_bind]
  | some b =>
      simp [Json.mergeFields, fields, hmessage, hawaiting, -Option.map_map, -Option.map_bind]

end ConnectionStatus

namespace BootHoldStatus

def fields (b : Option BootHoldStatus) : List (String × Option Json) :=
  [("state", (b.map (·.state)).map BootHoldState.codec.encode),
   ("vmiUid", (b.bind (·.vmiUid)).map Codec.string.encode),
   ("since", (b.map (·.since)).map Codec.string.encode),
   ("message", (b.bind (·.message)).map Codec.string.encode)]

def toValue (b : BootHoldStatus) : Json := Json.skipNone (fields (some b))

def fromValue (v : Json) : Option BootHoldStatus := do
  let state ← BootHoldState.codec.required v "state"
  let vmiUid ← Codec.string.optional v "vmiUid"
  let since ← Codec.string.required v "since"
  let message ← Codec.string.optional v "message"
  pure ⟨state, vmiUid, since, message⟩

lemma fields_nodup (b : Option BootHoldStatus) : ((fields b).map Prod.fst).Nodup := by
  show (["state", "vmiUid", "since", "message"] : List String).Nodup
  decide

lemma get?_toValue (b : BootHoldStatus) (k : String) :
    b.toValue.get? k = ((fields (some b)).lookup k).join := Json.get?_skipNone (fields_nodup _) k

lemma fromValue_toValue (b : BootHoldStatus) : fromValue b.toValue = some b := by
  have hstate : BootHoldState.codec.required b.toValue "state" = some b.state :=
    Codec.required_get? _ (b.get?_toValue _)
  have hvmiUid : Codec.string.optional b.toValue "vmiUid" = some b.vmiUid :=
    Codec.optional_encode _ (b.get?_toValue _)
  have hsince : Codec.string.required b.toValue "since" = some b.since :=
    Codec.required_get? _ (b.get?_toValue _)
  have hmessage : Codec.string.optional b.toValue "message" = some b.message :=
    Codec.optional_encode _ (b.get?_toValue _)
  simp [fromValue, hstate, hvmiUid, hsince, hmessage]

end BootHoldStatus

namespace BootHoldPatch

def fields (p : BootHoldPatch) : List (String × Option Json) :=
  [("state", some (BootHoldState.codec.encode p.state)),
   ("vmiUid", Codec.string.member p.vmiUid),
   ("since", some (Codec.string.encode p.since)),
   ("message", Codec.string.member p.message)]

def toValue (p : BootHoldPatch) : Json := Json.skipNone p.fields

lemma mergePatch_toValue (old : Option BootHoldStatus) (p : BootHoldPatch) :
    Json.mergePatch (old.map BootHoldStatus.toValue) p.toValue = (p.merge old).toValue := by
  have htarget : Json.mergePatch (old.map BootHoldStatus.toValue) p.toValue =
      Json.mergePatch (some (Json.skipNone (BootHoldStatus.fields old))) p.toValue := by
    cases old with
    | some b => rfl
    | none => rfl
  have hfields : Json.mergeFields (BootHoldStatus.fields old) p.fields =
      BootHoldStatus.fields (some (p.merge old)) := by
    simp [Json.mergeFields, BootHoldStatus.fields, fields, merge, -Option.map_map, -Option.map_bind]
  rw [htarget, toValue, Json.mergePatch_skipNone (by rfl) (BootHoldStatus.fields_nodup _), hfields]
  rfl

end BootHoldPatch

namespace UsbDeviceClaimStatus

def fields (s : UsbDeviceClaimStatus) : List (String × Option Json) :=
  [("phase", s.phase.map ClaimPhase.codec.encode),
   ("deviceName", s.deviceName.map Codec.string.encode),
   ("sourceNode", s.sourceNode.map Codec.string.encode),
   ("slot", s.slot.map Codec.int.encode),
   ("message", s.message.map Codec.string.encode),
   ("observedGeneration", s.observedGeneration.map Codec.int.encode),
   ("connection", s.connection.map ConnectionStatus.toValue),
   ("bootHold", s.bootHold.map BootHoldStatus.toValue)]

def toValue (s : UsbDeviceClaimStatus) : Json := Json.skipNone s.fields

def fromValue (v : Json) : Option UsbDeviceClaimStatus := do
  let _ ← v.asObject
  let phase ← ClaimPhase.codec.optional v "phase"
  let deviceName ← Codec.string.optional v "deviceName"
  let sourceNode ← Codec.string.optional v "sourceNode"
  let slot ← Codec.int.optional v "slot"
  let message ← Codec.string.optional v "message"
  let observedGeneration ← Codec.int.optional v "observedGeneration"
  let connection ← Json.readOptional ConnectionStatus.fromValue v "connection"
  let bootHold ← Json.readOptional BootHoldStatus.fromValue v "bootHold"
  pure ⟨phase, deviceName, sourceNode, slot, message, observedGeneration, connection, bootHold⟩

lemma fields_nodup (s : UsbDeviceClaimStatus) : (s.fields.map Prod.fst).Nodup := by
  show (["phase", "deviceName", "sourceNode", "slot", "message", "observedGeneration",
    "connection", "bootHold"] : List String).Nodup
  decide

lemma get?_toValue (s : UsbDeviceClaimStatus) (k : String) :
    s.toValue.get? k = (s.fields.lookup k).join := Json.get?_skipNone s.fields_nodup k

lemma fromValue_toValue (s : UsbDeviceClaimStatus) : fromValue s.toValue = some s := by
  have hobject : s.toValue.asObject = some s.toValue.members := rfl
  have hphase : ClaimPhase.codec.optional s.toValue "phase" = some s.phase :=
    Codec.optional_encode _ (s.get?_toValue _)
  have hdeviceName : Codec.string.optional s.toValue "deviceName" = some s.deviceName :=
    Codec.optional_encode _ (s.get?_toValue _)
  have hsourceNode : Codec.string.optional s.toValue "sourceNode" = some s.sourceNode :=
    Codec.optional_encode _ (s.get?_toValue _)
  have hslot : Codec.int.optional s.toValue "slot" = some s.slot :=
    Codec.optional_encode _ (s.get?_toValue _)
  have hmessage : Codec.string.optional s.toValue "message" = some s.message :=
    Codec.optional_encode _ (s.get?_toValue _)
  have hgeneration : Codec.int.optional s.toValue "observedGeneration" =
      some s.observedGeneration := Codec.optional_encode _ (s.get?_toValue _)
  have hconnection : Json.readOptional ConnectionStatus.fromValue s.toValue "connection" =
      some s.connection :=
    Json.readOptional_encode ConnectionStatus.fromValue_toValue (fun _ => nofun) (s.get?_toValue _)
  have hbootHold : Json.readOptional BootHoldStatus.fromValue s.toValue "bootHold" =
      some s.bootHold :=
    Json.readOptional_encode BootHoldStatus.fromValue_toValue (fun _ => nofun) (s.get?_toValue _)
  simp [fromValue, hobject, hphase, hdeviceName, hsourceNode, hslot, hmessage, hgeneration,
    hconnection, hbootHold]

end UsbDeviceClaimStatus

namespace ClaimStatusPatch

def fields (p : ClaimStatusPatch) : List (String × Option Json) :=
  [("phase", ClaimPhase.codec.member p.phase),
   ("deviceName", Codec.string.member p.deviceName),
   ("sourceNode", Codec.string.member p.sourceNode),
   ("slot", Codec.int.member p.slot),
   ("message", Codec.string.member p.message),
   ("observedGeneration", Codec.int.member p.observedGeneration),
   ("connection", Json.memberWith ConnectionStatus.patchValue p.connection),
   ("bootHold", Json.memberWith BootHoldPatch.toValue p.bootHold)]

def toValue (p : ClaimStatusPatch) : Json := Json.skipNone p.fields

/-- A report of a connection carries a message. -/
def Explained (p : ClaimStatusPatch) : Prop :=
  ∀ c, p.connection = .value c → c.message.isSome = true

lemma mergeMember_connection {p : ClaimStatusPatch} (h : p.Explained)
    (old : Option ConnectionStatus) :
    Json.mergeMember (old.map ConnectionStatus.toValue)
        (Json.memberWith ConnectionStatus.patchValue p.connection) =
      (p.connection.merge old).map ConnectionStatus.toValue := by
  cases hp : p.connection with
  | absent => rfl
  | null => rfl
  | value c =>
      rw [Json.memberWith, Json.mergeMember_some _ (v := c.patchValue) nofun,
        ConnectionStatus.mergePatch_patchValue old (h c hp)]
      rfl

lemma mergeMember_bootHold (p : ClaimStatusPatch) (old : Option BootHoldStatus) :
    Json.mergeMember (old.map BootHoldStatus.toValue)
        (Json.memberWith BootHoldPatch.toValue p.bootHold) =
      (p.mergeBootHold old).map BootHoldStatus.toValue := by
  unfold mergeBootHold
  cases p.bootHold with
  | absent => rfl
  | null => rfl
  | value b =>
      rw [Json.memberWith, Json.mergeMember_some _ (v := b.toValue) nofun,
        BootHoldPatch.mergePatch_toValue]
      rfl

lemma mergePatch_toValue (stored : Option UsbDeviceClaimStatus) {p : ClaimStatusPatch}
    (h : p.Explained) :
    Json.mergePatch (stored.map UsbDeviceClaimStatus.toValue) p.toValue =
      (p.merge (stored.getD {})).toValue := by
  have htarget : Json.mergePatch (stored.map UsbDeviceClaimStatus.toValue) p.toValue =
      Json.mergePatch (some (stored.getD {}).toValue) p.toValue := by
    cases stored with
    | some s => rfl
    | none => rfl
  have hfields : Json.mergeFields (stored.getD {}).fields p.fields =
      (p.merge (stored.getD {})).fields := by
    simp [Json.mergeFields, UsbDeviceClaimStatus.fields, fields, merge, mergeMember_connection h,
      mergeMember_bootHold]
  rw [htarget, UsbDeviceClaimStatus.toValue, toValue,
    Json.mergePatch_skipNone (by rfl) (UsbDeviceClaimStatus.fields_nodup _), hfields]
  rfl

end ClaimStatusPatch

/-! ## Every patch that is sent -/

/-- Who writes the status of a claim. -/
inductive StatusWriter
  | controller
  | agent
  deriving DecidableEq

/-- A run of a controller's pass, or of an agent's report, sends the patch. -/
inductive ClaimStatusPatch.SentBy (p : ClaimStatusPatch) : StatusWriter → Prop
  | controller {ctx : PassContext} {snap : Snapshot} {released : Released} {tr : List ApiEvent}
      {r : PassResult} (h : (reconcileAll ctx snap released).Runs tr r) {e : ApiEvent}
      (he : e ∈ tr) {writer : Writer} {ns name : String}
      (hcall : e.1 = .patchClaimStatus writer ns name p) :
      SentBy p .controller
  | agent {rt : Runtime} {r r' : Reporter} {node : String} {spec : SessionSpec}
      {current : Option ConnectionStatus} {now : ℤ} {state : ConnectionState} {message : String}
      {awaitingResume : Bool} {tr : List ApiEvent}
      (h : (r.reportWith rt node spec current now state message awaitingResume).Runs tr r')
      {e : ApiEvent} (he : e ∈ tr) {by_ : Writer} {ns name : String}
      (hcall : e.1 = .patchClaimStatus by_ ns name p) : SentBy p .agent

/-- The controller leaves connections alone. -/
def NoConnection (call : ApiCall) : Prop :=
  ∀ by_ ns name p, call = .patchClaimStatus by_ ns name p → p.connection = .absent

section Sent

variable (ctx : PassContext)

lemma writeReport_noConnection {claim : UsbDeviceClaim} {desired : ClaimReport}
    {devices : DeviceMap} : (writeReport claim desired devices).Issues NoConnection := by
  unfold writeReport
  split_ifs
  · refine ⟨fun _ _ _ p hp => ?_, fun x => ?_⟩
    · cases hp
      rfl
    · cases x with
      | ok _ => trivial
      | error e => cases e <;> trivial
  · trivial

lemma reconcileClaim_noConnection {snap : Snapshot} {slots : SlotResult} {claim : UsbDeviceClaim}
    {devices : DeviceMap} :
    (reconcileClaim ctx snap slots claim devices).Issues NoConnection :=
  ApiProg.issues_andThen (bindOwner_issues fun _ _ _ _ _ _ => nofun) fun _ _ =>
    ApiProg.issues_andThen (leaseTarget_issues ctx fun _ _ _ _ _ _ _ => nofun) fun _ _ =>
      ApiProg.issues_andThen (releaseOthers_issues fun _ _ _ _ _ _ _ => nofun) fun _ _ =>
        ApiProg.issues_andThen writeReport_noConnection fun _ _ => trivial

lemma claimPass_noConnection {snap : Snapshot} {slots : SlotResult} :
    ∀ {claims : List UsbDeviceClaim} {devices : DeviceMap},
      (claimPass ctx snap slots claims devices).Issues NoConnection
  | [], _ => trivial
  | _ :: _, _ => (reconcileClaim_noConnection ctx).bind fun _ =>
      claimPass_noConnection.bind fun _ => trivial

lemma bootHoldPass_noConnection {snap : Snapshot}
    {outcomes : List (UsbDeviceClaim × Except ApiError ClaimOutcome)} :
    ∀ {keys : List (String × String)} {released : Released},
      (bootHoldPass ctx snap outcomes keys released).Issues NoConnection
  | [], _ => trivial
  | _ :: _, _ => by
      refine ((reconcileBootHold_issues ctx).mono fun call hcall => ?_).bind fun _ =>
        bootHoldPass_noConnection.bind fun _ => trivial
      rintro by_ ns name p rfl
      cases hcall <;> rfl

lemma reconcileAll_noConnection {snap : Snapshot} {released : Released} :
    (reconcileAll ctx snap released).Issues NoConnection := by
  unfold reconcileAll
  refine ((devicePass_issues ctx).mono fun call hcall => ?_).bind ?_
  · rintro by_ ns name p rfl
    cases hcall
  · rintro ⟨devices, e | requeue⟩
    · trivial
    · exact (claimPass_noConnection ctx).bind fun _ =>
        (bootHoldPass_noConnection ctx).bind fun _ => trivial

end Sent

/-- All an agent reports is a connection, with a message. -/
lemma reportWith_issues_connection {rt : Runtime} {r : Reporter} {node : String}
    {spec : SessionSpec} {current : Option ConnectionStatus} {now : ℤ} {state : ConnectionState}
    {message : String} {awaitingResume : Bool} :
    (r.reportWith rt node spec current now state message awaitingResume).Issues fun call =>
      ∀ by_ ns name p, call = .patchClaimStatus by_ ns name p →
        ∃ c, c.message.isSome = true ∧ p = { connection := .value c } := by
  unfold Reporter.reportWith
  dsimp only
  split_ifs
  · trivial
  · trivial
  · refine ⟨fun _ _ _ p hp => ?_, fun _ => trivial⟩
    cases hp
    exact ⟨_, rfl, rfl⟩

namespace ClaimStatusPatch

variable {p : ClaimStatusPatch} {w : StatusWriter}

lemma SentBy.noConnection (h : p.SentBy .controller) : p.connection = .absent := by
  cases h with
  | controller h he hcall => exact (reconcileAll_noConnection _).of_runs h _ he _ _ _ _ hcall

lemma SentBy.connection (h : p.SentBy .agent) :
    ∃ c, c.message.isSome = true ∧ p = { connection := .value c } := by
  cases h with
  | agent h he hcall => exact reportWith_issues_connection.of_runs h _ he _ _ _ _ hcall

lemma SentBy.explained (h : p.SentBy w) : p.Explained := by
  intro c hc
  cases w with
  | controller =>
      rw [h.noConnection] at hc
      cases hc
  | agent =>
      obtain ⟨c', hmessage, rfl⟩ := h.connection
      cases hc
      exact hmessage

end ClaimStatusPatch

/-- The records a run of patches makes of a stored status. -/
def UsbDeviceStatus.patched (stored : Option UsbDeviceStatus) (ps : List DeviceStatusPatch) :
    Option UsbDeviceStatus := ps.foldl (fun s p => some (p.merge (s.getD {}))) stored

def UsbDeviceClaimStatus.patched (stored : Option UsbDeviceClaimStatus)
    (ps : List ClaimStatusPatch) : Option UsbDeviceClaimStatus :=
  ps.foldl (fun s p => some (p.merge (s.getD {}))) stored

/-- A patch without a connection does the same beside any connection. -/
lemma ClaimStatusPatch.merge_of_noConnection {p : ClaimStatusPatch} (h : p.connection = .absent)
    (s : UsbDeviceClaimStatus) (c : Option ConnectionStatus) :
    p.merge { s with connection := c } = { p.merge s with connection := c } := by
  simp only [merge, h]
  rfl

/-- The patches of one of the writers, in their order. -/
def StatusWriter.sent (w : StatusWriter) (ps : List (StatusWriter × ClaimStatusPatch)) :
    List ClaimStatusPatch :=
  (ps.filter fun e => e.1 = w).map Prod.snd

/-- The connection is the agents', and everything else the controllers'. -/
lemma UsbDeviceClaimStatus.patched_apart {ps : List (StatusWriter × ClaimStatusPatch)} :
    ∀ {s} (s₁ s₂ : Option UsbDeviceClaimStatus), (∀ e ∈ ps, e.2.SentBy e.1) →
      s.getD {} = { s₁.getD {} with connection := (s₂.getD {}).connection } →
      (patched s (ps.map Prod.snd)).getD {} =
        { (patched s₁ (StatusWriter.controller.sent ps)).getD {} with
          connection := ((patched s₂ (StatusWriter.agent.sent ps)).getD {}).connection } := by
  induction ps with
  | nil => exact fun _ _ _ hs => hs
  | cons e ps ih =>
      intro s s₁ s₂ h hs
      obtain ⟨w, p⟩ := e
      have hp : p.SentBy w := h _ List.mem_cons_self
      have hrest : ∀ e ∈ ps, e.2.SentBy e.1 := fun e he => h e (List.mem_cons_of_mem _ he)
      cases w with
      | controller =>
          refine ih (some (p.merge (s₁.getD {}))) s₂ hrest ?_
          show p.merge (s.getD {}) = _
          rw [hs]
          exact ClaimStatusPatch.merge_of_noConnection hp.noConnection _ _
      | agent =>
          obtain ⟨c, -, rfl⟩ := hp.connection
          refine ih s₁ (some (ClaimStatusPatch.merge _ (s₂.getD {}))) hrest ?_
          show ClaimStatusPatch.merge _ (s.getD {}) = _
          rw [hs]
          rfl

/-- **Storing JSON is storing records.**  Whatever status is stored, if any, and whichever patches
of a device, or patches that controllers and agents send for a claim, are merged into it in
whichever order: the JSON that results is that of the records merged, and reads back as them.  Of a
claim's status the connection is what the agents' patches alone make of it, and everything else what
the controllers' patches alone make of it. -/
theorem store_follows {ps : List (StatusWriter × ClaimStatusPatch)} (h : ∀ e ∈ ps, e.2.SentBy e.1)
    (stored : Option UsbDeviceClaimStatus) (device : Option UsbDeviceStatus)
    (qs : List DeviceStatusPatch) :
    (Json.patched (stored.map UsbDeviceClaimStatus.toValue) (ps.map fun e => e.2.toValue) =
        (UsbDeviceClaimStatus.patched stored (ps.map Prod.snd)).map UsbDeviceClaimStatus.toValue ∧
      (Json.patched (stored.map UsbDeviceClaimStatus.toValue)
          (ps.map fun e => e.2.toValue)).bind UsbDeviceClaimStatus.fromValue =
        UsbDeviceClaimStatus.patched stored (ps.map Prod.snd)) ∧
    (UsbDeviceClaimStatus.patched stored (ps.map Prod.snd)).getD {} =
      { (UsbDeviceClaimStatus.patched stored (StatusWriter.controller.sent ps)).getD {} with
        connection := ((UsbDeviceClaimStatus.patched stored
          (StatusWriter.agent.sent ps)).getD {}).connection } ∧
    Json.patched (device.map UsbDeviceStatus.toValue) (qs.map DeviceStatusPatch.toValue) =
        (UsbDeviceStatus.patched device qs).map UsbDeviceStatus.toValue ∧
      (Json.patched (device.map UsbDeviceStatus.toValue)
          (qs.map DeviceStatusPatch.toValue)).bind UsbDeviceStatus.fromValue =
        UsbDeviceStatus.patched device qs := by
  have hclaim : Json.patched (stored.map UsbDeviceClaimStatus.toValue)
      (ps.map fun e => e.2.toValue) =
        (UsbDeviceClaimStatus.patched stored (ps.map Prod.snd)).map
          UsbDeviceClaimStatus.toValue := by
    have hvalues : (ps.map fun e => e.2.toValue) =
        (ps.map Prod.snd).map ClaimStatusPatch.toValue := by
      rw [List.map_map]
      rfl
    rw [hvalues]
    refine Json.patched_map (fun s p hp => ClaimStatusPatch.mergePatch_toValue s ?_) stored
    obtain ⟨e, he, rfl⟩ := List.mem_map.mp hp
    exact (h e he).explained
  have hdevice : Json.patched (device.map UsbDeviceStatus.toValue)
      (qs.map DeviceStatusPatch.toValue) =
        (UsbDeviceStatus.patched device qs).map UsbDeviceStatus.toValue :=
    Json.patched_map (fun s p _ => UsbDeviceStatus.mergePatch_toValue s p) device
  refine ⟨⟨hclaim, ?_⟩, UsbDeviceClaimStatus.patched_apart _ _ h rfl, hdevice, ?_⟩
  · rw [hclaim]
    cases UsbDeviceClaimStatus.patched stored (ps.map Prod.snd) with
    | none => rfl
    | some s => exact s.fromValue_toValue
  · rw [hdevice]
    cases UsbDeviceStatus.patched device qs with
    | none => rfl
    | some s => exact s.fromValue_toValue

/-! The camera of the desktop is spliced onto it while it is paused; the controller releases the
boot, and the VM takes the camera. -/

def spliceSpec : SessionSpec := ⟨⟨"lab", "camera", "uid-camera"⟩, "camera", 3, "vmi-1", "desktop"⟩

def spliceReport (state : ConnectionState) (message : String) (awaitingResume : Bool) :
    ConnectionStatus :=
  (Reporter.new .newYear 1704067200).connection .newYear "node-a" spliceSpec 1704067200 state
    message awaitingResume

lemma spliceReport_sent (state : ConnectionState) (message : String) (awaitingResume : Bool) :
    ClaimStatusPatch.SentBy { connection := .value (spliceReport state message awaitingResume) }
      .agent := by
  have hrun : ∃ r, ((Reporter.new .newYear 1704067200).reportWith .newYear "node-a" spliceSpec none
      1704067200 state message awaitingResume).Runs
        [⟨.patchClaimStatus (.agent "node-a") "lab" "camera"
          { connection := .value (spliceReport state message awaitingResume) }, .ok ()⟩] r := by
    rw [Reporter.reportWith, if_neg nofun, if_neg fun h => by simp [Reporter.takenOver] at h]
    exact ⟨_, .ok (), [], rfl, rfl, rfl⟩
  obtain ⟨_, hrun⟩ := hrun
  exact .agent hrun List.mem_cons_self rfl

/-- What a pass that finds the camera ready sends for its claim. -/
lemma cameraOnly_sent {p : ClaimStatusPatch} (writer : Writer)
    (h : ApiCall.patchClaimStatus writer "lab" "camera" p ∈
      ((reconcileAll newYearPass cameraOnly fun _ => none).follow
        (answerExcept fun _ => false)).1.map (·.1)) : p.SentBy .controller := by
  obtain ⟨e, he, hcall⟩ := List.mem_map.mp h
  exact .controller (Prog.runs_follow _ _) he hcall

def splicePatches : List (StatusWriter × ClaimStatusPatch) :=
  [(.controller,
      { phase := .value .connecting
        deviceName := .value "camera"
        sourceNode := .value "node-b"
        slot := .value 3
        message := .value "waiting for the agent on the VM's node"
        observedGeneration := .null }),
   (.agent, { connection := .value (spliceReport .connecting "waiting" true) }),
   (.controller,
      { bootHold := .value
          { state := .released
            vmiUid := .value "vmi-1"
            since := "2024-01-01T00:00:00Z"
            message := .value "the device is ready" } }),
   (.agent, { connection := .value (spliceReport .connected "attached" false) })]

/-- The agent's second report clears the flag of its first, and what the controller wrote stays. -/
theorem store_follows_spliced : ∃ s,
    (Json.patched none (splicePatches.map fun e => e.2.toValue)).bind
      UsbDeviceClaimStatus.fromValue = some s ∧
    s.connection = some (spliceReport .connected "attached" false) ∧
    s.phase = some .connecting ∧ s.bootHold.map (·.state) = some .released := by
  have hsent : ∀ e ∈ splicePatches, e.2.SentBy e.1 :=
    List.forall_mem_cons.mpr ⟨cameraOnly_sent (.reconciling "uid-camera") (by decide +kernel),
      List.forall_mem_cons.mpr ⟨spliceReport_sent .connecting "waiting" true,
        List.forall_mem_cons.mpr ⟨cameraOnly_sent .bootHold (by decide +kernel),
          List.forall_mem_singleton.mpr (spliceReport_sent .connected "attached" false)⟩⟩⟩
  obtain ⟨⟨-, hread⟩, hapart, -⟩ := store_follows hsent none none []
  exact ⟨_, hread, congrArg (·.connection) hapart, congrArg (·.phase) hapart,
    congrArg (·.bootHold.map (·.state)) hapart⟩

end AtomicUsb
