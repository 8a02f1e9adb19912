import AtomicUsb.Foundation.Json
import AtomicUsb.Kubevirt

/-!
# KubeVirt objects as the API serves them

`VmiInfo` and `VmInfo` are read from untyped objects: metadata and a JSON value.  What is missing
or has the wrong shape is read as absent; only a namespace and a UID have to be there.
-/

namespace AtomicUsb

/-- The metadata of an object, as far as it is read. -/
structure ObjectMeta where
  ns : Option String
  name : Option String
  generateName : Option String
  uid : Option String
  ownerReferences : List OwnerReference
  deletionTimestamp : Option String

structure DynamicObject where
  metadata : ObjectMeta
  /-- Everything else. -/
  data : Json

/-- `name_any`. -/
def DynamicObject.nameAny (obj : DynamicObject) : String :=
  ((obj.metadata.name <|> obj.metadata.generateName)).getD ""

def conditionPaused : String := "Paused"

def startStrategyPaused : String := "Paused"

/-- A member of a value that is a text. -/
def strAt (v : Option Json) (key : String) : Option String :=
  (v.bind (·.get? key)).bind (·.asStr)

lemma strAt_eq_some {v : Json} {key text : String} :
    strAt (some v) key = some text ↔ v.get? key = some (.str text) := by
  unfold strAt
  rw [Option.bind_some]
  cases v.get? key with
  | none => simp
  | some w => cases w <;> simp [Json.asStr]

/-- There is something other than null at these keys. -/
def isSetAt (v : Option Json) (keys : List String) : Bool :=
  (v.bind (·.pointer keys)).any fun v => !v.isNull

namespace VmiInfo

/-- The first condition of type `Paused`, provided that its status is `True`. -/
def pausedCondition (obj : DynamicObject) : Option Json :=
  ((((obj.data.get? "status").bind (·.get? "conditions")).bind (·.asArray)).bind fun conditions =>
    conditions.find? fun c => strAt (some c) "type" = some conditionPaused).filter fun c =>
      strAt (some c) "status" = some "True"

def activePodsOf (obj : DynamicObject) : List (String × String) :=
  ((((obj.data.get? "status").bind (·.get? "activePods")).bind (·.asObject)).map fun pods =>
    pods.filterMap fun (uid, node) => node.asStr.map fun node => (uid, node)).getD []

def fromObject (obj : DynamicObject) : Option VmiInfo := do
  let spec := obj.data.get? "spec"
  let status := obj.data.get? "status"
  let ns ← obj.metadata.ns
  let uid ← obj.metadata.uid
  pure
    { ns := ns
      name := obj.nameAny
      uid := uid
      phase := strAt status "phase"
      node := (strAt status "nodeName").filter (· ≠ "")
      clientPassthrough := isSetAt spec ["domain", "devices", "clientPassthrough"]
      startPaused := strAt spec "startStrategy" = some startStrategyPaused
      paused := (pausedCondition obj).isSome
      pausedSince := (pausedCondition obj).bind fun c => strAt (some c) "lastTransitionTime"
      activePods := activePodsOf obj
      controlledByVm := obj.metadata.ownerReferences.any fun r =>
        r.kind == kindVM && r.controller == some true
      deleting := obj.metadata.deletionTimestamp.isSome }

/-- When the pause of an instance began, as its condition says. -/
lemma pausedSince_fromObject {obj : DynamicObject} {vmi : VmiInfo}
    (h : fromObject obj = some vmi) :
    vmi.pausedSince =
      (pausedCondition obj).bind fun c => strAt (some c) "lastTransitionTime" := by
  unfold fromObject at h
  obtain ⟨ns, -, h⟩ := Option.bind_eq_some_iff.mp h
  obtain ⟨uid, -, h⟩ := Option.bind_eq_some_iff.mp h
  cases h
  rfl

end VmiInfo

def VmInfo.fromObject (obj : DynamicObject) : Option VmInfo := do
  let ns ← obj.metadata.ns
  let uid ← obj.metadata.uid
  pure
    { ns := ns
      name := obj.nameAny
      uid := uid
      clientPassthrough := isSetAt (some obj.data)
        ["spec", "template", "spec", "domain", "devices", "clientPassthrough"]
      startPaused := (obj.data.pointer ["spec", "template", "spec", "startStrategy"]).bind
        (·.asStr) = some startStrategyPaused
      printableStatus := (obj.data.pointer ["status", "printableStatus"]).bind (·.asStr)
      deleting := obj.metadata.deletionTimestamp.isSome }

end AtomicUsb
