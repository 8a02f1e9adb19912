import AtomicUsb.Foundation.SortedMap
import AtomicUsb.Kubevirt
import Mathlib.Data.String.Basic

/-!
# Allocation of usbredir slots

Every claim needs one of the four usbredir slots of its VM.  `allocateSlots` hands them out in
three passes over the claims of a VM, oldest first: pinned slots win, then claims keep the slot
they already have, then the remaining claims get the highest free slot.
-/

namespace AtomicUsb

structure SlotRequest where
  uid : String
  name : String
  /-- Namespace and VM name. -/
  vm : String × String
  pinned : Option ℤ
  previous : Option ℤ
  deriving DecidableEq

abbrev SlotResult := String → Option (Except String ℤ)

/-- The slots of one VM in use, with the claim using each, and the results so far. -/
structure SlotState where
  used : ℤ → Option String
  result : SlotResult

def inRange (slot : ℤ) : Bool := 0 ≤ slot && slot < usbredirSlots

namespace SlotState

def grant (st : SlotState) (r : SlotRequest) (slot : ℤ) : SlotState where
  used := Function.update st.used slot (some r.name)
  result := Function.update st.result r.uid (some (.ok slot))

def refuse (st : SlotState) (r : SlotRequest) (reason : String) : SlotState :=
  { st with result := Function.update st.result r.uid (some (.error reason)) }

/-- The highest slot nobody uses. -/
def highestFree (st : SlotState) : Option ℤ :=
  ([3, 2, 1, 0] : List ℤ).find? fun s => (st.used s).isNone

end SlotState

/-- First pass: a pinned slot goes to the oldest claim that pins it. -/
def pinStep (st : SlotState) (r : SlotRequest) : SlotState :=
  match r.pinned with
  | none => st
  | some slot =>
    if !inRange slot then
      st.refuse r s!"spec.slot must be between 0 and {usbredirSlots - 1}"
    else
      match st.used slot with
      | some owner => st.refuse r s!"slot {slot} is already pinned by claim {owner}"
      | none => st.grant r slot

/-- Second pass: an unpinned claim keeps its slot if nobody has taken it. -/
def keepStep (st : SlotState) (r : SlotRequest) : SlotState :=
  match r.previous.filter fun s => inRange s && (st.used s).isNone with
  | some slot => st.grant r slot
  | none => st

/-- Third pass: the highest free slot. -/
def newStep (st : SlotState) (r : SlotRequest) : SlotState :=
  match st.highestFree with
  | some slot => st.grant r slot
  | none => st.refuse r s!"all {usbredirSlots} usbredir slots of the VM are in use"

/-- The three passes over the claims of one VM. -/
def allocateVm (result : SlotResult) (requests : List SlotRequest) : SlotResult :=
  let pinned := requests.foldl pinStep ⟨fun _ => none, result⟩
  let keeping := (requests.filter (·.pinned.isNone)).foldl keepStep pinned
  let unassigned := requests.filter fun r => (keeping.result r.uid).isNone
  (unassigned.foldl newStep keeping).result

/-- The VMs that are asked for slots, in key order. -/
def requestedVms (requests : List SlotRequest) : List (String × String) :=
  sortByKey toLex (requests.map (·.vm)).dedup

/-- Assigns each claim a usbredir slot of its VM.  Requests must be ordered oldest first. -/
def allocateSlots (requests : List SlotRequest) : SlotResult :=
  (requestedVms requests).foldl
    (fun result vm => allocateVm result (requests.filter (·.vm = vm))) fun _ => none

end AtomicUsb
