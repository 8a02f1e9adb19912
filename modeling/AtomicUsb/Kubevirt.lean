import AtomicUsb.Crd

/-!
# KubeVirt VMs and the lifetime of claims

Views of `VirtualMachine` and `VirtualMachineInstance` objects, and how a claim's lifetime is
tied to them through owner references.
-/

namespace AtomicUsb

/-- Number of `virt-usbredir-N` sockets KubeVirt creates for `clientPassthrough`. -/
def usbredirSlots : ℤ := 4

def kindVM : String := "VirtualMachine"

def kindVMI : String := "VirtualMachineInstance"

def apiVersion : String := "kubevirt.io/v1"

structure VmiInfo where
  ns : String
  name : String
  uid : String
  phase : Option String
  node : Option String
  clientPassthrough : Bool
  /-- `spec.startStrategy: Paused`: KubeVirt started this instance with its vCPUs stopped. -/
  startPaused : Bool
  /-- The `Paused` condition is true. -/
  paused : Bool
  /-- When the pause began. -/
  pausedSince : Option String
  /-- virt-launcher pod UID and node name, two of them during live migration. -/
  activePods : List (String × String)
  /-- Created and controlled by a `VirtualMachine`, as opposed to a bare VMI. -/
  controlledByVm : Bool
  deleting : Bool
  deriving DecidableEq

def VmiInfo.isRunning (vmi : VmiInfo) : Bool := vmi.phase == some "Running" && vmi.node.isSome

structure VmInfo where
  ns : String
  name : String
  uid : String
  clientPassthrough : Bool
  /-- `spec.template.spec.startStrategy: Paused`. -/
  startPaused : Bool
  printableStatus : Option String
  deleting : Bool
  deriving DecidableEq

/-- The KubeVirt object a claim's lifetime is bound to. -/
structure VmOwner where
  kind : String
  name : String
  uid : String
  deriving DecidableEq

/-- A non-controller reference that does not block the owner's deletion. -/
def VmOwner.ownerReference (o : VmOwner) : OwnerReference where
  apiVersion := AtomicUsb.apiVersion
  kind := o.kind
  name := o.name
  uid := o.uid
  controller := some false
  blockOwnerDeletion := some false

/-- What a claim for a VM belongs to: the `VirtualMachine`, or a bare VMI. -/
def vmOwner (vm : Option VmInfo) (vmi : Option VmiInfo) : Option VmOwner :=
  match vm with
  | some vm => some ⟨kindVM, vm.name, vm.uid⟩
  | none => (vmi.filter fun vmi => !vmi.controlledByVm).map fun vmi => ⟨kindVMI, vmi.name, vmi.uid⟩

/-- Whether the claim's VM exists and is not being deleted, i.e. whether it may hold a device. -/
def vmPresent (vm : Option VmInfo) (vmi : Option VmiInfo) : Bool :=
  match vm, vmi with
  | some vm, _ => !vm.deleting
  | none, some vmi => !vmi.deleting
  | none, none => false

def isKubevirtVmReference (r : OwnerReference) : Bool :=
  "kubevirt.io/".toList.isPrefixOf r.apiVersion.toList && (r.kind == kindVM || r.kind == kindVMI)

/-- The owner references a claim for `vmName` should have, or `none` if `existing` is already
right. -/
def claimOwnerReferences (existing : List OwnerReference) (vmName : String)
    (owner : Option VmOwner) : Option (List OwnerReference) :=
  let kept := existing.filter fun r =>
    !isKubevirtVmReference r || (owner.isNone && r.name == vmName)
  let desired := kept ++ (owner.map (·.ownerReference)).toList
  if desired ≠ existing then some desired else none

/-! ## Reconciling owner references -/

/-- The owner is a `VirtualMachine` or a `VirtualMachineInstance`. -/
def VmOwner.IsVm (o : VmOwner) : Prop := o.kind = kindVM ∨ o.kind = kindVMI

lemma vmOwner_isVm {vm : Option VmInfo} {vmi : Option VmiInfo} {o : VmOwner}
    (h : vmOwner vm vmi = some o) : o.IsVm := by
  unfold vmOwner at h
  split at h
  · cases h
    exact Or.inl rfl
  · obtain ⟨v, -, rfl⟩ := Option.map_eq_some_iff.mp h
    exact Or.inr rfl

lemma VmOwner.IsVm.isKubevirt {o : VmOwner} (h : o.IsVm) :
    isKubevirtVmReference o.ownerReference = true := by
  rcases h with hk | hk <;> simp only [isKubevirtVmReference, VmOwner.ownerReference, hk] <;>
    decide

/-- What `claimOwnerReferences` compares the existing references with. -/
def desiredReferences (existing : List OwnerReference) (vmName : String) (owner : Option VmOwner) :
    List OwnerReference :=
  (existing.filter fun r => !isKubevirtVmReference r || (owner.isNone && r.name == vmName)) ++
    (owner.map (·.ownerReference)).toList

section References

variable (existing : List OwnerReference) (vmName : String) {owner : Option VmOwner}

lemma claimOwnerReferences_eq : claimOwnerReferences existing vmName owner =
    if desiredReferences existing vmName owner ≠ existing then
      some (desiredReferences existing vmName owner)
    else none := rfl

lemma claimOwnerReferences_getD :
    (claimOwnerReferences existing vmName owner).getD existing =
      desiredReferences existing vmName owner := by
  rw [claimOwnerReferences_eq]
  split_ifs with h
  · rfl
  · exact (not_not.mp h).symm

/-- The owner's reference is a reference to a VM. -/
lemma ownReference_filter (howner : ∀ o ∈ owner, o.IsVm) (p : OwnerReference → Bool)
    (hp : ∀ r, isKubevirtVmReference r = true → p r = false) :
    (owner.map (·.ownerReference)).toList.filter p = [] := by
  cases owner with
  | none => rfl
  | some o => exact List.filter_cons_of_neg (by rw [hp _ (howner o rfl).isKubevirt]; decide)

/-- References to anything but VMs stay, in their order. -/
lemma desiredReferences_foreign (howner : ∀ o ∈ owner, o.IsVm) :
    (desiredReferences existing vmName owner).filter (fun r => !isKubevirtVmReference r) =
      existing.filter fun r => !isKubevirtVmReference r := by
  rw [desiredReferences, List.filter_append, ownReference_filter howner _ (by simp),
    List.append_nil, List.filter_filter]
  apply List.filter_congr
  intro r _
  cases isKubevirtVmReference r <;> rfl

/-- With an owner, it is the only VM referred to. -/
lemma desiredReferences_owned {o : VmOwner} (ho : o.IsVm) :
    (desiredReferences existing vmName (some o)).filter isKubevirtVmReference =
      [o.ownerReference] := by
  have hkept : (existing.filter fun r => !isKubevirtVmReference r ||
      ((some o).isNone && r.name == vmName)).filter isKubevirtVmReference = [] := by
    rw [List.filter_filter, List.filter_eq_nil_iff]
    intro r _
    cases isKubevirtVmReference r <;> simp
  rw [desiredReferences, List.filter_append, hkept, List.nil_append]
  exact List.filter_cons_of_pos ho.isKubevirt

/-- Without an owner, references to the VM's name stay. -/
lemma desiredReferences_unowned :
    (desiredReferences existing vmName none).filter isKubevirtVmReference =
      existing.filter fun r => isKubevirtVmReference r && r.name == vmName := by
  rw [desiredReferences, List.filter_append, List.filter_filter]
  refine (List.append_nil _).trans (List.filter_congr fun r _ => ?_)
  cases isKubevirtVmReference r <;> rfl

/-- What is desired of the desired references is themselves. -/
lemma desiredReferences_idem (howner : ∀ o ∈ owner, o.IsVm) :
    desiredReferences (desiredReferences existing vmName owner) vmName owner =
      desiredReferences existing vmName owner := by
  conv_lhs => rw [desiredReferences]
  conv_rhs => rw [desiredReferences]
  congr 1
  rw [desiredReferences, List.filter_append, List.filter_filter]
  cases owner with
  | none => simp
  | some o => rw [ownReference_filter howner _ (by simp)]; simp

/-- Asking again for what was just written asks for nothing. -/
lemma claimOwnerReferences_idem (howner : ∀ o ∈ owner, o.IsVm) :
    claimOwnerReferences ((claimOwnerReferences existing vmName owner).getD existing) vmName owner =
      none := by
  rw [claimOwnerReferences_getD, claimOwnerReferences_eq, desiredReferences_idem existing vmName
    howner, if_neg (not_not.mpr rfl)]

end References

/-- **Owner references are reconciled losslessly, and once.**  The owner is whatever `vmOwner`
yields, so a `VirtualMachine` or a `VirtualMachineInstance`. -/
theorem ownerReferences_reconciled :
    (∀ vm vmi, ∀ o ∈ vmOwner vm vmi, o.IsVm) ∧
    ∀ existing vmName, ∀ owner : Option VmOwner, (∀ o ∈ owner, o.IsVm) →
      let d := (claimOwnerReferences existing vmName owner).getD existing
      claimOwnerReferences d vmName owner = none ∧
        (d.filter fun r => !isKubevirtVmReference r) =
          (existing.filter fun r => !isKubevirtVmReference r) ∧
        (∀ o, owner = some o → d.filter isKubevirtVmReference = [o.ownerReference]) ∧
        (owner = none → d.filter isKubevirtVmReference =
          existing.filter fun r => isKubevirtVmReference r && r.name == vmName) := by
  refine ⟨fun vm vmi o ho => vmOwner_isVm ho, fun existing vmName owner howner => ?_⟩
  refine ⟨claimOwnerReferences_idem existing vmName howner, ?_, ?_, ?_⟩
  · rw [claimOwnerReferences_getD]
    exact desiredReferences_foreign existing vmName howner
  · rintro o rfl
    rw [claimOwnerReferences_getD]
    exact desiredReferences_owned existing vmName (howner o rfl)
  · rintro rfl
    rw [claimOwnerReferences_getD]
    exact desiredReferences_unowned existing vmName

/-- References left from the time before the desktop VM was recreated. -/
def staleReferences : List OwnerReference :=
  ([⟨kindVM, "desktop", "uid-1"⟩, ⟨"Pod", "desktop", "uid-2"⟩, ⟨kindVM, "desktop", "uid-1"⟩,
    ⟨kindVMI, "other", "uid-3"⟩] : List VmOwner).map (·.ownerReference)

/-- The recreated desktop VM. -/
def desktopOwner : VmOwner := ⟨kindVM, "desktop", "uid-4"⟩

theorem ownerReferences_reconciled_recreated :
    claimOwnerReferences staleReferences "desktop" (some desktopOwner) =
        some [(VmOwner.mk "Pod" "desktop" "uid-2").ownerReference, desktopOwner.ownerReference] ∧
      claimOwnerReferences
        [(VmOwner.mk "Pod" "desktop" "uid-2").ownerReference, desktopOwner.ownerReference]
        "desktop" (some desktopOwner) = none := by
  have hdesired : claimOwnerReferences staleReferences "desktop" (some desktopOwner) =
      some [(VmOwner.mk "Pod" "desktop" "uid-2").ownerReference, desktopOwner.ownerReference] := by
    decide +kernel
  have h := (ownerReferences_reconciled.2 staleReferences "desktop" (some desktopOwner)
    (by rintro o ⟨⟩; exact Or.inl rfl)).1
  rw [hdesired, Option.getD_some] at h
  exact ⟨hdesired, h⟩

end AtomicUsb
