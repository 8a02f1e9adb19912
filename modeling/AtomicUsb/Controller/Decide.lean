import AtomicUsb.Kubevirt

/-!
# What the controller decides without talking to anybody

The phase a claim is in, and what to do with the boot of a VM whose claims ask for `holdBoot`.
-/

namespace AtomicUsb

/-! ## Claim phases -/

structure PhaseInputs where
  invalid : Option String
  device : Option UsbDevice
  deviceAvailable : Bool
  vm : Option VmInfo
  vmi : Option VmiInfo
  /-- The VM exists and is not being deleted. -/
  vmPresent : Bool
  claim : UsbDeviceClaim
  slot : Option ℤ

/-- A running VMI reflects the configuration the VM was started with; the template applies
next. -/
def PhaseInputs.clientPassthrough (i : PhaseInputs) : Bool :=
  match i.vmi, i.vm with
  | some vmi, _ => vmi.clientPassthrough
  | none, some vm => vm.clientPassthrough
  | none, none => true

/-- The connection report says the device is attached to this VM, on this slot. -/
def ConnectionStatus.attachedTo (c : ConnectionStatus) (vmi : VmiInfo) (deviceName : String)
    (slot : Option ℤ) : Bool :=
  c.state == .connected && some c.node == vmi.node && c.deviceName == deviceName &&
    some c.slot == slot

def computePhase (i : PhaseInputs) : ClaimPhase × String :=
  let vmName := i.claim.spec.vmName
  match i.invalid with
  | some reason => (.invalid, reason)
  | none =>
  if !i.vmPresent then
    let state := if (i.vm.any (·.deleting)) || (i.vmi.any (·.deleting)) then "is being deleted"
      else "does not exist"
    (.waitingForVM, s!"VirtualMachine {vmName} {state}; no device is reserved")
  else
  match i.device with
  | none => (.pending, "no free UsbDevice matches the selector")
  | some device =>
  if !i.deviceAvailable then
    let phase := (device.statusRef.phase.map (·.debug)).getD "not reported"
    let node := (device.statusRef.node.map fun n => s!" (last seen on {n})").getD ""
    (.deviceUnavailable, s!"device {device.name} is {phase}{node}")
  else if !i.clientPassthrough then
    (.vmNotConfigured, "VM needs spec.domain.devices.clientPassthrough: \x7b\x7d " ++
      "(set it in the VM template and restart)")
  else
  match i.vmi with
  | none =>
    let status := (i.vm.bind (·.printableStatus)).getD "Stopped"
    (.waitingForVM, s!"VirtualMachine {vmName} is {status}")
  | some vmi =>
  if !vmi.isRunning then
    let phase := vmi.phase.getD "starting"
    (.waitingForVM, s!"VirtualMachineInstance {vmName} is {phase}")
  else
  let connection := i.claim.status.bind (·.connection)
  if connection.any fun c => c.attachedTo vmi device.name i.slot then
    let source := device.statusRef.node.getD "?"
    (.attached, s!"{device.name} on {source} is attached to {vmName}")
  else
    (.connecting, ((connection.filter fun c => some c.node == vmi.node).bind (·.message)).getD
      "waiting for the agent on the VM's node")

/-- A claim is only attached to a device that is there, through a connection report that fits its
VM. -/
lemma attached_of_computePhase {i : PhaseInputs} (h : (computePhase i).1 = .attached) :
    i.deviceAvailable = true ∧ ∃ vmi c name, i.vmi = some vmi ∧
      i.claim.status.bind (·.connection) = some c ∧ c.attachedTo vmi name i.slot = true := by
  unfold computePhase at h
  dsimp only at h
  split at h
  · cases h
  split at h
  · cases h
  split at h
  · cases h
  split at h
  · cases h
  rename_i havail
  split at h
  · cases h
  split at h
  · cases h
  rename_i vmi hvmi
  split at h
  · cases h
  split at h
  · rename_i hany
    obtain ⟨c, hc, hatt⟩ := (Option.any_eq_true _ _).mp hany
    exact ⟨by simpa using havail, vmi, c, _, hvmi, hc, hatt⟩
  · cases h

/-! ## Boot holds -/

/-- A claim that holds its VM's boot, as seen by the boot-hold pass. -/
structure BootHoldClaim where
  name : String
  /-- The device is attached, or waiting on the slot for the VM to resume. -/
  ready : Bool
  /-- The claim can never become ready, so it must not keep the VM from booting. -/
  invalid : Bool
  /-- Seconds to hold the boot; `0` waits forever. -/
  timeoutSeconds : ℤ
  /-- What the claim's status currently says, to avoid rewriting it. -/
  current : Option BootHoldStatus
  deriving DecidableEq

structure BootHoldInputs where
  vm : Option VmInfo
  vmi : Option VmiInfo
  claims : List BootHoldClaim
  /-- This instance's boot was already released. -/
  alreadyReleased : Bool
  /-- The clock in whole seconds (`as_second`), all the decision takes from the timestamp. -/
  now : ℤ

inductive BootHoldAction
  /-- Leave the VM paused; the message says what is still missing. -/
  | hold (message : String)
  /-- Resume the VM, with the devices or because waiting took too long. -/
  | release (reason : String)
  /-- The VM does not start paused, so its boot cannot be held. -/
  | notConfigured (message : String)
  | nothing
  deriving DecidableEq

/-- How long an instance has been paused, `0` when its condition does not say. -/
def VmiInfo.waited (rt : Runtime) (vmi : VmiInfo) (now : ℤ) : ℤ :=
  max ((rt.ageSecs vmi.pausedSince now).getD 0) 0

/-- The claims an invalid one is not among: it can never become ready. -/
def holding (claims : List BootHoldClaim) : List BootHoldClaim := claims.filter fun c => !c.invalid

/-- The longest timeout, `0` for no claims. -/
def longestTimeout (claims : List BootHoldClaim) : ℤ :=
  ((claims.map (·.timeoutSeconds)).max?).getD 0

def forever (claims : List BootHoldClaim) : Bool := claims.any fun c => c.timeoutSeconds == 0

/-- Decides what to do with the boot of one VM whose claims ask for `holdBoot`. -/
def decideBootHold (rt : Runtime) (i : BootHoldInputs) : BootHoldAction :=
  let holding := holding i.claims
  if holding.isEmpty then .nothing
  else if i.vm.isNone && i.vmi.isNone then .nothing
  else if !(i.vmi.any (·.startPaused) || i.vm.any (·.startPaused)) then
    .notConfigured ("the VM does not start paused; set spec.template.spec.startStrategy: Paused " ++
      "in its template to hold its boot")
  else
  match i.vmi.filter fun vmi => vmi.paused && !vmi.deleting with
  | none => .nothing
  | some vmi =>
  if i.alreadyReleased then .nothing
  else
  let missing := (holding.filter fun c => !c.ready).map (·.name)
  if missing.isEmpty then
    .release (if holding.length = 1 then "the device is ready"
      else s!"all {holding.length} devices are ready")
  else
  let missing := ", ".intercalate missing
  let timeout := longestTimeout holding
  let waited := vmi.waited rt i.now
  if !forever holding && timeout ≤ waited then
    .release s!"gave up after {timeout}s; booting without {missing}"
  else if forever holding then .hold s!"waiting for {missing}"
  else .hold s!"waiting for {missing} ({timeout - waited}s left)"

/-- Nothing is left to wait for: every holding claim is ready, or the longest timeout is over. -/
def waitIsOver (rt : Runtime) (claims : List BootHoldClaim) (vmi : VmiInfo) (now : ℤ) : Prop :=
  (∀ c ∈ holding claims, c.ready = true) ∨
    (forever (holding claims) = false ∧ longestTimeout (holding claims) ≤ vmi.waited rt now)

/-- The instance is paused, its boot is held and not released yet, and the wait is over. -/
structure DueForRelease (rt : Runtime) (i : BootHoldInputs) (vmi : VmiInfo) : Prop where
  isInstance : i.vmi = some vmi
  paused : vmi.paused = true
  staying : vmi.deleting = false
  held : holding i.claims ≠ []
  unreleased : i.alreadyReleased = false
  waited : waitIsOver rt i.claims vmi i.now

lemma missing_isEmpty {claims : List BootHoldClaim} :
    ((claims.filter fun c => !c.ready).map (·.name)).isEmpty = true ↔
      ∀ c ∈ claims, c.ready = true := by
  simp

/-- **When a boot is released.** The instance is due, and it or its template starts paused. -/
lemma release_iff {rt : Runtime} {i : BootHoldInputs} :
    (∃ reason, decideBootHold rt i = .release reason) ↔
      ∃ vmi, DueForRelease rt i vmi ∧
        (vmi.startPaused = true ∨ i.vm.any (·.startPaused) = true) := by
  constructor
  · rintro ⟨reason, h⟩
    unfold decideBootHold at h
    dsimp only at h
    split at h
    · cases h
    rename_i hheld
    split at h
    · cases h
    split at h
    · cases h
    rename_i hstart
    split at h
    · cases h
    rename_i vmi hvmi
    obtain ⟨hsome, hpaused⟩ := Option.filter_eq_some_iff.mp hvmi
    simp only [Bool.and_eq_true, Bool.not_eq_true'] at hpaused
    rw [hsome] at hstart
    split at h
    · cases h
    rename_i hnot
    refine ⟨vmi, ⟨hsome, hpaused.1, hpaused.2, by simpa using hheld, by simpa using hnot, ?_⟩,
      by simpa [or_iff_not_imp_left] using hstart⟩
    split at h
    · rename_i hready
      exact Or.inl (missing_isEmpty.mp hready)
    · split at h
      · rename_i htimeout
        exact Or.inr (by simpa using htimeout)
      · split at h <;> cases h
  · rintro ⟨vmi, hdue, hstart⟩
    have hheld : (holding i.claims).isEmpty = false := by
      simpa using hdue.held
    have hstarts : (vmi.startPaused || i.vm.any (·.startPaused)) = true := by
      simpa using hstart
    simp only [decideBootHold, hheld, hdue.isInstance, hdue.unreleased, hdue.paused,
      hdue.staying, hstarts, Option.any_some, Option.filter_some, Option.isNone_some,
      Bool.and_false, Bool.false_eq_true, if_false, Bool.not_true, Bool.not_false, Bool.and_true,
      if_true]
    by_cases hready : ∀ c ∈ holding i.claims, c.ready = true
    · rw [if_pos (missing_isEmpty.mpr hready)]
      exact ⟨_, rfl⟩
    · obtain ⟨hforever, hlong⟩ := hdue.waited.resolve_left hready
      rw [if_neg (fun h => hready (missing_isEmpty.mp h)), if_pos (by simp [hforever, hlong])]
      exact ⟨_, rfl⟩

/-- What a decision to release rests on. -/
lemma release_of_decideBootHold {rt : Runtime} {i : BootHoldInputs} {reason : String}
    (h : decideBootHold rt i = .release reason) :
    ∃ vmi, i.vmi = some vmi ∧ vmi.paused = true ∧ i.alreadyReleased = false ∧
      waitIsOver rt i.claims vmi i.now := by
  obtain ⟨vmi, hdue, -⟩ := release_iff.mp ⟨reason, h⟩
  exact ⟨vmi, hdue.isInstance, hdue.paused, hdue.unreleased, hdue.waited⟩

/-- A release that was recorded is not repeated, and no hold replaces it. -/
lemma decideBootHold_of_released {rt : Runtime} {i : BootHoldInputs}
    (h : i.alreadyReleased = true) :
    decideBootHold rt i = .nothing ∨ ∃ message, decideBootHold rt i = .notConfigured message ∧
      i.vmi.any (·.startPaused) = false := by
  unfold decideBootHold
  dsimp only
  split
  · exact Or.inl rfl
  split
  · exact Or.inl rfl
  split
  · rename_i hstart
    right
    simp only [Bool.not_eq_true', Bool.or_eq_false_iff] at hstart
    exact ⟨_, rfl, hstart.1⟩
  split <;> exact Or.inl rfl

/-- Whether a boot-hold report has stopped describing the VM. -/
def bootHoldIsStale (current : Option BootHoldStatus) (vmiUid : Option String) : Bool :=
  match current with
  | none => false
  | some current =>
    !(current.state == .released && vmiUid.isSome && current.vmiUid == vmiUid)

end AtomicUsb
