import AtomicUsb.Controller.PassTrace

/-!
# Boots released before their time

A boot is released as soon as every claim that holds it is ready, or when the longest timeout of
these claims has passed.  What a pass knows about readiness it learns claim by claim, and a claim
whose reconciliation fails half way is left out: the decision is then made on the others
(`early_release_unconsulted`).

`early_release_iff` says that this is the only way: a boot that is released before its time is
released with all its claims ready exactly when no error was passed on for any of them.
-/

namespace AtomicUsb

variable (ctx : PassContext)

/-- The live, valid claims that hold the boot of a VM. -/
def Snapshot.holders (snap : Snapshot) (key : String × String) : List UsbDeviceClaim :=
  snap.liveClaims.filter fun c =>
    decide (c.vmKey = key) && c.spec.holdBoot.isSome && (invalidReason ctx c snap.slots).isNone

lemma Snapshot.mem_holders {snap : Snapshot} {key : String × String} {c : UsbDeviceClaim} :
    c ∈ snap.holders ctx key ↔ c ∈ snap.liveClaims ∧ c.vmKey = key ∧
      c.spec.holdBoot.isSome = true ∧ invalidReason ctx c snap.slots = none := by
  simp [Snapshot.holders, List.mem_filter, and_assoc]

/-- The instance has not been paused for the longest of the timeouts yet, or one of them never
passes. -/
def BeforeTimeout (snap : Snapshot) (key : String × String) (v : VmiInfo) : Prop :=
  ∃ c ∈ snap.holders ctx key, ∃ hold, c.spec.holdBoot = some hold ∧
    (hold.timeout = 0 ∨ v.waited ctx.rt ctx.now < hold.timeout)

/-- The pass reconciled the claim and found its device ready. -/
def PassResult.FoundReady (r : PassResult) (c : UsbDeviceClaim) : Prop :=
  ∃ o hold, (c, Except.ok o) ∈ r.outcomes ∧ o.hold = some hold ∧ hold.ready = true

/-- The outcome says that the device is ready. -/
def outcomeReady (outcome : Except ApiError ClaimOutcome) : Bool :=
  match outcome with
  | .ok outcome => outcome.hold.any (·.ready)
  | .error _ => false

instance (r : PassResult) (c : UsbDeviceClaim) : Decidable (r.FoundReady c) :=
  decidable_of_iff (∃ p ∈ r.outcomes, p.1 = c ∧ outcomeReady p.2 = true) <| by
    constructor
    · rintro ⟨⟨c', err | o⟩, hmem, rfl, hready⟩
      · cases hready
      · obtain ⟨hold, hhold, hready⟩ := (Option.any_eq_true _ _).mp hready
        exact ⟨o, hold, hmem, hhold, hready⟩
    · rintro ⟨o, hold, hmem, hhold, hready⟩
      exact ⟨_, hmem, rfl, (Option.any_eq_true _ _).mpr ⟨hold, hhold, hready⟩⟩

lemma le_longestTimeout {claims : List BootHoldClaim} {c : BootHoldClaim} (hc : c ∈ claims) :
    c.timeoutSeconds ≤ longestTimeout claims := by
  have hmem : c.timeoutSeconds ∈ claims.map (·.timeoutSeconds) := List.mem_map_of_mem hc
  unfold longestTimeout
  cases hmax : (claims.map (·.timeoutSeconds)).max? with
  | none =>
      rw [List.max?_eq_none_iff] at hmax
      rw [hmax] at hmem
      cases hmem
  | some m => exact (List.max?_eq_some_iff.mp hmax).2 _ hmem

section Pass

variable {ctx} {snap : Snapshot} {released : Released} {tr : List ApiEvent} {r : PassResult}
  {c : UsbDeviceClaim} {key : String × String}

/-- **Early releases.**  If a pass resumes a VM before the longest timeout of its holding claims
has passed, then all these claims were found ready exactly when no error was passed on for any of
them. -/
theorem early_release_iff {v : VmiInfo} (h : (reconcileAll ctx snap released).Runs tr r)
    (hcall : ApiCall.unpause key.1 key.2 v.uid ∈ tr.map (·.1)) (hv : snap.vmi? key = some v)
    (hearly : BeforeTimeout ctx snap key v) :
    (∀ c ∈ snap.holders ctx key, r.FoundReady c) ↔
      ∀ c ∈ snap.holders ctx key, ∀ e ∈ tr, e.1.writer = .reconciling c.uidOrDefault →
        propagates e = false := by
  constructor
  · intro hready c hc e he hw
    obtain ⟨o, hold, hmem, -⟩ := hready c hc
    by_contra hprop
    obtain ⟨err, herr⟩ :=
      (outcome_failed ctx h hmem).mpr ⟨e, he, hw, Bool.of_not_eq_false hprop⟩
    cases herr
  · intro hclean
    -- without errors the decision is made on all the holders
    have hholds : ∀ c ∈ snap.holders ctx key, ∀ spec, c.spec.holdBoot = some spec →
        ∃ o hold, (c, Except.ok o) ∈ r.outcomes ∧ o.hold = some hold ∧
          hold ∈ holding (holdsOf r.outcomes key) ∧ hold.timeoutSeconds = spec.timeout := by
      intro c hc spec hspec
      obtain ⟨hlive, hkey, -, hvalid⟩ := (Snapshot.mem_holders ctx).mp hc
      obtain ⟨err | o, hmem⟩ := exists_outcome ctx h hcall hlive
      · obtain ⟨e, he, hw, hprop⟩ := (outcome_failed ctx h hmem).mp ⟨err, rfl⟩
        rw [hclean c hc e he hw] at hprop
        cases hprop
      · obtain ⟨ready, ho⟩ := hold_of_outcome ctx h hmem
        rw [holdOf, hspec] at ho
        refine ⟨o, _, hmem, ho, List.mem_filter.mpr ⟨mem_holdsOf.mpr ⟨c, o, hmem, ho, hkey⟩, ?_⟩,
          rfl⟩
        simp [hvalid]
    obtain ⟨e, he, heq⟩ := List.mem_map.mp hcall
    obtain ⟨call, x⟩ := e
    dsimp only at heq
    subst heq
    obtain ⟨released₁, reason, w, -, hrel, hw, -⟩ := unpause_of_runs ctx h he
    obtain rfl : w = v := Option.some.inj (hw.symm.trans hv)
    obtain ⟨w', hw', -, -, hdecided⟩ := release_of_decideBootHold hrel
    obtain rfl : w = w' := Option.some.inj hw'
    have hready : ∀ hold ∈ holding (holdsOf r.outcomes key), hold.ready = true := by
      rcases hdecided with hready | ⟨hforever, htimeout⟩
      · exact hready
      · exfalso
        obtain ⟨c, hc, spec, hspec, hwait⟩ := hearly
        obtain ⟨o, hold, -, -, hmem, hts⟩ := hholds c hc spec hspec
        have hle := le_longestTimeout hmem
        rcases hwait with hzero | hlt
        · have : forever (holding (holdsOf r.outcomes key)) = true :=
            List.any_eq_true.mpr ⟨hold, hmem, by simp [hts, hzero]⟩
          rw [this] at hforever
          cases hforever
        · rw [hts] at hle
          exact absurd (hlt.trans_le (hle.trans htimeout)) (lt_irrefl _)
    intro c hc
    obtain ⟨spec, hspec⟩ := Option.isSome_iff_exists.mp ((Snapshot.mem_holders ctx).mp hc).2.2.1
    obtain ⟨o, hold, hmem, ho, hhold, -⟩ := hholds c hc spec hspec
    exact ⟨o, hold, hmem, ho, hready hold hhold⟩

end Pass

/-! ### A paused VM with a camera and a security key

The camera waits on its slot for the VM to resume; the key does so too, or nobody has plugged it
in. -/

def desktopVmi : VmiInfo where
  ns := "lab"
  name := "desktop"
  uid := "vmi-1"
  phase := some "Running"
  node := some "node-a"
  clientPassthrough := true
  startPaused := true
  paused := true
  pausedSince := some "2024-01-01T00:00:00Z"
  activePods := []
  controlledByVm := true
  deleting := false

def cameraDevice : UsbDevice where
  name := "camera"
  resourceVersion := 1
  labels := []
  spec := ⟨"046d", "0825", none, none, some "Webcam", none, .descriptor⟩
  status := some
    { phase := some .available
      node := some "node-b"
      exporter := some ⟨"10.0.0.2", 4500, "agent-b"⟩
      lastSeen := some "2024-01-01T00:00:00Z"
      attachedTo := some ⟨"lab", "camera", "uid-camera", "desktop", "2024-01-01T00:00:00Z"⟩ }

/-- A claim of the desktop for the device of its own name. -/
def desktopClaim (name uid : String) (status : Option UsbDeviceClaimStatus) : UsbDeviceClaim where
  ns := some "lab"
  name := name
  uid := some uid
  resourceVersion := 1
  generation := none
  creationTimestamp := none
  deletionTimestamp := none
  ownerReferences := []
  spec := ⟨"desktop", { deviceName := some name }, none, some ⟨none⟩⟩
  status := status

def cameraClaim : UsbDeviceClaim := desktopClaim "camera" "uid-camera" <| some
  { connection := some
      { state := .connecting
        node := "node-a"
        deviceName := "camera"
        slot := 3
        since := "2024-01-01T00:00:00Z"
        message := none
        awaitingResume := some true } }

def keyClaim : UsbDeviceClaim := desktopClaim "key" "uid-key" none

def cameraDevices : DeviceMap := ⟨[cameraDevice], List.pairwise_singleton _ _⟩

/-- The caches when the desktop runs and nobody has claimed anything. -/
def desktopUp : Snapshot :=
  { Snapshot.empty with
    devices := cameraDevices
    vmis := [desktopVmi]
    vmis_nodup := List.nodup_singleton _ }

def desktopSnapshot (claims : List UsbDeviceClaim)
    (hclaims : (claims.map fun c => (c.ns.getD "", c.name)).Nodup)
    (huids : (claims.filterMap (·.uid)).Nodup) : Snapshot :=
  { desktopUp with claims := claims, claims_nodup := hclaims, uids_nodup := huids }

def newYearPass : PassContext := ⟨.newYear, ⟨90⟩, 1704067200⟩

/-- An API server where the status of some claims cannot be written. -/
def answerExcept (broken : String → Bool) : (c : ApiCall) → c.Answer
  | .patchClaimStatus _ _ name _ => if broken name then .error .other else .ok ()
  | .patchDeviceStatus .. => .error .other
  | .applyDevice .. => .ok ()
  | .patchOwnerReferences .. => .ok ()
  | .unpause .. => .ok ()

def cameraOnly : Snapshot := desktopSnapshot [cameraClaim] (by decide +kernel) (by decide +kernel)

/-- The key is plugged in and waits on the slot next to the camera's. -/
def keyDevice : UsbDevice where
  name := "key"
  resourceVersion := 1
  labels := []
  spec := ⟨"1050", "0407", none, none, some "Security key", none, .descriptor⟩
  status := some
    { phase := some .available
      node := some "node-b"
      exporter := some ⟨"10.0.0.2", 4500, "agent-b"⟩
      lastSeen := some "2024-01-01T00:00:00Z"
      attachedTo := some ⟨"lab", "key", "uid-key", "desktop", "2024-01-01T00:00:00Z"⟩ }

def keyConnected : UsbDeviceClaim := desktopClaim "key" "uid-key" <| some
  { connection := some
      { state := .connecting
        node := "node-a"
        deviceName := "key"
        slot := 2
        since := "2024-01-01T00:00:00Z"
        message := none
        awaitingResume := some true } }

def bothConnected : Snapshot :=
  { desktopSnapshot [cameraClaim, keyConnected] (by decide +kernel) (by decide +kernel) with
    devices := ⟨[cameraDevice, keyDevice], by decide +kernel⟩ }

/-- The VM waits for both of its devices, and they were ready when it is resumed. -/
theorem early_release_iff_both :
    ∃ tr r, (reconcileAll newYearPass bothConnected fun _ => none).Runs tr r ∧
      ApiCall.unpause "lab" "desktop" "vmi-1" ∈ tr.map (·.1) ∧
      (bothConnected.holders newYearPass ("lab", "desktop")).length = 2 ∧
      ∀ c ∈ bothConnected.holders newYearPass ("lab", "desktop"), r.FoundReady c := by
  refine ⟨_, _, Prog.runs_follow (answerExcept fun _ => false) _, by decide +kernel,
    by decide +kernel, ?_⟩
  rw [early_release_iff (v := desktopVmi) (Prog.runs_follow _ _) (by decide +kernel)
    (by decide +kernel) ⟨cameraClaim, by decide +kernel, ⟨none⟩, rfl, by decide +kernel⟩]
  intro c hc e he hw
  have hall : ((reconcileAll newYearPass bothConnected fun _ => none).follow
      (answerExcept fun _ => false)).1.all (fun e => !propagates e) = true := by decide +kernel
  simpa using List.all_eq_true.mp hall e he

def cameraAndKey : Snapshot :=
  desktopSnapshot [cameraClaim, keyClaim] (by decide +kernel) (by decide +kernel)

/-- The status of the claim for the key cannot be written, and the VM is resumed at once although
no agent has connected the key yet. -/
theorem early_release_unconsulted :
    ∃ tr r, (reconcileAll newYearPass cameraAndKey fun _ => none).Runs tr r ∧
      ApiCall.unpause "lab" "desktop" "vmi-1" ∈ tr.map (·.1) ∧
      BeforeTimeout newYearPass cameraAndKey ("lab", "desktop") desktopVmi ∧
      ∃ c ∈ cameraAndKey.holders newYearPass ("lab", "desktop"),
        c.statusOrDefault.connection = none ∧ ¬ r.FoundReady c := by
  refine ⟨_, _, Prog.runs_follow (answerExcept fun name => name == "key") _, by decide +kernel,
    ⟨keyClaim, by decide +kernel, ⟨none⟩, rfl, by decide +kernel⟩,
    keyClaim, by decide +kernel, rfl, by decide +kernel⟩

end AtomicUsb
