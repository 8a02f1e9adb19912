import AtomicUsb.Controller.ReadyDevices

/-!
# Claims that hold more than one device

A claim that moves to another device holds two of them for a while, and for longer when the release
of the old one or the new status is lost.  The next turn of the claim goes on with one of the two
and gives up the other.  It should be the one that works; the code looks at the recorded name first
(`currentDevice_of_recorded`).  `keeps_working_iff` says that this is the only thing that goes
wrong.
-/

namespace AtomicUsb

section Choice

variable (ctx : PassContext) (claim : UsbDeviceClaim) (devices : DeviceMap)

/-- The claim holds a device, under this name, that matches its selector. -/
structure HoldsMatching (n : String) (d : UsbDevice) : Prop where
  found : devices.get? n = some d
  held : d.leaseHolder = some claim.uidOrDefault
  «matches» : claim.spec.selector.matches d = true

/-- The device the claim's status names is one it holds, and it is not available. -/
def RecordedIsDead : Prop :=
  ∃ n d, claim.statusOrDefault.deviceName = some n ∧ HoldsMatching claim devices n d ∧
    d.isAvailable ctx.rt ctx.now ctx.lostAfter = false

variable {ctx claim devices} {n : String} {d : UsbDevice}

lemma HoldsMatching.mem (h : HoldsMatching claim devices n d) :
    n ∈ (heldBy claim.uidOrDefault devices).filter fun n =>
      (devices.get? n).any claim.spec.selector.matches := by
  refine List.mem_filter.mpr ⟨mem_heldBy.mpr ?_, ?_⟩
  · simp [holder, h.found, h.held]
  · simp [h.found, h.matches]

lemma holdsMatching_current
    (h : currentDevice ctx claim devices (heldBy claim.uidOrDefault devices) = some n) :
    ∃ d, HoldsMatching claim devices n d := by
  obtain ⟨hheld, hmatch⟩ := currentDevice_mem ctx h
  obtain ⟨d, hd, hholder⟩ := Option.bind_eq_some_iff.mp (mem_heldBy.mp hheld)
  exact ⟨d, hd, hholder, by simpa [hd] using hmatch⟩

/-- The order in which held devices are preferred. -/
lemma currentDevice_least {m : String}
    (h : currentDevice ctx claim devices (heldBy claim.uidOrDefault devices) = some m)
    (hd : HoldsMatching claim devices n d) :
    claim.statusOrDefault.deviceName = some m ∨
      claim.statusOrDefault.deviceName ≠ some n ∧
        (available ctx devices n = true → available ctx devices m = true) := by
  have hle := List.le_of_mem_argmin (f := fun n =>
    toLex (decide (claim.statusOrDefault.deviceName ≠ some n),
      toLex (!available ctx devices n, n))) hd.mem h
  rw [Prod.Lex.toLex_le_toLex, Prod.Lex.toLex_le_toLex] at hle
  rcases hle with hlt | ⟨hsame, hle⟩
  · left
    simpa using (Bool.lt_iff.mp hlt).1
  · by_cases hrecorded : claim.statusOrDefault.deviceName = some m
    · exact Or.inl hrecorded
    · refine Or.inr ⟨by simpa [hrecorded] using hsame, fun havail => ?_⟩
      rcases hle with hlt | ⟨heq, -⟩
      · simpa [havail] using (Bool.lt_iff.mp hlt).2
      · simpa [havail] using heq

lemma exists_current (hd : HoldsMatching claim devices n d) :
    ∃ m, currentDevice ctx claim devices (heldBy claim.uidOrDefault devices) = some m := by
  refine Option.ne_none_iff_exists'.mp fun hnone => ?_
  rw [currentDevice, List.argmin_eq_none] at hnone
  exact List.not_mem_nil (hnone ▸ hd.mem)

/-- The recorded device comes first, dead or not. -/
lemma currentDevice_of_recorded (hd : HoldsMatching claim devices n d)
    (hrecorded : claim.statusOrDefault.deviceName = some n) :
    currentDevice ctx claim devices (heldBy claim.uidOrDefault devices) = some n := by
  obtain ⟨m, hm⟩ := @exists_current ctx claim devices n d hd
  rw [hm]
  have hfirst : claim.statusOrDefault.deviceName = some m := by
    rcases currentDevice_least hm hd with hfirst | ⟨hnot, -⟩
    · exact hfirst
    · exact absurd hrecorded hnot
  exact hfirst.symm.trans hrecorded

/-- Otherwise one that works comes first. -/
lemma currentDevice_available (hd : HoldsMatching claim devices n d)
    (havail : d.isAvailable ctx.rt ctx.now ctx.lostAfter = true)
    (hdead : ¬ RecordedIsDead ctx claim devices) :
    ∃ m d', currentDevice ctx claim devices (heldBy claim.uidOrDefault devices) = some m ∧
      HoldsMatching claim devices m d' ∧ d'.isAvailable ctx.rt ctx.now ctx.lostAfter = true := by
  obtain ⟨m, hm⟩ := @exists_current ctx claim devices n d hd
  obtain ⟨d', hd'⟩ := holdsMatching_current hm
  refine ⟨m, d', hm, hd', ?_⟩
  by_contra hgone
  have hgone : d'.isAvailable ctx.rt ctx.now ctx.lostAfter = false := by simpa using hgone
  have hother : claim.statusOrDefault.deviceName ≠ some m := fun hrecorded =>
    hdead ⟨m, d', hrecorded, hd', hgone⟩
  rcases currentDevice_least hm hd with hrecorded | ⟨-, hbest⟩
  · exact hother hrecorded
  · have hworks := hbest (by simp [available, hd.found, havail])
    simp [available, hd'.found, hgone] at hworks

end Choice

/-! ## What a turn leaves in the status -/

/-- The device name a report of a claim carries. -/
def ApiEvent.reportedName : ApiEvent → Option (Member String)
  | ⟨.patchClaimStatus _ _ _ patch, _⟩ => some patch.deviceName
  | _ => none

/-- `status.deviceName` of a claim after a turn, provided that its report is written. -/
def deviceNameAfter (claim : UsbDeviceClaim) (tr : List ApiEvent) : Option String :=
  match tr.findSome? ApiEvent.reportedName with
  | some m => m.merge claim.statusOrDefault.deviceName
  | none => claim.statusOrDefault.deviceName

section Turn

variable {ctx : PassContext} {snap : Snapshot} {slots : SlotResult} {claim : UsbDeviceClaim}
  {devices devices₁ devices₂ : DeviceMap} {tr tr₁ tr₂ : List ApiEvent} {target : Option String}
  {requeue : Bool}

/-- Nothing is reported before it is settled what the claim is bound to. -/
lemma bindClaim_reports {r : DeviceMap × Except ApiError (Option String × Bool)}
    (h : (bindClaim ctx snap slots claim devices).Runs tr r) :
    tr.findSome? ApiEvent.reportedName = none := by
  have hissues : (bindClaim ctx snap slots claim devices).Issues fun c =>
      ∀ x, ApiEvent.reportedName ⟨c, x⟩ = none :=
    ApiProg.issues_andThen (bindOwner_issues fun _ _ _ => rfl) fun _ _ =>
      ApiProg.issues_andThen (leaseTarget_issues ctx fun _ _ _ _ => rfl) fun _ _ =>
        ApiProg.issues_andThen (releaseOthers_issues fun _ _ _ _ => rfl) fun _ _ => trivial
  rw [List.findSome?_eq_none_iff]
  intro e he
  exact hissues.of_runs h e he e.2

lemma writeReport_reports {desired : ClaimReport}
    (h : (writeReport claim desired devices).Runs tr (devices₁, .ok ())) :
    deviceNameAfter claim tr = desired.deviceName := by
  unfold writeReport at h
  split at h
  · obtain ⟨x, tr', rfl, -⟩ := h
    exact Member.merge_ofOption _ _
  · rename_i hsame
    obtain ⟨rfl, -⟩ := h
    have hreport : desired = claim.statusOrDefault.report := not_not.mp (not_or.mp hsame).1
    rw [hreport]
    rfl

/-- The status names what the claim is bound to. -/
lemma deviceNameAfter_eq {outcome : ClaimOutcome}
    (hbind : (bindClaim ctx snap slots claim devices).Runs tr₁ (devices₁, .ok (target, requeue)))
    (hreport : (reportClaim ctx snap slots claim target requeue devices₁).Runs tr₂
      (devices₂, .ok outcome)) : deviceNameAfter claim (tr₁ ++ tr₂) = target := by
  obtain ⟨e, he, -⟩ | ⟨tr₃, tr₄, _, _, rfl, hwrite, hend⟩ := ApiProg.runs_andThen.mp hreport
  · cases he
  obtain ⟨rfl, -⟩ := hend
  have hname := writeReport_reports hwrite
  unfold deviceNameAfter at hname ⊢
  rw [List.append_nil, List.findSome?_append, bindClaim_reports hbind, Option.none_or]
  exact hname

lemma reportClaim_devices {r : DeviceMap × Except ApiError ClaimOutcome}
    (h : (reportClaim ctx snap slots claim target requeue devices).Runs tr r) : r.1 = devices := by
  obtain ⟨e, -, hwrite⟩ | ⟨_, _, devices₁, _, -, hwrite, hend⟩ := ApiProg.runs_andThen.mp h
  · exact writeReport_devices hwrite
  · have hsame : devices₁ = devices := writeReport_devices hwrite
    rw [hend.2, hsame]

lemma leaseTarget_of_available {n : String}
    (hcur : currentDevice ctx claim devices (heldBy claim.uidOrDefault devices) = some n)
    (havail : available ctx devices n = true) :
    leaseTarget ctx claim true (heldBy claim.uidOrDefault devices) devices =
      pure (devices, .ok (some n, false)) := by
  unfold leaseTarget
  rw [if_neg (by simp)]
  dsimp only
  rw [hcur, if_pos (by simpa using havail)]

/-- A claim whose device of choice works goes on with it and keeps it, however the turn ends. -/
lemma bindClaim_keeps {n : String} {r : DeviceMap × Except ApiError (Option String × Bool)}
    (hmay : mayHold ctx snap slots claim = true)
    (hcur : currentDevice ctx claim devices (heldBy claim.uidOrDefault devices) = some n)
    (havail : available ctx devices n = true)
    (h : (bindClaim ctx snap slots claim devices).Runs tr r) :
    r.1.get? n = devices.get? n ∧
      ∀ target requeue, r.2 = .ok (target, requeue) → target = some n := by
  obtain ⟨e, he, hown⟩ | ⟨_, _, devices₁, _, -, hown, hrest⟩ :=
    ApiProg.runs_andThen.mp h
  · rw [bindOwner_devices hown, he]
    exact ⟨rfl, nofun⟩
  obtain rfl : devices₁ = devices := bindOwner_devices hown
  dsimp only at hrest
  rw [hmay, leaseTarget_of_available hcur havail, ApiProg.pure_andThen] at hrest
  obtain ⟨e, he, hrelease⟩ | ⟨_, _, devices₂, _, -, hrelease, hend⟩ :=
    ApiProg.runs_andThen.mp hrest
  · rw [he]
    exact ⟨releaseOthers_get? hrelease (by simp), nofun⟩
  · rw [hend.2]
    refine ⟨releaseOthers_get? hrelease (by simp), fun target requeue hok => ?_⟩
    rw [Except.ok.injEq, Prod.mk.injEq] at hok
    exact hok.1.symm

/-- So does the whole turn, and one that comes to its end records that device. -/
lemma reconcileClaim_keeps {n : String} {r : Except ApiError ClaimOutcome}
    (hmay : mayHold ctx snap slots claim = true)
    (hcur : currentDevice ctx claim devices (heldBy claim.uidOrDefault devices) = some n)
    (havail : available ctx devices n = true)
    (h : (reconcileClaim ctx snap slots claim devices).Runs tr (devices₁, r)) :
    devices₁.get? n = devices.get? n ∧
      ∀ outcome, r = .ok outcome → deviceNameAfter claim tr = some n := by
  rw [reconcileClaim_eq] at h
  obtain ⟨e, he, hbind⟩ | ⟨tr₁, tr₂, devices₂, ⟨target, requeue⟩, rfl, hbind, hreport⟩ :=
    ApiProg.runs_andThen.mp h
  · refine ⟨(bindClaim_keeps hmay hcur havail hbind).1, fun outcome hok => ?_⟩
    cases he.symm.trans hok
  · obtain ⟨hkept, htarget⟩ := bindClaim_keeps hmay hcur havail hbind
    obtain rfl := htarget target requeue rfl
    obtain rfl : devices₁ = devices₂ := reportClaim_devices hreport
    refine ⟨hkept, ?_⟩
    rintro outcome rfl
    exact deviceNameAfter_eq hbind hreport

end Turn

/-! ## Working devices -/

section Working

variable (ctx : PassContext) (snap : Snapshot) (slots : SlotResult) (claim : UsbDeviceClaim)
  (devices : DeviceMap)

/-- The release of a device the claim held was accepted. -/
def GivenUp (n : String) (tr : List ApiEvent) : Prop :=
  ∃ v o, (⟨.patchDeviceStatus (.reconciling claim.uidOrDefault) n v { attachedTo := .null },
    .ok o⟩ : ApiEvent) ∈ tr

/-- Whatever the API server answers, a turn that comes to its end leaves the claim bound to an
available device, and one that gives up an available device of the claim leaves it with another. -/
def KeepsWorking : Prop :=
  ∀ tr devices' r, AnswersPatched devices tr →
    (reconcileClaim ctx snap slots claim devices).Runs tr (devices', r) →
      (∀ outcome, r = .ok outcome →
        ∃ n, deviceNameAfter claim tr = some n ∧ available ctx devices' n = true) ∧
      ∀ n d, HoldsMatching claim devices n d → d.isAvailable ctx.rt ctx.now ctx.lostAfter = true →
        GivenUp claim n tr → ∃ m d', HoldsMatching claim devices' m d' ∧
          d'.isAvailable ctx.rt ctx.now ctx.lostAfter = true

variable {ctx snap slots claim devices}

/-- A turn in which all devices are contended leaves the claim with the dead one. -/
lemma not_keepsWorking (hmay : mayHold ctx snap slots claim = true)
    (hdead : RecordedIsDead ctx claim devices) : ¬ KeepsWorking ctx snap slots claim devices := by
  obtain ⟨n, d, hrecorded, hd, hgone⟩ := hdead
  intro h
  have hcur := @currentDevice_of_recorded ctx claim devices n d hd hrecorded
  obtain ⟨tr₁, ⟨target, requeue⟩, href₁, hbind, rfl⟩ := bindClaim_passes hmay hcur
  obtain ⟨tr₂, outcome, href₂, hreport, -⟩ :
      Passes (reportClaim ctx snap slots claim (some n) requeue devices) devices fun _ => True :=
    (writeReport_passes _).andThen fun _ _ => Passes.pure trivial
  have hrun : (reconcileClaim ctx snap slots claim devices).Runs (tr₁ ++ tr₂)
      (devices, .ok outcome) := by
    rw [reconcileClaim_eq]
    exact ApiProg.runs_andThen.mpr (Or.inr ⟨tr₁, tr₂, devices, _, rfl, hbind, hreport⟩)
  obtain ⟨m, hname, havail⟩ := (h _ _ _ (href₁.append href₂).answersPatched hrun).1 outcome rfl
  obtain rfl : n = m := Option.some.inj ((deviceNameAfter_eq hbind hreport).symm.trans hname)
  simp [available, hd.found, hgone] at havail

variable (ctx snap slots claim devices)

/-- **When a claim keeps a working device.**  For a valid claim whose VM is present and that holds
an available device matching its selector: no turn trades it for one that is not available, unless
the device the status records is one that the claim holds and that is not available. -/
theorem keeps_working_iff (hvalid : invalidReason ctx claim slots = none)
    (hvm : vmPresent (snap.vm? claim.vmKey) (snap.vmi? claim.vmKey) = true)
    (hworks : ∃ n d, HoldsMatching claim devices n d ∧
      d.isAvailable ctx.rt ctx.now ctx.lostAfter = true) :
    KeepsWorking ctx snap slots claim devices ↔ ¬ RecordedIsDead ctx claim devices := by
  have hmay : mayHold ctx snap slots claim = true := by simp [mayHold, hvalid, hvm]
  constructor
  · exact fun h hdead => not_keepsWorking hmay hdead h
  · intro hdead tr devices' r _ hrun
    obtain ⟨n, d, hd, havail⟩ := hworks
    obtain ⟨m, d', hcur, hd', havail'⟩ := currentDevice_available hd havail hdead
    have hm : available ctx devices m = true := by simp [available, hd'.found, havail']
    obtain ⟨hkept, hname⟩ := reconcileClaim_keeps hmay hcur hm hrun
    refine ⟨fun outcome hok => ⟨m, hname outcome hok, ?_⟩, fun _ _ _ _ _ =>
      ⟨m, d', ⟨hkept.trans hd'.found, hd'.held, hd'.matches⟩, havail'⟩⟩
    rw [available, hkept]
    exact hm

end Working

/-! ### A claim in the middle of a move

The claim moved from the camera to its spare, and the status that says so was lost. -/

def spareCamera : UsbDevice := { cameraDevice with name := "spare" }

def bothCameras : DeviceMap := ⟨[unpluggedCamera, spareCamera], by decide +kernel⟩

/-- The claim takes any camera of its kind, and its status records one. -/
def movingClaim (recorded : String) : UsbDeviceClaim :=
  { desktopClaim "camera" "uid-camera" (some { deviceName := some recorded }) with
    spec := ⟨"desktop", { vendorId := some "046d" }, none, none⟩ }

def movingSnapshot (recorded : String) : Snapshot :=
  { desktopUp with
    devices := bothCameras
    claims := [movingClaim recorded]
    claims_nodup := List.nodup_singleton _
    uids_nodup := List.nodup_singleton _ }

/-- An API server that accepts everything. -/
def acceptRelease : (c : ApiCall) → c.Answer
  | .patchDeviceStatus _ _ _ patch => .ok ⟨2, patch.apply spareCamera.toDeviceBody⟩
  | .applyDevice .. => .ok ()
  | .patchOwnerReferences .. => .ok ()
  | .patchClaimStatus .. => .ok ()
  | .unpause .. => .ok ()

/-- Had the status been written, the claim would stay with the spare. -/
theorem keeps_working_iff_spare :
    KeepsWorking newYearPass (movingSnapshot "spare") (movingSnapshot "spare").slots
      (movingClaim "spare") bothCameras := by
  refine (keeps_working_iff _ _ _ _ _ (by decide +kernel) (by decide +kernel)
    ⟨"spare", spareCamera, ⟨by decide +kernel, by decide +kernel, by decide +kernel⟩,
      by decide +kernel⟩).mpr ?_
  rintro ⟨n, d, hn, hd, hgone⟩
  obtain rfl : "spare" = n := Option.some.inj hn
  have hspare : bothCameras.get? "spare" = some spareCamera := by decide +kernel
  obtain rfl := Option.some.inj (hspare.symm.trans hd.found)
  revert hgone
  decide +kernel

/-- The spare is given up for the camera that was pulled out. -/
theorem spare_traded_for_dead :
    invalidReason newYearPass (movingClaim "camera") (movingSnapshot "camera").slots = none ∧
    vmPresent ((movingSnapshot "camera").vm? (movingClaim "camera").vmKey)
      ((movingSnapshot "camera").vmi? (movingClaim "camera").vmKey) = true ∧
    HoldsMatching (movingClaim "camera") bothCameras "spare" spareCamera ∧
    available newYearPass bothCameras "spare" = true ∧
    ¬ KeepsWorking newYearPass (movingSnapshot "camera") (movingSnapshot "camera").slots
      (movingClaim "camera") bothCameras ∧
    ApiCall.patchDeviceStatus (.reconciling "uid-camera") "spare" (some 1)
        { attachedTo := .null } ∈
      ((reconcileClaim newYearPass (movingSnapshot "camera") (movingSnapshot "camera").slots
        (movingClaim "camera") bothCameras).follow acceptRelease).1.map (·.1) := by
  refine ⟨by decide +kernel, by decide +kernel, ⟨by decide +kernel, by decide +kernel,
    by decide +kernel⟩, by decide +kernel, not_keepsWorking (by decide +kernel) ?_,
    by decide +kernel⟩
  exact ⟨"camera", unpluggedCamera, rfl, ⟨by decide +kernel, by decide +kernel,
    by decide +kernel⟩, by decide +kernel⟩

end AtomicUsb
