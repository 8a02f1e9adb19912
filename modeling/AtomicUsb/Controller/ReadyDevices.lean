import AtomicUsb.Controller.Convergence
import AtomicUsb.Controller.EarlyRelease

/-!
# Claims that count as ready

A claim is ready for a held boot when it is attached, or when its agent has reported that the
device waits on the slot for the VM to resume.  The first of the two looks at the device, the
second only at the report, which may be older than what is known about the device by now.
`ready_with_device_iff` says when this shows: exactly when the device reported as waiting is the
one the claim falls back on although it is not there.

The turn of a claim is cut in two for this, `bindClaim` and `reportClaim`
(`reconcileClaim_eq`), because what the claim is bound to is known in between.
-/

namespace AtomicUsb

section Turn

variable (ctx : PassContext) (snap : Snapshot) (slots : SlotResult) (claim : UsbDeviceClaim)

/-- The part of a claim's turn that settles which device it is bound to. -/
def bindClaim (devices : DeviceMap) :
    ApiProg (DeviceMap × Except ApiError (Option String × Bool)) :=
  (bindOwner claim (snap.vm? claim.vmKey) (snap.vmi? claim.vmKey) devices).andThen
    fun devices requeue₁ =>
  let held := heldBy claim.uidOrDefault devices
  (leaseTarget ctx claim (mayHold ctx snap slots claim) held devices).andThen
    fun devices (target, requeue₂) =>
  (releaseOthers claim.uidOrDefault (held.filter fun n => some n ≠ target) devices).andThen
    fun devices requeue₃ =>
  pure (devices, .ok (target, requeue₁ || requeue₂ || requeue₃))

/-- Whether a claim bound to `target` is ready for its VM to boot. -/
def readyOn (target : Option String) (devices : DeviceMap) : Bool :=
  readyForBoot claim (snap.vmi? claim.vmKey)
    (claimPhase ctx claim (snap.vm? claim.vmKey) (snap.vmi? claim.vmKey) slots target devices).1
    target (grantedSlot claim slots)

/-- The rest of the turn. -/
def reportClaim (target : Option String) (requeue : Bool) (devices : DeviceMap) :
    ApiProg (DeviceMap × Except ApiError ClaimOutcome) :=
  (writeReport claim (desiredReport ctx claim (snap.vm? claim.vmKey) (snap.vmi? claim.vmKey) slots
    target devices) devices).andThen fun devices () =>
  pure (devices, .ok
    { requeue := requeue
      hold := holdOf claim (invalidReason ctx claim slots).isSome
        (readyOn ctx snap slots claim target devices) })

lemma reconcileClaim_eq (devices : DeviceMap) :
    reconcileClaim ctx snap slots claim devices =
      (bindClaim ctx snap slots claim devices).andThen fun devices r =>
        reportClaim ctx snap slots claim r.1 r.2 devices := by
  simp only [reconcileClaim, bindClaim, ApiProg.andThen_assoc, ApiProg.pure_andThen]
  rfl

end Turn

/-! ## What the parts of a turn do to the devices -/

section Runs

variable {ctx : PassContext} {claim : UsbDeviceClaim} {devices devices' : DeviceMap}
  {tr : List ApiEvent}

/-- Optimistic concurrency, seen from the sender: a patch that was accepted at the version of a
copy is answered with that copy, patched. -/
def AnswersPatched (devices : DeviceMap) (tr : List ApiEvent) : Prop :=
  ∀ by_ name v patch o,
    (⟨.patchDeviceStatus by_ name (some v) patch, .ok o⟩ : ApiEvent) ∈ tr →
    ∀ d, devices.get? name = some d → d.resourceVersion = v → o.value = patch.apply d.toDeviceBody

lemma bindOwner_devices {vm : Option VmInfo} {vmi : Option VmiInfo}
    {r : DeviceMap × Except ApiError Bool}
    (h : (bindOwner claim vm vmi devices).Runs tr r) : r.1 = devices := by
  unfold bindOwner at h
  split at h
  · simp [h.2]
  · split at h
    · simp [h.2]
    · obtain ⟨x, tr', rfl, h⟩ := h
      cases x with
      | ok _ => simp [h.2]
      | error e => cases e <;> simp [h.2]

lemma writeReport_devices {desired : ClaimReport} {r : DeviceMap × Except ApiError Unit}
    (h : (writeReport claim desired devices).Runs tr r) : r.1 = devices := by
  unfold writeReport at h
  split at h
  · obtain ⟨x, tr', rfl, h⟩ := h
    cases x with
    | ok _ => simp [h.2]
    | error e => cases e <;> simp [h.2]
  · simp [h.2]

/-- A patched device is replaced by the answer, or the map stays as it is. -/
lemma updateDevice_runs {by_ : Writer} {d : UsbDevice} {patch : DeviceStatusPatch}
    {r : DeviceMap × Except ApiError Bool} (h : (updateDevice by_ d patch devices).Runs tr r) :
    (r.2 ≠ .ok false ∧ r.1 = devices) ∨ ∃ o, r.2 = .ok false ∧
      (⟨.patchDeviceStatus by_ d.name (some d.resourceVersion) patch, .ok o⟩ : ApiEvent) ∈ tr ∧
      r.1 = devices.set (UsbDevice.ofStored d.name o) := by
  obtain ⟨x, tr', rfl, h⟩ := h
  cases x with
  | ok o =>
      obtain ⟨rfl, rfl⟩ := h
      exact Or.inr ⟨o, rfl, List.mem_cons_self, rfl⟩
  | error e => cases e <;> obtain ⟨rfl, rfl⟩ := h <;> simp

lemma updateDevice_get?_of_ne {by_ : Writer} {d : UsbDevice} {patch : DeviceStatusPatch}
    {r : DeviceMap × Except ApiError Bool} (h : (updateDevice by_ d patch devices).Runs tr r)
    {n : String} (hn : n ≠ d.name) : r.1.get? n = devices.get? n := by
  rcases updateDevice_runs h with ⟨-, hr⟩ | ⟨o, -, -, hr⟩
  · rw [hr]
  · rw [hr]
    exact SortedMap.get?_set_of_ne hn

/-- Giving up several devices starts with the first, unless it is gone. -/
lemma releaseOthers_cons (uid name : String) (names : List String) (devices : DeviceMap) :
    ∃ p : ApiProg (DeviceMap × Except ApiError Bool),
      releaseOthers uid (name :: names) devices = p.andThen (fun devices requeue₁ =>
        (releaseOthers uid names devices).andThen fun devices requeue₂ =>
        pure (devices, .ok (requeue₁ || requeue₂))) ∧
      (p = pure (devices, .ok false) ∨ ∃ d, d.name = name ∧
        p = updateDevice (.reconciling uid) d { attachedTo := .null } devices) := by
  cases hd : devices.get? name with
  | none => exact ⟨_, by rw [releaseOthers, hd], Or.inl rfl⟩
  | some d => exact ⟨_, by rw [releaseOthers, hd], Or.inr ⟨d, SortedMap.key_of_get? hd, rfl⟩⟩

/-- Devices that are not given up stay as they are. -/
lemma releaseOthers_get? {uid n : String} {names : List String}
    {r : DeviceMap × Except ApiError Bool} (h : (releaseOthers uid names devices).Runs tr r)
    (hn : n ∉ names) : r.1.get? n = devices.get? n := by
  induction names generalizing devices tr r with
  | nil => rw [h.2]
  | cons name names ih =>
      rw [List.mem_cons, not_or] at hn
      obtain ⟨p, hp, hfirst⟩ := releaseOthers_cons uid name names devices
      have hkept : ∀ {tr} {r' : DeviceMap × Except ApiError Bool}, p.Runs tr r' →
          r'.1.get? n = devices.get? n := by
        intro tr r' h
        rcases hfirst with rfl | ⟨d, rfl, rfl⟩
        · rw [h.2]
        · exact updateDevice_get?_of_ne h hn.1
      rw [hp] at h
      obtain ⟨e, -, h⟩ | ⟨tr₁, tr₂, devices₁, b, rfl, h₁, h⟩ := ApiProg.runs_andThen.mp h
      · simpa using hkept h
      · rw [← hkept h₁]
        obtain ⟨e, -, h⟩ | ⟨_, _, devices₂, b', -, h₂, h⟩ := ApiProg.runs_andThen.mp h
        · simpa using ih h hn.2
        · rw [← ih h₂ hn.2, h.2]

/-- The device a claim without an available one has to do with: the held one it goes on with, or
else the free one it would lease. -/
def fallbackDevice (ctx : PassContext) (claim : UsbDeviceClaim) (devices : DeviceMap) :
    Option String :=
  (currentDevice ctx claim devices (heldBy claim.uidOrDefault devices)).or
    ((freeCandidate ctx claim devices none).map (·.name))

/-- The claim has `n`, and `n` is there unless it is what the claim had to fall back on. -/
def LandsOn (ctx : PassContext) (claim : UsbDeviceClaim) (devices devices' : DeviceMap)
    (n : String) : Prop :=
  ∃ d, devices'.get? n = some d ∧ d.leaseHolder = some claim.uidOrDefault ∧
    (d.isAvailable ctx.rt ctx.now ctx.lostAfter = true ∨
      fallbackDevice ctx claim devices = some n ∧ available ctx devices n = false)

lemma landsOn_current {n : String}
    (hcur : currentDevice ctx claim devices (heldBy claim.uidOrDefault devices) = some n) :
    LandsOn ctx claim devices devices n := by
  obtain ⟨d, hd, hheld⟩ := Option.bind_eq_some_iff.mp
    (mem_heldBy.mp (currentDevice_mem ctx hcur).1)
  refine ⟨d, hd, hheld, ?_⟩
  by_cases havail : d.isAvailable ctx.rt ctx.now ctx.lostAfter = true
  · exact Or.inl havail
  · exact Or.inr ⟨by simp [fallbackDevice, hcur], by simpa [available, hd] using havail⟩

/-- A lease does not make a device available, nor does it take it away. -/
lemma isAvailable_leased {d : UsbDevice} {o : Versioned DeviceBody} {lease : Member Attachment}
    (h : o.value = ({ attachedTo := lease } : DeviceStatusPatch).apply d.toDeviceBody) :
    (UsbDevice.ofStored d.name o).isAvailable ctx.rt ctx.now ctx.lostAfter =
      d.isAvailable ctx.rt ctx.now ctx.lostAfter := by
  obtain ⟨v, body⟩ := o
  subst h
  rfl

lemma landsOn_candidate {candidate : UsbDevice} {o : Versioned DeviceBody}
    (hcand : freeCandidate ctx claim devices
      (currentDevice ctx claim devices (heldBy claim.uidOrDefault devices)) = some candidate)
    (ho : o.value = ({ attachedTo := .value (leaseFor ctx claim) } :
      DeviceStatusPatch).apply candidate.toDeviceBody) :
    LandsOn ctx claim devices (devices.set (UsbDevice.ofStored candidate.name o))
      candidate.name := by
  obtain ⟨hin, -, -, hbetter⟩ := freeCandidate_free ctx hcand
  refine ⟨_, SortedMap.get?_set_self hin rfl, ?_, ?_⟩
  · simp [UsbDevice.leaseHolder, UsbDevice.ofStored, ho, leaseFor]
  · rw [isAvailable_leased ho]
    by_cases havail : candidate.isAvailable ctx.rt ctx.now ctx.lostAfter = true
    · exact Or.inl havail
    · have hnone := hbetter.resolve_left havail
      rw [hnone] at hcand
      refine Or.inr ⟨by simp [fallbackDevice, hnone, hcand], ?_⟩
      simpa [available, SortedMap.get?_of_mem hin] using havail

/-- Where a claim ends up if it is bound at all. -/
lemma leaseTarget_landsOn {may requeue : Bool} {n : String}
    (h : (leaseTarget ctx claim may (heldBy claim.uidOrDefault devices) devices).Runs tr
      (devices', .ok (some n, requeue))) (hans : AnswersPatched devices tr) :
    may = true ∧ LandsOn ctx claim devices devices' n := by
  unfold leaseTarget at h
  split at h
  · cases h.2
  rename_i hmay
  refine ⟨by simpa using hmay, ?_⟩
  dsimp only at h
  split at h
  · simp only [Prog.runs_pure, Prod.mk.injEq, Except.ok.injEq] at h
    obtain ⟨-, rfl, hcur, -⟩ := h
    exact landsOn_current hcur.symm
  split at h
  · simp only [Prog.runs_pure, Prod.mk.injEq, Except.ok.injEq] at h
    obtain ⟨-, rfl, hcur, -⟩ := h
    exact landsOn_current hcur.symm
  rename_i candidate hcand
  obtain ⟨tr₁, tr₂, ⟨devices₁, e | lost⟩, rfl, h₁, h₂⟩ := Prog.runs_bind.mp h
  · cases h₂.2
  rcases updateDevice_runs h₁ with ⟨hlost, hsame⟩ | ⟨o, hwon, hmem, hset⟩
  · -- somebody else was faster
    obtain rfl : lost = true := by simpa using hlost
    simp only [Prog.runs_pure, Prod.mk.injEq, Except.ok.injEq] at h₂
    obtain ⟨-, rfl, hcur, -⟩ := h₂
    dsimp only at hsame
    rw [hsame]
    exact landsOn_current hcur.symm
  · obtain rfl : lost = false := by simpa using hwon
    simp only [Prog.runs_pure, Prod.mk.injEq, Except.ok.injEq, Option.some.injEq] at h₂
    obtain ⟨-, rfl, rfl, -⟩ := h₂
    have hget := SortedMap.get?_of_mem (freeCandidate_free ctx hcand).1
    dsimp only at hset
    rw [hset]
    exact landsOn_candidate hcand
      (hans _ _ _ _ _ (List.mem_append_left _ hmem) candidate hget rfl)

/-! ## Turns in which devices cannot be written

What a claim does when every patch of a device it sends meets a conflict, and its other calls go
through. -/

/-- No patch of a device was accepted. -/
def Refused (tr : List ApiEvent) : Prop :=
  ∀ by_ name rv patch o, (⟨.patchDeviceStatus by_ name rv patch, .ok o⟩ : ApiEvent) ∉ tr

lemma Refused.nil : Refused [] := fun _ _ _ _ _ => List.not_mem_nil

lemma Refused.append {tr' : List ApiEvent} (h : Refused tr) (h' : Refused tr') :
    Refused (tr ++ tr') := by
  intro by_ name rv patch o hmem
  exact (List.mem_append.mp hmem).elim (h _ _ _ _ _) (h' _ _ _ _ _)

lemma Refused.answersPatched (h : Refused tr) : AnswersPatched devices tr :=
  fun _ _ _ _ _ hmem => absurd hmem (h _ _ _ _ _)

/-- The program has a run without an accepted patch that leaves the devices alone. -/
def Passes {α : Type} (p : ApiProg (DeviceMap × Except ApiError α)) (devices : DeviceMap)
    (P : α → Prop) : Prop :=
  ∃ tr a, Refused tr ∧ p.Runs tr (devices, .ok a) ∧ P a

lemma Passes.pure {α : Type} {P : α → Prop} {a : α} (h : P a) :
    Passes (Pure.pure (devices, .ok a)) devices P :=
  ⟨[], a, Refused.nil, ⟨rfl, rfl⟩, h⟩

lemma Passes.andThen {α β : Type} {p : ApiProg (DeviceMap × Except ApiError α)}
    {f : DeviceMap → α → ApiProg (DeviceMap × Except ApiError β)} {P : α → Prop} {Q : β → Prop}
    (hp : Passes p devices P) (hf : ∀ a, P a → Passes (f devices a) devices Q) :
    Passes (p.andThen f) devices Q := by
  obtain ⟨tr, a, href, hrun, ha⟩ := hp
  obtain ⟨tr', b, href', hrun', hb⟩ := hf a ha
  exact ⟨tr ++ tr', b, href.append href',
    ApiProg.runs_andThen.mpr (Or.inr ⟨tr, tr', devices, a, rfl, hrun, hrun'⟩), hb⟩

lemma bindOwner_passes (vm : Option VmInfo) (vmi : Option VmiInfo) :
    Passes (bindOwner claim vm vmi devices) devices fun _ => True := by
  unfold bindOwner
  split
  · exact Passes.pure trivial
  · split
    · exact Passes.pure trivial
    · exact ⟨[⟨.patchOwnerReferences .., .ok ()⟩], false, by simp [Refused],
        ⟨.ok (), [], rfl, rfl, rfl⟩, trivial⟩

lemma writeReport_passes (desired : ClaimReport) :
    Passes (writeReport claim desired devices) devices fun _ => True := by
  unfold writeReport
  split
  · exact ⟨[⟨.patchClaimStatus .., .ok ()⟩], (), by simp [Refused],
      ⟨.ok (), [], rfl, rfl, rfl⟩, trivial⟩
  · exact Passes.pure trivial

lemma updateDevice_passes (by_ : Writer) (d : UsbDevice) (patch : DeviceStatusPatch) :
    Passes (updateDevice by_ d patch devices) devices fun lost => lost = true :=
  ⟨[⟨.patchDeviceStatus .., .error .conflict⟩], true, by simp [Refused],
    ⟨.error .conflict, [], rfl, rfl, rfl⟩, rfl⟩

lemma releaseOthers_passes (uid : String) (names : List String) :
    Passes (releaseOthers uid names devices) devices fun _ => True := by
  induction names with
  | nil => exact Passes.pure trivial
  | cons name names ih =>
      obtain ⟨p, hp, hfirst⟩ := releaseOthers_cons uid name names devices
      have hpasses : Passes p devices fun _ => True := by
        rcases hfirst with rfl | ⟨d, -, rfl⟩
        · exact Passes.pure trivial
        · obtain ⟨tr, b, href, hrun, -⟩ := updateDevice_passes _ _ _
          exact ⟨tr, b, href, hrun, trivial⟩
      rw [hp]
      exact hpasses.andThen fun _ _ => ih.andThen fun _ _ => Passes.pure trivial

/-- A claim with a device of its own goes on with that one. -/
lemma leaseTarget_passes {n : String}
    (hcur : currentDevice ctx claim devices (heldBy claim.uidOrDefault devices) = some n) :
    Passes (leaseTarget ctx claim true (heldBy claim.uidOrDefault devices) devices) devices
      fun r => r.1 = some n := by
  unfold leaseTarget
  rw [if_neg (by simp)]
  dsimp only
  rw [hcur]
  split
  · exact Passes.pure rfl
  · split
    · exact Passes.pure rfl
    · obtain ⟨tr, lost, href, hrun, rfl⟩ := updateDevice_passes _ _ _
      refine ⟨tr, (some n, true), href, ?_, rfl⟩
      exact Prog.runs_bind.mpr ⟨tr, [], _, by simp, hrun, rfl, rfl⟩

/-- A claim without a device takes the free one, if the API server lets it. -/
lemma leaseTarget_takes {d : UsbDevice}
    (hcur : currentDevice ctx claim devices (heldBy claim.uidOrDefault devices) = none)
    (hd : freeCandidate ctx claim devices none = some d) (o : Versioned DeviceBody) :
    (leaseTarget ctx claim true (heldBy claim.uidOrDefault devices) devices).Runs
      [⟨.patchDeviceStatus (.reconciling claim.uidOrDefault) d.name (some d.resourceVersion)
        { attachedTo := .value (leaseFor ctx claim) }, .ok o⟩]
      (devices.set (UsbDevice.ofStored d.name o), .ok (some d.name, false)) := by
  unfold leaseTarget
  rw [if_neg (by simp)]
  dsimp only
  rw [hcur, if_neg (by simp), hd]
  exact ⟨.ok o, [], rfl, rfl, rfl⟩

end Runs

/-! ## When a ready claim has its device -/

section Ready

variable (ctx : PassContext) (snap : Snapshot) (slots : SlotResult) (claim : UsbDeviceClaim)
  (devices : DeviceMap)

/-- A claim bound to `target` has a device of its own that is there. -/
def HasDevice (target : Option String) (devices : DeviceMap) : Prop :=
  ∃ n d, target = some n ∧ devices.get? n = some d ∧ d.leaseHolder = some claim.uidOrDefault ∧
    d.isAvailable ctx.rt ctx.now ctx.lostAfter = true

/-- Whatever the API server answers, a turn that finds the claim ready has bound it to a device of
its own that is there. -/
def ReadyWithDevice : Prop :=
  ∀ tr₁ tr₂ devices₁ devices₂ target requeue outcome hold, AnswersPatched devices tr₁ →
    (bindClaim ctx snap slots claim devices).Runs tr₁ (devices₁, .ok (target, requeue)) →
    (reportClaim ctx snap slots claim target requeue devices₁).Runs tr₂ (devices₂, .ok outcome) →
    outcome.hold = some hold → hold.ready = true → HasDevice ctx claim target devices₂

/-- The device that waits on the claim's slot for the VM to resume, by the word of the agent on the
VM's node. -/
def awaitedDevice : Option String :=
  (claim.statusOrDefault.connection.filter fun c => c.awaitingResume == some true &&
    some c.node == (snap.vmi? claim.vmKey).bind (·.node) &&
    some c.slot == grantedSlot claim slots).map (·.deviceName)

variable {ctx snap slots claim devices} {target : Option String} {requeue : Bool}
  {tr : List ApiEvent} {n : String}

lemma readyOn_iff : readyOn ctx snap slots claim target devices = true ↔
    (claimPhase ctx claim (snap.vm? claim.vmKey) (snap.vmi? claim.vmKey) slots target devices).1 =
      .attached ∨ ∃ n, target = some n ∧ awaitedDevice snap slots claim = some n := by
  unfold readyOn readyForBoot awaitedDevice
  rw [Bool.or_eq_true, beq_iff_eq]
  refine or_congr_right ?_
  cases claim.statusOrDefault.connection with
  | none => simp
  | some c =>
      simp only [Option.any_some, Bool.and_eq_true, beq_iff_eq, Option.map_eq_some_iff,
        Option.filter_eq_some_iff, Option.some.injEq]
      constructor
      · rintro ⟨⟨⟨hwait, hnode⟩, hdevice⟩, hslot⟩
        exact ⟨c.deviceName, hdevice.symm, c, ⟨rfl, ⟨hwait, hnode⟩, hslot⟩, rfl⟩
      · rintro ⟨n, rfl, c', ⟨rfl, ⟨hwait, hnode⟩, hslot⟩, rfl⟩
        exact ⟨⟨⟨hwait, hnode⟩, rfl⟩, hslot⟩

lemma reportClaim_runs {outcome : ClaimOutcome} {devices' : DeviceMap}
    (h : (reportClaim ctx snap slots claim target requeue devices).Runs tr
      (devices', .ok outcome)) :
    devices' = devices ∧ outcome.hold = holdOf claim (invalidReason ctx claim slots).isSome
      (readyOn ctx snap slots claim target devices) := by
  obtain ⟨e, he, -⟩ | ⟨_, _, devices₁, _, -, h₁, h⟩ := ApiProg.runs_andThen.mp h
  · cases he
  have hsame : devices₁ = devices := writeReport_devices h₁
  simp only [Prog.runs_pure, Prod.mk.injEq, Except.ok.injEq] at h
  obtain ⟨-, rfl, rfl⟩ := h
  rw [hsame]
  exact ⟨rfl, rfl⟩

/-- What a claim is bound to after the first part of its turn. -/
lemma bindClaim_landsOn {devices' : DeviceMap} (hans : AnswersPatched devices tr)
    (h : (bindClaim ctx snap slots claim devices).Runs tr (devices', .ok (some n, requeue))) :
    mayHold ctx snap slots claim = true ∧ LandsOn ctx claim devices devices' n := by
  obtain ⟨e, he, -⟩ | ⟨tr₁, tr₂, devices₁, _, rfl, hown, hlease⟩ := ApiProg.runs_andThen.mp h
  · cases he
  obtain rfl : devices₁ = devices := bindOwner_devices hown
  obtain ⟨e, he, -⟩ | ⟨tr₃, tr₄, devices₂, ⟨target, _⟩, rfl, h₂, hrelease⟩ :=
    ApiProg.runs_andThen.mp hlease
  · cases he
  obtain ⟨e, he, -⟩ | ⟨tr₅, tr₆, devices₃, _, rfl, h₃, hend⟩ := ApiProg.runs_andThen.mp hrelease
  · cases he
  simp only [Prog.runs_pure, Prod.mk.injEq, Except.ok.injEq] at hend
  obtain ⟨-, rfl, rfl, -⟩ := hend
  have hans' : AnswersPatched devices₁ tr₃ := fun _ _ _ _ _ hmem =>
    hans _ _ _ _ _ (List.mem_append_right _ (List.mem_append_left _ hmem))
  obtain ⟨hmay, d, hd, hrest⟩ := leaseTarget_landsOn h₂ hans'
  refine ⟨hmay, d, ?_, hrest⟩
  -- the device the claim goes on with is not among those it gives up
  rw [← hd]
  exact releaseOthers_get? h₃ (by simp)

/-- A claim that holds a device can be left with it. -/
lemma bindClaim_passes (hmay : mayHold ctx snap slots claim = true)
    (hcur : currentDevice ctx claim devices (heldBy claim.uidOrDefault devices) = some n) :
    Passes (bindClaim ctx snap slots claim devices) devices fun r => r.1 = some n := by
  refine (bindOwner_passes _ _).andThen fun requeue₁ _ => ?_
  dsimp only
  rw [hmay]
  refine (leaseTarget_passes hcur).andThen ?_
  rintro ⟨target, requeue₂⟩ rfl
  exact (releaseOthers_passes _ _).andThen fun requeue₃ _ => Passes.pure rfl

/-- A claim that holds none can get the free one, as it is. -/
lemma bindClaim_takes {d : UsbDevice} (hmay : mayHold ctx snap slots claim = true)
    (hcur : currentDevice ctx claim devices (heldBy claim.uidOrDefault devices) = none)
    (hd : freeCandidate ctx claim devices none = some d) :
    ∃ tr o requeue, AnswersPatched devices tr ∧
      o.value = ({ attachedTo := .value (leaseFor ctx claim) } :
        DeviceStatusPatch).apply d.toDeviceBody ∧
      (bindClaim ctx snap slots claim devices).Runs tr
        (devices.set (UsbDevice.ofStored d.name o), .ok (some d.name, requeue)) := by
  let o : Versioned DeviceBody := ⟨0, ({ attachedTo := .value (leaseFor ctx claim) } :
    DeviceStatusPatch).apply d.toDeviceBody⟩
  obtain ⟨tr₁, requeue₁, href₁, hrun₁, -⟩ :=
    @bindOwner_passes claim devices (snap.vm? claim.vmKey) (snap.vmi? claim.vmKey)
  obtain ⟨tr₃, requeue₃, href₃, hrun₃, -⟩ :=
    @releaseOthers_passes (devices.set (UsbDevice.ofStored d.name o)) claim.uidOrDefault
      ((heldBy claim.uidOrDefault devices).filter fun n => some n ≠ some d.name)
  have hrun₂ := leaseTarget_takes hcur hd o
  rw [← hmay] at hrun₂
  refine ⟨tr₁ ++ (_ :: (tr₃ ++ [])), o, _, ?_, rfl, ApiProg.runs_andThen.mpr (Or.inr
    ⟨tr₁, _, devices, requeue₁, rfl, hrun₁, ApiProg.runs_andThen.mpr (Or.inr
      ⟨_, tr₃ ++ [], _, _, rfl, hrun₂, ApiProg.runs_andThen.mpr (Or.inr
        ⟨tr₃, [], _, requeue₃, rfl, hrun₃, rfl, rfl⟩)⟩)⟩)⟩
  intro by_ name v patch o' hmem d' hd' hv
  simp only [List.append_nil, List.mem_append, List.mem_cons] at hmem
  rcases hmem with hmem | heq | hmem
  · exact absurd hmem (href₁ _ _ _ _ _)
  · cases heq
    rw [SortedMap.get?_of_mem (freeCandidate_free ctx hd).1, Option.some.injEq] at hd'
    rw [← hd']
  · exact absurd hmem (href₃ _ _ _ _ _)

/-- A claim whose awaited device it is bound to is found ready. -/
lemma reportClaim_ready {hold : HoldBoot} (hhold : claim.spec.holdBoot = some hold)
    (hawait : awaitedDevice snap slots claim = some n) (requeue : Bool) (devices : DeviceMap) :
    ∃ tr outcome hold, (reportClaim ctx snap slots claim (some n) requeue devices).Runs tr
      (devices, .ok outcome) ∧ outcome.hold = some hold ∧ hold.ready = true := by
  obtain ⟨tr, outcome, -, hrun, -⟩ :
      Passes (reportClaim ctx snap slots claim (some n) requeue devices) devices fun _ => True :=
    (writeReport_passes _).andThen fun _ _ => Passes.pure trivial
  have houtcome := (reportClaim_runs hrun).2
  have hready : readyOn ctx snap slots claim (some n) devices = true :=
    readyOn_iff.mpr (Or.inr ⟨n, rfl, hawait⟩)
  rw [holdOf, hhold, Option.map_some, hready] at houtcome
  exact ⟨tr, outcome, _, hrun, houtcome, rfl⟩

variable (ctx snap slots claim devices)

/-- **When a ready claim has its device.** The report that a device waits on its slot is taken for
the device being there.  So a claim that holds a boot is found ready without its device exactly
when the reported device is the one it has to fall back on, and that is not available. -/
theorem ready_with_device_iff :
    ReadyWithDevice ctx snap slots claim devices ↔
      (claim.spec.holdBoot.isSome = true → mayHold ctx snap slots claim = true →
        ∀ n, awaitedDevice snap slots claim = some n → fallbackDevice ctx claim devices = some n →
          available ctx devices n = true) := by
  constructor
  · intro h hhold hmay n hawait hfall
    obtain ⟨hold, hhold⟩ := Option.isSome_iff_exists.mp hhold
    cases hcur : currentDevice ctx claim devices (heldBy claim.uidOrDefault devices) with
    | some m =>
        obtain rfl : m = n := by simpa [fallbackDevice, hcur] using hfall
        obtain ⟨tr₁, ⟨target, requeue⟩, href, hbind, rfl⟩ := bindClaim_passes hmay hcur
        obtain ⟨tr₂, outcome, hold, hreport, hsome, hready⟩ :=
          @reportClaim_ready ctx snap slots claim m hold hhold hawait requeue devices
        obtain ⟨_, d, heq, hd, -, havail⟩ := h _ _ _ _ _ _ _ _ href.answersPatched hbind hreport
          hsome hready
        obtain rfl := Option.some.inj heq
        simp [available, hd, havail]
    | none =>
        obtain ⟨d, hd, rfl⟩ : ∃ d, freeCandidate ctx claim devices none = some d ∧ d.name = n := by
          simpa [fallbackDevice, hcur] using hfall
        obtain ⟨tr₁, o, requeue, hans, ho, hbind⟩ := bindClaim_takes hmay hcur hd
        obtain ⟨tr₂, outcome, hold, hreport, hsome, hready⟩ :=
          reportClaim_ready hhold hawait requeue (devices.set (UsbDevice.ofStored d.name o))
        obtain ⟨_, d', heq, hd', -, havail⟩ := h _ _ _ _ _ _ _ _ hans hbind hreport hsome hready
        obtain rfl := Option.some.inj heq
        have hin := (freeCandidate_free ctx hd).1
        have hset : (devices.set (UsbDevice.ofStored d.name o)).get? d.name =
            some (UsbDevice.ofStored d.name o) := SortedMap.get?_set_self hin rfl
        rw [hset, Option.some.injEq] at hd'
        rw [← hd', isAvailable_leased ho] at havail
        simp [available, SortedMap.get?_of_mem hin, havail]
  · intro h tr₁ tr₂ devices₁ devices₂ target requeue outcome hold hans hbind hreport hsome hready
    obtain ⟨rfl, houtcome⟩ := reportClaim_runs hreport
    rw [hsome] at houtcome
    obtain ⟨spec, hspec, rfl⟩ := Option.map_eq_some_iff.mp houtcome.symm
    have hhold : claim.spec.holdBoot.isSome = true := by simp [hspec]
    rcases readyOn_iff.mp hready with hattached | ⟨n, rfl, hawait⟩
    · obtain ⟨d, hd, havail⟩ := (Option.any_eq_true _ _).mp (attached_of_computePhase hattached).1
      obtain ⟨n, rfl, hd⟩ := Option.bind_eq_some_iff.mp hd
      obtain ⟨-, d', hd', hlease, -⟩ := bindClaim_landsOn hans hbind
      obtain rfl := Option.some.inj (hd.symm.trans hd')
      exact ⟨n, d, rfl, hd, hlease, havail⟩
    · obtain ⟨hmay, d, hd, hlease, havail | ⟨hfall, hgone⟩⟩ := bindClaim_landsOn hans hbind
      · exact ⟨n, d, rfl, hd, hlease, havail⟩
      · rw [h hhold hmay n hawait hfall] at hgone
        cases hgone

end Ready

/-! ### A camera that is pulled out while its VM waits

The camera of the paused desktop was waiting on its slot when it was unplugged. -/

def unpluggedCamera : UsbDevice :=
  { cameraDevice with
    status := some { cameraDevice.statusRef with phase := some .unplugged, exporter := none } }

def unpluggedDevices : DeviceMap := ⟨[unpluggedCamera], List.pairwise_singleton _ _⟩

def unpluggedSnapshot : Snapshot := { cameraOnly with devices := unpluggedDevices }

/-- The claim is ready all the same, and the desktop is resumed. -/
theorem unplugged_camera_ready :
    ¬ ReadyWithDevice newYearPass unpluggedSnapshot unpluggedSnapshot.slots cameraClaim
      unpluggedDevices ∧
    available newYearPass unpluggedDevices "camera" = false ∧
    ApiCall.unpause "lab" "desktop" "vmi-1" ∈
      ((reconcileAll newYearPass unpluggedSnapshot fun _ => none).follow
        (answerExcept fun _ => false)).1.map (·.1) := by
  have hgone : available newYearPass unpluggedDevices "camera" = false := by decide +kernel
  refine ⟨fun h => ?_, hgone, by decide +kernel⟩
  obtain ⟨tr₁, ⟨target, requeue⟩, href, hbind, rfl⟩ :=
    @bindClaim_passes newYearPass unpluggedSnapshot unpluggedSnapshot.slots cameraClaim
      unpluggedDevices "camera" (by decide +kernel) (by decide +kernel)
  obtain ⟨tr₂, outcome, hold, hreport, hsome, hready⟩ :=
    @reportClaim_ready newYearPass unpluggedSnapshot unpluggedSnapshot.slots cameraClaim "camera"
      ⟨none⟩ rfl (by decide +kernel) requeue unpluggedDevices
  obtain ⟨n, d, hn, hd, -, havail⟩ := h _ _ _ _ _ _ _ _ href.answersPatched hbind hreport hsome
    hready
  obtain rfl := Option.some.inj hn
  simp [available, hd, havail] at hgone

end AtomicUsb
