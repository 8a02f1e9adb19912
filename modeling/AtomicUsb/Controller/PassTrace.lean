import AtomicUsb.Controller.Reconcile

/-!
# The calls of a pass

Every run of `reconcileAll` splits into the runs of its three stages (`reconcileAll_runs`): calls
about devices, then the calls made for each claim in turn, then those about boots.  This module
says what each stage may call and how its result is tied to the answers, so that statements about
whole passes can be read off their traces.
-/

namespace AtomicUsb

variable (ctx : PassContext)

/-! ## The device stage -/

/-- A call of the device stage. -/
inductive DeviceCall : ApiCall → Prop
  | lost {name : String} {rv : Option ℕ} {patch : DeviceStatusPatch} :
      DeviceCall (.patchDeviceStatus .lostPass name rv patch)
  | orphan {live : List String} {name : String} {rv : Option ℕ} {patch : DeviceStatusPatch} :
      DeviceCall (.patchDeviceStatus (.orphanPass live) name rv patch)

lemma updateDevice_issues {P : ApiCall → Prop} {by_ : Writer} {d : UsbDevice}
    {patch : DeviceStatusPatch} {devices : DeviceMap}
    (h : P (.patchDeviceStatus by_ d.name (some d.resourceVersion) patch)) :
    (updateDevice by_ d patch devices).Issues P := by
  refine ⟨h, fun x => ?_⟩
  cases x with
  | ok o => trivial
  | error e => cases e <;> trivial

lemma devicePass_issues {live : List String} : ∀ {names : List String} {devices : DeviceMap},
    (devicePass ctx live names devices).Issues DeviceCall
  | [], _ => trivial
  | name :: names, devices => by
      refine ApiProg.issues_andThen ?_ fun devices _ => ApiProg.issues_andThen ?_ fun devices _ =>
        ApiProg.issues_andThen devicePass_issues fun _ _ => trivial
      · unfold markLost
        split
        · trivial
        · split_ifs
          · exact updateDevice_issues .lost
          · trivial
      · unfold releaseOrphan
        split
        · trivial
        · split
          · trivial
          · split_ifs
            · trivial
            · exact updateDevice_issues .orphan

/-! ## The claim stage -/

/-- A call made while reconciling a claim, on behalf of that claim.  Its boot-hold record is
dropped only when it is stale. -/
inductive ClaimCall (claim : UsbDeviceClaim) : ApiCall → Prop
  | device {name : String} {rv : Option ℕ} {patch : DeviceStatusPatch} :
      ClaimCall claim (.patchDeviceStatus (.reconciling claim.uidOrDefault) name rv patch)
  | owner {rv : ℕ} {refs : List OwnerReference} :
      ClaimCall claim (.patchOwnerReferences (.reconciling claim.uidOrDefault)
        claim.namespaceOrDefault claim.name rv refs)
  | status {patch : ClaimStatusPatch}
      (h : patch.bootHold = if claim.staleBootHold then .null else .absent) :
      ClaimCall claim (.patchClaimStatus (.reconciling claim.uidOrDefault)
        claim.namespaceOrDefault claim.name patch)

lemma ClaimCall.writer {claim : UsbDeviceClaim} {c : ApiCall} (h : ClaimCall claim c) :
    c.writer = .reconciling claim.uidOrDefault := by
  cases h <;> rfl

lemma leaseTarget_issues {P : ApiCall → Prop} {claim : UsbDeviceClaim} {mayHold : Bool}
    {held : List String} {devices : DeviceMap}
    (hP : ∀ name rv patch,
      P (.patchDeviceStatus (.reconciling claim.uidOrDefault) name rv patch)) :
    (leaseTarget ctx claim mayHold held devices).Issues P := by
  unfold leaseTarget
  split
  · trivial
  dsimp only
  split
  · trivial
  · split
    · trivial
    · refine (updateDevice_issues (hP _ _ _)).bind ?_
      rintro ⟨devices, e | b⟩
      · trivial
      · cases b <;> trivial

lemma releaseOthers_issues {P : ApiCall → Prop} {uid : String}
    (hP : ∀ name rv patch, P (.patchDeviceStatus (.reconciling uid) name rv patch)) :
    ∀ {names : List String} {devices : DeviceMap}, (releaseOthers uid names devices).Issues P
  | [], _ => trivial
  | name :: names, devices => by
      refine ApiProg.issues_andThen ?_ fun devices _ =>
        ApiProg.issues_andThen (releaseOthers_issues hP) fun _ _ => trivial
      split
      · trivial
      · exact updateDevice_issues (hP _ _ _)

lemma bindOwner_issues {P : ApiCall → Prop} {claim : UsbDeviceClaim} {vm : Option VmInfo}
    {vmi : Option VmiInfo} {devices : DeviceMap}
    (hP : ∀ rv refs, P (.patchOwnerReferences (.reconciling claim.uidOrDefault)
      claim.namespaceOrDefault claim.name rv refs)) :
    (bindOwner claim vm vmi devices).Issues P := by
  unfold bindOwner
  split_ifs
  · trivial
  · split
    · trivial
    · refine ⟨hP _ _, fun x => ?_⟩
      cases x with
      | ok _ => trivial
      | error e => cases e <;> trivial

lemma writeReport_issues {claim : UsbDeviceClaim} {desired : ClaimReport} {devices : DeviceMap} :
    (writeReport claim desired devices).Issues (ClaimCall claim) := by
  unfold writeReport
  split_ifs
  · refine ⟨.status rfl, fun x => ?_⟩
    cases x with
    | ok _ => trivial
    | error e => cases e <;> trivial
  · trivial

lemma reconcileClaim_issues {snap : Snapshot} {slots : SlotResult} {claim : UsbDeviceClaim}
    {devices : DeviceMap} :
    (reconcileClaim ctx snap slots claim devices).Issues (ClaimCall claim) :=
  ApiProg.issues_andThen (bindOwner_issues fun _ _ => .owner) fun _ _ =>
    ApiProg.issues_andThen (leaseTarget_issues ctx fun _ _ _ => .device) fun _ _ =>
      ApiProg.issues_andThen (releaseOthers_issues fun _ _ _ => .device) fun _ _ =>
        ApiProg.issues_andThen writeReport_issues fun _ _ => trivial

/-! ### Errors of a claim -/

/-- The answer is an error that `reconcileClaim` passes on: a status patch may miss its claim, the
other patches may also lose a race. -/
def propagates (e : ApiEvent) : Bool :=
  match e.1.failure e.2, e.1 with
  | none, _ => false
  | some err, .patchClaimStatus .. => err ≠ .notFound
  | some err, _ => err = .other

/-- The program fails exactly when one of its calls is answered with such an error. -/
def FailsWith {σ α : Type} (p : ApiProg (σ × Except ApiError α)) : Prop :=
  ∀ tr r, p.Runs tr r → ((∃ e, r.2 = .error e) ↔ ∃ e ∈ tr, propagates e = true)

lemma failsWith_pure {σ α : Type} (s : σ) (a : α) :
    FailsWith (pure (s, .ok a) : ApiProg (σ × Except ApiError α)) := by
  rintro tr r ⟨rfl, rfl⟩
  simp

lemma FailsWith.andThen {σ α β : Type} {p : ApiProg (σ × Except ApiError α)}
    {f : σ → α → ApiProg (σ × Except ApiError β)} (hp : FailsWith p)
    (hf : ∀ s a, FailsWith (f s a)) : FailsWith (p.andThen f) := by
  intro tr r hrun
  rcases ApiProg.runs_andThen.mp hrun with ⟨e, he, h⟩ | ⟨tr₁, tr₂, s, a, rfl, h₁, h₂⟩
  · exact ⟨fun _ => (hp tr _ h).mp ⟨e, rfl⟩, fun _ => ⟨e, he⟩⟩
  · have hfirst : ¬ ∃ e ∈ tr₁, propagates e = true := by
      rw [← hp tr₁ _ h₁]
      rintro ⟨e, he⟩
      cases he
    rw [hf s a tr₂ r h₂]
    constructor
    · rintro ⟨e, he, hprop⟩
      exact ⟨e, List.mem_append_right _ he, hprop⟩
    · rintro ⟨e, he, hprop⟩
      rcases List.mem_append.mp he with he | he
      · exact absurd ⟨e, he, hprop⟩ hfirst
      · exact ⟨e, he, hprop⟩

lemma updateDevice_failsWith (by_ : Writer) (d : UsbDevice) (patch : DeviceStatusPatch)
    (devices : DeviceMap) : FailsWith (updateDevice by_ d patch devices) := by
  rintro tr r ⟨x, tr', rfl, h⟩
  cases x with
  | ok o =>
      obtain ⟨rfl, rfl⟩ := h
      simp [propagates, ApiCall.failure]
  | error e =>
      cases e <;> obtain ⟨rfl, rfl⟩ := h <;> simp [propagates, ApiCall.failure]

lemma leaseTarget_failsWith (claim : UsbDeviceClaim) (mayHold : Bool) (held : List String)
    (devices : DeviceMap) : FailsWith (leaseTarget ctx claim mayHold held devices) := by
  unfold leaseTarget
  split
  · exact failsWith_pure _ _
  dsimp only
  split
  · exact failsWith_pure _ _
  · split
    · exact failsWith_pure _ _
    · intro tr r hrun
      obtain ⟨tr₁, tr₂, ⟨devices', out⟩, rfl, h₁, h₂⟩ := Prog.runs_bind.mp hrun
      have hupdate := updateDevice_failsWith _ _ _ _ tr₁ _ h₁
      rcases out with e | b
      · obtain ⟨rfl, rfl⟩ := h₂
        simpa using hupdate
      · cases b <;> obtain ⟨rfl, rfl⟩ := h₂ <;> simpa using hupdate

lemma releaseOthers_failsWith (uid : String) :
    ∀ (names : List String) (devices : DeviceMap), FailsWith (releaseOthers uid names devices)
  | [], _ => failsWith_pure _ _
  | name :: names, devices => by
      refine FailsWith.andThen ?_ fun devices _ =>
        (releaseOthers_failsWith uid names devices).andThen fun _ _ => failsWith_pure _ _
      split
      · exact failsWith_pure _ _
      · exact updateDevice_failsWith _ _ _ _

lemma bindOwner_failsWith (claim : UsbDeviceClaim) (vm : Option VmInfo) (vmi : Option VmiInfo)
    (devices : DeviceMap) : FailsWith (bindOwner claim vm vmi devices) := by
  unfold bindOwner
  split_ifs
  · exact failsWith_pure _ _
  · split
    · exact failsWith_pure _ _
    · rintro tr r ⟨x, tr', rfl, h⟩
      cases x with
      | ok _ =>
          obtain ⟨rfl, rfl⟩ := h
          simp [propagates, ApiCall.failure]
      | error e =>
          cases e <;> obtain ⟨rfl, rfl⟩ := h <;> simp [propagates, ApiCall.failure]

lemma writeReport_failsWith (claim : UsbDeviceClaim) (desired : ClaimReport)
    (devices : DeviceMap) : FailsWith (writeReport claim desired devices) := by
  unfold writeReport
  split
  · rintro tr r ⟨x, tr', rfl, h⟩
    cases x with
    | ok _ =>
        obtain ⟨rfl, rfl⟩ := h
        simp [propagates, ApiCall.failure]
    | error e =>
        cases e <;> obtain ⟨rfl, rfl⟩ := h <;> simp [propagates, ApiCall.failure]
  · exact failsWith_pure _ _

lemma reconcileClaim_failsWith (snap : Snapshot) (slots : SlotResult) (claim : UsbDeviceClaim)
    (devices : DeviceMap) : FailsWith (reconcileClaim ctx snap slots claim devices) :=
  (bindOwner_failsWith _ _ _ _).andThen fun _ _ =>
    (leaseTarget_failsWith ctx _ _ _ _).andThen fun _ _ =>
      (releaseOthers_failsWith _ _ _).andThen fun _ _ =>
        (writeReport_failsWith _ _ _).andThen fun _ _ => failsWith_pure _ _

/-- The report says that the device reaches the VM, now or as soon as it resumes. -/
def ConnectionStatus.isLive (c : ConnectionStatus) : Bool :=
  c.state == .connected || c.awaitingResume == some true

/-- What makes a claim ready is a live report from the node of its VM. -/
lemma connection_of_ready {claim : UsbDeviceClaim} {vm : Option VmInfo} {vmi : Option VmiInfo}
    {slots : SlotResult} {target : Option String} {devices : DeviceMap} {slot : Option ℤ}
    (h : readyForBoot claim vmi (claimPhase ctx claim vm vmi slots target devices).1 target slot =
      true) :
    ∃ c v, claim.statusOrDefault.connection = some c ∧ vmi = some v ∧ v.node = some c.node ∧
      c.isLive = true := by
  unfold readyForBoot at h
  rw [Bool.or_eq_true, beq_iff_eq] at h
  rcases h with hattached | hwaiting
  · obtain ⟨-, v, c, name, hv, hc, hatt⟩ := attached_of_computePhase hattached
    have hstatus : claim.statusOrDefault.connection = claim.status.bind (·.connection) := by
      unfold UsbDeviceClaim.statusOrDefault
      cases claim.status <;> rfl
    simp only [ConnectionStatus.attachedTo, Bool.and_eq_true, beq_iff_eq] at hatt
    refine ⟨c, v, hstatus.trans hc, hv, hatt.1.1.2.symm, ?_⟩
    simp [ConnectionStatus.isLive, hatt.1.1.1]
  · obtain ⟨c, hc, hwait⟩ := (Option.any_eq_true _ _).mp hwaiting
    simp only [Bool.and_eq_true, beq_iff_eq] at hwait
    obtain ⟨v, hv, hnode⟩ := Option.bind_eq_some_iff.mp hwait.1.1.2.symm
    refine ⟨c, v, hc, hv, hnode, ?_⟩
    simp [ConnectionStatus.isLive, hwait.1.1.1]

/-- How the outcome of a claim comes about. -/
lemma reconcileClaim_outcome {snap : Snapshot} {slots : SlotResult} {claim : UsbDeviceClaim}
    {devices devices' : DeviceMap} {tr : List ApiEvent} {o : ClaimOutcome}
    (h : (reconcileClaim ctx snap slots claim devices).Runs tr (devices', .ok o)) :
    ∃ target, o.hold = holdOf claim (invalidReason ctx claim slots).isSome
      (readyForBoot claim (snap.vmi? claim.vmKey)
        (claimPhase ctx claim (snap.vm? claim.vmKey) (snap.vmi? claim.vmKey) slots target
          devices').1 target (grantedSlot claim slots)) := by
  obtain ⟨e, he, -⟩ | ⟨_, _, _, _, -, -, h⟩ := ApiProg.runs_andThen.mp h
  · cases he
  obtain ⟨e, he, -⟩ | ⟨_, _, _, ⟨target, _⟩, -, -, h⟩ := ApiProg.runs_andThen.mp h
  · cases he
  obtain ⟨e, he, -⟩ | ⟨_, _, _, _, -, -, h⟩ := ApiProg.runs_andThen.mp h
  · cases he
  obtain ⟨e, he, -⟩ | ⟨_, _, _, _, -, -, h⟩ := ApiProg.runs_andThen.mp h
  · cases he
  obtain ⟨-, heq⟩ := Prog.runs_pure.mp h
  obtain ⟨rfl, ho⟩ := Prod.mk.injEq .. ▸ heq
  rw [Except.ok.injEq] at ho
  subst ho
  exact ⟨target, rfl⟩

lemma claimPass_issues {snap : Snapshot} {slots : SlotResult} :
    ∀ {claims : List UsbDeviceClaim} {devices : DeviceMap},
      (claimPass ctx snap slots claims devices).Issues fun c => ∃ claim ∈ claims, ClaimCall claim c
  | [], _ => trivial
  | claim :: claims, devices => by
      refine ((reconcileClaim_issues ctx).mono fun c hc =>
        ⟨claim, List.mem_cons_self, hc⟩).bind ?_
      rintro ⟨devices, outcome⟩
      refine (claimPass_issues.mono ?_).bind fun _ => trivial
      rintro c ⟨claim', hmem, hc⟩
      exact ⟨claim', List.mem_cons_of_mem _ hmem, hc⟩

/-- A run of the claim loop starts with a run for its first claim. -/
lemma claimPass_cons_runs {snap : Snapshot} {slots : SlotResult} {claim : UsbDeviceClaim}
    {claims : List UsbDeviceClaim} {devices : DeviceMap} {tr : List ApiEvent}
    {outcomes : List (UsbDeviceClaim × Except ApiError ClaimOutcome)}
    (h : (claimPass ctx snap slots (claim :: claims) devices).Runs tr outcomes) :
    ∃ tr₁ tr₂ devices' outcome rest, tr = tr₁ ++ tr₂ ∧ outcomes = (claim, outcome) :: rest ∧
      (reconcileClaim ctx snap slots claim devices).Runs tr₁ (devices', outcome) ∧
      (claimPass ctx snap slots claims devices').Runs tr₂ rest := by
  rw [claimPass] at h
  obtain ⟨tr₁, tr₂, ⟨devices', outcome⟩, rfl, h₁, h⟩ := Prog.runs_bind.mp h
  obtain ⟨tr₃, tr₄, rest, rfl, h₂, h⟩ := Prog.runs_bind.mp h
  obtain ⟨rfl, rfl⟩ := Prog.runs_pure.mp h
  exact ⟨tr₁, tr₃, devices', outcome, rest, by rw [List.append_nil], rfl, h₁, h₂⟩

/-- Every claim gets an outcome, from a run of `reconcileClaim` of its own. -/
lemma claimPass_runs {snap : Snapshot} {slots : SlotResult} {claims : List UsbDeviceClaim}
    {devices : DeviceMap} {tr : List ApiEvent}
    {outcomes : List (UsbDeviceClaim × Except ApiError ClaimOutcome)}
    (h : (claimPass ctx snap slots claims devices).Runs tr outcomes) :
    outcomes.map Prod.fst = claims ∧ ∀ p ∈ outcomes, ∃ tr' devices₁ devices₂,
      (∀ e ∈ tr', e ∈ tr) ∧
        (reconcileClaim ctx snap slots p.1 devices₁).Runs tr' (devices₂, p.2) := by
  induction claims generalizing devices tr outcomes with
  | nil =>
      obtain ⟨-, rfl⟩ := Prog.runs_pure.mp h
      exact ⟨rfl, fun p hp => absurd hp List.not_mem_nil⟩
  | cons claim claims ih =>
      obtain ⟨tr₁, tr₂, devices', outcome, rest, rfl, rfl, h₁, h₂⟩ := claimPass_cons_runs ctx h
      obtain ⟨hmap, hrest⟩ := ih h₂
      refine ⟨by rw [List.map_cons, hmap], fun p hp => ?_⟩
      rcases List.mem_cons.mp hp with rfl | hp
      · exact ⟨tr₁, devices, devices', fun e he => List.mem_append_left _ he, h₁⟩
      · obtain ⟨tr', d₁, d₂, hsub, hrun⟩ := hrest p hp
        exact ⟨tr', d₁, d₂, fun e he => List.mem_append_right _ (hsub e he), hrun⟩

/-- With distinct UIDs, a claim fails exactly when an error is passed on from a call that was made
for it. -/
lemma claimPass_failed {snap : Snapshot} {slots : SlotResult} {claims : List UsbDeviceClaim}
    {devices : DeviceMap} {tr : List ApiEvent}
    {outcomes : List (UsbDeviceClaim × Except ApiError ClaimOutcome)}
    (hnd : (claims.map (·.uidOrDefault)).Nodup)
    (h : (claimPass ctx snap slots claims devices).Runs tr outcomes)
    {p : UsbDeviceClaim × Except ApiError ClaimOutcome} (hp : p ∈ outcomes) :
    (∃ err, p.2 = .error err) ↔
      ∃ e ∈ tr, e.1.writer = .reconciling p.1.uidOrDefault ∧ propagates e = true := by
  induction claims generalizing devices tr outcomes with
  | nil =>
      obtain ⟨-, rfl⟩ := Prog.runs_pure.mp h
      cases hp
  | cons claim claims ih =>
      obtain ⟨hclaim, hnd⟩ := List.nodup_cons.mp hnd
      obtain ⟨tr₁, tr₂, devices', outcome, rest, rfl, rfl, h₁, h₂⟩ := claimPass_cons_runs ctx h
      have hwriter₁ : ∀ e ∈ tr₁, e.1.writer = .reconciling claim.uidOrDefault := fun e he =>
        ((reconcileClaim_issues ctx).of_runs h₁ e he).writer
      have hwriter₂ : ∀ e ∈ tr₂, ∃ c ∈ claims, e.1.writer = .reconciling c.uidOrDefault := by
        intro e he
        obtain ⟨c, hc, hcall⟩ := (claimPass_issues ctx).of_runs h₂ e he
        exact ⟨c, hc, hcall.writer⟩
      rcases List.mem_cons.mp hp with rfl | hp
      · rw [reconcileClaim_failsWith ctx snap slots claim devices tr₁ _ h₁]
        constructor
        · rintro ⟨e, he, hprop⟩
          exact ⟨e, List.mem_append_left _ he, hwriter₁ e he, hprop⟩
        · rintro ⟨e, he, hw, hprop⟩
          rcases List.mem_append.mp he with he | he
          · exact ⟨e, he, hprop⟩
          · obtain ⟨c, hc, hw'⟩ := hwriter₂ e he
            rw [hw, Writer.reconciling.injEq] at hw'
            exact absurd (List.mem_map.mpr ⟨c, hc, hw'.symm⟩) hclaim
      · rw [ih hnd h₂ hp]
        have hne : p.1.uidOrDefault ≠ claim.uidOrDefault := by
          intro heq
          refine hclaim (List.mem_map.mpr ⟨p.1, ?_, heq⟩)
          rw [← (claimPass_runs ctx h₂).1]
          exact List.mem_map_of_mem hp
        constructor
        · rintro ⟨e, he, hrest⟩
          exact ⟨e, List.mem_append_right _ he, hrest⟩
        · rintro ⟨e, he, hw, hprop⟩
          rcases List.mem_append.mp he with he | he
          · rw [hwriter₁ e he, Writer.reconciling.injEq] at hw
            exact absurd hw.symm hne
          · exact ⟨e, he, hw, hprop⟩

/-! ## The boot stage -/

/-- The state and UID an action has the claims report. -/
def BootHoldAction.reported (vmiUid : Option String) :
    BootHoldAction → BootHoldState × Option String
  | .hold _ => (.holding, vmiUid)
  | .notConfigured _ => (.notConfigured, none)
  | .release _ => (.released, vmiUid)
  | .nothing => (.released, vmiUid)

/-- A call made for the boot of the VM `key`: to resume it, to report on it, or to drop a report
that no longer describes it, which is not done for an instance in the map. -/
inductive BootCall (key : String × String) (claims : List BootHoldClaim) (vmiUid : Option String)
    (released : Released) (action : BootHoldAction) : ApiCall → Prop
  | resume {reason : String} (h : action = .release reason) :
      BootCall key claims vmiUid released action (.unpause key.1 key.2 (vmiUid.getD ""))
  | report {claim : BootHoldClaim} {message : String} (h : claim ∈ claims) :
      BootCall key claims vmiUid released action (.patchClaimStatus .bootHold key.1 claim.name
        { bootHold := .value (desiredBootHold ctx claim (action.reported vmiUid).1
            (action.reported vmiUid).2 message).toPatch })
  | clear {claim : BootHoldClaim} (h : claim ∈ claims) (hmap : vmiUid.bind released = none)
      (hstale : bootHoldIsStale claim.current vmiUid = true) :
      BootCall key claims vmiUid released action (.patchClaimStatus .bootHold key.1 claim.name
        { bootHold := .null })

lemma writeBootHold_issues {P : ApiCall → Prop} {ns name : String}
    {bootHold : Member BootHoldPatch}
    (h : P (.patchClaimStatus .bootHold ns name { bootHold := bootHold })) :
    (writeBootHold ns name bootHold).Issues P := by
  refine ⟨h, fun x => ?_⟩
  cases x with
  | ok _ => trivial
  | error e => cases e <;> trivial

lemma writeBootHolds_issues {P : ApiCall → Prop} {ns : String} {state : BootHoldState}
    {vmiUid : Option String} {message : String} : ∀ {claims : List BootHoldClaim},
    (∀ c ∈ claims, P (.patchClaimStatus .bootHold ns c.name
      { bootHold := .value (desiredBootHold ctx c state vmiUid message).toPatch })) →
    (writeBootHolds ctx ns state vmiUid message claims).Issues P
  | [], _ => trivial
  | claim :: claims, h => by
      have hfirst : (updateBootHold ctx ns state vmiUid message claim).Issues P := by
        unfold updateBootHold
        dsimp only
        split_ifs
        · trivial
        · exact writeBootHold_issues (h claim List.mem_cons_self)
      exact hfirst.bind fun _ => (writeBootHolds_issues fun c hc =>
        h c (List.mem_cons_of_mem _ hc)).bind fun _ => trivial

lemma clearStaleBootHolds_issues {P : ApiCall → Prop} {ns : String} {vmiUid : Option String} :
    ∀ {claims : List BootHoldClaim},
    (∀ c ∈ claims, bootHoldIsStale c.current vmiUid = true →
      P (.patchClaimStatus .bootHold ns c.name { bootHold := .null })) →
    (clearStaleBootHolds ns vmiUid claims).Issues P
  | [], _ => trivial
  | claim :: claims, h => by
      have hfirst : (clearStaleBootHold ns vmiUid claim).Issues P := by
        unfold clearStaleBootHold
        split_ifs with hstale
        · exact writeBootHold_issues (h claim List.mem_cons_self hstale)
        · trivial
      exact hfirst.bind fun _ => (clearStaleBootHolds_issues fun c hc =>
        h c (List.mem_cons_of_mem _ hc)).bind fun _ => trivial

section BootHold

variable {key : String × String} {claims : List BootHoldClaim} {vm : Option VmInfo}
  {vmi : Option VmiInfo} {released released' : Released} {tr : List ApiEvent} {requeue : Bool}

lemma reconcileBootHold_issues :
    (reconcileBootHold ctx key claims vm vmi released).Issues
      (BootCall ctx key claims (vmi.map (·.uid)) released
        (bootHoldAction ctx claims vm vmi released)) := by
  unfold reconcileBootHold
  dsimp only
  generalize haction : bootHoldAction ctx claims vm vmi released = action
  cases action with
  | hold message => exact (writeBootHolds_issues ctx fun c hc => .report hc).bind fun _ => trivial
  | notConfigured message =>
      exact (writeBootHolds_issues ctx fun c hc => .report hc).bind fun _ => trivial
  | release reason =>
      refine ⟨.resume rfl, fun x => ?_⟩
      cases x with
      | ok _ => exact (writeBootHolds_issues ctx fun c hc => .report hc).bind fun _ => trivial
      | error e => trivial
  | nothing =>
      dsimp only
      split
      · exact (writeBootHolds_issues ctx fun c hc => .report hc).bind fun _ => trivial
      · rename_i hmap
        exact (clearStaleBootHolds_issues fun c hc hstale => .clear hc hmap hstale).bind
          fun _ => trivial

/-- The event resumed an instance that its sender took for the one with this UID. -/
def resumes (uid : String) : ApiEvent → Bool
  | ⟨.unpause _ _ observed, .ok ()⟩ => observed == uid
  | _ => false

lemma countP_resumes_of_issues {α : Type} {p : ApiProg α} {a : α} {uid : String}
    (hp : p.Issues fun c => c.writer ≠ .bootHold) (h : p.Runs tr a) :
    tr.countP (resumes uid) = 0 := by
  rw [List.countP_eq_zero]
  rintro ⟨c, x⟩ he hres
  cases c with
  | unpause => exact hp.of_runs h _ he rfl
  | patchDeviceStatus | applyDevice | patchOwnerReferences | patchClaimStatus => cases hres

lemma countP_resumes_of_reports {p : ApiProg Bool} {b : Bool} {uid : String}
    (hp : p.Issues fun c => ∃ ns name patch, c = .patchClaimStatus .bootHold ns name patch)
    (h : p.Runs tr b) : tr.countP (resumes uid) = 0 := by
  rw [List.countP_eq_zero]
  rintro ⟨c, x⟩ he hres
  obtain ⟨ns, name, patch, rfl⟩ := hp.of_runs h _ he
  cases hres

/-- Whether the controller remembers to have resumed an instance, as a number. -/
def Released.memory (released : Released) (uid : String) : ℕ :=
  if (released uid).isSome then 1 else 0

lemma Released.memory_le_one (released : Released) (uid : String) : released.memory uid ≤ 1 := by
  unfold Released.memory
  split_ifs <;> omega

/-- **What is resumed is remembered.**  The calls for the boot of one VM resume exactly the
instances that the map gains. -/
lemma reconcileBootHold_memory
    (h : (reconcileBootHold ctx key claims vm vmi released).Runs tr (released', requeue))
    (uid : String) :
    tr.countP (resumes uid) + released.memory uid = released'.memory uid := by
  have hwrite : ∀ {state : BootHoldState} {vmiUid : Option String} {message : String},
      (writeBootHolds ctx key.1 state vmiUid message claims).Issues fun c =>
        ∃ ns name patch, c = .patchClaimStatus .bootHold ns name patch :=
    writeBootHolds_issues ctx fun c _ => ⟨_, _, _, rfl⟩
  have hkeep : ∀ {p : ApiProg Bool},
      (p.Issues fun c => ∃ ns name patch, c = .patchClaimStatus .bootHold ns name patch) →
      (p >>= fun b => pure (released, b)).Runs tr (released', requeue) →
      tr.countP (resumes uid) + released.memory uid = released'.memory uid := by
    intro p hp hrun
    obtain ⟨tr₁, tr₂, b, rfl, h₁, h₂⟩ := Prog.runs_bind.mp hrun
    obtain ⟨rfl, heq⟩ := Prog.runs_pure.mp h₂
    rw [Prod.mk.injEq] at heq
    rw [heq.1, List.append_nil, countP_resumes_of_reports hp h₁, Nat.zero_add]
  unfold reconcileBootHold at h
  dsimp only at h
  generalize haction : bootHoldAction ctx claims vm vmi released = action at h
  cases action with
  | hold message => exact hkeep hwrite h
  | notConfigured message => exact hkeep hwrite h
  | nothing =>
      dsimp only at h
      split at h
      · exact hkeep hwrite h
      · exact hkeep (clearStaleBootHolds_issues fun c _ _ => ⟨_, _, _, rfl⟩) h
  | release reason =>
      -- a release is only decided on an instance that the map does not hold
      obtain ⟨v, hv, -, hnot, -⟩ := release_of_decideBootHold haction
      dsimp only at hv hnot
      subst hv
      rw [Bool.or_eq_false_iff] at hnot
      have hnone : released v.uid = none := by simpa using hnot.1
      dsimp only [unpause, Prog.perform_bind] at h
      obtain ⟨x, tr₁, rfl, hrest⟩ := Prog.runs_call.mp h
      cases x with
      | error e =>
          obtain ⟨rfl, heq⟩ := Prog.runs_pure.mp hrest
          rw [Prod.mk.injEq] at heq
          rw [heq.1]
          simp [resumes]
      | ok _ =>
          obtain ⟨tr₂, tr₃, b, rfl, h₁, h₂⟩ := Prog.runs_bind.mp hrest
          obtain ⟨rfl, heq⟩ := Prog.runs_pure.mp h₂
          rw [Prod.mk.injEq] at heq
          rw [heq.1, List.append_nil, List.countP_cons, countP_resumes_of_reports hwrite h₁]
          by_cases huid : v.uid = uid
          · subst huid
            simp [resumes, Released.memory, hnone]
          · simp [resumes, Released.memory, huid, Function.update_of_ne (Ne.symm huid)]

variable {snap : Snapshot} {outcomes : List (UsbDeviceClaim × Except ApiError ClaimOutcome)}
  {keys : List (String × String)}

lemma bootHoldPass_cons_runs
    (h : (bootHoldPass ctx snap outcomes (key :: keys) released).Runs tr (released', requeue)) :
    ∃ tr₁ tr₂ released₁ requeue₁ requeue₂, tr = tr₁ ++ tr₂ ∧
      (reconcileBootHold ctx key (holdsOf outcomes key) (snap.vm? key) (snap.vmi? key)
        released).Runs tr₁ (released₁, requeue₁) ∧
      (bootHoldPass ctx snap outcomes keys released₁).Runs tr₂ (released', requeue₂) := by
  rw [bootHoldPass] at h
  obtain ⟨tr₁, tr₂, ⟨released₁, requeue₁⟩, rfl, h₁, h⟩ := Prog.runs_bind.mp h
  obtain ⟨tr₃, tr₄, ⟨released₂, requeue₂⟩, rfl, h₂, h⟩ := Prog.runs_bind.mp h
  obtain ⟨rfl, heq⟩ := Prog.runs_pure.mp h
  rw [Prod.mk.injEq] at heq
  rw [List.append_nil, heq.1]
  exact ⟨tr₁, tr₃, released₁, requeue₁, requeue₂, rfl, h₁, h₂⟩

lemma bootHoldPass_memory
    (h : (bootHoldPass ctx snap outcomes keys released).Runs tr (released', requeue))
    (uid : String) :
    tr.countP (resumes uid) + released.memory uid = released'.memory uid := by
  induction keys generalizing released tr requeue with
  | nil =>
      obtain ⟨rfl, heq⟩ := Prog.runs_pure.mp h
      rw [Prod.mk.injEq] at heq
      rw [heq.1, List.countP_nil, Nat.zero_add]
  | cons key keys ih =>
      obtain ⟨tr₁, tr₂, released₁, requeue₁, requeue₂, rfl, h₁, h₂⟩ :=
        bootHoldPass_cons_runs ctx h
      have hfirst := reconcileBootHold_memory ctx h₁ uid
      have hrest := ih h₂
      rw [List.countP_append]
      omega

lemma Released.isSome_of_memory_le {released released' : Released} {uid : String}
    (h : released.memory uid ≤ released'.memory uid) (hsome : (released uid).isSome = true) :
    (released' uid).isSome = true := by
  unfold Released.memory at h
  rw [if_pos hsome] at h
  by_contra hnot
  rw [if_neg hnot] at h
  omega

/-- Every call of the boot stage is made for one of the VMs, with a map that has forgotten
nothing. -/
lemma bootHoldPass_event
    (h : (bootHoldPass ctx snap outcomes keys released).Runs tr (released', requeue))
    {e : ApiEvent} (he : e ∈ tr) :
    ∃ key ∈ keys, ∃ released₁ : Released,
      (∀ uid, (released uid).isSome = true → (released₁ uid).isSome = true) ∧
      BootCall ctx key (holdsOf outcomes key) ((snap.vmi? key).map (·.uid)) released₁
        (bootHoldAction ctx (holdsOf outcomes key) (snap.vm? key) (snap.vmi? key) released₁)
        e.1 := by
  induction keys generalizing released tr requeue with
  | nil =>
      obtain ⟨rfl, -⟩ := Prog.runs_pure.mp h
      cases he
  | cons key keys ih =>
      obtain ⟨tr₁, tr₂, released₁, requeue₁, requeue₂, rfl, h₁, h₂⟩ :=
        bootHoldPass_cons_runs ctx h
      rcases List.mem_append.mp he with he | he
      · exact ⟨key, List.mem_cons_self, released, fun _ hsome => hsome,
          (reconcileBootHold_issues ctx).of_runs h₁ e he⟩
      · obtain ⟨key', hkey, released₂, hle, hcall⟩ := ih h₂ he
        refine ⟨key', List.mem_cons_of_mem _ hkey, released₂, fun uid hsome => ?_, hcall⟩
        refine hle uid (Released.isSome_of_memory_le ?_ hsome)
        have := reconcileBootHold_memory ctx h₁ uid
        omega

end BootHold

/-! ## The pass -/

lemma Snapshot.mem_liveClaims {snap : Snapshot} {c : UsbDeviceClaim} :
    c ∈ snap.liveClaims ↔ c ∈ snap.claims ∧ c.isLive = true := by
  unfold Snapshot.liveClaims
  rw [List.mem_insertionSort, List.mem_filter]

lemma Snapshot.liveClaims_uid_nodup (snap : Snapshot) :
    (snap.liveClaims.map (·.uidOrDefault)).Nodup := by
  have hperm : (snap.liveClaims.map (·.uidOrDefault)).Perm
      ((snap.claims.filter (·.isLive)).map (·.uidOrDefault)) :=
    (List.perm_insertionSort _ _).map _
  rw [hperm.nodup_iff]
  have hmap : ∀ cs : List UsbDeviceClaim, ((cs.filter (·.isLive)).map (·.uidOrDefault)).Sublist
      (cs.filterMap (·.uid)) := by
    intro cs
    induction cs with
    | nil => exact List.Sublist.slnil
    | cons c cs ih =>
        cases huid : c.uid with
        | none =>
            have hdead : c.isLive = false := by simp [UsbDeviceClaim.isLive, huid]
            rw [List.filter_cons_of_neg (by simp [hdead]), List.filterMap_cons_none huid]
            exact ih
        | some uid =>
            rw [List.filterMap_cons_some huid, List.filter_cons]
            split_ifs
            · rw [List.map_cons, UsbDeviceClaim.uidOrDefault, huid]
              exact ih.cons_cons _
            · exact ih.cons _
  exact snap.uids_nodup.sublist (hmap snap.claims)

/-- A cache has one claim per namespace and name. -/
lemma Snapshot.claim_unique {snap : Snapshot} {c c' : UsbDeviceClaim} (hc : c ∈ snap.claims)
    (hc' : c' ∈ snap.claims) (hns : c.namespaceOrDefault = c'.namespaceOrDefault)
    (hname : c.name = c'.name) : c = c' :=
  List.inj_on_of_nodup_map snap.claims_nodup hc hc' (Prod.ext hns hname)

lemma Snapshot.vmi?_of_mem {snap : Snapshot} {v : VmiInfo} (hv : v ∈ snap.vmis) :
    snap.vmi? (v.ns, v.name) = some v :=
  List.find?_key_of_mem snap.vmis_nodup hv

lemma mem_holdsOf {outcomes : List (UsbDeviceClaim × Except ApiError ClaimOutcome)}
    {key : String × String} {hold : BootHoldClaim} :
    hold ∈ holdsOf outcomes key ↔
      ∃ c o, (c, Except.ok o) ∈ outcomes ∧ o.hold = some hold ∧ c.vmKey = key := by
  unfold holdsOf collectedHolds
  rw [List.mem_filterMap]
  constructor
  · rintro ⟨⟨k, hold'⟩, hmem, hif⟩
    obtain ⟨⟨c, out⟩, hc, hout⟩ := List.mem_filterMap.mp hmem
    split_ifs at hif with hk
    rw [Option.some.injEq] at hif
    subst hif
    rcases out with e | o
    · cases hout
    · obtain ⟨hold'', ho, heq⟩ := Option.map_eq_some_iff.mp hout
      rw [Prod.mk.injEq] at heq
      exact ⟨c, o, hc, heq.2 ▸ ho, heq.1.trans hk⟩
  · rintro ⟨c, o, hmem, ho, rfl⟩
    refine ⟨(c.vmKey, hold), List.mem_filterMap.mpr ⟨_, hmem, ?_⟩, if_pos rfl⟩
    dsimp only
    rw [ho, Option.map_some]

variable {snap : Snapshot} {released : Released} {tr : List ApiEvent} {r : PassResult}

/-- A pass ends with an error of its device stage, or all its stages run. -/
lemma reconcileAll_runs (h : (reconcileAll ctx snap released).Runs tr r) :
    (∃ devices e, (devicePass ctx (snap.liveClaims.filterMap (·.uid))
        (snap.devices.entries.map (·.name)) snap.devices).Runs tr (devices, .error e) ∧
      r = { result := .error e, released := released, outcomes := [] }) ∨
    ∃ tr₁ tr₂ tr₃ devices requeue₁ requeue₂, tr = tr₁ ++ (tr₂ ++ tr₃) ∧
      (devicePass ctx (snap.liveClaims.filterMap (·.uid))
        (snap.devices.entries.map (·.name)) snap.devices).Runs tr₁ (devices, .ok requeue₁) ∧
      (claimPass ctx snap snap.slots snap.liveClaims devices).Runs tr₂ r.outcomes ∧
      (bootHoldPass ctx snap r.outcomes (heldVms r.outcomes) (released.retainLive snap)).Runs tr₃
        (r.released, requeue₂) := by
  unfold reconcileAll at h
  dsimp only at h
  obtain ⟨tr₁, tr₂, ⟨devices, e | requeue₁⟩, rfl, h₁, h⟩ := Prog.runs_bind.mp h
  · obtain ⟨rfl, rfl⟩ := Prog.runs_pure.mp h
    rw [List.append_nil]
    exact Or.inl ⟨devices, e, h₁, rfl⟩
  · obtain ⟨tr₃, tr₄, outcomes, rfl, h₂, h⟩ := Prog.runs_bind.mp h
    obtain ⟨tr₅, tr₆, ⟨released', requeue₂⟩, rfl, h₃, h⟩ := Prog.runs_bind.mp h
    obtain ⟨rfl, rfl⟩ := Prog.runs_pure.mp h
    rw [List.append_nil]
    exact Or.inr ⟨tr₁, tr₃, tr₅, devices, requeue₁, requeue₂, rfl, h₁, h₂, h₃⟩

/-- Every call of a pass belongs to one of its stages. -/
lemma reconcileAll_event (h : (reconcileAll ctx snap released).Runs tr r) {e : ApiEvent}
    (he : e ∈ tr) :
    DeviceCall e.1 ∨ (∃ claim ∈ snap.liveClaims, ClaimCall claim e.1) ∨
      ∃ key ∈ heldVms r.outcomes, ∃ released₁ : Released,
        (∀ uid, (released.retainLive snap uid).isSome = true → (released₁ uid).isSome = true) ∧
        BootCall ctx key (holdsOf r.outcomes key) ((snap.vmi? key).map (·.uid)) released₁
          (bootHoldAction ctx (holdsOf r.outcomes key) (snap.vm? key) (snap.vmi? key) released₁)
          e.1 := by
  obtain ⟨devices, err, h₁, -⟩ | ⟨tr₁, tr₂, tr₃, devices, _, _, rfl, h₁, h₂, h₃⟩ :=
    reconcileAll_runs ctx h
  · exact Or.inl ((devicePass_issues ctx).of_runs h₁ e he)
  · rcases List.mem_append.mp he with he | he
    · exact Or.inl ((devicePass_issues ctx).of_runs h₁ e he)
    rcases List.mem_append.mp he with he | he
    · exact Or.inr (Or.inl ((claimPass_issues ctx).of_runs h₂ e he))
    · exact Or.inr (Or.inr (bootHoldPass_event ctx h₃ he))

/-- What a call to resume a VM rests on. -/
lemma unpause_of_runs (h : (reconcileAll ctx snap released).Runs tr r) {ns name observed : String}
    {x : Except ApiError Unit} (he : (⟨.unpause ns name observed, x⟩ : ApiEvent) ∈ tr) :
    ∃ (released₁ : Released) (reason : String) (v : VmiInfo),
      (∀ uid, (released.retainLive snap uid).isSome = true → (released₁ uid).isSome = true) ∧
      bootHoldAction ctx (holdsOf r.outcomes (ns, name)) (snap.vm? (ns, name)) (some v)
        released₁ = .release reason ∧
      snap.vmi? (ns, name) = some v ∧ v.uid = observed := by
  rcases reconcileAll_event ctx h he with
    hcall | ⟨claim, -, hcall⟩ | ⟨key, -, released₁, hle, hcall⟩
  · cases hcall
  · cases hcall
  · cases hcall with
    | resume hrel =>
        obtain ⟨v, hv, -⟩ := release_of_decideBootHold hrel
        dsimp only at hv
        rw [hv] at hrel ⊢
        exact ⟨released₁, _, v, hle, hrel, rfl, rfl⟩

/-- **A pass remembers what it resumed.**  The instances a pass resumed are those its map gained
after forgetting the instances that are gone. -/
lemma reconcileAll_memory (h : (reconcileAll ctx snap released).Runs tr r) (uid : String) :
    (tr.countP (resumes uid) = 0 ∧ r.released = released) ∨
      tr.countP (resumes uid) + (released.retainLive snap).memory uid = r.released.memory uid := by
  obtain ⟨devices, err, h₁, rfl⟩ | ⟨tr₁, tr₂, tr₃, devices, _, _, rfl, h₁, h₂, h₃⟩ :=
    reconcileAll_runs ctx h
  · left
    refine ⟨countP_resumes_of_issues ((devicePass_issues ctx).mono ?_) h₁, rfl⟩
    intro c hc
    cases hc <;> exact nofun
  · right
    rw [List.countP_append, List.countP_append,
      countP_resumes_of_issues ((devicePass_issues ctx).mono ?_) h₁,
      countP_resumes_of_issues ((claimPass_issues ctx).mono ?_) h₂, Nat.zero_add, Nat.zero_add]
    · exact bootHoldPass_memory ctx h₃ uid
    · rintro c ⟨claim, -, hc⟩
      rw [hc.writer]
      exact nofun
    · intro c hc
      cases hc <;> exact nofun

/-! ### What it concluded for a claim -/

/-- A claim that was reconciled holds its boot as its spec says. -/
lemma hold_of_outcome {c : UsbDeviceClaim} {o : ClaimOutcome}
    (h : (reconcileAll ctx snap released).Runs tr r) (hmem : (c, Except.ok o) ∈ r.outcomes) :
    ∃ ready, o.hold = holdOf c (invalidReason ctx c snap.slots).isSome ready := by
  obtain ⟨devices, err, -, rfl⟩ | ⟨tr₁, tr₂, tr₃, devices, _, _, rfl, -, h₂, -⟩ :=
    reconcileAll_runs ctx h
  · cases hmem
  · obtain ⟨tr', d₁, d₂, -, hrun⟩ := (claimPass_runs ctx h₂).2 _ hmem
    obtain ⟨target, ho⟩ := reconcileClaim_outcome ctx hrun
    exact ⟨_, ho⟩

/-- What made a holding claim ready. -/
lemma connection_of_outcome {c : UsbDeviceClaim} {o : ClaimOutcome} {hold : BootHoldClaim}
    (h : (reconcileAll ctx snap released).Runs tr r) (hmem : (c, Except.ok o) ∈ r.outcomes)
    (hhold : o.hold = some hold) (hready : hold.ready = true) :
    ∃ conn v, c.statusOrDefault.connection = some conn ∧ snap.vmi? c.vmKey = some v ∧
      v.node = some conn.node ∧ conn.isLive = true := by
  obtain ⟨devices, err, -, rfl⟩ | ⟨tr₁, tr₂, tr₃, devices, _, _, rfl, -, h₂, -⟩ :=
    reconcileAll_runs ctx h
  · cases hmem
  · obtain ⟨tr', d₁, d₂, -, hrun⟩ := (claimPass_runs ctx h₂).2 _ hmem
    obtain ⟨target, ho⟩ := reconcileClaim_outcome ctx hrun
    obtain ⟨spec, -, rfl⟩ := Option.map_eq_some_iff.mp (ho.symm.trans hhold)
    exact connection_of_ready ctx hready

/-- A pass that gets as far as resuming a VM has an outcome for every live claim. -/
lemma exists_outcome {c : UsbDeviceClaim} {ns name uid : String}
    (h : (reconcileAll ctx snap released).Runs tr r)
    (hcall : ApiCall.unpause ns name uid ∈ tr.map (·.1)) (hc : c ∈ snap.liveClaims) :
    ∃ out, (c, out) ∈ r.outcomes := by
  obtain ⟨devices, err, h₁, -⟩ | ⟨tr₁, tr₂, tr₃, devices, _, _, rfl, -, h₂, -⟩ :=
    reconcileAll_runs ctx h
  · obtain ⟨e, he, heq⟩ := List.mem_map.mp hcall
    have hdevice := (devicePass_issues ctx).of_runs h₁ e he
    rw [heq] at hdevice
    cases hdevice
  · rw [← (claimPass_runs ctx h₂).1] at hc
    obtain ⟨⟨c', out⟩, hmem, rfl⟩ := List.mem_map.mp hc
    exact ⟨out, hmem⟩

/-- A claim fails through an error passed on from one of the calls made for it. -/
lemma outcome_failed {c : UsbDeviceClaim} {out : Except ApiError ClaimOutcome}
    (h : (reconcileAll ctx snap released).Runs tr r) (hmem : (c, out) ∈ r.outcomes) :
    (∃ err, out = .error err) ↔
      ∃ e ∈ tr, e.1.writer = .reconciling c.uidOrDefault ∧ propagates e = true := by
  obtain ⟨devices, err, -, rfl⟩ | ⟨tr₁, tr₂, tr₃, devices, _, _, rfl, h₁, h₂, h₃⟩ :=
    reconcileAll_runs ctx h
  · cases hmem
  rw [claimPass_failed ctx snap.liveClaims_uid_nodup h₂ hmem]
  constructor
  · rintro ⟨e, he, hrest⟩
    exact ⟨e, List.mem_append_right _ (List.mem_append_left _ he), hrest⟩
  · rintro ⟨e, he, hw, hprop⟩
    -- the other stages do not call on behalf of a claim
    rcases List.mem_append.mp he with he | he
    · have hdevice := (devicePass_issues ctx).of_runs h₁ e he
      generalize e.1 = call at hdevice hw
      cases hdevice <;> cases hw
    rcases List.mem_append.mp he with he | he
    · exact ⟨e, he, hw, hprop⟩
    · obtain ⟨key, -, released₁, -, hboot⟩ := bootHoldPass_event ctx h₃ he
      generalize e.1 = call at hboot hw
      cases hboot <;> cases hw

end AtomicUsb
