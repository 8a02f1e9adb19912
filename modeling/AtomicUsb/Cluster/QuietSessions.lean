import AtomicUsb.Agent.Attacher
import AtomicUsb.Controller.QuietPass
import AtomicUsb.Controller.SlotSpec

/-!
# The sessions of a quiet cluster

Every agent decides by itself which sessions it keeps, from its caches.  That the sessions of all
agents fit together is the controller's work: once it has nothing left to write and the caches agree
with its own, no two sessions, on whatever nodes, are for one claim, one device or one slot of a VM,
and a claim that holds a device has its session as soon as its VM runs (`quiet_sessions_fit`).

The leases keep the devices apart and the slots the sockets.  A session reads neither off the
allocation: it goes by what the claim reports, which a quiet pass has found to be what is leased and
granted.
-/

namespace AtomicUsb

variable {ctx : PassContext} {snap : Snapshot} {c c' : UsbDeviceClaim} {s s' : SessionSpec}
  {n n' : String}

/-- The caches of the agent on a node, when they agree with the controller's. -/
def Snapshot.agentView (snap : Snapshot) (node : String) : AgentView :=
  ⟨node, snap.claims, snap.devices, snap.vmis⟩

/-! ## The claim of a session -/

lemma agentView_vmi (snap : Snapshot) (node ns name : String) :
    (snap.agentView node).vmi ns name = snap.vmi? (ns, name) := by
  unfold AgentView.vmi Snapshot.vmi?
  refine congrFun (congrArg List.find? (funext fun v => ?_)) snap.vmis
  rw [← Bool.decide_and, decide_eq_decide, Prod.mk.injEq]

/-- When an agent keeps a session for a claim, and which. -/
structure KeepsSession (snap : Snapshot) (node : String) (c : UsbDeviceClaim) (s : SessionSpec) :
    Prop where
  live : c.isLive = true
  uid : c.uid = some s.claim.uid
  ns : c.ns = some s.claim.ns
  name : c.name = s.claim.name
  deviceName : c.statusOrDefault.deviceName = some s.device
  slot : c.statusOrDefault.slot = some s.slot
  lease : (snap.devices.get? s.device).any (fun d => d.leaseHolder == some s.claim.uid) = true
  vmName : c.spec.vmName = s.vmName
  vmi : ∃ vmi, snap.vmi? c.vmKey = some vmi ∧ vmi.uid = s.vmiUid ∧ vmi.isRunning = true ∧
    vmi.clientPassthrough = true ∧ vmi.node = some node

lemma desiredSession_iff :
    (snap.agentView n).desiredSession c = some s ↔ KeepsSession snap n c s := by
  unfold AgentView.desiredSession
  simp only [Option.bind_eq_bind, Option.bind_eq_some_iff, Option.pure_def, Option.guard_eq_some',
    exists_const, Option.some.injEq, Bool.and_eq_true, beq_iff_eq, agentView_vmi]
  constructor
  · rintro ⟨uid, huid, ns, hns, hdel, status, hstatus, device, hdevice, slot, hslot, vmi, hvmi,
      ⟨⟨⟨hlease, hrunning⟩, hpass⟩, hnode⟩, rfl⟩
    refine ⟨?_, huid, hns, rfl, ?_, ?_, hlease, rfl, vmi, ?_, rfl, hrunning, hpass, hnode⟩
    · rw [UsbDeviceClaim.isLive, hdel, huid]
      rfl
    · rw [UsbDeviceClaim.statusOrDefault, hstatus]
      exact hdevice
    · rw [UsbDeviceClaim.statusOrDefault, hstatus]
      exact hslot
    · rw [UsbDeviceClaim.vmKey, UsbDeviceClaim.namespaceOrDefault, hns]
      exact hvmi
  · intro h
    obtain ⟨vmi, hvmi, huid, hrunning, hpass, hnode⟩ := h.vmi
    have hlive := h.live
    rw [UsbDeviceClaim.isLive, Bool.and_eq_true] at hlive
    have hdevice := h.deviceName
    have hslot := h.slot
    cases hstatus : c.status with
    | none =>
        rw [UsbDeviceClaim.statusOrDefault, hstatus] at hdevice
        cases hdevice
    | some status =>
        rw [UsbDeviceClaim.statusOrDefault, hstatus] at hdevice hslot
        rw [UsbDeviceClaim.vmKey, UsbDeviceClaim.namespaceOrDefault, h.ns] at hvmi
        refine ⟨_, h.uid, _, h.ns, hlive.1, status, rfl, _, hdevice, _, hslot, vmi, hvmi,
          ⟨⟨⟨h.lease, hrunning⟩, hpass⟩, hnode⟩, ?_⟩
        rw [h.name, h.vmName, huid]

/-- A claim has one session, on one node. -/
lemma KeepsSession.eq (h : KeepsSession snap n c s) (h' : KeepsSession snap n' c s') :
    n = n' ∧ s = s' := by
  obtain ⟨vmi, hvmi, -, -, -, hnode⟩ := h.vmi
  obtain ⟨vmi', hvmi', -, -, -, hnode'⟩ := h'.vmi
  obtain rfl := Option.some.inj (hvmi.symm.trans hvmi')
  obtain rfl := Option.some.inj (hnode.symm.trans hnode')
  exact ⟨rfl, Option.some.inj ((desiredSession_iff.mpr h).symm.trans (desiredSession_iff.mpr h'))⟩

lemma mem_desiredSessions :
    s ∈ (snap.agentView n).desiredSessions ↔ ∃ c ∈ snap.claims, KeepsSession snap n c s := by
  unfold AgentView.desiredSessions
  rw [List.mem_filterMap]
  exact exists_congr fun c => and_congr_right fun _ => desiredSession_iff

/-! ## Slots -/

lemma slots_of_granted {slot : ℤ} (h : grantedSlot c snap.slots = some slot) :
    snap.slots c.uidOrDefault = some (.ok slot) := by
  unfold grantedSlot at h
  split at h
  · rename_i heq
    rw [heq, Option.some.inj h]
  · cases h

lemma liveRequests_nodup (snap : Snapshot) :
    ((snap.liveClaims.map (·.slotRequest)).map (·.uid)).Nodup := by
  rw [List.map_map]
  exact snap.liveClaims_uid_nodup

/-- The live claims of a VM get what the allocation for that VM alone gives them. -/
lemma exists_slotSpec (snap : Snapshot) (vm : String × String) :
    ∃ result, SlotSpec ((snap.liveClaims.map (·.slotRequest)).filter (·.vm = vm)) result ∧
      ∀ c ∈ snap.liveClaims, c.vmKey = vm →
        c.slotRequest ∈ (snap.liveClaims.map (·.slotRequest)).filter (·.vm = vm) ∧
        (result c.uidOrDefault).isSome = true ∧
        snap.slots c.uidOrDefault = result c.uidOrDefault := by
  have hnd := liveRequests_nodup snap
  have hfresh : Fresh (fun _ => none)
      ((snap.liveClaims.map (·.slotRequest)).filter (·.vm = vm)) :=
    ⟨hnd.sublist (List.filter_sublist.map _), fun _ _ => rfl⟩
  refine ⟨_, hfresh.allocateVm_spec, fun c hc hvm => ?_⟩
  have hmem := List.mem_map_of_mem (f := UsbDeviceClaim.slotRequest) hc
  have hmine : c.slotRequest ∈ (snap.liveClaims.map (·.slotRequest)).filter (·.vm = vm) :=
    List.mem_filter.mpr ⟨hmem, decide_eq_true hvm⟩
  refine ⟨hmine, hfresh.allocateVm_isSome hmine, ?_⟩
  subst hvm
  exact allocateSlots_eq_vm hnd hmem

lemma slot_inRange {slot : ℤ} (hc : c ∈ snap.liveClaims)
    (hslot : grantedSlot c snap.slots = some slot) : 0 ≤ slot ∧ slot < 4 := by
  obtain ⟨result, hspec, hall⟩ := exists_slotSpec snap c.vmKey
  obtain ⟨hmem, -, heq⟩ := hall c hc rfl
  exact hspec.slots _ hmem slot (heq ▸ slots_of_granted hslot)

/-- A slot of a VM is granted to one claim. -/
lemma slots_exclusive {slot : ℤ} (hc : c ∈ snap.liveClaims) (hc' : c' ∈ snap.liveClaims)
    (hvm : c.vmKey = c'.vmKey) (hslot : grantedSlot c snap.slots = some slot)
    (hslot' : grantedSlot c' snap.slots = some slot) : c.uidOrDefault = c'.uidOrDefault := by
  obtain ⟨result, hspec, hall⟩ := exists_slotSpec snap c.vmKey
  obtain ⟨hmem, -, heq⟩ := hall c hc rfl
  obtain ⟨hmem', -, heq'⟩ := hall c' hc' hvm.symm
  exact congrArg SlotRequest.uid (hspec.exclusive _ hmem _ hmem' slot
    (heq ▸ slots_of_granted hslot) (heq' ▸ slots_of_granted hslot'))

/-- A valid claim has been granted a slot. -/
lemma granted_of_valid (hc : c ∈ snap.liveClaims)
    (hvalid : invalidReason ctx c snap.slots = none) :
    ∃ slot, grantedSlot c snap.slots = some slot := by
  obtain ⟨result, -, hall⟩ := exists_slotSpec snap c.vmKey
  obtain ⟨-, hsome, heq⟩ := hall c hc rfl
  rw [← heq] at hsome
  unfold invalidReason at hvalid
  unfold grantedSlot
  split at hvalid
  · cases hvalid
  split_ifs at hvalid
  rcases hanswer : snap.slots c.uidOrDefault with _ | (e | slot)
  · rw [hanswer] at hsome
    cases hsome
  · rw [hanswer] at hvalid
    cases hvalid
  · exact ⟨slot, rfl⟩

/-! ## The quiet pass -/

lemma claimPass_turns {slots : SlotResult} {devices : DeviceMap} {claims : List UsbDeviceClaim}
    {outcomes : List (UsbDeviceClaim × Except ApiError ClaimOutcome)}
    (h : claimPass ctx snap slots claims devices = pure outcomes) :
    ∀ c ∈ claims, ∃ r, reconcileClaim ctx snap slots c devices = pure r := by
  induction claims generalizing outcomes with
  | nil => simp
  | cons claim claims ih =>
      obtain ⟨⟨m, outcome⟩, hclaim, hnext⟩ := Prog.bind_eq_pure h
      obtain rfl : m = devices := (reconcileClaim_quiet hclaim).1
      obtain ⟨rest, hrest, -⟩ := Prog.bind_eq_pure hnext
      intro c hc
      rcases List.mem_cons.mp hc with rfl | hc
      · exact ⟨_, hclaim⟩
      · exact ih hrest c hc

/-- A claim with nothing to write reports the slot it was granted. -/
lemma reportedSlot_of_quiet {slots : SlotResult} {devices : DeviceMap}
    {r : DeviceMap × Except ApiError ClaimOutcome}
    (h : reconcileClaim ctx snap slots c devices = pure r) :
    c.statusOrDefault.slot = grantedSlot c slots := by
  obtain ⟨m₁, x, hown, h⟩ := ApiProg.andThen_eq_pure h
  obtain ⟨rfl, rfl⟩ := Prod.mk.injEq .. ▸ bindOwner_quiet hown
  obtain ⟨m₂, x, hlease, h⟩ := ApiProg.andThen_eq_pure (h _ rfl)
  obtain ⟨rfl, rfl⟩ := Prod.mk.injEq .. ▸ (leaseTarget_quiet hlease).1
  obtain ⟨m₃, x, hothers, h⟩ := ApiProg.andThen_eq_pure (h _ rfl)
  obtain ⟨rfl, rfl⟩ := Prod.mk.injEq .. ▸ (releaseOthers_quiet hothers).1
  obtain ⟨m₄, x, hreport, -⟩ := ApiProg.andThen_eq_pure (h _ rfl)
  exact (congrArg ClaimReport.slot (writeReport_quiet hreport).2).symm

/-- What a quiet pass has found: every live claim reports what it holds and was granted, and every
lease belongs to a live claim. -/
lemma quiet_findings {released : Released} {r : PassResult}
    (h : reconcileAll ctx snap released = pure r) :
    (∀ c ∈ snap.claims, c.isLive = true → QuietClaim ctx snap snap.slots snap.devices c ∧
      c.statusOrDefault.slot = grantedSlot c snap.slots) ∧
    ∀ d ∈ snap.devices.entries, ∀ uid, d.leaseHolder = some uid →
      ∃ c ∈ snap.claims, c.isLive = true ∧ c.uid = some uid := by
  obtain ⟨⟨m, x⟩, hdevices, h⟩ := Prog.bind_eq_pure h
  obtain ⟨heq, htidy⟩ := devicePass_quiet hdevices
  obtain ⟨rfl, rfl⟩ := Prod.mk.injEq .. ▸ heq
  obtain ⟨outcomes, hclaims, -⟩ := Prog.bind_eq_pure h
  refine ⟨fun c hc hlive => ?_, fun d hd uid hhold => ?_⟩
  · obtain ⟨r, hturn⟩ := claimPass_turns hclaims c (Snapshot.mem_liveClaims.mpr ⟨hc, hlive⟩)
    exact ⟨(reconcileClaim_quiet hturn).2, reportedSlot_of_quiet hturn⟩
  · obtain ⟨lease, hlease, rfl⟩ := Option.map_eq_some_iff.mp hhold
    have hlive := htidy d.name (List.mem_map_of_mem hd) d lease (SortedMap.get?_of_mem hd) hlease
    obtain ⟨c, hc, huid⟩ := List.mem_filterMap.mp hlive
    obtain ⟨hmem, hlive⟩ := Snapshot.mem_liveClaims.mp hc
    exact ⟨c, hmem, hlive, huid⟩

/-! ## The sessions -/

section Quiet

variable {released : Released} {r : PassResult} (h : reconcileAll ctx snap released = pure r)

include h

/-- The claims of two sessions are the same if the sessions share their claim's UID, their device or
their slot. -/
lemma same_claim (hc : c ∈ snap.claims) (hc' : c' ∈ snap.claims) (hs : KeepsSession snap n c s)
    (hs' : KeepsSession snap n' c' s')
    (hshared : s.claim.uid = s'.claim.uid ∨ s.device = s'.device ∨
      s.claim.ns = s'.claim.ns ∧ s.vmName = s'.vmName ∧ s.slot = s'.slot) : c = c' := by
  rcases hshared with huid | hdevice | ⟨hns, hvm, hslot⟩
  · exact Snapshot.eq_of_uid hc hc' hs.uid (huid ▸ hs'.uid)
  · -- the device has one lease
    obtain ⟨d, hd, hhold⟩ := (Option.any_eq_true _ _).mp hs.lease
    obtain ⟨d', hd', hhold'⟩ := (Option.any_eq_true _ _).mp hs'.lease
    rw [← hdevice] at hd'
    obtain rfl := Option.some.inj (hd.symm.trans hd')
    have huid : s.claim.uid = s'.claim.uid :=
      Option.some.inj ((eq_of_beq hhold).symm.trans (eq_of_beq hhold'))
    exact Snapshot.eq_of_uid hc hc' hs.uid (huid ▸ hs'.uid)
  · have hgranted := (quiet_findings h).1 c hc hs.live
    have hgranted' := (quiet_findings h).1 c' hc' hs'.live
    have hkey : c.vmKey = c'.vmKey := by
      rw [UsbDeviceClaim.vmKey, UsbDeviceClaim.vmKey, UsbDeviceClaim.namespaceOrDefault,
        UsbDeviceClaim.namespaceOrDefault, hs.ns, hs'.ns, hs.vmName, hs'.vmName, hns, hvm]
    have huid := slots_exclusive (Snapshot.mem_liveClaims.mpr ⟨hc, hs.live⟩)
      (Snapshot.mem_liveClaims.mpr ⟨hc', hs'.live⟩) hkey (hgranted.2 ▸ hs.slot)
      (hslot ▸ hgranted'.2 ▸ hs'.slot)
    refine Snapshot.eq_of_uid hc hc' (UsbDeviceClaim.isLive_uid hs.live) ?_
    rw [huid]
    exact UsbDeviceClaim.isLive_uid hs'.live

/-- A claim that holds a device has its session where its VM runs. -/
lemma keepsSession_of_holds {d : UsbDevice} {vmi : VmiInfo} {ns uid : String}
    (hc : c ∈ snap.claims) (hd : d ∈ snap.devices.entries) (huid : c.uid = some uid)
    (hhold : d.leaseHolder = some uid) (hns : c.ns = some ns)
    (hvmi : snap.vmi? c.vmKey = some vmi) (hrunning : vmi.isRunning = true)
    (hpass : vmi.clientPassthrough = true) (hnode : vmi.node = some n) :
    ∃ slot, 0 ≤ slot ∧ slot < 4 ∧
      KeepsSession snap n c ⟨⟨ns, c.name, uid⟩, d.name, slot, vmi.uid, c.spec.vmName⟩ := by
  obtain ⟨c', hc', hlive, huid'⟩ := (quiet_findings h).2 d hd uid hhold
  obtain rfl := Snapshot.eq_of_uid hc hc' huid huid'
  obtain ⟨hquiet, hslot⟩ := (quiet_findings h).1 c hc hlive
  have hmine := Snapshot.mem_liveClaims.mpr ⟨hc, hlive⟩
  have hheld : d.name ∈ heldBy c.uidOrDefault snap.devices := by
    rw [mem_heldBy_of_mem hd, hhold, UsbDeviceClaim.uidOrDefault, huid]
    rfl
  have hmay := (hquiet.fits d.name hheld).1
  rw [mayHold, Bool.and_eq_true, Option.isNone_iff_eq_none] at hmay
  obtain ⟨slot, hgranted⟩ := granted_of_valid hmine hmay.1
  have hrange := slot_inRange hmine hgranted
  refine ⟨slot, hrange.1, hrange.2, hlive, huid, hns, rfl, ?_, hslot.trans hgranted, ?_, rfl,
    vmi, hvmi, rfl, hrunning, hpass, hnode⟩
  · exact (hquiet.deviceName_iff hlive).mpr ⟨d, hd, rfl, uid, huid, hhold⟩
  · rw [SortedMap.get?_of_mem hd, Option.any_some, hhold]
    exact beq_self_eq_true _

end Quiet

/-- **The sessions of a quiet cluster fit together.**  When a pass has nothing to send and the
agents see what it saw: two sessions, on whatever nodes, that are for one claim, one device or one
slot of a VM are one session on one node; and a claim that holds a device has a session for it, on a
slot that exists, wherever its VM runs. -/
theorem quiet_sessions_fit {released : Released} {r : PassResult}
    (h : reconcileAll ctx snap released = pure r) :
    (∀ n n' s s', s ∈ (snap.agentView n).desiredSessions →
      s' ∈ (snap.agentView n').desiredSessions →
      (s.claim.uid = s'.claim.uid ∨ s.device = s'.device ∨
        s.claim.ns = s'.claim.ns ∧ s.vmName = s'.vmName ∧ s.slot = s'.slot) →
      n = n' ∧ s = s') ∧
    ∀ c ∈ snap.claims, ∀ d ∈ snap.devices.entries, ∀ uid, c.uid = some uid →
      d.leaseHolder = some uid → ∀ ns, c.ns = some ns → ∀ vmi n, snap.vmi? c.vmKey = some vmi →
      vmi.isRunning = true → vmi.clientPassthrough = true → vmi.node = some n →
      ∃ slot, 0 ≤ slot ∧ slot < 4 ∧ ⟨⟨ns, c.name, uid⟩, d.name, slot, vmi.uid, c.spec.vmName⟩ ∈
        (snap.agentView n).desiredSessions := by
  refine ⟨fun n n' s s' hs hs' hshared => ?_, ?_⟩
  · obtain ⟨c, hc, hkeeps⟩ := mem_desiredSessions.mp hs
    obtain ⟨c', hc', hkeeps'⟩ := mem_desiredSessions.mp hs'
    obtain rfl := same_claim h hc hc' hkeeps hkeeps' hshared
    exact hkeeps.eq hkeeps'
  · intro c hc d hd uid huid hhold ns hns vmi n hvmi hrunning hpass hnode
    obtain ⟨slot, hlow, hhigh, hkeeps⟩ :=
      keepsSession_of_holds h hc hd huid hhold hns hvmi hrunning hpass hnode
    exact ⟨slot, hlow, hhigh, mem_desiredSessions.mpr ⟨c, hc, hkeeps⟩⟩

/-- The agent of the desktop's node keeps a session for either webcam, and no other session on any
node is for the slot of the first or for the webcam of the second. -/
theorem quiet_sessions_fit_webcams : ∃ s s' : SessionSpec,
    s ∈ (settledWebcams.agentView "node-a").desiredSessions ∧
    s' ∈ (settledWebcams.agentView "node-a").desiredSessions ∧
    s.device = "cam-b" ∧ s'.device = "cam-a" ∧
    ∀ n, ∀ t ∈ (settledWebcams.agentView n).desiredSessions,
      (t.claim.ns = "lab" → t.vmName = "desktop" → t.slot = s.slot → n = "node-a" ∧ t = s) ∧
      (t.device = "cam-a" → n = "node-a" ∧ t = s') := by
  obtain ⟨r, hr⟩ := settledWebcams_quiet
  obtain ⟨hone, hall⟩ := quiet_sessions_fit hr
  obtain ⟨slot, -, -, hfirst⟩ := hall firstWebcam (by simp [settledWebcams])
    (webcam "cam-b" .available "first") (by simp [settledWebcams]) "uid-first" rfl rfl "lab" rfl
    desktopVmi "node-a" rfl rfl rfl rfl
  obtain ⟨slot', -, -, hsecond⟩ := hall secondWebcam (by simp [settledWebcams])
    (webcam "cam-a" .unplugged "second") (by simp [settledWebcams]) "uid-second" rfl rfl "lab" rfl
    desktopVmi "node-a" rfl rfl rfl rfl
  refine ⟨_, _, hfirst, hsecond, rfl, rfl, fun n t ht => ⟨fun hns hvm hslot => ?_,
    fun hdevice => ?_⟩⟩
  · exact hone n "node-a" t _ ht hfirst (Or.inr (Or.inr ⟨hns, hvm, hslot⟩))
  · exact hone n "node-a" t _ ht hsecond (Or.inr (Or.inl hdevice))

end AtomicUsb
