import AtomicUsb.Agent.Discovery
import AtomicUsb.Controller.Reconcile

/-!
# What passes and scans send

A pass works on copies of devices that may be outdated, and replaces a copy whenever a write of
its own is answered with the new object; a scan works on the copies of its cache.  Every patch
of a device that either of them sends has one of a few forms, and rests on what a copy shows that
the API server did hold at some time.  `PassAllowed` and `ScanAllowed` list the forms;
`reconcileAll_allowed` and `scanOnce_allowed` say that there are no others.

Both are judgements of the program logic.  The ghost state is the set of genuine copies; it only
grows, and an answered patch adds the object it was answered with.  A law about who writes what is
then a matter of checking the forms against it.
-/

namespace AtomicUsb

/-- Which versions of which devices the API server is known to have held. -/
abbrev Copies := String → Versioned DeviceBody → Prop

/-- The discipline of a party that is allowed certain calls, depending on the copies. -/
def copiesDiscipline (may : Copies → ApiCall → Prop) :
    Prog.Discipline ApiCall ApiCall.Answer Copies where
  may := may
  next H c x H' := (∀ n o, H n o → H' n o) ∧
    match c, x with
    | .patchDeviceStatus _ name _ _, .ok o => H' name o
    | _, _ => True

/-- Every copy in the map is genuine. -/
def Genuine (H : Copies) (devices : DeviceMap) : Prop :=
  ∀ d ∈ devices.entries, H d.name d.stored

variable {may : Copies → ApiCall → Prop} {live : List String} {H : Copies}

lemma genuine_single {name : String} {o : Versioned DeviceBody} (h : H name o)
    {devices : DeviceMap} (hdevices : devices.entries = [UsbDevice.ofStored name o]) :
    Genuine H devices := by
  intro d hd
  rw [hdevices, List.mem_singleton] at hd
  rw [hd]
  exact h

lemma Genuine.mono {H' : Copies} {devices : DeviceMap} (h : Genuine H devices)
    (hle : ∀ n o, H n o → H' n o) : Genuine H' devices :=
  fun d hd => hle _ _ (h d hd)

lemma Genuine.set {devices : DeviceMap} (h : Genuine H devices) {name : String}
    {o : Versioned DeviceBody} (ho : H name o) :
    Genuine H (devices.set (UsbDevice.ofStored name o)) := by
  intro d hd
  rcases SortedMap.mem_set.mp hd with ⟨hd, -⟩ | ⟨rfl, -⟩
  · exact h d hd
  · exact ho

/-- A judgement is not lost when more copies become known, if that forbids no call. -/
lemma copiesDiscipline_mono {α : Type} {p : ApiProg α} {H' : Copies} {Q : α → Prop}
    (hmay : ∀ (H H' : Copies) c, (∀ n o, H n o → H' n o) → may H c → may H' c)
    (hle : ∀ n o, H n o → H' n o) (h : p.Ensures (copiesDiscipline may) H fun a _ => Q a) :
    p.Ensures (copiesDiscipline may) H' fun a _ => Q a := by
  refine Prog.Ensures.of_le (R := fun H H' => ∀ n o, H n o → H' n o) (fun H H' c => hmay H H' c) ?_
    (fun _ _ _ _ h => h) hle h
  intro H H' c x H₁ hle hnext
  exact ⟨fun n o hn => hnext.1 n o (hle n o hn), hnext.2⟩

/-- Sequencing, as far as the copies are concerned. -/
lemma genuine_andThen {α β : Type} {p : ApiProg (DeviceMap × Except ApiError α)}
    {f : DeviceMap → α → ApiProg (DeviceMap × Except ApiError β)}
    (hp : p.Ensures (copiesDiscipline may) H fun r H' => Genuine H' r.1)
    (hf : ∀ devices a H', Genuine H' devices →
      (f devices a).Ensures (copiesDiscipline may) H' fun r H' => Genuine H' r.1) :
    (p.andThen f).Ensures (copiesDiscipline may) H fun r H' => Genuine H' r.1 :=
  ApiProg.ensures_andThen_keep (I := fun devices H' => Genuine H' devices) hp hf

/-! ## What a pass sends -/

/-- Not a patch of a device's status. -/
def ApiCall.isOther : ApiCall → Bool
  | .patchDeviceStatus .. => false
  | _ => true

/-- The patches of a pass for which the claims `live` are alive, and its other calls, are
allowed. -/
structure PassAllowed (ctx : PassContext) (live : List String)
    (may : Copies → ApiCall → Prop) : Prop where
  other : ∀ H c, c.isOther = true → may H c
  /-- A device without heartbeat is lost. -/
  lost : ∀ (H : Copies) (d : UsbDevice), H d.name d.stored → d.isSilent ctx = true →
    may H (.patchDeviceStatus .lostPass d.name (some d.resourceVersion) (lostPatch ctx d))
  /-- The lease of a claim that is not alive is released. -/
  orphan : ∀ (H : Copies) (d : UsbDevice) (lease : Attachment), H d.name d.stored →
    d.attachedTo = some lease → lease.claimUid ∉ live →
    may H (.patchDeviceStatus (.orphanPass live) d.name (some d.resourceVersion)
      { attachedTo := .null })
  /-- A live claim takes a free device. -/
  lease : ∀ (H : Copies) (d : UsbDevice) (claim : UsbDeviceClaim), H d.name d.stored →
    d.attachedTo = none → claim.uidOrDefault ∈ live →
    may H (.patchDeviceStatus (.reconciling claim.uidOrDefault) d.name (some d.resourceVersion)
      { attachedTo := .value (leaseFor ctx claim) })
  /-- A live claim gives up a device of its own. -/
  release : ∀ (H : Copies) (d : UsbDevice) (lease : Attachment), H d.name d.stored →
    d.attachedTo = some lease → lease.claimUid ∈ live →
    may H (.patchDeviceStatus (.reconciling lease.claimUid) d.name (some d.resourceVersion)
      { attachedTo := .null })

/-- One guarded patch: the copies stay genuine, and only the patched one is replaced. -/
lemma updateDevice_allowed {by_ : Writer} {d : UsbDevice} {patch : DeviceStatusPatch}
    {devices : DeviceMap} (hgen : Genuine H devices)
    (hmay : may H (.patchDeviceStatus by_ d.name (some d.resourceVersion) patch)) :
    (updateDevice by_ d patch devices).Ensures (copiesDiscipline may) H fun r H' =>
      Genuine H' r.1 ∧ (∀ n, n ≠ d.name → r.1.get? n = devices.get? n) ∧
        (r.2 = .ok true → r.1 = devices) := by
  refine ⟨hmay, fun x H' hnext => ?_⟩
  have hgen' : Genuine H' devices := hgen.mono hnext.1
  cases x with
  | ok o =>
      refine ⟨hgen'.set hnext.2, fun n hn => SortedMap.get?_set_of_ne hn, fun h => ?_⟩
      cases h
  | error e =>
      cases e with
      | other => exact ⟨hgen', fun _ _ => rfl, fun _ => rfl⟩
      | conflict => exact ⟨hgen', fun _ _ => rfl, fun _ => rfl⟩
      | notFound => exact ⟨hgen', fun _ _ => rfl, fun _ => rfl⟩

/-- The devices under these names are leased to the claim. -/
def HeldIn (uid : String) (names : List String) (devices : DeviceMap) : Prop :=
  ∀ n ∈ names, ∀ d, devices.get? n = some d → d.leaseHolder = some uid

lemma heldBy_heldIn (uid : String) (devices : DeviceMap) :
    HeldIn uid (heldBy uid devices) devices := by
  intro n hn d hd
  obtain ⟨d', hd', rfl⟩ := List.mem_map.mp hn
  rw [List.mem_filter, beq_iff_eq] at hd'
  rw [SortedMap.get?_of_mem hd'.1, Option.some.injEq] at hd
  rw [← hd]
  exact hd'.2

lemma heldBy_nodup (uid : String) (devices : DeviceMap) : (heldBy uid devices).Nodup :=
  List.Nodup.sublist (List.Sublist.map _ List.filter_sublist) devices.nodup

lemma freeCandidate_free (ctx : PassContext) {claim : UsbDeviceClaim} {devices : DeviceMap}
    {current : Option String} {d : UsbDevice}
    (h : freeCandidate ctx claim devices current = some d) :
    d ∈ devices.entries ∧ d.attachedTo = none ∧ claim.spec.selector.matches d = true ∧
      (d.isAvailable ctx.rt ctx.now ctx.lostAfter = true ∨ current = none) := by
  obtain ⟨hfirst, hbetter⟩ := Option.filter_eq_some_iff.mp h
  have hd := (head?_sortByKey hfirst).1
  simp only [List.mem_filter, Bool.and_eq_true, beq_iff_eq, UsbDevice.leaseHolder,
    Option.map_eq_none_iff] at hd
  exact ⟨hd.1, hd.2.1, hd.2.2, by simpa using hbetter⟩

section Pass

variable {ctx : PassContext} (h : PassAllowed ctx live may)

include h

lemma markLost_allowed {name : String} {devices : DeviceMap} (hgen : Genuine H devices) :
    (markLost ctx name devices).Ensures (copiesDiscipline may) H fun r H' => Genuine H' r.1 := by
  unfold markLost
  split
  · exact hgen
  · rename_i d hd
    split_ifs with hsilent
    · have hcopy := hgen d (SortedMap.mem_of_get? hd)
      exact (updateDevice_allowed hgen (h.lost H d hcopy hsilent)).mono fun _ _ h => h.1
    · exact hgen

lemma releaseOrphan_allowed {name : String} {devices : DeviceMap} (hgen : Genuine H devices) :
    (releaseOrphan live name devices).Ensures (copiesDiscipline may) H fun r H' =>
      Genuine H' r.1 := by
  unfold releaseOrphan
  split
  · exact hgen
  · rename_i d hd
    split
    · exact hgen
    · rename_i lease hlease
      split_ifs with hlive
      · exact hgen
      · have hcopy := hgen d (SortedMap.mem_of_get? hd)
        exact (updateDevice_allowed hgen (h.orphan H d lease hcopy hlease hlive)).mono
          fun _ _ h => h.1

lemma devicePass_allowed : ∀ {names : List String} {devices : DeviceMap} {H : Copies},
    Genuine H devices → (devicePass ctx live names devices).Ensures
      (copiesDiscipline may) H fun r H' => Genuine H' r.1
  | [], _, _, hgen => hgen
  | name :: names, devices, H, hgen => by
      unfold devicePass
      refine genuine_andThen (markLost_allowed h hgen) fun devices _ H₁ hgen => ?_
      refine genuine_andThen (releaseOrphan_allowed h hgen) fun devices _ H₂ hgen => ?_
      exact genuine_andThen (devicePass_allowed hgen) fun devices _ H₃ hgen => hgen

lemma bindOwner_allowed {claim : UsbDeviceClaim} {vm : Option VmInfo} {vmi : Option VmiInfo}
    {devices : DeviceMap} (hgen : Genuine H devices) :
    (bindOwner claim vm vmi devices).Ensures (copiesDiscipline may) H fun r H' =>
      Genuine H' r.1 := by
  unfold bindOwner
  split_ifs
  · exact hgen
  · split
    · exact hgen
    · refine ⟨h.other H _ rfl, fun x H' hnext => ?_⟩
      have hgen' : Genuine H' devices := hgen.mono hnext.1
      cases x with
      | ok _ => exact hgen'
      | error e => cases e <;> exact hgen'

omit h

/-- Leasing a device leaves those the claim holds, and is about to give up, as they are. -/
lemma leaseTarget_allowed (h : PassAllowed ctx live may) {claim : UsbDeviceClaim}
    (hlive : claim.uidOrDefault ∈ live) {mayHold : Bool} {held : List String}
    {devices : DeviceMap} (hgen : Genuine H devices)
    (hheld : HeldIn claim.uidOrDefault held devices) :
    (leaseTarget ctx claim mayHold held devices).Ensures (copiesDiscipline may) H
      fun r H' => Genuine H' r.1 ∧ HeldIn claim.uidOrDefault
        (held.filter fun n => match r.2 with | .ok a => some n ≠ a.1 | .error _ => false) r.1 := by
  have hsub : ∀ p : String → Bool, HeldIn claim.uidOrDefault (held.filter p) devices :=
    fun p n hn => hheld n (List.mem_of_mem_filter hn)
  unfold leaseTarget
  split
  · exact ⟨hgen, hsub _⟩
  dsimp only
  split
  · exact ⟨hgen, hsub _⟩
  · split
    · exact ⟨hgen, hsub _⟩
    · rename_i candidate hcand
      obtain ⟨hmem, hfree, -⟩ := freeCandidate_free ctx hcand
      rw [Prog.ensures_bind]
      refine (updateDevice_allowed hgen (h.lease H _ _ (hgen _ hmem) hfree hlive)).mono ?_
      rintro ⟨devices', e | b⟩ H' ⟨hgen', hother, hlost⟩
      · exact ⟨hgen', by simp [HeldIn]⟩
      · cases b with
        | false =>
            refine ⟨hgen', fun n hn d hd => ?_⟩
            rw [List.mem_filter] at hn
            have hne : n ≠ candidate.name := by simpa using hn.2
            rw [hother n hne] at hd
            exact hheld n hn.1 d hd
        | true =>
            have hsame : devices' = devices := hlost rfl
            subst hsame
            exact ⟨hgen', hsub _⟩

include h

lemma releaseOthers_allowed {uid : String} (hlive : uid ∈ live) :
    ∀ {names : List String} {devices : DeviceMap} {H : Copies}, names.Nodup → Genuine H devices →
      HeldIn uid names devices →
      (releaseOthers uid names devices).Ensures (copiesDiscipline may) H fun r H' =>
        Genuine H' r.1
  | [], _, _, _, hgen, _ => hgen
  | name :: names, devices, H, hnd, hgen, hheld => by
      obtain ⟨hname, hnd⟩ := List.nodup_cons.mp hnd
      have htail : HeldIn uid names devices := fun n hn => hheld n (List.mem_cons_of_mem _ hn)
      unfold releaseOthers
      refine ApiProg.ensures_andThen
        (P := fun devices _ H' => Genuine H' devices ∧ HeldIn uid names devices) ?_ ?_
      · split
        · exact ⟨hgen, htail⟩
        · rename_i d hd
          have hdname : d.name = name := SortedMap.key_of_get? hd
          have hlease := hheld name List.mem_cons_self d hd
          obtain ⟨lease, hatt, rfl⟩ := Option.map_eq_some_iff.mp hlease
          have hcopy := hgen d (SortedMap.mem_of_get? hd)
          refine (updateDevice_allowed hgen (h.release H d lease hcopy hatt hlive)).mono ?_
          rintro ⟨devices', e | b⟩ H' ⟨hgen', hother, -⟩
          · exact hgen'
          · refine ⟨hgen', fun n hn d' hd' => ?_⟩
            rw [hother n (by rw [hdname]; exact fun h => hname (h ▸ hn))] at hd'
            exact htail n hn d' hd'
      · rintro devices _ H₁ ⟨hgen, hheld⟩
        exact genuine_andThen (releaseOthers_allowed hlive hnd hgen hheld)
          fun devices _ H₂ hgen => hgen

lemma writeReport_allowed {claim : UsbDeviceClaim} {desired : ClaimReport} {devices : DeviceMap}
    (hgen : Genuine H devices) :
    (writeReport claim desired devices).Ensures (copiesDiscipline may) H fun r H' =>
      Genuine H' r.1 := by
  unfold writeReport
  split_ifs
  · refine ⟨h.other H _ rfl, fun x H' hnext => ?_⟩
    have hgen' : Genuine H' devices := hgen.mono hnext.1
    cases x with
    | ok _ => exact hgen'
    | error e => cases e <;> exact hgen'
  · exact hgen

lemma reconcileClaim_allowed {snap : Snapshot} {slots : SlotResult} {claim : UsbDeviceClaim}
    (hlive : claim.uidOrDefault ∈ live) {devices : DeviceMap} (hgen : Genuine H devices) :
    (reconcileClaim ctx snap slots claim devices).Ensures (copiesDiscipline may) H
      fun r H' => Genuine H' r.1 := by
  unfold reconcileClaim
  refine genuine_andThen (bindOwner_allowed h hgen) fun devices _ H₁ hgen => ?_
  refine ApiProg.ensures_andThen (P := fun devices' target H' => Genuine H' devices' ∧
      HeldIn claim.uidOrDefault
        ((heldBy claim.uidOrDefault devices).filter fun n => some n ≠ target.1) devices')
    ((leaseTarget_allowed h hlive hgen (heldBy_heldIn _ devices)).mono ?_) ?_
  · rintro ⟨devices', e | target⟩ H' h
    · exact h.1
    · exact h
  rintro devices' ⟨target, requeue⟩ H₂ ⟨hgen, hheld⟩
  refine genuine_andThen (releaseOthers_allowed h hlive
    ((heldBy_nodup _ devices).filter _) hgen hheld) fun devices _ H₃ hgen => ?_
  exact genuine_andThen (writeReport_allowed h hgen) fun devices _ H₄ hgen => hgen

lemma claimPass_allowed {snap : Snapshot} {slots : SlotResult} :
    ∀ {claims : List UsbDeviceClaim} {devices : DeviceMap} {H : Copies},
      (∀ claim ∈ claims, claim.uidOrDefault ∈ live) → Genuine H devices →
      (claimPass ctx snap slots claims devices).Ensures (copiesDiscipline may) H
        fun _ _ => True
  | [], _, _, _, _ => trivial
  | claim :: claims, devices, H, hlive, hgen => by
      unfold claimPass
      rw [Prog.ensures_bind]
      refine (reconcileClaim_allowed h (hlive claim List.mem_cons_self) hgen).mono ?_
      rintro ⟨devices, outcome⟩ H₁ hgen
      exact Prog.ensures_bind_of_forall
        (claimPass_allowed (fun c hc => hlive c (List.mem_cons_of_mem _ hc)) hgen)
        fun _ _ => trivial

/-- A patch of a claim, whatever the answer is turned into. -/
lemma writeBootHold_allowed {ns name : String} {bootHold : Member BootHoldPatch} :
    (writeBootHold ns name bootHold).Ensures (copiesDiscipline may) H fun _ _ => True := by
  refine ⟨h.other H _ rfl, fun x H' _ => ?_⟩
  cases x with
  | ok _ => trivial
  | error e => cases e <;> trivial

lemma writeBootHolds_allowed {ns message : String} {state : BootHoldState}
    {vmiUid : Option String} : ∀ {claims : List BootHoldClaim} {H : Copies},
      (writeBootHolds ctx ns state vmiUid message claims).Ensures (copiesDiscipline may) H
        fun _ _ => True
  | [], _ => trivial
  | claim :: claims, H => by
      refine Prog.ensures_bind_of_forall ?_ fun _ _ =>
        Prog.ensures_bind_of_forall writeBootHolds_allowed fun _ _ => trivial
      unfold updateBootHold
      dsimp only
      split
      · trivial
      · exact writeBootHold_allowed h

lemma clearStaleBootHolds_allowed {ns : String} {vmiUid : Option String} :
    ∀ {claims : List BootHoldClaim} {H : Copies},
      (clearStaleBootHolds ns vmiUid claims).Ensures (copiesDiscipline may) H fun _ _ => True
  | [], _ => trivial
  | claim :: claims, H => by
      refine Prog.ensures_bind_of_forall ?_ fun _ _ =>
        Prog.ensures_bind_of_forall clearStaleBootHolds_allowed fun _ _ => trivial
      unfold clearStaleBootHold
      split
      · exact writeBootHold_allowed h
      · trivial

lemma reconcileBootHold_allowed {key : String × String} {claims : List BootHoldClaim}
    {vm : Option VmInfo} {vmi : Option VmiInfo} {released : Released} :
    (reconcileBootHold ctx key claims vm vmi released).Ensures (copiesDiscipline may) H
      fun _ _ => True := by
  unfold reconcileBootHold
  dsimp only
  split
  · exact Prog.ensures_bind_of_forall (writeBootHolds_allowed h) fun _ _ => trivial
  · exact Prog.ensures_bind_of_forall (writeBootHolds_allowed h) fun _ _ => trivial
  · refine Prog.ensures_bind_of_forall ⟨h.other H _ rfl, fun _ _ _ => trivial⟩ fun answer H' => ?_
    cases answer with
    | error e => trivial
    | ok _ => exact Prog.ensures_bind_of_forall (writeBootHolds_allowed h) fun _ _ => trivial
  · split
    · exact Prog.ensures_bind_of_forall (writeBootHolds_allowed h) fun _ _ => trivial
    · exact Prog.ensures_bind_of_forall (clearStaleBootHolds_allowed h) fun _ _ => trivial

lemma bootHoldPass_allowed {snap : Snapshot}
    {outcomes : List (UsbDeviceClaim × Except ApiError ClaimOutcome)} :
    ∀ {keys : List (String × String)} {released : Released} {H : Copies},
      (bootHoldPass ctx snap outcomes keys released).Ensures (copiesDiscipline may) H
        fun _ _ => True
  | [], _, _ => trivial
  | _ :: _, _, _ =>
      Prog.ensures_bind_of_forall (reconcileBootHold_allowed h) fun _ _ =>
        Prog.ensures_bind_of_forall bootHoldPass_allowed fun _ _ => trivial

end Pass

/-- The claims a pass takes to be alive. -/
def Snapshot.liveUids (snap : Snapshot) : List String := snap.liveClaims.filterMap (·.uid)

lemma Snapshot.uid_mem_liveUids {snap : Snapshot} {claim : UsbDeviceClaim}
    (h : claim ∈ snap.liveClaims) : claim.uidOrDefault ∈ snap.liveUids := by
  have hmem : claim ∈ snap.claims.filter (·.isLive) := (List.mem_insertionSort _).mp h
  have hsome : claim.uid.isSome = true := by
    have hlive := (List.mem_filter.mp hmem).2
    simp only [UsbDeviceClaim.isLive, Bool.and_eq_true] at hlive
    exact hlive.2
  obtain ⟨uid, huid⟩ := Option.isSome_iff_exists.mp hsome
  refine List.mem_filterMap.mpr ⟨claim, h, ?_⟩
  rw [UsbDeviceClaim.uidOrDefault, huid, Option.getD_some]

/-- **All that a pass sends**, started from genuine copies, however old. -/
lemma reconcileAll_allowed {ctx : PassContext} {snap : Snapshot} {released : Released}
    (h : PassAllowed ctx snap.liveUids may) (hgen : Genuine H snap.devices) :
    (reconcileAll ctx snap released).Ensures (copiesDiscipline may) H fun _ _ => True := by
  unfold reconcileAll
  dsimp only
  rw [Prog.ensures_bind]
  refine (devicePass_allowed h hgen).mono ?_
  rintro ⟨devices, e | requeue⟩ H₁ hgen
  · trivial
  · dsimp only
    exact Prog.ensures_bind_of_forall
      (claimPass_allowed h (fun _ => Snapshot.uid_mem_liveUids) hgen) fun _ _ =>
        Prog.ensures_bind_of_forall (bootHoldPass_allowed h) fun _ _ => trivial

/-! ## What a scan sends -/

/-- The patches of a scan on `node`, and its other calls, are allowed.  `shown` is what is known
of the objects in its cache. -/
structure ScanAllowed (node : String) (shown : Copies → UsbDevice → Prop)
    (may : Copies → ApiCall → Prop) : Prop where
  other : ∀ H c, c.isOther = true → may H c
  /-- A heartbeat is not guarded by a version, but it leaves the lease out. -/
  heartbeat : ∀ H name (patch : DeviceStatusPatch), patch.phase = .value .available →
    patch.attachedTo = .absent → may H (.patchDeviceStatus (.agent node) name none patch)
  /-- A device that is available on this node according to the cache, and is not plugged in. -/
  unplugged : ∀ H obj, shown H obj → obj.statusRef.node = some node →
    obj.statusRef.phase = some .available → ∀ patch : DeviceStatusPatch,
    patch.phase = .value .unplugged → patch.attachedTo = .absent →
    may H (.patchDeviceStatus (.agent node) obj.name (some obj.resourceVersion) patch)

section Scan

variable (rt : Runtime) {cfg : AgentConfig} {input : ScanInput}
  {shown : Copies → UsbDevice → Prop} (h : ScanAllowed cfg.node shown may)

include h

lemma publish_allowed {name : String} {d : UsbDeviceInfo} {source : IdentitySource}
    {existing : Option UsbDevice} {now : ℤ} {instant : ℕ} {writes : StatusWrites} :
    (publish rt cfg name d source existing now instant writes).Ensures (copiesDiscipline may) H
      fun _ _ => True := by
  refine Prog.ensures_bind_of_forall ?_ fun applied H₁ => ?_
  · unfold publishSpec
    dsimp only
    split
    · trivial
    · exact ⟨h.other H _ rfl, fun _ _ _ => trivial⟩
  · cases applied with
    | error e => trivial
    | ok _ =>
        dsimp only
        unfold publishStatus
        split
        · trivial
        · refine ⟨h.heartbeat _ _ _ rfl rfl, fun x H' _ => ?_⟩
          cases x <;> trivial

lemma publishAll_allowed {view : LocalView} :
    ∀ {names : List String} {writes : StatusWrites} {H : Copies},
      (publishAll rt cfg input view names writes).Ensures (copiesDiscipline may) H
        fun _ _ => True
  | [], _, _ => trivial
  | name :: names, writes, H => by
      refine Prog.ensures_bind_of_forall ?_ fun _ _ => publishAll_allowed
      unfold publishLocal
      split
      · trivial
      · exact publish_allowed rt h

lemma unplugMissing_allowed {view : LocalView} {obj : UsbDevice} (hobj : shown H obj) :
    (unplugMissing rt cfg input view obj).Ensures (copiesDiscipline may) H fun _ _ => True := by
  unfold unplugMissing
  split
  · rename_i hmissing
    exact ⟨h.unplugged H obj hobj hmissing.1 hmissing.2.1 _ rfl rfl, fun _ _ _ => trivial⟩
  · trivial

variable (hshown : ∀ (H H' : Copies) obj, (∀ n o, H n o → H' n o) → shown H obj → shown H' obj)

include hshown

lemma markAllUnplugged_allowed {view : LocalView} :
    ∀ {objs : List UsbDevice} {H : Copies}, (∀ obj ∈ objs, shown H obj) →
      (markAllUnplugged rt cfg input view objs).Ensures (copiesDiscipline may) H fun _ _ => True
  | [], _, _ => trivial
  | obj :: objs, H, hobjs => by
      have htail : ∀ o ∈ objs, shown H o := fun o ho => hobjs o (List.mem_cons_of_mem _ ho)
      unfold markAllUnplugged
      rw [Prog.ensures_bind]
      refine ((unplugMissing_allowed rt h (hobjs obj List.mem_cons_self)).frame
        (I := fun H => ∀ o ∈ objs, shown H o) ?_ htail).mono ?_
      · exact fun H c x H' hnext hH o ho => hshown H H' o hnext.1 (hH o ho)
      · exact fun _ H' hH => markAllUnplugged_allowed hH.2

/-- **All that a scan sends.** -/
lemma scanOnce_allowed (sha256 : List UInt8 → List UInt8) (state : Discovery)
    (hobjects : ∀ obj ∈ input.objects, shown H obj) :
    (scanOnce rt cfg sha256 state input).Ensures (copiesDiscipline may) H fun _ _ => True := by
  unfold scanOnce
  dsimp only
  rw [Prog.ensures_bind]
  refine ((publishAll_allowed rt h).frame (I := fun H => ∀ o ∈ input.objects, shown H o) ?_
    hobjects).mono fun _ H' hH => ?_
  · exact fun H c x H' hnext hH o ho => hshown H H' o hnext.1 (hH o ho)
  · exact Prog.ensures_bind_of_forall (markAllUnplugged_allowed rt h hshown hH.2)
      fun _ _ => trivial

end Scan

end AtomicUsb
