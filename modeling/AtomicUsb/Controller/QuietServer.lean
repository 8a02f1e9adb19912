import AtomicUsb.Controller.LeaseRule
import AtomicUsb.Controller.PassTrace
import AtomicUsb.Controller.SlotLaws

/-!
# A server only the controller writes to

`serve` is the API server when nothing else happens: it holds the objects a pass starts from and
applies the patches of the controller, each of them as a new version.  Against it the parts of a
pass succeed (`Succeeds`), and what they leave behind can be said exactly.

A pass changes little of what it looks at.  Of a claim it writes the owners and the reported part
of the status; `UsbDeviceClaim.frozen` is all the rest.  Once the devices are tidied it writes
leases only; `UsbDevice.unleased` is all the rest, and `holder` what is left.
-/

namespace AtomicUsb

/-! ## What a pass does not write -/

namespace UsbDeviceClaim

/-- Namespace and name. -/
def key (c : UsbDeviceClaim) : String × String := (c.namespaceOrDefault, c.name)

def frozen (c : UsbDeviceClaim) : UsbDeviceClaim :=
  { c with
    resourceVersion := 0
    ownerReferences := []
    status := some { connection := c.statusOrDefault.connection } }

/-- What only looks at the frozen part is the same for two versions of a claim. -/
lemma eq_of_frozen {α : Type} {c c' : UsbDeviceClaim} (h : c'.frozen = c.frozen)
    (g : UsbDeviceClaim → α) (hg : ∀ c, g c.frozen = g c) : g c' = g c := by
  rw [← hg, h, hg]

end UsbDeviceClaim

def UsbDevice.unleased (d : UsbDevice) : UsbDevice :=
  { d with
    resourceVersion := 0
    status := some { d.statusRef with attachedTo := none } }

/-- Two device maps that differ in leases only. -/
def SameDevices (m m' : DeviceMap) : Prop :=
  m'.entries.map (·.unleased) = m.entries.map (·.unleased)

namespace SameDevices

variable {m m' m'' : DeviceMap}

lemma refl (m : DeviceMap) : SameDevices m m := rfl

lemma trans (h : SameDevices m m') (h' : SameDevices m' m'') : SameDevices m m'' :=
  Eq.trans h' h

lemma names (h : SameDevices m m') :
    m'.entries.map (·.name) = m.entries.map (·.name) := by
  have := congrArg (List.map (·.name)) h
  rw [List.map_map, List.map_map] at this
  exact this

lemma get? (h : SameDevices m m') (n : String) :
    (m'.get? n).map (·.unleased) = (m.get? n).map (·.unleased) := by
  have := congrArg (List.find? fun d : UsbDevice => decide (d.name = n)) h
  rw [List.find?_map, List.find?_map] at this
  exact this

/-- What is asked of a device regardless of its lease has the same answer. -/
lemma any (h : SameDevices m m') (n : String) {p : UsbDevice → Bool}
    (hp : ∀ d, p d.unleased = p d) : (m'.get? n).any p = (m.get? n).any p := by
  have hany : ∀ o : Option UsbDevice, o.any p = (o.map (·.unleased)).any p := by
    intro o
    cases o with
    | none => rfl
    | some d => exact (hp d).symm
  rw [hany, h.get?, ← hany]

lemma available (h : SameDevices m m') (ctx : PassContext) (n : String) :
    available ctx m' n = available ctx m n := h.any n fun _ => rfl

lemma selected (h : SameDevices m m') (selector : DeviceSelector) (n : String) :
    (m'.get? n).any selector.matches = (m.get? n).any selector.matches := h.any n fun _ => rfl

end SameDevices

/-! ## Who holds what -/

/-- The claim that holds a device. -/
def holder (m : DeviceMap) (n : String) : Option String := (m.get? n).bind (·.leaseHolder)

section Holder

variable {m m' : DeviceMap} {uid n : String}

lemma heldBy_eq (uid : String) (m : DeviceMap) :
    heldBy uid m = (m.entries.map (·.name)).filter fun n => holder m n == some uid := by
  unfold heldBy
  rw [List.filter_map]
  congr 1
  refine List.filter_congr fun d hd => ?_
  show _ = (holder m d.name == some uid)
  rw [holder, SortedMap.get?_of_mem hd]
  rfl

lemma mem_heldBy : n ∈ heldBy uid m ↔ holder m n = some uid := by
  rw [heldBy_eq, List.mem_filter, beq_iff_eq]
  refine and_iff_right_of_imp fun h => ?_
  obtain ⟨d, hd, -⟩ := Option.bind_eq_some_iff.mp h
  rw [← SortedMap.key_of_get? hd]
  exact List.mem_map_of_mem (SortedMap.mem_of_get? hd)

lemma heldBy_congr (hsame : SameDevices m m')
    (h : ∀ n, holder m' n = some uid ↔ holder m n = some uid) : heldBy uid m' = heldBy uid m := by
  rw [heldBy_eq, heldBy_eq, hsame.names]
  refine List.filter_congr fun n _ => ?_
  rw [Bool.eq_iff_iff, beq_iff_eq, beq_iff_eq]
  exact h n

lemma heldBy_eq_toList {target : Option String} (h : ∀ n, holder m n = some uid ↔ target = some n) :
    heldBy uid m = target.toList := by
  cases target with
  | none =>
      rw [Option.toList_none, List.eq_nil_iff_forall_not_mem]
      intro n hn
      cases (h n).mp (mem_heldBy.mp hn)
  | some n =>
      have hmem : n ∈ heldBy uid m := mem_heldBy.mpr ((h n).mpr rfl)
      refine List.perm_singleton.mp ((List.perm_ext_iff_of_nodup ?_ (List.nodup_singleton n)).mpr
        fun n' => ?_)
      · exact (m.nodup.sublist (List.filter_sublist.map _))
      · rw [mem_heldBy, h, Option.some.injEq, List.mem_singleton, eq_comm]

end Holder

/-! ## The server -/

namespace Snapshot

def withDevices (s : Snapshot) (devices : DeviceMap) : Snapshot := { s with devices := devices }

def claim? (s : Snapshot) (key : String × String) : Option UsbDeviceClaim :=
  s.claims.find? fun c => c.key = key

/-- Change the claim with this key, but not what it is known by. -/
def update (s : Snapshot) (key : String × String) (f : UsbDeviceClaim → UsbDeviceClaim)
    (hf : ∀ c, (f c).key = c.key ∧ (f c).uid = c.uid) : Snapshot :=
  { s with
    claims := s.claims.map fun c => if c.key = key then f c else c
    claims_nodup := by
      have h : (s.claims.map fun c => if c.key = key then f c else c).map (·.key) =
          s.claims.map (·.key) := by
        rw [List.map_map]
        refine List.map_congr_left fun c _ => ?_
        by_cases hc : c.key = key <;> simp [hc, hf]
      show ((s.claims.map fun c => if c.key = key then f c else c).map (·.key)).Nodup
      rw [h]
      exact s.claims_nodup
    uids_nodup := by
      rw [List.filterMap_map]
      have h : ((·.uid) ∘ fun c => if c.key = key then f c else c) =
          fun c : UsbDeviceClaim => c.uid := by
        funext c
        by_cases hc : c.key = key <;> simp [hc, hf]
      rw [h]
      exact s.uids_nodup }

end Snapshot

/-- The device after a patch of its status. -/
def UsbDevice.patched (d : UsbDevice) (patch : DeviceStatusPatch) : UsbDevice :=
  .ofStored d.name ⟨d.resourceVersion + 1, patch.apply d.toDeviceBody⟩

/-- The claim with other owners. -/
def UsbDeviceClaim.owned (c : UsbDeviceClaim) (ownerReferences : List OwnerReference) :
    UsbDeviceClaim :=
  { c with resourceVersion := c.resourceVersion + 1, ownerReferences := ownerReferences }

/-- The claim after a patch of its status. -/
def UsbDeviceClaim.patched (c : UsbDeviceClaim) (patch : ClaimStatusPatch) : UsbDeviceClaim :=
  { c with
    resourceVersion := c.resourceVersion + 1
    status := some (patch.merge c.statusOrDefault) }

/-- A server that does what it is asked, except for objects that do not exist and versions that
are not current.  Agents and users are silent. -/
def serve : (c : ApiCall) → Snapshot → c.Answer × Snapshot
  | .patchDeviceStatus _ name resourceVersion patch, s =>
    match s.devices.get? name with
    | none => (.error .notFound, s)
    | some d =>
      if resourceVersion.all (· == d.resourceVersion) then
        (.ok (d.patched patch).stored, s.withDevices (s.devices.set (d.patched patch)))
      else (.error .conflict, s)
  | .patchOwnerReferences _ ns name resourceVersion ownerReferences, s =>
    match s.claim? (ns, name) with
    | none => (.error .notFound, s)
    | some c =>
      if resourceVersion = c.resourceVersion then
        (.ok (), s.update (ns, name) (·.owned ownerReferences) fun _ => ⟨rfl, rfl⟩)
      else (.error .conflict, s)
  | .patchClaimStatus _ ns name patch, s =>
    match s.claim? (ns, name) with
    | none => (.error .notFound, s)
    | some _ => (.ok (), s.update (ns, name) (·.patched patch) fun _ => ⟨rfl, rfl⟩)
  | .applyDevice .., s => (.ok (), s)
  | .unpause .., s => (.ok (), s)

/-- Against the quiet server the step succeeds, its copy of the devices is the server's, and the
result satisfies `P`. -/
def Succeeds {α : Type} (p : ApiProg (DeviceMap × Except ApiError α)) (s : Snapshot)
    (P : α → Snapshot → Prop) : Prop :=
  ∃ a s', p.exec serve s = ((s'.devices, .ok a), s') ∧ P a s'

namespace Succeeds

variable {α β : Type} {s : Snapshot} {P Q : α → Snapshot → Prop}

lemma pure {a : α} (h : P a s) : Succeeds (pure (s.devices, .ok a)) s P := ⟨a, s, rfl, h⟩

lemma mono {p : ApiProg (DeviceMap × Except ApiError α)} (h : Succeeds p s P)
    (hPQ : ∀ a s', P a s' → Q a s') : Succeeds p s Q := by
  obtain ⟨a, s', heq, ha⟩ := h
  exact ⟨a, s', heq, hPQ a s' ha⟩

lemma andThen {p : ApiProg (DeviceMap × Except ApiError α)}
    {f : DeviceMap → α → ApiProg (DeviceMap × Except ApiError β)} {R : β → Snapshot → Prop}
    (hp : Succeeds p s P) (hf : ∀ a s', P a s' → Succeeds (f s'.devices a) s' R) :
    Succeeds (p.andThen f) s R := by
  obtain ⟨a, s', heq, ha⟩ := hp
  obtain ⟨b, s'', heq', hb⟩ := hf a s' ha
  refine ⟨b, s'', ?_, hb⟩
  unfold ApiProg.andThen
  rw [Prog.exec_bind, heq]
  exact heq'

end Succeeds

/-! ## Writes to devices -/

section Devices

variable {s : Snapshot} {d : UsbDevice}

lemma updateDevice_serve {by_ : Writer} {patch : DeviceStatusPatch}
    (hd : s.devices.get? d.name = some d) :
    Succeeds (updateDevice by_ d patch s.devices) s fun requeue s' => requeue = false ∧
      s' = s.withDevices (s.devices.set (d.patched patch)) := by
  refine ⟨false, s.withDevices (s.devices.set (d.patched patch)), ?_, rfl, rfl⟩
  have hserve : serve (.patchDeviceStatus by_ d.name (some d.resourceVersion) patch) s =
      (.ok (d.patched patch).stored, s.withDevices (s.devices.set (d.patched patch))) := by
    simp [serve, hd]
  unfold updateDevice casPatchStatus
  simp only [Prog.perform_bind, Prog.call_bind, Prog.exec_call, hserve]
  rfl

lemma get?_patched {patch : DeviceStatusPatch} (hd : s.devices.get? d.name = some d) :
    (s.devices.set (d.patched patch)).get? d.name = some (d.patched patch) :=
  SortedMap.get?_set_self (b := d) (SortedMap.mem_of_get? hd) rfl

/-- Only devices were written, and of these only the ones with the given names. -/
def WritesDevices (names : List String) (s s' : Snapshot) : Prop :=
  ∃ m, s' = s.withDevices m ∧ m.entries.map (·.name) = s.devices.entries.map (·.name) ∧
    ∀ n, n ∉ names → m.get? n = s.devices.get? n

namespace WritesDevices

variable {names names' : List String} {s' s'' : Snapshot}

lemma refl (names : List String) (s : Snapshot) : WritesDevices names s s :=
  ⟨s.devices, rfl, rfl, fun _ _ => rfl⟩

lemma trans (h : WritesDevices names s s') (h' : WritesDevices names' s' s'') :
    WritesDevices (names ++ names') s s'' := by
  obtain ⟨m, rfl, hnames, hother⟩ := h
  obtain ⟨m', rfl, hnames', hother'⟩ := h'
  refine ⟨m', rfl, hnames'.trans hnames, fun n hn => ?_⟩
  rw [List.mem_append, not_or] at hn
  exact (hother' n hn.2).trans (hother n hn.1)

lemma patch (patch : DeviceStatusPatch) :
    WritesDevices [d.name] s (s.withDevices (s.devices.set (d.patched patch))) := by
  refine ⟨_, rfl, SortedMap.map_key_set _ _, fun n hn => SortedMap.get?_set_of_ne ?_⟩
  exact fun h => hn (List.mem_singleton.mpr h)

lemma get? (h : WritesDevices names s s') {n : String} (hn : n ∉ names) :
    s'.devices.get? n = s.devices.get? n := by
  obtain ⟨m, rfl, -, hother⟩ := h
  exact hother n hn

end WritesDevices

/-- A device the device loop has nothing to do with. -/
structure Tidy (ctx : PassContext) (live : List String) (d : UsbDevice) : Prop where
  not_silent : d.isSilent ctx = false
  holder_live : ∀ uid, d.leaseHolder = some uid → uid ∈ live

variable (ctx : PassContext) {live : List String} {name : String}

lemma markLost_serve : Succeeds (markLost ctx name s.devices) s fun _ s' =>
    WritesDevices [name] s s' ∧ ∀ d, s'.devices.get? name = some d → d.isSilent ctx = false := by
  unfold markLost
  split
  · rename_i hnone
    refine Succeeds.pure ⟨.refl _ s, fun d hd => ?_⟩
    rw [hnone] at hd
    cases hd
  · rename_i d hd
    obtain rfl : d.name = name := SortedMap.key_of_get? hd
    split_ifs with hsilent
    · refine (updateDevice_serve hd).mono ?_
      rintro _ _ ⟨-, rfl⟩
      refine ⟨.patch _, fun d' hd' => ?_⟩
      obtain rfl := Option.some.inj ((get?_patched hd).symm.trans hd')
      rfl
    · refine Succeeds.pure ⟨.refl _ s, fun d' hd' => ?_⟩
      rw [← Option.some.inj (hd.symm.trans hd')]
      simpa using hsilent

lemma releaseOrphan_serve (hsilent : ∀ d, s.devices.get? name = some d → d.isSilent ctx = false) :
    Succeeds (releaseOrphan live name s.devices) s fun _ s' =>
      WritesDevices [name] s s' ∧ ∀ d, s'.devices.get? name = some d → Tidy ctx live d := by
  unfold releaseOrphan
  split
  · rename_i hnone
    refine Succeeds.pure ⟨.refl _ s, fun d hd => ?_⟩
    rw [hnone] at hd
    cases hd
  · rename_i d hd
    obtain rfl : d.name = name := SortedMap.key_of_get? hd
    split
    · rename_i hfree
      refine Succeeds.pure ⟨.refl _ s, fun d' hd' => ⟨hsilent d' hd', fun uid huid => ?_⟩⟩
      rw [← Option.some.inj (hd.symm.trans hd'), UsbDevice.leaseHolder, hfree] at huid
      cases huid
    · rename_i lease hlease
      split_ifs with hlive
      · refine Succeeds.pure ⟨.refl _ s, fun d' hd' => ⟨hsilent d' hd', fun uid huid => ?_⟩⟩
        rw [← Option.some.inj (hd.symm.trans hd'), UsbDevice.leaseHolder, hlease] at huid
        cases huid
        exact hlive
      · refine (updateDevice_serve hd).mono ?_
        rintro _ _ ⟨-, rfl⟩
        refine ⟨.patch _, fun d' hd' => ?_⟩
        obtain rfl := Option.some.inj ((get?_patched hd).symm.trans hd')
        exact ⟨hsilent d hd, fun uid huid => by cases huid⟩

/-- The device loop tidies every device it comes by. -/
lemma devicePass_serve : ∀ {names : List String} {s : Snapshot}, names.Nodup →
    Succeeds (devicePass ctx live names s.devices) s fun _ s' =>
      WritesDevices names s s' ∧
        ∀ n ∈ names, ∀ d, s'.devices.get? n = some d → Tidy ctx live d
  | [], s, _ => Succeeds.pure ⟨.refl _ s, fun n hn => absurd hn List.not_mem_nil⟩
  | name :: names, s, hnd => by
      obtain ⟨hname, hnd⟩ := List.nodup_cons.mp hnd
      unfold devicePass
      refine (markLost_serve ctx).andThen ?_
      rintro _ s₁ ⟨hw₁, hsilent⟩
      refine (releaseOrphan_serve ctx hsilent).andThen ?_
      rintro _ s₂ ⟨hw₂, htidy⟩
      refine (devicePass_serve hnd).andThen ?_
      rintro _ s₃ ⟨hw₃, hrest⟩
      refine Succeeds.pure ⟨?_, ?_⟩
      · obtain ⟨m, rfl, hnames, hother⟩ := (hw₁.trans hw₂).trans hw₃
        exact ⟨m, rfl, hnames, fun n hn => hother n (by simp_all)⟩
      · intro n hn d hd
        rcases List.mem_cons.mp hn with rfl | hn
        · rw [hw₃.get? hname] at hd
          exact htidy d hd
        · exact hrest n hn d hd

/-- Tidy devices are left alone. -/
lemma devicePass_of_tidy {devices : DeviceMap} (h : ∀ d ∈ devices.entries, Tidy ctx live d) :
    ∀ names, devicePass ctx live names devices = pure (devices, .ok false)
  | [] => rfl
  | name :: names => by
      have hlost : markLost ctx name devices = pure (devices, .ok false) := by
        unfold markLost
        split
        · rfl
        · rename_i d hd
          rw [(h d (SortedMap.mem_of_get? hd)).not_silent]
          rfl
      have horphan : releaseOrphan live name devices = pure (devices, .ok false) := by
        unfold releaseOrphan
        split
        · rfl
        · rename_i d hd
          split
          · rfl
          · rename_i lease hlease
            have hlive : lease.claimUid ∈ live := by
              refine (h d (SortedMap.mem_of_get? hd)).holder_live _ ?_
              rw [UsbDevice.leaseHolder, hlease]
              rfl
            rw [if_pos hlive]
      unfold devicePass
      rw [hlost, ApiProg.pure_andThen, horphan, ApiProg.pure_andThen, devicePass_of_tidy h names,
        ApiProg.pure_andThen]
      rfl

end Devices

/-! ## Writes to leases -/

section Leases

variable {s : Snapshot} {d d' : UsbDevice} {m : DeviceMap} {n : String}

lemma unleased_patched (x : Member Attachment) :
    (d.patched { attachedTo := x }).unleased = d.unleased := rfl

lemma sameDevices_set (hd : m.get? d.name = some d) (h : d'.unleased = d.unleased) :
    SameDevices m (m.set d') := by
  have hname : d'.unleased.name = d.unleased.name := by rw [h]
  show (m.entries.map fun b => if b.name = d'.name then d' else b).map (·.unleased) = _
  rw [List.map_map]
  refine List.map_congr_left fun b hb => ?_
  by_cases hk : b.name = d'.name
  · rw [Function.comp_apply, if_pos hk, h,
      SortedMap.eq_of_key hb (SortedMap.mem_of_get? hd) (hk.trans hname)]
  · rw [Function.comp_apply, if_neg hk]

lemma holder_set (hd : m.get? d.name = some d) (hname : d'.name = d.name) :
    holder (m.set d') n = if n = d.name then d'.leaseHolder else holder m n := by
  unfold holder
  by_cases hn : n = d.name
  · subst hn
    rw [if_pos rfl, ← hname,
      SortedMap.get?_set_self (SortedMap.mem_of_get? hd) hname.symm]
    rfl
  · rw [if_neg hn, SortedMap.get?_set_of_ne]
    rwa [hname]

/-- Only leases were written, and they are now as `f` says. -/
def WritesLeases (s s' : Snapshot) (f : String → Option String) : Prop :=
  ∃ m, s' = s.withDevices m ∧ SameDevices s.devices m ∧ ∀ n, holder m n = f n

lemma updateDevice_lease {by_ : Writer} {x : Member Attachment}
    (hd : s.devices.get? d.name = some d) :
    Succeeds (updateDevice by_ d { attachedTo := x } s.devices) s fun requeue s' =>
      requeue = false ∧ WritesLeases s s' fun n =>
        if n = d.name then (x.merge d.attachedTo).map (·.claimUid) else holder s.devices n := by
  refine (updateDevice_serve hd).mono ?_
  rintro requeue _ ⟨hrequeue, rfl⟩
  exact ⟨hrequeue, _, rfl, sameDevices_set hd (unleased_patched x), fun n => holder_set hd rfl⟩

lemma releaseOthers_serve {uid : String} : ∀ {names : List String} {s : Snapshot},
    Succeeds (releaseOthers uid names s.devices) s fun _ s' =>
      WritesLeases s s' fun n => if n ∈ names then none else holder s.devices n
  | [], s => Succeeds.pure ⟨s.devices, rfl, .refl _, fun _ => (if_neg List.not_mem_nil).symm⟩
  | name :: names, s => by
      have hhead : Succeeds
          (match s.devices.get? name with
            | none => pure (s.devices, .ok false)
            | some d => updateDevice (.reconciling uid) d { attachedTo := .null } s.devices
            : ApiProg (DeviceMap × Except ApiError Bool)) s fun _ s' =>
          WritesLeases s s' fun n => if n = name then none else holder s.devices n := by
        split
        · rename_i hnone
          refine Succeeds.pure ⟨s.devices, rfl, .refl _, fun n => ?_⟩
          by_cases hn : n = name
          · refine Eq.trans ?_ (if_pos hn).symm
            rw [hn, holder, hnone]
            rfl
          · exact (if_neg hn).symm
        · rename_i d hd
          obtain rfl : d.name = name := SortedMap.key_of_get? hd
          exact (updateDevice_lease hd).mono fun _ _ h => h.2
      unfold releaseOthers
      refine hhead.andThen ?_
      rintro _ _ ⟨m, rfl, hsame, hholder⟩
      refine (@releaseOthers_serve uid names (s.withDevices m)).andThen ?_
      rintro _ _ ⟨m', rfl, hsame', hholder'⟩
      refine Succeeds.pure ⟨m', rfl, hsame.trans hsame', fun n => ?_⟩
      rw [hholder']
      show (if n ∈ names then none else holder m n) =
        if n ∈ name :: names then none else holder s.devices n
      rw [hholder]
      by_cases hn : n ∈ names
      · rw [if_pos hn, if_pos (List.mem_cons_of_mem _ hn)]
      · rw [if_neg hn]
        exact if_congr (by simp [hn]) rfl rfl

variable (ctx : PassContext)

/-- The device a claim ends up with when nobody interferes. -/
def chosen (claim : UsbDeviceClaim) (mayHold : Bool) (devices : DeviceMap) : Option String :=
  if !mayHold then none
  else
    let current := currentDevice ctx claim devices (heldBy claim.uidOrDefault devices)
    if current.any (available ctx devices) then current
    else
      match freeCandidate ctx claim devices current with
      | none => current
      | some candidate => some candidate.name

variable {claim : UsbDeviceClaim} {mayHold : Bool} {devices : DeviceMap}

lemma currentDevice_mem {held : List String}
    (h : currentDevice ctx claim devices held = some n) :
    n ∈ held ∧ (devices.get? n).any claim.spec.selector.matches = true := by
  have hn : n ∈ held.filter fun n => (devices.get? n).any claim.spec.selector.matches :=
    List.argmin_mem h
  exact List.mem_filter.mp hn

/-- A claim goes on with a device of its own or with a free one, and with one it selects. -/
lemma chosen_spec (h : chosen ctx claim mayHold devices = some n) :
    mayHold = true ∧ (devices.get? n).any claim.spec.selector.matches = true ∧
      (holder devices n = some claim.uidOrDefault ∨ holder devices n = none) := by
  have hcurrent : currentDevice ctx claim devices (heldBy claim.uidOrDefault devices) = some n →
      (devices.get? n).any claim.spec.selector.matches = true ∧
        (holder devices n = some claim.uidOrDefault ∨ holder devices n = none) := by
    intro hcur
    obtain ⟨hheld, hmatch⟩ := currentDevice_mem ctx hcur
    exact ⟨hmatch, Or.inl (mem_heldBy.mp hheld)⟩
  unfold chosen at h
  split at h
  · cases h
  rename_i hmay
  refine ⟨by simpa using hmay, ?_⟩
  dsimp only at h
  split at h
  · exact hcurrent h
  split at h
  · exact hcurrent h
  · rename_i candidate hcand
    obtain ⟨hmem, hfree, hmatch, -⟩ := freeCandidate_free ctx hcand
    obtain rfl := Option.some.inj h
    rw [holder, SortedMap.get?_of_mem hmem]
    refine ⟨hmatch, Or.inr ?_⟩
    rw [Option.bind_some, UsbDevice.leaseHolder, hfree]
    rfl

lemma leaseTarget_serve :
    Succeeds (leaseTarget ctx claim mayHold (heldBy claim.uidOrDefault s.devices) s.devices) s
      fun a s' => a.1 = chosen ctx claim mayHold s.devices ∧ WritesLeases s s' fun n =>
        if chosen ctx claim mayHold s.devices = some n then some claim.uidOrDefault
        else holder s.devices n := by
  -- going on with a device of its own changes nothing
  have hkeep : ∀ t : Option String, chosen ctx claim mayHold s.devices = t →
      (∀ n, t = some n → holder s.devices n = some claim.uidOrDefault) →
      Succeeds (pure (s.devices, .ok (t, false))) s fun a s' =>
        a.1 = chosen ctx claim mayHold s.devices ∧ WritesLeases s s' fun n =>
          if chosen ctx claim mayHold s.devices = some n then some claim.uidOrDefault
          else holder s.devices n := by
    intro t ht hown
    refine Succeeds.pure ⟨ht.symm, s.devices, rfl, .refl _, fun n => ?_⟩
    show _ = if _ then _ else _
    rw [ht]
    split_ifs with hn
    · exact hown n hn
    · rfl
  have hcurrent : ∀ n, currentDevice ctx claim s.devices (heldBy claim.uidOrDefault s.devices) =
      some n → holder s.devices n = some claim.uidOrDefault :=
    fun n hn => mem_heldBy.mp (currentDevice_mem ctx hn).1
  unfold leaseTarget
  split
  · rename_i hmay
    exact hkeep none (if_pos hmay) fun n hn => by cases hn
  rename_i hmay
  dsimp only
  split
  · rename_i havail
    refine hkeep _ ?_ hcurrent
    rw [chosen, if_neg hmay]
    exact if_pos havail
  rename_i havail
  split
  · rename_i hnone
    refine hkeep _ ?_ hcurrent
    rw [chosen, if_neg hmay]
    dsimp only
    rw [if_neg havail, hnone]
  · rename_i candidate hcand
    have hchosen : chosen ctx claim mayHold s.devices = some candidate.name := by
      rw [chosen, if_neg hmay]
      dsimp only
      rw [if_neg havail, hcand]
    obtain ⟨hmem, -, -, -⟩ := freeCandidate_free ctx hcand
    obtain ⟨_, s', heq, rfl, m, rfl, hsame, hholder⟩ := @updateDevice_lease s candidate
      (.reconciling claim.uidOrDefault) (.value (leaseFor ctx claim)) (SortedMap.get?_of_mem hmem)
    refine ⟨(some candidate.name, false), s.withDevices m, ?_, hchosen.symm, m, rfl, hsame, ?_⟩
    · rw [Prog.exec_bind, heq]
      rfl
    · intro n
      rw [hholder, hchosen]
      exact if_congr (by rw [Option.some.injEq, eq_comm]) rfl rfl

end Leases

/-! ## Writes to claims -/

/-- The claim `c` became `c'`, which differs in what the controller writes, and nothing else about
claims and VMs changed. -/
structure ClaimEdit (s : Snapshot) (c : UsbDeviceClaim) (s' : Snapshot) (c' : UsbDeviceClaim) :
    Prop where
  mem : c' ∈ s'.claims
  frozen : c'.frozen = c.frozen
  claims : s'.claims.map (·.frozen) = s.claims.map (·.frozen)
  others : ∀ x ∈ s.claims, x.key ≠ c.key → x ∈ s'.claims
  vms : s'.vms = s.vms
  vmis : s'.vmis = s.vmis

namespace ClaimEdit

variable {s s' s'' : Snapshot} {c c' c'' : UsbDeviceClaim}

lemma refl (hc : c ∈ s.claims) : ClaimEdit s c s c :=
  ⟨hc, rfl, rfl, fun _ hx _ => hx, rfl, rfl⟩

lemma key (h : ClaimEdit s c s' c') : c'.key = c.key :=
  UsbDeviceClaim.eq_of_frozen h.frozen (·.key) fun _ => rfl

lemma trans (h : ClaimEdit s c s' c') (h' : ClaimEdit s' c' s'' c'') : ClaimEdit s c s'' c'' where
  mem := h'.mem
  frozen := h'.frozen.trans h.frozen
  claims := h'.claims.trans h.claims
  others x hx hne := h'.others x (h.others x hx hne) (by rwa [h.key])
  vms := h'.vms.trans h.vms
  vmis := h'.vmis.trans h.vmis

lemma withDevices (h : ClaimEdit s c s' c') (m : DeviceMap) :
    ClaimEdit s c (s'.withDevices m) c' := ⟨h.1, h.2, h.3, h.4, h.5, h.6⟩

lemma update (hc : c ∈ s.claims) {f : UsbDeviceClaim → UsbDeviceClaim}
    {hf : ∀ c, (f c).key = c.key ∧ (f c).uid = c.uid} (hfrozen : (f c).frozen = c.frozen) :
    ClaimEdit s c (s.update c.key f hf) (f c) where
  mem := List.mem_map.mpr ⟨c, hc, if_pos rfl⟩
  frozen := hfrozen
  claims := by
    show (s.claims.map fun x => if x.key = c.key then f x else x).map (·.frozen) = _
    rw [List.map_map]
    refine List.map_congr_left fun x hx => ?_
    by_cases hk : x.key = c.key
    · rw [Function.comp_apply, if_pos hk, List.inj_on_of_nodup_map s.claims_nodup hx hc hk, hfrozen]
    · rw [Function.comp_apply, if_neg hk]
  others x hx hne := List.mem_map.mpr ⟨x, hx, if_neg hne⟩
  vms := rfl
  vmis := rfl

end ClaimEdit

section Claims

variable {s : Snapshot} {c c₁ : UsbDeviceClaim} {vm : Option VmInfo} {vmi : Option VmiInfo}

lemma Snapshot.claim?_of_mem (hc : c ∈ s.claims) : s.claim? c.key = some c :=
  List.find?_key_of_mem s.claims_nodup hc

/-- The owners of the claim are what they should be. -/
def UsbDeviceClaim.Bound (c : UsbDeviceClaim) (vm : Option VmInfo) (vmi : Option VmiInfo) : Prop :=
  c.spec.vmName = "" ∨ claimOwnerReferences c.ownerReferences c.spec.vmName (vmOwner vm vmi) = none

lemma bindOwner_of_bound {devices : DeviceMap} (h : c.Bound vm vmi) :
    bindOwner c vm vmi devices = pure (devices, .ok false) := by
  unfold bindOwner
  rcases h with h | h
  · rw [if_pos h]
  · rw [h]
    split <;> rfl

lemma bindOwner_serve (hc : c ∈ s.claims) :
    Succeeds (bindOwner c vm vmi s.devices) s fun _ s' => ∃ c', ClaimEdit s c s' c' ∧
      s'.devices = s.devices ∧ c'.status = c.status ∧ c'.Bound vm vmi := by
  by_cases hbound : c.Bound vm vmi
  · rw [bindOwner_of_bound hbound]
    exact Succeeds.pure ⟨c, .refl hc, rfl, rfl, hbound⟩
  · obtain ⟨hname, hasked⟩ := not_or.mp hbound
    obtain ⟨refs, hrefs⟩ := Option.ne_none_iff_exists'.mp hasked
    refine ⟨false, s.update c.key (·.owned refs) fun _ => ⟨rfl, rfl⟩, ?_, c.owned refs,
      .update hc rfl, rfl, rfl, Or.inr ?_⟩
    · have hserve : serve (.patchOwnerReferences (.reconciling c.uidOrDefault) c.namespaceOrDefault
          c.name c.resourceVersion refs) s =
          (.ok (), s.update c.key (·.owned refs) fun _ => ⟨rfl, rfl⟩) := by
        show (match s.claim? c.key with | none => _ | some _ => _) = _
        rw [Snapshot.claim?_of_mem hc]
        exact if_pos rfl
      unfold bindOwner
      rw [if_neg hname, hrefs]
      simp only [Prog.perform_bind, Prog.exec_call, hserve]
      rfl
    · have howner : ∀ o ∈ vmOwner vm vmi, o.IsVm := fun o ho => vmOwner_isVm ho
      have hidem := claimOwnerReferences_idem c.ownerReferences c.spec.vmName howner
      rwa [hrefs, Option.getD_some] at hidem

lemma report_merge_toPatch (r : ClaimReport) (b : Bool) (st : UsbDeviceClaimStatus) :
    ((r.toPatch b).merge st).report = r := by
  simp [ClaimReport.toPatch, ClaimStatusPatch.merge, UsbDeviceClaimStatus.report]

lemma writeReport_of_current {devices : DeviceMap} {desired : ClaimReport}
    (hreport : c.statusOrDefault.report = desired) (hhold : c.statusOrDefault.bootHold = none) :
    writeReport c desired devices = pure (devices, .ok ()) := by
  unfold writeReport
  rw [if_neg]
  simp [hreport, hhold, UsbDeviceClaim.staleBootHold]

/-- The report is written for the claim as the server has it, which may have new owners. -/
lemma writeReport_serve {desired : ClaimReport} (hc : c₁ ∈ s.claims)
    (hfrozen : c₁.frozen = c.frozen) (hstatus : c₁.status = c.status)
    (hspec : c.spec.holdBoot = none) :
    Succeeds (writeReport c desired s.devices) s fun _ s' => ∃ c', ClaimEdit s c₁ s' c' ∧
      s'.devices = s.devices ∧ c'.ownerReferences = c₁.ownerReferences ∧
      c'.statusOrDefault.report = desired ∧ c'.statusOrDefault.bootHold = none := by
  have hdefault : c₁.statusOrDefault = c.statusOrDefault := by
    rw [UsbDeviceClaim.statusOrDefault, hstatus]
    rfl
  by_cases hwrite : desired ≠ c.statusOrDefault.report ∨ c.staleBootHold = true
  · set patch := desired.toPatch c.staleBootHold with hpatch
    refine ⟨(), s.update c₁.key (·.patched patch) fun _ => ⟨rfl, rfl⟩, ?_, c₁.patched patch,
      .update hc rfl, rfl, rfl, report_merge_toPatch .., ?_⟩
    · have hkey : c.key = c₁.key :=
        (UsbDeviceClaim.eq_of_frozen hfrozen (·.key) fun _ => rfl).symm
      have hserve : serve (.patchClaimStatus (.reconciling c.uidOrDefault) c.namespaceOrDefault
          c.name patch) s = (.ok (), s.update c₁.key (·.patched patch) fun _ => ⟨rfl, rfl⟩) := by
        show (match s.claim? c.key with | none => _ | some _ => (_, s.update c.key _ _)) = _
        rw [hkey, Snapshot.claim?_of_mem hc]
      unfold writeReport
      rw [if_pos hwrite]
      simp only [Prog.perform_bind, Prog.exec_call, ← hpatch, hserve]
      rfl
    · show patch.mergeBootHold c₁.statusOrDefault.bootHold = none
      rw [hdefault, hpatch]
      cases hhold : c.statusOrDefault.bootHold with
      | none => simp [ClaimStatusPatch.mergeBootHold, ClaimReport.toPatch,
          UsbDeviceClaim.staleBootHold, hspec, hhold]
      | some b => simp [ClaimStatusPatch.mergeBootHold, ClaimReport.toPatch,
          UsbDeviceClaim.staleBootHold, hspec, hhold]
  · obtain ⟨hreport, hstale⟩ := not_or.mp hwrite
    have hreport := (not_not.mp hreport).symm
    have hhold : c.statusOrDefault.bootHold = none := by
      simpa [UsbDeviceClaim.staleBootHold, hspec] using hstale
    rw [writeReport_of_current hreport hhold]
    refine Succeeds.pure ⟨c₁, .refl hc, rfl, rfl, ?_, ?_⟩
    · rw [hdefault, hreport]
    · rw [hdefault, hhold]

end Claims

end AtomicUsb
