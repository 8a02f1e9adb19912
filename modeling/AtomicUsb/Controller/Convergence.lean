import AtomicUsb.Controller.EarlyRelease
import AtomicUsb.Controller.QuietServer
import AtomicUsb.Foundation.Transition
import Mathlib.Algebra.GroupWithZero.Nat

/-!
# The controller comes to rest

Every write wakes the controller again, so a cycle of claims trading devices and slots would keep
it busy forever.  `controller_converges` excludes that: with nobody else writing, after finitely
many passes a pass writes nothing, and neither does any pass after it.

One pass settles every claim (`Settled`): its owners and status are what the pass would write, and
it holds exactly the device it reports.  A settled claim that writes again has found a free device
that is better than what it has, so its level — nothing, a device that is unavailable, an available
one — rises, and no other claim loses anything.  The sum of the levels is bounded by twice the
number of claims.
-/

namespace AtomicUsb

variable (ctx : PassContext)

/-! ## Settled claims -/

/-- The claim is valid and its VM is there. -/
def mayHold (snap : Snapshot) (slots : SlotResult) (c : UsbDeviceClaim) : Bool :=
  (invalidReason ctx c slots).isNone && vmPresent (snap.vm? c.vmKey) (snap.vmi? c.vmKey)

/-- The report of a claim bound to `target`, in the situation of a pass. -/
def dueReport (snap : Snapshot) (slots : SlotResult) (c : UsbDeviceClaim)
    (target : Option String) (devices : DeviceMap) : ClaimReport :=
  desiredReport ctx c (snap.vm? c.vmKey) (snap.vmi? c.vmKey) slots target devices

/-- A claim that a pass has nothing to write for, unless it finds a better device. -/
structure Settled (snap : Snapshot) (slots : SlotResult) (devices : DeviceMap)
    (c : UsbDeviceClaim) : Prop where
  holdBoot : c.spec.holdBoot = none
  bound : c.Bound (snap.vm? c.vmKey) (snap.vmi? c.vmKey)
  bootHold : c.statusOrDefault.bootHold = none
  report : c.statusOrDefault.report =
    dueReport ctx snap slots c c.statusOrDefault.deviceName devices
  held : heldBy c.uidOrDefault devices = c.statusOrDefault.deviceName.toList
  fits : ∀ n, c.statusOrDefault.deviceName = some n → mayHold ctx snap slots c = true ∧
    (devices.get? n).any c.spec.selector.matches = true

section Report

variable {ctx} {snap : Snapshot} {slots : SlotResult} {m m' : DeviceMap} {c c' : UsbDeviceClaim}
  {target : Option String}

/-- The phase of a claim bound to `device`, in the situation of a pass. -/
def phaseOn (ctx : PassContext) (snap : Snapshot) (slots : SlotResult) (c : UsbDeviceClaim)
    (device : Option UsbDevice) : ClaimPhase × String :=
  computePhase
    { invalid := invalidReason ctx c slots
      device := device
      deviceAvailable := device.any fun d => d.isAvailable ctx.rt ctx.now ctx.lostAfter
      vm := snap.vm? c.vmKey
      vmi := snap.vmi? c.vmKey
      vmPresent := vmPresent (snap.vm? c.vmKey) (snap.vmi? c.vmKey)
      claim := c
      slot := grantedSlot c slots }

lemma phaseOn_unleased (device : Option UsbDevice) :
    phaseOn ctx snap slots c (device.map (·.unleased)) = phaseOn ctx snap slots c device := by
  cases device <;> rfl

lemma phaseOn_frozen (device : Option UsbDevice) :
    phaseOn ctx snap slots c.frozen device = phaseOn ctx snap slots c device := by
  have hconn : c.frozen.status.bind (·.connection) = c.status.bind (·.connection) := by
    show c.statusOrDefault.connection = _
    unfold UsbDeviceClaim.statusOrDefault
    cases c.status <;> rfl
  unfold phaseOn computePhase
  dsimp only
  rw [hconn]
  rfl

/-- Reports do not depend on leases. -/
lemma dueReport_sameDevices (h : SameDevices m m') :
    dueReport ctx snap slots c target m' = dueReport ctx snap slots c target m := by
  have hdevice : (target.bind m'.get?).map (·.unleased) =
      (target.bind m.get?).map (·.unleased) := by
    cases target with
    | none => rfl
    | some n => exact h.get? n
  have hphase : phaseOn ctx snap slots c (target.bind m'.get?) =
      phaseOn ctx snap slots c (target.bind m.get?) := by
    rw [← phaseOn_unleased, hdevice, phaseOn_unleased]
  have hnode : ∀ device : Option UsbDevice, device.bind (·.statusRef.node) =
      (device.map (·.unleased)).bind (·.statusRef.node) := by
    intro device
    cases device <;> rfl
  have hsource : (target.bind m'.get?).bind (·.statusRef.node) =
      (target.bind m.get?).bind (·.statusRef.node) := by
    rw [hnode, hdevice, ← hnode]
  unfold dueReport desiredReport
  simp only [hsource]
  exact congrArg (fun p : ClaimPhase × String => ClaimReport.mk (some p.1) target _ _ (some p.2) _)
    hphase

/-- Nor do they depend on what the controller reported before. -/
lemma dueReport_frozen (h : c'.frozen = c.frozen) :
    dueReport ctx snap slots c' target m = dueReport ctx snap slots c target m :=
  UsbDeviceClaim.eq_of_frozen h (fun c => dueReport ctx snap slots c target m) fun _ =>
    congrArg (fun p : ClaimPhase × String => ClaimReport.mk (some p.1) target _ _ (some p.2) _)
      (phaseOn_frozen (target.bind m.get?))

end Report

section Turn

variable {ctx} {snap : Snapshot} {slots : SlotResult} {m m' : DeviceMap} {c : UsbDeviceClaim}
  {s : Snapshot}

/-- What other claims do to their devices leaves a settled claim settled. -/
lemma Settled.frame (h : Settled ctx snap slots m c) (hsame : SameDevices m m')
    (hheld : heldBy c.uidOrDefault m' = heldBy c.uidOrDefault m) :
    Settled ctx snap slots m' c where
  holdBoot := h.holdBoot
  bound := h.bound
  bootHold := h.bootHold
  report := by rw [dueReport_sameDevices hsame, h.report]
  held := hheld.trans h.held
  fits n hn := by
    rw [hsame.selected]
    exact h.fits n hn

/-- Taking `target` and giving up the rest, seen by the claim and by the others. -/
lemma heldBy_rebound {uid : String} {target : Option String} (hsame : SameDevices m m')
    (htarget : ∀ n, target = some n → holder m n = some uid ∨ holder m n = none)
    (hholder : ∀ n, holder m' n = if n ∈ (heldBy uid m).filter (fun n => some n ≠ target) then none
      else if target = some n then some uid else holder m n) :
    heldBy uid m' = target.toList ∧ ∀ u, u ≠ uid → heldBy u m' = heldBy u m := by
  have hcases : ∀ n, (target = some n ∧ holder m' n = some uid) ∨
      (target ≠ some n ∧ holder m n = some uid ∧ holder m' n = none) ∨
      (target ≠ some n ∧ holder m n ≠ some uid ∧ holder m' n = holder m n) := by
    intro n
    have hmem : n ∈ (heldBy uid m).filter (fun n => some n ≠ target) ↔
        holder m n = some uid ∧ some n ≠ target := by
      rw [List.mem_filter, mem_heldBy, decide_eq_true_eq]
    rw [hholder n]
    by_cases htarget : target = some n
    · left
      rw [if_neg fun h => (hmem.mp h).2 htarget.symm, if_pos htarget]
      exact ⟨htarget, rfl⟩
    · right
      by_cases hn : holder m n = some uid
      · rw [if_pos (hmem.mpr ⟨hn, Ne.symm htarget⟩)]
        exact Or.inl ⟨htarget, hn, rfl⟩
      · rw [if_neg fun h => hn (hmem.mp h).1, if_neg htarget]
        exact Or.inr ⟨htarget, hn, rfl⟩
  refine ⟨heldBy_eq_toList fun n => ?_, fun u hu => heldBy_congr hsame fun n => ?_⟩
  · rcases hcases n with ⟨ht, hn⟩ | ⟨ht, -, hn⟩ | ⟨ht, hne, hn⟩ <;> rw [hn]
    · simp [ht]
    · simp [ht]
    · exact iff_of_false hne ht
  · rcases hcases n with ⟨ht, hn⟩ | ⟨-, hown, hn⟩ | ⟨-, -, hn⟩ <;> rw [hn]
    · rcases htarget n ht with hold | hold <;> simp [hold, hu.symm]
    · simp [hown, hu.symm]

/-- **A claim's turn.**  It ends settled, with the device it chose, and takes nothing away from
others. -/
lemma reconcileClaim_serve (hc : c ∈ s.claims) (hspec : c.spec.holdBoot = none) :
    Succeeds (reconcileClaim ctx snap slots c s.devices) s fun o s' => o.hold = none ∧
      ∃ c', ClaimEdit s c s' c' ∧ SameDevices s.devices s'.devices ∧
        Settled ctx snap slots s'.devices c' ∧
        heldBy c.uidOrDefault s'.devices =
          (chosen ctx c (mayHold ctx snap slots c) s.devices).toList ∧
        ∀ u, u ≠ c.uidOrDefault → heldBy u s'.devices = heldBy u s.devices := by
  unfold reconcileClaim
  dsimp only
  refine (bindOwner_serve hc).andThen ?_
  rintro _ s₁ ⟨c₁, hedit₁, hdevices, hstatus, hbound⟩
  refine (leaseTarget_serve ctx).andThen ?_
  rintro ⟨target, _⟩ _ ⟨htarget, m₁, rfl, hsame₁, hholder₁⟩
  dsimp only at htarget ⊢
  refine releaseOthers_serve.andThen ?_
  rintro _ _ ⟨m₂, rfl, hsame₂, hholder₂⟩
  have hedit₂ : ClaimEdit s c ((s₁.withDevices m₁).withDevices m₂) c₁ := hedit₁.withDevices m₂
  refine (writeReport_serve hedit₂.mem hedit₂.frozen hstatus hspec).andThen ?_
  rintro _ s₃ ⟨c₂, hedit₃, hdevices₃, howners, hreport, hbootHold⟩
  have hedit := hedit₂.trans hedit₃
  change s₃.devices = m₂ at hdevices₃
  rw [hdevices] at htarget hsame₁ hholder₁ hholder₂
  have hsame : SameDevices s.devices m₂ := hsame₁.trans hsame₂
  obtain ⟨hown, hothers⟩ := heldBy_rebound hsame
    (fun n hn => (chosen_spec ctx (htarget.symm.trans hn)).2.2) fun n => by
      rw [hholder₂]
      show (if _ then none else holder m₁ n) = _
      rw [hholder₁, htarget]
  have hname : c₂.statusOrDefault.deviceName = target := congrArg ClaimReport.deviceName hreport
  have hvm : c₂.vmKey = c.vmKey := UsbDeviceClaim.eq_of_frozen hedit.frozen (·.vmKey) fun _ => rfl
  have hfit : mayHold ctx snap slots c₂ = mayHold ctx snap slots c :=
    UsbDeviceClaim.eq_of_frozen hedit.frozen (mayHold ctx snap slots) fun _ => rfl
  have huid : c₂.uidOrDefault = c.uidOrDefault :=
    UsbDeviceClaim.eq_of_frozen hedit.frozen (·.uidOrDefault) fun _ => rfl
  have hspec₂ : c₂.spec = c.spec :=
    UsbDeviceClaim.eq_of_frozen hedit.frozen (·.spec) fun _ => rfl
  have hspec₁ : c₁.spec = c.spec :=
    UsbDeviceClaim.eq_of_frozen hedit₁.frozen (·.spec) fun _ => rfl
  refine Succeeds.pure ⟨?_, c₂, hedit, ?_, ?_, ?_, ?_⟩
  · rw [holdOf, hspec]
    rfl
  · rw [hdevices₃]
    exact hsame
  · rw [hdevices₃]
    refine ⟨by rw [hspec₂, hspec], ?_, hbootHold, ?_, ?_, fun n hn => ?_⟩
    · rw [UsbDeviceClaim.Bound, hvm, howners, hspec₂, ← hspec₁]
      exact hbound
    · rw [hname, dueReport_frozen hedit.frozen]
      exact hreport
    · rw [hname, huid]
      exact hown
    · rw [hname, htarget] at hn
      obtain ⟨hmay, hmatch, -⟩ := chosen_spec ctx hn
      rw [hfit, hspec₂, hsame.selected]
      exact ⟨hmay, hmatch⟩
  · rw [hdevices₃, hown, htarget]
    rfl
  · rw [hdevices₃]
    exact hothers

end Turn

/-! ## Levels -/

/-- What the devices of a claim are worth: nothing, a device that is unavailable, an available
one. -/
def level (devices : DeviceMap) (held : List String) : ℕ :=
  if held.any (available ctx devices) then 2 else if held = [] then 0 else 1

section Level

variable {ctx} {snap : Snapshot} {slots : SlotResult} {m m' : DeviceMap} {c : UsbDeviceClaim}

lemma level_le_two (m : DeviceMap) (held : List String) : level ctx m held ≤ 2 := by
  unfold level
  split_ifs <;> omega

lemma level_sameDevices (h : SameDevices m m') (held : List String) :
    level ctx m' held = level ctx m held := by
  have havail : available ctx m' = available ctx m := funext (h.available ctx)
  rw [level, havail]
  rfl

/-- A settled claim goes on with the device it has. -/
lemma Settled.currentDevice (h : Settled ctx snap slots m c) :
    currentDevice ctx c m (heldBy c.uidOrDefault m) = c.statusOrDefault.deviceName := by
  unfold AtomicUsb.currentDevice
  rw [h.held]
  cases hname : c.statusOrDefault.deviceName with
  | none => rfl
  | some n =>
      have hfilter : [n].filter (fun n => (m.get? n).any c.spec.selector.matches) = [n] :=
        List.filter_cons_of_pos (h.fits n hname).2
      rw [Option.toList_some, hfilter]
      exact List.argmin_singleton

/-- When a settled claim takes no device, its turn writes nothing. -/
lemma Settled.quiet (h : Settled ctx snap slots m c)
    (hlease : leaseTarget ctx c (mayHold ctx snap slots c) (heldBy c.uidOrDefault m) m =
      pure (m, .ok (c.statusOrDefault.deviceName, false))) :
    reconcileClaim ctx snap slots c m = pure (m, .ok ⟨false, none⟩) := by
  have hothers : (heldBy c.uidOrDefault m).filter
      (fun n => some n ≠ c.statusOrDefault.deviceName) = [] := by
    rw [h.held]
    cases c.statusOrDefault.deviceName with
    | none => rfl
    | some n => simp
  have hreport := h.report
  unfold dueReport at hreport
  unfold mayHold at hlease
  unfold reconcileClaim
  dsimp only
  rw [bindOwner_of_bound h.bound, ApiProg.pure_andThen, hlease, ApiProg.pure_andThen]
  dsimp only
  rw [hothers, releaseOthers, ApiProg.pure_andThen,
    writeReport_of_current hreport h.bootHold, ApiProg.pure_andThen, holdOf, h.holdBoot]
  rfl

/-- **A settled claim only moves up.**  Its turn writes nothing, or it takes a device that is
better than what it has. -/
lemma Settled.turn (h : Settled ctx snap slots m c) :
    reconcileClaim ctx snap slots c m = pure (m, .ok ⟨false, none⟩) ∨
      level ctx m (heldBy c.uidOrDefault m) <
        level ctx m (chosen ctx c (mayHold ctx snap slots c) m).toList := by
  by_cases hmay : mayHold ctx snap slots c = true
  · by_cases havail : (c.statusOrDefault.deviceName.any (available ctx m)) = true
    · left
      refine h.quiet ?_
      unfold leaseTarget
      rw [hmay, h.currentDevice]
      exact if_pos havail
    · cases hcand : freeCandidate ctx c m c.statusOrDefault.deviceName with
      | none =>
          left
          refine h.quiet ?_
          unfold leaseTarget
          rw [hmay, h.currentDevice]
          dsimp only
          rw [if_neg havail, hcand]
          rfl
      | some candidate =>
          right
          obtain ⟨hmem, -, -, hbetter⟩ := freeCandidate_free ctx hcand
          have hchosen : chosen ctx c (mayHold ctx snap slots c) m = some candidate.name := by
            unfold chosen
            rw [hmay, h.currentDevice]
            dsimp only
            rw [if_neg havail, hcand]
            rfl
          rw [hchosen, h.held]
          cases hname : c.statusOrDefault.deviceName with
          | none =>
              show 0 < level ctx m [candidate.name]
              unfold level
              split_ifs <;> simp_all
          | some n =>
              have hn : available ctx m n = false := by simpa [hname] using havail
              have hcandidate : available ctx m candidate.name = true := by
                rw [available, SortedMap.get?_of_mem hmem]
                exact hbetter.resolve_right (by rw [hname]; exact Option.some_ne_none n)
              simp [level, hn, hcandidate]
  · left
    have hname : c.statusOrDefault.deviceName = none := by
      by_contra hne
      obtain ⟨n, hn⟩ := Option.ne_none_iff_exists'.mp hne
      exact hmay (h.fits n hn).1
    refine h.quiet ?_
    unfold leaseTarget
    rw [Bool.eq_false_iff.mpr hmay, hname]
    rfl

end Level

/-! ## The claim loop -/

/-- The same claims and VMs, up to what the controller writes. -/
structure SameWorld (s s' : Snapshot) : Prop where
  claims : s'.claims.map (·.frozen) = s.claims.map (·.frozen)
  vms : s'.vms = s.vms
  vmis : s'.vmis = s.vmis

lemma SameWorld.trans {s s' s'' : Snapshot} (h : SameWorld s s') (h' : SameWorld s' s'') :
    SameWorld s s'' :=
  ⟨h'.claims.trans h.claims, h'.vms.trans h.vms, h'.vmis.trans h.vmis⟩

/-- The sum of the levels of some claims. -/
def rank (devices : DeviceMap) (uids : List String) : ℕ :=
  (uids.map fun uid => level ctx devices (heldBy uid devices)).sum

/-- What the claim loop leaves behind. -/
structure LoopEnd (snap : Snapshot) (slots : SlotResult) (cs : List UsbDeviceClaim)
    (s s' : Snapshot) : Prop where
  world : SameWorld s s'
  devices : SameDevices s.devices s'.devices
  others : ∀ x ∈ s.claims, x.uidOrDefault ∉ cs.map (·.uidOrDefault) → x ∈ s'.claims
  settled : ∀ c ∈ cs, ∃ c' ∈ s'.claims, c'.frozen = c.frozen ∧ Settled ctx snap slots s'.devices c'
  held : ∀ uid, uid ∉ cs.map (·.uidOrDefault) → heldBy uid s'.devices = heldBy uid s.devices

section Loop

variable {ctx} {snap : Snapshot} {slots : SlotResult} {s s₁ s' : Snapshot} {c : UsbDeviceClaim}
  {cs : List UsbDeviceClaim}

lemma rank_congr {m m' : DeviceMap} {uids : List String} (hsame : SameDevices m m')
    (hheld : ∀ uid ∈ uids, heldBy uid m' = heldBy uid m) : rank ctx m' uids = rank ctx m uids := by
  unfold rank
  congr 1
  refine List.map_congr_left fun uid huid => ?_
  rw [hheld uid huid, level_sameDevices hsame]

lemma rank_le (m : DeviceMap) (uids : List String) : rank ctx m uids ≤ 2 * uids.length := by
  induction uids with
  | nil => exact le_rfl
  | cons uid uids ih =>
      have hlevel := @level_le_two ctx m (heldBy uid m)
      rw [rank, List.map_cons, List.sum_cons, List.length_cons]
      rw [rank] at ih
      omega

lemma claimPass_cons_exec {o : ClaimOutcome}
    {out : List (UsbDeviceClaim × Except ApiError ClaimOutcome)}
    (hturn : (reconcileClaim ctx snap slots c s.devices).exec serve s =
      ((s₁.devices, .ok o), s₁))
    (hrest : (claimPass ctx snap slots cs s₁.devices).exec serve s₁ = (out, s')) :
    (claimPass ctx snap slots (c :: cs) s.devices).exec serve s = ((c, .ok o) :: out, s') := by
  unfold claimPass
  rw [Prog.exec_bind, hturn]
  dsimp only
  rw [Prog.exec_bind, hrest]
  rfl

lemma collectedHolds_cons {o : ClaimOutcome} (h : o.hold = none)
    {out : List (UsbDeviceClaim × Except ApiError ClaimOutcome)} :
    collectedHolds ((c, .ok o) :: out) = collectedHolds out := by
  refine List.filterMap_cons_none ?_
  show o.hold.map _ = none
  rw [h]
  rfl

/-- The claim loop settles every claim it comes by. -/
lemma claimPass_serve : ∀ {cs : List UsbDeviceClaim} {s : Snapshot}, (∀ c ∈ cs, c ∈ s.claims) →
    (cs.map (·.uidOrDefault)).Nodup → (∀ c ∈ cs, c.spec.holdBoot = none) →
    ∃ out s', (claimPass ctx snap slots cs s.devices).exec serve s = (out, s') ∧
      collectedHolds out = [] ∧ LoopEnd ctx snap slots cs s s'
  | [], s, _, _, _ => ⟨[], s, rfl, rfl, ⟨rfl, rfl, rfl⟩, .refl _, fun _ hx _ => hx,
      fun _ hc => absurd hc List.not_mem_nil, fun _ _ => rfl⟩
  | c :: cs, s, hsub, hnd, hspec => by
      obtain ⟨hnot, hnd⟩ := List.nodup_cons.mp hnd
      have hc := hsub c List.mem_cons_self
      obtain ⟨o, s₁, hturn, hhold, c', hedit, hsame, hsettled, -, hheld⟩ :=
        @reconcileClaim_serve ctx snap slots c s hc (hspec c List.mem_cons_self)
      have huid : c'.uidOrDefault = c.uidOrDefault :=
        UsbDeviceClaim.eq_of_frozen hedit.frozen (·.uidOrDefault) fun _ => rfl
      have hothers : ∀ x ∈ s.claims, x.uidOrDefault ≠ c.uidOrDefault → x ∈ s₁.claims := by
        intro x hx hne
        refine hedit.others x hx fun hkey => hne ?_
        rw [List.inj_on_of_nodup_map s.claims_nodup hx hc hkey]
      have hsub₁ : ∀ x ∈ cs, x ∈ s₁.claims := fun x hx =>
        hothers x (hsub x (List.mem_cons_of_mem _ hx)) fun heq =>
          hnot (List.mem_map.mpr ⟨x, hx, heq⟩)
      obtain ⟨out, s', hrest, hout, hend⟩ := claimPass_serve hsub₁ hnd
        fun x hx => hspec x (List.mem_cons_of_mem _ hx)
      refine ⟨_, s', claimPass_cons_exec hturn hrest, ?_,
        SameWorld.trans ⟨hedit.claims, hedit.vms, hedit.vmis⟩ hend.world,
        hsame.trans hend.devices, fun x hx hxnot => ?_, fun x hx => ?_, fun uid huid => ?_⟩
      · rw [collectedHolds_cons hhold, hout]
      · rw [List.map_cons, List.mem_cons, not_or] at hxnot
        exact hend.others x (hothers x hx hxnot.1) hxnot.2
      · rcases List.mem_cons.mp hx with rfl | hx
        · refine ⟨c', hend.others c' hedit.mem (by rwa [huid]), hedit.frozen,
            hsettled.frame hend.devices (hend.held _ (by rwa [huid]))⟩
        · exact hend.settled x hx
      · rw [List.map_cons, List.mem_cons, not_or] at huid
        rw [hend.held uid huid.2, hheld uid huid.1]

/-- Among settled claims the loop writes nothing, or their levels rise. -/
lemma claimPass_rank : ∀ {cs : List UsbDeviceClaim} {s : Snapshot}, (∀ c ∈ cs, c ∈ s.claims) →
    (cs.map (·.uidOrDefault)).Nodup → (∀ c ∈ cs, Settled ctx snap slots s.devices c) →
    (∃ out, claimPass ctx snap slots cs s.devices = pure out ∧ collectedHolds out = []) ∨
      ∀ out s', (claimPass ctx snap slots cs s.devices).exec serve s = (out, s') →
        rank ctx s.devices (cs.map (·.uidOrDefault)) < rank ctx s'.devices (cs.map (·.uidOrDefault))
  | [], s, _, _, _ => Or.inl ⟨[], rfl, rfl⟩
  | c :: cs, s, hsub, hnd, hset => by
      obtain ⟨hnot, hnd⟩ := List.nodup_cons.mp hnd
      have hc := hsub c List.mem_cons_self
      have hspec : ∀ x ∈ cs, x.spec.holdBoot = none := fun x hx =>
        (hset x (List.mem_cons_of_mem _ hx)).holdBoot
      have hsub' : ∀ x ∈ cs, x ∈ s.claims := fun x hx => hsub x (List.mem_cons_of_mem _ hx)
      rcases (hset c List.mem_cons_self).turn with hquiet | hlt
      · -- nothing to write for this claim
        have hturn : (reconcileClaim ctx snap slots c s.devices).exec serve s =
            ((s.devices, .ok ⟨false, none⟩), s) := by
          rw [hquiet]
          rfl
        rcases claimPass_rank hsub' hnd fun x hx => hset x (List.mem_cons_of_mem _ hx) with
          ⟨out, hpure, hout⟩ | hrise
        · refine Or.inl ⟨(c, .ok ⟨false, none⟩) :: out, ?_, ?_⟩
          · unfold claimPass
            rw [hquiet, Prog.pure_bind']
            dsimp only
            rw [hpure]
            rfl
          · rw [collectedHolds_cons rfl, hout]
        · right
          intro out s' hexec
          obtain ⟨out', s'', hrest, -, hend⟩ := @claimPass_serve ctx snap slots cs s hsub' hnd hspec
          obtain ⟨-, rfl⟩ := Prod.mk.inj ((claimPass_cons_exec hturn hrest).symm.trans hexec)
          have hlevel : level ctx s''.devices (heldBy c.uidOrDefault s''.devices) =
              level ctx s.devices (heldBy c.uidOrDefault s.devices) := by
            rw [hend.held _ hnot, level_sameDevices hend.devices]
          have := hrise out' s'' hrest
          simp only [rank, List.map_cons, List.sum_cons] at this ⊢
          omega
      · -- the claim moves up
        right
        intro out s' hexec
        obtain ⟨o, s₁, hturn, -, c', hedit, hsame, -, hown, hheld⟩ :=
          @reconcileClaim_serve ctx snap slots c s hc (hset c List.mem_cons_self).holdBoot
        have hne : ∀ x ∈ cs, x.uidOrDefault ≠ c.uidOrDefault := fun x hx heq =>
          hnot (List.mem_map.mpr ⟨x, hx, heq⟩)
        have hsub₁ : ∀ x ∈ cs, x ∈ s₁.claims := fun x hx =>
          hedit.others x (hsub' x hx) fun hkey => hne x hx (by
            rw [List.inj_on_of_nodup_map s.claims_nodup (hsub' x hx) hc hkey])
        have hset₁ : ∀ x ∈ cs, Settled ctx snap slots s₁.devices x := fun x hx =>
          (hset x (List.mem_cons_of_mem _ hx)).frame hsame (hheld _ (hne x hx))
        obtain ⟨out', s'', hrest, -, hend⟩ := @claimPass_serve ctx snap slots cs s₁ hsub₁ hnd hspec
        obtain ⟨-, rfl⟩ := Prod.mk.inj ((claimPass_cons_exec hturn hrest).symm.trans hexec)
        have hfirst : level ctx s.devices (heldBy c.uidOrDefault s.devices) <
            level ctx s''.devices (heldBy c.uidOrDefault s''.devices) := by
          rw [hend.held _ hnot, level_sameDevices (hsame.trans hend.devices), hown]
          exact hlt
        have hrank : rank ctx s₁.devices (cs.map (·.uidOrDefault)) =
            rank ctx s.devices (cs.map (·.uidOrDefault)) := by
          refine rank_congr hsame fun uid huid => ?_
          obtain ⟨x, hx, rfl⟩ := List.mem_map.mp huid
          exact hheld _ (hne x hx)
        have hrest_le : rank ctx s₁.devices (cs.map (·.uidOrDefault)) ≤
            rank ctx s''.devices (cs.map (·.uidOrDefault)) := by
          rcases claimPass_rank hsub₁ hnd hset₁ with ⟨_, hpure, -⟩ | hrise
          · rw [hpure] at hrest
            obtain ⟨-, rfl⟩ := Prod.mk.inj hrest
            exact le_rfl
          · exact (hrise out' s'' hrest).le
        simp only [rank, List.map_cons, List.sum_cons] at hrank hrest_le ⊢
        omega

end Loop

/-! ## The pass -/

section World

variable {ctx} {s s' : Snapshot}

lemma SameWorld.liveClaims (h : SameWorld s s') :
    s'.liveClaims.map (·.frozen) = s.liveClaims.map (·.frozen) := by
  have hsort : ∀ s : Snapshot, s.liveClaims.map (·.frozen) =
      ((s.claims.map (·.frozen)).filter (·.isLive)).insertionSort
        fun a b => (a.compareAge b).isLE := by
    intro s
    unfold Snapshot.liveClaims
    rw [List.map_insertionSort (fun a b : UsbDeviceClaim => (a.compareAge b).isLE)
      (fun a b => (a.compareAge b).isLE) (·.frozen) _ fun _ _ _ _ => Iff.rfl, List.filter_map]
    rfl
  rw [hsort, hsort, h.claims]

/-- What is read off the frozen part of the live claims stays. -/
lemma SameWorld.map_liveClaims (h : SameWorld s s') {α : Type} (g : UsbDeviceClaim → α)
    (hg : ∀ c, g c.frozen = g c) : s'.liveClaims.map g = s.liveClaims.map g := by
  have hmap : ∀ cs : List UsbDeviceClaim, cs.map g = (cs.map (·.frozen)).map g := by
    intro cs
    rw [List.map_map]
    exact List.map_congr_left fun c _ => (hg c).symm
  rw [hmap, h.liveClaims, ← hmap]

lemma SameWorld.liveUids (h : SameWorld s s') : s'.liveUids = s.liveUids := by
  have huids : ∀ s : Snapshot, s.liveUids = (s.liveClaims.map (·.uid)).filterMap id := by
    intro s
    rw [List.filterMap_map]
    rfl
  rw [huids, huids, h.map_liveClaims (·.uid) fun _ => rfl]

/-- Slots are stable once they are on record. -/
lemma SameWorld.slots (h : SameWorld s s')
    (hslot : ∀ c ∈ s'.liveClaims, c.status.bind (·.slot) = granted s.slots c.uidOrDefault) :
    s'.slots = s.slots := by
  have hrequests : s'.liveClaims.map (·.slotRequest) =
      (s.liveClaims.map (·.slotRequest)).map (·.keep s.slots) := by
    have hkeep : s'.liveClaims.map (·.slotRequest) =
        s'.liveClaims.map fun c => c.slotRequest.keep s.slots := by
      refine List.map_congr_left fun c hc => ?_
      have := hslot c hc
      unfold UsbDeviceClaim.slotRequest SlotRequest.keep
      dsimp only
      rw [this]
    rw [hkeep, h.map_liveClaims (fun c => c.slotRequest.keep s.slots) fun _ => rfl, List.map_map]
    rfl
  unfold Snapshot.slots
  rw [hrequests]
  refine allocateSlots_keep ?_
  rw [List.map_map]
  exact s.liveClaims_uid_nodup

lemma Settled.of_sameWorld {slots : SlotResult} {m : DeviceMap} {c : UsbDeviceClaim}
    (h : SameWorld s s') (hc : Settled ctx s slots m c) : Settled ctx s' slots m c := by
  have hvm : s'.vm? = s.vm? := by
    funext key
    rw [Snapshot.vm?, h.vms]
    rfl
  have hvmi : s'.vmi? = s.vmi? := by
    funext key
    rw [Snapshot.vmi?, h.vmis]
    rfl
  have hmay : mayHold ctx s' slots c = mayHold ctx s slots c := by
    rw [mayHold, hvm, hvmi]
    rfl
  refine ⟨hc.holdBoot, ?_, hc.bootHold, ?_, hc.held, ?_⟩
  · rw [hvm, hvmi]
    exact hc.bound
  · rw [dueReport, hvm, hvmi]
    exact hc.report
  · rw [hmay]
    exact hc.fits

end World

/-- A state as a pass leaves it. -/
structure Orderly (s : Snapshot) : Prop where
  holdBoot : ∀ c ∈ s.claims, c.spec.holdBoot = none
  tidy : ∀ d ∈ s.devices.entries, Tidy ctx s.liveUids d
  settled : ∀ c ∈ s.liveClaims, Settled ctx s s.slots s.devices c

section Pass

variable {ctx} {s s' : Snapshot} {released : Released}

lemma SameWorld.holdBoot (h : SameWorld s s') (hspec : ∀ c ∈ s.claims, c.spec.holdBoot = none) :
    ∀ c ∈ s'.claims, c.spec.holdBoot = none := by
  intro c hc
  have hmem : c.frozen ∈ s.claims.map (·.frozen) := h.claims ▸ List.mem_map_of_mem hc
  obtain ⟨c₀, hc₀, hfrozen⟩ := List.mem_map.mp hmem
  rw [UsbDeviceClaim.eq_of_frozen hfrozen.symm (·.spec.holdBoot) fun _ => rfl]
  exact hspec c₀ hc₀

/-- Tidied devices stay tidy when live claims trade them. -/
lemma LoopEnd.tidy {slots : SlotResult} {snap : Snapshot}
    (hend : LoopEnd ctx snap slots s.liveClaims s s')
    (htidy : ∀ d ∈ s.devices.entries, Tidy ctx s.liveUids d) :
    ∀ d ∈ s'.devices.entries, Tidy ctx s.liveUids d := by
  intro d hd
  have hget := hend.devices.get? d.name
  rw [SortedMap.get?_of_mem hd, Option.map_some, eq_comm, Option.map_eq_some_iff] at hget
  obtain ⟨d₀, hd₀, hsame⟩ := hget
  obtain ⟨hsilent, hlive⟩ := htidy d₀ (SortedMap.mem_of_get? hd₀)
  refine ⟨?_, fun uid huid => ?_⟩
  · have hunleased : d.unleased.isSilent ctx = false := by
      rw [← hsame]
      exact hsilent
    exact hunleased
  · by_cases hmem : uid ∈ s.liveClaims.map (·.uidOrDefault)
    · obtain ⟨c, hc, rfl⟩ := List.mem_map.mp hmem
      exact Snapshot.uid_mem_liveUids hc
    · have hheld : d.name ∈ heldBy uid s.devices := by
        rw [← hend.held uid hmem, mem_heldBy, holder, SortedMap.get?_of_mem hd]
        exact huid
      rw [mem_heldBy, holder, hd₀] at hheld
      exact hlive uid hheld

lemma LoopEnd.orderly {m : DeviceMap} (hspec : ∀ c ∈ s.claims, c.spec.holdBoot = none)
    (htidy : ∀ d ∈ m.entries, Tidy ctx s.liveUids d)
    (hend : LoopEnd ctx s s.slots s.liveClaims (s.withDevices m) s') :
    SameWorld s s' ∧ Orderly ctx s' := by
  have hworld : SameWorld s s' := ⟨hend.world.claims, hend.world.vms, hend.world.vmis⟩
  have hsettled : ∀ c ∈ s'.liveClaims, Settled ctx s s.slots s'.devices c := by
    intro c hc
    have hmem : c.frozen ∈ s.liveClaims.map (·.frozen) :=
      hworld.liveClaims ▸ List.mem_map_of_mem hc
    obtain ⟨c₀, hc₀, hfrozen⟩ := List.mem_map.mp hmem
    obtain ⟨c', hc', hfrozen', hset⟩ := hend.settled c₀ hc₀
    have hkey : c'.key = c.key :=
      UsbDeviceClaim.eq_of_frozen (hfrozen'.trans hfrozen) (·.key) fun _ => rfl
    rw [← List.inj_on_of_nodup_map s'.claims_nodup hc' (Snapshot.mem_liveClaims.mp hc).1 hkey]
    exact hset
  have hslots : s'.slots = s.slots := by
    refine hworld.slots fun c hc => ?_
    have hslot : c.statusOrDefault.slot = granted s.slots c.uidOrDefault :=
      congrArg ClaimReport.slot (hsettled c hc).report
    rw [← hslot]
    unfold UsbDeviceClaim.statusOrDefault
    cases c.status <;> rfl
  refine ⟨hworld, hworld.holdBoot hspec, ?_, fun c hc => ?_⟩
  · rw [hworld.liveUids]
    exact LoopEnd.tidy (s := s.withDevices m) hend htidy
  · rw [hslots]
    exact (hsettled c hc).of_sameWorld hworld

/-- A pass as its two loops, when no boot is held. -/
lemma reconcileAll_exec {m : DeviceMap} {requeue : Bool}
    {out : List (UsbDeviceClaim × Except ApiError ClaimOutcome)} (released : Released)
    (hdevices : (devicePass ctx s.liveUids (s.devices.entries.map (·.name))
      s.devices).exec serve s = ((m, .ok requeue), s.withDevices m))
    (hclaims : (claimPass ctx s s.slots s.liveClaims m).exec serve (s.withDevices m) = (out, s'))
    (hout : collectedHolds out = []) :
    ∃ r, (reconcileAll ctx s released).exec serve s = (r, s') := by
  have hvms : heldVms out = [] := by
    unfold heldVms
    rw [hout]
    rfl
  unfold Snapshot.liveUids at hdevices
  unfold reconcileAll
  dsimp only
  rw [Prog.exec_bind, hdevices]
  dsimp only
  rw [Prog.exec_bind, hclaims]
  dsimp only
  rw [hvms, bootHoldPass]
  exact ⟨_, rfl⟩

/-- **One pass brings order.** -/
lemma reconcileAll_serve (hspec : ∀ c ∈ s.claims, c.spec.holdBoot = none) :
    ∃ r s', (reconcileAll ctx s released).exec serve s = (r, s') ∧ SameWorld s s' ∧
      Orderly ctx s' := by
  obtain ⟨_, _, hdevices, ⟨m, rfl, hnames, -⟩, htidy⟩ :=
    @devicePass_serve ctx s.liveUids (s.devices.entries.map (·.name)) s s.devices.nodup
  have htidy : ∀ d ∈ m.entries, Tidy ctx s.liveUids d := by
    intro d hd
    refine htidy d.name ?_ d (SortedMap.get?_of_mem hd)
    rw [← hnames]
    exact List.mem_map_of_mem hd
  obtain ⟨out, s', hclaims, hout, hend⟩ := @claimPass_serve ctx s s.slots s.liveClaims
    (s.withDevices m) (fun c hc => (Snapshot.mem_liveClaims.mp hc).1) s.liveClaims_uid_nodup
    fun c hc => hspec c (Snapshot.mem_liveClaims.mp hc).1
  obtain ⟨r, hr⟩ := reconcileAll_exec released hdevices hclaims hout
  exact ⟨r, s', hr, hend.orderly hspec htidy⟩

/-- **From order, a pass writes nothing or raises the rank.** -/
lemma Orderly.pass (h : Orderly ctx s) :
    (∀ released, ∃ r, reconcileAll ctx s released = pure r) ∨
      ∀ released r s', (reconcileAll ctx s released).exec serve s = (r, s') →
        rank ctx s.devices (s.liveClaims.map (·.uidOrDefault)) <
          rank ctx s'.devices (s.liveClaims.map (·.uidOrDefault)) := by
  have hdevices := devicePass_of_tidy ctx h.tidy (s.devices.entries.map (·.name))
  have hsub : ∀ c ∈ s.liveClaims, c ∈ s.claims := fun c hc => (Snapshot.mem_liveClaims.mp hc).1
  rcases claimPass_rank hsub s.liveClaims_uid_nodup h.settled with ⟨out, hpure, hout⟩ | hrise
  · left
    intro released
    have hvms : heldVms out = [] := by
      unfold heldVms
      rw [hout]
      rfl
    unfold Snapshot.liveUids at hdevices
    unfold reconcileAll
    dsimp only
    rw [hdevices, Prog.pure_bind']
    dsimp only
    rw [hpure, Prog.pure_bind', hvms, bootHoldPass, Prog.pure_bind']
    exact ⟨_, rfl⟩
  · right
    intro released r s' hexec
    obtain ⟨out, s'', hclaims, hout, -⟩ := @claimPass_serve ctx s s.slots s.liveClaims s hsub
      s.liveClaims_uid_nodup fun c hc => h.holdBoot c (hsub c hc)
    have hdevices' : (devicePass ctx s.liveUids (s.devices.entries.map (·.name))
        s.devices).exec serve s = ((s.devices, .ok false), s.withDevices s.devices) := by
      rw [hdevices]
      rfl
    obtain ⟨r', hr'⟩ := reconcileAll_exec released hdevices' hclaims hout
    obtain ⟨-, rfl⟩ := Prod.mk.inj (hr'.symm.trans hexec)
    exact hrise out s'' hclaims

end Pass

/-- The next pass, on caches that show what the last one left behind. -/
def nextPass (p : Snapshot × Released) : Snapshot × Released :=
  let (r, s) := (reconcileAll ctx p.1 p.2).exec serve p.1
  (s, r.released)

lemma nextPass_orderly {ctx : PassContext} {p : Snapshot × Released}
    (hspec : ∀ c ∈ p.1.claims, c.spec.holdBoot = none) :
    SameWorld p.1 (nextPass ctx p).1 ∧ Orderly ctx (nextPass ctx p).1 := by
  obtain ⟨r, s, hexec, horder⟩ := @reconcileAll_serve ctx p.1 p.2 hspec
  unfold nextPass
  rw [hexec]
  exact horder

/-- **The controller converges.**  With nobody else writing, from any leases, owners and statuses:
after finitely many passes a pass writes nothing, and so does every pass after it. -/
theorem controller_converges (s : Snapshot) (released : Released)
    (hspec : ∀ c ∈ s.claims, c.spec.holdBoot = none) :
    ∃ k, ∀ n, k ≤ n → ∃ r, reconcileAll ctx ((nextPass ctx)^[n] (s, released)).1
      ((nextPass ctx)^[n] (s, released)).2 = pure r := by
  set p := nextPass ctx (s, released) with hp
  set uids := p.1.liveClaims.map (·.uidOrDefault) with huids
  obtain ⟨k, hk⟩ := @iterate_comes_to_rest (Snapshot × Released) (nextPass ctx)
    (fun q => Orderly ctx q.1 ∧ q.1.liveClaims.map (·.uidOrDefault) = uids)
    (fun q => ∀ released, ∃ r, reconcileAll ctx q.1 released = pure r)
    (fun q => rank ctx q.1.devices uids) (2 * uids.length)
    (fun q hq => by
      obtain ⟨hworld, horder⟩ := nextPass_orderly (p := q) hq.1.holdBoot
      exact ⟨horder, (hworld.map_liveClaims (·.uidOrDefault) fun _ => rfl).trans hq.2⟩)
    (fun q _ => rank_le _ _)
    (fun q hq => by
      refine hq.1.pass.imp_right fun hrise => ?_
      rw [hq.2] at hrise
      exact hrise q.2 _ _ rfl)
    (fun q _ hrest => by
      obtain ⟨r, hr⟩ := hrest q.2
      have hsame : (nextPass ctx q).1 = q.1 := by
        unfold nextPass
        rw [hr]
        rfl
      rw [hsame]
      exact hrest)
    p ⟨(nextPass_orderly (p := (s, released)) hspec).2, huids.symm⟩
  refine ⟨k + 1, fun n hn => ?_⟩
  obtain ⟨n, rfl⟩ : ∃ m, n = m + 1 := ⟨n - 1, by omega⟩
  rw [Function.iterate_succ_apply, ← hp]
  exact hk n (by omega) _

/-! ### Two claims and three webcams

The claim `first` is new.  The claim `second` holds two webcams, of which it goes on with the
unplugged one because that is on record, and records a slot that does not exist.  A third webcam
is still leased to a deleted claim. -/

def webcam (name : String) (phase : DevicePhase) (holder : String) : UsbDevice :=
  { cameraDevice with
    name := name
    status := cameraDevice.status.map fun status =>
      { status with
        phase := some phase
        attachedTo := some ⟨"lab", holder, "uid-" ++ holder, "desktop", "2024-01-01T00:00:00Z"⟩ } }

def webcamClaim (name : String) (created : ℤ) (status : Option UsbDeviceClaimStatus) :
    UsbDeviceClaim :=
  { desktopClaim name ("uid-" ++ name) status with
    creationTimestamp := some created
    spec := ⟨"desktop", { product := some "Webcam" }, none, none⟩ }

def webcamSnapshot : Snapshot :=
  { desktopUp with
    claims := [webcamClaim "first" 1 none,
      webcamClaim "second" 2 (some { deviceName := some "cam-a", slot := some 7 })]
    devices := ⟨[webcam "cam-a" .unplugged "second", webcam "cam-b" .available "second",
      webcam "cam-c" .unplugged "deleted"], by decide +kernel⟩
    claims_nodup := by decide +kernel
    uids_nodup := by decide +kernel }

/-- Two passes write something, and then the controller comes to rest. -/
theorem controller_converges_webcams :
    (∀ n < 2, (reconcileAll newYearPass
      ((nextPass newYearPass)^[n] (webcamSnapshot, fun _ => none)).1
      ((nextPass newYearPass)^[n] (webcamSnapshot, fun _ => none)).2).head?.isSome = true) ∧
    ∃ k, ∀ n, k ≤ n → ∃ r, reconcileAll newYearPass
      ((nextPass newYearPass)^[n] (webcamSnapshot, fun _ => none)).1
      ((nextPass newYearPass)^[n] (webcamSnapshot, fun _ => none)).2 = pure r :=
  ⟨by decide +kernel, controller_converges newYearPass webcamSnapshot _ (by decide +kernel)⟩

end AtomicUsb
