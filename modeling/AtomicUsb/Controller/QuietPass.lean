import AtomicUsb.Controller.Convergence
import Mathlib.Data.List.Pairwise

/-!
# What a quiet pass means

A pass that sends nothing has found everything in order (`InOrder`): leases belong to claims that
may hold them, every claim it looks at says what it holds, and no free device would serve one of
them better.  The converse direction of `controller_converges`, which is about reaching such a
pass.

The proof reads the pass backwards.  A program that sends nothing is a sequence of parts that send
nothing (`Prog.bind_eq_pure`), so the devices are the same all along and each part is one of those
branches that have nothing to do.  A claim that is being deleted is not looked at, and nothing can
be said about it beyond that it holds no device.
-/

namespace AtomicUsb

/-! ## The parts of a quiet pass -/

variable {ctx : PassContext} {snap : Snapshot} {slots : SlotResult} {claim : UsbDeviceClaim}
  {devices : DeviceMap} {live : List String} {name uid : String}

lemma updateDevice_ne_pure {by_ : Writer} {d : UsbDevice} {patch : DeviceStatusPatch}
    {r : DeviceMap × Except ApiError Bool} : updateDevice by_ d patch devices ≠ pure r := by
  intro h
  cases h

lemma markLost_quiet {r : DeviceMap × Except ApiError Bool}
    (h : markLost ctx name devices = pure r) : r = (devices, .ok false) := by
  unfold markLost at h
  split at h
  · exact (Prog.pure.inj h).symm
  · split at h
    · exact absurd h updateDevice_ne_pure
    · exact (Prog.pure.inj h).symm

lemma releaseOrphan_quiet {r : DeviceMap × Except ApiError Bool}
    (h : releaseOrphan live name devices = pure r) : r = (devices, .ok false) ∧
      ∀ d lease, devices.get? name = some d → d.attachedTo = some lease →
        lease.claimUid ∈ live := by
  unfold releaseOrphan at h
  split at h
  · rename_i hnone
    exact ⟨(Prog.pure.inj h).symm, by simp [hnone]⟩
  · rename_i d hd
    split at h
    · rename_i hfree
      refine ⟨(Prog.pure.inj h).symm, fun d' lease' hd' hlease' => ?_⟩
      simp_all
    · rename_i lease hlease
      split at h
      · rename_i hlive
        refine ⟨(Prog.pure.inj h).symm, fun d' lease' hd' hlease' => ?_⟩
        obtain rfl := Option.some.inj (hd.symm.trans hd')
        obtain rfl := Option.some.inj (hlease.symm.trans hlease')
        exact hlive
      · exact absurd h updateDevice_ne_pure

/-- A quiet device loop leaves the devices alone, and their leases belong to live claims. -/
lemma devicePass_quiet {names : List String} {r : DeviceMap × Except ApiError Bool}
    (h : devicePass ctx live names devices = pure r) : r = (devices, .ok false) ∧
      ∀ name ∈ names, ∀ d lease, devices.get? name = some d → d.attachedTo = some lease →
        lease.claimUid ∈ live := by
  induction names generalizing r with
  | nil => exact ⟨(Prog.pure.inj h).symm, by simp⟩
  | cons name names ih =>
      obtain ⟨m, x, hlost, h⟩ := ApiProg.andThen_eq_pure h
      obtain ⟨rfl, rfl⟩ := Prod.mk.injEq .. ▸ markLost_quiet hlost
      obtain ⟨m, x, horphan, h⟩ := ApiProg.andThen_eq_pure (h _ rfl)
      obtain ⟨heq, hname⟩ := releaseOrphan_quiet horphan
      obtain ⟨rfl, rfl⟩ := Prod.mk.injEq .. ▸ heq
      obtain ⟨m, x, hrest, h⟩ := ApiProg.andThen_eq_pure (h _ rfl)
      obtain ⟨heq, hnames⟩ := ih hrest
      obtain ⟨rfl, rfl⟩ := Prod.mk.injEq .. ▸ heq
      refine ⟨(Prog.pure.inj (h _ rfl)).symm, fun n hn => ?_⟩
      rcases List.mem_cons.mp hn with rfl | hn
      · exact hname
      · exact hnames n hn

lemma bindOwner_quiet {vm : Option VmInfo} {vmi : Option VmiInfo}
    {r : DeviceMap × Except ApiError Bool} (h : bindOwner claim vm vmi devices = pure r) :
    r = (devices, .ok false) := by
  unfold bindOwner at h
  split at h
  · exact (Prog.pure.inj h).symm
  · split at h
    · exact (Prog.pure.inj h).symm
    · cases h

/-- A claim that leases nothing goes on with what it has; it may not hold a device, or what it has
is available, or nothing better is free. -/
lemma leaseTarget_quiet {may : Bool} {held : List String}
    {r : DeviceMap × Except ApiError (Option String × Bool)}
    (h : leaseTarget ctx claim may held devices = pure r) :
    r = (devices, .ok (if may then currentDevice ctx claim devices held else none, false)) ∧
      (may = true → (currentDevice ctx claim devices held).any (available ctx devices) = true ∨
        freeCandidate ctx claim devices (currentDevice ctx claim devices held) = none) := by
  unfold leaseTarget at h
  split at h
  · rename_i hmay
    obtain rfl : may = false := by simpa using hmay
    exact ⟨(Prog.pure.inj h).symm, by simp⟩
  rename_i hmay
  obtain rfl : may = true := by simpa using hmay
  dsimp only at h
  split at h
  · rename_i havail
    exact ⟨(Prog.pure.inj h).symm, fun _ => Or.inl havail⟩
  split at h
  · rename_i hnone
    exact ⟨(Prog.pure.inj h).symm, fun _ => Or.inr hnone⟩
  · obtain ⟨_, hupdate, -⟩ := Prog.bind_eq_pure h
    exact absurd hupdate updateDevice_ne_pure

lemma releaseOthers_quiet {names : List String} {r : DeviceMap × Except ApiError Bool}
    (h : releaseOthers uid names devices = pure r) :
    r = (devices, .ok false) ∧ ∀ n ∈ names, devices.get? n = none := by
  induction names generalizing r with
  | nil => exact ⟨(Prog.pure.inj h).symm, by simp⟩
  | cons name names ih =>
      obtain ⟨m, x, hfirst, h⟩ := ApiProg.andThen_eq_pure h
      have hnone : devices.get? name = none := by
        by_contra hne
        obtain ⟨d, hd⟩ := Option.ne_none_iff_exists'.mp hne
        rw [hd] at hfirst
        exact updateDevice_ne_pure hfirst
      rw [hnone] at hfirst
      obtain ⟨rfl, rfl⟩ := Prod.mk.injEq .. ▸ Prog.pure.inj hfirst
      obtain ⟨m, x, hrest, h⟩ := ApiProg.andThen_eq_pure (h _ rfl)
      obtain ⟨heq, hnames⟩ := ih hrest
      obtain ⟨rfl, rfl⟩ := Prod.mk.injEq .. ▸ heq
      refine ⟨(Prog.pure.inj (h _ rfl)).symm, fun n hn => ?_⟩
      rcases List.mem_cons.mp hn with rfl | hn
      · exact hnone
      · exact hnames n hn

lemma writeReport_quiet {desired : ClaimReport} {r : DeviceMap × Except ApiError Unit}
    (h : writeReport claim desired devices = pure r) :
    r = (devices, .ok ()) ∧ desired = claim.statusOrDefault.report := by
  unfold writeReport at h
  split at h
  · cases h
  · rename_i hsame
    rw [not_or, not_not] at hsame
    exact ⟨(Prog.pure.inj h).symm, hsame.1⟩

/-- What a claim is like whose turn sends nothing. -/
structure QuietClaim (ctx : PassContext) (snap : Snapshot) (slots : SlotResult)
    (devices : DeviceMap) (c : UsbDeviceClaim) : Prop where
  /-- It holds the device it reports, and no other. -/
  held : heldBy c.uidOrDefault devices = c.statusOrDefault.deviceName.toList
  /-- It may hold it, and has asked for it. -/
  fits : ∀ n ∈ heldBy c.uidOrDefault devices, mayHold ctx snap slots c = true ∧
    (devices.get? n).any c.spec.selector.matches = true
  /-- It is content with it. -/
  content : mayHold ctx snap slots c = true →
    (c.statusOrDefault.deviceName.any (available ctx devices)) = true ∨
      freeCandidate ctx c devices c.statusOrDefault.deviceName = none

/-- The device a claim reports is the one it goes on with, if it may hold one. -/
lemma quietClaim_of_target (htarget : claim.statusOrDefault.deviceName =
      if mayHold ctx snap slots claim then
        currentDevice ctx claim devices (heldBy claim.uidOrDefault devices)
      else none)
    (hothers : ∀ n ∈ heldBy claim.uidOrDefault devices,
      some n ≠ claim.statusOrDefault.deviceName → devices.get? n = none)
    (hcontent : mayHold ctx snap slots claim = true →
      (currentDevice ctx claim devices (heldBy claim.uidOrDefault devices)).any
          (available ctx devices) = true ∨
        freeCandidate ctx claim devices
          (currentDevice ctx claim devices (heldBy claim.uidOrDefault devices)) = none) :
    QuietClaim ctx snap slots devices claim := by
  have hown : ∀ n, holder devices n = some claim.uidOrDefault →
      claim.statusOrDefault.deviceName = some n := by
    intro n hn
    by_contra hne
    have hgone := hothers n (mem_heldBy.mpr hn) (Ne.symm hne)
    simp [holder, hgone] at hn
  have hcurrent : ∀ n, claim.statusOrDefault.deviceName = some n →
      mayHold ctx snap slots claim = true ∧
        currentDevice ctx claim devices (heldBy claim.uidOrDefault devices) = some n := by
    intro n hn
    rw [htarget] at hn
    split_ifs at hn with hmay
    exact ⟨hmay, hn⟩
  refine ⟨heldBy_eq_toList fun n => ⟨hown n, fun hn => ?_⟩, fun n hn => ?_, fun hmay => ?_⟩
  · exact mem_heldBy.mp (currentDevice_mem ctx (hcurrent n hn).2).1
  · obtain ⟨hmay, hcur⟩ := hcurrent n (hown n (mem_heldBy.mp hn))
    exact ⟨hmay, (currentDevice_mem ctx hcur).2⟩
  · rw [htarget, if_pos hmay]
    exact hcontent hmay

lemma reconcileClaim_quiet {r : DeviceMap × Except ApiError ClaimOutcome}
    (h : reconcileClaim ctx snap slots claim devices = pure r) :
    r.1 = devices ∧ QuietClaim ctx snap slots devices claim := by
  obtain ⟨m₁, x, hown, h⟩ := ApiProg.andThen_eq_pure h
  obtain ⟨rfl, rfl⟩ := Prod.mk.injEq .. ▸ bindOwner_quiet hown
  obtain ⟨m₂, x, hlease, h⟩ := ApiProg.andThen_eq_pure (h _ rfl)
  obtain ⟨heq, hcontent⟩ := leaseTarget_quiet hlease
  obtain ⟨rfl, rfl⟩ := Prod.mk.injEq .. ▸ heq
  obtain ⟨m₃, x, hothers, h⟩ := ApiProg.andThen_eq_pure (h _ rfl)
  obtain ⟨heq, hnone⟩ := releaseOthers_quiet hothers
  obtain ⟨rfl, rfl⟩ := Prod.mk.injEq .. ▸ heq
  obtain ⟨m₄, x, hreport, h⟩ := ApiProg.andThen_eq_pure (h _ rfl)
  obtain ⟨heq, hsame⟩ := writeReport_quiet hreport
  obtain ⟨rfl, rfl⟩ := Prod.mk.injEq .. ▸ heq
  have htarget : claim.statusOrDefault.deviceName = if mayHold ctx snap slots claim then
      currentDevice ctx claim m₄ (heldBy claim.uidOrDefault m₄) else none :=
    (congrArg ClaimReport.deviceName hsame).symm
  refine ⟨by rw [← Prog.pure.inj (h _ rfl)], quietClaim_of_target htarget (fun n hn hne => ?_)
    hcontent⟩
  refine hnone n (List.mem_filter.mpr ⟨hn, ?_⟩)
  rw [htarget] at hne
  exact decide_eq_true hne

lemma claimPass_quiet {claims : List UsbDeviceClaim}
    {outcomes : List (UsbDeviceClaim × Except ApiError ClaimOutcome)}
    (h : claimPass ctx snap slots claims devices = pure outcomes) :
    ∀ c ∈ claims, QuietClaim ctx snap slots devices c := by
  induction claims generalizing outcomes with
  | nil => simp
  | cons claim claims ih =>
      obtain ⟨⟨m, outcome⟩, hclaim, hnext⟩ := Prog.bind_eq_pure h
      obtain ⟨hsame, hquiet⟩ := reconcileClaim_quiet hclaim
      obtain rfl : m = devices := hsame
      obtain ⟨rest, hrest, -⟩ := Prog.bind_eq_pure hnext
      intro c hc
      rcases List.mem_cons.mp hc with rfl | hc
      · exact hquiet
      · exact ih hrest c hc

/-! ## The law -/

/-- The device is leased to the claim. -/
def UsbDeviceClaim.Holds (c : UsbDeviceClaim) (d : UsbDevice) : Prop :=
  ∃ uid, c.uid = some uid ∧ d.leaseHolder = some uid

/-- Everything is in order.  What concerns the report of a claim and the devices it could have is
only said of the claims in `P`. -/
structure InOrder (ctx : PassContext) (snap : Snapshot) (P : UsbDeviceClaim → Bool) : Prop where
  /-- A lease belongs to a live and valid claim whose VM is present and whose selector matches. -/
  leased : ∀ d ∈ snap.devices.entries, ∀ lease, d.attachedTo = some lease →
    ∃ c ∈ snap.claims, c.isLive = true ∧ c.uid = some lease.claimUid ∧
      mayHold ctx snap snap.slots c = true ∧ c.spec.selector.matches d = true
  /-- No claim holds two devices. -/
  single : ∀ c ∈ snap.claims, ∀ d ∈ snap.devices.entries, ∀ d' ∈ snap.devices.entries,
    c.Holds d → c.Holds d' → d = d'
  /-- A claim reports the device it holds, or none. -/
  reported : ∀ c ∈ snap.claims, P c = true → ∀ n, c.statusOrDefault.deviceName = some n ↔
    ∃ d ∈ snap.devices.entries, d.name = n ∧ c.Holds d
  /-- No valid claim whose VM is present is without a device while a free one matches. -/
  served : ∀ c ∈ snap.claims, P c = true → mayHold ctx snap snap.slots c = true →
    (∀ d ∈ snap.devices.entries, ¬ c.Holds d) →
    ∀ d ∈ snap.devices.entries, d.attachedTo = none → c.spec.selector.matches d = false
  /-- Nor does it hold an unavailable one while an available one is free and matches. -/
  upgraded : ∀ c ∈ snap.claims, mayHold ctx snap snap.slots c = true →
    ∀ d ∈ snap.devices.entries, c.Holds d → d.isAvailable ctx.rt ctx.now ctx.lostAfter = false →
    ∀ d' ∈ snap.devices.entries, d'.attachedTo = none → c.spec.selector.matches d' = true →
      d'.isAvailable ctx.rt ctx.now ctx.lostAfter = false

/-- A claim that finds no candidate although a matching device is free has a device, and the free
one is not available. -/
lemma freeCandidate_eq_none {current : Option String}
    (h : freeCandidate ctx claim devices current = none) {d : UsbDevice}
    (hd : d ∈ devices.entries) (hfree : d.attachedTo = none)
    (hmatch : claim.spec.selector.matches d = true) :
    current ≠ none ∧ d.isAvailable ctx.rt ctx.now ctx.lostAfter = false := by
  unfold freeCandidate at h
  dsimp only at h
  have hmem : d ∈ devices.entries.filter fun d =>
      d.leaseHolder == none && claim.spec.selector.matches d := by
    simp [hd, UsbDevice.leaseHolder, hfree, hmatch]
  generalize devices.entries.filter (fun d =>
    d.leaseHolder == none && claim.spec.selector.matches d) = free at h hmem
  cases hfirst : (sortByKey (fun d : UsbDevice =>
      toLex (!d.isAvailable ctx.rt ctx.now ctx.lostAfter, d.name)) free).head? with
  | none =>
      rw [head?_sortByKey_eq_none.mp hfirst] at hmem
      cases hmem
  | some first =>
      rw [hfirst] at h
      have hrefused : first.isAvailable ctx.rt ctx.now ctx.lostAfter = false ∧ current ≠ none := by
        simpa [Option.filter_some, Option.isNone_iff_eq_none] using h
      refine ⟨hrefused.2, ?_⟩
      have hle := (head?_sortByKey hfirst).2 d hmem
      rw [Prod.Lex.le_iff] at hle
      simp only [ofLex_toLex, hrefused.1, Bool.not_false] at hle
      by_contra havail
      rw [Bool.not_eq_false] at havail
      simp only [havail, Bool.not_true, Bool.true_eq_false, false_and, or_false] at hle
      exact absurd hle (by decide)

lemma mem_heldBy_of_mem {d : UsbDevice} (hd : d ∈ devices.entries) :
    d.name ∈ heldBy uid devices ↔ d.leaseHolder = some uid := by
  rw [mem_heldBy, holder, SortedMap.get?_of_mem hd]
  rfl

lemma Snapshot.eq_of_uid {c c' : UsbDeviceClaim} (hc : c ∈ snap.claims) (hc' : c' ∈ snap.claims)
    (huid : c.uid = some uid) (huid' : c'.uid = some uid) : c = c' := by
  have hnodup := List.pairwise_filterMap.mp snap.uids_nodup
  have : Std.Symm fun c c' : UsbDeviceClaim =>
      ∀ u, c.uid = some u → ∀ u', c'.uid = some u' → u ≠ u' :=
    ⟨fun _ _ h u hu u' hu' => (h u' hu' u hu).symm⟩
  by_contra hne
  exact hnodup.forall hc hc' hne uid huid uid huid' rfl

lemma UsbDeviceClaim.isLive_uid {c : UsbDeviceClaim} (h : c.isLive = true) :
    c.uid = some c.uidOrDefault := by
  simp only [UsbDeviceClaim.isLive, Bool.and_eq_true] at h
  obtain ⟨uid, huid⟩ := Option.isSome_iff_exists.mp h.2
  simp [UsbDeviceClaim.uidOrDefault, huid]

lemma UsbDeviceClaim.holds_iff {c : UsbDeviceClaim} (hlive : c.isLive = true) {d : UsbDevice} :
    c.Holds d ↔ d.leaseHolder = some c.uidOrDefault := by
  unfold UsbDeviceClaim.Holds
  rw [UsbDeviceClaim.isLive_uid hlive]
  simp

namespace QuietClaim

variable {c : UsbDeviceClaim} (h : QuietClaim ctx snap slots devices c) (hlive : c.isLive = true)

include h hlive

/-- A quiet claim reports what it holds. -/
lemma deviceName_iff {n : String} : c.statusOrDefault.deviceName = some n ↔
    ∃ d ∈ devices.entries, d.name = n ∧ c.Holds d := by
  have hmem : n ∈ heldBy c.uidOrDefault devices ↔ c.statusOrDefault.deviceName = some n := by
    rw [h.held, Option.mem_toList]
  rw [← hmem]
  constructor
  · intro hn
    obtain ⟨d, hd, hhold⟩ := Option.bind_eq_some_iff.mp (mem_heldBy.mp hn)
    exact ⟨d, SortedMap.mem_of_get? hd, SortedMap.key_of_get? hd,
      (UsbDeviceClaim.holds_iff hlive).mpr hhold⟩
  · rintro ⟨d, hd, rfl, hhold⟩
    exact (mem_heldBy_of_mem hd).mpr ((UsbDeviceClaim.holds_iff hlive).mp hhold)

end QuietClaim

/-- **What a quiet pass means.** A pass that sends nothing has found everything in order for the
claims that are not being deleted. -/
theorem quiet_pass_in_order {released : Released} {r : PassResult}
    (h : reconcileAll ctx snap released = pure r) : InOrder ctx snap (·.isLive) := by
  obtain ⟨⟨m, x⟩, hdevices, h⟩ := Prog.bind_eq_pure h
  obtain ⟨heq, htidy⟩ := devicePass_quiet hdevices
  obtain ⟨rfl, rfl⟩ := Prod.mk.injEq .. ▸ heq
  obtain ⟨outcomes, hclaims, -⟩ := Prog.bind_eq_pure h
  have hturn : ∀ c ∈ snap.claims, c.isLive = true →
      QuietClaim ctx snap snap.slots snap.devices c :=
    fun c hc hlive => claimPass_quiet hclaims c (Snapshot.mem_liveClaims.mpr ⟨hc, hlive⟩)
  -- whoever holds a device is a live claim
  have hholder : ∀ d ∈ snap.devices.entries, ∀ uid, d.leaseHolder = some uid →
      ∃ c ∈ snap.claims, c.isLive = true ∧ c.uid = some uid := by
    intro d hd uid hhold
    obtain ⟨lease, hlease, rfl⟩ := Option.map_eq_some_iff.mp hhold
    have hlive := htidy d.name (List.mem_map_of_mem hd) d lease (SortedMap.get?_of_mem hd) hlease
    obtain ⟨c, hc, huid⟩ := List.mem_filterMap.mp hlive
    obtain ⟨hmem, hlive⟩ := Snapshot.mem_liveClaims.mp hc
    exact ⟨c, hmem, hlive, huid⟩
  have hlive : ∀ c ∈ snap.claims, ∀ d ∈ snap.devices.entries, c.Holds d → c.isLive = true := by
    rintro c hc d hd ⟨uid, huid, hhold⟩
    obtain ⟨c', hc', hlive, huid'⟩ := hholder d hd uid hhold
    rw [Snapshot.eq_of_uid hc hc' huid huid']
    exact hlive
  constructor
  · intro d hd lease hlease
    have hhold : d.leaseHolder = some lease.claimUid := by simp [UsbDevice.leaseHolder, hlease]
    obtain ⟨c, hc, hlive, huid⟩ := hholder d hd _ hhold
    have hheld := (UsbDeviceClaim.holds_iff hlive).mp ⟨_, huid, hhold⟩
    obtain ⟨hmay, hmatch⟩ := (hturn c hc hlive).fits _ ((mem_heldBy_of_mem hd).mpr hheld)
    rw [SortedMap.get?_of_mem hd] at hmatch
    exact ⟨c, hc, hlive, huid, hmay, hmatch⟩
  · intro c hc d hd d' hd' hhold hhold'
    have hl := hlive c hc d hd hhold
    have hname := ((hturn c hc hl).deviceName_iff hl).mpr ⟨d, hd, rfl, hhold⟩
    have hname' := ((hturn c hc hl).deviceName_iff hl).mpr ⟨d', hd', rfl, hhold'⟩
    exact SortedMap.eq_of_key hd hd' (Option.some.inj (hname.symm.trans hname'))
  · intro c hc hl n
    exact (hturn c hc hl).deviceName_iff hl
  · intro c hc hl hmay hnone d hd hfree
    by_contra hmatch
    rw [Bool.not_eq_false] at hmatch
    have hname : c.statusOrDefault.deviceName = none := by
      by_contra hne
      obtain ⟨n, hn⟩ := Option.ne_none_iff_exists'.mp hne
      obtain ⟨d', hd', -, hhold⟩ := ((hturn c hc hl).deviceName_iff hl).mp hn
      exact hnone d' hd' hhold
    have hcontent := (hturn c hc hl).content hmay
    rw [hname] at hcontent
    exact (freeCandidate_eq_none (hcontent.resolve_left (by simp)) hd hfree hmatch).1 rfl
  · intro c hc hmay d hd hhold hgone d' hd' hfree hmatch
    have hl := hlive c hc d hd hhold
    have hname := ((hturn c hc hl).deviceName_iff hl).mpr ⟨d, hd, rfl, hhold⟩
    have hcontent := (hturn c hc hl).content hmay
    rw [hname] at hcontent
    have hnone := hcontent.resolve_left (by simp [available, SortedMap.get?_of_mem hd, hgone])
    exact (freeCandidate_eq_none hnone hd' hfree hmatch).2

/-! ### The webcams at rest, and a claim that is on its way out -/

def firstWebcam : UsbDeviceClaim := webcamClaim "first" 1 <| some
  { phase := some .connecting
    deviceName := some "cam-b"
    sourceNode := some "node-b"
    slot := some 3
    message := some "waiting for the agent on the VM's node" }

def secondWebcam : UsbDeviceClaim := webcamClaim "second" 2 <| some
  { phase := some .deviceUnavailable
    deviceName := some "cam-a"
    sourceNode := some "node-b"
    slot := some 2
    message := some "device cam-a is Unplugged (last seen on node-b)" }

def printerClaim : UsbDeviceClaim :=
  { webcamClaim "printer" 3 none with
    spec := ⟨"desktop", { product := some "Printer" }, none, none⟩
    status := some
      { phase := some .pending
        slot := some 1
        message := some "no free UsbDevice matches the selector" } }

/-- A webcam that is unplugged, and nobody's. -/
def spareWebcam : UsbDevice :=
  { cameraDevice with
    name := "cam-c"
    status := some { cameraDevice.statusRef with phase := some .unplugged, attachedTo := none } }

def settledWebcams : Snapshot :=
  { desktopUp with
    claims := [firstWebcam, secondWebcam, printerClaim]
    devices := ⟨[webcam "cam-a" .unplugged "second", webcam "cam-b" .available "first",
      spareWebcam], by decide +kernel⟩
    claims_nodup := by decide +kernel
    uids_nodup := by decide +kernel }

lemma settledWebcams_quiet :
    ∃ r, reconcileAll newYearPass settledWebcams (fun _ => none) = pure r :=
  Prog.exists_pure_of_head? (by decide +kernel)

/-- There is nothing to do for the three claims: the first reports its webcam, the second keeps one
that is unplugged because the spare one is, and the third finds no printer. -/
theorem quiet_pass_in_order_webcams :
    (∀ n, firstWebcam.statusOrDefault.deviceName = some n ↔
      ∃ d ∈ settledWebcams.devices.entries, d.name = n ∧ firstWebcam.Holds d) ∧
    spareWebcam.isAvailable .newYear 1704067200 90 = false ∧
    printerClaim.spec.selector.matches spareWebcam = false := by
  obtain ⟨r, hr⟩ := settledWebcams_quiet
  have horder : InOrder newYearPass settledWebcams (·.isLive) := quiet_pass_in_order hr
  have hspare : spareWebcam ∈ settledWebcams.devices.entries := by simp [settledWebcams]
  refine ⟨horder.reported firstWebcam (by simp [settledWebcams]) rfl, ?_, ?_⟩
  · exact horder.upgraded secondWebcam (by simp [settledWebcams]) (by decide +kernel)
      (webcam "cam-a" .unplugged "second") (by simp [settledWebcams])
      ⟨"uid-second", rfl, by decide +kernel⟩ (by decide +kernel) spareWebcam hspare rfl
      (by decide +kernel)
  · refine horder.served printerClaim (by simp [settledWebcams]) rfl (by decide +kernel) ?_
      spareWebcam hspare rfl
    rintro d hd ⟨uid, huid, hhold⟩
    obtain rfl : "uid-printer" = uid := Option.some.inj huid
    revert d
    decide +kernel

/-- The claim holds the camera, and says so. -/
def servedClaim : UsbDeviceClaim :=
  { desktopClaim "camera" "uid-camera" none with
    spec := ⟨"desktop", { deviceName := some "camera" }, none, none⟩
    status := some
      { phase := some .connecting
        deviceName := some "camera"
        sourceNode := some "node-b"
        slot := some 3
        message := some "waiting for the agent on the VM's node" } }

/-- The claim is being deleted; its device went back to the free ones. -/
def leavingClaim : UsbDeviceClaim := { servedClaim with deletionTimestamp := some 1704067200 }

def freeCamera : UsbDevice :=
  { cameraDevice with status := some { cameraDevice.statusRef with attachedTo := none } }

def leavingDevices : DeviceMap := ⟨[freeCamera], List.pairwise_singleton _ _⟩

def leavingSnapshot : Snapshot :=
  { desktopSnapshot [leavingClaim] (by decide +kernel) (by decide +kernel) with
    devices := leavingDevices }

/-- The pass leaves it alone: the claim still reports the camera, and is valid, with its VM
present, but does not get it back. -/
theorem leaving_claim_ignored :
    (∃ r, reconcileAll newYearPass leavingSnapshot (fun _ => none) = pure r) ∧
      ¬ InOrder newYearPass leavingSnapshot (fun _ => true) ∧
      leavingClaim.statusOrDefault.deviceName = some "camera" ∧
      mayHold newYearPass leavingSnapshot leavingSnapshot.slots leavingClaim = true ∧
      freeCamera ∈ leavingSnapshot.devices.entries ∧ freeCamera.attachedTo = none ∧
      leavingClaim.spec.selector.matches freeCamera = true := by
  refine ⟨Prog.exists_pure_of_head? (by decide +kernel), fun h => ?_, rfl, by decide +kernel,
    List.mem_singleton_self _, rfl, by decide +kernel⟩
  obtain ⟨d, hd, -, uid, -, hhold⟩ :=
    (h.reported leavingClaim (List.mem_singleton_self _) rfl "camera").mp rfl
  obtain rfl := List.mem_singleton.mp hd
  cases hhold

end AtomicUsb
