import AtomicUsb.Cluster.Leases

/-!
# Orphaned leases

The controller releases the lease of a claim that its cache does not show.  The cache lags behind
the API server, so a claim may well be alive although the cache does not show it: it may be too
new.  `orphan_release_of_dead` says that this never costs a live claim its lease.

The state is a `Cluster` with one controller, process `0`, together with the claims the server has
held at every moment up to now, the moment the controller's cache shows, and the one it showed when
the current pass began.  The cache only moves forward, also when the controller is restarted; the
devices a pass starts from may be outdated in any way.

The invariant (`Supervised.Inv`) ties leases to claims: every lease on the server belongs to a claim
that was alive no later than what the current pass has seen.  A claim that was alive then and is
not among the living now is gone for good, because UIDs are never used again.
-/

namespace AtomicUsb

/-! ## Claims over time -/

/-- The claim exists and is not being deleted. -/
def Alive (claims : List UsbDeviceClaim) (uid : String) : Prop :=
  ∃ c ∈ claims, c.uid = some uid ∧ c.deletionTimestamp = none

/-- The UID is in use, possibly by a claim that is being deleted. -/
def InUse (claims : List UsbDeviceClaim) (uid : String) : Prop :=
  ∃ c ∈ claims, c.uid = some uid

lemma Alive.inUse {claims : List UsbDeviceClaim} {uid : String} (h : Alive claims uid) :
    InUse claims uid := by
  obtain ⟨c, hc, huid, -⟩ := h
  exact ⟨c, hc, huid⟩

/-- What may have become of the claims after the moment `t`: whatever is alive was alive before,
or its UID has never been used. -/
def CanFollow (claims : ℕ → List UsbDeviceClaim) (t : ℕ) (next : List UsbDeviceClaim) : Prop :=
  ∀ uid, Alive next uid → Alive (claims t) uid ∨ ∀ i ≤ t, ¬ InUse (claims i) uid

lemma CanFollow.congr {claims claims' : ℕ → List UsbDeviceClaim} {t : ℕ}
    {next : List UsbDeviceClaim} (h : CanFollow claims t next)
    (hpast : ∀ i ≤ t, claims' i = claims i) : CanFollow claims' t next := by
  intro uid halive
  rcases h uid halive with hbefore | hfresh
  · left
    rwa [hpast t le_rfl]
  · right
    intro i hi
    rw [hpast i hi]
    exact hfresh i hi

/-- A claim that has been alive and no longer is does not come back. -/
lemma dead_for_good {claims : ℕ → List UsbDeviceClaim} {time : ℕ}
    (h : ∀ t, t < time → CanFollow claims t (claims (t + 1))) {uid : String} {i j : ℕ}
    (hi : Alive (claims i) uid) (hij : i ≤ j) (hj : ¬ Alive (claims j) uid) {t : ℕ} (hjt : j ≤ t)
    (ht : t ≤ time) : ¬ Alive (claims t) uid := by
  induction t, hjt using Nat.le_induction with
  | base => exact hj
  | succ t hjt ih =>
      intro halive
      rcases h t (by omega) uid halive with hbefore | hfresh
      · exact ih (by omega) hbefore
      · exact hfresh i (by omega) hi.inUse

lemma mem_liveUids {snap : Snapshot} {uid : String} :
    uid ∈ snap.liveUids ↔ Alive snap.claims uid := by
  simp only [Snapshot.liveUids, Snapshot.liveClaims, List.mem_filterMap, List.mem_insertionSort,
    List.mem_filter, UsbDeviceClaim.isLive, Bool.and_eq_true, Option.isNone_iff_eq_none, Alive]
  constructor
  · rintro ⟨c, ⟨hc, hnone, -⟩, huid⟩
    exact ⟨c, hc, huid, hnone⟩
  · rintro ⟨c, hc, huid, hnone⟩
    exact ⟨c, ⟨hc, hnone, by rw [huid]; rfl⟩, huid⟩

/-! ## The system -/

structure Supervised where
  cluster : Cluster
  /-- The claims on the API server at each moment up to `time`. -/
  claims : ℕ → List UsbDeviceClaim
  time : ℕ
  /-- The moment the controller's cache of claims shows. -/
  cache : ℕ
  /-- The moment it showed when the last pass began. -/
  passAt : ℕ

/-- Somebody writes an object. -/
def Cluster.write (s : Cluster) (name : String) (body : DeviceBody) : Cluster :=
  { s with
    store := s.store.put name body
    copies := ObjectStore.record s.copies name ⟨s.store.latest + 1, body⟩ }

inductive SupervisedLabel
  | pass
  | restarted
  | refreshed
  | scan (pid : ℕ)
  | served (pid : ℕ) (c : ApiCall)
  | written (name : String)
  | deleted (name : String)
  | claimsChanged

inductive Supervised.Step : Supervised → SupervisedLabel → Supervised → Prop
  | pass {s : Supervised} (ctx : PassContext) {snap : Snapshot} (released : Released)
      (hclaims : snap.claims = s.claims s.cache) (hgen : Genuine s.cluster.copies snap.devices) :
      Step s .pass
        { s with
          cluster := s.cluster.start 0 (.controller snap) (reconcileAll ctx snap released)
          passAt := s.cache }
  /-- The controller stops, whatever it was doing, and a new process fills its caches. -/
  | restart {s : Supervised} {t : ℕ} (hcache : s.cache ≤ t) (htime : t ≤ s.time) :
      Step s .restarted
        { s with
          cluster := s.cluster.start 0 (s.cluster.processes 0).party (pure () : ApiProg Unit)
          cache := t }
  | refresh {s : Supervised} {t : ℕ} (hcache : s.cache ≤ t) (htime : t ≤ s.time) :
      Step s .refreshed { s with cache := t }
  | scan {s : Supervised} {pid : ℕ} (hpid : pid ≠ 0) (rt : Runtime) (cfg : AgentConfig)
      (sha256 : List UInt8 → List UInt8) (state : Discovery) (input : ScanInput) :
      Step s (.scan pid)
        { s with cluster :=
            s.cluster.start pid (.agent cfg.node) (scanOnce rt cfg sha256 state input) }
  | call {s : Supervised} {pid : ℕ} {c : ApiCall} {k : c.Answer → ApiProg Unit} {x : c.Answer}
      {store : DeviceStore} (hcall : (s.cluster.processes pid).rest = .call c k)
      (hserved : Served s.cluster.store c x store) :
      Step s (.served pid c) { s with cluster := s.cluster.proceed pid store (k x) }
  /-- Anyone else writes a device, but leaves its lease alone. -/
  | write {s : Supervised} (name : String) {body : DeviceBody}
      (hlease : body.attachedTo = (s.cluster.store.objects name).bind (·.value.attachedTo)) :
      Step s (.written name) { s with cluster := s.cluster.write name body }
  | delete {s : Supervised} (name : String) :
      Step s (.deleted name)
        { s with cluster := { s.cluster with store := s.cluster.store.delete name } }
  /-- Claims are created, changed, marked for deletion and removed. -/
  | change {s : Supervised} {next : List UsbDeviceClaim} (hnext : CanFollow s.claims s.time next) :
      Step s .claimsChanged
        { s with
          claims := Function.update s.claims (s.time + 1) next
          time := s.time + 1 }

def supervised : System Supervised SupervisedLabel where
  init s := cluster.init s.cluster ∧
    (∀ pid, ∃ node, (s.cluster.processes pid).party = .agent node) ∧
    (∀ name o, s.cluster.store.objects name = some o → o.value.attachedTo = none) ∧
    s.time = 0 ∧ s.cache = 0 ∧ s.passAt = 0
  step := Supervised.Step

/-! ## The invariant -/

structure Supervised.Inv (s : Supervised) : Prop where
  cluster : s.cluster.Inv
  passAt_le : s.passAt ≤ s.cache
  cache_le : s.cache ≤ s.time
  history : ∀ t, t < s.time → CanFollow s.claims t (s.claims (t + 1))
  /-- There is one controller; its pass works with the claims of the moment its cache showed. -/
  pass : ∀ pid snap, (s.cluster.processes pid).party = .controller snap →
    pid = 0 ∧ snap.claims = s.claims s.passAt
  /-- A lease belongs to a claim that was alive, as far as the pass can tell. -/
  leases : ∀ name o lease, s.cluster.store.objects name = some o →
    o.value.attachedTo = some lease → ∃ i ≤ s.passAt, Alive (s.claims i) lease.claimUid

lemma Cluster.write_inv {s : Cluster} (h : s.Inv) (name : String) (body : DeviceBody) :
    (s.write name body).Inv where
  remembers := h.remembers.put name body
  obeys pid := copiesDiscipline_mono (Q := fun _ => True) leaseDiscipline_may_mono
    (fun _ _ => Or.inl) (h.obeys pid)

lemma Cluster.start_party (s : Cluster) {α : Type} (pid q : ℕ) (party : Party) (p : ApiProg α) :
    ((s.start pid party p).processes q).party =
      if q = pid then party else (s.processes q).party := by
  by_cases hq : q = pid
  · subst hq
    simp [Cluster.start]
  · simp [Cluster.start, hq]

/-- An object that a call creates has no lease. -/
lemma effect_created {s : DeviceStore} {c : ApiCall} {name : String} {o' : Versioned DeviceBody}
    (ho : s.objects name = none) (ho' : (s.effect c).objects name = some o') :
    o'.value.attachedTo = none := by
  rcases effect_object ho' with hsame | ⟨_, _, _, o, -, hcur, -⟩ | ⟨_, _, _, -, -, hstatus⟩
  · simp [ho] at hsame
  · simp [ho] at hcur
  · simp [DeviceBody.attachedTo, DeviceBody.statusRef, hstatus, ho]

/-- A served call leaves leases of claims that were alive, as far as the pass can tell. -/
lemma Supervised.call_leases {s : Supervised} (h : s.Inv) {pid : ℕ} {c : ApiCall}
    {k : c.Answer → ApiProg Unit} {x : c.Answer} {store : DeviceStore}
    (hcall : (s.cluster.processes pid).rest = .call c k)
    (hserved : Served s.cluster.store c x store) {name : String} {o' : Versioned DeviceBody}
    {lease : Attachment} (ho' : store.objects name = some o')
    (hlease : o'.value.attachedTo = some lease) :
    ∃ i ≤ s.passAt, Alive (s.claims i) lease.claimUid := by
  cases ho : s.cluster.store.objects name with
  | none =>
      have hcreated : o'.value.attachedTo = none := by
        cases hserved with
        | done _ => exact effect_created ho ho'
        | lost _ => exact effect_created ho ho'
        | failed _ => simp [ho] at ho'
      simp [hcreated] at hlease
  | some o =>
      rcases Cluster.call_lease h.cluster hcall hserved name o o' ho ho' with
        hsame | ⟨by_, rv, patch, rfl, hrule, hmerge⟩
      · exact h.leases name o lease ho (hsame ▸ hlease)
      · obtain ⟨-, snap, hparty, l, ⟨-, hnew, -, hlive⟩ | ⟨-, hnew, -⟩⟩ := Party.rule_cases hrule
        · have hl : lease = l := by simpa [hmerge, hnew] using hlease.symm
          subst hl
          rw [mem_liveUids, (h.pass pid snap hparty).2] at hlive
          exact ⟨s.passAt, le_rfl, hlive⟩
        · simp [hmerge, hnew] at hlease

lemma Supervised.step_inv {s s' : Supervised} {l : SupervisedLabel} (h : s.Inv)
    (hstep : Supervised.Step s l s') : s'.Inv := by
  cases hstep with
  | @pass ctx snap released hclaims hgen =>
      refine ⟨Cluster.start_inv h.cluster (reconcileAll_obeys ctx hgen), le_rfl, h.cache_le,
        h.history, fun pid snap' hparty => ?_, fun name o lease ho hlease => ?_⟩
      · rw [Cluster.start_party] at hparty
        split_ifs at hparty with hpid
        · simp only [Party.controller.injEq] at hparty
          exact ⟨hpid, hparty ▸ hclaims⟩
        · exact absurd (h.pass pid snap' hparty).1 hpid
      · obtain ⟨i, hi, halive⟩ := h.leases name o lease ho hlease
        exact ⟨i, hi.trans h.passAt_le, halive⟩
  | @restart t hcache htime =>
      have hinv : (s.cluster.start 0 (s.cluster.processes 0).party
          (pure () : ApiProg Unit)).Inv := Cluster.start_inv h.cluster trivial
      refine ⟨hinv, h.passAt_le.trans hcache, htime, h.history, fun pid snap hparty => ?_,
        h.leases⟩
      rw [Cluster.start_party] at hparty
      split_ifs at hparty with hpid
      · exact h.pass pid snap (hpid ▸ hparty)
      · exact h.pass pid snap hparty
  | @refresh t hcache htime =>
      exact ⟨h.cluster, h.passAt_le.trans hcache, htime, h.history, h.pass, h.leases⟩
  | @scan pid hpid rt cfg sha256 state input =>
      refine ⟨Cluster.start_inv h.cluster (scanOnce_obeys rt cfg _ _ _), h.passAt_le, h.cache_le,
        h.history, fun q snap hparty => ?_, h.leases⟩
      rw [Cluster.start_party] at hparty
      split_ifs at hparty
      exact h.pass q snap hparty
  | @call pid c k x store hcall hserved =>
      refine ⟨Cluster.step_inv h.cluster (.call hcall hserved), h.passAt_le, h.cache_le,
        h.history, fun q snap hparty => ?_, fun name o' lease ho' hlease => ?_⟩
      · rw [Cluster.proceed_party] at hparty
        exact h.pass q snap hparty
      · exact Supervised.call_leases h hcall hserved ho' hlease
  | @write name body hbody =>
      refine ⟨Cluster.write_inv h.cluster name body, h.passAt_le, h.cache_le, h.history, h.pass,
        fun n o lease ho hlease => ?_⟩
      by_cases hn : n = name
      · subst hn
        have hvalue : body = o.value := by
          simpa [Cluster.write] using congrArg (Option.map (·.value)) ho
        rw [← hvalue, hbody, Option.bind_eq_some_iff] at hlease
        obtain ⟨old, hold, hlease⟩ := hlease
        exact h.leases n old lease hold hlease
      · rw [show (s.cluster.write name body).store.objects n = s.cluster.store.objects n from
          ObjectStore.put_objects_of_ne _ _ hn] at ho
        exact h.leases n o lease ho hlease
  | delete name =>
      refine ⟨Cluster.step_inv h.cluster (.delete name), h.passAt_le, h.cache_le, h.history,
        h.pass, fun n o lease ho hlease => ?_⟩
      by_cases hn : n = name
      · subst hn
        simp [ObjectStore.delete] at ho
      · simp only [ObjectStore.delete, Function.update_of_ne hn] at ho
        exact h.leases n o lease ho hlease
  | @change next hnext =>
      -- the moments up to now stay as they were
      have hpast : ∀ i, i ≤ s.time → Function.update s.claims (s.time + 1) next i = s.claims i :=
        fun i hi => Function.update_of_ne (by omega) _ _
      have hpassAt : s.passAt ≤ s.time := h.passAt_le.trans h.cache_le
      refine ⟨h.cluster, h.passAt_le, Nat.le_succ_of_le h.cache_le, fun t ht => ?_,
        fun pid snap hparty => ?_, fun name o lease ho hlease => ?_⟩
      · dsimp only at ht ⊢
        have hfollow : CanFollow s.claims t
            (Function.update s.claims (s.time + 1) next (t + 1)) := by
          rcases Nat.lt_succ_iff_lt_or_eq.mp ht with ht | rfl
          · rw [hpast (t + 1) ht]
            exact h.history t ht
          · rw [Function.update_self]
            exact hnext
        exact hfollow.congr fun i hi => hpast i (by omega)
      · dsimp only
        rw [hpast _ hpassAt]
        exact h.pass pid snap hparty
      · dsimp only
        obtain ⟨i, hi, halive⟩ := h.leases name o lease ho hlease
        refine ⟨i, hi, ?_⟩
        rw [hpast i (hi.trans hpassAt)]
        exact halive

lemma supervised_inv {s : Supervised} (h : supervised.Reachable s) : s.Inv := by
  refine h.invariant (fun s hs => ?_) fun _ _ _ => Supervised.step_inv
  obtain ⟨hinit, hagents, hfree, htime, hcache, hpassAt⟩ := hs
  refine ⟨cluster_inv (.init hinit), by omega, by omega, fun t ht => by omega,
    fun pid snap hparty => ?_, fun name o lease ho hlease => ?_⟩
  · obtain ⟨node, hnode⟩ := hagents pid
    rw [hparty] at hnode
    cases hnode
  · rw [hfree name o ho] at hlease
    cases hlease

/-! ## The law -/

/-- **Only dead claims lose their lease to the orphan pass.** In every run of the cluster: when the
release of an orphaned lease clears the lease of a claim, that claim no longer exists on the API
server at that moment, or is being deleted. -/
theorem orphan_release_of_dead {s s' : Supervised} (hs : supervised.Reachable s) {pid : ℕ}
    {live : List String} {target : String} {rv : Option ℕ} {patch : DeviceStatusPatch}
    (hstep : supervised.step s
      (.served pid (.patchDeviceStatus (.orphanPass live) target rv patch)) s')
    (name : String) (o o' : Versioned DeviceBody) {lease : Attachment}
    (ho : s.cluster.store.objects name = some o) (hlease : o.value.attachedTo = some lease)
    (ho' : s'.cluster.store.objects name = some o') (hcleared : o'.value.attachedTo = none) :
    ∀ claim ∈ s.claims s.time, claim.uid = some lease.claimUid →
      claim.deletionTimestamp.isSome = true := by
  have hinv := supervised_inv hs
  have hdead : ¬ Alive (s.claims s.passAt) lease.claimUid := by
    cases hstep with
    | call hcall hserved =>
        rcases Cluster.call_lease hinv.cluster hcall hserved name o o' ho ho' with
          hsame | ⟨by_, rv, patch, hcall', hrule, hmerge⟩
        · rw [hcleared, hlease] at hsame
          cases hsame
        · cases hcall'
          obtain ⟨-, snap, hparty, l, ⟨hnone, -⟩ | ⟨hl, -, hwho⟩⟩ := Party.rule_cases hrule
          · rw [hlease] at hnone
            cases hnone
          · obtain rfl : lease = l := by simpa [hlease] using hl
            rw [← (hinv.pass pid snap hparty).2, ← mem_liveUids]
            exact hwho.resolve_left nofun
  obtain ⟨i, hi, halive⟩ := hinv.leases name o lease ho hlease
  have hnow : ¬ Alive (s.claims s.time) lease.claimUid :=
    dead_for_good hinv.history halive hi hdead (hinv.passAt_le.trans hinv.cache_le) le_rfl
  intro claim hclaim huid
  by_contra hnone
  exact hnow ⟨claim, hclaim, huid, by simpa using hnone⟩

/-! A scanner is leased to a claim, the claim is deleted, and the controller hears of it. -/

def scannerBody (attachedTo : Option Attachment) : DeviceBody where
  labels := []
  spec := ⟨"04a9", "1909", none, none, some "Scanner", none, .descriptor⟩
  status := some { phase := some .unplugged, attachedTo := attachedTo }

def scannerLease : Attachment := ⟨"lab", "scan", "uid-scan", "desktop", "2024-01-01T00:00:00Z"⟩

def scannerClaim : UsbDeviceClaim where
  ns := some "lab"
  name := "scan"
  uid := some "uid-scan"
  resourceVersion := 1
  generation := none
  creationTimestamp := none
  deletionTimestamp := none
  ownerReferences := []
  spec := ⟨"desktop", { deviceName := some "scanner" }, none, none⟩
  status := none

/-- The caches while nobody has claimed anything, with this copy of the scanner. -/
def scannerForgotten (copy : Versioned DeviceBody) : Snapshot :=
  { Snapshot.empty with
    devices := ⟨[UsbDevice.ofStored "scanner" copy], List.pairwise_singleton _ _⟩
    vmis := [⟨"lab", "desktop", "vmi-1", some "Running", some "node-a", true, false, false, none,
      [], true, false⟩]
    vmis_nodup := List.nodup_singleton _ }

def scannerClaimed (copy : Versioned DeviceBody) : Snapshot :=
  { scannerForgotten copy with
    claims := [scannerClaim]
    claims_nodup := List.nodup_singleton _
    uids_nodup := List.nodup_singleton _ }

def scannerContext : PassContext := ⟨.newYear, ⟨90⟩, 1704067200⟩

/-- The claim takes the scanner. -/
def scannerLeased : ApiCall :=
  .patchDeviceStatus (.reconciling "uid-scan") "scanner" (some 1)
    { attachedTo := .value scannerLease }

/-- The controller, which no longer knows the claim, releases the scanner. -/
def scannerReleased : ApiCall :=
  .patchDeviceStatus (.orphanPass []) "scanner" (some 2) { attachedTo := .null }

/-- Before the first pass. -/
def scannerIdle : Supervised where
  cluster :=
    { store := ⟨fun n => if n = "scanner" then some ⟨1, scannerBody none⟩ else none, 1⟩
      copies := fun n o => n = "scanner" ∧ o = ⟨1, scannerBody none⟩
      processes := fun _ => ⟨.agent "node-a", pure ()⟩ }
  claims _ := [scannerClaim]
  time := 0
  cache := 0
  passAt := 0

lemma scannerIdle_init : supervised.init scannerIdle := by
  refine ⟨⟨ObjectStore.remembers_single "scanner" ⟨1, scannerBody none⟩, fun _ => rfl⟩,
    fun _ => ⟨"node-a", rfl⟩, fun n o ho => ?_, rfl, rfl, rfl⟩
  simp only [scannerIdle, Option.ite_none_right_eq_some, Option.some.injEq] at ho
  rw [← ho.2]
  rfl

/-- What a process has to do that has just been started with these caches. -/
def scannerPass (snap : Snapshot) : ApiProg Unit :=
  reconcileAll scannerContext snap (fun _ => none) >>= fun _ => pure ()

/-- The first pass has leased the scanner, and has `rest` left to do. -/
def scannerServed (rest : ApiProg Unit) : Cluster :=
  (scannerIdle.cluster.start 0 (.controller (scannerClaimed ⟨1, scannerBody none⟩))
    (reconcileAll scannerContext (scannerClaimed ⟨1, scannerBody none⟩) fun _ => none)).proceed 0
    (scannerIdle.cluster.store.effect scannerLeased) rest

/-- The claim has been deleted, the controller has heard of it and has started another pass. -/
def scannerForgetting (c : Cluster) : Supervised where
  cluster := c.start 0 (.controller (scannerForgotten ⟨2, scannerBody (some scannerLease)⟩))
    (reconcileAll scannerContext (scannerForgotten ⟨2, scannerBody (some scannerLease)⟩)
      fun _ => none)
  claims := Function.update scannerIdle.claims 1 []
  time := 1
  cache := 1
  passAt := 1

/-- The claim is gone when its lease is released. -/
theorem orphan_release_of_dead_scanner :
    ∃ s s' : Supervised, supervised.step s (.served 0 scannerReleased) s' ∧
      (s.cluster.store.objects "scanner").map (·.value.attachedTo) = some (some scannerLease) ∧
      (s'.cluster.store.objects "scanner").map (·.value.attachedTo) = some none ∧
      ∀ claim ∈ s.claims s.time, claim.uid = some scannerLease.claimUid →
        claim.deletionTimestamp.isSome = true := by
  have hleases : (scannerPass (scannerClaimed ⟨1, scannerBody none⟩)).head? =
      some scannerLeased := by decide +kernel
  have hreleases : (scannerPass (scannerForgotten ⟨2, scannerBody (some scannerLease)⟩)).head? =
      some scannerReleased := by decide +kernel
  obtain ⟨k, hk⟩ := Prog.exists_call_of_head? hleases
  obtain ⟨k', hk'⟩ := Prog.exists_call_of_head? hreleases
  have hfree : Genuine scannerIdle.cluster.copies
      (scannerClaimed ⟨1, scannerBody none⟩).devices := genuine_single ⟨rfl, rfl⟩ rfl
  have hstarted := (System.Reachable.init scannerIdle_init).step
    (Supervised.Step.pass scannerContext (fun _ => none) rfl hfree)
  have hleased := hstarted.step (@Supervised.Step.call _ 0 _ k
    (.ok ⟨2, scannerBody (some scannerLease)⟩) _ hk (.done rfl))
  have hgone := hleased.step (@Supervised.Step.change _ [] (by
    rintro uid ⟨c, hc, -⟩
    cases hc))
  have hheard := hgone.step (Supervised.Step.refresh (t := 1) (Nat.zero_le _) le_rfl)
  have hforgetting : supervised.Reachable (scannerForgetting (scannerServed
      (k (.ok ⟨2, scannerBody (some scannerLease)⟩)))) :=
    hheard.step (Supervised.Step.pass scannerContext (fun _ => none) rfl
      (genuine_single (Or.inr rfl) rfl))
  have hrelease : supervised.step (scannerForgetting (scannerServed
      (k (.ok ⟨2, scannerBody (some scannerLease)⟩)))) (.served 0 scannerReleased) _ :=
    Supervised.Step.call (k := k') (x := .ok ⟨3, scannerBody none⟩) hk' (.done rfl)
  exact ⟨_, _, hrelease, rfl, rfl, orphan_release_of_dead hforgetting hrelease "scanner"
    ⟨2, scannerBody (some scannerLease)⟩ ⟨3, scannerBody none⟩ rfl rfl rfl rfl⟩

end AtomicUsb
