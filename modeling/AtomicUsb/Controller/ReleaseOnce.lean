import AtomicUsb.Controller.EarlyRelease
import Mathlib.Algebra.BigOperators.Intervals
import Mathlib.Order.Interval.Finset.Nat

/-!
# Releasing a boot once

Nothing in a single snapshot tells the pause of a boot from a later one.  What keeps the controller
from resuming an instance twice is what earlier passes left behind: the `released` map, which lives
as long as the process and forgets only instances that are gone, and the `Released` report on the
holding claims, which outlives it.

`resumed_at_most_once` follows both through every sequence of passes.  The map alone is enough
within one process; over restarts it takes a report that was persisted on a claim which goes on
holding the boot and is reconciled in every later pass.
-/

namespace AtomicUsb

/-- A pass that was made: what it started from, its calls with their answers, and its result. -/
structure Pass where
  ctx : PassContext
  snap : Snapshot
  released : Released
  trace : List ApiEvent
  result : PassResult
  runs : (reconcileAll ctx snap released).Runs trace result

namespace Pass

variable (p : Pass) {uid : String}

def Observes (uid : String) : Prop := uid ∈ p.snap.vmis.map (·.uid)

/-- The pass calls `unpause` for what it takes for this instance. -/
def Unpauses (uid : String) : Prop := ∃ ns name, ApiCall.unpause ns name uid ∈ p.trace.map (·.1)

variable {p}

lemma Unpauses.release (h : p.Unpauses uid) :
    ∃ (released : Released) (reason : String) (v : VmiInfo), v ∈ p.snap.vmis ∧ v.uid = uid ∧
      (∀ uid, (p.released.retainLive p.snap uid).isSome = true → (released uid).isSome = true) ∧
      bootHoldAction p.ctx (holdsOf p.result.outcomes (v.ns, v.name)) (p.snap.vm? (v.ns, v.name))
        (some v) released = .release reason := by
  obtain ⟨ns, name, h⟩ := h
  obtain ⟨⟨call, x⟩, he, heq⟩ := List.mem_map.mp h
  dsimp only at heq
  subst heq
  obtain ⟨released, reason, v, hle, hrel, hv, rfl⟩ := unpause_of_runs p.ctx p.runs he
  have hkey : (v.ns, v.name) = (ns, name) := by simpa using List.find?_some hv
  refine ⟨released, reason, v, List.mem_of_find?_eq_some hv, rfl, hle, ?_⟩
  rw [hkey]
  exact hrel

lemma Unpauses.observes (h : p.Unpauses uid) : p.Observes uid := by
  obtain ⟨-, -, v, hv, rfl, -⟩ := h.release
  exact List.mem_map_of_mem hv

lemma retainLive_of_observes (h : p.Observes uid) :
    p.released.retainLive p.snap uid = p.released uid := if_pos h

/-- An instance in the map is left alone. -/
lemma not_unpauses_of_released (h : (p.released uid).isSome = true) : ¬ p.Unpauses uid := by
  intro hcall
  obtain ⟨released, reason, v, hv, rfl, hle, hrel⟩ := hcall.release
  obtain ⟨w, hw, -, hnot, -⟩ := release_of_decideBootHold hrel
  have hsome : (released v.uid).isSome = true := by
    refine hle v.uid ?_
    rw [retainLive_of_observes (List.mem_map_of_mem hv)]
    exact h
  simp [hsome] at hnot

/-- … and stays in it as long as it exists. -/
lemma released_of_released (h : (p.released uid).isSome = true) (hobs : p.Observes uid) :
    (p.result.released uid).isSome = true := by
  rcases reconcileAll_memory p.ctx p.runs uid with ⟨-, heq⟩ | hmem
  · rw [heq]
    exact h
  · have hsame : (p.released.retainLive p.snap).memory uid = p.released.memory uid := by
      unfold Released.memory
      rw [retainLive_of_observes hobs]
    have hle : p.released.memory uid ≤ p.result.released.memory uid := by omega
    exact Released.isSome_of_memory_le hle h

/-- The number of times the pass resumed the instance. -/
def resumptions (p : Pass) (uid : String) : ℕ := p.trace.countP (resumes uid)

lemma unpauses_of_resumptions (h : p.resumptions uid ≠ 0) : p.Unpauses uid := by
  obtain ⟨⟨c, x⟩, he, hres⟩ := List.countP_pos_iff.mp (Nat.pos_of_ne_zero h)
  cases c with
  | unpause ns name observed =>
      cases x with
      | error e => cases hres
      | ok _ =>
          obtain rfl : observed = uid := by simpa [resumes] using hres
          exact ⟨ns, name, List.mem_map.mpr ⟨_, he, rfl⟩⟩
  | patchDeviceStatus | applyDevice | patchOwnerReferences | patchClaimStatus => cases hres

lemma resumptions_le_one : p.resumptions uid ≤ 1 := by
  rcases reconcileAll_memory p.ctx p.runs uid with ⟨hzero, -⟩ | hmem
  · unfold resumptions
    omega
  · have := Released.memory_le_one p.result.released uid
    unfold resumptions
    omega

/-- What a pass resumed it remembers. -/
lemma released_of_resumptions (h : p.resumptions uid ≠ 0) :
    (p.result.released uid).isSome = true := by
  rcases reconcileAll_memory p.ctx p.runs uid with ⟨hzero, -⟩ | hmem
  · exact absurd hzero h
  · by_contra hnot
    have hzero : p.result.released.memory uid = 0 := if_neg hnot
    unfold resumptions at h
    omega

end Pass

/-- Passes one after the other, by one controller process or by several.  The VMI cache shows past
states of the server, never an older one than before. -/
structure ControllerRun where
  pass : ℕ → Pass
  /-- The pass is the first one of a new process. -/
  restart : ℕ → Prop
  /-- The instances on the server at each moment. -/
  instances : ℕ → List VmiInfo
  /-- The moment that the cache shows to a pass. -/
  seen : ℕ → ℕ
  released_first : ∀ n, restart n → (pass n).released = fun _ => none
  released_next : ∀ n, ¬ restart (n + 1) → (pass (n + 1)).released = (pass n).result.released
  seen_mono : Monotone seen
  vmis_eq : ∀ n v, v ∈ (pass n).snap.vmis ↔ v ∈ instances (seen n)
  /-- A UID is not used again once its instance is gone. -/
  uid_once : ∀ {i j k uid}, i ≤ j → j ≤ k → uid ∈ (instances i).map (·.uid) →
    uid ∈ (instances k).map (·.uid) → uid ∈ (instances j).map (·.uid)
  /-- A UID belongs to one instance, whose name and start strategy do not change. -/
  uid_same : ∀ {i j v w}, v ∈ instances i → w ∈ instances j → v.uid = w.uid →
    v.ns = w.ns ∧ v.name = w.name ∧ v.startPaused = w.startPaused

namespace ControllerRun

variable (run : ControllerRun) {uid : String} {n : ℕ}

lemma observes_iff : (run.pass n).Observes uid ↔
    uid ∈ (run.instances (run.seen n)).map (·.uid) := by
  unfold Pass.Observes
  rw [List.mem_map, List.mem_map]
  exact exists_congr fun v => and_congr_left fun _ => run.vmis_eq n v

/-- An instance that is gone does not come back. -/
lemma not_observes_of_le {i j k : ℕ} (hij : i ≤ j) (hjk : j ≤ k) (hi : (run.pass i).Observes uid)
    (hj : ¬ (run.pass j).Observes uid) : ¬ (run.pass k).Observes uid := by
  rw [observes_iff] at hi hj ⊢
  exact fun hk => hj (run.uid_once (run.seen_mono hij) (run.seen_mono hjk) hi hk)

/-- The instance has been released: it was seen and is in the map, or it is gone for good. -/
def Spent (uid : String) (n : ℕ) : Prop :=
  (∃ i < n, (run.pass i).Observes uid) ∧ ((run.pass n).released uid).isSome = true ∨
    ∀ k, n ≤ k → ¬ (run.pass k).Observes uid

variable {run}

lemma Spent.not_unpauses (h : run.Spent uid n) : ¬ (run.pass n).Unpauses uid := by
  rcases h with ⟨-, hmap⟩ | hgone
  · exact Pass.not_unpauses_of_released hmap
  · exact fun hcall => hgone n le_rfl hcall.observes

lemma Spent.succ (h : run.Spent uid n) (hrestart : ¬ run.restart (n + 1)) :
    run.Spent uid (n + 1) := by
  rcases h with ⟨⟨i, hi, hobs⟩, hmap⟩ | hgone
  · by_cases hn : (run.pass n).Observes uid
    · refine Or.inl ⟨⟨n, Nat.lt_succ_self n, hn⟩, ?_⟩
      rw [run.released_next n hrestart]
      exact Pass.released_of_released hmap hn
    · exact Or.inr fun k hk => run.not_observes_of_le hi.le (by omega) hobs hn
  · exact Or.inr fun k hk => hgone k (by omega)

/-- Within a process, what is spent stays so. -/
lemma Spent.of_le {m : ℕ} (h : run.Spent uid m) (hmn : m ≤ n)
    (hproc : ∀ k, m < k → k ≤ n → ¬ run.restart k) : run.Spent uid n := by
  induction n, hmn using Nat.le_induction with
  | base => exact h
  | succ n hmn ih =>
      exact (ih fun k hk hkn => hproc k hk (by omega)).succ (hproc (n + 1) (by omega) le_rfl)

lemma spent_of_resumptions (h : (run.pass n).resumptions uid ≠ 0)
    (hrestart : ¬ run.restart (n + 1)) : run.Spent uid (n + 1) := by
  refine Or.inl ⟨⟨n, Nat.lt_succ_self n, (Pass.unpauses_of_resumptions h).observes⟩, ?_⟩
  rw [run.released_next n hrestart]
  exact Pass.released_of_resumptions h

/-- A process that has resumed an instance does not ask for it again. -/
lemma not_unpauses_after {m : ℕ} (h : (run.pass m).resumptions uid ≠ 0) (hmn : m < n)
    (hproc : ∀ k, m < k → k ≤ n → ¬ run.restart k) : ¬ (run.pass n).Unpauses uid :=
  ((spent_of_resumptions h (hproc (m + 1) (by omega) (by omega))).of_le hmn
    fun k hk hkn => hproc k (by omega) hkn).not_unpauses

/-- If no two passes resumed the instance, it was resumed once at most. -/
lemma sum_resumptions_le_one {m : ℕ}
    (h : ∀ i j, m ≤ i → i < j → j < n → (run.pass i).resumptions uid ≠ 0 →
      (run.pass j).resumptions uid = 0) :
    ∑ i ∈ Finset.Ico m n, (run.pass i).resumptions uid ≤ 1 := by
  by_cases hsome : ∃ i ∈ Finset.Ico m n, (run.pass i).resumptions uid ≠ 0
  · obtain ⟨i, hi, hne⟩ := hsome
    have hothers : ∀ j ∈ Finset.Ico m n, j ≠ i → (run.pass j).resumptions uid = 0 := by
      intro j hj hji
      rw [Finset.mem_Ico] at hi hj
      rcases lt_or_gt_of_ne hji with hlt | hlt
      · by_contra hj0
        exact hne (h j i hj.1 hlt hi.2 hj0)
      · exact h i j hi.1 hlt hj.2 hne
    rw [Finset.sum_eq_single_of_mem i hi hothers]
    exact Pass.resumptions_le_one
  · rw [Finset.sum_eq_zero]
    · exact Nat.zero_le 1
    · intro i hi
      by_contra hne
      exact hsome ⟨i, hi, hne⟩

variable (run) in
/-- The number of calls made before a pass. -/
def start (n : ℕ) : ℕ := ∑ i ∈ Finset.range n, (run.pass i).trace.length

lemma start_succ : run.start (n + 1) = run.start n + (run.pass n).trace.length :=
  Finset.sum_range_succ _ _

lemma start_mono : Monotone run.start :=
  monotone_nat_of_le_succ fun _ => start_succ.symm ▸ Nat.le_add_right _ _

end ControllerRun

/-! ## Over restarts -/

/-- The report says that this instance was released. -/
def ReportsReleased (uid : String) (report : Option BootHoldStatus) : Prop :=
  ∃ b, report = some b ∧ b.state = .released ∧ b.vmiUid = some uid

/-- What a call does to the boot-hold report of one claim when it takes effect. -/
def ApiCall.reportAfter (ns name : String) (report : Option BootHoldStatus) :
    ApiCall → Option BootHoldStatus
  | .patchClaimStatus _ ns' name' patch =>
    if ns' = ns ∧ name' = name then patch.mergeBootHold report else report
  | _ => report

/-- What an answered call did to the report.  A call that failed may have taken effect. -/
def Recorded (ns name : String) (e : ApiEvent) (report report' : Option BootHoldStatus) : Prop :=
  report' = e.1.reportAfter ns name report ∨
    (e.1.failure e.2).isSome = true ∧ report' = report

/-- The boot-hold report of one claim on the server, call by call, from a pass on, and the moments
of it that the claim cache shows.  Only the controller writes the report. -/
structure ReportHistory (run : ControllerRun) (since : ℕ) (ns name : String) where
  /-- The report after so many calls of the run. -/
  report : ℕ → Option BootHoldStatus
  step : ∀ n k e, since ≤ n → (run.pass n).trace[k]? = some e →
    Recorded ns name e (report (run.start n + k)) (report (run.start n + k + 1))
  /-- The moment that the cache shows to a pass. -/
  shown : ℕ → ℕ
  shown_mono : Monotone shown
  shown_le : ∀ n, shown n ≤ run.start n
  /-- A new process starts with fresh caches. -/
  shown_restart : ∀ n, run.restart n → shown n = run.start n
  cache : ∀ n, run.start since ≤ shown n → ∀ c ∈ (run.pass n).snap.claims,
    c.namespaceOrDefault = ns → c.name = name → c.statusOrDefault.bootHold = report (shown n)

namespace Pass

variable {p : Pass} {uid ns name : String} {v : VmiInfo}

/-- In this pass the claim holds the boot of the VM and is reconciled without error. -/
def Holds (p : Pass) (ns name : String) (key : String × String) : Prop :=
  ∃ c o, (c, Except.ok o) ∈ p.result.outcomes ∧ c.namespaceOrDefault = ns ∧ c.name = name ∧
    c.vmKey = key ∧ c.spec.holdBoot.isSome = true

lemma mem_claims_of_outcome {c : UsbDeviceClaim} {out : Except ApiError ClaimOutcome}
    (h : (c, out) ∈ p.result.outcomes) : c ∈ p.snap.claims := by
  obtain ⟨devices, err, -, heq⟩ | ⟨tr₁, tr₂, tr₃, devices, _, _, -, -, h₂, -⟩ :=
    reconcileAll_runs p.ctx p.runs
  · rw [heq] at h
    cases h
  · have hmem : c ∈ p.result.outcomes.map Prod.fst := List.mem_map_of_mem h
    rw [(claimPass_runs p.ctx h₂).1] at hmem
    exact (Snapshot.mem_liveClaims.mp hmem).1

/-- A release on record, in the map or with one of the holding claims, leaves nothing to do for an
instance that starts paused. -/
lemma bootHoldAction_nothing {ctx : PassContext} {claims : List BootHoldClaim}
    {vm : Option VmInfo} {released : Released} (hstart : v.startPaused = true)
    (h : (released v.uid).isSome = true ∨ ∃ c ∈ claims, ReportsReleased v.uid c.current) :
    bootHoldAction ctx claims vm (some v) released = .nothing := by
  have hrel : ((((some v).map (·.uid)).bind released).isSome ||
      releaseRecorded claims ((some v).map (·.uid))) = true := by
    rw [Bool.or_eq_true]
    refine h.imp id ?_
    rintro ⟨c, hc, b, hb, hstate, huid⟩
    refine List.any_eq_true.mpr ⟨c, hc, ?_⟩
    simp [hb, hstate, huid]
  rcases decideBootHold_of_released (i := ⟨vm, some v, claims, _, ctx.now⟩) hrel with h | ⟨_, _, h⟩
  · exact h
  · simp [hstart] at h

/-- The pass knows that the instance was released: from its map, or from the report that its cache
shows for the claim. -/
def Knows (p : Pass) (ns name uid : String) : Prop :=
  (p.released uid).isSome = true ∨ ∀ c ∈ p.snap.claims, c.namespaceOrDefault = ns →
    c.name = name → ReportsReleased uid c.statusOrDefault.bootHold

/-- A pass that knows of the release leaves the instance alone. -/
lemma Knows.nothing (hknows : p.Knows ns name v.uid) (hv : v ∈ p.snap.vmis)
    (hstart : v.startPaused = true) (hholds : p.Holds ns name (v.ns, v.name))
    {released : Released}
    (hle : ∀ uid, (p.released.retainLive p.snap uid).isSome = true →
      (released uid).isSome = true) :
    bootHoldAction p.ctx (holdsOf p.result.outcomes (v.ns, v.name)) (p.snap.vm? (v.ns, v.name))
      (some v) released = .nothing := by
  refine bootHoldAction_nothing hstart ?_
  refine hknows.imp (fun hmap => hle v.uid ?_) fun hreport => ?_
  · rw [retainLive_of_observes (List.mem_map_of_mem hv)]
    exact hmap
  · obtain ⟨c, o, hmem, hns, hname, hkey, hspec⟩ := hholds
    obtain ⟨spec, hspec⟩ := Option.isSome_iff_exists.mp hspec
    obtain ⟨ready, ho⟩ := hold_of_outcome p.ctx p.runs hmem
    rw [holdOf, hspec] at ho
    exact ⟨_, mem_holdsOf.mpr ⟨c, o, hmem, ho, hkey⟩,
      hreport c (mem_claims_of_outcome hmem) hns hname⟩

lemma Knows.not_unpauses (hknows : p.Knows ns name uid) (hv : v ∈ p.snap.vmis)
    (huid : v.uid = uid) (hstart : v.startPaused = true)
    (hholds : p.Holds ns name (v.ns, v.name))
    (hsame : ∀ w ∈ p.snap.vmis, w.uid = uid → w.ns = v.ns ∧ w.name = v.name) :
    ¬ p.Unpauses uid := by
  subst huid
  intro hcall
  obtain ⟨released, reason, w, hw, huid, hle, hrel⟩ := hcall.release
  obtain ⟨hns, hname⟩ := hsame w hw huid
  obtain rfl : w = v :=
    List.inj_on_of_nodup_map p.snap.vmis_nodup hw hv (Prod.ext hns hname)
  rw [hknows.nothing hv hstart hholds hle] at hrel
  cases hrel

/-- No call of such a pass takes the release off the claim's report. -/
lemma Knows.recorded (hknows : p.Knows ns name uid) (hv : v ∈ p.snap.vmis)
    (huid : v.uid = uid) (hstart : v.startPaused = true)
    (hholds : p.Holds ns name (v.ns, v.name)) {e : ApiEvent} (he : e ∈ p.trace)
    {report report' : Option BootHoldStatus} (hrec : Recorded ns name e report report')
    (h : ReportsReleased uid report) : ReportsReleased uid report' := by
  subst huid
  obtain ⟨c, o, hmem, hns, hname, hkey, hspec⟩ := hholds
  have hclaim : ∀ c' ∈ p.snap.claims, c'.namespaceOrDefault = ns → c'.name = name → c' = c :=
    fun c' hc' hns' hname' => Snapshot.claim_unique hc' (mem_claims_of_outcome hmem)
      (hns'.trans hns.symm) (hname'.trans hname.symm)
  rcases hrec with hrec | ⟨-, rfl⟩
  swap
  · exact h
  subst hrec
  rcases reconcileAll_event p.ctx p.runs he with hcall | ⟨c', hc', hcall⟩ |
    ⟨key, -, released, hle, hcall⟩
  · generalize e.1 = call at hcall ⊢
    cases hcall <;> exact h
  · generalize e.1 = call at hcall ⊢
    cases hcall with
    | device => exact h
    | owner => exact h
    | @status patch hpatch =>
        dsimp only [ApiCall.reportAfter]
        split_ifs with hkey'
        · obtain rfl := hclaim c' (Snapshot.mem_liveClaims.mp hc').1 hkey'.1 hkey'.2
          have hstale : c'.staleBootHold = false := by
            simp [UsbDeviceClaim.staleBootHold, Option.isNone_eq_false_iff.mpr hspec]
          unfold ClaimStatusPatch.mergeBootHold
          rw [hpatch, hstale]
          exact h
        · exact h
  · -- a report on the claim can only be made for its own VM
    have hown : ∀ hold ∈ holdsOf p.result.outcomes key, key.1 = ns → hold.name = name →
        key = (v.ns, v.name) ∧ hold.current = c.statusOrDefault.bootHold := by
      intro hold hhold hns' hname'
      obtain ⟨c', o', hmem', ho', rfl⟩ := mem_holdsOf.mp hhold
      obtain ⟨ready, ho⟩ := hold_of_outcome p.ctx p.runs hmem'
      obtain ⟨spec, -, rfl⟩ := Option.map_eq_some_iff.mp (ho.symm.trans ho')
      obtain rfl := hclaim c' (mem_claims_of_outcome hmem') hns' hname'
      exact ⟨hkey, rfl⟩
    have hvmi := Snapshot.vmi?_of_mem hv
    generalize e.1 = call at hcall ⊢
    cases hcall with
    | resume => exact h
    | @report hold message hhold =>
        dsimp only [ApiCall.reportAfter]
        split_ifs with hkey'
        · obtain ⟨rfl, -⟩ := hown hold hhold hkey'.1 hkey'.2
          rw [hvmi, hknows.nothing hv hstart ⟨c, o, hmem, hns, hname, hkey, hspec⟩ hle]
          exact ⟨_, rfl, rfl, rfl⟩
        · exact h
    | @clear hold hhold hmap hstale =>
        dsimp only [ApiCall.reportAfter]
        split_ifs with hkey'
        · exfalso
          obtain ⟨rfl, hcurrent⟩ := hown hold hhold hkey'.1 hkey'.2
          rw [hvmi] at hmap hstale
          rcases hknows with hsome | hreport
          · have := hle v.uid (by
              rw [retainLive_of_observes (List.mem_map_of_mem hv)]
              exact hsome)
            rw [Option.map_some, Option.bind_some] at hmap
            rw [hmap] at this
            cases this
          · obtain ⟨b, hb, hstate, huid⟩ := hreport c (mem_claims_of_outcome hmem) hns hname
            simp [bootHoldIsStale, hcurrent, hb, hstate, huid] at hstale
        · exact h

end Pass

/-- The release of an instance that starts paused, persisted by the process that made it on a claim
which from then on holds the boot of that VM and is reconciled without error in every pass. -/
structure PersistedRelease (run : ControllerRun) (uid : String) where
  vmi : VmiInfo
  vmi_uid : vmi.uid = uid
  startPaused : vmi.startPaused = true
  /-- The first pass that resumed the instance. -/
  first : ℕ
  vmi_mem : vmi ∈ (run.pass first).snap.vmis
  resumed : (run.pass first).resumptions uid ≠ 0
  none_before : ∀ j < first, (run.pass j).resumptions uid = 0
  /-- A pass of the same process by the end of which the report is on the server. -/
  saved : ℕ
  first_le : first ≤ saved
  same_process : ∀ k, first < k → k ≤ saved → ¬ run.restart k
  ns : String
  name : String
  history : ReportHistory run saved ns name
  persisted : ReportsReleased uid (history.report (run.start (saved + 1)))
  holds : ∀ n, saved < n → (run.pass n).Holds ns name (vmi.ns, vmi.name)

namespace PersistedRelease

variable {run : ControllerRun} {uid : String} (r : PersistedRelease run uid) {n : ℕ}

/-- From the pass that saved it on, the report stays on the server, and it is in the map until the
process ends; or the instance is gone. -/
def Kept (n : ℕ) : Prop :=
  (∀ k, n ≤ k → ¬ (run.pass k).Observes uid) ∨
    (∀ t, run.start (r.saved + 1) ≤ t → t ≤ run.start n →
      ReportsReleased uid (r.history.report t)) ∧
    (((run.pass n).released uid).isSome = true ∨ ∃ k, r.saved < k ∧ k ≤ n ∧ run.restart k)

lemma kept_saved : r.Kept (r.saved + 1) := by
  have hreport : ∀ t, run.start (r.saved + 1) ≤ t → t ≤ run.start (r.saved + 1) →
      ReportsReleased uid (r.history.report t) := by
    intro t ht ht'
    rw [le_antisymm ht' ht]
    exact r.persisted
  by_cases hrestart : run.restart (r.saved + 1)
  · exact Or.inr ⟨hreport, Or.inr ⟨_, Nat.lt_succ_self _, le_rfl, hrestart⟩⟩
  · have hproc : ∀ k, r.first < k → k ≤ r.saved + 1 → ¬ run.restart k := by
      intro k hk hk'
      rcases Nat.lt_or_eq_of_le hk' with hlt | rfl
      · exact r.same_process k hk (by omega)
      · exact hrestart
    have hfirst := r.first_le
    have hspent : run.Spent uid (r.saved + 1) :=
      (ControllerRun.spent_of_resumptions r.resumed (hproc _ (by omega) (by omega))).of_le
        (by omega) fun k hk hk' => hproc k (by omega) hk'
    rcases hspent with ⟨-, hmap⟩ | hgone
    · exact Or.inr ⟨hreport, Or.inl hmap⟩
    · exact Or.inl hgone

/-- The instance as a later pass sees it. -/
lemma exists_vmi (h : (run.pass n).Observes uid) :
    ∃ w ∈ (run.pass n).snap.vmis, w.uid = uid ∧ w.startPaused = true ∧ w.ns = r.vmi.ns ∧
      w.name = r.vmi.name := by
  obtain ⟨w, hw, huid⟩ := List.mem_map.mp h
  obtain ⟨hns, hname, hstart⟩ := run.uid_same ((run.vmis_eq n w).mp hw)
    ((run.vmis_eq r.first r.vmi).mp r.vmi_mem) (huid.trans r.vmi_uid.symm)
  exact ⟨w, hw, huid, hstart.trans r.startPaused, hns, hname⟩

variable {r}

lemma Kept.knows (h : r.Kept n) (hobs : (run.pass n).Observes uid) :
    (run.pass n).Knows r.ns r.name uid := by
  rcases h with hgone | ⟨hreport, hmap | ⟨k, hsaved, hkn, hrestart⟩⟩
  · exact absurd hobs (hgone n le_rfl)
  · exact Or.inl hmap
  · -- the cache was fresh when the process began
    have hfresh : run.start (r.saved + 1) ≤ r.history.shown n :=
      calc run.start (r.saved + 1) ≤ run.start k := ControllerRun.start_mono hsaved
        _ = r.history.shown k := (r.history.shown_restart k hrestart).symm
        _ ≤ r.history.shown n := r.history.shown_mono hkn
    refine Or.inr fun c hc hns hname => ?_
    rw [r.history.cache n ((ControllerRun.start_mono (Nat.le_succ _)).trans hfresh) c hc hns hname]
    exact hreport _ hfresh (r.history.shown_le n)

lemma Kept.not_unpauses (h : r.Kept n) (hn : r.saved < n) : ¬ (run.pass n).Unpauses uid := by
  intro hcall
  obtain ⟨w, hw, huid, hstart, hns, hname⟩ := r.exists_vmi hcall.observes
  have hholds := r.holds n hn
  rw [← hns, ← hname] at hholds
  refine (h.knows hcall.observes).not_unpauses hw huid hstart hholds (fun w' hw' huid' => ?_) hcall
  obtain ⟨hns', hname', -⟩ := run.uid_same ((run.vmis_eq n w').mp hw')
    ((run.vmis_eq n w).mp hw) (huid'.trans huid.symm)
  exact ⟨hns', hname'⟩

lemma Kept.succ (h : r.Kept n) (hn : r.saved < n) : r.Kept (n + 1) := by
  by_cases hobs : (run.pass n).Observes uid
  swap
  · refine Or.inl fun k hk => run.not_observes_of_le ?_ (Nat.le_of_succ_le hk)
      (Pass.unpauses_of_resumptions r.resumed).observes hobs
    exact r.first_le.trans hn.le
  have hknows := h.knows hobs
  obtain ⟨w, hw, huid, hstart, hns, hname⟩ := r.exists_vmi hobs
  have hholds := r.holds n hn
  rw [← hns, ← hname] at hholds
  rcases h with hgone | ⟨hreport, hmap⟩
  · exact absurd hobs (hgone n le_rfl)
  have hcalls : ∀ k, k ≤ (run.pass n).trace.length →
      ReportsReleased uid (r.history.report (run.start n + k)) := by
    intro k
    induction k with
    | zero => exact fun _ => hreport _ (ControllerRun.start_mono hn) le_rfl
    | succ k ih =>
        intro hk
        have he := List.getElem?_eq_getElem (l := (run.pass n).trace) hk
        have hstep := r.history.step n k _ hn.le he
        exact hknows.recorded hw huid hstart hholds (List.getElem_mem hk) hstep (ih (by omega))
  refine Or.inr ⟨fun t ht ht' => ?_, ?_⟩
  · rcases Nat.lt_or_ge t (run.start n) with hlt | hge
    · exact hreport t ht hlt.le
    · rw [ControllerRun.start_succ] at ht'
      have := hcalls (t - run.start n) (by omega)
      rwa [Nat.add_sub_cancel' hge] at this
  · by_cases hrestart : run.restart (n + 1)
    · exact Or.inr ⟨n + 1, by omega, le_rfl, hrestart⟩
    · rcases hmap with hmap | ⟨k, hk, hkn, hk'⟩
      · left
        rw [run.released_next n hrestart]
        exact Pass.released_of_released hmap hobs
      · exact Or.inr ⟨k, hk, by omega, hk'⟩

lemma kept_of_lt (hn : r.saved < n) : r.Kept n := by
  induction n, Nat.succ_le_of_lt hn using Nat.le_induction with
  | base => exact r.kept_saved
  | succ n hle ih => exact (ih hle).succ hle

end PersistedRelease

/-- **An instance is resumed at most once.**  One process resumes an instance at most once,
whatever fails and whoever else pauses and resumes it.  For an instance that starts paused this
holds over restarts too, if its release was persisted on a claim that goes on holding the boot. -/
theorem resumed_at_most_once (run : ControllerRun) (uid : String) :
    (∀ m n, (∀ k, m < k → k < n → ¬ run.restart k) →
      ∑ i ∈ Finset.Ico m n, (run.pass i).resumptions uid ≤ 1) ∧
    (Nonempty (PersistedRelease run uid) →
      ∀ n, ∑ i ∈ Finset.Ico 0 n, (run.pass i).resumptions uid ≤ 1) := by
  have hzero : ∀ {j}, ¬ (run.pass j).Unpauses uid → (run.pass j).resumptions uid = 0 := by
    intro j hnot
    by_contra hne
    exact hnot (Pass.unpauses_of_resumptions hne)
  constructor
  · intro m n hproc
    refine ControllerRun.sum_resumptions_le_one fun i j hi hij hj hne => hzero ?_
    exact ControllerRun.not_unpauses_after hne hij fun k hk hkj => hproc k (by omega) (by omega)
  · rintro ⟨r⟩ n
    refine ControllerRun.sum_resumptions_le_one fun i j _ hij _ hne => hzero ?_
    have hfirst : r.first ≤ i := by
      by_contra hlt
      exact hne (r.none_before i (by omega))
    rcases Nat.lt_or_ge r.saved j with hlt | hge
    · exact (PersistedRelease.kept_of_lt hlt).not_unpauses hlt
    · exact ControllerRun.not_unpauses_after r.resumed (by omega)
        fun k hk hkj => r.same_process k hk (by omega)

/-! ### A process for every pass

The camera is ready, so the first process resumes the VM.  From then on somebody keeps it paused,
and every pass is made by a new process. -/

def cameraReport : BootHoldStatus where
  state := .released
  vmiUid := some "vmi-1"
  since := "2024-01-01T00:00:00Z"
  message := some "the device is ready"

def releasedClaim : UsbDeviceClaim :=
  { cameraClaim with
    status := some { cameraClaim.statusOrDefault with bootHold := some cameraReport } }

def cameraReleased : Snapshot :=
  desktopSnapshot [releasedClaim] (by decide +kernel) (by decide +kernel)

/-- A pass of a new process, with every call answered well. -/
def Pass.fresh (snap : Snapshot) : Pass where
  ctx := newYearPass
  snap := snap
  released := fun _ => none
  trace := ((reconcileAll newYearPass snap fun _ => none).follow (answerExcept fun _ => false)).1
  result := ((reconcileAll newYearPass snap fun _ => none).follow (answerExcept fun _ => false)).2
  runs := Prog.runs_follow _ _

def cameraRun : ControllerRun where
  pass n := .fresh (if n = 0 then cameraOnly else cameraReleased)
  restart _ := True
  instances _ := [desktopVmi]
  seen := id
  released_first _ _ := rfl
  released_next _ h := absurd trivial h
  seen_mono := monotone_id
  vmis_eq n v := by
    show v ∈ (if n = 0 then cameraOnly else cameraReleased).vmis ↔ v ∈ [desktopVmi]
    split_ifs <;> exact Iff.rfl
  uid_once _ _ h _ := h
  uid_same hv hw _ := by
    obtain rfl := List.mem_singleton.mp hv
    obtain rfl := List.mem_singleton.mp hw
    exact ⟨rfl, rfl, rfl⟩

lemma cameraRun_pass_succ (n : ℕ) : cameraRun.pass (n + 1) = .fresh cameraReleased :=
  congrArg Pass.fresh (if_neg (Nat.succ_ne_zero n))

lemma cameraRun_start_one : cameraRun.start 1 = 3 := by
  rw [ControllerRun.start_succ]
  decide +kernel

lemma three_le_cameraRun_start (n : ℕ) : 3 ≤ cameraRun.start (n + 1) := by
  rw [← cameraRun_start_one]
  exact ControllerRun.start_mono (Nat.succ_le_succ (Nat.zero_le n))

/-- The first pass makes three calls, and the last of them writes the report. -/
def cameraReportAfter (calls : ℕ) : Option BootHoldStatus :=
  if calls < 3 then none else some cameraReport

lemma cameraReportAfter_of_le {calls : ℕ} (h : 3 ≤ calls) :
    cameraReportAfter calls = some cameraReport := if_neg (by omega)

lemma cameraRun_step (n k : ℕ) (e : ApiEvent) (he : (cameraRun.pass n).trace[k]? = some e) :
    cameraReportAfter (cameraRun.start n + k + 1) =
      e.1.reportAfter "lab" "camera" (cameraReportAfter (cameraRun.start n + k)) := by
  cases n with
  | zero =>
      have hlen : (cameraRun.pass 0).trace.length = 3 := by decide +kernel
      have hk : k < 3 := hlen ▸ (List.getElem?_eq_some_iff.mp he).1
      have hall : ∀ k < 3, ((cameraRun.pass 0).trace[k]?).all (fun e =>
          decide (cameraReportAfter (k + 1) =
            e.1.reportAfter "lab" "camera" (cameraReportAfter k))) = true := by
        decide +kernel
      have := hall k hk
      rw [he] at this
      simpa [ControllerRun.start] using this
  | succ n =>
      have hall : (Pass.fresh cameraReleased).trace.all (fun e => decide (some cameraReport =
          e.1.reportAfter "lab" "camera" (some cameraReport))) = true := by
        decide +kernel
      rw [cameraRun_pass_succ] at he
      have hstart := three_le_cameraRun_start n
      rw [cameraReportAfter_of_le (by omega), cameraReportAfter_of_le (by omega)]
      simpa using List.all_eq_true.mp hall e (List.mem_of_getElem? he)

def cameraHistory : ReportHistory cameraRun 0 "lab" "camera" where
  report := cameraReportAfter
  step n k e _ he := Or.inl (cameraRun_step n k e he)
  shown := cameraRun.start
  shown_mono := ControllerRun.start_mono
  shown_le _ := le_rfl
  shown_restart _ _ := rfl
  cache n _ c hc _ _ := by
    cases n with
    | zero =>
        obtain rfl := List.mem_singleton.mp hc
        rfl
    | succ n =>
        obtain rfl := List.mem_singleton.mp hc
        rw [cameraReportAfter_of_le (three_le_cameraRun_start n)]
        rfl

lemma cameraRun_holds (n : ℕ) (hn : 0 < n) :
    (cameraRun.pass n).Holds "lab" "camera" ("lab", "desktop") := by
  obtain ⟨n, rfl⟩ := Nat.exists_eq_succ_of_ne_zero hn.ne'
  rw [Nat.succ_eq_add_one, cameraRun_pass_succ]
  have hmap : (Pass.fresh cameraReleased).result.outcomes.map (fun p => (p.1, p.2.toBool)) =
      [(releasedClaim, true)] := by
    decide +kernel
  have hmem : (releasedClaim, true) ∈
      (Pass.fresh cameraReleased).result.outcomes.map (fun p => (p.1, p.2.toBool)) := by
    rw [hmap]
    exact List.mem_singleton_self _
  obtain ⟨⟨c, err | o⟩, hc, heq⟩ := List.mem_map.mp hmem
  · simp [Except.toBool] at heq
  · obtain rfl : c = releasedClaim := (Prod.mk.inj heq).1
    exact ⟨_, o, hc, rfl, rfl, rfl, rfl⟩

def cameraPersisted : PersistedRelease cameraRun "vmi-1" where
  vmi := desktopVmi
  vmi_uid := rfl
  startPaused := rfl
  first := 0
  vmi_mem := List.mem_singleton_self _
  resumed := by decide +kernel
  none_before _ h := absurd h (Nat.not_lt_zero _)
  saved := 0
  first_le := le_rfl
  same_process _ h h' := by omega
  ns := "lab"
  name := "camera"
  history := cameraHistory
  persisted := by
    show ReportsReleased "vmi-1" (cameraReportAfter (cameraRun.start 1))
    rw [cameraReportAfter_of_le (three_le_cameraRun_start 0)]
    exact ⟨_, rfl, rfl, rfl⟩
  holds := cameraRun_holds

/-- The VM is resumed in the first pass, and never again although each pass is made by a new
process and finds it paused with the camera ready. -/
theorem resumed_at_most_once_camera :
    (cameraRun.pass 0).resumptions "vmi-1" = 1 ∧
      (∑ i ∈ Finset.Ico 0 1, (cameraRun.pass i).resumptions "vmi-1" ≤ 1) ∧
      ∀ n, ∑ i ∈ Finset.Ico 0 n, (cameraRun.pass i).resumptions "vmi-1" ≤ 1 :=
  ⟨by decide +kernel,
    (resumed_at_most_once cameraRun "vmi-1").1 0 1 fun _ h h' => absurd h' (by omega),
    (resumed_at_most_once cameraRun "vmi-1").2 ⟨cameraPersisted⟩⟩

end AtomicUsb
