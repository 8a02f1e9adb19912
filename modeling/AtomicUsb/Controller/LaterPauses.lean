import AtomicUsb.Controller.ReleaseOnce

/-!
# Pauses after the boot

A VM that is paused again after its boot should stay paused.  The controller recognises the boot by
never having released the instance, and it only knows of releases of its own: when a user resumes
the instance by hand, the next pass drops the `Holding` report and nothing takes its place, so that
a later pause is mistaken for the boot (`later_pause_resumed`).

`only_boots_released` is the guarantee for runs in which every resumption is accounted for.
-/

namespace AtomicUsb

namespace Pass

variable (p : Pass) (uid : String)

def SeesPaused : Prop := ∃ v ∈ p.snap.vmis, v.uid = uid ∧ v.paused = true

def SeesRunning : Prop := ∃ v ∈ p.snap.vmis, v.uid = uid ∧ v.isRunning = true ∧ v.paused = false

/-- A claim that holds the boot of the instance's VM shows the report of its release, and is
reconciled without error. -/
def ShowsRelease : Prop :=
  ∃ c o v, (c, Except.ok o) ∈ p.result.outcomes ∧ c.spec.holdBoot.isSome = true ∧
    ReportsReleased uid c.statusOrDefault.bootHold ∧
    v ∈ p.snap.vmis ∧ v.uid = uid ∧ c.vmKey = (v.ns, v.name)

variable {p uid}

lemma SeesPaused.observes (h : p.SeesPaused uid) : p.Observes uid := by
  obtain ⟨v, hv, rfl, -⟩ := h
  exact List.mem_map_of_mem hv

end Pass

namespace ControllerRun

variable (run : ControllerRun) (uid : String)

/-- One process makes the passes from `m` to `n`. -/
def OneProcess (m n : ℕ) : Prop := ∀ k, m < k → k ≤ n → ¬ run.restart k

/-- The passes `i` and `j` of one process saw the instance paused and then running. -/
def SeesResumed (i j : ℕ) : Prop :=
  i < j ∧ run.OneProcess i j ∧ (run.pass i).SeesPaused uid ∧ (run.pass j).SeesRunning uid

/-- Whenever a process finds running what it has seen paused, it has resumed the instance itself,
or else the release is on show with a holding claim in each of its later passes. -/
def Accounted : Prop :=
  ∀ i j, run.SeesResumed uid i j → ((run.pass j).released uid).isSome = true ∨
    ∀ n, j < n → run.OneProcess j n → (run.pass n).ShowsRelease uid

variable {run uid}

/-- An instance whose release a holding claim shows is left alone. -/
lemma not_unpauses_of_showsRelease {n : ℕ} (h : (run.pass n).ShowsRelease uid) :
    ¬ (run.pass n).Unpauses uid := by
  intro hcall
  obtain ⟨c, o, v, hmem, hspec, ⟨b, hb, hstate, huid⟩, hv, rfl, hkey⟩ := h
  obtain ⟨released, reason, w, hw, hwuid, -, hrel⟩ := hcall.release
  obtain ⟨hns, hname, -⟩ := run.uid_same ((run.vmis_eq n w).mp hw) ((run.vmis_eq n v).mp hv) hwuid
  obtain ⟨spec, hspec⟩ := Option.isSome_iff_exists.mp hspec
  obtain ⟨ready, ho⟩ := hold_of_outcome (run.pass n).ctx (run.pass n).runs hmem
  rw [holdOf, hspec] at ho
  have hhold := mem_holdsOf.mpr ⟨c, o, hmem, ho, hkey⟩
  obtain ⟨_, _, -, hnot, -⟩ := release_of_decideBootHold hrel
  rw [Bool.or_eq_false_iff, hns, hname] at hnot
  have hshown : releaseRecorded (holdsOf (run.pass n).result.outcomes (v.ns, v.name))
      ((some w).map (·.uid)) = true := by
    refine List.any_eq_true.mpr ⟨_, hhold, ?_⟩
    simp [hb, hstate, huid, hwuid]
  rw [hshown] at hnot
  cases hnot.2

/-- **Only boots are released.**  In a run in which every resumption of the instance is accounted
for, a process that has seen it paused and then running does not resume it any more. -/
theorem only_boots_released (run : ControllerRun) (uid : String) (h : run.Accounted uid) {i j n : ℕ}
    (hseen : run.SeesResumed uid i j) (hjn : j < n) (hproc : run.OneProcess j n) :
    ¬ (run.pass n).Unpauses uid := by
  rcases h i j hseen with hmap | hshown
  · have hspent : run.Spent uid j :=
      Or.inl ⟨⟨i, hseen.1, hseen.2.2.1.observes⟩, hmap⟩
    exact (hspent.of_le hjn.le hproc).not_unpauses
  · exact not_unpauses_of_showsRelease (hshown n hjn hproc)

end ControllerRun

/-! ### The desktop, paused twice -/

def Snapshot.withVmi (snap : Snapshot) (v : VmiInfo) : Snapshot :=
  { snap with vmis := [v], vmis_nodup := List.nodup_singleton _ }

def runningVmi : VmiInfo := { desktopVmi with paused := false, pausedSince := none }

/-- The map of a process that finds these snapshots and gets every call answered well. -/
def mapAfter (snaps : ℕ → Snapshot) : ℕ → Released
  | 0 => fun _ => none
  | n + 1 => ((reconcileAll newYearPass (snaps n) (mapAfter snaps n)).follow
      (answerExcept fun _ => false)).2.released

/-- The run of that process, when the snapshots show one instance. -/
def oneProcessRun (snaps : ℕ → Snapshot)
    (h : ∀ n, (snaps n).vmis = [desktopVmi] ∨ (snaps n).vmis = [runningVmi]) : ControllerRun where
  pass n :=
    { ctx := newYearPass
      snap := snaps n
      released := mapAfter snaps n
      trace := ((reconcileAll newYearPass (snaps n) (mapAfter snaps n)).follow
        (answerExcept fun _ => false)).1
      result := ((reconcileAll newYearPass (snaps n) (mapAfter snaps n)).follow
        (answerExcept fun _ => false)).2
      runs := Prog.runs_follow _ _ }
  restart n := n = 0
  instances n := (snaps n).vmis
  seen := id
  released_first n hn := by
    subst hn
    rfl
  released_next _ _ := rfl
  seen_mono := monotone_id
  vmis_eq _ _ := Iff.rfl
  uid_once := by
    intro i j k uid _ _ hi _
    rcases h i with hi' | hi' <;> rcases h j with hj' | hj' <;> rw [hi'] at hi <;> rw [hj'] <;>
      exact hi
  uid_same := by
    intro i j v w hv hw _
    rcases h i with hi | hi <;> rcases h j with hj | hj <;> rw [hi] at hv <;> rw [hj] at hw <;>
      obtain rfl := List.mem_singleton.mp hv <;> obtain rfl := List.mem_singleton.mp hw <;>
      exact ⟨rfl, rfl, rfl⟩

lemma oneProcessRun_oneProcess {snaps : ℕ → Snapshot}
    {h : ∀ n, (snaps n).vmis = [desktopVmi] ∨ (snaps n).vmis = [runningVmi]} (m n : ℕ) :
    (oneProcessRun snaps h).OneProcess m n := by
  rintro k hk - rfl
  exact Nat.not_lt_zero m hk

/-- The camera is ready, the controller resumes the VM, and somebody pauses it again. -/
def pausedAgainSnap : ℕ → Snapshot
  | 0 => cameraOnly
  | 1 => cameraReleased.withVmi runningVmi
  | _ + 2 => cameraReleased

def pausedAgain : ControllerRun :=
  oneProcessRun pausedAgainSnap fun
    | 0 => Or.inl rfl
    | 1 => Or.inr rfl
    | _ + 2 => Or.inl rfl

lemma pausedAgain_accounted : pausedAgain.Accounted "vmi-1" := by
  rintro i j ⟨-, -, -, v, hv, -, -, hpaused⟩
  left
  rcases j with - | - | j
  · obtain rfl := List.mem_singleton.mp hv
    cases hpaused
  · decide +kernel
  · obtain rfl := List.mem_singleton.mp hv
    cases hpaused

/-- The second pause is left alone. -/
theorem only_boots_released_pausedAgain :
    (pausedAgain.pass 0).Unpauses "vmi-1" ∧ pausedAgain.SeesResumed "vmi-1" 0 1 ∧
      ∀ n, 1 < n → ¬ (pausedAgain.pass n).Unpauses "vmi-1" := by
  have hseen : pausedAgain.SeesResumed "vmi-1" 0 1 :=
    ⟨Nat.zero_lt_one, oneProcessRun_oneProcess 0 1,
      ⟨desktopVmi, List.mem_singleton_self _, rfl, rfl⟩,
      ⟨runningVmi, List.mem_singleton_self _, rfl, rfl, rfl⟩⟩
  exact ⟨⟨"lab", "desktop", by decide +kernel⟩, hseen, fun n hn =>
    ControllerRun.only_boots_released pausedAgain "vmi-1" pausedAgain_accounted hseen hn
      (oneProcessRun_oneProcess 1 n)⟩

def holdingReport : BootHoldStatus where
  state := .holding
  vmiUid := some "vmi-1"
  since := "2024-01-01T00:00:00Z"
  message := some "waiting for camera (300s left)"

def waitingClaim (bootHold : Option BootHoldStatus) : UsbDeviceClaim :=
  desktopClaim "camera" "uid-camera" (some { bootHold := bootHold })

/-- The boot is held; a user resumes the VM; the camera arrives and the VM is paused again. -/
def resumedByHandSnap : ℕ → Snapshot
  | 0 => desktopSnapshot [waitingClaim none] (by decide +kernel) (by decide +kernel)
  | 1 => (desktopSnapshot [waitingClaim (some holdingReport)] (by decide +kernel)
      (by decide +kernel)).withVmi runningVmi
  | _ + 2 => cameraOnly

def resumedByHand : ControllerRun :=
  oneProcessRun resumedByHandSnap fun
    | 0 => Or.inl rfl
    | 1 => Or.inr rfl
    | _ + 2 => Or.inl rfl

/-- The controller takes the second pause for the boot. -/
theorem later_pause_resumed :
    ¬ ∀ (run : ControllerRun) (uid : String) (i j n : ℕ), run.SeesResumed uid i j → j < n →
      run.OneProcess j n → ¬ (run.pass n).Unpauses uid := by
  intro h
  refine h resumedByHand "vmi-1" 0 1 2 ⟨Nat.zero_lt_one, oneProcessRun_oneProcess 0 1, ?_, ?_⟩
    (by decide) (oneProcessRun_oneProcess 1 2) ⟨"lab", "desktop", by decide +kernel⟩
  · exact ⟨desktopVmi, List.mem_singleton_self _, rfl, rfl⟩
  · exact ⟨runningVmi, List.mem_singleton_self _, rfl, rfl, rfl⟩

end AtomicUsb
