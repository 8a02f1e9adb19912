import AtomicUsb.Cluster.Leases

/-!
# Verdicts about devices

Two parties pass a verdict on a device they do not hear of: the agent of its node calls it
unplugged when a scan no longer finds it, and the controller calls it lost when its heartbeat is
too old.  Both look at copies that may be outdated, while other agents take the device over and
heartbeats arrive, which are merge patches without any guard.

The state is a `Cluster` together with the context — above all, the reading of the clock — each
controller took at the start of its pass.  `verdicts_current` says that every verdict that is
applied fits the object it is applied to.  As with leases, every process obeys a discipline with
respect to the copies the server has really held (`MayJudge`), and a guarded patch that is applied
was computed from the current object.
-/

namespace AtomicUsb

/-! ## What verdicts rest on -/

/-- Available on the node. -/
def DeviceBody.IsOn (d : DeviceBody) (node : String) : Prop :=
  d.statusRef.phase = some .available ∧ d.statusRef.node = some node

/-- Available, but with a heartbeat that is absent, unparseable or too old. -/
def DeviceBody.IsSilent (ctx : PassContext) (d : DeviceBody) : Prop :=
  d.statusRef.phase = some .available ∧
    ∀ age, ctx.rt.ageSecs d.statusRef.lastSeen ctx.now = some age → ctx.lostAfter < age

/-- What the copy has to be like for the verdict in a patch. -/
structure Verdict (ctx : PassContext) (by_ : Writer) (patch : DeviceStatusPatch)
    (copy : DeviceBody) : Prop where
  unplugged : patch.phase = .value .unplugged → ∃ node, by_ = .agent node ∧ copy.IsOn node
  lost : patch.phase = .value .lost → by_ = .lostPass ∧ copy.IsSilent ctx

def DeviceStatusPatch.isVerdict (patch : DeviceStatusPatch) : Prop :=
  patch.phase = .value .unplugged ∨ patch.phase = .value .lost

/-- A verdict is guarded by the version of a genuine copy that bears it out. -/
def MayJudge (ctx : PassContext) (H : Copies) : ApiCall → Prop
  | .patchDeviceStatus by_ name rv patch => patch.isVerdict →
      ∃ copy, H name copy ∧ rv = some copy.version ∧ Verdict ctx by_ patch copy.value
  | _ => True

lemma MayJudge.mono (ctx : PassContext) (H H' : Copies) (c : ApiCall)
    (hle : ∀ n o, H n o → H' n o) (h : MayJudge ctx H c) : MayJudge ctx H' c := by
  cases c with
  | patchDeviceStatus by_ name rv patch =>
      intro hv
      obtain ⟨copy, hcopy, hrest⟩ := h hv
      exact ⟨copy, hle _ _ hcopy, hrest⟩
  | _ => trivial

lemma mayJudge_other (ctx : PassContext) (H : Copies) (c : ApiCall) (hc : c.isOther = true) :
    MayJudge ctx H c := by
  cases c with
  | patchDeviceStatus by_ name rv patch => cases hc
  | _ => trivial

/-- A patch that leaves the phase out is no verdict. -/
lemma mayJudge_of_absent {ctx : PassContext} {H : Copies} {by_ : Writer} {name : String}
    {rv : Option ℕ} {patch : DeviceStatusPatch} (h : patch.phase = .absent) :
    MayJudge ctx H (.patchDeviceStatus by_ name rv patch) := by
  rintro (hv | hv) <;> simp [h] at hv

lemma isSilent_iff {ctx : PassContext} {d : UsbDevice} :
    d.isSilent ctx = true ↔ d.toDeviceBody.IsSilent ctx := by
  simp only [UsbDevice.isSilent, DeviceBody.IsSilent, Bool.and_eq_true, beq_iff_eq,
    Option.all_eq_true, decide_eq_true_eq]

/-- A controller calls a device lost because a copy is silent. -/
lemma mayJudge_pass (ctx : PassContext) (live : List String) :
    PassAllowed ctx live (MayJudge ctx) where
  other := mayJudge_other ctx
  lost _ d hcopy hsilent _ :=
    ⟨d.stored, hcopy, rfl, nofun, fun _ => ⟨rfl, isSilent_iff.mp hsilent⟩⟩
  orphan _ _ _ _ _ _ := mayJudge_of_absent rfl
  lease _ _ _ _ _ _ := mayJudge_of_absent rfl
  release _ _ _ _ _ _ := mayJudge_of_absent rfl

/-- An agent calls a device unplugged because a copy is on its node.  The clock of a pass does not
matter. -/
lemma mayJudge_scan (ctx : PassContext) (node : String) :
    ScanAllowed node (fun H obj => H obj.name obj.stored) (MayJudge ctx) where
  other := mayJudge_other ctx
  heartbeat H name patch hphase _ := by
    rintro (hv | hv) <;> simp [hphase] at hv
  unplugged H obj hcopy hnode havailable patch hphase _ _ := by
    refine ⟨obj.stored, hcopy, rfl, fun _ => ⟨node, rfl, havailable, hnode⟩, fun hv => ?_⟩
    simp [hphase] at hv

/-! ## The system -/

structure Watch where
  cluster : Cluster
  /-- What each process read when it last started a pass. -/
  reading : ℕ → PassContext

inductive WatchLabel
  | pass (pid : ℕ)
  | scan (pid : ℕ)
  | served (pid : ℕ) (c : ApiCall)
  | deleted (name : String)

inductive Watch.Step : Watch → WatchLabel → Watch → Prop
  | pass {s : Watch} (pid : ℕ) (ctx : PassContext) {snap : Snapshot} (released : Released)
      (hgen : Genuine s.cluster.copies snap.devices) :
      Step s (.pass pid)
        ⟨s.cluster.start pid (.controller snap) (reconcileAll ctx snap released),
          Function.update s.reading pid ctx⟩
  | scan {s : Watch} (pid : ℕ) (rt : Runtime) (cfg : AgentConfig)
      (sha256 : List UInt8 → List UInt8) (state : Discovery) {input : ScanInput}
      (hgen : ∀ obj ∈ input.objects, s.cluster.copies obj.name obj.stored) :
      Step s (.scan pid)
        { s with cluster :=
            s.cluster.start pid (.agent cfg.node) (scanOnce rt cfg sha256 state input) }
  | call {s : Watch} {pid : ℕ} {c : ApiCall} {k : c.Answer → ApiProg Unit} {x : c.Answer}
      {store : DeviceStore} (hcall : (s.cluster.processes pid).rest = .call c k)
      (hserved : Served s.cluster.store c x store) :
      Step s (.served pid c) { s with cluster := s.cluster.proceed pid store (k x) }
  | delete {s : Watch} (name : String) :
      Step s (.deleted name)
        { s with cluster := { s.cluster with store := s.cluster.store.delete name } }

def watch : System Watch WatchLabel where
  init s := cluster.init s.cluster
  step := Watch.Step

/-! ## The invariant -/

structure Watch.Inv (s : Watch) : Prop where
  remembers : s.cluster.store.Remembers s.cluster.copies
  obeys : s.cluster.Obeys fun pid => MayJudge (s.reading pid)

lemma Watch.step_inv {s s' : Watch} {l : WatchLabel} (h : s.Inv) (hstep : Watch.Step s l s') :
    s'.Inv := by
  cases hstep with
  | pass pid ctx released hgen =>
      refine ⟨h.remembers, Cluster.start_obeys h.obeys ?_ fun q hq => ?_⟩
      · simp only [Function.update_self]
        exact reconcileAll_allowed (mayJudge_pass ctx _) hgen
      · simp only [Function.update_of_ne hq]
  | scan pid rt cfg sha256 state hgen =>
      refine ⟨h.remembers, Cluster.start_obeys h.obeys ?_ fun q _ => rfl⟩
      exact scanOnce_allowed rt (mayJudge_scan _ cfg.node) (fun _ _ obj hle => hle _ _) sha256
        state hgen
  | call hcall hserved =>
      exact ⟨Cluster.proceed_remembers h.remembers hserved.store_cases,
        Cluster.proceed_obeys h.obeys (fun q => MayJudge.mono (s.reading q)) hcall hserved⟩
  | delete name => exact ⟨h.remembers.delete name, h.obeys⟩

lemma watch_inv {s : Watch} (h : watch.Reachable s) : s.Inv := by
  refine h.invariant (fun s hs => ⟨hs.1, fun pid => ?_⟩) fun _ _ _ => Watch.step_inv
  rw [hs.2 pid]
  trivial

/-! ## The law -/

/-- The law of verdicts, about one step. -/
structure VerdictLaw (s : Watch) (l : WatchLabel) (s' : Watch) : Prop where
  /-- When the agent of a node calls a device unplugged, and the write is applied, the device was
  available on that node immediately before. -/
  unplugged : ∀ pid by_ name rv patch o',
    l = .served pid (.patchDeviceStatus by_ name rv patch) → patch.phase = .value .unplugged →
    s.cluster.store.update name rv patch.apply = (.ok o', s'.cluster.store) →
    ∃ node o, by_ = .agent node ∧ s.cluster.store.objects name = some o ∧ o.value.IsOn node
  /-- When a controller calls a device lost, and the write is applied, the device was available
  and silent immediately before, at the controller's reading of the clock. -/
  lost : ∀ pid by_ name rv patch o',
    l = .served pid (.patchDeviceStatus by_ name rv patch) → patch.phase = .value .lost →
    s.cluster.store.update name rv patch.apply = (.ok o', s'.cluster.store) →
    ∃ o, s.cluster.store.objects name = some o ∧ o.value.IsSilent (s.reading pid)
  /-- A verdict was reached on a copy the server has held, and if anything was written since,
  nothing happens. -/
  unmasked : ∀ pid by_ name rv patch,
    l = .served pid (.patchDeviceStatus by_ name rv patch) → patch.isVerdict →
    ∃ copy, s.cluster.copies name copy ∧ Verdict (s.reading pid) by_ patch copy.value ∧
      (s.cluster.store.objects name ≠ some copy → s'.cluster.store = s.cluster.store)

/-- The object a verdict was applied to is the copy it was reached on. -/
lemma Watch.Inv.judged {s : Watch} (h : s.Inv) {pid : ℕ} {by_ : Writer} {name : String}
    {rv : Option ℕ} {patch : DeviceStatusPatch} {o' : Versioned DeviceBody} {store : DeviceStore}
    (hmay : MayJudge (s.reading pid) s.cluster.copies (.patchDeviceStatus by_ name rv patch))
    (hv : patch.isVerdict)
    (happlied : s.cluster.store.update name rv patch.apply = (.ok o', store)) :
    ∃ o, s.cluster.store.objects name = some o ∧ Verdict (s.reading pid) by_ patch o.value := by
  obtain ⟨copy, hcopy, rfl, hverdict⟩ := hmay hv
  rcases s.cluster.store.update_cases name (some copy.version) patch.apply with
    ⟨⟨r, hr⟩, -⟩ | ⟨o, -, ho, hversion, -⟩
  · rw [happlied] at hr
    cases hr
  · have hsame : copy = o := h.remembers.eq_of_version ho hcopy (hversion _ rfl)
    exact ⟨o, ho, hsame ▸ hverdict⟩

/-- **Stale verdicts are never applied.** In every state that any interleaving of scans, passes,
lost answers, failed calls and deletions leads to, every further step obeys the law of
verdicts. -/
theorem verdicts_current {s s' : Watch} {l : WatchLabel} (hs : watch.Reachable s)
    (hstep : watch.step s l s') : VerdictLaw s l s' := by
  have hinv := watch_inv hs
  have hmay : ∀ pid c, l = .served pid c → MayJudge (s.reading pid) s.cluster.copies c := by
    rintro pid c rfl
    cases hstep with
    | call hcall hserved => exact hinv.obeys.head hcall
  refine ⟨fun pid by_ name rv patch o' hl hphase happlied => ?_,
    fun pid by_ name rv patch o' hl hphase happlied => ?_,
    fun pid by_ name rv patch hl hv => ?_⟩
  · obtain ⟨o, ho, hverdict⟩ := hinv.judged (hmay _ _ hl) (Or.inl hphase) happlied
    obtain ⟨node, hby, hon⟩ := hverdict.unplugged hphase
    exact ⟨node, o, hby, ho, hon⟩
  · obtain ⟨o, ho, hverdict⟩ := hinv.judged (hmay _ _ hl) (Or.inr hphase) happlied
    exact ⟨o, ho, (hverdict.lost hphase).2⟩
  · obtain ⟨copy, hcopy, rfl, hverdict⟩ := hmay _ _ hl hv
    refine ⟨copy, hcopy, hverdict, fun hchanged => ?_⟩
    subst hl
    cases hstep with
    | call hcall hserved =>
        -- an object at the version of the copy would be the copy
        have hstale : s.cluster.store.effect
            (.patchDeviceStatus by_ name (some copy.version) patch) = s.cluster.store := by
          refine s.cluster.store.update_of_stale patch.apply fun o ho heq => hchanged ?_
          rw [ho, hinv.remembers.eq_of_version ho hcopy heq]
        cases hserved with
        | done _ => exact hstale
        | lost _ => exact hstale
        | failed _ => rfl

/-! A device that was published without a heartbeat, and a controller that sees it. -/

def silentBody : DeviceBody where
  labels := []
  spec := ⟨"046d", "0825", none, none, some "Webcam", none, .descriptor⟩
  status := some { phase := some .available, node := some "node-a" }

def silentSnapshot : Snapshot :=
  { Snapshot.empty with
    devices := ⟨[UsbDevice.ofStored "cam" ⟨1, silentBody⟩], List.pairwise_singleton _ _⟩ }

def silentContext : PassContext := ⟨.newYear, ⟨90⟩, 1704067200⟩

def silentWatch : Watch where
  cluster :=
    { store := ⟨fun n => if n = "cam" then some ⟨1, silentBody⟩ else none, 1⟩
      copies := fun n o => n = "cam" ∧ o = ⟨1, silentBody⟩
      processes := fun _ => ⟨.agent "node-a", pure ()⟩ }
  reading _ := silentContext

lemma silentWatch_init : watch.init silentWatch :=
  ⟨ObjectStore.remembers_single "cam" ⟨1, silentBody⟩, fun _ => rfl⟩

/-- The controller has started a pass. -/
def silentStarted : Watch :=
  ⟨silentWatch.cluster.start 0 (.controller silentSnapshot)
      (reconcileAll silentContext silentSnapshot fun _ => none),
    Function.update silentWatch.reading 0 silentContext⟩

/-- What its first call says. -/
def silentCall : ApiCall :=
  .patchDeviceStatus .lostPass "cam" (some 1)
    (lostPatch silentContext (UsbDevice.ofStored "cam" ⟨1, silentBody⟩))

/-- Its first call declares the device lost, and the step obeys the law. -/
theorem verdicts_current_silent :
    ∃ s', VerdictLaw silentStarted (.served 0 silentCall) s' ∧
      (s'.cluster.store.objects "cam").map (·.value.statusRef.phase) = some (some .lost) := by
  have hgen : Genuine silentWatch.cluster.copies silentSnapshot.devices :=
    genuine_single ⟨rfl, rfl⟩ rfl
  have hreach : watch.Reachable silentStarted :=
    (System.Reachable.init silentWatch_init).step (Watch.Step.pass 0 _ _ hgen)
  have hhead : (silentStarted.cluster.processes 0).rest.head? = some silentCall := by
    decide +kernel
  obtain ⟨k, hk⟩ := Prog.exists_call_of_head? hhead
  have heffect : ((silentStarted.cluster.store.effect silentCall).objects "cam").map
      (·.value.statusRef.phase) = some (some .lost) := by
    decide +kernel
  have hdone : Served silentStarted.cluster.store silentCall _ _ := .done rfl
  exact ⟨_, verdicts_current hreach (Watch.Step.call hk hdone), heffect⟩

end AtomicUsb
