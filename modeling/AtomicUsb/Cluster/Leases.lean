import AtomicUsb.Controller.LeaseRule
import AtomicUsb.Foundation.Transition

/-!
# Lease exclusivity

Any number of controller replicas and agents write to the same `UsbDevice` objects.  A `Cluster`
is the device store together with the program each of them still has to run; a step starts a
pass or a scan — on copies of devices as old as you like, and with caches of claims and VMs that
show anything at all — or lets the API server deal with the next call of one of them, or deletes
a device.  A call may be carried out and answered, carried out with its answer lost, or fail.

`lease_exclusive` is the law of leases: whatever the interleaving, a lease is only ever taken on
a free device, and only ever ended by a pass that reconciles the claim holding it or does not
count that claim among the living.  It rests on the invariant that every process still obeys its
discipline (`reconcileAll_obeys`, `scanOnce_obeys`) with respect to the copies the server has
really held, and on optimistic concurrency: a guarded patch that is applied was computed from
the current object (`ObjectStore.Remembers.eq_of_version`).
-/

namespace AtomicUsb

/-! ## The API server -/

abbrev DeviceStore := ObjectStore String DeviceBody

/-- Applied labels replace those of the same key. -/
def mergeLabels (old applied : List (String × String)) : List (String × String) :=
  applied ++ old.filter fun kv => (applied.lookup kv.1).isNone

/-- Server-side apply of labels and spec, creating the object if necessary. -/
def DeviceStore.applySpec (s : DeviceStore) (name : String) (labels : List (String × String))
    (spec : UsbDeviceSpec) : DeviceStore :=
  match s.objects name with
  | none => s.put name ⟨labels, spec, none⟩
  | some _ => (s.update name none fun d =>
      { d with labels := mergeLabels d.labels labels, spec := spec }).2

/-- What a call does to the devices when it is carried out. -/
def DeviceStore.effect (s : DeviceStore) : ApiCall → DeviceStore
  | .patchDeviceStatus _ name rv patch => (s.update name rv patch.apply).2
  | .applyDevice _ name labels spec => s.applySpec name labels spec
  | _ => s

def Refusal.toApiError : Refusal → ApiError
  | .conflict => .conflict
  | .notFound => .notFound

/-- The answer tells what happened.  Answers to calls that are not about devices are not
restricted. -/
def Truthful (s : DeviceStore) : (c : ApiCall) → c.Answer → Prop
  | .patchDeviceStatus _ name rv patch, x =>
      x = (s.update name rv patch.apply).1.mapError Refusal.toApiError
  | _, _ => True

/-- How a call can go. -/
inductive Served (s : DeviceStore) (c : ApiCall) (x : c.Answer) : DeviceStore → Prop
  | done : Truthful s c x → Served s c x (s.effect c)
  /-- Carried out, but the sender hears of a failure. -/
  | lost : (c.failure x).isSome → Served s c x (s.effect c)
  | failed : (c.failure x).isSome → Served s c x s

/-! ## The system -/

/-- Who runs a program. -/
inductive Party
  | controller (snap : Snapshot)
  | agent (node : String)

/-- What a party may do to leases; an agent nothing at all. -/
def Party.rule : Party → LeaseRule
  | .controller snap => LeaseChange snap.liveUids
  | .agent _ => fun _ _ _ => False

structure Process where
  party : Party
  rest : ApiProg Unit

structure Cluster where
  store : DeviceStore
  /-- Every version of every device that was ever stored. -/
  copies : Copies
  processes : ℕ → Process

inductive Label
  | pass (pid : ℕ)
  | scan (pid : ℕ)
  | served (party : Party) (c : ApiCall)
  | deleted (name : String)

/-- A process starts something, abandoning what it was doing. -/
def Cluster.start {α : Type} (s : Cluster) (pid : ℕ) (party : Party) (p : ApiProg α) : Cluster :=
  { s with processes := Function.update s.processes pid ⟨party, p >>= fun _ => pure ()⟩ }

/-- A process goes on with an answer, the devices being as in `store`. -/
def Cluster.proceed (s : Cluster) (pid : ℕ) (store : DeviceStore) (rest : ApiProg Unit) :
    Cluster where
  store := store
  copies n o := s.copies n o ∨ store.objects n = some o
  processes := Function.update s.processes pid ⟨(s.processes pid).party, rest⟩

inductive Cluster.Step : Cluster → Label → Cluster → Prop
  | pass {s : Cluster} (pid : ℕ) (ctx : PassContext) {snap : Snapshot} (released : Released)
      (hgen : Genuine s.copies snap.devices) :
      Step s (.pass pid) (s.start pid (.controller snap) (reconcileAll ctx snap released))
  | scan {s : Cluster} (pid : ℕ) (rt : Runtime) (cfg : AgentConfig)
      (sha256 : List UInt8 → List UInt8) (state : Discovery) (input : ScanInput) :
      Step s (.scan pid) (s.start pid (.agent cfg.node) (scanOnce rt cfg sha256 state input))
  | call {s : Cluster} {pid : ℕ} {c : ApiCall} {k : c.Answer → ApiProg Unit} {x : c.Answer}
      {store : DeviceStore} (hcall : (s.processes pid).rest = .call c k)
      (hserved : Served s.store c x store) :
      Step s (.served (s.processes pid).party c) (s.proceed pid store (k x))
  | delete {s : Cluster} (name : String) :
      Step s (.deleted name) { s with store := s.store.delete name }

def cluster : System Cluster Label where
  init s := s.store.Remembers s.copies ∧ ∀ pid, (s.processes pid).rest = pure ()
  step := Cluster.Step

/-! ## The invariant -/

structure Cluster.Inv (s : Cluster) : Prop where
  remembers : s.store.Remembers s.copies
  obeys : ∀ pid, (s.processes pid).rest.Ensures (leaseDiscipline (s.processes pid).party.rule)
    s.copies fun _ _ => True

/-- Carrying out a call changes at most one object, which then has a fresh version. -/
lemma effect_cases (s : DeviceStore) (c : ApiCall) :
    s.effect c = s ∨ ∃ name a, s.effect c = s.put name a := by
  have hupdate : ∀ name pre f, (s.update name pre f).2 = s ∨
      ∃ a, (s.update name pre f).2 = s.put name a := by
    intro name pre f
    rcases s.update_cases name pre f with ⟨-, h⟩ | ⟨o, o', -, -, -, -, ⟨-, h⟩ | ⟨-, h⟩⟩
    · exact Or.inl h
    · exact Or.inl h
    · exact Or.inr ⟨_, h⟩
  cases c with
  | patchDeviceStatus w name rv patch =>
      exact (hupdate name rv patch.apply).imp_right fun ⟨a, h⟩ => ⟨name, a, h⟩
  | applyDevice w name labels spec =>
      show s.applySpec name labels spec = s ∨ ∃ n a, s.applySpec name labels spec = s.put n a
      unfold DeviceStore.applySpec
      split
      · exact Or.inr ⟨name, _, rfl⟩
      · exact (hupdate name none _).imp_right fun ⟨a, h⟩ => ⟨name, a, h⟩
  | patchOwnerReferences _ _ _ _ _ => exact Or.inl rfl
  | patchClaimStatus _ _ _ _ => exact Or.inl rfl
  | unpause _ _ _ => exact Or.inl rfl

lemma Served.store_cases {s store : DeviceStore} {c : ApiCall} {x : c.Answer}
    (h : Served s c x store) : store = s ∨ ∃ name a, store = s.put name a := by
  cases h with
  | done _ => exact effect_cases s c
  | lost _ => exact effect_cases s c
  | failed _ => exact Or.inl rfl

/-- An object a patch was answered with is the stored one. -/
lemma Served.stored {s store : DeviceStore} {by_ : Writer} {name : String} {rv : Option ℕ}
    {patch : DeviceStatusPatch} {o : Versioned DeviceBody}
    (h : Served s (.patchDeviceStatus by_ name rv patch) (.ok o) store) :
    store.objects name = some o := by
  cases h with
  | lost h => cases h
  | failed h => cases h
  | done h =>
      show (s.update name rv patch.apply).2.objects name = some o
      rcases s.update_cases name rv patch.apply with
        ⟨⟨r, hr⟩, -⟩ | ⟨cur, o', hcur, -, -, hans, hstore⟩
      · simp only [Truthful, hr, Except.mapError] at h
        cases h
      · simp only [Truthful, hans, Except.mapError, Except.ok.injEq] at h
        subst h
        rcases hstore with ⟨rfl, hsame⟩ | ⟨rfl, hput⟩
        · rw [hsame, hcur]
        · rw [hput, ObjectStore.put_objects_self]

lemma Cluster.proceed_remembers {s : Cluster} (h : s.store.Remembers s.copies) {pid : ℕ}
    {store : DeviceStore} {rest : ApiProg Unit}
    (hstore : store = s.store ∨ ∃ name a, store = s.store.put name a) :
    (s.proceed pid store rest).store.Remembers (s.proceed pid store rest).copies := by
  rcases hstore with rfl | ⟨name, a, rfl⟩
  · have hcopies : (s.proceed pid s.store rest).copies = s.copies := by
      funext n o
      exact propext (or_iff_left_of_imp (h.current n o))
    rw [hcopies]
    exact h
  · have hcopies : (s.proceed pid (s.store.put name a) rest).copies =
        ObjectStore.record s.copies name ⟨s.store.latest + 1, a⟩ := by
      funext n o
      refine propext (or_congr_right' fun hnew => ?_)
      by_cases hn : n = name
      · subst hn
        simp [ObjectStore.put, eq_comm]
      · simp only [ObjectStore.put, Function.update_of_ne hn, hn, false_and, iff_false]
        exact fun ho => hnew (h.current n o ho)
    rw [hcopies]
    exact h.put name a

section Obeys

/-! The processes may be bound to anything, as long as more copies never forbid a call. -/

variable {s : Cluster} {m : ℕ → Copies → ApiCall → Prop}

/-- What each process still has to run keeps to what the process may do. -/
def Cluster.Obeys (s : Cluster) (may : ℕ → Copies → ApiCall → Prop) : Prop :=
  ∀ pid, (s.processes pid).rest.Ensures (copiesDiscipline (may pid)) s.copies fun _ _ => True

lemma Cluster.start_obeys {α : Type} {pid : ℕ} {party : Party} {p : ApiProg α}
    {m' : ℕ → Copies → ApiCall → Prop} (h : s.Obeys m)
    (hp : p.Ensures (copiesDiscipline (m' pid)) s.copies fun _ _ => True)
    (hother : ∀ q, q ≠ pid → m' q = m q) : (s.start pid party p).Obeys m' := by
  intro q
  by_cases hq : q = pid
  · subst hq
    simp only [Cluster.start, Function.update_self]
    exact Prog.ensures_bind_of_forall hp fun _ _ => trivial
  · simp only [Cluster.start, Function.update_of_ne hq]
    rw [hother q hq]
    exact h q

lemma Cluster.proceed_obeys {pid : ℕ} {c : ApiCall} {k : c.Answer → ApiProg Unit} {x : c.Answer}
    {store : DeviceStore} (h : s.Obeys m)
    (hmono : ∀ q (H H' : Copies) c, (∀ n o, H n o → H' n o) → m q H c → m q H' c)
    (hcall : (s.processes pid).rest = .call c k) (hserved : Served s.store c x store) :
    (s.proceed pid store (k x)).Obeys m := by
  have hgrow : ∀ n o, s.copies n o → (s.proceed pid store (k x)).copies n o :=
    fun n o hn => Or.inl hn
  intro q
  by_cases hq : q = pid
  · subst hq
    have hobeys := h q
    rw [hcall] at hobeys
    have hrest := hobeys.2 x (s.proceed q store (k x)).copies ⟨hgrow, ?_⟩
    · simpa only [Cluster.proceed, Function.update_self] using hrest
    · cases c with
      | patchDeviceStatus w name rv patch =>
          cases x with
          | ok o => exact Or.inr hserved.stored
          | error e => trivial
      | _ => trivial
  · have hproc : (s.proceed pid store (k x)).processes q = s.processes q := by
      simp only [Cluster.proceed, Function.update_of_ne hq]
    rw [hproc]
    exact copiesDiscipline_mono (Q := fun _ => True) (hmono q) hgrow (h q)

lemma Cluster.Obeys.head {pid : ℕ} {c : ApiCall} {k : c.Answer → ApiProg Unit} (h : s.Obeys m)
    (hcall : (s.processes pid).rest = .call c k) : m pid s.copies c := by
  have hobeys := h pid
  rw [hcall] at hobeys
  exact hobeys.1

end Obeys

/-- What the processes may do to leases. -/
def Cluster.leaseMay (s : Cluster) (pid : ℕ) : Copies → ApiCall → Prop :=
  (leaseDiscipline (s.processes pid).party.rule).may

lemma Cluster.start_inv {α : Type} {s : Cluster} (h : s.Inv) {pid : ℕ} {party : Party}
    {p : ApiProg α}
    (hp : p.Ensures (leaseDiscipline party.rule) s.copies fun _ _ => True) :
    (s.start pid party p).Inv := by
  have hparty : ((s.start pid party p).processes pid).party = party := by
    simp only [Cluster.start, Function.update_self]
  have hobeys : (s.start pid party p).Obeys (s.start pid party p).leaseMay := by
    refine Cluster.start_obeys (m := s.leaseMay) h.obeys ?_ fun q hq => ?_
    · rw [Cluster.leaseMay, hparty]
      exact hp
    · simp only [Cluster.leaseMay, Cluster.start, Function.update_of_ne hq]
  exact ⟨h.remembers, hobeys⟩

lemma Cluster.proceed_party (s : Cluster) (pid q : ℕ) (store : DeviceStore)
    (rest : ApiProg Unit) :
    ((s.proceed pid store rest).processes q).party = (s.processes q).party := by
  by_cases hq : q = pid
  · subst hq
    simp only [Cluster.proceed, Function.update_self]
  · simp only [Cluster.proceed, Function.update_of_ne hq]

lemma Cluster.step_inv {s s' : Cluster} {l : Label} (h : s.Inv) (hstep : Cluster.Step s l s') :
    s'.Inv := by
  cases hstep with
  | pass pid ctx released hgen => exact Cluster.start_inv h (reconcileAll_obeys ctx hgen)
  | scan pid rt cfg sha256 state input => exact Cluster.start_inv h (scanOnce_obeys rt cfg _ _ _)
  | @call pid c k x store hcall hserved =>
      refine ⟨Cluster.proceed_remembers h.remembers hserved.store_cases, fun q => ?_⟩
      rw [Cluster.proceed_party]
      exact Cluster.proceed_obeys (m := s.leaseMay) h.obeys (fun _ => leaseDiscipline_may_mono)
        hcall hserved q
  | delete name => exact ⟨h.remembers.delete name, h.obeys⟩

lemma cluster_inv {s : Cluster} (h : cluster.Reachable s) : s.Inv := by
  refine h.invariant (fun s hs => ⟨hs.1, fun pid => ?_⟩) fun _ _ _ => Cluster.step_inv
  rw [hs.2 pid]
  trivial

/-! ## The law -/

/-- Where an object comes from after a call was carried out: it was there before, or the call has
patched its status — at the version asked for — or applied its labels and spec. -/
lemma effect_object {s : DeviceStore} {c : ApiCall} {name : String} {o' : Versioned DeviceBody}
    (ho' : (s.effect c).objects name = some o') :
    s.objects name = some o' ∨
    (∃ by_ rv patch o, c = .patchDeviceStatus by_ name rv patch ∧ s.objects name = some o ∧
      (∀ v, rv = some v → v = o.version) ∧ o'.value = patch.apply o.value) ∨
    ∃ by_ labels spec, c = .applyDevice by_ name labels spec ∧ o'.value.spec = spec ∧
      o'.value.status = (s.objects name).bind (·.value.status) := by
  cases c with
  | patchDeviceStatus by_ target rv patch =>
      by_cases hname : name = target
      · subst hname
        cases ho : s.objects name with
        | none => simp [DeviceStore.effect, ObjectStore.update, ho] at ho'
        | some o =>
            rcases s.update_objects_self ho ho' with rfl | ⟨hversion, hvalue⟩
            · exact Or.inl rfl
            · exact Or.inr (Or.inl ⟨by_, rv, patch, o, rfl, rfl, hversion, hvalue⟩)
      · exact Or.inl ((s.update_objects_of_ne rv patch.apply hname).symm.trans ho')
  | applyDevice by_ target labels spec =>
      by_cases hname : name = target
      · subst hname
        cases ho : s.objects name with
        | none =>
            simp only [DeviceStore.effect, DeviceStore.applySpec, ho, ObjectStore.put_objects_self,
              Option.some.injEq] at ho'
            subst ho'
            exact Or.inr (Or.inr ⟨by_, labels, spec, rfl, rfl, rfl⟩)
        | some o =>
            simp only [DeviceStore.effect, DeviceStore.applySpec, ho] at ho'
            rcases s.update_objects_self ho ho' with rfl | ⟨-, hvalue⟩
            · exact Or.inl rfl
            · exact Or.inr (Or.inr ⟨by_, labels, spec, rfl, by rw [hvalue], by rw [hvalue]; rfl⟩)
      · left
        rw [← ho']
        simp only [DeviceStore.effect, DeviceStore.applySpec]
        split
        · exact (s.put_objects_of_ne _ hname).symm
        · exact (s.update_objects_of_ne none _ hname).symm
  | patchOwnerReferences _ _ _ _ _ => exact Or.inl ho'
  | patchClaimStatus _ _ _ _ => exact Or.inl ho'
  | unpause _ _ _ => exact Or.inl ho'

/-- Where a carried-out call changes a lease, it is a patch that follows the rule as judged by
the object it changes. -/
lemma effect_lease {s : DeviceStore} {H : Copies} {rule : LeaseRule} {c : ApiCall}
    (hH : s.Remembers H) (hmay : (leaseDiscipline rule).may H c) {name : String}
    {o o' : Versioned DeviceBody} (ho : s.objects name = some o)
    (ho' : (s.effect c).objects name = some o') :
    o'.value.attachedTo = o.value.attachedTo ∨
      ∃ by_ rv patch, c = .patchDeviceStatus by_ name rv patch ∧
        rule by_ o.value.attachedTo patch.attachedTo ∧
        o'.value.attachedTo = patch.attachedTo.merge o.value.attachedTo := by
  rcases effect_object ho' with
    hsame | ⟨by_, rv, patch, cur, rfl, hcur, hversion, hvalue⟩ | ⟨_, _, _, rfl, -, hstatus⟩
  · rw [ho, Option.some.injEq] at hsame
    exact Or.inl (by rw [hsame])
  · obtain rfl : o = cur := Option.some.inj (ho.symm.trans hcur)
    have hmerge : o'.value.attachedTo = patch.attachedTo.merge o.value.attachedTo := by
      rw [hvalue, DeviceStatusPatch.apply_attachedTo]
    rcases hmay with habsent | ⟨copy, hcopy, rfl, hchange⟩
    · left
      rw [hmerge, habsent, Member.merge_absent]
    · -- the copy the patch was computed from is the object it is applied to
      obtain rfl : copy = o := hH.eq_of_version ho hcopy (hversion _ rfl)
      exact Or.inr ⟨by_, _, patch, rfl, hchange, hmerge⟩
  · left
    rw [ho] at hstatus
    simp only [DeviceBody.attachedTo, DeviceBody.statusRef, hstatus, Option.bind_some]

lemma Cluster.call_lease {s : Cluster} (hinv : s.Inv) {pid : ℕ} {c : ApiCall}
    {k : c.Answer → ApiProg Unit} {x : c.Answer} {store : DeviceStore}
    (hcall : (s.processes pid).rest = .call c k) (hserved : Served s.store c x store)
    (name : String) (o o' : Versioned DeviceBody) (ho : s.store.objects name = some o)
    (ho' : store.objects name = some o') :
    o'.value.attachedTo = o.value.attachedTo ∨
      ∃ by_ rv patch, c = .patchDeviceStatus by_ name rv patch ∧
        (s.processes pid).party.rule by_ o.value.attachedTo patch.attachedTo ∧
        o'.value.attachedTo = patch.attachedTo.merge o.value.attachedTo := by
  have hmay : s.leaseMay pid s.copies c := Cluster.Obeys.head hinv.obeys hcall
  cases hserved with
  | done _ => exact effect_lease hinv.remembers hmay ho ho'
  | lost _ => exact effect_lease hinv.remembers hmay ho ho'
  | failed _ => exact Or.inl (by rw [Option.some.inj (ho'.symm.trans ho)])

/-- What the rules allow, spelled out. -/
lemma Party.rule_cases {party : Party} {by_ : Writer} {old : Option Attachment}
    {new : Member Attachment} (h : party.rule by_ old new) :
    by_ ≠ .lostPass ∧ ∃ snap, party = .controller snap ∧ ∃ lease,
      (old = none ∧ new.merge old = some lease ∧ by_ = .reconciling lease.claimUid ∧
        lease.claimUid ∈ snap.liveUids) ∨
      (old = some lease ∧ new.merge old = none ∧
        (by_ = .reconciling lease.claimUid ∨ lease.claimUid ∉ snap.liveUids)) := by
  cases party with
  | agent node => exact absurd h id
  | controller snap =>
      cases h with
      | @lease l hl => exact ⟨nofun, snap, rfl, l, Or.inl ⟨rfl, rfl, rfl, hl⟩⟩
      | @release l hl => exact ⟨nofun, snap, rfl, l, Or.inr ⟨rfl, rfl, Or.inl rfl⟩⟩
      | @orphan l hl => exact ⟨nofun, snap, rfl, l, Or.inr ⟨rfl, rfl, Or.inr hl⟩⟩

/-- The law of leases, about one step. -/
structure LeaseLaw (s : Cluster) (l : Label) (s' : Cluster) : Prop where
  /-- A lease that changes is taken on a free device, for the claim that is being reconciled, or
  ended: by a pass that was reconciling the claim holding it, or for which that claim was not
  among the living. -/
  change : ∀ name o o', s.store.objects name = some o → s'.store.objects name = some o' →
    o'.value.attachedTo = o.value.attachedTo ∨
    ∃ snap by_ rv patch, l = .served (.controller snap) (.patchDeviceStatus by_ name rv patch) ∧
      ∃ lease,
        (o.value.attachedTo = none ∧ o'.value.attachedTo = some lease ∧
          by_ = .reconciling lease.claimUid ∧ lease.claimUid ∈ snap.liveUids) ∨
        (o.value.attachedTo = some lease ∧ o'.value.attachedTo = none ∧
          (by_ = .reconciling lease.claimUid ∨ lease.claimUid ∉ snap.liveUids))
  /-- It never goes from one claim to another. -/
  noHandover : ∀ name o o' lease lease', s.store.objects name = some o →
    s'.store.objects name = some o' → o.value.attachedTo = some lease →
    o'.value.attachedTo = some lease' → lease' = lease
  /-- Agents, and the controller marking a device as lost, leave it alone. -/
  bystander : ∀ party c, l = .served party c → ((∃ node, party = .agent node) ∨
      c.writer = .lostPass) →
    ∀ name o o', s.store.objects name = some o → s'.store.objects name = some o' →
      o'.value.attachedTo = o.value.attachedTo
  /-- A conditional write that loses the race changes nothing. -/
  stale : ∀ party by_ name v patch,
    l = .served party (.patchDeviceStatus by_ name (some v) patch) →
    (∀ o, s.store.objects name = some o → v ≠ o.version) → s'.store = s.store

/-- **Lease exclusivity.** In every state that any interleaving of controller passes, agent
scans, lost answers, failed calls and deletions leads to, every further step obeys the law of
leases. -/
theorem lease_exclusive {s s' : Cluster} {l : Label} (hs : cluster.Reachable s)
    (hstep : cluster.step s l s') : LeaseLaw s l s' := by
  have hinv := cluster_inv hs
  have hidle : (∀ name o o', s.store.objects name = some o → s'.store.objects name = some o' →
      o' = o) → (∀ party c, l ≠ .served party c) → LeaseLaw s l s' := by
    intro hsame hl
    refine ⟨fun name o o' ho ho' => Or.inl (by rw [hsame name o o' ho ho']),
      fun name o o' lease lease' ho ho' hlease hlease' => ?_,
      fun party c h => absurd h (hl party c), fun party by_ name v patch h => absurd h (hl _ _)⟩
    rw [hsame name o o' ho ho', hlease, Option.some.injEq] at hlease'
    exact hlease'.symm
  cases hstep with
  | pass pid ctx released hgen =>
      exact hidle (fun name o o' ho ho' => Option.some.inj (ho'.symm.trans ho)) (by simp)
  | scan pid rt cfg sha256 state input =>
      exact hidle (fun name o o' ho ho' => Option.some.inj (ho'.symm.trans ho)) (by simp)
  | delete name =>
      refine hidle (fun n o o' ho ho' => ?_) (by simp)
      by_cases hn : n = name
      · subst hn
        simp [ObjectStore.delete] at ho'
      · simp only [ObjectStore.delete, Function.update_of_ne hn] at ho'
        exact Option.some.inj (ho'.symm.trans ho)
  | @call pid c k x store hcall hserved =>
      have hlease := Cluster.call_lease hinv hcall hserved
      refine ⟨fun name o o' ho ho' => ?_, fun name o o' lease lease' ho ho' hl hl' => ?_,
        fun party c' hlabel hwho name o o' ho ho' => ?_,
        fun party by_ name v patch hlabel hstale => ?_⟩
      · rcases hlease name o o' ho ho' with hsame | ⟨by_, rv, patch, rfl, hrule, hmerge⟩
        · exact Or.inl hsame
        · obtain ⟨-, snap, hparty, lease, hcases⟩ := Party.rule_cases hrule
          refine Or.inr ⟨snap, by_, rv, patch, by rw [hparty], lease, ?_⟩
          rw [hmerge]
          exact hcases
      · rcases hlease name o o' ho ho' with hsame | ⟨by_, rv, patch, rfl, hrule, hmerge⟩
        · rw [hl, hl', Option.some.injEq] at hsame
          exact hsame
        · obtain ⟨-, snap, -, l, ⟨hnone, -⟩ | ⟨-, hnone, -⟩⟩ := Party.rule_cases hrule
          · rw [hl] at hnone
            cases hnone
          · rw [← hmerge, hl'] at hnone
            cases hnone
      · obtain ⟨rfl, rfl⟩ := Label.served.injEq .. ▸ hlabel
        rcases hlease name o o' ho ho' with hsame | ⟨by_, rv, patch, rfl, hrule, -⟩
        · exact hsame
        · obtain ⟨hlost, snap, hparty, -⟩ := Party.rule_cases hrule
          rcases hwho with ⟨node, hagent⟩ | hw
          · rw [hparty] at hagent
            cases hagent
          · exact absurd hw hlost
      · obtain ⟨-, rfl⟩ := Label.served.injEq .. ▸ hlabel
        have heffect : s.store.effect (.patchDeviceStatus by_ name (some v) patch) = s.store :=
          s.store.update_of_stale patch.apply hstale
        cases hserved with
        | done _ => exact heffect
        | lost _ => exact heffect
        | failed _ => rfl

/-! A device that is still leased to a deleted claim, and a controller that knows no claims. -/

def orphanBody : DeviceBody where
  labels := []
  spec := ⟨"046d", "0825", none, none, some "Webcam", none, .descriptor⟩
  status := some
    { phase := some .unplugged
      attachedTo := some ⟨"default", "cam-claim", "uid-1", "vm", "2024-01-01T00:00:00Z"⟩ }

def orphanSnapshot : Snapshot :=
  { Snapshot.empty with
    devices := ⟨[UsbDevice.ofStored "cam" ⟨1, orphanBody⟩], List.pairwise_singleton _ _⟩ }

def orphanCluster : Cluster where
  store := ⟨fun n => if n = "cam" then some ⟨1, orphanBody⟩ else none, 1⟩
  copies n o := n = "cam" ∧ o = ⟨1, orphanBody⟩
  processes _ := ⟨.agent "node-a", pure ()⟩

lemma orphanCluster_init : cluster.init orphanCluster :=
  ⟨ObjectStore.remembers_single "cam" ⟨1, orphanBody⟩, fun _ => rfl⟩

/-- The controller has started a pass. -/
def orphanStarted : Cluster :=
  orphanCluster.start 0 (.controller orphanSnapshot)
    (reconcileAll ⟨.newYear, ⟨90⟩, 1704067200⟩ orphanSnapshot fun _ => none)

/-- Its first call releases the lease, and the step obeys the law. -/
theorem lease_exclusive_orphan :
    ∃ s', LeaseLaw orphanStarted (.served (.controller orphanSnapshot)
        (.patchDeviceStatus (.orphanPass []) "cam" (some 1) { attachedTo := .null })) s' ∧
      (s'.store.objects "cam").map (·.value.attachedTo) = some none := by
  have hgen : Genuine orphanCluster.copies orphanSnapshot.devices :=
    genuine_single ⟨rfl, rfl⟩ rfl
  have hreach : cluster.Reachable orphanStarted :=
    (System.Reachable.init orphanCluster_init).step (Cluster.Step.pass 0 _ _ hgen)
  have hhead : (orphanStarted.processes 0).rest.head? =
      some (.patchDeviceStatus (.orphanPass []) "cam" (some 1) { attachedTo := .null }) := by
    decide +kernel
  obtain ⟨k, hk⟩ := Prog.exists_call_of_head? hhead
  have heffect : ((orphanStarted.store.effect (.patchDeviceStatus (.orphanPass []) "cam" (some 1)
      { attachedTo := .null })).objects "cam").map (·.value.attachedTo) = some none := by
    decide +kernel
  have hdone : Served orphanStarted.store (.patchDeviceStatus (.orphanPass []) "cam" (some 1)
      { attachedTo := .null }) _ _ := .done rfl
  exact ⟨_, lease_exclusive hreach (Cluster.Step.call hk hdone), heffect⟩

end AtomicUsb
