import AtomicUsb.Agent.Sessions
import Mathlib.Tactic.IntervalCases

/-!
# Sessions that are registered too late

A task looks its device up, asks the API server for the lease, and registers its session last.
What it looked up can be out of date by then.  A device that was unplugged in between has already
been seen to by the watcher, which only looks at registered sessions; a lease that changed in
between may already have brought its new holder a session, which the registration replaces.

Both laws hold as long as what a task found out still stands when it registers
(`sessions_of_present_devices`, `new_holder_not_displaced`), and a run that breaks either
shows that nothing less will do.
-/

namespace AtomicUsb

namespace Exporter

variable {ctx : ExporterContext} {s s' : Exporter}

/-! ## Devices that are gone -/

/-- The watcher has dealt with the local devices as they are. -/
def WatcherIsDone (s : Exporter) : Prop := s.changed = false ∧ s.watching = none

/-- No session outlives the enumeration it was opened for: once the watcher is done, every
registered session that is not cancelled is for a device that is plugged in, as it is plugged
in. -/
def SessionsPresent (s : Exporter) : Prop :=
  s.WatcherIsDone → ∀ name a, (s.sessions name).active = some a → s.cancelled a.id = false →
    ∃ d, s.localDevices name = some d ∧ d.busDev = a.busDev

/-- A session is registered while the device is still the one the task has found, or before the
watcher has come round. -/
def BeginsPresent (s : Exporter) : Label → Prop
  | .beginSession t => ∀ hello device, s.tasks t = some ⟨hello, .authorized device⟩ →
      ¬ s.WatcherIsDone ∨ ∃ d, s.localDevices hello.device = some d ∧ d.busDev = device.busDev
  | _ => True

/-- The watcher works on what it has read last, and what it has finished with is in order. -/
structure PresentInv (s : Exporter) : Prop where
  watching : ∀ devices, s.changed = false → s.watching = some devices → devices = s.localDevices
  present : s.SessionsPresent

/-- A step that registers and cancels nothing.  The watcher stays where it was, has something new
to read, or has just read what is there. -/
structure Uneventful (s s' : Exporter) : Prop where
  active : ∀ d a, (s'.sessions d).active = some a → (s.sessions d).active = some a
  cancelled : s'.cancelled = s.cancelled
  nextId : s'.nextId = s.nextId
  watcher : (s'.localDevices = s.localDevices ∧ s'.changed = s.changed ∧
      s'.watching = s.watching) ∨ s'.changed = true ∨ s'.watching = some s'.localDevices

lemma Uneventful.of_eq (hsessions : s'.sessions = s.sessions)
    (hcancelled : s'.cancelled = s.cancelled) (hnext : s'.nextId = s.nextId)
    (hwatcher : s'.localDevices = s.localDevices ∧ s'.changed = s.changed ∧
      s'.watching = s.watching) : Uneventful s s' :=
  ⟨fun _ _ ha => hsessions ▸ ha, hcancelled, hnext, Or.inl hwatcher⟩

lemma uneventful_setBusy {device : String} {holder : Option ℕ} {t : ℕ} {hello : Hello}
    {outcome : Except String Stage} :
    Uneventful s ((s.setBusy device holder).goOn t hello outcome) :=
  ⟨fun d _ ha => setBusy_active device holder d ▸ ha, rfl, rfl, Or.inl ⟨rfl, rfl, rfl⟩⟩

lemma uneventful_endSession {device : String} {id t : ℕ} {hello : Hello}
    {outcome : Except String Stage} :
    Uneventful s ((s.endSession device id).goOn t hello outcome) := by
  refine ⟨fun d a ha => (endSession_active.mp ha).1, ?_, ?_, Or.inl ?_⟩ <;>
  · simp only [goOn, endSession]
    split_ifs <;> simp [withSessions]

/-- What the steps of an exporter do to registrations. -/
lemma Step.registration {l : Label} (hstep : Step ctx s l s') :
    (∃ t hello device, l = .beginSession t ∧ s.tasks t = some ⟨hello, .authorized device⟩ ∧
      s' = s.beginSession t hello device) ∨
    (∃ devices cancelled, s.watching = some devices ∧
      (∀ id, cancelled id = true ↔ s.cancelled id = true ∨ s.EndedBy devices id) ∧
      s' = { s with cancelled := cancelled, watching := none }) ∨
    Uneventful s s' := by
  have hquiet : ∀ {p q : Prop}, Uneventful s s' → p ∨ q ∨ Uneventful s s' :=
    fun h => Or.inr (Or.inr h)
  have hsame : s'.sessions = s.sessions → s'.cancelled = s.cancelled → s'.nextId = s.nextId →
      s'.localDevices = s.localDevices ∧ s'.changed = s.changed ∧ s'.watching = s.watching →
      Uneventful s s' := Uneventful.of_eq
  cases hstep with
  | tick _ => exact hquiet (hsame rfl rfl rfl ⟨rfl, rfl, rfl⟩)
  | hello hello psk ht => exact hquiet (hsame rfl rfl rfl ⟨rfl, rfl, rfl⟩)
  | nonce ht =>
      refine hquiet (hsame ?_ ?_ ?_ ?_) <;>
      · simp only [checkNonce]
        split <;> simp [goOn]
  | locate ht => exact hquiet (hsame rfl rfl rfl ⟨rfl, rfl, rfl⟩)
  | lease ht _ => exact hquiet (hsame rfl rfl rfl ⟨rfl, rfl, rfl⟩)
  | beginSession ht => exact Or.inl ⟨_, _, _, rfl, ht, rfl⟩
  | lock ht _ => exact hquiet uneventful_setBusy
  | giveUp ht => exact hquiet (hsame rfl rfl rfl ⟨rfl, rfl, rfl⟩)
  | superseded ht _ => exact hquiet uneventful_setBusy
  | serve ht _ => exact hquiet (hsame rfl rfl rfl ⟨rfl, rfl, rfl⟩)
  | served reply ht => exact hquiet uneventful_setBusy
  | endSession ht => exact hquiet uneventful_endSession
  | plugged localDevices => exact hquiet ⟨fun _ _ ha => ha, rfl, rfl, Or.inr (Or.inl rfl)⟩
  | observe _ _ => exact hquiet ⟨fun _ _ ha => ha, rfl, rfl, Or.inr (Or.inr rfl)⟩
  | watch hwatching hcancel => exact Or.inr (Or.inl ⟨_, _, hwatching, hcancel, rfl⟩)
  | leased _ => exact hquiet (hsame rfl rfl rfl ⟨rfl, rfl, rfl⟩)

lemma PresentInv.uneventful (h : s.PresentInv) (hstep : Uneventful s s') : s'.PresentInv := by
  rcases hstep.watcher with ⟨hlocal, hchanged, hwatching⟩ | hchanged | hwatching
  · refine ⟨?_, fun hdone name a ha hlive => ?_⟩
    · rw [hlocal, hchanged, hwatching]
      exact h.watching
    · rw [hlocal]
      rw [WatcherIsDone, hchanged, hwatching] at hdone
      rw [hstep.cancelled] at hlive
      exact h.present hdone name a (hstep.active name a ha) hlive
  · refine ⟨fun _ hnot => ?_, fun hdone => ?_⟩
    · rw [hchanged] at hnot
      cases hnot
    · rw [WatcherIsDone, hchanged] at hdone
      cases hdone.1
  · refine ⟨fun devices _ hsome => ?_, fun hdone => ?_⟩
    · rw [hwatching] at hsome
      exact (Option.some.inj hsome).symm
    · rw [WatcherIsDone, hwatching] at hdone
      cases hdone.2

lemma PresentInv.beginSession (h : s.PresentInv) {t : ℕ} {hello : Hello}
    {device : UsbDeviceInfo} (hbegin : ¬ s.WatcherIsDone ∨
      ∃ d, s.localDevices hello.device = some d ∧ d.busDev = device.busDev) :
    (s.beginSession t hello device).PresentInv where
  watching := h.watching
  present hdone name a ha hlive := by
    by_cases hname : name = hello.device
    · subst hname
      simp only [Exporter.beginSession, Function.update_self, Option.some.injEq] at ha
      subst ha
      exact hbegin.resolve_left fun hnot => hnot hdone
    · simp only [Exporter.beginSession, Function.update_of_ne hname] at ha
      refine h.present hdone name a ha ?_
      by_contra hcancelled
      rw [beginSession_cancelled.mpr (Or.inl (by simpa using hcancelled))] at hlive
      cases hlive

/-- The watcher ends the sessions that do not fit what it has read. -/
lemma PresentInv.watch (h : s.PresentInv) {devices : String → Option UsbDeviceInfo}
    {cancelled : ℕ → Bool} (hwatching : s.watching = some devices)
    (hcancel : ∀ id, cancelled id = true ↔ s.cancelled id = true ∨ s.EndedBy devices id) :
    PresentInv { s with cancelled := cancelled, watching := none } where
  watching _ _ hnone := by cases hnone
  present hdone name a ha hlive := by
    have hlocal := h.watching devices hdone.1 hwatching
    subst hlocal
    have hkept : ¬ s.EndedBy s.localDevices a.id := by
      intro hended
      dsimp only at hlive
      rw [(hcancel a.id).mpr (Or.inr hended)] at hlive
      cases hlive
    by_contra hgone
    refine hkept ⟨name, a, ha, rfl, ?_⟩
    cases hd : s.localDevices name with
    | none => rfl
    | some d => simpa using fun hbus => hgone ⟨d, hd, hbus⟩

lemma PresentInv.step {l : Label} (h : s.PresentInv) (hbegin : s.BeginsPresent l)
    (hstep : Step ctx s l s') : s'.PresentInv := by
  obtain ⟨t, hello, device, rfl, ht, rfl⟩ | ⟨devices, cancelled, hwatching, hcancel, rfl⟩ |
    hquiet := hstep.registration
  · exact h.beginSession (hbegin _ _ ht)
  · exact h.watch hwatching hcancel
  · exact h.uneventful hquiet

lemma PresentInv.init (h : s.Init) : s.PresentInv := by
  refine ⟨fun devices _ hwatching => ?_, fun _ name a ha => ?_⟩
  · rw [h.watching] at hwatching
    cases hwatching
  · rw [h.sessions name] at ha
    cases ha

/-- Only sessions that were registered are ever cancelled. -/
structure CancelledInv (s : Exporter) : Prop where
  session : s.SessionInv
  cancelled : ∀ id, s.cancelled id = true → id < s.nextId

lemma CancelledInv.step {l : Label} (h : s.CancelledInv) (hstep : Step ctx s l s') :
    s'.CancelledInv := by
  refine ⟨h.session.step hstep, fun id hid => ?_⟩
  obtain ⟨t, hello, device, rfl, ht, rfl⟩ | ⟨devices, cancelled, hwatching, hcancel, rfl⟩ |
    hquiet := hstep.registration
  · show id < s.nextId + 1
    rcases beginSession_cancelled.mp hid with hid | ⟨a, ha, rfl⟩
    · exact Nat.lt_succ_of_lt (h.cancelled id hid)
    · exact Nat.lt_succ_of_lt (h.session.active _ a ha).1
  · rcases (hcancel id).mp hid with hid | ⟨name, a, ha, rfl, -⟩
    · exact h.cancelled id hid
    · exact (h.session.active _ a ha).1
  · rw [hquiet.cancelled] at hid
    rw [hquiet.nextId]
    exact h.cancelled id hid

lemma CancelledInv.init (h : s.Init) : s.CancelledInv := by
  refine ⟨SessionInv.init h, fun id hid => ?_⟩
  rw [h.cancelled id] at hid
  cases hid

end Exporter

/-- **No session outlives the enumeration it was opened for**, in every run in which sessions are
registered for devices that are still there, or before the watcher has come round.  A registration
that is neither leaves a session behind that nobody is going to end. -/
theorem sessions_of_present_devices (ctx : ExporterContext) :
    (∀ s, ((exporter ctx).restrict Exporter.BeginsPresent).Reachable s → s.SessionsPresent) ∧
    ∀ s l s', (exporter ctx).Reachable s → (exporter ctx).step s l s' → ¬ s.BeginsPresent l →
      ¬ s'.SessionsPresent := by
  refine ⟨fun s hs => ?_, fun s l s' hs hstep hlate hpresent => hlate ?_⟩
  · refine (hs.invariant (I := Exporter.PresentInv) ?_ ?_).present
    · intro s hinit
      exact Exporter.PresentInv.init hinit
    · intro s l s' h hstep
      exact h.step hstep.1 hstep.2
  · have hinv : s.CancelledInv := hs.invariant (fun _ => Exporter.CancelledInv.init)
      fun _ _ _ h hstep => h.step hstep
    cases hstep with
    | @beginSession t hello device ht =>
        intro hello' device' ht'
        obtain ⟨rfl, rfl⟩ : hello = hello' ∧ device = device' := by
          simpa using ht.symm.trans ht'
        by_cases hdone : s.WatcherIsDone
        · -- the new session is registered, and nobody has cancelled it
          right
          refine hpresent hdone hello.device
            ⟨s.nextId, s!"{hello.claim.ns}/{hello.claim.name}", device.busDev⟩
            (by simp [Exporter.beginSession]) ?_
          by_contra hcancelled
          rw [Bool.not_eq_false, Exporter.beginSession_cancelled] at hcancelled
          rcases hcancelled with hcancelled | ⟨a, ha, hid⟩
          · exact lt_irrefl _ (hinv.cancelled _ hcancelled)
          · exact absurd (hinv.session.active _ a ha).1 (by rw [hid]; exact lt_irrefl _)
        · exact Or.inl hdone
    | _ => trivial

/-! The watcher finds the camera in its place, and a session is registered for it. -/

def camAccepted : Exporter :=
  (camLeased.presentHello 0 firstHello).checkNonce sampleContext 0 firstHello startTime

def camLocated : Exporter := camAccepted.goOn 0 firstHello (.ok (.located camInfo))

def camAuthorized : Exporter := camLocated.goOn 0 firstHello (.ok (.authorized camInfo))

lemma camLocated_reachable : (exporter sampleContext).Reachable camLocated := by
  have hstart : (exporter sampleContext).Reachable startedExporter := .init startedExporter_init
  have hleased : Exporter.Step sampleContext
      { startedExporter with localDevices := fun _ => some camInfo, changed := true } .leased
      camLeased := .leased _
  have haccepted : Exporter.Step sampleContext (camLeased.presentHello 0 firstHello) (.nonce 0)
      camAccepted := presentHello_nonce _ 0 firstHello firstHello_verifies
  have hlocated : Exporter.Step sampleContext camAccepted (.locate 0) camLocated := .locate rfl
  exact ((((hstart.step (Exporter.Step.plugged _)).step hleased).step
    (presentHello_step _ 0 firstHello rfl)).step haccepted).step hlocated

def camSeen : Exporter :=
  { camAuthorized with changed := false, watching := some fun _ => some camInfo }

def camDone : Exporter := { camSeen with cancelled := fun _ => false, watching := none }

def camPresent : Exporter := camDone.beginSession 0 firstHello camInfo

/-- Every step of this run meets the condition, and the session is for the camera as it is. -/
theorem sessions_of_present_devices_cam :
    camPresent.WatcherIsDone ∧ camPresent.SessionsPresent ∧
      ((camPresent.sessions "usb-cam").active.map (·.busDev)) = some camInfo.busDev := by
  have hstep : ∀ {s l s'}, ((exporter sampleContext).restrict
      Exporter.BeginsPresent).Reachable s → Exporter.Step sampleContext s l s' → s.BeginsPresent l →
      ((exporter sampleContext).restrict Exporter.BeginsPresent).Reachable s' :=
    fun hs hstep hok => hs.step ⟨hok, hstep⟩
  have hdone : Exporter.Step sampleContext camSeen .watch camDone := by
    refine .watch rfl fun id => ⟨fun h => Or.inl h, ?_⟩
    rintro (h | ⟨name, a, ha, -⟩)
    · exact h
    · cases ha
  have haccepted : Exporter.Step sampleContext (camLeased.presentHello 0 firstHello) (.nonce 0)
      camAccepted := presentHello_nonce _ 0 firstHello firstHello_verifies
  have hlocated : Exporter.Step sampleContext camAccepted (.locate 0) camLocated := .locate rfl
  have hauthorized : Exporter.Step sampleContext camLocated (.lease 0) camAuthorized :=
    .lease rfl (Or.inl rfl)
  have hseen : Exporter.Step sampleContext camAuthorized .observe camSeen := .observe rfl rfl
  have hregistered : Exporter.Step sampleContext camDone (.beginSession 0) camPresent :=
    .beginSession rfl
  have hready := hstep (hstep (hstep (hstep (hstep (hstep (hstep (hstep
    (.init startedExporter_init) (.plugged fun _ => some camInfo) trivial)
    (.leased fun _ => some camBody) trivial) (presentHello_step camLeased 0 firstHello rfl) trivial)
    haccepted trivial) hlocated trivial) hauthorized trivial) hseen trivial) hdone trivial
  have hpresent := hstep hready hregistered fun hello device ht => by
    obtain ⟨rfl, rfl⟩ : firstHello = hello ∧ camInfo = device := by
      have hwaits : camDone.tasks 0 = some ⟨firstHello, .authorized camInfo⟩ := rfl
      simpa using hwaits.symm.trans ht
    exact Or.inr ⟨camInfo, rfl, rfl⟩
  exact ⟨⟨rfl, rfl⟩, (sessions_of_present_devices sampleContext).1 _ hpresent, rfl⟩

/-! The camera is pulled out while the API server is asked for its lease. -/

def camPulled : Exporter := { camLocated with localDevices := fun _ => none, changed := true }

def camPulledSeen : Exporter :=
  { camPulled with changed := false, watching := some fun _ => none }

def camPulledDone : Exporter := { camPulledSeen with cancelled := fun _ => false, watching := none }

def camPulledAuthorized : Exporter := camPulledDone.goOn 0 firstHello (.ok (.authorized camInfo))

def camPulledRegistered : Exporter := camPulledAuthorized.beginSession 0 firstHello camInfo

/-- The watcher is done with the empty node when the session is registered, and it stays. -/
theorem pulled_camera_served :
    (exporter sampleContext).Reachable camPulledRegistered ∧
      camPulledRegistered.WatcherIsDone ∧ ¬ camPulledRegistered.SessionsPresent := by
  have hpulled : Exporter.Step sampleContext camLocated .plugged camPulled := .plugged _
  have hseen : Exporter.Step sampleContext camPulled .observe camPulledSeen := .observe rfl rfl
  have hdone : Exporter.Step sampleContext camPulledSeen .watch camPulledDone := by
    refine .watch rfl fun id => ⟨fun h => Or.inl h, ?_⟩
    rintro (h | ⟨name, a, ha, -⟩)
    · exact h
    · cases ha
  have hauthorized : Exporter.Step sampleContext camPulledDone (.lease 0) camPulledAuthorized :=
    .lease rfl (Or.inl rfl)
  have hregistered : Exporter.Step sampleContext camPulledAuthorized (.beginSession 0)
      camPulledRegistered := .beginSession rfl
  refine ⟨((((camLocated_reachable.step hpulled).step hseen).step hdone).step hauthorized).step
    hregistered, ⟨rfl, rfl⟩, fun h => ?_⟩
  obtain ⟨d, hd, -⟩ := h ⟨rfl, rfl⟩ "usb-cam" _ rfl rfl
  cases hd

/-! ## Leases that have moved on -/

namespace Exporter

variable {ctx : ExporterContext} {s s' : Exporter}

/-- The lease of a device on the API server. -/
def leaseOf (s : Exporter) (device : String) : Option Attachment :=
  (s.objects device).bind (·.attachedTo)

/-- The session `id` loses its registration or its token. -/
def Displaces (s s' : Exporter) (id : ℕ) : Prop :=
  (s.cancelled id = false ∧ s'.cancelled id = true) ∨
    ∃ d a, (s.sessions d).active = some a ∧ a.id = id ∧ (s'.sessions d).active ≠ some a

/-- Where nobody is registered, a registration displaces nobody. -/
lemma beginSession_displaces_nobody {t : ℕ} {hello : Hello} {device : UsbDeviceInfo}
    (hfree : (s.sessions hello.device).active = none) (id : ℕ) :
    ¬ Displaces s (s.beginSession t hello device) id := by
  rintro (⟨hlive, hcancelled⟩ | ⟨d, a, ha, rfl, hgone⟩)
  · rcases beginSession_cancelled.mp hcancelled with hcancelled | ⟨a, ha, -⟩
    · rw [hcancelled] at hlive
      cases hlive
    · rw [hfree] at ha
      cases ha
  · have hd : d ≠ hello.device := by
      rintro rfl
      rw [hfree] at ha
      cases ha
    refine hgone ?_
    simpa [Exporter.beginSession, hd] using ha

/-- A task that was not there, or had this hello before, goes on. -/
lemma keeps_hello_of_update {t t' : ℕ} {hello hello' : Hello} {stage' : Stage}
    (hself : s.tasks t' = none ∨ ∃ stage, s.tasks t' = some ⟨hello', stage⟩)
    (htasks : s'.tasks = Function.update s.tasks t' (some ⟨hello', stage'⟩))
    (h : ∃ stage, s.tasks t = some ⟨hello, stage⟩) :
    ∃ stage, s'.tasks t = some ⟨hello, stage⟩ := by
  obtain ⟨stage, ht⟩ := h
  rw [htasks]
  by_cases heq : t = t'
  · subst heq
    obtain hnone | ⟨old, hold⟩ := hself
    · rw [hnone] at ht
      cases ht
    · obtain ⟨rfl, -⟩ : hello' = hello ∧ old = stage := by simpa using hold.symm.trans ht
      exact ⟨stage', by simp⟩
  · exact ⟨stage, by simpa [heq] using ht⟩

/-- A task keeps its hello. -/
lemma Step.keeps_hello {l : Label} (hstep : Step ctx s l s') {t : ℕ} {hello : Hello}
    (h : ∃ stage, s.tasks t = some ⟨hello, stage⟩) : ∃ stage, s'.tasks t = some ⟨hello, stage⟩ := by
  cases hstep with
  | tick _ => exact h
  | hello _ _ ht => exact keeps_hello_of_update (Or.inl ht) rfl h
  | nonce ht =>
      unfold checkNonce
      split <;> exact keeps_hello_of_update (Or.inr ⟨_, ht⟩) rfl h
  | locate ht => exact keeps_hello_of_update (Or.inr ⟨_, ht⟩) rfl h
  | lease ht _ => exact keeps_hello_of_update (Or.inr ⟨_, ht⟩) rfl h
  | beginSession ht => exact keeps_hello_of_update (Or.inr ⟨_, ht⟩) rfl h
  | lock ht _ => exact keeps_hello_of_update (Or.inr ⟨_, ht⟩) rfl h
  | giveUp ht => exact keeps_hello_of_update (Or.inr ⟨_, ht⟩) rfl h
  | superseded ht _ => exact keeps_hello_of_update (Or.inr ⟨_, ht⟩) rfl h
  | serve ht _ => exact keeps_hello_of_update (Or.inr ⟨_, ht⟩) rfl h
  | served _ ht => exact keeps_hello_of_update (Or.inr ⟨_, ht⟩) rfl h
  | @endSession t' hello' id reply ht =>
      have htasks : ((s.endSession hello'.device id).goOn t' hello' (.ok (.closed reply))).tasks =
          Function.update s.tasks t' (some ⟨hello', .closed reply⟩) := by
        rw [goOn, endSession_tasks]
      exact keeps_hello_of_update (Or.inr ⟨_, ht⟩) htasks h
  | plugged _ => exact h
  | observe _ _ => exact h
  | watch _ _ => exact h
  | leased _ => exact h

end Exporter

/-- A lease that passes the check is the claim's. -/
lemma checkLease_ok {hello : Hello} {answer : Except String (Option DeviceBody)}
    (h : checkLease hello answer = .ok ()) :
    ∃ object lease, answer = .ok (some object) ∧ object.attachedTo = some lease ∧
      lease.claimUid = hello.claim.uid ∧ lease.ns = hello.claim.ns ∧
      lease.claim = hello.claim.name := by
  unfold checkLease at h
  split at h
  · cases h
  · cases h
  · rename_i object
    split at h
    · cases h
    · rename_i lease hlease
      split_ifs at h with hclaim
      exact ⟨object, lease, rfl, hlease, hclaim⟩

section Runs

variable {ctx : ExporterContext} (r : (exporter ctx).Run)

/-- In step `i` task `t` reads the lease, and finds it held by the claim of its hello. -/
def ReadsLease (i t : ℕ) (hello : Hello) : Prop :=
  i < r.length ∧ r.label i = .lease t ∧
    ∃ device, (r.state (i + 1)).tasks t = some ⟨hello, .authorized device⟩

/-- In step `l` task `t` registers its session. -/
def Registers (l t : ℕ) : Prop := l < r.length ∧ r.label l = .beginSession t

/-- If `t₁` has read the lease as held by one claim and `t₂` later as held by another, and `t₂` has
registered, then the session of `t₂` is not displaced when `t₁` registers. -/
def NewHolderStays : Prop :=
  ∀ i k l m t₁ t₂ h₁ h₂, i < k → k < l → l < m → ReadsLease r i t₁ h₁ → ReadsLease r k t₂ h₂ →
    h₁.device = h₂.device → h₁.claim ≠ h₂.claim → Registers r l t₂ → Registers r m t₁ →
    ¬ (r.state m).Displaces (r.state (m + 1)) (r.state l).nextId

/-- Whenever a task registers, the lease has been the one it has read ever since, or nobody is
registered for the device. -/
def LeaseStands : Prop :=
  ∀ i m t hello, i < m → ReadsLease r i t hello → Registers r m t →
    (∀ j, i ≤ j → j ≤ m → (r.state j).leaseOf hello.device = (r.state i).leaseOf hello.device) ∨
      ((r.state m).sessions hello.device).active = none

variable {r}

/-- What a task has read was on the API server. -/
lemma ReadsLease.leaseOf {i t : ℕ} {hello : Hello} (h : ReadsLease r i t hello) :
    ∃ lease, (r.state i).leaseOf hello.device = some lease ∧ lease.claimUid = hello.claim.uid ∧
      lease.ns = hello.claim.ns ∧ lease.claim = hello.claim.name := by
  obtain ⟨hi, hlabel, device, htask⟩ := h
  have hstep : Exporter.Step ctx (r.state i) (r.label i) (r.state (i + 1)) := r.step i hi
  rw [hlabel] at hstep
  generalize r.state (i + 1) = s' at hstep htask
  cases hstep with
  | @lease _ hello' device' answer ht hanswer =>
      simp only [Exporter.goOn, Function.update_self, Option.some.injEq, Task.mk.injEq] at htask
      obtain ⟨rfl, hstage⟩ := htask
      have hok : checkLease hello' answer = .ok () := by
        cases hcheck : checkLease hello' answer with
        | ok _ => rfl
        | error e =>
            rw [hcheck] at hstage
            cases hstage
      obtain ⟨object, lease, rfl, hlease, hclaim⟩ := checkLease_ok hok
      obtain hobject | ⟨e, he⟩ := hanswer
      · refine ⟨lease, ?_, hclaim⟩
        rw [Exporter.leaseOf, ← Except.ok.inj hobject]
        exact hlease
      · cases he

/-- Two tasks that find the same lease belong to the same claim. -/
lemma claim_eq_of_lease {lease : Attachment} {c c' : ClaimRef}
    (h : lease.claimUid = c.uid ∧ lease.ns = c.ns ∧ lease.claim = c.name)
    (h' : lease.claimUid = c'.uid ∧ lease.ns = c'.ns ∧ lease.claim = c'.name) : c = c' := by
  cases c
  cases c'
  simp_all

/-- **A session of the current lease holder is not displaced by one authorised under an older
lease**, in every run in which the lease a task has read still stands when the task registers, or
nobody is registered for its device. -/
theorem new_holder_not_displaced (r : (exporter ctx).Run) (h : LeaseStands r) :
    NewHolderStays r := by
  intro i k l m t₁ t₂ h₁ h₂ hik hkl hlm hread₁ hread₂ hdevice hclaim hreg₂ hreg₁
  rcases h i m t₁ h₁ (by omega) hread₁ hreg₁ with hstands | hfree
  · obtain ⟨lease, hlease, hmatch⟩ := hread₁.leaseOf
    obtain ⟨lease', hlease', hmatch'⟩ := hread₂.leaseOf
    have hsame := hstands k (by omega) (by omega)
    rw [hlease, hdevice, hlease', Option.some.injEq] at hsame
    subst hsame
    exact absurd (claim_eq_of_lease hmatch hmatch') hclaim
  · -- the task that registers is the one that has read the lease
    obtain ⟨hm, hlabel⟩ := hreg₁
    have hstep : Exporter.Step ctx (r.state m) (r.label m) (r.state (m + 1)) := r.step m hm
    rw [hlabel] at hstep
    obtain ⟨-, -, device, htask⟩ := hread₁
    obtain ⟨stage, hstage⟩ := r.keeps
      (P := fun s => ∃ stage, s.tasks t₁ = some ⟨h₁, stage⟩)
      (fun _ _ _ hs hstep => Exporter.Step.keeps_hello hstep hs) (by omega : i + 1 ≤ m) hm.le
      ⟨_, htask⟩
    generalize r.state (m + 1) = s' at hstep
    cases hstep with
    | @beginSession _ hello device ht =>
        obtain ⟨rfl, -⟩ : hello = h₁ ∧ Stage.authorized device = stage := by
          simpa using ht.symm.trans hstage
        exact Exporter.beginSession_displaces_nobody hfree _

end Runs

/-! ### A new holder is overtaken

The camera of `Agent/Sessions.lean` changes hands after the first hello has been authorised. -/

def camBoth : Exporter := camFirst.handOver.authorizedHello 1 otherHello

def camOther : Exporter := camBoth.beginSession 1 otherHello camInfo

def overtakenState : ℕ → Exporter
  | 0 => startedExporter
  | 1 => { startedExporter with localDevices := fun _ => some camInfo, changed := true }
  | 2 => camLeased
  | 3 => camLeased.verifiedHello 0 firstHello
  | 4 => camLeased.acceptedHello 0 firstHello
  | 5 => camLeased.locatedHello 0 firstHello
  | 6 => camFirst
  | 7 => camFirst.handOver
  | 8 => camFirst.handOver.verifiedHello 1 otherHello
  | 9 => camFirst.handOver.acceptedHello 1 otherHello
  | 10 => camFirst.handOver.locatedHello 1 otherHello
  | 11 => camBoth
  | 12 => camOther
  | _ => camOther.beginSession 0 firstHello camInfo

def overtakenLabel : ℕ → Exporter.Label
  | 0 => .plugged
  | 1 => .leased
  | 2 => .hello 0
  | 3 => .nonce 0
  | 4 => .locate 0
  | 5 => .lease 0
  | 6 => .leased
  | 7 => .hello 1
  | 8 => .nonce 1
  | 9 => .locate 1
  | 10 => .lease 1
  | 11 => .beginSession 1
  | _ => .beginSession 0

lemma overtaken_step (n : ℕ) (hn : n < 13) :
    (exporter handoverContext).step (overtakenState n) (overtakenLabel n)
      (overtakenState (n + 1)) := by
  match n, hn with
  | 0, _ => exact Exporter.Step.plugged _
  | 1, _ => exact Exporter.Step.leased _
  | 2, _ => exact verifiedHello_step rfl rfl firstHello_authentic
  | 3, _ => exact acceptedHello_step (by decide +kernel)
  | 4, _ => exact locatedHello_step rfl
  | 5, _ => exact authorizedHello_step (by decide +kernel)
  | 6, _ => exact Exporter.Step.leased _
  | 7, _ => exact verifiedHello_step rfl rfl otherHello_authentic
  | 8, _ => exact acceptedHello_step (by decide +kernel)
  | 9, _ => exact locatedHello_step rfl
  | 10, _ => exact authorizedHello_step (by decide +kernel)
  | 11, _ => exact Exporter.Step.beginSession rfl
  | 12, _ => exact Exporter.Step.beginSession rfl

/-- The first task registers when the new holder already has. -/
def overtakenRun : (exporter handoverContext).Run where
  length := 13
  state := overtakenState
  label := overtakenLabel
  init := startedExporter_init
  step := overtaken_step

/-- The session of the new holder is displaced by one authorised under the old lease. -/
theorem new_holder_displaced : ¬ NewHolderStays overtakenRun := by
  intro h
  refine h 5 10 11 12 0 1 firstHello otherHello (by decide) (by decide) (by decide)
    ⟨by decide, rfl, camInfo, rfl⟩ ⟨by decide, rfl, camInfo, rfl⟩ rfl (by decide)
    ⟨by decide, rfl⟩ ⟨by decide, rfl⟩ (Or.inl ⟨rfl, rfl⟩)

/-! The same with a new holder that has given up before the first task registers. -/

def camGivenUp : Exporter :=
  camOther.goOn 1 otherHello
    (.ok (.leaving 1 (some "previous session did not stop in time")))

def camEnded : Exporter :=
  (camGivenUp.endSession otherHello.device 1).goOn 1 otherHello
    (.ok (.closed (some "previous session did not stop in time")))

def givenUpState (n : ℕ) : Exporter :=
  if n = 13 then camGivenUp
  else if n = 14 then camEnded
  else if n = 15 then camEnded.beginSession 0 firstHello camInfo
  else overtakenState n

def givenUpLabel (n : ℕ) : Exporter.Label :=
  if n = 12 then .giveUp 1 else if n = 13 then .endSession 1 else overtakenLabel n

lemma camGivenUp_step : Exporter.Step handoverContext camOther (.giveUp 1) camGivenUp :=
  .giveUp rfl

lemma camEnded_step : Exporter.Step handoverContext camGivenUp (.endSession 1) camEnded :=
  .endSession (by simp [camGivenUp, Exporter.goOn])

lemma camEnded_tasks : camEnded.tasks 0 = some ⟨firstHello, .authorized camInfo⟩ := by
  rw [camEnded, Exporter.goOn, Exporter.endSession_tasks]
  rfl

lemma givenUp_step (n : ℕ) (hn : n < 15) :
    (exporter handoverContext).step (givenUpState n) (givenUpLabel n) (givenUpState (n + 1)) := by
  by_cases h : n < 12
  · have hstate : givenUpState n = overtakenState n := by
      simp [givenUpState, show n ≠ 13 by omega, show n ≠ 14 by omega, show n ≠ 15 by omega]
    have hnext : givenUpState (n + 1) = overtakenState (n + 1) := by
      simp [givenUpState, show n ≠ 12 by omega, show n ≠ 13 by omega, show n ≠ 14 by omega]
    have hlabel : givenUpLabel n = overtakenLabel n := by
      simp [givenUpLabel, show n ≠ 12 by omega, show n ≠ 13 by omega]
    rw [hstate, hnext, hlabel]
    exact overtaken_step n (by omega)
  · obtain rfl | rfl | rfl : n = 12 ∨ n = 13 ∨ n = 14 := by omega
    · exact camGivenUp_step
    · exact camEnded_step
    · exact Exporter.Step.beginSession camEnded_tasks

def givenUpRun : (exporter handoverContext).Run where
  length := 15
  state := givenUpState
  label := givenUpLabel
  init := startedExporter_init
  step := givenUp_step

/-- Nobody is registered when the first task registers, and nobody is displaced. -/
theorem new_holder_not_displaced_givenUp :
    ¬ (givenUpState 14).Displaces (givenUpState 15) (givenUpState 11).nextId := by
  have hreads : ∀ i t hello, ReadsLease givenUpRun i t hello →
      (i = 5 ∧ t = 0 ∧ hello = firstHello) ∨ (i = 10 ∧ t = 1) := by
    rintro i t hello ⟨hi, hlabel, device, htask⟩
    have hi' : i < 15 := hi
    have hlabel' : givenUpLabel i = .lease t := hlabel
    interval_cases i <;> simp [givenUpLabel, overtakenLabel] at hlabel' ⊢
    · subst hlabel'
      have hfirst : (givenUpState 6).tasks 0 = some ⟨firstHello, .authorized camInfo⟩ := rfl
      obtain ⟨rfl, -⟩ : firstHello = hello ∧ camInfo = device := by
        simpa using hfirst.symm.trans htask
      exact ⟨rfl, rfl⟩
    · exact hlabel'.symm
  have hregisters : ∀ m t, Registers givenUpRun m t → (m = 11 ∧ t = 1) ∨ (m = 14 ∧ t = 0) := by
    rintro m t ⟨hm, hlabel⟩
    have hm' : m < 15 := hm
    have hlabel' : givenUpLabel m = .beginSession t := hlabel
    interval_cases m <;> simp [givenUpLabel, overtakenLabel] at hlabel' ⊢
    · exact hlabel'.symm
    · exact hlabel'.symm
  have hstands : LeaseStands givenUpRun := by
    intro i m t hello him hread hreg
    obtain ⟨rfl, rfl, rfl⟩ | ⟨rfl, rfl⟩ := hreads i t hello hread
    · obtain ⟨-, h⟩ | ⟨rfl, -⟩ := hregisters m 0 hreg
      · cases h
      · right
        rfl
    · obtain ⟨rfl, -⟩ | ⟨-, h⟩ := hregisters m 1 hreg
      · left
        intro j hj hj'
        obtain rfl | rfl : j = 10 ∨ j = 11 := by omega
        · rfl
        · rfl
      · cases h
  exact new_holder_not_displaced givenUpRun hstands 5 10 11 14 0 1 firstHello otherHello
    (by decide) (by decide) (by decide) ⟨by decide, rfl, camInfo, rfl⟩
    ⟨by decide, rfl, camInfo, rfl⟩ rfl (by decide) ⟨by decide, rfl⟩ ⟨by decide, rfl⟩

end AtomicUsb
