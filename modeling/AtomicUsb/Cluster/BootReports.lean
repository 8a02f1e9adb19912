import AtomicUsb.Agent.Attacher
import AtomicUsb.Controller.ReleaseOnce
import AtomicUsb.Foundation.Transition

/-!
# Boots and the reports they are released on

A claim is ready when its `status.connection` says so, and the report is taken to be about the
instance the VM has now: it is matched by node, device and slot.  Nothing in it says which instance
the session was for, and sessions, instances and the caches of the controller change independently,
so a report about the previous instance can release the next one (`released_on_old_report`).

`released_on_own_reports` is the guarantee for runs whose steps are `Timely`: in these, no report
that could be mistaken ever meets an instance it was not made for.
-/

namespace AtomicUsb

/-- A connection report together with the session that made it, which the object does not name. -/
structure Report where
  connection : ConnectionStatus
  session : SessionSpec

/-- The instances and the reports of all claims at one moment. -/
structure Moment where
  vmis : List VmiInfo
  reports : String × String → Option Report

/-- A session of an agent, with what is left of the report it is making. -/
structure Session where
  node : String
  spec : SessionSpec
  rest : ApiProg Reporter

structure Attachments where
  now : Moment
  /-- The moments there have been. -/
  past : Moment → Prop
  sessions : ℕ → Option Session
  /-- Calls that their senders no longer wait for and that may still take effect. -/
  inFlight : List (SessionSpec × ApiCall)

/-- What a session's call does when it takes effect. -/
def Moment.effect (m : Moment) (session : SessionSpec) : ApiCall → Moment
  | .patchClaimStatus _ ns name patch =>
    match patch.connection with
    | .value c => { m with reports := Function.update m.reports (ns, name) (some ⟨c, session⟩) }
    | .null => { m with reports := Function.update m.reports (ns, name) none }
    | .absent => m
  | _ => m

/-- The report would be taken to be about this instance, when `vmOf` says which VM each claim is
for. -/
def Report.Fits (r : Report) (vmOf : String × String → String) (key : String × String)
    (v : VmiInfo) : Prop :=
  r.connection.isLive = true ∧ v.ns = key.1 ∧ v.name = vmOf key ∧ v.node = some r.connection.node

/-- Every report that would be taken to be about one of the instances was made for it. -/
def Moment.Coherent (m : Moment) (vmOf : String × String → String) : Prop :=
  ∀ key r, m.reports key = some r → ∀ v ∈ m.vmis, r.Fits vmOf key v → r.session.vmiUid = v.uid

namespace Attachments

/-- Time goes on to the moment `m`. -/
def become (s : Attachments) (m : Moment) : Attachments :=
  { s with now := m, past := fun m' => s.past m' ∨ m' = m }

def setSession (s : Attachments) (id : ℕ) (session : Option Session) : Attachments :=
  { s with sessions := Function.update s.sessions id session }

@[simp] lemma setSession_sessions_self (s : Attachments) (id : ℕ) (session : Option Session) :
    (s.setSession id session).sessions id = session := Function.update_self ..

inductive Label
  /-- Nothing that others can see. -/
  | quiet
  /-- A call of a session takes effect. -/
  | applied (session : SessionSpec) (call : ApiCall)
  /-- Instances start, stop, are replaced or move to another node. -/
  | instances (vmis : List VmiInfo)
  /-- A claim is deleted; another of its name starts without a report. -/
  | forget (key : String × String)
  /-- A pass whose caches show these moments of the claims and of the instances. -/
  | pass (p : Pass) (shown seen : Moment)

variable (vmOf : String × String → String)

/-- The snapshot of a pass, with claims as they were in `shown` and instances as in `seen`. -/
structure Views (snap : Snapshot) (shown seen : Moment) : Prop where
  vmis : ∀ v ∈ snap.vmis, v ∈ seen.vmis
  vmName : ∀ c ∈ snap.claims, c.spec.vmName = vmOf (c.namespaceOrDefault, c.name)
  connection : ∀ c ∈ snap.claims, c.statusOrDefault.connection =
    (shown.reports (c.namespaceOrDefault, c.name)).map (·.connection)

inductive Step : Attachments → Label → Attachments → Prop
  | start {s : Attachments} (id : ℕ) (rt : Runtime) (now : ℤ) {view : AgentView}
      {spec : SessionSpec} (hid : s.sessions id = none) (hspec : spec ∈ view.desiredSessions) :
      Step s .quiet (s.setSession id (some ⟨view.node, spec, pure (Reporter.new rt now)⟩))
  /-- A session begins a report.  Its cache may show anything. -/
  | report {s : Attachments} (id : ℕ) {node : String} {spec : SessionSpec} {reporter : Reporter}
      (rt : Runtime) (current : Option ConnectionStatus) (now : ℤ) (state : ConnectionState)
      (message : String) (awaitingResume : Bool)
      (hid : s.sessions id = some ⟨node, spec, pure reporter⟩) :
      Step s .quiet (s.setSession id (some ⟨node, spec,
        reporter.reportWith rt node spec current now state message awaitingResume⟩))
  /-- Its call takes effect, whatever the answer is. -/
  | served {s : Attachments} (id : ℕ) {node : String} {spec : SessionSpec} {call : ApiCall}
      {k : call.Answer → ApiProg Reporter}
      (hid : s.sessions id = some ⟨node, spec, .call call k⟩) (x : call.Answer) :
      Step s (.applied spec call)
        ((s.setSession id (some ⟨node, spec, k x⟩)).become (s.now.effect spec call))
  | failed {s : Attachments} (id : ℕ) {node : String} {spec : SessionSpec} {call : ApiCall}
      {k : call.Answer → ApiProg Reporter}
      (hid : s.sessions id = some ⟨node, spec, .call call k⟩) (x : call.Answer)
      (hx : (call.failure x).isSome = true) :
      Step s .quiet (s.setSession id (some ⟨node, spec, k x⟩))
  /-- The session gives up on a call that may still arrive. -/
  | timedOut {s : Attachments} (id : ℕ) {node : String} {spec : SessionSpec} {call : ApiCall}
      {k : call.Answer → ApiProg Reporter}
      (hid : s.sessions id = some ⟨node, spec, .call call k⟩) (x : call.Answer)
      (hx : (call.failure x).isSome = true) :
      Step s .quiet { s.setSession id (some ⟨node, spec, k x⟩) with
        inFlight := (spec, call) :: s.inFlight }
  /-- The session ends, or its agent does. -/
  | stop {s : Attachments} (id : ℕ) : Step s .quiet (s.setSession id none)
  /-- … while it waits for an answer. -/
  | cut {s : Attachments} (id : ℕ) {node : String} {spec : SessionSpec} {call : ApiCall}
      {k : call.Answer → ApiProg Reporter}
      (hid : s.sessions id = some ⟨node, spec, .call call k⟩) :
      Step s .quiet { s.setSession id none with inFlight := (spec, call) :: s.inFlight }
  | deliver {s : Attachments} {spec : SessionSpec} {call : ApiCall}
      (hmem : (spec, call) ∈ s.inFlight) :
      Step s (.applied spec call)
        ({ s with inFlight := s.inFlight.erase (spec, call) }.become (s.now.effect spec call))
  | instances {s : Attachments} (vmis : List VmiInfo) :
      Step s (.instances vmis) (s.become { s.now with vmis := vmis })
  | forget {s : Attachments} (key : String × String) :
      Step s (.forget key)
        (s.become { s.now with reports := Function.update s.now.reports key none })
  | pass {s : Attachments} (p : Pass) {shown seen : Moment} (hshown : s.past shown)
      (hseen : s.past seen) (hviews : Views vmOf p.snap shown seen) :
      Step s (.pass p shown seen) s

/-- When the step is taken, it brings no live report together with an instance that it was not made
for: no call takes effect from a session of another instance than the one on that node, no instance
comes to a node while a report from there about another one stands, and a pass that sees an instance
on the node of a report sees the one that was there when it sees the report. -/
def Timely (s : Attachments) : Label → Prop
  | .applied session (.patchClaimStatus _ ns name patch) =>
    ∀ c, patch.connection = .value c → ∀ v ∈ s.now.vmis,
      (Report.mk c session).Fits vmOf (ns, name) v → session.vmiUid = v.uid
  | .instances vmis =>
    ∀ key r, s.now.reports key = some r → ∀ v ∈ vmis, r.Fits vmOf key v → r.session.vmiUid = v.uid
  | .pass _ shown seen =>
    ∀ key r, shown.reports key = some r → ∀ v ∈ seen.vmis, r.Fits vmOf key v →
      ∃ w ∈ shown.vmis, w.ns = v.ns ∧ w.name = v.name ∧ w.uid = v.uid ∧ w.node = v.node
  | _ => True

end Attachments

open Attachments in
/-- Sessions, instances and passes in any order.  At first nothing has been reported. -/
def attachments (vmOf : String × String → String) : System Attachments Attachments.Label where
  init s := (∀ key, s.now.reports key = none) ∧ (∀ m, s.past m ↔ m = s.now) ∧
    (∀ id, s.sessions id = none) ∧ s.inFlight = []
  step := Step vmOf

namespace Attachments

variable {vmOf : String × String → String} {s s' : Attachments} {m : Moment}

lemma coherent_effect (h : m.Coherent vmOf) {session : SessionSpec} {call : ApiCall}
    (hcall : ∀ by_ ns name patch c, call = .patchClaimStatus by_ ns name patch →
      patch.connection = .value c → ∀ v ∈ m.vmis, (Report.mk c session).Fits vmOf (ns, name) v →
      session.vmiUid = v.uid) : (m.effect session call).Coherent vmOf := by
  cases call with
  | patchClaimStatus by_ ns name patch =>
      dsimp only [Moment.effect]
      split
      · rename_i c hc
        intro key r hr v hv hfits
        dsimp only at hr hv
        by_cases hkey : key = (ns, name)
        · subst hkey
          rw [Function.update_self, Option.some.injEq] at hr
          subst hr
          exact hcall by_ ns name patch c rfl hc v hv hfits
        · rw [Function.update_of_ne hkey] at hr
          exact h key r hr v hv hfits
      · intro key r hr v hv hfits
        dsimp only at hr hv
        by_cases hkey : key = (ns, name)
        · subst hkey
          rw [Function.update_self] at hr
          cases hr
        · rw [Function.update_of_ne hkey] at hr
          exact h key r hr v hv hfits
      · exact h
  | patchDeviceStatus | applyDevice | patchOwnerReferences | unpause => exact h

/-- There has been no moment at which a report met an instance it was not made for. -/
structure ReportInv (vmOf : String × String → String) (s : Attachments) : Prop where
  past : ∀ m, s.past m → m.Coherent vmOf
  now : s.past s.now

lemma ReportInv.become (h : ReportInv vmOf s) (hm : m.Coherent vmOf) :
    ReportInv vmOf (s.become m) where
  past m' hm' := hm'.elim (h.past m') fun heq => heq ▸ hm
  now := Or.inr rfl

lemma reportInv {s : Attachments}
    (hs : ((attachments vmOf).restrict (Timely vmOf)).Reachable s) : ReportInv vmOf s := by
  refine hs.invariant ?_ ?_
  · rintro s ⟨hnone, hpast, -⟩
    refine ⟨fun m hm key r hr => ?_, (hpast _).mpr rfl⟩
    rw [(hpast m).mp hm, hnone] at hr
    cases hr
  · rintro s l s' h ⟨hok, hstep⟩
    have hnow := h.past _ h.now
    have happlied : ∀ {session : SessionSpec} {call : ApiCall},
        s.Timely vmOf (.applied session call) →
        (s.now.effect session call).Coherent vmOf := by
      intro session call hok
      refine coherent_effect hnow ?_
      rintro by_ ns name patch c rfl hc v hv hfits
      exact hok c hc v hv hfits
    cases hstep with
    | start => exact ⟨h.past, h.now⟩
    | report => exact ⟨h.past, h.now⟩
    | served id hid x =>
        exact ReportInv.become (s := s.setSession id _) ⟨h.past, h.now⟩ (happlied hok)
    | failed => exact ⟨h.past, h.now⟩
    | timedOut => exact ⟨h.past, h.now⟩
    | stop => exact ⟨h.past, h.now⟩
    | cut => exact ⟨h.past, h.now⟩
    | deliver hmem =>
        exact ReportInv.become (s := { s with inFlight := _ }) ⟨h.past, h.now⟩ (happlied hok)
    | instances vmis => exact h.become hok
    | forget key =>
        refine h.become fun key' r hr v hv hfits => ?_
        dsimp only at hr hv
        by_cases hkey : key' = key
        · subst hkey
          rw [Function.update_self] at hr
          cases hr
        · rw [Function.update_of_ne hkey] at hr
          exact hnow key' r hr v hv hfits
    | pass => exact h

end Attachments

/-- If the pass resumes an instance, then what made each of its ready claims ready was reported by a
session for that instance. -/
def Pass.ReleasesOnOwnReports (p : Pass) (shown : Moment) : Prop :=
  ∀ key v, ApiCall.unpause key.1 key.2 v.uid ∈ p.trace.map (·.1) → p.snap.vmi? key = some v →
    ∀ c, c.vmKey = key → p.result.FoundReady c →
      ∃ r, shown.reports (c.namespaceOrDefault, c.name) = some r ∧
        c.statusOrDefault.connection = some r.connection ∧ r.session.vmiUid = v.uid

open Attachments in
/-- **Boots are released on reports about their own instance.**  In every run of sessions, reports,
restarts and passes whose steps are timely, every pass that resumes an instance does so on reports
made by sessions for that instance. -/
theorem released_on_own_reports {vmOf : String × String → String} {s s' : Attachments} {p : Pass}
    {shown seen : Moment} (hs : ((attachments vmOf).restrict (Timely vmOf)).Reachable s)
    (hstep : ((attachments vmOf).restrict (Timely vmOf)).step s (.pass p shown seen) s') :
    p.ReleasesOnOwnReports shown := by
  obtain ⟨htimely, hstep⟩ := hstep
  rintro key v - hv c rfl ⟨o, hold, hmem, hhold, hready⟩
  cases hstep with
  | pass _ hshown hseen hviews =>
      have hclaim := Pass.mem_claims_of_outcome hmem
      obtain ⟨conn, v', hconn, hv', hnode, hlive⟩ :=
        connection_of_outcome p.ctx p.runs hmem hhold hready
      obtain rfl : v = v' := Option.some.inj (hv.symm.trans hv')
      obtain ⟨r, hr, rfl⟩ := Option.map_eq_some_iff.mp
        ((hviews.connection c hclaim).symm.trans hconn)
      have hkey : (v.ns, v.name) = c.vmKey := by simpa using List.find?_some hv
      obtain ⟨hvns, hvname⟩ := Prod.mk.injEq .. ▸ hkey
      have hvmOf : v.name = vmOf (c.namespaceOrDefault, c.name) :=
        hvname.trans (hviews.vmName c hclaim)
      obtain ⟨w, hw, hns, hname, huid, hwnode⟩ := htimely _ r hr v
        (hviews.vmis v (List.mem_of_find?_eq_some hv)) ⟨hlive, hvns, hvmOf, hnode⟩
      refine ⟨r, hr, hconn, ?_⟩
      rw [← huid]
      exact (reportInv hs).past _ hshown _ r hr w hw
        ⟨hlive, hns.trans hvns, hname.trans hvmOf, hwnode.trans hnode⟩

/-! ### A session for the camera -/

/-- The claim for the camera, bound to device and slot, with a connection report. -/
def boundClaim (connection : Option ConnectionStatus) : UsbDeviceClaim :=
  desktopClaim "camera" "uid-camera" <| some
    { deviceName := some "camera"
      slot := some 3
      connection := connection }

def boundSnapshot (connection : ConnectionStatus) : Snapshot :=
  desktopSnapshot [boundClaim (some connection)] (List.nodup_singleton _) (List.nodup_singleton _)

/-- What the agent of the desktop's node sees. -/
def cameraView (v : VmiInfo) : AgentView where
  node := "node-a"
  claims := [boundClaim none]
  devices := cameraDevices
  vmis := [v]

def cameraSession (uid : String) : SessionSpec where
  claim := ⟨"lab", "camera", "uid-camera"⟩
  device := "camera"
  slot := 3
  vmiUid := uid
  vmName := "desktop"

namespace Attachments

/-- Before anything was reported. -/
def unreported (v : VmiInfo) : Attachments where
  now := ⟨[v], fun _ => none⟩
  past m := m = ⟨[v], fun _ => none⟩
  sessions _ := none
  inFlight := []

abbrev desktopSystem : System Attachments Label :=
  (attachments fun _ => "desktop").restrict (Timely fun _ => "desktop")

lemma reachable_quiet {s s' : Attachments} (hs : desktopSystem.Reachable s)
    (hstep : Step (fun _ => "desktop") s .quiet s') : desktopSystem.Reachable s' :=
  hs.step (show Timely _ s .quiet ∧ _ from ⟨trivial, hstep⟩)

/-- The session of this instance is idle, and these reports stand. -/
def Idle (s : Attachments) (v : VmiInfo) (reporter : Reporter)
    (reports : String × String → Option Report) : Prop :=
  s.sessions 0 = some ⟨"node-a", cameraSession v.uid, pure reporter⟩ ∧ s.now = ⟨[v], reports⟩ ∧
    s.past s.now

lemma reachable_started {v : VmiInfo}
    (hspec : cameraSession v.uid ∈ (cameraView v).desiredSessions) :
    ∃ s, desktopSystem.Reachable s ∧
      s.Idle v (Reporter.new .newYear 1704067200) (fun _ => none) := by
  have hinit : desktopSystem.Reachable (unreported v) :=
    .init ⟨fun _ => rfl, fun _ => Iff.rfl, fun _ => rfl, rfl⟩
  exact ⟨_, reachable_quiet hinit (.start 0 .newYear 1704067200 rfl hspec),
    setSession_sessions_self .., rfl, rfl⟩

/-- The session makes a report and is answered. -/
lemma reachable_reported {s : Attachments} {v : VmiInfo} {r : Reporter}
    {reports : String × String → Option Report} (hs : desktopSystem.Reachable s)
    (hidle : s.Idle v r reports) (state : ConnectionState) (message : String)
    (awaitingResume : Bool) (connection : ConnectionStatus) (hstate : state ≠ .disconnected)
    (hlast : r.last ≠ some (state, message, awaitingResume))
    (hconn : r.connection .newYear "node-a" (cameraSession v.uid) 1704067200 state message
      awaitingResume = connection) :
    ∃ s', desktopSystem.Reachable s' ∧
      s'.Idle v ⟨some (state, message, awaitingResume), connection.since⟩
        (Function.update reports ("lab", "camera") (some ⟨connection, cameraSession v.uid⟩)) := by
  obtain ⟨hid, hnow, -⟩ := hidle
  have hreport : Step (fun _ => "desktop") s .quiet _ :=
    .report 0 .newYear none 1704067200 state message awaitingResume hid
  rw [Reporter.reportWith_eq_call .newYear (not_or.mpr ⟨hlast, fun h => hstate h.1⟩), hconn]
    at hreport
  have hs' := reachable_quiet hs hreport
  have hserved := @Step.served (fun _ => "desktop") _ 0 _ _ _ _
    (setSession_sessions_self s 0 (some ⟨"node-a", cameraSession v.uid,
      .call (.patchClaimStatus (.agent "node-a") "lab" "camera"
        { connection := .value connection }) fun answer =>
          pure (r.after (state, message, awaitingResume) connection.since answer)⟩)) (Except.ok ())
  refine ⟨_, hs'.step ⟨?_, hserved⟩, ?_, ?_, Or.inr rfl⟩
  · intro c _ v' hv' _
    rw [show v' = v by simpa [setSession, hnow] using hv']
    rfl
  · simp [become, Reporter.after]
  · simp [become, Moment.effect, setSession, hnow, cameraSession]

end Attachments

/-- A report of the session for the camera, as it is written into the claim. -/
def cameraConnection (state : ConnectionState) (message : String) (awaitingResume : Option Bool) :
    ConnectionStatus where
  state := state
  node := "node-a"
  deviceName := "camera"
  slot := 3
  since := "2024-01-01T00:00:00Z"
  message := some message
  awaitingResume := awaitingResume

def connectingMessage : String := "connecting to exporter on node-b"

def attachedMessage : String := "attached from node-b via virt-usbredir-3"

def readyMessage : String :=
  "ready on virt-usbredir-3 with the device from node-b; waiting for the VM to resume"

lemma boundSnapshot_views {reports : String × String → Option Report}
    {connection : ConnectionStatus} {session : SessionSpec}
    (hr : reports ("lab", "camera") = some ⟨connection, session⟩) :
    Attachments.Views (fun _ => "desktop") (boundSnapshot connection) ⟨[desktopVmi], reports⟩
      ⟨[desktopVmi], reports⟩ where
  vmis _ hv := hv
  vmName c hc := by
    obtain rfl := List.mem_singleton.mp hc
    rfl
  connection c hc := by
    obtain rfl := List.mem_singleton.mp hc
    show some connection = (reports ("lab", "camera")).map (·.connection)
    rw [hr]
    rfl

open Attachments in
/-- The session of the paused desktop reports that the camera waits for it, and the pass that then
resumes the desktop rests on that report. -/
theorem released_on_own_reports_camera :
    ∃ (s : Attachments) (p : Pass) (shown : Moment), desktopSystem.Reachable s ∧
      p.ReleasesOnOwnReports shown ∧
      ApiCall.unpause "lab" "desktop" "vmi-1" ∈ p.trace.map (·.1) := by
  obtain ⟨s, hs, hidle⟩ := reachable_started (v := desktopVmi) (by decide +kernel)
  obtain ⟨s, hs, -, hnow, hpast⟩ := reachable_reported hs hidle .connecting readyMessage true
    (cameraConnection .connecting readyMessage (some true)) (by decide) (by decide +kernel)
    (by decide +kernel)
  rw [hnow] at hpast
  have hpass : Step (fun _ => "desktop") s _ s :=
    .pass (.fresh (boundSnapshot (cameraConnection .connecting readyMessage (some true)))) hpast
      hpast (boundSnapshot_views (Function.update_self ..))
  refine ⟨s, _, _, hs, released_on_own_reports hs ⟨?_, hpass⟩, by decide +kernel⟩
  exact fun _ _ _ v hv _ => ⟨v, hv, rfl, rfl, rfl, rfl⟩

/-- The instance before the desktop's current one. -/
def previousVmi : VmiInfo :=
  { desktopVmi with uid := "vmi-0", paused := false, pausedSince := none }

open Attachments in
/-- The session of the previous instance connects the camera.  Then the VM restarts on its node, and
the new instance is resumed on the report about the old one. -/
theorem released_on_old_report :
    ¬ ∀ (vmOf : String × String → String) (s s' : Attachments) (p : Pass) (shown seen : Moment),
      (attachments vmOf).Reachable s → (attachments vmOf).step s (.pass p shown seen) s' →
      p.ReleasesOnOwnReports shown := by
  intro h
  obtain ⟨s, hs, hidle⟩ := reachable_started (v := previousVmi) (by decide +kernel)
  obtain ⟨s, hs, hidle⟩ := reachable_reported hs hidle .connecting connectingMessage false
    (cameraConnection .connecting connectingMessage none) (by decide) (by decide +kernel)
    (by decide +kernel)
  obtain ⟨s, hs, -, hnow, -⟩ := reachable_reported hs hidle .connected attachedMessage false
    (cameraConnection .connected attachedMessage none) (by decide) (by decide +kernel)
    (by decide +kernel)
  have hreplaced := hs.of_restrict.step (Step.instances [desktopVmi])
  rw [hnow] at hreplaced
  dsimp only at hreplaced
  have hown := h _ _ _ _ _ _ hreplaced (Step.pass
    (.fresh (boundSnapshot (cameraConnection .connected attachedMessage none))) (Or.inr rfl)
    (Or.inr rfl) (boundSnapshot_views (Function.update_self ..)))
  obtain ⟨r, hr, -, huid⟩ := hown ("lab", "desktop") desktopVmi (by decide +kernel)
    (by decide +kernel)
    (boundClaim (some (cameraConnection .connected attachedMessage none))) rfl (by decide +kernel)
  have hsession : (some r).map (·.session.vmiUid) = some "vmi-0" := by
    rw [← hr]
    rfl
  rw [Option.map_some, huid] at hsession
  exact absurd hsession (by decide)

end AtomicUsb
