import AtomicUsb.Agent.Attacher
import AtomicUsb.Foundation.Transition
import Mathlib.Tactic.IntervalCases

/-!
# Reports after a migration

When a VM migrates, the session on the node it has left goes on reporting for a while, and the
session on the node it has come to begins to.  Both write `status.connection` of the same claim.
`Reporter.reportWith` does not overwrite the report of another node that took over the VM; but it
looks at a cached copy of the claim, only before it reports a disconnection, and the patch that
follows has no guard.  So a report can be replaced that the cache does not show yet
(`new_report_replaced`), and the session that made it does not repeat it.

`new_report_stands` is the guarantee for runs whose steps are `UpToDate`.  The invariant is that as
long as the new node's report stands, the session on the old one has no write under way.
-/

namespace AtomicUsb

/-- The two ends of a migration. -/
inductive Side
  /-- The node the VM has left. -/
  | source
  /-- The node it has come to. -/
  | target
  deriving DecidableEq

/-- The sessions of the two nodes for the claim. -/
structure Sides where
  node : Side → String
  spec : Side → SessionSpec
  distinct : node .source ≠ node .target
  sameClaim : (spec .source).claim = (spec .target).claim

structure Migration where
  /-- `status.connection` of the claim. -/
  connection : Option ConnectionStatus
  /-- What it has ever been. -/
  past : Option ConnectionStatus → Prop
  /-- What is left of the report each session is making. -/
  rest : Side → ApiProg Reporter

/-- What a call makes of the connection of its claim. -/
def ApiCall.connectionAfter (old : Option ConnectionStatus) : ApiCall → Option ConnectionStatus
  | .patchClaimStatus _ _ _ patch => patch.connection.merge old
  | _ => old

namespace Migration

/-- A session goes on with `p`. -/
def goOn (s : Migration) (side : Side) (p : ApiProg Reporter) : Migration :=
  { s with rest := Function.update s.rest side p }

/-- A call of a session takes effect, and the session goes on with `p`. -/
def wrote (s : Migration) (side : Side) (c : ApiCall) (p : ApiProg Reporter) : Migration where
  connection := c.connectionAfter s.connection
  past o := s.past o ∨ o = c.connectionAfter s.connection
  rest := Function.update s.rest side p

inductive Label
  /-- A session that has made its last report, if `reporter` says so, reads what its cache shows
  and begins another. -/
  | read (side : Side) (reporter : Reporter) (current : Option ConnectionStatus)
      (state : ConnectionState) (message : String) (awaitingResume : Bool)
  /-- The report is written. -/
  | write (side : Side) (c : ApiCall)

variable (rt : Runtime) (sides : Sides)

inductive Step : Migration → Label → Migration → Prop
  | read {s : Migration} (side : Side) {reporter : Reporter} {current : Option ConnectionStatus}
      (now : ℤ) (state : ConnectionState) (message : String) (awaitingResume : Bool)
      (hidle : s.rest side = pure reporter) (hcurrent : s.past current) :
      Step s (.read side reporter current state message awaitingResume)
        (s.goOn side (reporter.reportWith rt (sides.node side) (sides.spec side) current now state
          message awaitingResume))
  | write {s : Migration} (side : Side) {c : ApiCall} {k : c.Answer → ApiProg Reporter}
      {x : c.Answer} (hcall : s.rest side = .call c k) (hx : c.failure x = none) :
      Step s (.write side c) (s.wrote side c (k x))

/-- The claim shows that the new node has the device connected. -/
def Stands (s : Migration) : Prop :=
  ∃ c, s.connection = some c ∧ c.node = sides.node .target ∧ c.state = .connected

/-- When the step is taken, nothing stands in the way of the new node's report: the session on the
old node begins no report that it would write while the new node's stands, and that one is not
written while the session on the old node has a report under way. -/
def UpToDate (s : Migration) : Label → Prop
  | .read .source reporter current state message awaitingResume => s.Stands sides →
      reporter.Skips (sides.node .source) current state message awaitingResume
  | .write .target c => (∃ n, c.connectionAfter s.connection = some n ∧ n.state = .connected) →
      ∃ reporter, s.rest .source = pure reporter
  | _ => True

end Migration

/-- Both sessions report whatever they like, in any order.  Every report is written in the end. -/
def migration (rt : Runtime) (sides : Sides) : System Migration Migration.Label where
  init s := (∀ side, ∃ reporter, s.rest side = pure reporter) ∧ s.past s.connection
  step := Migration.Step rt sides

namespace Migration

variable {rt : Runtime} {sides : Sides} {s s' : Migration} {l : Label}

lemma goOn_rest_self (s : Migration) (side : Side) (p : ApiProg Reporter) :
    (s.goOn side p).rest side = p := Function.update_self ..

/-- What the sessions still write are reports from their nodes. -/
def OwnReports (sides : Sides) (s : Migration) : Prop :=
  ∀ side, (s.rest side).Issues fun c =>
    ∃ n, n.node = sides.node side ∧ ∀ old, c.connectionAfter old = some n

structure Inv (sides : Sides) (s : Migration) : Prop where
  reports : s.OwnReports sides
  /-- While the new node's report stands, the old one writes nothing. -/
  idle : s.Stands sides → ∃ reporter, s.rest .source = pure reporter

/-- What a session may still write, it may still write after it or the other went on. -/
lemma issues_update {P : Side → ApiCall → Prop} {rest : Side → ApiProg Reporter}
    (h : ∀ side, (rest side).Issues (P side)) {side : Side} {p : ApiProg Reporter}
    (hp : p.Issues (P side)) (q : Side) : (Function.update rest side p q).Issues (P q) := by
  by_cases hq : q = side
  · subst hq
    simpa using hp
  · simpa [hq] using h q

lemma step_ownReports (h : s.OwnReports sides) (hstep : Step rt sides s l s') :
    s'.OwnReports sides := by
  cases hstep with
  | read side now state message awaitingResume hidle hcurrent =>
      refine issues_update h ((Reporter.reportWith_issues rt).mono ?_)
      rintro c ⟨n, hnode, rfl⟩
      exact ⟨n, hnode, fun _ => rfl⟩
  | @write side c k x hcall hx =>
      have hissues := h side
      rw [hcall] at hissues
      exact issues_update h (hissues.2 x)

/-- The report a session is about to write. -/
lemma OwnReports.next (h : s.OwnReports sides) {side : Side} {c : ApiCall}
    {k : c.Answer → ApiProg Reporter} (hcall : s.rest side = .call c k) :
    ∃ n, n.node = sides.node side ∧ ∀ old, c.connectionAfter old = some n := by
  have hissues := h side
  rw [hcall] at hissues
  exact hissues.1

lemma step_inv (h : Inv sides s) (hok : s.UpToDate sides l) (hstep : Step rt sides s l s') :
    Inv sides s' := by
  refine ⟨step_ownReports h.reports hstep, fun hstands => ?_⟩
  cases hstep with
  | read side now state message awaitingResume hidle hcurrent =>
      cases side with
      | source => simpa [goOn] using Reporter.reportWith_of_skips rt (hok hstands)
      | target => simpa [goOn] using h.idle hstands
  | write side hcall hx =>
      obtain ⟨n, hnode, hafter⟩ := h.reports.next hcall
      obtain ⟨c', hc', hnode', hstate⟩ := hstands
      obtain rfl : n = c' := Option.some.inj ((hafter _).symm.trans hc')
      cases side with
      | source => exact absurd (hnode.symm.trans hnode') sides.distinct
      | target => simpa [wrote] using hok ⟨n, hafter _, hstate⟩

/-- A call that sets the connection, whatever it was, is a patch of the claim, and may succeed. -/
lemma exists_answer {c : ApiCall} {n : ConnectionStatus}
    (h : ∀ old, c.connectionAfter old = some n) : ∃ x : c.Answer, c.failure x = none := by
  cases c with
  | patchClaimStatus by_ ns name patch => exact ⟨.ok (), rfl⟩
  | patchDeviceStatus | applyDevice | patchOwnerReferences | unpause => cases h none

/-- When the old session writes, the new node's report does not stand any more. -/
lemma exists_write (h : s.OwnReports sides) {c : ApiCall} {k : c.Answer → ApiProg Reporter}
    (hcall : s.rest .source = .call c k) :
    ∃ s', Step rt sides s (.write .source c) s' ∧ ¬ s'.Stands sides := by
  obtain ⟨n, hnode, hafter⟩ := h.next hcall
  obtain ⟨x, hx⟩ := exists_answer hafter
  refine ⟨_, .write .source hcall hx, ?_⟩
  rintro ⟨c', hc', hnode', -⟩
  obtain rfl : n = c' := Option.some.inj ((hafter _).symm.trans hc')
  exact sides.distinct (hnode.symm.trans hnode')

/-- The condition leaves nothing out: after a step that is not up to date, the new node's report
stands and the next write of the old session replaces it. -/
lemma replaced_of_not_upToDate (h : s.OwnReports sides) (hok : ¬ s.UpToDate sides l)
    (hstep : Step rt sides s l s') :
    s'.Stands sides ∧ ∃ c s'', Step rt sides s' (.write .source c) s'' ∧ ¬ s''.Stands sides := by
  have hreports := step_ownReports h hstep
  cases hstep with
  | @read side reporter current now state message awaitingResume hidle hcurrent =>
      cases side with
      | target => exact absurd trivial hok
      | source =>
          obtain ⟨hstands, hskips⟩ := Classical.not_imp.mp hok
          exact ⟨hstands, _, exists_write hreports
            ((goOn_rest_self ..).trans (Reporter.reportWith_eq_call rt hskips))⟩
  | @write side c k x hcall hx =>
      cases side with
      | source => exact absurd trivial hok
      | target =>
          obtain ⟨⟨n, hn, hstate⟩, hbusy⟩ := Classical.not_imp.mp hok
          obtain ⟨n', hnode, hafter⟩ := h.next hcall
          obtain rfl : n = n' := Option.some.inj (hn.symm.trans (hafter _))
          refine ⟨⟨n, hn, hnode, hstate⟩, ?_⟩
          cases hrest : s.rest .source with
          | pure reporter => exact absurd ⟨reporter, hrest⟩ hbusy
          | call c' k' => exact ⟨c', exists_write hreports (by simpa [wrote] using hrest)⟩

end Migration

/-- Once the new node's report that it has the device connected is written, nothing but another
report of the new node replaces it. -/
def NewReportStands {rt : Runtime} {sides : Sides} (r : (migration rt sides).Run) :
    Prop :=
  ∀ m n, m ≤ n → n ≤ r.length → (r.state m).Stands sides →
    (∀ i c, m ≤ i → i < n → r.label i ≠ .write .target c) →
    (r.state n).connection = (r.state m).connection

open Migration in
/-- **After a migration the new node's report stands**, in every run of the two sessions whose steps
are all up to date. -/
theorem new_report_stands {rt : Runtime} {sides : Sides} (r : (migration rt sides).Run)
    (hok : ∀ i, i < r.length → (r.state i).UpToDate sides (r.label i)) : NewReportStands r := by
  have hinv : ∀ n, n ≤ r.length → Inv sides (r.state n) := by
    intro n
    induction n with
    | zero =>
        intro _
        obtain ⟨hidle, -⟩ := r.init
        refine ⟨fun side => ?_, fun _ => hidle .source⟩
        obtain ⟨reporter, hrest⟩ := hidle side
        rw [hrest]
        trivial
    | succ n ih => exact fun hn => step_inv (ih (by omega)) (hok n hn) (r.step n hn)
  intro m n hmn hn hstands hlabel
  induction n, hmn using Nat.le_induction with
  | base => rfl
  | succ n hmn ih =>
      have hsame := ih (by omega) fun i c hi hin => hlabel i c hi (by omega)
      have hstands' : (r.state n).Stands sides := by
        unfold Stands
        rw [hsame]
        exact hstands
      rw [← hsame]
      obtain ⟨reporter, hidle⟩ := (hinv n (by omega)).idle hstands'
      have hstep := r.step n hn
      generalize hl : r.label n = l at hstep
      generalize r.state (n + 1) = s' at hstep ⊢
      cases hstep with
      | read side now state message awaitingResume _ _ => rfl
      | write side hcall _ =>
          cases side with
          | source =>
              rw [hidle] at hcall
              cases hcall
          | target => exact absurd hl (hlabel n _ hmn (by omega))

/-! ### The desktop moves to another node

The camera was connected on `node-a`.  The desktop has moved to `node-c`, and the session there
connects the camera again. -/

def movedSides : Sides where
  node
    | .source => "node-a"
    | .target => "node-c"
  spec _ := ⟨⟨"lab", "camera", "uid-camera"⟩, "camera", 3, "vmi-1", "desktop"⟩
  distinct := by decide
  sameClaim := rfl

/-- A report about the camera. -/
def movedReport (node : String) (state : ConnectionState) (message : String) :
    ConnectionStatus where
  state := state
  node := node
  deviceName := "camera"
  slot := 3
  since := "2024-01-01T00:00:00Z"
  message := some message
  awaitingResume := none

def movedCall (node : String) (state : ConnectionState) (message : String) : ApiCall :=
  .patchClaimStatus (.agent node) "lab" "camera"
    { connection := .value (movedReport node state message) }

def movedReporter (state : ConnectionState) (message : String) : Reporter :=
  ⟨some (state, message, false), "2024-01-01T00:00:00Z"⟩

def viaMessage : String := "attached from node-b via virt-usbredir-3"

def endedMessage : String := "session ended; reconnecting"

namespace Migration

/-- A session begins a report. -/
def movedReads (s : Migration) (side : Side) (r : Reporter) (current : Option ConnectionStatus)
    (state : ConnectionState) (message : String) : Migration :=
  s.goOn side (r.reportWith .newYear (movedSides.node side) (movedSides.spec side) current
    1704067200 state message false)

/-- … and the report is written. -/
def movedWrites (s : Migration) (side : Side) (state : ConnectionState) (message : String) :
    Migration :=
  s.wrote side (movedCall (movedSides.node side) state message) (pure (movedReporter state message))

/-- A report of a session that is neither a repetition nor skipped is written. -/
lemma movedWrites_step {s : Migration} {side : Side} {r : Reporter}
    {current : Option ConnectionStatus} {state : ConnectionState} {message : String}
    (hskips : ¬ r.Skips (movedSides.node side) current state message false)
    (hsince : r.since = "2024-01-01T00:00:00Z") :
    Step .newYear movedSides (s.movedReads side r current state message)
      (.write side (movedCall (movedSides.node side) state message))
      ((s.movedReads side r current state message).movedWrites side state message) := by
  have hconn : r.connection .newYear (movedSides.node side) (movedSides.spec side) 1704067200 state
      message false = movedReport (movedSides.node side) state message := by
    simp [Reporter.connection, movedReport, movedSides, hsince, Runtime.newYear]
  have hcall : (s.movedReads side r current state message).rest side =
      .call (movedCall (movedSides.node side) state message) fun answer =>
        pure (r.after (state, message, false) "2024-01-01T00:00:00Z" answer) := by
    rw [movedReads, goOn_rest_self, Reporter.reportWith_eq_call _ hskips, hconn]
    rfl
  exact @Step.write .newYear movedSides _ side _ _ (Except.ok ()) hcall rfl

/-- Before the new session reports. -/
def moved : Migration where
  connection := some (movedReport "node-a" .connected viaMessage)
  past o := o = some (movedReport "node-a" .connected viaMessage)
  rest
    | .source => pure (movedReporter .connected viaMessage)
    | .target => pure (Reporter.new .newYear 1704067200)

/-- The new session has written its report. -/
def movedReported : Migration :=
  (moved.movedReads .target (Reporter.new .newYear 1704067200)
    (some (movedReport "node-a" .connected viaMessage)) .connected viaMessage).movedWrites .target
    .connected viaMessage

/-- The stream of the old session ends, while its cache shows `current`. -/
def movedEnds (current : Option ConnectionStatus) : Migration :=
  movedReported.movedReads .source (movedReporter .connected viaMessage) current .disconnected
    endedMessage

def movedState (current : Option ConnectionStatus) : ℕ → Migration
  | 0 => moved
  | 1 => moved.movedReads .target (Reporter.new .newYear 1704067200)
      (some (movedReport "node-a" .connected viaMessage)) .connected viaMessage
  | 2 => movedReported
  | 3 => movedEnds current
  | _ => (movedEnds current).movedWrites .source .disconnected endedMessage

def movedLabel (current : Option ConnectionStatus) : ℕ → Label
  | 0 => .read .target (Reporter.new .newYear 1704067200)
      (some (movedReport "node-a" .connected viaMessage)) .connected viaMessage false
  | 1 => .write .target (movedCall "node-c" .connected viaMessage)
  | 2 => .read .source (movedReporter .connected viaMessage) current .disconnected endedMessage
      false
  | _ => .write .source (movedCall "node-a" .disconnected endedMessage)

lemma moved_step {current : Option ConnectionStatus} (hcurrent : movedReported.past current) (n : ℕ)
    (hn : n < 3) : Step .newYear movedSides (movedState current n) (movedLabel current n)
      (movedState current (n + 1)) := by
  interval_cases n
  · exact Step.read .target 1704067200 .connected viaMessage false rfl rfl
  · exact movedWrites_step (by decide +kernel) rfl
  · exact Step.read .source 1704067200 .disconnected endedMessage false rfl hcurrent

lemma moved_init : (migration .newYear movedSides).init moved := by
  refine ⟨fun side => ?_, rfl⟩
  cases side with
  | source => exact ⟨_, rfl⟩
  | target => exact ⟨_, rfl⟩

end Migration

open Migration

/-- The cache of the old session shows that the new one has taken over. -/
def seenRun : (migration .newYear movedSides).Run where
  length := 3
  state := movedState (some (movedReport "node-c" .connected viaMessage))
  label := movedLabel (some (movedReport "node-c" .connected viaMessage))
  init := moved_init
  step := moved_step (Or.inr rfl)

theorem new_report_stands_seen :
    (seenRun.state 3).connection = some (movedReport "node-c" .connected viaMessage) := by
  have hok : ∀ i, i < seenRun.length → (seenRun.state i).UpToDate movedSides (seenRun.label i) := by
    intro i hi
    have hi' : i < 3 := hi
    interval_cases i
    · trivial
    · exact fun _ => ⟨_, rfl⟩
    · exact fun _ => Or.inr (by decide +kernel)
  refine new_report_stands seenRun hok 2 3 (by omega) le_rfl ⟨_, rfl, rfl, rfl⟩ ?_
  intro i c hi hi'
  obtain rfl : i = 2 := by omega
  exact nofun

/-- Its cache still shows its own report. -/
def replacedRun : (migration .newYear movedSides).Run where
  length := 4
  state := movedState (some (movedReport "node-a" .connected viaMessage))
  label := movedLabel (some (movedReport "node-a" .connected viaMessage))
  init := moved_init
  step n hn := by
    rcases Nat.lt_succ_iff_lt_or_eq.mp hn with hn | rfl
    · exact moved_step (Or.inl rfl) n hn
    · exact movedWrites_step (by decide +kernel) rfl

/-- The stream of the old session ends after the new one has reported; the old session does not know
that yet, and replaces the report. -/
theorem new_report_replaced : ¬ NewReportStands replacedRun := by
  intro h
  have hsame := h 2 4 (by omega) le_rfl ⟨_, rfl, rfl, rfl⟩ (by
    intro i c hi hi'
    interval_cases i <;> exact nofun)
  exact absurd hsame (by decide +kernel)

end AtomicUsb
