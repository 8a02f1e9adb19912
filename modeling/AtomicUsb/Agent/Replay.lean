import AtomicUsb.Agent.Exporter
import Mathlib.Data.List.Nodup

/-!
# Replayed handshakes

`authorize` reads the clock, verifies the hello against that reading, and only then takes the
lock of the nonce cache, where the reading decides what the cache forgets.  Between the two
another handshake may have run with a later or an earlier reading, so the record that should stop
a replay can be gone although the replay has already been found fresh
(`replay_admitted`).

`admitted_once` says when that cannot happen: as long as no handshake makes the cache forget a
hello that another verified handshake carries, or one that was admitted under a later reading
than its own, no hello is admitted twice.
-/

namespace AtomicUsb

namespace Exporter

/-- Task `t` waits for the nonce cache with this nonce and timestamp. -/
def Carries (s : Exporter) (t : ℕ) (nonce : String) (timestamp : Int64) : Prop :=
  ∃ hello now, s.tasks t = some ⟨hello, .verified now⟩ ∧ hello.nonce = nonce ∧
    hello.timestamp = timestamp

/-- A handshake that takes the lock of the nonce cache with the reading `now` makes it forget no
record that another verified handshake carries, and none of a hello that was admitted under a
later reading. -/
def Orderly (s : Exporter) (l : Label) : Prop :=
  ∀ t hello now, l = .nonce t → s.tasks t = some ⟨hello, .verified now⟩ →
    ∀ nonce timestamp, s.nonces.seen nonce = some timestamp →
      withinSkew now.asSecond timestamp = false →
      (∀ t', ¬ s.Carries t' nonce timestamp) ∧
      ∀ h ∈ s.admitted, h.1.nonce = nonce → h.1.timestamp = timestamp →
        h.2.asSecond.toInt ≤ now.asSecond.toInt

/-- An admitted hello that the cache may forget: nobody carries it, and from now on nobody can
present it any more. -/
structure Expired (s : Exporter) (h : Hello) : Prop where
  carried : ∀ t, ¬ s.Carries t h.nonce h.timestamp
  stale : ∀ now : Timestamp, s.clock.asSecond.toInt ≤ now.asSecond.toInt →
    withinSkew now.asSecond h.timestamp = false

structure ReplayInv (s : Exporter) : Prop where
  verified : ∀ t hello now, s.tasks t = some ⟨hello, .verified now⟩ →
    withinSkew now.asSecond hello.timestamp = true ∧
      now.asSecond.toInt ≤ s.clock.asSecond.toInt
  admitted : ∀ h ∈ s.admitted, withinSkew h.2.asSecond h.1.timestamp = true
  remembered : ∀ h ∈ s.admitted,
    s.nonces.seen h.1.nonce = some h.1.timestamp ∨ s.Expired h.1
  once : (s.admitted.map fun h => (h.1.nonce, h.1.timestamp)).Nodup

variable {ctx : ExporterContext} {s s' : Exporter} {t : ℕ} {hello : Hello}

/-- A step after which nobody new waits for the cache. -/
lemma ReplayInv.of_le (h : s.ReplayInv)
    (htasks : ∀ t hello now, s'.tasks t = some ⟨hello, .verified now⟩ →
      s.tasks t = some ⟨hello, .verified now⟩)
    (hclock : s.clock.asSecond.toInt ≤ s'.clock.asSecond.toInt)
    (hnonces : s'.nonces = s.nonces) (hadmitted : s'.admitted = s.admitted) : s'.ReplayInv where
  verified t hello now ht :=
    ⟨(h.verified t hello now (htasks _ _ _ ht)).1,
      (h.verified t hello now (htasks _ _ _ ht)).2.trans hclock⟩
  admitted := hadmitted ▸ h.admitted
  remembered e he := by
    rw [hnonces]
    refine (h.remembered e (hadmitted ▸ he)).imp_right fun hexp => ⟨fun t => ?_, fun now hnow => ?_⟩
    · rintro ⟨hello, now, ht, hrest⟩
      exact hexp.carried t ⟨hello, now, htasks _ _ _ ht, hrest⟩
    · exact hexp.stale now (hclock.trans hnow)
  once := hadmitted ▸ h.once

/-- A task that is not sent back to wait for the cache. -/
lemma goOn_verified {outcome : Except String Stage}
    (hstage : ∀ now, outcome ≠ .ok (.verified now)) {t' : ℕ} {hello' : Hello} {now : Timestamp}
    (h : (s.goOn t hello outcome).tasks t' = some ⟨hello', .verified now⟩) :
    t' ≠ t ∧ s.tasks t' = some ⟨hello', .verified now⟩ := by
  by_cases heq : t' = t
  · subst heq
    simp only [goOn, Function.update_self, Option.some.injEq, Task.mk.injEq] at h
    cases outcome with
    | error e => exact absurd h.2 nofun
    | ok stage => exact absurd (congrArg Except.ok h.2) (hstage now)
  · simp only [goOn, Function.update_of_ne heq] at h
    exact ⟨heq, h⟩

lemma ReplayInv.goOn (h : s.ReplayInv) {outcome : Except String Stage}
    (hstage : ∀ now, outcome ≠ .ok (.verified now)) : (s.goOn t hello outcome).ReplayInv :=
  h.of_le (fun _ _ _ ht => (goOn_verified hstage ht).2) le_rfl rfl rfl

lemma ReplayInv.setBusy (h : s.ReplayInv) (device : String) (holder : Option ℕ) :
    (s.setBusy device holder).ReplayInv :=
  h.of_le (fun _ _ _ ht => ht) le_rfl rfl rfl

/-! ## Verifying -/

lemma withinSkew_of_authenticate {psk : Except String (List UInt8)} {now : Timestamp}
    (h : authenticate ctx hello psk now = .ok ()) :
    withinSkew now.asSecond hello.timestamp = true := by
  unfold authenticate at h
  split at h
  · cases h
  · split at h
    · cases h
    · rename_i hverify
      exact Hello.withinSkew_of_verify _ hverify

/-- A hello that is found fresh is not among the expired ones. -/
lemma ReplayInv.present (h : s.ReplayInv) (psk : Except String (List UInt8)) :
    (s.goOn t hello ((authenticate ctx hello psk s.clock).map fun _ =>
      .verified s.clock)).ReplayInv := by
  cases hauth : authenticate ctx hello psk s.clock with
  | error e => exact h.goOn fun _ => nofun
  | ok _ =>
      have hfresh := withinSkew_of_authenticate hauth
      have htasks : ∀ t' hello' now, (s.goOn t hello (.ok (.verified s.clock))).tasks t' =
          some ⟨hello', .verified now⟩ →
          (hello' = hello ∧ now = s.clock) ∨ s.tasks t' = some ⟨hello', .verified now⟩ := by
        intro t' hello' now ht'
        by_cases heq : t' = t
        · subst heq
          simp only [Exporter.goOn, Function.update_self, Option.some.injEq, Task.mk.injEq,
            Stage.verified.injEq] at ht'
          exact Or.inl ⟨ht'.1.symm, ht'.2.symm⟩
        · simp only [Exporter.goOn, Function.update_of_ne heq] at ht'
          exact Or.inr ht'
      refine ⟨fun t' hello' now ht' => ?_, h.admitted, fun e he => ?_, h.once⟩
      · rcases htasks t' hello' now ht' with ⟨rfl, rfl⟩ | ht'
        · exact ⟨hfresh, le_rfl⟩
        · exact h.verified t' hello' now ht'
      · refine (h.remembered e he).imp_right fun hexp => ⟨fun t' => ?_, hexp.stale⟩
        rintro ⟨hello', now, ht', hnonce, hts⟩
        rcases htasks t' hello' now ht' with ⟨rfl, rfl⟩ | ht'
        · have := hexp.stale s.clock le_rfl
          rw [← hts, hfresh] at this
          cases this
        · exact hexp.carried t' ⟨hello', now, ht', hnonce, hts⟩

/-! ## The nonce cache -/

/-- What an orderly handshake makes the cache forget has expired. -/
lemma ReplayInv.retain (h : s.ReplayInv) {now : Timestamp}
    (ht : s.tasks t = some ⟨hello, .verified now⟩) (hord : s.Orderly (.nonce t))
    {e : Hello × Timestamp} (he : e ∈ s.admitted) :
    (s.nonces.retain now.asSecond).seen e.1.nonce = some e.1.timestamp ∨ s.Expired e.1 := by
  rcases h.remembered e he with hseen | hexp
  · cases hskew : withinSkew now.asSecond e.1.timestamp with
    | true =>
        left
        simp [NonceCache.retain, hseen, hskew]
    | false =>
        right
        obtain ⟨hcarried, hlater⟩ := hord t hello now rfl ht _ _ hseen hskew
        refine ⟨hcarried, fun now' hnow' => ?_⟩
        -- fresh when it was admitted and not fresh now, so not fresh ever after
        by_contra hfresh
        have hbetween := withinSkew_between (h.admitted e he) (Bool.of_not_eq_false hfresh)
          (hlater e he rfl rfl) ((h.verified t hello now ht).2.trans hnow')
        rw [hskew] at hbetween
        cases hbetween
  · exact Or.inr hexp

lemma ReplayInv.nonce (h : s.ReplayInv) {now : Timestamp}
    (ht : s.tasks t = some ⟨hello, .verified now⟩) (hord : s.Orderly (.nonce t)) :
    (s.checkNonce ctx t hello now).ReplayInv := by
  have hkeep := fun e he => h.retain ht hord (e := e) he
  unfold checkNonce NonceCache.checkAndInsert
  dsimp only
  cases hseen : (s.nonces.retain now.asSecond).seen hello.nonce with
  | some ts =>
      have hinv : ReplayInv { s with nonces := s.nonces.retain now.asSecond } :=
        { verified := h.verified
          admitted := h.admitted
          remembered := fun e he => (hkeep e he).imp_right fun x => ⟨x.carried, x.stale⟩
          once := h.once }
      simp only [Option.isSome_some, if_true]
      exact hinv.goOn fun _ => nofun
  | none =>
      have hnew : ∀ e ∈ s.admitted,
          ¬ (e.1.nonce = hello.nonce ∧ e.1.timestamp = hello.timestamp) := by
        rintro e he ⟨hnonce, hts⟩
        rcases hkeep e he with hsome | hexp
        · rw [hnonce, hseen] at hsome
          cases hsome
        · exact hexp.carried t ⟨hello, now, ht, hnonce.symm, hts.symm⟩
      have hinv : ReplayInv
          { s with
            nonces := ⟨Function.update (s.nonces.retain now.asSecond).seen hello.nonce
              (some hello.timestamp)⟩
            admitted := (hello, now) :: s.admitted } := by
        refine ⟨h.verified, fun e he => ?_, fun e he => ?_, ?_⟩
        · rcases List.mem_cons.mp he with rfl | he
          · exact (h.verified t hello now ht).1
          · exact h.admitted e he
        · rcases List.mem_cons.mp he with rfl | he
          · exact Or.inl (Function.update_self _ _ _)
          · rcases hkeep e he with hsome | hexp
            · left
              have hne : e.1.nonce ≠ hello.nonce := by
                intro heq
                rw [heq, hseen] at hsome
                cases hsome
              simpa only [Function.update_of_ne hne] using hsome
            · exact Or.inr ⟨hexp.carried, hexp.stale⟩
        · rw [List.map_cons, List.nodup_cons]
          refine ⟨fun hmem => ?_, h.once⟩
          obtain ⟨e, he, heq⟩ := List.mem_map.mp hmem
          exact hnew e he ⟨congrArg Prod.fst heq, congrArg Prod.snd heq⟩
      simp only [Option.isSome_none, Bool.false_eq_true, if_false]
      exact hinv.goOn fun _ => nofun

/-! ## All steps -/

lemma ReplayInv.step {l : Label} (h : s.ReplayInv) (hord : s.Orderly l)
    (hstep : Step ctx s l s') : s'.ReplayInv := by
  have hmap : ∀ {α : Type} {outcome : Except String α} {f : α → Stage},
      (∀ a now, f a ≠ .verified now) → ∀ now, outcome.map f ≠ .ok (.verified now) := by
    intro α outcome f hf now hout
    cases outcome with
    | error e => cases hout
    | ok a => exact hf a now (Except.ok.inj hout)
  cases hstep with
  | tick hle => exact h.of_le (fun _ _ _ ht => ht) hle rfl rfl
  | hello hello psk ht => exact h.present psk
  | nonce ht => exact h.nonce ht hord
  | locate ht => exact h.goOn (hmap fun _ _ => nofun)
  | lease ht _ => exact h.goOn (hmap fun _ _ => nofun)
  | @beginSession t hello device ht =>
      refine h.of_le (fun t' hello' now ht' => ?_) le_rfl rfl rfl
      by_cases heq : t' = t
      · rw [heq] at ht'
        simp [beginSession] at ht'
      · simpa only [beginSession, Function.update_of_ne heq] using ht'
  | lock ht hfree => exact (h.setBusy _ _).goOn fun _ => nofun
  | giveUp ht => exact h.goOn fun _ => nofun
  | superseded ht _ => exact (h.setBusy _ _).goOn fun _ => nofun
  | serve ht _ => exact h.goOn fun _ => nofun
  | served reply ht => exact (h.setBusy _ _).goOn fun _ => nofun
  | endSession ht =>
      refine ReplayInv.goOn ?_ fun _ => nofun
      unfold endSession
      split_ifs
      · exact h.of_le (fun _ _ _ ht => ht) le_rfl rfl rfl
      · exact h
  | plugged _ => exact h.of_le (fun _ _ _ ht => ht) le_rfl rfl rfl
  | observe _ _ => exact h.of_le (fun _ _ _ ht => ht) le_rfl rfl rfl
  | watch _ _ => exact h.of_le (fun _ _ _ ht => ht) le_rfl rfl rfl
  | leased _ => exact h.of_le (fun _ _ _ ht => ht) le_rfl rfl rfl

lemma ReplayInv.init (h : s.Init) : s.ReplayInv := by
  refine ⟨fun t hello now ht => ?_, ?_, ?_, ?_⟩
  · rw [h.tasks t] at ht
    cases ht
  · simp [h.admitted]
  · simp [h.admitted]
  · simp [h.admitted]

end Exporter

/-! ## A replay that is admitted

The first connection is admitted at second 1000.  A second one presents the same hello at second
1120, when it is still fresh, and is held up before it gets the lock.  A third, with a hello of
its own, reads second 1121 and overtakes it: the cache forgets what is older than 120 seconds.
Then the second gets the lock. -/

def admittedFirst : Exporter :=
  (startedExporter.presentHello 0 firstHello).checkNonce sampleContext 0 firstHello
    startTime

def replayWaits : Exporter :=
  { admittedFirst with clock := second 1120 (by decide) }.presentHello 1 firstHello

def replayOvertaken : Exporter :=
  ({ replayWaits with clock := second 1121 (by decide) }.presentHello 2 laterHello).checkNonce
    sampleContext 2 laterHello (second 1121 (by decide))

def replayAdmitted : Exporter :=
  replayOvertaken.checkNonce sampleContext 1 firstHello (second 1120 (by decide))

/-- The same hello is admitted twice. -/
theorem replay_admitted :
    ∃ s, (exporter sampleContext).Reachable s ∧
      ¬ (s.admitted.map fun h => (h.1.nonce, h.1.timestamp, h.1.mac)).Nodup := by
  have hstart : (exporter sampleContext).Reachable startedExporter := .init startedExporter_init
  have hfirst : Exporter.Step sampleContext (startedExporter.presentHello 0 firstHello)
      (.nonce 0) admittedFirst := presentHello_nonce _ 0 firstHello firstHello_verifies
  have hlater : Exporter.Step sampleContext admittedFirst .tick
      { admittedFirst with clock := second 1120 (by decide) } := .tick (by decide +kernel)
  have hpast : Exporter.Step sampleContext replayWaits .tick
      { replayWaits with clock := second 1121 (by decide) } := .tick (by decide +kernel)
  have hovertake : Exporter.Step sampleContext
      ({ replayWaits with clock := second 1121 (by decide) }.presentHello 2 laterHello)
      (.nonce 2) replayOvertaken := presentHello_nonce _ 2 laterHello (by decide +kernel)
  have hreplay : Exporter.Step sampleContext replayOvertaken (.nonce 1) replayAdmitted := .nonce rfl
  have hwaits : (exporter sampleContext).Reachable replayWaits :=
    (((hstart.step (presentHello_step _ 0 firstHello rfl)).step hfirst).step hlater).step
      (presentHello_step _ 1 firstHello rfl)
  exact ⟨replayAdmitted, (((hwaits.step hpast).step
    (presentHello_step _ 2 laterHello rfl)).step hovertake).step hreplay, by decide +kernel⟩

/-- **Orderly handshakes are not replayed.** In every run of the exporter whose handshakes are
all orderly, no hello — same nonce, timestamp and MAC — is admitted twice. -/
theorem admitted_once (ctx : ExporterContext) {s : Exporter}
    (hs : ((exporter ctx).restrict Exporter.Orderly).Reachable s) :
    (s.admitted.map fun h => (h.1.nonce, h.1.timestamp, h.1.mac)).Nodup := by
  have hinv : s.ReplayInv := hs.invariant (fun _ => Exporter.ReplayInv.init)
    fun _ _ _ h hstep => h.step hstep.1 hstep.2
  refine List.Nodup.of_map (fun k => (k.1, k.2.1)) ?_
  rw [List.map_map]
  exact hinv.once

/-- The hello is presented again right away, and turned down. -/
def replayRefused : Exporter :=
  (admittedFirst.presentHello 1 firstHello).checkNonce sampleContext 1 firstHello
    startTime

theorem admitted_once_refused :
    ((exporter sampleContext).restrict Exporter.Orderly).Reachable replayRefused ∧
      (replayRefused.admitted.map fun h => (h.1.nonce, h.1.timestamp, h.1.mac)).Nodup ∧
      replayRefused.admitted.map (·.1) = [firstHello] := by
  have hhello : ∀ s t, Exporter.Orderly s (.hello t) := fun s t t' hello now h => by cases h
  have hempty : Exporter.Orderly (startedExporter.presentHello 0 firstHello) (.nonce 0) := by
    intro t hello now _ _ nonce timestamp hseen
    cases hseen
  have hfresh : Exporter.Orderly (admittedFirst.presentHello 1 firstHello) (.nonce 1) := by
    intro t hello now hl ht nonce timestamp hseen hskew
    cases hl
    have hnow : now = startTime := by
      have hwaits : (admittedFirst.presentHello 1 firstHello).tasks 1 =
          some ⟨firstHello, .verified startTime⟩ := rfl
      rw [hwaits] at ht
      cases ht
      rfl
    have hts : timestamp = 1000 := by
      have hcache : (admittedFirst.presentHello 1 firstHello).nonces.seen =
          Function.update (fun _ => none) "6e31" (some 1000) := rfl
      rw [hcache] at hseen
      by_cases hnonce : nonce = "6e31"
      · rw [hnonce, Function.update_self] at hseen
        exact (Option.some.inj hseen).symm
      · rw [Function.update_of_ne hnonce] at hseen
        cases hseen
    rw [hnow, hts] at hskew
    exact absurd hskew (by decide +kernel)
  have hfirst : ((exporter sampleContext).restrict Exporter.Orderly).step
      (startedExporter.presentHello 0 firstHello) (.nonce 0) admittedFirst :=
    ⟨hempty, presentHello_nonce _ 0 firstHello firstHello_verifies⟩
  have hagain : ((exporter sampleContext).restrict Exporter.Orderly).step
      (admittedFirst.presentHello 1 firstHello) (.nonce 1) replayRefused :=
    ⟨hfresh, presentHello_nonce _ 1 firstHello (by decide +kernel)⟩
  have hstart : ((exporter sampleContext).restrict Exporter.Orderly).Reachable startedExporter :=
    .init startedExporter_init
  have hreach : ((exporter sampleContext).restrict Exporter.Orderly).Reachable replayRefused :=
    (((hstart.step ⟨hhello _ 0, presentHello_step _ 0 firstHello rfl⟩).step hfirst).step
      ⟨hhello _ 1, presentHello_step _ 1 firstHello rfl⟩).step hagain
  exact ⟨hreach, admitted_once sampleContext hreach, by decide +kernel⟩

end AtomicUsb
