import AtomicUsb.Controller.Decide
import AtomicUsb.Kubevirt.Objects
import AtomicUsb.Proto

/-!
# How long a boot is held

`kind_decideBootHold` reduces the kind of decision to one question, whether the wait is over, and
`waitIsOver_iff` answers it by looking at each holding claim on its own.  From there holding is
monotone in time and in the claims (`holding_monotone`).

The waiting time counts from the moment the `Paused` condition names.  One that names none leaves
the clock at zero, and a timeout can reach beyond the last second the clock can show:
`timeouts_end_hold_iff` says that a hold with finite timeouts ends exactly if the condition is dated
and the timeouts are over by that second.
-/

namespace AtomicUsb

/-! ## Kinds of decisions -/

inductive ActionKind
  | hold
  | release
  | notConfigured
  | nothing
  deriving DecidableEq

def BootHoldAction.kind : BootHoldAction → ActionKind
  | .hold _ => .hold
  | .release _ => .release
  | .notConfigured _ => .notConfigured
  | .nothing => .nothing

variable {rt : Runtime}

instance (rt : Runtime) (claims : List BootHoldClaim) (vmi : VmiInfo) (now : ℤ) :
    Decidable (waitIsOver rt claims vmi now) := instDecidableOr

/-- The kind of decision, without the texts. -/
def bootHoldKind (rt : Runtime) (i : BootHoldInputs) : ActionKind :=
  if holding i.claims = [] ∨ (i.vm = none ∧ i.vmi = none) then .nothing
  else if i.vmi.any (·.startPaused) = false ∧ i.vm.any (·.startPaused) = false then .notConfigured
  else
    match i.vmi.filter fun vmi => vmi.paused && !vmi.deleting with
    | none => .nothing
    | some vmi =>
      if i.alreadyReleased then .nothing
      else if waitIsOver rt i.claims vmi i.now then .release
      else .hold

lemma kind_decideBootHold (i : BootHoldInputs) :
    (decideBootHold rt i).kind = bootHoldKind rt i := by
  unfold decideBootHold bootHoldKind
  dsimp only
  split
  · rename_i hheld
    rw [if_pos (Or.inl (by simpa using hheld))]
    rfl
  rename_i hheld
  split
  · rename_i habsent
    rw [if_pos (Or.inr (by simpa using habsent))]
    rfl
  rename_i habsent
  rw [if_neg (not_or.mpr ⟨by simpa using hheld, by simpa using habsent⟩)]
  split
  · rename_i hstart
    rw [if_pos (by simpa using hstart)]
    rfl
  rename_i hstart
  have hstarts : ¬ (i.vmi.any (·.startPaused) = false ∧ i.vm.any (·.startPaused) = false) := by
    simpa using hstart
  rw [if_neg hstarts]
  cases i.vmi.filter fun vmi => vmi.paused && !vmi.deleting with
  | none => rfl
  | some vmi =>
      dsimp only
      split
      · rfl
      split
      · rename_i hready
        have hwait : waitIsOver rt i.claims vmi i.now := Or.inl (missing_isEmpty.mp hready)
        rw [if_pos hwait]
        rfl
      rename_i hready
      split
      · rename_i htimeout
        have hwait : waitIsOver rt i.claims vmi i.now := Or.inr (by simpa using htimeout)
        rw [if_pos hwait]
        rfl
      rename_i htimeout
      have hwait : ¬ waitIsOver rt i.claims vmi i.now :=
        not_or.mpr ⟨fun h => hready (missing_isEmpty.mpr h), by simpa using htimeout⟩
      rw [if_neg hwait]
      split <;> rfl

/-! ## The wait -/

lemma longestTimeout_le {claims : List BootHoldClaim} (hne : claims ≠ []) {n : ℤ} :
    longestTimeout claims ≤ n ↔ ∀ c ∈ claims, c.timeoutSeconds ≤ n := by
  have hmap : claims.map (·.timeoutSeconds) ≠ [] := by simpa using hne
  obtain ⟨m, hm⟩ := Option.ne_none_iff_exists'.mp (mt List.max?_eq_none_iff.mp hmap)
  rw [longestTimeout, hm, Option.getD_some, List.max?_le_iff hm]
  simp

lemma forever_eq_false {claims : List BootHoldClaim} :
    forever claims = false ↔ ∀ c ∈ claims, c.timeoutSeconds ≠ 0 := by
  simp [forever]

/-- The wait is over for a list of claims when it is over for each of them. -/
lemma waitIsOver_iff {claims : List BootHoldClaim} (hne : holding claims ≠ []) {vmi : VmiInfo}
    {now : ℤ} :
    waitIsOver rt claims vmi now ↔
      (∀ c ∈ holding claims, c.ready = true) ∨
        ∀ c ∈ holding claims, c.timeoutSeconds ≠ 0 ∧ c.timeoutSeconds ≤ vmi.waited rt now := by
  rw [waitIsOver, forever_eq_false, longestTimeout_le hne]
  exact or_congr_right forall₂_and.symm

lemma waited_mono (vmi : VmiInfo) {now later : ℤ} (h : now ≤ later) :
    vmi.waited rt now ≤ vmi.waited rt later := by
  unfold VmiInfo.waited Runtime.ageSecs
  cases vmi.pausedSince.bind rt.parseTimestamp with
  | none => exact le_rfl
  | some t => exact max_le_max_right 0 (by simpa using h)

lemma waitIsOver_later {claims : List BootHoldClaim} {vmi : VmiInfo} {now later : ℤ}
    (h : now ≤ later) (hover : waitIsOver rt claims vmi now) :
    waitIsOver rt claims vmi later :=
  hover.imp_right fun ⟨hfinite, hlong⟩ => ⟨hfinite, hlong.trans (waited_mono vmi h)⟩

/-- With fewer claims to wait for the wait is over no later. -/
lemma waitIsOver_subset {claims more : List BootHoldClaim} (hne : holding claims ≠ [])
    (hsub : claims ⊆ more) {vmi : VmiInfo} {now : ℤ} (hover : waitIsOver rt more vmi now) :
    waitIsOver rt claims vmi now := by
  have hholding : holding claims ⊆ holding more := List.filter_subset _ hsub
  obtain ⟨c, hc⟩ := List.exists_mem_of_ne_nil _ hne
  rw [waitIsOver_iff (List.ne_nil_of_mem (hholding hc))] at hover
  rw [waitIsOver_iff hne]
  exact hover.imp (fun h c hc => h c (hholding hc)) fun h c hc => h c (hholding hc)

/-- An instance waits whose boot is not released yet. -/
structure Waiting (i : BootHoldInputs) (vmi : VmiInfo) : Prop where
  held : holding i.claims ≠ []
  starts : ¬ (i.vmi.any (·.startPaused) = false ∧ i.vm.any (·.startPaused) = false)
  paused : i.vmi.filter (fun vmi => vmi.paused && !vmi.deleting) = some vmi
  unreleased : i.alreadyReleased = false

lemma Waiting.kind_eq {i : BootHoldInputs} {vmi : VmiInfo} (h : Waiting i vmi) :
    (decideBootHold rt i).kind = if waitIsOver rt i.claims vmi i.now then .release else .hold := by
  have hvmi := (Option.filter_eq_some_iff.mp h.paused).1
  have habsent : ¬ (holding i.claims = [] ∨ (i.vm = none ∧ i.vmi = none)) :=
    not_or.mpr ⟨h.held, fun hnone => by simp [hnone.2] at hvmi⟩
  rw [kind_decideBootHold, bootHoldKind, if_neg habsent, if_neg h.starts, h.paused]
  simp [h.unreleased]

lemma Waiting.kind_eq_release_iff {i : BootHoldInputs} {vmi : VmiInfo} (h : Waiting i vmi) :
    (decideBootHold rt i).kind = .release ↔ waitIsOver rt i.claims vmi i.now := by
  rw [h.kind_eq]
  split_ifs with hover
  · exact iff_of_true rfl hover
  · exact iff_of_false nofun hover

lemma Waiting.kind_eq_hold_iff {i : BootHoldInputs} {vmi : VmiInfo} (h : Waiting i vmi) :
    (decideBootHold rt i).kind = .hold ↔ ¬ waitIsOver rt i.claims vmi i.now := by
  rw [h.kind_eq]
  split_ifs with hover
  · exact iff_of_false nofun (not_not.mpr hover)
  · exact iff_of_true rfl hover

/-- A boot is held or released for an instance that waits. -/
lemma waiting_of_kind {i : BootHoldInputs}
    (h : (decideBootHold rt i).kind = .hold ∨ (decideBootHold rt i).kind = .release) :
    ∃ vmi, Waiting i vmi := by
  rw [kind_decideBootHold] at h
  unfold bootHoldKind at h
  split at h
  · simp at h
  rename_i habsent
  split at h
  · simp at h
  rename_i hstarts
  split at h
  · simp at h
  rename_i vmi hvmi
  split at h
  · simp at h
  rename_i hunreleased
  exact ⟨vmi, (not_or.mp habsent).1, hstarts, hvmi, by simpa using hunreleased⟩

/-- Only which claims there are matters for the kind of decision. -/
lemma kind_same_claims {i : BootHoldInputs} {claims : List BootHoldClaim}
    (hsub : i.claims ⊆ claims) (hsup : claims ⊆ i.claims) :
    (decideBootHold rt { i with claims := claims }).kind = (decideBootHold rt i).kind := by
  have hheld : holding claims = [] ↔ holding i.claims = [] := by
    simp only [List.eq_nil_iff_forall_not_mem]
    exact ⟨fun h c hc => h c (List.filter_subset _ hsub hc),
      fun h c hc => h c (List.filter_subset _ hsup hc)⟩
  rw [kind_decideBootHold, kind_decideBootHold]
  unfold bootHoldKind
  dsimp only
  by_cases hnone : holding i.claims = []
  · rw [if_pos (Or.inl hnone), if_pos (Or.inl (hheld.mpr hnone))]
  · have hwait (vmi : VmiInfo) : waitIsOver rt claims vmi i.now ↔
        waitIsOver rt i.claims vmi i.now :=
      ⟨waitIsOver_subset hnone hsub, waitIsOver_subset (mt hheld.mp hnone) hsup⟩
    simp only [hheld, hwait]

/-- **Holding is monotone.**  A boot that is released stays released as time goes by; one that is
held is held as well when more claims ask for it, whatever they ask for; and the order of the claims
does not matter. -/
theorem holding_monotone (rt : Runtime) (i : BootHoldInputs) :
    ((decideBootHold rt i).kind = .release → ∀ later, i.now ≤ later →
      (decideBootHold rt { i with now := later }).kind = .release) ∧
    ((decideBootHold rt i).kind = .hold → ∀ more, i.claims.Sublist more →
      (decideBootHold rt { i with claims := more }).kind = .hold) ∧
    ∀ claims, i.claims.Perm claims →
      (decideBootHold rt { i with claims := claims }).kind = (decideBootHold rt i).kind := by
  refine ⟨fun hrelease later hlater => ?_, fun hhold more hmore => ?_, fun claims hperm => ?_⟩
  · obtain ⟨vmi, hw⟩ := waiting_of_kind (Or.inr hrelease)
    have hwaiting : Waiting { i with now := later } vmi :=
      ⟨hw.held, hw.starts, hw.paused, hw.unreleased⟩
    rw [hw.kind_eq_release_iff] at hrelease
    exact hwaiting.kind_eq_release_iff.mpr (waitIsOver_later hlater hrelease)
  · obtain ⟨vmi, hw⟩ := waiting_of_kind (Or.inl hhold)
    obtain ⟨c, hc⟩ := List.exists_mem_of_ne_nil _ hw.held
    have hheld : holding more ≠ [] :=
      List.ne_nil_of_mem (List.filter_subset _ hmore.subset hc)
    have hwaiting : Waiting { i with claims := more } vmi :=
      ⟨hheld, hw.starts, hw.paused, hw.unreleased⟩
    rw [hw.kind_eq_hold_iff] at hhold
    rw [hwaiting.kind_eq_hold_iff]
    exact fun hover => hhold (waitIsOver_subset hw.held hmore.subset hover)
  · exact kind_same_claims hperm.subset hperm.symm.subset

/-- An instance that was started paused and still is, since the given moment. -/
def heldInstance (since : Option String) : VmiInfo where
  ns := "default"
  name := "vm"
  uid := "vmi-1"
  phase := none
  node := none
  clientPassthrough := false
  startPaused := true
  paused := true
  pausedSince := since
  activePods := []
  controlledByVm := false
  deleting := false

/-- A claim whose device has not shown up. -/
def missingCamera : BootHoldClaim := ⟨"camera", false, false, 300, none⟩

/-- A claim whose device is there, and that would wait forever. -/
def readyDongle : BootHoldClaim := ⟨"dongle", true, false, 0, none⟩

/-- One more claim prolongs a hold, even one that is ready at once. -/
theorem holding_monotone_two :
    (decideBootHold Runtime.newYear
      ⟨none, some (heldInstance none), [readyDongle, missingCamera], false, 0⟩).kind = .hold :=
  (holding_monotone Runtime.newYear
    ⟨none, some (heldInstance none), [missingCamera], false, 0⟩).2.1 rfl _
      (List.sublist_cons_self _ _)

/-! ## Finite timeouts -/

/-- What a claim asks for, whatever has become of its device. -/
def BootHoldClaim.terms (c : BootHoldClaim) : String × Bool × ℤ :=
  (c.name, c.invalid, c.timeoutSeconds)

/-- The `Paused` condition of an instance says since when it holds. -/
def PausedSince (rt : Runtime) (obj : DynamicObject) (t : ℤ) : Prop :=
  ∃ c text, VmiInfo.pausedCondition obj = some c ∧
    c.get? "lastTransitionTime" = some (.str text) ∧ rt.parseTimestamp text = some t

/-- The last second a clock can show. -/
def Timestamp.last : Timestamp := ⟨253402207200, by decide⟩

/-- The pause is dated, and each timeout is over by the last second. -/
def TimeoutsElapse (rt : Runtime) (obj : DynamicObject) (claims : List BootHoldClaim) : Prop :=
  ∃ t, PausedSince rt obj t ∧
    ∀ c ∈ holding claims, t + c.timeoutSeconds ≤ Timestamp.last.asSecond.toInt

/-- A clock that shows a second no earlier than the given one, and the given one if it can. -/
lemma exists_timestamp {n : ℤ} (hn : n ≤ Timestamp.last.asSecond.toInt) :
    ∃ T : Timestamp, n ≤ T.asSecond.toInt ∧
      ∀ now : Timestamp, n ≤ now.asSecond.toInt → T.asSecond.toInt ≤ now.asSecond.toInt := by
  have hlast : Timestamp.last.asSecond.toInt = 253402207200 := rfl
  have hsecond : (Int64.ofInt (max n (-377705023201))).toInt = max n (-377705023201) :=
    Int64.toInt_ofInt_of_le (by omega) (by omega)
  refine ⟨⟨Int64.ofInt (max n (-377705023201)), by omega⟩, ?_, fun now hnow => ?_⟩
  · show n ≤ (Int64.ofInt _).toInt
    omega
  · show (Int64.ofInt _).toInt ≤ _
    have hrange := now.inRange
    omega

lemma mem_holding_of_terms {claims claims' : List BootHoldClaim}
    (h : claims'.map (·.terms) = claims.map (·.terms)) {c' : BootHoldClaim}
    (hc' : c' ∈ holding claims') : ∃ c ∈ holding claims, c.terms = c'.terms := by
  obtain ⟨hmem, hvalid⟩ := List.mem_filter.mp hc'
  obtain ⟨c, hc, hterms⟩ := List.mem_map.mp (h ▸ List.mem_map_of_mem hmem)
  have hinvalid : c.invalid = c'.invalid := congrArg (·.2.1) hterms
  exact ⟨c, List.mem_filter.mpr ⟨hc, hinvalid ▸ hvalid⟩, hterms⟩

lemma mem_holding_map {claims : List BootHoldClaim} (f : BootHoldClaim → BootHoldClaim)
    (hf : ∀ c, (f c).terms = c.terms) {c : BootHoldClaim} (hc : c ∈ holding claims) :
    f c ∈ holding (claims.map f) := by
  obtain ⟨hmem, hvalid⟩ := List.mem_filter.mp hc
  have hinvalid : (f c).invalid = c.invalid := congrArg (·.2.1) (hf c)
  exact List.mem_filter.mpr ⟨List.mem_map_of_mem hmem, hinvalid ▸ hvalid⟩

lemma pausedSince_iff {obj : DynamicObject} {vmi : VmiInfo}
    (hobj : VmiInfo.fromObject obj = some vmi) {t : ℤ} :
    PausedSince rt obj t ↔ vmi.pausedSince.bind rt.parseTimestamp = some t := by
  rw [VmiInfo.pausedSince_fromObject hobj]
  constructor
  · rintro ⟨c, text, hc, htext, ht⟩
    simp [hc, strAt, htext, Json.asStr, ht]
  · intro ht
    obtain ⟨text, hsince, ht⟩ := Option.bind_eq_some_iff.mp ht
    obtain ⟨c, hc, htext⟩ := Option.bind_eq_some_iff.mp hsince
    exact ⟨c, text, hc, strAt_eq_some.mp htext, ht⟩

/-- **When finite timeouts end a hold.**  For an instance that was read from an object, started
paused, is paused and stays, and claims whose timeouts are finite: there is a moment from which on,
whatever the clock shows, the boot is released whatever has become of the devices, if and only if
the `Paused` condition of the object names the moment the pause began and no timeout reaches beyond
the last second a clock can show. -/
theorem timeouts_end_hold_iff (rt : Runtime) {obj : DynamicObject} {vmi : VmiInfo}
    (hobj : VmiInfo.fromObject obj = some vmi) (hstart : vmi.startPaused = true)
    (hpaused : vmi.paused = true) (hstays : vmi.deleting = false) (vm : Option VmInfo)
    {claims : List BootHoldClaim} (hheld : holding claims ≠ [])
    (hfinite : ∀ c ∈ holding claims, 0 < c.timeoutSeconds) :
    (∃ T : Timestamp, ∀ now : Timestamp, T.asSecond.toInt ≤ now.asSecond.toInt →
      ∀ claims' : List BootHoldClaim, claims'.map (·.terms) = claims.map (·.terms) →
        (decideBootHold rt ⟨vm, some vmi, claims', false, now.asSecond.toInt⟩).kind = .release) ↔
      TimeoutsElapse rt obj claims := by
  -- all these inputs are about an instance that waits
  have hwaiting (claims' : List BootHoldClaim)
      (hsame : claims'.map (·.terms) = claims.map (·.terms)) (now : ℤ) :
      Waiting ⟨vm, some vmi, claims', false, now⟩ vmi := by
    obtain ⟨c, hc⟩ := List.exists_mem_of_ne_nil _ hheld
    obtain ⟨c', hc', -⟩ := mem_holding_of_terms hsame.symm hc
    exact ⟨List.ne_nil_of_mem hc', by simp [hstart], by simp [hpaused, hstays], rfl⟩
  constructor
  · rintro ⟨T, hT⟩
    -- nobody is ready, at the last second
    have hunready : (claims.map fun c => { c with ready := false }).map (·.terms) =
        claims.map (·.terms) := by
      rw [List.map_map]
      rfl
    have hw := hwaiting _ hunready Timestamp.last.asSecond.toInt
    have hover : waitIsOver rt (claims.map fun c => { c with ready := false }) vmi
        Timestamp.last.asSecond.toInt :=
      hw.kind_eq_release_iff.mp (hT Timestamp.last T.inRange.2 _ hunready)
    obtain ⟨c, hc⟩ := List.exists_mem_of_ne_nil _ hheld
    have hstill : ∀ c ∈ holding claims, { c with ready := false } ∈
        holding (claims.map fun c => { c with ready := false }) :=
      fun c hc => mem_holding_map (fun c => { c with ready := false }) (fun _ => rfl) hc
    rcases (waitIsOver_iff hw.held).mp hover with hready | htimeout
    · exact absurd (hready _ (hstill c hc)) Bool.false_ne_true
    have hlate : ∀ c ∈ holding claims,
        c.timeoutSeconds ≤ vmi.waited rt Timestamp.last.asSecond.toInt :=
      fun c hc => (htimeout _ (hstill c hc)).2
    cases ht : vmi.pausedSince.bind rt.parseTimestamp with
    | none =>
        -- the clock stands at zero
        have hclock : vmi.waited rt Timestamp.last.asSecond.toInt = 0 := by
          rw [VmiInfo.waited, Runtime.ageSecs, ht]
          rfl
        exact absurd (hfinite c hc) (not_lt.mpr (hclock ▸ hlate c hc))
    | some t =>
        refine ⟨t, (pausedSince_iff hobj).mpr ht, fun c hc => ?_⟩
        have hwaited : vmi.waited rt Timestamp.last.asSecond.toInt =
            max (Timestamp.last.asSecond.toInt - t) 0 := by
          rw [VmiInfo.waited, Runtime.ageSecs, ht]
          rfl
        have hpositive := hfinite c hc
        have hlate := hlate c hc
        rw [hwaited] at hlate
        omega
  · rintro ⟨t, ht, hfit⟩
    obtain ⟨T, hT, hfirst⟩ := exists_timestamp (n := t + longestTimeout (holding claims)) <| by
      rw [← le_sub_iff_add_le', longestTimeout_le hheld]
      exact fun c hc => le_sub_iff_add_le'.mpr (hfit c hc)
    refine ⟨T, fun now hnow claims' hsame => ?_⟩
    have hw := hwaiting claims' hsame now.asSecond.toInt
    rw [hw.kind_eq_release_iff, waitIsOver_iff hw.held]
    right
    intro c' hc'
    obtain ⟨c, hc, hterms⟩ := mem_holding_of_terms hsame hc'
    have htimeout : c.timeoutSeconds = c'.timeoutSeconds := congrArg (·.2.2) hterms
    have hpositive := hfinite c hc
    have hlongest := (longestTimeout_le hheld).mp le_rfl c hc
    have hwaited : now.asSecond.toInt - t ≤ vmi.waited rt now.asSecond.toInt := by
      rw [VmiInfo.waited, Runtime.ageSecs, (pausedSince_iff hobj).mp ht]
      exact le_max_left _ _
    show c'.timeoutSeconds ≠ 0 ∧ c'.timeoutSeconds ≤ vmi.waited rt now.asSecond.toInt
    omega

def heldCondition (since : Option String) : Json :=
  Json.skipNone
    [("type", some (.str "Paused")),
     ("status", some (.str "True")),
     ("lastTransitionTime", since.map .str)]

/-- The object `heldInstance` is read from. -/
def heldObject (since : Option String) : DynamicObject where
  metadata :=
    { ns := some "default"
      name := some "vm"
      generateName := none
      uid := some "vmi-1"
      ownerReferences := []
      deletionTimestamp := none }
  data := Json.object
    [("spec", Json.object [("startStrategy", .str "Paused")]),
     ("status", Json.object [("conditions", .arr [heldCondition since])])]

/-- A dated pause ends. -/
theorem timeouts_end_hold_iff_dated :
    ∃ T : Timestamp, ∀ now : Timestamp, T.asSecond.toInt ≤ now.asSecond.toInt →
      ∀ claims' : List BootHoldClaim,
        claims'.map (·.terms) = [missingCamera].map (·.terms) →
          (decideBootHold Runtime.newYear ⟨none, some (heldInstance (some "2024-01-01T00:00:00Z")),
            claims', false, now.asSecond.toInt⟩).kind = .release := by
  have hobj : VmiInfo.fromObject (heldObject (some "2024-01-01T00:00:00Z")) =
      some (heldInstance (some "2024-01-01T00:00:00Z")) := by decide +kernel
  refine (timeouts_end_hold_iff Runtime.newYear hobj rfl rfl rfl none (by decide)
    (by decide)).mpr ⟨1704067200, ?_, ?_⟩
  · exact ⟨heldCondition (some "2024-01-01T00:00:00Z"), "2024-01-01T00:00:00Z",
      by decide +kernel, by decide +kernel, by decide +kernel⟩
  · exact List.forall_mem_singleton.mpr (by decide)

/-- A pause without a date does not end, whatever the clock says. -/
theorem undated_pause_never_ends :
    VmiInfo.fromObject (heldObject none) = some (heldInstance none) ∧
      (heldInstance none).startPaused = true ∧ (heldInstance none).paused = true ∧
      (heldInstance none).deleting = false ∧ holding [missingCamera] ≠ [] ∧
      (∀ c ∈ holding [missingCamera], 0 < c.timeoutSeconds) ∧
      ¬ ∃ T : Timestamp, ∀ now : Timestamp, T.asSecond.toInt ≤ now.asSecond.toInt →
        ∀ claims' : List BootHoldClaim,
          claims'.map (·.terms) = [missingCamera].map (·.terms) →
            (decideBootHold Runtime.newYear ⟨none, some (heldInstance none), claims', false,
              now.asSecond.toInt⟩).kind = .release := by
  refine ⟨by decide +kernel, rfl, rfl, rfl, by decide, by decide, ?_⟩
  rintro ⟨T, hT⟩
  have hhold : (decideBootHold Runtime.newYear
      ⟨none, some (heldInstance none), [missingCamera], false, T.asSecond.toInt⟩).kind = .hold :=
    rfl
  have hrelease := hT T le_rfl [missingCamera] rfl
  rw [hhold] at hrelease
  cases hrelease

end AtomicUsb
