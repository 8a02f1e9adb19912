import AtomicUsb.Controller.Slots
import Mathlib.Data.List.Dedup

/-!
# Slots that stay

The slots of a VM are handed out in three passes, and what the last two do is the same kind of
step: grant a free slot to a claim that has none, or refuse it when all are taken.  `Assigns`
collects what survives any number of such steps.

`allocateSlots_keep` says that the result is stable: claims that ask again with the slot they were
just granted are granted the same slots.
-/

namespace AtomicUsb

/-- What a claim is told when its VM has no slot left. -/
def allInUse : String := s!"all {usbredirSlots} usbredir slots of the VM are in use"

/-- The slot a result grants. -/
def granted (result : SlotResult) (uid : String) : Option ℤ :=
  match result uid with
  | some (.ok slot) => some slot
  | _ => none

lemma granted_eq_some {result : SlotResult} {uid : String} {slot : ℤ} :
    granted result uid = some slot ↔ result uid = some (.ok slot) := by
  unfold granted
  split <;> simp_all

lemma granted_eq_none {result : SlotResult} {uid : String} :
    granted result uid = none ↔ result uid = none ∨ ∃ e, result uid = some (.error e) := by
  unfold granted
  rcases result uid with - | (e | slot) <;> simp

namespace SlotState

variable {st : SlotState} {r : SlotRequest} {uid : String}

lemma grant_result_self {slot : ℤ} : (st.grant r slot).result r.uid = some (.ok slot) :=
  Function.update_self ..

lemma grant_result_of_ne {slot : ℤ} (h : uid ≠ r.uid) :
    (st.grant r slot).result uid = st.result uid := Function.update_of_ne h ..

lemma refuse_result_self {reason : String} :
    (st.refuse r reason).result r.uid = some (.error reason) := Function.update_self ..

lemma refuse_result_of_ne {reason : String} (h : uid ≠ r.uid) :
    (st.refuse r reason).result uid = st.result uid := Function.update_of_ne h ..

lemma grant_used {slot s : ℤ} :
    ((st.grant r slot).used s).isSome = true ↔ s = slot ∨ (st.used s).isSome = true := by
  by_cases hs : s = slot
  · subst hs
    simp [grant]
  · simp [grant, hs]

lemma mem_slots {s : ℤ} : s ∈ ([3, 2, 1, 0] : List ℤ) ↔ inRange s = true := by
  have hslots : usbredirSlots = 4 := rfl
  simp only [List.mem_cons, List.not_mem_nil, or_false, inRange, Bool.and_eq_true,
    decide_eq_true_eq, hslots]
  omega

lemma highestFree_eq_some {s : ℤ} (h : st.highestFree = some s) :
    inRange s = true ∧ st.used s = none :=
  ⟨mem_slots.mp (List.mem_of_find?_eq_some h), by simpa using List.find?_some h⟩

lemma highestFree_eq_none :
    st.highestFree = none ↔ ∀ s, inRange s = true → (st.used s).isSome = true := by
  unfold highestFree
  rw [List.find?_eq_none]
  refine forall_congr' fun s => ?_
  rw [mem_slots]
  simp [Option.isSome_iff_ne_none]

end SlotState

open SlotState

/-! ## Granting and refusing -/

/-- The state `st` was reached from `st₀` by granting free slots to some of these requests and
refusing others when no slot was free. -/
structure Assigns (st₀ : SlotState) (requests : List SlotRequest) (st : SlotState) : Prop where
  other : ∀ uid, uid ∉ requests.map (·.uid) → st.result uid = st₀.result uid
  free : ∀ r ∈ requests, ∀ s, st.result r.uid = some (.ok s) →
    inRange s = true ∧ st₀.used s = none
  distinct : ∀ r ∈ requests, ∀ r' ∈ requests, ∀ s, st.result r.uid = some (.ok s) →
    st.result r'.uid = some (.ok s) → r.uid = r'.uid
  used : ∀ s, (st.used s).isSome = true ↔
    (st₀.used s).isSome = true ∨ ∃ r ∈ requests, st.result r.uid = some (.ok s)
  refused : ∀ r ∈ requests, ∀ e, st.result r.uid = some (.error e) →
    e = allInUse ∧ ∀ s, inRange s = true → (st.used s).isSome = true

namespace Assigns

variable {st₀ st : SlotState} {requests : List SlotRequest} {r : SlotRequest}

lemma refl (h : ∀ r ∈ requests, st.result r.uid = none) : Assigns st requests st where
  other _ _ := rfl
  free r hr s hs := by
    rw [h r hr] at hs
    cases hs
  distinct r hr _ _ s hs := by
    rw [h r hr] at hs
    cases hs
  used s := by
    constructor
    · exact Or.inl
    · rintro (hs | ⟨r, hr, hs⟩)
      · exact hs
      · rw [h r hr] at hs
        cases hs
  refused r hr e he := by
    rw [h r hr] at he
    cases he

lemma grant (h : Assigns st₀ requests st) (hr : r ∈ requests) (hnone : st.result r.uid = none)
    {slot : ℤ} (hrange : inRange slot = true) (hfree : st.used slot = none) :
    Assigns st₀ requests (st.grant r slot) := by
  have hslot : ¬ ((st₀.used slot).isSome = true ∨
      ∃ r ∈ requests, st.result r.uid = some (.ok slot)) := by
    rw [← h.used, hfree]
    exact Bool.false_ne_true
  -- a grant in the new state is the new one or an old one of another slot
  have hcases : ∀ (r' : SlotRequest) (s : ℤ), (st.grant r slot).result r'.uid = some (.ok s) →
      (r'.uid = r.uid ∧ s = slot) ∨ (r'.uid ≠ r.uid ∧ st.result r'.uid = some (.ok s)) := by
    intro r' s hs
    by_cases huid : r'.uid = r.uid
    · rw [huid, grant_result_self, Option.some.injEq, Except.ok.injEq] at hs
      exact Or.inl ⟨huid, hs.symm⟩
    · rw [grant_result_of_ne huid] at hs
      exact Or.inr ⟨huid, hs⟩
  refine ⟨fun uid huid => ?_, fun r' hr' s hs => ?_, fun r' hr' r'' hr'' s hs hs' => ?_,
    fun s => ?_, fun r' hr' e he => ?_⟩
  · have hne : uid ≠ r.uid := fun heq => huid (heq ▸ List.mem_map_of_mem hr)
    rw [grant_result_of_ne hne]
    exact h.other uid huid
  · rcases hcases r' s hs with ⟨-, rfl⟩ | ⟨-, hs⟩
    · refine ⟨hrange, ?_⟩
      by_contra hne
      exact hslot (Or.inl (Option.isSome_iff_ne_none.mpr hne))
    · exact h.free r' hr' s hs
  · rcases hcases r' s hs with ⟨huid, heq⟩ | ⟨-, hs⟩ <;>
      rcases hcases r'' s hs' with ⟨huid', heq'⟩ | ⟨-, hs'⟩
    · exact huid.trans huid'.symm
    · exact absurd (Or.inr ⟨r'', hr'', heq ▸ hs'⟩) hslot
    · exact absurd (Or.inr ⟨r', hr', heq' ▸ hs⟩) hslot
    · exact h.distinct r' hr' r'' hr'' s hs hs'
  · rw [grant_used, h.used]
    constructor
    · rintro (rfl | hs | ⟨r', hr', hs⟩)
      · exact Or.inr ⟨r, hr, grant_result_self⟩
      · exact Or.inl hs
      · refine Or.inr ⟨r', hr', ?_⟩
        rw [grant_result_of_ne, hs]
        intro heq
        rw [heq, hnone] at hs
        cases hs
    · rintro (hs | ⟨r', hr', hs⟩)
      · exact Or.inr (Or.inl hs)
      · rcases hcases r' s hs with ⟨-, rfl⟩ | ⟨-, hs⟩
        · exact Or.inl rfl
        · exact Or.inr (Or.inr ⟨r', hr', hs⟩)
  · by_cases huid : r'.uid = r.uid
    · rw [huid, grant_result_self] at he
      cases he
    · rw [grant_result_of_ne huid] at he
      obtain ⟨rfl, hfull⟩ := h.refused r' hr' e he
      exact ⟨rfl, fun s hs => grant_used.mpr (Or.inr (hfull s hs))⟩

lemma refuse (h : Assigns st₀ requests st) (hr : r ∈ requests) (hnone : st.result r.uid = none)
    (hfull : ∀ s, inRange s = true → (st.used s).isSome = true) :
    Assigns st₀ requests (st.refuse r allInUse) := by
  have hok : ∀ (r' : SlotRequest) (s : ℤ), (st.refuse r allInUse).result r'.uid = some (.ok s) ↔
      st.result r'.uid = some (.ok s) := by
    intro r' s
    by_cases huid : r'.uid = r.uid
    · rw [huid, refuse_result_self, hnone]
      simp
    · rw [refuse_result_of_ne huid]
  refine ⟨fun uid huid => ?_, fun r' hr' s hs => h.free r' hr' s ((hok r' s).mp hs),
    fun r' hr' r'' hr'' s hs hs' =>
      h.distinct r' hr' r'' hr'' s ((hok r' s).mp hs) ((hok r'' s).mp hs'),
    fun s => ?_, fun r' hr' e he => ?_⟩
  · have hne : uid ≠ r.uid := fun heq => huid (heq ▸ List.mem_map_of_mem hr)
    rw [refuse_result_of_ne hne]
    exact h.other uid huid
  · show (st.used s).isSome = true ↔ _
    rw [h.used]
    exact or_congr_right (exists_congr fun r' => and_congr_right fun _ => (hok r' s).symm)
  · by_cases huid : r'.uid = r.uid
    · rw [huid, refuse_result_self, Option.some.injEq, Except.error.injEq] at he
      exact ⟨he.symm, hfull⟩
    · rw [refuse_result_of_ne huid] at he
      exact h.refused r' hr' e he

end Assigns

/-! ## The three passes -/

section Passes

variable {st st₀ : SlotState} {r : SlotRequest} {uid : String} {requests l : List SlotRequest}

lemma keepStep_cases (st : SlotState) (r : SlotRequest) : keepStep st r = st ∨
    ∃ s, inRange s = true ∧ st.used s = none ∧ keepStep st r = st.grant r s := by
  unfold keepStep
  split
  · rename_i s hs
    obtain ⟨-, hfree⟩ := Option.filter_eq_some_iff.mp hs
    rw [Bool.and_eq_true] at hfree
    exact Or.inr ⟨s, hfree.1, by simpa using hfree.2, rfl⟩
  · exact Or.inl rfl

lemma newStep_cases (st : SlotState) (r : SlotRequest) :
    (∃ s, inRange s = true ∧ st.used s = none ∧ newStep st r = st.grant r s) ∨
      st.highestFree = none ∧ newStep st r = st.refuse r allInUse := by
  unfold newStep
  split
  · rename_i s hs
    obtain ⟨hrange, hfree⟩ := highestFree_eq_some hs
    exact Or.inl ⟨s, hrange, hfree, rfl⟩
  · rename_i hnone
    exact Or.inr ⟨hnone, rfl⟩

/-- A step that at most answers the request at hand. -/
def Answers (step : SlotState → SlotRequest → SlotState) : Prop :=
  ∀ st r, step st r = st ∨
    (∃ s, inRange s = true ∧ st.used s = none ∧ step st r = st.grant r s) ∨
    ∃ e, step st r = st.refuse r e

lemma pinStep_answers : Answers pinStep := by
  intro st r
  unfold pinStep
  split
  · exact Or.inl rfl
  · rename_i slot hslot
    split_ifs with hrange
    · exact Or.inr (Or.inr ⟨_, rfl⟩)
    · split
      · exact Or.inr (Or.inr ⟨_, rfl⟩)
      · rename_i hfree
        exact Or.inr (Or.inl ⟨slot, by simpa using hrange, hfree, rfl⟩)

lemma keepStep_answers : Answers keepStep := fun st r =>
  (keepStep_cases st r).imp_right Or.inl

lemma newStep_answers : Answers newStep := by
  intro st r
  rcases newStep_cases st r with hgrant | ⟨-, hrefuse⟩
  · exact Or.inr (Or.inl hgrant)
  · exact Or.inr (Or.inr ⟨_, hrefuse⟩)

section Answers

variable {step : SlotState → SlotRequest → SlotState}

lemma Answers.result_of_ne (hstep : Answers step) {uid : String} (h : uid ≠ r.uid) :
    (step st r).result uid = st.result uid := by
  rcases hstep st r with heq | ⟨s, -, -, heq⟩ | ⟨e, heq⟩ <;> rw [heq]
  · exact grant_result_of_ne h
  · exact refuse_result_of_ne h

lemma Answers.foldl_result_of_not_mem (hstep : Answers step) {uid : String}
    (h : uid ∉ l.map (·.uid)) : (l.foldl step st).result uid = st.result uid := by
  induction l generalizing st with
  | nil => rfl
  | cons r l ih =>
      rw [List.map_cons, List.mem_cons, not_or] at h
      rw [List.foldl_cons, ih h.2, hstep.result_of_ne h.1]

/-- An answer is not taken back. -/
lemma Answers.foldl_isSome (hstep : Answers step) (h : (st.result uid).isSome = true) :
    ((l.foldl step st).result uid).isSome = true := by
  induction l generalizing st with
  | nil => exact h
  | cons r l ih =>
      refine ih ?_
      by_cases huid : uid = r.uid
      · rcases hstep st r with heq | ⟨s, -, -, heq⟩ | ⟨e, heq⟩ <;> rw [heq]
        · exact h
        · rw [huid, grant_result_self]
          rfl
        · rw [huid, refuse_result_self]
          rfl
      · rwa [hstep.result_of_ne huid]

/-- A claim that is answered in its turn has an answer in the end. -/
lemma Answers.foldl_isSome_of_mem (hstep : Answers step) (hr : r ∈ l)
    (h : ∀ st, ((step st r).result r.uid).isSome = true) :
    ((l.foldl step st).result r.uid).isSome = true := by
  obtain ⟨before, after, rfl⟩ := List.append_of_mem hr
  rw [List.foldl_append, List.foldl_cons]
  exact hstep.foldl_isSome (h _)

end Answers

/-- A step that grants or refuses at most the request at hand. -/
def Grants (step : SlotState → SlotRequest → SlotState) : Prop :=
  ∀ {st₀ requests st} {r : SlotRequest}, Assigns st₀ requests st → r ∈ requests →
    st.result r.uid = none → Assigns st₀ requests (step st r) ∧
      ∀ uid, uid ≠ r.uid → (step st r).result uid = st.result uid

lemma keepStep_grants : Grants keepStep := by
  intro st₀ requests st r h hr hnone
  refine ⟨?_, fun uid huid => keepStep_answers.result_of_ne huid⟩
  rcases keepStep_cases st r with heq | ⟨s, hrange, hfree, heq⟩ <;> rw [heq]
  · exact h
  · exact h.grant hr hnone hrange hfree

lemma newStep_grants : Grants newStep := by
  intro st₀ requests st r h hr hnone
  refine ⟨?_, fun uid huid => newStep_answers.result_of_ne huid⟩
  rcases newStep_cases st r with ⟨s, hrange, hfree, heq⟩ | ⟨hfull, heq⟩ <;> rw [heq]
  · exact h.grant hr hnone hrange hfree
  · exact h.refuse hr hnone (highestFree_eq_none.mp hfull)

lemma Assigns.foldl {step : SlotState → SlotRequest → SlotState} (hstep : Grants step)
    (h : Assigns st₀ requests st) (hl : ∀ r ∈ l, r ∈ requests) (hnd : (l.map (·.uid)).Nodup)
    (hnone : ∀ r ∈ l, st.result r.uid = none) :
    Assigns st₀ requests (l.foldl step st) ∧
      ∀ uid, uid ∉ l.map (·.uid) → (l.foldl step st).result uid = st.result uid := by
  induction l generalizing st with
  | nil => exact ⟨h, fun _ _ => rfl⟩
  | cons r l ih =>
      obtain ⟨hr, hnd⟩ := List.nodup_cons.mp hnd
      obtain ⟨h', hother⟩ := hstep h (hl r List.mem_cons_self) (hnone r List.mem_cons_self)
      obtain ⟨hall, hrest⟩ := ih h' (fun r' hr' => hl r' (List.mem_cons_of_mem _ hr')) hnd
        fun r' hr' => by
          rw [hother r'.uid fun heq => hr (List.mem_map.mpr ⟨r', hr', heq⟩)]
          exact hnone r' (List.mem_cons_of_mem _ hr')
      refine ⟨hall, fun uid huid => ?_⟩
      rw [List.map_cons, List.mem_cons, not_or] at huid
      rw [List.foldl_cons, hrest uid huid.2, hother uid huid.1]

/-- The last pass leaves nobody without an answer. -/
lemma foldl_newStep_isSome (hr : r ∈ l ∨ (st.result r.uid).isSome = true) :
    ((l.foldl newStep st).result r.uid).isSome = true := by
  rcases hr with hr | hsome
  · refine newStep_answers.foldl_isSome_of_mem hr fun st => ?_
    rcases newStep_cases st r with ⟨s, -, -, heq⟩ | ⟨-, heq⟩ <;> rw [heq]
    · rw [grant_result_self]
      rfl
    · rw [refuse_result_self]
      rfl
  · exact newStep_answers.foldl_isSome hsome

/-- The first pass is about pinned slots only. -/
lemma foldl_pinStep_of_unpinned (h : ∀ r ∈ l, uid = r.uid → r.pinned = none) :
    (l.foldl pinStep st).result uid = st.result uid := by
  induction l generalizing st with
  | nil => rfl
  | cons r l ih =>
      rw [List.foldl_cons, ih fun r' hr' => h r' (List.mem_cons_of_mem _ hr')]
      by_cases huid : uid = r.uid
      · rw [pinStep, h r List.mem_cons_self huid]
      · exact pinStep_answers.result_of_ne huid

lemma pinStep_isSome (h : r.pinned ≠ none) : ((pinStep st r).result r.uid).isSome = true := by
  unfold pinStep
  split
  · rename_i hnone
    exact absurd hnone h
  · split_ifs
    · rw [refuse_result_self]
      rfl
    · split
      · rw [refuse_result_self]
        rfl
      · rw [grant_result_self]
        rfl

end Passes

/-! ## Asking again -/

/-- The request with the slot that a result granted it as the one it had before. -/
def SlotRequest.keep (result : SlotResult) (r : SlotRequest) : SlotRequest :=
  { r with previous := granted result r.uid }

/-- The requests of one VM, with distinct UIDs and no answers yet. -/
structure Fresh (result : SlotResult) (requests : List SlotRequest) : Prop where
  nodup : (requests.map (·.uid)).Nodup
  unanswered : ∀ r ∈ requests, result r.uid = none

section Vm

variable {result : SlotResult} {requests : List SlotRequest}

/-- The state after the pinned slots are given out. -/
def pinned (result : SlotResult) (requests : List SlotRequest) : SlotState :=
  requests.foldl pinStep ⟨fun _ => none, result⟩

def unpinned (requests : List SlotRequest) : List SlotRequest :=
  requests.filter (·.pinned.isNone)

lemma mem_unpinned {r : SlotRequest} : r ∈ unpinned requests ↔ r ∈ requests ∧ r.pinned = none := by
  simp [unpinned, List.mem_filter]

lemma Fresh.eq_of_uid (h : Fresh result requests) {r r' : SlotRequest} (hr : r ∈ requests)
    (hr' : r' ∈ requests) (huid : r.uid = r'.uid) : r = r' :=
  List.inj_on_of_nodup_map h.nodup hr hr' huid

lemma Fresh.pinned_none (h : Fresh result requests) {r : SlotRequest} (hr : r ∈ unpinned requests) :
    (pinned result requests).result r.uid = none := by
  obtain ⟨hr, hnone⟩ := mem_unpinned.mp hr
  unfold pinned
  rw [foldl_pinStep_of_unpinned]
  · exact h.unanswered r hr
  · intro r' hr' huid
    rw [← h.eq_of_uid hr hr' huid]
    exact hnone

lemma pinned_isSome {r : SlotRequest} (hr : r ∈ requests) (hr' : r ∉ unpinned requests) :
    ((pinned result requests).result r.uid).isSome = true := by
  have hpin : r.pinned ≠ none := fun hnone => hr' (mem_unpinned.mpr ⟨hr, hnone⟩)
  exact pinStep_answers.foldl_isSome_of_mem hr fun _ => pinStep_isSome hpin

lemma Fresh.unpinned_nodup (h : Fresh result requests) :
    ((unpinned requests).map (·.uid)).Nodup :=
  h.nodup.sublist (List.filter_sublist.map _)

/-- The state after the claims that had a slot have kept it, as far as they may. -/
def kept (result : SlotResult) (requests : List SlotRequest) : SlotState :=
  (unpinned requests).foldl keepStep (pinned result requests)

/-- The claims that neither have a pin nor keep a slot. -/
def left (result : SlotResult) (requests : List SlotRequest) : List SlotRequest :=
  requests.filter fun r => ((kept result requests).result r.uid).isNone

lemma allocateVm_eq (result : SlotResult) (requests : List SlotRequest) :
    allocateVm result requests =
      ((left result requests).foldl newStep (kept result requests)).result := rfl

lemma mem_left {r : SlotRequest} : r ∈ left result requests ↔
    r ∈ requests ∧ (kept result requests).result r.uid = none := by
  rw [left, List.mem_filter, Option.isNone_iff_eq_none]

lemma allocateVm_not_mem {uid : String} (h : uid ∉ requests.map (·.uid)) :
    allocateVm result requests uid = result uid := by
  have hsub (p : SlotRequest → Bool) : uid ∉ (requests.filter p).map (·.uid) := fun hmem =>
    h ((List.filter_sublist.map _).subset hmem)
  rw [allocateVm_eq, left, newStep_answers.foldl_result_of_not_mem (hsub _), kept, unpinned,
    keepStep_answers.foldl_result_of_not_mem (hsub _), pinned,
    pinStep_answers.foldl_result_of_not_mem h]

/-- The second pass leaves the answers of the first alone. -/
lemma Fresh.kept_of_pinned (h : Fresh result requests) {r : SlotRequest} (hr : r ∈ requests)
    (hpin : r.pinned ≠ none) :
    (kept result requests).result r.uid = (pinned result requests).result r.uid := by
  refine keepStep_answers.foldl_result_of_not_mem fun hmem => ?_
  obtain ⟨r', hr', huid⟩ := List.mem_map.mp hmem
  rw [h.eq_of_uid (mem_unpinned.mp hr').1 hr huid] at hr'
  exact hpin (mem_unpinned.mp hr').2

lemma Fresh.unpinned_of_mem_left (h : Fresh result requests) {r : SlotRequest}
    (hr : r ∈ left result requests) : r ∈ unpinned requests := by
  obtain ⟨hr, hnone⟩ := mem_left.mp hr
  by_contra hpin
  have hsome := @pinned_isSome result requests r hr hpin
  rw [← h.kept_of_pinned hr fun hp => hpin (mem_unpinned.mpr ⟨hr, hp⟩), hnone] at hsome
  cases hsome

/-- What the passes after the first one amount to. -/
lemma Fresh.assigns (h : Fresh result requests) :
    ∃ st, allocateVm result requests = st.result ∧
      Assigns (pinned result requests) (unpinned requests) st ∧
      ∀ r ∈ unpinned requests, (st.result r.uid).isSome = true := by
  have hbase : Assigns (pinned result requests) (unpinned requests) (pinned result requests) :=
    Assigns.refl fun r hr => h.pinned_none hr
  have hkeep : Assigns (pinned result requests) (unpinned requests) (kept result requests) :=
    (hbase.foldl keepStep_grants (fun _ hr => hr) h.unpinned_nodup fun r hr => h.pinned_none hr).1
  obtain ⟨hnew, -⟩ := hkeep.foldl newStep_grants (fun r hr => h.unpinned_of_mem_left hr)
    (h.nodup.sublist (List.filter_sublist.map _)) fun r hr => (mem_left.mp hr).2
  refine ⟨_, allocateVm_eq result requests, hnew, fun r hr => foldl_newStep_isSome ?_⟩
  by_cases hsome : (kept result requests).result r.uid = none
  · exact Or.inl (mem_left.mpr ⟨(mem_unpinned.mp hr).1, hsome⟩)
  · exact Or.inr (Option.isSome_iff_ne_none.mpr hsome)

/-- When all ask for slots that are distinct and free, all get them. -/
lemma foldl_keepStep_granted {g : SlotRequest → Option ℤ} {l : List SlotRequest} {st : SlotState}
    (hnd : (l.map (·.uid)).Nodup)
    (hfree : ∀ r ∈ l, ∀ s, g r = some s → inRange s = true ∧ st.used s = none)
    (hdistinct : ∀ r ∈ l, ∀ r' ∈ l, ∀ s, g r = some s → g r' = some s → r.uid = r'.uid) :
    let st' := (l.map fun r => { r with previous := g r }).foldl keepStep st
    (∀ r ∈ l, ∀ s, g r = some s → st'.result r.uid = some (.ok s)) ∧
      (∀ uid, (∀ r ∈ l, r.uid = uid → g r = none) → st'.result uid = st.result uid) ∧
      ∀ s, (st'.used s).isSome = true ↔ (st.used s).isSome = true ∨ ∃ r ∈ l, g r = some s := by
  induction l generalizing st with
  | nil => simp
  | cons r l ih =>
      obtain ⟨hr, hnd⟩ := List.nodup_cons.mp hnd
      rw [List.map_cons, List.foldl_cons]
      cases hg : g r with
      | none =>
          have hstep : keepStep st { r with previous := none } = st := rfl
          rw [hstep]
          obtain ⟨h₁, h₂, h₃⟩ := ih hnd
            (fun r' hr' => hfree r' (List.mem_cons_of_mem _ hr'))
            fun r' hr' r'' hr'' => hdistinct r' (List.mem_cons_of_mem _ hr') r''
              (List.mem_cons_of_mem _ hr'')
          refine ⟨fun r' hr' s hs => ?_, fun uid huid => ?_, fun s => ?_⟩
          · rcases List.mem_cons.mp hr' with rfl | hr'
            · rw [hg] at hs
              cases hs
            · exact h₁ r' hr' s hs
          · exact h₂ uid fun r' hr' => huid r' (List.mem_cons_of_mem _ hr')
          · rw [h₃ s]
            simp [hg]
      | some slot =>
          obtain ⟨hrange, hnone⟩ := hfree r List.mem_cons_self slot hg
          have hstep : keepStep st { r with previous := some slot } = st.grant r slot := by
            have hkeep : (some slot).filter (fun s => inRange s && (st.used s).isNone) =
                some slot := by
              rw [Option.filter_some, if_pos]
              rw [hrange, hnone]
              rfl
            unfold keepStep
            dsimp only
            rw [hkeep]
            rfl
          rw [hstep]
          have hne : ∀ r' ∈ l, r'.uid ≠ r.uid := fun r' hr' heq =>
            hr (List.mem_map.mpr ⟨r', hr', heq⟩)
          obtain ⟨h₁, h₂, h₃⟩ := @ih (st.grant r slot) hnd
            (fun r' hr' s hs => by
              obtain ⟨hrange', hfree'⟩ := hfree r' (List.mem_cons_of_mem _ hr') s hs
              refine ⟨hrange', ?_⟩
              have hs' : s ≠ slot := fun heq => hne r' hr' (hdistinct r'
                (List.mem_cons_of_mem _ hr') r List.mem_cons_self slot (heq ▸ hs) hg)
              exact (Function.update_of_ne hs' ..).trans hfree')
            fun r' hr' r'' hr'' => hdistinct r' (List.mem_cons_of_mem _ hr') r''
              (List.mem_cons_of_mem _ hr'')
          refine ⟨fun r' hr' s hs => ?_, fun uid huid => ?_, fun s => ?_⟩
          · rcases List.mem_cons.mp hr' with rfl | hr'
            · rw [hg, Option.some.injEq] at hs
              rw [h₂ r'.uid fun r'' hr'' heq => absurd heq (hne r'' hr''), grant_result_self, hs]
            · exact h₁ r' hr' s hs
          · rw [h₂ uid fun r' hr' => huid r' (List.mem_cons_of_mem _ hr'), grant_result_of_ne]
            intro heq
            rw [huid r List.mem_cons_self heq.symm] at hg
            cases hg
          · rw [h₃ s, grant_used]
            simp only [List.exists_mem_cons_iff, hg, Option.some.injEq]
            tauto

/-- When no slot is free, all are refused. -/
lemma foldl_newStep_of_full {l : List SlotRequest} {st : SlotState} {uid : String}
    (hfull : st.highestFree = none) :
    (l.foldl newStep st).result uid =
      if uid ∈ l.map (·.uid) then some (.error allInUse) else st.result uid := by
  induction l generalizing st with
  | nil => rfl
  | cons r l ih =>
      have hstep : newStep st r = st.refuse r allInUse := by
        rcases newStep_cases st r with ⟨s, hrange, hfree, -⟩ | ⟨-, heq⟩
        · have := highestFree_eq_none.mp hfull s hrange
          rw [hfree] at this
          cases this
        · exact heq
      rw [List.foldl_cons, hstep, @ih (st.refuse r allInUse) hfull, List.map_cons]
      by_cases huid : uid = r.uid
      · subst huid
        simp [refuse_result_self]
      · simp [huid, refuse_result_of_ne huid]

/-- The state after the claims that come back have kept their slots. -/
def keptAgain (result full : SlotResult) (requests : List SlotRequest) : SlotState :=
  ((unpinned requests).map (·.keep full)).foldl keepStep (pinned result requests)

lemma allocateVm_map_keep (result full : SlotResult) (requests : List SlotRequest) :
    allocateVm result (requests.map (·.keep full)) =
      (((requests.map (·.keep full)).filter fun r =>
        ((keptAgain result full requests).result r.uid).isNone).foldl newStep
          (keptAgain result full requests)).result := by
  -- the first pass does not look at what a claim had
  have hpin : pinned result (requests.map (·.keep full)) = pinned result requests := by
    unfold pinned
    rw [List.foldl_map]
    rfl
  have hfilter : unpinned (requests.map (·.keep full)) =
      (unpinned requests).map (·.keep full) := by
    unfold unpinned
    rw [List.filter_map]
    rfl
  have hkept : (unpinned (requests.map (·.keep full))).foldl keepStep
      (pinned result (requests.map (·.keep full))) = keptAgain result full requests := by
    rw [hfilter, hpin]
    rfl
  rw [← hkept]
  rfl

section Again

variable {full : SlotResult} {st : SlotState}

/-- Claims that come back keep what they were granted, and nothing is free if one was refused. -/
lemma Fresh.keptAgain_cases (h : Fresh result requests)
    (hassigns : Assigns (pinned result requests) (unpinned requests) st)
    (hanswered : ∀ r ∈ unpinned requests, (st.result r.uid).isSome = true)
    (hfull : ∀ r ∈ unpinned requests, full r.uid = st.result r.uid) :
    (∀ r ∈ unpinned requests,
      (∃ s, st.result r.uid = some (.ok s) ∧
        (keptAgain result full requests).result r.uid = some (.ok s)) ∨
      (st.result r.uid = some (.error allInUse) ∧
        (keptAgain result full requests).result r.uid = none ∧
        (keptAgain result full requests).highestFree = none)) ∧
    ∀ uid, uid ∉ (unpinned requests).map (·.uid) →
      (keptAgain result full requests).result uid = (pinned result requests).result uid := by
  have hok : ∀ r ∈ unpinned requests, ∀ s, granted full r.uid = some s →
      st.result r.uid = some (.ok s) := by
    intro r hr s hs
    rw [← hfull r hr]
    exact granted_eq_some.mp hs
  obtain ⟨hgranted, hother, hused⟩ := @foldl_keepStep_granted (fun r => granted full r.uid)
    (unpinned requests) (pinned result requests) h.unpinned_nodup
    (fun r hr s hs => hassigns.free r hr s (hok r hr s hs))
    fun r hr r' hr' s hs hs' => hassigns.distinct r hr r' hr' s (hok r hr s hs) (hok r' hr' s hs')
  refine ⟨fun r hr => ?_, fun uid huid => hother uid fun r hr heq =>
    absurd (heq ▸ List.mem_map_of_mem hr) huid⟩
  obtain ⟨answer, hanswer⟩ := Option.isSome_iff_exists.mp (hanswered r hr)
  cases answer with
  | ok s =>
      have hs : granted full r.uid = some s := granted_eq_some.mpr ((hfull r hr).trans hanswer)
      exact Or.inl ⟨s, hanswer, hgranted r hr s hs⟩
  | error e =>
      obtain ⟨rfl, hall⟩ := hassigns.refused r hr e hanswer
      refine Or.inr ⟨hanswer, ?_, highestFree_eq_none.mpr fun s hs => (hused s).mpr ?_⟩
      · refine (hother r.uid fun r' _ heq => ?_).trans (h.pinned_none hr)
        rw [heq, granted_eq_none]
        exact Or.inr ⟨_, (hfull r hr).trans hanswer⟩
      · refine ((hassigns.used s).mp (hall s hs)).imp_right ?_
        rintro ⟨r', hr', hr's⟩
        exact ⟨r', hr', granted_eq_some.mpr ((hfull r' hr').trans hr's)⟩

end Again

/-- The slots of one VM are stable: each claim comes back with the slot it was granted, if any,
and gets the same answer. -/
lemma Fresh.allocateVm_keep (h : Fresh result requests) {full : SlotResult}
    (hfull : ∀ r ∈ requests, full r.uid = allocateVm result requests r.uid) :
    allocateVm result (requests.map (·.keep full)) = allocateVm result requests := by
  obtain ⟨st, hst, hassigns, hanswered⟩ := h.assigns
  rw [hst] at hfull ⊢
  obtain ⟨hcases, hother⟩ := h.keptAgain_cases hassigns hanswered
    fun r hr => hfull r (mem_unpinned.mp hr).1
  rw [allocateVm_map_keep]
  set kept := keptAgain result full requests
  set left := (requests.map (·.keep full)).filter fun r => (kept.result r.uid).isNone with hleft
  -- those who are left were refused before
  have hmem : ∀ uid, uid ∈ left.map (·.uid) ↔
      ∃ r ∈ unpinned requests, r.uid = uid ∧ kept.result uid = none := by
    intro uid
    simp only [hleft, List.mem_map, List.mem_filter, Option.isNone_iff_eq_none]
    constructor
    · rintro ⟨-, ⟨⟨r, hr, rfl⟩, hnone⟩, rfl⟩
      refine ⟨r, ?_, rfl, hnone⟩
      by_contra hr'
      have hsome := @pinned_isSome result requests r hr hr'
      rw [← hother, show kept.result r.uid = none from hnone] at hsome
      · cases hsome
      · intro hmem
        obtain ⟨r', hr'', huid⟩ := List.mem_map.mp hmem
        rw [h.eq_of_uid (mem_unpinned.mp hr'').1 hr huid] at hr''
        exact hr' hr''
    · rintro ⟨r, hr, rfl, hnone⟩
      exact ⟨_, ⟨⟨r, (mem_unpinned.mp hr).1, rfl⟩, hnone⟩, rfl⟩
  have hnew : ∀ uid, (left.foldl newStep kept).result uid =
      if uid ∈ left.map (·.uid) then some (.error allInUse) else kept.result uid := by
    intro uid
    cases hl : left with
    | nil => rfl
    | cons r l =>
        rw [← hl]
        have hr : r.uid ∈ left.map (·.uid) := by simp [hl]
        obtain ⟨r', hr', huid, hnone⟩ := (hmem r.uid).mp hr
        rcases hcases r' hr' with ⟨s, -, hs⟩ | ⟨-, -, hfree⟩
        · rw [huid, hnone] at hs
          cases hs
        · exact foldl_newStep_of_full hfree
  funext uid
  rw [hnew]
  by_cases huid : uid ∈ (unpinned requests).map (·.uid)
  · obtain ⟨r, hr, rfl⟩ := List.mem_map.mp huid
    rcases hcases r hr with ⟨s, hs, hkept⟩ | ⟨he, hkept, -⟩
    · rw [if_neg, hkept, hs]
      rw [hmem]
      rintro ⟨-, -, -, hnone⟩
      rw [hkept] at hnone
      cases hnone
    · rw [if_pos ((hmem _).mpr ⟨r, hr, rfl, hkept⟩), he]
  · have hnot : uid ∉ left.map (·.uid) := by
      rw [hmem]
      rintro ⟨r, hr, heq, -⟩
      exact huid (List.mem_map.mpr ⟨r, hr, heq⟩)
    rw [if_neg hnot, hother uid huid, hassigns.other uid huid]

end Vm

/-! ## All VMs -/

section Vms

variable {requests : List SlotRequest}

/-- The slots of some VMs, on top of what is there. -/
def allocateVms (requests : List SlotRequest) (result : SlotResult)
    (vms : List (String × String)) : SlotResult :=
  vms.foldl (fun result vm => allocateVm result (requests.filter (·.vm = vm))) result

lemma requestedVms_keep (full : SlotResult) (requests : List SlotRequest) :
    requestedVms (requests.map (·.keep full)) = requestedVms requests := by
  unfold requestedVms
  rw [List.map_map]
  rfl

lemma filter_vm_keep (full : SlotResult) (requests : List SlotRequest) (vm : String × String) :
    (requests.map (·.keep full)).filter (·.vm = vm) =
      (requests.filter (·.vm = vm)).map (·.keep full) := by
  rw [List.filter_map]
  rfl

lemma requestedVms_nodup (requests : List SlotRequest) : (requestedVms requests).Nodup := by
  unfold requestedVms sortByKey
  exact (List.perm_insertionSort _ _).nodup_iff.mpr (List.nodup_dedup _)

/-- The requests of the VMs that are still to come are unanswered. -/
def Unanswered (requests : List SlotRequest) (result : SlotResult)
    (vms : List (String × String)) : Prop :=
  ∀ r ∈ requests, r.vm ∈ vms → result r.uid = none

lemma Unanswered.fresh (hnd : (requests.map (·.uid)).Nodup) {result : SlotResult}
    {vm : String × String} {vms : List (String × String)}
    (h : Unanswered requests result (vm :: vms)) :
    Fresh result (requests.filter (·.vm = vm)) where
  nodup := hnd.sublist (List.filter_sublist.map _)
  unanswered r hr := by
    obtain ⟨hr, hvm⟩ := List.mem_filter.mp hr
    exact h r hr (by simp_all)

lemma vm_of_uid (hnd : (requests.map (·.uid)).Nodup) {r : SlotRequest} (hr : r ∈ requests)
    {vm : String × String} (h : r.uid ∈ (requests.filter (·.vm = vm)).map (·.uid)) :
    r.vm = vm := by
  obtain ⟨r', hr', huid⟩ := List.mem_map.mp h
  obtain ⟨hr', hvm⟩ := List.mem_filter.mp hr'
  rw [← List.inj_on_of_nodup_map hnd hr' hr huid]
  simpa using hvm

lemma Unanswered.step (hnd : (requests.map (·.uid)).Nodup) {result : SlotResult}
    {vm : String × String} {vms : List (String × String)} (hvm : vm ∉ vms)
    (h : Unanswered requests result (vm :: vms)) :
    Unanswered requests (allocateVm result (requests.filter (·.vm = vm))) vms := by
  intro r hr hmem
  rw [allocateVm_not_mem]
  · exact h r hr (List.mem_cons_of_mem _ hmem)
  · intro huid
    rw [vm_of_uid hnd hr huid] at hmem
    exact hvm hmem

/-- Nobody is answered but the claims of these VMs. -/
lemma allocateVms_not_mem {vms : List (String × String)} {uid : String}
    (h : ∀ vm ∈ vms, uid ∉ (requests.filter (·.vm = vm)).map (·.uid)) (result : SlotResult) :
    allocateVms requests result vms uid = result uid := by
  induction vms generalizing result with
  | nil => rfl
  | cons vm vms ih =>
      refine (ih (fun vm' hvm' => h vm' (List.mem_cons_of_mem _ hvm')) _).trans ?_
      exact allocateVm_not_mem (h vm List.mem_cons_self)

/-- Later VMs do not touch the answers of others. -/
lemma allocateVms_other (hnd : (requests.map (·.uid)).Nodup) {r : SlotRequest}
    (hr : r ∈ requests) {vms : List (String × String)} (hvm : r.vm ∉ vms) (result : SlotResult) :
    allocateVms requests result vms r.uid = result r.uid := by
  refine allocateVms_not_mem (fun vm hmem huid => hvm ?_) result
  rwa [vm_of_uid hnd hr huid]

lemma allocateVms_keep (hnd : (requests.map (·.uid)).Nodup) {full : SlotResult}
    {vms : List (String × String)} (hvms : vms.Nodup) {result : SlotResult}
    (h : Unanswered requests result vms)
    (hfull : ∀ r ∈ requests, r.vm ∈ vms → full r.uid = allocateVms requests result vms r.uid) :
    allocateVms (requests.map (·.keep full)) result vms = allocateVms requests result vms := by
  induction vms generalizing result with
  | nil => rfl
  | cons vm vms ih =>
      obtain ⟨hnot, hvms⟩ := List.nodup_cons.mp hvms
      have hstep : allocateVm result ((requests.map (·.keep full)).filter (·.vm = vm)) =
          allocateVm result (requests.filter (·.vm = vm)) := by
        rw [filter_vm_keep]
        refine (h.fresh hnd).allocateVm_keep fun r hr => ?_
        obtain ⟨hr, hvm⟩ := List.mem_filter.mp hr
        have hvm : r.vm = vm := by simpa using hvm
        rw [hfull r hr (hvm ▸ List.mem_cons_self)]
        exact allocateVms_other hnd hr (hvm ▸ hnot) _
      unfold allocateVms
      rw [List.foldl_cons, List.foldl_cons, hstep]
      exact ih hvms (h.step hnd hnot) fun r hr hvm => hfull r hr (List.mem_cons_of_mem _ hvm)

end Vms

/-- **Slots stay.**  Claims that ask again with the slots they were just granted are given the
same answers. -/
theorem allocateSlots_keep {requests : List SlotRequest} (hnd : (requests.map (·.uid)).Nodup) :
    allocateSlots (requests.map (·.keep (allocateSlots requests))) = allocateSlots requests := by
  unfold allocateSlots
  rw [requestedVms_keep]
  exact allocateVms_keep hnd (requestedVms_nodup requests) (fun _ _ _ => rfl) fun _ _ _ => rfl

end AtomicUsb
