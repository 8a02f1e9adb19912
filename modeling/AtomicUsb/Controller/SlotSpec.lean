import AtomicUsb.Controller.SlotLaws

/-!
# What each claim gets

`SlotSpec` says which slot every claim of a list gets, without passes: pins go to the oldest claim
that asks, previous slots to the oldest claim that had them, and whoever is left takes the highest
slots in turn.

Each pass is followed by cutting the list of requests at the one in question: nobody else writes
its answer (`Answers.foldl_result_split`), and what it finds in use is what the requests before it
asked for (`Serves.foldl_used`).  A VM's claims never see those of another (`allocateSlots_eq_vm`).
-/

namespace AtomicUsb

open SlotState

/-! ## Steps -/

section Fold

variable {step : SlotState → SlotRequest → SlotState} {st : SlotState} {l : List SlotRequest}
  {r : SlotRequest}

/-- A request is answered in its own turn, whatever comes later. -/
lemma Answers.foldl_result_split (hstep : Answers step) {before after : List SlotRequest}
    (hnd : ((before ++ r :: after).map (·.uid)).Nodup) :
    ((before ++ r :: after).foldl step st).result r.uid =
      (step (before.foldl step st) r).result r.uid := by
  rw [List.map_append, List.map_cons, List.nodup_append] at hnd
  rw [List.foldl_append, List.foldl_cons]
  exact hstep.foldl_result_of_not_mem (List.nodup_cons.mp hnd.2.1).1

/-- A slot that came into use was granted to somebody. -/
lemma Answers.foldl_used (hstep : Answers step) (hnd : (l.map (·.uid)).Nodup) {s : ℤ}
    (hs : ((l.foldl step st).used s).isSome = true) :
    (st.used s).isSome = true ∨ ∃ r ∈ l, (l.foldl step st).result r.uid = some (.ok s) := by
  induction l generalizing st with
  | nil => exact Or.inl hs
  | cons r l ih =>
      obtain ⟨hr, hnd⟩ := List.nodup_cons.mp hnd
      rw [List.foldl_cons] at hs ⊢
      rcases ih hnd hs with hs | ⟨r', hr', hs⟩
      · rcases hstep st r with heq | ⟨slot, -, -, heq⟩ | ⟨e, heq⟩
        · exact Or.inl (heq ▸ hs)
        · rw [heq, grant_used] at hs
          rcases hs with rfl | hs
          · refine Or.inr ⟨r, List.mem_cons_self, ?_⟩
            rw [hstep.foldl_result_of_not_mem hr, heq, grant_result_self]
          · exact Or.inl hs
        · rw [heq] at hs
          exact Or.inl hs
      · exact Or.inr ⟨r', List.mem_cons_of_mem _ hr', hs⟩

/-- A step that gives its request the slot it wants, if that is a slot and free. -/
def Serves (wants : SlotRequest → Option ℤ) (step : SlotState → SlotRequest → SlotState) : Prop :=
  ∀ st r s, ((step st r).used s).isSome = true ↔
    (st.used s).isSome = true ∨ (inRange s = true ∧ wants r = some s)

/-- After such steps those slots are in use that were or that somebody wanted. -/
lemma Serves.foldl_used {wants : SlotRequest → Option ℤ} (hstep : Serves wants step) (s : ℤ) :
    ((l.foldl step st).used s).isSome = true ↔
      (st.used s).isSome = true ∨ (inRange s = true ∧ ∃ r ∈ l, wants r = some s) := by
  induction l generalizing st with
  | nil => simp
  | cons r l ih =>
      rw [List.foldl_cons, ih, hstep]
      simp only [List.exists_mem_cons_iff]
      tauto

end Fold

lemma pinStep_serves : Serves SlotRequest.pinned pinStep := by
  intro st r s
  unfold pinStep
  split
  · rename_i hnone
    simp [hnone]
  · rename_i slot hslot
    rw [hslot, Option.some.injEq]
    split_ifs with hrange
    · refine (or_iff_left ?_).symm
      rintro ⟨hs, rfl⟩
      rw [hs] at hrange
      cases hrange
    · split
      · rename_i owner howner
        refine (or_iff_left_of_imp ?_).symm
        rintro ⟨-, rfl⟩
        exact Option.isSome_iff_exists.mpr ⟨owner, howner⟩
      · have hslot : inRange slot = true := by simpa using hrange
        rw [grant_used]
        constructor
        · rintro (rfl | hs)
          · exact Or.inr ⟨hslot, rfl⟩
          · exact Or.inl hs
        · rintro (hs | ⟨-, rfl⟩)
          · exact Or.inr hs
          · exact Or.inl rfl

lemma keepStep_serves : Serves SlotRequest.previous keepStep := by
  intro st r s
  unfold keepStep
  split
  · rename_i slot hslot
    obtain ⟨hprevious, hfree⟩ := Option.filter_eq_some_iff.mp hslot
    rw [Bool.and_eq_true] at hfree
    rw [grant_used, hprevious, Option.some.injEq]
    constructor
    · rintro (rfl | hs)
      · exact Or.inr ⟨hfree.1, rfl⟩
      · exact Or.inl hs
    · rintro (hs | ⟨-, rfl⟩)
      · exact Or.inr hs
      · exact Or.inl rfl
  · rename_i hnone
    refine (or_iff_left_of_imp ?_).symm
    rintro ⟨hrange, hprevious⟩
    rw [Option.filter_eq_none_iff] at hnone
    simpa [hrange, Option.isSome_iff_ne_none] using hnone s hprevious

/-! ## The first pass -/

section Vm

variable {result : SlotResult} {requests before after : List SlotRequest} {r : SlotRequest} {s : ℤ}

lemma pinned_used : ((pinned result requests).used s).isSome = true ↔
    inRange s = true ∧ ∃ r ∈ requests, r.pinned = some s := by
  unfold pinned
  rw [pinStep_serves.foldl_used]
  simp

/-- A pinned slot goes to the first claim that asks for it. -/
lemma pinned_result (hnd : ((before ++ r :: after).map (·.uid)).Nodup) (hr : r.pinned = some s) :
    ((pinned result (before ++ r :: after)).result r.uid = some (.ok s) ∧
        inRange s = true ∧ ∀ r' ∈ before, r'.pinned ≠ some s) ∨
      ((∃ e, (pinned result (before ++ r :: after)).result r.uid = some (.error e)) ∧
        ¬ (inRange s = true ∧ ∀ r' ∈ before, r'.pinned ≠ some s)) := by
  have hused := @pinned_used result before s
  unfold pinned at hused ⊢
  rw [pinStep_answers.foldl_result_split hnd, pinStep, hr]
  dsimp only
  split_ifs with hrange
  · right
    refine ⟨⟨_, refuse_result_self⟩, fun h => ?_⟩
    rw [h.1] at hrange
    cases hrange
  · have hrange : inRange s = true := by simpa using hrange
    split
    · rename_i owner howner
      rw [howner] at hused
      obtain ⟨-, r', hr', hpin⟩ := hused.mp rfl
      exact Or.inr ⟨⟨_, refuse_result_self⟩, fun h => h.2 r' hr' hpin⟩
    · rename_i hfree
      rw [hfree] at hused
      refine Or.inl ⟨grant_result_self, hrange, fun r' hr' hpin => ?_⟩
      exact Bool.false_ne_true (hused.mpr ⟨hrange, r', hr', hpin⟩)

lemma Fresh.pinned_ok (h : Fresh result requests) (hr : r ∈ requests)
    (hs : (pinned result requests).result r.uid = some (.ok s)) :
    r.pinned = some s ∧ inRange s = true := by
  cases hpin : r.pinned with
  | none =>
      rw [h.pinned_none (mem_unpinned.mpr ⟨hr, hpin⟩)] at hs
      cases hs
  | some slot =>
      obtain ⟨before, after, rfl⟩ := List.append_of_mem hr
      rcases pinned_result h.nodup hpin with ⟨hok, hrange, -⟩ | ⟨⟨e, he⟩, -⟩
      · rw [hok, Option.some.injEq, Except.ok.injEq] at hs
        exact ⟨congrArg some hs, hs ▸ hrange⟩
      · rw [he] at hs
        cases hs

/-- Of two different requests one comes first. -/
lemma before_or_before {r' : SlotRequest} (hr : r ∈ requests) (hr' : r' ∈ requests)
    (hne : r ≠ r') :
    (∃ before after, requests = before ++ r :: after ∧ r' ∈ before) ∨
      ∃ before after, requests = before ++ r' :: after ∧ r ∈ before := by
  obtain ⟨before, after, rfl⟩ := List.append_of_mem hr
  rcases List.mem_append.mp hr' with hbefore | hafter
  · exact Or.inl ⟨before, after, rfl, hbefore⟩
  · obtain ⟨mid, rest, rfl⟩ := List.append_of_mem
      ((List.mem_cons.mp hafter).resolve_left fun heq => hne heq.symm)
    exact Or.inr ⟨before ++ r :: mid, rest, by simp, by simp⟩

lemma Fresh.pinned_distinct (h : Fresh result requests) {r' : SlotRequest} (hr : r ∈ requests)
    (hr' : r' ∈ requests) (hs : (pinned result requests).result r.uid = some (.ok s))
    (hs' : (pinned result requests).result r'.uid = some (.ok s)) : r = r' := by
  obtain ⟨hpin, -⟩ := h.pinned_ok hr hs
  obtain ⟨hpin', -⟩ := h.pinned_ok hr' hs'
  by_contra hne
  -- the later of the two was refused
  rcases before_or_before hr hr' hne with ⟨before, after, rfl, hmem⟩ | ⟨before, after, rfl, hmem⟩
  · rcases pinned_result h.nodup hpin with ⟨-, -, hfirst⟩ | ⟨⟨e, he⟩, -⟩
    · exact hfirst r' hmem hpin'
    · rw [he] at hs
      cases hs
  · rcases pinned_result h.nodup hpin' with ⟨-, -, hfirst⟩ | ⟨⟨e, he⟩, -⟩
    · exact hfirst r hmem hpin
    · rw [he] at hs'
      cases hs'

/-! ## The second pass -/

lemma kept_used : ((kept result requests).used s).isSome = true ↔
    inRange s = true ∧
      ((∃ r ∈ requests, r.pinned = some s) ∨ ∃ r ∈ unpinned requests, r.previous = some s) := by
  unfold kept
  rw [keepStep_serves.foldl_used, pinned_used, and_or_left]

lemma unpinned_split (hr : r.pinned = none) :
    unpinned (before ++ r :: after) = unpinned before ++ r :: unpinned after := by
  simp [unpinned, hr]

/-- The slot is one that nobody pins and that none of the claims `before` had. -/
def MayKeep (requests before : List SlotRequest) (s : ℤ) : Prop :=
  inRange s = true ∧ (∀ r ∈ requests, r.pinned ≠ some s) ∧
    ∀ r ∈ before, r.pinned = none → r.previous ≠ some s

/-- What is in use when the turn of a claim comes in the second pass. -/
lemma foldl_keepStep_free (hs : inRange s = true) :
    ((unpinned before).foldl keepStep (pinned result requests)).used s = none ↔
      MayKeep requests before s := by
  rw [← Option.not_isSome_iff_eq_none, keepStep_serves.foldl_used, pinned_used]
  simp only [hs, true_and, not_or, not_exists, not_and, MayKeep, mem_unpinned, and_imp, ne_eq]

/-- A claim without a pin keeps its slot if it may. -/
lemma Fresh.kept_result (h : Fresh result requests) (hsplit : requests = before ++ r :: after)
    (hr : r.pinned = none) :
    (∃ s, r.previous = some s ∧ MayKeep requests before s ∧
      (kept result requests).result r.uid = some (.ok s)) ∨
    ((∀ s, r.previous = some s → ¬ MayKeep requests before s) ∧
      (kept result requests).result r.uid = none) := by
  have hmem : r ∈ unpinned requests := mem_unpinned.mpr ⟨by simp [hsplit], hr⟩
  have hlist : unpinned requests = unpinned before ++ r :: unpinned after := by
    rw [hsplit, unpinned_split hr]
  have hnd := h.unpinned_nodup
  rw [hlist] at hnd
  have hturn : (kept result requests).result r.uid =
      (keepStep ((unpinned before).foldl keepStep (pinned result requests)) r).result r.uid := by
    rw [kept, hlist, keepStep_answers.foldl_result_split hnd]
  rw [hturn, keepStep]
  split
  · rename_i s hs
    obtain ⟨hprevious, hfree⟩ := Option.filter_eq_some_iff.mp hs
    rw [Bool.and_eq_true, Option.isNone_iff_eq_none] at hfree
    exact Or.inl ⟨s, hprevious, (foldl_keepStep_free hfree.1).mp hfree.2, grant_result_self⟩
  · rename_i hnone
    refine Or.inr ⟨fun s hprevious hmay => ?_, ?_⟩
    · have hfree := (@foldl_keepStep_free result requests before s hmay.1).mpr hmay
      have hno := Option.filter_eq_none_iff.mp hnone s hprevious
      rw [hmay.1, hfree] at hno
      exact hno rfl
    · rw [keepStep_answers.foldl_result_of_not_mem]
      · exact h.pinned_none hmem
      · rw [List.map_append, List.map_cons, List.nodup_append] at hnd
        exact fun hbefore => hnd.2.2 r.uid hbefore r.uid List.mem_cons_self rfl

/-! ## The third pass -/

/-- The slots nobody uses, highest first. -/
def freeSlots (st : SlotState) : List ℤ :=
  ([3, 2, 1, 0] : List ℤ).filter fun s => (st.used s).isNone

lemma mem_freeSlots {st : SlotState} : s ∈ freeSlots st ↔ inRange s = true ∧ st.used s = none := by
  rw [freeSlots, List.mem_filter, mem_slots, Option.isNone_iff_eq_none]

lemma highestFree_eq_head? (st : SlotState) : st.highestFree = (freeSlots st).head? :=
  (List.head?_filter ..).symm

lemma freeSlots_grant {st : SlotState} {free : List ℤ} (h : freeSlots st = s :: free)
    (r : SlotRequest) : freeSlots (st.grant r s) = free := by
  have hnd : (s :: free).Nodup := h ▸ (by decide : ([3, 2, 1, 0] : List ℤ).Nodup).filter _
  -- granting takes one slot out of the list
  have hgrant : freeSlots (st.grant r s) = (freeSlots st).filter (· ≠ s) := by
    unfold freeSlots
    rw [List.filter_filter]
    refine List.filter_congr fun x _ => ?_
    by_cases hx : x = s
    · simp [hx, SlotState.grant]
    · simp [hx, SlotState.grant]
  rw [hgrant, h, List.filter_cons_of_neg (by simp), List.filter_eq_self]
  intro x hx
  have hne : x ≠ s := fun heq => (List.nodup_cons.mp hnd).1 (heq ▸ hx)
  simpa using hne

/-- What a claim is told in the third pass. -/
def answer : Option ℤ → Except String ℤ
  | some s => .ok s
  | none => .error allInUse

lemma newStep_eq (st : SlotState) (r : SlotRequest) :
    (newStep st r).result r.uid = some (answer (freeSlots st).head?) ∧
      freeSlots (newStep st r) = (freeSlots st).tail := by
  unfold newStep
  rw [highestFree_eq_head?]
  cases hfree : freeSlots st with
  | nil => exact ⟨refuse_result_self, hfree⟩
  | cons s free => exact ⟨grant_result_self, freeSlots_grant hfree r⟩

/-- The claims that are left take the free slots in turn. -/
lemma foldl_newStep_result {l : List SlotRequest} {st : SlotState}
    (hnd : (l.map (·.uid)).Nodup) {i : ℕ} (hi : l[i]? = some r) :
    (l.foldl newStep st).result r.uid = some (answer (freeSlots st)[i]?) := by
  induction l generalizing st i with
  | nil => simp at hi
  | cons r' l ih =>
      obtain ⟨hr', hnd⟩ := List.nodup_cons.mp hnd
      obtain ⟨hresult, hfree⟩ := newStep_eq st r'
      cases i with
      | zero =>
          obtain rfl : r' = r := by simpa using hi
          rw [List.foldl_cons, newStep_answers.foldl_result_of_not_mem hr', hresult,
            List.head?_eq_getElem?]
      | succ i =>
          rw [List.foldl_cons, ih hnd (by simpa using hi), hfree, List.getElem?_tail]

/-- The third pass leaves the answers of the first two alone. -/
lemma allocateVm_of_kept {x : Except String ℤ}
    (hx : (kept result requests).result r.uid = some x) :
    allocateVm result requests r.uid = some x := by
  rw [allocateVm_eq, newStep_answers.foldl_result_of_not_mem, hx]
  intro hmem
  obtain ⟨r', hr', huid⟩ := List.mem_map.mp hmem
  rw [← huid, (mem_left.mp hr').2] at hx
  cases hx

lemma Fresh.allocateVm_of_pinned (h : Fresh result requests) (hr : r ∈ requests)
    (hpin : r.pinned ≠ none) :
    allocateVm result requests r.uid = (pinned result requests).result r.uid := by
  obtain ⟨x, hx⟩ := Option.isSome_iff_exists.mp (@pinned_isSome result requests r hr
    fun hr' => hpin (mem_unpinned.mp hr').2)
  rw [hx]
  exact allocateVm_of_kept ((h.kept_of_pinned hr hpin).trans hx)

/-- Once the first two passes are over, slots are in use that they granted. -/
lemma Fresh.kept_used_iff (h : Fresh result requests) :
    ((kept result requests).used s).isSome = true ↔
      ∃ r ∈ requests, (kept result requests).result r.uid = some (.ok s) := by
  constructor
  · intro hs
    rcases keepStep_answers.foldl_used h.unpinned_nodup hs with hs | ⟨r, hr, hs⟩
    · rcases pinStep_answers.foldl_used h.nodup hs with hs | ⟨r, hr, hs⟩
      · cases hs
      · have hpin : r.pinned ≠ none := by simp [(h.pinned_ok hr hs).1]
        exact ⟨r, hr, (h.kept_of_pinned hr hpin).trans hs⟩
    · exact ⟨r, (mem_unpinned.mp hr).1, hs⟩
  · rintro ⟨r, hr, hs⟩
    rw [kept_used]
    by_cases hpin : r.pinned = none
    · obtain ⟨before, after, hsplit⟩ := List.append_of_mem hr
      rcases h.kept_result hsplit hpin with ⟨slot, hprevious, hmay, hok⟩ | ⟨-, hnone⟩
      · rw [hok, Option.some.injEq, Except.ok.injEq] at hs
        subst hs
        exact ⟨hmay.1, Or.inr ⟨r, mem_unpinned.mpr ⟨hr, hpin⟩, hprevious⟩⟩
      · rw [hnone] at hs
        cases hs
    · rw [h.kept_of_pinned hr hpin] at hs
      obtain ⟨hpin, hrange⟩ := h.pinned_ok hr hs
      exact ⟨hrange, Or.inl ⟨r, hr, hpin⟩⟩

end Vm

/-! ## One VM -/

/-- The claim has a pin, or the slot it had before. -/
def SlotRequest.settled (result : SlotResult) (r : SlotRequest) : Bool :=
  r.pinned.isSome || r.previous.any fun s => granted result r.uid = some s

/-- The slots that neither pins nor claims that keep theirs take, highest first. -/
def slotsLeft (requests : List SlotRequest) (result : SlotResult) : List ℤ :=
  ([3, 2, 1, 0] : List ℤ).filter fun s =>
    !requests.any fun r => r.settled result && granted result r.uid = some s

/-- What the claims of one VM get, oldest first. -/
structure SlotSpec (requests : List SlotRequest) (result : SlotResult) : Prop where
  /-- Only slots that exist are granted. -/
  slots : ∀ r ∈ requests, ∀ s, result r.uid = some (.ok s) → 0 ≤ s ∧ s < 4
  /-- No slot is granted twice. -/
  exclusive : ∀ r ∈ requests, ∀ r' ∈ requests, ∀ s, result r.uid = some (.ok s) →
    result r'.uid = some (.ok s) → r = r'
  /-- A pin is honoured if it names a slot that no older claim pins, and refused otherwise. -/
  pinned : ∀ before r after, requests = before ++ r :: after → ∀ s, r.pinned = some s →
    (result r.uid = some (.ok s) ↔ inRange s = true ∧ ∀ r' ∈ before, r'.pinned ≠ some s) ∧
      (result r.uid = some (.ok s) ∨ ∃ e, result r.uid = some (.error e))
  /-- A claim without a pin keeps its slot if nobody pins it and no older one had it. -/
  kept : ∀ before r after, requests = before ++ r :: after → r.pinned = none →
    ∀ s, r.previous = some s →
      (result r.uid = some (.ok s) ↔ inRange s = true ∧ (∀ r' ∈ requests, r'.pinned ≠ some s) ∧
        ∀ r' ∈ before, r'.pinned = none → r'.previous ≠ some s)
  /-- The others take the slots that are left, in turn. -/
  others : ∀ (i : ℕ) (r : SlotRequest), (requests.filter fun r => !r.settled result)[i]? = some r →
    result r.uid = some (answer (slotsLeft requests result)[i]?)
  /-- A claim without a pin is refused only when all slots are granted to others. -/
  refused : ∀ r ∈ requests, r.pinned = none → ∀ e, result r.uid = some (.error e) →
    ∀ s, 0 ≤ s → s < 4 → ∃ r' ∈ requests, r' ≠ r ∧ result r'.uid = some (.ok s)

section VmSpec

variable {result : SlotResult} {requests : List SlotRequest} {r : SlotRequest} {s : ℤ}

lemma inRange_iff : inRange s = true ↔ 0 ≤ s ∧ s < 4 := by
  rw [inRange, Bool.and_eq_true, decide_eq_true_eq, decide_eq_true_eq]
  rfl

/-- What the third pass gives a claim, it was not keeping. -/
lemma Fresh.allocateVm_of_left (h : Fresh result requests) {i : ℕ}
    (hi : (left result requests)[i]? = some r) :
    allocateVm result requests r.uid =
      some (answer (freeSlots (AtomicUsb.kept result requests))[i]?) := by
  have hnd : ((left result requests).map (·.uid)).Nodup :=
    h.nodup.sublist (List.filter_sublist.map _)
  exact foldl_newStep_result hnd hi

lemma Fresh.previous_of_left (h : Fresh result requests) (hr : r ∈ left result requests)
    (hpin : r.pinned = none) (hs : allocateVm result requests r.uid = some (.ok s)) :
    r.previous ≠ some s := by
  intro hprevious
  obtain ⟨i, hi⟩ := List.mem_iff_getElem?.mp hr
  rw [h.allocateVm_of_left hi] at hs
  cases hfree : (freeSlots (AtomicUsb.kept result requests))[i]? with
  | none =>
      rw [hfree] at hs
      cases hs
  | some slot =>
      obtain rfl : slot = s := by simpa [hfree, answer] using hs
      obtain ⟨hrange, hunused⟩ := mem_freeSlots.mp (List.mem_of_getElem? hfree)
      have hused := (@kept_used result requests slot).mpr
        ⟨hrange, Or.inr ⟨r, mem_unpinned.mpr ⟨(mem_left.mp hr).1, hpin⟩, hprevious⟩⟩
      rw [hunused] at hused
      cases hused

/-- The claims the third pass is for are those that are not settled. -/
lemma Fresh.settled_iff (h : Fresh result requests) (hr : r ∈ requests) :
    r.settled (allocateVm result requests) = true ↔
      (AtomicUsb.kept result requests).result r.uid ≠ none := by
  by_cases hpin : r.pinned = none
  · obtain ⟨before, after, hsplit⟩ := List.append_of_mem hr
    rcases h.kept_result hsplit hpin with ⟨s, hprevious, -, hok⟩ | ⟨-, hnone⟩
    · have hs := granted_eq_some.mpr (allocateVm_of_kept hok)
      simp [SlotRequest.settled, hprevious, hs, hok]
    · have hmem : r ∈ left result requests := mem_left.mpr ⟨hr, hnone⟩
      have hnot : r.settled (allocateVm result requests) ≠ true := by
        intro hsettled
        rw [SlotRequest.settled, hpin] at hsettled
        obtain ⟨s, hprevious, hs⟩ := (Option.any_eq_true _ _).mp hsettled
        exact h.previous_of_left hmem hpin (granted_eq_some.mp (of_decide_eq_true hs)) hprevious
      simp [hnot, hnone]
  · have hsome := @pinned_isSome result requests r hr fun hr' => hpin (mem_unpinned.mp hr').2
    rw [h.kept_of_pinned hr hpin, ← Option.isSome_iff_ne_none, hsome]
    simp [SlotRequest.settled, Option.isSome_iff_ne_none.mpr hpin]

lemma Fresh.left_eq (h : Fresh result requests) :
    left result requests = requests.filter fun r => !r.settled (allocateVm result requests) := by
  refine List.filter_congr fun r hr => ?_
  rw [Bool.eq_iff_iff, Option.isNone_iff_eq_none, Bool.not_eq_true', ← Bool.not_eq_true,
    h.settled_iff hr, not_not]

lemma Fresh.slotsLeft_eq (h : Fresh result requests) :
    slotsLeft requests (allocateVm result requests) =
      freeSlots (AtomicUsb.kept result requests) := by
  refine List.filter_congr fun s hs => ?_
  rw [Bool.eq_iff_iff, Option.isNone_iff_eq_none, ← Option.not_isSome_iff_eq_none,
    h.kept_used_iff, Bool.not_eq_true', ← Bool.not_eq_true, List.any_eq_true]
  refine not_congr (exists_congr fun r => and_congr_right fun hr => ?_)
  rw [Bool.and_eq_true, h.settled_iff hr, decide_eq_true_eq, granted_eq_some]
  constructor
  · rintro ⟨hsettled, hs⟩
    obtain ⟨x, hx⟩ := Option.ne_none_iff_exists'.mp hsettled
    rw [hx, ← allocateVm_of_kept hx, hs]
  · intro hs
    exact ⟨by simp [hs], allocateVm_of_kept hs⟩

lemma Fresh.allocateVm_isSome (h : Fresh result requests) (hr : r ∈ requests) :
    (allocateVm result requests r.uid).isSome = true := by
  cases hkept : (AtomicUsb.kept result requests).result r.uid with
  | none =>
      obtain ⟨i, hi⟩ := List.mem_iff_getElem?.mp (mem_left.mpr ⟨hr, hkept⟩)
      rw [h.allocateVm_of_left hi]
      rfl
  | some x =>
      rw [allocateVm_of_kept hkept]
      rfl

/-- A claim without a pin is granted a slot that no pin took. -/
lemma Fresh.ok_of_unpinned (h : Fresh result requests) (hr : r ∈ requests) (hpin : r.pinned = none)
    (hs : allocateVm result requests r.uid = some (.ok s)) :
    inRange s = true ∧ (AtomicUsb.pinned result requests).used s = none := by
  obtain ⟨st, hst, hassigns, -⟩ := h.assigns
  exact hassigns.free r (mem_unpinned.mpr ⟨hr, hpin⟩) s (hst ▸ hs)

lemma Fresh.ok_of_pinned (h : Fresh result requests) (hr : r ∈ requests) (hpin : r.pinned ≠ none)
    (hs : allocateVm result requests r.uid = some (.ok s)) :
    (AtomicUsb.pinned result requests).result r.uid = some (.ok s) ∧ inRange s = true ∧
      ((AtomicUsb.pinned result requests).used s).isSome = true := by
  rw [h.allocateVm_of_pinned hr hpin] at hs
  obtain ⟨hslot, hrange⟩ := h.pinned_ok hr hs
  exact ⟨hs, hrange, pinned_used.mpr ⟨hrange, r, hr, hslot⟩⟩

lemma Fresh.allocateVm_exclusive (h : Fresh result requests) {r' : SlotRequest}
    (hr : r ∈ requests) (hr' : r' ∈ requests)
    (hs : allocateVm result requests r.uid = some (.ok s))
    (hs' : allocateVm result requests r'.uid = some (.ok s)) : r = r' := by
  by_cases hpin : r.pinned = none <;> by_cases hpin' : r'.pinned = none
  · obtain ⟨st, hst, hassigns, -⟩ := h.assigns
    rw [hst] at hs hs'
    exact h.eq_of_uid hr hr' (hassigns.distinct r (mem_unpinned.mpr ⟨hr, hpin⟩) r'
      (mem_unpinned.mpr ⟨hr', hpin'⟩) s hs hs')
  · have hused := (h.ok_of_pinned hr' hpin' hs').2.2
    rw [(h.ok_of_unpinned hr hpin hs).2] at hused
    cases hused
  · have hused := (h.ok_of_pinned hr hpin hs).2.2
    rw [(h.ok_of_unpinned hr' hpin' hs').2] at hused
    cases hused
  · exact h.pinned_distinct hr hr' (h.ok_of_pinned hr hpin hs).1 (h.ok_of_pinned hr' hpin' hs').1

/-- When a claim without a pin is refused, every slot has been granted. -/
lemma Fresh.allocateVm_refused (h : Fresh result requests) (hr : r ∈ requests)
    (hpin : r.pinned = none) {e : String} (he : allocateVm result requests r.uid = some (.error e))
    (hrange : inRange s = true) :
    ∃ r' ∈ requests, allocateVm result requests r'.uid = some (.ok s) := by
  obtain ⟨st, hst, hassigns, -⟩ := h.assigns
  obtain ⟨-, hall⟩ := hassigns.refused r (mem_unpinned.mpr ⟨hr, hpin⟩) e (hst ▸ he)
  rcases (hassigns.used s).mp (hall s hrange) with hused | ⟨r', hr', hs⟩
  · rcases pinStep_answers.foldl_used h.nodup hused with hs | ⟨r', hr', hs⟩
    · cases hs
    · have hpin' : r'.pinned ≠ none := by simp [(h.pinned_ok hr' hs).1]
      exact ⟨r', hr', (h.allocateVm_of_pinned hr' hpin').trans hs⟩
  · exact ⟨r', (mem_unpinned.mp hr').1, hst ▸ hs⟩

/-- What the three passes over the claims of one VM amount to. -/
lemma Fresh.allocateVm_spec (h : Fresh result requests) :
    SlotSpec requests (allocateVm result requests) where
  slots r hr s hs := by
    rw [← inRange_iff]
    by_cases hpin : r.pinned = none
    · exact (h.ok_of_unpinned hr hpin hs).1
    · exact (h.ok_of_pinned hr hpin hs).2.1
  exclusive r hr r' hr' s hs hs' := h.allocateVm_exclusive hr hr' hs hs'
  pinned before r after hsplit s hs := by
    rw [h.allocateVm_of_pinned (by simp [hsplit]) (by simp [hs])]
    subst hsplit
    rcases pinned_result h.nodup hs with ⟨hok, hfirst⟩ | ⟨⟨e, he⟩, hnot⟩
    · exact ⟨iff_of_true hok hfirst, Or.inl hok⟩
    · exact ⟨iff_of_false (by simp [he]) hnot, Or.inr ⟨e, he⟩⟩
  kept before r after hsplit hpin s hprevious := by
    have hr : r ∈ requests := by simp [hsplit]
    rcases h.kept_result hsplit hpin with ⟨slot, hslot, hmay, hok⟩ | ⟨hmay, hnone⟩
    · obtain rfl : slot = s := by simpa [hslot] using hprevious
      exact iff_of_true (allocateVm_of_kept hok) hmay
    · refine iff_of_false (fun hs => ?_) (hmay s hprevious)
      exact h.previous_of_left (mem_left.mpr ⟨hr, hnone⟩) hpin hs hprevious
  others i r hi := by
    rw [h.slotsLeft_eq]
    exact h.allocateVm_of_left (h.left_eq ▸ hi)
  refused r hr hpin e he s hlow hhigh := by
    obtain ⟨r', hr', hs⟩ := h.allocateVm_refused hr hpin he (inRange_iff.mpr ⟨hlow, hhigh⟩)
    refine ⟨r', hr', ?_, hs⟩
    rintro rfl
    rw [he] at hs
    cases hs

/-- The answers to other claims do not matter. -/
lemma SlotSpec.congr (h : SlotSpec requests result) {result' : SlotResult}
    (heq : ∀ r ∈ requests, result' r.uid = result r.uid) : SlotSpec requests result' := by
  have hgranted : ∀ r ∈ requests, granted result' r.uid = granted result r.uid := fun r hr => by
    simp only [granted, heq r hr]
  have hsettled : ∀ r ∈ requests, r.settled result' = r.settled result := fun r hr => by
    simp only [SlotRequest.settled, hgranted r hr]
  have hothers : (requests.filter fun r => !r.settled result') =
      requests.filter fun r => !r.settled result :=
    List.filter_congr fun r hr => by rw [hsettled r hr]
  have hleft : slotsLeft requests result' = slotsLeft requests result := by
    refine List.filter_congr fun s _ => congrArg (!·) ?_
    rw [Bool.eq_iff_iff, List.any_eq_true, List.any_eq_true]
    refine exists_congr fun r => and_congr_right fun hr => ?_
    rw [hsettled r hr, hgranted r hr]
  constructor
  · intro r hr
    rw [heq r hr]
    exact h.slots r hr
  · intro r hr r' hr'
    rw [heq r hr, heq r' hr']
    exact h.exclusive r hr r' hr'
  · intro before r after hsplit
    rw [heq r (by simp [hsplit])]
    exact h.pinned before r after hsplit
  · intro before r after hsplit
    rw [heq r (by simp [hsplit])]
    exact h.kept before r after hsplit
  · intro i r hi
    rw [hothers] at hi
    rw [hleft, heq r (List.mem_of_mem_filter (List.mem_of_getElem? hi))]
    exact h.others i r hi
  · intro r hr hpin e he s hlow hhigh
    rw [heq r hr] at he
    obtain ⟨r', hr', hne, hs⟩ := h.refused r hr hpin e he s hlow hhigh
    exact ⟨r', hr', hne, (heq r' hr').trans hs⟩

end VmSpec

/-! ## VM by VM -/

/-- Two states that use the same slots and have given the same answers to these claims. -/
def Agree (uids : List String) (st st' : SlotState) : Prop :=
  st.used = st'.used ∧ ∀ uid ∈ uids, st.result uid = st'.result uid

section Agreement

variable {uids : List String} {st st' : SlotState}

lemma Agree.grant (h : Agree uids st st') (r : SlotRequest) (s : ℤ) :
    Agree uids (st.grant r s) (st'.grant r s) := by
  refine ⟨by simp [SlotState.grant, h.1], fun uid huid => ?_⟩
  by_cases heq : uid = r.uid
  · rw [heq, grant_result_self, grant_result_self]
  · rw [grant_result_of_ne heq, grant_result_of_ne heq, h.2 uid huid]

lemma Agree.refuse (h : Agree uids st st') (r : SlotRequest) (e : String) :
    Agree uids (st.refuse r e) (st'.refuse r e) := by
  refine ⟨h.1, fun uid huid => ?_⟩
  by_cases heq : uid = r.uid
  · rw [heq, refuse_result_self, refuse_result_self]
  · rw [refuse_result_of_ne heq, refuse_result_of_ne heq, h.2 uid huid]

lemma Agree.pinStep (h : Agree uids st st') (r : SlotRequest) :
    Agree uids (pinStep st r) (pinStep st' r) := by
  unfold AtomicUsb.pinStep
  rw [h.1]
  split
  · exact h
  · split_ifs
    · exact h.refuse r _
    · split
      · exact h.refuse r _
      · exact h.grant r _

lemma Agree.keepStep (h : Agree uids st st') (r : SlotRequest) :
    Agree uids (keepStep st r) (keepStep st' r) := by
  unfold AtomicUsb.keepStep
  rw [h.1]
  split
  · exact h.grant r _
  · exact h

lemma Agree.newStep (h : Agree uids st st') (r : SlotRequest) :
    Agree uids (newStep st r) (newStep st' r) := by
  unfold AtomicUsb.newStep SlotState.highestFree
  rw [h.1]
  split
  · exact h.grant r _
  · exact h.refuse r _

lemma Agree.foldl {step : SlotState → SlotRequest → SlotState}
    (hstep : ∀ {st st' : SlotState}, Agree uids st st' → ∀ r, Agree uids (step st r) (step st' r))
    (h : Agree uids st st') (l : List SlotRequest) :
    Agree uids (l.foldl step st) (l.foldl step st') := by
  induction l generalizing st st' with
  | nil => exact h
  | cons r l ih => exact ih (hstep h r)

end Agreement

/-- The answers a VM's claims get do not depend on those given before to others. -/
lemma allocateVm_congr {result result' : SlotResult} {requests : List SlotRequest}
    (h : ∀ r ∈ requests, result r.uid = result' r.uid) :
    ∀ r ∈ requests, allocateVm result requests r.uid = allocateVm result' requests r.uid := by
  have hstart : Agree (requests.map (·.uid)) ⟨fun _ => none, result⟩ ⟨fun _ => none, result'⟩ :=
    ⟨rfl, by simpa using h⟩
  have hkept : Agree (requests.map (·.uid)) (kept result requests) (kept result' requests) :=
    (hstart.foldl Agree.pinStep requests).foldl Agree.keepStep (unpinned requests)
  have hleft : left result requests = left result' requests :=
    List.filter_congr fun r hr => by rw [hkept.2 r.uid (List.mem_map_of_mem hr)]
  intro r hr
  rw [allocateVm_eq, allocateVm_eq, hleft]
  exact (hkept.foldl Agree.newStep _).2 r.uid (List.mem_map_of_mem hr)

section Vms

variable {requests : List SlotRequest}

lemma Unanswered.foldl (hnd : (requests.map (·.uid)).Nodup) {result : SlotResult}
    {vms later : List (String × String)} (hvms : (vms ++ later).Nodup)
    (h : Unanswered requests result (vms ++ later)) :
    Unanswered requests (allocateVms requests result vms) later := by
  induction vms generalizing result with
  | nil => exact h
  | cons vm vms ih =>
      obtain ⟨hnot, hvms⟩ := List.nodup_cons.mp hvms
      exact ih hvms (h.step hnd hnot)

lemma mem_requestedVms {vm : String × String} :
    vm ∈ requestedVms requests ↔ ∃ r ∈ requests, r.vm = vm := by
  rw [requestedVms, mem_sortByKey, List.mem_dedup, List.mem_map]

/-- A claim gets what it would get if its VM were the only one. -/
lemma allocateSlots_eq_vm (hnd : (requests.map (·.uid)).Nodup) {r : SlotRequest}
    (hr : r ∈ requests) :
    allocateSlots requests r.uid =
      allocateVm (fun _ => none) (requests.filter (·.vm = r.vm)) r.uid := by
  have hvms := requestedVms_nodup requests
  obtain ⟨earlier, later, hsplit⟩ := List.append_of_mem (mem_requestedVms.mpr ⟨r, hr, rfl⟩)
  have hmine : r ∈ requests.filter (·.vm = r.vm) := List.mem_filter.mpr ⟨hr, by simp⟩
  rw [hsplit] at hvms
  have hstart : Unanswered requests (fun _ => none) (earlier ++ r.vm :: later) := fun _ _ _ => rfl
  have hturn := hstart.foldl hnd hvms
  have hnot : r.vm ∉ later := (List.nodup_cons.mp (List.nodup_append.mp hvms).2.1).1
  calc allocateSlots requests r.uid
      = allocateVms requests (fun _ => none) (earlier ++ r.vm :: later) r.uid := by
        rw [← hsplit]
        rfl
    _ = allocateVms requests (allocateVm (allocateVms requests (fun _ => none) earlier)
          (requests.filter (·.vm = r.vm))) later r.uid := by
        rw [allocateVms, List.foldl_append, List.foldl_cons]
        rfl
    _ = allocateVm (allocateVms requests (fun _ => none) earlier)
          (requests.filter (·.vm = r.vm)) r.uid :=
        allocateVms_other hnd hr hnot _
    _ = allocateVm (fun _ => none) (requests.filter (·.vm = r.vm)) r.uid :=
        allocateVm_congr (hturn.fresh hnd).unanswered r hmine

end Vms

/-- **Slots are allocated exclusively, fairly and completely.**  Every claim is answered and nobody
else; the claims of each VM get what `SlotSpec` says; and what they get depends on the claims of
that VM only. -/
theorem allocateSlots_spec {requests : List SlotRequest} (hnd : (requests.map (·.uid)).Nodup) :
    (∀ uid, (allocateSlots requests uid).isSome = true ↔ uid ∈ requests.map (·.uid)) ∧
    (∀ vm, SlotSpec (requests.filter (·.vm = vm)) (allocateSlots requests)) ∧
    ∀ vm (others : List SlotRequest), (others.map (·.uid)).Nodup →
      others.filter (·.vm = vm) = requests.filter (·.vm = vm) →
        ∀ r ∈ requests, r.vm = vm → allocateSlots others r.uid = allocateSlots requests r.uid := by
  have hfresh : ∀ vm, Fresh (fun _ => none) (requests.filter (·.vm = vm)) := fun vm =>
    ⟨hnd.sublist (List.filter_sublist.map _), fun _ _ => rfl⟩
  refine ⟨fun uid => ⟨fun hsome => ?_, fun huid => ?_⟩, fun vm => ?_, ?_⟩
  · by_contra huid
    rw [allocateSlots, ← allocateVms, allocateVms_not_mem] at hsome
    · cases hsome
    · exact fun vm _ hmem => huid ((List.filter_sublist.map _).subset hmem)
  · obtain ⟨r, hr, rfl⟩ := List.mem_map.mp huid
    rw [allocateSlots_eq_vm hnd hr]
    exact (hfresh r.vm).allocateVm_isSome (List.mem_filter.mpr ⟨hr, by simp⟩)
  · refine (hfresh vm).allocateVm_spec.congr fun r hr => ?_
    obtain ⟨hmem, hvm⟩ := List.mem_filter.mp hr
    rw [allocateSlots_eq_vm hnd hmem, of_decide_eq_true hvm]
  · rintro vm others hothers hsame r hr rfl
    have hmem : r ∈ others.filter (·.vm = r.vm) := hsame ▸ List.mem_filter.mpr ⟨hr, by simp⟩
    rw [allocateSlots_eq_vm hothers (List.mem_of_mem_filter hmem), hsame,
      allocateSlots_eq_vm hnd hr]

/-- Three claims of one VM and one of another: a pin displaces the claim that had its slot. -/
def displaced : List SlotRequest :=
  [⟨"u1", "a", ("default", "vm"), none, some 3⟩, ⟨"u2", "b", ("default", "vm"), none, some 1⟩,
   ⟨"u3", "c", ("default", "vm"), some 3, none⟩, ⟨"u4", "d", ("default", "other"), none, none⟩]

theorem allocateSlots_spec_displaced :
    (allocateSlots displaced "u1").isSome = true ∧
      SlotSpec (displaced.filter (·.vm = ("default", "vm"))) (allocateSlots displaced) :=
  have h := @allocateSlots_spec displaced (by decide)
  ⟨(h.1 "u1").mpr (by decide), h.2.1 _⟩

/-! ## Newcomers -/

section Newcomers

variable {result : SlotResult} {requests newer : List SlotRequest}

/-- Claims that neither pin a slot nor had one are left to the third pass. -/
lemma foldl_of_newcomers {step : SlotState → SlotRequest → SlotState}
    (hstep : ∀ st, ∀ r ∈ newer, step st r = st) (st : SlotState) : newer.foldl step st = st := by
  induction newer generalizing st with
  | nil => rfl
  | cons r newer ih =>
      rw [List.foldl_cons, hstep st r List.mem_cons_self]
      exact ih (fun st r' hr' => hstep st r' (List.mem_cons_of_mem _ hr')) st

lemma kept_append (hnew : ∀ r ∈ newer, r.pinned = none ∧ r.previous = none) :
    kept result (requests ++ newer) = kept result requests := by
  have hpinned : pinned result (requests ++ newer) = pinned result requests := by
    rw [pinned, List.foldl_append]
    refine foldl_of_newcomers (fun st r hr => ?_) _
    rw [pinStep, (hnew r hr).1]
  have hunpinned : unpinned (requests ++ newer) = unpinned requests ++ newer := by
    rw [unpinned, List.filter_append]
    refine congrArg (unpinned requests ++ ·) (List.filter_eq_self.mpr fun r hr => ?_)
    rw [(hnew r hr).1]
    rfl
  rw [kept, hpinned, hunpinned, List.foldl_append]
  refine foldl_of_newcomers (fun st r hr => ?_) _
  rw [keepStep, (hnew r hr).2]
  rfl

lemma allocateVm_append (hnd : ((requests ++ newer).map (·.uid)).Nodup)
    (hnew : ∀ r ∈ newer, r.pinned = none ∧ r.previous = none) {r : SlotRequest}
    (hr : r ∈ requests) :
    allocateVm result (requests ++ newer) r.uid = allocateVm result requests r.uid := by
  rw [allocateVm_eq, allocateVm_eq, left, kept_append hnew, List.filter_append, List.foldl_append,
    newStep_answers.foldl_result_of_not_mem]
  · rfl
  · intro hmem
    rw [List.map_append, List.nodup_append] at hnd
    exact hnd.2.2 r.uid (List.mem_map_of_mem hr) r.uid
      ((List.filter_sublist.map _).subset hmem) rfl

end Newcomers

/-- **Slots stay from pass to pass.**  Claims that come back with the slots they were granted are
given the same answers, and newcomers without a pin change nobody's answer. -/
theorem allocateSlots_stable {requests : List SlotRequest} (hnd : (requests.map (·.uid)).Nodup) :
    allocateSlots (requests.map (·.keep (allocateSlots requests))) = allocateSlots requests ∧
    ∀ newer : List SlotRequest, ((requests ++ newer).map (·.uid)).Nodup →
      (∀ r ∈ newer, r.pinned = none ∧ r.previous = none) →
        ∀ r ∈ requests, allocateSlots (requests ++ newer) r.uid = allocateSlots requests r.uid := by
  refine ⟨allocateSlots_keep hnd, fun newer hall hnew r hr => ?_⟩
  have hvm : ((requests.filter (·.vm = r.vm) ++ newer.filter (·.vm = r.vm)).map (·.uid)).Nodup := by
    rw [← List.filter_append]
    exact hall.sublist (List.filter_sublist.map _)
  rw [allocateSlots_eq_vm hall (List.mem_append_left _ hr), allocateSlots_eq_vm hnd hr,
    List.filter_append]
  exact allocateVm_append hvm (fun r' hr' => hnew r' (List.mem_of_mem_filter hr'))
    (List.mem_filter.mpr ⟨hr, by simp⟩)

theorem allocateSlots_stable_displaced :
    allocateSlots (displaced.map (·.keep (allocateSlots displaced))) = allocateSlots displaced ∧
      allocateSlots (displaced ++ [⟨"u5", "e", ("default", "vm"), none, none⟩]) "u1" =
        allocateSlots displaced "u1" :=
  have h := @allocateSlots_stable displaced (by decide)
  ⟨h.1, h.2 _ (by decide) (by decide) ⟨"u1", "a", ("default", "vm"), none, some 3⟩ (by decide)⟩

end AtomicUsb
