import AtomicUsb.Identity.Assign

/-!
# What becomes of one name

`assign_eq` computes all decisions at once, under assumptions on all names.  Here a single name is
followed through the two passes of `assign`, and nothing is assumed about the others: only that the
name is nobody's port name.

If another node holds the name and wins the tie-break, nobody is assigned it
(`not_assigned_of_held`).  If one device, and no other, has it from earlier and the tie-break is not
lost, that device is assigned it and nobody else is (`assigned_of_kept`).
-/

namespace AtomicUsb

section OneName

variable {sha256 : List UInt8 → List UInt8} {ctx : AssignContext} {N : String}
  {loc : List (InstanceKey × Fingerprint)}

/-- No device of `loc` would be called `N` after its port. -/
def NotAPort (sha256 : List UInt8 → List UInt8) (node : String)
    (loc : List (InstanceKey × Fingerprint)) (N : String) : Prop :=
  ∀ e ∈ loc, e.2.portName sha256 node e.1.portPath ≠ N

/-- A device that chooses `N` finds it free. -/
lemma free_of_choose (hport : NotAPort sha256 ctx.node loc N) {taken : List String}
    {e : InstanceKey × Fingerprint} (he : e ∈ loc) {a : Assignment}
    (h : choose sha256 ctx loc taken e.1 e.2 = .assigned a) (ha : a.name = N) :
    N ∉ taken ∧ ∀ other, ctx.holder N = some other → other = ctx.node := by
  rcases chooseFrom_assigned h with ⟨-, -, hfree, hholder⟩ | hname
  · rw [ha] at hfree hholder
    exact ⟨hfree, hholder⟩
  · exact absurd (hname.symm.trans ha) (hport e he)

/-! ### One device of each pass -/

/-- The first pass keeps an assignment whose name is free, or changes nothing. -/
lemma keepSticky_cases (ctx : AssignContext) (st : AssignState) (e : InstanceKey × Fingerprint) :
    keepSticky ctx st e = st ∨ ∃ a, ctx.kept e.1 = some a ∧ a.name ∉ st.taken ∧
      keepSticky ctx st e =
        ⟨Function.update st.decisions e.1 (some (.assigned a)), a.name :: st.taken⟩ := by
  cases hk : ctx.kept e.1 with
  | none => exact Or.inl (keepSticky_not_kept hk)
  | some a =>
      by_cases htaken : a.name ∈ st.taken
      · left
        simp [keepSticky, AssignContext.sticky_of_kept hk, htaken]
      · exact Or.inr ⟨a, rfl, htaken, keepSticky_kept hk htaken⟩

/-- The second pass lets a device choose that has no decision yet. -/
lemma chooseRest_cases (sha256 : List UInt8 → List UInt8) (ctx : AssignContext)
    (loc : List (InstanceKey × Fingerprint)) (st : AssignState) (e : InstanceKey × Fingerprint) :
    chooseRest sha256 ctx loc st e = st ∨ st.decisions e.1 = none ∧ ∃ taken,
      (∀ n ∈ st.taken, n ∈ taken) ∧ chooseRest sha256 ctx loc st e =
        ⟨Function.update st.decisions e.1 (some (choose sha256 ctx loc st.taken e.1 e.2)),
          taken⟩ := by
  cases hd : st.decisions e.1 with
  | some d =>
      left
      simp [chooseRest, hd]
  | none =>
      refine Or.inr ⟨rfl, _, fun n hn => ?_, by simp only [chooseRest, hd]; rfl⟩
      split
      · exact List.mem_cons_of_mem _ hn
      · exact hn

/-! ### A name held elsewhere -/

/-- Nobody is assigned `N` so far. -/
def AssignState.Spares (st : AssignState) (N : String) : Prop :=
  ∀ key a, st.decisions key = some (.assigned a) → a.name ≠ N

lemma AssignState.Spares.update {st : AssignState} (h : st.Spares N) {key : InstanceKey}
    {decision : Decision} {taken : List String}
    (hnew : ∀ a, decision = .assigned a → a.name ≠ N) :
    AssignState.Spares ⟨Function.update st.decisions key (some decision), taken⟩ N := by
  intro key' a ha
  by_cases hkey : key' = key
  · subst hkey
    simp only [Function.update_self, Option.some.injEq] at ha
    exact hnew a ha
  · simp only [Function.update_of_ne hkey] at ha
    exact h key' a ha

/-- **A name that another node holds and wins is assigned to nobody.** -/
lemma not_assigned_of_held {devices : List UsbDeviceInfo} {other : String}
    (hheld : ctx.holder N = some other) (hne : other ≠ ctx.node) (hlt : other < ctx.node)
    (hport : NotAPort sha256 ctx.node (fingerprints devices) N) {key : InstanceKey}
    {a : Assignment} (h : assign sha256 ctx devices key = some (.assigned a)) : a.name ≠ N := by
  have hkeep : ∀ st : AssignState, st.Spares N → ∀ e ∈ fingerprints devices,
      (keepSticky ctx st e).Spares N := by
    intro st hst e _
    rcases keepSticky_cases ctx st e with heq | ⟨b, hb, -, heq⟩
    · rw [heq]
      exact hst
    · rw [heq]
      refine hst.update fun a ha hname => ?_
      obtain rfl : b = a := by simpa using ha
      -- the tie-break for `N` is lost
      have htie : ctx.lostTie b = true :=
        AssignContext.lostTie_iff.mpr ⟨other, by rw [hname, hheld], hne, hlt⟩
      simp [AssignContext.kept, htie] at hb
  have hchoose : ∀ st : AssignState, st.Spares N → ∀ e ∈ fingerprints devices,
      (chooseRest sha256 ctx (fingerprints devices) st e).Spares N := by
    intro st hst e he
    rcases chooseRest_cases sha256 ctx _ st e with heq | ⟨-, taken, -, heq⟩
    · rw [heq]
      exact hst
    · rw [heq]
      exact hst.update fun a ha hname => hne ((free_of_choose hport he ha hname).2 other hheld)
  have hstart : AssignState.Spares ⟨fun _ => none, []⟩ N := by simp [AssignState.Spares]
  have hfirst := List.foldlRecOn (motive := fun st : AssignState => st.Spares N) _ _ hstart hkeep
  exact List.foldlRecOn (motive := fun st : AssignState => st.Spares N) _ _ hfirst hchoose key a h

/-! ### A name kept from earlier -/

/-- `N` is for the device `key`, and it is taken as soon as that device is decided. -/
structure AssignState.Reserves (st : AssignState) (N : String) (key : InstanceKey)
    (a : Assignment) : Prop where
  only : ∀ key' a', st.decisions key' = some (.assigned a') → a'.name = N → key' = key
  taken : N ∈ st.taken → st.decisions key = some (.assigned a)

lemma AssignState.Reserves.update {st : AssignState} {key : InstanceKey} {a : Assignment}
    (h : st.Reserves N key a) {key' : InstanceKey} (hkey : key' ≠ key) {decision : Decision}
    {taken : List String} (hnew : ∀ b, decision = .assigned b → b.name ≠ N)
    (htaken : N ∈ taken → N ∈ st.taken) :
    AssignState.Reserves ⟨Function.update st.decisions key' (some decision), taken⟩ N key a where
  only k b hb hname := by
    by_cases hk : k = key'
    · subst hk
      simp only [Function.update_self, Option.some.injEq] at hb
      exact absurd hname (hnew b hb)
    · simp only [Function.update_of_ne hk] at hb
      exact h.only k b hb hname
  taken hN := by
    simp only [Function.update_of_ne hkey.symm]
    exact h.taken (htaken hN)

lemma keepSticky_reserves {key : InstanceKey} {a : Assignment} (hkept : ctx.kept key = some a)
    (honly : ∀ k b, ctx.sticky k = some b → b.name = N → k = key) {st : AssignState}
    (h : st.Reserves N key a) (e : InstanceKey × Fingerprint) :
    (keepSticky ctx st e).Reserves N key a := by
  rcases keepSticky_cases ctx st e with heq | ⟨b, hb, -, heq⟩
  · rw [heq]
    exact h
  rw [heq]
  by_cases hkey : e.1 = key
  · obtain rfl : b = a := by
      rw [hkey, hkept, Option.some.injEq] at hb
      exact hb.symm
    subst hkey
    refine ⟨fun k c hc hname => ?_, fun _ => Function.update_self ..⟩
    by_cases hk : k = e.1
    · exact hk
    · simp only [Function.update_of_ne hk] at hc
      exact h.only k c hc hname
  · have hne : b.name ≠ N :=
      fun hname => hkey (honly e.1 b (AssignContext.sticky_of_kept hb) hname)
    refine h.update hkey (fun c hc => ?_) fun hN => ?_
    · rw [Decision.assigned.injEq] at hc
      rwa [← hc]
    · exact (List.mem_cons.mp hN).resolve_left hne.symm

/-- After the first pass the name is taken. -/
lemma taken_of_kept {key : InstanceKey} {a : Assignment} (hkept : ctx.kept key = some a)
    (ha : a.name = N) : ∀ {l : List (InstanceKey × Fingerprint)} {st : AssignState},
      key ∈ l.map Prod.fst ∨ N ∈ st.taken → N ∈ (l.foldl (keepSticky ctx) st).taken
  | [], _, h => h.resolve_left (by simp)
  | e :: l, st, h => by
      rw [List.foldl_cons]
      refine taken_of_kept hkept ha ?_
      by_cases hN : N ∈ st.taken
      · right
        rcases keepSticky_cases ctx st e with heq | ⟨b, -, -, heq⟩ <;> simp [heq, hN]
      · rcases List.mem_cons.mp (h.resolve_right hN) with rfl | hmem
        · right
          rw [keepSticky_kept hkept (ha ▸ hN), ha]
          exact List.mem_cons_self
        · exact Or.inl hmem

/-- **A name that one device has from earlier, and keeps, is assigned to it and to nobody else.** -/
lemma assigned_of_kept {devices : List UsbDeviceInfo} {key : InstanceKey} {a : Assignment}
    (hkept : ctx.kept key = some a) (ha : a.name = N)
    (honly : ∀ k b, ctx.sticky k = some b → b.name = N → k = key)
    (hkey : key ∈ devices.map (·.instanceKey))
    (hport : NotAPort sha256 ctx.node (fingerprints devices) N) :
    assign sha256 ctx devices key = some (.assigned a) ∧
      ∀ k b, assign sha256 ctx devices k = some (.assigned b) → b.name = N → k = key := by
  let first := (fingerprints devices).foldl (keepSticky ctx) ⟨fun _ => none, []⟩
  have hfirst : first.Reserves N key a :=
    List.foldlRecOn (motive := fun st : AssignState => st.Reserves N key a) _ _ ⟨by simp, by simp⟩
      fun st hst e _ => keepSticky_reserves hkept honly hst e
  have htaken : N ∈ first.taken :=
    taken_of_kept hkept ha (Or.inl (by rwa [map_fst_fingerprints]))
  have hchoose : ∀ st : AssignState, st.Reserves N key a ∧ N ∈ st.taken →
      ∀ e ∈ fingerprints devices,
        (chooseRest sha256 ctx (fingerprints devices) st e).Reserves N key a ∧
          N ∈ (chooseRest sha256 ctx (fingerprints devices) st e).taken := by
    rintro st ⟨hst, hN⟩ e he
    rcases chooseRest_cases sha256 ctx (fingerprints devices) st e with
      heq | ⟨hnone, taken, hsub, heq⟩
    · rw [heq]
      exact ⟨hst, hN⟩
    · rw [heq]
      have hne : e.1 ≠ key := by
        rintro rfl
        simp [hst.taken hN] at hnone
      exact ⟨hst.update hne (fun b hb hname => (free_of_choose hport he hb hname).1 hN)
        fun _ => hN, hsub N hN⟩
  have hlast := List.foldlRecOn
    (motive := fun st : AssignState => st.Reserves N key a ∧ N ∈ st.taken) _ _ ⟨hfirst, htaken⟩
    hchoose
  exact ⟨hlast.1.taken hlast.2, hlast.1.only⟩

end OneName

end AtomicUsb
