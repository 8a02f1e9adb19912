import AtomicUsb.Identity.Names
import Mathlib.Data.List.Nodup
import Mathlib.Data.String.Basic
import Mathlib.Logic.Function.Basic

/-!
# Assigning identities to the devices of one node

`assign` gives every device plugged into a node a decision: the name it is published under, or
to wait for another node to release the name it should have.  It runs in two passes over the
devices — assignments made earlier are kept, then the remaining devices choose the first
unambiguous tier — with a growing set `taken` of names in use, so what one device gets could
depend on who was asked first.

It does not.  `assign_eq` computes the decision of each device without any pass: keep the
earlier assignment if it still stands, otherwise `choose` against the names *kept from earlier*
alone.  A name chosen during the second pass never blocks a later device, because a device that
could derive the same name shares the tier's attributes, and then neither of them uses the tier.
Distinctness of names and independence of the enumeration order both follow from that equation.
-/

namespace AtomicUsb

/-- Identifies one enumeration of a device on this node. -/
structure InstanceKey where
  portPath : String
  busNum : ℕ
  devNum : ℕ
  deriving DecidableEq

def UsbDeviceInfo.instanceKey (d : UsbDeviceInfo) : InstanceKey where
  portPath := d.portPath
  busNum := d.busNum
  devNum := d.devNum

structure Assignment where
  name : String
  source : IdentitySource
  deriving DecidableEq

/-- A device already known to the cluster (a `UsbDevice` object). -/
structure KnownDevice where
  name : String
  fingerprint : Fingerprint
  /-- Node the device is currently plugged into according to a fresh heartbeat. -/
  presentOn : Option String
  deriving DecidableEq

inductive Decision
  | assigned (a : Assignment)
  /-- The preferred identity is still held by another node; retry later instead of falling
  back. -/
  | deferred (name heldBy : String)
  deriving DecidableEq

structure AssignContext where
  node : String
  /-- Assignments made earlier for devices that are still plugged in. -/
  sticky : InstanceKey → Option Assignment
  known : List KnownDevice
  /-- Instances that may still wait for another node to release their preferred identity. -/
  mayDefer : InstanceKey → Bool

namespace AssignContext

/-- The known devices as a map; a later entry of the same name replaces an earlier one. -/
def knownByName (ctx : AssignContext) (name : String) : Option KnownDevice :=
  ctx.known.reverse.find? (·.name = name)

/-- The node a name is freshly reported on, if any. -/
def holder (ctx : AssignContext) (name : String) : Option String :=
  (ctx.knownByName name).bind (·.presentOn)

/-- Another node holds the name and wins the tie-break. -/
def lostTie (ctx : AssignContext) (a : Assignment) : Bool :=
  (ctx.holder a.name).any fun other => other ≠ ctx.node ∧ other < ctx.node

/-- An earlier assignment that still stands. -/
def kept (ctx : AssignContext) (key : InstanceKey) : Option Assignment :=
  (ctx.sticky key).filter fun a => !ctx.lostTie a

end AssignContext

/-- The devices of a scan with what the passes look at. -/
def fingerprints (devices : List UsbDeviceInfo) : List (InstanceKey × Fingerprint) :=
  devices.map fun d => (d.instanceKey, d.fingerprint)

/-- The two local variables of `assign`. -/
structure AssignState where
  decisions : InstanceKey → Option Decision
  taken : List String

/-- First pass: keep an existing assignment, unless it lost its tie-break. -/
def keepSticky (ctx : AssignContext) (st : AssignState) (entry : InstanceKey × Fingerprint) :
    AssignState :=
  match ctx.sticky entry.1 with
  | none => st
  | some a =>
    if !ctx.lostTie a ∧ a.name ∉ st.taken then
      { decisions := Function.update st.decisions entry.1 (some (.assigned a))
        taken := a.name :: st.taken }
    else st

/-- Another local device has the same attributes at this tier. -/
def ambiguousLocally (loc : List (InstanceKey × Fingerprint)) (key : InstanceKey)
    (fp : Fingerprint) (tier : IdentitySource) : Bool :=
  loc.any fun entry => entry.1 ≠ key ∧ entry.2.tierKey tier = fp.tierKey tier

/-- A device known under another name has the same attributes at this tier. -/
def ambiguousInCluster (ctx : AssignContext) (name : String) (fp : Fingerprint)
    (tier : IdentitySource) : Bool :=
  ctx.known.any fun k => k.name ≠ name ∧ k.fingerprint.tierKey tier = fp.tierKey tier

variable (sha256 : List UInt8 → List UInt8)

/-- The loop of `choose` over the tiers that are left. -/
def chooseFrom (ctx : AssignContext) (loc : List (InstanceKey × Fingerprint))
    (taken : List String) (key : InstanceKey) (fp : Fingerprint) :
    List IdentitySource → Decision
  | [] => .assigned ⟨fp.portName sha256 ctx.node key.portPath, .portPath⟩
  | tier :: rest =>
    match fp.portableName sha256 tier with
    | none =>
      if tier = .portPath then .assigned ⟨fp.portName sha256 ctx.node key.portPath, .portPath⟩
      else chooseFrom ctx loc taken key fp rest
    | some name =>
      if ambiguousLocally loc key fp tier || ambiguousInCluster ctx name fp tier ||
          name ∈ taken then
        chooseFrom ctx loc taken key fp rest
      else
        match (ctx.holder name).filter (· ≠ ctx.node) with
        | some heldBy =>
          if ctx.mayDefer key then .deferred name heldBy
          else chooseFrom ctx loc taken key fp rest
        | none => .assigned ⟨name, tier⟩

/-- The most unique tier that is unambiguous, else the port. -/
def choose (ctx : AssignContext) (loc : List (InstanceKey × Fingerprint))
    (taken : List String) (key : InstanceKey) (fp : Fingerprint) : Decision :=
  chooseFrom sha256 ctx loc taken key fp IdentitySource.order

/-- Second pass: a device without a decision chooses. -/
def chooseRest (ctx : AssignContext) (loc : List (InstanceKey × Fingerprint))
    (st : AssignState) (entry : InstanceKey × Fingerprint) : AssignState :=
  if (st.decisions entry.1).isSome then st
  else
    let decision := choose sha256 ctx loc st.taken entry.1 entry.2
    { decisions := Function.update st.decisions entry.1 (some decision)
      taken := match decision with
        | .assigned a => a.name :: st.taken
        | .deferred _ _ => st.taken }

/-- Assigns identities to all devices currently plugged into this node. -/
def assign (ctx : AssignContext) (devices : List UsbDeviceInfo) :
    InstanceKey → Option Decision :=
  let loc := fingerprints devices
  let first := loc.foldl (keepSticky ctx) ⟨fun _ => none, []⟩
  (loc.foldl (chooseRest sha256 ctx loc) first).decisions

/-! ## The first pass -/

section Passes

variable {sha256} {ctx : AssignContext} {loc : List (InstanceKey × Fingerprint)}

/-- Names of earlier assignments are pairwise distinct. -/
def StickyApart (sticky : InstanceKey → Option Assignment) : Prop :=
  ∀ k k' a a', sticky k = some a → sticky k' = some a' → a.name = a'.name → k = k'

/-- The names kept from earlier assignments of the devices in `loc`. -/
def keptNames (ctx : AssignContext) (loc : List (InstanceKey × Fingerprint)) : List String :=
  loc.filterMap fun entry => (ctx.kept entry.1).map (·.name)

lemma mem_keptNames {name : String} :
    name ∈ keptNames ctx loc ↔ ∃ e ∈ loc, ∃ a, ctx.kept e.1 = some a ∧ a.name = name := by
  simp [keptNames]

lemma AssignContext.lostTie_iff {a : Assignment} :
    ctx.lostTie a = true ↔ ∃ other, ctx.holder a.name = some other ∧ other ≠ ctx.node ∧
      other < ctx.node := by
  simp [AssignContext.lostTie, Option.any_eq_true]

lemma AssignContext.sticky_of_kept {key : InstanceKey} {a : Assignment}
    (h : ctx.kept key = some a) : ctx.sticky key = some a := by
  simp only [AssignContext.kept, Option.filter_eq_some_iff] at h
  exact h.1

lemma keepSticky_kept {st : AssignState} {e : InstanceKey × Fingerprint} {a : Assignment}
    (hk : ctx.kept e.1 = some a) (hfresh : a.name ∉ st.taken) :
    keepSticky ctx st e =
      ⟨Function.update st.decisions e.1 (some (.assigned a)), a.name :: st.taken⟩ := by
  simp only [AssignContext.kept, Option.filter_eq_some_iff] at hk
  simp [keepSticky, hk.1, hk.2, hfresh]

lemma keepSticky_not_kept {st : AssignState} {e : InstanceKey × Fingerprint}
    (hk : ctx.kept e.1 = none) : keepSticky ctx st e = st := by
  unfold keepSticky
  split
  · rfl
  · rename_i a ha
    simp only [AssignContext.kept, ha, Option.filter_eq_none_iff] at hk
    rw [if_neg]
    rintro ⟨h, -⟩
    exact hk a rfl h

/-- After the first pass exactly the kept assignments are decided, and exactly their names are
taken: with distinct names in the sticky map no insertion into `taken` fails. -/
lemma keepSticky_foldl (hs : StickyApart ctx.sticky) :
    ∀ (l : List (InstanceKey × Fingerprint)) (st : AssignState), (l.map Prod.fst).Nodup →
      (∀ e ∈ l, ∀ a, ctx.kept e.1 = some a → a.name ∉ st.taken) →
      (∀ k, (l.foldl (keepSticky ctx) st).decisions k =
        if k ∈ l.map Prod.fst then ((ctx.kept k).map .assigned <|> st.decisions k)
        else st.decisions k) ∧
      ∀ n, n ∈ (l.foldl (keepSticky ctx) st).taken ↔ n ∈ keptNames ctx l ∨ n ∈ st.taken
  | [], st, _, _ => by simp [keptNames]
  | e :: l, st, hnd, hfresh => by
      obtain ⟨he, hnd⟩ := List.nodup_cons.mp hnd
      have hfresh' : ∀ e' ∈ l, ∀ a, ctx.kept e'.1 = some a → a.name ∉ st.taken :=
        fun e' h' => hfresh e' (List.mem_cons_of_mem _ h')
      rw [List.foldl_cons]
      cases hk : ctx.kept e.1 with
      | none =>
          rw [keepSticky_not_kept hk]
          obtain ⟨hd, ht⟩ := keepSticky_foldl hs l st hnd hfresh'
          refine ⟨fun k => ?_, fun n => ?_⟩
          · rw [hd k, List.map_cons]
            by_cases hke : k = e.1
            · subst hke
              simp [hk]
            · simp only [List.mem_cons, hke, false_or]
          · rw [ht n]
            simp [keptNames, hk]
      | some a =>
          rw [keepSticky_kept hk (hfresh e List.mem_cons_self a hk)]
          obtain ⟨hd, ht⟩ := keepSticky_foldl hs l
            ⟨Function.update st.decisions e.1 (some (.assigned a)), a.name :: st.taken⟩ hnd (by
              intro e' h' a' hk' hmem
              rcases List.mem_cons.mp hmem with hname | hmem
              · have hkey := hs _ _ _ _ (AssignContext.sticky_of_kept hk')
                  (AssignContext.sticky_of_kept hk) hname
                exact he (List.mem_map.mpr ⟨e', h', hkey⟩)
              · exact hfresh' e' h' a' hk' hmem)
          refine ⟨fun k => ?_, fun n => ?_⟩
          · rw [hd k, List.map_cons]
            by_cases hke : k = e.1
            · subst hke
              simp [hk, he]
            · simp only [List.mem_cons, hke, false_or, Function.update_of_ne hke]
          · rw [ht n]
            simp only [keptNames, List.filterMap_cons, hk, Option.map_some, List.mem_cons]
            tauto

/-! ## The second pass -/

/-- `choose` looks at `taken` only for names of tiers that are unambiguous among the local
devices. -/
lemma chooseFrom_congr {taken taken' : List String} {key : InstanceKey} {fp : Fingerprint}
    (h : ∀ tier name, fp.portableName sha256 tier = some name →
      ambiguousLocally loc key fp tier = false → (name ∈ taken ↔ name ∈ taken')) :
    ∀ tiers, chooseFrom sha256 ctx loc taken key fp tiers =
      chooseFrom sha256 ctx loc taken' key fp tiers
  | [] => rfl
  | tier :: rest => by
      unfold chooseFrom
      rw [chooseFrom_congr h rest]
      cases hname : fp.portableName sha256 tier with
      | none => rfl
      | some name =>
          cases hloc : ambiguousLocally loc key fp tier with
          | true => simp
          | false => simp only [h tier name hname hloc]

/-- An assigned choice is a portable name that nobody local shares the attributes of, that is
free and that no other node holds; or it is the port name. -/
lemma chooseFrom_assigned {taken : List String} {key : InstanceKey} {fp : Fingerprint}
    {a : Assignment} : ∀ {tiers}, chooseFrom sha256 ctx loc taken key fp tiers = .assigned a →
      (fp.portableName sha256 a.source = some a.name ∧
        ambiguousLocally loc key fp a.source = false ∧ a.name ∉ taken ∧
        ∀ other, ctx.holder a.name = some other → other = ctx.node) ∨
      a.name = fp.portName sha256 ctx.node key.portPath
  | [], h => by
      rw [chooseFrom, Decision.assigned.injEq] at h
      subst h
      exact Or.inr rfl
  | tier :: rest, h => by
      rw [chooseFrom] at h
      cases hname : fp.portableName sha256 tier with
      | none =>
          simp only [hname] at h
          split_ifs at h
          · rw [Decision.assigned.injEq] at h
            subst h
            exact Or.inr rfl
          · exact chooseFrom_assigned h
      | some name =>
          simp only [hname] at h
          by_cases hcond : (ambiguousLocally loc key fp tier ||
              ambiguousInCluster ctx name fp tier || decide (name ∈ taken)) = true
          · rw [if_pos hcond] at h
            exact chooseFrom_assigned h
          · rw [if_neg hcond] at h
            simp only [Bool.or_eq_true, decide_eq_true_eq, not_or, Bool.not_eq_true] at hcond
            cases hheld : (ctx.holder name).filter (· ≠ ctx.node) with
            | some heldBy =>
                simp only [hheld] at h
                split_ifs at h
                exact chooseFrom_assigned h
            | none =>
                simp only [hheld, Decision.assigned.injEq] at h
                subst h
                refine Or.inl ⟨hname, hcond.1.1, hcond.2, fun other hother => ?_⟩
                simpa [hother] using hheld

/-- What a device is given, computed without running the passes. -/
def decisionOf (sha256 : List UInt8 → List UInt8) (ctx : AssignContext)
    (loc : List (InstanceKey × Fingerprint)) (e : InstanceKey × Fingerprint) : Decision :=
  match ctx.kept e.1 with
  | some a => .assigned a
  | none => choose sha256 ctx loc (keptNames ctx loc) e.1 e.2

/-- Two fingerprints of `loc` share a portable name only at the same tier and with the same
attributes there, and no port name of a device in `loc` is such a portable name. -/
structure PortableApart (sha256 : List UInt8 → List UInt8) (node : String)
    (loc : List (InstanceKey × Fingerprint)) : Prop where
  portable : ∀ e ∈ loc, ∀ e' ∈ loc, ∀ s t name, e.2.portableName sha256 s = some name →
    e'.2.portableName sha256 t = some name → s = t ∧ e.2.tierKey s = e'.2.tierKey t
  port : ∀ e ∈ loc, ∀ e' ∈ loc, ∀ t,
    e'.2.portableName sha256 t ≠ some (e.2.portName sha256 node e.1.portPath)

/-- A name another device chose is never a name `e` could still use. -/
lemma not_chosen_of_unambiguous (hp : PortableApart sha256 ctx.node loc)
    {e e' : InstanceKey × Fingerprint} (he : e ∈ loc) (he' : e' ∈ loc) (hne : e'.1 ≠ e.1)
    {taken : List String} {tier : IdentitySource} {a : Assignment}
    (hname : e.2.portableName sha256 tier = some a.name)
    (hamb : ambiguousLocally loc e.1 e.2 tier = false) :
    choose sha256 ctx loc taken e'.1 e'.2 ≠ .assigned a := by
  intro h
  rcases chooseFrom_assigned h with ⟨hname', -, -, -⟩ | hport
  · obtain ⟨htier, hkey⟩ := hp.portable e he e' he' _ _ _ hname hname'
    have : ambiguousLocally loc e.1 e.2 tier = true := by
      simp only [ambiguousLocally, List.any_eq_true, decide_eq_true_eq]
      exact ⟨e', he', hne, by rw [hkey, htier]⟩
    simp [hamb] at this
  · refine hp.port e' he' e he tier ?_
    rw [← hport, hname]

/-- The second pass, `done` being the devices already visited. -/
structure ChooseInv (sha256 : List UInt8 → List UInt8) (ctx : AssignContext)
    (loc done : List (InstanceKey × Fingerprint)) (st : AssignState) : Prop where
  decided : ∀ e ∈ loc, (ctx.kept e.1).isSome ∨ e ∈ done →
    st.decisions e.1 = some (decisionOf sha256 ctx loc e)
  undecided : ∀ e ∈ loc, ctx.kept e.1 = none → e ∉ done → st.decisions e.1 = none
  outside : ∀ k, k ∉ loc.map Prod.fst → st.decisions k = none
  keeps : ∀ n ∈ keptNames ctx loc, n ∈ st.taken
  taken : ∀ n ∈ st.taken, n ∈ keptNames ctx loc ∨
    ∃ e ∈ done, ∃ source, choose sha256 ctx loc (keptNames ctx loc) e.1 e.2 = .assigned ⟨n, source⟩

lemma fst_injective (hnd : (loc.map Prod.fst).Nodup) {e e' : InstanceKey × Fingerprint}
    (he : e ∈ loc) (he' : e' ∈ loc) (h : e.1 = e'.1) : e = e' :=
  List.inj_on_of_nodup_map hnd he he' h

/-- Choosing against everything taken so far is choosing against the kept names. -/
lemma ChooseInv.choose_eq (hp : PortableApart sha256 ctx.node loc)
    (hnd : (loc.map Prod.fst).Nodup) {done : List (InstanceKey × Fingerprint)}
    {st : AssignState} (h : ChooseInv sha256 ctx loc done st) (hdone : ∀ e ∈ done, e ∈ loc)
    {e : InstanceKey × Fingerprint} (he : e ∈ loc) (hnew : e ∉ done) :
    choose sha256 ctx loc st.taken e.1 e.2 =
      choose sha256 ctx loc (keptNames ctx loc) e.1 e.2 := by
  refine chooseFrom_congr (fun tier name hname hamb => ⟨fun hmem => ?_, h.keeps name⟩) _
  rcases h.taken name hmem with hkept | ⟨e', he', source, hchoice⟩
  · exact hkept
  · have hne : e'.1 ≠ e.1 := fun heq => hnew (fst_injective hnd (hdone e' he') he heq ▸ he')
    exact absurd hchoice (not_chosen_of_unambiguous hp he (hdone e' he') hne
      (a := ⟨name, source⟩) hname hamb)

lemma chooseRest_step (hp : PortableApart sha256 ctx.node loc) (hnd : (loc.map Prod.fst).Nodup)
    {done : List (InstanceKey × Fingerprint)} {st : AssignState}
    (h : ChooseInv sha256 ctx loc done st) (hdone : ∀ e ∈ done, e ∈ loc)
    {e : InstanceKey × Fingerprint} (he : e ∈ loc) (hnew : e ∉ done) :
    ChooseInv sha256 ctx loc (e :: done) (chooseRest sha256 ctx loc st e) := by
  cases hk : ctx.kept e.1 with
  | some a =>
      -- decided in the first pass: the step changes nothing
      have hsome := h.decided e he (Or.inl (by simp [hk]))
      have hst : chooseRest sha256 ctx loc st e = st := by simp [chooseRest, hsome]
      rw [hst]
      refine ⟨fun e' he' hor => ?_, fun e' he' hk' hn => ?_, h.outside, h.keeps, ?_⟩
      · rcases hor with hor | hor
        · exact h.decided e' he' (Or.inl hor)
        · rcases List.mem_cons.mp hor with rfl | hor
          · exact hsome
          · exact h.decided e' he' (Or.inr hor)
      · exact h.undecided e' he' hk' (fun hd => hn (List.mem_cons_of_mem _ hd))
      · intro n hn
        rcases h.taken n hn with hn | ⟨e', he', hs⟩
        · exact Or.inl hn
        · exact Or.inr ⟨e', List.mem_cons_of_mem _ he', hs⟩
  | none =>
      have hnone := h.undecided e he hk hnew
      have hchoice := h.choose_eq hp hnd hdone he hnew
      have hdec : decisionOf sha256 ctx loc e =
          choose sha256 ctx loc (keptNames ctx loc) e.1 e.2 := by simp [decisionOf, hk]
      simp only [chooseRest, hnone, Option.isSome_none, Bool.false_eq_true, if_false, hchoice]
      refine ⟨fun e' he' hor => ?_, fun e' he' hk' hn => ?_, fun k hkey => ?_, fun n hn => ?_, ?_⟩
      · by_cases heq : e'.1 = e.1
        · rw [fst_injective hnd he' he heq]
          simp [hdec]
        · simp only [Function.update_of_ne heq]
          refine h.decided e' he' (hor.imp_right fun hor => ?_)
          rcases List.mem_cons.mp hor with rfl | hor
          · exact absurd rfl heq
          · exact hor
      · have heq : e'.1 ≠ e.1 := fun heq =>
          hn (fst_injective hnd he' he heq ▸ List.mem_cons_self)
        simp only [Function.update_of_ne heq]
        exact h.undecided e' he' hk' (fun hd => hn (List.mem_cons_of_mem _ hd))
      · have heq : k ≠ e.1 := fun heq => hkey (heq ▸ List.mem_map_of_mem he)
        simp only [Function.update_of_ne heq]
        exact h.outside k hkey
      · have := h.keeps n hn
        split
        · exact List.mem_cons_of_mem _ this
        · exact this
      · intro n hn
        have hold : n ∈ st.taken → n ∈ keptNames ctx loc ∨ ∃ e' ∈ e :: done, ∃ source,
            choose sha256 ctx loc (keptNames ctx loc) e'.1 e'.2 = .assigned ⟨n, source⟩ :=
          fun hn => (h.taken n hn).imp_right
            fun ⟨e', he', hs⟩ => ⟨e', List.mem_cons_of_mem _ he', hs⟩
        split at hn
        · rename_i a ha
          rcases List.mem_cons.mp hn with rfl | hn
          · exact Or.inr ⟨e, List.mem_cons_self, a.source, ha⟩
          · exact hold hn
        · exact hold hn

lemma chooseRest_foldl (hp : PortableApart sha256 ctx.node loc)
    (hnd : (loc.map Prod.fst).Nodup) :
    ∀ (l done : List (InstanceKey × Fingerprint)) (st : AssignState),
      (∀ e ∈ done, e ∈ loc) → (∀ e ∈ l, e ∈ loc) → (∀ e ∈ l, e ∉ done) → l.Nodup →
      ChooseInv sha256 ctx loc done st →
      ChooseInv sha256 ctx loc (l.reverse ++ done) (l.foldl (chooseRest sha256 ctx loc) st)
  | [], _, _, _, _, _, _, h => by simpa using h
  | e :: l, done, st, hdone, hl, hdisj, hndl, h => by
      obtain ⟨hel, hndl⟩ := List.nodup_cons.mp hndl
      have he := hl e List.mem_cons_self
      have hstep := chooseRest_step hp hnd h hdone he (hdisj e List.mem_cons_self)
      have hrest := chooseRest_foldl hp hnd l (e :: done) _
        (by
          intro e' he'
          rcases List.mem_cons.mp he' with rfl | he'
          · exact he
          · exact hdone e' he')
        (fun e' he' => hl e' (List.mem_cons_of_mem _ he'))
        (by
          intro e' he' hmem
          rcases List.mem_cons.mp hmem with rfl | hmem
          · exact hel he'
          · exact hdisj e' (List.mem_cons_of_mem _ he') hmem)
        hndl hstep
      rw [List.foldl_cons, List.reverse_cons, List.append_assoc]
      exact hrest

/-! ## The decisions as an equation -/

lemma map_fst_fingerprints (devices : List UsbDeviceInfo) :
    (fingerprints devices).map Prod.fst = devices.map (·.instanceKey) := by
  simp [fingerprints]

lemma instanceKey_nodup {devices : List UsbDeviceInfo}
    (hports : (devices.map (·.portPath)).Nodup) :
    ((fingerprints devices).map Prod.fst).Nodup := by
  rw [map_fst_fingerprints]
  refine List.Nodup.of_map InstanceKey.portPath ?_
  rwa [List.map_map]

lemma mem_fingerprints {devices : List UsbDeviceInfo} {d : UsbDeviceInfo} (h : d ∈ devices) :
    (d.instanceKey, d.fingerprint) ∈ fingerprints devices :=
  List.mem_map.mpr ⟨d, h, rfl⟩

/-- **The decisions without the passes.** Every device of the scan gets the decision
`decisionOf` computes from the kept names alone, and no other instance gets any. -/
lemma assign_eq {devices : List UsbDeviceInfo} (hports : (devices.map (·.portPath)).Nodup)
    (hs : StickyApart ctx.sticky) (hp : PortableApart sha256 ctx.node (fingerprints devices)) :
    (∀ d ∈ devices, assign sha256 ctx devices d.instanceKey =
      some (decisionOf sha256 ctx (fingerprints devices) (d.instanceKey, d.fingerprint))) ∧
    ∀ k, k ∉ devices.map (·.instanceKey) → assign sha256 ctx devices k = none := by
  have hnd := instanceKey_nodup hports
  obtain ⟨hd, ht⟩ := keepSticky_foldl hs (fingerprints devices) ⟨fun _ => none, []⟩ hnd
    (by simp)
  have hinit : ChooseInv sha256 ctx (fingerprints devices) []
      ((fingerprints devices).foldl (keepSticky ctx) ⟨fun _ => none, []⟩) := by
    refine ⟨fun e he hor => ?_, fun e he hk _ => ?_, fun k hk => ?_, fun n hn => ?_, fun n hn => ?_⟩
    · obtain ⟨a, ha⟩ := Option.isSome_iff_exists.mp (hor.resolve_right List.not_mem_nil)
      rw [hd, if_pos (List.mem_map_of_mem he), ha]
      simp [decisionOf, ha]
    · rw [hd, if_pos (List.mem_map_of_mem he), hk]
      rfl
    · rw [hd, if_neg hk]
    · exact (ht n).mpr (Or.inl hn)
    · exact Or.inl (by simpa using (ht n).mp hn)
  have hfinal := chooseRest_foldl hp hnd (fingerprints devices) [] _ (by simp) (fun _ h => h)
    (by simp) (List.Nodup.of_map _ hnd) hinit
  refine ⟨fun d hmem => ?_, fun k hk => ?_⟩
  · exact hfinal.decided _ (mem_fingerprints hmem) (Or.inr (by simpa using mem_fingerprints hmem))
  · exact hfinal.outside k (by rwa [map_fst_fingerprints])

/-- The order of the local devices does not enter the decision. -/
lemma decisionOf_perm {loc' : List (InstanceKey × Fingerprint)} (h : loc'.Perm loc)
    (e : InstanceKey × Fingerprint) :
    decisionOf sha256 ctx loc' e = decisionOf sha256 ctx loc e := by
  have hamb : ∀ key fp tier, ambiguousLocally loc' key fp tier = ambiguousLocally loc key fp tier :=
    fun key fp tier => h.any_eq
  have hloc : ∀ taken key fp tiers, chooseFrom sha256 ctx loc' taken key fp tiers =
      chooseFrom sha256 ctx loc taken key fp tiers := by
    intro taken key fp tiers
    induction tiers with
    | nil => rfl
    | cons tier rest ih =>
        unfold chooseFrom
        simp only [hamb, ih]
  have hkept : ∀ n, n ∈ keptNames ctx loc' ↔ n ∈ keptNames ctx loc :=
    fun n => (h.filterMap _).mem_iff
  unfold decisionOf choose
  cases ctx.kept e.1 with
  | some a => rfl
  | none =>
      rw [hloc]
      exact chooseFrom_congr (fun _ name _ _ => hkept name) _

lemma PortableApart.perm {loc' : List (InstanceKey × Fingerprint)} {node : String}
    (h : loc'.Perm loc) (hp : PortableApart sha256 node loc) : PortableApart sha256 node loc' where
  portable e he e' he' := hp.portable e (h.mem_iff.mp he) e' (h.mem_iff.mp he')
  port e he e' he' := hp.port e (h.mem_iff.mp he) e' (h.mem_iff.mp he')

/-- Permuting the scan changes nothing. -/
lemma assign_perm {devices devices' : List UsbDeviceInfo} (h : devices'.Perm devices)
    (hports : (devices.map (·.portPath)).Nodup) (hs : StickyApart ctx.sticky)
    (hp : PortableApart sha256 ctx.node (fingerprints devices)) :
    assign sha256 ctx devices' = assign sha256 ctx devices := by
  have hfp : (fingerprints devices').Perm (fingerprints devices) := h.map _
  obtain ⟨hin, hout⟩ := assign_eq hports hs hp
  obtain ⟨hin', hout'⟩ := assign_eq ((h.map _).nodup_iff.mpr hports) hs (hp.perm hfp)
  funext k
  by_cases hk : k ∈ devices.map (·.instanceKey)
  · obtain ⟨d, hd, rfl⟩ := List.mem_map.mp hk
    rw [hin d hd, hin' d (h.mem_iff.mpr hd), decisionOf_perm hfp]
  · rw [hout k hk, hout' k (fun hk' => hk ((h.map _).mem_iff.mp hk'))]

/-! ## Distinct names -/

/-- No port name of a device in the scan is the port name of another port or the sticky name of
another instance. -/
structure PortsApart (sha256 : List UInt8 → List UInt8) (ctx : AssignContext)
    (loc : List (InstanceKey × Fingerprint)) : Prop where
  port : ∀ e ∈ loc, ∀ e' ∈ loc, e.1.portPath ≠ e'.1.portPath →
    e.2.portName sha256 ctx.node e.1.portPath ≠ e'.2.portName sha256 ctx.node e'.1.portPath
  sticky : ∀ e ∈ loc, ∀ k a, ctx.sticky k = some a → k ≠ e.1 →
    a.name ≠ e.2.portName sha256 ctx.node e.1.portPath

/-- A kept name and a chosen one differ. -/
lemma kept_ne_chosen (hq : PortsApart sha256 ctx loc) {e e' : InstanceKey × Fingerprint}
    (he : e ∈ loc) (he' : e' ∈ loc) (hne : e.1 ≠ e'.1) {a b : Assignment}
    (ha : ctx.kept e.1 = some a)
    (hb : choose sha256 ctx loc (keptNames ctx loc) e'.1 e'.2 = .assigned b) :
    a.name ≠ b.name := by
  intro hname
  rcases chooseFrom_assigned hb with ⟨-, -, hfree, -⟩ | hport
  · exact hfree (mem_keptNames.mpr ⟨e, he, a, ha, hname⟩)
  · exact hq.sticky e' he' e.1 a (AssignContext.sticky_of_kept ha) hne (hname.trans hport)

lemma decisionOf_apart (hports : (loc.map (·.1.portPath)).Nodup) (hs : StickyApart ctx.sticky)
    (hp : PortableApart sha256 ctx.node loc) (hq : PortsApart sha256 ctx loc)
    {e e' : InstanceKey × Fingerprint} (he : e ∈ loc) (he' : e' ∈ loc) {a b : Assignment}
    (ha : decisionOf sha256 ctx loc e = .assigned a)
    (hb : decisionOf sha256 ctx loc e' = .assigned b) (hname : a.name = b.name) : e = e' := by
  by_contra hne
  have hport : e.1.portPath ≠ e'.1.portPath :=
    fun h => hne (List.inj_on_of_nodup_map hports he he' h)
  have hkey : e.1 ≠ e'.1 := fun h => hport (congrArg InstanceKey.portPath h)
  unfold decisionOf at ha hb
  cases hk : ctx.kept e.1 with
  | some a' =>
      simp only [hk, Decision.assigned.injEq] at ha
      subst ha
      cases hk' : ctx.kept e'.1 with
      | some b' =>
          simp only [hk', Decision.assigned.injEq] at hb
          subst hb
          exact hkey (hs _ _ _ _ (AssignContext.sticky_of_kept hk)
            (AssignContext.sticky_of_kept hk') hname)
      | none =>
          simp only [hk'] at hb
          exact kept_ne_chosen hq he he' hkey hk hb hname
  | none =>
      simp only [hk] at ha
      cases hk' : ctx.kept e'.1 with
      | some b' =>
          simp only [hk', Decision.assigned.injEq] at hb
          subst hb
          exact kept_ne_chosen hq he' he hkey.symm hk' ha hname.symm
      | none =>
          simp only [hk'] at hb
          rcases chooseFrom_assigned ha with ⟨hna, hamb, -, -⟩ | hpa
          · exact not_chosen_of_unambiguous hp he he' hkey.symm (a := b) (hname ▸ hna) hamb hb
          · rcases chooseFrom_assigned hb with ⟨hnb, -, -, -⟩ | hpb
            · refine hp.port e he e' he' b.source ?_
              rw [← hpa, hname, hnb]
            · refine hq.port e he e' he' hport ?_
              rw [← hpa, ← hpb, hname]

end Passes

end AtomicUsb
