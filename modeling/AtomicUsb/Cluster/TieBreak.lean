import AtomicUsb.Agent.OneScan
import AtomicUsb.Cluster.Leases

/-!
# The tie-break between nodes

Identical devices plugged into several nodes at the same moment can come to have the same name: each
node assigns the name before it sees the others' objects, and from then on its sticky map binds the
device to the name.  Each node then decides alone, from the object of that name.

A `Fleet` is the device store with the agents of all nodes.  A step is one scan of one node, taken
as a whole: it reads the store as it is, assigns names, publishes devices and marks others as
unplugged; each of its writes may fail.  `tie_break_settles` says that the smallest node name wins
for good: once the smallest node has made the object name it, no other node assigns the name, or
writes to the object at all, and the smallest node goes on assigning it.

What is kept is `Fleet.Holds`: the object names the node as the place where the device is available,
it is for the fingerprint of that device, and the sticky map binds the name to that device alone.
The scans of the node keep it because they publish the device under the name again, those of the
others because they do not touch the object.
-/

namespace AtomicUsb

/-! ## What the calls of a scan do to one object -/

section Store

variable {cfg : AgentConfig} {input : ScanInput} {view : LocalView} {N : String} {c : ApiCall}
  {x : c.Answer} {s s' : DeviceStore}

/-- The device a call writes to. -/
def ApiCall.device? : ApiCall → Option String
  | .patchDeviceStatus _ name _ _ => some name
  | .applyDevice _ name _ _ => some name
  | _ => none

/-- The object of the name, if there is one, is for devices with this fingerprint. -/
def IsFor (N : String) (fp : Fingerprint) (s : DeviceStore) : Prop :=
  ∀ o, s.objects N = some o → (UsbDevice.ofStored N o).fingerprint = fp

/-- The object of the name is available on the node, its heartbeat aside. -/
def PublishedBy (N node : String) (s : DeviceStore) : Prop :=
  ∃ o, s.objects N = some o ∧ o.value.statusRef.node = some node ∧
    o.value.statusRef.phase = some .available ∧ o.value.statusRef.exporter.isSome = true

/-- A served call leaves the store as it is or is carried out. -/
lemma Served.store_eq (h : Served s c x s') : s' = s ∨ s' = s.effect c := by
  cases h with
  | done _ => exact Or.inr rfl
  | lost _ => exact Or.inr rfl
  | failed _ => exact Or.inl rfl

/-- A call that writes to another device, or to none, leaves this one alone. -/
lemma Served.objects_of_ne (h : Served s c x s') (hc : c.device? ≠ some N) :
    s'.objects N = s.objects N := by
  rcases h.store_eq with rfl | rfl
  · rfl
  cases c with
  | patchDeviceStatus by_ name rv patch =>
      exact s.update_objects_of_ne rv patch.apply fun h => hc (by rw [h]; rfl)
  | applyDevice by_ name labels spec =>
      have hne : N ≠ name := fun h => hc (by rw [h]; rfl)
      simp only [DeviceStore.effect, DeviceStore.applySpec]
      split
      · exact s.put_objects_of_ne _ hne
      · exact s.update_objects_of_ne none _ hne
  | patchOwnerReferences _ _ _ _ _ => rfl
  | patchClaimStatus _ _ _ _ => rfl
  | unpause _ _ _ => rfl

/-- No call removes an object. -/
lemma Served.exists_object (h : Served s c x s') {o : Versioned DeviceBody}
    (ho : s.objects N = some o) : ∃ o', s'.objects N = some o' := by
  rcases h.store_cases with rfl | ⟨name, a, rfl⟩
  · exact ⟨o, ho⟩
  · by_cases hname : N = name
    · subst hname
      exact ⟨_, s.put_objects_self N a⟩
    · exact ⟨o, (s.put_objects_of_ne a hname).trans ho⟩

/-- A scan that publishes the name for a device with this fingerprint only. -/
lemma ScanCall.isFor (hcall : ScanCall cfg input view c) {fp : Fingerprint}
    (hview : ∀ d source, view N = some (d, source) → d.fingerprint = fp)
    (hserved : Served s c x s') (h : IsFor N fp s) : IsFor N fp s' := by
  intro o' ho'
  rcases hserved.store_eq with rfl | rfl
  · exact h o' ho'
  rcases effect_object ho' with
    hsame | ⟨by_, rv, patch, o, rfl, ho, -, hvalue⟩ | ⟨by_, labels, spec, rfl, hspec, -⟩
  · exact h o' hsame
  · have hfp := h o ho
    simp only [UsbDevice.fingerprint, UsbDevice.ofStored, hvalue, DeviceStatusPatch.apply] at hfp ⊢
    exact hfp
  · cases hcall with
    | @spec _ d source _ hd =>
        rw [← hview d source hd]
        simp only [UsbDevice.fingerprint, UsbDevice.ofStored, hspec, publishedSpec,
          UsbDeviceInfo.fingerprint]

/-- A scan of the node that has the name in its view leaves the object published. -/
lemma ScanCall.publishedBy (hcall : ScanCall cfg input view c) (hview : (view N).isSome = true)
    (hserved : Served s c x s') (h : PublishedBy N cfg.node s) : PublishedBy N cfg.node s' := by
  obtain ⟨o, ho, hpublished⟩ := h
  obtain ⟨o', ho'⟩ := hserved.exists_object ho
  refine ⟨o', ho', ?_⟩
  rcases hserved.store_eq with rfl | rfl
  · rw [← Option.some.inj (ho.symm.trans ho')]
    exact hpublished
  rcases effect_object ho' with
    hsame | ⟨by_, rv, patch, cur, rfl, -, -, hvalue⟩ | ⟨by_, labels, spec, rfl, -, hstatus⟩
  · rw [← Option.some.inj (ho.symm.trans hsame)]
    exact hpublished
  · rw [hvalue]
    cases hcall with
    | heartbeat _ => exact ⟨rfl, rfl, rfl⟩
    | unplugged _ hnone _ => simp [hnone] at hview
  · simp only [DeviceBody.statusRef, hstatus, ho, Option.bind_some] at hpublished ⊢
    exact hpublished

end Store

/-- A scan that does not have the name in its view does not write to an object that reports another
node. -/
lemma ScanCall.device_ne {cfg : AgentConfig} {input : ScanInput} {view : LocalView} {c : ApiCall}
    {N other : String} {obj : UsbDevice} (hcall : ScanCall cfg input view c)
    (hview : view N = none) (hobj : input.object? N = some obj)
    (hnode : obj.statusRef.node = some other) (hne : other ≠ cfg.node) : c.device? ≠ some N := by
  intro hN
  cases hcall with
  | spec hsome =>
      obtain rfl := Option.some.inj hN
      simp [hview] at hsome
  | heartbeat hsome =>
      obtain rfl := Option.some.inj hN
      simp [hview] at hsome
  | @unplugged obj' _ hmem _ hown =>
      obtain rfl := Option.some.inj hN
      have hsame : obj = obj' := by
        rw [← Option.some.injEq, ← hobj]
        exact List.find?_key_of_mem input.objects_nodup hmem
      rw [← hsame, hnode, Option.some.injEq] at hown
      exact hne hown

/-! ## The fleet -/

/-- Every call goes as it can: it is carried out, or fails, or both as far as its sender can
tell. -/
def server : Prog.Discipline ApiCall ApiCall.Answer DeviceStore where
  may _ _ := True
  next s c x s' := Served s c x s'

structure Fleet (ι : Type) where
  store : DeviceStore
  /-- What the agent of each node remembers. -/
  agents : ι → Discovery

/-- A scan of a node: what it found, what it sent and what it returned. -/
structure Scan (ι : Type) where
  node : ι
  input : ScanInput
  trace : List ApiEvent
  result : ScanResult

section Fleet

variable {ι : Type} [DecidableEq ι] (rt : Runtime) (cfg : ι → AgentConfig)
  (sha256 : List UInt8 → List UInt8)

/-- One scan, taken as a whole. -/
structure Fleet.Step (s : Fleet ι) (l : Scan ι) (s' : Fleet ι) : Prop where
  /-- It reads the store as it is. -/
  reads : ∀ name, l.input.object? name = (s.store.objects name).map (UsbDevice.ofStored name)
  runs : (scanOnce rt (cfg l.node) sha256 (s.agents l.node) l.input).Runs l.trace l.result
  serves : Prog.Evolves server s.store l.trace s'.store
  agents : s'.agents = Function.update s.agents l.node l.result.state

/-- Scans of all nodes in any order, from any state. -/
def fleet : System (Fleet ι) (Scan ι) where
  init _ := True
  step := Fleet.Step rt cfg sha256

variable {rt cfg sha256} {s s' : Fleet ι} {l : Scan ι} {N : String} {first : ι}
  {key : InstanceKey} {fp : Fingerprint}

lemma Fleet.Step.calls (h : Fleet.Step rt cfg sha256 s l s') :
    ∀ e ∈ l.trace, ScanCall (cfg l.node) l.input
      (scanView rt (cfg l.node) sha256 (s.agents l.node) l.input) e.1 :=
  (scanOnce_issues _ _).of_runs h.runs

/-- What a node's scan reads of an object is what is stored. -/
lemma Fleet.Step.object? (h : Fleet.Step rt cfg sha256 s l s') {o : Versioned DeviceBody}
    (ho : s.store.objects N = some o) : l.input.object? N = some (UsbDevice.ofStored N o) := by
  rw [h.reads N, ho]
  rfl

/-- A scan that leaves the name alone leaves its object alone. -/
lemma Fleet.Step.untouched (h : Fleet.Step rt cfg sha256 s l s')
    (hview : scanView rt (cfg l.node) sha256 (s.agents l.node) l.input N = none)
    {other : String} (hother : PublishedBy N other s.store) (hne : other ≠ (cfg l.node).node) :
    (∀ e ∈ l.trace, e.1.device? ≠ some N) ∧ s'.store.objects N = s.store.objects N := by
  obtain ⟨o, ho, hnode, -, -⟩ := hother
  have hobj : l.input.object? N = some (UsbDevice.ofStored N o) := h.object? ho
  have hcalls : ∀ e ∈ l.trace, e.1.device? ≠ some N :=
    fun e he => (h.calls e he).device_ne hview hobj hnode hne
  refine ⟨hcalls, ?_⟩
  exact h.serves.keeps (I := fun store => store.objects N = s.store.objects N)
    (fun e he g g' hserved hg => (Served.objects_of_ne hserved (hcalls e he)).trans hg) rfl

/-- The object of the name is published by the node, for devices with the fingerprint, and the
node's sticky map binds the name to the instance and to no other. -/
structure Fleet.Holds (s : Fleet ι) (node : String) (first : ι) (N : String) (key : InstanceKey)
    (fp : Fingerprint) : Prop where
  published : PublishedBy N node s.store
  isFor : IsFor N fp s.store
  bound : ∃ a, a.name = N ∧ (s.agents first).sticky key = some a
  only : ∀ k b, (s.agents first).sticky k = some b → b.name = N → k = key

/-- A scan of the node itself that keeps the name. -/
lemma Fleet.Step.own (h : Fleet.Step rt cfg sha256 s l s') (hfirst : l.node = first)
    (hkeeps : Keeps rt (cfg first) sha256 (s.agents first) l.input N key fp)
    (honly : ∀ k b, (s.agents first).sticky k = some b → b.name = N → k = key)
    (hfp : fingerprintOf (l.input.devices (cfg first)) key = some fp) (hfor : IsFor N fp s.store)
    (hpublished : PublishedBy N (cfg first).node s'.store) :
    s'.Holds (cfg first).node first N key fp := by
  subst hfirst
  obtain ⟨hdec, hsticky⟩ := scanOnce_result h.runs
  rw [hdec] at hsticky
  have hstate : (s'.agents l.node).sticky = l.result.state.sticky := by
    rw [h.agents, Function.update_self]
  obtain ⟨hbound, honly'⟩ := hkeeps.sticky honly hfp (hstate.trans hsticky)
  exact ⟨hpublished, h.serves.keeps (fun e he g g' hserved hg =>
    (h.calls e he).isFor hkeeps.view hserved hg) hfor, hbound, honly'⟩

/-- Whoever holds the name for a scan has published it. -/
lemma Fleet.Step.publishedBy_of_holder (h : Fleet.Step rt cfg sha256 s l s') {other : String}
    (hheld : (scanContext rt (cfg l.node) l.input (s.agents l.node)).holder N = some other) :
    PublishedBy N other s.store := by
  obtain ⟨obj, hobj, havailable, hnode⟩ := holder_scan.mp hheld
  rw [h.reads N] at hobj
  obtain ⟨o, ho, rfl⟩ := Option.map_eq_some_iff.mp hobj
  simp only [UsbDevice.isAvailable, Bool.and_eq_true, beq_iff_eq] at havailable
  exact ⟨o, ho, hnode, havailable.1.1, havailable.1.2⟩

lemma PublishedBy.unique {store : DeviceStore} {node node' : String}
    (h : PublishedBy N node store) (h' : PublishedBy N node' store) : node = node' := by
  obtain ⟨o, ho, hnode, -, -⟩ := h
  obtain ⟨o', ho', hnode', -, -⟩ := h'
  rw [ho, Option.some.injEq] at ho'
  subst ho'
  exact Option.some.inj (hnode.symm.trans hnode')

/-- The scan that leaves the object published by the node has not lost the tie-break: it would have
left the object to the winner. -/
lemma Fleet.Step.takes_over (h : Fleet.Step rt cfg sha256 s l s') (hfirst : l.node = first)
    (hport : NotAPort sha256 (cfg first).node (fingerprints (l.input.devices (cfg first))) N)
    (hfp : fingerprintOf (l.input.devices (cfg first)) key = some fp) {a : Assignment}
    (ha : a.name = N)
    (hsticky : (scanContext rt (cfg first) l.input (s.agents first)).sticky key = some a)
    (honly : ∀ k b, (s.agents first).sticky k = some b → b.name = N → k = key)
    (hpublished : PublishedBy N (cfg first).node s'.store) :
    s'.Holds (cfg first).node first N key fp := by
  subst hfirst
  have htie : (scanContext rt (cfg l.node) l.input (s.agents l.node)).lostTie a = false := by
    rw [← Bool.not_eq_true]
    intro htie
    obtain ⟨other, hheld, hne, hlt⟩ := AssignContext.lostTie_iff.mp htie
    rw [ha] at hheld
    obtain ⟨obj, hobj, havailable, hnode⟩ := holder_scan.mp hheld
    have hother := h.publishedBy_of_holder hheld
    obtain ⟨-, hsame⟩ := h.untouched (scan_spares hobj havailable hnode hlt hport).2 hother hne
    have hother' : PublishedBy N other s'.store := by
      unfold PublishedBy
      rw [hsame]
      exact hother
    exact hne (hother'.unique hpublished)
  have hfor : IsFor N fp s.store := by
    intro o ho
    have hretained := (Option.filter_eq_some_iff.mp hsticky).2
    rw [hfp, ha, h.object? ho] at hretained
    simpa using hretained
  exact h.own rfl (scan_keeps hsticky ha honly htie hfp hport) honly hfp hfor hpublished

/-- Once the node holds the name, its scans keep it. -/
lemma Fleet.Holds.own_step (hs : s.Holds (cfg first).node first N key fp)
    (h : Fleet.Step rt cfg sha256 s l s') (hfirst : l.node = first)
    (hport : NotAPort sha256 (cfg first).node (fingerprints (l.input.devices (cfg first))) N)
    (hfp : fingerprintOf (l.input.devices (cfg first)) key = some fp) :
    Keeps rt (cfg first) sha256 (s.agents first) l.input N key fp ∧
      s'.Holds (cfg first).node first N key fp := by
  subst hfirst
  obtain ⟨a, ha, hbound⟩ := hs.bound
  have hsticky : (scanContext rt (cfg l.node) l.input (s.agents l.node)).sticky key = some a := by
    refine Option.filter_eq_some_iff.mpr ⟨hbound, ?_⟩
    obtain ⟨o, ho, -⟩ := hs.published
    rw [hfp, ha, h.object? ho]
    simpa using hs.isFor o ho
  have htie : (scanContext rt (cfg l.node) l.input (s.agents l.node)).lostTie a = false := by
    rw [← Bool.not_eq_true]
    intro htie
    obtain ⟨other, hheld, hne, -⟩ := AssignContext.lostTie_iff.mp htie
    rw [ha] at hheld
    exact hne ((h.publishedBy_of_holder hheld).unique hs.published)
  have hkeeps := scan_keeps hsticky ha hs.only htie hfp hport
  have hpublished : PublishedBy N (cfg l.node).node s'.store :=
    h.serves.keeps (fun e he g g' hserved hg =>
      (h.calls e he).publishedBy hkeeps.published hserved hg) hs.published
  exact ⟨hkeeps, h.own rfl hkeeps hs.only hfp hs.isFor hpublished⟩

/-- … and the scans of larger nodes leave it alone while the heartbeat is fresh. -/
lemma Fleet.Holds.other_step (hs : s.Holds (cfg first).node first N key fp)
    (h : Fleet.Step rt cfg sha256 s l s') (hother : l.node ≠ first)
    (hlt : (cfg first).node < (cfg l.node).node)
    (hport : NotAPort sha256 (cfg l.node).node (fingerprints (l.input.devices (cfg l.node))) N)
    (hfresh : ∀ o, s.store.objects N = some o → (rt.ageSecs o.value.statusRef.lastSeen
      l.input.now).any (fun age => age ≤ (cfg l.node).lostAfterSecs) = true) :
    (∀ k a, l.result.decisions k = some (.assigned a) → a.name ≠ N) ∧
      (∀ e ∈ l.trace, e.1.device? ≠ some N) ∧ s'.Holds (cfg first).node first N key fp := by
  obtain ⟨o, ho, hnode, hphase, hexporter⟩ := hs.published
  have havailable : (UsbDevice.ofStored N o).isAvailable rt l.input.now
      (cfg l.node).lostAfterSecs = true := by
    simp only [UsbDevice.isAvailable, Bool.and_eq_true, beq_iff_eq]
    exact ⟨⟨hphase, hexporter⟩, hfresh o ho⟩
  obtain ⟨hspared, hview⟩ := scan_spares (h.object? ho) havailable hnode hlt hport
  obtain ⟨hcalls, hsame⟩ := h.untouched hview hs.published hlt.ne
  have hagent : s'.agents first = s.agents first := by
    rw [h.agents]
    exact Function.update_of_ne hother.symm _ _
  refine ⟨?_, hcalls, ⟨?_, ?_, hagent ▸ hs.bound, hagent ▸ hs.only⟩⟩
  · rw [(scanOnce_result h.runs).1]
    exact hspared
  · unfold PublishedBy
    rw [hsame]
    exact hs.published
  · unfold IsFor
    rw [hsame]
    exact hs.isFor

/-! ## The smallest node wins -/

/-- Step `m` is a scan of the node that leaves the object published by it.  The device is plugged
in, and the sticky map, as `assign` gets it, binds it to the name. -/
structure TakesOver (r : (fleet rt cfg sha256).Run) (m : ℕ) (first : ι) (N : String)
    (key : InstanceKey) (fp : Fingerprint) : Prop where
  lt : m < r.length
  node : (r.label m).node = first
  plugged : fingerprintOf ((r.label m).input.devices (cfg first)) key = some fp
  apart : StickyApart ((r.state m).agents first).sticky
  binds : ∃ a, a.name = N ∧
    (scanContext rt (cfg first) (r.label m).input ((r.state m).agents first)).sticky key = some a
  published : PublishedBy N (cfg first).node (r.state (m + 1)).store

/-- In step `i` the device of the node is still plugged in, or another node scans and finds the
heartbeat fresh. -/
structure StaysFresh (r : (fleet rt cfg sha256).Run) (first : ι) (N : String) (key : InstanceKey)
    (fp : Fingerprint) (i : ℕ) : Prop where
  plugged : (r.label i).node = first →
    fingerprintOf ((r.label i).input.devices (cfg first)) key = some fp
  heartbeat : (r.label i).node ≠ first → ∀ o, (r.state i).store.objects N = some o →
    (rt.ageSecs o.value.statusRef.lastSeen (r.label i).input.now).any
      (fun age => age ≤ (cfg (r.label i).node).lostAfterSecs) = true

/-- In step `i` no other node assigns the name or writes to the object, be it to publish the name or
to mark it as unplugged, and the node itself assigns the name to its device. -/
structure TieBroken (r : (fleet rt cfg sha256).Run) (first : ι) (N : String) (key : InstanceKey)
    (i : ℕ) : Prop where
  assigned : (r.label i).node ≠ first →
    ∀ k a, (r.label i).result.decisions k = some (.assigned a) → a.name ≠ N
  written : (r.label i).node ≠ first → ∀ e ∈ (r.label i).trace, e.1.device? ≠ some N
  own : (r.label i).node = first →
    ∃ a, a.name = N ∧ (r.label i).result.decisions key = some (.assigned a)

section Run

variable {r : (fleet rt cfg sha256).Run} {m i : ℕ}

lemma TakesOver.holds (h : TakesOver r m first N key fp)
    (hport : NotAPort sha256 (cfg first).node
      (fingerprints ((r.label m).input.devices (cfg first))) N) :
    (r.state (m + 1)).Holds (cfg first).node first N key fp := by
  obtain ⟨a, ha, hsticky⟩ := h.binds
  refine Fleet.Step.takes_over (r.step m h.lt) h.node hport h.plugged ha hsticky ?_ h.published
  intro k b hb hname
  exact h.apart k key b a hb (retainSticky_eq hsticky).1 (hname.trans ha.symm)

/-- One step of the run from a state in which the node holds the name. -/
lemma Fleet.Holds.step (hs : (r.state i).Holds (cfg first).node first N key fp)
    (hi : i < r.length) (hsmallest : ∀ j, j ≠ first → (cfg first).node < (cfg j).node)
    (hport : NotAPort sha256 (cfg (r.label i).node).node
      (fingerprints ((r.label i).input.devices (cfg (r.label i).node))) N)
    (hfresh : StaysFresh r first N key fp i) :
    TieBroken r first N key i ∧ (r.state (i + 1)).Holds (cfg first).node first N key fp := by
  have hstep : Fleet.Step rt cfg sha256 (r.state i) (r.label i) (r.state (i + 1)) := r.step i hi
  by_cases hnode : (r.label i).node = first
  · rw [hnode] at hport
    obtain ⟨hkeeps, hs'⟩ := hs.own_step hstep hnode hport (hfresh.plugged hnode)
    refine ⟨⟨fun h => absurd hnode h, fun h => absurd hnode h, fun _ => ?_⟩, hs'⟩
    rw [(scanOnce_result hstep.runs).1, hnode]
    exact hkeeps.assigned
  · obtain ⟨hassigned, hwritten, hs'⟩ :=
      hs.other_step hstep hnode (hsmallest _ hnode) hport (hfresh.heartbeat hnode)
    exact ⟨⟨fun _ => hassigned, fun _ => hwritten, fun h => absurd h hnode⟩, hs'⟩

/-- **The tie-break settles on the smallest node.**  Once the node with the smallest name has made
the object name it, and for as long as its device stays plugged in and its heartbeat fresh, no scan
of another node assigns the name, publishes it or marks it as unplugged, and every scan of the
smallest node assigns it.  Nothing is assumed about the other nodes but that none has a port called
like that. -/
theorem tie_break_settles (r : (fleet rt cfg sha256).Run)
    (hsmallest : ∀ j, j ≠ first → (cfg first).node < (cfg j).node)
    (hport : ∀ n, n < r.length → NotAPort sha256 (cfg (r.label n).node).node
      (fingerprints ((r.label n).input.devices (cfg (r.label n).node))) N)
    (h : TakesOver r m first N key fp) (hmi : m < i) (hi : i < r.length)
    (hfresh : ∀ n, m < n → n ≤ i → StaysFresh r first N key fp n) :
    TieBroken r first N key i := by
  have hholds : (r.state i).Holds (cfg first).node first N key fp := by
    induction i, hmi using Nat.le_induction with
    | base => exact h.holds (h.node ▸ hport m h.lt)
    | succ n hmn ih =>
        have hn := ih (by omega) fun k hk hkn => hfresh k hk (by omega)
        exact (hn.step (by omega) hsmallest (hport n (by omega)) (hfresh n hmn (by omega))).2
  exact (hholds.step hi hsmallest (hport i hi) (hfresh i hmi le_rfl)).1

end Run

end Fleet

/-! Two nodes with an adapter each.  The larger one has published the name; then the smaller one
scans, then the larger and the smaller again. -/

/-- Carry out every call. -/
def DeviceStore.serve : (c : ApiCall) → DeviceStore → c.Answer × DeviceStore
  | .patchDeviceStatus by_ name rv patch, s =>
      ((s.update name rv patch.apply).1.mapError Refusal.toApiError,
        s.effect (.patchDeviceStatus by_ name rv patch))
  | .applyDevice by_ name labels spec, s => (.ok (), s.effect (.applyDevice by_ name labels spec))
  | .patchOwnerReferences .., s => (.ok (), s)
  | .patchClaimStatus .., s => (.ok (), s)
  | .unpause .., s => (.ok (), s)

lemma DeviceStore.served_serve (c : ApiCall) (s : DeviceStore) :
    Served s c (serve c s).1 (serve c s).2 := by
  cases c with
  | patchDeviceStatus by_ name rv patch => exact .done rfl
  | applyDevice by_ name labels spec => exact .done trivial
  | patchOwnerReferences by_ ns name rv refs => exact .done trivial
  | patchClaimStatus by_ ns name patch => exact .done trivial
  | unpause ns name observed => exact .done trivial

/-- The larger node is `true`. -/
def rivalConfig (larger : Bool) : AgentConfig :=
  if larger then { adapterConfig with node := "node-b", podName := "agent-b", podIp := "10.0.0.2" }
  else adapterConfig

/-- The digests of `ch340Digest`, and the one for port 3-3 of `node-b`. -/
def rivalDigest (input : List UInt8) : List UInt8 :=
  if input = hashInput .portPath ["1a86", "7523", "node-b", "3-3"] then
    [0x72, 0xd9, 0xca, 0x82, 0xc9, 0x0a, 0xc4, 0xda, 0x6d, 0x09, 0x66, 0x81, 0x93, 0x22, 0x2e, 0xec,
      0x2a, 0xf2, 0xd5, 0x9a, 0xfe, 0x0b, 0xbf, 0xd2, 0x35, 0xbc, 0x5b, 0x9c, 0xb3, 0xe3, 0xfb,
      0xd5]
  else ch340Digest input

def rivalKey : InstanceKey := ⟨"3-3", 3, 4⟩

def rivalName : String := "usb-1a86-7523-usb-serial-6370e769"

/-- As published by the larger node. -/
def rivalBody : DeviceBody where
  labels := publishedLabels (rivalConfig true) (ch340 "3-3" 4) .descriptor
  spec := publishedSpec (ch340 "3-3" 4) .descriptor
  status := some ({ publishedStatus (rivalConfig true) (ch340 "3-3" 4) with
    lastSeen := .value "2024-01-01T00:00:00Z" }.merge {})

def rivalInput (s : DeviceStore) : ScanInput where
  found := [ch340 "3-3" 4]
  objects := ((s.objects rivalName).map (UsbDevice.ofStored rivalName)).toList
  now := 1704067200
  started := 0
  instant _ := 0
  objects_nodup := by cases s.objects rivalName <;> simp

def rivalNode (n : ℕ) : Bool := n = 1

/-- The scan that the fleet comes to next. -/
def rivalScan (n : ℕ) (s : Fleet Bool) : ApiProg ScanResult :=
  scanOnce .newYear (rivalConfig (rivalNode n)) rivalDigest (s.agents (rivalNode n))
    (rivalInput s.store)

def rivalState : ℕ → Fleet Bool
  | 0 =>
      { store := ⟨fun name => if name = rivalName then some ⟨1, rivalBody⟩ else none, 1⟩
        agents := fun _ =>
          ⟨fun k => if k = rivalKey then some ⟨rivalName, .descriptor⟩ else none,
            fun _ => none, fun _ => none⟩ }
  | n + 1 =>
      let out := (rivalScan n (rivalState n)).exec DeviceStore.serve (rivalState n).store
      ⟨out.2, Function.update (rivalState n).agents (rivalNode n) out.1.state⟩

def rivalLabel (n : ℕ) : Scan Bool where
  node := rivalNode n
  input := rivalInput (rivalState n).store
  trace := (rivalScan n (rivalState n)).trace DeviceStore.serve (rivalState n).store
  result := ((rivalScan n (rivalState n)).exec DeviceStore.serve (rivalState n).store).1

lemma rivalState_serves (n : ℕ) :
    Prog.Evolves server (rivalState n).store (rivalLabel n).trace (rivalState (n + 1)).store :=
  Prog.evolves_trace DeviceStore.served_serve _ _

/-- There is no other object, and the scans create none. -/
lemma rivalState_objects {name : String} (hname : name ≠ rivalName) :
    ∀ n, n ≤ 3 → (rivalState n).store.objects name = none
  | 0, _ => if_neg hname
  | n + 1, hn => by
      have hcalls : ∀ n < 3, ∀ c ∈ (rivalLabel n).trace.map (·.1.device?), c = some rivalName := by
        decide +kernel
      refine (rivalState_serves n).keeps (I := fun store => store.objects name = none)
        (fun e he g g' hserved hg => ?_) (rivalState_objects hname n (by omega))
      rw [Served.objects_of_ne hserved, hg]
      rw [hcalls n hn _ (List.mem_map_of_mem he)]
      exact fun h => hname (Option.some.inj h).symm

def rivalRun : (fleet .newYear rivalConfig rivalDigest).Run where
  length := 3
  state := rivalState
  label := rivalLabel
  init := trivial
  step n hn :=
    { reads := by
        intro name
        by_cases hname : name = rivalName
        · subst hname
          simp only [rivalLabel, rivalInput, ScanInput.object?]
          cases (rivalState n).store.objects rivalName <;> simp
        · rw [rivalState_objects hname n hn.le]
          refine List.find?_eq_none.mpr fun obj hobj => ?_
          simp only [rivalLabel, rivalInput, Option.mem_toList, Option.map_eq_some_iff] at hobj
          obtain ⟨o, -, rfl⟩ := hobj
          exact (decide_eq_true_iff.not.mpr (Ne.symm hname))
      runs := Prog.runs_trace _ _
      serves := rivalState_serves n
      agents := rfl }

lemma rivalRun_takesOver :
    TakesOver rivalRun 0 false rivalName rivalKey (ch340 "3-3" 4).fingerprint where
  lt := by decide
  node := rfl
  plugged := rfl
  apart := by
    intro k k' a a' h h' _
    simp only [rivalRun, rivalState, Option.ite_none_right_eq_some] at h h'
    rw [h.1, h'.1]
  binds := ⟨⟨rivalName, .descriptor⟩, rfl, by decide +kernel⟩
  published := by
    have h : ((rivalState 1).store.objects rivalName).any (fun o =>
        o.value.statusRef.node = some "node-a" ∧ o.value.statusRef.phase = some .available ∧
          o.value.statusRef.exporter.isSome = true) = true := by
      decide +kernel
    obtain ⟨o, ho, hpublished⟩ := (Option.any_eq_true _ _).mp h
    exact ⟨o, ho, of_decide_eq_true hpublished⟩

lemma rivalRun_fresh :
    ∀ n < 3, StaysFresh rivalRun false rivalName rivalKey (ch340 "3-3" 4).fingerprint n := by
  have hfresh : ∀ n < 3, ((rivalState n).store.objects rivalName).all (fun o =>
      (Runtime.newYear.ageSecs o.value.statusRef.lastSeen 1704067200).any fun age => age ≤ 90) =
        true := by
    decide +kernel
  refine fun n hn => ⟨fun _ => rfl, fun hnode o ho => ?_⟩
  have hlarger : rivalNode n = true := Bool.eq_true_of_not_eq_false hnode
  have hage := (Option.all_eq_true _ _).mp (hfresh n hn) o ho
  show (Runtime.newYear.ageSecs o.value.statusRef.lastSeen 1704067200).any
    (fun age => age ≤ (rivalConfig (rivalNode n)).lostAfterSecs) = true
  rw [hlarger]
  exact hage

lemma rivalName_notAPort (larger : Bool) :
    NotAPort rivalDigest (rivalConfig larger).node (fingerprints [ch340 "3-3" 4]) rivalName := by
  intro e he
  rw [List.mem_singleton.mp he]
  revert larger
  decide +kernel

/-- The larger node has the name at first, and loses it for good. -/
theorem tie_break_settles_rivals :
    PublishedBy rivalName "node-b" (rivalRun.state 0).store ∧
    ∀ i, 0 < i → i < 3 → TieBroken rivalRun false rivalName rivalKey i := by
  have hbefore : (rivalState 0).store.objects rivalName = some ⟨1, rivalBody⟩ := by
    simp [rivalState]
  refine ⟨⟨_, hbefore, rfl, rfl, rfl⟩, fun i h0 hi => ?_⟩
  refine tie_break_settles rivalRun ?_ ?_ rivalRun_takesOver h0 hi
    fun n _ hn => rivalRun_fresh n (by omega)
  · intro j hj
    cases j with
    | false => exact absurd rfl hj
    | true => decide +kernel
  · intro n _
    have hdevices : (rivalInput (rivalState n).store).devices (rivalConfig (rivalNode n)) =
        [ch340 "3-3" 4] := by
      cases rivalNode n <;> rfl
    show NotAPort _ _ (fingerprints ((rivalInput (rivalState n).store).devices
      (rivalConfig (rivalNode n)))) _
    rw [hdevices]
    exact rivalName_notAPort _

end AtomicUsb
