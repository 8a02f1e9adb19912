import AtomicUsb.Agent.StableNames
import AtomicUsb.Identity.OneName

/-!
# What a scan does with one name

`ScanCall` lists the calls of a scan: it publishes what is in its local view, and marks as unplugged
what the node published and is not in the view.  What becomes of one name follows from
`not_assigned_of_held` and `assigned_of_kept`.  If the object of the name is freshly published by a
smaller node, the name does not get into the view (`scan_spares`).  If it stands, the instance that
has it is published under it (`scan_keeps`).
-/

namespace AtomicUsb

variable {rt : Runtime} {cfg : AgentConfig} {sha256 : List UInt8 → List UInt8} {N : String}

/-- The local view of a scan. -/
def scanView (rt : Runtime) (cfg : AgentConfig) (sha256 : List UInt8 → List UInt8)
    (state : Discovery) (input : ScanInput) : LocalView :=
  (adoptAll (assign sha256 (scanContext rt cfg input state) (input.devices cfg))
    (scanContext rt cfg input state).sticky (input.devices cfg)).2.1

/-! ## The calls -/

/-- The calls of a scan with the given view. -/
inductive ScanCall (cfg : AgentConfig) (input : ScanInput) (view : LocalView) : ApiCall → Prop
  | spec {name : String} {d : UsbDeviceInfo} {source : IdentitySource}
      {labels : List (String × String)} (hview : view name = some (d, source)) :
      ScanCall cfg input view (.applyDevice (.agent cfg.node) name labels (publishedSpec d source))
  | heartbeat {name : String} {d : UsbDeviceInfo} {source : IdentitySource} {lastSeen : String}
      (hview : view name = some (d, source)) :
      ScanCall cfg input view (.patchDeviceStatus (.agent cfg.node) name none
        { publishedStatus cfg d with lastSeen := .value lastSeen })
  | unplugged {obj : UsbDevice} {patch : DeviceStatusPatch} (hobj : obj ∈ input.objects)
      (hview : view obj.name = none) (hnode : obj.statusRef.node = some cfg.node) :
      ScanCall cfg input view
        (.patchDeviceStatus (.agent cfg.node) obj.name (some obj.resourceVersion) patch)

lemma publish_issues {input : ScanInput} {view : LocalView} {name : String} {d : UsbDeviceInfo}
    {source : IdentitySource} (hview : view name = some (d, source)) {existing : Option UsbDevice}
    {now : ℤ} {instant : ℕ} {writes : StatusWrites} :
    (publish rt cfg name d source existing now instant writes).Issues
      (ScanCall cfg input view) :=
  issues_publish rt cfg (fun _ => .spec hview) fun _ => .heartbeat hview

lemma publishAll_issues {input : ScanInput} {view : LocalView} :
    ∀ {names : List String} {writes : StatusWrites},
      (publishAll rt cfg input view names writes).Issues (ScanCall cfg input view)
  | [], _ => trivial
  | name :: names, writes => by
      refine Prog.Issues.bind ?_ fun _ => publishAll_issues
      unfold publishLocal
      split
      · trivial
      · rename_i d source hview
        exact publish_issues hview

lemma markAllUnplugged_issues {input : ScanInput} {view : LocalView} :
    ∀ {objs : List UsbDevice}, (∀ obj ∈ objs, obj ∈ input.objects) →
      (markAllUnplugged rt cfg input view objs).Issues (ScanCall cfg input view)
  | [], _ => trivial
  | obj :: objs, h => by
      refine Prog.Issues.bind ?_ fun _ =>
        markAllUnplugged_issues fun o ho => h o (List.mem_cons_of_mem _ ho)
      unfold unplugMissing
      split
      · rename_i hmissing
        exact ⟨.unplugged (h obj List.mem_cons_self) (by simpa using hmissing.2.2) hmissing.1,
          fun _ => trivial⟩
      · trivial

/-- A scan sends nothing else. -/
lemma scanOnce_issues (state : Discovery) (input : ScanInput) :
    (scanOnce rt cfg sha256 state input).Issues
      (ScanCall cfg input (scanView rt cfg sha256 state input)) :=
  Prog.Issues.bind publishAll_issues fun _ =>
    Prog.Issues.bind (markAllUnplugged_issues fun _ h => h) fun _ => trivial

/-! ## One name -/

/-- A name that nobody is assigned is not in the view. -/
lemma adopt_view_of_spared {decisions : InstanceKey → Option Decision}
    (h : ∀ k b, decisions k = some (.assigned b) → b.name ≠ N) :
    ∀ (devices : List UsbDeviceInfo) (acc : (InstanceKey → Option Assignment) × LocalView × Bool),
      (devices.foldl (adopt decisions) acc).2.1 N = acc.2.1 N
  | [], _ => rfl
  | d :: devices, acc => by
      rw [List.foldl_cons, adopt_view_of_spared h devices]
      unfold adopt
      split
      · rename_i b hb
        exact Function.update_of_ne (h _ b hb).symm _ _
      · rfl
      · rfl

/-- A name that one instance is assigned is in the view with the device that the scan has for that
instance. -/
lemma adopt_view_of_only {decisions : InstanceKey → Option Decision} {key : InstanceKey}
    {a : Assignment} (hkey : decisions key = some (.assigned a)) (ha : a.name = N)
    (honly : ∀ k b, decisions k = some (.assigned b) → b.name = N → k = key)
    (acc : (InstanceKey → Option Assignment) × LocalView × Bool) (devices : List UsbDeviceInfo) :
    (devices.foldl (adopt decisions) acc).2.1 N =
      ((devices.reverse.find? (·.instanceKey = key)).map fun d => (d, a.source)).or
        (acc.2.1 N) := by
  induction devices using List.reverseRecOn with
  | nil => rfl
  | append_singleton devices d ih =>
      rw [List.foldl_append, List.reverse_append, List.reverse_singleton, List.singleton_append,
        List.find?_cons]
      by_cases hd : d.instanceKey = key
      · simp [adopt, hd, hkey, ha]
      · simp only [hd, decide_false, List.foldl_cons, List.foldl_nil]
        rw [← ih]
        unfold adopt
        split
        · rename_i b hb
          exact Function.update_of_ne (fun hN => hd (honly _ b hb hN.symm)) _ _
        · rfl
        · rfl

/-- What `assign` knows about a name is what the object of that name says. -/
lemma knownByName_scan (state : Discovery) (input : ScanInput) :
    (scanContext rt cfg input state).knownByName N = (input.object? N).map fun o =>
      { name := o.name
        fingerprint := o.fingerprint
        presentOn :=
          if o.isAvailable rt input.now cfg.lostAfterSecs then o.statusRef.node else none } := by
  have hnd : ((input.known rt cfg).reverse.map (·.name)).Nodup := by
    simpa [ScanInput.known, List.map_reverse, List.nodup_reverse, Function.comp_def] using
      input.objects_nodup
  cases hobj : input.object? N with
  | none =>
      refine List.find?_eq_none.mpr fun k hk => ?_
      obtain ⟨o, ho, rfl⟩ := List.mem_map.mp (List.mem_reverse.mp hk)
      exact List.find?_eq_none.mp hobj o ho
  | some o =>
      have ho := List.mem_of_find?_eq_some hobj
      have hname : o.name = N := by simpa using List.find?_some hobj
      subst hname
      have hmem := List.mem_reverse.mpr (List.mem_map_of_mem (f := fun o : UsbDevice =>
        KnownDevice.mk o.name o.fingerprint
          (if o.isAvailable rt input.now cfg.lostAfterSecs then o.statusRef.node else none)) ho)
      exact List.find?_key_of_mem hnd hmem

/-- A node holds the name if the object of that name is available there. -/
lemma holder_scan {state : Discovery} {input : ScanInput} {other : String} :
    (scanContext rt cfg input state).holder N = some other ↔
      ∃ obj, input.object? N = some obj ∧ obj.isAvailable rt input.now cfg.lostAfterSecs = true ∧
        obj.statusRef.node = some other := by
  rw [AssignContext.holder, knownByName_scan]
  cases input.object? N <;> simp

/-- A name freshly published by another node that wins the tie-break is left alone. -/
lemma scan_spares {state : Discovery} {input : ScanInput} {other : String} {obj : UsbDevice}
    (hobj : input.object? N = some obj)
    (havailable : obj.isAvailable rt input.now cfg.lostAfterSecs = true)
    (hnode : obj.statusRef.node = some other) (hlt : other < cfg.node)
    (hport : NotAPort sha256 cfg.node (fingerprints (input.devices cfg)) N) :
    (∀ k b, assign sha256 (scanContext rt cfg input state) (input.devices cfg) k =
      some (.assigned b) → b.name ≠ N) ∧ scanView rt cfg sha256 state input N = none := by
  have hheld : (scanContext rt cfg input state).holder N = some other :=
    holder_scan.mpr ⟨obj, hobj, havailable, hnode⟩
  have hspared : ∀ k b, assign sha256 (scanContext rt cfg input state) (input.devices cfg) k =
      some (.assigned b) → b.name ≠ N :=
    fun k b hb => not_assigned_of_held hheld hlt.ne hlt hport hb
  exact ⟨hspared, adopt_view_of_spared hspared _ _⟩

/-- What a scan does for the one instance whose name `N` stands. -/
structure Keeps (rt : Runtime) (cfg : AgentConfig) (sha256 : List UInt8 → List UInt8)
    (state : Discovery) (input : ScanInput) (N : String) (key : InstanceKey) (fp : Fingerprint) :
    Prop where
  assigned : ∃ a, a.name = N ∧ assign sha256 (scanContext rt cfg input state)
    (input.devices cfg) key = some (.assigned a)
  only : ∀ k b, assign sha256 (scanContext rt cfg input state) (input.devices cfg) k =
    some (.assigned b) → b.name = N → k = key
  view : ∀ d source, scanView rt cfg sha256 state input N = some (d, source) → d.fingerprint = fp
  published : (scanView rt cfg sha256 state input N).isSome = true

/-- A name that only this instance has from earlier, and that stands, is assigned to it again. -/
lemma scan_keeps {state : Discovery} {input : ScanInput} {key : InstanceKey} {a : Assignment}
    {fp : Fingerprint} (hsticky : (scanContext rt cfg input state).sticky key = some a)
    (ha : a.name = N) (honly : ∀ k b, state.sticky k = some b → b.name = N → k = key)
    (htie : (scanContext rt cfg input state).lostTie a = false)
    (hfp : fingerprintOf (input.devices cfg) key = some fp)
    (hport : NotAPort sha256 cfg.node (fingerprints (input.devices cfg)) N) :
    Keeps rt cfg sha256 state input N key fp := by
  obtain ⟨d, hfind, hd⟩ := Option.map_eq_some_iff.mp hfp
  have hmem : key ∈ (input.devices cfg).map (·.instanceKey) := by
    obtain ⟨d', hd', rfl, -⟩ := exists_of_fingerprintOf hfp
    exact List.mem_map_of_mem hd'
  have hkept : (scanContext rt cfg input state).kept key = some a :=
    Option.filter_eq_some_iff.mpr ⟨hsticky, by simp [htie]⟩
  obtain ⟨hassigned, hunique⟩ := assigned_of_kept hkept ha
    (fun k b hb => honly k b (retainSticky_eq hb).1) hmem hport
  have hview : scanView rt cfg sha256 state input N = some (d, a.source) := by
    unfold scanView adoptAll
    rw [adopt_view_of_only hassigned ha hunique, hfind]
    rfl
  refine ⟨⟨a, ha, hassigned⟩, hunique, fun d' source hd' => ?_, by rw [hview]; rfl⟩
  rw [hview, Option.some.injEq, Prod.mk.injEq] at hd'
  rw [← hd'.1]
  exact hd

/-- … and the sticky map still binds the name to this instance alone. -/
lemma Keeps.sticky {state : Discovery} {input : ScanInput} {key : InstanceKey} {fp : Fingerprint}
    (h : Keeps rt cfg sha256 state input N key fp)
    (honly : ∀ k b, state.sticky k = some b → b.name = N → k = key)
    (hfp : fingerprintOf (input.devices cfg) key = some fp)
    {sticky : InstanceKey → Option Assignment}
    (hsticky : sticky = (adoptAll (assign sha256 (scanContext rt cfg input state)
      (input.devices cfg)) (retainSticky cfg input state.sticky) (input.devices cfg)).1) :
    (∃ a, a.name = N ∧ sticky key = some a) ∧
      ∀ k b, sticky k = some b → b.name = N → k = key := by
  obtain ⟨a, ha, hassigned⟩ := h.assigned
  obtain ⟨d, hd, rfl, -⟩ := exists_of_fingerprintOf hfp
  have hmem : d.instanceKey ∈ (input.devices cfg).map (·.instanceKey) := List.mem_map_of_mem hd
  subst hsticky
  refine ⟨⟨a, ha, ?_⟩, fun k b hb hname => ?_⟩
  · rw [adoptAll, adopt_sticky, if_pos hmem, hassigned]
  · rw [adoptAll, adopt_sticky] at hb
    split_ifs at hb with hk
    · split at hb
      · rename_i c hc
        rw [Option.some.injEq] at hb
        exact h.only k c hc (hb ▸ hname)
      · exact honly k b (retainSticky_eq hb).1 hname
    · exact honly k b (retainSticky_eq hb).1 hname

end AtomicUsb
