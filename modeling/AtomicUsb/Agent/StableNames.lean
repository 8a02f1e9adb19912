import AtomicUsb.Agent.Discovery

/-!
# Names of plugged-in devices: distinct and stable

Two results about what a node calls its devices.

Within one scan, `assign_exact`: every device gets exactly one decision, no two are assigned the
same name, nothing is lost when the decisions are entered into the local view, and the order of
enumeration is irrelevant.

Over the scans of a node's lifetime, `assignment_stable`: as long as a device stays plugged in
and the object of its name is not somebody else's, every scan assigns it what the first one did.
The argument is an invariant of the sticky map, `StickyOk`: distinct names, none of which is the
port name of another port.  The delicate entries are those that stay behind while their device
is deferred.  Such a device has lost the tie-break for its name, so the name is freshly held by
another node, and then nobody else on this node is assigned it either.
-/

namespace AtomicUsb

/-! ## Entering the decisions -/

lemma adopt_sticky (decisions : InstanceKey → Option Decision) (key : InstanceKey) :
    ∀ (devices : List UsbDeviceInfo) (acc : (InstanceKey → Option Assignment) × LocalView × Bool),
      (devices.foldl (adopt decisions) acc).1 key =
        if key ∈ devices.map (·.instanceKey) then
          match decisions key with
          | some (.assigned a) => some a
          | _ => acc.1 key
        else acc.1 key
  | [], _ => rfl
  | d :: devices, acc => by
      rw [List.foldl_cons, adopt_sticky decisions key devices]
      by_cases hd : key = d.instanceKey
      · subst hd
        unfold adopt
        cases hdec : decisions d.instanceKey with
        | none => simp
        | some decision => cases decision <;> simp
      · have hacc : (adopt decisions acc d).1 key = acc.1 key := by
          unfold adopt
          split
          · exact Function.update_of_ne hd _ _
          · rfl
          · rfl
        simp only [hacc, List.map_cons, List.mem_cons, hd, false_or]

/-- A name nobody else is assigned stays in the view with the device that was assigned it. -/
lemma adopt_view (decisions : InstanceKey → Option Decision) {d : UsbDeviceInfo}
    {a : Assignment} (hd : decisions d.instanceKey = some (.assigned a)) :
    ∀ (devices : List UsbDeviceInfo) (acc : (InstanceKey → Option Assignment) × LocalView × Bool),
      (∀ e ∈ devices, ∀ b, decisions e.instanceKey = some (.assigned b) → b.name = a.name →
        e = d) →
      (d ∈ devices ∨ acc.2.1 a.name = some (d, a.source)) →
      (devices.foldl (adopt decisions) acc).2.1 a.name = some (d, a.source)
  | [], _, _, h => h.resolve_left List.not_mem_nil
  | e :: devices, acc, hdistinct, h => by
      refine adopt_view decisions hd devices _
        (fun e' he' => hdistinct e' (List.mem_cons_of_mem _ he')) ?_
      by_cases he : e = d
      · subst he
        refine Or.inr ?_
        simp [adopt, hd]
      · rcases h with h | h
        · exact Or.inl ((List.mem_cons.mp h).resolve_left (Ne.symm he))
        · refine Or.inr ?_
          unfold adopt
          split
          · rename_i b hb
            have hne : a.name ≠ b.name :=
              fun hname => he (hdistinct e List.mem_cons_self b hb hname.symm)
            simpa [Function.update_of_ne hne] using h
          · exact h
          · exact h

/-! ## Naming assumptions -/

/-- The naming assumptions about a set of plugged-in devices: two fingerprints share a portable
name only at the same tier with the same attributes there, and a port name is neither a portable
name nor the port name of another port. -/
structure NamesApart (sha256 : List UInt8 → List UInt8) (node : String)
    (S : InstanceKey × Fingerprint → Prop) : Prop where
  portable : ∀ e e', S e → S e' → ∀ s t name, e.2.portableName sha256 s = some name →
    e'.2.portableName sha256 t = some name → s = t ∧ e.2.tierKey s = e'.2.tierKey t
  port : ∀ e e', S e → S e' → ∀ t,
    e'.2.portableName sha256 t ≠ some (e.2.portName sha256 node e.1.portPath)
  ports : ∀ e e', S e → S e' → e.1.portPath ≠ e'.1.portPath →
    e.2.portName sha256 node e.1.portPath ≠ e'.2.portName sha256 node e'.1.portPath

lemma NamesApart.portableApart {sha256 : List UInt8 → List UInt8} {node : String}
    {S : InstanceKey × Fingerprint → Prop} (h : NamesApart sha256 node S)
    {loc : List (InstanceKey × Fingerprint)} (hloc : ∀ e ∈ loc, S e) :
    PortableApart sha256 node loc where
  portable e he e' he' := h.portable e e' (hloc e he) (hloc e' he')
  port e he e' he' := h.port e e' (hloc e he) (hloc e' he')

/-! Two devices that nothing but their ports tells apart, with SHA-256 as far as their names need
it, show that the assumptions can be met. -/

/-- A serial adapter without a serial number. -/
def ch340 (port : String) (devNum : ℕ) : UsbDeviceInfo where
  portPath := port
  busNum := 3
  devNum := devNum
  vendorId := "1a86"
  productId := "7523"
  serial := none
  manufacturer := none
  product := some "USB Serial"
  bcdDevice := some "0264"
  deviceClass := 0xff
  interfaceClasses := [0xff]
  speed := some "12"

/-- The digests that the names of adapters in ports 3-3 and 3-4 of `node-a` are made of. -/
def ch340Digest (input : List UInt8) : List UInt8 :=
  if input = hashInput .descriptor ["1a86", "7523", "0264", "", "USB Serial"] then
    [0x63, 0x70, 0xe7, 0x69, 0x2f, 0x98, 0xda, 0x11, 0xce, 0xeb, 0xf3, 0x64, 0xb3, 0xd1, 0x4c, 0xc2,
      0xbb, 0x87, 0x8b, 0x87, 0x98, 0x21, 0x04, 0x3f, 0x93, 0x56, 0x75, 0x4b, 0xd7, 0x50, 0x14,
      0x40]
  else if input = hashInput .portPath ["1a86", "7523", "node-a", "3-3"] then
    [0xce, 0xde, 0xe9, 0xf5, 0x6b, 0x74, 0x48, 0x7c, 0xa2, 0xd3, 0x42, 0x0f, 0xd1, 0xca, 0x6a, 0x82,
      0x9c, 0x33, 0x2c, 0x2a, 0x84, 0xc7, 0xda, 0x66, 0x64, 0x78, 0xf7, 0x61, 0x2b, 0xc3, 0xd5,
      0x1a]
  else if input = hashInput .portPath ["1a86", "7523", "node-a", "3-4"] then
    [0x39, 0x99, 0x7e, 0x1d, 0xc9, 0x54, 0x6f, 0xfd, 0xca, 0x11, 0x4d, 0x7d, 0x08, 0xc5, 0xb6, 0x8f,
      0xe7, 0xfb, 0xbe, 0xb1, 0xae, 0x9d, 0xf2, 0x16, 0x12, 0x36, 0xfe, 0x39, 0xc7, 0x3a, 0x35,
      0xf6]
  else []

def twoAdapters : List UsbDeviceInfo := [ch340 "3-3" 4, ch340 "3-4" 5]

lemma mem_twoAdapters {e : InstanceKey × Fingerprint} (h : e ∈ fingerprints twoAdapters) :
    e.2 = (ch340 "3-3" 4).fingerprint ∧ (e.1 = ⟨"3-3", 3, 4⟩ ∨ e.1 = ⟨"3-4", 3, 5⟩) := by
  simp only [fingerprints, twoAdapters, List.map_cons, List.map_nil, List.mem_cons,
    List.not_mem_nil, or_false] at h
  rcases h with rfl | rfl
  · exact ⟨rfl, Or.inl rfl⟩
  · exact ⟨rfl, Or.inr rfl⟩

lemma ch340_portableName {tier : IdentitySource} {name : String}
    (h : (ch340 "3-3" 4).fingerprint.portableName ch340Digest tier = some name) :
    tier = .descriptor ∧ name = "usb-1a86-7523-usb-serial-6370e769" := by
  cases tier with
  | descriptor =>
      refine ⟨rfl, ?_⟩
      rw [← Option.some.injEq, ← h]
      decide +kernel
  | serial => cases h
  | serialDescriptor => cases h
  | portPath => cases h

lemma ch340_portName :
    (ch340 "3-3" 4).fingerprint.portName ch340Digest "node-a" "3-3" =
        "usb-1a86-7523-node-a-3-3-cedee9f5" ∧
    (ch340 "3-3" 4).fingerprint.portName ch340Digest "node-a" "3-4" =
        "usb-1a86-7523-node-a-3-4-39997e1d" := by
  decide +kernel

lemma twoAdapters_namesApart :
    NamesApart ch340Digest "node-a" (· ∈ fingerprints twoAdapters) where
  portable e e' he he' s t name h h' := by
    rw [(mem_twoAdapters he).1] at h ⊢
    rw [(mem_twoAdapters he').1] at h' ⊢
    rw [(ch340_portableName h).1, (ch340_portableName h').1]
    exact ⟨rfl, rfl⟩
  port e e' he he' t h := by
    obtain ⟨hfp, hkey⟩ := mem_twoAdapters he
    rw [(mem_twoAdapters he').1] at h
    have hname := (ch340_portableName h).2
    rw [hfp] at hname
    rcases hkey with hkey | hkey
    · simp only [hkey, ch340_portName.1] at hname
      exact absurd hname (by decide)
    · simp only [hkey, ch340_portName.2] at hname
      exact absurd hname (by decide)
  ports e e' he he' hne := by
    obtain ⟨hfp, hkey⟩ := mem_twoAdapters he
    obtain ⟨hfp', hkey'⟩ := mem_twoAdapters he'
    rw [hfp, hfp']
    rcases hkey with hkey | hkey <;> rcases hkey' with hkey' | hkey' <;>
      simp only [hkey, hkey', ne_eq, not_true_eq_false, ch340_portName.1, ch340_portName.2] at hne ⊢
    · decide
    · decide

/-! ## One scan -/

/-- **Distinct local devices get distinct names, whatever the enumeration order.** Under the
naming assumptions of `PortableApart` and `PortsApart`, `assign` decides about exactly the
devices it is given, never assigns two of them one name — so the local view has every assigned
device under its name — and does not depend on their order. -/
theorem assign_exact (sha256 : List UInt8 → List UInt8) (ctx : AssignContext)
    (devices : List UsbDeviceInfo) (hports : (devices.map (·.portPath)).Nodup)
    (hsticky : StickyApart ctx.sticky)
    (hportable : PortableApart sha256 ctx.node (fingerprints devices))
    (hport : PortsApart sha256 ctx (fingerprints devices)) :
    (∀ k, (assign sha256 ctx devices k).isSome ↔ ∃ d ∈ devices, d.instanceKey = k) ∧
    (∀ d ∈ devices, ∀ e ∈ devices, ∀ a b,
      assign sha256 ctx devices d.instanceKey = some (.assigned a) →
      assign sha256 ctx devices e.instanceKey = some (.assigned b) → a.name = b.name → d = e) ∧
    (∀ d ∈ devices, ∀ a, assign sha256 ctx devices d.instanceKey = some (.assigned a) →
      (adoptAll (assign sha256 ctx devices) ctx.sticky devices).2.1 a.name =
        some (d, a.source)) ∧
    ∀ devices', devices'.Perm devices →
      assign sha256 ctx devices' = assign sha256 ctx devices := by
  obtain ⟨hin, hout⟩ := assign_eq hports hsticky hportable
  have hdistinct : ∀ d ∈ devices, ∀ e ∈ devices, ∀ a b,
      assign sha256 ctx devices d.instanceKey = some (.assigned a) →
      assign sha256 ctx devices e.instanceKey = some (.assigned b) → a.name = b.name → d = e := by
    intro d hd e he a b ha hb hname
    rw [hin d hd, Option.some.injEq] at ha
    rw [hin e he, Option.some.injEq] at hb
    have hloc : ((fingerprints devices).map (·.1.portPath)).Nodup := by
      simpa [fingerprints, Function.comp_def, UsbDeviceInfo.instanceKey] using hports
    have hentry := decisionOf_apart hloc hsticky hportable hport (mem_fingerprints hd)
      (mem_fingerprints he) ha hb hname
    have hkey : d.instanceKey = e.instanceKey := congrArg Prod.fst hentry
    exact List.inj_on_of_nodup_map hports hd he (congrArg InstanceKey.portPath hkey)
  refine ⟨fun k => ⟨fun hk => ?_, ?_⟩, hdistinct, fun d hd a ha => ?_, fun devices' hperm => ?_⟩
  · by_contra hno
    rw [hout k (fun hmem => hno (List.mem_map.mp hmem))] at hk
    exact Bool.false_ne_true hk
  · rintro ⟨d, hd, rfl⟩
    rw [hin d hd]
    rfl
  · exact adopt_view _ ha devices _
      (fun e he b hb hname => hdistinct e he d hd b a hb ha hname) (Or.inl hd)
  · exact assign_perm hperm hports hsticky hportable

/-- Two lookalikes on a fresh node: each is named after its port. -/
theorem assign_exact_twoAdapters :
    assign ch340Digest ⟨"node-a", fun _ => none, [], fun _ => false⟩ twoAdapters ⟨"3-3", 3, 4⟩ =
        some (.assigned ⟨"usb-1a86-7523-node-a-3-3-cedee9f5", .portPath⟩) ∧
    assign ch340Digest ⟨"node-a", fun _ => none, [], fun _ => false⟩ twoAdapters ⟨"3-4", 3, 5⟩ =
        some (.assigned ⟨"usb-1a86-7523-node-a-3-4-39997e1d", .portPath⟩) ∧
    assign ch340Digest ⟨"node-a", fun _ => none, [], fun _ => false⟩ twoAdapters.reverse =
      assign ch340Digest ⟨"node-a", fun _ => none, [], fun _ => false⟩ twoAdapters := by
  refine ⟨by decide +kernel, by decide +kernel, ?_⟩
  refine (assign_exact ch340Digest ⟨"node-a", fun _ => none, [], fun _ => false⟩ twoAdapters
    (by decide) (fun _ _ _ _ h => by cases h) (twoAdapters_namesApart.portableApart fun _ h => h)
    ⟨fun e he e' he' => ?_, fun e he k a h => by cases h⟩).2.2.2 _ (List.reverse_perm _)
  exact twoAdapters_namesApart.ports e e' he he'

/-! ## The sticky map over the scans of a node -/

section Runs

variable {rt : Runtime} {cfg : AgentConfig} {sha256 : List UInt8 → List UInt8}

/-- The invariant of the sticky map: distinct names, none of them the port name that a device of
`S` has at another port. -/
structure StickyOk (sha256 : List UInt8 → List UInt8) (node : String)
    (S : InstanceKey × Fingerprint → Prop) (sticky : InstanceKey → Option Assignment) : Prop where
  apart : StickyApart sticky
  port : ∀ k a, sticky k = some a → ∀ e, S e → e.1.portPath ≠ k.portPath →
    a.name ≠ e.2.portName sha256 node e.1.portPath

variable {S : InstanceKey × Fingerprint → Prop}

lemma stickyOk_empty : StickyOk sha256 cfg.node S fun _ => none where
  apart _ _ _ _ h := by cases h
  port _ _ h := by cases h

/-- A recovered assignment is the name of an object that reports the instance. -/
lemma recoverStep_foldl {node : String} {k : InstanceKey} {a : Assignment} :
    ∀ {objects : List UsbDevice} {sticky : InstanceKey → Option Assignment},
      objects.foldl (recoverStep node) sticky k = some a →
      sticky k = some a ∨ ∃ obj ∈ objects, obj.name = a.name ∧ obj.reportedInstance = some k
  | [], _, h => Or.inl h
  | obj :: objects, sticky, h => by
      rw [List.foldl_cons] at h
      rcases recoverStep_foldl h with h | ⟨o, ho, hrest⟩
      · unfold recoverStep at h
        split_ifs at h with hskip
        · exact Or.inl h
        · cases hkey : obj.reportedInstance with
          | none =>
              rw [hkey] at h
              exact Or.inl h
          | some key =>
              rw [hkey] at h
              by_cases hk : k = key
              · subst hk
                simp only [Function.update_self, Option.some.injEq] at h
                subst h
                exact Or.inr ⟨obj, List.mem_cons_self, rfl, hkey⟩
              · simp only [Function.update_of_ne hk] at h
                exact Or.inl h
      · exact Or.inr ⟨o, List.mem_cons_of_mem _ ho, hrest⟩

lemma recoverAssignments_eq {node : String} {objects : List UsbDevice} {k : InstanceKey}
    {a : Assignment} (h : recoverAssignments node objects k = some a) :
    ∃ obj ∈ objects, obj.name = a.name ∧ obj.reportedInstance = some k :=
  (recoverStep_foldl h).resolve_left (by simp)

lemma UsbDevice.portPath_of_reported {obj : UsbDevice} {k : InstanceKey}
    (h : obj.reportedInstance = some k) : obj.statusRef.portPath = some k.portPath := by
  unfold UsbDevice.reportedInstance at h
  split at h
  · rename_i hp _ _
    rw [Option.some.injEq] at h
    rw [hp, ← h]
  · cases h

/-- No object bears the port name that a device of `S` has at a port other than the object's. -/
def PortNamesOwn (sha256 : List UInt8 → List UInt8) (node : String)
    (S : InstanceKey × Fingerprint → Prop) (objects : List UsbDevice) : Prop :=
  ∀ obj ∈ objects, ∀ e, S e → obj.statusRef.portPath ≠ some e.1.portPath →
    obj.name ≠ e.2.portName sha256 node e.1.portPath

lemma stickyOk_recover {objects : List UsbDevice} (hnd : (objects.map (·.name)).Nodup)
    (hown : PortNamesOwn sha256 cfg.node S objects) :
    StickyOk sha256 cfg.node S (recoverAssignments cfg.node objects) where
  apart k k' a a' h h' hname := by
    obtain ⟨obj, hobj, hn, hk⟩ := recoverAssignments_eq h
    obtain ⟨obj', hobj', hn', hk'⟩ := recoverAssignments_eq h'
    have hsame : obj = obj' :=
      List.inj_on_of_nodup_map hnd hobj hobj' (hn.trans (hname.trans hn'.symm))
    rw [hsame, hk', Option.some.injEq] at hk
    exact hk.symm
  port k a h e he hport := by
    obtain ⟨obj, hobj, hn, hk⟩ := recoverAssignments_eq h
    rw [← hn]
    refine hown obj hobj e he ?_
    rw [UsbDevice.portPath_of_reported hk, ne_eq, Option.some.injEq]
    exact hport.symm

/-! ### One scan -/

/-- The devices of the scan are among those the assumptions speak about. -/
def ScanWithin (cfg : AgentConfig) (S : InstanceKey × Fingerprint → Prop)
    (input : ScanInput) : Prop :=
  ∀ d ∈ input.devices cfg, S (d.instanceKey, d.fingerprint)

lemma ScanWithin.of_mem {input : ScanInput} (h : ScanWithin cfg S input)
    (e : InstanceKey × Fingerprint) (he : e ∈ fingerprints (input.devices cfg)) : S e := by
  obtain ⟨d, hd, rfl⟩ := List.mem_map.mp he
  exact h d hd

lemma scanOnce_result {state : Discovery} {input : ScanInput} {tr : List ApiEvent}
    {r : ScanResult} (h : (scanOnce rt cfg sha256 state input).Runs tr r) :
    r.decisions = assign sha256 (scanContext rt cfg input state) (input.devices cfg) ∧
    r.state.sticky = (adoptAll r.decisions (retainSticky cfg input state.sticky)
      (input.devices cfg)).1 := by
  obtain ⟨_, _, _, -, -, h⟩ := Prog.runs_bind.mp h
  obtain ⟨_, _, _, -, -, h⟩ := Prog.runs_bind.mp h
  obtain ⟨-, rfl⟩ := Prog.runs_pure.mp h
  exact ⟨rfl, rfl⟩

/-- With distinct ports, the fingerprint recorded for an instance is that of its device. -/
lemma fingerprintOf_mem {devices : List UsbDeviceInfo} (hports : (devices.map (·.portPath)).Nodup)
    {d : UsbDeviceInfo} (hd : d ∈ devices) :
    fingerprintOf devices d.instanceKey = some d.fingerprint := by
  unfold fingerprintOf
  cases hf : devices.reverse.find? (·.instanceKey = d.instanceKey) with
  | none =>
      have := List.find?_eq_none.mp hf d (List.mem_reverse.mpr hd)
      simp at this
  | some e =>
      have he : e ∈ devices := List.mem_reverse.mp (List.mem_of_find?_eq_some hf)
      have hkey : e.instanceKey = d.instanceKey := by simpa using List.find?_some hf
      have : e = d := List.inj_on_of_nodup_map hports he hd (congrArg InstanceKey.portPath hkey)
      rw [this, Option.map_some]

lemma exists_of_fingerprintOf {devices : List UsbDeviceInfo} {k : InstanceKey} {fp : Fingerprint}
    (h : fingerprintOf devices k = some fp) :
    ∃ d ∈ devices, d.instanceKey = k ∧ d.fingerprint = fp := by
  obtain ⟨d, hfind, hfp⟩ := Option.map_eq_some_iff.mp h
  refine ⟨d, List.mem_reverse.mp (List.mem_of_find?_eq_some hfind), ?_, hfp⟩
  simpa using List.find?_some hfind

lemma retainSticky_eq {input : ScanInput} {sticky : InstanceKey → Option Assignment}
    {k : InstanceKey} {a : Assignment} (h : retainSticky cfg input sticky k = some a) :
    sticky k = some a ∧ ∃ d ∈ input.devices cfg, d.instanceKey = k := by
  obtain ⟨hs, hany⟩ := Option.filter_eq_some_iff.mp h
  refine ⟨hs, ?_⟩
  cases hf : fingerprintOf (input.devices cfg) k with
  | none => simp [hf] at hany
  | some fp =>
      obtain ⟨d, hd, hkey, -⟩ := exists_of_fingerprintOf hf
      exact ⟨d, hd, hkey⟩

lemma StickyOk.retain {input : ScanInput} {sticky : InstanceKey → Option Assignment}
    (h : StickyOk sha256 cfg.node S sticky) :
    StickyOk sha256 cfg.node S (retainSticky cfg input sticky) where
  apart k k' a a' ha ha' := h.apart k k' a a' (retainSticky_eq ha).1 (retainSticky_eq ha').1
  port k a ha := h.port k a (retainSticky_eq ha).1

lemma StickyOk.portsApart (hnames : NamesApart sha256 cfg.node S) {input : ScanInput}
    (hports : ((input.devices cfg).map (·.portPath)).Nodup) (hwithin : ScanWithin cfg S input)
    {state : Discovery} (h : StickyOk sha256 cfg.node S state.sticky) :
    PortsApart sha256 (scanContext rt cfg input state) (fingerprints (input.devices cfg)) where
  port e he e' he' := hnames.ports e e' (hwithin.of_mem e he) (hwithin.of_mem e' he')
  sticky e he k a ha hne := by
    obtain ⟨hs, d, hd, rfl⟩ := retainSticky_eq ha
    refine h.port _ a hs e (hwithin.of_mem e he) fun hport => hne ?_
    obtain ⟨d', hd', rfl⟩ := List.mem_map.mp he
    rw [List.inj_on_of_nodup_map hports hd hd' hport.symm]

/-- Where an entry of the sticky map comes from: it was assigned in this scan, or it stayed
behind because its device lost the tie-break for the name. -/
lemma adoptAll_sticky (hnames : NamesApart sha256 cfg.node S) {input : ScanInput}
    (hports : ((input.devices cfg).map (·.portPath)).Nodup) (hwithin : ScanWithin cfg S input)
    {state : Discovery} (hok : StickyOk sha256 cfg.node S state.sticky) {k : InstanceKey}
    {a : Assignment}
    (h : (adoptAll (assign sha256 (scanContext rt cfg input state) (input.devices cfg))
      (retainSticky cfg input state.sticky) (input.devices cfg)).1 k = some a) :
    ∃ d ∈ input.devices cfg, d.instanceKey = k ∧
      (decisionOf sha256 (scanContext rt cfg input state) (fingerprints (input.devices cfg))
          (d.instanceKey, d.fingerprint) = .assigned a ∨
        (retainSticky cfg input state.sticky k = some a ∧
          (scanContext rt cfg input state).lostTie a = true)) := by
  rw [adoptAll, adopt_sticky] at h
  split_ifs at h with hk
  · obtain ⟨d, hd, rfl⟩ := List.mem_map.mp hk
    refine ⟨d, hd, rfl, ?_⟩
    rw [(assign_eq hports hok.retain.apart (hnames.portableApart hwithin.of_mem)).1 d hd] at h
    cases hdec : decisionOf sha256 (scanContext rt cfg input state)
        (fingerprints (input.devices cfg)) (d.instanceKey, d.fingerprint) with
    | assigned b =>
        rw [hdec] at h
        exact Or.inl (congrArg Decision.assigned (Option.some.inj h))
    | deferred name heldBy =>
        rw [hdec] at h
        refine Or.inr ⟨h, ?_⟩
        by_contra htie
        have hkept : (scanContext rt cfg input state).kept d.instanceKey = some a :=
          Option.filter_eq_some_iff.mpr ⟨h, by simpa using htie⟩
        simp [decisionOf, hkept] at hdec
  · obtain ⟨-, d, hd, rfl⟩ := retainSticky_eq h
    exact absurd (List.mem_map_of_mem hd) hk

/-- A name that lost its tie-break is assigned to nobody else. -/
lemma not_assigned_of_lostTie (hnames : NamesApart sha256 cfg.node S) {input : ScanInput}
    (hports : ((input.devices cfg).map (·.portPath)).Nodup) (hwithin : ScanWithin cfg S input)
    {state : Discovery} (hok : StickyOk sha256 cfg.node S state.sticky) {d : UsbDeviceInfo}
    (hd : d ∈ input.devices cfg) {k : InstanceKey} {a b : Assignment}
    (ha : decisionOf sha256 (scanContext rt cfg input state) (fingerprints (input.devices cfg))
      (d.instanceKey, d.fingerprint) = .assigned a)
    (hb : retainSticky cfg input state.sticky k = some b)
    (htie : (scanContext rt cfg input state).lostTie b = true) (hname : a.name = b.name) :
    d.instanceKey = k := by
  unfold decisionOf at ha
  cases hkept : (scanContext rt cfg input state).kept d.instanceKey with
  | some a' =>
      simp only [hkept, Decision.assigned.injEq] at ha
      subst ha
      exact hok.retain.apart _ _ _ _ (AssignContext.sticky_of_kept hkept) hb hname
  | none =>
      simp only [hkept] at ha
      rcases chooseFrom_assigned ha with ⟨-, -, -, hholder⟩ | hport
      · obtain ⟨other, hother, hne, -⟩ := AssignContext.lostTie_iff.mp htie
        exact absurd (hholder other (hname ▸ hother)) hne
      · by_contra hne
        have hapart : PortsApart sha256 (scanContext rt cfg input state)
            (fingerprints (input.devices cfg)) := hok.portsApart hnames hports hwithin
        exact hapart.sticky _ (mem_fingerprints hd) k b hb (Ne.symm hne) (hname ▸ hport)

/-- The invariant survives a scan. -/
lemma StickyOk.scan (hnames : NamesApart sha256 cfg.node S) {input : ScanInput}
    (hports : ((input.devices cfg).map (·.portPath)).Nodup) (hwithin : ScanWithin cfg S input)
    {state : Discovery} (hok : StickyOk sha256 cfg.node S state.sticky) :
    StickyOk sha256 cfg.node S
      (adoptAll (assign sha256 (scanContext rt cfg input state) (input.devices cfg))
        (retainSticky cfg input state.sticky) (input.devices cfg)).1 where
  apart k k' a a' h h' hname := by
    obtain ⟨d, hd, rfl, hfrom⟩ := adoptAll_sticky hnames hports hwithin hok h
    obtain ⟨d', hd', rfl, hfrom'⟩ := adoptAll_sticky hnames hports hwithin hok h'
    rcases hfrom with ha | ⟨ha, htie⟩ <;> rcases hfrom' with ha' | ⟨ha', htie'⟩
    · have hloc : ((fingerprints (input.devices cfg)).map (·.1.portPath)).Nodup := by
        simpa [fingerprints, Function.comp_def, UsbDeviceInfo.instanceKey] using hports
      exact congrArg Prod.fst (decisionOf_apart hloc hok.retain.apart
        (hnames.portableApart hwithin.of_mem) (hok.portsApart hnames hports hwithin)
        (mem_fingerprints hd) (mem_fingerprints hd') ha ha' hname)
    · exact not_assigned_of_lostTie hnames hports hwithin hok hd ha ha' htie' hname
    · exact (not_assigned_of_lostTie hnames hports hwithin hok hd' ha' ha htie hname.symm).symm
    · exact hok.retain.apart _ _ _ _ ha ha' hname
  port k a h e he hport := by
    obtain ⟨d, hd, rfl, hfrom⟩ := adoptAll_sticky hnames hports hwithin hok h
    rcases hfrom with ha | ⟨ha, -⟩
    · unfold decisionOf at ha
      cases hkept : (scanContext rt cfg input state).kept d.instanceKey with
      | some a' =>
          simp only [hkept, Decision.assigned.injEq] at ha
          subst ha
          exact hok.retain.port _ _ (AssignContext.sticky_of_kept hkept) e he hport
      | none =>
          simp only [hkept] at ha
          rcases chooseFrom_assigned ha with ⟨hname, -, -, -⟩ | hname
          · intro heq
            exact hnames.port e _ he (hwithin d hd) a.source (hname.trans (congrArg some heq))
          · rw [hname]
            exact (hnames.ports e _ he (hwithin d hd) hport).symm
    · exact hok.retain.port _ _ ha e he hport

/-! ### The scans of a node, one after the other -/

/-- Everything the scans of a sequence ever find plugged in. -/
def everPlugged (cfg : AgentConfig) (input : ℕ → ScanInput) (e : InstanceKey × Fingerprint) :
    Prop :=
  ∃ n, ∃ d ∈ (input n).devices cfg, (d.instanceKey, d.fingerprint) = e

/-- Consecutive scans of one agent, with whatever the API server answers.  Of what a scan
remembers only the names are handed on here: the defer sets and the record of status writes may
be anything. -/
structure ScanRun (rt : Runtime) (cfg : AgentConfig) (sha256 : List UInt8 → List UInt8) where
  input : ℕ → ScanInput
  state : ℕ → Discovery
  result : ℕ → ScanResult
  runs : ∀ n, ∃ tr, (scanOnce rt cfg sha256 (state n) (input n)).Runs tr (result n)
  next : ∀ n, (state (n + 1)).sticky = (result n).state.sticky
  /-- The agent starts without names, or with those it recovers. -/
  start : (state 0).sticky = (fun _ => none) ∨ ∃ objects,
    (objects.map UsbDevice.name).Nodup ∧
    PortNamesOwn sha256 cfg.node (everPlugged cfg input) objects ∧
    (state 0).sticky = recoverAssignments cfg.node objects

namespace ScanRun

variable (run : ScanRun rt cfg sha256)

/-- The device is plugged in, as this enumeration, in the given scan. -/
def Plugged (n : ℕ) (key : InstanceKey) (fp : Fingerprint) : Prop :=
  ∃ d ∈ (run.input n).devices cfg, d.instanceKey = key ∧ d.fingerprint = fp

/-- The object a name stands for does not keep the device from keeping the name. -/
def Undisputed (n : ℕ) (name : String) (fp : Fingerprint) : Prop :=
  ∀ obj, (run.input n).object? name = some obj → obj.fingerprint = fp ∧
    ¬ (obj.isAvailable rt (run.input n).now cfg.lostAfterSecs = true ∧
      ∃ node, obj.statusRef.node = some node ∧ node < cfg.node)

variable {run}

lemma stickyOk (hnames : NamesApart sha256 cfg.node (everPlugged cfg run.input))
    (hports : ∀ n, (((run.input n).devices cfg).map (·.portPath)).Nodup) :
    ∀ n, StickyOk sha256 cfg.node (everPlugged cfg run.input) (run.state n).sticky
  | 0 => by
      rcases run.start with h | ⟨objects, hnd, hown, h⟩
      · rw [h]
        exact stickyOk_empty
      · rw [h]
        exact stickyOk_recover hnd hown
  | n + 1 => by
      obtain ⟨tr, hrun⟩ := run.runs n
      obtain ⟨hdec, hsticky⟩ := scanOnce_result hrun
      rw [run.next n, hsticky, hdec]
      exact (stickyOk hnames hports n).scan hnames (hports n) fun d hd => ⟨n, d, hd, rfl⟩

/-- Holding a name that is not disputed is enough to be assigned it again. -/
lemma kept_of_undisputed {n : ℕ} {key : InstanceKey} {fp : Fingerprint} {a : Assignment}
    (hports : (((run.input n).devices cfg).map (·.portPath)).Nodup)
    (hplugged : run.Plugged n key fp) (hfree : run.Undisputed n a.name fp)
    (h : (run.state n).sticky key = some a) :
    (scanContext rt cfg (run.input n) (run.state n)).kept key = some a := by
  obtain ⟨d, hd, rfl, rfl⟩ := hplugged
  refine Option.filter_eq_some_iff.mpr ⟨Option.filter_eq_some_iff.mpr ⟨h, ?_⟩, ?_⟩
  · rw [fingerprintOf_mem hports hd]
    cases hobj : (run.input n).object? a.name with
    | none => simp
    | some obj => simp [(hfree obj hobj).1]
  · rw [Bool.not_eq_true', ← Bool.not_eq_true]
    intro htie
    obtain ⟨other, hholder, -, hlt⟩ := AssignContext.lostTie_iff.mp htie
    obtain ⟨k, hk, hpresent⟩ := Option.bind_eq_some_iff.mp hholder
    obtain ⟨obj, hobj, rfl⟩ := List.mem_map.mp (List.mem_reverse.mp (List.mem_of_find?_eq_some hk))
    have hname : obj.name = a.name := by simpa using List.find?_some hk
    have hget : (run.input n).object? a.name = some obj := by
      rw [← hname]
      exact List.find?_key_of_mem (run.input n).objects_nodup hobj
    simp only [Option.ite_none_right_eq_some] at hpresent
    exact (hfree obj hget).2 ⟨hpresent.1, other, hpresent.2, hlt⟩

/-- A name that was assigned is still held when the next scan looks, as long as the device stays
plugged in and the name is not disputed. -/
lemma sticky_of_assigned {n : ℕ}
    {key : InstanceKey} {fp : Fingerprint} {a : Assignment} (hplugged : run.Plugged n key fp)
    (h : (run.result n).decisions key = some (.assigned a)) :
    (run.state (n + 1)).sticky key = some a := by
  obtain ⟨tr, hrun⟩ := run.runs n
  obtain ⟨-, hsticky⟩ := scanOnce_result hrun
  obtain ⟨d, hd, rfl, -⟩ := hplugged
  rw [run.next n, hsticky, adoptAll, adopt_sticky, if_pos (List.mem_map_of_mem hd), h]

lemma assigned_of_sticky (hnames : NamesApart sha256 cfg.node (everPlugged cfg run.input))
    (hports : ∀ n, (((run.input n).devices cfg).map (·.portPath)).Nodup) {n : ℕ}
    {key : InstanceKey} {fp : Fingerprint} {a : Assignment} (hplugged : run.Plugged n key fp)
    (hfree : run.Undisputed n a.name fp) (h : (run.state n).sticky key = some a) :
    (run.result n).decisions key = some (.assigned a) := by
  obtain ⟨tr, hrun⟩ := run.runs n
  have hkept := kept_of_undisputed (hports n) hplugged hfree h
  obtain ⟨d, hd, rfl, -⟩ := hplugged
  have hwithin : ScanWithin cfg (everPlugged cfg run.input) (run.input n) :=
    fun d hd => ⟨n, d, hd, rfl⟩
  rw [(scanOnce_result hrun).1, (assign_eq (hports n) (stickyOk hnames hports n).retain.apart
    (hnames.portableApart hwithin.of_mem)).1 d hd]
  simp [decisionOf, hkept]

end ScanRun

/-- **Names are sticky while a device stays plugged in.** A device assigned `a` in scan `i` is
assigned exactly `a` in every later scan `j`, provided that it is plugged in, as the same
enumeration and with the same fingerprint, in all scans up to `j`, and that in none of them the
object of its name carries another fingerprint or is freshly available on a smaller node. -/
theorem assignment_stable (run : ScanRun rt cfg sha256)
    (hnames : NamesApart sha256 cfg.node (everPlugged cfg run.input))
    (hports : ∀ n, (((run.input n).devices cfg).map (·.portPath)).Nodup)
    {i : ℕ} {key : InstanceKey} {fp : Fingerprint} {a : Assignment}
    (hassigned : (run.result i).decisions key = some (.assigned a)) (j : ℕ) (hij : i ≤ j)
    (hplugged : ∀ n, i ≤ n → n ≤ j → run.Plugged n key fp)
    (hfree : ∀ n, i < n → n ≤ j → run.Undisputed n a.name fp) :
    (run.result j).decisions key = some (.assigned a) := by
  induction j, hij using Nat.le_induction with
  | base => exact hassigned
  | succ j hij ih =>
      have hj := ih (fun n hi hn => hplugged n hi (Nat.le_succ_of_le hn))
        (fun n hi hn => hfree n hi (Nat.le_succ_of_le hn))
      have hsticky := ScanRun.sticky_of_assigned
        (hplugged j hij (Nat.le_succ j)) hj
      exact ScanRun.assigned_of_sticky hnames hports
        (hplugged (j + 1) (Nat.le_succ_of_le hij) le_rfl)
        (hfree (j + 1) (Nat.lt_succ_of_le hij) le_rfl) hsticky

/-! One adapter is there first; its lookalike arrives with the second scan and stays. -/

def adapterConfig : AgentConfig where
  node := "node-a"
  podName := "agent-a"
  podIp := "10.0.0.1"
  listenPort := 7443
  includeHubs := false
  ignored := []
  heartbeatInterval := 30000
  lostAfter := 90000

def adapterScan (n : ℕ) : ScanInput where
  found := if n = 0 then [ch340 "3-3" 4] else twoAdapters
  objects := []
  now := 1704067200
  started := n
  instant _ := n
  objects_nodup := List.nodup_nil

/-- Every write succeeds, and what a device patch returns is not looked at. -/
def adapterAnswer : (c : ApiCall) → c.Answer
  | .patchDeviceStatus .. => .error .notFound
  | .applyDevice .. => .ok ()
  | .patchOwnerReferences .. => .ok ()
  | .patchClaimStatus .. => .ok ()
  | .unpause .. => .ok ()

def adapterResult : ℕ → ScanResult
  | 0 => ((scanOnce .newYear adapterConfig ch340Digest .new (adapterScan 0)).follow adapterAnswer).2
  | n + 1 => ((scanOnce .newYear adapterConfig ch340Digest (adapterResult n).state
      (adapterScan (n + 1))).follow adapterAnswer).2

def adapterState : ℕ → Discovery
  | 0 => .new
  | n + 1 => (adapterResult n).state

lemma adapterScan_devices (n : ℕ) :
    (adapterScan n).devices adapterConfig = if n = 0 then [ch340 "3-3" 4] else twoAdapters := by
  unfold ScanInput.devices adapterScan
  split_ifs
  · rfl
  · rfl

def adapterRun : ScanRun .newYear adapterConfig ch340Digest where
  input := adapterScan
  state := adapterState
  result := adapterResult
  runs n := by
    cases n with
    | zero => exact ⟨_, Prog.runs_follow adapterAnswer _⟩
    | succ n => exact ⟨_, Prog.runs_follow adapterAnswer _⟩
  next _ := rfl
  start := Or.inl rfl

lemma adapterRun_plugged {e : InstanceKey × Fingerprint}
    (h : everPlugged adapterConfig adapterScan e) : e ∈ fingerprints twoAdapters := by
  obtain ⟨n, d, hd, rfl⟩ := h
  rw [adapterScan_devices] at hd
  refine mem_fingerprints ?_
  split_ifs at hd
  · exact List.mem_cons.mpr (Or.inl (List.mem_singleton.mp hd))
  · exact hd

/-- The adapter that came first keeps the name made from its descriptor. -/
theorem assignment_stable_adapters :
    (adapterRun.result 0).decisions ⟨"3-3", 3, 4⟩ =
        some (.assigned ⟨"usb-1a86-7523-usb-serial-6370e769", .descriptor⟩) ∧
    (adapterRun.result 100).decisions ⟨"3-3", 3, 4⟩ =
        some (.assigned ⟨"usb-1a86-7523-usb-serial-6370e769", .descriptor⟩) := by
  have hfirst : (adapterRun.result 0).decisions ⟨"3-3", 3, 4⟩ =
      some (.assigned ⟨"usb-1a86-7523-usb-serial-6370e769", .descriptor⟩) := by decide +kernel
  have hnames : NamesApart ch340Digest "node-a" (everPlugged adapterConfig adapterScan) :=
    { portable := fun e e' he he' => twoAdapters_namesApart.portable e e'
        (adapterRun_plugged he) (adapterRun_plugged he')
      port := fun e e' he he' => twoAdapters_namesApart.port e e'
        (adapterRun_plugged he) (adapterRun_plugged he')
      ports := fun e e' he he' => twoAdapters_namesApart.ports e e'
        (adapterRun_plugged he) (adapterRun_plugged he') }
  have hports : ∀ n, (((adapterScan n).devices adapterConfig).map (·.portPath)).Nodup := by
    intro n
    rw [adapterScan_devices]
    split_ifs
    · decide
    · decide
  have hplugged : ∀ n, adapterRun.Plugged n ⟨"3-3", 3, 4⟩ (ch340 "3-3" 4).fingerprint := by
    intro n
    refine ⟨ch340 "3-3" 4, ?_, rfl, rfl⟩
    show ch340 "3-3" 4 ∈ (adapterScan n).devices adapterConfig
    rw [adapterScan_devices]
    split_ifs
    · exact List.mem_cons_self
    · exact List.mem_cons_self
  refine ⟨hfirst, assignment_stable adapterRun hnames hports hfirst 100 (Nat.zero_le _)
    (fun n _ _ => hplugged n) ?_⟩
  intro n _ _ obj hobj
  cases hobj

end Runs

end AtomicUsb
