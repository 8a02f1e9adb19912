import AtomicUsb.Agent.Discovery
import AtomicUsb.Foundation.Framing
import AtomicUsb.Sysfs.Scan

/-!
# Patterns and selectors

Ids of devices are spelled in three places: by the kernel in sysfs, by users in the selectors of
claims, and by administrators in the `VENDOR:PRODUCT` patterns of devices an agent ignores.  All
three are normalized before they are compared, so what is compared is the numbers they denote
(`usb_ids_agree`).
-/

namespace AtomicUsb

/-- Two spellings denote the same number of 16 bits. -/
def SameUsbId (s t : String) : Prop := ∃ n < 2 ^ 16, usbIdNumber s = some n ∧ usbIdNumber t = some n

/-- A normalized id against another spelling. -/
lemma normalizeUsbId_eq_iff_same {s t x : String} (ht : normalizeUsbId t = some x) :
    normalizeUsbId s = some x ↔ SameUsbId s t := by
  rw [normalizeUsbId_eq_some_of_number ht]
  constructor
  · intro heq
    cases ht' : usbIdNumber t with
    | none =>
        rw [normalizeUsbId_eq_none_iff.mpr ht'] at ht
        cases ht
    | some n => exact ⟨n, usbIdNumber_lt ht', heq.trans ht', ht'⟩
  · rintro ⟨n, -, hs, ht⟩
    rw [hs, ht]

lemma bind_eq_ok {α β : Type} {x : Except String α} {f : α → Except String β} {b : β}
    (h : x.bind f = .ok b) : ∃ a, x = .ok a ∧ f a = .ok b := by
  cases x with
  | error e => cases h
  | ok a => exact ⟨a, rfl, h⟩

variable (rt : Runtime)

/-! ## Patterns -/

namespace DevicePattern

/-- One side of the pattern `s`. -/
def part (s p : String) : Except String (Option String) :=
  if p = "*" then .ok none
  else
    match normalizeUsbId p with
    | some id => .ok (some id)
    | none => .error s!"{rt.debugStr s}: {rt.debugStr p} is not a hex id or *"

def fromStr (s : String) : Except String DevicePattern :=
  match Framing.splitOnceStr ':' s with
  | none => .error s!"{rt.debugStr s}: expected VENDOR:PRODUCT"
  | some (vendor, product) => do
    let vendorId ← part rt s vendor
    let productId ← part rt s product
    pure ⟨vendorId, productId⟩

variable {rt}

/-- A side of a pattern against an id the kernel spells `raw`. -/
lemma part_matches_iff {s p raw got : String} {want : Option String}
    (hpart : part rt s p = .ok want) (hraw : normalizeUsbId raw = some got) :
    want.all (· == got) = true ↔ p = "*" ∨ SameUsbId p raw := by
  unfold part at hpart
  split_ifs at hpart with hstar
  · obtain rfl := Except.ok.inj hpart
    exact iff_of_true rfl (Or.inl hstar)
  · rw [or_iff_right hstar, ← normalizeUsbId_eq_iff_same hraw]
    cases hp : normalizeUsbId p with
    | none =>
        rw [hp] at hpart
        cases hpart
    | some id =>
        rw [hp] at hpart
        obtain rfl := Except.ok.inj hpart
        rw [Option.all_some, beq_iff_eq, Option.some.injEq]

lemma fromStr_eq_ok {s : String} {p : DevicePattern} (h : fromStr rt s = .ok p) :
    ∃ vendor product, Framing.splitOnceStr ':' s = some (vendor, product) ∧
      part rt s vendor = .ok p.vendorId ∧ part rt s product = .ok p.productId := by
  unfold fromStr at h
  split at h
  next => cases h
  next vendor product hsplit =>
    obtain ⟨vendorId, hvendor, h⟩ := bind_eq_ok h
    obtain ⟨productId, hproduct, h⟩ := bind_eq_ok h
    obtain rfl := Except.ok.inj h
    exact ⟨vendor, product, hsplit, hvendor, hproduct⟩

variable {p : DevicePattern} {d : UsbDeviceInfo}

lemma matches_iff : p.matches d = true ↔
    p.vendorId.all (· == d.vendorId) = true ∧ p.productId.all (· == d.productId) = true := by
  rw [DevicePattern.matches, Bool.and_eq_true]

/-- The vendor on its own. -/
lemma matches_vendor_iff : { p with productId := none }.matches d = true ↔
    p.vendorId.all (· == d.vendorId) = true :=
  matches_iff.trans (and_iff_left rfl)

/-- The product on its own. -/
lemma matches_product_iff : { p with vendorId := none }.matches d = true ↔
    p.productId.all (· == d.productId) = true :=
  matches_iff.trans (and_iff_right rfl)

end DevicePattern

/-! ## Selectors -/

namespace DeviceSelector

variable {rt}

lemma idMatches_iff {w raw got : String} (hraw : normalizeUsbId raw = some got) :
    idMatches (some w) got = true ↔ SameUsbId w raw := by
  rw [idMatches, Option.all_some, beq_iff_eq, normalizeUsbId_eq_iff_same hraw]

/-- What has been rejected matches nothing. -/
lemma idMatches_of_rejected {field : String} {id : Option String}
    (h : validateId rt field id ≠ .ok ()) (got : String) : idMatches id got = false := by
  cases id with
  | none => exact absurd rfl h
  | some w =>
      have hnone : normalizeUsbId w = none := by
        by_contra hsome
        refine h ?_
        rw [validateId, if_neg (mt Option.isNone_iff_eq_none.mp hsome)]
      rw [idMatches, Option.all_some, hnone]
      rfl

/-- A selector with an id is rejected for one of its ids. -/
lemma rejected_id {sel : DeviceSelector} (h : sel.validate rt ≠ .ok ())
    (hid : sel.vendorId.isSome = true ∨ sel.productId.isSome = true) :
    validateId rt "vendorId" sel.vendorId ≠ .ok () ∨
      validateId rt "productId" sel.productId ≠ .ok () := by
  by_contra! hok
  refine h ?_
  rw [validate, if_neg (by rcases hid with hid | hid <;> simp [hid]), hok.1, hok.2]
  rfl

lemma matches_of_rejected {sel : DeviceSelector} (h : sel.validate rt ≠ .ok ())
    (hid : sel.vendorId.isSome = true ∨ sel.productId.isSome = true) (d : UsbDevice) :
    sel.matches d = false := by
  unfold DeviceSelector.matches
  rcases rejected_id h hid with hvendor | hproduct
  · rw [idMatches_of_rejected hvendor d.spec.vendorId]
    simp
  · rw [idMatches_of_rejected hproduct d.spec.productId]
    simp

end DeviceSelector

/-- **Ids have one canonical form, on which everything that compares them agrees.**  For a device
`d` of a scan and its published object `obj`, `vendor` and `product` are the ids as the kernel
spells them. -/
theorem usb_ids_agree :
    (∀ s, (normalizeUsbId s).isSome = true ↔ IsHexId (hexPart s)) ∧
    (∀ s x, normalizeUsbId s = some x → IsUsbId x ∧ SameUsbId s x ∧ normalizeUsbId x = some x) ∧
    ∀ (tree : SysfsTree) devices, tree.scan = .ok devices → ∀ d ∈ devices,
      ∀ (obj : UsbDevice) source, obj.spec = publishedSpec d source →
        ∃ vendor product, tree.readAttr d.portPath "idVendor" = some vendor ∧
          tree.readAttr d.portPath "idProduct" = some product ∧
          (∀ sel : DeviceSelector, sel.validate rt = .ok () →
            (∀ w, sel.vendorId = some w →
              (DeviceSelector.idMatches sel.vendorId obj.spec.vendorId = true ↔
                SameUsbId w vendor)) ∧
            ∀ w, sel.productId = some w →
              (DeviceSelector.idMatches sel.productId obj.spec.productId = true ↔
                SameUsbId w product)) ∧
          (∀ s p, DevicePattern.fromStr rt s = .ok p →
            ∃ v q, Framing.splitOnceStr ':' s = some (v, q) ∧
              ({ p with productId := none }.matches d = true ↔ v = "*" ∨ SameUsbId v vendor) ∧
              ({ p with vendorId := none }.matches d = true ↔ q = "*" ∨ SameUsbId q product) ∧
              (p.matches d = true ↔
                (v = "*" ∨ SameUsbId v vendor) ∧ (q = "*" ∨ SameUsbId q product))) ∧
          (∀ field w, DeviceSelector.validateId rt field (some w) ≠ .ok () →
            DeviceSelector.idMatches (some w) obj.spec.vendorId = false ∧
              DeviceSelector.idMatches (some w) obj.spec.productId = false) ∧
          ∀ sel : DeviceSelector, sel.validate rt ≠ .ok () →
            (sel.vendorId.isSome = true ∨ sel.productId.isSome = true) →
            sel.matches obj = false := by
  refine ⟨fun s => ?_, fun s x h => ?_, fun tree devices hscan d hd obj source hspec => ?_⟩
  · rw [normalizeUsbId_eq, Option.isSome_ite]
  · obtain ⟨hx, -⟩ := normalizeUsbId_eq_some_iff.mp h
    have hself : normalizeUsbId x = some x := normalizeUsbId_eq_some_iff.mpr ⟨hx, rfl⟩
    exact ⟨hx, (normalizeUsbId_eq_iff_same hself).mp h, hself⟩
  · obtain ⟨vendor, hvendor, hv⟩ := (SysfsTree.readFrom_of_mem_scan hscan hd).vendorId
    obtain ⟨product, hproduct, hp⟩ := (SysfsTree.readFrom_of_mem_scan hscan hd).productId
    refine ⟨vendor, product, hvendor, hproduct, fun sel _ => ⟨?_, ?_⟩, fun s p hs => ?_, ?_, ?_⟩
    · intro w hw
      rw [hw, hspec]
      exact DeviceSelector.idMatches_iff hv
    · intro w hw
      rw [hw, hspec]
      exact DeviceSelector.idMatches_iff hp
    · obtain ⟨v, q, hsplit, hpv, hpq⟩ := DevicePattern.fromStr_eq_ok hs
      have hvendorOnly := DevicePattern.part_matches_iff hpv hv
      have hproductOnly := DevicePattern.part_matches_iff hpq hp
      refine ⟨v, q, hsplit, DevicePattern.matches_vendor_iff.trans hvendorOnly,
        DevicePattern.matches_product_iff.trans hproductOnly, ?_⟩
      exact DevicePattern.matches_iff.trans (and_congr hvendorOnly hproductOnly)
    · exact fun field w h => ⟨DeviceSelector.idMatches_of_rejected h _,
        DeviceSelector.idMatches_of_rejected h _⟩
    · exact fun sel h hid => DeviceSelector.matches_of_rejected h hid obj

/-- A serial adapter on port `3-3`. -/
def serialAdapterTree : SysfsTree where
  entries := .ok [some "usb3", some "3-3", none, some "3-3:1.0"]
  read dir attr :=
    if dir = "3-3" then
      ([("busnum", "3\n"), ("devnum", "12\n"), ("idVendor", "1a86\n"), ("idProduct", "7523\n"),
        ("bDeviceClass", "ff\n"), ("serial", "  \n")].lookup attr).map Text.bytes
    else if dir = "3-3:1.0" ∧ attr = "bInterfaceClass" then some (Text.bytes "ff\n")
    else none

def serialAdapter : UsbDeviceInfo where
  portPath := "3-3"
  busNum := 3
  devNum := 12
  vendorId := "1a86"
  productId := "7523"
  serial := none
  manufacturer := none
  product := none
  bcdDevice := none
  deviceClass := 0xff
  interfaceClasses := [0xff]
  speed := none

def serialAdapterObject : UsbDevice where
  name := "adapter"
  resourceVersion := 1
  labels := []
  spec := publishedSpec serialAdapter .descriptor
  status := none

theorem usb_ids_agree_serialAdapter :
    serialAdapterTree.scan = .ok [serialAdapter] ∧
      DeviceSelector.idMatches (some " 1A86") serialAdapterObject.spec.vendorId = true ∧
      DevicePattern.fromStr Runtime.newYear "0X1A86:*" = .ok ⟨some "1a86", none⟩ ∧
      DevicePattern.matches ⟨some "1a86", none⟩ serialAdapter = true ∧
      DeviceSelector.matches { productId := some "0x17523" } serialAdapterObject = false := by
  have hscan : serialAdapterTree.scan = .ok [serialAdapter] := by decide +kernel
  have hpattern : DevicePattern.fromStr Runtime.newYear "0X1A86:*" = .ok ⟨some "1a86", none⟩ := rfl
  obtain ⟨vendor, product, hvendor, -, hselector, hfromStr, -, hrejected⟩ :=
    (usb_ids_agree Runtime.newYear).2.2 serialAdapterTree _ hscan serialAdapter
      (List.mem_singleton_self _) serialAdapterObject .descriptor rfl
  obtain rfl : "1a86" = vendor :=
    Option.some.inj ((by decide +kernel : some "1a86" = _).trans hvendor)
  obtain ⟨v, q, hsplit, -, -, hwhole⟩ := hfromStr _ _ hpattern
  have hsides : some ("0X1A86", "*") = some (v, q) :=
    (by decide +kernel : some ("0X1A86", "*") = _).trans hsplit
  obtain ⟨rfl, rfl⟩ := Prod.mk.inj (Option.some.inj hsides)
  refine ⟨hscan, ?_, hpattern, ?_, ?_⟩
  · exact ((hselector { vendorId := some " 1A86" } rfl).1 _ rfl).mpr
      ⟨0x1a86, by decide, by decide +kernel, by decide +kernel⟩
  · exact hwhole.mpr
      ⟨Or.inr ⟨0x1a86, by decide, by decide +kernel, by decide +kernel⟩, Or.inl rfl⟩
  · exact hrejected _ (by decide +kernel) (Or.inr rfl)

end AtomicUsb
