import AtomicUsb.Foundation.SortedMap
import AtomicUsb.Foundation.Utf8
import AtomicUsb.Identity.Separation

/-!
# Enumeration of USB devices from sysfs

`scan` reads the devices of a node from the files the kernel keeps about them.  What a file holds is
arbitrary bytes as far as the agent is concerned.  A device that is found has its ids in the
canonical spelling (`readFrom_of_mem_scan`), and where the files hold text it has the attributes
names are derived from (`fromSysfs_of_mem_scan`).
-/

namespace AtomicUsb

/-- The directory `bus/usb/devices`. -/
structure SysfsTree where
  /-- Its entries, if it can be listed; `none` is one that cannot be read or has no Unicode name. -/
  entries : Except String (List (Option String))
  /-- The content of an entry's attribute file, if it can be read. -/
  read : String → String → Option (List UInt8)

namespace SysfsTree

variable (tree : SysfsTree)

/-- Reads a sysfs attribute, trimming the trailing newline; empty or unreadable attributes are
`none`. -/
def readAttr (dir attr : String) : Option String :=
  (tree.read dir attr).bind fun raw =>
    let text := Text.fromUtf8Lossy raw
    let value := Text.trim (text.rdropWhile fun c => c = '\n' ∨ c = Char.ofNat 0)
    if value = [] then none else some (String.ofList value)

def readHexU8 (dir attr : String) : Option UInt8 :=
  (tree.readAttr dir attr).bind fun s => (Text.fromStrRadix 16 255 s.toList).map UInt8.ofNat

/-- An attribute parsed as a `u32`. -/
def readU32 (dir attr : String) : Option ℕ :=
  (tree.readAttr dir attr).bind fun s => Text.fromStrRadix 10 (2 ^ 32 - 1) s.toList

def readDevice (name : String) : Option UsbDeviceInfo := do
  let busNum ← tree.readU32 name "busnum"
  let devNum ← tree.readU32 name "devnum"
  let vendorId ← (tree.readAttr name "idVendor").bind normalizeUsbId
  let productId ← (tree.readAttr name "idProduct").bind normalizeUsbId
  let deviceClass ← tree.readHexU8 name "bDeviceClass"
  pure {
    portPath := name
    busNum := busNum
    devNum := devNum
    vendorId := vendorId
    productId := productId
    serial := tree.readAttr name "serial"
    manufacturer := tree.readAttr name "manufacturer"
    product := tree.readAttr name "product"
    bcdDevice := tree.readAttr name "bcdDevice"
    deviceClass := deviceClass
    interfaceClasses := []
    speed := tree.readAttr name "speed" }

/-- The classes of a device's interfaces, which look like `3-1.4:1.0`. -/
def interfaceClasses (names : List String) (name : String) : List UInt8 :=
  (names.filter fun iface => (name ++ ":").toList.isPrefixOf iface.toList).filterMap fun iface =>
    tree.readHexU8 iface "bInterfaceClass"

/-- All fully enumerated devices except root hubs, sorted by port path. -/
def scan : Except String (List UsbDeviceInfo) := do
  let entries ← tree.entries
  let names := sortByKey id (entries.filterMap id)
  pure (names.filterMap fun name =>
    -- interfaces have a `:`, root hubs are called `usb3`
    if ':' ∈ name.toList ∨ "usb".toList.isPrefixOf name.toList then none
    else (tree.readDevice name).map fun device =>
      { device with interfaceClasses := tree.interfaceClasses names name })

/-! ## Attributes -/

variable {tree}

lemma readAttr_eq_some {dir attr s : String} (h : tree.readAttr dir attr = some s) :
    ∃ raw, tree.read dir attr = some raw ∧ s ≠ "" ∧ s.toList =
      Text.trim ((Text.fromUtf8Lossy raw).rdropWhile fun c => c = '\n' ∨ c = Char.ofNat 0) := by
  obtain ⟨raw, hraw, h⟩ := Option.bind_eq_some_iff.mp h
  dsimp only at h
  rw [Option.ite_none_left_eq_some, Option.some.injEq] at h
  obtain ⟨hne, rfl⟩ := h
  refine ⟨raw, hraw, fun hempty => hne ?_, String.toList_ofList⟩
  rw [← @String.toList_ofList (Text.trim _), hempty]
  rfl

/-- An attribute of a file that holds text. -/
lemma isAttr_of_readAttr {dir attr s t : String} (h : tree.readAttr dir attr = some s)
    (hread : tree.read dir attr = some (Text.bytes t)) (hnul : Text.NulFree t) : IsAttr s := by
  obtain ⟨raw, hraw, hne, hs⟩ := readAttr_eq_some h
  rw [hread, Option.some.injEq] at hraw
  rw [← hraw, Text.fromUtf8Lossy_bytes] at hs
  refine ⟨hne, ?_, fun hmem => hnul ?_⟩
  · rw [hs, Text.trim_trim]
  · rw [hs] at hmem
    exact (List.rdropWhile_prefix _ _).subset (Text.mem_of_mem_trim hmem)

/-! ## Devices -/

/-- The device is what the attributes of an entry say. -/
structure ReadFrom (tree : SysfsTree) (name : String) (d : UsbDeviceInfo) : Prop where
  portPath : d.portPath = name
  vendorId : ∃ id, tree.readAttr name "idVendor" = some id ∧ normalizeUsbId id = some d.vendorId
  productId : ∃ id, tree.readAttr name "idProduct" = some id ∧ normalizeUsbId id = some d.productId
  serial : d.serial = tree.readAttr name "serial"
  manufacturer : d.manufacturer = tree.readAttr name "manufacturer"
  product : d.product = tree.readAttr name "product"
  bcdDevice : d.bcdDevice = tree.readAttr name "bcdDevice"

lemma readFrom_of_readDevice {name : String} {d : UsbDeviceInfo}
    (h : tree.readDevice name = some d) : ReadFrom tree name d := by
  unfold readDevice at h
  simp only [Option.bind_eq_bind, Option.bind_eq_some_iff, Option.pure_def, Option.some.injEq] at h
  obtain ⟨busNum, -, devNum, -, vendorId, hvendor, productId, hproduct, deviceClass, -, rfl⟩ := h
  exact ⟨rfl, hvendor, hproduct, rfl, rfl, rfl, rfl⟩

/-- A device that was found has been read from the entry it is called after. -/
lemma readFrom_of_mem_scan {devices : List UsbDeviceInfo} (h : tree.scan = .ok devices)
    {d : UsbDeviceInfo} (hd : d ∈ devices) : ReadFrom tree d.portPath d := by
  unfold scan at h
  cases hentries : tree.entries with
  | error e =>
      rw [hentries] at h
      cases h
  | ok entries =>
      rw [hentries] at h
      obtain rfl := Except.ok.inj h
      obtain ⟨name, -, hname⟩ := List.mem_filterMap.mp hd
      rw [Option.ite_none_left_eq_some] at hname
      obtain ⟨e, he, rfl⟩ := Option.map_eq_some_iff.mp hname.2
      have hread := readFrom_of_readDevice he
      obtain rfl := hread.portPath
      exact ⟨rfl, hread.vendorId, hread.productId, hread.serial, hread.manufacturer, hread.product,
        hread.bcdDevice⟩

/-- Where the kernel writes text, a device that was found has the attributes the names are derived
from. -/
lemma fromSysfs_of_mem_scan {devices : List UsbDeviceInfo} (h : tree.scan = .ok devices)
    {d : UsbDeviceInfo} (hd : d ∈ devices)
    (htext : ∀ attr raw, tree.read d.portPath attr = some raw →
      ∃ t, raw = Text.bytes t ∧ Text.NulFree t) : d.fingerprint.FromSysfs := by
  have hattr : ∀ attr s, tree.readAttr d.portPath attr = some s → IsAttr s := by
    intro attr s hs
    obtain ⟨raw, hraw, -, -⟩ := readAttr_eq_some hs
    obtain ⟨t, rfl, hnul⟩ := htext attr raw hraw
    exact isAttr_of_readAttr hs hraw hnul
  have hread := readFrom_of_mem_scan h hd
  obtain ⟨_, -, hvendor⟩ := hread.vendorId
  obtain ⟨_, -, hproduct⟩ := hread.productId
  exact {
    vendorId := (normalizeUsbId_eq_some_iff.mp hvendor).1
    productId := (normalizeUsbId_eq_some_iff.mp hproduct).1
    serial := fun s hs => hattr "serial" s (hread.serial ▸ hs)
    bcdDevice := fun s hs => hattr "bcdDevice" s (hread.bcdDevice ▸ hs)
    manufacturer := fun s hs => hattr "manufacturer" s (hread.manufacturer ▸ hs)
    product := fun s hs => hattr "product" s (hread.product ▸ hs) }

end SysfsTree

end AtomicUsb
