import AtomicUsb.Foundation.Text
import AtomicUsb.Sysfs

/-!
# Names of physical USB devices

Each device gets the name of the most unique identity tier that is unambiguous in the cluster.
This module has the tiers, the attribute tuples they compare and the object names derived from
them; which tier a device ends up with is decided in `Identity/Assign.lean`.

SHA-256 is not part of the sources, so it is a parameter `sha256` throughout: the digest of a
byte sequence.
-/

namespace AtomicUsb

/-- Maximum length of the human-readable slug derived from a serial number or port path. -/
def maxSlugLen : ℕ := 40

/-- Which attributes an object's name was derived from (`IdentitySource`). -/
inductive IdentitySource
  /-- Vendor id, product id and serial number. -/
  | serial
  /-- The above plus `bcdDevice`, manufacturer and product strings. -/
  | serialDescriptor
  /-- Vendor id, product id, `bcdDevice` and strings, for devices without a serial number. -/
  | descriptor
  /-- Node and physical port path. -/
  | portPath
  deriving DecidableEq

/-- Tiers from most to least unique. -/
def IdentitySource.order : List IdentitySource :=
  [.serial, .serialDescriptor, .descriptor, .portPath]

/-- The tag a tier is hashed under. -/
def IdentitySource.tag : IdentitySource → String
  | .serial => "serial"
  | .serialDescriptor => "serial+descriptor"
  | .descriptor => "descriptor"
  | .portPath => "port"

/-- `{source:?}`. -/
def IdentitySource.debug : IdentitySource → String
  | .serial => "Serial"
  | .serialDescriptor => "SerialDescriptor"
  | .descriptor => "Descriptor"
  | .portPath => "PortPath"

/-- Descriptor attributes that belong to the device itself, as opposed to where it is plugged
in. -/
structure Fingerprint where
  vendorId : String
  productId : String
  serial : Option String
  bcdDevice : Option String
  manufacturer : Option String
  product : Option String
  deriving DecidableEq

/-- `Fingerprint::from`. -/
def UsbDeviceInfo.fingerprint (d : UsbDeviceInfo) : Fingerprint where
  vendorId := d.vendorId
  productId := d.productId
  serial := d.serial
  bcdDevice := d.bcdDevice
  manufacturer := d.manufacturer
  product := d.product

/-! ## Slugs and hashes -/

/-- The character a slug has for `ch`. -/
def slugChar (ch : Char) : Char :=
  if ('a' ≤ ch ∧ ch ≤ 'z') ∨ ('0' ≤ ch ∧ ch ≤ '9') then ch
  else if 'A' ≤ ch ∧ ch ≤ 'Z' then Char.ofNat (ch.toNat + 32)
  else '-'

/-- The loop of `slugify`: `out` is what has been pushed so far. -/
def slugLoop : List Char → List Char → List Char
  | [], out => out
  | ch :: rest, out =>
    if slugChar ch = '-' ∧ (out = [] ∨ out.getLast? = some '-') then slugLoop rest out
    else if maxSlugLen ≤ (out ++ [slugChar ch]).length then out ++ [slugChar ch]
    else slugLoop rest (out ++ [slugChar ch])

/-- Lowercase `[a-z0-9-]` slug, runs of other characters collapsed to one `-`, trimmed and
truncated. -/
def slugify (input : String) : String :=
  String.ofList ((slugLoop input.toList []).rdropWhile (· = '-'))

variable (sha256 : List UInt8 → List UInt8)

/-- The bytes `short_hash` feeds to SHA-256: the tag, then every part behind a NUL. -/
def hashInput (tier : IdentitySource) (parts : List String) : List UInt8 :=
  Text.bytes tier.tag ++ parts.flatMap fun part => 0 :: Text.bytes part

/-- The first four bytes of the digest, in hex. -/
def shortHash (tier : IdentitySource) (parts : List String) : String :=
  String.ofList (Text.hexEncode ((sha256 (hashInput tier parts)).take 4))

/-- `join_name`: the prefix, the non-empty parts and the hash, joined by `-`. -/
def joinName (namePrefix : String) (parts : List String) (hash : String) : String :=
  ((parts.filter (· ≠ "")).foldl (fun name part => name ++ "-" ++ part) namePrefix) ++ "-" ++ hash

/-! ## Tier keys and names -/

namespace Fingerprint

/-- The serial number, unless it is blank (which identifies nothing). -/
def serialNumber (f : Fingerprint) : Option String :=
  f.serial.filter fun s => Text.trim s.toList ≠ []

/-- Attribute tuple compared by a portable tier; `none` when the tier does not apply. -/
def tierKey (f : Fingerprint) : IdentitySource → Option (List (Option String))
  | .serial => f.serialNumber.map fun s => [some f.vendorId, some f.productId, some s]
  | .serialDescriptor => f.serialNumber.map fun s =>
      [some f.vendorId, some f.productId, some s, f.bcdDevice, f.manufacturer, f.product]
  | .descriptor =>
      some [some f.vendorId, some f.productId, f.bcdDevice, f.manufacturer, f.product]
  | .portPath => none

/-- `usb-VENDOR-PRODUCT`, the beginning of every name. -/
def namePrefix (f : Fingerprint) : String :=
  s!"usb-{slugify f.vendorId}-{slugify f.productId}"

/-- Object name for a portable tier; `none` when the tier does not apply. -/
def portableName (f : Fingerprint) (tier : IdentitySource) : Option String :=
  (f.tierKey tier).bind fun key =>
    let parts := key.map (·.getD "")
    match tier with
    | .serial => f.serialNumber.map fun serial =>
        let slug := slugify serial
        if slug = serial ∧ slug ≠ "" then s!"{f.namePrefix}-{slug}"
        else joinName f.namePrefix [slug] (shortHash sha256 tier parts)
    | .serialDescriptor => f.serialNumber.map fun serial =>
        joinName f.namePrefix [slugify serial] (shortHash sha256 tier parts)
    | .descriptor =>
        let label := ((f.product <|> f.manufacturer).getD "")
        some (joinName f.namePrefix [slugify label] (shortHash sha256 tier parts))
    | .portPath => none

/-- The name of whatever is plugged into one port of one node. -/
def portName (f : Fingerprint) (node port : String) : String :=
  joinName f.namePrefix [slugify node, slugify port]
    (shortHash sha256 .portPath [f.vendorId, f.productId, node, port])

end Fingerprint

/-! ## Labels and USB ids -/

def isAsciiAlphanumeric (c : Char) : Bool :=
  ('a' ≤ c && c ≤ 'z') || ('A' ≤ c && c ≤ 'Z') || ('0' ≤ c && c ≤ '9')

/-- Converts an arbitrary string into a valid label value (at most 63 characters), or `none` if
nothing remains. -/
def labelValue (input : String) : Option String :=
  let out := (input.toList.map fun c =>
    if isAsciiAlphanumeric c || c == '-' || c == '_' || c == '.' then c else '-').take 63
  match (out.rdropWhile fun c => !isAsciiAlphanumeric c).dropWhile fun c =>
      !isAsciiAlphanumeric c with
  | [] => none
  | out => some (String.ofList out)

/-- Normalizes a USB vendor/product id: lowercase hex, `0x` prefix stripped, zero-padded to 4
digits. -/
def normalizeUsbId (id : String) : Option String :=
  let trimmed := Text.trim id.toList
  let hex := ((Text.stripPrefix ['0', 'x'] trimmed) <|>
    (Text.stripPrefix ['0', 'X'] trimmed)).getD trimmed
  if hex = [] ∨ 4 < hex.length ∨ ¬ hex.all Text.isHexDigit then none
  else some (String.ofList (List.replicate (4 - hex.length) '0' ++ hex.map Char.toLower))

end AtomicUsb
