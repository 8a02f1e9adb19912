import AtomicUsb.Identity.HashInput
import AtomicUsb.Identity.Slugs
import AtomicUsb.Identity.UsbIds
import Mathlib.Data.String.Basic

/-!
# Names that separate identities

A name says which attributes it was derived from: the ids at its beginning have a fixed length, and
the hash at its end is what follows the last `-`.  Where two names both end in a hash, equal names
have equal hashes, and so the same attributes as far as the hash tells them apart.

A serial number that is a slug already is used as it is, without a hash.  Such a serial may itself
end in what looks like a hash, and `names_separate_iff` says that this is the only way in which two
identities get one name.
-/

namespace AtomicUsb

/-! ## The shape of a name -/

/-- What `read_attr` yields: trimmed, not empty and without NUL. -/
structure IsAttr (s : String) : Prop where
  nonempty : s ≠ ""
  trimmed : Text.trim s.toList = s.toList
  noNul : Char.ofNat 0 ∉ s.toList

/-- The attributes of a device as `read_device` yields them. -/
structure Fingerprint.FromSysfs (f : Fingerprint) : Prop where
  vendorId : IsUsbId f.vendorId
  productId : IsUsbId f.productId
  serial : ∀ s, f.serial = some s → IsAttr s
  bcdDevice : ∀ s, f.bcdDevice = some s → IsAttr s
  manufacturer : ∀ s, f.manufacturer = some s → IsAttr s
  product : ∀ s, f.product = some s → IsAttr s

lemma IsUsbId.isSlug {s : String} (h : IsUsbId s) : IsSlug s := by
  refine isSlug_of_alnum (fun c hc => ?_) (by rw [h.length]; decide)
  rcases h.digits c hc with hnum | hlow
  · exact Or.inr hnum
  · exact Or.inl ⟨hlow.1, hlow.2.trans (by decide)⟩

lemma IsUsbId.slugify_eq {s : String} (h : IsUsbId s) : slugify s = s :=
  slugify_eq_self_iff.mpr h.isSlug

/-- What follows the ids in a name with a hash. -/
def nameTail (parts : List String) (hash : String) : String :=
  (parts.filter (· ≠ "")).foldr (fun part rest => part ++ "-" ++ rest) hash

lemma joinName_eq (pre : String) (parts : List String) (hash : String) :
    joinName pre parts hash = pre ++ "-" ++ nameTail parts hash := by
  unfold joinName nameTail
  induction parts.filter (· ≠ "") generalizing pre with
  | nil => rfl
  | cons part rest ih =>
      rw [List.foldl_cons, ih, List.foldr_cons]
      simp only [String.append_assoc]

/-- The hash is what follows the last `-`. -/
lemma rtakeWhile_nameTail (parts : List String) {hash : String} (hhash : '-' ∉ hash.toList) :
    (nameTail parts hash).toList.rtakeWhile (· ≠ '-') = hash.toList := by
  unfold nameTail
  induction parts.filter (· ≠ "") with
  | nil =>
      rw [List.foldr_nil, List.rtakeWhile_eq_self_iff]
      intro c hc
      simpa using ne_of_mem_of_not_mem hc hhash
  | cons part rest ih =>
      have hdash : "-".toList = ['-'] := by simp
      rw [List.foldr_cons, String.toList_append, String.toList_append, hdash, List.append_assoc,
        List.singleton_append, Text.rtakeWhile_append_cons (by simp), ih]

lemma dash_not_mem_shortHash (sha256 : List UInt8 → List UInt8) (tier : IdentitySource)
    (parts : List String) : '-' ∉ (shortHash sha256 tier parts).toList := by
  rw [shortHash, String.toList_ofList]
  intro hmem
  have hdigit := Text.lower_of_mem_hexEncode hmem
  revert hdigit
  decide

lemma Fingerprint.FromSysfs.namePrefix_toList {f : Fingerprint} (h : f.FromSysfs) :
    f.namePrefix.toList = "usb-".toList ++ f.vendorId.toList ++ ['-'] ++ f.productId.toList := by
  unfold namePrefix
  rw [h.vendorId.slugify_eq, h.productId.slugify_eq]
  simp [toString]

/-- The ids have a fixed length, so that they and the rest can be told apart. -/
lemma namePrefix_inj {f g : Fingerprint} (hf : f.FromSysfs) (hg : g.FromSysfs) {x y : String} :
    f.namePrefix ++ "-" ++ x = g.namePrefix ++ "-" ++ y ↔
      f.vendorId = g.vendorId ∧ f.productId = g.productId ∧ x = y := by
  rw [← String.toList_inj, String.toList_append, String.toList_append, String.toList_append,
    String.toList_append, hf.namePrefix_toList, hg.namePrefix_toList]
  constructor
  · intro h
    simp only [List.append_assoc, List.append_cancel_left_eq] at h
    obtain ⟨hvendor, h⟩ := List.append_inj h (by rw [hf.vendorId.length, hg.vendorId.length])
    rw [List.append_cancel_left_eq] at h
    obtain ⟨hproduct, h⟩ := List.append_inj h (by rw [hf.productId.length, hg.productId.length])
    rw [List.append_cancel_left_eq] at h
    exact ⟨String.toList_inj.mp hvendor, String.toList_inj.mp hproduct, String.toList_inj.mp h⟩
  · rintro ⟨hvendor, hproduct, rfl⟩
    rw [hvendor, hproduct]

/-! ## Identities and their names -/

/-- What an object may be named after: the attributes one tier compares, or a port of a node. -/
inductive Identity
  | portable (f : Fingerprint) (tier : IdentitySource)
  | port (f : Fingerprint) (node portPath : String)

/-- The attributes an object's hash stands for, and the slugs in front of it. -/
structure HashedParts where
  slugs : List String
  tier : IdentitySource
  inputs : List String
  deriving DecidableEq

variable (sha256 : List UInt8 → List UInt8)

def HashedParts.hash (h : HashedParts) : String := shortHash sha256 h.tier h.inputs

/-- What follows the ids in the name of an identity with a hash. -/
def HashedParts.tail (h : HashedParts) : String := nameTail h.slugs (h.hash sha256)

namespace Identity

def fingerprint : Identity → Fingerprint
  | portable f _ => f
  | port f _ _ => f

/-- The object name, unless the tier does not apply. -/
def name : Identity → Option String
  | portable f tier => f.portableName sha256 tier
  | port f node portPath => some (f.portName sha256 node portPath)

/-- Two identities that agree in everything that they compare. -/
def SameAs : Identity → Identity → Prop
  | portable f s, portable g t => s = t ∧ f.tierKey s = g.tierKey t
  | port f n p, port g m q =>
      f.vendorId = g.vendorId ∧ f.productId = g.productId ∧ n = m ∧ p = q
  | _, _ => False

/-- The serial number that a name has as it is, without a hash. -/
def plainSerial : Identity → Option String
  | portable f .serial => f.serialNumber.filter fun s => slugify s = s ∧ s ≠ ""
  | _ => none

/-- What the hash of a name is taken of, for names that have one. -/
def hashed : Identity → Option HashedParts
  | portable f .serial =>
      (f.serialNumber.filter fun s => ¬ (slugify s = s ∧ s ≠ "")).map fun s =>
        ⟨[slugify s], .serial, [f.vendorId, f.productId, s]⟩
  | portable f .serialDescriptor => f.serialNumber.map fun s =>
      ⟨[slugify s], .serialDescriptor, [f.vendorId, f.productId, s, f.bcdDevice.getD "",
        f.manufacturer.getD "", f.product.getD ""]⟩
  | portable f .descriptor =>
      some ⟨[slugify ((f.product <|> f.manufacturer).getD "")], .descriptor,
        [f.vendorId, f.productId, f.bcdDevice.getD "", f.manufacturer.getD "",
          f.product.getD ""]⟩
  | portable _ .portPath => none
  | port f node portPath =>
      some ⟨[slugify node, slugify portPath], .portPath, [f.vendorId, f.productId, node, portPath]⟩

end Identity

/-- `short_hash` returns different values on the different inputs that two names involve. -/
def HashesSeparate (a b : Identity) : Prop :=
  ∀ h h', a.hashed = some h → b.hashed = some h' → h.hash sha256 = h'.hash sha256 →
    h.tier = h'.tier ∧ h.inputs = h'.inputs

/-- A serial number that is used as it is spells the slugs and the hash of another device with the
same ids. -/
def Mimics (a b : Identity) : Prop :=
  a.fingerprint.vendorId = b.fingerprint.vendorId ∧
    a.fingerprint.productId = b.fingerprint.productId ∧
    ∃ h, b.hashed = some h ∧ a.plainSerial = some (h.tail sha256)

/-! ## Equal names -/

variable {sha256}

/-- A name either has a serial number as it is or ends in a hash. -/
lemma Identity.name_eq_some_iff {a : Identity} {n : String} :
    a.name sha256 = some n ↔
      (∃ s, a.plainSerial = some s ∧ n = a.fingerprint.namePrefix ++ "-" ++ s) ∨
        ∃ h, a.hashed = some h ∧ n = a.fingerprint.namePrefix ++ "-" ++ h.tail sha256 := by
  simp only [@eq_comm _ n]
  cases a with
  | portable f tier =>
      simp only [name, fingerprint]
      cases tier with
      | serial =>
          cases hs : f.serialNumber with
          | none => simp [Fingerprint.portableName, Fingerprint.tierKey, plainSerial, hashed, hs]
          | some s =>
              have hslug : (IsSlug s ∧ s ≠ "") ↔ (slugify s = s ∧ s ≠ "") := by
                rw [slugify_eq_self_iff]
              rw [Fingerprint.portableName_serial sha256 hs]
              by_cases hplain : slugify s = s ∧ s ≠ ""
              · rw [if_pos (hslug.mpr hplain)]
                simp [plainSerial, hashed, hs, hplain]
              · rw [if_neg (mt hslug.mp hplain)]
                simp only [plainSerial, hashed, hs, Option.filter_some, decide_eq_true_eq,
                  if_neg hplain, if_pos hplain, Option.map_some]
                simp [joinName_eq, HashedParts.tail, HashedParts.hash]
      | serialDescriptor =>
          cases hs : f.serialNumber with
          | none => simp [Fingerprint.portableName, Fingerprint.tierKey, plainSerial, hashed, hs]
          | some s =>
              simp [Fingerprint.portableName, Fingerprint.tierKey, plainSerial, hashed, hs,
                joinName_eq, HashedParts.tail, HashedParts.hash]
      | descriptor =>
          simp [Fingerprint.portableName, Fingerprint.tierKey, plainSerial, hashed, joinName_eq,
            HashedParts.tail, HashedParts.hash]
      | portPath => simp [Fingerprint.portableName, Fingerprint.tierKey, plainSerial, hashed]
  | port f node portPath =>
      simp [name, Fingerprint.portName, plainSerial, hashed, fingerprint, joinName_eq,
        HashedParts.tail, HashedParts.hash]

lemma Identity.hashed_eq_none {a : Identity} {s : String} (h : a.plainSerial = some s) :
    a.hashed = none := by
  cases a with
  | portable f tier =>
      cases tier with
      | serial =>
          obtain ⟨hs, hplain⟩ := Option.filter_eq_some_iff.mp h
          simp only [hashed, hs, Option.map_eq_none_iff, Option.filter_eq_none_iff]
          simpa using hplain
      | serialDescriptor | descriptor | portPath => cases h
  | port f node portPath => cases h

/-- Both names have a serial number as it is. -/
lemma Identity.sameAs_of_plainSerial {a b : Identity} {s : String} (ha : a.plainSerial = some s)
    (hb : b.plainSerial = some s) (hvendor : a.fingerprint.vendorId = b.fingerprint.vendorId)
    (hproduct : a.fingerprint.productId = b.fingerprint.productId) : a.SameAs b := by
  have hserial : ∀ {a : Identity}, a.plainSerial = some s →
      ∃ f : Fingerprint, a = portable f .serial ∧ f.serialNumber = some s := by
    intro a ha
    cases a with
    | portable f tier =>
        cases tier with
        | serial => exact ⟨f, rfl, (Option.filter_eq_some_iff.mp ha).1⟩
        | serialDescriptor | descriptor | portPath => cases ha
    | port f node portPath => cases ha
  obtain ⟨f, rfl, hf⟩ := hserial ha
  obtain ⟨g, rfl, hg⟩ := hserial hb
  refine ⟨rfl, ?_⟩
  simp only [fingerprint] at hvendor hproduct
  simp [Fingerprint.tierKey, hf, hg, hvendor, hproduct]

lemma Fingerprint.FromSysfs.attrsNonempty {f : Fingerprint} (h : f.FromSysfs) :
    f.AttrsNonempty where
  serial hs := (h.serial _ hs).nonempty rfl
  bcdDevice hs := (h.bcdDevice _ hs).nonempty rfl
  manufacturer hs := (h.manufacturer _ hs).nonempty rfl
  product hs := (h.product _ hs).nonempty rfl

lemma Identity.hashed_portable {f : Fingerprint} {tier : IdentitySource} {h : HashedParts}
    (hh : (portable f tier).hashed = some h) :
    h.tier = tier ∧ f.hashParts tier = some h.inputs := by
  unfold Fingerprint.hashParts Fingerprint.tierKey
  cases tier with
  | serial =>
      obtain ⟨s, hs, rfl⟩ := Option.map_eq_some_iff.mp hh
      exact ⟨rfl, by rw [(Option.filter_eq_some_iff.mp hs).1]; rfl⟩
  | serialDescriptor =>
      obtain ⟨s, hs, rfl⟩ := Option.map_eq_some_iff.mp hh
      exact ⟨rfl, by rw [hs]; rfl⟩
  | descriptor =>
      cases hh
      exact ⟨rfl, rfl⟩
  | portPath => cases hh

/-- Names with hashes of the same attributes are names of the same identity. -/
lemma Identity.sameAs_of_hashed {a b : Identity} {h h' : HashedParts} (ha : a.hashed = some h)
    (hb : b.hashed = some h') (hfa : a.fingerprint.FromSysfs) (hfb : b.fingerprint.FromSysfs)
    (htier : h.tier = h'.tier) (hinputs : h.inputs = h'.inputs) : a.SameAs b := by
  cases a with
  | portable f s =>
      obtain ⟨rfl, hin⟩ := hashed_portable ha
      cases b with
      | portable g t =>
          obtain ⟨rfl, hin'⟩ := hashed_portable hb
          refine ⟨htier, ?_⟩
          rw [htier, hinputs] at hin
          rw [htier]
          exact tierKey_eq_of_hashParts_eq hfa.attrsNonempty hfb.attrsNonempty (hin.trans hin'.symm)
      | port g m q =>
          cases hb
          rw [htier] at hin
          cases hin
  | port f n p =>
      cases ha
      cases b with
      | portable g t =>
          obtain ⟨rfl, hin⟩ := hashed_portable hb
          rw [← htier] at hin
          cases hin
      | port g m q =>
          cases hb
          simpa [SameAs] using hinputs

/-! ## When names separate -/

/-- Equal names with hashes have equal hashes. -/
lemma HashedParts.hash_eq_of_tail_eq {h h' : HashedParts} (heq : h.tail sha256 = h'.tail sha256) :
    h.hash sha256 = h'.hash sha256 := by
  have hlast : ∀ h : HashedParts,
      (h.tail sha256).toList.rtakeWhile (· ≠ '-') = (h.hash sha256).toList :=
    fun h => rtakeWhile_nameTail h.slugs (dash_not_mem_shortHash sha256 h.tier h.inputs)
  rw [← String.toList_inj, ← hlast h, ← hlast h', heq]

lemma Identity.SameAs.plainSerial_eq {a b : Identity} (h : a.SameAs b) :
    a.plainSerial = b.plainSerial := by
  cases a with
  | portable f s =>
      cases b with
      | portable g t =>
          obtain ⟨rfl, hkey⟩ := h
          cases s with
          | serial =>
              have hserial : f.serialNumber = g.serialNumber := by
                revert hkey
                cases hf : f.serialNumber <;> cases hg : g.serialNumber <;>
                  simp +contextual [Fingerprint.tierKey, hf, hg]
              rw [plainSerial, plainSerial, hserial]
          | serialDescriptor | descriptor | portPath => rfl
      | port g m q => exact h.elim
  | port f n p =>
      cases b with
      | portable g t => exact h.elim
      | port g m q => rfl

/-- A mimicked name is the name of two identities. -/
lemma Mimics.name_eq {a b : Identity} (h : Mimics sha256 a b) :
    ∃ n, a.name sha256 = some n ∧ b.name sha256 = some n := by
  obtain ⟨hvendor, hproduct, parts, hparts, hserial⟩ := h
  have hids : a.fingerprint.namePrefix = b.fingerprint.namePrefix := by
    rw [Fingerprint.namePrefix, hvendor, hproduct, Fingerprint.namePrefix]
  exact ⟨_, Identity.name_eq_some_iff.mpr (Or.inl ⟨_, hserial, rfl⟩),
    Identity.name_eq_some_iff.mpr (Or.inr ⟨parts, hparts, by rw [hids]⟩)⟩

lemma Mimics.plainSerial_ne {a b : Identity} (h : Mimics sha256 a b) :
    a.plainSerial ≠ b.plainSerial := by
  obtain ⟨-, -, parts, hparts, hserial⟩ := h
  intro heq
  rw [Identity.hashed_eq_none (heq.symm.trans hserial)] at hparts
  cases hparts

/-- Two identities have one name only if they are the same, unless the serial number of one, used
as it is, spells the slugs and the hash of the other. -/
theorem names_separate_iff (sha256 : List UInt8 → List UInt8) (a b : Identity)
    (hfa : a.fingerprint.FromSysfs) (hfb : b.fingerprint.FromSysfs)
    (hhash : HashesSeparate sha256 a b) :
    (∀ n, a.name sha256 = some n → b.name sha256 = some n → a.SameAs b) ↔
      ¬ Mimics sha256 a b ∧ ¬ Mimics sha256 b a := by
  constructor
  · intro hsep
    refine ⟨fun hmimics => ?_, fun hmimics => ?_⟩
    · obtain ⟨n, ha, hb⟩ := hmimics.name_eq
      exact hmimics.plainSerial_ne (hsep n ha hb).plainSerial_eq
    · obtain ⟨n, hb, ha⟩ := hmimics.name_eq
      exact hmimics.plainSerial_ne (hsep n ha hb).plainSerial_eq.symm
  · rintro ⟨hab, hba⟩ n ha hb
    rcases Identity.name_eq_some_iff.mp ha with ⟨s, hs, rfl⟩ | ⟨h, hh, rfl⟩
    · rcases Identity.name_eq_some_iff.mp hb with ⟨t, ht, heq⟩ | ⟨h', hh', heq⟩
      · obtain ⟨hvendor, hproduct, rfl⟩ := (namePrefix_inj hfa hfb).mp heq
        exact Identity.sameAs_of_plainSerial hs ht hvendor hproduct
      · obtain ⟨hvendor, hproduct, rfl⟩ := (namePrefix_inj hfa hfb).mp heq
        exact absurd ⟨hvendor, hproduct, h', hh', hs⟩ hab
    · rcases Identity.name_eq_some_iff.mp hb with ⟨t, ht, heq⟩ | ⟨h', hh', heq⟩
      · obtain ⟨hvendor, hproduct, rfl⟩ := (namePrefix_inj hfa hfb).mp heq
        exact absurd ⟨hvendor.symm, hproduct.symm, h, hh, ht⟩ hba
      · obtain ⟨-, -, htail⟩ := (namePrefix_inj hfa hfb).mp heq
        obtain ⟨htier, hinputs⟩ := hhash h h' hh hh' (HashedParts.hash_eq_of_tail_eq htail)
        exact Identity.sameAs_of_hashed hh hh' hfa hfb htier hinputs

/-- A USB serial adapter with this serial number and no other strings. -/
def adapterWithSerial (serial : String) : Fingerprint where
  vendorId := "10c4"
  productId := "ea60"
  serial := some serial
  bcdDevice := none
  manufacturer := none
  product := none

lemma adapterWithSerial_fromSysfs {serial : String} (h : IsAttr serial) :
    (adapterWithSerial serial).FromSysfs where
  vendorId := show IsUsbId "10c4" from ⟨rfl, by simp⟩
  productId := show IsUsbId "ea60" from ⟨rfl, by simp⟩
  serial := by
    rintro s hs
    rwa [← Option.some.inj hs]
  bcdDevice := by simp [adapterWithSerial]
  manufacturer := by simp [adapterWithSerial]
  product := by simp [adapterWithSerial]

/-- SHA-256 on the serial identities of four adapters. -/
def adapterDigest (input : List UInt8) : List UInt8 :=
  let hashOf (serial : String) := hashInput .serial ["10c4", "ea60", serial]
  let hex :=
    if input = hashOf "ABC" then "0deaa0416142d6bbe79dc3429b71ce51f323d8cc35708bf7df8491f991ce38a7"
    else if input = hashOf "abc-0deaa041" then
      "4bb297e00c693b805b20c2b275de6021cccd6398871b45ff8fe15a381d43c1b2"
    else if input = hashOf "A1B2" then
      "e0b62d456c0f3ab486071e68616ebe88634db2a94204dca46523613430af0904"
    else if input = hashOf "a1b2" then
      "e667d4723f6452d72f682d9dbd128465313fc8bf3c9955eb7c97eb59507e314d"
    else ""
  (Text.hexDecode hex.toList).getD []

/-- Neither another serial number that is hashed nor one that differs in case only shares the name
of `A1B2`. -/
theorem names_separate_iff_lossy :
    let upper := Identity.portable (adapterWithSerial "A1B2") .serial
    let other := Identity.portable (adapterWithSerial "ABC") .serial
    let lower := Identity.portable (adapterWithSerial "a1b2") .serial
    (∀ n, upper.name adapterDigest = some n → other.name adapterDigest = some n →
        upper.SameAs other) ∧
      ∀ n, upper.name adapterDigest = some n → lower.name adapterDigest = some n →
        upper.SameAs lower := by
  intro upper other lower
  have hupper : upper.fingerprint.FromSysfs :=
    adapterWithSerial_fromSysfs ⟨by decide, by decide +kernel, by decide⟩
  have hother : other.fingerprint.FromSysfs :=
    adapterWithSerial_fromSysfs ⟨by decide, by decide +kernel, by decide⟩
  have hlower : lower.fingerprint.FromSysfs :=
    adapterWithSerial_fromSysfs ⟨by decide, by decide +kernel, by decide⟩
  have hupperHashed : upper.hashed = some ⟨["a1b2"], .serial, ["10c4", "ea60", "A1B2"]⟩ := by
    decide +kernel
  have hotherHashed : other.hashed = some ⟨["abc"], .serial, ["10c4", "ea60", "ABC"]⟩ := by
    decide +kernel
  have hlowerHashed : lower.hashed = none := by decide +kernel
  have hupperPlain : upper.plainSerial = none := by decide +kernel
  have hotherPlain : other.plainSerial = none := by decide +kernel
  have hlowerPlain : lower.plainSerial = some "a1b2" := by decide +kernel
  constructor
  · refine (names_separate_iff adapterDigest upper other hupper hother ?_).mpr ⟨?_, ?_⟩
    · intro h h' hh hh' heq
      rw [hupperHashed] at hh
      rw [hotherHashed] at hh'
      cases hh
      cases hh'
      exact absurd heq (by decide +kernel)
    · simp [Mimics, hupperPlain]
    · simp [Mimics, hotherPlain]
  · refine (names_separate_iff adapterDigest upper lower hupper hlower ?_).mpr ⟨?_, ?_⟩
    · simp [HashesSeparate, hlowerHashed]
    · simp [Mimics, hupperPlain]
    · simp only [Mimics, hupperHashed, hlowerPlain, not_and]
      rintro - - ⟨h, hh, heq⟩
      cases hh
      exact absurd heq (by decide +kernel)

/-- The serial number `abc-0deaa041` is a slug, and is also what the name of an adapter with the
serial number `ABC` has for a slug and a hash. -/
theorem plain_serial_mimics_hash :
    let lossy := adapterWithSerial "ABC"
    let plain := adapterWithSerial "abc-0deaa041"
    lossy.FromSysfs ∧ plain.FromSysfs ∧
      shortHash adapterDigest .serial ["10c4", "ea60", "ABC"] ≠
        shortHash adapterDigest .serial ["10c4", "ea60", "abc-0deaa041"] ∧
      lossy.portableName adapterDigest .serial = some "usb-10c4-ea60-abc-0deaa041" ∧
      plain.portableName adapterDigest .serial = some "usb-10c4-ea60-abc-0deaa041" ∧
      lossy.tierKey .serial ≠ plain.tierKey .serial := by
  refine ⟨adapterWithSerial_fromSysfs ⟨by decide, by decide +kernel, by decide⟩,
    adapterWithSerial_fromSysfs ⟨by decide, by decide +kernel, by decide⟩, ?_⟩
  decide +kernel

end AtomicUsb
