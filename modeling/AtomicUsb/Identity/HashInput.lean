import AtomicUsb.Foundation.Framing
import AtomicUsb.Foundation.Utf8
import AtomicUsb.Identity.Names

/-!
# What a hash is taken of

A name's hash is taken of a tag and of attributes behind a NUL each.  No attribute contains a NUL,
so the separators are told from the attributes, and the bytes determine the tier and the attributes
(`hashParts_inj`).  An attribute that a device does not have is hashed like an empty one; those that
it has are not empty.
-/

namespace AtomicUsb

open Text (NulFree)

lemma nulFree_tag (tier : IdentitySource) : NulFree tier.tag := by
  unfold NulFree
  cases tier <;> decide

lemma IdentitySource.tag_injective : Function.Injective IdentitySource.tag := by
  intro s t
  cases s <;> cases t <;> decide

/-- The bytes that are hashed, cut at the NULs. -/
lemma splitOn_hashInput (tier : IdentitySource) {parts : List String}
    (hparts : ∀ p ∈ parts, NulFree p) :
    (hashInput tier parts).splitOn 0 = Text.bytes tier.tag :: parts.map Text.bytes := by
  have hfields : ∀ f ∈ parts.map Text.bytes, (0 : UInt8) ∉ f :=
    List.forall_mem_map.mpr fun p hp => (hparts p hp).bytes
  rw [← Framing.splitOn_headed (nulFree_tag tier).bytes hfields, List.flatMap_map]
  rfl

lemma hashParts_inj {s t : IdentitySource} {parts parts' : List String}
    (hparts : ∀ p ∈ parts, NulFree p) (hparts' : ∀ p ∈ parts', NulFree p)
    (h : hashInput s parts = hashInput t parts') : s = t ∧ parts = parts' := by
  have hsplit := congrArg (List.splitOn 0) h
  rw [splitOn_hashInput s hparts, splitOn_hashInput t hparts', List.cons_eq_cons] at hsplit
  obtain ⟨htag, hrest⟩ := hsplit
  exact ⟨IdentitySource.tag_injective (Text.bytes_injective htag),
    List.map_injective_iff.mpr Text.bytes_injective hrest⟩

/-- What the hash of a portable name is taken of, where the tier applies. -/
def Fingerprint.hashParts (f : Fingerprint) (tier : IdentitySource) : Option (List String) :=
  (f.tierKey tier).map fun key => key.map (·.getD "")

/-- Attributes as `read_attr` yields them: absent or not empty. -/
structure Fingerprint.AttrsNonempty (f : Fingerprint) : Prop where
  serial : f.serial ≠ some ""
  bcdDevice : f.bcdDevice ≠ some ""
  manufacturer : f.manufacturer ≠ some ""
  product : f.product ≠ some ""

lemma getD_empty_inj {x y : Option String} (hx : x ≠ some "") (hy : y ≠ some "")
    (h : x.getD "" = y.getD "") : x = y := by
  cases x with
  | none =>
      cases y with
      | none => rfl
      | some y => exact absurd (congrArg some h.symm) hy
  | some x =>
      cases y with
      | none => exact absurd (congrArg some h) hx
      | some y => exact congrArg some h

/-- At one tier the attributes that are hashed determine those that are compared. -/
lemma tierKey_eq_of_hashParts_eq {f g : Fingerprint} (hf : f.AttrsNonempty) (hg : g.AttrsNonempty)
    {tier : IdentitySource} (h : f.hashParts tier = g.hashParts tier) :
    f.tierKey tier = g.tierKey tier := by
  have hbcd := @getD_empty_inj _ _ hf.bcdDevice hg.bcdDevice
  have hmanufacturer := @getD_empty_inj _ _ hf.manufacturer hg.manufacturer
  have hproduct := @getD_empty_inj _ _ hf.product hg.product
  unfold Fingerprint.hashParts Fingerprint.tierKey at h
  unfold Fingerprint.tierKey
  cases tier with
  | serial =>
      cases hs : f.serialNumber <;> cases ht : g.serialNumber <;> simp_all
  | serialDescriptor =>
      cases hs : f.serialNumber <;> cases ht : g.serialNumber <;> simp_all
  | descriptor => simp_all
  | portPath => rfl

/-- **The hash input of an identity determines the identity.**  Equal inputs come from the same tier
and the same parts; and so those of two portable names from the same attributes. -/
theorem hashInput_determines_identity :
    (∀ (s t : IdentitySource) (parts parts' : List String), (∀ p ∈ parts, NulFree p) →
      (∀ p ∈ parts', NulFree p) → hashInput s parts = hashInput t parts' →
        s = t ∧ parts = parts') ∧
    ∀ (f g : Fingerprint) (s t : IdentitySource) (parts parts' : List String),
      f.AttrsNonempty → g.AttrsNonempty → f.hashParts s = some parts → g.hashParts t = some parts' →
      (∀ p ∈ parts, NulFree p) → (∀ p ∈ parts', NulFree p) →
      hashInput s parts = hashInput t parts' → s = t ∧ f.tierKey s = g.tierKey t := by
  refine ⟨fun s t parts parts' => hashParts_inj, ?_⟩
  intro f g s t parts parts' hf hg hs ht hparts hparts' h
  obtain ⟨rfl, rfl⟩ := hashParts_inj hparts hparts' h
  exact ⟨rfl, tierKey_eq_of_hashParts_eq hf hg (hs.trans ht.symm)⟩

/-- A device of which one string is known, as its manufacturer or as its product. -/
def oneString (manufacturer product : Option String) : Fingerprint where
  vendorId := "10c4"
  productId := "ea60"
  serial := none
  bcdDevice := none
  manufacturer := manufacturer
  product := product

/-- Which of the two it is makes a difference. -/
theorem hashInput_determines_identity_oneString :
    hashInput .descriptor ["10c4", "ea60", "", "acme", ""] ≠
      hashInput .descriptor ["10c4", "ea60", "", "", "acme"] := by
  intro h
  have hkey := (hashInput_determines_identity.2 (oneString (some "acme") none)
    (oneString none (some "acme")) .descriptor .descriptor _ _ ⟨nofun, nofun, by decide, nofun⟩
    ⟨nofun, nofun, nofun, by decide⟩ rfl rfl (by simp [NulFree, oneString])
    (by simp [NulFree, oneString]) h).2
  revert hkey
  decide

end AtomicUsb
