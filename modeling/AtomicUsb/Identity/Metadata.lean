import AtomicUsb.Identity.Separation

/-!
# Names and labels Kubernetes accepts

Whatever strings a device presents, the names derived from them are DNS-1123 subdomains and the
labels valid label values.  A name is put together from pieces that consist of the right characters,
of which the last one ends in the right kind of character (`NameEnd`).
-/

namespace AtomicUsb

/-- A DNS-1123 subdomain, of one label. -/
structure IsDnsSubdomain (s : String) : Prop where
  length : s.toList.length ≤ 253
  chars : ∀ c ∈ s.toList, IsLowerAlnum c ∨ c = '-'
  first : ∃ c, s.toList.head? = some c ∧ IsLowerAlnum c
  last : ∃ c, s.toList.getLast? = some c ∧ IsLowerAlnum c

/-- Eight lowercase hexadecimal digits. -/
structure IsShortHash (s : String) : Prop where
  length : s.toList.length = 8
  digits : ∀ c ∈ s.toList, ('0' ≤ c ∧ c ≤ '9') ∨ ('a' ≤ c ∧ c ≤ 'f')

/-- SHA-256 has digests of 32 bytes. -/
lemma isShortHash_of_length {sha256 : List UInt8 → List UInt8}
    (hlen : ∀ input, (sha256 input).length = 32) (tier : IdentitySource) (parts : List String) :
    IsShortHash (shortHash sha256 tier parts) := by
  refine ⟨?_, ?_⟩ <;> rw [shortHash, String.toList_ofList]
  · rw [Text.length_hexEncode, List.length_take, hlen]
    rfl
  · exact fun c hc => Text.lower_of_mem_hexEncode hc

/-! ## Names -/

/-- The end of a name, of at most `n` characters. -/
structure NameEnd (n : ℕ) (s : String) : Prop where
  length : s.toList.length ≤ n
  chars : ∀ c ∈ s.toList, IsLowerAlnum c ∨ c = '-'
  last : ∃ c, s.toList.getLast? = some c ∧ IsLowerAlnum c

lemma IsShortHash.nameEnd {s : String} (h : IsShortHash s) : NameEnd 8 s := by
  have halnum : ∀ c ∈ s.toList, IsLowerAlnum c := by
    intro c hc
    rcases h.digits c hc with hnum | hlow
    · exact Or.inr hnum
    · exact Or.inl ⟨hlow.1, hlow.2.trans (by decide)⟩
  have hne : s.toList ≠ [] := List.ne_nil_of_length_pos (by rw [h.length]; decide)
  exact ⟨h.length.le, fun c hc => Or.inl (halnum c hc),
    _, List.getLast?_eq_some_getLast hne, halnum _ (List.getLast_mem hne)⟩

lemma IsSlug.nameEnd {s : String} (h : IsSlug s) (hne : s ≠ "") : NameEnd maxSlugLen s := by
  have hlist : s.toList ≠ [] := mt String.toList_eq_nil_iff.mp hne
  refine ⟨h.length, h.chars, _, List.getLast?_eq_some_getLast hlist,
    (h.chars _ (List.getLast_mem hlist)).resolve_right fun hdash => h.last ?_⟩
  rw [List.getLast?_eq_some_getLast hlist, hdash]

/-- A slug and a `-` before the end of a name. -/
lemma NameEnd.slug_dash {n : ℕ} {s : String} (h : NameEnd n s) {slug : String}
    (hslug : IsSlug slug) : NameEnd (41 + n) (slug ++ "-" ++ s) := by
  have hdash : "-".toList = ['-'] := by simp
  obtain ⟨last, hlast, halnum⟩ := h.last
  refine ⟨?_, ?_, last, ?_, halnum⟩
  all_goals rw [String.toList_append, String.toList_append, hdash]
  · have hslugLen : slug.toList.length ≤ 40 := hslug.length
    have hlen := h.length
    simp only [List.length_append, List.length_singleton]
    omega
  · intro c hc
    simp only [List.mem_append, List.mem_singleton] at hc
    rcases hc with (hc | rfl) | hc
    · exact hslug.chars c hc
    · exact Or.inr rfl
    · exact h.chars c hc
  · rw [List.getLast?_append, hlast, Option.some_or]

lemma NameEnd.mono {n m : ℕ} {s : String} (h : NameEnd n s) (hnm : n ≤ m) : NameEnd m s :=
  ⟨h.length.trans hnm, h.chars, h.last⟩

lemma nameEnd_nameTail {hash : String} (hhash : IsShortHash hash) {parts : List String}
    (hparts : ∀ p ∈ parts, IsSlug p) :
    NameEnd (41 * parts.length + 8) (nameTail parts hash) := by
  unfold nameTail
  induction parts with
  | nil => exact hhash.nameEnd
  | cons part parts ih =>
      rw [List.forall_mem_cons] at hparts
      rw [List.length_cons]
      by_cases hempty : part = ""
      · rw [List.filter_cons_of_neg (by simpa using hempty)]
        exact (ih hparts.2).mono (by omega)
      · rw [List.filter_cons_of_pos (by simpa using hempty), List.foldr_cons]
        exact ((ih hparts.2).slug_dash hparts.1).mono (by omega)

/-- The ids in front make it a name. -/
lemma NameEnd.isDnsSubdomain {n : ℕ} {s : String} (h : NameEnd n s) (hn : n ≤ 130)
    (f : Fingerprint) : IsDnsSubdomain (f.namePrefix ++ "-" ++ s) := by
  have husb : IsSlug "usb" := by decide +kernel
  have hname : f.namePrefix ++ "-" ++ s =
      "usb" ++ "-" ++ (slugify f.vendorId ++ "-" ++ (slugify f.productId ++ "-" ++ s)) := by
    rw [← String.toList_inj]
    simp [Fingerprint.namePrefix, toString]
  have hall := ((h.slug_dash (isSlug_slugify f.productId)).slug_dash
    (isSlug_slugify f.vendorId)).slug_dash husb
  rw [hname]
  refine ⟨hall.length.trans (by omega), hall.chars, ⟨'u', by simp, Or.inl (by decide)⟩, hall.last⟩

lemma Identity.isSlug_of_plainSerial {a : Identity} {s : String} (h : a.plainSerial = some s) :
    IsSlug s ∧ s ≠ "" := by
  cases a with
  | portable f tier =>
      cases tier with
      | serial =>
          obtain ⟨heq, hne⟩ := of_decide_eq_true (Option.filter_eq_some_iff.mp h).2
          exact ⟨slugify_eq_self_iff.mp heq, hne⟩
      | serialDescriptor | descriptor | portPath => cases h
  | port f node portPath => cases h

/-- The parts in front of a hash are slugs, and two at most. -/
lemma Identity.slugs_of_hashed {a : Identity} {h : HashedParts} (hh : a.hashed = some h) :
    h.slugs.length ≤ 2 ∧ ∀ p ∈ h.slugs, IsSlug p := by
  have hone (s : String) : [slugify s].length ≤ 2 ∧ ∀ p ∈ [slugify s], IsSlug p :=
    ⟨by simp, by simpa using isSlug_slugify s⟩
  cases a with
  | portable f tier =>
      cases tier with
      | serial =>
          obtain ⟨s, -, rfl⟩ := Option.map_eq_some_iff.mp hh
          exact hone s
      | serialDescriptor =>
          obtain ⟨s, -, rfl⟩ := Option.map_eq_some_iff.mp hh
          exact hone s
      | descriptor =>
          cases hh
          exact hone _
      | portPath => cases hh
  | port f node portPath =>
      cases hh
      refine ⟨le_rfl, ?_⟩
      simpa using ⟨isSlug_slugify node, isSlug_slugify portPath⟩

lemma Identity.name_isDnsSubdomain {sha256 : List UInt8 → List UInt8}
    (hhash : ∀ tier parts, IsShortHash (shortHash sha256 tier parts)) {a : Identity} {n : String}
    (hn : a.name sha256 = some n) : IsDnsSubdomain n := by
  rcases name_eq_some_iff.mp hn with ⟨s, hs, rfl⟩ | ⟨h, hh, rfl⟩
  · obtain ⟨hslug, hne⟩ := isSlug_of_plainSerial hs
    exact (hslug.nameEnd hne).isDnsSubdomain (by decide) a.fingerprint
  · obtain ⟨hlen, hslugs⟩ := slugs_of_hashed hh
    exact (nameEnd_nameTail (hhash h.tier h.inputs) hslugs).isDnsSubdomain (by omega)
      a.fingerprint

/-! ## Labels -/

/-- A Kubernetes label value that is not empty. -/
structure IsLabelValue (s : String) : Prop where
  length : 1 ≤ s.toList.length ∧ s.toList.length ≤ 63
  chars : ∀ c ∈ s.toList, isAsciiAlphanumeric c = true ∨ c = '-' ∨ c = '_' ∨ c = '.'
  first : ∃ c, s.toList.head? = some c ∧ isAsciiAlphanumeric c = true
  last : ∃ c, s.toList.getLast? = some c ∧ isAsciiAlphanumeric c = true

/-- The character a label value has for `c`. -/
def labelChar (c : Char) : Char :=
  if isAsciiAlphanumeric c || c == '-' || c == '_' || c == '.' then c else '-'

lemma labelChar_mem (c : Char) : isAsciiAlphanumeric (labelChar c) = true ∨ labelChar c = '-' ∨
    labelChar c = '_' ∨ labelChar c = '.' := by
  unfold labelChar
  split_ifs with h
  · simpa [or_assoc] using h
  · exact Or.inr (Or.inl rfl)

lemma isAsciiAlphanumeric_labelChar (c : Char) :
    isAsciiAlphanumeric (labelChar c) = isAsciiAlphanumeric c := by
  unfold labelChar
  split_ifs with h
  · rfl
  · rw [Bool.or_eq_true, Bool.or_eq_true, Bool.or_eq_true, not_or, not_or, not_or] at h
    rw [Bool.eq_false_iff.mpr h.1.1.1]
    decide

/-- The characters of a label value before it is trimmed. -/
def labelChars (input : String) : List Char := (input.toList.take 63).map labelChar

/-- What is left of a list that is trimmed at both ends. -/
def trimmed (l : List Char) : List Char :=
  (l.rdropWhile fun c => !isAsciiAlphanumeric c).dropWhile fun c => !isAsciiAlphanumeric c

lemma labelValue_eq (input : String) :
    labelValue input = if trimmed (labelChars input) = [] then none
      else some (String.ofList (trimmed (labelChars input))) := by
  have hmap : labelChars input = (input.toList.map labelChar).take 63 := List.map_take
  rw [hmap]
  unfold labelValue trimmed labelChar
  dsimp only
  split
  · rename_i hnil
    rw [if_pos hnil]
  · rename_i hne
    rw [if_neg hne]

lemma trimmed_eq_nil {l : List Char} :
    trimmed l = [] ↔ ∀ c ∈ l, isAsciiAlphanumeric c = false := by
  rw [trimmed, List.dropWhile_eq_nil_iff, ← List.rdropWhile_eq_nil_iff, List.rdropWhile_idempotent,
    List.rdropWhile_eq_nil_iff]
  simp

lemma isLabelValue_trimmed {l : List Char} (hne : trimmed l ≠ []) (hlen : l.length ≤ 63)
    (hchars : ∀ c ∈ l, isAsciiAlphanumeric c = true ∨ c = '-' ∨ c = '_' ∨ c = '.') :
    IsLabelValue (String.ofList (trimmed l)) := by
  have hright : l.rdropWhile (fun c => !isAsciiAlphanumeric c) <+: l := List.rdropWhile_prefix _ l
  have hleft : trimmed l <:+ l.rdropWhile fun c => !isAsciiAlphanumeric c :=
    List.dropWhile_suffix _
  have hsub : ∀ c ∈ trimmed l, c ∈ l := fun c hc => hright.subset (hleft.subset hc)
  refine ⟨?_, ?_, ?_, ?_⟩ <;> rw [String.toList_ofList]
  · exact ⟨List.length_pos_of_ne_nil hne, (hleft.length_le.trans hright.length_le).trans hlen⟩
  · exact fun c hc => hchars c (hsub c hc)
  · refine ⟨_, List.head?_eq_some_head hne, ?_⟩
    simpa [trimmed] using List.head_dropWhile_not (fun c => !isAsciiAlphanumeric c) hne
  · -- the last character is that of what was trimmed on the right
    have hne' : l.rdropWhile (fun c => !isAsciiAlphanumeric c) ≠ [] := fun hnil =>
      hne (List.suffix_nil.mp (hnil ▸ hleft))
    refine ⟨_, List.getLast?_eq_some_getLast hne, ?_⟩
    rw [hleft.getLast hne]
    simpa using List.rdropWhile_last_not (fun c => !isAsciiAlphanumeric c) l hne'

/-- **Published metadata is valid.**  Whatever strings a device presents, its names are DNS-1123
subdomains; and a label value is made of every string that has an ASCII letter or digit among its
first 63 characters. -/
theorem published_metadata_valid (sha256 : List UInt8 → List UInt8)
    (hhash : ∀ tier parts, IsShortHash (shortHash sha256 tier parts)) :
    (∀ (f : Fingerprint) (tier : IdentitySource) (n : String),
      f.portableName sha256 tier = some n → IsDnsSubdomain n) ∧
    (∀ (f : Fingerprint) (node portPath : String),
      IsDnsSubdomain (f.portName sha256 node portPath)) ∧
    (∀ s, labelValue s = none ↔ ∀ c ∈ s.toList.take 63, isAsciiAlphanumeric c = false) ∧
    ∀ s v, labelValue s = some v → IsLabelValue v := by
  refine ⟨fun f tier n hn => @Identity.name_isDnsSubdomain sha256 hhash (.portable f tier) n hn,
    fun f node portPath => @Identity.name_isDnsSubdomain sha256 hhash (.port f node portPath) _ rfl,
    fun s => ?_, fun s v hv => ?_⟩
  · rw [labelValue_eq, ite_eq_left_iff, imp_iff_not (by simp), not_not, trimmed_eq_nil, labelChars,
      List.forall_mem_map]
    simp only [isAsciiAlphanumeric_labelChar]
  · rw [labelValue_eq] at hv
    split_ifs at hv with hnil
    rw [← Option.some.inj hv]
    refine isLabelValue_trimmed hnil ?_ (List.forall_mem_map.mpr fun c _ => labelChar_mem c)
    rw [labelChars, List.length_map, List.length_take]
    exact min_le_left _ _

/-- SHA-256 on the serial identities of four adapters. -/
def adapterSha256 (input : List UInt8) : List UInt8 :=
  if (adapterDigest input).length = 32 then adapterDigest input else List.replicate 32 0

lemma length_adapterSha256 (input : List UInt8) : (adapterSha256 input).length = 32 := by
  unfold adapterSha256
  split_ifs with h
  · exact h
  · exact List.length_replicate

theorem published_metadata_valid_adapter :
    IsDnsSubdomain "usb-10c4-ea60-abc-0deaa041" ∧ labelValue "__\u00fc" = none ∧
      IsLabelValue "a.b" := by
  have h := published_metadata_valid adapterSha256 (isShortHash_of_length length_adapterSha256)
  exact ⟨h.1 (adapterWithSerial "ABC") .serial _ (by decide +kernel),
    (h.2.2.1 "__\u00fc").mpr (by simp [isAsciiAlphanumeric]),
    h.2.2.2 "-a.b!" "a.b" (by decide +kernel)⟩

end AtomicUsb
