import AtomicUsb.Foundation.Numerals
import AtomicUsb.Identity.Names

/-!
# USB ids

A vendor or product id is a number of 16 bits, written in one to four hexadecimal digits of either
case behind an optional `0x`.  `usbIdNumber` says which number a spelling denotes, and
`normalizeUsbId` picks one spelling of each number (`normalizeUsbId_eq_some_iff`), so comparing
normalized ids compares the numbers (`normalizeUsbId_eq_some_of_number`).
-/

namespace AtomicUsb

/-- Four lowercase hexadecimal digits. -/
structure IsUsbId (s : String) : Prop where
  length : s.toList.length = 4
  digits : ∀ c ∈ s.toList, ('0' ≤ c ∧ c ≤ '9') ∨ ('a' ≤ c ∧ c ≤ 'f')

/-- One to four hexadecimal digits. -/
structure IsHexId (s : List Char) : Prop where
  length_pos : 1 ≤ s.length
  length_le : s.length ≤ 4
  digits : ∀ c ∈ s, Text.isHexDigit c = true

lemma isHexId_iff {s : List Char} :
    IsHexId s ↔ 1 ≤ s.length ∧ s.length ≤ 4 ∧ s.all Text.isHexDigit = true := by
  rw [List.all_eq_true]
  exact ⟨fun h => ⟨h.1, h.2, h.3⟩, fun h => ⟨h.1, h.2.1, h.2.2⟩⟩

instance {s : List Char} : Decidable (IsHexId s) := decidable_of_iff _ isHexId_iff.symm

/-- An id without surrounding white space and without its `0x`. -/
def hexPart (id : String) : List Char :=
  match Text.trim id.toList with
  | '0' :: 'x' :: rest => rest
  | '0' :: 'X' :: rest => rest
  | s => s

/-- The number an id denotes. -/
def usbIdNumber (id : String) : Option ℕ :=
  if IsHexId (hexPart id) then some (Text.hexNumber (hexPart id)) else none

/-- The digits of a normalized id. -/
def canonicalDigits (hex : List Char) : List Char :=
  List.replicate (4 - hex.length) '0' ++ hex.map Char.toLower

lemma normalizeUsbId_eq (id : String) : normalizeUsbId id =
    if IsHexId (hexPart id) then some (String.ofList (canonicalDigits (hexPart id))) else none := by
  have hhex : ((Text.stripPrefix ['0', 'x'] (Text.trim id.toList)) <|>
      (Text.stripPrefix ['0', 'X'] (Text.trim id.toList))).getD (Text.trim id.toList) =
      hexPart id := by
    unfold hexPart
    split
    next rest h =>
      rw [Text.stripPrefix_eq_some.mpr h]
      rfl
    next rest h =>
      rw [h]
      rfl
    next hx hX =>
      have hnone : ∀ {pre s : List Char}, (∀ rest, s ≠ pre ++ rest) →
          Text.stripPrefix pre s = none := fun h =>
        Option.eq_none_iff_forall_ne_some.mpr fun rest hs => h rest (Text.stripPrefix_eq_some.mp hs)
      rw [hnone hx, hnone hX]
      rfl
  have hcond : (hexPart id = [] ∨ 4 < (hexPart id).length ∨
      ¬ ((hexPart id).all Text.isHexDigit = true)) ↔ ¬ IsHexId (hexPart id) := by
    rw [isHexId_iff, not_and_or, not_and_or, not_le, not_le, Nat.lt_one_iff,
      List.length_eq_zero_iff]
  unfold normalizeUsbId
  dsimp only
  rw [hhex, if_congr hcond rfl rfl, ite_not]
  rfl

/-! ## Canonical ids -/

lemma IsHexId.isUsbId {s : List Char} (h : IsHexId s) :
    IsUsbId (String.ofList (canonicalDigits s)) := by
  refine ⟨?_, fun c hc => ?_⟩
  · rw [String.toList_ofList, canonicalDigits, List.length_append, List.length_replicate,
      List.length_map]
    have hle := h.length_le
    omega
  · rw [String.toList_ofList, canonicalDigits, List.mem_append, List.mem_map] at hc
    rcases hc with hzero | ⟨d, hd, rfl⟩
    · rw [List.eq_of_mem_replicate hzero]
      decide
    · exact Text.isLowerHex_toLower (h.digits d hd)

lemma hexNumber_canonicalDigits {s : List Char} (h : IsHexId s) :
    Text.hexNumber (canonicalDigits s) = Text.hexNumber s := by
  rw [canonicalDigits, Text.hexNumber_leading_zeros, Text.hexNumber_map_toLower h.digits]

lemma IsUsbId.isHexId {s : String} (h : IsUsbId s) : IsHexId s.toList where
  length_pos := by rw [h.length]; decide
  length_le := h.length.le
  digits c hc := Text.IsLowerHex.isHexDigit (h.digits c hc)

/-- Nothing is stripped from four digits. -/
lemma IsUsbId.hexPart_eq {s : String} (h : IsUsbId s) : hexPart s = s.toList := by
  have htrim : Text.trim s.toList = s.toList :=
    Text.trim_eq_self fun c hc => Text.isWhitespace_of_isHexDigit (h.isHexId.digits c hc)
  have hx : 'x' ∉ s.toList := fun hx => absurd (h.isHexId.digits _ hx) (by decide)
  have hX : 'X' ∉ s.toList := fun hX => absurd (h.isHexId.digits _ hX) (by decide)
  rw [hexPart, htrim]
  split
  next rest heq => exact absurd (by simp [heq]) hx
  next rest heq => exact absurd (by simp [heq]) hX
  next => rfl

lemma IsUsbId.usbIdNumber_eq {s : String} (h : IsUsbId s) :
    usbIdNumber s = some (Text.hexNumber s.toList) := by
  rw [usbIdNumber, h.hexPart_eq, if_pos h.isHexId]

lemma IsUsbId.eq_of_number_eq {s t : String} (hs : IsUsbId s) (ht : IsUsbId t)
    (h : usbIdNumber s = usbIdNumber t) : s = t := by
  rw [hs.usbIdNumber_eq, ht.usbIdNumber_eq, Option.some.injEq] at h
  exact String.toList_injective (Text.hexNumber_inj (hs.length.trans ht.length.symm) hs.digits
    ht.digits h)

/-- Normalizing an id gives the canonical spelling of the number it denotes. -/
lemma normalizeUsbId_eq_some_iff {s x : String} :
    normalizeUsbId s = some x ↔ IsUsbId x ∧ usbIdNumber s = usbIdNumber x := by
  rw [normalizeUsbId_eq]
  constructor
  · intro h
    rw [Option.ite_none_right_eq_some, Option.some.injEq] at h
    obtain ⟨hhex, rfl⟩ := h
    have hid := hhex.isUsbId
    refine ⟨hid, ?_⟩
    rw [usbIdNumber, if_pos hhex, hid.usbIdNumber_eq, String.toList_ofList,
      hexNumber_canonicalDigits hhex]
  · rintro ⟨hx, hnum⟩
    rw [hx.usbIdNumber_eq, usbIdNumber, Option.ite_none_right_eq_some] at hnum
    obtain ⟨hhex, hnum⟩ := hnum
    rw [if_pos hhex, Option.some.injEq]
    refine hhex.isUsbId.eq_of_number_eq hx ?_
    rw [hhex.isUsbId.usbIdNumber_eq, hx.usbIdNumber_eq, String.toList_ofList,
      hexNumber_canonicalDigits hhex, hnum]

lemma normalizeUsbId_eq_none_iff {s : String} : normalizeUsbId s = none ↔ usbIdNumber s = none := by
  rw [normalizeUsbId_eq, usbIdNumber, ite_eq_right_iff, ite_eq_right_iff]
  exact ⟨fun h hhex => absurd (h hhex) (Option.some_ne_none _),
    fun h hhex => absurd (h hhex) (Option.some_ne_none _)⟩

/-- Two ids with a number in common normalize to the same, and only these. -/
lemma normalizeUsbId_eq_some_of_number {s t x : String} (ht : normalizeUsbId t = some x) :
    normalizeUsbId s = some x ↔ usbIdNumber s = usbIdNumber t := by
  obtain ⟨hx, hnum⟩ := normalizeUsbId_eq_some_iff.mp ht
  rw [normalizeUsbId_eq_some_iff, hnum]
  exact and_iff_right hx

lemma usbIdNumber_lt {s : String} {n : ℕ} (h : usbIdNumber s = some n) : n < 2 ^ 16 := by
  rw [usbIdNumber, Option.ite_none_right_eq_some, Option.some.injEq] at h
  obtain ⟨hhex, rfl⟩ := h
  calc Text.hexNumber (hexPart s) < 16 ^ (hexPart s).length := Text.hexNumber_lt hhex.digits
    _ ≤ 16 ^ 4 := Nat.pow_le_pow_right (by decide) hhex.length_le
    _ = 2 ^ 16 := by decide

end AtomicUsb
