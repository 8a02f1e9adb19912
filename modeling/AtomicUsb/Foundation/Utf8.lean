import AtomicUsb.Foundation.Text
import Mathlib.Data.String.Basic

/-!
# UTF-8

Strings and their bytes.  A string is what its bytes decode to, and an ASCII character occurs in a
string exactly where its byte occurs among the bytes, since all bytes of other characters are at
least 128 (`ascii_mem_bytes`).

Bytes that may not be UTF-8 are decoded one at a time, with the character begun so far as the state.
On the bytes of a string nothing is lost (`fromUtf8Lossy_bytes`): the ranges for the second byte
leave out what no character is encoded as.
-/

namespace Text

lemma bytes_injective : Function.Injective bytes := by
  intro s t h
  rw [← String.toByteArray_inj]
  exact ByteArray.ext (Array.toList_inj.mp h)

/-- `str::from_utf8`. -/
def fromUtf8 (bs : List UInt8) : Option String := String.fromUTF8? ⟨bs.toArray⟩

lemma fromUtf8_eq_some {bs : List UInt8} {s : String} : fromUtf8 bs = some s ↔ bs = bytes s := by
  unfold fromUtf8 String.fromUTF8?
  constructor
  · intro h
    split at h
    · rw [Option.some.injEq] at h
      rw [← h]
      rfl
    · cases h
  · rintro rfl
    have hvalid : (⟨(bytes s).toArray⟩ : ByteArray).IsValidUTF8 := s.isValidUTF8
    rw [dif_pos hvalid]
    rfl

lemma fromUtf8_bytes (s : String) : fromUtf8 (bytes s) = some s := fromUtf8_eq_some.mpr rfl

lemma bytes_eq_flatMap (s : String) : bytes s = s.toList.flatMap String.utf8EncodeChar := by
  show s.toByteArray.data.toList = _
  rw [← String.utf8Encode_toList]
  exact List.toList_data_toByteArray

/-- The bytes of one character. -/
lemma mem_utf8EncodeChar {c : Char} {b : UInt8} (h : b ∈ String.utf8EncodeChar c) :
    (c.toNat < 128 ∧ b = UInt8.ofNat c.toNat) ∨ 128 ≤ b.toNat := by
  have hhigh : ∀ n, 128 ≤ n → n < 256 → 128 ≤ (UInt8.ofNat n).toNat := by
    intro n hlow hn
    rwa [UInt8.toNat_ofNat_of_lt' hn]
  unfold String.utf8EncodeChar at h
  dsimp only at h
  split_ifs at h with h1 h2 h3
  · exact Or.inl ⟨Nat.lt_succ_of_le h1, List.mem_singleton.mp h⟩
  all_goals
    right
    simp only [List.mem_cons, List.not_mem_nil, or_false] at h
  · rcases h with rfl | rfl <;> exact hhigh _ (by omega) (by omega)
  · rcases h with rfl | rfl | rfl <;> exact hhigh _ (by omega) (by omega)
  · rcases h with rfl | rfl | rfl | rfl <;> exact hhigh _ (by omega) (by omega)

/-- An ASCII character occurs in a string where its byte does. -/
lemma ascii_mem_bytes {c : Char} (hc : c.toNat < 128) {s : String} :
    UInt8.ofNat c.toNat ∈ bytes s ↔ c ∈ s.toList := by
  have hbyte : ∀ n < 128, (UInt8.ofNat n).toNat = n := fun n hn =>
    UInt8.toNat_ofNat_of_lt' (hn.trans (by decide))
  rw [bytes_eq_flatMap, List.mem_flatMap]
  constructor
  · rintro ⟨d, hd, hmem⟩
    rcases mem_utf8EncodeChar hmem with ⟨hsmall, heq⟩ | hlarge
    · have hcode : c.toNat = d.toNat := by rw [← hbyte _ hc, heq, hbyte _ hsmall]
      rwa [Char.toNat_inj.mp hcode]
    · rw [hbyte _ hc] at hlarge
      omega
  · intro hmem
    refine ⟨c, hmem, ?_⟩
    have hascii : c.val.toNat ≤ 127 := Nat.le_of_lt_succ hc
    rw [String.utf8EncodeChar, if_pos hascii]
    exact List.mem_singleton_self _

/-- The string contains no NUL. -/
def NulFree (s : String) : Prop := Char.ofNat 0 ∉ s.toList

lemma NulFree.bytes {s : String} (h : NulFree s) : (0 : UInt8) ∉ bytes s :=
  mt (@ascii_mem_bytes (Char.ofNat 0) (by decide) s).mp h

/-! ## Lossy decoding -/

/-- A character of which some bytes have been read. -/
structure PartialChar where
  /-- What those bytes contribute to the code point. -/
  code : ℕ
  /-- How many bytes are missing. -/
  missing : ℕ
  /-- The range the next byte has to be in. -/
  low : ℕ
  high : ℕ

/-- U+FFFD. -/
def replacement : Char := Char.ofNat 0xfffd

/-- What a byte is at the start of a character. -/
def startChar (b : ℕ) : Char ⊕ PartialChar :=
  if b < 0x80 then .inl (Char.ofNat b)
  else if 0xc2 ≤ b ∧ b ≤ 0xdf then .inr ⟨b - 0xc0, 1, 0x80, 0xbf⟩
  -- the second byte rules out overlong forms, surrogates and what is beyond U+10FFFF
  else if b = 0xe0 then .inr ⟨0x0, 2, 0xa0, 0xbf⟩
  else if b = 0xed then .inr ⟨0xd, 2, 0x80, 0x9f⟩
  else if 0xe1 ≤ b ∧ b ≤ 0xef then .inr ⟨b - 0xe0, 2, 0x80, 0xbf⟩
  else if b = 0xf0 then .inr ⟨0x0, 3, 0x90, 0xbf⟩
  else if 0xf1 ≤ b ∧ b ≤ 0xf3 then .inr ⟨b - 0xf0, 3, 0x80, 0xbf⟩
  else if b = 0xf4 then .inr ⟨0x4, 3, 0x80, 0x8f⟩
  else .inl replacement

/-- The characters from here on, with the character that has been begun. -/
def lossyFrom : Option PartialChar → List UInt8 → List Char
  | none, [] => []
  | some _, [] => [replacement]
  | none, b :: bs =>
    match startChar b.toNat with
    | .inl c => c :: lossyFrom none bs
    | .inr p => lossyFrom (some p) bs
  | some p, b :: bs =>
    if p.low ≤ b.toNat ∧ b.toNat ≤ p.high then
      if p.missing = 1 then Char.ofNat (64 * p.code + (b.toNat - 0x80)) :: lossyFrom none bs
      else lossyFrom (some ⟨64 * p.code + (b.toNat - 0x80), p.missing - 1, 0x80, 0xbf⟩) bs
    else
      -- what was begun is given up, the byte starts anew
      match startChar b.toNat with
      | .inl c => replacement :: c :: lossyFrom none bs
      | .inr p => replacement :: lossyFrom (some p) bs

/-- `String::from_utf8_lossy`: every maximal part of an ill-formed sequence becomes U+FFFD. -/
def fromUtf8Lossy (bs : List UInt8) : List Char := lossyFrom none bs

lemma lossyFrom_more {p : PartialChar} {n : ℕ} (hlow : p.low ≤ n) (hhigh : n ≤ p.high)
    (hn : n < 256) (hmissing : p.missing ≠ 1) (bs : List UInt8) :
    lossyFrom (some p) (UInt8.ofNat n :: bs) =
      lossyFrom (some ⟨64 * p.code + (n - 0x80), p.missing - 1, 0x80, 0xbf⟩) bs := by
  rw [lossyFrom, UInt8.toNat_ofNat_of_lt' hn, if_pos ⟨hlow, hhigh⟩, if_neg hmissing]

lemma lossyFrom_last {p : PartialChar} {n : ℕ} (hlow : p.low ≤ n) (hhigh : n ≤ p.high)
    (hn : n < 256) (hmissing : p.missing = 1) (bs : List UInt8) :
    lossyFrom (some p) (UInt8.ofNat n :: bs) =
      Char.ofNat (64 * p.code + (n - 0x80)) :: lossyFrom none bs := by
  rw [lossyFrom, UInt8.toNat_ofNat_of_lt' hn, if_pos ⟨hlow, hhigh⟩, if_pos hmissing]

lemma lossyFrom_start {b : ℕ} {p : PartialChar} (hstart : startChar b = .inr p) (hb : b < 256)
    (bs : List UInt8) : lossyFrom none (UInt8.ofNat b :: bs) = lossyFrom (some p) bs := by
  rw [lossyFrom, UInt8.toNat_ofNat_of_lt' hb, hstart]

lemma startChar_two {b : ℕ} (h : 0xc2 ≤ b) (h' : b ≤ 0xdf) :
    startChar b = .inr ⟨b - 0xc0, 1, 0x80, 0xbf⟩ := by
  rw [startChar, if_neg (by omega), if_pos ⟨h, h'⟩]

/-- The first byte of three, which admits the second. -/
lemma startChar_three {b n : ℕ} (h : 0xe0 ≤ b) (h' : b ≤ 0xef) (hn : 0x80 ≤ n) (hn' : n ≤ 0xbf)
    (hlong : b = 0xe0 → 0xa0 ≤ n) (hsurrogate : b = 0xed → n ≤ 0x9f) :
    ∃ low high, startChar b = .inr ⟨b - 0xe0, 2, low, high⟩ ∧ low ≤ n ∧ n ≤ high := by
  by_cases he0 : b = 0xe0
  · subst he0
    exact ⟨0xa0, 0xbf, rfl, hlong rfl, hn'⟩
  by_cases hed : b = 0xed
  · subst hed
    exact ⟨0x80, 0x9f, rfl, hn, hsurrogate rfl⟩
  refine ⟨0x80, 0xbf, ?_, hn, hn'⟩
  rw [startChar, if_neg (by omega), if_neg (by omega), if_neg he0, if_neg hed,
    if_pos ⟨by omega, h'⟩]

/-- The first byte of four, which admits the second. -/
lemma startChar_four {b n : ℕ} (h : 0xf0 ≤ b) (h' : b ≤ 0xf4) (hn : 0x80 ≤ n) (hn' : n ≤ 0xbf)
    (hlong : b = 0xf0 → 0x90 ≤ n) (hbeyond : b = 0xf4 → n ≤ 0x8f) :
    ∃ low high, startChar b = .inr ⟨b - 0xf0, 3, low, high⟩ ∧ low ≤ n ∧ n ≤ high := by
  by_cases hf0 : b = 0xf0
  · subst hf0
    exact ⟨0x90, 0xbf, rfl, hlong rfl, hn'⟩
  by_cases hf4 : b = 0xf4
  · subst hf4
    exact ⟨0x80, 0x8f, rfl, hn, hbeyond rfl⟩
  refine ⟨0x80, 0xbf, ?_, hn, hn'⟩
  rw [startChar, if_neg (by omega), if_neg (by omega), if_neg (by omega), if_neg (by omega),
    if_neg (by omega), if_neg hf0, if_pos ⟨by omega, by omega⟩]

lemma lossyFrom_utf8EncodeChar (c : Char) (bs : List UInt8) :
    lossyFrom none (String.utf8EncodeChar c ++ bs) = c :: lossyFrom none bs := by
  -- surrogates are not characters, so a code point never has the second byte `startChar` refuses
  have hvalid : c.val.toNat < 0xd800 ∨ (0xdfff < c.val.toNat ∧ c.val.toNat < 0x110000) := c.valid
  have hc : Char.ofNat c.val.toNat = c := Char.ofNat_toNat c
  unfold String.utf8EncodeChar
  dsimp only
  generalize c.val.toNat = v at hvalid hc ⊢
  by_cases h1 : v ≤ 0x7f
  · have hv : v < 256 := by omega
    have hstart : startChar v = .inl (Char.ofNat v) := by rw [startChar, if_pos (by omega)]
    rw [if_pos h1, List.singleton_append, lossyFrom, UInt8.toNat_ofNat_of_lt' hv, hstart]
    dsimp only
    rw [hc]
  rw [if_neg h1]
  by_cases h2 : v ≤ 0x7ff
  · have hcode : 64 * (v / 64 % 32 + 192 - 0xc0) + (v % 64 + 128 - 0x80) = v := by omega
    rw [if_pos h2, List.cons_append, List.singleton_append,
      lossyFrom_start (startChar_two (by omega) (by omega)) (by omega),
      lossyFrom_last (by dsimp only; omega) (by dsimp only; omega) (by omega) rfl, hcode, hc]
  rw [if_neg h2]
  by_cases h3 : v ≤ 0xffff
  · have hcode : 64 * (64 * (v / 4096 % 16 + 224 - 0xe0) + (v / 64 % 64 + 128 - 0x80)) +
        (v % 64 + 128 - 0x80) = v := by omega
    obtain ⟨low, high, hstart, hlow, hhigh⟩ := @startChar_three (v / 4096 % 16 + 224)
      (v / 64 % 64 + 128) (by omega) (by omega) (by omega) (by omega) (by omega) (by omega)
    rw [if_pos h3, List.cons_append, List.cons_append, List.singleton_append,
      lossyFrom_start hstart (by omega), lossyFrom_more hlow hhigh (by omega) (by simp),
      lossyFrom_last (by dsimp only; omega) (by dsimp only; omega) (by omega) rfl, hcode, hc]
  · have hcode : 64 * (64 * (64 * (v / 262144 % 8 + 240 - 0xf0) + (v / 4096 % 64 + 128 - 0x80)) +
        (v / 64 % 64 + 128 - 0x80)) + (v % 64 + 128 - 0x80) = v := by omega
    obtain ⟨low, high, hstart, hlow, hhigh⟩ := @startChar_four (v / 262144 % 8 + 240)
      (v / 4096 % 64 + 128) (by omega) (by omega) (by omega) (by omega) (by omega) (by omega)
    rw [if_neg h3, List.cons_append, List.cons_append, List.cons_append, List.singleton_append,
      lossyFrom_start hstart (by omega), lossyFrom_more hlow hhigh (by omega) (by simp),
      lossyFrom_more (by dsimp only; omega) (by dsimp only; omega) (by omega) (by simp),
      lossyFrom_last (by dsimp only; omega) (by dsimp only; omega) (by omega) rfl, hcode, hc]

lemma fromUtf8Lossy_bytes (s : String) : fromUtf8Lossy (bytes s) = s.toList := by
  rw [bytes_eq_flatMap, fromUtf8Lossy]
  induction s.toList with
  | nil => rfl
  | cons c cs ih => rw [List.flatMap_cons, lossyFrom_utf8EncodeChar, ih]
end Text
