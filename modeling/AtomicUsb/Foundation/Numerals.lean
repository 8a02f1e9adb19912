import AtomicUsb.Foundation.Text
import Mathlib.Data.Nat.Digits.Defs

/-!
# Numerals

Numbers written in digits, the most significant one first.  Leading zeros and the case of a digit do
not change the number, and numerals of one length in one case denote different numbers unless they
are the same (`hexNumber_inj`).
-/

namespace Text

/-- The number hexadecimal digits of either case write. -/
def hexNumber (s : List Char) : ℕ :=
  Nat.ofDigits 16 (s.reverse.map fun c => (hexValue c).getD 0)

/-- `from_str_radix` of an unsigned integer type with largest value `max`, for a radix of at most
16. -/
def fromStrRadix (radix max : ℕ) (s : List Char) : Option ℕ :=
  let digits := (stripPrefix ['+'] s).getD s
  if digits = [] then none
  else ((digits.mapM fun c => (hexValue c).filter (· < radix)).map
    fun ds => Nat.ofDigits radix ds.reverse).filter (· ≤ max)

/-! ## Digits -/

/-- A lowercase hexadecimal digit. -/
abbrev IsLowerHex (c : Char) : Prop := ('0' ≤ c ∧ c ≤ '9') ∨ ('a' ≤ c ∧ c ≤ 'f')

section Digits

variable {c : Char}

lemma isHexDigit_ascii (h : isHexDigit c = true) : c.toNat < 128 := by
  have hle : ∀ d : Char, d.toNat < 128 → c ≤ d → c.toNat < 128 := fun d hd hcd =>
    Nat.lt_of_le_of_lt hcd hd
  simp only [Text.isHexDigit, Bool.or_eq_true, Bool.and_eq_true, decide_eq_true_eq] at h
  rcases h with (h | h) | h
  · exact hle _ (by decide) h.2
  · exact hle _ (by decide) h.2
  · exact hle _ (by decide) h.2

lemma IsLowerHex.isHexDigit (h : IsLowerHex c) : isHexDigit c = true := by
  simp only [Text.isHexDigit, Bool.or_eq_true, Bool.and_eq_true, decide_eq_true_eq]
  exact Or.inl h

lemma isLowerHex_toLower (h : isHexDigit c = true) : IsLowerHex c.toLower :=
  forall_ascii (P := fun c => isHexDigit c = true → IsLowerHex c.toLower)
    (by decide) (isHexDigit_ascii h) h

lemma hexValue_toLower (h : isHexDigit c = true) : hexValue c.toLower = hexValue c :=
  forall_ascii (P := fun c => isHexDigit c = true → hexValue c.toLower = hexValue c)
    (by decide) (isHexDigit_ascii h) h

lemma hexValue_lt (h : isHexDigit c = true) : (hexValue c).getD 0 < 16 :=
  forall_ascii (P := fun c => isHexDigit c = true → (hexValue c).getD 0 < 16)
    (by decide) (isHexDigit_ascii h) h

lemma hexDigit_hexValue (h : IsLowerHex c) : hexDigit ((hexValue c).getD 0) = c :=
  forall_ascii (P := fun c => IsLowerHex c → hexDigit ((hexValue c).getD 0) = c)
    (by decide) (isHexDigit_ascii h.isHexDigit) h

lemma isWhitespace_of_isHexDigit (h : isHexDigit c = true) : isWhitespace c = false :=
  forall_ascii (P := fun c => isHexDigit c = true → isWhitespace c = false)
    (by decide) (isHexDigit_ascii h) h

end Digits

/-! ## Numbers -/

section Numbers

variable {s t : List Char}

lemma hexNumber_leading_zeros (n : ℕ) (s : List Char) :
    hexNumber (List.replicate n '0' ++ s) = hexNumber s := by
  unfold hexNumber
  rw [List.reverse_append, List.reverse_replicate, List.map_append, List.map_replicate]
  exact Nat.ofDigits_append_replicate_zero _

lemma hexNumber_map_toLower (h : ∀ c ∈ s, isHexDigit c = true) :
    hexNumber (s.map Char.toLower) = hexNumber s := by
  unfold hexNumber
  rw [← List.map_reverse, List.map_map]
  congr 1
  apply List.map_congr_left
  intro c hc
  show (hexValue c.toLower).getD 0 = _
  rw [hexValue_toLower (h c (List.mem_reverse.mp hc))]

/-- The digits `hexNumber` adds up. -/
lemma hexDigits_lt (h : ∀ c ∈ s, isHexDigit c = true) :
    ∀ d ∈ s.reverse.map fun c => (hexValue c).getD 0, d < 16 := by
  intro d hd
  obtain ⟨c, hc, rfl⟩ := List.mem_map.mp hd
  exact hexValue_lt (h c (List.mem_reverse.mp hc))

lemma hexNumber_lt (h : ∀ c ∈ s, isHexDigit c = true) : hexNumber s < 16 ^ s.length := by
  have hbound := Nat.ofDigits_lt_base_pow_length (by decide) (hexDigits_lt h)
  rwa [List.length_map, List.length_reverse] at hbound

lemma hexNumber_inj (hlen : s.length = t.length)
    (hs : ∀ c ∈ s, IsLowerHex c)
    (ht : ∀ c ∈ t, IsLowerHex c) (h : hexNumber s = hexNumber t) :
    s = t := by
  have hback : ∀ l : List Char, (∀ c ∈ l, IsLowerHex c) →
      (l.reverse.map fun c => (hexValue c).getD 0).map hexDigit = l.reverse := by
    intro l hl
    rw [List.map_map]
    conv_rhs => rw [← List.map_id l.reverse]
    exact List.map_congr_left fun c hc => hexDigit_hexValue (hl c (List.mem_reverse.mp hc))
  have hdigits := Nat.ofDigits_inj_of_len_eq (by decide) (by simp [hlen])
    (hexDigits_lt fun c hc => (hs c hc).isHexDigit)
    (hexDigits_lt fun c hc => (ht c hc).isHexDigit) h
  apply List.reverse_injective
  rw [← hback s hs, ← hback t ht, hdigits]

end Numbers

end Text
