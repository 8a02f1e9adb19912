import Mathlib.Algebra.Group.Nat.Defs
import Mathlib.Data.List.DropRight

/-!
# Text

The string operations of Rust's standard library that the sources use and Lean spells
differently: Unicode `trim`, ASCII classification, and two-digit hexadecimal.
-/

namespace Text

/-- `char::is_whitespace`: the Unicode `White_Space` property. -/
def isWhitespace (c : Char) : Bool :=
  let n := c.toNat
  (0x09 ≤ n && n ≤ 0x0d) || n == 0x20 || n == 0x85 || n == 0xa0 || n == 0x1680 ||
    (0x2000 ≤ n && n ≤ 0x200a) || n == 0x2028 || n == 0x2029 || n == 0x202f || n == 0x205f ||
    n == 0x3000

/-- `str::trim`. -/
def trim (s : List Char) : List Char := (s.dropWhile isWhitespace).rdropWhile isWhitespace

lemma trim_eq_nil_iff {s : List Char} : trim s = [] ↔ ∀ c ∈ s, isWhitespace c = true := by
  rw [trim, List.rdropWhile_eq_nil_iff]
  constructor
  · intro h
    rw [← List.dropWhile_eq_nil_iff]
    by_contra hne
    have hhead := List.head_dropWhile_not isWhitespace hne
    rw [h _ (List.head_mem hne)] at hhead
    cases hhead
  · exact fun h c hc => h c ((List.dropWhile_suffix _).subset hc)

lemma trim_eq_self {s : List Char} (h : ∀ c ∈ s, isWhitespace c = false) : trim s = s := by
  have hdrop : s.dropWhile isWhitespace = s := by
    rw [List.dropWhile_eq_self_iff]
    intro hl
    rw [h _ (List.getElem_mem hl)]
    exact Bool.false_ne_true
  rw [trim, hdrop, List.rdropWhile_eq_self_iff]
  intro hl
  rw [h _ (List.getLast_mem hl)]
  exact Bool.false_ne_true

lemma mem_of_mem_trim {s : List Char} {c : Char} (h : c ∈ trim s) : c ∈ s :=
  (List.dropWhile_suffix _).subset ((List.rdropWhile_prefix _ _).subset h)

lemma trim_trim (s : List Char) : trim (trim s) = trim s := by
  have hdrop : (trim s).dropWhile isWhitespace = trim s := by
    rw [List.dropWhile_eq_self_iff]
    intro hl
    -- the first character is the one the first half stopped at
    have hfirst := (List.rdropWhile_prefix isWhitespace (s.dropWhile isWhitespace)).getElem hl
    rw [show (trim s)[0] = _ from hfirst]
    exact List.dropWhile_get_zero_not isWhitespace s _
  conv_lhs => rw [trim, hdrop]
  exact List.rdropWhile_idempotent _ _

/-- A property of ASCII characters is checked on the 128 of them. -/
lemma forall_ascii {P : Char → Prop} (h : ∀ n < 128, P (Char.ofNat n)) {c : Char}
    (hc : c.toNat < 128) : P c := by
  rw [← Char.ofNat_toNat c]
  exact h _ hc

/-- `char::is_ascii_hexdigit`. -/
def isHexDigit (c : Char) : Bool :=
  ('0' ≤ c && c ≤ '9') || ('a' ≤ c && c ≤ 'f') || ('A' ≤ c && c ≤ 'F')

/-- `str::strip_prefix`. -/
def stripPrefix (pre s : List Char) : Option (List Char) :=
  if pre.isPrefixOf s then some (s.drop pre.length) else none

lemma stripPrefix_eq_some {pre s rest : List Char} :
    stripPrefix pre s = some rest ↔ s = pre ++ rest := by
  rw [stripPrefix, Option.ite_none_right_eq_some, List.isPrefixOf_iff_prefix, Option.some.injEq]
  constructor
  · rintro ⟨⟨t, rfl⟩, rfl⟩
    rw [List.drop_left]
  · rintro rfl
    exact ⟨List.prefix_append _ _, List.drop_left⟩

/-- The UTF-8 bytes of a string. -/
def bytes (s : String) : List UInt8 := s.toUTF8.data.toList

/-- One lowercase hexadecimal digit. -/
def hexDigit (n : ℕ) : Char := if n < 10 then Char.ofNat (48 + n) else Char.ofNat (87 + n)

/-- `hex::encode`, which is also `format!("{:02x}")` byte by byte. -/
def hexEncode (bs : List UInt8) : List Char :=
  bs.flatMap fun b => [hexDigit (b.toNat / 16), hexDigit (b.toNat % 16)]

lemma hexDigit_lower : ∀ n < 16, ('0' ≤ hexDigit n ∧ hexDigit n ≤ '9') ∨
    ('a' ≤ hexDigit n ∧ hexDigit n ≤ 'f') := by decide

lemma lower_of_mem_hexEncode {bs : List UInt8} {c : Char} (h : c ∈ hexEncode bs) :
    ('0' ≤ c ∧ c ≤ '9') ∨ ('a' ≤ c ∧ c ≤ 'f') := by
  obtain ⟨b, -, hc⟩ := List.mem_flatMap.mp h
  have hb : b.toNat < 256 := b.toNat_lt
  rcases List.mem_pair.mp hc with rfl | rfl
  · exact hexDigit_lower _ (by omega)
  · exact hexDigit_lower _ (by omega)

lemma length_hexEncode (bs : List UInt8) : (hexEncode bs).length = 2 * bs.length := by
  induction bs with
  | nil => rfl
  | cons b bs ih =>
      rw [hexEncode, List.flatMap_cons, List.length_append, ← hexEncode, ih]
      simp only [List.length_cons, List.length_nil]
      omega

/-- What follows the last character that does not satisfy a predicate. -/
lemma rtakeWhile_append_cons {p : Char → Bool} {before after : List Char} {c : Char}
    (hc : p c = false) : (before ++ c :: after).rtakeWhile p = after.rtakeWhile p := by
  have hstop : ([c] ++ before.reverse).takeWhile p = [] := by simp [hc]
  unfold List.rtakeWhile
  rw [List.reverse_append, List.reverse_cons, List.append_assoc, List.takeWhile_append, hstop]
  split_ifs with hall
  · rw [(List.takeWhile_prefix p).eq_of_length hall, List.append_nil]
  · rfl

/-- The value of a hexadecimal digit of either case. -/
def hexValue (c : Char) : Option ℕ :=
  if '0' ≤ c ∧ c ≤ '9' then some (c.toNat - 48)
  else if 'a' ≤ c ∧ c ≤ 'f' then some (c.toNat - 87)
  else if 'A' ≤ c ∧ c ≤ 'F' then some (c.toNat - 55)
  else none

/-- `hex::decode`: pairs of digits, anything else is an error. -/
def hexDecode : List Char → Option (List UInt8)
  | [] => some []
  | [_] => none
  | hi :: lo :: rest => do
    let h ← hexValue hi
    let l ← hexValue lo
    let bs ← hexDecode rest
    pure (UInt8.ofNat (16 * h + l) :: bs)

/-- `u64::to_be_bytes`. -/
def beBytes (n : ℕ) : List UInt8 :=
  [7, 6, 5, 4, 3, 2, 1, 0].map fun i => UInt8.ofNat (n / 256 ^ i)

end Text
