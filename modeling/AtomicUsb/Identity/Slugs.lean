import AtomicUsb.Identity.Names
import Mathlib.Data.List.Chain
import Mathlib.Data.String.Basic

/-!
# Slugs

What `slugify` makes of a string, in its own terms: at most 40 characters of `[a-z0-9-]` without a
leading, trailing or doubled `-`.  The loop keeps all of that but the trailing `-`, which may be
where it breaks off (`SlugStart`), and the strings that it leaves alone are exactly the slugs.
-/

namespace AtomicUsb

/-- `[a-z0-9]`. -/
def IsLowerAlnum (c : Char) : Prop := ('a' ≤ c ∧ c ≤ 'z') ∨ ('0' ≤ c ∧ c ≤ '9')

lemma dash_not_lowerAlnum : ¬ IsLowerAlnum '-' := by
  unfold IsLowerAlnum
  decide

/-- The beginning of a slug, wherever it breaks off. -/
structure SlugStart (l : List Char) : Prop where
  chars : ∀ c ∈ l, IsLowerAlnum c ∨ c = '-'
  head : l.head? ≠ some '-'
  single : l.IsChain fun a b => a = '-' → b ≠ '-'

/-- The strings `slugify` yields. -/
structure IsSlug (s : String) : Prop extends SlugStart s.toList where
  last : s.toList.getLast? ≠ some '-'
  length : s.toList.length ≤ maxSlugLen

/-! ## The loop -/

lemma slugChar_mem (c : Char) : IsLowerAlnum (slugChar c) ∨ slugChar c = '-' := by
  unfold slugChar
  split_ifs with hlower hupper
  · exact Or.inl hlower
  · -- the lowercase letter 32 places up
    have hall : ∀ n < 26, 'a' ≤ Char.ofNat (65 + n + 32) ∧ Char.ofNat (65 + n + 32) ≤ 'z' := by
      decide
    have hlow : 65 ≤ c.toNat := Char.le_def.mp hupper.1
    have hhigh : c.toNat ≤ 90 := Char.le_def.mp hupper.2
    obtain ⟨n, hn⟩ := Nat.exists_eq_add_of_le hlow
    rw [hn]
    exact Or.inl (Or.inl (hall n (by omega)))
  · exact Or.inr rfl

lemma slugChar_eq_self {c : Char} (h : IsLowerAlnum c ∨ c = '-') : slugChar c = c := by
  rcases h with h | rfl
  · exact if_pos h
  · decide

lemma SlugStart.nil : SlugStart [] := ⟨by simp, by simp, .nil⟩

lemma SlugStart.of_prefix {l l' : List Char} (h : SlugStart l) (hpre : l' <+: l) :
    SlugStart l' where
  chars c hc := h.chars c (hpre.subset hc)
  head hc := by
    obtain ⟨rest, rfl⟩ := hpre
    cases l' with
    | nil => cases hc
    | cons c l' => exact h.head hc
  single := h.single.infix hpre.isInfix

/-- What the loop does not skip can be appended. -/
lemma SlugStart.concat {out : List Char} (h : SlugStart out) {c : Char}
    (hc : IsLowerAlnum c ∨ c = '-')
    (hkeep : ¬ (c = '-' ∧ (out = [] ∨ out.getLast? = some '-'))) : SlugStart (out ++ [c]) where
  chars := by
    intro x hx
    rcases List.mem_append.mp hx with hx | hx
    · exact h.chars x hx
    · rwa [List.mem_singleton.mp hx]
  head hdash := by
    cases out with
    | nil => exact hkeep ⟨Option.some.inj hdash, Or.inl rfl⟩
    | cons x out => exact h.head hdash
  single := by
    refine h.single.append (.singleton c) fun x hx y hy hdash heq => hkeep ⟨?_, Or.inr ?_⟩
    · rw [List.head?_cons, Option.mem_some_iff] at hy
      rw [hy, heq]
    · rw [← hdash]
      exact hx

lemma slugLoop_spec {out : List Char} (h : SlugStart out) (hlen : out.length < maxSlugLen)
    (l : List Char) : SlugStart (slugLoop l out) ∧ (slugLoop l out).length ≤ maxSlugLen := by
  induction l generalizing out with
  | nil => exact ⟨h, hlen.le⟩
  | cons c l ih =>
      rw [slugLoop]
      split_ifs with hskip hfull
      · exact ih h hlen
      · refine ⟨h.concat (slugChar_mem c) hskip, ?_⟩
        rw [List.length_append, List.length_singleton]
        exact hlen
      · exact ih (h.concat (slugChar_mem c) hskip) (not_le.mp hfull)

/-- Slugs go through the loop as they are. -/
lemma slugLoop_eq_append {l out : List Char} (h : SlugStart (out ++ l))
    (hlen : (out ++ l).length ≤ maxSlugLen) : slugLoop l out = out ++ l := by
  induction l generalizing out with
  | nil => rw [slugLoop, List.append_nil]
  | cons c l ih =>
      have happend : out ++ c :: l = (out ++ [c]) ++ l := by simp
      have hc : slugChar c = c := slugChar_eq_self (h.chars c (by simp))
      have hkeep : ¬ (c = '-' ∧ (out = [] ∨ out.getLast? = some '-')) := by
        rintro ⟨rfl, rfl | hlast⟩
        · exact h.head rfl
        · exact (List.isChain_append.mp h.single).2.2 '-' hlast '-' rfl rfl rfl
      rw [slugLoop, hc, if_neg hkeep]
      rw [happend] at h hlen ⊢
      split_ifs with hfull
      · rw [List.length_append] at hlen
        rw [List.length_eq_zero_iff.mp (by omega : l.length = 0), List.append_nil]
      · exact ih h hlen

/-- What is left when trailing `-` are trimmed. -/
lemma SlugStart.isSlug {l : List Char} (h : SlugStart l) (hlen : l.length ≤ maxSlugLen) :
    IsSlug (String.ofList (l.rdropWhile (· = '-'))) := by
  have hpre : l.rdropWhile (· = '-') <+: l := List.rdropWhile_prefix _ l
  refine ⟨?_, ?_, ?_⟩ <;> rw [String.toList_ofList]
  · exact h.of_prefix hpre
  · intro hdash
    have hne : l.rdropWhile (· = '-') ≠ [] := by
      intro hnil
      rw [hnil] at hdash
      cases hdash
    rw [List.getLast?_eq_some_getLast hne] at hdash
    exact List.rdropWhile_last_not _ _ hne (by simpa using hdash)
  · exact hpre.length_le.trans hlen

lemma isSlug_slugify (s : String) : IsSlug (slugify s) := by
  obtain ⟨hstart, hlen⟩ := slugLoop_spec .nil (by decide) s.toList
  exact hstart.isSlug hlen

lemma slugify_eq_self_iff {s : String} : slugify s = s ↔ IsSlug s := by
  constructor
  · intro h
    rw [← h]
    exact isSlug_slugify s
  · intro h
    have hlast : s.toList.rdropWhile (· = '-') = s.toList := by
      rw [List.rdropWhile_eq_self_iff]
      intro hne hdash
      refine h.last ?_
      rw [List.getLast?_eq_some_getLast hne]
      simpa using hdash
    have hloop : slugLoop s.toList [] = s.toList := slugLoop_eq_append h.toSlugStart h.length
    rw [slugify, hloop, hlast, String.ofList_toList]

/-- Without a `-` everything that is short enough is a slug. -/
lemma isSlug_of_alnum {s : String} (h : ∀ c ∈ s.toList, IsLowerAlnum c)
    (hlen : s.toList.length ≤ maxSlugLen) : IsSlug s where
  chars c hc := Or.inl (h c hc)
  head hdash := dash_not_lowerAlnum (h _ (List.mem_of_mem_head? hdash))
  single := by
    refine List.Pairwise.isChain (List.pairwise_of_forall_mem_list fun a ha b _ hdash => ?_)
    exact absurd (hdash ▸ h a ha) dash_not_lowerAlnum
  last hdash := dash_not_lowerAlnum (h _ (List.mem_of_mem_getLast? hdash))
  length := hlen

instance (s : String) : Decidable (IsSlug s) :=
  decidable_of_iff (slugify s = s) slugify_eq_self_iff

/-! ## Serial numbers that are slugs -/

lemma IsLowerAlnum.not_whitespace {c : Char} (h : IsLowerAlnum c) :
    Text.isWhitespace c = false := by
  have hrange : (97 ≤ c.toNat ∧ c.toNat ≤ 122) ∨ (48 ≤ c.toNat ∧ c.toNat ≤ 57) := by
    rcases h with ⟨hlow, hhigh⟩ | ⟨hlow, hhigh⟩
    · exact Or.inl ⟨Char.le_def.mp hlow, Char.le_def.mp hhigh⟩
    · exact Or.inr ⟨Char.le_def.mp hlow, Char.le_def.mp hhigh⟩
  unfold Text.isWhitespace
  simp only [Bool.or_eq_false_iff, Bool.and_eq_false_iff, decide_eq_false_iff_not,
    beq_eq_false_iff_ne]
  omega

lemma IsSlug.head_alnum {s : String} (h : IsSlug s) (hne : s ≠ "") :
    ∃ c rest, s.toList = c :: rest ∧ IsLowerAlnum c := by
  cases hs : s.toList with
  | nil => exact absurd (String.toList_eq_nil_iff.mp hs) hne
  | cons c rest =>
      refine ⟨c, rest, rfl, (h.chars c (by simp [hs])).resolve_right ?_⟩
      rintro rfl
      exact h.head (by rw [hs, List.head?_cons])

lemma IsSlug.serialNumber {f : Fingerprint} {s : String} (h : IsSlug s) (hne : s ≠ "")
    (hs : f.serial = some s) : f.serialNumber = some s := by
  obtain ⟨c, rest, hlist, hc⟩ := h.head_alnum hne
  have hblank : Text.trim s.toList ≠ [] := by
    intro hnil
    have hspace := Text.trim_eq_nil_iff.mp hnil c (by simp [hlist])
    rw [hc.not_whitespace] at hspace
    cases hspace
  rw [Fingerprint.serialNumber, hs, Option.filter_some, if_pos (by simpa using hblank)]

/-- The name of the serial tier, where it applies. -/
lemma Fingerprint.portableName_serial (sha256 : List UInt8 → List UInt8) {f : Fingerprint}
    {s : String} (hs : f.serialNumber = some s) :
    f.portableName sha256 .serial =
      some (if IsSlug s ∧ s ≠ "" then f.namePrefix ++ "-" ++ s
        else joinName f.namePrefix [slugify s]
          (shortHash sha256 .serial [f.vendorId, f.productId, s])) := by
  have hbranch : (slugify s = s ∧ slugify s ≠ "") ↔ (IsSlug s ∧ s ≠ "") := by
    rw [slugify_eq_self_iff]
    refine and_congr_right fun h => ?_
    rw [slugify_eq_self_iff.mpr h]
  simp only [portableName, tierKey, hs, Option.map_some, Option.bind_some]
  by_cases hplain : IsSlug s ∧ s ≠ ""
  · rw [if_pos hplain, if_pos (hbranch.mpr hplain), slugify_eq_self_iff.mpr hplain.1]
    rfl
  · rw [if_neg hplain, if_neg (mt hbranch.mp hplain)]
    rfl

/-- **`slugify` is a projection onto the slugs.**  And so the serial numbers that a name has without
a hash are the slugs among them. -/
theorem slugify_projection :
    (∀ s, IsSlug (slugify s)) ∧ (∀ s, slugify (slugify s) = slugify s) ∧
    (∀ s, slugify s = s ↔ IsSlug s) ∧
    ∀ (sha256 : List UInt8 → List UInt8) (f : Fingerprint) (s : String), f.serial = some s →
      (IsSlug s ∧ s ≠ "" → f.portableName sha256 .serial = some (f.namePrefix ++ "-" ++ s)) ∧
      (¬ (IsSlug s ∧ s ≠ "") → ∀ n, f.portableName sha256 .serial = some n →
        n = joinName f.namePrefix [slugify s]
          (shortHash sha256 .serial [f.vendorId, f.productId, s])) := by
  refine ⟨isSlug_slugify, fun s => slugify_eq_self_iff.mpr (isSlug_slugify s),
    fun s => slugify_eq_self_iff,
    fun sha256 f s hs => ⟨fun ⟨hslug, hne⟩ => ?_, fun hnot n hn => ?_⟩⟩
  · rw [Fingerprint.portableName_serial sha256 (hslug.serialNumber hne hs), if_pos ⟨hslug, hne⟩]
  · cases hnumber : f.serialNumber with
    | none => simp [Fingerprint.portableName, Fingerprint.tierKey, hnumber] at hn
    | some s' =>
        obtain rfl : s = s' := by
          rw [Fingerprint.serialNumber, hs] at hnumber
          exact Option.some.inj (Option.filter_eq_some_iff.mp hnumber).1
        rw [Fingerprint.portableName_serial sha256 hnumber, if_neg hnot] at hn
        exact (Option.some.inj hn).symm

/-- A serial number of which the loop breaks off right behind a separator. -/
def brokenOff : String := String.ofList (List.replicate 39 'A') ++ "::b"

theorem slugify_projection_brokenOff :
    slugify brokenOff = String.ofList (List.replicate 39 'a') ∧
      slugify (slugify brokenOff) = slugify brokenOff ∧
      (Fingerprint.mk "10c4" "ea60" (some "a1-b2") none none none).portableName
        (fun _ => List.replicate 32 0) .serial = some "usb-10c4-ea60-a1-b2" :=
  have h := slugify_projection
  ⟨by decide +kernel, h.2.1 brokenOff,
    ((h.2.2.2 _ _ "a1-b2" rfl).1 (by decide +kernel)).trans (by decide +kernel)⟩

end AtomicUsb
