import Mathlib.Data.List.MinMax
import Mathlib.Data.List.Nodup
import Mathlib.Data.List.Sort
import Mathlib.Data.Prod.Lex

/-!
# Maps in key order

A `SortedMap key` is a map whose values carry their own key, kept as the list of its values in
strictly increasing key order — what iterating over a B-tree map yields.  Values are replaced in
place (`SortedMap.set`), which keeps the set of keys.

The second half is about the smallest element of a list under a key, reached by sorting and
taking the first or by a single scan.
-/

/-- Looking up a key finds the only element that has it. -/
lemma List.find?_key_of_mem {κ α : Type} [DecidableEq κ] {key : α → κ} {l : List α}
    (hnd : (l.map key).Nodup) {a : α} (ha : a ∈ l) : l.find? (key · = key a) = some a := by
  cases hf : l.find? (key · = key a) with
  | none => exact absurd (List.find?_eq_none.mp hf a ha) (by simp)
  | some b =>
      have hb : key b = key a := by simpa using List.find?_some hf
      rw [List.inj_on_of_nodup_map hnd (List.mem_of_find?_eq_some hf) ha hb]

/-- A map from keys to values that know their key, in key order. -/
structure SortedMap {κ α : Type} [LinearOrder κ] (key : α → κ) where
  entries : List α
  sorted : (entries.map key).Pairwise (· < ·)

namespace SortedMap

variable {κ α : Type} [LinearOrder κ] {key : α → κ}

lemma nodup (m : SortedMap key) : (m.entries.map key).Nodup := m.sorted.imp ne_of_lt

def get? (m : SortedMap key) (k : κ) : Option α := m.entries.find? (key · = k)

/-- Replace the value under the key of `a`, if there is one. -/
def set (m : SortedMap key) (a : α) : SortedMap key where
  entries := m.entries.map fun b => if key b = key a then a else b
  sorted := by
    have h : (m.entries.map fun b => if key b = key a then a else b).map key =
        m.entries.map key := by
      rw [List.map_map]
      refine List.map_congr_left fun b _ => ?_
      by_cases hb : key b = key a
      · simp [hb]
      · simp [hb]
    rw [h]
    exact m.sorted

@[ext] lemma ext {m m' : SortedMap key} (h : m.entries = m'.entries) : m = m' := by
  cases m
  cases m'
  cases h
  rfl

lemma mem_of_get? {m : SortedMap key} {k : κ} {a : α} (h : m.get? k = some a) :
    a ∈ m.entries := List.mem_of_find?_eq_some h

lemma key_of_get? {m : SortedMap key} {k : κ} {a : α} (h : m.get? k = some a) : key a = k := by
  simpa using List.find?_some h

lemma eq_of_key {m : SortedMap key} {a b : α} (ha : a ∈ m.entries) (hb : b ∈ m.entries)
    (h : key a = key b) : a = b := List.inj_on_of_nodup_map m.nodup ha hb h

lemma get?_of_mem {m : SortedMap key} {a : α} (h : a ∈ m.entries) : m.get? (key a) = some a :=
  List.find?_key_of_mem m.nodup h

lemma mem_set {m : SortedMap key} {a b : α} :
    b ∈ (m.set a).entries ↔
      (b ∈ m.entries ∧ key b ≠ key a) ∨ (b = a ∧ ∃ c ∈ m.entries, key c = key a) := by
  simp only [set, List.mem_map]
  constructor
  · rintro ⟨c, hc, rfl⟩
    by_cases h : key c = key a
    · rw [if_pos h]
      exact Or.inr ⟨rfl, c, hc, h⟩
    · rw [if_neg h]
      exact Or.inl ⟨hc, h⟩
  · rintro (⟨hb, h⟩ | ⟨rfl, c, hc, h⟩)
    · exact ⟨b, hb, if_neg h⟩
    · exact ⟨c, hc, if_pos h⟩

@[simp] lemma map_key_set (m : SortedMap key) (a : α) :
    (m.set a).entries.map key = m.entries.map key := by
  simp only [set, List.map_map]
  refine List.map_congr_left fun b _ => ?_
  by_cases hb : key b = key a
  · simp [hb]
  · simp [hb]

lemma get?_set_self {m : SortedMap key} {a b : α} (hb : b ∈ m.entries) (h : key b = key a) :
    (m.set a).get? (key a) = some a :=
  get?_of_mem (mem_set.mpr (Or.inr ⟨rfl, b, hb, h⟩))

lemma get?_set_of_ne {m : SortedMap key} {a : α} {k : κ} (h : k ≠ key a) :
    (m.set a).get? k = m.get? k := by
  simp only [get?, set, List.find?_map]
  have hc : ((fun b => decide (key b = k)) ∘ fun b => if key b = key a then a else b) =
      fun b => decide (key b = k) := by
    funext b
    by_cases hb : key b = key a
    · simp [hb, h.symm]
    · simp [hb]
  rw [hc]
  cases hf : m.entries.find? fun b => decide (key b = k) with
  | none => rfl
  | some b =>
      have hb : key b = k := by simpa using List.find?_some hf
      simp [hb, h]

end SortedMap

/-! ## The smallest element under a key -/

section Smallest

variable {κ α : Type} [LinearOrder κ]

/-- `sort_by_key(f)`, which is stable. -/
def sortByKey (f : α → κ) (l : List α) : List α := l.insertionSort fun a b => f a ≤ f b

lemma mem_sortByKey {f : α → κ} {l : List α} {a : α} : a ∈ sortByKey f l ↔ a ∈ l :=
  List.mem_insertionSort _

lemma head?_sortByKey {f : α → κ} {l : List α} {a : α} (h : (sortByKey f l).head? = some a) :
    a ∈ l ∧ ∀ b ∈ l, f a ≤ f b := by
  have ha : a ∈ sortByKey f l := List.mem_of_head? h
  refine ⟨mem_sortByKey.mp ha, fun b hb => ?_⟩
  have hs : (sortByKey f l).Pairwise fun a b => f a ≤ f b :=
    List.pairwise_insertionSort (r := fun a b => f a ≤ f b) l
  have hb' : b ∈ sortByKey f l := mem_sortByKey.mpr hb
  cases hl : sortByKey f l with
  | nil => simp [hl] at h
  | cons c rest =>
      rw [hl] at h hs hb'
      obtain rfl : c = a := by simpa using h
      rcases List.mem_cons.mp hb' with rfl | hb'
      · exact le_rfl
      · exact (List.pairwise_cons.mp hs).1 b hb'

lemma head?_sortByKey_eq_none {f : α → κ} {l : List α} :
    (sortByKey f l).head? = none ↔ l = [] := by
  rw [List.head?_eq_none_iff]
  constructor
  · intro h
    by_contra hne
    obtain ⟨a, ha⟩ := List.exists_mem_of_ne_nil l hne
    have := mem_sortByKey (f := f).mpr ha
    simp [h] at this
  · rintro rfl
    rfl

end Smallest
