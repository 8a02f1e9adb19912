import Mathlib.Data.Option.Basic
import Mathlib.Logic.Function.Basic
import Mathlib.Tactic.Common

/-!
# Versioned objects and merge patches

An API server keeps, under every key, a value with a version.  A write may carry the version it
was computed from; a stale one is refused.  Every write that changes the value takes a fresh
version (`ObjectStore.update`).

What optimistic concurrency buys is stated once, over the set of object versions that ever
existed: in a store that `Remembers` a history, a copy from that history whose version is still
current *is* the current object (`ObjectStore.Remembers.eq_of_version`), however old the copy
is and whoever wrote in between.

A member of an RFC 7386 merge patch has three forms — left out, null, or a value — and
`Member.merge` is what each does to the member it patches.
-/

/-! ## Merge patches -/

/-- A member of a JSON merge patch. -/
inductive Member (α : Type)
  /-- Not in the patch: the target keeps what it has. -/
  | absent
  /-- Null: the member is removed from the target. -/
  | null
  /-- A value: the member is set. -/
  | value (a : α)
  deriving DecidableEq

namespace Member

variable {α : Type}

/-- What a patch member does to the target's member. -/
def merge : Member α → Option α → Option α
  | .absent, old => old
  | .null, _ => none
  | .value a, _ => some a

/-- An optional value serialised as itself, or as an explicit null. -/
def ofOption : Option α → Member α
  | none => .null
  | some a => .value a

/-- An optional value that is left out of the patch when there is none. -/
def skipNone : Option α → Member α
  | none => .absent
  | some a => .value a

@[simp] lemma merge_absent (old : Option α) : (absent : Member α).merge old = old := rfl

@[simp] lemma merge_null (old : Option α) : (null : Member α).merge old = none := rfl

@[simp] lemma merge_value (a : α) (old : Option α) : (value a).merge old = some a := rfl

@[simp] lemma merge_ofOption (o old : Option α) : (ofOption o).merge old = o := by
  cases o <;> rfl

end Member

/-! ## Versioned objects -/

/-- A value and the version it was stored under. -/
structure Versioned (α : Type) where
  version : ℕ
  value : α
  deriving DecidableEq

/-- Why a write was refused. -/
inductive Refusal
  /-- The version it carried is not the current one. -/
  | conflict
  /-- There is no such object. -/
  | notFound
  deriving DecidableEq

/-- The objects of one kind, and the highest version handed out so far. -/
structure ObjectStore (κ α : Type) where
  objects : κ → Option (Versioned α)
  latest : ℕ

namespace ObjectStore

variable {κ α : Type} [DecidableEq κ] [DecidableEq α]

/-- Store a changed value under a fresh version. -/
def put (s : ObjectStore κ α) (k : κ) (a : α) : ObjectStore κ α :=
  { objects := Function.update s.objects k (some ⟨s.latest + 1, a⟩), latest := s.latest + 1 }

/-- Remove an object. -/
def delete (s : ObjectStore κ α) (k : κ) : ObjectStore κ α :=
  { s with objects := Function.update s.objects k none }

/-- Rewrite the object under `k` with `f`, provided it is still at the version the writer asks
for.  A write that changes nothing keeps the version. -/
def update (s : ObjectStore κ α) (k : κ) (pre : Option ℕ) (f : α → α) :
    Except Refusal (Versioned α) × ObjectStore κ α :=
  match s.objects k with
  | none => (.error .notFound, s)
  | some o =>
    if pre.all (· = o.version) then
      if f o.value = o.value then (.ok o, s)
      else (.ok ⟨s.latest + 1, f o.value⟩, s.put k (f o.value))
    else (.error .conflict, s)

omit [DecidableEq α] in
@[simp] lemma put_objects_self (s : ObjectStore κ α) (k : κ) (a : α) :
    (s.put k a).objects k = some ⟨s.latest + 1, a⟩ := by
  simp [put]

omit [DecidableEq α] in
lemma put_objects_of_ne (s : ObjectStore κ α) {k k' : κ} (a : α) (h : k' ≠ k) :
    (s.put k a).objects k' = s.objects k' := by
  simp [put, h]

/-- An update leaves the other objects alone. -/
lemma update_objects_of_ne (s : ObjectStore κ α) {k k' : κ} (pre : Option ℕ) (f : α → α)
    (h : k' ≠ k) : (s.update k pre f).2.objects k' = s.objects k' := by
  unfold update
  split
  · rfl
  · split_ifs
    · rfl
    · exact put_objects_of_ne s _ h
    · rfl

/-- The object under the key of an update afterwards: the one that was there, or — only at the
version asked for — its value rewritten. -/
lemma update_objects_self (s : ObjectStore κ α) {k : κ} {pre : Option ℕ} {f : α → α}
    {o o' : Versioned α} (ho : s.objects k = some o)
    (ho' : (s.update k pre f).2.objects k = some o') :
    o' = o ∨ (∀ v, pre = some v → v = o.version) ∧ o'.value = f o.value := by
  rw [update, ho] at ho'
  dsimp only at ho'
  split_ifs at ho' with hpre hsame
  · exact Or.inl (Option.some.inj (ho'.symm.trans ho))
  · refine Or.inr ⟨?_, ?_⟩
    · rintro v rfl
      simpa using hpre
    · rw [put_objects_self, Option.some.injEq] at ho'
      rw [← ho']
  · exact Or.inl (Option.some.inj (ho'.symm.trans ho))

/-- Everything an update can do: be refused and change nothing, or — only at the version it asks
for — answer with the stored object, whose value is the rewritten one. -/
lemma update_cases (s : ObjectStore κ α) (k : κ) (pre : Option ℕ) (f : α → α) :
    ((∃ r, (s.update k pre f).1 = .error r) ∧ (s.update k pre f).2 = s) ∨
    ∃ o o', s.objects k = some o ∧ (∀ v, pre = some v → v = o.version) ∧ o'.value = f o.value ∧
      (s.update k pre f).1 = .ok o' ∧
      ((o' = o ∧ (s.update k pre f).2 = s) ∨
        (o' = ⟨s.latest + 1, f o.value⟩ ∧ (s.update k pre f).2 = s.put k (f o.value))) := by
  unfold update
  split
  · exact Or.inl ⟨⟨_, rfl⟩, rfl⟩
  · rename_i o ho
    split_ifs with hpre hsame
    · refine Or.inr ⟨o, o, ho, ?_, hsame.symm, rfl, Or.inl ⟨rfl, rfl⟩⟩
      rintro v rfl
      simpa using hpre
    · refine Or.inr ⟨o, ⟨s.latest + 1, f o.value⟩, ho, ?_, rfl, rfl, Or.inr ⟨rfl, rfl⟩⟩
      rintro v rfl
      simpa using hpre
    · exact Or.inl ⟨⟨_, rfl⟩, rfl⟩

/-- A conditional write that lost the race changes nothing. -/
lemma update_of_stale (s : ObjectStore κ α) {k : κ} {v : ℕ} (f : α → α)
    (h : ∀ o, s.objects k = some o → v ≠ o.version) : (s.update k (some v) f).2 = s := by
  unfold update
  split
  · rfl
  · rename_i o ho
    rw [if_neg (by simpa using h o ho)]

/-- A history of object versions agrees with a store: current objects are in it, versions are
never reused, and none is ahead of the store. -/
structure Remembers (s : ObjectStore κ α) (H : κ → Versioned α → Prop) : Prop where
  current : ∀ k o, s.objects k = some o → H k o
  unique : ∀ k o o', H k o → H k o' → o.version = o'.version → o = o'
  bounded : ∀ k o, H k o → o.version ≤ s.latest

omit [DecidableEq κ] [DecidableEq α] in
/-- A copy whose version is still current is the current object. -/
lemma Remembers.eq_of_version {s : ObjectStore κ α} {H : κ → Versioned α → Prop}
    (h : s.Remembers H) {k : κ} {o copy : Versioned α} (ho : s.objects k = some o)
    (hcopy : H k copy) (hv : copy.version = o.version) : copy = o :=
  h.unique k copy o hcopy (h.current k o ho) hv

omit [DecidableEq α] in
/-- A store with a single object that has been seen as it is. -/
lemma remembers_single (k : κ) (o : Versioned α) :
    Remembers ⟨fun k' => if k' = k then some o else none, o.version⟩
      (fun k' o' => k' = k ∧ o' = o) where
  current k' o' ho' := by
    simp only [Option.ite_none_right_eq_some, Option.some.injEq] at ho'
    exact ⟨ho'.1, ho'.2.symm⟩
  unique _ _ _ ho ho' _ := ho.2.trans ho'.2.symm
  bounded _ _ ho := Nat.le_of_eq (congrArg Versioned.version ho.2)

/-- The history after a value has been stored under a fresh version. -/
def record (H : κ → Versioned α → Prop) (k : κ) (o : Versioned α) : κ → Versioned α → Prop :=
  fun k' o' => H k' o' ∨ (k' = k ∧ o' = o)

omit [DecidableEq α] in
lemma Remembers.put {s : ObjectStore κ α} {H : κ → Versioned α → Prop} (h : s.Remembers H)
    (k : κ) (a : α) : (s.put k a).Remembers (record H k ⟨s.latest + 1, a⟩) where
  current k' o ho := by
    by_cases hk : k' = k
    · subst hk
      simp only [ObjectStore.put, Function.update_self, Option.some.injEq] at ho
      exact Or.inr ⟨rfl, ho.symm⟩
    · simp only [ObjectStore.put, Function.update_of_ne hk] at ho
      exact Or.inl (h.current k' o ho)
  unique k' o o' ho ho' hv := by
    rcases ho with ho | ⟨rfl, rfl⟩ <;> rcases ho' with ho' | ⟨hk, rfl⟩
    · exact h.unique k' o o' ho ho' hv
    · have := h.bounded k' o ho
      simp only at hv
      omega
    · have := h.bounded k' o' ho'
      simp only at hv
      omega
    · rfl
  bounded k' o ho := by
    rcases ho with ho | ⟨rfl, rfl⟩
    · exact Nat.le_succ_of_le (h.bounded k' o ho)
    · exact Nat.le_refl _

omit [DecidableEq α] in
lemma Remembers.delete {s : ObjectStore κ α} {H : κ → Versioned α → Prop} (h : s.Remembers H)
    (k : κ) : (s.delete k).Remembers H where
  current k' o ho := by
    by_cases hk : k' = k
    · subst hk
      simp [ObjectStore.delete] at ho
    · simp only [ObjectStore.delete, Function.update_of_ne hk] at ho
      exact h.current k' o ho
  unique := h.unique
  bounded := h.bounded

end ObjectStore
