import AtomicUsb.Foundation.ObjectStore
import Mathlib.Data.String.Basic

/-!
# JSON

Values as `serde_json` has them, merge patches after RFC 7386, and records that are written as
objects.  A record leaves out the members that are `none`, and reads a missing member and a `null`
both as `none`.

A `Codec` is a type with a JSON form that survives being merged into something else.
`optional_merged` is then what becomes of a member under a patch: what `Member.merge` says.
-/

inductive Json
  | null
  | bool (b : Bool)
  | num (n : ℤ)
  | str (s : String)
  | arr (items : List Json)
  /-- The members in the order of their keys. -/
  | obj (members : List (String × Json))

namespace Json

def members : Json → List (String × Json)
  | .obj m => m
  | _ => []

/-- `Value::get` with a key. -/
def get? (v : Json) (key : String) : Option Json := v.members.lookup key

/-- `Value::pointer`, as a list of keys. -/
def pointer (v : Json) (keys : List String) : Option Json :=
  keys.foldl (fun v key => v.bind (·.get? key)) (some v)

def asStr : Json → Option String
  | .str s => some s
  | _ => none

def asArray : Json → Option (List Json)
  | .arr items => some items
  | _ => none

def asObject : Json → Option (List (String × Json))
  | .obj members => some members
  | _ => none

def isNull : Json → Bool
  | .null => true
  | _ => false

/-! ## Objects -/

/-- `Map::insert`. -/
def insertMember (key : String) (v : Json) : List (String × Json) → List (String × Json)
  | [] => [(key, v)]
  | m :: rest =>
    if key < m.1 then (key, v) :: m :: rest
    else if key = m.1 then (key, v) :: rest
    else m :: insertMember key v rest

/-- `Map::remove`. -/
def eraseMember (key : String) (members : List (String × Json)) : List (String × Json) :=
  members.filter fun m => m.1 ≠ key

/-- A value without one of its members. -/
def remove (key : String) : Json → Json
  | .obj members => .obj (eraseMember key members)
  | v => v

/-- An object with these members. -/
def object (members : List (String × Json)) : Json :=
  .obj (members.foldr (fun m => insertMember m.1 m.2) [])

lemma lookup_cons (k : String) (m : String × Json) (ms : List (String × Json)) :
    (m :: ms).lookup k = if k = m.1 then some m.2 else ms.lookup k := by
  rw [List.lookup_cons]
  by_cases hk : k = m.1
  · simp [hk]
  · rw [beq_eq_false_iff_ne.mpr hk, if_neg hk]

lemma lookup_insertMember (k key : String) (v : Json) (ms : List (String × Json)) :
    (insertMember key v ms).lookup k = if k = key then some v else ms.lookup k := by
  induction ms with
  | nil => simp [insertMember, lookup_cons]
  | cons m ms ih =>
      rw [insertMember]
      by_cases hlt : key < m.1
      · rw [if_pos hlt, lookup_cons]
      · rw [if_neg hlt]
        by_cases heq : key = m.1
        · rw [if_pos heq, lookup_cons, lookup_cons, ← heq]
          split_ifs <;> rfl
        · rw [if_neg heq, lookup_cons, lookup_cons, ih]
          by_cases hk : k = key
          · simp [hk, heq]
          · simp [hk]

lemma lookup_eraseMember (k key : String) (ms : List (String × Json)) :
    (eraseMember key ms).lookup k = if k = key then none else ms.lookup k := by
  induction ms with
  | nil => simp [eraseMember]
  | cons m ms ih =>
      unfold eraseMember at ih ⊢
      rw [List.filter_cons]
      by_cases hm : m.1 = key
      · simp only [hm, ne_eq, not_true_eq_false, decide_false, Bool.false_eq_true, if_false, ih,
          lookup_cons]
        split_ifs <;> rfl
      · simp only [ne_eq, hm, not_false_eq_true, decide_true, if_true, lookup_cons, ih]
        by_cases hk : k = key
        · simp [hk, Ne.symm hm]
        · simp [hk]

lemma get?_object (members : List (String × Json)) (k : String) :
    (object members).get? k = members.lookup k := by
  show (members.foldr (fun m => insertMember m.1 m.2) []).lookup k = members.lookup k
  induction members with
  | nil => rfl
  | cons m ms ih => rw [List.foldr_cons, lookup_insertMember, ih, lookup_cons]

/-! Objects keep their keys in order, so that an object is known by what its keys give. -/

def Sorted (ms : List (String × Json)) : Prop := ms.Pairwise fun a b => a.1 < b.1

lemma Sorted.nodup {ms : List (String × Json)} (h : Sorted ms) : (ms.map Prod.fst).Nodup :=
  List.pairwise_map.mpr (h.imp ne_of_lt)

lemma lookup_eq_none_of_lt {ms : List (String × Json)} {k : String} (h : ∀ m ∈ ms, k < m.1) :
    ms.lookup k = none :=
  List.lookup_eq_none_iff.mpr fun m hm => bne_iff_ne.mpr (h m hm).ne

lemma insertMember_keys {key : String} {v : Json} {ms : List (String × Json)}
    {m : String × Json} (hm : m ∈ insertMember key v ms) : m.1 = key ∨ m ∈ ms := by
  induction ms with
  | nil => simp_all [insertMember]
  | cons m' ms ih =>
      rw [insertMember] at hm
      split_ifs at hm
      · rcases List.mem_cons.mp hm with rfl | hm
        · exact Or.inl rfl
        · exact Or.inr hm
      · rcases List.mem_cons.mp hm with rfl | hm
        · exact Or.inl rfl
        · exact Or.inr (List.mem_cons_of_mem _ hm)
      · rcases List.mem_cons.mp hm with rfl | hm
        · exact Or.inr List.mem_cons_self
        · exact (ih hm).imp_right (List.mem_cons_of_mem _)

lemma Sorted.insertMember {ms : List (String × Json)} (h : Sorted ms) (key : String) (v : Json) :
    Sorted (insertMember key v ms) := by
  induction ms with
  | nil => exact List.pairwise_singleton _ _
  | cons m ms ih =>
      obtain ⟨hm, hms⟩ := List.pairwise_cons.mp h
      rw [Json.insertMember]
      split_ifs with hlt heq
      · refine List.pairwise_cons.mpr ⟨?_, h⟩
        rintro m' hm'
        rcases List.mem_cons.mp hm' with rfl | hm'
        · exact hlt
        · exact hlt.trans (hm m' hm')
      · exact List.pairwise_cons.mpr ⟨fun m' hm' => heq ▸ hm m' hm', hms⟩
      · refine List.pairwise_cons.mpr ⟨fun m' hm' => ?_, ih hms⟩
        rcases insertMember_keys hm' with hkey | hm'
        · rw [hkey]
          exact lt_of_le_of_ne (not_lt.mp hlt) (Ne.symm heq)
        · exact hm m' hm'

lemma Sorted.eraseMember {ms : List (String × Json)} (h : Sorted ms) (key : String) :
    Sorted (eraseMember key ms) := List.Pairwise.filter _ h

lemma sorted_object (members : List (String × Json)) : Sorted (object members).members := by
  show Sorted (members.foldr (fun m => Json.insertMember m.1 m.2) [])
  induction members with
  | nil => exact List.Pairwise.nil
  | cons m ms ih => exact ih.insertMember m.1 m.2

lemma object_eq (members : List (String × Json)) :
    object members = .obj (object members).members := rfl

lemma Sorted.ext {a b : List (String × Json)} (ha : Sorted a) (hb : Sorted b)
    (h : ∀ k, a.lookup k = b.lookup k) : a = b := by
  induction a generalizing b with
  | nil =>
      cases b with
      | nil => rfl
      | cons m ms => simpa [lookup_cons] using h m.1
  | cons m ms ih =>
      obtain ⟨hm, hms⟩ := List.pairwise_cons.mp ha
      cases b with
      | nil => simpa [lookup_cons] using h m.1
      | cons m' ms' =>
          obtain ⟨hm', hms'⟩ := List.pairwise_cons.mp hb
          -- the smaller of the two first keys is in one list only
          have hkey : m.1 = m'.1 := by
            rcases lt_trichotomy m.1 m'.1 with hlt | heq | hlt
            · have hfirst := h m.1
              rw [lookup_cons, if_pos rfl, lookup_cons, if_neg hlt.ne,
                lookup_eq_none_of_lt fun x hx => hlt.trans (hm' x hx)] at hfirst
              cases hfirst
            · exact heq
            · have hfirst := h m'.1
              rw [lookup_cons, if_neg hlt.ne, lookup_cons, if_pos rfl,
                lookup_eq_none_of_lt fun x hx => hlt.trans (hm x hx)] at hfirst
              cases hfirst
          have hvalue : m.2 = m'.2 := by simpa [lookup_cons, hkey] using h m.1
          have hrest : ms = ms' := by
            refine ih hms hms' fun k => ?_
            by_cases hk : k = m.1
            · rw [hk, lookup_eq_none_of_lt hm, hkey, lookup_eq_none_of_lt hm']
            · simpa [lookup_cons, hk, hkey ▸ hk] using h k
          rw [Prod.ext hkey hvalue, hrest]

/-- An object without the members that are `none`. -/
def skipNone (fields : List (String × Option Json)) : Json :=
  object (fields.filterMap fun f => f.2.map fun v => (f.1, v))

lemma get?_skipNone {fields : List (String × Option Json)} (hnd : (fields.map Prod.fst).Nodup)
    (k : String) : (skipNone fields).get? k = (fields.lookup k).join := by
  unfold skipNone
  rw [get?_object]
  induction fields with
  | nil => rfl
  | cons f fields ih =>
      rw [List.map_cons, List.nodup_cons] at hnd
      obtain ⟨key, v⟩ := f
      rw [List.lookup_cons]
      by_cases hk : k = key
      · subst hk
        cases v with
        | some v => simp
        | none =>
            -- the key does not occur again
            have hlater : fields.lookup k = none := List.lookup_eq_none_iff.mpr fun f hf =>
              bne_iff_ne.mpr fun h => hnd.1 (List.mem_map.mpr ⟨f, hf, h.symm⟩)
            simpa [hlater] using ih hnd.2
      · have hne : (k == key) = false := beq_eq_false_iff_ne.mpr hk
        cases v with
        | some v => simpa [lookup_cons, hk, hne] using ih hnd.2
        | none => simpa [hne] using ih hnd.2

/-! ## Merge patches -/

mutual

/-- `MergePatch` of RFC 7386; a target that is missing is `none`. -/
def mergePatch (target : Option Json) : Json → Json
  | .obj patch => .obj (mergeMembers ((target.map members).getD []) patch)
  | v => v

/-- The loop over the members of a patch. -/
def mergeMembers (target : List (String × Json)) : List (String × Json) → List (String × Json)
  | [] => target
  | (key, .null) :: rest => mergeMembers (eraseMember key target) rest
  | (key, v) :: rest =>
      mergeMembers (insertMember key (mergePatch (target.lookup key) v) target) rest

end

lemma mergePatch_ne_null (target : Option Json) {v : Json} (h : v ≠ .null) :
    mergePatch target v ≠ .null := by
  cases v <;> simp_all [mergePatch]

/-- What a patch makes of one member. -/
def mergeMember (target : Option Json) : Option Json → Option Json
  | none => target
  | some .null => none
  | some v => some (mergePatch target v)

@[simp] lemma mergeMember_null (target : Option Json) : mergeMember target (some .null) = none :=
  rfl

lemma mergeMember_some (target : Option Json) {v : Json} (h : v ≠ .null) :
    mergeMember target (some v) = some (mergePatch target v) := by
  cases v <;> simp_all [mergeMember]

lemma lookup_mergeMembers {patch : List (String × Json)} (hnd : (patch.map Prod.fst).Nodup)
    (target : List (String × Json)) (k : String) :
    (mergeMembers target patch).lookup k = mergeMember (target.lookup k) (patch.lookup k) := by
  induction patch generalizing target with
  | nil => rfl
  | cons m patch ih =>
      rw [List.map_cons, List.nodup_cons] at hnd
      obtain ⟨key, v⟩ := m
      have hlater : patch.lookup key = none := List.lookup_eq_none_iff.mpr fun m hm =>
        bne_iff_ne.mpr fun h => hnd.1 (List.mem_map.mpr ⟨m, hm, h.symm⟩)
      rw [lookup_cons]
      cases v with
      | null =>
          rw [mergeMembers, ih hnd.2, lookup_eraseMember]
          by_cases hk : k = key
          · subst hk
            simp [hlater, mergeMember]
          · simp [hk]
      | _ =>
          rw [mergeMembers, ih hnd.2, lookup_insertMember]
          · by_cases hk : k = key
            · subst hk
              simp [hlater, mergeMember]
            · simp [hk]
          · simp

lemma get?_mergePatch {patch : List (String × Json)} (hs : Sorted patch) (target : Option Json)
    (k : String) :
    (mergePatch target (.obj patch)).get? k =
      mergeMember (target.bind (·.get? k)) (patch.lookup k) := by
  rw [mergePatch]
  show (mergeMembers _ patch).lookup k = _
  rw [lookup_mergeMembers hs.nodup]
  cases target with
  | none => rfl
  | some t => rfl

lemma Sorted.mergeMembers {target : List (String × Json)} (h : Sorted target)
    (patch : List (String × Json)) : Sorted (mergeMembers target patch) := by
  induction patch generalizing target with
  | nil => exact h
  | cons m patch ih =>
      obtain ⟨key, v⟩ := m
      cases v with
      | null =>
          rw [Json.mergeMembers]
          exact ih (h.eraseMember key)
      | _ =>
          rw [Json.mergeMembers]
          · exact ih (h.insertMember key _)
          · simp

/-! Merging records: the members of the target and of the patch, side by side. -/

def mergeFields (old patch : List (String × Option Json)) : List (String × Option Json) :=
  List.zipWith (fun o p => (o.1, mergeMember o.2 p.2)) old patch

lemma mergeFields_keys {old patch : List (String × Option Json)}
    (hkeys : old.map Prod.fst = patch.map Prod.fst) :
    (mergeFields old patch).map Prod.fst = old.map Prod.fst := by
  induction old generalizing patch with
  | nil => rfl
  | cons o old ih =>
      cases patch with
      | nil => cases hkeys
      | cons p patch =>
          rw [mergeFields, List.zipWith_cons_cons, List.map_cons, List.map_cons]
          exact congrArg _ (ih (List.cons.inj hkeys).2)

lemma lookup_mergeFields {old patch : List (String × Option Json)}
    (hkeys : old.map Prod.fst = patch.map Prod.fst) (k : String) :
    ((mergeFields old patch).lookup k).join =
      mergeMember (old.lookup k).join (patch.lookup k).join := by
  induction old generalizing patch with
  | nil =>
      cases patch with
      | nil => rfl
      | cons p patch => cases hkeys
  | cons o old ih =>
      cases patch with
      | nil => cases hkeys
      | cons p patch =>
          obtain ⟨hkey, hrest⟩ := List.cons.inj hkeys
          rw [mergeFields, List.zipWith_cons_cons, List.lookup_cons, List.lookup_cons,
            List.lookup_cons, ← hkey]
          by_cases hk : k = o.1
          · simp [hk]
          · rw [beq_eq_false_iff_ne.mpr hk]
            exact ih hrest

lemma mergePatch_skipNone {old patch : List (String × Option Json)}
    (hkeys : old.map Prod.fst = patch.map Prod.fst) (hnd : (old.map Prod.fst).Nodup) :
    mergePatch (some (skipNone old)) (skipNone patch) = skipNone (mergeFields old patch) := by
  refine congrArg Json.obj (((sorted_object _).mergeMembers _).ext (sorted_object _) fun k => ?_)
  have hnew := get?_skipNone (mergeFields_keys hkeys ▸ hnd) k
  rw [lookup_mergeFields hkeys, ← get?_skipNone hnd, ← get?_skipNone (hkeys ▸ hnd)] at hnew
  exact (lookup_mergeMembers (sorted_object _).nodup _ k).trans hnew.symm

/-- A value after some patches; one that is missing at first is made by the first of them. -/
def patched (v : Option Json) (patches : List Json) : Option Json :=
  patches.foldl (fun v p => some (mergePatch v p)) v

/-- A store of records follows the store of their JSON forms. -/
lemma patched_map {σ π : Type} {toValue : σ → Json} {patchValue : π → Json}
    {merge : Option σ → π → σ} {patches : List π}
    (h : ∀ s, ∀ p ∈ patches, mergePatch (Option.map toValue s) (patchValue p) = toValue (merge s p))
    (stored : Option σ) :
    patched (stored.map toValue) (patches.map patchValue) =
      (patches.foldl (fun s p => some (merge s p)) stored).map toValue := by
  induction patches generalizing stored with
  | nil => rfl
  | cons p patches ih =>
      rw [List.map_cons, List.foldl_cons,
        ← ih (fun s q hq => h s q (List.mem_cons_of_mem _ hq)) (some (merge stored p)),
        Option.map_some, ← h stored p List.mem_cons_self]
      rfl

mutual

/-- Members that are `null` left out, at every level. -/
def withoutNulls : Json → Json
  | .obj m => .obj (withoutNullMembers m)
  | v => v

def withoutNullMembers : List (String × Json) → List (String × Json)
  | [] => []
  | (_, .null) :: rest => withoutNullMembers rest
  | (key, v) :: rest => (key, withoutNulls v) :: withoutNullMembers rest

end

/-- What becomes of one member when the nulls are left out. -/
def withoutNull : Option Json → Option Json
  | none => none
  | some .null => none
  | some v => some (withoutNulls v)

lemma withoutNullMembers_keys {ms : List (String × Json)} {m : String × Json}
    (hm : m ∈ withoutNullMembers ms) : ∃ m' ∈ ms, m'.1 = m.1 := by
  induction ms with
  | nil => simp [withoutNullMembers] at hm
  | cons m' ms ih =>
      obtain ⟨key, v⟩ := m'
      cases v with
      | null =>
          rw [withoutNullMembers] at hm
          obtain ⟨x, hx, hkey⟩ := ih hm
          exact ⟨x, List.mem_cons_of_mem _ hx, hkey⟩
      | _ =>
          rw [withoutNullMembers] at hm
          · rcases List.mem_cons.mp hm with rfl | hm
            · exact ⟨_, List.mem_cons_self, rfl⟩
            · obtain ⟨x, hx, hkey⟩ := ih hm
              exact ⟨x, List.mem_cons_of_mem _ hx, hkey⟩
          · simp

lemma Sorted.withoutNulls {ms : List (String × Json)} (h : Sorted ms) :
    Sorted (withoutNullMembers ms) := by
  induction ms with
  | nil => exact List.Pairwise.nil
  | cons m ms ih =>
      obtain ⟨hm, hms⟩ := List.pairwise_cons.mp h
      obtain ⟨key, v⟩ := m
      cases v with
      | null =>
          rw [withoutNullMembers]
          exact ih hms
      | _ =>
          rw [withoutNullMembers]
          · refine List.pairwise_cons.mpr ⟨fun m' hm' => ?_, ih hms⟩
            obtain ⟨x, hx, hkey⟩ := withoutNullMembers_keys hm'
            exact hkey ▸ hm x hx
          · simp

lemma lookup_withoutNullMembers {ms : List (String × Json)} (h : Sorted ms) (k : String) :
    (withoutNullMembers ms).lookup k = withoutNull (ms.lookup k) := by
  induction ms with
  | nil => rfl
  | cons m ms ih =>
      obtain ⟨hm, hms⟩ := List.pairwise_cons.mp h
      obtain ⟨key, v⟩ := m
      rw [lookup_cons]
      cases v with
      | null =>
          rw [withoutNullMembers, ih hms]
          by_cases hk : k = key
          · simp [hk, lookup_eq_none_of_lt hm, withoutNull]
          · simp [hk]
      | _ =>
          rw [withoutNullMembers, lookup_cons, ih hms]
          · by_cases hk : k = key
            · simp [hk, withoutNull]
            · simp [hk]
          · simp

/-- An object without nulls in it stays as it is. -/
lemma withoutNulls_object {members : List (String × Json)}
    (h : ∀ m ∈ members, withoutNull (some m.2) = some m.2) :
    withoutNulls (object members) = object members := by
  rw [object_eq, withoutNulls]
  refine congrArg Json.obj ((sorted_object members).withoutNulls.ext (sorted_object members) ?_)
  intro k
  rw [lookup_withoutNullMembers (sorted_object members)]
  cases hk : (object members).members.lookup k with
  | none => rfl
  | some v =>
      have hmem := List.lookup_eq_some_iff.mp ((get?_object members k).symm.trans hk)
      obtain ⟨before, after, rfl, -⟩ := hmem
      exact h (k, v) (by simp)

lemma lookup_map_value (g : String → Option Json → Option Json)
    (fields : List (String × Option Json)) (k : String) :
    (fields.map fun f => (f.1, g f.1 f.2)).lookup k = (fields.lookup k).map (g k) := by
  induction fields with
  | nil => rfl
  | cons f fields ih =>
      rw [List.map_cons, List.lookup_cons, List.lookup_cons, ih]
      by_cases hk : k = f.1
      · simp [hk]
      · rw [beq_eq_false_iff_ne.mpr hk]

/-- A change of every member, provided that it does not make one up. -/
lemma skipNone_map {fields : List (String × Option Json)} (hnd : (fields.map Prod.fst).Nodup)
    (g : String → Option Json → Option Json) (hg : ∀ k, g k none = none)
    {ms : List (String × Json)} (hs : Sorted ms)
    (hms : ∀ k, ms.lookup k = g k ((skipNone fields).get? k)) :
    Json.obj ms = skipNone (fields.map fun f => (f.1, g f.1 f.2)) := by
  refine congrArg Json.obj (hs.ext (sorted_object _) fun k => ?_)
  have hkeys : (fields.map fun f => (f.1, g f.1 f.2)).map Prod.fst = fields.map Prod.fst := by
    rw [List.map_map]
    rfl
  have hget := get?_skipNone (hkeys ▸ hnd) k
  rw [lookup_map_value] at hget
  rw [hms k, get?_skipNone hnd]
  refine Eq.trans ?_ hget.symm
  cases fields.lookup k with
  | none => exact hg k
  | some v => rfl

lemma withoutNulls_skipNone {fields : List (String × Option Json)}
    (hnd : (fields.map Prod.fst).Nodup) :
    withoutNulls (skipNone fields) = skipNone (fields.map fun f => (f.1, withoutNull f.2)) := by
  have hs := sorted_object (fields.filterMap fun f => f.2.map fun v => (f.1, v))
  exact skipNone_map hnd (fun _ => withoutNull) (fun _ => rfl) hs.withoutNulls
    (lookup_withoutNullMembers hs)

lemma remove_skipNone {fields : List (String × Option Json)} (hnd : (fields.map Prod.fst).Nodup)
    (key : String) :
    remove key (skipNone fields) =
      skipNone (fields.map fun f => (f.1, if f.1 = key then none else f.2)) := by
  have hs := sorted_object (fields.filterMap fun f => f.2.map fun v => (f.1, v))
  exact skipNone_map hnd (fun k v => if k = key then none else v) (fun _ => ite_self _)
    (hs.eraseMember key) (lookup_eraseMember · key _)

/-- A member that a record may have is set. -/
lemma insertMember_skipNone {fields : List (String × Option Json)}
    (hnd : (fields.map Prod.fst).Nodup) {key : String} (hkey : key ∈ fields.map Prod.fst)
    (v : Json) :
    Json.obj (insertMember key v (skipNone fields).members) =
      skipNone (fields.map fun f => (f.1, if f.1 = key then some v else f.2)) := by
  have hs := sorted_object (fields.filterMap fun f => f.2.map fun v => (f.1, v))
  refine congrArg Json.obj ((hs.insertMember key v).ext (sorted_object _) fun k => ?_)
  have hkeys : (fields.map fun f => (f.1, if f.1 = key then some v else f.2)).map Prod.fst =
      fields.map Prod.fst := by
    rw [List.map_map]
    rfl
  have hnew := get?_skipNone (hkeys ▸ hnd) k
  rw [lookup_map_value (fun k w => if k = key then some v else w)] at hnew
  refine (lookup_insertMember k key v _).trans (Eq.trans ?_ hnew.symm)
  by_cases hk : k = key
  · subst hk
    cases hlookup : fields.lookup k with
    | none =>
        obtain ⟨f, hf, hfkey⟩ := List.mem_map.mp hkey
        exact absurd hfkey.symm (bne_iff_ne.mp (List.lookup_eq_none_iff.mp hlookup f hf))
    | some w => simp
  · rw [if_neg hk]
    refine (get?_skipNone hnd k).trans ?_
    simp [hk]

/-! ## Equality -/

mutual

def decEq : (a b : Json) → Decidable (a = b)
  | .null, .null => isTrue rfl
  | .bool a, .bool b => decidable_of_iff (a = b) (by simp)
  | .num a, .num b => decidable_of_iff (a = b) (by simp)
  | .str a, .str b => decidable_of_iff (a = b) (by simp)
  | .arr a, .arr b =>
    have := decEqItems a b
    decidable_of_iff (a = b) (by simp)
  | .obj a, .obj b =>
    have := decEqMembers a b
    decidable_of_iff (a = b) (by simp)
  | .null, .bool _ | .null, .num _ | .null, .str _ | .null, .arr _ | .null, .obj _ => isFalse nofun
  | .bool _, .null | .bool _, .num _ | .bool _, .str _ | .bool _, .arr _ | .bool _, .obj _ =>
    isFalse nofun
  | .num _, .null | .num _, .bool _ | .num _, .str _ | .num _, .arr _ | .num _, .obj _ =>
    isFalse nofun
  | .str _, .null | .str _, .bool _ | .str _, .num _ | .str _, .arr _ | .str _, .obj _ =>
    isFalse nofun
  | .arr _, .null | .arr _, .bool _ | .arr _, .num _ | .arr _, .str _ | .arr _, .obj _ =>
    isFalse nofun
  | .obj _, .null | .obj _, .bool _ | .obj _, .num _ | .obj _, .str _ | .obj _, .arr _ =>
    isFalse nofun

def decEqItems : (a b : List Json) → Decidable (a = b)
  | [], [] => isTrue rfl
  | [], _ :: _ => isFalse nofun
  | _ :: _, [] => isFalse nofun
  | v :: a, w :: b =>
    have := decEq v w
    have := decEqItems a b
    decidable_of_iff (v = w ∧ a = b) (by simp)

def decEqMembers : (a b : List (String × Json)) → Decidable (a = b)
  | [], [] => isTrue rfl
  | [], _ :: _ => isFalse nofun
  | _ :: _, [] => isFalse nofun
  | (k, v) :: a, (l, w) :: b =>
    have := decEq v w
    have := decEqMembers a b
    decidable_of_iff ((k = l ∧ v = w) ∧ a = b) (by simp)

end

instance : DecidableEq Json := decEq

/-! ## Types with a JSON form -/

/-- A type with a JSON form that is read back, also after it was merged into something else. -/
structure Codec (α : Type) where
  encode : α → Json
  decode : Json → Option α
  decode_encode : ∀ a, decode (encode a) = some a
  decode_merge : ∀ target a, decode (mergePatch target (encode a)) = some a
  withoutNulls_encode : ∀ a, withoutNulls (encode a) = encode a
  encode_ne_null : ∀ a, encode a ≠ .null

namespace Codec

variable {α : Type}

/-- Neither an object nor null. -/
def Plain : Json → Prop
  | .null => False
  | .obj _ => False
  | _ => True

/-- A JSON form that is neither an object nor null replaces what it is merged into. -/
def plain (encode : α → Json) (decode : Json → Option α)
    (decode_encode : ∀ a, decode (encode a) = some a) (hplain : ∀ a, Plain (encode a)) :
    Codec α where
  encode := encode
  decode := decode
  decode_encode := decode_encode
  decode_merge target a := by
    have h := hplain a
    have hd := decode_encode a
    cases hv : encode a <;> simp_all [Plain, mergePatch]
  withoutNulls_encode a := by
    have h := hplain a
    cases hv : encode a <;> simp_all [Plain, withoutNulls]
  encode_ne_null a h := by
    have hnull := hplain a
    rw [h] at hnull
    exact hnull

def string : Codec String := plain .str asStr (fun _ => rfl) fun _ => trivial

/-- A natural number; `as_u64`. -/
def nat : Codec ℕ :=
  plain (fun n => .num n)
    (fun
      | .num n => if 0 ≤ n then some n.toNat else none
      | _ => none)
    (fun n => by simp) fun _ => trivial

def int : Codec ℤ :=
  plain .num
    (fun
      | .num n => some n
      | _ => none)
    (fun _ => rfl) fun _ => trivial

def boolean : Codec Bool :=
  plain .bool
    (fun
      | .bool b => some b
      | _ => none)
    (fun _ => rfl) fun _ => trivial

/-- A list of texts. -/
def strings : Codec (List String) :=
  plain (fun l => .arr (l.map .str)) (fun v => v.asArray.bind (·.mapM asStr))
    (fun l => by
      show (l.map Json.str).mapM asStr = some l
      induction l with
      | nil => rfl
      | cons x l ih => simp [List.mapM_cons, ih, asStr])
    fun _ => trivial

variable (c : Codec α)

/-! Members of an object: one that has to be there, one that may be missing or null, and one of a
patch. -/

def required (v : Json) (key : String) : Option α := (v.get? key).bind c.decode

def optional (v : Json) (key : String) : Option (Option α) :=
  match v.get? key with
  | none => some none
  | some .null => some none
  | some w => (c.decode w).map some

def member : Member α → Option Json
  | .absent => none
  | .null => some .null
  | .value a => some (c.encode a)

lemma mergeMember_encode (target : Option Json) (a : α) :
    mergeMember target (some (c.encode a)) = some (mergePatch target (c.encode a)) := by
  have hne := c.encode_ne_null a
  cases hv : c.encode a <;> simp_all [mergeMember]

lemma optional_some {v w : Json} {key : String} (h : v.get? key = some w) (hw : w ≠ .null) :
    c.optional v key = (c.decode w).map some := by
  unfold optional
  rw [h]
  cases w <;> simp_all

lemma optional_encode {v : Json} {key : String} {old : Option α}
    (h : v.get? key = old.map c.encode) : c.optional v key = some old := by
  cases old with
  | none =>
      unfold optional
      rw [h]
      rfl
  | some a =>
      rw [c.optional_some h (c.encode_ne_null a), c.decode_encode]
      rfl

lemma required_get? {v : Json} {key : String} {a : α} (h : v.get? key = some (c.encode a)) :
    c.required v key = some a := by
  unfold required
  rw [h]
  exact c.decode_encode a

lemma required_object {members : List (String × Json)} {key : String} {a : α}
    (h : members.lookup key = some (c.encode a)) : c.required (object members) key = some a := by
  unfold required
  rw [get?_object, h]
  exact c.decode_encode a

lemma required_merged (target : Option Json) {members : List (String × Json)} {key : String}
    {a : α} (h : members.lookup key = some (c.encode a)) :
    c.required (mergePatch target (object members)) key = some a := by
  have hlookup : (object members).members.lookup key = some (c.encode a) :=
    (get?_object members key).trans h
  unfold required
  rw [object_eq, get?_mergePatch (sorted_object members), hlookup, mergeMember_encode]
  exact c.decode_merge _ a

/-- What a patch makes of an optional member. -/
lemma optional_merged {patch : List (String × Json)} (hs : Sorted patch) {target : Option Json}
    {key : String} {old : Option α} {m : Member α}
    (hold : target.bind (·.get? key) = old.map c.encode) (hm : patch.lookup key = c.member m) :
    c.optional (mergePatch target (.obj patch)) key = some (m.merge old) := by
  have hget := get?_mergePatch hs target key
  rw [hm] at hget
  cases m with
  | absent => exact c.optional_encode (hget.trans hold)
  | null => exact @optional_encode _ c _ _ none hget
  | value a =>
      rw [member, mergeMember_encode] at hget
      rw [c.optional_some hget (mergePatch_ne_null _ (c.encode_ne_null a)), c.decode_merge]
      rfl

lemma withoutNull_encode (a : α) : withoutNull (some (c.encode a)) = some (c.encode a) := by
  have hne := c.encode_ne_null a
  have hkept := c.withoutNulls_encode a
  cases hv : c.encode a <;> simp_all [withoutNull]

lemma withoutNull_member (m : Member α) :
    withoutNull (c.member m) = (m.merge none).map c.encode := by
  cases m with
  | absent => rfl
  | null => rfl
  | value a => exact c.withoutNull_encode a

/-- The names of an enumeration. -/
def variants (name : α → String) (all : List α)
    (h : ∀ a, all.find? (fun b => name b == name a) = some a) : Codec α :=
  plain (fun a => .str (name a))
    (fun
      | .str s => all.find? fun b => name b == s
      | _ => none)
    h fun _ => trivial

/-! Forms that replace whatever they are merged into; a record of such forms is merged member by
member. -/

lemma mergePatch_of_plain {v : Json} (h : Plain v) (target : Option Json) :
    mergePatch target v = v := by
  cases v with
  | null => exact h.elim
  | obj _ => exact h.elim
  | _ => rfl

def Replaces : Prop := ∀ (old : Option α) a, mergePatch (old.map c.encode) (c.encode a) = c.encode a

lemma plain_replaces (encode : α → Json) (decode : Json → Option α)
    (hdecode : ∀ a, decode (encode a) = some a) (hplain : ∀ a, Plain (encode a)) :
    (plain encode decode hdecode hplain).Replaces :=
  fun _ a => mergePatch_of_plain (hplain a) _

@[simp] lemma string_replaces : string.Replaces := plain_replaces _ _ _ _

@[simp] lemma nat_replaces : nat.Replaces := plain_replaces _ _ _ _

@[simp] lemma int_replaces : int.Replaces := plain_replaces _ _ _ _

@[simp] lemma boolean_replaces : boolean.Replaces := plain_replaces _ _ _ _

@[simp] lemma strings_replaces : strings.Replaces := plain_replaces _ _ _ _

@[simp] lemma variants_replaces (name : α → String) (all : List α)
    (h : ∀ a, all.find? (fun b => name b == name a) = some a) : (variants name all h).Replaces :=
  plain_replaces _ _ _ _

variable {c}

@[simp] lemma mergeMember_member (h : c.Replaces) (old : Option α) (m : Member α) :
    mergeMember (old.map c.encode) (c.member m) = (m.merge old).map c.encode := by
  cases m with
  | absent => rfl
  | null => rfl
  | value a => rw [member, mergeMember_encode, h]; rfl

@[simp] lemma mergeMember_value (h : c.Replaces) (old : Option α) (a : α) :
    mergeMember (old.map c.encode) (some (c.encode a)) = some (c.encode a) :=
  mergeMember_member h old (.value a)

/-- An object all of whose members replace what they are merged into. -/
lemma replaces_of_fields (fields : Option α → List (String × Option Json))
    (hencode : ∀ a, c.encode a = skipNone (fields (some a)))
    (hempty : skipNone (fields none) = object [])
    (hkeys : ∀ old a, (fields old).map Prod.fst = (fields (some a)).map Prod.fst)
    (hnd : ∀ old, ((fields old).map Prod.fst).Nodup)
    (hmerge : ∀ old a, mergeFields (fields old) (fields (some a)) = fields (some a)) :
    c.Replaces := by
  intro old a
  have htarget : mergePatch (old.map c.encode) (c.encode a) =
      mergePatch (some (skipNone (fields old))) (c.encode a) := by
    cases old with
    | some b => rw [Option.map_some, hencode b]
    | none => rw [hempty, hencode a]; rfl
  rw [htarget, hencode a, mergePatch_skipNone (hkeys old a) (hnd old), hmerge]

end Codec

/-- A member of a patch, of a type whose JSON form is changed by what it is merged into. -/
def memberWith {α : Type} (encode : α → Json) : Member α → Option Json
  | .absent => none
  | .null => some .null
  | .value a => some (encode a)

/-- A member that may be missing or null, of such a type. -/
def readOptional {α : Type} (decode : Json → Option α) (v : Json) (key : String) :
    Option (Option α) :=
  match v.get? key with
  | none => some none
  | some .null => some none
  | some w => (decode w).map some

lemma readOptional_encode {α : Type} {encode : α → Json} {decode : Json → Option α}
    (hdecode : ∀ a, decode (encode a) = some a) (hnull : ∀ a, encode a ≠ .null) {v : Json}
    {key : String} {old : Option α} (h : v.get? key = old.map encode) :
    readOptional decode v key = some old := by
  unfold readOptional
  rw [h]
  cases old with
  | none => rfl
  | some a =>
      have hd := hdecode a
      have hn := hnull a
      cases hv : encode a <;> simp_all

end Json
