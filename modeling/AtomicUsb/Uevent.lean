import AtomicUsb.Foundation.Framing
import AtomicUsb.Foundation.Utf8
import Mathlib.Data.List.Nodup

/-!
# Kernel uevents

A uevent is a datagram of fields that end in a NUL each: `ACTION@DEVPATH`, and then a `KEY=VALUE`
for every variable.  `parse` is forgiving about the variables, whose fields may be anything, and
strict about the first field, which tells kernel events from those that udevd sends.
-/

namespace AtomicUsb

/-- A parsed kernel uevent. -/
structure Uevent where
  action : String
  devpath : String
  vars : String → Option String

namespace Uevent

/-- `HashMap::insert`. -/
def insertVar (vars : String → Option String) (p : String × String) : String → Option String :=
  Function.update vars p.1 (some p.2)

/-- Collect pairs into a map; later ones win. -/
def collect (pairs : List (String × String)) : String → Option String :=
  pairs.foldl insertVar fun _ => none

/-- The fields of a datagram, the first of them apart. -/
def parseFields : List (List UInt8) → Option Uevent
  | [] => none
  | header :: fields => do
    let header ← Text.fromUtf8 header
    let (action, devpath) ← Framing.splitOnceStr '@' header
    let vars := (fields.filterMap Text.fromUtf8).filterMap (Framing.splitOnceStr '=')
    pure ⟨action, devpath, collect vars⟩

/-- Parses a raw kernel uevent datagram.  Messages from udevd are rejected. -/
def parse (buf : List UInt8) : Option Uevent := parseFields ((buf.splitOn 0).filter (· ≠ []))

/-- What was collected before stays where the pairs at hand have nothing to say. -/
lemma foldl_insertVar {pairs : List (String × String)} (hnd : (pairs.map Prod.fst).Nodup)
    (vars : String → Option String) (k : String) :
    pairs.foldl insertVar vars k = (pairs.lookup k).or (vars k) := by
  induction pairs generalizing vars with
  | nil => rfl
  | cons p pairs ih =>
      obtain ⟨hp, hnd⟩ := List.nodup_cons.mp hnd
      rw [List.foldl_cons, ih hnd, insertVar, List.lookup_cons]
      by_cases hk : k = p.1
      · subst hk
        have hnone : pairs.lookup p.1 = none := by
          rw [List.lookup_eq_none_iff]
          intro q hq
          have hne : p.1 ≠ q.1 := fun heq => hp (List.mem_map.mpr ⟨q, hq, heq.symm⟩)
          simpa using hne
        simp [hnone]
      · have hbeq : (k == p.1) = false := by simpa using hk
        rw [Function.update_of_ne hk, hbeq]

lemma collect_eq_lookup {pairs : List (String × String)} (hnd : (pairs.map Prod.fst).Nodup) :
    collect pairs = fun k => pairs.lookup k := by
  funext k
  rw [collect, foldl_insertVar hnd, Option.or_none]

end Uevent

/-! ## The kernel's encoding -/

/-- A uevent as the kernel has it, with the variables in the order in which they are sent. -/
structure KernelEvent where
  action : String
  devpath : String
  env : List (String × String)
  action_clean : '@' ∉ action.toList ∧ Text.NulFree action
  devpath_clean : Text.NulFree devpath
  keys_nodup : (env.map Prod.fst).Nodup
  keys_clean : ∀ p ∈ env, '=' ∉ p.1.toList ∧ Text.NulFree p.1
  values_clean : ∀ p ∈ env, Text.NulFree p.2

/-- A datagram of fields that end in a NUL each. -/
def datagram (fields : List (List UInt8)) : List UInt8 := fields.flatMap (· ++ [0])

namespace KernelEvent

def header (e : KernelEvent) : List UInt8 := Text.bytes (e.action ++ "@" ++ e.devpath)

def var (p : String × String) : List UInt8 := Text.bytes (p.1 ++ "=" ++ p.2)

def encode (e : KernelEvent) : List UInt8 := datagram (e.header :: e.env.map var)

/-- What is to be read from it. -/
def uevent (e : KernelEvent) : Uevent := ⟨e.action, e.devpath, fun k => e.env.lookup k⟩

end KernelEvent

/-- A field that says nothing: empty, without `=` or not text. -/
structure Junk (f : List UInt8) : Prop where
  nulFree : (0 : UInt8) ∉ f
  idle : f = [] ∨ UInt8.ofNat '='.toNat ∉ f ∨ Text.fromUtf8 f = none

/-- The second list is the first one with such fields inserted anywhere. -/
inductive WithJunk : List (List UInt8) → List (List UInt8) → Prop
  | nil : WithJunk [] []
  | keep {f : List UInt8} {fs gs : List (List UInt8)} (h : WithJunk fs gs) :
      WithJunk (f :: fs) (f :: gs)
  | insert {f : List UInt8} {fs gs : List (List UInt8)} (hf : Junk f) (h : WithJunk fs gs) :
      WithJunk fs (f :: gs)

namespace Uevent

/-- The variable in a field, if there is one. -/
def var? (f : List UInt8) : Option (String × String) :=
  (Text.fromUtf8 f).bind (Framing.splitOnceStr '=')

lemma var?_var {p : String × String} (h : '=' ∉ p.1.toList) :
    var? (KernelEvent.var p) = some p := by
  rw [var?, KernelEvent.var, Text.fromUtf8_bytes, Option.bind_some,
    Framing.splitOnceStr_append (by simp) h]

lemma var?_eq_none {f : List UInt8} (h : Junk f) : var? f = none := by
  cases htext : Text.fromUtf8 f with
  | none => rw [var?, htext, Option.bind_none]
  | some text =>
      obtain rfl := Text.fromUtf8_eq_some.mp htext
      rw [var?, htext, Option.bind_some, Framing.splitOnceStr_eq_none]
      rcases h.idle with hempty | hnone | hbad
      · have hnil : Text.bytes text = Text.bytes "" := hempty
        rw [Text.bytes_injective hnil]
        exact List.not_mem_nil
      · exact mt (@Text.ascii_mem_bytes '=' (by decide) text).mpr hnone
      · rw [hbad] at htext
        cases htext

/-- A datagram whose first field reads like a kernel event. -/
lemma parse_datagram {action devpath : String} {fields : List (List UInt8)}
    (haction : '@' ∉ action.toList) (hheader : Text.NulFree (action ++ "@" ++ devpath))
    (hfields : ∀ f ∈ fields, (0 : UInt8) ∉ f) :
    parse (datagram (Text.bytes (action ++ "@" ++ devpath) :: fields)) =
      some ⟨action, devpath, collect (fields.filterMap var?)⟩ := by
  have hsplit : (datagram (Text.bytes (action ++ "@" ++ devpath) :: fields)).splitOn 0 =
      Text.bytes (action ++ "@" ++ devpath) :: fields ++ [[]] :=
    Framing.splitOn_terminated (List.forall_mem_cons.mpr ⟨hheader.bytes, hfields⟩)
  have hne : Text.bytes (action ++ "@" ++ devpath) ≠ [] := by
    intro hnil
    have hat : '@' ∈ (action ++ "@" ++ devpath).toList := by simp
    rw [← @Text.ascii_mem_bytes '@' (by decide), hnil] at hat
    cases hat
  have hvars : (((fields ++ [[]]).filter (· ≠ [])).filterMap Text.fromUtf8).filterMap
      (Framing.splitOnceStr '=') = fields.filterMap var? := by
    have hempty : var? [] = none := var?_eq_none ⟨List.not_mem_nil, Or.inl rfl⟩
    have hskip :
        (fun f : List UInt8 => if decide (f ≠ []) = true then var? f else none) = var? := by
      funext f
      by_cases hf : f = []
      · simp [hf, hempty]
      · simp [hf]
    rw [List.filterMap_filterMap, List.filterMap_filter]
    refine (congrArg (List.filterMap · (fields ++ [[]])) hskip).trans ?_
    rw [List.filterMap_append, List.filterMap_cons_none hempty, List.filterMap_nil, List.append_nil]
  rw [parse, hsplit, List.cons_append, List.filter_cons_of_pos (by simpa using hne), parseFields,
    Text.fromUtf8_bytes]
  dsimp only [Option.bind_eq_bind, Option.bind_some]
  rw [Framing.splitOnceStr_append (by simp) haction, hvars]
  rfl

end Uevent

lemma WithJunk.refl (fields : List (List UInt8)) : WithJunk fields fields := by
  induction fields with
  | nil => exact .nil
  | cons f fields ih => exact .keep ih

lemma WithJunk.filterMap_var? {fs gs : List (List UInt8)} (h : WithJunk fs gs) :
    gs.filterMap Uevent.var? = fs.filterMap Uevent.var? := by
  induction h with
  | nil => rfl
  | keep h ih => rw [List.filterMap_cons, List.filterMap_cons, ih]
  | insert hf h ih => rw [List.filterMap_cons_none (Uevent.var?_eq_none hf), ih]

lemma WithJunk.nulFree {fs gs : List (List UInt8)} (h : WithJunk fs gs)
    (hfs : ∀ f ∈ fs, (0 : UInt8) ∉ f) : ∀ g ∈ gs, (0 : UInt8) ∉ g := by
  induction h with
  | nil => exact hfs
  | keep h ih =>
      rw [List.forall_mem_cons] at hfs ⊢
      exact ⟨hfs.1, ih hfs.2⟩
  | insert hf h ih => exact List.forall_mem_cons.mpr ⟨hf.nulFree, ih hfs⟩

namespace KernelEvent

lemma header_clean (e : KernelEvent) : Text.NulFree (e.action ++ "@" ++ e.devpath) := by
  unfold Text.NulFree
  rw [String.toList_append, String.toList_append, List.mem_append, List.mem_append, not_or, not_or]
  exact ⟨⟨e.action_clean.2, by decide⟩, e.devpath_clean⟩

lemma var_clean (e : KernelEvent) : ∀ f ∈ e.env.map var, (0 : UInt8) ∉ f := by
  refine List.forall_mem_map.mpr fun p hp => Text.NulFree.bytes ?_
  unfold Text.NulFree
  rw [String.toList_append, String.toList_append, List.mem_append, List.mem_append, not_or, not_or]
  exact ⟨⟨(e.keys_clean p hp).2, by decide⟩, e.values_clean p hp⟩

/-- Whatever is inserted between them, the variables are read back. -/
lemma parse_withJunk (e : KernelEvent) {fields : List (List UInt8)}
    (h : WithJunk (e.env.map var) fields) :
    Uevent.parse (datagram (e.header :: fields)) = some e.uevent := by
  have hvars : fields.filterMap Uevent.var? = e.env := by
    rw [h.filterMap_var?, List.filterMap_map]
    refine (List.filterMap_congr fun p hp => ?_).trans List.filterMap_some
    exact Uevent.var?_var (e.keys_clean p hp).1
  rw [header, Uevent.parse_datagram e.action_clean.1 e.header_clean (h.nulFree e.var_clean), hvars,
    Uevent.collect_eq_lookup e.keys_nodup]
  rfl

end KernelEvent

/-- **Parsing inverts the kernel's encoding.**  Every event is read back from its encoding, also
with fields inserted that say nothing; and a datagram whose first field has no `@` is rejected. -/
theorem parse_inverts_encode :
    (∀ e : KernelEvent, Uevent.parse e.encode = some e.uevent) ∧
    (∀ (e : KernelEvent) (fields : List (List UInt8)),
      WithJunk (e.env.map KernelEvent.var) fields →
        Uevent.parse (datagram (e.header :: fields)) = some e.uevent) ∧
    ∀ (buf first : List UInt8) (rest : List (List UInt8)),
      (buf.splitOn 0).filter (· ≠ []) = first :: rest → UInt8.ofNat '@'.toNat ∉ first →
        Uevent.parse buf = none := by
  refine ⟨fun e => e.parse_withJunk (.refl _), fun e fields h => e.parse_withJunk h, ?_⟩
  intro buf first rest hfields hat
  rw [Uevent.parse, hfields, Uevent.parseFields]
  cases htext : Text.fromUtf8 first with
  | none => rfl
  | some text =>
      obtain rfl := Text.fromUtf8_eq_some.mp htext
      rw [@Text.ascii_mem_bytes '@' (by decide), ← Framing.splitOnceStr_eq_none] at hat
      dsimp only [Option.bind_eq_bind, Option.bind_some]
      rw [hat]
      rfl

/-- A device that was plugged in. -/
def pluggedIn : KernelEvent where
  action := "add"
  devpath := "/devices/usb3/3-3@1"
  env := [("SUBSYSTEM", "usb"), ("MODALIAS", "usb:v=1a86")]
  action_clean := by simp [Text.NulFree]
  devpath_clean := by simp [Text.NulFree]
  keys_nodup := by decide
  keys_clean := by simp [Text.NulFree]
  values_clean := by simp [Text.NulFree]

/-- It is read back, with an empty field and one that is not text in between; what udevd sends is
not. -/
theorem parse_inverts_encode_pluggedIn :
    Uevent.parse pluggedIn.encode = some pluggedIn.uevent ∧
      Uevent.parse (datagram [pluggedIn.header, [], KernelEvent.var ("SUBSYSTEM", "usb"),
        [0xff, 0x3d], KernelEvent.var ("MODALIAS", "usb:v=1a86")]) = some pluggedIn.uevent ∧
      Uevent.parse (Text.bytes "libudev" ++ [0, 0xfe, 0xed, 0xca, 0xfe]) = none := by
  have hempty : Junk [] := ⟨List.not_mem_nil, Or.inl rfl⟩
  have hbinary : Junk [0xff, 0x3d] := ⟨by decide, Or.inr (Or.inr (by decide +kernel))⟩
  refine ⟨parse_inverts_encode.1 pluggedIn, parse_inverts_encode.2.1 pluggedIn _
    (.insert hempty (.keep (.insert hbinary (.keep .nil)))), ?_⟩
  exact parse_inverts_encode.2.2 _ (Text.bytes "libudev") [[0xfe, 0xed, 0xca, 0xfe]]
    (by decide +kernel) (by decide +kernel)

end AtomicUsb
