import AtomicUsb.Foundation.Text
import Mathlib.Data.List.Basic

/-!
# Framing

Three ways to tell where a message in a stream ends.  A field can be sent behind its length: then
the concatenation of any number of fields determines them (`flatMap_frame_inj`).  Fields can be told
by separators that do not occur in them (`splitOn_headed`, `splitOn_terminated`).  Or a message can
be sent as a line: `readLine` reads one item at a time up to a delimiter and gives up on a line
that gets too long.  `readLine_line` is what it makes of a line, and `ReadsPrefix` what it leaves of
any stream.
-/

namespace Framing

variable {β : Type}

/-! ## Fields behind their lengths -/

/-- A field behind its length. -/
def frame (size : ℕ → List β) (field : List β) : List β := size field.length ++ field

/-- Framed fields can be told apart, provided that lengths are written in the same number of items
and can be told apart themselves. -/
lemma flatMap_frame_inj {size : ℕ → List β} {width : ℕ} (hwidth : ∀ n, (size n).length = width)
    (hpos : 0 < width) {Fits : ℕ → Prop}
    (hsize : ∀ m n, Fits m → Fits n → size m = size n → m = n) {xs ys : List (List β)}
    (hxs : ∀ x ∈ xs, Fits x.length) (hys : ∀ y ∈ ys, Fits y.length)
    (h : xs.flatMap (frame size) = ys.flatMap (frame size)) : xs = ys := by
  have hne : ∀ x : List β, (frame size x).length ≠ 0 := by
    intro x
    rw [frame, List.length_append, hwidth]
    omega
  induction xs generalizing ys with
  | nil =>
      cases ys with
      | nil => rfl
      | cons y ys =>
          have hlength := congrArg List.length h
          rw [List.flatMap_nil, List.flatMap_cons, List.length_append, List.length_nil] at hlength
          exact absurd (by omega) (hne y)
  | cons x xs ih =>
      cases ys with
      | nil =>
          have hlength := congrArg List.length h
          rw [List.flatMap_nil, List.flatMap_cons, List.length_append, List.length_nil] at hlength
          exact absurd (by omega) (hne x)
      | cons y ys =>
          simp only [List.flatMap_cons, frame, List.append_assoc] at h
          obtain ⟨hlen, hrest⟩ := List.append_inj h ((hwidth _).trans (hwidth _).symm)
          have hlength := hsize _ _ (hxs x List.mem_cons_self) (hys y List.mem_cons_self) hlen
          obtain ⟨rfl, htail⟩ := List.append_inj hrest hlength
          rw [ih (fun z hz => hxs z (List.mem_cons_of_mem _ hz))
            (fun z hz => hys z (List.mem_cons_of_mem _ hz)) htail]

lemma length_beBytes (n : ℕ) : (Text.beBytes n).length = 8 := rfl

/-- Numbers that agree in the lowest `k` bytes and above them are equal. -/
lemma eq_of_bytes_eq {m n k : ℕ} (habove : m / 256 ^ k = n / 256 ^ k)
    (hbytes : ∀ i < k, UInt8.ofNat (m / 256 ^ i) = UInt8.ofNat (n / 256 ^ i)) : m = n := by
  induction k with
  | zero => rwa [pow_zero, Nat.div_one, Nat.div_one] at habove
  | succ k ih =>
      refine ih ?_ fun i hi => hbytes i (by omega)
      have hbyte := hbytes k (by omega)
      rw [← UInt8.toNat_inj, UInt8.toNat_ofNat', UInt8.toNat_ofNat'] at hbyte
      rw [pow_succ, ← Nat.div_div_eq_div_mul, ← Nat.div_div_eq_div_mul] at habove
      omega

/-- Eight bytes are enough for a 64-bit length. -/
lemma beBytes_inj {m n : ℕ} (hm : m < 2 ^ 64) (hn : n < 2 ^ 64)
    (h : Text.beBytes m = Text.beBytes n) : m = n := by
  have habove : ∀ x < 2 ^ 64, x / 256 ^ 8 = 0 := fun x hx => Nat.div_eq_of_lt hx
  refine eq_of_bytes_eq ((habove m hm).trans (habove n hn).symm) fun i hi => ?_
  refine List.map_inj_left.mp h i ?_
  simp only [List.mem_cons, List.not_mem_nil, or_false]
  omega

/-! ## Fields between separators -/

section Separators

variable [DecidableEq β] {sep : β}

/-- Fields behind a separator each, after a first field. -/
lemma splitOn_headed {head : List β} {fields : List (List β)} (hhead : sep ∉ head)
    (hfields : ∀ f ∈ fields, sep ∉ f) :
    (head ++ fields.flatMap (sep :: ·)).splitOn sep = head :: fields := by
  induction fields generalizing head with
  | nil => rw [List.flatMap_nil, List.append_nil, List.splitOn_eq_singleton hhead]
  | cons f fields ih =>
      rw [List.forall_mem_cons] at hfields
      rw [List.flatMap_cons, List.cons_append, List.splitOn_append_cons_self,
        ih hfields.1 hfields.2, List.splitOn_eq_singleton hhead, List.singleton_append]

/-- Fields before a separator each. -/
lemma splitOn_terminated {fields : List (List β)} (hfields : ∀ f ∈ fields, sep ∉ f) :
    (fields.flatMap (· ++ [sep])).splitOn sep = fields ++ [[]] := by
  induction fields with
  | nil => rfl
  | cons f fields ih =>
      rw [List.forall_mem_cons] at hfields
      rw [List.flatMap_cons, List.append_assoc, List.singleton_append,
        List.splitOn_append_cons_self, ih hfields.2, List.splitOn_eq_singleton hfields.1,
        List.singleton_append, List.cons_append]

/-- `split_once`: what is before and what is behind the first separator. -/
def splitOnce (sep : β) : List β → Option (List β × List β)
  | [] => none
  | x :: xs => if x = sep then some ([], xs) else (splitOnce sep xs).map fun p => (x :: p.1, p.2)

lemma splitOnce_append {before : List β} (h : sep ∉ before) (after : List β) :
    splitOnce sep (before ++ sep :: after) = some (before, after) := by
  induction before with
  | nil => simp [splitOnce]
  | cons x before ih =>
      rw [List.mem_cons, not_or] at h
      rw [List.cons_append, splitOnce, if_neg (Ne.symm h.1), ih h.2]
      rfl

lemma splitOnce_eq_none {l : List β} : splitOnce sep l = none ↔ sep ∉ l := by
  induction l with
  | nil => simp [splitOnce]
  | cons x l ih =>
      rw [splitOnce, List.mem_cons, not_or]
      split_ifs with hx
      · simp [hx]
      · rw [Option.map_eq_none_iff, ih]
        simp [Ne.symm hx]

end Separators

/-- `str::split_once`. -/
def splitOnceStr (sep : Char) (s : String) : Option (String × String) :=
  (splitOnce sep s.toList).map fun p => (String.ofList p.1, String.ofList p.2)

lemma splitOnceStr_append {c : Char} {sep before : String} (hsep : sep.toList = [c])
    (h : c ∉ before.toList) (after : String) :
    splitOnceStr c (before ++ sep ++ after) = some (before, after) := by
  rw [splitOnceStr, String.toList_append, String.toList_append, hsep, List.append_assoc,
    List.singleton_append, splitOnce_append h, Option.map_some, String.ofList_toList,
    String.ofList_toList]

lemma splitOnceStr_eq_none {sep : Char} {s : String} :
    splitOnceStr sep s = none ↔ sep ∉ s.toList := by
  rw [splitOnceStr, Option.map_eq_none_iff, splitOnce_eq_none]

/-! ## Lines -/

/-- Why a line could not be read. -/
inductive LineError
  /-- The stream ended before the delimiter. -/
  | eof
  /-- The line is longer than it may be. -/
  | tooLong
  deriving DecidableEq

variable [DecidableEq β]

/-- Read a line one item at a time: `line` is what has been read of it.  Returns what is left of
the stream, too. -/
def readLine (delim : β) (limit : ℕ) (line : List β) :
    List β → Except LineError (List β) × List β
  | [] => (.error .eof, [])
  | b :: rest =>
    if b = delim then (.ok line, rest)
    else if limit ≤ line.length then (.error .tooLong, rest)
    else readLine delim limit (line ++ [b]) rest

/-- What is left is a tail of the stream, and what was read has at most `n` items and no delimiter
but possibly its last. -/
structure ReadsPrefix (delim : β) (n : ℕ) (stream rest : List β) : Prop where
  split : ∃ read, stream = read ++ rest ∧ read.length ≤ n ∧ delim ∉ read.dropLast

variable {delim : β} {limit : ℕ}

/-- A line that fits is read as it is, and nothing behind it. -/
lemma readLine_line {line content rest : List β} (hcontent : delim ∉ content)
    (hfits : line.length + content.length ≤ limit) :
    readLine delim limit line (content ++ delim :: rest) = (.ok (line ++ content), rest) := by
  induction content generalizing line with
  | nil => simp [readLine]
  | cons b content ih =>
      rw [List.mem_cons, not_or] at hcontent
      rw [List.length_cons] at hfits
      rw [List.cons_append, readLine, if_neg (Ne.symm hcontent.1), if_neg (by omega),
        ih hcontent.2 (by rw [List.length_append, List.length_singleton]; omega),
        List.append_assoc, List.singleton_append]

/-- A longer one is not. -/
lemma readLine_tooLong {line content rest : List β} (hcontent : delim ∉ content)
    (hline : line.length ≤ limit) (hlong : limit < line.length + content.length) :
    (readLine delim limit line (content ++ delim :: rest)).1 = .error .tooLong := by
  induction content generalizing line with
  | nil =>
      rw [List.length_nil] at hlong
      omega
  | cons b content ih =>
      rw [List.mem_cons, not_or] at hcontent
      rw [List.length_cons] at hlong
      rw [List.cons_append, readLine, if_neg (Ne.symm hcontent.1)]
      split_ifs with hfull
      · rfl
      · exact ih hcontent.2 (by rw [List.length_append, List.length_singleton]; omega)
          (by rw [List.length_append, List.length_singleton]; omega)

/-- Whatever the stream, no more is read than a line of the largest size and its delimiter. -/
lemma readLine_readsPrefix {line stream : List β} (hline : line.length ≤ limit) :
    ReadsPrefix delim (limit + 1 - line.length) stream (readLine delim limit line stream).2 := by
  induction stream generalizing line with
  | nil => exact ⟨[], rfl, Nat.zero_le _, List.not_mem_nil⟩
  | cons b stream ih =>
      rw [readLine]
      split_ifs with hdelim hfull
      · exact ⟨[b], rfl, by rw [List.length_singleton]; omega, List.not_mem_nil⟩
      · exact ⟨[b], rfl, by rw [List.length_singleton]; omega, List.not_mem_nil⟩
      · have hlonger : (line ++ [b]).length = line.length + 1 := by simp
        obtain ⟨read, hsplit, hlength, hread⟩ := (@ih (line ++ [b]) (by omega)).split
        refine ⟨b :: read, by rw [List.cons_append, ← hsplit], ?_, ?_⟩
        · rw [List.length_cons]
          omega
        · cases read with
          | nil => exact List.not_mem_nil
          | cons c read =>
              rw [List.dropLast_cons_cons, List.mem_cons, not_or]
              exact ⟨Ne.symm hdelim, hread⟩

end Framing
