import AtomicUsb.Foundation.Framing
import AtomicUsb.Foundation.Utf8
import AtomicUsb.Proto
import Mathlib

/-!
# The handshake on the wire

What two agents can rely on before the usbredir stream starts.  The MAC is computed over a message
that determines every field of the hello (`macInput_inj`).  The age of a hello is checked in machine
arithmetic, which is exact but for timestamps so far in the past that the difference wraps around
(`verify_exact_iff`).  A line is read back as it was written, and the reader leaves alone what
follows it (`read_line_exact`).
-/

namespace AtomicUsb

/-! ## What the MAC covers -/

namespace Hello

/-- The fields the MAC is computed over, in order. -/
def macFields (h : Hello) : List String :=
  [h.protocol, h.device, h.claim.ns, h.claim.name, h.claim.uid, toString h.timestamp.toInt, h.nonce]

/-- The length of every field fits a `u64`, as that of every Rust string does. -/
def Fits (h : Hello) : Prop := ∀ field ∈ h.macFields, (Text.bytes field).length < 2 ^ 64

instance (h : Hello) : Decidable h.Fits :=
  inferInstanceAs (Decidable (∀ field ∈ h.macFields, (Text.bytes field).length < 2 ^ 64))

lemma macInput_eq (h : Hello) :
    h.macInput = (h.macFields.map Text.bytes).flatMap (Framing.frame Text.beBytes) := by
  rw [List.flatMap_map]
  rfl

end Hello

/-- **The MAC covers every field unambiguously.** -/
theorem macInput_inj {h g : Hello} (hh : h.Fits) (hg : g.Fits) (heq : h.macInput = g.macInput) :
    h.protocol = g.protocol ∧ h.device = g.device ∧ h.claim = g.claim ∧
      h.timestamp = g.timestamp ∧ h.nonce = g.nonce := by
  rw [Hello.macInput_eq, Hello.macInput_eq] at heq
  have hfields : h.macFields.map Text.bytes = g.macFields.map Text.bytes := by
    refine Framing.flatMap_frame_inj Framing.length_beBytes (by decide)
      (fun _ _ hm hn => Framing.beBytes_inj hm hn) ?_ ?_ heq
    · exact List.forall_mem_map.mpr hh
    · exact List.forall_mem_map.mpr hg
  have hlist : h.macFields = g.macFields := List.map_injective_iff.mpr Text.bytes_injective hfields
  simp only [Hello.macFields, List.cons.injEq, and_true] at hlist
  obtain ⟨hprotocol, hdevice, hns, hname, huid, htimestamp, hnonce⟩ := hlist
  refine ⟨hprotocol, hdevice, ?_, ?_, hnonce⟩
  · cases hc : h.claim
    cases hc' : g.claim
    simp_all
  · exact Int64.toInt_inj.mp (Int.repr_injective htimestamp)

/-- A byte moved from the device to the namespace. -/
theorem macInput_inj_shifted :
    { firstHello with device := "ab", claim := ⟨"c", "", ""⟩ }.macInput ≠
      { firstHello with device := "a", claim := ⟨"bc", "", ""⟩ }.macInput := by
  intro heq
  have hdevice := (macInput_inj (by decide +kernel) (by decide +kernel) heq).2.1
  exact absurd hdevice (by decide)

/-! ## Freshness -/

/-- The message is for this protocol, and its MAC that of its fields. -/
def Hello.Authentic (hmac : List UInt8 → List UInt8 → List UInt8) (psk : List UInt8) (h : Hello) :
    Prop :=
  h.protocol = AtomicUsb.protocol ∧ Text.hexDecode h.mac.toList = some (hmac psk h.macInput)

/-- The difference wraps around to the smallest `i64`, which is its own absolute value, or all the
way to the window. -/
def WrapsAround (now timestamp : Int64) : Prop :=
  now.toInt - timestamp.toInt = 2 ^ 63 ∨ 2 ^ 64 - 120 ≤ now.toInt - timestamp.toInt

lemma withinSkew_iff_of_nonneg {now timestamp : Int64} (hnow : 0 ≤ now.toInt) :
    withinSkew now timestamp = true ↔
      |now.toInt - timestamp.toInt| ≤ 120 ∨ WrapsAround now timestamp := by
  have hmax := now.toInt_lt
  have hmin := timestamp.minValue_le_toInt
  have hmax' := timestamp.toInt_lt
  have hskew : maxClockSkewSecs.toInt = 120 := rfl
  simp only [Int64.toInt_minValue] at hmin
  rw [withinSkew, decide_eq_true_eq, Int64.le_iff_toInt_le, Int64.toInt_abs, Int64.toInt_sub,
    hskew, Int.bmod_def, abs_eq_max_neg, abs_eq_max_neg, WrapsAround]
  split_ifs <;> omega

lemma Hello.verify_iff {hmac : List UInt8 → List UInt8 → List UInt8} {psk : List UInt8} {h : Hello}
    {now : Int64} :
    h.verify hmac psk now = .ok () ↔ h.Authentic hmac psk ∧ withinSkew now h.timestamp = true := by
  unfold verify Authentic
  by_cases hprotocol : h.protocol = AtomicUsb.protocol
  · cases hdecode : Text.hexDecode h.mac.toList with
    | none => simp [hprotocol]
    | some expected =>
        by_cases hmac' : hmac psk h.macInput = expected
        · cases hskew : withinSkew now h.timestamp <;> simp [hprotocol, hmac']
        · simp [hprotocol, hmac', Ne.symm hmac']
  · simp [hprotocol]

/-- **When freshness is exact.**  A hello is accepted if and only if it is authentic and its
timestamp is within 120 seconds of the clock — unless it is authentic and the difference wraps
around; then it is accepted although it is not fresh. -/
theorem verify_exact_iff (hmac : List UInt8 → List UInt8 → List UInt8) (psk : List UInt8)
    (h : Hello) (now : Int64) (hnow : 0 ≤ now.toInt) :
    (h.verify hmac psk now = .ok () ↔
      h.Authentic hmac psk ∧ |now.toInt - h.timestamp.toInt| ≤ 120) ↔
    ¬ (h.Authentic hmac psk ∧ WrapsAround now h.timestamp) := by
  have hapart : WrapsAround now h.timestamp → ¬ |now.toInt - h.timestamp.toInt| ≤ 120 := by
    rw [abs_eq_max_neg]
    rintro (hwrap | hwrap) hskew <;> omega
  rw [Hello.verify_iff, withinSkew_iff_of_nonneg hnow]
  tauto

/-- A hello from long before the beginning of time, authentic under the key `secret`. -/
def ancientHello : Hello where
  protocol := "atomic-usb/1"
  device := "usb-cam"
  claim := ⟨"default", "cam-claim", "uid-1"⟩
  timestamp := -9223372036854774808
  nonce := "6e33"
  mac := "e90786ba2f57193f98cd15d315334126d1b004f049814548326cf9eb2538672b"

/-- HMAC-SHA256 as far as it is needed. -/
def ancientHmac (key message : List UInt8) : List UInt8 :=
  if key = Text.bytes "secret" ∧ message = ancientHello.macInput then
    [0xe9, 0x07, 0x86, 0xba, 0x2f, 0x57, 0x19, 0x3f, 0x98, 0xcd, 0x15, 0xd3, 0x15, 0x33, 0x41, 0x26,
      0xd1, 0xb0, 0x04, 0xf0, 0x49, 0x81, 0x45, 0x48, 0x32, 0x6c, 0xf9, 0xeb, 0x25, 0x38, 0x67,
      0x2b]
  else helloHmac key message

/-- It is accepted at second 1000. -/
theorem ancient_hello_accepted :
    ¬ (ancientHello.verify ancientHmac (Text.bytes "secret") 1000 = .ok () ↔
      ancientHello.Authentic ancientHmac (Text.bytes "secret") ∧
        |(1000 : Int64).toInt - ancientHello.timestamp.toInt| ≤ 120) := by
  have haccepted : ancientHello.verify ancientHmac (Text.bytes "secret") 1000 = .ok () := by
    decide +kernel
  intro h
  exact absurd (h.mp haccepted).2 (by decide +kernel)

/-- A hello of second 1000 is judged exactly. -/
theorem verify_exact_iff_first :
    firstHello.verify helloHmac (Text.bytes "secret") 1120 = .ok () ↔
      firstHello.Authentic helloHmac (Text.bytes "secret") ∧
        |(1120 : Int64).toInt - firstHello.timestamp.toInt| ≤ 120 := by
  refine (verify_exact_iff helloHmac (Text.bytes "secret") firstHello 1120 (by decide)).mpr ?_
  rintro ⟨-, hwrap⟩
  revert hwrap
  unfold WrapsAround
  decide +kernel

/-! ## Lines -/

def maxLineBytes : ℕ := 16 * 1024

def newline : UInt8 := 0x0a

/-- The kinds of `std::io::Error` that lines give rise to. -/
inductive IoError
  | unexpectedEof
  | invalidData (message : String)
  | other (message : String)
  deriving DecidableEq

/-- What is used of `serde_json`, which is not part of the sources: `to_vec` and `from_slice`, at a
type of messages. -/
structure Serde (α : Type) where
  toVec : α → Except String (List UInt8)
  fromSlice : List UInt8 → Except String α

section Lines

variable {α : Type} (serde : Serde α)

/-- Writes one JSON line. -/
def writeLine (value : α) : Except IoError (List UInt8) :=
  match serde.toVec value with
  | .error e => .error (.other e)
  | .ok line => .ok (line ++ [newline])

/-- Reads one JSON line byte by byte, so that no bytes of the following usbredir stream are
consumed.  Returns the bytes that are left, too. -/
def readLine (stream : List UInt8) : Except IoError α × List UInt8 :=
  match Framing.readLine newline maxLineBytes [] stream with
  | (.error .eof, rest) => (.error .unexpectedEof, rest)
  | (.error .tooLong, rest) => (.error (.invalidData "handshake line too long"), rest)
  | (.ok line, rest) => ((serde.fromSlice line).mapError .invalidData, rest)

lemma readLine_rest (stream : List UInt8) :
    (readLine serde stream).2 = (Framing.readLine newline maxLineBytes [] stream).2 := by
  unfold readLine
  split <;> simp_all

/-- **Handshake framing is exact.**  A message whose encoding is a line and is understood by the
parser is read back, with nothing consumed of what follows, if the encoding has at most 16384 bytes;
a longer one is refused.  Of any stream at most 16385 bytes are consumed, and none after the first
newline. -/
theorem read_line_exact :
    (∀ value j rest, serde.toVec value = .ok j → newline ∉ j → serde.fromSlice j = .ok value →
      ∃ written, writeLine serde value = .ok written ∧
        (j.length ≤ 16384 → readLine serde (written ++ rest) = (.ok value, rest)) ∧
        (16384 < j.length → ∃ e, (readLine serde (written ++ rest)).1 = .error e)) ∧
    ∀ stream, ∃ read, stream = read ++ (readLine serde stream).2 ∧ read.length ≤ 16385 ∧
      newline ∉ read.dropLast := by
  refine ⟨fun value j rest hto hline hfrom => ?_, fun stream => ?_⟩
  · have hwritten : j ++ [newline] ++ rest = j ++ newline :: rest := List.append_cons .. |>.symm
    refine ⟨j ++ [newline], by rw [writeLine, hto], fun hfits => ?_, fun hlong => ?_⟩
    · rw [hwritten, readLine, Framing.readLine_line hline (by simpa [maxLineBytes] using hfits)]
      simp [hfrom, Except.mapError]
    · have htooLong := @Framing.readLine_tooLong _ _ newline maxLineBytes [] j rest hline
        (Nat.zero_le _) (by simpa [maxLineBytes] using hlong)
      rw [hwritten, readLine]
      split
      · exact ⟨_, rfl⟩
      · exact ⟨_, rfl⟩
      · rename_i heq
        rw [heq] at htooLong
        cases htooLong
  · rw [readLine_rest]
    exact (Framing.readLine_readsPrefix (Nat.zero_le _)).split

end Lines

/-- JSON for a reply that has no error, as far as it is needed. -/
def replySerde : Serde Reply where
  toVec r := .ok (Text.bytes (if r.ok then "\x7b\"ok\":true\x7d" else "\x7b\"ok\":false\x7d"))
  fromSlice line :=
    if line = Text.bytes "\x7b\"ok\":true\x7d" then .ok ⟨true, none⟩
    else if line = Text.bytes "\x7b\"ok\":false\x7d" then .ok ⟨false, none⟩
    else .error "expected value"

/-- The reader stops where the usbredir stream begins. -/
theorem read_line_exact_reply :
    readLine replySerde (Text.bytes "\x7b\"ok\":true\x7d\nUSBREDIR-BYTES") =
      (.ok ⟨true, none⟩, Text.bytes "USBREDIR-BYTES") := by
  obtain ⟨written, hwritten, hread, -⟩ := (read_line_exact replySerde).1 ⟨true, none⟩
    (Text.bytes "\x7b\"ok\":true\x7d") (Text.bytes "USBREDIR-BYTES") rfl (by decide +kernel)
    (by decide +kernel)
  obtain rfl : Text.bytes "\x7b\"ok\":true\x7d" ++ [newline] = written := by
    simpa [writeLine, replySerde] using hwritten
  have hstream : Text.bytes "\x7b\"ok\":true\x7d\nUSBREDIR-BYTES" =
      Text.bytes "\x7b\"ok\":true\x7d" ++ [newline] ++ Text.bytes "USBREDIR-BYTES" := by
    decide +kernel
  rw [hstream]
  exact hread (by decide +kernel)

end AtomicUsb
