import AtomicUsb.Crd
import Mathlib.Tactic.Linarith

/-!
# The handshake

What an attaching agent sends before the usbredir stream starts, how the exporting agent
authenticates it, and the cache of nonces against replays.  Times are seconds in `i64`; built for
release, the sources' subtraction and absolute value wrap around, and so do Lean's on `Int64`.

HMAC-SHA256 is not part of the sources and is a parameter `hmac`, taking the key and the message.
-/

namespace AtomicUsb

def protocol : String := "atomic-usb/1"

/-- Maximum accepted clock difference between nodes. -/
def maxClockSkewSecs : Int64 := 120

structure ClaimRef where
  ns : String
  name : String
  uid : String
  deriving DecidableEq

structure Hello where
  protocol : String
  device : String
  claim : ClaimRef
  timestamp : Int64
  nonce : String
  mac : String
  deriving DecidableEq

structure Reply where
  ok : Bool
  error : Option String
  deriving DecidableEq

inductive AuthError
  | protocol (p : String)
  | mac
  | expired
  | replay
  deriving DecidableEq

def AuthError.display (rt : Runtime) : AuthError → String
  | .protocol p => s!"unsupported protocol {rt.debugStr p}"
  | .mac => "invalid MAC"
  | .expired => "timestamp outside the allowed clock skew"
  | .replay => "nonce replayed"

/-- Not further from `now` than the allowed skew. -/
def withinSkew (now timestamp : Int64) : Bool := (now - timestamp).abs ≤ maxClockSkewSecs

namespace Hello

/-- What the MAC is computed over: every field behind its length. -/
def macInput (h : Hello) : List UInt8 :=
  [h.protocol, h.device, h.claim.ns, h.claim.name, h.claim.uid, toString h.timestamp.toInt,
    h.nonce].flatMap fun field =>
      Text.beBytes (Text.bytes field).length ++ Text.bytes field

variable (hmac : List UInt8 → List UInt8 → List UInt8)

/-- Verifies protocol, MAC and freshness. -/
def verify (h : Hello) (psk : List UInt8) (now : Int64) : Except AuthError Unit :=
  if h.protocol ≠ AtomicUsb.protocol then .error (.protocol h.protocol)
  else
    match Text.hexDecode h.mac.toList with
    | none => .error .mac
    | some expected =>
      if hmac psk h.macInput ≠ expected then .error .mac
      else if !withinSkew now h.timestamp then .error .expired
      else .ok ()

lemma withinSkew_of_verify {h : Hello} {psk : List UInt8} {now : Int64}
    (hv : h.verify hmac psk now = .ok ()) : withinSkew now h.timestamp = true := by
  unfold verify at hv
  split at hv
  · cases hv
  · split at hv
    · cases hv
    · split_ifs at hv with _ hskew
      simpa using hskew

end Hello

/-! Two hellos for the same device under the key `secret`, and HMAC-SHA256 as far as they need
it. -/

def firstHello : Hello where
  protocol := "atomic-usb/1"
  device := "usb-cam"
  claim := ⟨"default", "cam-claim", "uid-1"⟩
  timestamp := 1000
  nonce := "6e31"
  mac := "6fd50cb220c1fa1d49d835ef9794d90ce760f863c7bc8447a7cabc20c854b165"

def laterHello : Hello where
  protocol := "atomic-usb/1"
  device := "usb-cam"
  claim := ⟨"default", "cam-claim", "uid-1"⟩
  timestamp := 1121
  nonce := "6e32"
  mac := "71f277baa53a475074c7bbe4c3885772e2e376a9c2aeb1d73499d57ea03d18a6"

def helloHmac (key message : List UInt8) : List UInt8 :=
  if key = Text.bytes "secret" ∧ message = firstHello.macInput then
    [0x6f, 0xd5, 0x0c, 0xb2, 0x20, 0xc1, 0xfa, 0x1d, 0x49, 0xd8, 0x35, 0xef, 0x97, 0x94, 0xd9, 0x0c,
      0xe7, 0x60, 0xf8, 0x63, 0xc7, 0xbc, 0x84, 0x47, 0xa7, 0xca, 0xbc, 0x20, 0xc8, 0x54, 0xb1,
      0x65]
  else if key = Text.bytes "secret" ∧ message = laterHello.macInput then
    [0x71, 0xf2, 0x77, 0xba, 0xa5, 0x3a, 0x47, 0x50, 0x74, 0xc7, 0xbb, 0xe4, 0xc3, 0x88, 0x57, 0x72,
      0xe2, 0xe3, 0x76, 0xa9, 0xc2, 0xae, 0xb1, 0xd7, 0x34, 0x99, 0xd5, 0x7e, 0xa0, 0x3d, 0x18,
      0xa6]
  else []

example : firstHello.verify helloHmac (Text.bytes "secret") 1120 = .ok () := by decide +kernel

/-- Remembers nonces for the skew window, each with the timestamp of its hello. -/
structure NonceCache where
  seen : String → Option Int64

namespace NonceCache

def empty : NonceCache := ⟨fun _ => none⟩

/-- Forget what is outside the window around `now`. -/
def retain (c : NonceCache) (now : Int64) : NonceCache :=
  ⟨fun nonce => (c.seen nonce).filter fun ts => withinSkew now ts⟩

def checkAndInsert (c : NonceCache) (nonce : String) (timestamp now : Int64) :
    Except AuthError Unit × NonceCache :=
  let c := c.retain now
  if (c.seen nonce).isSome then (.error .replay, c)
  else (.ok (), ⟨Function.update c.seen nonce (some timestamp)⟩)

end NonceCache

/-! ## Time -/

/-- A reading of the wall clock.  `jiff::Timestamp` covers the years -9999 to 9999. -/
structure Timestamp where
  asSecond : Int64
  inRange : -377705023201 ≤ asSecond.toInt ∧ asSecond.toInt ≤ 253402207200

lemma Int64.toInt_abs (x : Int64) :
    x.abs.toInt = if x.toInt = -2 ^ 63 then -2 ^ 63 else |x.toInt| := by
  have habs : x.abs.toInt = x.toBitVec.abs.toInt := rfl
  have hmin : x.toBitVec = BitVec.intMin 64 ↔ x.toInt = -2 ^ 63 := by
    rw [← BitVec.toInt_inj]
    rfl
  rw [habs, BitVec.toInt_abs_eq_natAbs]
  by_cases hx : x.toInt = -2 ^ 63
  · rw [if_pos (hmin.mpr hx), if_pos hx]
    rfl
  · rw [if_neg (fun h => hx (hmin.mp h)), if_neg hx, Int.abs_eq_natAbs]
    rfl

/-- The window without machine arithmetic: besides the intended timestamps it has those at which
the difference overflows to the smallest `i64`, whose absolute value is itself. -/
lemma withinSkew_iff (now : Timestamp) (ts : Int64) :
    withinSkew now.asSecond ts = true ↔
      |now.asSecond.toInt - ts.toInt| ≤ 120 ∨ |now.asSecond.toInt - ts.toInt| = 2 ^ 63 := by
  have hnow := now.inRange
  have hmin := ts.minValue_le_toInt
  have hmax := ts.toInt_lt
  have hskew : maxClockSkewSecs.toInt = 120 := rfl
  rw [withinSkew, decide_eq_true_eq, Int64.le_iff_toInt_le, Int64.toInt_abs, Int64.toInt_sub,
    hskew, Int.bmod_def, abs_eq_max_neg, abs_eq_max_neg]
  simp only [Int64.toInt_minValue] at hmin
  split_ifs <;> omega

/-- Between two moments at which a timestamp is acceptable it is acceptable throughout. -/
lemma withinSkew_between {t₁ t t₂ : Timestamp} {ts : Int64}
    (h₁ : withinSkew t₁.asSecond ts = true) (h₂ : withinSkew t₂.asSecond ts = true)
    (hle₁ : t₁.asSecond.toInt ≤ t.asSecond.toInt) (hle₂ : t.asSecond.toInt ≤ t₂.asSecond.toInt) :
    withinSkew t.asSecond ts = true := by
  rw [withinSkew_iff, abs_eq_max_neg] at h₁ h₂ ⊢
  have hr₁ := t₁.inRange
  have hr₂ := t₂.inRange
  omega

end AtomicUsb
