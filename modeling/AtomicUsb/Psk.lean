import AtomicUsb.Launcher
import AtomicUsb.Proto

/-!
# The pre-shared key

Both ends of a handshake read the key from a file, anew every time, and compute a MAC with it.
`Hello.new` is the hello an attaching agent sends; `verify_new` says that every reader of the same
key finds it authentic.
-/

namespace AtomicUsb

/-- `u8::is_ascii_whitespace`. -/
def isAsciiWhitespace (b : UInt8) : Bool :=
  b == 0x20 || b == 0x09 || b == 0x0a || b == 0x0c || b == 0x0d

/-- `trim_ascii`. -/
def trimAscii (bs : List UInt8) : List UInt8 :=
  (bs.dropWhile isAsciiWhitespace).rdropWhile isAsciiWhitespace

def pskMinBytes : ℕ := 16

/-- What `read_psk` makes of the content of the file. -/
def pskOf (path : String) (raw : List UInt8) : Except String (List UInt8) :=
  if pskMinBytes ≤ (trimAscii raw).length then .ok (trimAscii raw)
  else .error s!"pre-shared key {path} is shorter than 16 bytes"

/-- Reads the pre-shared key, trimming surrounding whitespace. -/
def readPsk (path : String) : FsProg (Except String (List UInt8)) := do
  match ← fs (.read path) with
  | .error e => pure (.error s!"reading pre-shared key {path}: {e}")
  | .ok raw => pure (pskOf path raw)

/-- A hello with a fresh nonce. -/
def Hello.new (hmac : List UInt8 → List UInt8 → List UInt8) (psk : List UInt8) (device : String)
    (claim : ClaimRef) (timestamp : Int64) (random : List UInt8) : Hello :=
  let hello : Hello :=
    { protocol := AtomicUsb.protocol
      device := device
      claim := claim
      timestamp := timestamp
      nonce := String.ofList (Text.hexEncode random)
      mac := "" }
  { hello with mac := String.ofList (Text.hexEncode (hmac psk hello.macInput)) }

lemma Text.hexValue_hexDigit : ∀ n < 16, Text.hexValue (Text.hexDigit n) = some n := by decide

lemma Text.hexDecode_hexEncode (bs : List UInt8) :
    Text.hexDecode (Text.hexEncode bs) = some bs := by
  induction bs with
  | nil => rfl
  | cons b bs ih =>
      have hb := b.toNat_lt
      have hbyte : UInt8.ofNat (16 * (b.toNat / 16) + b.toNat % 16) = b := by
        rw [Nat.div_add_mod, UInt8.ofNat_toNat]
      show Text.hexDecode (Text.hexDigit (b.toNat / 16) :: Text.hexDigit (b.toNat % 16) ::
        Text.hexEncode bs) = _
      simp only [Text.hexDecode, Text.hexValue_hexDigit _ (show b.toNat / 16 < 16 by omega),
        Text.hexValue_hexDigit _ (show b.toNat % 16 < 16 by omega), ih, Option.bind_eq_bind,
        Option.bind_some, Option.pure_def, hbyte]

/-- With the same key only the clock decides. -/
lemma Hello.verify_new (hmac : List UInt8 → List UInt8 → List UInt8) (psk : List UInt8)
    (device : String) (claim : ClaimRef) (timestamp now : Int64) (random : List UInt8) :
    (Hello.new hmac psk device claim timestamp random).verify hmac psk now =
      if withinSkew now timestamp then .ok () else .error .expired := by
  have hprotocol :
      (Hello.new hmac psk device claim timestamp random).protocol = AtomicUsb.protocol := rfl
  have hdecode : Text.hexDecode (Hello.new hmac psk device claim timestamp random).mac.toList =
      some (hmac psk (Hello.new hmac psk device claim timestamp random).macInput) := by
    show Text.hexDecode (String.ofList _).toList = _
    rw [String.toList_ofList, Text.hexDecode_hexEncode]
    rfl
  have hskew : (!withinSkew now (Hello.new hmac psk device claim timestamp random).timestamp) =
      !withinSkew now timestamp := rfl
  unfold Hello.verify
  rw [if_neg fun hne => hne hprotocol, hdecode]
  dsimp only
  rw [if_neg fun hne => hne rfl, hskew]
  cases withinSkew now timestamp <;> rfl

end AtomicUsb
