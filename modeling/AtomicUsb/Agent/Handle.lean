import AtomicUsb.Agent.Serve
import AtomicUsb.Foundation.History
import AtomicUsb.Proto.Wire
import AtomicUsb.Psk

/-!
# Handling a connection

What the exporter does for one connection: read a hello, authorize it, register a session, serve the
device under its lock (`session`, of `Agent/Serve.lean`), and take the registration back.  What the
program asks of its surroundings is a `HandleCall`; the answers are arbitrary, so that a run is one
with any peer, any key, any lease and any other handler.

Logging and the socket options of `tune_tcp` are left out.
-/

namespace AtomicUsb

/-! ## The program -/

inductive HandleCall
  /-- Read the hello, waiting for so many milliseconds. -/
  | readHello (millis : ℕ)
  | fs (call : FsCall)
  | now
  /-- `check_and_insert`, under the lock of the nonce cache. -/
  | checkNonce (nonce : String) (timestamp now : Int64)
  | localDevice (name : String)
  | getDevice (name : String)
  | beginSession (hello : Hello) (device : UsbDeviceInfo)
  /-- For the connection alone, or for the session on it: its device and its id. -/
  | os (session : Option (String × ℕ)) (call : OsCall)
  | endSession (device : String) (id : ℕ)

/-- `none` is a timeout. -/
abbrev HandleCall.Answer : HandleCall → Type
  | .readHello _ => Option (Except IoError Hello)
  | .fs call => call.Answer
  | .now => Timestamp
  | .checkNonce _ _ _ => Except AuthError Unit
  | .localDevice _ => Option UsbDeviceInfo
  | .getDevice _ => Except String (Option DeviceBody)
  | .beginSession _ _ => ℕ
  | .os _ call => call.Answer
  | .endSession _ _ => Unit

abbrev HandleProg := Prog HandleCall HandleCall.Answer

abbrev HandleEvent := Prog.Event HandleCall HandleCall.Answer

/-- What the exporter is run with, and the files it uses. -/
structure HandleContext extends ExporterContext where
  pskFile : String
  usbredirect : String

namespace Handle

def call (c : HandleCall) : HandleProg c.Answer := Prog.perform c

def onFs {α : Type} (p : FsProg α) : HandleProg α := p.embed HandleCall.fs fun _ answer => answer

/-- On the connection, for a session if there is one. -/
def onOs {α : Type} (session : Option (String × ℕ)) (p : OsProg α) : HandleProg α :=
  p.embed (HandleCall.os session) fun _ answer => answer

def handshakeTimeout : ℕ := 10000

variable (ctx : HandleContext)

/-- `authorize` from where the lease is read. -/
def authorizeLease (hello : Hello) (device : UsbDeviceInfo) :
    HandleProg (Except String UsbDeviceInfo) := do
  let object ← call (.getDevice hello.device)
  pure ((checkLease hello object).map fun _ => device)

/-- `authorize` from where the device is looked up. -/
def authorizeLocal (hello : Hello) : HandleProg (Except String UsbDeviceInfo) := do
  match ← call (.localDevice hello.device) with
  | none => pure (.error s!"device {hello.device} is not plugged into node {ctx.node}")
  | some device => authorizeLease hello device

/-- `authorize` from where the nonce is looked up. -/
def authorizeNonce (hello : Hello) (now : Timestamp) :
    HandleProg (Except String UsbDeviceInfo) := do
  match ← call (.checkNonce hello.nonce hello.timestamp now.asSecond) with
  | .error e => pure (.error (e.display ctx.rt))
  | .ok () => authorizeLocal ctx hello

/-- `authorize` from where the hello is verified, or is not. -/
def authorizeVerified (hello : Hello) (now : Timestamp) :
    Except String Unit → HandleProg (Except String UsbDeviceInfo)
  | .error e => pure (.error e)
  | .ok () => authorizeNonce ctx hello now

/-- `authorize` with a key. -/
def authorizeKeyed (hello : Hello) (psk : List UInt8) :
    HandleProg (Except String UsbDeviceInfo) := do
  let now ← call .now
  authorizeVerified ctx hello now (authenticate ctx.toExporterContext hello (.ok psk) now)

/-- `authorize` from where there is a key, or none. -/
def authorizeRead (hello : Hello) :
    Except String (List UInt8) → HandleProg (Except String UsbDeviceInfo)
  | .error e => pure (.error s!"exporter misconfigured: {e}")
  | .ok psk => authorizeKeyed ctx hello psk

def authorize (hello : Hello) : HandleProg (Except String UsbDeviceInfo) := do
  authorizeRead ctx hello (← onFs (readPsk ctx.pskFile))

/-- `handle` from where the session is over. -/
def leave (hello : Hello) (id : ℕ) (result : Except String Unit) :
    HandleProg (Except String Unit) := do
  call (.endSession hello.device id)
  pure result

/-- `handle` from where the hello is authorized, or is not. -/
def serveAuthorized (hello : Hello) :
    Except String UsbDeviceInfo → HandleProg (Except String Unit)
  | .error reason => onOs none (reject reason)
  | .ok device => do
    let id ← call (.beginSession hello device)
    let result ← onOs (some (hello.device, id)) (session ctx.usbredirect device)
    leave hello id result

/-- `handle` from where a line was read, or was not. -/
def receive : Option (Except IoError Hello) → HandleProg (Except String Unit)
  | some (.ok hello) => do serveAuthorized ctx hello (← authorize ctx hello)
  | some (.error .unexpectedEof) => pure (.ok ())
  | some (.error (.invalidData e)) => onOs none (reject s!"bad handshake: {e}")
  | some (.error (.other e)) => onOs none (reject s!"bad handshake: {e}")
  | none => onOs none (reject "handshake timeout")

def handle : HandleProg (Except String Unit) := do
  receive ctx (← call (.readHello handshakeTimeout))

end Handle

end AtomicUsb
