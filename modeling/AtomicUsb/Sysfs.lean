import Mathlib.Data.Nat.Notation

/-!
# USB devices as the kernel sees them
-/

namespace AtomicUsb

/-- A physical USB device as seen by the kernel on this node (`UsbDeviceInfo`). -/
structure UsbDeviceInfo where
  /-- Kernel device name, which is the physical port path, e.g. `3-1.4`. -/
  portPath : String
  busNum : ℕ
  devNum : ℕ
  /-- Lowercase 4-digit hex. -/
  vendorId : String
  productId : String
  serial : Option String
  manufacturer : Option String
  product : Option String
  /-- Device release number, e.g. `0264`. -/
  bcdDevice : Option String
  deviceClass : UInt8
  interfaceClasses : List UInt8
  /-- Negotiated speed in Mbit/s as reported by the kernel. -/
  speed : Option String
  deriving DecidableEq

/-- Argument for `usbredirect --device`: `BUS-DEVNUM`. -/
def UsbDeviceInfo.busDev (d : UsbDeviceInfo) : String := s!"{d.busNum}-{d.devNum}"

end AtomicUsb
