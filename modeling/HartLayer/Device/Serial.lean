import HartLayer.Device.Access

/-!
# The serial line

Every byte is one write to the data register.
-/

namespace HartLayer.Serial

def putByte (b : UInt8) : Routine Unit :=
  Routine.access (.write8 DeviceMap.serial b)

def putBytes : List UInt8 → Routine Unit
  | [] => .done ()
  | b :: bs => do
    putByte b
    putBytes bs

/-- Sends a text in UTF-8. -/
def put (text : String) : Routine Unit :=
  putBytes text.toUTF8.data.toList

end HartLayer.Serial
