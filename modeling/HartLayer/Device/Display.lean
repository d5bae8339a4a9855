import HartLayer.Device.Access

/-!
# The display

The control word gives the size of the screen. Pixels are 32-bit words in rows from the start of
the framebuffer. A rectangle is drawn row by row; the addresses are computed with checks, in the
order in which the products and sums stand here, so a drawing that leaves the address space stops
with the overflow after the pixels that still had an address.
-/

namespace HartLayer.Display

/-- The size of a screen in pixels. -/
structure Screen where
  width : UInt32
  height : UInt32
  deriving DecidableEq, Repr

/-- Where the device is told to show the framebuffer. -/
def syncAddress : Word := DeviceMap.display + 4

/-- Whether the display accepts a drawing. It always does. -/
def ready : Routine Bool := .done true

/-- The screen that a control word describes: the width in the low half, the height in the high
half. -/
def Screen.ofControl (control : UInt32) : Screen :=
  ⟨control &&& 0xffff, control >>> 16⟩

def screen : Routine Screen := do
  return .ofControl (← Routine.access (.read32 DeviceMap.display))

/-- The size of the framebuffer in bytes. -/
def Screen.memorySize (s : Screen) : Except Overflow Word := do
  let pixels ← Word.checkedMul s.width.toUInt64 s.height.toUInt64
  Word.checkedMul pixels 4

/-- A rectangle of pixels to be drawn, `w` pixels a row; `none` draws nothing. -/
structure Drawing where
  x : UInt32
  y : UInt32
  w : UInt32
  h : UInt32
  pixels : Option (List UInt32)
  sync : Bool
  deriving DecidableEq, Repr

/-- At most `h` rows of `w` pixels; the last one may be shorter. -/
def rows (w : Nat) : Nat → List UInt32 → List (List UInt32)
  | 0, _ => []
  | _ + 1, [] => []
  | h + 1, p :: ps => (p :: ps).take w :: rows w h ((p :: ps).drop w)

/-- The address of a pixel of a line that starts at `line`. -/
def pixelAddress (line : Word) (j : Nat) : Except Overflow Word := do
  let offset ← Word.checkedMul 4 j.toUInt64
  Word.checkedAdd line offset

/-- The address where row `i` of a drawing starts. -/
def lineAddress (s : Screen) (d : Drawing) (i : Nat) : Except Overflow Word := do
  let row ← Word.checkedAdd d.y.toUInt64 i.toUInt64
  let start ← Word.checkedMul s.width.toUInt64 row
  let start ← Word.checkedAdd start d.x.toUInt64
  let offset ← Word.checkedMul 4 start
  Word.checkedAdd DeviceMap.framebuffer offset

/-- Draws the pixels of one row, from pixel `j` of the row on. -/
def drawPixels (line : Word) : Nat → List UInt32 → Routine Unit
  | _, [] => .done ()
  | j, p :: ps => do
    let a ← Routine.checked (pixelAddress line j)
    Routine.access (.write32 a p)
    drawPixels line (j + 1) ps

/-- Draws rows, from row `i` of the drawing on. -/
def drawRows (s : Screen) (d : Drawing) : Nat → List (List UInt32) → Routine Unit
  | _, [] => .done ()
  | i, row :: rest => do
    let line ← Routine.checked (lineAddress s d i)
    drawPixels line 0 row
    drawRows s d (i + 1) rest

/-- Draws a rectangle and, if asked to, has the device show it. Nothing is cut off at the edges of
the screen. A rectangle without width has no pixels. -/
def draw (s : Screen) (d : Drawing) : Routine Unit := do
  match d.pixels with
  | none => pure ()
  | some pixels =>
    if 0 < d.w then drawRows s d 0 (rows d.w.toNat d.h.toNat pixels)
  if d.sync then Routine.access (.write32 syncAddress 1)

end HartLayer.Display
