import HartLayer.Word

/-!
# Address ranges

An `Area` is a half-open range of addresses. One built by hand may be inverted; it then has size
zero and contains nothing. `Area.new?` refuses such a range.
-/

namespace HartLayer

/-- What the calls that set up memory refuse. -/
inductive ResourceError where
  | invalidArea (start stop : Word)
  | heapAlreadyInitialized
  | heapTooSmall (size : Word)
  deriving DecidableEq, Repr

namespace ResourceError

def message : ResourceError → String
  | invalidArea start stop =>
    s!"Invalid area: end {Word.hex stop} lies below start {Word.hex start}."
  | heapAlreadyInitialized => "The TRM heap has already been initialized."
  | heapTooSmall size => s!"Heap area of {Word.decimal size} bytes is too small."

def name : ResourceError → String
  | invalidArea _ _ => "InvalidArea"
  | heapAlreadyInitialized => "HeapAlreadyInitialized"
  | heapTooSmall _ => "HeapTooSmall"

def describe : ResourceError → String
  | e@(invalidArea start stop) =>
    s!"{e.name} \x7b start: {Word.decimal start}, end: {Word.decimal stop} \x7d"
  | e@heapAlreadyInitialized => e.name
  | e@(heapTooSmall size) => s!"{e.name} \x7b size: {Word.decimal size} \x7d"

end ResourceError

/-- The addresses from `start` up to, but not including, `stop`. -/
structure Area where
  start : Word
  stop : Word
  deriving DecidableEq, Repr

namespace Area

/-- An area whose end does not lie below its start. -/
def new? (start stop : Word) : Except ResourceError Area :=
  if stop < start then .error (.invalidArea start stop) else .ok ⟨start, stop⟩

/-- The number of addresses: zero for an inverted area. -/
def size (a : Area) : Word :=
  if a.stop < a.start then 0 else a.stop - a.start

def contains (a : Area) (addr : Word) : Bool :=
  a.start ≤ addr && addr < a.stop

def describe (a : Area) : String :=
  s!"Area \x7b start: {Word.decimal a.start}, end: {Word.decimal a.stop} \x7d"

/-- The size is the distance of the ends, cut off at zero. -/
theorem toNat_size (a : Area) : a.size.toNat = a.stop.toNat - a.start.toNat := by
  unfold size
  split
  · next h => simp only [UInt64.toNat_zero]; have := UInt64.lt_iff_toNat_lt.1 h; omega
  · next h =>
    rw [UInt64.toNat_sub_of_le]
    exact UInt64.not_lt.1 h

end Area

end HartLayer
