import HartLayer.Text.Record

/-!
# Rings

A `Ring` keeps the newest `n` of the items that were pushed. Its slots are used in turn: `head` is
the slot that the next item takes, and the oldest item lies `count` slots before it. A `Cursor`
walks a ring from the oldest item to the newest.
-/

namespace HartLayer

/-- The newest `n` items of a history, in `n` slots that are reused in turn. -/
structure Ring (α : Type) (n : Nat) where
  slots : Vector (Option α) n
  head : Nat
  count : Nat
  deriving DecidableEq, Repr

namespace Ring

variable {α : Type} {n : Nat}

def empty : Ring α n := ⟨Vector.replicate n none, 0, 0⟩

instance : Inhabited (Ring α n) := ⟨empty⟩

/-- What a slot holds. -/
def slot (r : Ring α n) (i : Nat) : Option α := r.slots[i]?.join

/-- Puts an item into the slot at the head. In a full ring that slot holds the oldest item. -/
def push (r : Ring α n) (a : α) : Ring α n where
  slots := r.slots.setIfInBounds r.head (some a)
  head := (r.head + 1) % n
  count := if r.count < n then r.count + 1 else r.count

def size (r : Ring α n) : Nat := r.count

def isEmpty (r : Ring α n) : Bool := r.count = 0

def back? (r : Ring α n) : Option α :=
  if r.isEmpty then none else r.slot ((r.head + n - 1) % n)

/-- The slot of the oldest item. -/
def tail (r : Ring α n) : Nat := (r.head + n - r.count) % n

/-- A place in a ring: the slot to read next and the number of items still to come. -/
structure Cursor (α : Type) (n : Nat) where
  ring : Ring α n
  index : Nat
  remaining : Nat

/-- The place before the oldest item. -/
def cursor (r : Ring α n) : Cursor α n := ⟨r, r.tail, r.count⟩

/-- The next item, if there is one, and the place behind it. -/
def Cursor.next (c : Cursor α n) : Option α × Cursor α n :=
  match c.remaining with
  | 0 => (none, c)
  | k + 1 => (c.ring.slot c.index, { c with index := (c.index + 1) % n, remaining := k })

/-- The items from `index` on, at most `k` of them, up to the first slot that holds none. -/
def itemsFrom (r : Ring α n) (index : Nat) : Nat → List α
  | 0 => []
  | k + 1 =>
    match r.slot index with
    | none => []
    | some a => a :: itemsFrom r ((index + 1) % n) k

/-- The items, the oldest one first. -/
def toList (r : Ring α n) : List α := r.itemsFrom r.tail r.count

/-- The place that is reached when every item has been taken. -/
def Cursor.skip (c : Cursor α n) : Nat → Cursor α n
  | 0 => c
  | k + 1 => c.next.2.skip k

/-- A ring on one line. -/
def describe (text : α → String) (r : Ring α n) : String :=
  Text.list (r.toList.map text)

/-- A ring with one item a line. -/
def describeLines (text : α → String) (r : Ring α n) : String :=
  Text.listLines (r.toList.map text)

/-- A ring filled with a list of items, the first one pushed first. -/
def ofList (items : List α) : Ring α n := items.foldl push empty

end Ring

end HartLayer
