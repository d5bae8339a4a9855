import HartLayer.Device.Access

/-!
# The scripted bus

A `Bus` answers reads from queues: the front value is taken, and the last one of a queue stays. An
address without a queue reads zero. Values are cut to the width that is read. All accesses are
recorded, and writes have no other effect.
-/

namespace HartLayer

/-- Device registers whose reads are scripted and whose accesses are recorded. -/
structure Bus where
  queues : List (Word × List Word)
  accesses : Array Access
  deriving Repr

namespace Bus

def ofQueues (queues : List (Word × List Word)) : Bus := ⟨queues, #[]⟩

def queue (b : Bus) (a : Word) : List Word := (b.queues.lookup a).getD []

/-- The queue after its front was read. -/
def shift : List Word → List Word
  | _ :: w :: rest => w :: rest
  | q => q

/-- The value that the next read of an address gets. -/
def peek (b : Bus) (a : Word) : Word := (b.queue a).headD 0

/-- The bus after an address was read. -/
def pop (b : Bus) (a : Word) : Bus :=
  { b with queues := b.queues.map fun (k, q) => if k = a then (k, shift q) else (k, q) }

def record (b : Bus) (a : Access) : Bus := { b with accesses := b.accesses.push a }

def answer : (a : Access) → Attempt Bus a.Answer
  | .read8 a => fun b => (.ok (b.peek a).toUInt8, (b.pop a).record (.read8 a))
  | .read32 a => fun b => (.ok (b.peek a).toUInt32, (b.pop a).record (.read32 a))
  | .read64 a => fun b => (.ok (b.peek a), (b.pop a).record (.read64 a))
  | .write8 a v => fun b => (.ok (), b.record (.write8 a v))
  | .write32 a v => fun b => (.ok (), b.record (.write32 a v))

end Bus

end HartLayer
