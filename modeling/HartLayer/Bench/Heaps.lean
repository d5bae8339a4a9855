import HartLayer.Heap

/-!
# Trying out heaps

Steps on one heap, whose blocks are kept by name together with their layouts.
-/

namespace HartLayer.Bench

inductive HeapStep where
  | init (a : Area)
  | alloc (name : String) (size align : Word)
  | allocZeroed (name : String) (size align : Word)
  | dealloc (name : String)
  | realloc (name : String) (size : Word)
  | fill (name : String) (b : UInt8)
  | peek (name : String) (n : Nat)
  | isInitialized

inductive HeapReply where
  | nothing
  | ok
  | refused (e : ResourceError)
  | address (a : Option Nat)
  | layoutError
  | noBlock
  | bytes (bs : List UInt8)
  | flag (b : Bool)

/-- The heap and the blocks that were handed out. -/
structure HeapBench where
  space : HeapSpace
  blocks : List (String × Option Nat × Layout)

namespace HeapBench

def start : HeapBench := ⟨.unset, []⟩

def keep (b : HeapBench) (name : String) (a : Option Nat) (l : Layout) : HeapBench :=
  { b with blocks := (name, a, l) :: b.blocks.filter (·.1 ≠ name) }

/-- Allocates a block and keeps it under a name. -/
def store (b : HeapBench) (name : String) (size align : Word)
    (alloc : HeapSpace → Layout → Option Nat × HeapSpace) : HeapReply × HeapBench :=
  match Layout.new? size.toNat align.toNat with
  | none => (.layoutError, b)
  | some l =>
    let (a, space) := alloc b.space l
    (.address a, { b with space }.keep name a l)

/-- Moves a block to another size. -/
def resize (b : HeapBench) (name : String) (a : Option Nat) (old : Layout) (size : Word) :
    HeapReply × HeapBench :=
  match Layout.new? size.toNat old.align with
  | none => (.layoutError, b)
  | some new =>
    match b.space.realloc a old new with
    | (none, space) => (.address none, { b with space })
    | (some a, space) => (.address (some a), { b with space }.keep name (some a) new)

def perform (b : HeapBench) : HeapStep → HeapReply × HeapBench
  | .init a =>
    match b.space.heap.init a with
    | .ok heap => (.ok, { b with space := { b.space with heap } })
    | .error e => (.refused e, b)
  | .alloc name size align => b.store name size align HeapSpace.alloc
  | .allocZeroed name size align => b.store name size align HeapSpace.allocZeroed
  | .isInitialized => (.flag b.space.heap.isInitialized, b)
  | .dealloc name => onBlock name fun a l =>
    (.nothing, { b with
      space := b.space.dealloc a l
      blocks := b.blocks.filter (·.1 ≠ name) })
  | .realloc name size => onBlock name fun a l => b.resize name a l size
  | .fill name v => onBlock name fun a l =>
    (.nothing, { b with space := a.elim b.space fun a => b.space.fill a l v })
  | .peek name n => onBlock name fun a _ => (.bytes (a.elim [] fun a => b.space.peek a n), b)
where
  onBlock (name : String) (f : Option Nat → Layout → HeapReply × HeapBench) :
      HeapReply × HeapBench :=
    match b.blocks.lookup name with
    | none => (.noBlock, b)
    | some (a, l) => f a l

/-- Performs steps on a heap without an area. Gives the replies, each with the usage after it. -/
def play (steps : List HeapStep) : List (HeapReply × Option (Nat × Nat × Nat)) :=
  let played : StateM HeapBench (List (HeapReply × Option (Nat × Nat × Nat))) :=
    steps.mapM fun s b =>
      let (reply, b) := b.perform s
      ((reply, b.space.heap.usage), b)
  (played.run start).1

end HeapBench

end HartLayer.Bench
