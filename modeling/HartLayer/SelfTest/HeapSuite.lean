import HartLayer.SelfTest.Rig

/-!
# Self tests of the heap

The heap of the rig gets its area when the first case needs it and keeps it from then on.
-/

namespace HartLayer.SelfTest.HeapSuite

def area : Area := ⟨0x7b0000000000, 0x7b0000004000⟩

def arenaSize : Nat := 16 * 1024

/-- Gives the heap its area, unless it has one. -/
def ready : Check Unit :=
  ExceptT.lift (modify fun (r : Rig) =>
    match r.heap.init area with
    | .ok heap => { r with heap }
    | .error _ => r)

/-- A layout; a body that asks for an impossible one fails. -/
def layout (size align : Nat) : Check Layout :=
  match Layout.new? size align with
  | some l => pure l
  | none => throw .fail

def alloc (l : Layout) : Check (Option Nat) :=
  ExceptT.lift (modifyGet fun (r : Rig) =>
    let (a, heap) := r.heap.alloc l
    (a, { r with heap }))

def dealloc (a : Option Nat) (l : Layout) : Check Unit :=
  ExceptT.lift (modify fun (r : Rig) => { r with heap := r.heap.dealloc a l })

/-- A block can be allocated and freed, and then allocated again. -/
def singleAllocDealloc : Case Rig :=
  check "single_alloc_dealloc" "Test a single allocation and deallocation" do
    ready
    let l ← layout 100 8
    let a ← alloc l
    .require a.isSome "allocation failed unexpectedly"
    let addr := (a.getD 0).toUInt64
    .require (area.contains addr) s!"block {Word.hex addr} outside the arena"
    dealloc a l
    let again ← alloc l
    .require again.isSome "re-allocation failed after free"
    dealloc again l

def sizes : List Nat := [32, 64, 128, 256, 512, 1024]

/-- Allocates blocks of given sizes behind those allocated before. If one cannot be allocated, all
of those before are freed. -/
def allocAll (done : List (Option Nat × Layout)) :
    List Nat → Check (List (Option Nat × Layout))
  | [] => return done
  | size :: rest => do
    let l ← layout size (min size 64)
    match ← alloc l with
    | none =>
      Check.println s!"  FAIL: allocation of {size} bytes failed"
      done.forM fun (b, l) => dealloc b l
      throw .fail
    | some a =>
      .require (a % l.align = 0) s!"block of {size} bytes misaligned"
      allocAll (done ++ [(some a, l)]) rest

/-- Blocks of several sizes can live side by side and leave nothing behind. -/
def variousSizes : Case Rig :=
  check "various_sizes" "Test allocations of several sizes and alignments" do
    ready
    let blocks ← allocAll [] sizes
    blocks.forM fun (b, l) => dealloc b l
    let usage := (← Check.rig).heap.usage
    .require (usage.map (·.2.1) = some 0) "memory still in use after freeing every block"

/-- A block larger than the area cannot be allocated. -/
def outOfMemory : Case Rig :=
  check "out_of_memory" "Test behavior when memory is exhausted" do
    ready
    let a ← alloc (← layout (arenaSize * 2) 8)
    .require a.isNone "allocator handed out more memory than it has"

/-- A heap takes one area only. -/
def doubleInit : Case Rig :=
  check "double_init" "Test that the heap refuses a second area" do
    ready
    let result := (← Check.rig).heap.init area
    let text := match result with
      | .ok _ => "Ok(())"
      | .error e => "Err(" ++ e.describe ++ ")"
    let refused := match result with
      | .error .heapAlreadyInitialized => true
      | _ => false
    .require refused ("second init returned " ++ text)

def cases : List (Case Rig) := [singleAllocDealloc, variousSizes, outOfMemory, doubleInit]

def run : Attempt (Session Rig) Unit := Session.runSuite "TRM Heap" cases

end HartLayer.SelfTest.HeapSuite
