import HartLayer.Area

/-!
# The memory map

Where physical memory lies, which part of it the heap gets, and the addresses of three places in the
kernel's code: the entry of the trap path, the call instruction, and the function of the threads.
-/

namespace HartLayer.MemoryMap

def ramBase : Word := 0x80000000

def ramSize : Word := 0x10000000

def ramEnd : Word := ramBase + ramSize

/-- The entry of the trap path, which initialisation installs as the vector. -/
def trapEntry : Word := 0x80000400

def callSite : Word := 0x80001000

def threadEntry : Word := 0x80002000

/-- Where the stacks of threads lie, in the image of the kernel. -/
def threadStacks : Word := 0x80100000

def imageEnd : Word := 0x80200000

/-- The memory behind the image, which is all for the heap. -/
def heapArea : Area := ⟨imageEnd, ramEnd⟩

def stackSize : Word := 16384

/-- The stack of the thread in a slot. -/
def threadStack (slot : Word) : Area :=
  let start := threadStacks + stackSize * slot
  ⟨start, start + stackSize⟩

end HartLayer.MemoryMap
