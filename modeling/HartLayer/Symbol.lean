import HartLayer.Word

/-!
# Code addresses

Some addresses that appear in frames are those of code: the place a thread returns to, the call that
yields, the entry of the trap path, and entry functions of threads. A `CodeMap` says where the code
lies. The address of a symbol is written by its name (`CodeMap.render`), so the code is placed far
from the words that a run may print (`CodeMap.avoiding`).
-/

namespace HartLayer

/-- Code that can stand in a frame or in a trap vector. -/
inductive Symbol where
  | threadExit
  | yieldNow
  | trapBridge
  | entryLog
  | entryYield
  | entryHalt
  deriving DecidableEq, Repr

namespace Symbol

def all : List Symbol := [threadExit, yieldNow, trapBridge, entryLog, entryYield, entryHalt]

def name : Symbol → String
  | threadExit => "thread_exit_trampoline"
  | yieldNow => "yield_now"
  | trapBridge => "__nt_irq_handle"
  | entryLog => "log"
  | entryYield => "yield"
  | entryHalt => "halt"

/-- The place of a symbol in the code. -/
def index : Symbol → Word
  | threadExit => 0
  | yieldNow => 1
  | trapBridge => 2
  | entryLog => 3
  | entryYield => 4
  | entryHalt => 5

end Symbol

/-- An address that is given as it is, or as that of some code. -/
inductive CodeRef where
  | address (w : Word)
  | symbol (s : Symbol)
  deriving DecidableEq, Repr

def CodeRef.words : CodeRef → List Word
  | address w => [w]
  | symbol _ => []

/-- Where the code lies. Its symbols follow each other 256 bytes apart. -/
structure CodeMap where
  base : Word
  deriving DecidableEq, Repr

namespace CodeMap

/-- The place of the code where no words have to be avoided. -/
def standard : CodeMap := ⟨0x5d1c6e400000⟩

instance : Inhabited CodeMap := ⟨standard⟩

def address (m : CodeMap) (s : Symbol) : Word := m.base + 0x100 * s.index

def resolve (m : CodeMap) : CodeRef → Word
  | .address w => w
  | .symbol s => m.address s

/-- The symbol that an address belongs to: its own address or one of the 15 behind it. -/
def symbolAt? (m : CodeMap) (w : Word) : Option Symbol :=
  Symbol.all.find? fun s => w - m.address s < 16

/-- An address as text: by name if it belongs to a symbol, else in hexadecimal. -/
def render (m : CodeMap) (w : Word) : String :=
  match m.symbolAt? w with
  | none => Word.hex w
  | some s => "@" ++ s.name ++ if w = m.address s then "" else "+" ++ Word.hex (w - m.address s)

/-! ## Placing the code away from given words

A word that only happens to be the same number as a code address would be written by name, too. -/

/-- How far the code keeps away from a word. An execution may move such a word a little. -/
def margin : Word := 0x10000000000

/-- Whether a word is far from the code, below it or behind it. -/
def isClearOf (m : CodeMap) (w : Word) : Bool := 2 * margin ≤ w - (m.base - margin)

/-- A series of places for the code, four margins apart. -/
def candidate (k : Nat) : CodeMap := ⟨standard.base + 4 * margin * k.toUInt64⟩

/-- A place for the code that is far from all given words. -/
def avoiding (used : List Word) : CodeMap :=
  let places := (List.range (used.length + 1)).map candidate
  (places.find? fun m => used.all m.isClearOf).getD standard

end CodeMap

end HartLayer
