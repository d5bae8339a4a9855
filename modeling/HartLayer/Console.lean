/-!
# The console

Output is a sequence of bytes; text is written in UTF-8. A log line has a tag and a colour of its
own and ends by switching the colour off.
-/

namespace HartLayer

/-- The bytes written so far. -/
structure Console where
  bytes : Array UInt8
  deriving DecidableEq, Repr

/-- The kinds of log lines. -/
inductive LogLevel where
  | info
  | warn
  | error
  deriving DecidableEq, Repr

namespace LogLevel

def tag : LogLevel → String
  | info => "INFO"
  | warn => "WARN"
  | error => "ERROR"

def colour : LogLevel → String
  | info => "32"
  | warn => "33"
  | error => "31"

def line (level : LogLevel) (text : String) : String :=
  "\x1b[" ++ level.colour ++ "m[" ++ level.tag ++ "] " ++ text ++ "\x1b[0m\n"

end LogLevel

namespace Console

def empty : Console := ⟨#[]⟩

instance : Inhabited Console := ⟨empty⟩

def putByte (c : Console) (b : UInt8) : Console := ⟨c.bytes.push b⟩

def putBytes (c : Console) (bs : Array UInt8) : Console := ⟨c.bytes ++ bs⟩

def put (c : Console) (text : String) : Console := c.putBytes text.toUTF8.data

@[simp] theorem bytes_put (c : Console) (text : String) :
    (c.put text).bytes = c.bytes ++ text.toUTF8.data := rfl

end Console

end HartLayer
