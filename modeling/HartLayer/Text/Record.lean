/-!
# Records and lists as text

A record or a list is written on one line, or with one entry a line, indented by four blanks and
followed by a comma.
-/

namespace HartLayer.Text

def record (name : String) (fields : List (String × String)) : String :=
  name ++ " \x7b " ++ String.intercalate ", " (fields.map fun (k, v) => k ++ ": " ++ v) ++ " \x7d"

/-- A record with one field a line. -/
def recordLines (name : String) (fields : List (String × String)) : String :=
  name ++ " \x7b\n" ++
    String.join (fields.map fun (k, v) => "    " ++ k ++ ": " ++ v ++ ",\n") ++ "\x7d"

def list (items : List String) : String :=
  "[" ++ String.intercalate ", " items ++ "]"

/-- A list with one entry a line. The empty list stays on one line. -/
def listLines (items : List String) : String :=
  if items.isEmpty then "[]"
  else "[\n" ++ String.join (items.map fun v => "    " ++ v ++ ",\n") ++ "]"

end HartLayer.Text
