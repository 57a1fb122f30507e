/-!
# What can be wrong with a JSON text

Reading goes from left to right, and the first fault ends it. A fault says only of which kind it
is: the text ended too soon, it is not JSON, or it is JSON that does not fit the type asked for.
-/

namespace Groupwise.Json

/-- The kinds of faults in a JSON text. -/
inductive Fault
  /-- The text ends inside a value. -/
  | ended
  /-- The text is not JSON. -/
  | malformed
  /-- A value does not fit the type that is read. -/
  | mismatch
deriving DecidableEq, Repr

/-- A reader takes a value off the front of a text. -/
abbrev Reader := StateT (List Char) (Except Fault)

namespace Reader

variable {α : Type}

/-- End the reading with a fault. -/
def fail (f : Fault) : Reader α := fun _ => .error f

/-- White space between tokens. -/
def isBlank (c : Char) : Bool := c = ' ' ∨ c = '\n' ∨ c = '\t' ∨ c = '\r'

/-- The next character behind white space, which stays unread. -/
def peek : Reader (Option Char) := fun s =>
  let rest := s.dropWhile isBlank
  .ok (rest.head?, rest)

/-- Drop the next character. -/
def advance : Reader Unit := fun s => .ok ((), s.tail)

/-- The given characters and nothing else. -/
def literal (word : List Char) : Reader Unit := fun s =>
  match word, s with
  | [], s => .ok ((), s)
  | _ :: _, [] => .error .ended
  | w :: ws, c :: cs => if c = w then literal ws cs else .error .malformed

/-- Read a whole text, white space around the value allowed. -/
def run (r : Reader α) (text : String) : Except Fault α :=
  match r text.toList with
  | .error f => .error f
  | .ok (a, rest) => if rest.all isBlank then .ok a else .error .malformed

end Reader

end Groupwise.Json
