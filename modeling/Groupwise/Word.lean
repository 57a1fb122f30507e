/-!
# Words

Counters, sizes and random numbers are natural numbers that fit into words of 64 bits, some of them
into halves of 32 bits. A sum or a product that does not fit is an overflow. A program is built
either to stop there, or to go on with the lower 64 bits of the result.
-/

namespace Groupwise

/-- Words are below this bound. -/
def wordBound : Nat := 0x10000000000000000

/-- Halves of words are below this bound. -/
def halfBound : Nat := 0x100000000

/-- The most elements of so many bytes that a list can have: all of its bytes are counted in 63
bits. -/
def listCapacity (bytes : Nat) : Nat := 0x7fffffffffffffff / bytes

/-- What a program does at an overflow. -/
inductive Overflow
  | stops
  | wraps
deriving DecidableEq, Repr

/-- Why a program was stopped. -/
inductive Trap
  | addition
  | multiplication
  | divisionByZero
  /-- A list is longer than any memory. -/
  | capacity
deriving DecidableEq, Repr

def Trap.message : Trap → String
  | addition => "attempt to add with overflow"
  | multiplication => "attempt to multiply with overflow"
  | divisionByZero => "attempt to divide by zero"
  | capacity => "capacity overflow"

namespace Overflow

/-- The word that stands for `n`. -/
def word (o : Overflow) (trap : Trap) (n : Nat) : Except Trap Nat :=
  if n < wordBound then .ok n
  else match o with
    | stops => .error trap
    | wraps => .ok (n % wordBound)

def add (o : Overflow) (a b : Nat) : Except Trap Nat := o.word .addition (a + b)

def mul (o : Overflow) (a b : Nat) : Except Trap Nat := o.word .multiplication (a * b)

end Overflow

end Groupwise
