/-!
Formatted output through a buffer of fixed size. A line is cut so that it leaves room for
the terminating zero, and ends at a zero byte of its own.
-/

namespace InterruptControl.Console

def bufferSize : Nat := 512

/-- The bytes that reach the output. -/
def clip (bytes : List UInt8) : List UInt8 := (bytes.takeWhile (· ≠ 0)).take (bufferSize - 1)

/-- What a call reports, and what was handed to the output if one is installed. -/
structure Printed where
  written : Nat
  received : List (List UInt8)

def print (connected : Bool) (bytes : List UInt8) : Printed :=
  let line := clip bytes
  ⟨line.length, if connected then [line] else []⟩

/-- Prints `text` repeated `times` times. -/
def printText (connected : Bool) (text : String) (times : Nat) : Printed :=
  print connected ((List.replicate times text.toUTF8.toList).flatten)

end InterruptControl.Console
