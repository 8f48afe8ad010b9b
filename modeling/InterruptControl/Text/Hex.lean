/-!
Hexadecimal text. Answers write every number with its mark; messages leave the mark out
for zero.
-/

namespace InterruptControl.Text

def hexDigits (n : Nat) : String := String.ofList (Nat.toDigits 16 n)

/-- Lower case digits after the mark `0x`, none of them a leading zero. -/
def hex (n : Nat) : String := "0x" ++ hexDigits n

/-- As `hex`, but zero is a bare digit. -/
def hexInMessage (n : Nat) : String := if n = 0 then "0" else hex n

/-- Right aligned in a field of at least `n` characters. -/
def alignRight (n : Nat) (s : String) : String :=
  String.ofList (List.replicate (n - s.length) ' ') ++ s

end InterruptControl.Text
