import InterruptControl.Failure

/-!
Interrupt numbers. A number is a 32-bit word; the architecture divides the words into
ranges, and words between the ranges belong to no interrupt.
-/

namespace InterruptControl

/-- The architectural ranges of interrupt numbers. -/
inductive Category where
  | sgi
  | ppi
  | spi
  | special
  | extendedPpi
  | extendedSpi
  | lpi
deriving DecidableEq, Repr

namespace Category

/-- The first number of the range. -/
def first : Category → Nat
  | sgi => 0
  | ppi => 16
  | spi => 32
  | special => 1020
  | extendedPpi => 1056
  | extendedSpi => 4096
  | lpi => 8192

/-- How many numbers the range holds. -/
def size : Category → Nat
  | sgi => 16
  | ppi => 16
  | spi => 988
  | special => 4
  | extendedPpi => 64
  | extendedSpi => 1024
  | lpi => 0x100000000 - 8192

def contains (c : Category) (n : Nat) : Bool := decide (c.first ≤ n) && decide (n < c.first + c.size)

/-- In the order of the numbers. -/
def all : List Category := [sgi, ppi, spi, special, extendedPpi, extendedSpi, lpi]

def name : Category → String
  | sgi => "sgi"
  | ppi => "ppi"
  | spi => "spi"
  | special => "special"
  | extendedPpi => "eppi"
  | extendedSpi => "espi"
  | lpi => "lpi"

end Category

/-- An interrupt number. -/
structure IntId where
  raw : BitVec 32
deriving DecidableEq, Repr

namespace IntId

def number (i : IntId) : Nat := i.raw.toNat

def ofNat (n : Nat) : IntId := ⟨BitVec.ofNat 32 n⟩

/-- The number that an acknowledge reads when nothing is pending. -/
def spurious : IntId := ⟨1023⟩

instance : Inhabited IntId := ⟨spurious⟩

def is (i : IntId) (c : Category) : Bool := c.contains i.number

def isSgi (i : IntId) : Bool := i.is .sgi
def isPpi (i : IntId) : Bool := i.is .ppi
def isSpi (i : IntId) : Bool := i.is .spi
def isSpecial (i : IntId) : Bool := i.is .special
def isExtendedPpi (i : IntId) : Bool := i.is .extendedPpi
def isExtendedSpi (i : IntId) : Bool := i.is .extendedSpi
def isLpi (i : IntId) : Bool := i.is .lpi

/-- Each core has its own copy of these interrupts. -/
def isPrivate (i : IntId) : Bool := i.isSgi || i.isPpi || i.isExtendedPpi

/-- The ranges that the number lies in, at most one. -/
def categories (i : IntId) : List Category := Category.all.filter i.is

/-- The number lies in some range. -/
def isValid (i : IntId) : Bool := Category.all.any i.is

/-- The `n`-th number of a range. -/
def nth? (c : Category) (n : Nat) : Option IntId :=
  if n < c.size then some (ofNat (c.first + n)) else none

/-- The number as an identifier, if it lies in a range. -/
def ofRaw? (raw : BitVec 32) : Except Refusal IntId :=
  if (IntId.mk raw).isValid then .ok ⟨raw⟩ else .error .idOutOfRange

/-- One of several numbers that are read in turn: whether it was accepted, what is held
after it, and whether that is the number read before it. -/
structure Reading where
  outcome : Except Refusal Unit
  held : IntId
  repeated : Bool

/-- A number that is refused leaves what is held as it is. -/
def readFrom (held : IntId) (last : Option (BitVec 32)) : List (BitVec 32) → List Reading
  | [] => []
  | raw :: rest =>
    let r := ofRaw? raw
    let held := r.toOption.getD held
    let repeated := (last.map fun v => held.raw == v).getD true
    ⟨r.map fun _ => (), held, repeated⟩ :: readFrom held (some raw) rest

/-- The spurious number is held at first. -/
def readAll (raws : List (BitVec 32)) : List Reading := readFrom .spurious none raws

end IntId

inductive Trigger where
  | edge
  | level
deriving DecidableEq, Repr

namespace Trigger

def name : Trigger → String
  | edge => "edge"
  | level => "level"

def isEdge : Trigger → Bool
  | edge => true
  | level => false

def ofIsEdge (edge : Bool) : Trigger := if edge then .edge else .level

end Trigger

/-- Zero is the highest priority. -/
abbrev Priority := BitVec 8

def Priority.default : Priority := 0xa0

/-- A priority mask that lets every priority but the lowest pass. -/
def Priority.allowAll : Priority := 0xff

/-- An acknowledged interrupt. Only a banked controller says which core sent an SGI. -/
structure Ack where
  id : IntId := .spurious
  source : Option (BitVec 32) := none
deriving DecidableEq, Repr, Inhabited

namespace Ack

/-- The number of the source, the largest word standing for none. -/
def ofParts (id : IntId) (source : BitVec 32) : Ack :=
  ⟨id, if source = .allOnes 32 then none else some source⟩

end Ack

end InterruptControl
