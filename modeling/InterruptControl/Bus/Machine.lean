import InterruptControl.Bus.Board
import InterruptControl.Bus.Feed

/-!
A board with instruments: accesses are counted and, while tracing is on, recorded. The
notices of the software are always recorded; whether they are shown is decided afterwards.
Reads may be fed instead of reaching the board.

A write is recorded before it takes effect and a read after, and an access that no window
takes leaves no mark.
-/

namespace InterruptControl.Bus

/-- A recorded access. -/
inductive Access where
  | read (w : Width) (r : Region) (offset value : Nat)
  | write (w : Width) (r : Region) (offset value : Nat)
  | readSystem (r : SystemRegister) (value : Nat)
  | writeSystem (r : SystemRegister) (value : Nat)
  | barrier
deriving DecidableEq, Repr

namespace Access

open Text in
def text : Access → String
  | read w r offset value => place "r" w r offset ++ "=" ++ hex value
  | write w r offset value => place "w" w r offset ++ "=" ++ hex value
  | readSystem r value => "mrs " ++ r.name ++ "=" ++ hex value
  | writeSystem r value => "msr " ++ r.name ++ "=" ++ hex value
  | barrier => "isb"
where
  place (kind : String) (w : Width) (r : Region) (offset : Nat) : String :=
    kind ++ toString w.bytes ++ " " ++ r.name ++ "+" ++ hex offset

end Access

/-- How many accesses there were, fed ones included. -/
structure Traffic where
  reads : Nat := 0
  writes : Nat := 0
  systemReads : Nat := 0
  systemWrites : Nat := 0
  barriers : Nat := 0
deriving DecidableEq, Repr

namespace Traffic

def toList (t : Traffic) : List Nat :=
  [t.reads, t.writes, t.systemReads, t.systemWrites, t.barriers]

end Traffic

/-- What reached a controller since it was reset. -/
structure Tally where
  writes : Std.TreeMap Nat Nat := {}
  total : Nat := 0
  barriers : Nat := 0

namespace Tally

def count (t : Tally) (address : Nat) : Nat := (t.writes[address]?).getD 0

def addWrite (t : Tally) (address : Nat) : Tally :=
  { t with writes := t.writes.insert address (t.count address + 1), total := t.total + 1 }

end Tally

structure Machine where
  board : Board
  tally : Tally := {}
  feeds : Feeds := {}
  traffic : Traffic := {}
  tracing : Bool := false
  logging : Bool := false
  trace : Array Access := #[]
  log : Array Notice := #[]

namespace Machine

def record (m : Machine) (a : Access) : Machine :=
  if m.tracing then { m with trace := m.trace.push a } else m

def note (m : Machine) (n : Notice) : Machine := { m with log := m.log.push n }

/-- The notices to show: all that were recorded if logging is on by now, and none otherwise. -/
def shownLog (m : Machine) : List Notice := if m.logging then m.log.toList else []

/-- The records that were made so far are dropped. -/
def forget (m : Machine) : Machine := { m with trace := #[], log := #[] }

/-- Only writes and barriers that reach a controller count towards its tally. -/
def tallyWith (m : Machine) (f : Tally → Tally) : Machine :=
  match m.board with
  | .memory _ => m
  | .controller _ => { m with tally := f m.tally }

def countRead (m : Machine) : Machine :=
  { m with traffic := { m.traffic with reads := m.traffic.reads + 1 } }

def countWrite (m : Machine) : Machine :=
  { m with traffic := { m.traffic with writes := m.traffic.writes + 1 } }

def countSystemRead (m : Machine) : Machine :=
  { m with traffic := { m.traffic with systemReads := m.traffic.systemReads + 1 } }

def countSystemWrite (m : Machine) : Machine :=
  { m with traffic := { m.traffic with systemWrites := m.traffic.systemWrites + 1 } }

def countBarrier (m : Machine) : Machine :=
  { m with traffic := { m.traffic with barriers := m.traffic.barriers + 1 } }

def read (m : Machine) (w : Width) (address : Nat) : Except Failure (BitVec w.bits) × Machine :=
  let address := wrapAddress address
  match m.board.decode address with
  | none => (.error (.unmapped address), m)
  | some (r, offset) =>
    match m.feeds.next? (.address address) with
    | some (v, feeds) =>
      let v := v.setWidth w.bits
      (.ok v, { m with feeds := feeds }.countRead.record (.read w r offset v.toNat))
    | none =>
      let (v, board) := m.board.read r offset w
      (.ok v, { m with board := board }.countRead.record (.read w r offset v.toNat))

def write (m : Machine) (w : Width) (address : Nat) (v : BitVec w.bits) :
    Except Failure Unit × Machine :=
  let address := wrapAddress address
  match m.board.decode address with
  | none => (.error (.unmapped address), m)
  | some (r, offset) =>
    let m := (m.countWrite.record (.write w r offset v.toNat)).tallyWith (·.addWrite address)
    match m.board.write r offset w v with
    | .ok board => (.ok (), { m with board := board })
    | .error e => (.error e, m)

def readSystem (m : Machine) (r : SystemRegister) : Except Failure (BitVec 64) × Machine :=
  match m.feeds.next? (.register r) with
  | some (v, feeds) =>
    (.ok v, { m with feeds := feeds }.countSystemRead.record (.readSystem r v.toNat))
  | none =>
    match m.board.readSystem r with
    | (.ok v, board) =>
      (.ok v, { m with board := board }.countSystemRead.record (.readSystem r v.toNat))
    | (.error e, board) => (.error e, { m with board := board })

def writeSystem (m : Machine) (r : SystemRegister) (v : BitVec 64) :
    Except Failure Unit × Machine :=
  let m := m.countSystemWrite.record (.writeSystem r v.toNat)
  match m.board.writeSystem r v with
  | .ok board => (.ok (), { m with board := board })
  | .error e => (.error e, m)

def barrier (m : Machine) : Machine :=
  (m.countBarrier.record .barrier).tallyWith fun t => { t with barriers := t.barriers + 1 }

def answer : Device Machine := fun m q =>
  match q with
  | .read w address => m.read w address
  | .write w address v => m.write w address v
  | .readSystem r => m.readSystem r
  | .writeSystem r v => m.writeSystem r v
  | .barrier => (.ok (), m.barrier)
  | .notify n => (.ok (), m.note n)

end Machine

end InterruptControl.Bus
