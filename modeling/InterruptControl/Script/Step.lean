import InterruptControl.Bus.Machine
import InterruptControl.Gic.Basic

/-!
The steps of a script: calls of the software under test, accesses to the bus, and events of
the hardware. A handler is a script of its own: its rounds are run one by one, the next one
each time the handler is called.
-/

namespace InterruptControl.Script

open Hardware (Generation)
open Bus (Region)

/-- Where an operation on one interrupt goes to. -/
inductive BlockTarget where
  | frontEnd
  | distributor (g : Generation)
  | redistributor
deriving DecidableEq, Repr

inductive InterruptOp where
  | setFlag (f : Flag) (value : Bool)
  | hasFlag (f : Flag)
  | setAttribute (a : Attribute) (value : Bool)
  | hasAttribute (a : Attribute)
  | setPriority (p : Priority)
  | priority
  | setTrigger (t : Trigger)
  | trigger
deriving DecidableEq, Repr

/-- Where an operation on a CPU interface goes to. -/
inductive InterfaceTarget where
  | frontEnd
  | interface (g : Generation)
deriving DecidableEq, Repr

inductive InterfaceOp where
  | acknowledge (before : Ack)
  | complete (a : Ack)
  | deactivate (a : Ack)
  | setPriorityMask (mask : Priority)
  | priorityMask
deriving DecidableEq, Repr

/-- What only the CPU interfaces themselves offer. -/
inductive InterfaceDetailOp where
  | setBinaryPoint (value : BitVec 8)
  | binaryPoint
  | runningPriority
  | highestPending
  | setTwoStep (twoStep : Bool)
  | isTwoStep
deriving DecidableEq, Repr

/-- What both distributors offer. -/
inductive DistributorOp where
  | clearAll (f : Flag) (bound : BitVec 32)
  | setGroup1All (bound : BitVec 32)
  | setPriorityAll (bound : BitVec 32) (p : Priority)
  | setLevelAll (bound : BitVec 32)
  | lines
  | implementer
  | architecture
  | base
deriving DecidableEq, Repr

inductive FrontEndOp where
  | start
  | startCore
  | name
  | version
  | completion
  | isStarted
  | mask (id : IntId)
  | unmask (id : IntId)
  | configure (c : Gic.Setup)
  | routeTo (id : IntId) (a : Affinity)
  | routeToAny (id : IntId)
  | sendToCurrent (id : IntId)
  | sendToAllOther (id : IntId)
  | sendToSet (id : IntId) (s : CpuSet)
  | sendToCluster (id : IntId) (l : ClusterList)
  | banked
  | routed
  | uninstall (id : IntId)
deriving DecidableEq, Repr

/-- Bring-up of one family. -/
inductive DriverOp where
  | start
  | startCore (twoStep : Bool)
  | isStarted
deriving DecidableEq, Repr

inductive BankedOp where
  | keptLines
  | enable
  | disable
  | isEnabled
  | cpuCount
  | hasSecurity
  | setTargets (id : IntId) (s : CpuSet)
  | targets (id : IntId)
  | currentMask
  | sendSgi (id : IntId) (dest : Destination CpuSet)
  | setTargetsAll (bound : BitVec 32) (s : CpuSet)
  | resetPrivate
  | startInterface
  | disableInterface
deriving DecidableEq, Repr

inductive RoutedOp where
  | security
  | detectSecurity
  | disableGroups
  | enableGroups
  | settle
  | status
  | idLimit
  | hasExtendedSpi
  | extendedSpiCount
  | setRoute (id : IntId) (a : Affinity)
  | setRouteAny (id : IntId)
  | route (id : IntId)
  | signal (id : IntId)
  | unsignal (id : IntId)
  | clearModifierAll (bound : BitVec 32)
  | resetExtended (p : Priority)
deriving DecidableEq, Repr

/-- How a redistributor is chosen for the steps that follow. -/
inductive RedistributorChoice where
  | current
  | withAffinity (a : Affinity)
  | atOffset (offset : Nat)
  | found (a : Affinity) (stride offset : Nat)
deriving DecidableEq, Repr

inductive RedistributorOp where
  | info
  | wake
  | settle
  | setLpis (enabled : Bool)
  | lpisEnabled
  | resetPrivate (p : Priority)
deriving DecidableEq, Repr

inductive SystemInterfaceOp where
  | enableRegisters
  | registersEnabled
  | setGroup1 (enabled : Bool)
  | group1Enabled
  | sendSgi (id : IntId) (dest : Destination ClusterList)
deriving DecidableEq, Repr

/-- Operations on a table anywhere on the bus. -/
inductive TableOp where
  | test (index : Nat)
  | set (index : Nat)
  | clear (index : Nat)
  | assign (index : Nat) (value : Bool)
  | fill (bound value : BitVec 32)
  | setEdge (index : Nat) (edge : Bool)
  | isEdge (index : Nat)
deriving DecidableEq, Repr

inductive BusOp where
  | read (w : Width) (address : Nat)
  | write (w : Width) (address value : Nat)
  | readSystem (r : SystemRegister)
  | writeSystem (r : SystemRegister) (value : BitVec 64)
  | feed (t : Bus.FeedTarget) (values : List (BitVec 64 × Nat))
  | tracing (on : Bool)
  | logging (on : Bool)
  | traffic
deriving DecidableEq, Repr

/-- The hardware of a board; none is plain memory. -/
abbrev BoardOptions := Option Hardware.Options

inductive HardwareOp where
  | reset (o : BoardOptions)
  | setCurrent (cpu : Nat)
  | setAffinity (cpu : Nat) (v : BitVec 64)
  | raise (id cpu : Nat)
  | raiseLpi (id : Nat) (p : Priority) (cpu : Nat)
  | irq (id cpu : Nat)
  | targets (id : Nat)
  | route (id : Nat)
  | control
  | interfaceControl (cpu : Nat)
  | asleep (cpu : Nat)
  | system (cpu : Nat) (r : SystemRegister)
  | stickDistributor (stuck : Bool)
  | stickRedistributor (cpu : Nat) (stuck : Bool)
  | stickWaker (cpu : Nat) (stuck : Bool)
  | writeCount (r : Region) (offset : Nat)
  | totalWrites
  | barriers
deriving DecidableEq, Repr

/-- A step that calls no handler. -/
inductive Op where
  | interrupt (t : BlockTarget) (id : IntId) (op : InterruptOp)
  | interface (t : InterfaceTarget) (op : InterfaceOp)
  | interfaceDetail (g : Generation) (op : InterfaceDetailOp)
  | distributor (g : Generation) (op : DistributorOp)
  | frontEnd (op : FrontEndOp)
  | driver (g : Generation) (op : DriverOp)
  | banked (op : BankedOp)
  | routed (op : RoutedOp)
  | choose (c : RedistributorChoice)
  | redistributor (op : RedistributorOp)
  | systemInterface (op : SystemInterfaceOp)
  | currentAffinity
  | table (t : Table) (op : TableOp)
  | poll (bound after : Nat)
  | bus (op : BusOp)
  | hardware (op : HardwareOp)
deriving DecidableEq, Repr

inductive Step where
  | op (o : Op)
  | install (id : IntId) (tag : String) (rounds : List (List Step))
  | dispatch (frame : Nat)

/-- An installed handler, and what it will do the next times it is called. -/
structure Handler where
  tag : String
  rounds : List (List Step)

end InterruptControl.Script
