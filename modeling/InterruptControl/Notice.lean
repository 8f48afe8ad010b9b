import InterruptControl.Text.Hex

/-!
What the controller tells about its work. A notice is a line of text with a level and the
part of the controller that speaks; times are not kept and shown as zero.
-/

namespace InterruptControl

inductive Notice.Level where
  | info
  | debug
  | warning
  | error
deriving DecidableEq, Repr

/-- The part of the controller that speaks. -/
inductive Notice.Part where
  | frontEnd
  | banked
  | routed
deriving DecidableEq, Repr

inductive Notice where
  | undetected (distributor : Nat)
  | starting (version : String) (twoStep : Bool)
  | configured (id : Nat) (trigger : String) (priority : Nat)
  | unhandledLpi (id : Nat)
  | unhandled (id : Nat)
  | bankedStarting (lines cpus : Nat)
  | bankedCleared
  | bankedDefaults
  | bankedReady
  | bankedPrivate (cpuMask : Nat)
  | bankedCore (twoStep : Bool)
  | routedStarting (security : String) (lines : Nat)
  | groupsDisabled
  | spisReset
  | extendedSpisReset (count : Nat)
  | routedReady
  | awake (redistributor : Nat)
  | routedCore (twoStep : Bool)
  | distributorTimeout
  | wakeTimeout (redistributor : Nat)
  | redistributorTimeout (redistributor : Nat)
deriving DecidableEq, Repr

namespace Notice

def level : Notice → Level
  | undetected _ | unhandledLpi _ | unhandled _ => .warning
  | starting .. | bankedStarting .. | bankedReady | routedStarting .. | routedReady => .info
  | configured .. | bankedCleared | bankedDefaults | bankedPrivate _ | bankedCore _
  | groupsDisabled | spisReset | extendedSpisReset _ | awake _ | routedCore _ => .debug
  | distributorTimeout | wakeTimeout _ | redistributorTimeout _ => .error

def part : Notice → Part
  | undetected _ | starting .. | configured .. | unhandledLpi _ | unhandled _ => .frontEnd
  | bankedStarting .. | bankedCleared | bankedDefaults | bankedReady | bankedPrivate _
  | bankedCore _ => .banked
  | routedStarting .. | groupsDisabled | spisReset | extendedSpisReset _ | routedReady
  | awake _ | routedCore _ | distributorTimeout | wakeTimeout _ | redistributorTimeout _ => .routed

/-- How completion is named. -/
def completion (twoStep : Bool) : String := if twoStep then "two-step" else "one-step"

open Text in
def text : Notice → String
  | undetected d => "Could not detect the GIC architecture version at " ++ hexInMessage d
  | starting version twoStep =>
    "Initializing " ++ version ++ ", " ++ completion twoStep ++ " EOI"
  | configured id trigger priority =>
    s!"irq {id}: " ++ trigger ++ ", priority " ++ hexInMessage priority
  | unhandledLpi id => s!"Unhandled LPI {id}"
  | unhandled id => s!"Unhandled interrupt {id}, masking it"
  | bankedStarting lines cpus =>
    s!"Initializing distributor, {lines} interrupt lines, {cpus} CPU interfaces"
  | bankedCleared => "Disabled and cleared all interrupts"
  | bankedDefaults => "Default group, priority, target and trigger set"
  | bankedReady => "Distributor ready"
  | bankedPrivate mask => "Reset banked SGI/PPI state (cpu mask " ++ hexInMessage mask ++ ")"
  | bankedCore twoStep | routedCore twoStep =>
    "CPU interface enabled, " ++ completion twoStep ++ " EOI"
  | routedStarting security lines =>
    "Initializing distributor, " ++ security ++ s!" security state, {lines} interrupt lines"
  | groupsDisabled => "All groups disabled"
  | spisReset => "SPIs reset"
  | extendedSpisReset count => s!"Reset {count} extended SPIs"
  | routedReady => "Distributor ready, affinity routing enabled"
  | awake r => "Redistributor " ++ hexInMessage r ++ " awake"
  | distributorTimeout => "Timeout while waiting for a distributor register write to complete"
  | wakeTimeout r =>
    "Timeout while waiting for redistributor " ++ hexInMessage r ++ " to wake up"
  | redistributorTimeout r =>
    "Timeout while waiting for a register write to redistributor " ++ hexInMessage r
      ++ " to complete"

/-- The level as it stands in a line, with the colour that precedes it. -/
def Level.mark : Level → String
  | info => "\x1b[32mINFO: "
  | debug => "\x1b[35mDBUG: "
  | warning => "\x1b[33mWARN: "
  | error => "\x1b[31mERR:  "

def Part.tag : Part → String
  | frontEnd => "GIC"
  | banked => "GICv2"
  | routed => "GICv3"

/-- The line of a log: the time, who speaks, and the text in the colour of its level. -/
def line (n : Notice) : String :=
  Text.alignRight 8 "0" ++ " - [" ++ Text.alignRight 8 n.part.tag ++ "] " ++ n.level.mark
    ++ n.text ++ "\x1b[0m"

end Notice

end InterruptControl
