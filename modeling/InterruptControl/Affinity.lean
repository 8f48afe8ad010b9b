import InterruptControl.Registers.Fields

/-!
The place of a core in the hierarchy of cores: four levels of eight bits, the lowest of
them the core itself and the upper three its cluster.

The levels are laid out in three ways: in a core's own register, in a route, and packed
into 32 bits as a redistributor reports them.
-/

namespace InterruptControl

structure Affinity where
  aff0 : BitVec 8
  aff1 : BitVec 8
  aff2 : BitVec 8
  aff3 : BitVec 8
deriving DecidableEq, Repr, Inhabited

namespace Affinity

def sameCluster (a b : Affinity) : Bool :=
  a.aff1 == b.aff1 && a.aff2 == b.aff2 && a.aff3 == b.aff3

/-- As a redistributor reports it. -/
def packed (a : Affinity) : BitVec 32 :=
  (a.aff3.setWidth 32 <<< 24) ||| (a.aff2.setWidth 32 <<< 16) ||| (a.aff1.setWidth 32 <<< 8)
    ||| a.aff0.setWidth 32

def ofPacked (v : BitVec 32) : Affinity where
  aff0 := v.setWidth 8
  aff1 := (v >>> 8).setWidth 8
  aff2 := (v >>> 16).setWidth 8
  aff3 := (v >>> 24).setWidth 8

open Routed in
/-- From the register that identifies a core. -/
def ofCoreRegister (v : BitVec 64) : Affinity where
  aff0 := (CoreAffinity.aff0.get v).setWidth 8
  aff1 := (CoreAffinity.aff1.get v).setWidth 8
  aff2 := (CoreAffinity.aff2.get v).setWidth 8
  aff3 := (CoreAffinity.aff3.get v).setWidth 8

open Routed in
def ofRoute (v : BitVec 64) : Affinity where
  aff0 := (Route.aff0.get v).setWidth 8
  aff1 := (Route.aff1.get v).setWidth 8
  aff2 := (Route.aff2.get v).setWidth 8
  aff3 := (Route.aff3.get v).setWidth 8

open Routed in
/-- The route to exactly this core. -/
def toRoute (a : Affinity) : BitVec 64 :=
  Route.aff0.val (a.aff0.setWidth 64) ||| Route.aff1.val (a.aff1.setWidth 64)
    ||| Route.aff2.val (a.aff2.setWidth 64) ||| Route.aff3.val (a.aff3.setWidth 64)

def levels (a : Affinity) : List Nat := [a.aff0.toNat, a.aff1.toNat, a.aff2.toNat, a.aff3.toNat]

end Affinity

end InterruptControl
