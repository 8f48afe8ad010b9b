import InterruptControl.Affinity

/-!
Up to sixteen cores of one cluster, the targets of an SGI on a routed controller. The
range says which block of sixteen cores of the cluster the bitmap is about.
-/

namespace InterruptControl

structure ClusterList where
  aff1 : BitVec 8
  aff2 : BitVec 8
  aff3 : BitVec 8
  bitmap : BitVec 16
  range : BitVec 8
deriving DecidableEq, Repr

namespace ClusterList

def blockSize : Nat := 16

/-- The block of sixteen that a core lies in. -/
def blockOf (a : Affinity) : BitVec 8 := BitVec.ofNat 8 (a.aff0.toNat / blockSize)

/-- No core yet, of the cluster and the block of `a`. -/
def around (a : Affinity) : ClusterList := ⟨a.aff1, a.aff2, a.aff3, 0, blockOf a⟩

/-- The core lies in the cluster and in the block of the list. -/
def covers (l : ClusterList) (a : Affinity) : Bool :=
  a.aff1 == l.aff1 && a.aff2 == l.aff2 && a.aff3 == l.aff3 && blockOf a == l.range

/-- Refused for a core of another cluster or block. -/
def add? (l : ClusterList) (a : Affinity) : Option ClusterList :=
  if l.covers a then some { l with bitmap := l.bitmap ||| (1#16 <<< (a.aff0.toNat % blockSize)) }
  else none

def addAll? (l : ClusterList) (cores : List Affinity) : Option ClusterList := cores.foldlM add? l

/-- The list of the cores `a :: rest`, which agree on cluster and block. -/
def ofCores? (a : Affinity) (rest : List Affinity) : Option ClusterList :=
  (around a).addAll? (a :: rest)

end ClusterList

end InterruptControl
