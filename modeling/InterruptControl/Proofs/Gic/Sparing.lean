import InterruptControl.Proofs.Block
import InterruptControl.Proofs.Gic.Interface

/-!
What the front end leaves alone about the shared interrupts. But for bring-up, none of its
calls makes one inactive, and the only one that is no longer pending afterwards is the one
that a call was asked to clear. Nor does it change how a core completes interrupts.

Unlike what single settings do, this holds wherever a core looks for its redistributor, and
also if a call is refused halfway.
-/

namespace InterruptControl

open Bus Hardware Program

namespace Hardware

/-- How a core completes interrupts, and the LPIs that it keeps. -/
def Core.manner (routed : Bool) (c : Core) : Bool × List Nat :=
  (c.twoStep routed, c.lpis.map Prod.fst)

lemma Core.manner_of_steady {routed : Bool} {c c' : Core} (h : c.steady = c'.steady) :
    c.manner routed = c'.manner routed :=
  Prod.ext (congrArg (twoStep routed) h :) (Prod.mk.inj (Core.tasks_of_steady h)).2

namespace State

/-- Of the shared interrupts none is made inactive, and none that was pending ceases to be, but
for the number that is cleared. -/
structure Spares (cleared : Option Nat) (s t : State) : Prop where
  agree : Agree (Core.manner s.isRouted) s t
  shared {i : Nat} {q : Irq} (hq : s.at? (.shared i) = some q) : ∃ q', t.at? (.shared i) = some q'
    ∧ (q.active = true → q'.active = true)
    ∧ (q.pending = true → cleared ≠ some (Place.shared i).number → q'.pending = true)

/-- The change leaves an interrupt pending and active if it was. -/
def Upholds (f : Irq → Irq) : Prop :=
  ∀ q, (q.active = true → (f q).active = true) ∧ (q.pending = true → (f q).pending = true)

namespace Spares

variable {cleared : Option Nat} {s t u : State} {p : Place} {f : Irq → Irq}

lemma of_shared (h : Agree (Core.manner s.isRouted) s t)
    (hs : ∀ i, t.at? (.shared i) = s.at? (.shared i)) : s.Spares cleared t :=
  ⟨h, fun hq => ⟨_, (hs _).trans hq, id, fun h _ => h⟩⟩

lemma refl (s : State) : s.Spares cleared s := of_shared (.refl s) fun _ => rfl

lemma trans (h : s.Spares cleared t) (h' : t.Spares cleared u) : s.Spares cleared u := by
  refine ⟨h.agree.trans (h.agree.isRouted ▸ h'.agree), fun hq => ?_⟩
  obtain ⟨q', hq', hactive, hpending⟩ := h.shared hq
  obtain ⟨q'', hq'', hactive', hpending'⟩ := h'.shared hq'
  exact ⟨q'', hq'', hactive' ∘ hactive, fun hp hne => hpending' (hpending hp hne) hne⟩

lemma mono (h : s.Spares none t) : s.Spares cleared t :=
  ⟨h.agree, fun hq => (h.shared hq).imp fun _ ⟨h1, h2, h3⟩ => ⟨h1, h2, fun hp _ => h3 hp (by simp)⟩⟩

lemma of_steady (h : Agree Core.steady s t) (hs : ∀ i, t.at? (.shared i) = s.at? (.shared i)) :
    s.Spares cleared t := of_shared (h.mono fun _ _ => Core.manner_of_steady) hs

lemma modify (hf : ∀ q, (q.active = true → (f q).active = true)
    ∧ (q.pending = true → cleared ≠ some p.number → (f q).pending = true)) :
    s.Spares cleared (s.modify p f) := by
  refine ⟨(agree_of_bare s (bare_modify ..)).mono fun _ _ => Core.manner_of_steady, fun {i q} hq => ?_⟩
  rw [at?_modify]
  split
  next he =>
    subst he
    exact ⟨f q, by rw [hq]; rfl, hf q⟩
  next => exact ⟨q, hq, id, fun h _ => h⟩

lemma modify_of_upholds (hf : Upholds f) : s.Spares cleared (s.modify p f) :=
  modify fun q => ⟨(hf q).1, fun h _ => (hf q).2 h⟩

lemma modifyCore (cpu : Nat) {f : Core → Core}
    (hf : ∀ c, (f c).manner s.isRouted = c.manner s.isRouted) :
    s.Spares cleared (s.modifyCore cpu f) :=
  of_shared (.modifyCore s cpu hf) fun _ => rfl

lemma modifyAt (view : Nat → Option Place) (i : Nat) (hf : Upholds f) :
    s.Spares cleared (s.modifyAt view i f) := by
  unfold State.modifyAt
  split
  · exact modify_of_upholds hf
  · exact refl s

lemma modifyMany (view : Nat → Option Place) (first : Nat) {rule : Nat → Irq → Irq}
    (hrule : ∀ i, Upholds (rule i)) (l : List Nat) :
    s.Spares cleared (s.modifyMany view first rule l) := by
  induction l generalizing s with
  | nil => exact refl s
  | cons i rest ih =>
    rw [State.modifyMany]
    split
    · exact (modify_of_upholds (hrule i)).trans ih
    · exact ih

/-- A table that makes no interrupt inactive and clears no pending one. -/
lemma writeBits (view : Nat → Option Place) (first : Nat) {f : Field} {r : WriteRule}
    (hr : r = .set ∨ f ≠ .active ∧ f ≠ .pending) (v : BitVec 32) :
    s.Spares cleared (s.writeBits view first f r v) := by
  refine modifyMany view first (fun i q => ?_) _
  rcases hr with rfl | ⟨ha, hp⟩
  · simp only [WriteRule.apply]
    split
    · cases f <;> simp [Irq.put]
    · exact ⟨id, id⟩
  · have hput (b : Bool) : (q.put f b).active = q.active ∧ (q.put f b).pending = q.pending := by
      cases f <;> first | exact ⟨rfl, rfl⟩ | contradiction
    cases r with
    | plain => simp [WriteRule.apply, hput]
    | set | clear =>
      simp only [WriteRule.apply]
      split
      · simp [hput]
      · exact ⟨id, id⟩

/-- Clearing the pending bit of one number. -/
lemma writeBits_bit {view : Nat → Option Place} {first n : Nat} (hview : InjectiveView view)
    (hnumber : ∀ i p, view i = some p → p.number = i) (i : Nat) (hn : n = first + i) :
    s.Spares (some n) (s.writeBits view (first + i / 32 * 32) .pending .clear (Table.bit i)) := by
  have hrule : WriteRule.clear = if false then .set else .clear := rfl
  rw [Table.bit_eq_twoPow, writeBits_twoPow hrule hview (Nat.mod_lt i (by decide)),
    show first + i / 32 * 32 + i % 32 = n by omega]
  unfold State.modifyAt
  split
  next p hp =>
    refine modify fun q => ⟨id, fun _ hne => absurd ?_ hne⟩
    rw [hnumber n p hp]
  next => exact refl s

end Spares

/-! ### The regions -/

lemma ne_shared_of_redistributorView (s : State) {cpu n : Nat} {p : Place}
    (h : s.redistributorView cpu n = some p) (i : Nat) : p ≠ .shared i := by
  intro he
  simp only [redistributorView] at h
  split at h
  next hn =>
    have h96 := Bus.Bank.privateCount_le s.options
    have hlimit := sharedLimit_le s.options
    obtain ⟨c, -, hleads⟩ := leadsTo_of_place? h
    have hprivate : privateNumber n < 32 ∨ 1056 ≤ privateNumber n ∧ privateNumber n < 1120 := by
      unfold privateNumber
      split <;> omega
    generalize privateNumber n = m at hleads hprivate
    cases hleads with
    | shared | extendedShared => omega
    | lpi | own | extendedOwn => simp at he
  next => simp at h

lemma at?_shared_modifyMany {s : State} {view : Nat → Option Place}
    (hview : ∀ n p, view n = some p → ∀ i, p ≠ .shared i) (first : Nat) (rule : Nat → Irq → Irq)
    (l : List Nat) (i : Nat) :
    (s.modifyMany view first rule l).at? (.shared i) = s.at? (.shared i) := by
  induction l generalizing s with
  | nil => rfl
  | cons n rest ih =>
    rw [modifyMany]
    split
    next p hp => rw [ih, at?_modify_of_ne _ _ (hview _ p hp i).symm]
    next => exact ih

/-- A redistributor reaches no shared interrupt. -/
lemma at?_shared_writeRedistributor (s : State) (o : Nat) (w : Width) (v : BitVec w.bits) (i : Nat) :
    (s.writeRedistributor o w v).at? (.shared i) = s.at? (.shared i) := by
  have hview {n : Nat} {p : Place} (h : s.redistributorView (o / s.options.stride) n = some p) :=
    s.ne_shared_of_redistributorView h
  simp only [writeRedistributor]
  split
  · unfold writeCoreFrame
    repeat' split
    all_goals rfl
  split
  · split
    · unfold writePrivateByte
      repeat' split
      all_goals first
        | rfl
        | exact at?_modify_of_ne _ _ (hview ‹_› i).symm
    · unfold writePrivateWord
      repeat' split
      all_goals first
        | rfl
        | exact at?_shared_modifyMany (fun n p hp => hview hp) ..
  · rfl

lemma spares_modifyDistributorIrq (s : State) {cleared : Option Nat} (n : Nat) {f : Irq → Irq}
    (hf : Upholds f) : s.Spares cleared (s.modifyDistributorIrq n f) :=
  Spares.modifyAt s.distributorView n hf

lemma spares_writeDistributorByte (s : State) {cleared : Option Nat} (o : Nat) (v : BitVec 8) :
    s.Spares cleared (s.writeDistributorByte o v) := by
  unfold writeDistributorByte
  repeat' split
  all_goals first
    | exact .refl s
    | exact spares_modifyDistributorIrq s _ fun q => ⟨id, id⟩

lemma spares_writeRoute (s : State) {cleared : Option Nat} (o : Nat) (v : BitVec 64) :
    s.Spares cleared (s.writeRoute o v) := by
  unfold writeRoute
  split
  · exact spares_modifyDistributorIrq s _ fun q => ⟨id, id⟩
  · exact .refl s

lemma spares_writeTriggerWord (s : State) {cleared : Option Nat} {o : Nat}
    (ho : 0xc00 ≤ o ∧ o < 0xd00 ∨ 0x3000 ≤ o ∧ o < 0x3100) (v : BitVec 32) :
    s.Spares cleared (s.writeDistributorWord o v) := by
  rw [writeDistributorWord, findTable?_distributor_eq_none ho]
  have hupholds (i : Nat) : Upholds fun q => { q with edge := v.getLsbD (2 * i + 1) } :=
    fun q => ⟨id, id⟩
  have htriggers (first : Nat) : s.Spares cleared (s.writeTriggers s.distributorView first v) :=
    Spares.modifyMany _ _ hupholds _
  simp only
  split
  · split
    · exact .refl s
    · exact htriggers _
  split
  · exact htriggers _
  rw [if_neg (by omega)]
  unfold writeDistributorRegister
  rw [if_neg (by omega), if_neg (by omega), if_neg (by omega)]
  exact .refl s

lemma spares_sendTo (s : State) {cleared : Option Nat} (sgi : Nat) (cores : List Nat) :
    s.Spares cleared (s.sendTo sgi cores) := by
  have hupholds : Upholds fun q =>
      { q with pending := true, source := BitVec.ofNat 32 s.current } := fun q => ⟨id, fun _ => rfl⟩
  have hsend : ∀ t : State,
      t.Spares cleared (cores.foldl (fun t cpu => t.receiveSgi cpu sgi s.current) t) := by
    induction cores with
    | nil => exact .refl
    | cons cpu rest ih => exact fun t => (Spares.modify_of_upholds hupholds).trans (ih _)
  exact hsend s

end State

end Hardware

/-! ### Requests -/

/-- The request spares the shared interrupts of every controller. -/
def Sparing (o : Options) (cleared : Option Nat) (q : Request) : Prop :=
  ∀ s : State, s.Sound o → s.Spares cleared (s.after (.access q))

namespace Sparing

variable {o : Options} {cleared : Option Nat} {q : Request}

lemma mono (h : Sparing o none q) : Sparing o cleared q := fun s hs => (h s hs).mono

lemma of_answer (h : ∀ s : State, s.Sound o → ∃ r t,
    Board.answer (.controller s) q = (r, .controller t) ∧ s.Spares cleared t) :
    Sparing o cleared q := by
  intro s hs
  obtain ⟨r, t, he, hspares⟩ := h s hs
  rw [State.after, he]
  exact hspares

lemma barrier : Sparing o none .barrier := fun s _ => .refl s

lemma notify (n : Notice) : Sparing o none (.notify n) := fun s _ => .refl s

lemma readSystem {r : SystemRegister} (hr : r ≠ .acknowledge1) :
    Sparing o none (.readSystem r) := fun s _ => by
  have : s.after (.access (.readSystem r)) = (s.readSystem r).2 := rfl
  rw [this, State.readSystem_of_ne hr]
  exact .refl s

lemma setPriorityMask (v : BitVec 64) : Sparing o none (.writeSystem .priorityMask v) := fun s _ => by
  rw [State.after, Board.answer_writeSystem]
  unfold State.writeSystem
  rcases s.cores[s.current]? with _ | c
  · exact .refl s
  · exact .modifyCore _ fun c => rfl

lemma sendSgi (v : BitVec 64) : Sparing o none (.writeSystem .softwareInterrupt1 v) := fun s _ => by
  rw [State.after, Board.answer_writeSystem]
  unfold State.writeSystem
  rcases s.cores[s.current]? with _ | c
  · exact .refl s
  · exact State.spares_sendTo s _ _

lemma read_distributor (w : Width) {i : Nat} (hi : i < 0x10000) :
    Sparing o none (.read w (Region.distributor.base + i)) :=
  of_answer fun s _ => ⟨_, s, Board.answer_read_distributor w rfl hi, .refl s⟩

lemma write_distributor {w : Width} {i : Nat} (hi : i < 0x10000) {v : BitVec w.bits}
    (h : ∀ s : State, s.Sound o → s.Spares cleared (s.writeDistributor i w v)) :
    Sparing o cleared (.write w (Region.distributor.base + i) v) :=
  of_answer fun s hs => ⟨_, _, Board.answer_write_distributor w v rfl hi, h s hs⟩

/-- All that lies at the redistributors or above. -/
lemma above {w : Width} {a : Nat} (ha : Region.redistributors.base ≤ a)
    (ha' : a < 0x10000000000000000) :
    Sparing o none (.read w a) ∧ ∀ v, Sparing o none (.write w a v) := by
  have hdecode (s : State) : (Board.controller s).decode a = none
      ∨ ∃ i, (Board.controller s).decode a = some (.redistributors, i) := by
    rcases hd : (Board.controller s).decode a with _ | ⟨r, i⟩
    · exact .inl rfl
    obtain ⟨r, hr, he⟩ := Option.map_eq_some_iff.mp hd
    obtain ⟨rfl, rfl⟩ := Prod.mk.inj he
    have hin := Board.inside_iff.mp (List.find?_some hr :)
    rw [Board.wrapAddress_of_lt ha'] at hin
    have hinterface : (Board.controller s).extent .interface ≤ 0x2000 := by
      rw [Board.extent]
      split <;> decide
    cases r with
    | distributor => simp only [Region.base, Board.extent] at ha hin; omega
    | interface => simp only [Region.base] at ha hin; omega
    | redistributors => exact .inr ⟨_, rfl⟩
  refine ⟨fun s _ => ?_, fun v s _ => ?_⟩
  · rcases hdecode s with hd | ⟨i, hd⟩ <;> simp only [State.after, Board.answer, hd]
    · exact .refl s
    · exact .refl s
  · rcases hdecode s with hd | ⟨i, hd⟩ <;> simp only [State.after, Board.answer, hd]
    · exact .refl s
    · exact .of_steady (State.step_writeRedistributor s i w v).agree
        (State.at?_shared_writeRedistributor s i w v)

/-- What a call of sparing requests does. -/
lemma run {α : Type} {p : Program α} (hp : p.Within (Sparing o cleared)) {s : State}
    (hs : s.Sound o) : ∃ r t, p.run Board.answer (.controller s) = (r, .controller t)
      ∧ t.Sound o ∧ s.Spares cleared t := by
  have hrun := hp.preserves (d := Board.answer) (s := .controller s)
    (I := fun b => ∃ t, b = .controller t ∧ t.Sound o ∧ s.Spares cleared t)
    (fun b q hb hq => by
      obtain ⟨t, rfl, ht, hspares⟩ := hb
      exact ⟨_, State.answer_eq t q, ht.access q, hspares.trans (hq t ht)⟩)
    ⟨s, rfl, hs, .refl s⟩
  obtain ⟨t, ht, hsound, hspares⟩ := hrun
  exact ⟨_, t, Prod.ext rfl ht, hsound, hspares⟩

end Sparing

/-! ### Slots and blocks -/

lemma Table.Within.mono {P Q : Request → Prop} {t : Table} (h : t.Within P) (hPQ : ∀ q, P q → Q q) :
    t.Within Q := ⟨fun i hi => hPQ _ (h.read i hi), fun i hi v => hPQ _ (h.write i hi v)⟩

/-- All accesses to the state of the interrupt at the slot, which is number `n`, are sparing, but
for those that make it inactive. -/
structure Slot.Spared (o : Options) (n : Nat) (s : Slot) : Prop where
  setting (f : Flag) : (s.layout.settingTable f).Within (Sparing o none)
  disabling : (s.layout.clearingTable .enabled).Within (Sparing o none)
  readPending {i : Nat} (hi : i < s.layout.bitWords) :
    Sparing o none (.read .word ((s.layout.clearingTable .pending).word i))
  clearPending (hi : s.index / 32 < s.layout.bitWords) : Sparing o (some n)
    (.write .word ((s.layout.clearingTable .pending).word (s.index / 32)) (Table.bit s.index))
  triggers : s.layout.triggerTable.Within (Sparing o none)
  readPriority : Sparing o none (.read .byte (s.layout.priorities + s.index))
  writePriority (p : Priority) : Sparing o none (.write .byte (s.layout.priorities + s.index) p)

/-- So are those to the interrupt that the block finds. -/
def Block.Spared (o : Options) (b : Block) (id : IntId) : Prop :=
  ∀ {α : Type} (cleared : Option Nat) (f : Slot → Program α),
    (∀ s : Slot, s.Spared o id.number → (f s).Within (Sparing o cleared)) →
      (b.locate id >>= f).Within (Sparing o cleared)

/-- The number that ceases to be pending if the flag is set like this. -/
def Flag.cleared (f : Flag) (v : Bool) (id : IntId) : Option Nat :=
  if f = .pending ∧ v = false then some id.number else none

namespace Block.Spared

variable {o : Options} {b : Block} {id : IntId} (h : b.Spared o id)
include h

lemma setFlag {f : Flag} {v : Bool} (hf : f ≠ .active ∨ v = true) :
    (b.setFlag f id v).Within (Sparing o (f.cleared v id)) := h _ _ fun s hs => by
  cases v with
  | true => exact ((hs.setting f).mono fun _ => Sparing.mono).set _
  | false =>
    cases f with
    | enabled => exact (hs.disabling.mono fun _ => Sparing.mono).clear _
    | active => simp at hf
    | pending =>
      refine .guarded_bind fun hi => ?_
      have hi : s.index / 32 < s.layout.bitWords := of_decide_eq_true hi
      refine .bind (.request (hs.readPending hi).mono) fun v => ?_
      split
      · exact .pure _
      · exact .request (hs.clearPending hi)

lemma hasFlag (f : Flag) : (b.hasFlag f id).Within (Sparing o none) :=
  h _ _ fun _ hs => (hs.setting f).test _

lemma setPriority (p : Priority) : (b.setPriority id p).Within (Sparing o none) :=
  h _ _ fun _ hs => .request (hs.writePriority p)

lemma priority : (b.priority id).Within (Sparing o none) :=
  h _ _ fun _ hs => .request hs.readPriority

lemma setTrigger (t : Trigger) : (b.setTrigger id t).Within (Sparing o none) := h _ _ fun s hs => by
  split
  · exact .pure _
  · exact hs.triggers.setEdge _ _

lemma trigger : (b.trigger id).Within (Sparing o none) := h _ _ fun s hs => by
  split
  · exact .pure _
  · exact .bind (hs.triggers.isEdge _) fun _ => .pure _

end Block.Spared

section Slots

variable {o : Options}

lemma Hardware.State.number_of_distributorView {s : State} {i : Nat} {p : Place}
    (h : s.distributorView i = some p) : p.number = i := by
  simp only [distributorView] at h
  split at h
  · simp at h
  · exact number_of_place? h

/-- A table of bits of the distributor, unless it clears what is pending or active. -/
lemma Table.within_of_tabulated {b : State → Bank} {t : Table} {f : Field} {r : WriteRule}
    (hb : ∀ s : State, s.Sound o → Bank.Tabulated s (b s) ∧ (b s).Shows t f r)
    (hr : r = .set ∨ f ≠ .active ∧ f ≠ .pending) : t.Within (Sparing o none) where
  read _ hi := .of_answer fun s hs =>
    ⟨_, s, Bank.answer_readBits (hb s hs).1 (hb s hs).2 hi, .refl s⟩
  write _ hi v := .of_answer fun s hs =>
    ⟨_, _, Bank.answer_writeBits (hb s hs).1 (hb s hs).2 hi v, .writeBits _ _ hr v⟩

/-- A slot of the distributor, in one of its two layouts. -/
lemma Slot.spared_of_tabulated {b : State → Bank} {l : Layout} {first i n : Nat} (bytes words : Nat)
    (hb : ∀ s : State, s.Sound o →
      Bank.Tabulated s (b s) ∧ (b s).layout = l ∧ (b s).first = first)
    (hn : n = first + i) (hbytes : l.priorities = Region.distributor.base + bytes)
    (hbytes' : bytes + i < 0x10000) (hwords : l.triggers = Region.distributor.base + words)
    (hwords' : ∀ k < l.triggerWords, 0xc00 ≤ words + 4 * k ∧ words + 4 * k < 0xd00
      ∨ 0x3000 ≤ words + 4 * k ∧ words + 4 * k < 0x3100) : Slot.Spared o n ⟨l, i⟩ := by
  have hset (f : Flag) (s : State) (hs : s.Sound o) : Bank.Tabulated s (b s)
      ∧ (b s).Shows (l.settingTable f) f.field .set := by
    obtain ⟨h, rfl, -⟩ := hb s hs
    exact ⟨h, .setting f⟩
  have hclear (f : Flag) (s : State) (hs : s.Sound o) : Bank.Tabulated s (b s)
      ∧ (b s).Shows (l.clearingTable f) f.field .clear := by
    obtain ⟨h, rfl, -⟩ := hb s hs
    exact ⟨h, .clearing f⟩
  refine ⟨fun f => Table.within_of_tabulated (hset f) (.inl rfl),
    Table.within_of_tabulated (hclear .enabled) (.inr ⟨by decide, by decide⟩),
    fun hi => .of_answer fun s hs => ⟨_, s,
      Bank.answer_readBits (hclear .pending s hs).1 (hclear .pending s hs).2 hi, .refl s⟩,
    fun hi => .of_answer fun s hs => ⟨_, _,
      Bank.answer_writeBits (hclear .pending s hs).1 (hclear .pending s hs).2 hi _, ?_⟩, ?_, ?_, ?_⟩
  · rw [(hb s hs).2.2]
    exact .writeBits_bit (Bank.injective_distributorView s)
      (fun _ _ => State.number_of_distributorView) i hn
  · have hword (k : Nat) : l.triggerTable.word k = Region.distributor.base + (words + 4 * k) := by
      rw [Table.word, Layout.triggerTable, hwords, Nat.add_assoc]
    refine ⟨fun k hk => ?_, fun k hk v => ?_⟩ <;> rw [hword]
    · have := hwords' k hk
      exact .read_distributor .word (by omega)
    · have := hwords' k hk
      exact .write_distributor (by omega) fun s _ => s.spares_writeTriggerWord this v
  · rw [hbytes, Nat.add_assoc]
    exact .read_distributor .byte hbytes'
  · intro p
    rw [hbytes, Nat.add_assoc]
    exact .write_distributor hbytes' fun s _ => s.spares_writeDistributorByte _ p

lemma Slot.spared_distributor {n : Nat} (hn : n < 1020) :
    Slot.Spared o n ⟨.ordinary Region.distributor.base 32 64, n⟩ := by
  refine Slot.spared_of_tabulated (b := Bank.distributor) 0x400 0xc00
    (fun s _ => ⟨Bank.tabulated_distributor, rfl, rfl⟩) (Nat.zero_add n).symm rfl (by omega) rfl ?_
  intro k hk
  have hk : k < 64 := hk
  omega

lemma Slot.spared_extended (ho : o.isRouted = true) {i : Nat} (hi : i < 1024) :
    Slot.Spared o (4096 + i) ⟨.extended Region.distributor.base, i⟩ := by
  refine Slot.spared_of_tabulated (b := Bank.extended) 0x2000 0x3000
    (fun s hs => ⟨Bank.tabulated_extended (hs.isRouted.trans ho), rfl, rfl⟩) rfl rfl (by omega) rfl ?_
  intro k hk
  have hk : k < 64 := hk
  omega

/-- A slot of a redistributor. -/
lemma Slot.spared_redistributor {r : Routed.Redistributor} (hr : Region.redistributors.base ≤ r.base)
    (hr' : r.base + 0x20000 ≤ 0x10000000000000000) {i : Nat} (hi : i < 96) (n : Nat) :
    Slot.Spared o n ⟨r.layout, i⟩ := by
  have habove (w : Width) {d : Nat} (hd : d < 0x10000) :=
    Sparing.above (o := o) (w := w) (a := r.base + 0x10000 + d) (by omega) (by omega)
  have htable (d words : Nat) (hd : d + 24 ≤ 0x10000) (hwords : words ≤ 6) :
      Table.Within (Sparing o none) ⟨r.base + 0x10000 + d, words⟩ := by
    have hword (k : Nat) : Table.word ⟨r.base + 0x10000 + d, words⟩ k
        = r.base + 0x10000 + (d + 4 * k) := by rw [Table.word, Nat.add_assoc]
    refine ⟨fun k hk => ?_, fun k hk v => ?_⟩ <;> rw [hword] <;> have hk : k < words := hk
    · exact (habove .word (by omega)).1
    · exact (habove .word (by omega)).2 v
  have hset (f : Flag) : Table.Within (Sparing o none) (r.layout.settingTable f) := by
    cases f
    · exact htable 0x100 3 (by decide) (by decide)
    · exact htable 0x200 3 (by decide) (by decide)
    · exact htable 0x300 3 (by decide) (by decide)
  have hclear (f : Flag) : Table.Within (Sparing o none) (r.layout.clearingTable f) := by
    cases f
    · exact htable 0x180 3 (by decide) (by decide)
    · exact htable 0x280 3 (by decide) (by decide)
    · exact htable 0x380 3 (by decide) (by decide)
  have hpriority : r.layout.priorities + i = r.base + 0x10000 + (0x400 + i) := Nat.add_assoc ..
  refine ⟨hset, hclear _, (hclear .pending).read _, fun hk => ((hclear .pending).write _ hk _).mono,
    htable 0xc00 6 (by decide) (by decide), ?_, fun p => ?_⟩
  · rw [hpriority]
    exact (habove .byte (by omega)).1
  · rw [hpriority]
    exact (habove .byte (by omega)).2 p

end Slots

/-! ### The blocks of both families -/

section Blocks

variable {o : Options} (id : IntId)

lemma Banked.Distributor.block_spared :
    (Banked.Distributor.mk Region.distributor.base).block.Spared o id := by
  intro α cleared f hf
  refine .guarded_bind fun hid => hf _ ?_
  exact Slot.spared_distributor (of_decide_eq_true hid)

lemma Routed.Distributor.place_bind_spared {α : Type} {cleared : Option Nat}
    {security : Routed.SecurityState} {f : Bool × Nat → Program α}
    (hspi : id.number < 1020 → (f (false, id.number)).Within (Sparing o cleared))
    (hextended : ∀ i < 1024, id.number = 4096 + i → (f (true, i)).Within (Sparing o cleared)) :
    ((Routed.Distributor.mk Region.distributor.base security).place id >>= f).Within
      (Sparing o cleared) := by
  unfold Routed.Distributor.place
  split
  next he =>
    obtain ⟨h4096, h5120⟩ := (IntId.isExtendedSpi_iff id).mp he
    rw [Program.bind_assoc]
    refine .bind ?_ fun count => .guarded_bind fun _ => hextended _ ?_ ?_
    · exact .bind (.request (Sparing.read_distributor .word (i := 4) (by decide)).mono)
        fun _ => .pure _
    · simp only [Category.first]
      omega
    · simp only [Category.first]
      omega
  next =>
    refine .guarded_bind fun hspi' => hspi ?_
    have := (IntId.isSpi_iff id).mp hspi'
    omega

lemma Routed.Distributor.block_spared (ho : o.isRouted = true) (security : Routed.SecurityState) :
    (Routed.Distributor.mk Region.distributor.base security).block.Spared o id := by
  intro α cleared f hf
  rw [show (Routed.Distributor.mk Region.distributor.base security).block.locate id
    = (Routed.Distributor.mk Region.distributor.base security).place id >>= fun p =>
      pure ⟨if p.1 then .extended Region.distributor.base
        else .ordinary Region.distributor.base 32 64, p.2⟩ from rfl, Program.bind_assoc]
  refine Routed.Distributor.place_bind_spared id (fun hid => hf _ ?_) fun i hi hid => hf _ ?_
  · exact Slot.spared_distributor hid
  · rw [hid]
    exact Slot.spared_extended ho hi

lemma Routed.Redistributor.block_spared {r : Routed.Redistributor}
    (hr : Region.redistributors.base ≤ r.base) (hr' : r.base + 0x20000 ≤ 0x10000000000000000) :
    r.block.Spared o id := by
  intro α cleared f hf
  have hslot {i : Nat} (hi : i < 96) := hf _ (Slot.spared_redistributor hr hr' hi id.number)
  have hinfo : r.info.Within (Sparing o cleared) :=
    .bind (.request (Sparing.above (w := .doubleword) (a := r.base + 8) (by omega) (by omega)).1.mono)
      fun _ => .pure _
  rw [show r.block.locate id = r.index id >>= fun i => pure ⟨r.layout, i⟩ from rfl,
    Program.bind_assoc]
  unfold Routed.Redistributor.index
  rw [Program.bind_assoc]
  refine .require_bind fun hprivate => ?_
  have hprivate := (IntId.isPrivate_iff id).mp hprivate
  split
  next he =>
    have he := (IntId.isExtendedPpi_iff id).mp he
    rw [Program.bind_assoc]
    exact .bind hinfo fun _ => .guarded_bind fun _ => hslot (by omega)
  next he =>
    rw [IntId.isExtendedPpi_iff] at he
    exact hslot (by omega)

/-- What goes on with the outcome of a search, which looks at `n` redistributors at most. -/
lemma Routed.Redistributor.scan_bind_within {α : Type} {P : Request → Prop} {stride : Nat}
    {a : Affinity} {f : Except Refusal Routed.Redistributor → Program α} (n address : Nat)
    (hread : ∀ k < n, P (.read .doubleword (address + k * stride + 8)))
    (hok : ∀ k < n, (f (.ok ⟨address + k * stride⟩)).Within P)
    (herror : ∀ e, (f (.error e)).Within P) : (scan stride a n address >>= f).Within P := by
  induction n generalizing address with
  | zero => exact .fail (by simp)
  | succ n ih =>
    rw [scan, Program.bind_assoc]
    have hfirst := hread 0 (Nat.zero_lt_succ n)
    rw [Nat.zero_mul, Nat.add_zero] at hfirst
    refine .bind (.bind (.request hfirst) fun _ => .pure _) fun i => ?_
    split
    · have := hok 0 (Nat.zero_lt_succ n)
      rwa [Nat.zero_mul, Nat.add_zero] at this
    split
    · exact herror _
    · -- what is left of the search begins one redistributor further on
      have hnext (k : Nat) : address + stride + k * stride = address + (k + 1) * stride := by
        rw [Nat.succ_mul, Nat.add_assoc, Nat.add_comm stride]
      refine ih (address + stride) (fun k hk => ?_) fun k hk => ?_
      · rw [hnext]
        exact hread _ (Nat.succ_lt_succ hk)
      · rw [hnext]
        exact hok _ (Nat.succ_lt_succ hk)

end Blocks

/-! ### The front end -/

namespace Gic

variable {H : Type} {g : Gic H} {o : Options} (hg : g.engine.Drives o)

lemma currentAffinity_sparing : Affinity.current.Within (Sparing o none) :=
  .bind (.request (Sparing.readSystem (by decide))) fun _ => .pure _

lemma within_mono {α : Type} {p : Program α} {cleared : Option Nat} (h : p.Within (Sparing o none)) :
    p.Within (Sparing o cleared) := h.mono fun _ => Sparing.mono

include hg

lemma block_sparing (id : IntId) {α : Type} {cleared : Option Nat} {f : Block → Program α}
    (hf : ∀ b : Block, b.Spared o id → (f b).Within (Sparing o cleared)) :
    (g.block id >>= f).Within (Sparing o cleared) := by
  unfold block
  generalize g.engine = e at hg ⊢
  cases hg with
  | banked ho => exact hf _ (Banked.Distributor.block_spared id)
  | routed ho security started =>
    simp only
    split
    · have hstride := State.stride_le o
      have hbelow {k : Nat} (hk : k < 0x100000000) : k * o.stride + 0x20000 < 0x8000000000000 := by
        have := Nat.mul_le_mul (Nat.le_of_lt hk) hstride
        omega
      rw [Program.bind_assoc]
      unfold Routed.Driver.currentRedistributor
      rw [Program.bind_assoc]
      refine .bind (within_mono currentAffinity_sparing) fun a => ?_
      unfold Routed.Driver.redistributor
      rw [Program.bind_assoc]
      refine Routed.Redistributor.scan_bind_within _ _ (fun k hk => ?_) (fun k hk => ?_)
        fun e => .fail (by simp)
      · have := hbelow hk
        refine (Sparing.above ((Nat.le_add_right ..).trans (Nat.le_add_right ..)) ?_).1.mono
        simp only [Region.base]
        omega
      · have := hbelow hk
        refine hf _ (Routed.Redistributor.block_spared id ?_ ?_)
        · exact Nat.le_add_right ..
        · simp only [Region.base]
          omega
    · exact hf _ (Routed.Distributor.block_spared id ho security)

lemma setFlag_sparing {f : Flag} {v : Bool} (id : IntId) (hf : f ≠ .active ∨ v = true) :
    (g.setFlag f id v).Within (Sparing o (f.cleared v id)) :=
  block_sparing hg id fun _ hb => hb.setFlag hf

lemma hasFlag_sparing (f : Flag) (id : IntId) : (g.hasFlag f id).Within (Sparing o none) :=
  block_sparing hg id fun _ hb => hb.hasFlag f

lemma setPriority_sparing (id : IntId) (p : Priority) :
    (g.setPriority id p).Within (Sparing o none) := block_sparing hg id fun _ hb => hb.setPriority p

lemma priority_sparing (id : IntId) : (g.priority id).Within (Sparing o none) :=
  block_sparing hg id fun _ hb => hb.priority

lemma setTrigger_sparing (id : IntId) (t : Trigger) : (g.setTrigger id t).Within (Sparing o none) :=
  block_sparing hg id fun _ hb => hb.setTrigger t

lemma trigger_sparing (id : IntId) : (g.trigger id).Within (Sparing o none) :=
  block_sparing hg id fun _ hb => hb.trigger

omit hg in
lemma setTargets_sparing (id : IntId) (l : CpuSet) :
    ((Banked.Distributor.mk Region.distributor.base).setTargets id l).Within (Sparing o none) := by
  refine .require_bind fun hid => .require_bind fun _ => .request ?_
  have hid : id.number < 1020 := of_decide_eq_true hid
  rw [show (Banked.Distributor.mk Region.distributor.base).targetAddress id.number
    = Region.distributor.base + (0x800 + id.number) from Nat.add_assoc ..]
  exact .write_distributor (by omega) fun s _ => s.spares_writeDistributorByte _ _

omit hg in
/-- A route of either layout. -/
lemma routeAddress_sparing (id : IntId) (security : Routed.SecurityState) (v : BitVec 64) :
    ((Routed.Distributor.mk Region.distributor.base security).routeAddress id >>= fun a =>
      write64 a v).Within (Sparing o none) := by
  rw [show (Routed.Distributor.mk Region.distributor.base security).routeAddress id
    = (Routed.Distributor.mk Region.distributor.base security).place id >>= fun p =>
      pure (Region.distributor.base + (if p.1 then 0x8000 else 0x6000) + 8 * p.2) from rfl,
    Program.bind_assoc]
  have hwrite {i : Nat} (hi : i < 0x10000) :
      Sparing o none (.write .doubleword (Region.distributor.base + i) v) :=
    .write_distributor hi fun s _ => s.spares_writeRoute _ _
  refine Routed.Distributor.place_bind_spared id (fun hid => .request ?_) fun i hi _ => .request ?_
  · rw [Nat.add_assoc]
    exact hwrite (by simp only [Bool.false_eq_true, if_false]; omega)
  · rw [Nat.add_assoc]
    exact hwrite (by simp only [if_true]; omega)

lemma routeTo_sparing (id : IntId) (a : Affinity) : (g.routeTo id a).Within (Sparing o none) := by
  unfold routeTo
  generalize g.engine = e at hg ⊢
  cases hg with
  | banked ho => exact .bind (.expect _) fun _ => setTargets_sparing id _
  | routed ho => exact .bind (.require _) fun _ => routeAddress_sparing id _ _

lemma routeToAny_sparing (id : IntId) : (g.routeToAny id).Within (Sparing o none) := by
  unfold routeToAny
  generalize g.engine = e at hg ⊢
  cases hg with
  | banked ho =>
    exact .bind (.bind (.request (Sparing.read_distributor .word (i := 4) (by decide)))
      fun _ => .pure _) fun _ => setTargets_sparing id _
  | routed ho => exact .bind (.require _) fun _ => routeAddress_sparing id _ _

lemma routeByDefault_sparing (id : IntId) : (g.routeByDefault id).Within (Sparing o none) := by
  unfold routeByDefault
  generalize g.engine = e at hg ⊢
  cases hg with
  | banked ho => exact setTargets_sparing id _
  | routed ho =>
    exact .bind currentAffinity_sparing fun _ => .bind (.require _) fun _ =>
      routeAddress_sparing id _ _

lemma configure_sparing (c : Setup) : (g.configure c).Within (Sparing o none) := by
  have henable (v : Bool) : (g.setFlag .enabled c.id v).Within (Sparing o none) :=
    setFlag_sparing hg (f := .enabled) c.id (.inl (by decide))
  refine .bind (henable _) fun _ => .bind (setTrigger_sparing hg _ _) fun _ =>
    .bind (setPriority_sparing hg _ _) fun _ => ?_
  have hend : (notify (.configured c.id.number c.trigger.name c.priority.toNat) >>= fun _ =>
      g.setFlag .enabled c.id true).Within (Sparing o none) :=
    .bind (.request (.notify _)) fun _ => henable _
  simp only
  split
  · exact hend
  rcases c.target with _ | a
  · exact .bind (routeByDefault_sparing hg _) fun _ => hend
  · exact .bind (routeTo_sparing hg _ _) fun _ => hend

omit hg in
lemma bankedSgi_sparing (id : IntId) (dest : Destination CpuSet) :
    ((Banked.Distributor.mk Region.distributor.base).sendSgi id dest).Within (Sparing o none) := by
  refine .bind (.require _) fun _ => .request ?_
  refine Sparing.write_distributor (i := 0xf00) (by decide) fun s _ => ?_
  show s.Spares none (s.writeDistributorWord 0xf00 _)
  rw [State.writeDistributorWord_register (by decide)]
  unfold State.writeDistributorRegister
  rw [if_neg (by decide), if_neg (by decide), if_pos rfl]
  split
  · exact .refl s
  · exact State.spares_sendTo s _ _

omit hg in
lemma routedSgi_sparing (id : IntId) (dest : Destination ClusterList) :
    (Routed.CpuInterface.sendSgi id dest).Within (Sparing o none) := by
  refine .bind (.require _) fun _ => .bind ?_ fun _ =>
    .bind (.request (.sendSgi _)) fun _ => .request .barrier
  cases dest with
  | allOther => exact .pure _
  | current =>
    exact .bind currentAffinity_sparing fun _ => .bind (.expect _) fun _ => .pure _
  | listed l => exact .pure _

lemma sendToCurrent_sparing (id : IntId) : (g.sendToCurrent id).Within (Sparing o none) := by
  unfold sendToCurrent
  generalize g.engine = e at hg ⊢
  cases hg with
  | banked ho => exact bankedSgi_sparing id _
  | routed ho => exact routedSgi_sparing id _

lemma sendToAllOther_sparing (id : IntId) : (g.sendToAllOther id).Within (Sparing o none) := by
  unfold sendToAllOther
  generalize g.engine = e at hg ⊢
  cases hg with
  | banked ho => exact bankedSgi_sparing id _
  | routed ho => exact routedSgi_sparing id _

lemma sendToSet_sparing (id : IntId) (l : CpuSet) : (g.sendToSet id l).Within (Sparing o none) := by
  unfold sendToSet banked
  generalize g.engine = e at hg ⊢
  cases hg with
  | banked ho => exact bankedSgi_sparing id _
  | routed ho => exact .fail (by simp)

lemma sendToCluster_sparing (id : IntId) (l : ClusterList) :
    (g.sendToCluster id l).Within (Sparing o none) := by
  unfold sendToCluster routed
  generalize g.engine = e at hg ⊢
  cases hg with
  | banked ho => exact .fail (by simp)
  | routed ho => exact routedSgi_sparing id _

/-- Of a banked controller the priority mask is a register of the mapped interface. -/
lemma setPriorityMask_sparing (mask : Priority) :
    (g.setPriorityMask mask).Within (Sparing o none) := by
  unfold setPriorityMask
  generalize g.engine = e at hg ⊢
  cases hg with
  | banked ho =>
    refine .request (.of_answer fun s hs => ?_)
    refine ⟨_, _, Banked.CpuInterface.answer_write (hs.isRouted.trans ho) (o := 4) (by decide) _, ?_⟩
    exact .modifyCore _ fun c => rfl
  | routed ho => exact .request (.setPriorityMask _)

lemma priorityMask_sparing : g.priorityMask.Within (Sparing o none) := by
  unfold priorityMask
  generalize g.engine = e at hg ⊢
  cases hg with
  | banked ho =>
    refine .bind (.request (.of_answer fun s hs => ?_)) fun _ => .pure _
    refine ⟨_, _, Board.answer_read_interface .word (hs.isRouted.trans ho) (o := 4) rfl (by decide), ?_⟩
    rw [State.readInterface_of_ne (by decide)]
    exact .refl s
  | routed ho => exact .bind (.request (.readSystem (by decide))) fun _ => .pure _

lemma name_sparing : g.name.Within (Sparing o none) := by
  unfold name
  generalize g.engine = e at hg ⊢
  cases hg with
  | banked ho | routed ho =>
    exact .bind (.bind (.request (Sparing.read_distributor .word (i := 8) (by decide)))
      fun _ => .pure _) fun _ => .pure _

end Gic

end InterruptControl
