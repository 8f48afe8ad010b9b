import InterruptControl.Hardware.Tables
import InterruptControl.Proofs.Hardware.Place

/-!
What reading and writing a word of a table says about single interrupts.

A view is injective if no two numbers lead to the same place. Through such a view, a write
that changes at most one of the interrupts of a word is a change at one place.
-/

namespace InterruptControl.Hardware

/-- No two numbers lead to the same place. -/
def InjectiveView (view : Nat → Option Place) : Prop :=
  ∀ ⦃i j p⦄, view i = some p → view j = some p → i = j

namespace State

variable {s : State} {view : Nat → Option Place} {first j : Nat}

lemma irqAt?_of_place {p : Place} (h : view j = some p) : s.irqAt? view j = s.at? p := by
  simp [irqAt?, h]

lemma modifyMany_eq_self {rule : Nat → Irq → Irq} {l : List Nat}
    (h : ∀ i ∈ l, ∀ p q, view (first + i) = some p → s.at? p = some q → rule i q = q) :
    s.modifyMany view first rule l = s := by
  induction l with
  | nil => rfl
  | cons i rest ih =>
    have hrest := ih fun k hk => h k (List.mem_cons_of_mem i hk)
    rw [modifyMany]
    split
    next p hp =>
      have : s.modify p (rule i) = s :=
        modify_eq_self fun q hq => h i (List.mem_cons_self ..) p q hp hq
      rw [this, hrest]
    next => exact hrest

/-- Where all rules but one change nothing, that one rule is the whole change. -/
lemma modifyMany_eq_modify {rule : Nat → Irq → Irq} {l : List Nat} {p : Place}
    (hview : InjectiveView view) (hl : l.Nodup) (hj : j ∈ l) (hp : view (first + j) = some p)
    (h : ∀ i ∈ l, i ≠ j → ∀ p' q, view (first + i) = some p' → s.at? p' = some q → rule i q = q) :
    s.modifyMany view first rule l = s.modify p (rule j) := by
  induction l with
  | nil => simp at hj
  | cons i rest ih =>
    obtain ⟨hi, hrest⟩ := List.nodup_cons.mp hl
    rw [modifyMany]
    rcases eq_or_ne i j with rfl | hne
    · rw [hp]
      -- the interrupts that follow are at other places
      refine modifyMany_eq_self fun k hk p' q hp' hq => ?_
      have hki : k ≠ i := fun he => hi (he ▸ hk)
      have hpp : p' ≠ p := by
        rintro rfl
        exact hki (by have := hview hp' hp; omega)
      rw [at?_modify_of_ne _ _ hpp] at hq
      exact h k (List.mem_cons_of_mem i hk) hki p' q hp' hq
    · have hj' : j ∈ rest := (List.mem_cons.mp hj).resolve_left hne.symm
      have htail := ih hrest hj' fun k hk => h k (List.mem_cons_of_mem i hk)
      split
      next p' hp' =>
        have : s.modify p' (rule i) = s :=
          modify_eq_self fun q hq => h i (List.mem_cons_self ..) hne p' q hp' hq
        rw [this, htail]
      next => exact htail

/-- Changes what a view finds behind a number, if it finds anything. -/
def modifyAt (s : State) (view : Nat → Option Place) (i : Nat) (f : Irq → Irq) : State :=
  match view i with
  | some p => s.modify p f
  | none => s

/-- The same where the view may find nothing behind that one number. -/
lemma modifyMany_eq_modifyAt {rule : Nat → Irq → Irq} {l : List Nat} (hview : InjectiveView view)
    (hl : l.Nodup) (hj : j ∈ l)
    (h : ∀ i ∈ l, i ≠ j → ∀ p q, view (first + i) = some p → s.at? p = some q → rule i q = q) :
    s.modifyMany view first rule l = s.modifyAt view (first + j) (rule j) := by
  unfold modifyAt
  split
  next p hp => exact modifyMany_eq_modify hview hl hj hp h
  next hnone =>
    refine modifyMany_eq_self fun i hi p q hp hq => h i hi ?_ p q hp hq
    rintro rfl
    simp [hnone] at hp

/-! ### Tables of bits -/

/-- The field of the interrupt behind a number, down where none is implemented. -/
def bitAt (s : State) (view : Nat → Option Place) (f : Field) (i : Nat) : Bool :=
  ((s.irqAt? view i).map (·.get f)).getD false

lemma getLsbD_readBits (f : Field) {k : Nat} (hk : k < 32) :
    (s.readBits view first f).getLsbD k = s.bitAt view f (first + k) :=
  Word.getLsbD_ofBits 32 _ k hk

lemma get_of_bitAt {f : Field} {i : Nat} {p : Place} {q : Irq} (hp : view i = some p)
    (hq : s.at? p = some q) : s.bitAt view f i = q.get f := by
  simp [bitAt, irqAt?_of_place hp, hq]

lemma modifyAt_put_of_bitAt {f : Field} {i : Nat} {b : Bool} (h : s.bitAt view f i = b) :
    s.modifyAt view i (·.put f b) = s := by
  unfold modifyAt
  split
  next p hp =>
    refine modify_eq_self fun q hq => ?_
    rw [← h, get_of_bitAt hp hq]
    cases f <;> rfl
  next => rfl

/-- Writing the lone bit `k` to a table that sets or clears flags. -/
lemma writeBits_twoPow {f : Field} {b : Bool} {r : WriteRule} {k : Nat}
    (hr : r = if b then .set else .clear) (hview : InjectiveView view) (hk : k < 32) :
    s.writeBits view first f r (BitVec.twoPow 32 k) = s.modifyAt view (first + k) (·.put f b) := by
  have hrule : r.apply f ((BitVec.twoPow 32 k).getLsbD k) = (·.put f b) := by
    subst hr
    funext q
    cases b <;> simp [WriteRule.apply, hk]
  rw [writeBits, modifyMany_eq_modifyAt (j := k) hview List.nodup_range (by simpa using hk), hrule]
  intro i hi hne p q _ _
  have : (BitVec.twoPow 32 k).getLsbD i = false := by simp [hne.symm]
  rw [this]
  subst hr
  cases b <;> rfl

/-- Writing back a word in which bit `k` was assigned. -/
lemma writeBits_assign {f : Field} {b : Bool} {k : Nat} {w : BitVec 32} (hview : InjectiveView view)
    (hk : k < 32)
    (hw : ∀ i < 32, w.getLsbD i = if i = k then b else s.bitAt view f (first + i)) :
    s.writeBits view first f .plain w = s.modifyAt view (first + k) (·.put f b) := by
  rw [writeBits, modifyMany_eq_modifyAt (j := k) hview List.nodup_range (by simpa using hk),
    hw k hk, if_pos rfl]
  · rfl
  intro i hi hne p q hp hq
  rw [hw i (by simpa using hi), if_neg hne, get_of_bitAt hp hq]
  cases f <;> rfl

/-! ### Triggers -/

/-- Whether the interrupt behind a number is edge triggered. -/
def edgeAt (s : State) (view : Nat → Option Place) (i : Nat) : Bool :=
  ((s.irqAt? view i).map (·.edge)).getD false

lemma getLsbD_readTriggers {k : Nat} (hk : k < 16) :
    (s.readTriggers view first).getLsbD (k * 2 + 1) = s.edgeAt view (first + k) := by
  rw [readTriggers, Word.getLsbD_ofBits 32 _ _ (by omega)]
  have h2 : (k * 2 + 1) / 2 = k := by omega
  simp [edgeAt, Nat.add_mod, h2]

lemma writeTriggers_assign {b : Bool} {k : Nat} {w : BitVec 32} (hview : InjectiveView view)
    (hk : k < 16)
    (hw : ∀ i < 16, w.getLsbD (i * 2 + 1) = if i = k then b else s.edgeAt view (first + i)) :
    s.writeTriggers view first w = s.modifyAt view (first + k) fun q => { q with edge := b } := by
  rw [writeTriggers, modifyMany_eq_modifyAt (j := k) hview List.nodup_range (by simpa using hk),
    Nat.mul_comm, hw k hk, if_pos rfl]
  intro i hi hne p q hp hq
  rw [Nat.mul_comm, hw i (by simpa using hi), if_neg hne]
  simp [edgeAt, irqAt?_of_place hp, hq]

end State

end InterruptControl.Hardware
