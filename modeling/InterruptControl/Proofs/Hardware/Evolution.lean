import InterruptControl.Proofs.Hardware.Reachable
import InterruptControl.Proofs.Hardware.Serving

/-!
What becomes of an interrupt in the course of events.

It stops being active only if it is completed, deactivated, or its active bit is cleared, and as
long as it is active no core takes it. The sender of an SGI is recorded when it reaches a core, and
changes only when a further one does. Whatever else the software accesses, on whichever core, and
whatever lines go up, both stay as they are.
-/

namespace InterruptControl.Hardware

open Bus

/-! ### What releases an interrupt, and what signals it -/

namespace State

/-- A write to a table clears the active bit of the interrupt at the place. -/
def Clears (s : State) (x : Place) (tables : List BitTable) (span offset : Nat)
    (view : Nat → Option Place) (v : BitVec 32) : Prop :=
  ∃ t first i, findTable? tables s.isRouted span offset = some (t, first) ∧ t.field = .active
    ∧ t.rule = .clear ∧ i < 32 ∧ v.getLsbD i = true ∧ view (first + i) = some x

/-- The current core completes interrupts in two steps, on the system registers or on the
memory-mapped interface. -/
def twoStep (s : State) (system : Bool) : Bool := (s.currentCore?.map (·.twoStep system)).getD false

lemma twoStep_eq {s : State} {c : Core} (hc : s.cores[s.current]? = some c) (system : Bool) :
    s.twoStep system = c.twoStep system := by
  rw [twoStep, currentCore?, hc]
  rfl

/-- An access of the current core may make the interrupt at the place inactive: it clears its
active bit, completes it in one step, or deactivates it. -/
def Releases (s : State) (x : Place) : Request → Prop
  | .write _ a v =>
    match (Board.controller s).decode a with
    | some (.distributor, o) => s.Clears x distributorTables 0x80 o s.distributorView (v.setWidth 32)
    | some (.redistributors, o) =>
      s.Clears x redistributorTables 0xc (o % s.options.stride - 0x10000)
        (s.redistributorView (o / s.options.stride)) (v.setWidth 32)
    | some (.interface, o) =>
      (o = 0x10 ∧ s.twoStep false = false ∨ o = 0x1000)
        ∧ s.place? (v.setWidth 32 &&& 0x3ff).toNat s.current = some x
    | none => False
  | .writeSystem r v => (r = .endOfInterrupt1 ∧ s.twoStep true = false ∨ r = .deactivate)
    ∧ s.place? (v &&& 0xffffff).toNat s.current = some x
  | _ => False

/-- The access of the current core sends SGI `sgi` to core `target`. -/
def Signals (s : State) (target sgi : Nat) : Request → Prop
  | .write .word a v => s.isRouted = false
    ∧ (Board.controller s).decode a = some (.distributor, 0xf00)
    ∧ (v &&& 0xf).toNat = sgi ∧ (s.sgiMask v).getLsbD target = true
  | .writeSystem r v => r = .softwareInterrupt1
    ∧ ((v >>> 24) &&& 0xf).toNat = sgi ∧ target ∈ s.sgiTargets v
  | _ => False

end State

def Event.Releases (s : State) (x : Place) : Event → Prop
  | .access q => s.Releases x q
  | _ => False

def Event.Signals (s : State) (target sgi : Nat) : Event → Prop
  | .access q => s.Signals target sgi q
  | _ => False

/-! ### What becomes of a single interrupt -/

/-- An active interrupt stays active, unless it is released; and the sender stays the same, unless
the interrupt is signalled. -/
structure Irq.Evolves (released signalled : Prop) (q q' : Irq) : Prop where
  active (h : q.active = true) : q'.active = true ∨ released
  source : q'.source = q.source ∨ signalled

namespace Irq.Evolves

variable {a b : Prop} {q q' q'' : Irq}

lemma refl (q : Irq) : q.Evolves a b q := ⟨.inl, .inl rfl⟩

lemma trans (h : q.Evolves a b q') (h' : q'.Evolves a b q'') : q.Evolves a b q'' := by
  refine ⟨fun hq => (h.active hq).elim h'.active .inr, ?_⟩
  rcases h.source with hs | hb
  · exact hs ▸ h'.source
  · exact .inr hb

lemma put {f : Field} {v : Bool} (h : f = .active → v = false → a) : q.Evolves a b (q.put f v) := by
  cases f with
  | active =>
    rcases hv : v with _ | _
    · exact ⟨fun _ => .inr (h rfl hv), .inl rfl⟩
    · exact ⟨fun _ => .inl rfl, .inl rfl⟩
  | _ => exact ⟨.inl, .inl rfl⟩

end Irq.Evolves

namespace State

/-- What becomes of the interrupt at the place. -/
def Evolves (released signalled : Prop) (x : Place) (s t : State) : Prop :=
  Option.Rel (Irq.Evolves released signalled) (s.at? x) (t.at? x)

variable {a b : Prop} {x p : Place} {s t u : State}

namespace Evolves

lemma of_at? (h : t.at? x = s.at? x) : Evolves a b x s t := by
  rw [Evolves, h]
  rcases s.at? x with _ | q
  · exact .none
  · exact .some (.refl q)

lemma refl (s : State) : Evolves a b x s s := of_at? rfl

lemma trans (h : Evolves a b x s t) (h' : Evolves a b x t u) : Evolves a b x s u := by
  unfold Evolves at h h' ⊢
  generalize s.at? x = q at h ⊢
  generalize t.at? x = q' at h h'
  generalize u.at? x = q'' at h' ⊢
  cases h with
  | none => exact h'
  | some hq =>
    cases h' with
    | some hq' => exact .some (hq.trans hq')

lemma modify {f : Irq → Irq} (hf : p = x → ∀ q : Irq, q.Evolves a b (f q)) :
    Evolves a b x s (s.modify p f) := by
  rw [Evolves, at?_modify]
  split
  next hp =>
    rcases s.at? x with _ | q
    · exact .none
    · exact .some (hf hp.symm q)
  next => exact refl s

lemma modifyIrq {id cpu : Nat} {f : Irq → Irq}
    (hf : s.place? id cpu = some x → ∀ q : Irq, q.Evolves a b (f q)) :
    Evolves a b x s (s.modifyIrq id cpu f) := by
  unfold State.modifyIrq
  split
  next hp => exact modify fun he => hf (he ▸ hp)
  next => exact refl s

lemma modifyCore {cpu : Nat} {f : Core → Core} (hf : ∀ c, (f c).own = c.own ∧ (f c).lpis = c.lpis) :
    Evolves a b x s (s.modifyCore cpu f) := of_at? (at?_modifyCore hf x)

lemma modifyMany (view : Nat → Option Place) (first : Nat) {rule : Nat → Irq → Irq} {l : List Nat}
    (hrule : ∀ i ∈ l, view (first + i) = some x → ∀ q : Irq, q.Evolves a b (rule i q)) :
    Evolves a b x s (s.modifyMany view first rule l) := by
  induction l generalizing s with
  | nil => exact refl s
  | cons i rest ih =>
    have hrest := fun {s : State} => ih (s := s) fun k hk => hrule k (List.mem_cons_of_mem i hk)
    rw [State.modifyMany]
    split
    next p hp =>
      refine (modify fun he => ?_).trans hrest
      exact hrule i (List.mem_cons_self ..) (he ▸ hp)
    next => exact hrest

lemma writeTriggers (view : Nat → Option Place) (first : Nat) (v : BitVec 32) :
    Evolves a b x s (s.writeTriggers view first v) :=
  modifyMany view first fun _ _ _ _ => ⟨.inl, .inl rfl⟩

/-- Only a table that clears active bits may release an interrupt, for no table has them written
directly. -/
lemma writeBits {tables : List BitTable} {span offset first : Nat} {w : BitTable}
    (hplain : ∀ w ∈ tables, w.field = .active → w.rule ≠ .plain)
    (hw : findTable? tables s.isRouted span offset = some (w, first)) (view : Nat → Option Place)
    (v : BitVec 32) (ha : s.Clears x tables span offset view v → a) :
    Evolves a b x s (s.writeBits view first w.field w.rule v) := by
  have hmem : w ∈ tables := by
    obtain ⟨w', hfind, he⟩ := Option.map_eq_some_iff.mp hw
    obtain rfl := (Prod.mk.inj he).1
    exact List.mem_of_find?_eq_some hfind
  refine modifyMany view first fun i hi hx q => ?_
  rcases hrule : w.rule with _ | _ | _
  · exact .put fun hf _ => absurd hrule (hplain w hmem hf)
  · rw [WriteRule.apply]
    split
    · exact .put fun _ hv => absurd hv (by decide)
    · exact .refl q
  · rw [WriteRule.apply]
    split
    next hbit => exact .put fun hf _ => ha ⟨w, first, i, hw, hf, hrule, List.mem_range.mp hi, hbit, hx⟩
    next => exact .refl q

lemma modifyDistributorIrq (n : Nat) {f : Irq → Irq} (hf : ∀ q : Irq, q.Evolves a b (f q)) :
    Evolves a b x s (s.modifyDistributorIrq n f) := by
  unfold State.modifyDistributorIrq
  split
  · exact modify fun _ => hf
  · exact refl s

lemma sendTo {n : Nat} {cores : List Nat} (hb : ∀ cpu ∈ cores, x = .own cpu n → b) :
    Evolves a b x s (s.sendTo n cores) := by
  have hone (t : State) {cpu : Nat} (hcpu : cpu ∈ cores) :
      Evolves a b x t (t.receiveSgi cpu n s.current) :=
    modify fun hp _ => ⟨.inl, .inr (hb cpu hcpu hp.symm)⟩
  have hall (l : List Nat) : l ⊆ cores → ∀ t : State,
      Evolves a b x t (l.foldl (fun t cpu => t.receiveSgi cpu n s.current) t) := by
    induction l with
    | nil => exact fun _ => refl
    | cons cpu rest ih =>
      intro hl t
      obtain ⟨hcpu, hrest⟩ := List.cons_subset.mp hl
      exact (hone t hcpu).trans (ih hrest _)
  exact hall cores (List.Subset.refl _) s

end Evolves

/-! ### The regions -/

lemma evolves_writeDistributorRegister {o : Nat} {v : BitVec 32}
    (hb : s.isRouted = false → o = 0xf00 → ∀ cpu, x = .own cpu (v &&& 0xf).toNat →
      (s.sgiMask v).getLsbD cpu = true → b) :
    Evolves a b x s (s.writeDistributorRegister o v) := by
  unfold writeDistributorRegister
  split
  · exact .of_at? rfl
  split
  · split
    · exact .modifyDistributorIrq _ fun _ => ⟨.inl, .inl rfl⟩
    · exact .refl s
  split
  next ho =>
    split
    · exact .refl s
    next hr =>
      refine .sendTo fun cpu hcpu hx => hb (by simpa using hr) ho cpu hx ?_
      exact (List.mem_filter.mp hcpu).2
  · exact .refl s

lemma evolves_writeDistributorWord {o : Nat} {v : BitVec 32}
    (ha : s.Clears x distributorTables 0x80 o s.distributorView v → a)
    (hb : s.isRouted = false → o = 0xf00 → ∀ cpu, x = .own cpu (v &&& 0xf).toNat →
      (s.sgiMask v).getLsbD cpu = true → b) :
    Evolves a b x s (s.writeDistributorWord o v) := by
  unfold writeDistributorWord
  split
  next hw => exact .writeBits (by decide) hw _ v ha
  split
  · split
    · exact .refl s
    · exact .writeTriggers _ _ _
  split
  · exact .writeTriggers _ _ _
  split
  · split
    · exact .refl s
    · exact .of_at? rfl
  · exact evolves_writeDistributorRegister hb

lemma evolves_writeDistributor {o : Nat} {w : Width} {v : BitVec w.bits}
    (ha : s.Clears x distributorTables 0x80 o s.distributorView (v.setWidth 32) → a)
    (hb : w = .word → s.isRouted = false → o = 0xf00 → ∀ cpu,
      x = .own cpu (v.setWidth 32 &&& 0xf).toNat → (s.sgiMask (v.setWidth 32)).getLsbD cpu = true → b) :
    Evolves a b x s (s.writeDistributor o w v) := by
  cases w with
  | byte =>
    rw [writeDistributor]
    unfold writeDistributorByte
    repeat' split
    all_goals first
      | exact .refl s
      | exact .modifyDistributorIrq _ fun _ => ⟨.inl, .inl rfl⟩
  | word =>
    have hv : v.setWidth 32 = v := BitVec.setWidth_eq v
    rw [hv] at ha hb
    exact evolves_writeDistributorWord ha (hb rfl)
  | doubleword =>
    rw [writeDistributor]
    unfold writeRoute
    split
    · exact .modifyDistributorIrq _ fun _ => ⟨.inl, .inl rfl⟩
    · exact .refl s

lemma evolves_writeRedistributor {o : Nat} {w : Width} {v : BitVec w.bits}
    (ha : s.Clears x redistributorTables 0xc (o % s.options.stride - 0x10000)
      (s.redistributorView (o / s.options.stride)) (v.setWidth 32) → a) :
    Evolves a b x s (s.writeRedistributor o w v) := by
  simp only [writeRedistributor]
  split
  · unfold writeCoreFrame
    repeat' split
    all_goals first
      | exact .refl s
      | exact .modifyCore fun _ => ⟨rfl, rfl⟩
  split
  · split
    · unfold writePrivateByte
      repeat' split
      all_goals first
        | exact .refl s
        | exact .modify fun _ _ => ⟨.inl, .inl rfl⟩
    · unfold writePrivateWord
      split
      next hw => exact .writeBits (by decide) hw _ _ ha
      repeat' split
      all_goals first
        | exact .refl s
        | exact .writeTriggers _ _ _
        | exact .modifyCore fun _ => ⟨rfl, rfl⟩
  · exact .refl s

/-! ### The CPU interfaces -/

lemma evolves_acknowledge (cpu : Nat) : Evolves a b x s (s.acknowledge cpu).2 := by
  unfold acknowledge
  split
  · exact .refl s
  · refine .trans ?_ (.modifyCore fun _ => ⟨rfl, rfl⟩)
    exact .modifyIrq fun _ q => ⟨fun hq => .inl (by simp [hq]), .inl rfl⟩

lemma evolves_endInterrupt {cpu id : Nat} {twoStep : Bool}
    (h : s.endInterrupt cpu id twoStep = .ok t)
    (ha : twoStep = false → s.place? id cpu = some x → a) : Evolves a b x s t := by
  obtain rfl := eq_of_endInterrupt h
  have hdrop : Evolves a b x s (s.dropPriority cpu id) := .of_at? (at?_dropPriority x)
  rcases twoStep with _ | _
  · refine hdrop.trans (.modifyIrq fun hp _ => ?_)
    rw [place?_dropPriority] at hp
    exact ⟨fun _ => .inr (ha rfl hp), .inl rfl⟩
  · exact hdrop

lemma evolves_deactivate {cpu id : Nat} (h : s.deactivate cpu id = .ok t)
    (ha : s.place? id cpu = some x → a) : Evolves a b x s t := by
  obtain rfl := eq_of_deactivate h
  exact .modifyIrq fun hp _ => ⟨fun _ => .inr (ha hp), .inl rfl⟩

lemma evolves_readInterface (o : Nat) (w : Width) : Evolves a b x s (s.readInterface o w).2 := by
  by_cases ho : o = 0xc
  · subst ho
    rcases hc : s.currentCore? with _ | c <;> cases w <;> simp only [readInterface, hc]
    all_goals first
      | exact .refl s
      | exact evolves_acknowledge _
  · rw [readInterface_of_ne ho]
    exact .refl s

lemma evolves_tuned {f : Core → Core} (hf : Core.Tunes f) : Evolves a b x s (s.modifyCurrent f) :=
  .modifyCore fun c => ⟨(congrArg Core.own (hf.untuned c) :), (congrArg Core.lpis (hf.untuned c) :)⟩

lemma evolves_writeInterface {o : Nat} {v : BitVec 32} (h : s.writeInterface o v = .ok t)
    (ha : (o = 0x10 ∧ s.twoStep false = false ∨ o = 0x1000)
      ∧ s.place? (v &&& 0x3ff).toNat s.current = some x → a) : Evolves a b x s t := by
  rcases cases_writeInterface h with ⟨ho, hend⟩ | ⟨ho, hend⟩ | ⟨f, hf, rfl⟩
  · exact evolves_endInterrupt hend fun hone hp => ha ⟨.inl ⟨ho, hone⟩, hp⟩
  · exact evolves_deactivate hend fun hp => ha ⟨.inr ho, hp⟩
  · exact evolves_tuned hf

lemma evolves_readSystem (r : SystemRegister) : Evolves a b x s (s.readSystem r).2 := by
  by_cases hr : r = .acknowledge1
  · subst hr
    unfold readSystem
    split
    · exact .refl s
    · exact evolves_acknowledge _
  · rw [readSystem_of_ne hr]
    exact .refl s

lemma evolves_writeSystem {r : SystemRegister} {v : BitVec 64} (h : s.writeSystem r v = .ok t)
    (ha : s.Releases x (.writeSystem r v) → a)
    (hb : ∀ cpu sgi, x = .own cpu sgi → s.Signals cpu sgi (.writeSystem r v) → b) :
    Evolves a b x s t := by
  obtain ⟨c, hc, ⟨rfl, hend⟩ | ⟨rfl, hend⟩ | ⟨rfl, rfl⟩ | ⟨f, hf, rfl⟩⟩ := cases_writeSystem h
  · refine evolves_endInterrupt hend fun hone hp => ha ⟨.inl ⟨rfl, ?_⟩, hp⟩
    exact (twoStep_eq hc true).trans hone
  · exact evolves_deactivate hend fun hp => ha ⟨.inr rfl, hp⟩
  · exact .sendTo fun cpu hcpu hx => hb cpu _ hx ⟨rfl, rfl, hcpu⟩
  · exact evolves_tuned hf

/-! ### Any event -/

lemma evolves_access {q : Request} (ha : s.Releases x q → a)
    (hb : ∀ cpu sgi, x = .own cpu sgi → s.Signals cpu sgi q → b) :
    Evolves a b x s (s.after (.access q)) := by
  cases q with
  | read w i =>
    rcases hd : (Board.controller s).decode i with _ | ⟨_ | _ | _, o⟩ <;>
      simp only [State.after, Board.answer, hd]
    · exact .refl s
    · exact .refl s
    · exact evolves_readInterface o w
    · exact .refl s
  | write w i v =>
    rcases hd : (Board.controller s).decode i with _ | ⟨_ | _ | _, o⟩ <;>
      simp only [State.after, Board.answer, hd] <;> simp only [Releases, hd] at ha
    · exact .refl s
    · refine evolves_writeDistributor ha ?_
      rintro rfl hr rfl cpu hx hcpu
      rw [BitVec.setWidth_eq] at hx hcpu
      exact hb cpu _ hx ⟨hr, hd, rfl, hcpu⟩
    · simp only [Board.write, Board.writeRegion]
      rcases hw : s.writeInterface o (v.setWidth 32) with e | t
      · exact .refl s
      · exact evolves_writeInterface hw ha
    · exact evolves_writeRedistributor ha
  | readSystem r => exact evolves_readSystem r
  | writeSystem r v =>
    simp only [State.after, Board.answer, Board.writeSystem]
    rcases hw : s.writeSystem r v with e | t
    · exact .refl s
    · exact evolves_writeSystem hw ha hb
  | barrier | notify _ => exact .refl s

/-- Anything may happen. LPIs come and go, and are never active. -/
lemma evolves_after (hx : ∀ cpu id, x ≠ .lpi cpu id) {e : Event} (ha : e.Releases s x → a)
    (hb : ∀ cpu sgi, x = .own cpu sgi → e.Signals s cpu sgi → b) :
    Evolves a b x s (s.after e) := by
  cases e with
  | access q => exact evolves_access ha hb
  | setCurrent cpu =>
    simp only [State.after, State.setCurrent]
    split
    · exact .of_at? rfl
    · exact .refl s
  | setAffinity cpu v => exact after_setAffinity s cpu v ▸ .modifyCore fun _ => ⟨rfl, rfl⟩
  | raise id cpu => exact after_raise s cpu id ▸ .modifyIrq fun _ _ => ⟨.inl, .inl rfl⟩
  | raiseLpi id p cpu =>
    simp only [State.after, State.raiseLpi]
    split
    · refine .of_at? ?_
      cases x with
      | shared i => rfl
      | own cpu' i =>
        simp only [orElse, at?, getElem?_modifyCore]
        split
        · rcases s.cores[cpu']? with _ | c <;> rfl
        · rfl
      | lpi cpu' n => exact absurd rfl (hx cpu' n)
    · exact .refl s
  | stickDistributor stuck => exact .of_at? rfl
  | stickRedistributor cpu stuck =>
    exact after_stickRedistributor s cpu stuck ▸ .modifyCore fun _ => ⟨rfl, rfl⟩
  | stickWaker cpu stuck => exact after_stickWaker s cpu stuck ▸ .modifyCore fun _ => ⟨rfl, rfl⟩

/-! ### Activity -/

/-- The interrupt at the place is active. -/
def ActiveAt (s : State) (x : Place) : Prop := ∃ q, s.at? x = some q ∧ q.active = true

/-- The interrupt at the place is active still. -/
def Holds (x : Place) (s t : State) : Prop := s.ActiveAt x → t.ActiveAt x

lemma Evolves.holds (h : Evolves False b x s t) : Holds x s t := by
  rintro ⟨q, hq, ha⟩
  rw [Evolves, hq] at h
  rcases ht : t.at? x with _ | q' <;> rw [ht] at h <;> cases h
  next he => exact ⟨q', ht, (he.active ha).resolve_right id⟩

/-- No core takes an active interrupt. -/
lemma ActiveAt.ne_of_next? (h : s.ActiveAt x) {cpu : Nat} {e : Nat × Priority}
    (hn : s.next? cpu = some e) : s.place? e.1 cpu ≠ some x := by
  intro hp
  obtain ⟨q, hq, ha⟩ := h
  obtain ⟨c, q', -, -, hq', -, hel⟩ := irq?_of_next? hn
  rw [irq?_of_place _ _ _ hp, hq] at hq'
  obtain rfl := Option.some.inj hq'
  exact Bool.false_ne_true ((eligible_iff.mp hel).2.2.1.symm.trans ha)

/-- In the course of the events, none that may make the interrupt inactive. -/
def Undisturbed (x : Place) : State → List Event → Prop
  | _, [] => True
  | s, e :: rest => ¬ e.Releases s x ∧ Undisturbed x (s.after e) rest

/-- So it stays active all along. -/
lemma holds_foldl (hx : ∀ cpu id, x ≠ .lpi cpu id) {l : List Event} (h : Undisturbed x s l) :
    Holds x s (l.foldl State.after s) := by
  induction l generalizing s with
  | nil => exact id
  | cons e rest ih =>
    have hstep : Evolves False True x s (s.after e) := evolves_after hx h.1 fun _ _ _ _ => trivial
    exact ih h.2 ∘ hstep.holds

/-! ### Senders -/

variable {target sgi : Nat}

/-- Who sent SGI `sgi` to core `target` last. -/
def sender? (s : State) (target sgi : Nat) : Option (BitVec 32) :=
  (s.at? (.own target sgi)).map (·.source)

/-- Both know the same sender of SGI `sgi` to core `target`. -/
structure Recalls (target sgi : Nat) (s t : State) : Prop where
  sender : t.sender? target sgi = s.sender? target sgi

lemma Evolves.recalls (h : Evolves a False (.own target sgi) s t) : Recalls target sgi s t := by
  constructor
  rw [Evolves] at h
  rw [sender?, sender?]
  generalize s.at? (.own target sgi) = q at h ⊢
  generalize t.at? (.own target sgi) = q' at h ⊢
  cases h with
  | none => rfl
  | some hq => exact congrArg some (hq.source.resolve_right id)

/-- In the course of the events, none sends SGI `sgi` to core `target`. -/
def Unsignalled (target sgi : Nat) : State → List Event → Prop
  | _, [] => True
  | s, e :: rest => ¬ e.Signals s target sgi ∧ Unsignalled target sgi (s.after e) rest

/-- So the sender is known all along. -/
lemma recalls_foldl {l : List Event} (h : Unsignalled target sgi s l) :
    Recalls target sgi s (l.foldl State.after s) := by
  induction l generalizing s with
  | nil => exact ⟨rfl⟩
  | cons e rest ih =>
    have hown : ∀ cpu id, Place.own target sgi ≠ .lpi cpu id := by rintro _ _ ⟨⟩
    have hstep : Evolves True False (.own target sgi) s (s.after e) := by
      refine evolves_after hown (fun _ => trivial) ?_
      rintro cpu id ⟨⟩
      exact h.1
    exact ⟨(ih h.2).sender.trans hstep.recalls.sender⟩

end State

end InterruptControl.Hardware
