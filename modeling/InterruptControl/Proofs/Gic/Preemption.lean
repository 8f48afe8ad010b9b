import InterruptControl.Proofs.Gic.Interface

/-!
Preemption is strict: whatever a core runs was more urgent than all that it interrupted.

What a core has not finished is told from its accesses alone. The priorities in that list are
those at the time of acknowledging, so they do not change when an interrupt is given another
one, and an entry may be dropped anywhere in the list.
-/

namespace InterruptControl

open Bus Hardware Program

namespace Hardware

/-! ### What a core has not finished -/

/-- A core acknowledges an interrupt or drops the priority of one. -/
inductive Deed where
  | began (r : Running)
  | ended (id : Nat)

/-- The unfinished interrupts after a deed, the latest first. -/
def Deed.apply : Deed → List Running → List Running
  | began r, l => r :: l
  | ended id, l => l.eraseP (·.id == id)

/-- The unfinished interrupts after what may have been a deed. -/
def settle (d : Option Deed) (l : List Running) : List Running := d.elim l (·.apply l)

namespace State

/-- The current core reads one of the two acknowledge registers. -/
def acknowledges (s : State) : Request → Bool
  | .read .word a => (Board.controller s).decode a == some (.interface, 0xc)
  | .readSystem r => r == .acknowledge1
  | _ => false

/-- The number that the current core writes to one of the two registers that drop a priority. -/
def ends? (s : State) : Request → Option Nat
  | .write _ a v =>
    if (Board.controller s).decode a = some (.interface, 0x10) then
      some (v.setWidth 32 &&& 0x3ff).toNat
    else none
  | .writeSystem .endOfInterrupt1 v => some (v &&& 0xffffff).toNat
  | _ => none

/-- The interrupt that the core takes, with the priority that it has at that time. -/
def began? (s : State) (cpu : Nat) : Option Running :=
  (s.next? cpu).bind fun e => (s.irq? e.1 cpu).map fun q => ⟨e.1, q.priority⟩

/-- The access is carried out. -/
def accepts (s : State) (q : Request) : Bool := (Board.answer (.controller s) q).1.isOk

/-- What the current core does by an access. -/
def deed? (s : State) (q : Request) : Option Deed :=
  if s.acknowledges q then (s.began? s.current).map .began
  else if s.accepts q then (s.ends? q).map .ended
  else none

end State

/-- What core `cpu` does when this happens. -/
def Event.deed? (s : State) (cpu : Nat) : Event → Option Deed
  | .access q => if s.current = cpu then s.deed? q else none
  | _ => none

/-- The interrupts that core `cpu` has acknowledged since power-up and not finished, the latest
first, with the priorities that they had when they were acknowledged. -/
def unfinished (o : Options) (cpu : Nat) (l : List Event) : List Running :=
  (l.foldl (fun x e => (State.after x.1 e, settle (e.deed? x.1 cpu) x.2)) (.reset o, [])).2

lemma unfinished_concat (o : Options) (cpu : Nat) (l : List Event) (e : Event) :
    unfinished o cpu (l ++ [e])
      = settle (e.deed? (l.foldl State.after (.reset o)) cpu) (unfinished o cpu l) := by
  have hstate : ∀ (l : List Event) (x : State × List Running),
      (l.foldl (fun x e => (State.after x.1 e, settle (e.deed? x.1 cpu) x.2)) x).1
        = l.foldl State.after x.1 := by
    intro l
    induction l with
    | nil => exact fun x => rfl
    | cons e rest ih => exact fun x => ih _
  simp only [unfinished, List.foldl_append, List.foldl_cons, List.foldl_nil, hstate]

/-! ### What happens changes at most that -/

/-- From `c` to `c'` a core has done `d`, and a priority mask that it has set is one of 8
bits. -/
structure Core.Turns (d : Option Deed) (c c' : Core) : Prop where
  running : c'.running = settle d c.running
  priorityMask : c'.priorityMask = c.priorityMask ∨ c'.priorityMask.toNat ≤ 0xff
  mappedPriorityMask :
    c'.mappedPriorityMask = c.mappedPriorityMask ∨ c'.mappedPriorityMask.toNat ≤ 0xff

/-- What a core runs, and its priority masks. -/
def Core.levels (c : Core) : List Running × BitVec 64 × BitVec 32 :=
  (c.running, c.priorityMask, c.mappedPriorityMask)

lemma Core.levels_of_steady {c c' : Core} (h : c.steady = c'.steady) : c.levels = c'.levels :=
  (congrArg levels h :)

lemma Core.turns_of_levels {c c' : Core} (h : c.levels = c'.levels) : Turns none c c' :=
  ⟨(congrArg (·.1) h :).symm, .inl (congrArg (·.2.1) h :).symm, .inl (congrArg (·.2.2) h :).symm⟩

namespace State

variable {s t : State} {cpu : Nat} {d : Nat → Option Deed}

/-- From `s` to `t` every core has done its part of `d`. -/
def Turns (d : Nat → Option Deed) (s t : State) : Prop :=
  ∀ cpu c', t.cores[cpu]? = some c' → ∃ c, s.cores[cpu]? = some c ∧ Core.Turns (d cpu) c c'

namespace Turns

lemma of_cores (h : t.cores = s.cores) : Turns (fun _ => none) s t := by
  intro cpu c' hc'
  exact ⟨c', h ▸ hc', Core.turns_of_levels rfl⟩

lemma of_levels (h : Agree Core.levels s t) : Turns (fun _ => none) s t := by
  intro cpu c' hc'
  obtain ⟨c, hc, he⟩ := h.exists_core hc'
  exact ⟨c, hc, Core.turns_of_levels he⟩

lemma refl (s : State) : Turns (fun _ => none) s s := of_cores rfl

lemma of_steady (h : Agree Core.steady s t) : Turns (fun _ => none) s t :=
  of_levels (h.mono fun _ _ => Core.levels_of_steady)

lemma of_bare (h : t.bare = s.bare) : Turns (fun _ => none) s t := of_steady (agree_of_bare s h)

/-- Only core `cpu` does anything. -/
lemma modifyCore {e : Option Deed} {f : Core → Core} (hf : ∀ c, Core.Turns e c (f c)) :
    Turns (fun k => if cpu = k then e else none) s (s.modifyCore cpu f) := by
  intro k c' hc'
  rw [getElem?_modifyCore] at hc'
  rcases eq_or_ne cpu k with rfl | hk
  · rw [if_pos rfl] at hc'
    obtain ⟨c, hc, rfl⟩ := Option.map_eq_some_iff.mp hc'
    exact ⟨c, hc, by simpa using hf c⟩
  · rw [if_neg hk.symm] at hc'
    simp only [if_neg hk]
    exact ⟨c', hc', Core.turns_of_levels rfl⟩

lemma modifyCore_none (cpu : Nat) {f : Core → Core} (hf : ∀ c, Core.Turns none c (f c)) :
    Turns (fun _ => none) s (s.modifyCore cpu f) := by simpa using modifyCore hf

lemma of_bare_left {u : State} (hb : t.bare = s.bare) (h : Turns d t u) : Turns d s u := by
  intro cpu c' hc'
  obtain ⟨c, hc, ht⟩ := h cpu c' hc'
  obtain ⟨c₀, hc₀, he⟩ := exists_core_of_bare hb hc
  have hl : c.levels = c₀.levels := Core.levels_of_steady (Core.steady_of_bare he)
  obtain ⟨h1, h2, h3⟩ : c.running = c₀.running ∧ c.priorityMask = c₀.priorityMask
      ∧ c.mappedPriorityMask = c₀.mappedPriorityMask := by simpa [Core.levels] using hl
  exact ⟨c₀, hc₀, h1 ▸ ht.running, h2 ▸ ht.priorityMask, h3 ▸ ht.mappedPriorityMask⟩

lemma of_bare_right {u : State} (h : Turns d s t) (hb : u.bare = t.bare) : Turns d s u := by
  intro cpu c' hc'
  obtain ⟨c₁, hc₁, he⟩ := exists_core_of_bare hb hc'
  obtain ⟨c, hc, ht⟩ := h cpu c₁ hc₁
  have hl : c'.levels = c₁.levels := Core.levels_of_steady (Core.steady_of_bare he)
  obtain ⟨h1, h2, h3⟩ : c'.running = c₁.running ∧ c'.priorityMask = c₁.priorityMask
      ∧ c'.mappedPriorityMask = c₁.mappedPriorityMask := by simpa [Core.levels] using hl
  exact ⟨c, hc, h1 ▸ ht.running, h2 ▸ ht.priorityMask, h3 ▸ ht.mappedPriorityMask⟩

end Turns

/-! ### Acknowledging -/

lemma began?_of_next? {e : Nat × Priority} (h : s.next? cpu = some e) :
    s.began? cpu = some ⟨e.1, e.2⟩ := by
  obtain ⟨-, q, -, -, hq, hp, -⟩ := irq?_of_next? h
  simp [began?, h, hq, hp]

lemma turns_acknowledge (s : State) :
    Turns (fun k => if s.current = k then (s.began? s.current).map .began else none) s
      (s.acknowledge s.current).2 := by
  unfold acknowledge
  rcases hn : s.next? s.current with _ | e
  · simpa [began?, hn] using Turns.refl s
  · rw [began?_of_next? hn]
    exact Turns.of_bare_left (bare_modifyIrq ..) (.modifyCore fun c => ⟨rfl, .inl rfl, .inl rfl⟩)

lemma turns_endInterrupt {id : Nat} {twoStep : Bool}
    (h : s.endInterrupt s.current id twoStep = .ok t) :
    Turns (fun k => if s.current = k then some (.ended id) else none) s t := by
  have hdrop : Turns (fun k => if s.current = k then some (Deed.ended id) else none) s
      (s.dropPriority s.current id) := Turns.modifyCore fun c => ⟨rfl, .inl rfl, .inl rfl⟩
  obtain rfl := eq_of_endInterrupt h
  unfold ended
  split
  · exact hdrop
  · exact hdrop.of_bare_right (bare_modifyIrq ..)

/-! ### Any access -/

lemma turns_tuned {f : Core → Core} (hf : Core.Tunes f) :
    Turns (fun _ => none) s (s.modifyCurrent f) :=
  .modifyCore_none _ fun c =>
    ⟨(congrArg Core.running (hf.untuned c) :), hf.priorityMask c, hf.mappedPriorityMask c⟩

lemma turns_writeInterface {o : Nat} {v : BitVec 32} (ho : o ≠ 0x10)
    (h : s.writeInterface o v = .ok t) : Turns (fun _ => none) s t := by
  rcases cases_writeInterface h with ⟨he, -⟩ | ⟨-, h⟩ | ⟨f, hf, rfl⟩
  · exact absurd he ho
  · exact .of_bare (agree_deactivate h)
  · exact turns_tuned hf

lemma turns_writeSystem {r : SystemRegister} {v : BitVec 64} (hr : r ≠ .endOfInterrupt1)
    (h : s.writeSystem r v = .ok t) : Turns (fun _ => none) s t := by
  obtain ⟨c, -, ⟨he, -⟩ | ⟨-, h⟩ | ⟨-, rfl⟩ | ⟨f, hf, rfl⟩⟩ := cases_writeSystem h
  · exact absurd he hr
  · exact .of_bare (agree_deactivate h)
  · exact .of_bare (bare_sendTo ..)
  · exact turns_tuned hf

/-- What is not an access of the registers that matter is no deed. -/
lemma turns_of_none {q : Request} (ha : s.acknowledges q = false) (he : s.ends? q = none)
    (h : Turns (fun _ => none) s t) :
    Turns (fun k => if s.current = k then s.deed? q else none) s t := by
  simpa [deed?, ha, he] using h

lemma after_read (w : Width) {a o : Nat} {r : Region}
    (hd : (Board.controller s).decode a = some (r, o)) :
    s.after (.access (.read w a)) = (Board.readRegion s r o w).2 := by
  simp only [State.after, Board.answer, hd]
  rfl

lemma turns_read (s : State) (w : Width) (a : Nat) :
    Turns (fun k => if s.current = k then s.deed? (.read w a) else none) s
      (s.after (.access (.read w a))) := by
  rcases hd : (Board.controller s).decode a with _ | ⟨r, o⟩
  · refine turns_of_none (by cases w <;> simp [acknowledges, hd]) rfl ?_
    simp only [State.after, Board.answer, hd]
    exact .refl s
  rw [after_read w hd]
  by_cases hack : w = .word ∧ r = .interface ∧ o = 0xc
  · obtain ⟨rfl, rfl, rfl⟩ := hack
    have hdeed : s.deed? (.read .word a) = (s.began? s.current).map .began := by
      simp [deed?, acknowledges, hd]
    rw [hdeed]
    rcases hc : s.cores[s.current]? with _ | c
    · simpa [began?, next?, hc, Board.readRegion, readInterface, currentCore?] using Turns.refl s
    · simpa [Board.readRegion, readInterface, currentCore?, hc, readInterfaceWord]
        using turns_acknowledge s
  · have hsame : (Board.readRegion s r o w).2 = s := by
      cases r with
      | distributor | redistributors => rfl
      | interface =>
        rcases eq_or_ne o 0xc with rfl | ho
        · cases w with
          | word => exact absurd ⟨rfl, rfl, rfl⟩ hack
          | byte | doubleword => rfl
        · exact readInterface_of_ne ho w
    rw [hsame]
    refine turns_of_none ?_ rfl (.refl s)
    cases w with
    | word =>
      simp only [acknowledges, hd, beq_eq_false_iff_ne, ne_eq, Option.some.injEq, Prod.mk.injEq]
      exact fun h => hack ⟨rfl, h⟩
    | byte | doubleword => rfl

lemma turns_write (s : State) (w : Width) (a : Nat) (v : BitVec w.bits) :
    Turns (fun k => if s.current = k then s.deed? (.write w a v) else none) s
      (s.after (.access (.write w a v))) := by
  rcases hd : (Board.controller s).decode a with _ | ⟨_ | _ | _, o⟩ <;>
    simp only [State.after, Board.answer, hd]
  · exact turns_of_none rfl (by simp [ends?, hd]) (.refl s)
  · exact turns_of_none rfl (by simp [ends?, hd])
      (.of_steady ((step_writeDistributor s o w v).agree.mono fun _ _ => Core.steady_of_bare))
  · have hafter : (Board.controller s).write .interface o w v
        = ((s.writeInterface o (v.setWidth 32)).map .controller).mapError .fault := rfl
    rw [hafter]
    rcases hw : s.writeInterface o (v.setWidth 32) with e | t
    · -- what is refused is no deed
      have hrefused : s.accepts (.write w a v) = false := by
        simp [accepts, Board.answer, hd, hafter, hw, Except.map, Except.mapError, Except.isOk,
          Except.toBool]
      simpa [deed?, acknowledges, hrefused, Except.map, Except.mapError, Board.hardware] using Turns.refl s
    · rcases eq_or_ne o 0x10 with rfl | ho
      · have hdeed : s.deed? (.write w a v)
            = some (.ended (v.setWidth 32 &&& 0x3ff).toNat) := by
          simp [deed?, acknowledges, ends?, accepts, Board.answer, hd, hafter, hw, Except.map,
            Except.mapError, Except.isOk, Except.toBool]
        rw [hdeed]
        exact turns_endInterrupt hw
      · exact turns_of_none rfl (by simp [ends?, hd, ho]) (turns_writeInterface ho hw)
  · exact turns_of_none rfl (by simp [ends?, hd]) (.of_steady (step_writeRedistributor s o w v).agree)

lemma turns_readSystem (s : State) (r : SystemRegister) :
    Turns (fun k => if s.current = k then s.deed? (.readSystem r) else none) s
      (s.after (.access (.readSystem r))) := by
  have hafter : s.after (.access (.readSystem r)) = (s.readSystem r).2 := rfl
  rw [hafter]
  rcases eq_or_ne r .acknowledge1 with rfl | hr
  · have hdeed : s.deed? (.readSystem .acknowledge1) = (s.began? s.current).map .began := rfl
    rw [hdeed]
    rcases hc : s.cores[s.current]? with _ | c
    · simpa [readSystem, began?, next?, hc] using Turns.refl s
    · simpa [readSystem, hc] using turns_acknowledge s
  · rw [readSystem_of_ne hr]
    exact turns_of_none (by simpa [acknowledges] using hr) rfl (.refl s)

lemma turns_writeSystem_access (s : State) (r : SystemRegister) (v : BitVec 64) :
    Turns (fun k => if s.current = k then s.deed? (.writeSystem r v) else none) s
      (s.after (.access (.writeSystem r v))) := by
  simp only [State.after, Board.answer_writeSystem]
  rcases hw : s.writeSystem r v with e | t
  · have hrefused : s.accepts (.writeSystem r v) = false := by
      simp [accepts, Board.answer_writeSystem, hw, Except.isOk, Except.toBool]
    simpa [deed?, acknowledges, hrefused, Board.hardware] using Turns.refl s
  · rcases eq_or_ne r .endOfInterrupt1 with rfl | hr
    · have hdeed : s.deed? (.writeSystem .endOfInterrupt1 v)
          = some (.ended (v &&& 0xffffff).toNat) := by
        simp [deed?, acknowledges, ends?, accepts, Board.answer_writeSystem, hw, Except.isOk,
          Except.toBool]
      rw [hdeed]
      obtain ⟨c, hc, -⟩ := cases_writeSystem hw
      rw [writeSystem, hc] at hw
      exact turns_endInterrupt (eq_ok_of_mapError hw)
    · exact turns_of_none rfl (by cases r <;> first | rfl | exact absurd rfl hr)
        (turns_writeSystem hr hw)

/-- Whatever happens, every core does what is said of it and nothing else. -/
lemma turns_after (s : State) (e : Event) : Turns (fun cpu => e.deed? s cpu) s (s.after e) := by
  cases e with
  | access q =>
    cases q with
    | read w a => exact turns_read s w a
    | write w a v => exact turns_write s w a v
    | readSystem r => exact turns_readSystem s r
    | writeSystem r v => exact turns_writeSystem_access s r v
    | barrier => exact turns_of_none rfl rfl (.refl s)
    | notify n => exact turns_of_none rfl rfl (.refl s)
  | setCurrent cpu =>
    simp only [State.after, setCurrent]
    split
    · exact .of_cores rfl
    · exact .refl s
  | setAffinity cpu v =>
    exact after_setAffinity s cpu v ▸ .modifyCore_none cpu fun c => ⟨rfl, .inl rfl, .inl rfl⟩
  | raise id cpu => exact after_raise s cpu id ▸ .of_bare (bare_modifyIrq ..)
  | raiseLpi id p cpu =>
    simp only [State.after, State.raiseLpi]
    split
    · exact .modifyCore_none cpu fun c => ⟨rfl, .inl rfl, .inl rfl⟩
    · exact .refl s
  | stickDistributor stuck => exact .of_cores rfl
  | stickRedistributor cpu stuck =>
    exact after_stickRedistributor s cpu stuck ▸
      .modifyCore_none cpu fun c => ⟨rfl, .inl rfl, .inl rfl⟩
  | stickWaker cpu stuck =>
    exact after_stickWaker s cpu stuck ▸ .modifyCore_none cpu fun c => ⟨rfl, .inl rfl, .inl rfl⟩

end State

/-! ### Strictly more urgent -/

/-- What the core runs is the more urgent the later it came, and open masks let everything but
the lowest priority through. -/
structure Core.Graded (c : Core) : Prop where
  running : c.running.Pairwise fun newer older => newer.priority < older.priority
  below : ∀ r ∈ c.running, r.priority < 0xff
  priorityMask : c.priorityMask.toNat ≤ 0xff
  mappedPriorityMask : c.mappedPriorityMask.toNat ≤ 0xff

namespace Core.Graded

variable {c c' : Core}

lemma lt_of_preempts (h : c.Graded) {p : Priority} (hp : c.preempts p = true) :
    ∀ r ∈ c.running, p < r.priority := by
  have hrunning := h.running
  unfold preempts at hp
  rcases hl : c.running with _ | ⟨r₀, rest⟩
  · simp
  · rw [hl, List.pairwise_cons] at hrunning
    rw [hl, decide_eq_true_eq] at hp
    intro r hr
    rcases List.mem_cons.mp hr with rfl | hr
    · exact hp
    · exact BitVec.lt_trans hp (hrunning.1 r hr)

lemma of_bare (h : c.Graded) (he : c.bare = c'.bare) : c'.Graded := by
  have hrunning : c.running = c'.running := (congrArg Core.running he :)
  have hmask : c.priorityMask = c'.priorityMask := (congrArg Core.priorityMask he :)
  have hmapped : c.mappedPriorityMask = c'.mappedPriorityMask := (congrArg Core.mappedPriorityMask he :)
  exact ⟨hrunning ▸ h.running, hrunning ▸ h.below, hmask ▸ h.priorityMask, hmapped ▸ h.mappedPriorityMask⟩

lemma turns (h : c.Graded) {d : Option Deed} (ht : Turns d c c')
    (hd : ∀ r, d = some (.began r) → r.priority < 0xff ∧ c.preempts r.priority = true) :
    c'.Graded := by
  have hmask := ht.priorityMask.elim (fun he => he ▸ h.priorityMask) id
  have hmapped := ht.mappedPriorityMask.elim (fun he => he ▸ h.mappedPriorityMask) id
  rcases d with _ | r | id
  · exact ⟨ht.running ▸ h.running, ht.running ▸ h.below, hmask, hmapped⟩
  · obtain ⟨hlow, hp⟩ := hd r rfl
    have hrunning : c'.running = r :: c.running := ht.running
    refine ⟨?_, ?_, hmask, hmapped⟩
    · rw [hrunning, List.pairwise_cons]
      exact ⟨h.lt_of_preempts hp, h.running⟩
    · rw [hrunning]
      exact List.forall_mem_cons.mpr ⟨hlow, h.below⟩
  · -- wherever the entry was, those that are left keep their order
    have hrunning : c'.running = c.running.eraseP (·.id == id) := ht.running
    refine ⟨?_, fun r hr => ?_, hmask, hmapped⟩
    · rw [hrunning]
      exact h.running.sublist List.eraseP_sublist
    · rw [hrunning] at hr
      exact h.below r (List.mem_of_mem_eraseP hr)

/-- The last one is the most urgent. -/
lemma min?_running (h : c.Graded) :
    (c.running.map (·.priority.toNat)).min?.getD 0xff = c.runningPriority := by
  have hrunning := h.running
  unfold runningPriority
  rcases hl : c.running with _ | ⟨r, rest⟩
  · rfl
  · rw [hl, List.pairwise_cons] at hrunning
    have hmin : ((r :: rest).map (·.priority.toNat)).min? = some r.priority.toNat := by
      refine List.min?_eq_some_iff.mpr ⟨by simp, ?_⟩
      simp only [List.map_cons, List.forall_mem_cons, List.forall_mem_map]
      exact ⟨le_rfl, fun r' hr' => Nat.le_of_lt (hrunning.1 r' hr')⟩
    rw [hmin, Option.getD_some]

lemma runningPriority_le (h : c.Graded) : c.runningPriority ≤ 0xff := by
  unfold runningPriority
  rcases hl : c.running with _ | ⟨r, rest⟩
  · exact le_rfl
  · exact Nat.le_of_lt (BitVec.lt_def.mp (h.below r (hl ▸ List.mem_cons_self ..)))

/-- There are only so many priorities. -/
lemma length_le (h : c.Graded) : c.running.length ≤ 255 := by
  have hnodup : (c.running.map (·.priority.toNat)).Nodup := by
    rw [List.Nodup, List.pairwise_map]
    exact h.running.imp fun hlt => Nat.ne_of_lt (BitVec.lt_def.mp hlt)
  have hsub : c.running.map (·.priority.toNat) ⊆ List.range 255 := by
    intro n hn
    obtain ⟨r, hr, rfl⟩ := List.mem_map.mp hn
    exact List.mem_range.mpr (BitVec.lt_def.mp (h.below r hr))
  simpa using (hnodup.subperm hsub).length_le

end Core.Graded

namespace State

variable {o : Options} {s : State} {cpu : Nat} {c : Core}

lemma irq?_of_began? {r : Running} (h : s.began? cpu = some r) :
    ∃ c q, s.cores[cpu]? = some c ∧ s.irq? r.id cpu = some q ∧ q.priority = r.priority
      ∧ s.eligible cpu c r.id q = true := by
  obtain ⟨e, he, hr⟩ := Option.bind_eq_some_iff.mp h
  obtain ⟨c, q, hc, -, hq, hp, hel⟩ := irq?_of_next? he
  obtain rfl : ⟨e.1, q.priority⟩ = r := by simpa [hq] using hr
  exact ⟨c, q, hc, hq, rfl, hel⟩

lemma began?_of_deed? {e : Event} {r : Running} (h : e.deed? s cpu = some (.began r)) :
    s.began? cpu = some r := by
  cases e with
  | access q =>
    simp only [Event.deed?] at h
    split at h
    next hcur =>
      subst hcur
      unfold deed? at h
      split at h
      · simpa using h
      split at h
      · simp at h
      · simp at h
    next => simp at h
  | _ => simp [Event.deed?] at h

lemma priorityLimit_le (h : c.Graded) : s.priorityLimit c ≤ 0xff := by
  unfold priorityLimit
  split
  · rw [BitVec.toNat_setWidth]
    exact (Nat.mod_le _ _).trans h.priorityMask
  · exact h.mappedPriorityMask

/-- What is acknowledged is more urgent than the lowest priority and than all that runs. -/
lemma Graded.of_eligible (h : c.Graded) {id : Nat} {q : Irq} (hel : s.eligible cpu c id q = true) :
    q.priority < 0xff ∧ c.preempts q.priority = true := by
  obtain ⟨-, -, -, -, -, hmask, hp⟩ := eligible_iff.mp hel
  exact ⟨BitVec.lt_def.mpr (hmask.trans_le (priorityLimit_le h)), hp⟩

end State

/-- In every state, all cores are graded. -/
lemma Reachable.graded {o : Options} {s : State} (h : Reachable o s) {cpu : Nat} {c : Core}
    (hc : s.cores[cpu]? = some c) : c.Graded := by
  induction h generalizing cpu c with
  | reset =>
    obtain ⟨-, rfl⟩ := State.core_reset_iff.mp hc
    exact ⟨.nil, by simp [Core.ofRegister], by simp [Core.ofRegister], by simp [Core.ofRegister]⟩
  | @after s _ e ih =>
    obtain ⟨c₀, hc₀, ht⟩ := State.turns_after s e cpu c hc
    refine (ih hc₀).turns ht fun r hr => ?_
    obtain ⟨c', q, hc', -, hp, hel⟩ := State.irq?_of_began? (State.began?_of_deed? hr)
    obtain rfl : c' = c₀ := Option.some.inj (hc'.symm.trans hc₀)
    exact hp ▸ State.Graded.of_eligible (ih hc₀) hel

/-- What a core runs is what it has not finished. -/
lemma running_eq_unfinished (o : Options) (l : List Event) {cpu : Nat} {c : Core}
    (hc : (l.foldl State.after (.reset o)).cores[cpu]? = some c) :
    c.running = unfinished o cpu l := by
  induction l using List.reverseRecOn generalizing c with
  | nil =>
    obtain ⟨-, rfl⟩ := State.core_reset_iff.mp hc
    rfl
  | append_singleton l e ih =>
    rw [List.foldl_append] at hc
    obtain ⟨c₀, hc₀, ht⟩ := State.turns_after _ e cpu c hc
    rw [unfinished_concat, ht.running, ih hc₀]

end Hardware

/-! ### What the software reads -/

section Software

variable {o : Options} {s : State} {c : Core}

lemma toNat_runningPriority (hg : c.Graded) {n : Nat} (hn : 8 ≤ n) :
    ((BitVec.ofNat n c.runningPriority).setWidth 8).toNat = c.runningPriority := by
  have hle := hg.runningPriority_le
  have hpow : 2 ^ 8 ≤ 2 ^ n := Nat.pow_le_pow_right Nat.two_pos hn
  have hfit : c.runningPriority % 2 ^ n = c.runningPriority := Nat.mod_eq_of_lt (by omega)
  rw [BitVec.toNat_setWidth, BitVec.toNat_ofNat, hfit]
  exact Nat.mod_eq_of_lt (by omega)

variable (hc : s.cores[s.current]? = some c)
include hc

lemma Banked.CpuInterface.run_runningPriority (hr : s.isRouted = false) :
    onBus.runningPriority.run Board.answer (.controller s)
      = (.ok ((BitVec.ofNat 32 c.runningPriority).setWidth 8), .controller s) :=
  (run_bind_ok ((run_read32 ..).trans (answer_read hr hc (o := 0x14) (by decide)))).trans rfl

lemma Routed.CpuInterface.run_runningPriority :
    runningPriority.run Board.answer (.controller s)
      = (.ok ((BitVec.ofNat 64 c.runningPriority).setWidth 8), .controller s) := by
  have hanswer : Board.answer (.controller s) (.readSystem .runningPriority)
      = (.ok (BitVec.ofNat 64 c.runningPriority), .controller s) := by
    simp [Board.answer_readSystem, State.readSystem, hc, State.systemWord]
  exact (run_bind_ok ((run_readSystem ..).trans hanswer)).trans rfl

/-- What a banked interface tells is an interrupt that the core takes. -/
lemma Banked.CpuInterface.next?_of_run (hs : s.Sound o) (hr : s.isRouted = false) {a : Ack}
    {b : Board} (h : onBus.acknowledge.run Board.answer (.controller s) = (.ok (some a), b)) :
    ∃ e, s.next? s.current = some e ∧ a.id.number = e.1 % 0x1000000 := by
  rw [run_acknowledge hr hc hs] at h
  have htold := Except.ok.inj (congrArg Prod.fst h)
  obtain ⟨e, he, rfl⟩ := Option.map_eq_some_iff.mp htold
  have hlt := (State.number_of_next? hs hc he).1 hr
  refine ⟨e, he, ?_⟩
  rw [Nat.mod_eq_of_lt (by omega)]
  exact IntId.number_ofNat (by omega)

/-- So is what the system registers tell, of which the upper bits of a number are cut off. -/
lemma Routed.CpuInterface.next?_of_run (hr : s.isRouted = true) {a : Ack} {b : Board}
    (h : acknowledge.run Board.answer (.controller s) = (.ok (some a), b)) :
    ∃ e, s.next? s.current = some e ∧ a.id.number = e.1 % 0x1000000 := by
  rw [run_readAcknowledge hc] at h
  have hdecode := Except.ok.inj (congrArg Prod.fst h)
  rcases hn : s.next? s.current with _ | e
  · have : decode ((BitVec.ofNat 32 spuriousNumber).setWidth 64) = none := by decide
    simp [State.acknowledge, hn, this] at hdecode
  · refine ⟨e, rfl, ?_⟩
    simp only [State.acknowledge, hn, acknowledgeWord_eq hr, decode] at hdecode
    split at hdecode
    · simp at hdecode
    · obtain rfl := Option.some.inj hdecode
      simp only [IntId.number, BitVec.toNat_setWidth, BitField.toNat_get, BitVec.toNat_ofNat]
      simp only [acknowledgedId, BitField.of]
      omega

end Software

/-- Interrupt `id` is more urgent than all that core `cpu`, which is `c`, runs. -/
def Hardware.State.Outranks (s : State) (cpu : Nat) (c : Core) (id : Nat) : Prop :=
  ∃ q, s.irq? id cpu = some q ∧ ∀ r ∈ c.running, q.priority < r.priority

lemma Hardware.State.outranks_of_next? {s : State} {cpu : Nat} {c : Core} (hg : c.Graded)
    (hc : s.cores[cpu]? = some c) {e : Nat × Priority} (h : s.next? cpu = some e) :
    s.Outranks cpu c e.1 := by
  obtain ⟨c', q, hc', -, hq, -, hel⟩ := State.irq?_of_next? h
  obtain rfl : c' = c := Option.some.inj (hc'.symm.trans hc)
  exact ⟨q, hq, hg.lt_of_preempts (State.Graded.of_eligible hg hel).2⟩

/-- **Preemption is strict.** Whatever happened since power-up, the interrupts that a core has
acknowledged and not finished stand by strictly falling urgency from the latest to the oldest,
all of them above the lowest priority. The running priority that either CPU interface reads is
the least of the priorities under which they were acknowledged, and an interrupt that is
acknowledged on top of them is strictly more urgent than each. -/
theorem preemption_strict (o : Options) (l : List Event) {cpu : Nat} {c : Core}
    (hc : (l.foldl State.after (.reset o)).cores[cpu]? = some c) :
    let s := l.foldl State.after (.reset o)
    c.running = unfinished o cpu l
      ∧ c.running.Pairwise (fun newer older => newer.priority < older.priority)
      ∧ (∀ r ∈ c.running, r.priority < 0xff)
      ∧ c.running.length ≤ 255
      ∧ (s.current = cpu → ∃ p : Priority,
          p.toNat = ((unfinished o cpu l).map (·.priority.toNat)).min?.getD 0xff
            ∧ Routed.CpuInterface.runningPriority.run Board.answer (.controller s)
              = (.ok p, .controller s)
            ∧ (s.isRouted = false →
              Banked.CpuInterface.onBus.runningPriority.run Board.answer (.controller s)
                = (.ok p, .controller s)))
      ∧ (∀ e, s.next? cpu = some e → s.Outranks cpu c e.1)
      ∧ (s.current = cpu → ∀ a b,
          (if s.isRouted then Routed.CpuInterface.acknowledge
            else Banked.CpuInterface.onBus.acknowledge).run Board.answer (.controller s)
              = (.ok (some a), b) →
            ∃ id, a.id.number = id % 0x1000000 ∧ s.Outranks cpu c id) := by
  intro s
  have hreach : Reachable o s := Reachable.reset.foldl l
  have hg : c.Graded := hreach.graded hc
  have hrunning := running_eq_unfinished o l hc
  refine ⟨hrunning, hg.running, hg.below, hg.length_le, ?_, ?_, ?_⟩
  · rintro rfl
    have h32 := toNat_runningPriority hg (n := 32) (by decide)
    have h64 := toNat_runningPriority hg (n := 64) (by decide)
    refine ⟨_, ?_, Routed.CpuInterface.run_runningPriority hc, fun hr => ?_⟩
    · rw [h64, ← hrunning, hg.min?_running]
    · rw [Banked.CpuInterface.run_runningPriority hc hr,
        BitVec.eq_of_toNat_eq (h32.trans h64.symm)]
  · exact fun e he => State.outranks_of_next? hg hc he
  · rintro rfl a b hrun
    have hnext : ∃ e, s.next? s.current = some e ∧ a.id.number = e.1 % 0x1000000 := by
      rcases hr : s.isRouted with _ | _
      · rw [hr, if_neg Bool.false_ne_true] at hrun
        exact Banked.CpuInterface.next?_of_run hc hreach.sound hr hrun
      · rw [hr, if_pos rfl] at hrun
        exact Routed.CpuInterface.next?_of_run hc hr hrun
    obtain ⟨e, he, hid⟩ := hnext
    exact ⟨e.1, hid, State.outranks_of_next? hg hc he⟩

/-- A timer is acknowledged on core 0 of a banked controller, and another interrupt of that core
on top of it. -/
def Hardware.nested : List Event :=
  [.access (.write .word Region.distributor.base 3), .access (.write .word Region.interface.base 3),
    .access (.write .word (Region.interface.base + 0x4) 0xff),
    .access (.write .word (Region.distributor.base + 0x100) 0x18000000),
    .access (.write .byte (Region.distributor.base + 0x400 + 27) 0x80),
    .access (.write .byte (Region.distributor.base + 0x400 + 28) 0x40),
    .raise 27 0, .access (.read .word (Region.interface.base + 0xc)),
    .raise 28 0, .access (.read .word (Region.interface.base + 0xc))]

set_option maxRecDepth 100000 in
theorem preemption_strict_nested :
    unfinished .banked 0 nested = [⟨28, 0x40⟩, ⟨27, 0x80⟩] ∧
      ∃ c p, (nested.foldl State.after (.reset .banked)).cores[0]? = some c
        ∧ c.running.length = 2
        ∧ Routed.CpuInterface.runningPriority.run Board.answer
            (.controller (nested.foldl State.after (.reset .banked)))
          = (.ok p, .controller (nested.foldl State.after (.reset .banked))) ∧ p.toNat = 0x40 := by
  have hunfinished : unfinished .banked 0 nested = [⟨28, 0x40⟩, ⟨27, 0x80⟩] := by decide +kernel
  have hcore : (nested.foldl State.after (.reset .banked)).cores[0]?.isSome = true := by
    decide +kernel
  obtain ⟨c, hc⟩ := Option.isSome_iff_exists.mp hcore
  obtain ⟨hrunning, -, -, -, hread, -, -⟩ := preemption_strict .banked nested hc
  obtain ⟨p, hp, hrun, -⟩ := hread (by decide +kernel)
  rw [hunfinished] at hrunning hp
  exact ⟨hunfinished, c, p, hc, by rw [hrunning]; rfl, hrun, hp⟩

end InterruptControl
