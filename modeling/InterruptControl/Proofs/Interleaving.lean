import InterruptControl.Proofs.Settings

/-!
Calls that set and clear flags, made by several cores at once.

A call is a series of accesses. Between any two of them other cores may get ahead, and lines may go
up. Still a call takes effect as a whole with a single access, the last one it makes: a flag is set
by a write, and cleared by a write or, if it is down already, by the read that finds it down. All
accesses before that one change nothing, and what they find out does not depend on others. So
whatever the order of the accesses, what is left is what the calls leave one after another.
-/

namespace InterruptControl

open Bus Hardware Program

/-! ### Accesses of a core among those of others -/

namespace Hardware.State

variable {o : Options} {s : State} {cpu : Nat}

/-- The state with another core as the current one. -/
def on (s : State) (cpu : Nat) : State := { s with current := cpu }

lemma Sound.on (h : s.Sound o) (hcpu : cpu < o.cpus) : (s.on cpu).Sound o :=
  ⟨h.options, h.size, fun _ => hcpu, h.core⟩

/-- Which core is the current one has nothing to do with where interrupts are kept. -/
lemma modifyIrq_on (s : State) (cpu id owner : Nat) (f : Irq → Irq) :
    (s.on cpu).modifyIrq id owner f = (s.modifyIrq id owner f).on cpu := by
  rcases hplace : s.place? id owner with _ | p
  · have hplace' : (s.on cpu).place? id owner = none := hplace
    rw [modifyIrq_of_none _ _ hplace', modifyIrq_of_none _ _ hplace]
  · have hplace' : (s.on cpu).place? id owner = some p := hplace
    rw [modifyIrq_of_place _ _ hplace', modifyIrq_of_place _ _ hplace]
    cases p with
    | shared i =>
      rcases Nat.lt_or_ge i 2048 with hi | hi
      · rw [modify_shared _ f hi, modify_shared _ f hi]
        rfl
      · rw [modify_shared_of_le _ f hi, modify_shared_of_le _ f hi]
    | own | lpi => rfl

/-- Core `cpu` makes a request; the current core is the same one afterwards. -/
def serve (s : State) (cpu : Nat) (q : Request) : Except Failure q.Answer × State :=
  ((Board.answer (.controller (s.on cpu)) q).1,
    (Board.answer (.controller (s.on cpu)) q).2.hardware.on s.current)

/-- Core `cpu` makes a call, and nobody gets in between. -/
def atomically (s : State) (cpu : Nat) (p : Program Unit) : State :=
  (p.run Board.answer (.controller (s.on cpu))).2.hardware.on s.current

lemma serve_of_answer {q : Request} {r : Except Failure q.Answer} {t : State}
    (h : Board.answer (.controller (s.on cpu)) q = (r, .controller t)) :
    s.serve cpu q = (r, t.on s.current) := by
  rw [serve, h]
  rfl

lemma atomically_of_run {p : Program Unit} {r : Except Failure Unit} {t : State}
    (h : p.run Board.answer (.controller (s.on cpu)) = (r, .controller t)) :
    s.atomically cpu p = t.on s.current := by
  rw [atomically, h]
  rfl

end Hardware.State

namespace Program

variable {α : Type} {o : Options} {cpu : Nat} {a : α} {p : Program α} {f : α → Program Unit}
  {effect : State → State}

/-- Made by core `cpu`, the requests change nothing, and whatever happens in between, the result is
`a`. -/
def LooksUp (o : Options) (cpu : Nat) (a : α) : Program α → Prop
  | done b => b = a
  | fail _ => False
  | ask q k => ∀ s : State, s.Sound o → ∃ v, s.serve cpu q = (.ok v, s) ∧ (k v).LooksUp o cpu a

/-- Made by core `cpu`, the requests change nothing but for the last one, which has the effect in
the state that it is made in. -/
def TakesEffect (o : Options) (cpu : Nat) (effect : State → State) : Program Unit → Prop
  | done _ | fail _ => False
  | ask q k => ∀ s : State, s.Sound o → ∃ v t, s.serve cpu q = (.ok v, t)
      ∧ (t = s ∧ (k v).TakesEffect o cpu effect ∨ t = effect s ∧ k v = done ())

lemma LooksUp.bind (hp : p.LooksUp o cpu a) (hf : (f a).TakesEffect o cpu effect) :
    (p >>= f).TakesEffect o cpu effect := by
  induction p with
  | done b =>
    obtain rfl : b = a := hp
    exact hf
  | fail e => exact hp.elim
  | ask q k ih =>
    intro s hs
    obtain ⟨v, hserve, hk⟩ := hp s hs
    exact ⟨v, s, hserve, .inl ⟨rfl, ih v hk⟩⟩

/-- At most one request is made. -/
inductive Brief {α : Type} : Program α → Prop
  | done (a : α) : Brief (done a)
  | fail (e : Failure) : Brief (fail e)
  | ask {q : Request} {k : q.Answer → Program α}
    (hk : ∀ v, (∃ a, k v = .done a) ∨ ∃ e, k v = .fail e) : Brief (ask q k)

namespace Brief

variable {β : Type}

lemma require (b : Bool) (a : α) : Brief (Program.require b >>= fun _ => (pure a : Program α)) := by
  cases b
  · exact .fail _
  · exact .done _

lemma read (w : Width) (i : Nat) {b : BitVec w.bits → Bool} {g : BitVec w.bits → α} :
    Brief (Program.read w i >>= fun v => Program.require (b v) >>= fun _ => pure (g v)) := by
  refine .ask fun v => ?_
  show (∃ a, (Program.require (b v) >>= fun _ => pure (g v)) = .done a)
    ∨ ∃ e, (Program.require (b v) >>= fun _ => pure (g v)) = .fail e
  cases b v
  · exact .inr ⟨_, rfl⟩
  · exact .inl ⟨_, rfl⟩

lemma map (hp : p.Brief) (g : α → β) : Brief (p >>= fun a => (pure (g a) : Program β)) := by
  cases hp with
  | done a => exact .done _
  | fail e => exact .fail _
  | ask hk =>
    refine .ask fun v => (hk v).imp ?_ ?_
    · rintro ⟨a, ha⟩
      exact ⟨g a, by rw [ha]; rfl⟩
    · rintro ⟨e, he⟩
      exact ⟨e, by rw [he]; rfl⟩

end Brief

/-- What a call of at most one request finds in every state, it finds whatever happens. -/
lemma Brief.looksUp (hp : p.Brief) (hcpu : cpu < o.cpus) (h : ∀ s : State, s.Sound o →
    p.run Board.answer (.controller s) = (.ok a, .controller s)) : p.LooksUp o cpu a := by
  cases hp with
  | done b => exact Except.ok.inj (Prod.mk.inj (h _ (.reset o))).1
  | fail e => cases (Prod.mk.inj (h _ (.reset o))).1
  | @ask q k hk =>
    intro s hs
    have hrun := h _ (hs.on hcpu)
    rw [run_ask] at hrun
    rcases hq : Board.answer (.controller (s.on cpu)) q with ⟨e | v, b⟩ <;>
      rw [hq] at hrun
    · cases (Prod.mk.inj hrun).1
    refine ⟨v, ?_, ?_⟩
    · rcases hk v with ⟨b', hb⟩ | ⟨e, he⟩
      · simp only [hb] at hrun
        obtain rfl := (Prod.mk.inj hrun).2
        exact State.serve_of_answer (t := s.on cpu) hq
      · simp only [he] at hrun
        cases (Prod.mk.inj hrun).1
    · rcases hk v with ⟨b', hb⟩ | ⟨e, he⟩
      · simp only [hb] at hrun ⊢
        exact Except.ok.inj (Prod.mk.inj hrun).1
      · simp only [he] at hrun
        cases (Prod.mk.inj hrun).1

end Program

/-! ### Calls that set or clear a flag -/

/-- A lone one, written to the table that sets the flag or to the one that clears it. -/
lemma Block.Finds.answer_flag {b : Block} {id : IntId} {bank : Bank} {i : Nat} {s : State}
    (h : b.Finds id bank i s) (f : Flag) (v : Bool) :
    Board.answer (.controller s) (.write .word ((if v then bank.layout.settingTable f
        else bank.layout.clearingTable f).word (i / 32)) (Table.bit i))
      = (.ok (), .controller (s.modifyAt bank.view (bank.first + i) (·.put f.field v))) := by
  cases v with
  | true =>
    rw [← h.writeBits_bit f.field (v := true) rfl]
    exact h.keeps.writeBits (.setting f) h.lt_bits _
  | false =>
    rw [← h.writeBits_bit f.field (v := false) rfl]
    exact h.keeps.writeBits (.clearing f) h.lt_bits _

/-- A call of a core that sets or clears a flag. -/
structure FlagCall where
  cpu : Nat
  keeper : Keeper
  flag : Flag
  id : IntId
  value : Bool

namespace FlagCall

variable {o : Options} {s : State} {c : FlagCall}

def program (o : Options) (c : FlagCall) : Program Unit :=
  (c.keeper.block o).setFlag c.flag c.id c.value

/-- There is the core, and the part of the software is in charge of the interrupt. -/
structure Accepted (o : Options) (c : FlagCall) : Prop where
  cpu : c.cpu < o.cpus
  fits : c.keeper.Matches o
  serves : c.keeper.serves o c.id = true

/-- The call in one go. -/
def whole (o : Options) (c : FlagCall) (s : State) : State := s.atomically c.cpu (c.program o)

/-- The core whose copy of a private interrupt is meant. -/
def owner (c : FlagCall) : Nat :=
  match c.keeper with
  | .banked | .routed _ => c.cpu
  | .redistributor cpu => cpu

/-- Where the tables are that the interrupt is found in. -/
def slot (o : Options) (c : FlagCall) : Slot := ⟨(c.keeper.bank (.reset o) c.id).layout, c.keeper.index c.id⟩

/-- It takes one request at most to find an interrupt. -/
lemma brief_locate (o : Options) (k : Keeper) (id : IntId) : ((k.block o).locate id).Brief := by
  cases k with
  | banked => exact .require _ _
  | routed security =>
    refine Brief.map ?_ _
    unfold Routed.Distributor.place
    split
    · exact .read .word _
    · exact .require _ _
  | redistributor cpu =>
    refine Brief.map ?_ _
    unfold Routed.Redistributor.index
    cases id.isPrivate
    · exact .fail _
    show Brief (if id.isExtendedPpi then _ else _)
    split
    · exact .read .doubleword _
    · exact .done _

/-- The tables are where they always are. -/
lemma layout_bank (hs : s.Sound o) : (c.keeper.bank s c.id).layout = (c.slot o).layout := by
  obtain rfl := hs.options
  unfold slot
  rcases c.keeper with _ | security | cpu
  · rfl
  · simp only [Keeper.bank]
    split <;> rfl
  · rfl

section

variable (hc : c.Accepted o) (hfit : o.Fits)
include hc hfit

section

variable (hs : s.Sound o)
include hs

lemma finds : (c.keeper.block o).Finds c.id (c.keeper.bank (s.on c.cpu) c.id)
    (c.keeper.index c.id) (s.on c.cpu) :=
  Keeper.finds (hs.on hc.cpu) hfit hc.fits hc.serves

/-- It is a change of one interrupt. -/
lemma whole_eq : c.whole o s
    = s.modifyIrq c.id.number c.owner (·.put c.flag.field c.value) := by
  have howner : c.keeper.owner (s.on c.cpu) = c.owner := by
    unfold owner
    rcases c.keeper with _ | security | cpu <;> rfl
  have hrun := (finds hc hfit hs).run_setFlag c.flag c.value
  rw [Keeper.modifyAt_view (hs.on hc.cpu) hfit hc.fits hc.serves, howner, State.modifyIrq_on] at hrun
  exact (State.atomically_of_run hrun).trans (State.modifyIrq_on s s.current ..).symm

/-- So is the write that the call makes. -/
lemma serve_write : s.serve c.cpu (.write .word ((if c.value then
      (c.slot o).layout.settingTable c.flag else (c.slot o).layout.clearingTable c.flag).word
        ((c.slot o).index / 32)) (Table.bit (c.slot o).index)) = (.ok (), c.whole o s) := by
  have hfinds := finds hc hfit hs
  have hwhole := State.atomically_of_run (hfinds.run_setFlag c.flag c.value)
  rw [← layout_bank (hs.on hc.cpu)]
  exact (State.serve_of_answer (hfinds.answer_flag c.flag c.value)).trans
    (congrArg (Except.ok (), ·) hwhole.symm)

/-- Before a flag is cleared it is read, and if it is down the call is as good as made. -/
lemma serve_read (hv : c.value = false) : ∃ v, s.serve c.cpu (.read .word
      (((c.slot o).layout.clearingTable c.flag).word ((c.slot o).index / 32))) = (.ok v, s)
    ∧ (v &&& Table.bit (c.slot o).index = 0 → s = c.whole o s) := by
  have hfinds := finds hc hfit hs
  have hread := State.serve_of_answer (hfinds.keeps.readBits (.clearing c.flag) hfinds.lt_bits)
  rw [layout_bank (hs.on hc.cpu)] at hread
  refine ⟨_, hread, fun hzero => ?_⟩
  rw [Table.bit_eq_twoPow, Table.and_twoPow_eq_zero (Nat.mod_lt _ (by decide))] at hzero
  have hdown := (Block.Finds.getLsbD_word c.flag.field).symm.trans hzero
  have hwhole := State.atomically_of_run (hfinds.run_setFlag c.flag c.value)
  rw [hv, State.modifyAt_put_of_bitAt hdown] at hwhole
  rw [whole, program, hv, hwhole]
  rfl

end

lemma lt_words : (c.slot o).index / 32 < (c.slot o).layout.bitWords := by
  have hsound : (State.reset o).Sound o := .reset o
  rw [← layout_bank (hsound.on hc.cpu)]
  exact (finds hc hfit hsound).lt_bits

/-- Where the interrupt is found does not depend on the state. -/
lemma looksUp_locate : ((c.keeper.block o).locate c.id).LooksUp o c.cpu (c.slot o) := by
  refine (brief_locate o c.keeper c.id).looksUp hc.cpu fun s hs => ?_
  have hrun := (Keeper.finds hs hfit hc.fits hc.serves).locate
  rw [layout_bank hs] at hrun
  exact hrun

/-- **A call takes effect with one access.** -/
lemma takesEffect : (c.program o).TakesEffect o c.cpu (c.whole o) := by
  refine (looksUp_locate hc hfit).bind ?_
  have hlocate (t : Table) (ht : t.words = (c.slot o).layout.bitWords) :
      t.locateBit (c.slot o).index = done (t.word ((c.slot o).index / 32)) := by
    rw [Table.locateBit, ht, decide_eq_true (lt_words hc hfit)]
    rfl
  rcases hv : c.value with _ | _
  · have hclear : ((c.slot o).layout.clearingTable c.flag).clear (c.slot o).index
        = ask (.read .word (((c.slot o).layout.clearingTable c.flag).word ((c.slot o).index / 32)))
          fun v => if v &&& Table.bit (c.slot o).index = 0 then done () else
            ask (.write .word (((c.slot o).layout.clearingTable c.flag).word ((c.slot o).index / 32))
              (Table.bit (c.slot o).index)) done := by
      rw [Table.clear, hlocate _ rfl]
      rfl
    rw [if_neg Bool.false_ne_true, hclear]
    intro s hs
    obtain ⟨v, hread, hdown⟩ := serve_read hc hfit hs hv
    refine ⟨v, s, hread, ?_⟩
    by_cases hzero : v &&& Table.bit (c.slot o).index = 0
    · exact .inr ⟨hdown hzero, if_pos hzero⟩
    · refine .inl ⟨rfl, ?_⟩
      beta_reduce
      rw [if_neg hzero]
      intro t ht
      have hwrite := serve_write hc hfit ht
      rw [hv] at hwrite
      exact ⟨(), _, hwrite, .inr ⟨rfl, rfl⟩⟩
  · have hset : ((c.slot o).layout.settingTable c.flag).set (c.slot o).index
        = ask (.write .word (((c.slot o).layout.settingTable c.flag).word ((c.slot o).index / 32))
          (Table.bit (c.slot o).index)) done := by
      rw [Table.set, hlocate _ rfl]
      rfl
    rw [if_pos rfl, hset]
    intro s hs
    have hwrite := serve_write hc hfit hs
    rw [hv] at hwrite
    exact ⟨(), _, hwrite, .inr ⟨rfl, rfl⟩⟩

end

end FlagCall

/-! ### Schedules -/

/-- A call of core `cpu` that is under way. -/
structure Thread where
  cpu : Nat
  rest : Program Unit

/-- The next access of the call, if there is one left. -/
def Thread.step (x : Thread) (s : State) : Thread × State :=
  match x.rest with
  | .ask q k =>
    match s.serve x.cpu q with
    | (.ok v, t) => ({ x with rest := k v }, t)
    | (.error e, t) => ({ x with rest := .fail e }, t)
  | _ => (x, s)

/-- One call makes its next access, or a line goes up. -/
inductive Race.Move where
  | access (i : Nat)
  | raise (id cpu : Nat)

/-- A controller, and the calls that are under way. -/
structure Race where
  hardware : State
  threads : List Thread

namespace Race

def start (o : Options) (s : State) (calls : List FlagCall) : Race :=
  ⟨s, calls.map fun c => ⟨c.cpu, c.program o⟩⟩

def step (x : Race) : Race.Move → Race
  | .access i =>
    match x.threads[i]? with
    | some t => ⟨(t.step x.hardware).2, x.threads.set i (t.step x.hardware).1⟩
    | none => x
  | .raise id cpu => { x with hardware := x.hardware.after (.raise id cpu) }

end Race

/-- The `k`-th move of a schedule in which a call is made as a whole, at the move that `point` gives
for it, if it gives one. -/
def FlagCall.moveWhole (o : Options) (calls : List FlagCall) (point : Nat → Option Nat) (s : State) :
    Race.Move × Nat → State
  | (.access i, k) =>
    match calls[i]? with
    | some c => if point i = some k then c.whole o s else s
    | none => s
  | (.raise id cpu, _) => s.after (.raise id cpu)

/-- What is left if every call is made as a whole, and the lines go up when they do. -/
def FlagCall.inTurn (o : Options) (calls : List FlagCall) (point : Nat → Option Nat) (l : List Race.Move)
    (s : State) : State := l.zipIdx.foldl (FlagCall.moveWhole o calls point) s

namespace FlagCall

variable {o : Options} {s : State} {calls : List FlagCall} {point : Nat → Option Nat} {l : List Race.Move}

lemma inTurn_concat (m : Race.Move) : inTurn o calls point (l ++ [m]) s
    = moveWhole o calls point (inTurn o calls point l s) (m, l.length) := by
  simp [inTurn, List.zipIdx_append]

/-- It makes no difference when calls are made that are not made yet. -/
lemma inTurn_congr {point' : Nat → Option Nat}
    (h : ∀ i, ∀ k < l.length, point i = some k ↔ point' i = some k) :
    inTurn o calls point l s = inTurn o calls point' l s := by
  refine List.foldl_ext _ _ _ fun t e he => ?_
  obtain ⟨m, k⟩ := e
  have hk : k < l.length := List.snd_lt_of_mem_zipIdx he
  cases m with
  | raise id cpu => rfl
  | access i => simp only [moveWhole, h i k hk]

end FlagCall

lemma Hardware.State.bare_raise (s : State) (id cpu : Nat) :
    (s.after (.raise id cpu)).bare = s.bare := after_raise s cpu id ▸ bare_modifyIrq ..

/-- An access of a call that is not done leaves the controller as it is, or does all of the call. -/
lemma Thread.step_takesEffect {o : Options} {s : State} {x : Thread} {effect : State → State}
    (hx : x.rest.TakesEffect o x.cpu effect) (hs : s.Sound o) :
    (∃ p, x.step s = ({ x with rest := p }, s) ∧ p.TakesEffect o x.cpu effect)
      ∨ x.step s = ({ x with rest := .done () }, effect s) := by
  obtain ⟨cpu, p⟩ := x
  cases p with
  | done a => exact hx.elim
  | fail e => exact hx.elim
  | ask q k =>
    obtain ⟨v, t, hserve, ⟨rfl, hk⟩ | ⟨rfl, hk⟩⟩ := hx s hs
    · refine .inl ⟨k v, ?_, hk⟩
      simp only [Thread.step, hserve]
    · refine .inr ?_
      simp only [Thread.step, hserve, hk]

/-- The call is done, if there is a point where it was made, and has had no effect if not. -/
def FlagCall.Stands (o : Options) (c : FlagCall) (point : Option Nat) (p : Program Unit) : Prop :=
  point.isSome = true ∧ p = .done () ∨ point = none ∧ p.TakesEffect o c.cpu (c.whole o)

/-- How far the calls are, and that what is left is what those that are done leave in turn. -/
structure Race.InTurn (o : Options) (s : State) (calls : List FlagCall) (l : List Race.Move) (x : Race)
    (point : Nat → Option Nat) : Prop where
  access {i k : Nat} (h : point i = some k) : l[k]? = some (.access i)
  size : x.threads.length = calls.length
  thread {i : Nat} {c : FlagCall} (hc : calls[i]? = some c) :
    ∃ p, x.threads[i]? = some ⟨c.cpu, p⟩ ∧ c.Stands o (point i) p
  bare : x.hardware.bare = s.bare
  hardware : x.hardware = FlagCall.inTurn o calls point l s

namespace Race.InTurn

variable {o : Options} {s : State} {calls : List FlagCall} {l : List Race.Move} {x : Race}
  {point : Nat → Option Nat}

lemma start (hcalls : ∀ c ∈ calls, c.Accepted o) (hfit : o.Fits) :
    InTurn o s calls [] (.start o s calls) fun _ => none := by
  refine ⟨fun h => by simp at h, List.length_map .., fun {i c} hc => ⟨c.program o, ?_, ?_⟩, rfl, rfl⟩
  · simp [Race.start, hc]
  · exact .inr ⟨rfl, FlagCall.takesEffect (hcalls c (List.mem_of_getElem? hc)) hfit⟩

variable (h : InTurn o s calls l x point)
include h

lemma lt_length {i k : Nat} (hp : point i = some k) : k < l.length :=
  (List.getElem?_eq_some_iff.mp (h.access hp)).1

lemma access_concat (m : Race.Move) {i k : Nat} (hp : point i = some k) :
    (l ++ [m])[k]? = some (.access i) :=
  (List.getElem?_append_left (h.lt_length hp)).trans (h.access hp)

lemma raise (id cpu : Nat) :
    InTurn o s calls (l ++ [.raise id cpu]) (x.step (.raise id cpu)) point := by
  refine ⟨h.access_concat _, h.size, h.thread, ?_, ?_⟩
  · exact (State.bare_raise ..).trans h.bare
  · rw [FlagCall.inTurn_concat, ← h.hardware]
    rfl

/-- A call makes an access after which it is not done, or it was done before. -/
lemma pass {i : Nat} {y : Race} (hy : y.hardware = x.hardware)
    (hsize : y.threads.length = x.threads.length)
    (hthread : ∀ (j : Nat) (c : FlagCall), calls[j]? = some c →
      ∃ p, y.threads[j]? = some ⟨c.cpu, p⟩ ∧ c.Stands o (point j) p) :
    InTurn o s calls (l ++ [.access i]) y point := by
  refine ⟨h.access_concat _, hsize.trans h.size, fun {j c} => hthread j c, hy ▸ h.bare, ?_⟩
  have hne : point i ≠ some l.length := fun hp => lt_irrefl _ (h.lt_length hp)
  rw [FlagCall.inTurn_concat, ← h.hardware, hy]
  simp only [FlagCall.moveWhole, hne, if_false]
  split <;> rfl

/-- A call that is not done makes the access that has its effect. -/
lemma finish {i : Nat} {c : FlagCall} (hc : calls[i]? = some c) (hp : point i = none)
    (hbare : (c.whole o x.hardware).bare = x.hardware.bare) :
    InTurn o s calls (l ++ [.access i]) ⟨c.whole o x.hardware, x.threads.set i ⟨c.cpu, .done ()⟩⟩
      (Function.update point i (some l.length)) := by
  refine ⟨fun {j k} hj => ?_, (List.length_set ..).trans h.size, fun {j d} hd => ?_,
    hbare.trans h.bare, ?_⟩
  · rcases eq_or_ne j i with rfl | hne
    · rw [Function.update_self] at hj
      obtain rfl := Option.some.inj hj
      exact List.getElem?_concat_length
    · rw [Function.update_of_ne hne] at hj
      exact h.access_concat _ hj
  · obtain ⟨q, hq, hstands⟩ := h.thread hd
    rcases eq_or_ne j i with rfl | hne
    · obtain rfl := Option.some.inj (hd.symm.trans hc)
      refine ⟨.done (), ?_, .inl ⟨by rw [Function.update_self]; rfl, rfl⟩⟩
      exact List.getElem?_set_self (List.getElem?_eq_some_iff.mp hq).1
    · rw [Function.update_of_ne hne]
      exact ⟨q, (List.getElem?_set_ne hne.symm).trans hq, hstands⟩
  · have hsame : FlagCall.inTurn o calls point l s
        = FlagCall.inTurn o calls (Function.update point i (some l.length)) l s := by
      refine FlagCall.inTurn_congr fun j k hk => ?_
      rcases eq_or_ne j i with rfl | hne
      · rw [hp, Function.update_self]
        simp [hk.ne']
      · rw [Function.update_of_ne hne]
    rw [FlagCall.inTurn_concat, ← hsame, ← h.hardware]
    simp only [FlagCall.moveWhole, hc, Function.update_self, if_true]

/-- **One more access.** Either nothing is different for the controller, or a call is done. -/
lemma move (hcalls : ∀ c ∈ calls, c.Accepted o) (hfit : o.Fits) (hs : s.Sound o) (i : Nat) :
    ∃ point', InTurn o s calls (l ++ [.access i]) (x.step (.access i)) point' := by
  rcases ht : x.threads[i]? with _ | t
  · have hstep : x.step (.access i) = x := by simp only [Race.step, ht]
    rw [hstep]
    exact ⟨point, h.pass rfl rfl fun _ _ => h.thread⟩
  have hlt : i < calls.length := h.size ▸ (List.getElem?_eq_some_iff.mp ht).1
  have hc := List.getElem?_eq_getElem hlt
  generalize calls[i] = c at hc
  have hsound := hs.of_bare h.bare
  have haccepted := hcalls c (List.mem_of_getElem? hc)
  obtain ⟨p, hp, hstands⟩ := h.thread hc
  obtain rfl : t = ⟨c.cpu, p⟩ := Option.some.inj (ht.symm.trans hp)
  have hstep : x.step (.access i) = ⟨((⟨c.cpu, p⟩ : Thread).step x.hardware).2,
      x.threads.set i ((⟨c.cpu, p⟩ : Thread).step x.hardware).1⟩ := by simp only [Race.step, ht]
  -- a call may only be replaced by one that stands as it does
  have hreplace {q : Program Unit} (hq : c.Stands o (point i) q) :
      InTurn o s calls (l ++ [.access i]) ⟨x.hardware, x.threads.set i ⟨c.cpu, q⟩⟩ point := by
    refine h.pass rfl (List.length_set ..) fun j d hd => ?_
    rcases eq_or_ne j i with rfl | hne
    · obtain rfl := Option.some.inj (hd.symm.trans hc)
      exact ⟨q, List.getElem?_set_self (List.getElem?_eq_some_iff.mp ht).1, hq⟩
    · obtain ⟨r, hr, hstands'⟩ := h.thread hd
      exact ⟨r, (List.getElem?_set_ne hne.symm).trans hr, hstands'⟩
  rw [hstep]
  rcases hstands with ⟨hsome, rfl⟩ | ⟨hnone, heffect⟩
  · exact ⟨point, hreplace (.inl ⟨hsome, rfl⟩)⟩
  rcases Thread.step_takesEffect (x := ⟨c.cpu, p⟩) heffect hsound with ⟨q, hq, heffect'⟩ | hq <;> rw [hq]
  · exact ⟨point, hreplace (.inr ⟨hnone, heffect'⟩)⟩
  · refine ⟨_, h.finish hc hnone ?_⟩
    rw [FlagCall.whole_eq haccepted hfit hsound]
    exact State.bare_modifyIrq ..

end Race.InTurn

/-- However the accesses follow each other, the calls that are done were made in turn. -/
lemma Race.exists_inTurn {o : Options} {s : State} {calls : List FlagCall}
    (hcalls : ∀ c ∈ calls, c.Accepted o) (hfit : o.Fits) (hs : s.Sound o) (l : List Race.Move) :
    ∃ point, Race.InTurn o s calls l (l.foldl Race.step (.start o s calls)) point := by
  induction l using List.reverseRecOn with
  | nil => exact ⟨_, .start hcalls hfit⟩
  | append_singleton l m ih =>
    obtain ⟨point, h⟩ := ih
    rw [List.foldl_concat]
    cases m with
    | access i => exact h.move hcalls hfit hs i
    | raise id cpu => exact ⟨point, h.raise id cpu⟩

/-! ### No call is lost -/

namespace Hardware.State

/-- A flag of the interrupt at a place, if there is one. -/
def flagAt (s : State) (f : Flag) (p : Place) : Option Bool := (s.at? p).map (·.get f.field)

lemma isSome_flagAt_modifyIrq (s : State) (id cpu : Nat) (g : Irq → Irq) (f : Flag) (p : Place) :
    ((s.modifyIrq id cpu g).flagAt f p).isSome = (s.flagAt f p).isSome := by
  rw [flagAt, at?_modifyIrq]
  split <;> simp [flagAt]

lemma flagAt_modifyIrq_self {s : State} {id cpu : Nat} {p : Place} (h : s.place? id cpu = some p)
    (f : Flag) (v : Bool) :
    (s.modifyIrq id cpu (·.put f.field v)).flagAt f p = (s.flagAt f p).map fun _ => v := by
  rw [flagAt, at?_modifyIrq, if_pos h, flagAt, Option.map_map, Option.map_map]
  exact congrArg (Option.map · (s.at? p)) (funext fun q => Irq.get_put_self ..)

/-- A change of another flag, or of another interrupt, does not show. -/
lemma flagAt_modifyIrq_of_ne {s : State} {id cpu : Nat} {p : Place} {f g : Flag}
    (h : s.place? id cpu = some p → g ≠ f) (v : Bool) :
    (s.modifyIrq id cpu (·.put g.field v)).flagAt f p = s.flagAt f p := by
  rw [flagAt, at?_modifyIrq]
  split
  next hp =>
    rw [flagAt, Option.map_map]
    refine congrArg (Option.map · (s.at? p)) (funext fun q => ?_)
    have hne : (Setting.flag f) ≠ .flag g := by
      rintro he
      exact h hp (Setting.flag.inj he).symm
    exact Setting.get_put_of_ne hne v q
  next => rfl

end Hardware.State

namespace FlagCall

variable {o : Options} {s t : State} {calls : List FlagCall} {point : Nat → Option Nat} {l : List Race.Move}

/-- The interrupt that the call is about. -/
def place? (c : FlagCall) (s : State) : Option Place := s.place? c.id.number c.owner

/-- Neither another call nor a line that goes up changes the flag that the call is about. -/
structure Alone (calls : List FlagCall) (l : List Race.Move) (s : State) (i : Nat) (f : Flag) (p : Place) :
    Prop where
  calls {j : Nat} {d : FlagCall} (hj : j ≠ i) (hd : calls[j]? = some d) (hp : d.place? s = some p) :
    d.flag ≠ f
  lines (hf : f = .pending) {id cpu : Nat} (hm : .raise id cpu ∈ l) : s.place? id cpu ≠ some p

variable (hcalls : ∀ c ∈ calls, c.Accepted o) (hfit : o.Fits)
include hcalls hfit

/-- A move in turn is a change of one interrupt, or of none. -/
lemma moveWhole_access (ht : t.Sound o) {i : Nat} {c : FlagCall} (hc : calls[i]? = some c) (k : Nat) :
    moveWhole o calls point t (.access i, k) = if point i = some k then
      t.modifyIrq c.id.number c.owner (·.put c.flag.field c.value) else t := by
  simp only [moveWhole, hc, whole_eq (hcalls c (List.mem_of_getElem? hc)) hfit ht]

lemma bare_moveWhole (ht : t.Sound o) (e : Race.Move × Nat) :
    (moveWhole o calls point t e).bare = t.bare := by
  obtain ⟨i | ⟨id, cpu⟩, k⟩ := e
  · rcases hc : calls[i]? with _ | c
    · simp only [moveWhole, hc]
    · rw [moveWhole_access hcalls hfit ht hc]
      split
      · exact State.bare_modifyIrq ..
      · rfl
  · exact State.bare_raise ..

lemma isSome_flagAt_moveWhole (ht : t.Sound o) (e : Race.Move × Nat) (f : Flag) (p : Place) :
    ((moveWhole o calls point t e).flagAt f p).isSome = (t.flagAt f p).isSome := by
  obtain ⟨i | ⟨id, cpu⟩, k⟩ := e
  · rcases hc : calls[i]? with _ | c
    · simp only [moveWhole, hc]
    · rw [moveWhole_access hcalls hfit ht hc]
      split
      · exact State.isSome_flagAt_modifyIrq ..
      · rfl
  · rw [moveWhole, State.after_raise]
    exact State.isSome_flagAt_modifyIrq ..

lemma flagAt_moveWhole (ht : t.Sound o) (hbare : t.bare = s.bare) {i : Nat} {f : Flag} {p : Place}
    {m : Race.Move} (halone : Alone calls [m] s i f p) {k : Nat} (hk : m = .access i → point i ≠ some k) :
    (moveWhole o calls point t (m, k)).flagAt f p = t.flagAt f p := by
  cases m with
  | raise id cpu =>
    rw [moveWhole, State.after_raise]
    refine State.flagAt_modifyIrq_of_ne (g := .pending) (fun hp hf => ?_) true
    rw [State.place?_of_bare hbare] at hp
    exact halone.lines hf.symm (List.mem_singleton_self _) hp
  | access j =>
    rcases hd : calls[j]? with _ | d
    · simp only [moveWhole, hd]
    rw [moveWhole_access hcalls hfit ht hd]
    split
    next hpoint =>
      have hj : j ≠ i := by
        rintro rfl
        exact hk rfl hpoint
      refine State.flagAt_modifyIrq_of_ne (fun hp => ?_) _
      rw [State.place?_of_bare hbare] at hp
      exact halone.calls hj hd hp
    next => rfl

/-- A flag that nothing else changes is as the call was to leave it, once the call was made. -/
lemma flagAt_inTurn (hs : s.Sound o) {i : Nat} {c : FlagCall} {p : Place} (hc : calls[i]? = some c)
    (hp : c.place? s = some p) (halone : Alone calls l s i c.flag p) :
    (inTurn o calls point l s).bare = s.bare
      ∧ ((inTurn o calls point l s).flagAt c.flag p).isSome = (s.flagAt c.flag p).isSome
      ∧ ∀ k, point i = some k → l[k]? = some (.access i) →
        (inTurn o calls point l s).flagAt c.flag p = (s.flagAt c.flag p).map fun _ => c.value := by
  induction l using List.reverseRecOn with
  | nil => exact ⟨rfl, rfl, fun k _ hk => by simp at hk⟩
  | append_singleton l m ih =>
    have hinit : Alone calls l s i c.flag p :=
      ⟨halone.calls, fun hf {_ _} hm => halone.lines hf (List.mem_append_left _ hm)⟩
    have hlast : Alone calls [m] s i c.flag p :=
      ⟨halone.calls, fun hf {_ _} hm => halone.lines hf (List.mem_append_right _ hm)⟩
    obtain ⟨hbare, hsome, hflag⟩ := ih hinit
    have hsound := hs.of_bare hbare
    rw [inTurn_concat]
    refine ⟨(bare_moveWhole hcalls hfit hsound _).trans hbare,
      (isSome_flagAt_moveWhole hcalls hfit hsound ..).trans hsome, fun k hpoint hk => ?_⟩
    rcases Nat.lt_trichotomy k l.length with hlt | rfl | hgt
    · rw [List.getElem?_append_left hlt] at hk
      refine (flagAt_moveWhole hcalls hfit hsound hbare hlast fun _ hl => ?_).trans (hflag k hpoint hk)
      exact hlt.ne (Option.some.inj (hpoint.symm.trans hl))
    · rw [List.getElem?_concat_length] at hk
      obtain rfl := Option.some.inj hk
      rw [moveWhole_access hcalls hfit hsound hc, if_pos hpoint]
      have hplace := (State.place?_of_bare hbare ..).trans hp
      rw [State.flagAt_modifyIrq_self hplace]
      rcases hb : (inTurn o calls point l s).flagAt c.flag p with _ | b <;>
        rcases hb' : s.flagAt c.flag p with _ | b' <;> rw [hb, hb'] at hsome <;> simp_all
    · simp [List.getElem?_eq_none (show (l ++ [m]).length ≤ k by simpa using hgt)] at hk

end FlagCall

/-- **Calls that set and clear flags are atomic**, however the accesses of the cores follow each
other and whatever lines go up in between. No call fails. Every call that is done has an access of
its own at which it can be thought to be made as a whole, and if it is, the same is left. So a flag
that no other call is about, and no line, is as the call was to leave it, whatever becomes of the
other interrupts in the same word. -/
theorem flag_calls_linearizable {o : Options} {s : State} (hs : Reachable o s) (hfit : o.Fits)
    {calls : List FlagCall} (hcalls : ∀ c ∈ calls, c.Accepted o) (l : List Race.Move) :
    ∃ point : Nat → Option Nat,
      (∀ i k, point i = some k → l[k]? = some (.access i))
      ∧ (∀ i t, (l.foldl Race.step (.start o s calls)).threads[i]? = some t →
        (∀ e, t.rest ≠ .fail e) ∧ (t.rest = .done () ↔ (point i).isSome = true))
      ∧ (l.foldl Race.step (.start o s calls)).hardware = FlagCall.inTurn o calls point l s
      ∧ ∀ i c p, calls[i]? = some c → c.place? s = some p → FlagCall.Alone calls l s i c.flag p →
        (point i).isSome = true →
          (l.foldl Race.step (.start o s calls)).hardware.flagAt c.flag p
            = (s.flagAt c.flag p).map fun _ => c.value := by
  obtain ⟨point, h⟩ := Race.exists_inTurn hcalls hfit hs.sound l
  refine ⟨point, fun i k => h.access, fun i t ht => ?_, h.hardware, fun i c p hc hp halone hmade => ?_⟩
  · have hlt : i < calls.length := h.size ▸ (List.getElem?_eq_some_iff.mp ht).1
    obtain ⟨p, hp, hstands⟩ := h.thread (List.getElem?_eq_getElem hlt)
    obtain rfl := Option.some.inj (ht.symm.trans hp)
    rcases hstands with ⟨hsome, rfl⟩ | ⟨hnone, heffect⟩
    · exact ⟨nofun, fun _ => hsome, fun _ => rfl⟩
    · refine ⟨fun e he => ?_, fun hdone => ?_, fun hsome => ?_⟩
      · obtain rfl : p = .fail e := he
        exact heffect
      · obtain rfl : p = .done () := hdone
        exact heffect.elim
      · rw [hnone] at hsome
        cases hsome
  · obtain ⟨k, hk⟩ := Option.isSome_iff_exists.mp hmade
    rw [h.hardware]
    exact (FlagCall.flagAt_inTurn hcalls hfit hs.sound hc hp halone).2.2 k hk (h.access hk)

/-- Core 0 is to disable interrupt 33, and core 1 to enable its neighbour. -/
def rivals : List FlagCall :=
  [⟨0, .routed .nonSecure, .enabled, .ofNat 33, false⟩,
    ⟨1, .routed .nonSecure, .enabled, .ofNat 34, true⟩]

/-- Core 1 gets in between the two accesses of core 0, and so does a line. Nothing is lost. -/
theorem flag_calls_linearizable_in_one_word :
    let s := (State.reset .routed).after (.access (.write .word (Region.distributor.base + 0x104) 2))
    let l := [Race.Move.access 0, .access 1, .raise 33 0, .access 0]
    let t := (l.foldl Race.step (.start .routed s rivals)).hardware
    Reachable .routed s ∧ Options.routed.Fits ∧ (∀ c ∈ rivals, c.Accepted .routed)
      ∧ s.flagAt .enabled (.shared 33) = some true ∧ s.flagAt .enabled (.shared 34) = some false
      ∧ t.flagAt .enabled (.shared 33) = some false ∧ t.flagAt .enabled (.shared 34) = some true
      ∧ ∃ point, (∀ i < 2, (point i).isSome = true) ∧ t = FlagCall.inTurn .routed rivals point l s := by
  intro s l t
  have hs : Reachable .routed s := .after .reset _
  have haccepted : ∀ c ∈ rivals, c.Accepted .routed := by
    simp only [rivals, List.forall_mem_cons, List.not_mem_nil, false_implies, implies_true, and_true]
    exact ⟨⟨by decide, rfl, by decide⟩, ⟨by decide, rfl, by decide⟩⟩
  have hup : s.flagAt .enabled (.shared 33) = some true := by decide +kernel
  have hdown : s.flagAt .enabled (.shared 34) = some false := by decide +kernel
  have hends : ((l.foldl Race.step (.start .routed s rivals)).threads.map fun u =>
      match u.rest with | .done () => true | _ => false) = [true, true] := by decide +kernel
  obtain ⟨point, -, hthreads, hleft, hkept⟩ := flag_calls_linearizable hs fits_routed haccepted l
  have hmade : ∀ i < 2, (point i).isSome = true := by
    intro i hi
    have hend := congrArg (·[i]?) hends
    rcases hu : (l.foldl Race.step (.start .routed s rivals)).threads[i]? with _ | ⟨cpu, p⟩
    · interval_cases i <;> simp [hu] at hend
    · refine (hthreads i _ hu).2.mp ?_
      cases p with
      | done u => rfl
      | fail | ask => interval_cases i <;> simp [hu] at hend
  have hplace : ∀ i < 2, ∀ c ∈ rivals[i]?, c.place? s = some (.shared (33 + i)) := by decide +kernel
  have halone : ∀ i < 2, FlagCall.Alone rivals l s i .enabled (.shared (33 + i)) := by
    refine fun i _ => ⟨fun {j d} hj hd hp => ?_, fun hf => by cases hf⟩
    have hlt : j < 2 := (List.getElem?_eq_some_iff.mp hd).1
    rw [hplace j hlt d hd, Option.some.injEq, Place.shared.injEq] at hp
    omega
  have hfirst := hkept 0 _ _ rfl (hplace 0 (by decide) _ rfl) (halone 0 (by decide))
    (hmade 0 (by decide))
  have hsecond := hkept 1 _ _ rfl (hplace 1 (by decide) _ rfl) (halone 1 (by decide))
    (hmade 1 (by decide))
  rw [show s.flagAt .enabled (.shared (33 + 0)) = some true from hup] at hfirst
  rw [show s.flagAt .enabled (.shared (33 + 1)) = some false from hdown] at hsecond
  exact ⟨hs, fits_routed, haccepted, hup, hdown, hfirst, hsecond, point, hmade, hleft⟩

end InterruptControl
