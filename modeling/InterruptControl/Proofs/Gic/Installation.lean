import InterruptControl.Proofs.Gic.Chronicle

/-!
The table of handlers stands for the record of what was installed.

A run is compared with one that has no table: it looks back in its history for the handler of an
interrupt. The two are the same, so what is called for an interrupt is always what was installed
last for just that one.
-/

namespace InterruptControl

/-- The interrupts that can have a handler. -/
def IntId.canHaveHandler (id : IntId) : Bool :=
  id.isSgi || id.isPpi || id.isSpi || id.isExtendedPpi || id.isExtendedSpi

lemma Handlers.isSome_slot? (id : IntId) : (slot? id).isSome = id.canHaveHandler := by
  rw [Bool.eq_iff_iff, IntId.canHaveHandler]
  simp only [Bool.or_eq_true, id.isSgi_iff, id.isPpi_iff, id.isSpi_iff, id.isExtendedPpi_iff,
    id.isExtendedSpi_iff]
  simp only [slot?]
  split_ifs with h1 h2 h3
  · exact iff_of_true rfl (by omega)
  · exact iff_of_true rfl (by omega)
  · exact iff_of_true rfl (by omega)
  · exact iff_of_false Bool.false_ne_true (by omega)

namespace Gic

open Bus Hardware Program

variable {H : Type}

/-! ### Without a table -/

namespace Ledger

/-- The handler that was installed last for an acknowledged interrupt, if it is not an LPI. -/
def handler? (y : Chronicle H) (a : Ack) : Option H :=
  if a.id.isLpi then none else Record.installed a.id y.history

def serve (handle : H → Ack → Play H Unit) (a : Ack) : Play H Unit := do
  let y ← get
  match handler? y a with
  | some h => handle h a
  | none => Chronicle.perform (y.frontEnd.reject a)
  let z ← get
  Chronicle.perform (z.frontEnd.finish a)

def attend (handle : H → Ack → Play H Unit) : (n : Nat) → Play H Unit
  | 0 => Chronicle.perform (fail .endless)
  | n + 1 => do
    let y ← get
    let a ← Chronicle.perform y.frontEnd.acknowledge
    match a with
    | none => pure ()
    | some a => do
      serve handle a
      attend handle n

def dispatch (handle : H → Ack → Play H Unit) (rounds : Nat) : Play H Unit := fun y =>
  let r := attend handle (rounds + 1) { y with requests := [] }
  (r.1, { r.2 with
    requests := y.requests ++ r.2.requests
    history := r.2.history ++ [⟨.dispatch, r.1.map .ok, r.2.requests⟩] })

/-- Only dispatching differs. -/
def play (handle : H → Ack → Play H Unit) (rounds : Nat) : Occurrence H → Play H Unit
  | .dispatch => dispatch handle rounds
  | x => Chronicle.play handle rounds x

def handler (respond : Chronicle H → H → Ack → List (Occurrence H)) (rounds : Nat) :
    (depth : Nat) → H → Ack → Play H Unit
  | 0, _, _ => fun y => (.error .endless, y)
  | depth + 1, h, a => fun y => (respond y h a).forM (play (handler respond rounds depth) rounds) y

def run (handle : H → Ack → Play H Unit) (rounds : Nat) (y : Chronicle H) (l : List (Occurrence H)) :
    Chronicle H := l.foldl (fun y x => (play handle rounds x y).2) y

end Ledger

/-! ### Plays that do the same -/

namespace Play

variable {α β : Type}

/-- Where the chronicle is as it has to be, both do the same, and leave it so. -/
def Same (J : Chronicle H → Prop) (x x' : Play H α) : Prop := ∀ y, J y → x y = x' y ∧ J (x y).2

namespace Same

variable {J : Chronicle H → Prop} {x x' : Play H α} {f f' : α → Play H β}

lemma of_keeps (h : Keeps J x) : Same J x x := fun y hy => ⟨rfl, h y hy⟩

lemma bind (hx : Same J x x') (hf : ∀ a, Same J (f a) (f' a)) : Same J (x >>= f) (x' >>= f') := by
  intro y hy
  obtain ⟨he, hz⟩ := hx y hy
  rw [bind_apply, bind_apply, ← he]
  rcases hr : x y with ⟨e | a, z⟩ <;> rw [hr] at hz
  · exact ⟨rfl, hz⟩
  · exact hf a z hz

lemma forM {γ : Type} {l : List γ} {f f' : γ → Play H Unit} (hf : ∀ c ∈ l, Same J (f c) (f' c)) :
    Same J (l.forM f) (l.forM f') := by
  induction l with
  | nil => exact of_keeps (.pure ())
  | cons c l ih =>
    obtain ⟨hc, hl⟩ := List.forall_mem_cons.mp hf
    exact hc.bind fun _ => ih hl

end Same

end Play

namespace Chronicle

variable {y : Chronicle H}

/-! ### The same run without the table -/

section Same

open Play

variable {handle handle' : H → Ack → Play H Unit}

lemma same_perform {α : Type} (p : Program α) : Same Recorded (perform (H := H) p) (perform p) :=
  .of_keeps fun _ h => h

/-- The handler that is found is the one that was installed last, so an interrupt is served alike. -/
lemma same_serve (hhandle : ∀ h a, Same Recorded (handle h a) (handle' h a)) (a : Ack) :
    Same Recorded ((surroundings handle).frontEnd >>= fun g => Gic.serve (surroundings handle) g a)
      (Ledger.serve handle' a) := by
  intro y h
  have hfound : y.frontEnd.handler? a = Ledger.handler? y a := by
    rw [Gic.handler?, Ledger.handler?, h]
  have hfinish : Same Recorded ((surroundings handle).frontEnd >>= fun g => perform (g.finish a))
      ((get : Play H (Chronicle H)) >>= fun z => perform (z.frontEnd.finish a)) :=
    fun z hz => same_perform (z.frontEnd.finish a) z hz
  have htable : ((surroundings handle).frontEnd >>= fun g => Gic.serve (surroundings handle) g a) y
      = Gic.serve (surroundings handle) y.frontEnd a y := rfl
  have hledger : Ledger.serve handle' a y = ((match y.frontEnd.handler? a with
      | some h => handle' h a
      | none => perform (y.frontEnd.reject a)) >>= fun _ =>
        (get : Play H (Chronicle H)) >>= fun z => perform (z.frontEnd.finish a)) y := by
    rw [hfound]
    show (match Ledger.handler? y a with
      | some h => handle' h a >>= fun _ => _
      | none => perform (y.frontEnd.reject a) >>= fun _ => _ : Play H Unit) y = _
    rcases Ledger.handler? y a with _ | h <;> rfl
  rw [htable, hledger]
  unfold Gic.serve
  rcases y.frontEnd.handler? a with _ | h'
  · exact (same_perform _).bind (fun _ => hfinish) y h
  · exact (hhandle h' a).bind (fun _ => hfinish) y h

/-- To acknowledge leaves the front end as it is, so it may be looked at once more. -/
lemma dispatch_anew (handle : H → Ack → Play H Unit) (n : Nat) (y : Chronicle H) :
    Gic.dispatch (surroundings handle) (n + 1) y = (perform y.frontEnd.acknowledge >>= fun a =>
      match a with
      | none => pure ()
      | some a =>
        ((surroundings handle).frontEnd >>= fun g => Gic.serve (surroundings handle) g a)
          >>= fun _ => Gic.dispatch (surroundings handle) n : Play H Unit) y := by
  show (perform y.frontEnd.acknowledge >>= _ : Play H Unit) y = _
  rw [bind_apply, bind_apply]
  rcases hr : perform y.frontEnd.acknowledge y with ⟨e | _ | a, z⟩
  · rfl
  · rfl
  · show (Gic.serve (surroundings handle) y.frontEnd a >>= _ : Play H Unit) z
      = (Gic.serve (surroundings handle) z.frontEnd a >>= _ : Play H Unit) z
    have hkept : z.frontEnd = y.frontEnd := (congrArg (·.2.frontEnd) hr).symm
    rw [hkept]

variable (hhandle : ∀ h a, Same Recorded (handle h a) (handle' h a))
include hhandle

lemma same_attend (n : Nat) :
    Same Recorded (Gic.dispatch (surroundings handle) n) (Ledger.attend handle' n) := by
  induction n with
  | zero => exact same_perform _
  | succ n ih =>
    intro y h
    rw [dispatch_anew]
    refine (same_perform y.frontEnd.acknowledge).bind (fun a => ?_) y h
    rcases a with _ | a
    · exact .of_keeps (.pure ())
    · exact (same_serve hhandle a).bind fun _ => ih

/-- A dispatch leaves a record, which is not one of an installation. -/
lemma same_dispatch (rounds : Nat) :
    Same Recorded (dispatch handle rounds) (Ledger.dispatch handle' rounds) := by
  intro y h
  obtain ⟨hsame, hrecorded⟩ := same_attend hhandle (rounds + 1) { y with requests := [] } h
  refine ⟨?_, fun id => (hrecorded id).trans
    (Record.installed_snoc_of_ne (by rintro _ _ ⟨⟩)).symm⟩
  rw [dispatch, Ledger.dispatch, hsame]

/-- One step of a run. -/
lemma same_play (rounds : Nat) (x : Occurrence H) :
    Same Recorded (play handle rounds x) (Ledger.play handle' rounds x) := by
  cases x with
  | call c => exact .of_keeps fun _ h => h.call c
  | dispatch => exact same_dispatch hhandle rounds
  | event e => exact .of_keeps fun _ h => h

end Same

/-- Handlers respond alike, and what they do in turn is the same. -/
lemma same_handler (respond : Chronicle H → H → Ack → List (Occurrence H)) (rounds depth : Nat)
    (h : H) (a : Ack) : Play.Same Recorded (handler respond rounds depth h a)
      (Ledger.handler respond rounds depth h a) := by
  induction depth generalizing h a with
  | zero => exact .of_keeps fun _ hy => hy
  | succ depth ih =>
    exact fun y hy => Play.Same.forM (fun x _ => same_play ih rounds x) y hy

/-- A whole run. -/
lemma Recorded.run (h : y.Recorded) (respond : Chronicle H → H → Ack → List (Occurrence H))
    (rounds depth : Nat) (l : List (Occurrence H)) :
    y.run (handler respond rounds depth) rounds l
        = Ledger.run (Ledger.handler respond rounds depth) rounds y l
      ∧ (y.run (handler respond rounds depth) rounds l).Recorded := by
  induction l generalizing y with
  | nil => exact ⟨rfl, h⟩
  | cons x l ih =>
    obtain ⟨hsame, hrecorded⟩ := same_play (same_handler respond rounds depth) rounds x y h
    obtain ⟨hrun, hend⟩ := ih hrecorded
    refine ⟨hrun.trans ?_, hend⟩
    rw [hsame]
    rfl

end Chronicle

/-- An installation for an interrupt that cannot have a handler fails, and leaves the front end as
it is. -/
lemma call_install (y : Chronicle H) (id : IntId) (h : Option H) :
    if id.canHaveHandler then (Chronicle.call (.install id h) y).1 = .ok ()
    else (Chronicle.call (.install id h) y).1 = .error (.noHandlerSlot id.number)
      ∧ (Chronicle.call (.install id h) y).2.frontEnd = y.frontEnd := by
  have hanswer := y.answer_install id h
  rw [← Handlers.isSome_slot?]
  split
  next hslot =>
    obtain ⟨g, hi⟩ := exists_install y.frontEnd h hslot
    rw [Chronicle.call, hanswer, hi]
    rfl
  next hslot =>
    rw [Chronicle.call, hanswer, y.frontEnd.install_of_none h (by simpa using hslot)]
    exact ⟨rfl, rfl⟩

/-- **Handlers of different interrupts never collide.** An installation fails exactly for the
interrupts that cannot have a handler, with no effect; all the others have a slot each. So
whatever happens to a front end, and whatever handlers do when they are called, it all goes as if
there were no table: for an interrupt that is acknowledged the handler is called that was installed
last for it, and none if that was taken away or never was one. -/
theorem handlers_never_collide :
    (∀ (y : Chronicle H) (id : IntId) (h : Option H),
      if id.canHaveHandler then (Chronicle.call (.install id h) y).1 = .ok ()
      else (Chronicle.call (.install id h) y).1 = .error (.noHandlerSlot id.number)
        ∧ (Chronicle.call (.install id h) y).2.frontEnd = y.frontEnd)
    ∧ (∀ id, (Handlers.slot? id).isSome = id.canHaveHandler)
    ∧ (∀ id id' i, Handlers.slot? id = some i → Handlers.slot? id' = some i → id = id')
    ∧ ∀ (version : Version) (engine : Engine) (twoStep : Bool) (s : State)
        (respond : Chronicle H → H → Ack → List (Occurrence H)) (rounds depth : Nat)
        (l : List (Occurrence H)),
      let y := Chronicle.fresh ⟨version, engine, twoStep, .empty⟩ s
      y.run (Chronicle.handler respond rounds depth) rounds l
          = Ledger.run (Ledger.handler respond rounds depth) rounds y l
        ∧ ∀ id, (y.run (Chronicle.handler respond rounds depth) rounds l).frontEnd.handlers.find? id
          = Record.installed id (y.run (Chronicle.handler respond rounds depth) rounds l).history := by
  refine ⟨call_install, Handlers.isSome_slot?, fun _ _ _ => Handlers.slot?_injective, ?_⟩
  intro version engine twoStep s respond rounds depth l
  exact (Chronicle.recorded_fresh version engine twoStep s).run respond rounds depth l

/-- The slot of the last extended PPI is that of no other interrupt. Handlers are installed for it
and its neighbour in the table, which is the first extended SPI, and one of them is taken away; that
of a special number is refused. -/
theorem handlers_never_collide_at_the_seam :
    (∀ id i, i.val = 1083 → Handlers.slot? id = some i → id = .ofNat 1119)
    ∧ (Handlers.slot? (.ofNat 4096)).map Fin.val = some 1084
    ∧ ∃ y : Chronicle Nat,
      y = (Chronicle.fresh ⟨.v3, .none, false, .empty⟩ (.reset .manifold)).run
        (Chronicle.handler (fun _ _ _ => []) 1 1) 1
        [.call (.install (.ofNat 1119) (some 7)), .call (.install (.ofNat 4096) (some 8)),
          .call (.install (.ofNat 1023) (some 9)), .call (.install (.ofNat 4096) none)]
      ∧ y.frontEnd.handlers.find? (.ofNat 1119) = some 7
      ∧ y.frontEnd.handlers.find? (.ofNat 4096) = none := by
  obtain ⟨-, -, hinjective, hrun⟩ := handlers_never_collide (H := Nat)
  have htable := (hrun .v3 .none false (.reset .manifold) (fun _ _ _ => []) 1 1
    [.call (.install (.ofNat 1119) (some 7)), .call (.install (.ofNat 4096) (some 8)),
      .call (.install (.ofNat 1023) (some 9)), .call (.install (.ofNat 4096) none)]).2
  refine ⟨fun id i hi hid => hinjective _ _ i hid ?_, rfl, _, rfl, ?_, ?_⟩
  · obtain rfl : i = ⟨1083, by decide⟩ := Fin.ext hi
    rfl
  · exact (htable _).trans rfl
  · exact (htable _).trans rfl

end Gic

end InterruptControl
