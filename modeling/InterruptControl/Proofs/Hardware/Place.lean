import InterruptControl.Hardware.Delivery
import Mathlib

/-!
Looking at an interrupt after another one, or the same one, was changed.

A change at one place is seen there and nowhere else. All the rest of the controller, its
`bare` state, stays as it is, and with it the way from numbers to places. Two changes are
the same if they agree on what is kept at the place.
-/

namespace InterruptControl.Hardware

/-! ### Entries by key -/

lemma lookup_modifyEntry (k : Nat) (f : Irq → Irq) (l : List (Nat × Irq)) (n : Nat) :
    (modifyEntry k f l).lookup n = if n = k then (l.lookup n).map f else l.lookup n := by
  induction l with
  | nil => simp [modifyEntry]
  | cons e rest ih =>
    obtain ⟨m, q⟩ := e
    rcases eq_or_ne m k with rfl | hm
    · rcases eq_or_ne n m with rfl | hn
      · simp [modifyEntry]
      · simp [modifyEntry, List.lookup_cons, hn, beq_eq_false_iff_ne.mpr hn]
    · rcases eq_or_ne n m with rfl | hn
      · simp [modifyEntry, hm]
      · simp only [modifyEntry, hm, if_false, List.lookup_cons, beq_eq_false_iff_ne.mpr hn]
        exact ih

lemma map_fst_modifyEntry (k : Nat) (f : Irq → Irq) (l : List (Nat × Irq)) :
    (modifyEntry k f l).map Prod.fst = l.map Prod.fst := by
  induction l with
  | nil => rfl
  | cons e rest ih =>
    rcases eq_or_ne e.1 k with h | h
    · simp [modifyEntry, h]
    · simp [modifyEntry, h, ih]

lemma modifyEntry_congr {k : Nat} {f g : Irq → Irq} {l : List (Nat × Irq)}
    (h : ∀ q, l.lookup k = some q → f q = g q) : modifyEntry k f l = modifyEntry k g l := by
  induction l with
  | nil => rfl
  | cons e rest ih =>
    obtain ⟨m, q⟩ := e
    rcases eq_or_ne m k with rfl | hm
    · simp [modifyEntry, h q (by simp)]
    · have hrest : ∀ q', rest.lookup k = some q' → f q' = g q' := fun q' hq =>
        h q' (by simp [List.lookup_cons, beq_eq_false_iff_ne.mpr hm.symm, hq])
      simp only [modifyEntry, hm, if_false]
      rw [ih hrest]

lemma modifyEntry_id (k : Nat) (l : List (Nat × Irq)) : modifyEntry k (fun q => q) l = l := by
  induction l with
  | nil => rfl
  | cons e rest ih =>
    obtain ⟨m, q⟩ := e
    rcases eq_or_ne m k with rfl | h
    · simp [modifyEntry]
    · simp [modifyEntry, h, ih]

lemma modifyEntry_modifyEntry (k : Nat) (f g : Irq → Irq) (l : List (Nat × Irq)) :
    modifyEntry k g (modifyEntry k f l) = modifyEntry k (fun q => g (f q)) l := by
  induction l with
  | nil => rfl
  | cons e rest ih =>
    rcases eq_or_ne e.1 k with h | h <;> simp [modifyEntry, h, ih]

lemma lookup_eq_of_map_fst {l l' : List (Nat × Irq)} (h : l.map Prod.fst = l'.map Prod.fst)
    (k : Nat) : (l.lookup k).isSome = (l'.lookup k).isSome := by
  induction l generalizing l' with
  | nil =>
    obtain rfl : l' = [] := by simpa using h.symm
    rfl
  | cons e rest ih =>
    obtain _ | ⟨e', rest'⟩ := l'
    · simp at h
    · obtain ⟨m, q⟩ := e
      obtain ⟨m', q'⟩ := e'
      obtain ⟨rfl, hrest⟩ : m = m' ∧ rest.map Prod.fst = rest'.map Prod.fst := by simpa using h
      simp only [List.lookup_cons]
      split
      · rfl
      · exact ih hrest

/-- The number that leads to a place. -/
def Place.number : Place → Nat
  | .shared i => if i < 1024 then i else i + 3072
  | .own _ i => privateNumber i
  | .lpi _ id => id

/-! ### All but the interrupts -/

/-- The core with its interrupts blanked out. Which LPIs it keeps is still seen. -/
def Core.bare (c : Core) : Core :=
  { c with own := Vector.replicate 96 {}, lpis := c.lpis.map fun e => (e.1, {}) }

lemma Core.lpis_of_bare {c c' : Core} (h : c.bare = c'.bare) :
    c.lpis.map Prod.fst = c'.lpis.map Prod.fst := by
  have := congrArg (fun c => c.lpis.map Prod.fst) h
  simpa [Core.bare, Function.comp_def] using this

namespace State

/-- The controller with its interrupts blanked out. -/
def bare (s : State) : State :=
  { s with shared := Vector.replicate 2048 {}, cores := s.cores.map Core.bare }

variable {s t : State}

lemma options_of_bare (h : s.bare = t.bare) : s.options = t.options := (congrArg options h :)
lemma current_of_bare (h : s.bare = t.bare) : s.current = t.current := (congrArg current h :)
lemma control_of_bare (h : s.bare = t.bare) : s.control = t.control := (congrArg control h :)
lemma isRouted_of_bare (h : s.bare = t.bare) : s.isRouted = t.isRouted := (congrArg isRouted h :)

lemma size_of_bare (h : s.bare = t.bare) : s.cores.size = t.cores.size := by
  simpa [bare] using congrArg (fun s => s.cores.size) h

lemma core_of_bare (h : s.bare = t.bare) (i : Nat) :
    s.cores[i]?.map Core.bare = t.cores[i]?.map Core.bare := by
  simpa [bare] using congrArg (fun s => s.cores[i]?) h

/-- A core of one state is also one of the other, with the same registers. -/
lemma exists_core_of_bare (h : s.bare = t.bare) {i : Nat} {c : Core} (hc : s.cores[i]? = some c) :
    ∃ c', t.cores[i]? = some c' ∧ c.bare = c'.bare := by
  have := core_of_bare h i
  rw [hc] at this
  obtain ⟨c', hc', he⟩ := Option.map_eq_some_iff.mp this.symm
  exact ⟨c', hc', he.symm⟩

lemma place?_of_bare (h : s.bare = t.bare) (id cpu : Nat) : s.place? id cpu = t.place? id cpu := by
  have ho := options_of_bare h
  have hr := isRouted_of_bare h
  rcases hc : s.cores[cpu]? with _ | c
  · have : t.cores[cpu]? = none := by simpa [hc] using core_of_bare h cpu
    simp [place?, hc, this]
  · obtain ⟨c', hc', hb⟩ := exists_core_of_bare h hc
    simp only [place?, hc, hc', ho, hr, lookup_eq_of_map_fst (Core.lpis_of_bare hb)]

/-! ### Changes at a place -/

variable (s) (p : Place) (f g : Irq → Irq)

lemma modify_shared {i : Nat} (h : i < 2048) :
    s.modify (.shared i) f = { s with shared := s.shared.set i (f s.shared[i]) h } := by
  simp [modify, h]

lemma modify_shared_of_le {i : Nat} (h : 2048 ≤ i) : s.modify (.shared i) f = s := by
  simp [modify, show ¬ i < 2048 by omega]

/-- The core after a change at one of its own interrupts. -/
lemma modify_own (cpu i : Nat) : s.modify (.own cpu i) f = s.modifyCore cpu fun c =>
    if h : i < 96 then { c with own := c.own.set i (f c.own[i]) h } else c := rfl

lemma modify_lpi (cpu id : Nat) : s.modify (.lpi cpu id) f = s.modifyCore cpu fun c =>
    { c with lpis := modifyEntry id f c.lpis } := rfl

lemma bare_modifyCore {cpu : Nat} {f : Core → Core} (h : ∀ c, (f c).bare = c.bare) :
    (s.modifyCore cpu f).bare = s.bare := by
  have : (s.cores.modify cpu f).map Core.bare = s.cores.map Core.bare := by
    ext i
    · simp
    · simp only [Array.getElem_map, Array.getElem_modify]
      split <;> simp [h]
  simp [bare, modifyCore, this]

@[simp] lemma bare_modify : (s.modify p f).bare = s.bare := by
  cases p with
  | shared i =>
    rcases Nat.lt_or_ge i 2048 with h | h
    · rw [modify_shared s f h]
      rfl
    · rw [modify_shared_of_le s f h]
  | own cpu i =>
    rw [modify_own]
    refine bare_modifyCore s fun c => ?_
    split <;> rfl
  | lpi cpu id =>
    rw [modify_lpi]
    refine bare_modifyCore s fun c => ?_
    have : (modifyEntry id f c.lpis).map (fun e => (e.1, ({} : Irq)))
        = c.lpis.map fun e => (e.1, {}) := by
      simpa [Function.comp_def] using
        congrArg (List.map fun n => (n, ({} : Irq))) (map_fst_modifyEntry id f c.lpis)
    simp only [Core.bare, this]

@[simp] lemma options_modify : (s.modify p f).options = s.options :=
  options_of_bare (bare_modify s p f)

@[simp] lemma current_modify : (s.modify p f).current = s.current :=
  current_of_bare (bare_modify s p f)

@[simp] lemma control_modify : (s.modify p f).control = s.control :=
  control_of_bare (bare_modify s p f)

@[simp] lemma isRouted_modify : (s.modify p f).isRouted = s.isRouted :=
  isRouted_of_bare (bare_modify s p f)

@[simp] lemma size_modify : (s.modify p f).cores.size = s.cores.size :=
  size_of_bare (bare_modify s p f)

@[simp] lemma place?_modify (id cpu : Nat) : (s.modify p f).place? id cpu = s.place? id cpu :=
  place?_of_bare (bare_modify s p f) id cpu

@[simp] lemma size_modifyCore (cpu : Nat) (f : Core → Core) :
    (s.modifyCore cpu f).cores.size = s.cores.size := Array.size_modify

lemma getElem?_modifyCore (cpu : Nat) (f : Core → Core) (i : Nat) :
    (s.modifyCore cpu f).cores[i]? = if i = cpu then s.cores[i]?.map f else s.cores[i]? := by
  simp only [modifyCore, Array.getElem?_modify, eq_comm]

/-- A change is seen at its place and nowhere else. -/
lemma at?_modify (p' : Place) :
    (s.modify p f).at? p' = if p' = p then (s.at? p').map f else s.at? p' := by
  cases p with
  | shared i =>
    rcases Nat.lt_or_ge i 2048 with h | h
    · rw [modify_shared s f h]
      cases p' with
      | shared j =>
        rcases eq_or_ne j i with rfl | hj
        · simp [at?, h]
        · simp [at?, hj, hj.symm]
      | own cpu j => simp [at?]
      | lpi cpu id => simp [at?]
    · rw [modify_shared_of_le s f h]
      split
      next he => simp [he, at?, h]
      next => rfl
  | own cpu i =>
    rw [modify_own]
    cases p' with
    | shared j => simp [at?, modifyCore]
    | own cpu' j =>
      simp only [at?, getElem?_modifyCore, Place.own.injEq]
      rcases eq_or_ne cpu' cpu with rfl | hcpu
      · rcases s.cores[cpu']? with _ | c
        · simp
        · rcases eq_or_ne j i with rfl | hj
          · by_cases h : j < 96 <;> simp [h]
          · by_cases h : i < 96 <;> simp [h, hj, hj.symm]
      · simp [hcpu]
    | lpi cpu' id =>
      simp only [at?, getElem?_modifyCore, reduceCtorEq, if_false]
      rcases s.cores[cpu']? with _ | c
      · simp
      · split <;> simp [apply_dite Core.lpis]
  | lpi cpu id =>
    rw [modify_lpi]
    cases p' with
    | shared j => simp [at?, modifyCore]
    | own cpu' j =>
      simp only [at?, getElem?_modifyCore, reduceCtorEq, if_false]
      rcases s.cores[cpu']? with _ | c <;> split <;> simp
    | lpi cpu' id' =>
      simp only [at?, getElem?_modifyCore, Place.lpi.injEq]
      rcases eq_or_ne cpu' cpu with rfl | hcpu
      · rcases s.cores[cpu']? with _ | c <;> simp [lookup_modifyEntry]
      · simp [hcpu]

@[simp] lemma at?_modify_self : (s.modify p f).at? p = (s.at? p).map f := by
  simp [at?_modify]

lemma at?_modify_of_ne {p p' : Place} (h : p' ≠ p) : (s.modify p f).at? p' = s.at? p' := by
  simp [at?_modify, h]

variable {s} in
lemma modifyCore_congr {cpu : Nat} {f g : Core → Core}
    (h : ∀ c, s.cores[cpu]? = some c → f c = g c) : s.modifyCore cpu f = s.modifyCore cpu g := by
  unfold modifyCore
  congr 1
  ext k hk
  · simp
  · simp only [Array.getElem_modify]
    split
    next hcpu =>
      subst hcpu
      exact h _ (Array.getElem?_eq_getElem (by simpa using hk))
    next => rfl

variable {s p f g} in
lemma modify_congr (h : ∀ q, s.at? p = some q → f q = g q) : s.modify p f = s.modify p g := by
  cases p with
  | shared i =>
    rcases Nat.lt_or_ge i 2048 with hi | hi
    · rw [modify_shared s f hi, modify_shared s g hi, h s.shared[i] (by simp [at?, hi])]
    · rw [modify_shared_of_le s f hi, modify_shared_of_le s g hi]
  | own cpu i =>
    refine modifyCore_congr fun c hc => ?_
    split
    next hi => rw [h c.own[i] (by simp [at?, hc, hi])]
    next => rfl
  | lpi cpu id =>
    refine modifyCore_congr fun c hc => ?_
    rw [modifyEntry_congr fun q hq => h q (by simp [at?, hc, hq])]

lemma modifyCore_id (cpu : Nat) : s.modifyCore cpu (fun c => c) = s := by
  simp only [modifyCore]
  congr 1
  ext k hk <;> simp [Array.getElem_modify]

lemma modifyCore_modifyCore (cpu : Nat) (f g : Core → Core) :
    (s.modifyCore cpu f).modifyCore cpu g = s.modifyCore cpu fun c => g (f c) := by
  simp only [modifyCore]
  congr 1
  ext k hk
  · simp
  · simp only [Array.getElem_modify]
    split <;> rfl

@[simp] lemma modify_id : s.modify p (fun q => q) = s := by
  cases p with
  | shared i =>
    rcases Nat.lt_or_ge i 2048 with h | h
    · rw [modify_shared s _ h]
      simp
    · rw [modify_shared_of_le s _ h]
  | own cpu i =>
    rw [modify_own]
    refine (modifyCore_congr fun c _ => ?_).trans (s.modifyCore_id cpu)
    simp
  | lpi cpu id =>
    simp only [modify_lpi, modifyEntry_id]
    exact s.modifyCore_id cpu

variable {s p f} in
/-- A change that is none where it could be seen. -/
lemma modify_eq_self (h : ∀ q, s.at? p = some q → f q = q) : s.modify p f = s :=
  (modify_congr h).trans (s.modify_id p)

lemma modify_modify : (s.modify p f).modify p g = s.modify p fun q => g (f q) := by
  cases p with
  | shared i =>
    rcases Nat.lt_or_ge i 2048 with h | h
    · simp [modify_shared _ _ h]
    · simp [modify_shared_of_le _ _ h]
  | own cpu i =>
    simp only [modify_own, modifyCore_modifyCore]
    refine modifyCore_congr fun c _ => ?_
    split <;> simp
  | lpi cpu id => simp only [modify_lpi, modifyCore_modifyCore, modifyEntry_modifyEntry]

/-! ### Interrupts by number -/

section Numbers

variable {id cpu : Nat} {c : Core}

lemma place?_of_none (h : s.cores[cpu]? = none) : s.place? id cpu = none := by
  simp [place?, h]

lemma place?_of_lt (hc : s.cores[cpu]? = some c) (h : id < 32) :
    s.place? id cpu = some (.own cpu id) := by
  have : ¬ 8192 ≤ id := by omega
  simp [place?, hc, h, this]

lemma place?_extended (hc : s.cores[cpu]? = some c) (hs : s.isRouted = true) (h : 1056 ≤ id)
    (h' : id < 1024 + s.options.privateCount) (hle : s.options.privateCount ≤ 96) :
    s.place? id cpu = some (.own cpu (id - 1024)) := by
  have h1 : ¬ 8192 ≤ id := by omega
  have h2 : ¬ id < 32 := by omega
  simp [place?, hc, hs, h, h', h1, h2]

/-- What a number stands for that leads to a place. -/
inductive LeadsTo (s : State) (cpu : Nat) (c : Core) (id : Nat) : Place → Prop
  | lpi (h : 8192 ≤ id) (hq : (c.lpis.lookup id).isSome) : LeadsTo s cpu c id (.lpi cpu id)
  | own (h : id < 32) : LeadsTo s cpu c id (.own cpu id)
  | extendedOwn (hs : s.isRouted = true) (h : 1056 ≤ id) (h' : id < 1024 + s.options.privateCount) :
    LeadsTo s cpu c id (.own cpu (id - 1024))
  | shared (h : 32 ≤ id) (h' : id < s.options.sharedLimit) : LeadsTo s cpu c id (.shared id)
  | extendedShared (h : 4096 ≤ id) (h' : id < 4096 + s.options.extendedCount) (h8 : id < 8192) :
    LeadsTo s cpu c id (.shared (id - 3072))

variable {s} {p}

lemma leadsTo_of_place? (h : s.place? id cpu = some p) :
    ∃ c, s.cores[cpu]? = some c ∧ LeadsTo s cpu c id p := by
  rcases hc : s.cores[cpu]? with _ | c
  · simp [place?_of_none s hc] at h
  refine ⟨c, rfl, ?_⟩
  simp only [place?, hc] at h
  split at h
  next h1 =>
    split at h
    next hq => exact Option.some.inj h ▸ .lpi h1 hq
    next => simp at h
  next h1 =>
    split at h
    next h2 => exact Option.some.inj h ▸ .own h2
    next h2 =>
      split at h
      next h3 =>
        simp only [Bool.and_eq_true, decide_eq_true_eq] at h3
        exact Option.some.inj h ▸ .extendedOwn h3.1.1 h3.1.2 h3.2
      next =>
        split at h
        next h4 => exact Option.some.inj h ▸ .shared (by omega) h4
        next =>
          split at h
          next h5 =>
            obtain rfl := Option.some.inj h
            exact .extendedShared h5.1 h5.2 (Nat.lt_of_not_le h1)
          next => simp at h

lemma sharedLimit_le (o : Options) : o.sharedLimit ≤ 1020 := Nat.min_le_right ..

lemma number_of_place? (h : s.place? id cpu = some p) : p.number = id := by
  have hlimit := sharedLimit_le s.options
  obtain ⟨_, -, hp⟩ := leadsTo_of_place? h
  cases hp with
  | lpi => rfl
  | own hid => exact if_pos hid
  | extendedOwn =>
    rw [Place.number, privateNumber, if_neg (by omega)]
    omega
  | shared => exact if_pos (by omega)
  | extendedShared =>
    rw [Place.number, if_neg (by omega)]
    omega

lemma place?_of_leadsTo (hc : s.cores[cpu]? = some c) (hle : s.options.privateCount ≤ 96)
    (h : LeadsTo s cpu c id p) : s.place? id cpu = some p := by
  have hlimit := sharedLimit_le s.options
  have hskip (hid : ¬ (1056 ≤ id ∧ id < 1024 + s.options.privateCount)) :
      ¬ (s.isRouted && decide (1056 ≤ id) && decide (id < 1024 + s.options.privateCount)) = true := by
    simp only [Bool.and_eq_true, decide_eq_true_eq]
    exact fun h => hid ⟨h.1.2, h.2⟩
  cases h with
  | lpi h hq => simp [place?, hc, h, hq]
  | own h => exact place?_of_lt s hc h
  | extendedOwn hs h h' => exact place?_extended s hc hs h h' hle
  | shared h h' =>
    simp only [place?, hc]
    rw [if_neg (by omega), if_neg (by omega), if_neg (hskip (by omega)), if_pos h']
  | extendedShared h h' h8 =>
    simp only [place?, hc]
    rw [if_neg (by omega), if_neg (by omega), if_neg (hskip (by omega)), if_neg (by omega),
      if_pos ⟨h, h'⟩]

/-- Different numbers lead a core to different places. -/
lemma place?_injective {i j : Nat} (hi : s.place? i cpu = some p) (hj : s.place? j cpu = some p) :
    i = j := (number_of_place? hi).symm.trans (number_of_place? hj)

variable (s) (id cpu)

lemma irq?_of_place (h : s.place? id cpu = some p) : s.irq? id cpu = s.at? p := by
  simp [irq?, h]

lemma irq?_lpi (h : 8192 ≤ id) : s.irq? id cpu = s.at? (.lpi cpu id) := by
  simp only [irq?, place?, at?]
  rcases hc : s.cores[cpu]? with _ | c
  · rfl
  · rcases hl : c.lpis.lookup id with _ | q <;> simp [h, hl, hc, at?]

@[simp] lemma bare_modifyIrq : (s.modifyIrq id cpu f).bare = s.bare := by
  unfold modifyIrq
  split <;> simp

variable {id cpu}

lemma modifyIrq_of_place (h : s.place? id cpu = some p) :
    s.modifyIrq id cpu f = s.modify p f := by
  simp [modifyIrq, h]

lemma modifyIrq_of_none (h : s.place? id cpu = none) : s.modifyIrq id cpu f = s := by
  simp [modifyIrq, h]

/-- A change of an interrupt is seen at its place and nowhere else. -/
lemma at?_modifyIrq (p : Place) : (s.modifyIrq id cpu f).at? p =
    if s.place? id cpu = some p then (s.at? p).map f else s.at? p := by
  unfold modifyIrq
  split
  next p' hp' => rw [at?_modify, hp']; simp only [Option.some.injEq, eq_comm]
  next hnone => simp [hnone]

lemma irq?_modifyIrq_self : (s.modifyIrq id cpu f).irq? id cpu = (s.irq? id cpu).map f := by
  rcases h : s.place? id cpu with _ | p
  · simp [irq?, modifyIrq, h]
  · simp [irq?, modifyIrq, h]

lemma modifyIrq_eq_self (h : ∀ q, s.irq? id cpu = some q → f q = q) : s.modifyIrq id cpu f = s := by
  rcases hp : s.place? id cpu with _ | p
  · exact modifyIrq_of_none s f hp
  · rw [modifyIrq_of_place s f hp]
    exact modify_eq_self fun q hq => h q (by rw [irq?_of_place s id cpu hp, hq])

/-- Changed or not, an interrupt that is built in stays so. -/
lemma isSome_irq?_modifyIrq {n i : Nat} :
    ((s.modifyIrq id cpu f).irq? n i).isSome = (s.irq? n i).isSome := by
  rw [irq?, irq?, place?_of_bare (bare_modifyIrq s f id cpu)]
  rcases s.place? n i with _ | p
  · rfl
  · rw [Option.bind_some, Option.bind_some, at?_modifyIrq]
    split
    · exact Option.isSome_map
    · rfl

end Numbers

end State

end InterruptControl.Hardware
