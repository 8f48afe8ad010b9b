import InterruptControl.Proofs.Hardware.Identity

/-!
Which interrupts a core may be given, and that it is given the most urgent of them: the one
of the least priority value, and of several the one of the least number.
-/

namespace InterruptControl.Hardware

/-- The first interrupt is to be taken before the second one. -/
def Precedes (e e' : Nat × Priority) : Prop :=
  e.2.toNat < e'.2.toNat ∨ e.2.toNat = e'.2.toNat ∧ e.1 < e'.1

lemma nodup_of_precedes {l : List (Nat × Priority)} (h : l.Pairwise Precedes) : l.Nodup :=
  h.imp fun {e e'} h => by
    rintro rfl
    unfold Precedes at h
    omega

/-- Interrupts can be taken in one order only. -/
lemma eq_of_precedes {l l' : List (Nat × Priority)} (h : l.Pairwise Precedes)
    (h' : l'.Pairwise Precedes) (hmem : ∀ e, e ∈ l ↔ e ∈ l') : l = l' := by
  have hperm := (List.perm_ext_iff_of_nodup (nodup_of_precedes h) (nodup_of_precedes h')).mpr hmem
  refine hperm.eq_of_pairwise (fun e e' _ _ he he' => ?_) h h'
  unfold Precedes at he he'
  omega

lemma minOn?_precedes {l : List (Nat × Priority)} {e : Nat × Priority}
    (hl : (l.map Prod.fst).Pairwise (· < ·)) (h : l.minOn? (fun e => e.2.toNat) = some e) :
    e ∈ l ∧ ∀ e' ∈ l, e' ≠ e → Precedes e e' := by
  induction l generalizing e with
  | nil => simp at h
  | cons x rest ih =>
    obtain ⟨hx, hrest⟩ := List.pairwise_cons.mp hl
    have hlater : ∀ e' ∈ rest, x.1 < e'.1 := fun e' he' => hx _ (List.mem_map_of_mem he')
    rw [List.minOn?_cons, Option.some.injEq] at h
    rcases hm : rest.minOn? (fun e => e.2.toNat) with _ | y
    · obtain rfl : x = e := by simpa [hm] using h
      obtain rfl : rest = [] := by
        by_contra hne
        have := List.isSome_minOn?_iff (f := fun e : Nat × Priority => e.2.toNat).mpr hne
        simp [hm] at this
      exact ⟨List.mem_cons_self .., by simp⟩
    · obtain ⟨hy, hmin⟩ := ih hrest hm
      rw [hm, Option.elim_some] at h
      rcases Nat.lt_or_ge y.2.toNat x.2.toNat with hlt | hge
      · obtain rfl : y = e := by
          rwa [minOn_eq_right (f := fun e : Nat × Priority => e.2.toNat) (Nat.not_le.mpr hlt)] at h
        refine ⟨List.mem_cons_of_mem _ hy, fun e' he' hne => ?_⟩
        rcases List.mem_cons.mp he' with rfl | he'
        · exact .inl hlt
        · exact hmin e' he' hne
      · obtain rfl : x = e := by
          rwa [minOn_eq_left (f := fun e : Nat × Priority => e.2.toNat) hge] at h
        refine ⟨List.mem_cons_self .., fun e' he' hne => ?_⟩
        have he' := (List.mem_cons.mp he').resolve_left hne
        have hnumber := hlater e' he'
        rcases eq_or_ne e' y with rfl | hney
        · unfold Precedes
          omega
        · have := hmin e' he' hney
          unfold Precedes at this ⊢
          omega

/-! ### Shared interrupts -/

/-- Where the state of a shared interrupt is kept, for all cores alike. -/
def Options.index? (o : Options) (id : Nat) : Option Nat :=
  if isCoreNumber id then none
  else if id < o.sharedLimit then some id
  else if 4096 ≤ id ∧ id < 4096 + o.extendedCount then some (id - 3072)
  else none

namespace State

variable {s : State} {c : Core} {cpu id i : Nat}

/-- The state of a shared interrupt. -/
def shared? (s : State) (id : Nat) : Option Irq :=
  (s.options.index? id).bind fun i => s.at? (.shared i)

lemma place?_of_shared (hid : isCoreNumber id = false) (hc : s.cores[cpu]? = some c) :
    s.place? id cpu = (s.options.index? id).map .shared := by
  have h96 := Bus.Bank.privateCount_le s.options
  have hrange : ¬ id < 32 ∧ ¬ (1056 ≤ id ∧ id < 1120) ∧ ¬ 8192 ≤ id := by
    simpa [isCoreNumber, and_assoc] using hid
  have hextended : ¬ ((s.isRouted && decide (1056 ≤ id)
      && decide (id < 1024 + s.options.privateCount)) = true) := by
    simp only [Bool.and_eq_true, decide_eq_true_eq]
    omega
  simp only [place?, hc, Options.index?, hid, if_neg hrange.1, if_neg hrange.2.2, if_neg hextended,
    Bool.false_eq_true, if_false]
  split_ifs <;> rfl

/-- Every core sees the same. -/
lemma irq?_eq_shared? (hid : isCoreNumber id = false) (hc : s.cores[cpu]? = some c) :
    s.irq? id cpu = s.shared? id := by
  rw [irq?, shared?, place?_of_shared hid hc]
  rcases s.options.index? id with _ | i <;> rfl

lemma isCoreNumber_of_index? {o : Options} (h : o.index? id = some i) : isCoreNumber id = false := by
  by_contra hid
  simp [Options.index?, hid] at h

lemma number_of_index? {o : Options} (h : o.index? id = some i) : (Place.shared i).number = id := by
  have hlimit := sharedLimit_le o
  have hid := isCoreNumber_of_index? h
  simp only [Options.index?, hid, Bool.false_eq_true, if_false] at h
  simp only [isCoreNumber, Bool.or_eq_false_iff, decide_eq_false_iff_not] at hid
  split_ifs at h with h1 h2
  · obtain rfl := Option.some.inj h
    exact if_pos (by omega)
  · obtain rfl := Option.some.inj h
    rw [Place.number, if_neg (by omega)]
    omega

end State

/-! ### The interrupts that a core may be given -/

namespace State

variable {o : Options} {s : State} {cpu id : Nat} {c : Core}

/-- Core `cpu`, which is `c`, may be given interrupt `id`, which is `q`. -/
structure Deliverable (s : State) (cpu : Nat) (c : Core) (id : Nat) (q : Irq) : Prop where
  irq : s.irq? id cpu = some q
  delivery : s.deliveryEnabled c = true
  pending : q.pending = true
  enabled : q.enabled = true
  inactive : q.active = false
  group : s.isRouted = true → q.group1 = true
  routed : s.routedTo id q cpu c = true
  unmasked : q.priority.toNat < s.priorityLimit c
  preempts : c.preempts q.priority = true
  lpis : 8192 ≤ id → c.redistributorControl.getLsbD 0 = true

lemma routedTo_iff {q : Irq} : s.routedTo id q cpu c = true ↔ isCoreNumber id = true ∨
    if s.isRouted then
      q.route.getLsbD 31 = true ∨ packAffinity q.route = packAffinity c.affinityRegister
    else q.targets.getLsbD cpu = true := by
  unfold routedTo
  split
  next h => simp [h]
  next h =>
    split
    next => simp [h]
    next => simp [h]

lemma eligible_iff {q : Irq} : s.eligible cpu c id q = true ↔
    q.pending = true ∧ q.enabled = true ∧ q.active = false ∧ (s.isRouted = true → q.group1 = true)
      ∧ s.routedTo id q cpu c = true ∧ q.priority.toNat < s.priorityLimit c
      ∧ c.preempts q.priority = true := by
  rw [eligible]
  simp only [Bool.and_eq_true, Bool.not_eq_true', Bool.or_eq_true, decide_eq_true_eq]
  rw [← Bool.not_eq_true s.isRouted, ← imp_iff_not_or]
  tauto

/-! ### What is built in -/

lemma privateCount_ge (o : Options) : 32 ≤ o.privateCount := by
  unfold Options.privateCount
  repeat' split
  all_goals omega

lemma isRouted_of_lt_privateCount {o : Options} (h : 32 < o.privateCount) : o.isRouted = true := by
  by_contra hr
  simp [Options.privateCount, hr] at h

lemma extendedCount_le (h : o.Fits) : o.extendedCount ≤ 1024 := by
  have := h.extendedSpiRange
  rw [h.extendedCount]
  split <;> omega

lemma sharedLimit_ge (h : o.Fits) : 32 ≤ o.sharedLimit := by
  rw [h.sharedLimit]
  omega

section Built

variable {t : State} {x : Place}

/-- Where they are kept is the same in all states, unless they are LPIs. -/
lemma place?_of_sound (hs : s.Sound o) (ht : t.Sound o) (hid : id < 8192) (cpu : Nat) :
    t.place? id cpu = s.place? id cpu := by
  have ho : t.options = s.options := ht.options.trans hs.options.symm
  have hr : t.isRouted = s.isRouted := congrArg Options.isRouted ho
  have hsize : t.cores.size = s.cores.size := ht.size.trans hs.size.symm
  rcases Nat.lt_or_ge cpu s.cores.size with hcpu | hcpu
  · simp only [place?, Array.getElem?_eq_getElem hcpu, Array.getElem?_eq_getElem (hsize ▸ hcpu), ho, hr,
      if_neg (Nat.not_le.mpr hid)]
  · rw [place?_of_none _ (Array.getElem?_eq_none hcpu), place?_of_none _ (Array.getElem?_eq_none (hsize ▸ hcpu))]

/-- Something is kept wherever a number leads to. -/
lemma exists_at? (hfit : s.options.Fits) (hp : s.place? id cpu = some x) :
    ∃ q, s.at? x = some q := by
  have h96 := Bus.Bank.privateCount_le s.options
  have h1020 := sharedLimit_le s.options
  have h1024 := extendedCount_le hfit
  obtain ⟨c, hc, hleads⟩ := leadsTo_of_place? hp
  cases hleads with
  | lpi _ hl => simpa [at?, hc] using Option.isSome_iff_exists.mp hl
  | own h => exact ⟨c.own[id], by simp [at?, hc, show id < 96 by omega]⟩
  | extendedOwn _ h h' =>
    have hlt : id - 1024 < 96 := by omega
    exact ⟨c.own[id - 1024], by simp [at?, hc, hlt]⟩
  | shared h h' => exact ⟨s.shared[id], by simp [at?, show id < 2048 by omega]⟩
  | extendedShared h h' =>
    have hlt : id - 3072 < 2048 := by omega
    exact ⟨s.shared[id - 3072], by simp [at?, hlt]⟩

/-- Raising an interrupt sets pending and nothing else. -/
lemma raise_of_place (hp : s.place? id cpu = some x) (hx : (s.at? x).isSome = true) :
    s.raise id cpu = .ok (s.modify x fun q => { q with pending := true }) := by
  obtain ⟨q, hq⟩ := Option.isSome_iff_exists.mp hx
  rw [raise, irq?_of_place _ _ _ hp, hq, modifyIrq_of_place _ _ hp]

end Built

/-! ### The numbers that come into question -/

lemma isSome_lookup {l : List (Nat × Irq)} {k : Nat} :
    (l.lookup k).isSome = true ↔ k ∈ l.map Prod.fst := by
  induction l with
  | nil => simp
  | cons e rest ih =>
    rw [List.lookup_cons, List.map_cons, List.mem_cons]
    rcases eq_or_ne k e.1 with rfl | h
    · simp
    · simp only [beq_eq_false_iff_ne.mpr h, h, false_or]
      exact ih

/-- They are those of the implemented interrupts, but for LPIs that are not enabled. -/
lemma mem_candidates (hs : s.Sound o) (hfit : o.Fits) (hc : s.cores[cpu]? = some c) :
    id ∈ s.candidates c ↔
      (s.place? id cpu).isSome = true
        ∧ (8192 ≤ id → c.redistributorControl.getLsbD 0 = true) := by
  obtain rfl := hs.options
  have hlimit := sharedLimit_le s.options
  have h32 := sharedLimit_ge hfit
  have hprivate := privateCount_ge s.options
  have h96 := Bus.Bank.privateCount_le s.options
  have hextended := extendedCount_le hfit
  have hmap : id ∈ (List.range' 32 (s.options.privateCount - 32)).map privateNumber ↔
      1056 ≤ id ∧ id < 1024 + s.options.privateCount := by
    simp only [List.mem_map, List.mem_range'_1, privateNumber]
    constructor
    · rintro ⟨i, hi, rfl⟩
      rw [if_neg (by omega)]
      omega
    · intro h
      exact ⟨id - 1024, by omega, by rw [if_neg (by omega)]; omega⟩
  have hlpis : id ∈ (if c.redistributorControl.getLsbD 0 then c.lpis.map Prod.fst else []) ↔
      id ∈ c.lpis.map Prod.fst ∧ c.redistributorControl.getLsbD 0 = true := by
    split <;> simp_all
  rw [candidates, List.mem_append, List.mem_append, List.mem_append, List.mem_range, hmap,
    List.mem_range'_1, hlpis, place?, hc]
  simp only
  have hge := (hs.core cpu c hc).lpis_ge id
  split
  next h8192 =>
    have : ¬ id < s.options.sharedLimit ∧ ¬ (1056 ≤ id ∧ id < 1024 + s.options.privateCount)
        ∧ ¬ (4096 ≤ id ∧ id < 4096 + s.options.extendedCount) := by omega
    simp only [this.1, this.2.1, this.2.2, false_or, h8192, forall_const, ← isSome_lookup]
    split <;> simp_all
  next h8192 =>
    have hnot : id ∉ c.lpis.map Prod.fst := fun h => h8192 (hge h)
    simp only [hnot, false_and, or_false, h8192, false_implies, and_true]
    split
    next h => simp; omega
    split
    next h =>
      simp only [Bool.and_eq_true, decide_eq_true_eq] at h
      simp; omega
    next h =>
      have hr : ¬ (1056 ≤ id ∧ id < 1024 + s.options.privateCount) := by
        rintro ⟨h1, h2⟩
        have hr := isRouted_of_lt_privateCount (o := s.options) (by omega)
        simp [State.isRouted, hr, h1, h2] at h
      simp only [hr]
      split
      next h => simp [h]
      next h =>
        split
        next h' => simp [h']
        next h' => simp [h, h']

lemma candidates_sorted (hs : s.Sound o) (hfit : o.Fits) (hc : s.cores[cpu]? = some c) :
    (s.candidates c).Pairwise (· < ·) := by
  obtain rfl := hs.options
  have hlimit := sharedLimit_le s.options
  have h96 := Bus.Bank.privateCount_le s.options
  have hextended := extendedCount_le hfit
  have hcore := hs.core cpu c hc
  rw [candidates, List.pairwise_append, List.pairwise_append, List.pairwise_append]
  refine ⟨⟨⟨List.pairwise_lt_range, ?_, ?_⟩, List.pairwise_lt_range', ?_⟩, ?_, ?_⟩
  · rw [List.pairwise_map]
    refine List.Pairwise.imp_of_mem (R := (· < ·)) (fun {a b} ha hb hab => ?_)
      List.pairwise_lt_range'
    rw [List.mem_range'_1] at ha hb
    simp only [privateNumber]
    rw [if_neg (by omega), if_neg (by omega)]
    omega
  · intro a ha b hb
    simp only [List.mem_range, List.mem_map, List.mem_range'_1, privateNumber] at ha hb
    obtain ⟨i, hi, rfl⟩ := hb
    rw [if_neg (by omega)]
    omega
  · intro a ha b hb
    simp only [List.mem_append, List.mem_range, List.mem_map, List.mem_range'_1, privateNumber] at ha hb
    rcases ha with ha | ⟨i, hi, rfl⟩
    · omega
    · rw [if_neg (by omega)]
      omega
  · split
    · exact hcore.lpis_sorted
    · exact .nil
  · intro a ha b hb
    have hb : 8192 ≤ b := by
      split at hb
      · exact hcore.lpis_ge b hb
      · simp at hb
    simp only [List.mem_append, List.mem_range, List.mem_map, List.mem_range'_1, privateNumber] at ha
    rcases ha with (ha | ⟨i, hi, rfl⟩) | ha
    · omega
    · rw [if_neg (by omega)]
      omega
    · omega

/-! ### The most urgent one -/

/-- One number with its priority, if its interrupt is eligible. -/
def eligible? (s : State) (cpu : Nat) (c : Core) (id : Nat) : Option (Nat × Priority) :=
  match s.irq? id cpu with
  | some q => if s.eligible cpu c id q then some (id, q.priority) else none
  | none => none

lemma eligibleList_eq : s.eligibleList cpu c = (s.candidates c).filterMap (s.eligible? cpu c) := rfl

lemma eligible?_eq_some {e : Nat × Priority} : s.eligible? cpu c id = some e ↔
    ∃ q, s.irq? id cpu = some q ∧ s.eligible cpu c id q = true ∧ e = (id, q.priority) := by
  unfold eligible?
  rcases s.irq? id cpu with _ | q
  · simp
  · rcases h : s.eligible cpu c id q with _ | _ <;> simp [h, eq_comm (a := e)]

lemma mem_eligibleList {e : Nat × Priority} : e ∈ s.eligibleList cpu c ↔
    e.1 ∈ s.candidates c ∧ ∃ q, s.irq? e.1 cpu = some q ∧ s.eligible cpu c e.1 q = true
      ∧ q.priority = e.2 := by
  rw [eligibleList_eq, List.mem_filterMap]
  constructor
  · rintro ⟨n, hn, h⟩
    obtain ⟨q, hq, he, rfl⟩ := eligible?_eq_some.mp h
    exact ⟨hn, q, hq, he, rfl⟩
  · rintro ⟨hn, q, hq, he, hp⟩
    exact ⟨e.1, hn, eligible?_eq_some.mpr ⟨q, hq, he, by rw [hp]⟩⟩

lemma eligibleList_sorted (hs : s.Sound o) (hfit : o.Fits) (hc : s.cores[cpu]? = some c) :
    ((s.eligibleList cpu c).map Prod.fst).Pairwise (· < ·) := by
  rw [List.pairwise_map, eligibleList_eq]
  refine List.Pairwise.filterMap _ (fun a b hab e he e' he' => ?_) (candidates_sorted hs hfit hc)
  obtain ⟨q, -, -, rfl⟩ := eligible?_eq_some.mp he
  obtain ⟨q', -, -, rfl⟩ := eligible?_eq_some.mp he'
  exact hab

/-- The interrupts that the core may be given, as a list. -/
lemma mem_eligibleList_iff (hs : s.Sound o) (hfit : o.Fits) (hc : s.cores[cpu]? = some c)
    (hd : s.deliveryEnabled c = true) {e : Nat × Priority} :
    e ∈ s.eligibleList cpu c ↔ ∃ q, s.Deliverable cpu c e.1 q ∧ q.priority = e.2 := by
  rw [mem_eligibleList, mem_candidates hs hfit hc]
  constructor
  · rintro ⟨⟨-, hl⟩, q, hq, he, hp⟩
    obtain ⟨h1, h2, h3, h4, h5, h6, h7⟩ := eligible_iff.mp he
    exact ⟨q, ⟨hq, hd, h1, h2, h3, h4, h5, h6, h7, hl⟩, hp⟩
  · rintro ⟨q, h, hp⟩
    have hplace : (s.place? e.1 cpu).isSome = true := by
      have := h.irq
      rcases hpl : s.place? e.1 cpu with _ | p
      · simp [irq?, hpl] at this
      · rfl
    exact ⟨⟨hplace, h.lpis⟩, q, h.irq, eligible_iff.mpr ⟨h.pending, h.enabled, h.inactive, h.group,
      h.routed, h.unmasked, h.preempts⟩, hp⟩

/-- The interrupts that the core may be given, none if delivery is disabled. -/
def deliverableList (s : State) (cpu : Nat) (c : Core) : List (Nat × Priority) :=
  if s.deliveryEnabled c then s.eligibleList cpu c else []

lemma mem_deliverableList (hs : s.Sound o) (hfit : o.Fits) (hc : s.cores[cpu]? = some c)
    {e : Nat × Priority} : e ∈ s.deliverableList cpu c ↔
      ∃ q, s.Deliverable cpu c e.1 q ∧ q.priority = e.2 := by
  unfold deliverableList
  split
  next hd => exact mem_eligibleList_iff hs hfit hc hd
  next hd =>
    simp only [List.not_mem_nil, false_iff, not_exists]
    exact fun q h => hd h.1.delivery

/-- The list has every number once. -/
lemma eq_of_mem_deliverableList (hs : s.Sound o) (hfit : o.Fits) (hc : s.cores[cpu]? = some c)
    {e e' : Nat × Priority} (he : e ∈ s.deliverableList cpu c) (he' : e' ∈ s.deliverableList cpu c)
    (h : e'.1 = e.1) : e' = e := by
  obtain ⟨q, hq, hp⟩ := (mem_deliverableList hs hfit hc).mp he
  obtain ⟨q', hq', hp'⟩ := (mem_deliverableList hs hfit hc).mp he'
  have hirq := hq'.irq
  rw [h, hq.irq, Option.some.injEq] at hirq
  exact Prod.ext h (by rw [← hp', ← hp, hirq])

lemma next?_eq (hc : s.cores[cpu]? = some c) :
    s.next? cpu = (s.deliverableList cpu c).minOn? fun e => e.2.toNat := by
  simp only [next?, hc, deliverableList, highestPending?]
  split <;> rfl

lemma next?_eq_none (hc : s.cores[cpu]? = some c) :
    s.next? cpu = none ↔ s.deliverableList cpu c = [] := by
  rw [next?_eq hc, ← Option.not_isSome_iff_eq_none, List.isSome_minOn?_iff, not_not]

lemma deliverableList_sorted (hs : s.Sound o) (hfit : o.Fits) (hc : s.cores[cpu]? = some c) :
    ((s.deliverableList cpu c).map Prod.fst).Pairwise (· < ·) := by
  unfold deliverableList
  split
  · exact eligibleList_sorted hs hfit hc
  · exact .nil

/-- The core is given the most urgent interrupt. -/
lemma precedes_of_next? (hs : s.Sound o) (hfit : o.Fits) (hc : s.cores[cpu]? = some c)
    {e : Nat × Priority} (h : s.next? cpu = some e) :
    e ∈ s.deliverableList cpu c ∧ ∀ e' ∈ s.deliverableList cpu c, e' ≠ e → Precedes e e' := by
  rw [next?_eq hc] at h
  exact minOn?_precedes (deliverableList_sorted hs hfit hc) h

/-- The numbers that a core may be given, of which LPIs are kept by it. -/
lemma Deliverable.number (hs : s.Sound o) (hc : s.cores[cpu]? = some c) {q : Irq}
    (h : s.Deliverable cpu c id q) : (s.isRouted = false → id < 1020)
      ∧ ¬ (1020 ≤ id ∧ id < 1024) ∧ (8192 ≤ id → id ∈ c.lpis.map Prod.fst) := by
  obtain ⟨p, hp, -⟩ := Option.bind_eq_some_iff.mp h.irq
  obtain ⟨c', hc', hleads⟩ := leadsTo_of_place? hp
  obtain rfl : c' = c := Option.some.inj (hc'.symm.trans hc)
  have hlimit := sharedLimit_le s.options
  have h96 := Bus.Bank.privateCount_le s.options
  refine ⟨fun hr => ?_, ?_, ?_⟩
  · have hextended : s.options.extendedCount = 0 := by
      simp [Options.extendedCount, show s.options.isRouted = false from hr]
    have hoff := (hs.core cpu c' hc).lpis_off
      (by rw [← hs.options]; exact hr)
    have hlpi : ¬ 8192 ≤ id := fun hid => by simpa [hoff] using h.lpis hid
    cases hleads <;> first | omega | simp_all
  · cases hleads <;> omega
  · intro hlpi
    cases hleads with
    | lpi h hl => exact isSome_lookup.mp hl
    | _ => omega

/-! ### What a core takes, whatever is built in -/

lemma irq?_of_highestPending? {e : Nat × Priority} (h : s.highestPending? cpu = some e) :
    ∃ c q, s.cores[cpu]? = some c ∧ e.1 ∈ s.candidates c ∧ s.irq? e.1 cpu = some q
      ∧ q.priority = e.2 ∧ s.eligible cpu c e.1 q = true := by
  rcases hc : s.cores[cpu]? with _ | c
  · simp [highestPending?, hc] at h
  · simp only [highestPending?, hc] at h
    obtain ⟨hmem, q, hq, he, hp⟩ := mem_eligibleList.mp (List.minOn?_mem h)
    exact ⟨c, q, rfl, hmem, hq, hp, he⟩

lemma irq?_of_next? {e : Nat × Priority} (h : s.next? cpu = some e) :
    ∃ c q, s.cores[cpu]? = some c ∧ e.1 ∈ s.candidates c ∧ s.irq? e.1 cpu = some q
      ∧ q.priority = e.2 ∧ s.eligible cpu c e.1 q = true := by
  rcases hc : s.cores[cpu]? with _ | c
  · simp [next?, hc] at h
  · simp only [next?, hc] at h
    split at h
    · exact hc ▸ irq?_of_highestPending? h
    · simp at h

/-- The numbers of a banked controller fit into its acknowledge register. -/
lemma lt_of_mem_candidates (hs : s.Sound o) (hc : s.cores[cpu]? = some c) (hr : s.isRouted = false)
    (hid : id ∈ s.candidates c) : id < 1020 := by
  have hlimit := sharedLimit_le s.options
  have hoptions : s.options.isRouted = false := hr
  have hoff := (hs.core cpu c hc).lpis_off (by rw [← hs.options]; exact hr)
  simp [candidates, Options.privateCount, Options.extendedCount, hoptions, hoff] at hid
  omega

lemma number_of_next? (hs : s.Sound o) (hc : s.cores[cpu]? = some c) {e : Nat × Priority}
    (h : s.next? cpu = some e) : (s.isRouted = false → e.1 < 1020)
      ∧ ¬ (1020 ≤ e.1 ∧ e.1 < 1024) ∧ (8192 ≤ e.1 → e.1 ∈ c.lpis.map Prod.fst)
      ∧ (s.irq? e.1 cpu).isSome = true := by
  obtain ⟨c₀, q, hc₀, hmem, hq, -⟩ := irq?_of_next? h
  obtain ⟨p, hp, -⟩ := Option.bind_eq_some_iff.mp hq
  obtain ⟨c₁, hc₁, hleads⟩ := leadsTo_of_place? hp
  obtain rfl : c₀ = c := Option.some.inj (hc₀.symm.trans hc)
  obtain rfl : c₁ = c₀ := Option.some.inj (hc₁.symm.trans hc)
  have hlimit := sharedLimit_le s.options
  have h96 := Bus.Bank.privateCount_le s.options
  refine ⟨fun hr => lt_of_mem_candidates hs hc hr hmem, ?_, fun hlpi => ?_, by rw [hq]; rfl⟩
  · cases hleads <;> omega
  · cases hleads with
    | lpi _ hl => exact isSome_lookup.mp hl
    | _ => omega

end State

end InterruptControl.Hardware
