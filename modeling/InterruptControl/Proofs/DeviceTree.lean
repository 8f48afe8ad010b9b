import InterruptControl.DeviceTree
import InterruptControl.Proofs.IntId

/-!
The grammar of interrupt specifiers: which cells are accepted, what they stand for, and why the
others are refused.

The number within a type has no bound, so a specifier may stand for an interrupt of another kind
than its type; it is told for which numbers it does not.
-/

namespace InterruptControl.DeviceTree

/-! ### The grammar -/

/-- The low four bits of the flags. -/
def sense (flags : BitVec 32) : Nat := flags.toNat % 16

namespace CellType

/-- The cell that stands for the type. -/
def cell : CellType → Nat
  | spi => 0
  | ppi => 1
  | extendedSpi => 2
  | extendedPpi => 3
  | lpi => 4
  | partition => 5

/-- The number of the interrupt that is the `n`-th of the type. -/
def number (t : CellType) (n : Nat) : Nat :=
  match t with
  | spi => (32 + n) % 2 ^ 32
  | ppi => (16 + n) % 2 ^ 32
  | extendedSpi => (4096 + n) % 2 ^ 32
  | extendedPpi => (1056 + n) % 2 ^ 32
  | lpi => n
  | partition => if n < 16 then 16 + n else (1056 + n - 16) % 2 ^ 32

/-- The sense that a line of the type may have, by how it is triggered. -/
def Senses (t : CellType) : Trigger → Nat → Prop
  | .edge, k => k = 1 ∨ k = 2 ∨ k = 3
  | .level, k => k = 4 ∨ k = 8 ∨ k = 0 ∧ t = partition

end CellType

/-- The line that a specifier denotes, if it is well-formed. -/
inductive Denotes : List (BitVec 32) → Line → Prop
  | sgi {n : BitVec 32} (hn : n.toNat < 16) : Denotes [n] ⟨⟨n⟩, .edge⟩
  | typed {c n flags : BitVec 32} {rest : List (BitVec 32)} {t : CellType} {id : IntId}
    {trigger : Trigger} (hcell : c.toNat = t.cell) (hid : id.number = t.number n.toNat)
    (hsense : t.Senses trigger (sense flags)) : Denotes (c :: n :: flags :: rest) ⟨id, trigger⟩

/-- Why a specifier is refused. -/
inductive Refused : List (BitVec 32) → Refusal → Prop
  | empty : Refused [] .tooFewCells
  | single {n : BitVec 32} (hn : 16 ≤ n.toNat) : Refused [n] .tooFewCells
  | pair (c n : BitVec 32) : Refused [c, n] .tooFewCells
  | cellType {c n flags : BitVec 32} {rest : List (BitVec 32)} (hcell : 5 < c.toNat) :
    Refused (c :: n :: flags :: rest) .cellType
  | missingSense {c n flags : BitVec 32} {rest : List (BitVec 32)} (hcell : c.toNat < 5)
    (hsense : sense flags = 0) : Refused (c :: n :: flags :: rest) .missingSense
  | sense {c n flags : BitVec 32} {rest : List (BitVec 32)} (hcell : c.toNat ≤ 5)
    (hsense : sense flags ∉ [0, 1, 2, 3, 4, 8]) : Refused (c :: n :: flags :: rest) .sense

/-! ### Types, numbers and senses -/

section Typed

variable {c n flags : BitVec 32} {t : CellType}

lemma toNat_and_mask (flags : BitVec 32) : (flags &&& 0xf).toNat = sense flags :=
  (BitVec.toNat_and ..).trans (Nat.and_two_pow_sub_one_eq_mod _ 4)

lemma sense_and_mask (flags : BitVec 32) : sense (flags &&& 0xf) = sense flags := by
  rw [sense, toNat_and_mask, sense, Nat.mod_mod]

namespace CellType

lemma cell_le (t : CellType) : t.cell ≤ 5 := by cases t <;> decide

lemma cell_eq_five_iff : t.cell = 5 ↔ t = partition := by cases t <;> decide

/-- The cell is that of a type, or too large for any. -/
lemma ofCell?_cases (c : BitVec 32) :
    (∃ t, ofCell? c = some t ∧ c.toNat = t.cell) ∨ ofCell? c = none ∧ 5 < c.toNat := by
  unfold ofCell?
  split
  case h_7 h0 h1 h2 h3 h4 h5 => exact .inr ⟨rfl, by grind⟩
  all_goals exact .inl ⟨_, rfl, ‹_›⟩

lemma ofCell?_of_cell (h : c.toNat = t.cell) : ofCell? c = some t := by
  cases t <;> simp only [ofCell?, h, cell]

/-- Sums wrap in the same way. -/
lemma number_id (t : CellType) (n : BitVec 32) : (t.id n).number = t.number n.toNat := by
  have hn := n.isLt
  have hsum (b : BitVec 32) : (b + n).toNat = (b.toNat + n.toNat) % 2 ^ 32 := BitVec.toNat_add ..
  cases t with
  | spi | ppi | extendedSpi | extendedPpi => exact hsum _
  | lpi => rfl
  | partition =>
    have h16 : (16 : BitVec 32).toNat = 16 := rfl
    have h1056 : (1056 : BitVec 32).toNat = 1056 := rfl
    simp only [id, number]
    rcases Nat.lt_or_ge n.toNat 16 with h | h
    · rw [if_neg (Nat.not_le.mpr h), if_pos h, IntId.number, hsum, h16]
      omega
    · rw [if_pos h, if_neg (Nat.not_lt.mpr h), IntId.number, BitVec.toNat_sub, hsum, h16, h1056]
      omega

end CellType

lemma trigger?_eq_ok_iff {trigger : Trigger} :
    trigger? t flags = .ok trigger ↔ t.Senses trigger (sense flags) := by
  unfold trigger?
  rw [toNat_and_mask]
  -- a sense of zero is read by the type
  by_cases ht : t = .partition <;> split <;> cases trigger <;> simp_all [CellType.Senses]

lemma trigger?_eq_error {e : Refusal} (h : trigger? t flags = .error e) :
    e = .missingSense ∧ t ≠ .partition ∧ sense flags = 0
      ∨ e = .sense ∧ sense flags ∉ [0, 1, 2, 3, 4, 8] := by
  unfold trigger? at h
  rw [toNat_and_mask] at h
  by_cases ht : t = .partition <;> split at h <;> simp_all

end Typed

/-! ### Decoding -/

variable {cells : List (BitVec 32)} {l : Line} {e : Refusal}

lemma denotes_of_typed {c n flags : BitVec 32} (h : typed c n flags = .ok l)
    (rest : List (BitVec 32)) : Denotes (c :: n :: flags :: rest) l := by
  rcases CellType.ofCell?_cases c with ⟨t, ht, hc⟩ | ⟨ht, -⟩
  · simp only [typed, ht] at h
    rcases htrigger : trigger? t flags with e | trigger <;> rw [htrigger] at h
    · cases h
    · cases h
      exact .typed hc (t.number_id n) (trigger?_eq_ok_iff.mp htrigger)
  · simp [typed, ht] at h

lemma refused_of_typed {c n flags : BitVec 32} (h : typed c n flags = .error e)
    (rest : List (BitVec 32)) : Refused (c :: n :: flags :: rest) e := by
  rcases CellType.ofCell?_cases c with ⟨t, ht, hc⟩ | ⟨ht, hc⟩
  · simp only [typed, ht] at h
    rcases htrigger : trigger? t flags with e' | trigger <;> rw [htrigger] at h
    · cases h
      have hle : c.toNat ≤ 5 := hc ▸ t.cell_le
      rcases trigger?_eq_error htrigger with ⟨rfl, hpartition, hsense⟩ | ⟨rfl, hsense⟩
      · refine .missingSense (lt_of_le_of_ne hle fun h => hpartition ?_) hsense
        exact CellType.cell_eq_five_iff.mp (hc ▸ h)
      · exact .sense hle hsense
    · cases h
  · simp only [typed, ht] at h
    cases h
    exact .cellType hc

/-- What is accepted is what the grammar has, and means the same. -/
lemma denotes_of_decode (h : decode cells = .ok l) : Denotes cells l := by
  unfold decode at h
  split at h
  · split at h
    next hn =>
      cases h
      exact .sgi hn
    next => cases h
  · exact denotes_of_typed h _
  · cases h

lemma refused_of_decode (h : decode cells = .error e) : Refused cells e := by
  unfold decode at h
  split at h
  · split at h
    next => cases h
    next hn =>
      cases h
      exact .single (Nat.le_of_not_lt hn)
  · exact refused_of_typed h _
  next hsingle htyped =>
    cases h
    match cells with
    | [] => exact .empty
    | [n] => exact absurd rfl (hsingle n)
    | [c, n] => exact .pair c n
    | c :: n :: flags :: rest => exact absurd rfl (htyped c n flags rest)

lemma decode_of_denotes (h : Denotes cells l) : decode cells = .ok l := by
  cases h with
  | sgi hn => exact if_pos hn
  | @typed c n flags rest t id trigger hcell hid hsense =>
    have hid : t.id n = id := by
      ext
      rw [t.number_id, hid]
    simp only [decode, typed, CellType.ofCell?_of_cell hcell, trigger?_eq_ok_iff.mpr hsense, ← hid]
    rfl

lemma decode_eq_ok_iff : decode cells = .ok l ↔ Denotes cells l :=
  ⟨denotes_of_decode, decode_of_denotes⟩

lemma decodeInto_apply (cells : List (BitVec 32)) (held : Line) :
    decodeInto cells held = match decode cells with
      | .ok l => (.ok (), l)
      | .error e => (.error e, held) := by
  rcases h : decode cells with e | l <;> rw [decodeInto, h] <;> rfl

/-- The specifiers that are accepted. -/
def Accepted (cells : List (BitVec 32)) : Prop :=
  (∃ n, cells = [n] ∧ n.toNat < 16) ∨ ∃ c n flags rest, cells = c :: n :: flags :: rest
    ∧ c.toNat ≤ 5 ∧ (sense flags ∈ [1, 2, 3, 4, 8] ∨ sense flags = 0 ∧ c.toNat = 5)

/-- Something is denoted by just these. -/
lemma exists_denotes_iff : (∃ l, Denotes cells l) ↔ Accepted cells := by
  constructor
  · rintro ⟨l, h⟩
    cases h with
    | sgi hn => exact .inl ⟨_, rfl, hn⟩
    | @typed c n flags rest t id trigger hcell hid hsense =>
      refine .inr ⟨c, n, flags, rest, rfl, hcell ▸ t.cell_le, ?_⟩
      rw [hcell, CellType.cell_eq_five_iff]
      cases trigger with
      | edge => exact .inl (by rcases hsense with h | h | h <;> simp [h])
      | level =>
        rcases hsense with h | h | h
        · exact .inl (by simp [h])
        · exact .inl (by simp [h])
        · exact .inr h
  · rintro (⟨n, rfl, hn⟩ | ⟨c, n, flags, rest, rfl, hc, hsense⟩)
    · exact ⟨_, .sgi hn⟩
    · rcases CellType.ofCell?_cases c with ⟨t, -, ht⟩ | ⟨-, hlarge⟩
      · obtain ⟨trigger, htrigger⟩ : ∃ trigger, t.Senses trigger (sense flags) := by
          rw [ht, CellType.cell_eq_five_iff] at hsense
          rcases hsense with h | h
          · simp only [List.mem_cons, List.not_mem_nil, or_false] at h
            rcases h with h | h | h | h | h
            · exact ⟨.edge, .inl h⟩
            · exact ⟨.edge, .inr (.inl h)⟩
            · exact ⟨.edge, .inr (.inr h)⟩
            · exact ⟨.level, .inl h⟩
            · exact ⟨.level, .inr (.inl h)⟩
          · exact ⟨.level, .inr (.inr h)⟩
        exact ⟨_, .typed ht (t.number_id n) htrigger⟩
      · omega

lemma edge_iff_of_denotes (h : Denotes cells l) : l.trigger = .edge ↔
    cells.length = 1 ∨ ∃ flags, cells[2]? = some flags ∧ sense flags ∈ [1, 2, 3] := by
  cases h with
  | sgi hn => simp
  | @typed c n flags rest t id trigger hcell hid hsense =>
    have hlength : (c :: n :: flags :: rest).length ≠ 1 := by simp
    have hthird : (c :: n :: flags :: rest)[2]? = some flags := rfl
    simp only [hlength, hthird, false_or, Option.some.injEq, exists_eq_left', List.mem_cons,
      List.not_mem_nil, or_false]
    cases trigger with
    | edge => exact iff_of_true rfl hsense
    | level =>
      refine iff_of_false (by simp) ?_
      rcases hsense with h | h | ⟨h, -⟩ <;> omega

/-- Of what follows the number, only the sense is read. -/
lemma decode_typed (c n flags : BitVec 32) (rest : List (BitVec 32)) :
    decode (c :: n :: flags :: rest) = decode [c, n, flags &&& 0xf] := by
  have htrigger (t : CellType) : trigger? t flags = trigger? t (flags &&& 0xf) := by
    rw [trigger?, trigger?, toNat_and_mask, toNat_and_mask, sense_and_mask]
  simp only [decode, typed, htrigger]

/-- Too few cells are bad parameters, everything else is a bad format. -/
lemma code_of_refused (h : Refused cells e) :
    (e.code = .badParameters ↔
      cells.length = 0 ∨ cells.length = 2 ∨ ∃ n, cells = [n] ∧ 16 ≤ n.toNat)
    ∧ (e.code ≠ .badParameters → e.code = .invalidFormat) := by
  cases h with
  | empty => simp [Refusal.code]
  | single hn => simp [Refusal.code, hn]
  | pair c n => simp [Refusal.code]
  | cellType | missingSense | sense => simp [Refusal.code]

/-- **A specifier is accepted exactly if it is in the grammar, and refused with no effect.** What is
accepted sets the line that is denoted; of what follows the number, only the sense counts. What is
refused leaves the line as it was, and a bad type is the reason before a bad sense is. -/
theorem decodes_exactly_the_grammar (cells : List (BitVec 32)) (held : Line) :
    ((∃ l, decodeInto cells held = (.ok (), l)) ↔ Accepted cells)
    ∧ (∀ l, decodeInto cells held = (.ok (), l) → Denotes cells l ∧ (l.trigger = .edge ↔
        cells.length = 1 ∨ ∃ flags, cells[2]? = some flags ∧ sense flags ∈ [1, 2, 3]))
    ∧ (∀ c n flags rest, cells = c :: n :: flags :: rest →
        decodeInto cells held = decodeInto [c, n, flags &&& 0xf] held)
    ∧ ∀ e l, decodeInto cells held = (.error e, l) → l = held ∧ Refused cells e
        ∧ (e.code = .badParameters ↔
          cells.length = 0 ∨ cells.length = 2 ∨ ∃ n, cells = [n] ∧ 16 ≤ n.toNat)
        ∧ (e.code ≠ .badParameters → e.code = .invalidFormat)
        ∧ ∀ c n flags rest, cells = c :: n :: flags :: rest → 5 < c.toNat → e = .cellType := by
  have hok (l : Line) : decodeInto cells held = (.ok (), l) ↔ Denotes cells l := by
    rw [decodeInto_apply, ← decode_eq_ok_iff]
    rcases decode cells with e | l'
    · exact iff_of_false nofun nofun
    · exact ⟨fun h => by cases h; rfl, fun h => by cases h; rfl⟩
  refine ⟨?_, fun l h => ?_, ?_, fun e l h => ?_⟩
  · exact (exists_congr hok).trans exists_denotes_iff
  · have hdenotes := (hok l).mp h
    exact ⟨hdenotes, edge_iff_of_denotes hdenotes⟩
  · rintro c n flags rest rfl
    rw [decodeInto_apply, decodeInto_apply, decode_typed]
  · rw [decodeInto_apply] at h
    rcases hdecode : decode cells with e' | l' <;> rw [hdecode] at h
    · cases h
      have hrefused := refused_of_decode hdecode
      obtain ⟨hfew, hformat⟩ := code_of_refused hrefused
      refine ⟨rfl, hrefused, hfew, hformat, ?_⟩
      rintro c n flags rest rfl hc
      cases hrefused with
      | cellType => rfl
      | missingSense hcell | sense hcell => omega
    · cases h

/-- The twentieth number of a partition, with flags and a cell that do not count; and a bad type
with a bad sense. -/
theorem decodes_exactly_the_grammar_of_partition :
    Denotes [5, 20, 0x30, 7] ⟨⟨1060⟩, .level⟩ ∧ Refused [6, 0, 5] .cellType
      ∧ (decodeInto [6, 0, 5] ⟨.spurious, .edge⟩).2 = ⟨.spurious, .edge⟩ := by
  have haccepted := decodes_exactly_the_grammar [5, 20, 0x30, 7] ⟨.spurious, .edge⟩
  have hrefused := decodes_exactly_the_grammar [6, 0, 5] ⟨.spurious, .edge⟩
  exact ⟨(haccepted.2.1 _ rfl).1, (hrefused.2.2.2 _ _ rfl).2.1, (hrefused.2.2.2 _ _ rfl).1⟩

/-! ### The kind of what is denoted -/

namespace CellType

/-- The interrupts that the type is for. -/
def covers : CellType → IntId → Bool
  | spi, id => id.isSpi
  | ppi, id => id.isPpi
  | extendedSpi, id => id.isExtendedSpi
  | extendedPpi, id => id.isExtendedPpi
  | lpi, id => id.isLpi
  | partition, id => id.isPpi || id.isExtendedPpi

/-- The numbers within the type that lead to such an interrupt. The last ones of a partition are
so large that the sum wraps. -/
def Bounds : CellType → Nat → Prop
  | spi, n => n < 988
  | ppi, n => n < 16
  | extendedSpi, n => n < 1024
  | extendedPpi, n => n < 64
  | lpi, n => 8192 ≤ n
  | partition, n => n < 80 ∨ 0xfffffc00 ≤ n ∧ n < 0xfffffc10

lemma covers_iff {t : CellType} {n : BitVec 32} {id : IntId} (hid : id.number = t.number n.toNat) :
    t.covers id = true ↔ t.Bounds n.toNat := by
  have hn := n.isLt
  cases t with
  | spi =>
    rw [covers, id.isSpi_iff, hid, number, Bounds]
    omega
  | ppi =>
    rw [covers, id.isPpi_iff, hid, number, Bounds]
    omega
  | extendedSpi =>
    rw [covers, id.isExtendedSpi_iff, hid, number, Bounds]
    omega
  | extendedPpi =>
    rw [covers, id.isExtendedPpi_iff, hid, number, Bounds]
    omega
  | lpi => rw [covers, id.isLpi_iff, hid, number, Bounds]
  | partition =>
    rw [covers, Bool.or_eq_true, id.isPpi_iff, id.isExtendedPpi_iff, hid, number, Bounds]
    split <;> omega

end CellType

/-- **A specifier of a type stands for an interrupt of that type exactly if its number is in
bounds**, and a single cell always for an SGI. -/
theorem kind_of_decode (h : decode cells = .ok l) : (cells.length = 1 → l.id.isSgi = true)
    ∧ ∀ c n flags rest (t : CellType), cells = c :: n :: flags :: rest → c.toNat = t.cell →
      (t.covers l.id = true ↔ t.Bounds n.toNat) := by
  cases denotes_of_decode h with
  | @sgi n hn =>
    refine ⟨fun _ => (IntId.isSgi_iff _).mpr hn, ?_⟩
    intro c n' flags rest t hcells
    simp at hcells
  | @typed c n flags rest u id trigger hcell hid =>
    refine ⟨fun hlength => by simp at hlength, ?_⟩
    rintro c' n' flags' rest' t hcells ht
    obtain ⟨rfl, rfl, -⟩ := List.cons.inj hcells |>.imp_right List.cons.inj
    obtain rfl : u = t := by
      have := CellType.ofCell?_of_cell hcell
      exact Option.some.inj (this.symm.trans (CellType.ofCell?_of_cell ht))
    exact CellType.covers_iff hid

/-- The last SPI is the 987th. -/
theorem kind_of_decode_of_last_spi : decode [0, 987, 4] = .ok ⟨⟨1019⟩, .level⟩
    ∧ (CellType.spi.covers ⟨1019⟩ = true ↔ CellType.spi.Bounds 987) :=
  ⟨rfl, (@kind_of_decode [0, 987, 4] _ rfl).2 0 987 4 [] .spi rfl rfl⟩

/-- One further on, a special number is decoded, and where the sum wraps, an SGI. Past the extended
SPIs it is a number of no kind at all. -/
theorem decode_leaves_kind :
    ¬ (∀ cells l, decode cells = .ok l → ∀ c n flags rest (t : CellType),
      cells = c :: n :: flags :: rest → c.toNat = t.cell → t.covers l.id = true)
    ∧ decode [0, 988, 4] = .ok ⟨⟨1020⟩, .level⟩ ∧ IntId.isSpecial ⟨1020⟩ = true
    ∧ decode [0, 0xffffffe0, 4] = .ok ⟨⟨0⟩, .level⟩ ∧ IntId.isSgi ⟨0⟩ = true
    ∧ decode [2, 1024, 4] = .ok ⟨⟨5120⟩, .level⟩ ∧ IntId.isValid ⟨5120⟩ = false := by
  refine ⟨fun h => ?_, rfl, rfl, rfl, rfl, rfl, rfl⟩
  have hspi : IntId.isSpi ⟨1020⟩ = true := h [0, 988, 4] ⟨⟨1020⟩, .level⟩ rfl 0 988 4 [] .spi rfl rfl
  exact absurd hspi (by decide)

end InterruptControl.DeviceTree
