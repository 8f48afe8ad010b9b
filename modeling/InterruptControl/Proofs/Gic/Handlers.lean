import InterruptControl.Gic.Basic
import InterruptControl.Proofs.IntId
import InterruptControl.Proofs.Program

/-!
The handlers of a front end as a whole.
-/

namespace InterruptControl

namespace Handlers

variable {id id' : IntId} {i : Fin slotCount}

/-- Every interrupt has a slot of its own. -/
lemma slot?_injective (h : slot? id = some i) (h' : slot? id' = some i) : id = id' := by
  ext
  have hval {id : IntId} (h : slot? id = some i) : id.number = i.val ∧ id.number < 1020
      ∨ id.number + 1020 = i.val + 1056 ∧ 1056 ≤ id.number ∧ id.number < 1120
      ∨ id.number + 1084 = i.val + 4096 ∧ 4096 ≤ id.number := by
    rw [slot?] at h
    split_ifs at h with h1 h2 h3
    · rw [← Option.some.inj h]
      exact .inl ⟨rfl, h1⟩
    · rw [← Option.some.inj h]
      exact .inr (.inl ⟨by dsimp only; omega, h2⟩)
    · rw [← Option.some.inj h]
      exact .inr (.inr ⟨by dsimp only; omega, h3.1⟩)
  have := hval h
  have := hval h'
  omega

end Handlers

namespace Gic

variable {H : Type} {kind : H → Prop} {g g' : Gic H} {id : IntId} {h : Option H}

/-- All handlers are of the kind. -/
def Staffed (kind : H → Prop) (g : Gic H) : Prop :=
  ∀ id h, g.handlers.find? id = some h → kind h

lemma exists_install (g : Gic H) (h : Option H) (hid : (Handlers.slot? id).isSome = true) :
    ∃ g', g.install id h = .ok g' := by
  obtain ⟨i, hi⟩ := Option.isSome_iff_exists.mp hid
  rw [install, Handlers.replace?, hi]
  exact ⟨_, rfl⟩

lemma install_of_none (g : Gic H) (h : Option H) (hid : Handlers.slot? id = none) :
    g.install id h = .error (.noHandlerSlot id.number) := by
  rw [install, Handlers.replace?, hid]
  rfl

lemma parts_of_install (hinstall : g.install id h = .ok g') :
    g'.engine = g.engine ∧ g'.twoStep = g.twoStep := by
  rw [install] at hinstall
  split at hinstall
  · obtain rfl := Except.ok.inj hinstall
    exact ⟨rfl, rfl⟩
  · simp at hinstall

/-- A handler is found where it was installed, and all the others as before. -/
lemma find?_install (hinstall : g.install id h = .ok g') (id' : IntId) :
    g'.handlers.find? id' = if id' = id then h else g.handlers.find? id' := by
  rw [install, Handlers.replace?] at hinstall
  rcases hslot : Handlers.slot? id with _ | i
  · simp [hslot] at hinstall
  simp only [hslot, Option.map_some, Except.ok.injEq] at hinstall
  subst hinstall
  by_cases hid : id' = id
  · subst hid
    simp [Handlers.find?, hslot]
  · rw [if_neg hid]
    rcases hslot' : Handlers.slot? id' with _ | j
    · simp [Handlers.find?, hslot']
    · have hne : i.val ≠ j.val := by
        intro he
        exact hid (Handlers.slot?_injective hslot' (Fin.ext he ▸ hslot))
      simp [Handlers.find?, hslot', Vector.getElem_set_ne _ _ hne]

lemma Staffed.install (hg : g.Staffed kind) (hinstall : g.install id h = .ok g')
    (hh : ∀ h' ∈ h, kind h') :
    g'.engine = g.engine ∧ g'.twoStep = g.twoStep ∧ g'.Staffed kind := by
  obtain ⟨hengine, htwo⟩ := parts_of_install hinstall
  refine ⟨hengine, htwo, fun id' h' hfind => ?_⟩
  rw [find?_install hinstall] at hfind
  split at hfind
  · exact hh h' hfind
  · exact hg id' h' hfind

end Gic

end InterruptControl
