import VmPager.Core.Moves

/-!
# What the disk holds

A block changes only when its page is written back, and then to the bytes of the page. So at every
point of a run, a crash would find each block as it was before the run or as its page was at some
moment since: no mixture of two moments, and nothing of another page.
-/

namespace VmPager

open Lib.Transition

/-- From `s` to `s'` a block has changed at most to what its page had in `s`. -/
def Saves (s s' : State) : Prop :=
  ∀ name b, s'.disk name b = s.disk name b ∨
    ∃ r, s.Held r ∧ (s.pages r).backing = (name, b) ∧ s'.disk name b = s.content r

section Saves

variable {s s' t : State}

lemma Saves.of_disk (hd : s'.disk = s.disk) : Saves s s' := fun name b => .inl (by rw [hd])

/-- What does not write the disk afterwards. -/
lemma Saves.congr (hs : Saves s t) (hd : s'.disk = t.disk) : Saves s s' := by
  intro name b
  rw [hd]
  exact hs name b

/-- Pages keep their bytes and their blocks in between. -/
lemma Saves.trans (hev : Evolves s t) (hs : Saves s t) (hs' : Saves t s') : Saves s s' := by
  intro name b
  rcases hs' name b with hsame | ⟨r, hr, hb, hd⟩
  · rw [hsame]
    exact hs name b
  · have hr' := (hev.layout.held r).1 hr
    rw [hev.layout.backing] at hb
    rw [hev.content hr'] at hd
    exact .inr ⟨r, hr', hb, hd⟩

/-- **The page that is written back** is found on its block, and no other block changes. -/
lemma Reclaim.saves (h : Inv none s) {p : ℕ} (hr : Reclaim s p t) : Saves s t := by
  cases hr with
  | free => exact .of_disk rfl
  | @clean v passed rest => exact .of_disk (swept_disk s p passed rest)
  | @stuck v passed rest => exact .of_disk (swept_disk s v passed rest)
  | @written v passed rest r hs =>
    have hheld := h.frames.owner_held hs.owner
    have hframe : s.frame p = s.content r := by
      rw [State.content, if_pos (h.frames.owner_framed hs.owner).1, h.frames.owner_ppn hs.owner]
    intro name b
    rw [written_disk, hframe]
    by_cases hname : name = (s.pages r).backing.1
    · subst hname
      rw [Function.update_self]
      by_cases hb : b = (s.pages r).backing.2
      · subst hb
        exact .inr ⟨r, hheld, rfl, Function.update_self ..⟩
      · exact .inl (Function.update_of_ne hb ..)
    · rw [Function.update_of_ne hname]
      exact .inl rfl

lemma PageFault.saves (h : Inv none s) (hf : PageFault s s') : Saves s s' := by
  obtain @⟨vpn, r, w, res, _, -, -, hend, -, -⟩ := hf
  cases hend with
  | touched => exact .of_disk rfl
  | noFrame _ hr => exact hr.saves h
  | zeroed _ _ hr => exact (hr.saves h).congr rfl
  | loaded _ _ hr => exact (hr.saves h).congr rfl
  | unread _ _ hr => exact (hr.saves h).congr rfl

lemma Faults.saves (h : Inv none s) (hf : Faults s s') : Saves s s' := by
  apply hf.preserves (R := Saves)
  · exact fun s => .of_disk rfl
  · exact fun _ _ _ hab _ hs hs' => hs.trans hab hs'
  · exact fun _ _ hinv hf => hf.saves hinv
  · exact h

end Saves

end VmPager
