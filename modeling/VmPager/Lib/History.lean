import Mathlib.Tactic

/-!
# Histories

A history is a list of events, newest first. `since p q h` says that an event of the kind `p` has
happened since the last one of the kind `q`; an event of both kinds counts as a `p`. `Always R h`
says that every event of `h` stands in the relation `R` to the history it found.
-/

namespace VmPager.Lib.History

variable {α : Type}

/-- Some event of the kind `p` has happened since the last one of the kind `q`. -/
def since (p q : α → Bool) : List α → Bool
  | [] => false
  | e :: h => p e || (!q e && since p q h)

section Since

variable {p q : α → Bool} {e : α} {h : List α}

@[simp] theorem since_nil : since p q [] = false := rfl

theorem since_cons_hit (hp : p e = true) : since p q (e :: h) = true := by
  simp [since, hp]

/-- What `since` means: a `p` somewhere in the history, with no `q` after it. -/
theorem since_iff : since p q h = true ↔
    ∃ new e old, h = new ++ e :: old ∧ p e = true ∧ ∀ x ∈ new, q x = false := by
  induction h with
  | nil => simp
  | cons a h ih =>
    constructor
    · intro hs
      by_cases hp : p a = true
      · exact ⟨[], a, h, rfl, hp, by simp⟩
      · obtain ⟨hq, hs⟩ : q a = false ∧ since p q h = true := by simpa [since, hp] using hs
        obtain ⟨new, e, old, rfl, he, hn⟩ := ih.1 hs
        refine ⟨a :: new, e, old, rfl, he, fun x hx => ?_⟩
        rcases List.mem_cons.1 hx with rfl | hx
        · exact hq
        · exact hn x hx
    · rintro ⟨new, e, old, heq, he, hn⟩
      cases new with
      | nil =>
        obtain ⟨rfl, rfl⟩ := List.cons.inj heq
        exact since_cons_hit he
      | cons b new =>
        obtain ⟨rfl, rfl⟩ := List.cons.inj heq
        have hs : since p q (new ++ e :: old) = true :=
          ih.2 ⟨new, e, old, rfl, he, fun x hx => hn x (by simp [hx])⟩
        simp [since, hn a (by simp), hs]

end Since

/-- Every event of the history stands in the relation `R` to the events before it. -/
def Always (R : α → List α → Prop) : List α → Prop
  | [] => True
  | e :: h => R e h ∧ Always R h

theorem Always.at {R : α → List α → Prop} {new : List α} {e : α} {old : List α}
    (h : Always R (new ++ e :: old)) : R e old := by
  induction new with
  | nil => exact h.1
  | cons a new ih => exact ih h.2

theorem Always.of_mem {R : α → List α → Prop} {h : List α} (ha : Always R h) {e : α} (he : e ∈ h) :
    ∃ old, R e old := by
  obtain ⟨new, old, rfl⟩ := List.append_of_mem he
  exact ⟨old, ha.at⟩

end VmPager.Lib.History
