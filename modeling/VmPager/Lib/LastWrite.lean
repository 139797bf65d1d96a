import Mathlib.Logic.Function.Basic
import Mathlib.Tactic

/-!
# Memory as a log of writes

A memory is what it starts with and the list of the writes since, newest first. `lastWrite` is the
value last written to an address, or the one it starts with.
-/

namespace VmPager.Lib.LastWrite

variable {A B : Type} [DecidableEq A]

/-- The value last written to the address. -/
def lastWrite (init : A → B) : List (A × B) → A → B
  | [], a => init a
  | e :: log, a => if e.1 = a then e.2 else lastWrite init log a

variable {init : A → B} {log : List (A × B)} {a : A}

@[simp] theorem lastWrite_nil : lastWrite init [] a = init a := rfl

theorem lastWrite_cons (e : A × B) :
    lastWrite init (e :: log) = Function.update (lastWrite init log) e.1 e.2 := by
  funext a
  rw [lastWrite, Function.update_apply]
  exact if_congr eq_comm rfl rfl

/-- What `lastWrite` means: the newest write to the address, if there is one. -/
theorem lastWrite_cases :
    (∃ new old, log = new ++ (a, lastWrite init log a) :: old ∧ ∀ e ∈ new, e.1 ≠ a) ∨
      ((∀ e ∈ log, e.1 ≠ a) ∧ lastWrite init log a = init a) := by
  induction log with
  | nil => exact .inr ⟨by simp, rfl⟩
  | cons e log ih =>
    by_cases he : e.1 = a
    · left
      refine ⟨[], log, ?_, by simp⟩
      rw [lastWrite, if_pos he, ← he]
      rfl
    · rw [lastWrite, if_neg he]
      rcases ih with ⟨new, old, hlog, hnew⟩ | ⟨hnone, hinit⟩
      · exact .inl ⟨e :: new, old, by rw [List.cons_append, ← hlog], by simpa [he] using hnew⟩
      · exact .inr ⟨by simpa [he] using hnone, hinit⟩

end VmPager.Lib.LastWrite
