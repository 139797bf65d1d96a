import Mathlib.Tactic

/-!
# Computations with a state that may stop at a fault

Programs are values of `StateT σ (Except ε)`: they read and write a state and either return or stop
at a fault of type `ε`. Running one on a state is application. The lemmas of the first section run
a program symbolically; `Returns` is the total-correctness assertion (the program returns, and what it
returns and leaves behind satisfies the postcondition).
-/

namespace VmPager.Lib.Exec

variable {σ ε α β : Type}

/-- Stop at the fault `e` unless `c` holds: an assertion of the program text. -/
def require (c : Prop) [Decidable c] (e : ε) : StateT σ (Except ε) Unit :=
  if c then pure () else throw e

/-! ### Running a program -/

theorem bind_apply (x : StateT σ (Except ε) α) (f : α → StateT σ (Except ε) β) (s : σ) :
    (x >>= f) s = Except.bind (x s) fun r => f r.1 r.2 := rfl

theorem ok_bind (a : α) (f : α → Except ε β) : Except.bind (.ok a) f = f a := rfl

theorem error_bind (e : ε) (f : α → Except ε β) : Except.bind (.error e) f = .error e := rfl

theorem pure_apply (a : α) (s : σ) : (pure a : StateT σ (Except ε) α) s = .ok (a, s) := rfl

theorem get_apply (s : σ) : (get : StateT σ (Except ε) σ) s = .ok (s, s) := rfl

theorem modify_apply (g : σ → σ) (s : σ) :
    (modify g : StateT σ (Except ε) Unit) s = .ok ((), g s) := rfl

theorem throw_apply (e : ε) (s : σ) : (throw e : StateT σ (Except ε) α) s = .error e := rfl

theorem exec_ite (c : Prop) [Decidable c] (x y : StateT σ (Except ε) α) (s : σ) :
    (if c then x else y) s = if c then x s else y s := by
  split <;> rfl

/-- What is done after a branch is done once. -/
theorem ite_bind (c : Prop) [Decidable c] (x y : Except ε α) (f : α → Except ε β) :
    (if c then Except.bind x f else Except.bind y f) = Except.bind (if c then x else y) f := by
  split <;> rfl

theorem require_apply {c : Prop} [Decidable c] (h : c) (e : ε) (s : σ) :
    require c e s = .ok ((), s) := by
  simp [require, h, pure_apply]

theorem require_fails {c : Prop} [Decidable c] (h : ¬ c) (e : ε) (s : σ) :
    require c e s = .error e := by
  simp [require, h, throw_apply]

/-- Once the first program is known to return, the second runs from where it stopped. -/
theorem bind_of_ok {x : StateT σ (Except ε) α} {s s' : σ} {a : α} (h : x s = .ok (a, s'))
    (f : α → StateT σ (Except ε) β) : (x >>= f) s = f a s' := by
  rw [bind_apply, h, ok_bind]

/-- A run of two programs is one of the first, and one of the second from where it stopped. -/
theorem ok_of_bind {x : Except ε α} {f : α → Except ε β} {b : β} (h : Except.bind x f = .ok b) :
    ∃ a, x = .ok a ∧ f a = .ok b := by
  cases x with
  | error e => cases h
  | ok a => exact ⟨a, rfl, h⟩

/-- `x` returns the value from `s`. -/
def gives [DecidableEq α] (x : StateT σ (Except ε) α) (s : σ) (a : α) : Bool :=
  match x s with
  | .ok r => r.1 = a
  | .error _ => false

theorem ok_of_gives [DecidableEq α] {x : StateT σ (Except ε) α} {s : σ} {a : α}
    (h : gives x s a = true) : ∃ s', x s = .ok (a, s') := by
  unfold gives at h
  split at h
  · rename_i r hr
    obtain rfl := of_decide_eq_true h
    exact ⟨r.2, hr⟩
  · cases h

/-! ### Returns correctness -/

/-- `x` returns from `s`, and its result and final state satisfy `Q`. -/
def Returns (x : StateT σ (Except ε) α) (s : σ) (Q : α → σ → Prop) : Prop :=
  ∃ a s', x s = .ok (a, s') ∧ Q a s'

theorem Returns.of_eq {x : StateT σ (Except ε) α} {s s' : σ} {a : α} {Q : α → σ → Prop}
    (h : x s = .ok (a, s')) (hQ : Q a s') : Returns x s Q :=
  ⟨a, s', h, hQ⟩

theorem Returns.mono {x : StateT σ (Except ε) α} {s : σ} {P Q : α → σ → Prop} (h : Returns x s P)
    (hPQ : ∀ a s', P a s' → Q a s') : Returns x s Q := by
  obtain ⟨a, s', hx, hP⟩ := h
  exact ⟨a, s', hx, hPQ a s' hP⟩

/-- Programs are deterministic, so the postcondition holds of the run one is given. -/
theorem Returns.elim {x : StateT σ (Except ε) α} {s s' : σ} {a : α} {Q : α → σ → Prop}
    (h : Returns x s Q) (hx : x s = .ok (a, s')) : Q a s' := by
  obtain ⟨b, t, hb, hQ⟩ := h
  rw [hx] at hb
  cases hb
  exact hQ

end VmPager.Lib.Exec
