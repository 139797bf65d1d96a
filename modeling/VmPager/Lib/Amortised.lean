import Mathlib.Tactic

/-!
# Amortised counting

The states of a system carry a history of events, newest first. `Paid hist Φ p q c s s'` says that
from `s` to `s'` the history grows, and that the events of the kind `p` among the new ones are paid
for, by `c` for each new event of the kind `q` and by what the potential `Φ` loses. It is a preorder,
so it is enough to show it of every step.
-/

namespace VmPager.Lib.Amortised

variable {σ ε : Type}

def Paid (hist : σ → List ε) (Φ : σ → ℕ) (p q : ε → Bool) (c : ℕ) (s s' : σ) : Prop :=
  ∃ new, hist s' = new ++ hist s ∧ new.countP p + Φ s' ≤ c * new.countP q + Φ s

variable {hist : σ → List ε} {Φ : σ → ℕ} {p q : ε → Bool} {c : ℕ} {s s' s'' : σ}

theorem Paid.refl (s : σ) : Paid hist Φ p q c s s :=
  ⟨[], rfl, by simp⟩

theorem Paid.trans (h : Paid hist Φ p q c s s') (h' : Paid hist Φ p q c s' s'') :
    Paid hist Φ p q c s s'' := by
  obtain ⟨new, hn, hle⟩ := h
  obtain ⟨new', hn', hle'⟩ := h'
  refine ⟨new' ++ new, by rw [hn', hn, List.append_assoc], ?_⟩
  rw [List.countP_append, List.countP_append, Nat.mul_add]
  omega

/-- A step without events. -/
theorem Paid.silent (hh : hist s' = hist s) (hΦ : Φ s' ≤ Φ s) : Paid hist Φ p q c s s' :=
  ⟨[], by rw [hh, List.nil_append], by simpa using hΦ⟩

/-- A step with one event. -/
theorem Paid.event {e : ε} (hh : hist s' = e :: hist s)
    (hΦ : (p e).toNat + Φ s' ≤ c * (q e).toNat + Φ s) : Paid hist Φ p q c s s' := by
  refine ⟨[e], hh, ?_⟩
  cases hp : p e <;> cases hq : q e <;> simpa [hp, hq] using hΦ

/-- **What is known of the new events**, whatever they are called. -/
theorem Paid.count (h : Paid hist Φ p q c s s') {new : List ε} (hn : hist s' = new ++ hist s) :
    new.countP p + Φ s' ≤ c * new.countP q + Φ s := by
  obtain ⟨new', hn', hle⟩ := h
  rw [hn] at hn'
  rwa [List.append_cancel_right hn']

end VmPager.Lib.Amortised
