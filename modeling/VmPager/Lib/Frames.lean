import Mathlib.Tactic

/-!
# A flat memory cut into frames

A memory is a function from addresses to cells; a frame is the block of `n` cells that starts at some
address. Reading a frame out (`load`), writing a whole frame (`store`) and writing one cell
(`Function.update`) are related here: frames that do not overlap do not see each other's writes, and
the frames `p * n` and `q * n` of two numbers overlap only when `p = q`.
-/

namespace VmPager.Lib.Frames

variable {β : Type} {n : ℕ}

/-- The frame of `n` cells at the address `a`. -/
def load (mem : ℕ → β) (a : ℕ) : Fin n → β := fun i => mem (a + i)

/-- The memory with the frame at `a` replaced. -/
def store (mem : ℕ → β) (a : ℕ) (page : Fin n → β) : ℕ → β := fun x =>
  if h : a ≤ x ∧ x < a + n then page ⟨x - a, by omega⟩ else mem x

theorem store_inside (mem : ℕ → β) (a : ℕ) (page : Fin n → β) (i : Fin n) :
    store mem a page (a + i) = page i := by
  have h : a ≤ a + (i : ℕ) ∧ a + (i : ℕ) < a + n := ⟨by omega, by omega⟩
  rw [store, dif_pos h]
  congr 1
  exact Fin.ext (by simp)

theorem store_outside (mem : ℕ → β) {a x : ℕ} (page : Fin n → β) (h : x < a ∨ a + n ≤ x) :
    store mem a page x = mem x :=
  dif_neg (by omega)

@[simp] theorem load_store (mem : ℕ → β) (a : ℕ) (page : Fin n → β) :
    load (store mem a page) a = page :=
  funext fun i => store_inside mem a page i

/-- Frames that do not overlap do not see each other's writes. -/
theorem load_store_disjoint (mem : ℕ → β) {a b : ℕ} (page : Fin n → β)
    (h : a + n ≤ b ∨ b + n ≤ a) : (load (store mem a page) b : Fin n → β) = load mem b :=
  funext fun i => store_outside mem page (by omega)

/-- Two numbered frames are the same frame or do not overlap. -/
theorem mul_disjoint {p q : ℕ} (h : p ≠ q) : p * n + n ≤ q * n ∨ q * n + n ≤ p * n := by
  rcases Nat.lt_or_gt_of_ne h with h | h
  · left
    calc p * n + n = (p + 1) * n := by ring
      _ ≤ q * n := Nat.mul_le_mul_right n h
  · right
    calc q * n + n = (q + 1) * n := by ring
      _ ≤ p * n := Nat.mul_le_mul_right n h

theorem load_store_ne (mem : ℕ → β) {p q : ℕ} (page : Fin n → β) (h : p ≠ q) :
    (load (store mem (p * n) page) (q * n) : Fin n → β) = load mem (q * n) :=
  load_store_disjoint mem page (mul_disjoint h)

/-- Writing one cell of a frame. -/
theorem load_update_same (mem : ℕ → β) (a : ℕ) (i : Fin n) (b : β) :
    (load (Function.update mem (a + i) b) a : Fin n → β) = Function.update (load mem a) i b := by
  funext j
  by_cases h : j = i
  · subst h
    simp [load]
  · have hne : a + (j : ℕ) ≠ a + i := fun e => h (Fin.ext (by omega))
    simp [load, Function.update_of_ne h, Function.update_of_ne hne]

theorem load_update_ne (mem : ℕ → β) {p q : ℕ} (h : p ≠ q) (i : Fin n) (b : β) :
    (load (Function.update mem (p * n + i) b) (q * n) : Fin n → β) = load mem (q * n) := by
  funext j
  refine Function.update_of_ne ?_ _ _
  rcases mul_disjoint (n := n) h with h | h <;> omega

end VmPager.Lib.Frames
