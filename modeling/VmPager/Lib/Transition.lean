import Mathlib.Tactic

/-!
# Labelled transition systems

A system has initial states and labelled steps. A run is recorded by its labels, newest first. An
invariant is proved by its two conditions (`Run.invariant`), a relation to another system by a
forward simulation (`Run.simulates`, `Run.relabels`), and what every step does to the state it
starts from is carried along the rest of a run by `Reaches.preserves`. Two systems that move in step
from two of their states on are related by `Reaches.simulates`.
-/

namespace VmPager.Lib.Transition

/-- A labelled transition system. -/
structure System (C L : Type) where
  init : C → Prop
  step : C → L → C → Prop

variable {C L A : Type} {T : System C L}

/-- `T.Run ls c`: some run with the labels `ls`, newest first, ends in `c`. -/
inductive System.Run (T : System C L) : List L → C → Prop
  | init {c : C} : T.init c → T.Run [] c
  | step {ls : List L} {c c' : C} {l : L} : T.Run ls c → T.step c l c' → T.Run (l :: ls) c'

/-- The states some run ends in. -/
def System.Reachable (T : System C L) (c : C) : Prop := ∃ ls, T.Run ls c

/-- `T.Reaches c ls c'`: from `c`, steps with the labels `ls`, newest first, lead to `c'`. -/
inductive System.Reaches (T : System C L) : C → List L → C → Prop
  | refl (c : C) : T.Reaches c [] c
  | step {ls : List L} {c c' c'' : C} {l : L} :
      T.Reaches c ls c' → T.step c' l c'' → T.Reaches c (l :: ls) c''

theorem System.Reachable.init {c : C} (h : T.init c) : T.Reachable c :=
  ⟨[], .init h⟩

theorem System.Reachable.step {c c' : C} {l : L} (h : T.Reachable c) (hs : T.step c l c') :
    T.Reachable c' := by
  obtain ⟨ls, hr⟩ := h
  exact ⟨l :: ls, hr.step hs⟩

theorem System.Reachable.reaches {c c' : C} {ls : List L} (h : T.Reachable c)
    (hr : T.Reaches c ls c') : T.Reachable c' := by
  induction hr with
  | refl => exact h
  | step _ hs ih => exact (ih h).step hs

/-- A run starts somewhere. -/
theorem System.Run.reaches {c : C} {ls : List L} (h : T.Run ls c) :
    ∃ c₀, T.init c₀ ∧ T.Reaches c₀ ls c := by
  induction h with
  | init hc => exact ⟨_, hc, .refl _⟩
  | step _ hs ih =>
    obtain ⟨c₀, hc₀, hr⟩ := ih
    exact ⟨c₀, hc₀, hr.step hs⟩

/-! ### Invariants -/

/-- **The invariant rule**, with the history of the run in the invariant. -/
theorem System.Run.invariant {I : List L → C → Prop} (hinit : ∀ c, T.init c → I [] c)
    (hstep : ∀ ls c l c', T.Run ls c → I ls c → T.step c l c' → I (l :: ls) c') {ls : List L} {c : C}
    (h : T.Run ls c) : I ls c := by
  induction h with
  | init hc => exact hinit _ hc
  | step hr hs ih => exact hstep _ _ _ _ hr ih hs

/-- The invariant rule for a property of states alone. -/
theorem System.Reachable.invariant {I : C → Prop} (hinit : ∀ c, T.init c → I c)
    (hstep : ∀ c l c', I c → T.step c l c' → I c') {c : C} (h : T.Reachable c) : I c := by
  obtain ⟨ls, hr⟩ := h
  exact hr.invariant (I := fun _ c => I c) hinit fun _ c l c' _ => hstep c l c'

/-- A preorder that every step from a reachable state respects is respected by whole runs. -/
theorem System.Reaches.preserves {R : C → C → Prop} (hrefl : ∀ c, R c c)
    (htrans : ∀ a b c, R a b → R b c → R a c)
    (hstep : ∀ c l c', T.Reachable c → T.step c l c' → R c c') {c c' : C} {ls : List L}
    (hc : T.Reachable c) (h : T.Reaches c ls c') : R c c' := by
  induction h with
  | refl => exact hrefl _
  | step hr hs ih => exact htrans _ _ _ (ih hc) (hstep _ _ _ (hc.reaches hr) hs)

/-- **Forward simulation** by a deterministic acceptor: `next` reads a label and may refuse it. When
related states stay related and no label is refused, the acceptor accepts every run. -/
theorem System.Run.simulates {next : A → L → Option A} {a₀ : A} {R : C → A → Prop}
    (hinit : ∀ c, T.init c → R c a₀)
    (hstep : ∀ c l c' a, T.Reachable c → R c a → T.step c l c' → ∃ a', next a l = some a' ∧ R c' a')
    {ls : List L} {c : C} (h : T.Run ls c) : ∃ a, ls.reverse.foldlM next a₀ = some a ∧ R c a := by
  induction h with
  | init hc => exact ⟨a₀, rfl, hinit _ hc⟩
  | @step ls c c' l hr hs ih =>
    obtain ⟨a, ha, hR⟩ := ih
    obtain ⟨a', ha', hR'⟩ := hstep c l c' a ⟨ls, hr⟩ hR hs
    refine ⟨a', ?_, hR'⟩
    rw [List.reverse_cons, List.foldlM_append, ha]
    simp [ha']

/-- **Simulation by another system**, under other labels. -/
theorem System.Run.relabels {D L' : Type} {T' : System D L'} {R : C → D → Prop} {Q : L → L' → Prop}
    (hinit : ∀ c, T.init c → ∃ d, T'.init d ∧ R c d)
    (hstep : ∀ c l c' l' d, T.Reachable c → R c d → Q l l' → T.step c l c' →
      ∃ d', T'.step d l' d' ∧ R c' d') {ls : List L} {ls' : List L'} {c : C} (h : T.Run ls c)
    (hls : List.Forall₂ Q ls ls') : ∃ d, T'.Run ls' d ∧ R c d := by
  induction h generalizing ls' with
  | init hc =>
    obtain ⟨d, hd, hR⟩ := hinit _ hc
    obtain rfl := List.forall₂_nil_left_iff.1 hls
    exact ⟨d, .init hd, hR⟩
  | step hr hs ih =>
    obtain ⟨l', rest, hl, hrest, rfl⟩ := List.forall₂_cons_left_iff.1 hls
    obtain ⟨d, hd, hR⟩ := ih hrest
    obtain ⟨d', hs', hR'⟩ := hstep _ _ _ l' _ ⟨_, hr⟩ hR hl hs
    exact ⟨d', hd.step hs', hR'⟩

/-- Simulation by another system, with the same labels. -/
theorem System.Run.simulation {D : Type} {T' : System D L} {R : C → D → Prop}
    (hinit : ∀ c, T.init c → ∃ d, T'.init d ∧ R c d)
    (hstep : ∀ c l c' d, T.Reachable c → R c d → T.step c l c' → ∃ d', T'.step d l d' ∧ R c' d')
    {ls : List L} {c : C} (h : T.Run ls c) : ∃ d, T'.Run ls d ∧ R c d := by
  refine h.relabels (Q := Eq) hinit ?_ (List.forall₂_same.2 fun _ _ => rfl)
  rintro c l c' l' d hc hR rfl hs
  exact hstep c l c' d hc hR hs

/-- Simulation of the rest of a run by another system, with the same labels. -/
theorem System.Reaches.simulates {D : Type} {T' : System D L} {R : C → D → Prop} {P : L → Prop}
    (hstep : ∀ c l c' d, P l → R c d → T.step c l c' → ∃ d', T'.step d l d' ∧ R c' d') {c c' : C}
    {d : D} {ls : List L} (h : T.Reaches c ls c') (hls : ∀ l ∈ ls, P l) (hR : R c d) :
    ∃ d', T'.Reaches d ls d' ∧ R c' d' := by
  induction h with
  | refl => exact ⟨d, .refl d, hR⟩
  | step hr hs ih =>
    obtain ⟨d', hr', hR'⟩ := ih (fun l hl => hls l (List.mem_cons_of_mem _ hl)) hR
    obtain ⟨d'', hs', hR''⟩ := hstep _ _ _ _ (hls _ List.mem_cons_self) hR' hs
    exact ⟨d'', hr'.step hs', hR''⟩

end VmPager.Lib.Transition
