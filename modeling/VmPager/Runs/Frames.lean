import VmPager.Core.Step

/-!
# Frames have one owner

In every reachable state each frame is free or active, the active ones are those that
`phys_mem_pages` gives a page, and no frame has two pages. The zero frame takes no part: nothing is
read, copied or stored to it.
-/

namespace VmPager

open Lib.Transition Lib.History

/-- The address that the event writes to, from `vm_physmem` on. -/
def Event.target : Event → Option ℕ
  | .fileRead _ _ buf _ => some buf
  | .memcpy dst _ => some dst
  | _ => none

/-- Who holds the `m` frames. -/
structure FramesOwned (s : State) (m : ℕ) : Prop where
  /-- Every frame but the zero frame is once in one of the queues. -/
  queues : (s.freePages ++ s.activePages).Perm (List.range' 1 (m - 1))
  isFull_iff : ∃ full, isFull s = .ok (full, s) ∧ (full = true ↔ s.freePages = [])
  phys_length : s.physMemPages.length = m
  phys_iff : ∀ p, (∃ r, s.physMemPages[p]? = some (some r)) ↔ p ∈ s.activePages
  phys_page : ∀ {p r}, s.physMemPages[p]? = some (some r) →
    (s.pages r).resident = true ∧ (s.pages r).ppn = p
  /-- A page with a frame is the one stored there. -/
  stored : ∀ {r}, s.Held r → (s.pages r).resident = true → (s.pages r).ppn ≠ 0 →
    s.physMemPages[(s.pages r).ppn]? = some (some r)
  /-- No two pages hold one frame. -/
  unique : ∀ {r q}, s.Held r → s.Held q → (s.pages r).resident = true →
    (s.pages q).resident = true → (s.pages r).ppn ≠ 0 → (s.pages r).ppn = (s.pages q).ppn → r = q
  zero_queues : 0 ∉ s.freePages ∧ 0 ∉ s.activePages
  zero_phys : s.physMemPages[0]? = some none
  /-- What `file_read` and `memcpy` have written to are other frames. -/
  targets : ∀ e ∈ s.trace, ∀ buf, e.target = some buf → ∃ p, 0 < p ∧ p < m ∧ buf = p * vmPagesize
  /-- A store that an entry permits goes to another frame. -/
  stores : ∀ {pt t vpn}, s.tables pt = some t → (t vpn).permits true = true →
    0 < (t vpn).ppage ∧ (t vpn).ppage < m
  zero_bytes : ∀ i < vmPagesize, s.physmem i = 0

/-- An entry that permits a store names the frame of a page. -/
lemma Inv.store_target {s : State} (h : Inv none s) {pt : Ptbr} {t : ℕ → Pte} {vpn : ℕ}
    (ht : s.tables pt = some t) (hp : (t vpn).permits true = true) :
    ∃ r, s.Held r ∧ (s.pages r).Framed ∧ (t vpn).ppage = (s.pages r).ppn := by
  rw [h.coherent ht, State.pteFor] at hp ⊢
  cases hs : s.slot pt vpn with
  | none =>
    rw [hs] at hp
    cases hp
  | some r =>
    rw [hs] at hp
    have hr : s.Held r := .inl ⟨pt, vpn, hs⟩
    obtain ⟨-, -, -, hppn⟩ := Flags.of_permits hp
    exact ⟨r, hr, (framed_of_permits h hr hp).1, hppn⟩

theorem Inv.framesOwned {s : State} (h : Inv none s) : FramesOwned s s.maxSize where
  queues := h.frames.queues
  isFull_iff := ⟨_, isFull_eq h.frames, decide_eq_true_iff⟩
  phys_length := h.frames.phys_length
  phys_iff p := by
    simp only [← owner_eq_some]
    exact ⟨fun ⟨r, ho⟩ => (h.frames.owner_ok ho).1, fun hp => h.frames.active_owned hp (by simp)⟩
  phys_page ho := (h.frames.owner_ok (owner_eq_some.2 ho)).2.2.2
  stored hr hres hppn := owner_eq_some.1 (h.frames.owned hr ⟨hres, hppn⟩)
  unique hr hq hrr hrq hppn heq := by
    have ho := h.frames.owned hr ⟨hrr, hppn⟩
    have ho' := h.frames.owned hq ⟨hrq, by rw [← heq]; exact hppn⟩
    rw [← heq, ho] at ho'
    exact Option.some.inj ho'
  zero_queues := ⟨fun h0 => (h.frames.free_pos h0).1 rfl, fun h0 => (h.frames.active_pos h0).1 rfl⟩
  zero_phys := by
    have hlen : 0 < s.physMemPages.length := by
      have := h.frames.phys_length
      have := h.frames.size_min
      omega
    cases h0 : s.physMemPages[0] with
    | none => rw [List.getElem?_eq_getElem hlen, h0]
    | some r =>
      have ho : s.owner 0 = some r := by rw [owner_eq_some, List.getElem?_eq_getElem hlen, h0]
      exact absurd rfl (h.frames.owner_pos ho).1
  targets e he buf hbuf := by
    obtain ⟨old, hok⟩ := h.ghost.events.of_mem he
    obtain ⟨p, hp, hlt, rfl⟩ : IsFrameAddr s.maxSize buf := by
      cases e with
      | fileRead name b buf' ok =>
        cases hbuf
        exact hok.1
      | memcpy dst src =>
        cases hbuf
        exact hok.1
      | _ => cases hbuf
    exact ⟨p, Nat.pos_of_ne_zero hp, hlt, rfl⟩
  stores ht hp := by
    obtain ⟨r, hr, hf, hppn⟩ := h.store_target ht hp
    have hpos := h.frames.owner_pos (h.frames.owned hr hf)
    rw [hppn]
    exact ⟨Nat.pos_of_ne_zero hpos.1, hpos.2⟩
  zero_bytes i hi := by
    have hz := congrFun h.contents.zero ⟨i, hi⟩
    rw [State.frame, Nat.zero_mul, Lib.Frames.load, Nat.zero_add] at hz
    exact hz

/-- **Frame ownership.** -/
theorem frames_owned {u : Setup} {k : Kernel} (h : (system u).Reachable k) :
    FramesOwned k.pager u.memoryPages := by
  have hs := Sound.reachable h
  rw [← hs.memory]
  exact hs.inv.framesOwned

/-- The only frame goes from one page to another, and a page of each kind waits for it. -/
theorem frames_owned_evicted : ∃ k : Kernel, Event.evicted 0 ∈ k.pager.trace ∧
    k.pager.activePages = [1] ∧ FramesOwned k.pager 2 := by
  let k := Setup.small.kernel [.create 0 1 10, .switch 1, .map nullptr 0, .map nullptr 0,
    .fault (vpnToVa 0) true, .map (vpnToVa 0) 7, .fault (vpnToVa 1) true] (by decide +kernel)
  exact ⟨k, by decide +kernel, by decide +kernel,
    frames_owned (Setup.small.kernel_reachable _ _)⟩

end VmPager
