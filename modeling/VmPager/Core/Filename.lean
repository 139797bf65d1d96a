import VmPager.Core.Fault
import VmPager.Core.Address
import VmPager.Core.Outcome
import VmPager.Core.Scan

/-!
# The string that `get_filename` reads

The string is read out of frames while faults move pages in and out of them. No fault changes the
bytes of a page, so what is read is the string that the pages of the arena spell at the time of the
call (`getFilename_spec`), whatever the faults do.
-/

namespace VmPager

open Lib.Exec Lib.Frames

/-! ### The bytes of the arena -/

/-- The bytes of the arena of the current process from an offset of a page on, as its pages have
them. -/
def State.arenaBytes (s : State) (vpn offset : ℕ) : List UInt8 :=
  (((s.arenas s.pageTableBaseRegister).drop vpn).flatMap fun r => List.ofFn (s.content r)).drop offset

lemma arenaBytes_of_slot {s : State} {vpn offset : ℕ} {r : PageRef}
    (hs : s.slot s.pageTableBaseRegister vpn = some r) (ho : offset ≤ vmPagesize) :
    s.arenaBytes vpn offset = bytesFrom (s.content r) offset ++ s.arenaBytes (vpn + 1) 0 := by
  obtain ⟨hlt, hget⟩ := List.getElem?_eq_some_iff.1 hs
  unfold State.arenaBytes bytesFrom
  rw [List.drop_eq_getElem_cons hlt, hget, List.flatMap_cons,
    List.drop_append_of_le_length (by rw [List.length_ofFn]; exact ho), List.drop_zero]

lemma arenaBytes_of_none {s : State} {vpn : ℕ} (offset : ℕ)
    (hs : (s.arenas s.pageTableBaseRegister).length ≤ vpn) : s.arenaBytes vpn offset = [] := by
  unfold State.arenaBytes
  rw [List.drop_eq_nil_of_le hs, List.flatMap_nil, List.drop_nil]

/-- **Faults do not change the bytes of the arena.** -/
lemma Evolves.arenaBytes {s s' : State} (h : Evolves s s') (vpn offset : ℕ) :
    s'.arenaBytes vpn offset = s.arenaBytes vpn offset := by
  unfold State.arenaBytes
  rw [h.layout.arenas, h.layout.ptbr, List.flatMap_def, List.flatMap_def]
  refine congrArg (List.drop offset) (congrArg List.flatten (List.map_congr_left fun r hr => ?_))
  obtain ⟨i, hi⟩ := List.mem_iff_getElem?.1 (List.mem_of_mem_drop hr)
  rw [h.content (.inl ⟨_, i, hi⟩)]

/-! ### A page of the string is brought in -/

/-- The events of a part of a run, in which some disk call failed when `failed` holds and none
else. -/
def Happened (s s' : State) (failed : Prop) : Prop :=
  ∃ new, s'.trace = new ++ s.trace ∧ (failed ↔ ∃ e ∈ new, e.failed = true)

lemma Happened.refl (s : State) : Happened s s False := ⟨[], rfl, by simp⟩

lemma Happened.trans {s s' s'' : State} {P Q : Prop} (h : Happened s s' P) (h' : Happened s' s'' Q) :
    Happened s s'' (P ∨ Q) := by
  obtain ⟨new, ht, hf⟩ := h
  obtain ⟨new', ht', hf'⟩ := h'
  refine ⟨new' ++ new, by rw [ht', ht, List.append_assoc], ?_⟩
  rw [hf, hf']
  simp only [List.mem_append, or_and_right, exists_or, or_comm]

/-- What is known when the page of the string is in memory, or cannot be brought in. -/
structure BroughtIn (s : State) (r : PageRef) (res : ℤ) (s' : State) : Prop where
  inv : Inv none s'
  evolves : Evolves s s'
  happened : Happened s s' (res = -1)
  resident : res ≠ -1 → (s'.pages r).resident = true

theorem bringIn_spec {s : State} (h : Inv none s) {faultVa : BitVec 64} {r : PageRef}
    (hbase : ¬ faultVa < vmArenaBaseaddr)
    (hs : s.slot s.pageTableBaseRegister (vaToVpn faultVa) = some r) :
    Returns (if (s.currentPte (vaToVpn faultVa)).readEnable = false then vmFault faultVa false
      else pure 0) s (BroughtIn s r) := by
  have hr : s.Held r := .inl ⟨_, _, hs⟩
  obtain ⟨hpte, -⟩ := currentPte_eq h hs
  by_cases hread : (s.currentPte (vaToVpn faultVa)).readEnable = false
  · rw [if_pos hread]
    have hden : (s.currentPte (vaToVpn faultVa)).permits false = false := hread
    refine Returns.of_eq (vmFault_eq h hbase hs hden) ?_
    -- a fresh page can be read without a fault
    have hfresh : (s.pages r).resident = true → (s.pages r).ppn = 0 → false = true := by
      intro hres h0
      have href := ((h.frames.flags_ok hr).fresh hres h0).2.1
      rw [hpte, pte_referenced hres href] at hread
      cases hread
    obtain ⟨hinv, hev⟩ := h.faultPage hr hfresh
    obtain ⟨href, hres, new, hl⟩ := faultPage_outcome h (r := r) false
    exact ⟨hinv, hev, ⟨new, hl.trace, href.trans hl.failed_iff⟩, fun hne => (hres hne).2.framed.1⟩
  · rw [if_neg hread]
    refine Returns.of_eq rfl ⟨h, Evolves.refl s, ?_, fun _ => ?_⟩
    · have := Happened.refl s
      simpa using this
    · by_contra hres
      rw [hpte, pte_out (Bool.eq_false_of_not_eq_true hres)] at hread
      exact hread rfl

/-! ### The loop over the pages -/

/-- What `get_filename` comes to, `str` being what was read before: the string up to the first NUL,
or no string, when there is no NUL or a disk call failed. -/
structure NameRead (s : State) (vpn offset : ℕ) (str : Name) (res : Option Name) (s' : State) :
    Prop where
  inv : Inv none s'
  evolves : Evolves s s'
  happened : ∃ failed, Happened s s' failed ∧
    (∀ n, res = some n → ¬ failed ∧ 0 ∈ s.arenaBytes vpn offset ∧
      n = str ++ cString (s.arenaBytes vpn offset)) ∧
    (res = none → failed ∨ 0 ∉ s.arenaBytes vpn offset)

lemma cString_append_of_nul {l : List UInt8} (h : 0 ∈ l) (l' : List UInt8) :
    cString (l ++ l') = cString l := by
  induction l with
  | nil => cases h
  | cons c l ih =>
    by_cases hc : c = 0
    · subst hc
      rfl
    · rw [List.cons_append, cString_cons hc, cString_cons hc,
        ih ((List.mem_cons.1 h).resolve_left (Ne.symm hc))]

/-- What was read and its NUL, copied by `strcpy`. -/
lemma cString_terminated {l : List UInt8} (h : 0 ∉ l) : cString (l ++ [0]) = l := by
  rw [cString_append h, cString_nul, List.append_nil]

section Turn

variable {s s₁ s₂ : State} {vpn offset : ℕ} {str : Name} {r : PageRef} {res : ℤ}

/-- The scan of a page that was brought in reads its bytes, wherever they were. -/
lemma BroughtIn.scan (h : BroughtIn s r res s₁) (hres : res ≠ -1) (hr : s.Held r)
    (ho : offset < vmPagesize) (str : Name) :
    ∃ c, scanPage (s₁.pages r).ppn offset str s₁ =
      .ok ((str ++ cString (bytesFrom (s.content r) offset), c), s₁) ∧
      (c = 0 ↔ 0 ∈ bytesFrom (s.content r) offset) := by
  have hppn : (s₁.pages r).ppn < 65535 := by
    have := h.inv.frames.size_max
    rcases h.inv.frames.ppn_cases ((h.evolves.layout.held r).2 hr) with h0 | hown
    · omega
    · have := (h.inv.frames.owner_pos hown).2
      omega
  have hframe : s₁.frame (s₁.pages r).ppn = s.content r := by
    rw [← h.evolves.content hr, State.content, if_pos (h.resident hres)]
  rw [← hframe]
  exact scanPage_eq (by omega) ho (.inl hppn) str

/-- No disk call failed while the page was brought in. -/
lemma BroughtIn.no_failure (h : BroughtIn s r res s₁) (hres : res ≠ -1) : Happened s s₁ False := by
  have hh := h.happened
  simpa [hres] using hh

/-- The string goes past the valid pages. -/
lemma NameRead.past (h : Inv none s) (hlt : (s.arenas s.pageTableBaseRegister).length ≤ vpn) :
    NameRead s vpn offset str none s := by
  refine ⟨h, Evolves.refl s, False, Happened.refl s, fun n hn => ?_, fun _ => ?_⟩
  · cases hn
  · rw [arenaBytes_of_none _ hlt]
    simp

/-- A page of the string cannot be brought in. -/
lemma NameRead.refused (h : BroughtIn s r (-1) s₁) : NameRead s vpn offset str none s₁ := by
  refine ⟨h.inv, h.evolves, _, h.happened, fun n hn => ?_, fun _ => .inl rfl⟩
  cases hn

/-- The page has the NUL of the string. -/
lemma NameRead.found (h : BroughtIn s r res s₁) (hres : res ≠ -1)
    (hs : s.slot s.pageTableBaseRegister vpn = some r) (ho : offset < vmPagesize) (hstr : 0 ∉ str)
    (hnul : 0 ∈ bytesFrom (s.content r) offset) :
    NameRead s vpn offset str
      (some (cString (str ++ cString (bytesFrom (s.content r) offset) ++ [0]))) s₁ := by
  have hstr' : 0 ∉ str ++ cString (bytesFrom (s.content r) offset) := by
    rw [List.mem_append, not_or]
    exact ⟨hstr, nul_not_mem_cString _⟩
  refine ⟨h.inv, h.evolves, False, h.no_failure hres, fun n hn => ?_, fun hn => ?_⟩
  · obtain rfl := Option.some.inj hn
    rw [arenaBytes_of_slot hs ho.le]
    refine ⟨id, List.mem_append_left _ hnul, ?_⟩
    rw [cString_append_of_nul hnul, cString_terminated hstr']
  · cases hn

/-- The string goes on in the next page. -/
lemma NameRead.next (h : BroughtIn s r res s₁) (hres : res ≠ -1)
    (hs : s.slot s.pageTableBaseRegister vpn = some r) (ho : offset < vmPagesize)
    (hnul : 0 ∉ bytesFrom (s.content r) offset) {name : Option Name}
    (hrest : NameRead s₁ (vpn + 1) 0 (str ++ bytesFrom (s.content r) offset) name s₂) :
    NameRead s vpn offset str name s₂ := by
  obtain ⟨failed, hhap, hsome, hnone⟩ := hrest.happened
  have hbytes := arenaBytes_of_slot hs ho.le
  have hsame := h.evolves.arenaBytes (vpn + 1) 0
  have hmem : 0 ∈ s.arenaBytes vpn offset ↔ 0 ∈ s₁.arenaBytes (vpn + 1) 0 := by
    rw [hbytes, hsame, List.mem_append, or_iff_right hnul]
  refine ⟨hrest.inv, h.evolves.trans hrest.evolves, failed, ?_, fun n hn => ?_, fun hn => ?_⟩
  · have hh := (h.no_failure hres).trans hhap
    simpa using hh
  · obtain ⟨hf, hm, rfl⟩ := hsome n hn
    refine ⟨hf, hmem.2 hm, ?_⟩
    rw [hbytes, hsame, cString_append hnul, List.append_assoc]
  · rw [hmem]
    exact hnone hn

end Turn

/-- **The outer loop**, from any page of the string on. -/
theorem getFilenameLoop_spec {va : BitVec 64} (hva : va.slt vmArenaBaseaddr = false) :
    ∀ (fuel : ℕ) {s : State} {faultVa : BitVec 64} {vpn offset : ℕ} {str : Name}, Inv none s →
      ¬ faultVa < vmArenaBaseaddr → vaToVpn faultVa = vpn → offset < vmPagesize → 0 ∉ str →
      0 < fuel → (s.arenas s.pageTableBaseRegister).length < vpn + fuel →
      Returns (getFilenameLoop va fuel faultVa vpn offset str) s (NameRead s vpn offset str) := by
  intro fuel
  induction fuel with
  | zero => intro s faultVa vpn offset str _ _ _ _ _ h0 _; exact absurd h0 (lt_irrefl 0)
  | succ fuel ih =>
    intro s faultVa vpn offset str h hbase hvpn ho hstr _ hfuel
    have hlen := h.layout.arena_le s.pageTableBaseRegister
    have hn : numPtes = 256 := rfl
    by_cases hlt : (s.arenas s.pageTableBaseRegister).length ≤ vpn
    · refine ⟨none, s, ?_, NameRead.past h hlt⟩
      simp only [getFilenameLoop, bind_apply, lowestInvalidVpn_eq h, ok_bind, hlt, or_true,
        exec_ite, if_true, pure_apply]
    · obtain ⟨r, hs⟩ : ∃ r, s.slot s.pageTableBaseRegister vpn = some r :=
        ⟨_, List.getElem?_eq_getElem (Nat.not_le.1 hlt)⟩
      obtain ⟨-, hread⟩ := currentPte_eq h hs
      obtain ⟨res, s₁, hrun, hin⟩ := bringIn_spec h hbase (by rw [hvpn]; exact hs)
      rw [hvpn, exec_ite] at hrun
      have hs₁ : s₁.slot s₁.pageTableBaseRegister vpn = some r := by
        rw [hin.evolves.layout.ptbr, hin.evolves.layout.slot]
        exact hs
      have hinvalid : ¬ (va.slt vmArenaBaseaddr = true ∨
          (s.arenas s.pageTableBaseRegister).length ≤ vpn) := by
        rw [hva]
        simpa using hlt
      simp only [Returns, getFilenameLoop, bind_apply, lowestInvalidVpn_eq h, ok_bind, exec_ite,
        hinvalid, if_false, get_apply, hread, ite_bind, hrun]
      by_cases hres : res = -1
      · subst hres
        rw [if_pos rfl]
        exact ⟨none, s₁, rfl, NameRead.refused hin⟩
      · obtain ⟨c, hscan, hc⟩ := hin.scan hres (.inl ⟨_, _, hs⟩) ho str
        simp only [hres, if_false, arenaPage_eq hs₁, getPage_eq, ok_bind, hscan]
        by_cases h0 : c = 0
        · rw [if_pos h0]
          exact ⟨_, s₁, rfl, NameRead.found hin hres hs ho hstr (hc.1 h0)⟩
        · have hnul : 0 ∉ bytesFrom (s.content r) offset := fun hm => h0 (hc.2 hm)
          have hnext : (vpn + 1) % 2 ^ 32 = vpn + 1 := Nat.mod_eq_of_lt (by omega)
          have hsmall : vpn + 1 < 2 ^ 32 := by omega
          have hstr' : 0 ∉ str ++ bytesFrom (s.content r) offset := by
            rw [List.mem_append, not_or]
            exact ⟨hstr, hnul⟩
          have harena : (s₁.arenas s₁.pageTableBaseRegister).length =
              (s.arenas s.pageTableBaseRegister).length := by
            rw [hin.evolves.layout.arenas, hin.evolves.layout.ptbr]
          obtain ⟨name, s₂, hrun', hname⟩ := ih hin.inv (not_vpnToVa_lt hsmall)
            (vaToVpn_vpnToVa hsmall) vmPagesize_pos hstr' (by omega) (by omega)
          rw [if_neg h0, cString_eq_self hnul, hnext]
          exact ⟨name, s₂, hrun', NameRead.next hin hres hs ho hnul hname⟩

/-- **`get_filename` refuses** an address below the arena or past its valid pages. -/
theorem getFilename_invalid {s : State} (h : Inv none s) {va : BitVec 64}
    (hbad : va.slt vmArenaBaseaddr = true ∨
      (s.arenas s.pageTableBaseRegister).length ≤ vaToVpn va) :
    getFilename va s = .ok (none, s) := by
  have hfuel : loopBound = (2 ^ 32 - 1) + 1 := rfl
  rw [getFilename, hfuel, getFilenameLoop]
  simp only [bind_apply, lowestInvalidVpn_eq h, ok_bind, exec_ite, hbad, if_true, pure_apply]

/-- **What `get_filename` comes to.** Below the arena there is no string. -/
theorem getFilename_spec {s : State} (h : Inv none s) (va : BitVec 64) :
    Returns (getFilename va) s fun res s' =>
      (va.slt vmArenaBaseaddr = true ∧ res = none ∧ s' = s) ∨
      (va.slt vmArenaBaseaddr = false ∧
        NameRead s (vaToVpn va) (va.toNat % vmPagesize) [] res s') := by
  have hlen := h.layout.arena_le s.pageTableBaseRegister
  have hn : numPtes = 256 := rfl
  have hb : loopBound = 4294967296 := rfl
  cases hva : va.slt vmArenaBaseaddr with
  | true => exact ⟨none, s, getFilename_invalid h (.inl hva), .inl ⟨rfl, rfl, rfl⟩⟩
  | false =>
    refine Returns.mono ?_ fun res s' hr => .inr ⟨rfl, hr⟩
    exact getFilenameLoop_spec hva loopBound h (not_lt_of_not_slt hva) rfl
      (Nat.mod_lt _ (by decide)) (by simp) (by rw [hb]; norm_num) (by omega)

end VmPager
