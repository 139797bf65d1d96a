import VmPager.Core.FrameAddress
import VmPager.Code.Filename
import Mathlib.Data.List.TakeWhile

/-!
# The scan of one page

The inner loop of `get_filename` reads from a cursor up to the last address of the frame. The cursor
is an `unsigned int` that is incremented before it is compared: past the last address of the frame
65535 it is 0 again, so that there, and only there, a page without a NUL is not the end of the scan.
-/

namespace VmPager

open Lib.Exec Lib.Frames

/-! ### Strings -/

lemma cString_nul (l : List UInt8) : cString (0 :: l) = [] := rfl

lemma cString_cons {c : UInt8} (hc : c ≠ 0) (l : List UInt8) : cString (c :: l) = c :: cString l := by
  simp [cString, hc]

lemma cString_append {l : List UInt8} (h : 0 ∉ l) (l' : List UInt8) :
    cString (l ++ l') = l ++ cString l' := by
  induction l with
  | nil => rfl
  | cons c l ih =>
    obtain ⟨hc, hl⟩ : c ≠ 0 ∧ 0 ∉ l := by simpa [eq_comm] using h
    rw [List.cons_append, cString_cons hc, ih hl, List.cons_append]

lemma cString_eq_self {l : List UInt8} (h : 0 ∉ l) : cString l = l := by
  simpa [cString] using cString_append h []

lemma nul_not_mem_cString (l : List UInt8) : 0 ∉ cString l := by
  intro h
  simpa using List.mem_takeWhile_imp h

/-! ### The inner loop -/

/-- The `k` bytes from `cur` on. -/
def bytesAt (mem : ℕ → UInt8) (cur k : ℕ) : List UInt8 := (List.range' cur k).map mem

lemma bytesAt_succ (mem : ℕ → UInt8) (cur k : ℕ) :
    bytesAt mem cur (k + 1) = mem cur :: bytesAt mem (cur + 1) k := by
  rw [bytesAt, List.range'_succ, List.map_cons]
  rfl

/-- The `k` bytes have a NUL, or the cursor that gets past them is not 0 again. -/
def Halts (mem : ℕ → UInt8) (last cur k : ℕ) : Prop := last + 1 < 2 ^ 32 ∨ 0 ∈ bytesAt mem cur k

/-- A byte that is not NUL is followed by the next address. -/
lemma Halts.next {mem : ℕ → UInt8} {last cur k : ℕ} (h : Halts mem last cur (k + 1))
    (hlast : last < 2 ^ 32) (hk : cur + (k + 1) = last + 1) (hc : mem cur ≠ 0) :
    (cur + 1) % 2 ^ 32 = cur + 1 ∧ Halts mem last (cur + 1) k := by
  have hrest : Halts mem last (cur + 1) k := by
    refine h.imp id fun hmem => ?_
    rw [bytesAt_succ, List.mem_cons] at hmem
    exact hmem.resolve_left (Ne.symm hc)
  refine ⟨Nat.mod_eq_of_lt ?_, hrest⟩
  rcases hrest with hlt | hmem
  · omega
  · have hpos : k ≠ 0 := by
      rintro rfl
      cases hmem
    omega

/-- **The inner loop** reads up to the first NUL of the `k` bytes from `cur` to `last`; the character
it stops at is NUL when there is one. -/
theorem readChars_eq (mem : ℕ → UInt8) {last : ℕ} (hlast : last < 2 ^ 32) :
    ∀ (k fuel cur : ℕ) (c : UInt8) (str : Name), cur + k = last + 1 → Halts mem last cur k →
      (cur ≤ last → c = mem cur) → k < fuel → ∃ c', readChars mem last fuel cur c str =
        some (str ++ cString (bytesAt mem cur k), c') ∧
        (c' = 0 ↔ 0 ∈ bytesAt mem cur k ∨ k = 0 ∧ c = 0) := by
  intro k
  induction k with
  | zero =>
    intro fuel cur c str hk _ _ hf
    obtain ⟨fuel, rfl⟩ : ∃ n, fuel = n + 1 := ⟨fuel - 1, by omega⟩
    refine ⟨c, ?_, by simp [bytesAt]⟩
    have hstop : ¬ (cur ≤ last ∧ c ≠ 0) := by omega
    simp [readChars, hstop, cString, bytesAt]
  | succ k ih =>
    intro fuel cur c str hk hh hc hf
    obtain ⟨fuel, rfl⟩ : ∃ n, fuel = n + 1 := ⟨fuel - 1, by omega⟩
    have hcur : cur ≤ last := by omega
    obtain rfl := hc hcur
    rw [bytesAt_succ]
    by_cases h0 : mem cur = 0
    · refine ⟨0, ?_, by simp [h0]⟩
      rw [readChars, if_neg (by simp [h0]), h0, cString_nul, List.append_nil]
    · obtain ⟨hnext, hrest⟩ := hh.next hlast hk h0
      obtain ⟨c', hread, hiff⟩ := ih fuel (cur + 1)
        (if cur + 1 ≤ last then mem (cur + 1) else mem cur) (str ++ [mem cur]) (by omega) hrest
        (fun hle => if_pos hle) (by omega)
      refine ⟨c', ?_, ?_⟩
      · rw [readChars, if_pos ⟨hcur, h0⟩]
        dsimp only
        rw [hnext, hread, cString_cons h0, List.append_assoc, List.singleton_append]
      · -- past the last byte the character is the one before, which is not NUL
        have hend : ¬ (k = 0 ∧ (if cur + 1 ≤ last then mem (cur + 1) else mem cur) = 0) := by
          rintro ⟨rfl, hz⟩
          rw [if_neg (by omega)] at hz
          exact h0 hz
        rw [hiff, or_iff_left hend, or_iff_left (by simp), List.mem_cons, or_iff_right (Ne.symm h0)]

/-- A loop whose cursor is never past the last address stops at a NUL only. -/
theorem readChars_top (mem : ℕ → UInt8) : ∀ (fuel cur : ℕ) (c : UInt8) (str : Name) {r : Name × UInt8},
    cur < 2 ^ 32 → readChars mem (2 ^ 32 - 1) fuel cur c str = some r → r.2 = 0 := by
  intro fuel
  induction fuel with
  | zero =>
    intro cur c str r _ hr
    cases hr
  | succ fuel ih =>
    intro cur c str r hcur hr
    rw [readChars] at hr
    split at hr
    · exact ih _ _ _ (Nat.mod_lt _ (by norm_num)) hr
    · rename_i hstop
      cases hr
      have hle : cur ≤ 2 ^ 32 - 1 := by omega
      by_contra h0
      exact hstop ⟨hle, h0⟩

/-! ### The addresses that are read -/

/-- The addresses that the turns of the inner loop read. -/
def charReads (mem : ℕ → UInt8) (last : ℕ) : ℕ → ℕ → UInt8 → List ℕ
  | 0, _, _ => []
  | fuel + 1, curAddr, curChar =>
    if curAddr ≤ last ∧ curChar ≠ 0 then
      let curAddr' := (curAddr + 1) % 2 ^ 32
      if curAddr' ≤ last then curAddr' :: charReads mem last fuel curAddr' (mem curAddr')
      else charReads mem last fuel curAddr' curChar
    else
      []

/-- **The loop depends on these addresses only.** -/
theorem readChars_congr {mem mem' : ℕ → UInt8} {last : ℕ} :
    ∀ (fuel cur : ℕ) (c : UInt8) (str : Name),
      (∀ a ∈ charReads mem last fuel cur c, mem' a = mem a) →
        readChars mem' last fuel cur c str = readChars mem last fuel cur c str := by
  intro fuel
  induction fuel with
  | zero => intro cur c str _; rfl
  | succ fuel ih =>
    intro cur c str h
    rw [charReads] at h
    rw [readChars, readChars]
    by_cases hgo : cur ≤ last ∧ c ≠ 0
    · simp only [hgo, ne_eq, not_false_eq_true, and_self, if_true] at h ⊢
      by_cases hle : (cur + 1) % 2 ^ 32 ≤ last
      · simp only [hle, if_true, List.mem_cons, forall_eq_or_imp] at h ⊢
        rw [h.1]
        exact ih _ _ _ h.2
      · simp only [hle, if_false] at h ⊢
        exact ih _ _ _ h
    · rw [if_neg hgo, if_neg hgo]

/-- A loop that is over reads nothing. -/
lemma charReads_done {mem : ℕ → UInt8} {last cur : ℕ} {c : UInt8} (hstop : ¬ (cur ≤ last ∧ c ≠ 0))
    (fuel : ℕ) : charReads mem last fuel cur c = [] := by
  cases fuel with
  | zero => rfl
  | succ fuel => rw [charReads, if_neg hstop]

/-- They are after the cursor and up to `last`. -/
theorem charReads_inside (mem : ℕ → UInt8) {last : ℕ} (hlast : last < 2 ^ 32) :
    ∀ (k fuel cur : ℕ), cur + k = last + 1 → Halts mem last cur k →
      ∀ a ∈ charReads mem last fuel cur (mem cur), cur < a ∧ a ≤ last := by
  intro k
  induction k with
  | zero =>
    intro fuel cur hk _ a ha
    have hstop : ¬ (cur ≤ last ∧ mem cur ≠ 0) := by omega
    rw [charReads_done hstop] at ha
    cases ha
  | succ k ih =>
    intro fuel cur hk hh a ha
    cases fuel with
    | zero => cases ha
    | succ fuel =>
      have hcur : cur ≤ last := by omega
      by_cases h0 : mem cur = 0
      · rw [charReads_done (by simp [h0])] at ha
        cases ha
      · obtain ⟨hnext, hrest⟩ := hh.next hlast hk h0
        rw [charReads, if_pos ⟨hcur, h0⟩] at ha
        dsimp only at ha
        rw [hnext] at ha
        by_cases hle : cur + 1 ≤ last
        · rw [if_pos hle, List.mem_cons] at ha
          rcases ha with rfl | ha
          · exact ⟨Nat.lt_succ_self cur, hle⟩
          · obtain ⟨hlt, hlast'⟩ := ih fuel (cur + 1) (by omega) hrest a ha
            exact ⟨by omega, hlast'⟩
        · -- the cursor is past `last`, and the loop ends
          rw [if_neg hle, charReads_done fun hand => hle hand.1] at ha
          cases ha

/-! ### The scan of a frame -/

/-- The bytes of a page from an offset on. -/
def bytesFrom (page : Page) (offset : ℕ) : List UInt8 := (List.ofFn page).drop offset

lemma bytesAt_eq_bytesFrom (s : State) (ppn offset : ℕ) :
    bytesAt s.physmem (ppn * vmPagesize + offset) (vmPagesize - offset) =
      bytesFrom (s.frame ppn) offset := by
  apply List.ext_getElem
  · simp [bytesAt, bytesFrom]
  · intro i h1 h2
    simp [bytesAt, bytesFrom, State.frame, load, Nat.add_assoc]

/-- The addresses that the scan of a frame reads in `fuel` turns. -/
def scanReads (s : State) (ppn offset fuel : ℕ) : List ℕ :=
  let curAddr := cursorStart ppn offset
  curAddr :: charReads s.physmem (lastAddrInPpn ppn) fuel curAddr (s.physmem curAddr)

lemma scanPage_of_readChars {s : State} {ppn offset : ℕ} {str : Name} {o : Option (Name × UInt8)}
    (h : readChars s.physmem (lastAddrInPpn ppn) (loopBound + 1) (cursorStart ppn offset)
      (s.physmem (cursorStart ppn offset)) str = o) :
    scanPage ppn offset str s = o.elim (.error .diverged) fun r => .ok (r, s) := by
  rw [cursorStart] at h
  simp only [scanPage, bind_apply, get_apply, ok_bind, h]
  cases o <;> rfl

/-- **The scan depends on these addresses only.** -/
theorem scanPage_congr {s s' : State} {ppn offset : ℕ}
    (h : ∀ a ∈ scanReads s ppn offset (loopBound + 1), s'.physmem a = s.physmem a) (str : Name) :
    (scanPage ppn offset str s').map Prod.fst = (scanPage ppn offset str s).map Prod.fst := by
  obtain ⟨hfirst, hrest⟩ := List.forall_mem_cons.1 h
  have hread := readChars_congr (loopBound + 1) (cursorStart ppn offset)
    (s.physmem (cursorStart ppn offset)) str hrest
  rw [← hfirst] at hread
  rw [scanPage_of_readChars hread, hfirst, scanPage_of_readChars rfl]
  cases readChars s.physmem (lastAddrInPpn ppn) (loopBound + 1) (cursorStart ppn offset)
    (s.physmem (cursorStart ppn offset)) str <;> rfl

section Frame

variable {s : State} {ppn offset : ℕ}

/-- The scan of a frame halts when a byte of it is NUL or it is not the frame 65535. -/
lemma halts_frame (hend : ppn < 65535 ∨ 0 ∈ bytesFrom (s.frame ppn) offset) :
    Halts s.physmem (lastAddrInPpn ppn) (ppn * vmPagesize + offset) (vmPagesize - offset) := by
  rw [Halts, bytesAt_eq_bytesFrom]
  refine hend.imp_left fun hp => ?_
  have hv : vmPagesize = 65536 := rfl
  rw [lastAddrInPpn_eq (by omega), hv]
  omega

lemma lastAddrInPpn_lt (ppn : ℕ) : lastAddrInPpn ppn < 2 ^ 32 := Nat.mod_lt _ (by norm_num)

/-- **The scan of a page.** -/
theorem scanPage_eq (hp : ppn < 65536) (ho : offset < vmPagesize)
    (hend : ppn < 65535 ∨ 0 ∈ bytesFrom (s.frame ppn) offset) (str : Name) :
    ∃ c, scanPage ppn offset str s =
      .ok ((str ++ cString (bytesFrom (s.frame ppn) offset), c), s) ∧
      (c = 0 ↔ 0 ∈ bytesFrom (s.frame ppn) offset) := by
  have hv : vmPagesize = 65536 := rfl
  have hlast := lastAddrInPpn_eq hp
  obtain ⟨c, hread, hiff⟩ := readChars_eq s.physmem (lastAddrInPpn_lt ppn) (vmPagesize - offset)
    (loopBound + 1) (ppn * vmPagesize + offset) (s.physmem (ppn * vmPagesize + offset)) str
    (by omega) (halts_frame hend) (fun _ => rfl) (by rw [loopBound, hv]; omega)
  rw [bytesAt_eq_bytesFrom] at hread hiff
  rw [← cursorStart_eq hp ho] at hread
  refine ⟨c, scanPage_of_readChars hread, ?_⟩
  rw [hiff, or_iff_left]
  exact fun hzero => absurd hzero.1 (Nat.sub_ne_zero_of_lt ho)

/-- It reads no other frame. -/
theorem scanReads_inside (hp : ppn < 65536) (ho : offset < vmPagesize)
    (hend : ppn < 65535 ∨ 0 ∈ bytesFrom (s.frame ppn) offset) (fuel : ℕ) :
    ∀ a ∈ scanReads s ppn offset fuel,
      ppn * vmPagesize + offset ≤ a ∧ a < ppn * vmPagesize + vmPagesize := by
  have hlast := lastAddrInPpn_eq hp
  unfold scanReads
  rw [cursorStart_eq hp ho]
  refine List.forall_mem_cons.2 ⟨⟨le_rfl, Nat.add_lt_add_left ho _⟩, fun a ha => ?_⟩
  obtain ⟨hlt, hle⟩ := charReads_inside s.physmem (lastAddrInPpn_lt ppn) (vmPagesize - offset) fuel
    (ppn * vmPagesize + offset) (by omega) (halts_frame hend) a ha
  exact ⟨hlt.le, by omega⟩

/-- In the frame 65535 the scan returns at a NUL only. -/
lemma nul_of_scanPage_top {str : Name} {r : Name × UInt8} {s' : State}
    (h : scanPage 65535 offset str s = .ok (r, s')) : r.2 = 0 := by
  rw [scanPage_of_readChars rfl] at h
  cases hread : readChars s.physmem (lastAddrInPpn 65535) (loopBound + 1)
      (cursorStart 65535 offset) (s.physmem (cursorStart 65535 offset)) str with
  | none =>
    rw [hread] at h
    cases h
  | some r' =>
    rw [hread] at h
    cases h
    exact readChars_top s.physmem _ _ _ _ (Nat.mod_lt _ (by norm_num)) hread

end Frame

/-- The scan of the frame from the offset stays in it and ends, at its first NUL or at its end. -/
structure ScansFrame (s : State) (ppn offset : ℕ) : Prop where
  ends : ∀ str, ∃ c, scanPage ppn offset str s =
    .ok ((str ++ cString (bytesFrom (s.frame ppn) offset), c), s) ∧
    (c = 0 ↔ 0 ∈ bytesFrom (s.frame ppn) offset)
  inside : ∀ fuel, ∀ a ∈ scanReads s ppn offset fuel,
    ppn * vmPagesize + offset ≤ a ∧ a < ppn * vmPagesize + vmPagesize

/-- **Which scans stay in their frame.** -/
theorem scans_frame_iff (s : State) {ppn offset : ℕ} (hp : ppn < 65536) (ho : offset < vmPagesize) :
    ScansFrame s ppn offset ↔ ppn < 65535 ∨ 0 ∈ bytesFrom (s.frame ppn) offset := by
  constructor
  · intro h
    by_cases hlt : ppn < 65535
    · exact .inl hlt
    · right
      obtain rfl : ppn = 65535 := by omega
      obtain ⟨c, hrun, hc⟩ := h.ends []
      exact hc.1 (nul_of_scanPage_top hrun)
  · intro hend
    exact ⟨scanPage_eq hp ho hend, scanReads_inside hp ho hend⟩

/-- A machine in whose memory every frame but the zero frame is full. -/
def State.full : State :=
  { Setup.small.globals with physmem := fun a => if a < vmPagesize then 0 else 97 }

/-- The scan of a full frame ends with it. -/
theorem scans_frame_iff_full : ScansFrame .full 65534 0 :=
  (scans_frame_iff .full (by norm_num) (by decide)).2 (.inl (by norm_num))

/-- Past the last byte of the frame 65535 the scan goes on in the zero frame, whose NUL it takes for
one of the page. -/
theorem scan_wraps : scanPage 65535 65535 [] .full = .ok (([97], 0), .full) ∧
    bytesFrom (State.full.frame 65535) 65535 = [97] ∧
    0 ∈ scanReads .full 65535 65535 1 ∧ ¬ ScansFrame .full 65535 65535 := by
  have hrun : scanPage 65535 65535 [] .full = .ok (([97], 0), .full) :=
    scanPage_of_readChars (o := some ([97], 0)) (by decide +kernel)
  have hbytes : bytesFrom (State.full.frame 65535) 65535 = [97] := by
    rw [← bytesAt_eq_bytesFrom]
    decide +kernel
  refine ⟨hrun, hbytes, by decide +kernel, fun h => ?_⟩
  obtain ⟨c, hrun', hc⟩ := h.ends []
  rw [hbytes] at hrun' hc
  rw [hrun, Except.ok.injEq, Prod.mk.injEq, Prod.mk.injEq] at hrun'
  exact absurd (hc.1 hrun'.1.2.symm) (by decide)

end VmPager
