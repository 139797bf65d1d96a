import VmPager.Lib.LastWrite
import VmPager.Code.System

/-!
# The memory that the pager stands for

To the processes there are no frames, no swap file and no faults. There are logical pages: one for
each swap-backed page that is mapped, zero at first, and one for each block of a file, which starts as
the block. The arena of a process is a list of logical pages, and a load finds the byte last stored to
its page and offset, by whichever process. `Flat.next` runs this memory on the calls of a run and what
came back, and refuses a load that does not find that byte.
-/

namespace VmPager

open Lib.LastWrite

/-- A logical page. -/
inductive LogicalPage where
  /-- The swap-backed page that was mapped after `id` others. -/
  | anon (id : ℕ)
  | file (filename : Name) (block : ℕ)
  deriving DecidableEq

/-- The memory of the processes: their arenas, the process that runs, how many swap-backed pages have
been mapped, and the stores, newest first. -/
structure Flat where
  arenas : Pid → Option (List LogicalPage)
  current : Option Pid
  anons : ℕ
  stores : List ((LogicalPage × Fin vmPagesize) × UInt8)

namespace Flat

/-- What a logical page starts with, when `disk` is what the files start with. -/
def initial (disk : Option Name → ℕ → Page) : LogicalPage × Fin vmPagesize → UInt8
  | (.anon _, _) => 0
  | (.file n b, offset) => disk (some n) b offset

/-- No process, and no store yet. -/
def start : Flat := ⟨fun _ => none, none, 0, []⟩

variable (disk : Option Name → ℕ → Page) (m : Flat)

/-- The bytes of a logical page: those stored last, else those it starts with. -/
def read (L : LogicalPage) : Page := fun offset => lastWrite (initial disk) m.stores (L, offset)

/-- The arena of the process that runs. -/
def pages : List LogicalPage := (m.current.bind m.arenas).getD []

/-- The bytes of the arena from an offset of a page on. -/
def arenaBytes (vpn offset : ℕ) : List UInt8 :=
  ((m.pages.drop vpn).flatMap fun L => List.ofFn (m.read disk L)).drop offset

/-- The string at an address: the bytes up to the first NUL of the arena. -/
def string (va : BitVec 64) : Option Name :=
  if va.slt vmArenaBaseaddr = false ∧ 0 ∈ m.arenaBytes disk (vaToVpn va) (va.toNat % vmPagesize) then
    some (cString (m.arenaBytes disk (vaToVpn va) (va.toNat % vmPagesize)))
  else
    none

/-- A logical page is put at the end of the arena. -/
def push (L : LogicalPage) : Flat :=
  match m.current with
  | some pid => { m with arenas := Function.update m.arenas pid (some (m.pages ++ [L])) }
  | none => m

/-- `vm_map` has returned `va`: nothing was mapped, or a new page, or the page of the file whose name
is at the address. -/
def map (filename : BitVec 64) (block : ℕ) (va : BitVec 64) : Option Flat :=
  if va = nullptr then
    some m
  else if va ≠ vpnToVa m.pages.length then
    none
  else if filename = nullptr then
    some { m.push (.anon m.anons) with anons := m.anons + 1 }
  else
    (m.string disk filename).map fun n => m.push (.file n block)

/-- A call of a run, and what came back. -/
def next : Label → Option Flat
  | (.create _ childPid _, .code res) =>
    if res = 0 then some { m with arenas := Function.update m.arenas childPid (some []) } else some m
  | (.switch pid, .done) => some { m with current := some pid }
  | (.fault _ _, .code _) => some m
  | (.map filename block, .addr va) => m.map disk filename block va
  | (.destroy _, .done) =>
    m.current.map fun pid =>
      { m with arenas := Function.update m.arenas pid none, current := none }
  | (.load vpn offset, .byte b) =>
    m.pages[vpn]?.bind fun L => if m.read disk L offset = b then some m else none
  | (.store vpn offset b, .done) =>
    m.pages[vpn]?.map fun L => { m with stores := ((L, offset), b) :: m.stores }
  | _ => none

/-- An anonymous page is in one place of one arena. -/
def Private : Prop :=
  ∀ {pid pid' L L' id} {vpn vpn' : ℕ}, m.arenas pid = some L → m.arenas pid' = some L' →
    L[vpn]? = some (.anon id) → L'[vpn']? = some (.anon id) → pid = pid' ∧ vpn = vpn'

/-- `b` is the byte most recently stored to the page and offset, or the one the page starts with. -/
def Recent (L : LogicalPage) (offset : Fin vmPagesize) (b : UInt8) : Prop :=
  (∃ new old, m.stores = new ++ ((L, offset), b) :: old ∧ ∀ e ∈ new, e.1 ≠ (L, offset)) ∨
    ((∀ e ∈ m.stores, e.1 ≠ (L, offset)) ∧ b = initial disk (L, offset))

/-! ### Reading -/

variable {disk m}

/-- What is read is what was stored last. -/
theorem recent_read (L : LogicalPage) (offset : Fin vmPagesize) :
    m.Recent disk L offset (m.read disk L offset) :=
  lastWrite_cases

/-- A store is read at its page and offset, and nowhere else. -/
lemma read_store (L : LogicalPage) (offset : Fin vmPagesize) (b : UInt8) (L' : LogicalPage) :
    ({ m with stores := ((L, offset), b) :: m.stores } : Flat).read disk L' =
      if L' = L then Function.update (m.read disk L) offset b else m.read disk L' := by
  funext offset'
  simp only [read, lastWrite_cons]
  by_cases hL : L' = L
  · subst hL
    rw [if_pos rfl, Function.update_apply, Function.update_apply]
    simp only [Prod.mk.injEq, true_and, read]
  · rw [if_neg hL, Function.update_of_ne (by simp [hL])]
    rfl

/-- Only stores change what is read. -/
lemma read_congr {m' : Flat} (h : m'.stores = m.stores) (L : LogicalPage) :
    m'.read disk L = m.read disk L := by
  unfold read
  rw [h]

@[simp] lemma push_stores (L : LogicalPage) : (m.push L).stores = m.stores := by
  unfold push
  split <;> rfl

@[simp] lemma push_current (L : LogicalPage) : (m.push L).current = m.current := by
  unfold push
  split <;> rfl

@[simp] lemma push_anons (L : LogicalPage) : (m.push L).anons = m.anons := by
  unfold push
  split <;> rfl

lemma push_arenas {pid : Pid} (h : m.current = some pid) (L : LogicalPage) :
    (m.push L).arenas = Function.update m.arenas pid (some (m.pages ++ [L])) := by
  unfold push
  rw [h]

end Flat

end VmPager
