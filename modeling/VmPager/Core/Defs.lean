import VmPager.Inv.Tables
import VmPager.Lib.SecondChance

/-!
# Paging with one kind of page

What `vm_fault` and the functions under it do to the state, with the two kinds of pages and the two
ways to their entries factored out: a page is its flags, its entries follow the flags
(`State.refresh`), and its block is `backing`. These are functions from states to states, without
assertions and without errors; `Core.Clock` and `Core.Fault` prove that on the states of the
invariant the code computes them.
-/

namespace VmPager

open Lib.Frames Lib.SecondChance

/-! ### The sweep -/

/-- The page of the frame has its referenced flag set. -/
def State.marked (s : State) (p : ℕ) : Bool :=
  match s.owner p with
  | some r => (s.pages r).referenced
  | none => false

/-- The page of the frame gets its second chance: it loses its referenced flag and its entries lose
their permissions. -/
def State.unref (s : State) (p : ℕ) : State :=
  match s.owner p with
  | some r => s.refresh r { (s.pages r).flags with referenced := false }
  | none => s

def State.unrefAll (s : State) (ps : List ℕ) : State := ps.foldl State.unref s

@[simps] def State.setActive (s : State) (ps : List ℕ) : State := { s with activePages := ps }

/-! ### Eviction -/

/-- The victim's frame is written to its block. -/
@[simps] def State.wrote (s : State) (r : PageRef) (p : ℕ) : State :=
  { s with
    writes := s.writes.tail
    disk := Function.update s.disk (s.pages r).backing.1
      (Function.update (s.disk (s.pages r).backing.1) (s.pages r).backing.2 (s.frame p))
    trace := .fileWrite (s.pages r).backing.1 (s.pages r).backing.2 (p * vmPagesize) true ::
      s.trace }

/-- The write of the victim's frame fails. -/
@[simps] def State.writeFailed (s : State) (r : PageRef) (p : ℕ) : State :=
  { s with
    writes := s.writes.tail
    trace := .fileWrite (s.pages r).backing.1 (s.pages r).backing.2 (p * vmPagesize) false ::
      s.trace }

/-- The victim leaves its frame. -/
@[simps] def State.dropPage (s : State) (r : PageRef) (p : ℕ) : State :=
  { s.refresh r .out with
    physMemPages := s.physMemPages.set p none
    trace := .evicted r :: s.trace }

/-- Evict the page of the frame: the frame, or 0 when the page cannot be written back. -/
def State.evictFrom (s : State) (p : ℕ) : ℕ × State :=
  match s.owner p with
  | none => (0, s)
  | some r =>
    if (s.pages r).dirty then
      if s.writes.head then (p, (s.wrote r p).dropPage r p) else (0, s.writeFailed r p)
    else
      (p, s.dropPage r p)

/-- The frame at the front of the free queue becomes active. -/
@[simps] def State.takeFree (s : State) (p : ℕ) (rest : List ℕ) : State :=
  { s with freePages := rest, activePages := s.activePages ++ [p] }

/-- The state after the sweep, with the victim at the back of the queue. -/
def State.swept (s : State) (v : ℕ) (passed rest : List ℕ) : State :=
  (s.unrefAll passed).setActive (rest ++ [v])

/-- A free frame, or that of a victim; 0 when there is none. -/
def State.takeFrame (s : State) : ℕ × State :=
  match s.freePages with
  | p :: rest => (p, s.takeFree p rest)
  | [] =>
    match sweep (s.activePages.length + 1) s.marked s.activePages with
    | some (v, passed, rest) => (s.swept v passed rest).evictFrom v
    | none => (0, s)

/-! ### Bringing a page in -/

/-- The block is read into the frame. -/
@[simps] def State.readInto (s : State) (backing : Option Name × ℕ) (p : ℕ) : State :=
  { s with
    reads := s.reads.tail
    physmem := store s.physmem (p * vmPagesize) (s.disk backing.1 backing.2)
    trace := .fileRead backing.1 backing.2 (p * vmPagesize) true :: s.trace }

/-- The read fails, leaves some bytes in the frame, and the frame becomes free. -/
@[simps] def State.readFailed (s : State) (backing : Option Name × ℕ) (p : ℕ) (left : Page) : State :=
  { s with
    reads := s.reads.tail
    physmem := store s.physmem (p * vmPagesize) left
    trace := .fileRead backing.1 backing.2 (p * vmPagesize) false :: s.trace
    activePages := s.activePages.erase p
    freePages := s.freePages ++ [p]
    physMemPages := s.physMemPages.set p none }

/-- A frame with the block read into it; 0 when there is no frame or the read fails. -/
def State.loadBlock (s : State) (backing : Option Name × ℕ) : ℕ × State :=
  if s.takeFrame.1 = 0 then
    (0, s.takeFrame.2)
  else
    match s.takeFrame.2.reads.head with
    | .success => (s.takeFrame.1, s.takeFrame.2.readInto backing s.takeFrame.1)
    | .failure left => (0, s.takeFrame.2.readFailed backing s.takeFrame.1 left)

/-- The zero page is copied into the frame. -/
@[simps] def State.zeroFrame (s : State) (p : ℕ) : State :=
  { s with
    physmem := store s.physmem (p * vmPagesize) (s.frame 0)
    trace := .memcpy (p * vmPagesize) 0 :: s.trace }

/-- The frame is given to the page, and the fault on it is resolved. -/
@[simps] def State.fill (s : State) (r : PageRef) (p : ℕ) (dirty write : Bool) : State :=
  { s.refresh r ⟨p, true, true, dirty⟩ with
    physMemPages := s.physMemPages.set p (some r)
    trace := .faulted r write :: s.trace }

/-- A fault on a page with a frame is resolved. -/
@[simps] def State.touch (s : State) (r : PageRef) (write : Bool) : State :=
  { s.refresh r ⟨(s.pages r).ppn, true, true, (s.pages r).dirty || write⟩ with
    trace := .faulted r write :: s.trace }

/-- A fault on a page: 0 when it is resolved. A resident page without a frame is fresh, and faults
for stores only. -/
def State.faultPage (s : State) (r : PageRef) (write : Bool) : ℤ × State :=
  if (s.pages r).resident then
    if (s.pages r).ppn = 0 then
      if s.takeFrame.1 = 0 then
        (-1, s.takeFrame.2)
      else
        (0, (s.takeFrame.2.zeroFrame s.takeFrame.1).fill r s.takeFrame.1 true write)
    else
      (0, s.touch r write)
  else
    if (s.loadBlock (s.pages r).backing).1 = 0 then
      (-1, (s.loadBlock (s.pages r).backing).2)
    else
      (0, (s.loadBlock (s.pages r).backing).2.fill r (s.loadBlock (s.pages r).backing).1 write write)

end VmPager
