import VmPager.Abs.Flat
import VmPager.Code.Session

/-!
# The machine that the processes seem to have

The flat memory, and the number of swap blocks that are left, answer every request: a page is mapped
when the arena has room, there is a block for it or a name at the address, and every access to a valid
page is carried out. This machine has no frames and no disk calls that fail.

`lossy` may refuse any access and any page with a name; it counts the requests that it refuses without
a reason of the machine.
-/

namespace VmPager

open Lib.Transition

def LogicalPage.isAnon : LogicalPage → Bool
  | .anon _ => true
  | .file _ _ => false

structure Ideal where
  memory : Flat
  freeBlocks : ℕ

namespace Ideal

/-- No process, and all swap blocks free. -/
def start (swapBlocks : ℕ) : Ideal := ⟨Flat.start, swapBlocks⟩

variable (disk : Option Name → ℕ → Page) (a : Ideal)

/-- The answer to `vm_map`, and the machine after it. -/
def map (filename : BitVec 64) (block : ℕ) : Ret × Ideal :=
  if numPtes ≤ a.memory.pages.length then
    (.addr nullptr, a)
  else if filename = nullptr then
    if a.freeBlocks = 0 then
      (.addr nullptr, a)
    else
      (.addr (vpnToVa a.memory.pages.length),
        { memory := { a.memory.push (.anon a.memory.anons) with anons := a.memory.anons + 1 }
          freeBlocks := a.freeBlocks - 1 })
  else
    match a.memory.string disk filename with
    | none => (.addr nullptr, a)
    | some n =>
      (.addr (vpnToVa a.memory.pages.length), { a with memory := a.memory.push (.file n block) })

/-- The answer to an access: `found` on a valid page, else a refusal. -/
def access (vpn : ℕ) (found : LogicalPage → Ret × Ideal) : Option (Ret × Ideal) :=
  if a.memory.current.isSome ∧ vpn < numPtes then
    some ((a.memory.pages[vpn]?).elim (.code (-1), a) found)
  else
    none

/-- The answer to a request, and the machine after it; none when the request cannot be made. -/
def serve : Request → Option (Ret × Ideal)
  | .create _ childPid =>
    if (a.memory.arenas childPid).isSome then
      none
    else
      some (.code 0, { a with memory :=
        { a.memory with arenas := Function.update a.memory.arenas childPid (some []) } })
  | .switch pid =>
    if (a.memory.arenas pid).isSome then
      some (.done, { a with memory := { a.memory with current := some pid } })
    else
      none
  | .map filename block =>
    if a.memory.current.isSome then some (a.map disk filename block) else none
  | .destroy =>
    a.memory.current.map fun pid => (.done,
      { memory := { a.memory with
          arenas := Function.update a.memory.arenas pid none
          current := none }
        freeBlocks := a.freeBlocks + a.memory.pages.countP LogicalPage.isAnon })
  | .load vpn offset => a.access vpn fun L => (.byte (a.memory.read disk L offset), a)
  | .store vpn offset byte => a.access vpn fun L =>
    (.done, { a with memory := { a.memory with stores := ((L, offset), byte) :: a.memory.stores } })

end Ideal

/-- What a request that fails for want of a frame or a block is answered with. -/
def Request.refusal : Request → Option Ret
  | .map filename _ => if filename = nullptr then none else some (.addr nullptr)
  | .load _ _ => some (.code (-1))
  | .store _ _ _ => some (.code (-1))
  | _ => none

/-- The machine as a system. -/
def ideal (swapBlocks : ℕ) (disk : Option Name → ℕ → Page) : System Ideal Exchange where
  init a := a = .start swapBlocks
  step a o a' := a.serve disk o.1 = some (o.2, a')

/-- The machine with refusals, and their number. -/
def lossy (swapBlocks : ℕ) (disk : Option Name → ℕ → Page) : System (Ideal × ℕ) Exchange where
  init a := a = (.start swapBlocks, 0)
  step a o a' :=
    (a.1.serve disk o.1 = some (o.2, a'.1) ∧ a'.2 = a.2) ∨
    ((a.1.serve disk o.1).isSome ∧ o.1.refusal = some o.2 ∧ a' = (a.1, a.2 + 1))

end VmPager
