import VmPager.Code.Fault

/-!
# `get_filename`

A C string is read out of the arena of the current process byte by byte, each of its pages brought
into memory by a nested `vm_fault` first.
-/

namespace VmPager

open Lib.Exec

/-- A bound that no loop over an `unsigned int` that only grows can pass. -/
def loopBound : ℕ := 2 ^ 32

/-- The inner loop: the string read so far and the last character looked at. `none` is a loop that
goes on for more than `fuel` turns. -/
def readChars (mem : ℕ → UInt8) (last : ℕ) : ℕ → ℕ → UInt8 → Name → Option (Name × UInt8)
  | 0, _, _, _ => none
  | fuel + 1, curAddr, curChar, str =>
    if curAddr ≤ last ∧ curChar ≠ 0 then
      let curAddr' := (curAddr + 1) % 2 ^ 32
      let curChar' := if curAddr' ≤ last then mem curAddr' else curChar
      readChars mem last fuel curAddr' curChar' (str ++ [curChar])
    else
      some (str, curChar)

/-- The bytes `strcpy` copies. -/
def cString (bytes : Name) : Name := bytes.takeWhile (· ≠ 0)

/-- The body of the outer loop from the page state on: the scan of one page in its frame. -/
def scanPage (ppn offset : ℕ) (str : Name) : PagerM (Name × UInt8) := do
  let s ← get
  let curAddr := (vmPagesize * ppn + offset) % 2 ^ 32
  match readChars s.physmem (lastAddrInPpn ppn) (loopBound + 1) curAddr (s.physmem curAddr) str with
  | none => throw .diverged
  | some r => return r

/-- The outer loop, cut off after `fuel` turns. -/
def getFilenameLoop (va : BitVec 64) :
    ℕ → BitVec 64 → ℕ → ℕ → Name → PagerM (Option Name)
  | 0, _, _, _, _ => throw .diverged
  | fuel + 1, faultVa, vpnIndex, offset, str => do
    if va.slt vmArenaBaseaddr ∨ (← lowestInvalidVpn) ≤ vpnIndex then
      return none
    else
      let pte ← readPte (← get).pageTableBaseRegister vpnIndex
      let res ← if pte.readEnable = false then vmFault faultVa false else pure 0
      if res = -1 then
        return none
      else
        let page ← arenaPage vpnIndex
        let r ← scanPage (← getPage page).ppn offset str
        if r.2 = 0 then
          return some (cString (r.1 ++ [0]))
        else
          let vpnIndex' := (vpnIndex + 1) % 2 ^ 32
          getFilenameLoop va fuel (vpnToVa vpnIndex') vpnIndex' 0 r.1

/-- `get_filename`: the string at `va`, none when it is not completely in the valid part of the arena
or a page of it cannot be brought in. -/
def getFilename (va : BitVec 64) : PagerM (Option Name) :=
  getFilenameLoop va loopBound va (vaToVpn va) (va.toNat % vmPagesize) []

end VmPager
