import VmPager.Lib.SecondChance

/-!
# A write-back cache with a second chance

Pages of the type `α`, with a block of the type `β` each, go through a memory that has room for `cap`
of them. A page that is accessed is brought in and marked; for want of room the second-chance sweep
picks one that is evicted first, and written to its block if it is dirty. Blank pages are filled with
zeroes the first time, and are dirty then. Writes and reads of blocks may fail: the access is refused
then, and what had been done for it stays done.

The cache is a function of what is asked of it and of the outcomes of the writes and reads.
-/

namespace VmPager.Lib.WriteBack

open Lib.SecondChance

variable {α β : Type} [DecidableEq α]

/-- What a cache records. -/
inductive Event (α β : Type) where
  | mapped (page : α) (block : β)
  | wrote (block : β) (ok : Bool)
  | evicted (page : α)
  | read (block : β) (ok : Bool)
  | zeroed
  | accessed (page : α) (write : Bool)

/-- What is asked of a cache: an access, a new page, or that some pages go. -/
inductive Input (α β : Type) where
  | access (page : α) (write : Bool)
  | map (page : α) (block : β) (blank : Bool)
  | release (gone : α → Bool)

structure Cache (α β : Type) where
  /-- The pages in memory; the sweep starts at the front. -/
  queue : List α
  referenced : α → Bool
  dirty : α → Bool
  blank : α → Bool
  block : α → β
  /-- The outcomes of the writes and reads to come. -/
  writes : Stream' Bool
  reads : Stream' Bool
  /-- What has happened, newest first. -/
  log : List (Event α β)

namespace Cache

variable (cap : ℕ) (c : Cache α β)

/-- Room for a page, or none when the page that would go cannot be written. -/
def makeRoom : Bool × Cache α β :=
  if c.queue.length < cap then
    (true, c)
  else
    match sweep (c.queue.length + 1) c.referenced c.queue with
    | none => (false, c)
    | some (v, passed, rest) =>
      if c.dirty v then
        if c.writes.head then
          (true, { c with
            queue := rest
            referenced := unmark c.referenced passed
            writes := c.writes.tail
            log := .evicted v :: .wrote (c.block v) true :: c.log })
        else
          (false, { c with
            queue := rest ++ [v]
            referenced := unmark c.referenced passed
            writes := c.writes.tail
            log := .wrote (c.block v) false :: c.log })
      else
        (true, { c with
          queue := rest
          referenced := unmark c.referenced passed
          log := .evicted v :: c.log })

/-- The page is in memory, at the back of the queue. -/
def insert (a : α) (dirty write : Bool) : Cache α β :=
  { c with
    queue := c.queue ++ [a]
    referenced := Function.update c.referenced a true
    dirty := Function.update c.dirty a dirty
    blank := Function.update c.blank a false
    log := .accessed a write :: c.log }

/-- The page is accessed where it is. -/
def touch (a : α) (write : Bool) : Cache α β :=
  { c with
    referenced := Function.update c.referenced a true
    dirty := Function.update c.dirty a (c.dirty a || write)
    log := .accessed a write :: c.log }

/-- The page is brought in, when its block can be read. -/
def bringIn (a : α) (write : Bool) : Cache α β :=
  if c.blank a then
    insert { c with log := .zeroed :: c.log } a true write
  else if c.reads.head then
    insert { c with reads := c.reads.tail, log := .read (c.block a) true :: c.log } a write write
  else
    { c with reads := c.reads.tail, log := .read (c.block a) false :: c.log }

/-- An access to a page. -/
def access (a : α) (write : Bool) : Cache α β :=
  if a ∈ c.queue then
    c.touch a write
  else if (c.makeRoom cap).1 then
    (c.makeRoom cap).2.bringIn a write
  else
    (c.makeRoom cap).2

/-- A new page, which is not in memory. -/
def map (a : α) (b : β) (blank : Bool) : Cache α β :=
  { c with
    blank := Function.update c.blank a blank
    block := Function.update c.block a b
    log := .mapped a b :: c.log }

/-- Some pages go, without being written. -/
def release (gone : α → Bool) : Cache α β := { c with queue := c.queue.filter (!gone ·) }

def step : Input α β → Cache α β
  | .access a write => c.access cap a write
  | .map a b blank => c.map a b blank
  | .release gone => c.release gone

/-- One input after the other. -/
def run (inputs : List (Input α β)) : Cache α β := inputs.foldl (step cap) c

end Cache

end VmPager.Lib.WriteBack
