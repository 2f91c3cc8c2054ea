import Gatehouse.Inquiry
import Gatehouse.Time.Basic

/-! # Runs against time

A run of an inquiry has a clock, perhaps a deadline, and a token that cancels it. Before each lookup
the deadline is tested, then the token; a lookup that is refused there is not asked. A lookup that
is asked may take time, fail, report no rows, or never answer. One that cannot answer before the
deadline ends the run with the deadline, and one that is still waiting when the token fires ends it
with the token. An answer that comes in the same moment as the token counts.
-/

namespace Gatehouse

/-- What may go wrong with one lookup. -/
inductive Fault where
  /-- It reports no rows, whether there are any or not. -/
  | noRows
  /-- The store fails with this report. -/
  | backend (report : String)
  /-- It never answers. -/
  | hang
  /-- It answers after some milliseconds, which pass on the clock. -/
  | delay (millis : Nat)
  /-- The token fires as it is asked; it answers nevertheless. -/
  | cancel
  /-- The token fires as it is asked, and it never answers. -/
  | cancelAndHang
deriving DecidableEq, Repr

/-- The conditions of a run, which stay the same while it lasts. -/
structure Conditions where
  storage : Storage
  deadline : Option Time
  /-- The milliseconds that each answer of the storage takes, without moving the clock; `none` if
  the storage answers in the very moment that it is asked. -/
  latency : Option Nat
  /-- The fault of a lookup, given the lookups asked before it. -/
  fault : List Lookup → Lookup → Option Fault

/-- How far a run has come. -/
structure Progress where
  clock : Time
  cancelled : Bool
  /-- The lookups asked so far, in order. -/
  asked : List Lookup
deriving DecidableEq, Repr

/-- How a run ends. -/
inductive Ending (α : Type) where
  | decided (result : α)
  | refused (refusal : Refusal)
  /-- It waits for an answer that never comes. -/
  | hung
deriving DecidableEq, Repr

/-- What becomes of one lookup. -/
inductive Outcome (q : Lookup) where
  | answered (reply : q.Reply) (progress : Progress)
  | interrupted (refusal : Refusal) (progress : Progress)
  | hung (progress : Progress)

namespace Conditions

/-- The nanoseconds left until the deadline. -/
def left (c : Conditions) (p : Progress) : Option Int :=
  c.deadline.map fun deadline => deadline.nanosBetween p.clock

/-- Whether so many milliseconds do not exceed what is left. -/
def allows (left : Option Int) (millis : Int) : Bool :=
  match left with
  | some nanos => millis * 1000000 ≤ nanos
  | none => true

/-- The clock some milliseconds later; at the end of the calendar it stands still. -/
def later (clock : Time) (millis : Nat) : Time := (clock.addMillis? millis).getD clock

/-- The storage's own answer, which comes after `waited` milliseconds and the latency. -/
def reply (c : Conditions) (q : Lookup) (left : Option Int) (waited : Nat) (p : Progress) :
    Outcome q :=
  if allows left (waited + c.latency.getD 0) then .answered (c.storage q) p
  else .interrupted .deadlineExceeded p

/-- A lookup that is asked. -/
def answer (c : Conditions) (q : Lookup) (p : Progress) : Outcome q :=
  let left := c.left p
  let next : Progress := { p with asked := p.asked ++ [q] }
  match c.fault p.asked q with
  | none => c.reply q left 0 next
  | some .noRows => .answered (.error .noRows) next
  | some (.backend report) => .answered (.error (.backend report [])) next
  | some .hang =>
    match c.deadline with
    | some _ => .interrupted .deadlineExceeded next
    | none => .hung next
  | some (.delay millis) =>
    if allows left millis then c.reply q left millis { next with clock := later p.clock millis }
    else .interrupted .deadlineExceeded next
  | some .cancel =>
    let next := { next with cancelled := true }
    if c.latency = none then .answered (c.storage q) next else .interrupted .cancelled next
  | some .cancelAndHang => .interrupted .cancelled { next with cancelled := true }

/-- A lookup that is about to be asked: the deadline is tested first, then the token. -/
def guarded (c : Conditions) (q : Lookup) (p : Progress) : Outcome q :=
  match c.left p with
  | some nanos =>
    if nanos ≤ 0 then .interrupted .deadlineExceeded p
    else if p.cancelled then .interrupted .cancelled p
    else c.answer q p
  | none => if p.cancelled then .interrupted .cancelled p else c.answer q p

/-- Run an inquiry to its end. -/
def run {α : Type} (c : Conditions) : Inquiry α → Progress → Ending α × Progress
  | .decided a, p => (.decided a, p)
  | .refused r, p => (.refused r, p)
  | .ask q next, p =>
    match c.guarded q p with
    | .answered reply p => c.run (next reply) p
    | .interrupted r p => (.refused r, p)
    | .hung p => (.hung, p)

/-- One lookup for its own sake, with neither deadline nor token. -/
def single (c : Conditions) (q : Lookup) (clock : Time) : Outcome q :=
  let c := { c with deadline := none }
  match c.fault [] q with
  | some .cancel => .answered (c.storage q) ⟨clock, true, [q]⟩
  | some .cancelAndHang => .hung ⟨clock, true, [q]⟩
  | _ => c.answer q ⟨clock, false, []⟩

end Conditions

end Gatehouse
