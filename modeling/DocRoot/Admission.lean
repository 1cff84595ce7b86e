import DocRoot.Settings.Basic

/-!
# Admission of connections

One counter holds the number of connections. Accepting a connection counts it first and
looks at the limit afterwards: it is handed over to a task of its own, or taken back. A task
leaves the count when its connection has ended. Each of these is a step of its own, and
those of the tasks may come between any two of the acceptor.
-/

set_option autoImplicit false

namespace DocRoot

/-- How far the one acceptor has come with a connection. -/
inductive Accepting
  | idle
  /-- It is counted; before it there were as many. -/
  | counted (before : Nat)
  /-- It is within the limit and about to be handed over. -/
  | admitted
  /-- It is over the limit and about to be taken back. -/
  | refused (before : Nat)
  deriving DecidableEq, Repr

/-- What the task of a connection does: it serves, or the connection has ended, in whatever
way, and the task has yet to leave the count. -/
inductive TaskPhase
  | serving
  | ended
  deriving DecidableEq, Repr

structure Admission where
  counter : Nat
  tasks : List TaskPhase
  accepting : Accepting
  deriving DecidableEq, Repr

namespace Admission

def empty : Admission := ⟨0, [], .idle⟩

/-- Counts one more, and gives the number before it. -/
def raise (counter : Nat) : Nat × Nat := (counter, counter + 1)

def lower (counter : Nat) : Nat := counter - 1

def fits (limit : Option UInt64) (before : Nat) : Bool :=
  match limit with
  | some n => before < n.toNat
  | none => true

inductive Event
  | count
  | compare
  | handOver
  | takeBack
  /-- The connection of a task ends. -/
  | close (task : Nat)
  /-- A task whose connection has ended leaves the count. -/
  | release (task : Nat)
  deriving DecidableEq, Repr

namespace Event

def isOfTask : Event → Bool
  | close _ => true
  | release _ => true
  | _ => false

end Event

/-- One step, where it can be taken. -/
def step? (limit : Option UInt64) (a : Admission) : Event → Option Admission
  | .count =>
    match a.accepting with
    | .idle =>
      some { a with counter := (raise a.counter).2, accepting := .counted (raise a.counter).1 }
    | _ => none
  | .compare =>
    match a.accepting with
    | .counted before =>
      some { a with accepting := if fits limit before then .admitted else .refused before }
    | _ => none
  | .handOver =>
    match a.accepting with
    | .admitted => some { a with tasks := a.tasks ++ [.serving], accepting := .idle }
    | _ => none
  | .takeBack =>
    match a.accepting with
    | .refused _ => some { a with counter := lower a.counter, accepting := .idle }
    | _ => none
  | .close i =>
    match a.tasks[i]? with
    | some .serving => some { a with tasks := a.tasks.set i .ended }
    | _ => none
  | .release i =>
    match a.tasks[i]? with
    | some .ended => some { a with counter := lower a.counter, tasks := a.tasks.eraseIdx i }
    | _ => none

def run (limit : Option UInt64) : Admission → List Event → Option Admission
  | a, [] => some a
  | a, e :: events => (step? limit a e).bind (run limit · events)

/-- All steps of accepting one connection, with no other in between: whether it is let in,
and otherwise how many there were. -/
def accept (limit : Option UInt64) (active : Nat) : Nat × Option Nat :=
  if fits limit active then (active + 1, none) else (active, some active)

end Admission

end DocRoot
