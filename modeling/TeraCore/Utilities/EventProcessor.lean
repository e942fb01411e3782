import Mathlib.Algebra.GroupWithZero.Nat
import TeraCore.Commons.Multimap
import TeraCore.Commons.Run

/-!
# Event processors

A processor has events in the order of the times they are due at.  An update takes the ones that are
due, one after another: an event that was aborted gets its abort, any other one is executed.
`KillAllEvents` goes through the events, whatever they are due at, and aborts them.

Events answer with more events: while they are executed or aborted they add to the very map that the
loop is about.  So a loop is not one step here, but a mode of the processor, and each turn of it is
a step, which comes with the answer of the event it calls.

## Main definitions

* `Addition`: an event that was added; the same event can be added again
* `Call`: what an event was called for
* `EventProcessor`: the state, with all calls so far
* `EventProcessor.step`: the operations, and the turns of the loops
-/

namespace TeraCore.Utilities

open Commons

/-- **An event that was added**: its address, and which addition it is. -/
structure Addition where
  event : ℕ
  number : ℕ
  deriving DecidableEq

/-- **What an event is called for**, and what it was due at; the end of it is a call, too. -/
inductive Call where
  | execute (addition : Addition) (due e_time : ℕ)
  | abort (addition : Addition) (due e_time : ℕ)
  | delete (addition : Addition)
  deriving DecidableEq

/-- What the processor is about: nothing; an update; or `KillAllEvents`, with an iterator that
stands before some addition or at the end. -/
inductive Mode where
  | idle
  | updating (p_time : ℕ)
  | killing (force : Bool) (i : Option ℕ)
  deriving DecidableEq

structure EventProcessor where
  m_time : ℕ
  m_events : Multimap ℕ Addition
  m_aborting : Bool
  /-- The events whose `to_Abort` is set. -/
  to_Abort : List ℕ
  mode : Mode
  /-- How many additions there were. -/
  additions : ℕ
  /-- What events were called for, so far. -/
  calls : List Call
  /-- What the events were due at that the last update took. -/
  taken : List ℕ

/-- **What an event answers** to a call: the events it adds, with the times they are due at, and
what `Execute` or `IsDeletable` returns. -/
structure Answer where
  added : List (ℕ × ℕ)
  result : Bool
  deriving DecidableEq

inductive Op where
  | addEvent (event e_time : ℕ)
  | update (p_time : ℕ)
  | killAllEvents (force : Bool)
  /-- The next turn of the loop. -/
  | turn (answer : Answer)
  deriving DecidableEq

namespace EventProcessor

def new : EventProcessor where
  m_time := 0
  m_events := .empty
  m_aborting := false
  to_Abort := []
  mode := .idle
  additions := 0
  calls := []
  taken := []

variable (p : EventProcessor)

/-- **`AddEvent`** -/
def addEvent (event e_time : ℕ) : EventProcessor :=
  { p with
    m_events := p.m_events.insert e_time ⟨event, p.additions⟩
    additions := p.additions + 1 }

/-- What an event adds while it is called. -/
def addEvents (added : List (ℕ × ℕ)) : EventProcessor :=
  added.foldl (fun p e => p.addEvent e.1 e.2) p

def call (c : Call) : EventProcessor :=
  { p with calls := p.calls ++ [c] }

/-- The time goes on; it has 64 bits. -/
def update (p_time : ℕ) : EventProcessor :=
  { p with
    m_time := (p.m_time + p_time) % 2 ^ 64
    mode := .updating p_time
    taken := [] }

/-- The first event of the map is taken. -/
def take (due : ℕ) : EventProcessor :=
  { p with m_events := p.m_events.eraseBegin, taken := p.taken ++ [due] }

/-- **A turn of `Update`.** -/
def updateTurn (answer : Answer) : EventProcessor :=
  match p.m_events.entries with
  | [] => { p with mode := .idle }
  | (due, a) :: _ =>
    if due ≤ p.m_time then
      let p := p.take due
      if a.event ∉ p.to_Abort then
        let p := (p.call (.execute a due p.m_time)).addEvents answer.added
        if answer.result then p.call (.delete a) else p
      else ((p.call (.abort a due p.m_time)).addEvents answer.added).call (.delete a)
    else { p with mode := .idle }

/-- `KillAllEvents`: nothing looks at `m_aborting`. -/
def killAllEvents (force : Bool) : EventProcessor :=
  { p with
    m_aborting := true
    mode := .killing force (p.m_events.entries.head?.map (·.2.number)) }

/-- The iterator moves on, and the event that it stood before is to abort. -/
def moveOn (force : Bool) (later : List (ℕ × Addition)) (a : Addition) : EventProcessor :=
  { p with
    mode := .killing force (later.head?.map (·.2.number))
    to_Abort := a.event :: p.to_Abort }

/-- The addition is erased from the map. -/
def erase (n : ℕ) : EventProcessor :=
  { p with m_events := p.m_events.eraseFirst fun entry => entry.2.number == n }

/-- **A turn of `KillAllEvents`**: the iterator moves on before the event is called. -/
def killTurn (force : Bool) (i : Option ℕ) (answer : Answer) : EventProcessor :=
  match i with
  | none => { p with mode := .idle, m_events := if force then .empty else p.m_events }
  | some n =>
    match p.m_events.entries.dropWhile fun entry => decide (entry.2.number ≠ n) with
    | [] => p
    | (due, a) :: later =>
      let p := (p.moveOn force later a).call (.abort a due p.m_time)
      let p := p.addEvents answer.added
      if force || answer.result then
        let p := p.call (.delete a)
        if force then p else p.erase n
      else p

/-- **A step**: an operation when there is none under way, or a turn of the one that is. -/
def step : Op → EventProcessor
  | .addEvent event e_time => if p.mode = .idle then p.addEvent event e_time else p
  | .update p_time => if p.mode = .idle then p.update p_time else p
  | .killAllEvents force => if p.mode = .idle then p.killAllEvents force else p
  | .turn answer =>
    match p.mode with
    | .idle => p
    | .updating _ => p.updateTurn answer
    | .killing force i => p.killTurn force i answer

end EventProcessor

end TeraCore.Utilities
