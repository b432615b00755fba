import DocumentIngest.WorkItem

/-!
# The work queue

Workers share one queue.  What was taken from it stays in a ledger until it is
acknowledged, so that work lost on the way is counted at the end.  Taking a
ticket and entering it in the ledger are two steps; between them the ticket is
in the hands of the worker alone.
-/

namespace DocumentIngest

/-- A work item under the number it was pushed with. -/
structure Ticket where
  number : Nat
  item : WorkItem
deriving DecidableEq, Repr, Inhabited

/-- What a look into the queue finds. -/
inductive Polled where
  | ticket (ticket : Ticket)
  /-- Nothing now, but more may come. -/
  | empty
  /-- Nothing, and nothing will come. -/
  | drained
deriving DecidableEq, Repr

/-- The queue, its ledger and its feeder. -/
structure WorkQueue where
  /-- Tickets that nobody took yet, the oldest first. -/
  waiting : List Ticket := []
  /-- The numbers of tickets that were taken and not acknowledged. -/
  ledger : List Nat := []
  acknowledged : Nat := 0
  /-- The number of the next ticket. -/
  next : Nat := 0
  /-- Whether more may be pushed. -/
  isOpen : Bool := true
  /-- Whether anyone is left to take tickets. -/
  isAttended : Bool := true
deriving DecidableEq, Repr, Inhabited

namespace WorkQueue

/-- Whether a pushed item is accepted. -/
def accepts (queue : WorkQueue) : Bool :=
  queue.isOpen && queue.isAttended

/-- Adds an item behind all others; an item that is not accepted uses up its
number. -/
def push (queue : WorkQueue) (item : WorkItem) : WorkQueue :=
  if queue.accepts then
    { queue with
      waiting := queue.waiting ++ [⟨queue.next, item⟩]
      next := queue.next + 1 }
  else { queue with next := queue.next + 1 }

/-- Says that nothing more will come. -/
def close (queue : WorkQueue) : WorkQueue :=
  { queue with isOpen := false }

/-- Says that nobody will take anything any more. -/
def abandon (queue : WorkQueue) : WorkQueue :=
  { queue with isAttended := false }

/-- Takes the oldest ticket, if there is one, without entering it anywhere. -/
def take (queue : WorkQueue) : WorkQueue × Polled :=
  match queue.waiting with
  | ticket :: rest => ({ queue with waiting := rest }, .ticket ticket)
  | [] => (queue, if queue.isOpen then .empty else .drained)

/-- Enters the number of a ticket in the ledger. -/
def enter (queue : WorkQueue) (number : Nat) : WorkQueue :=
  { queue with ledger := queue.ledger ++ [number] }

/-- Takes the oldest ticket and enters it in the ledger. -/
def pop (queue : WorkQueue) : WorkQueue × Polled :=
  match queue.take with
  | (queue, .ticket ticket) => (queue.enter ticket.number, .ticket ticket)
  | (queue, polled) => (queue, polled)

/-- Acknowledges a ticket in the ledger; other numbers change nothing. -/
def acknowledge (queue : WorkQueue) (number : Nat) : WorkQueue :=
  if queue.ledger.contains number then
    { queue with
      ledger := queue.ledger.erase number
      acknowledged := queue.acknowledged + 1 }
  else queue

/-- How many tickets were not acknowledged, taken or not. -/
def unacknowledged (queue : WorkQueue) : Nat :=
  queue.ledger.length + queue.waiting.length

/-- A queue that holds some items and takes no more. -/
def ofItems (items : List WorkItem) : WorkQueue :=
  (items.foldl push {}).close

end WorkQueue

end DocumentIngest
