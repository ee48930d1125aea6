/-!
# Queues between tasks

A queue takes values from several senders to one receiver, in order. It has room for a fixed number of
values. A sender either waits for room or drops its value: `offer?` is open while there is no room,
`push` never waits. Once the receiver has gone away nothing is taken any more; once all senders have
gone away the receiver still finds what was sent before.
-/

namespace Overlay

/-- A queue of values between several senders and one receiver. -/
structure Queue (α : Type) where
  /-- How many values may wait. -/
  capacity : Nat
  /-- The values that wait, the oldest first. -/
  waiting : List α := []
  /-- The number of senders. -/
  senders : Nat := 1
  /-- Has the receiver gone away? -/
  receiverGone : Bool := false

/-- What a receiver finds. -/
inductive Received (α : Type) where
  /-- A value. -/
  | item (a : α)
  /-- Nothing yet. -/
  | empty
  /-- Nothing any more. -/
  | closed
deriving DecidableEq

namespace Queue

variable {α : Type}

/-- A queue for the given number of values; there is none without room. -/
def ofCapacity? (capacity : Nat) : Option (Queue α) :=
  if capacity = 0 then none else some { capacity }

/-- Is there no room? -/
def isFull (q : Queue α) : Bool := q.capacity ≤ q.waiting.length

/-- Puts a value at the end, if there is room and somebody to read it. -/
def push (q : Queue α) (a : α) : Queue α :=
  if q.receiverGone || q.isFull then q else { q with waiting := q.waiting ++ [a] }

/-- Puts a value at the end as soon as there is room: was there somebody to read it? -/
def offer? (q : Queue α) (a : α) : Option (Bool × Queue α) :=
  if q.receiverGone then some (false, q)
  else if q.isFull then none
  else some (true, { q with waiting := q.waiting ++ [a] })

/-- Takes the oldest value. -/
def pop (q : Queue α) : Received α × Queue α :=
  match q.waiting with
  | a :: rest => (.item a, { q with waiting := rest })
  | [] => (if q.senders = 0 then .closed else .empty, q)

/-- One more sender. -/
def addSender (q : Queue α) : Queue α := { q with senders := q.senders + 1 }

/-- One sender less. -/
def dropSender (q : Queue α) : Queue α := { q with senders := q.senders - 1 }

/-- The receiver goes away, and what it has not taken with it. -/
def dropReceiver (q : Queue α) : Queue α := { q with receiverGone := true, waiting := [] }

end Queue

end Overlay
