/-!
# Programs that ask and wait

A task does its own work at once and asks the rest of the process for everything else: a lock, an
entry of a table, a command, a packet. A `Program` is a tree of such requests: it is either done or
asks and goes on with the answer. Programs of one interface form a monad.

What answers the requests is a `Machine`. It may leave a request open, and then the task waits.
`Program.advance` runs one task until it is done or waits, and `Program.step` makes it ask once. The
tasks of a `System` share the state of its machine and take their steps in any order.
-/

namespace Overlay

/-- The requests that programs may make and the type of the answer to each of them. -/
structure Interface where
  /-- What can be asked for. -/
  Request : Type
  /-- What comes back. -/
  Answer : Request → Type

/-- A program: it is done, or it asks and goes on with the answer. -/
inductive Program (I : Interface) (α : Type) where
  /-- The result. -/
  | done (a : α)
  /-- A request, and what to do with the answer. -/
  | ask (r : I.Request) (next : I.Answer r → Program I α)

namespace Program

variable {I : Interface} {α β : Type}

/-- One program after the other. -/
def bind : Program I α → (α → Program I β) → Program I β
  | done a, f => f a
  | ask r next, f => ask r fun x => (next x).bind f

instance : Monad (Program I) where
  pure := done
  bind := bind

@[simp] theorem pure_eq (a : α) : (pure a : Program I α) = done a := rfl

@[simp] theorem done_bind (a : α) (f : α → Program I β) : (done a >>= f) = f a := rfl

/-- The result, when the program is done. -/
def result? : Program I α → Option α
  | done a => some a
  | ask _ _ => none

/-- The same program for another interface, each request of which is answered as `answer` says. -/
def lift {J : Interface} (request : I.Request → J.Request)
    (answer : ∀ r, J.Answer (request r) → I.Answer r) : Program I α → Program J α
  | done a => done a
  | ask r next => ask (request r) fun x => (next (answer r x)).lift request answer

end Program

/-- The number of a task. -/
abbrev TaskId := Nat

/-- What answers requests. It keeps a state, and it may leave a request open for now. -/
structure Machine (I : Interface) (σ : Type) where
  /-- The answer to a request of the given task, and the state after it. -/
  answer : TaskId → (r : I.Request) → σ → Option (I.Answer r × σ)

namespace Program

variable {I : Interface} {σ α : Type}

/-- Asks once: the rest of the program and the state after the answer. -/
def step (m : Machine I σ) (id : TaskId) : Program I α → σ → Option (Program I α × σ)
  | done _, _ => none
  | ask r next, s => (m.answer id r s).map fun (x, s') => (next x, s')

/-- Goes on until the program is done or waits. -/
def advance (m : Machine I σ) (id : TaskId) : Program I α → σ → Program I α × σ
  | done a, s => (done a, s)
  | ask r next, s =>
    match m.answer id r s with
    | some (x, s') => (next x).advance m id s'
    | none => (ask r next, s)

end Program

/-- A task: a program that is run once, or one that is run again and again until it gives a
result. -/
inductive Task (I : Interface) (α : Type) where
  /-- What is left of a program. -/
  | once (now : Program I α)
  /-- A program, and what is left of its current run. -/
  | forever (body now : Program I (Option α))

namespace Task

variable {I : Interface} {σ α : Type}

/-- A task that runs a program again and again, at its beginning. -/
def loop (body : Program I (Option α)) : Task I α := forever body body

/-- The result, when the task has ended. -/
def result? : Task I α → Option α
  | once now => now.result?
  | forever _ (.done a) => a
  | forever _ (.ask _ _) => none

/-- One step: the task asks once, or begins its next run. -/
def step (m : Machine I σ) (id : TaskId) : Task I α → σ → Option (Task I α × σ)
  | once now, s => (now.step m id s).map fun (p, s') => (once p, s')
  | forever body (.done none), s => some (loop body, s)
  | forever body now, s => (now.step m id s).map fun (p, s') => (forever body p, s')

/-- Goes on until the task ends or waits, through at most `n` runs. -/
def advance (m : Machine I σ) (id : TaskId) : Nat → Task I α → σ → Task I α × σ
  | _, once now, s =>
    let (p, s') := now.advance m id s
    (once p, s')
  | 0, t, s => (t, s)
  | n + 1, forever body now, s =>
    match now.advance m id s with
    | (.done none, s') => advance m id n (loop body) s'
    | (p, s') => (forever body p, s')

end Task

/-- Tasks that share a state. The number of a task is its place in the list. -/
structure System (I : Interface) (σ α : Type) where
  /-- What the tasks share. -/
  state : σ
  /-- The tasks. -/
  tasks : List (Task I α)

namespace System

variable {I : Interface} {σ α : Type}

/-- Adds a task. -/
def spawn (s : System I σ α) (t : Task I α) : System I σ α := { s with tasks := s.tasks ++ [t] }

/-- One step of one task. -/
def step (m : Machine I σ) (s : System I σ α) (id : TaskId) : Option (System I σ α) :=
  match s.tasks[id]? with
  | some t => (t.step m id s.state).map fun (t', state) => ⟨state, s.tasks.set id t'⟩
  | none => none

/-- The states that can be reached when the tasks take their steps in any order, further tasks may
begin at any time, and the shared state may change by itself. -/
inductive Reaches (m : Machine I σ) (starts : Task I α → Prop) (moves : σ → σ → Prop) :
    System I σ α → System I σ α → Prop where
  /-- Nothing has happened. -/
  | refl (s : System I σ α) : Reaches m starts moves s s
  /-- A task has taken a step. -/
  | step {s t u : System I σ α} {id : TaskId} :
      Reaches m starts moves s t → t.step m id = some u → Reaches m starts moves s u
  /-- A task has begun. -/
  | spawn {s t : System I σ α} {a : Task I α} :
      Reaches m starts moves s t → starts a → Reaches m starts moves s (t.spawn a)
  /-- Something has happened outside of the tasks. -/
  | move {s t : System I σ α} {state : σ} :
      Reaches m starts moves s t → moves t.state state →
        Reaches m starts moves s { t with state }

/-- Lets the task with the given number go on until it ends or waits. -/
def advance (m : Machine I σ) (runs : Nat) (s : System I σ α) (id : TaskId) : System I σ α :=
  match s.tasks[id]? with
  | some t =>
    let (t', state) := t.advance m id runs s.state
    ⟨state, s.tasks.set id t'⟩
  | none => s

/-- Lets every task go on in turn, `rounds` times. -/
def settle (m : Machine I σ) (runs : Nat) : Nat → System I σ α → System I σ α
  | 0, s => s
  | rounds + 1, s => settle m runs rounds ((List.range s.tasks.length).foldl (advance m runs) s)

end System

end Overlay
