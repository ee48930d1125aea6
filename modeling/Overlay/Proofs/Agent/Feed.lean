import Overlay.Agent.State
import Overlay.Proofs.Agent.Parts
import Overlay.Proofs.Controller.EventStream

/-!
# What the controller feeds to the watcher

The watcher connects to the controller again and again.  An attempt may fail, it may be answered
with a status that says no success, or it may open a stream; the stream then gives the events of its
body and ends, in order or with an error.  A `Feed` is what is to come of this: the connections that
have not been made, and the events that are left of the open stream.

`Connection.published` are the changes that connections publish.  `published_of_brings` says what
they are when the bodies were written as complete events, and `published_of_items` when these are
changes with other things between them.
-/

namespace Overlay.Agent

open EventStream (Item)

/-! ## Connections -/

/-- What becomes of an attempt to connect. -/
inductive Connection where
  /-- There is no answer. -/
  | failed
  /-- There is an answer; its body ends with the stream, in order or with an error. -/
  | answered (reply : HttpReply)

namespace Connection

/-- The body of the stream, if one was opened. -/
def body? : Connection → Option (List UInt8)
  | failed => none
  | answered reply => if reply.isSuccess then some reply.body else none

/-- The events of the stream. -/
def events (c : Connection) : List StreamEvent := (c.body?.map EventStream.events).getD []

/-- The changes that are published. -/
def changes (c : Connection) : List EdgeEvent := c.events.filterMap StreamEvent.change?

/-- The blocks that the connection brings. -/
inductive Brings : Connection → List (List (List Char)) → Prop where
  /-- There is no answer. -/
  | failed : Brings failed []
  /-- The answer is no success. -/
  | refused {reply : HttpReply} : reply.isSuccess = false → Brings (answered reply) []
  /-- The body holds the blocks. -/
  | stream {reply : HttpReply} {blocks : List (List (List Char))} : reply.isSuccess = true →
      EventStream.Carries reply.body blocks → Brings (answered reply) blocks

theorem Brings.changes_eq {c : Connection} {blocks : List (List (List Char))}
    (hblocks : ∀ ls ∈ blocks, EventStream.Block ls) (h : c.Brings blocks) :
    c.changes = blocks.filterMap EventStream.changeOf? := by
  cases h with
  | failed => rfl
  | refused hstatus =>
      rw [changes, events, body?, hstatus]
      rfl
  | stream hstatus hcarries =>
      rw [changes, events, body?, if_pos hstatus]
      exact EventStream.changes_of_carries hblocks hcarries

/-- The changes that connections publish one after the other. -/
def published (connections : List Connection) : List EdgeEvent := connections.flatMap changes

/-- The changes of connections are those of the blocks that they bring. -/
theorem published_of_brings {connections : List Connection}
    {blocks : List (List (List (List Char)))}
    (hblocks : ∀ ls ∈ blocks.flatten, EventStream.Block ls)
    (h : List.Forall₂ Brings connections blocks) :
    published connections = blocks.flatten.filterMap EventStream.changeOf? := by
  induction h with
  | nil => rfl
  | cons hc _ ih =>
      obtain ⟨hfirst, hrest⟩ := List.forall_mem_append.mp hblocks
      unfold published at ih ⊢
      rw [List.flatMap_cons, hc.changes_eq hfirst, ih hrest, List.flatten_cons,
        List.filterMap_append]

/-- The changes of connections that bring changes and other things are the changes that they
    bring. -/
theorem published_of_items {connections : List Connection} {items : List (List Item)}
    (hitems : ∀ i ∈ items.flatten, i.Fits)
    (h : List.Forall₂ Brings connections (items.map (List.map Item.block))) :
    published connections = items.flatten.filterMap Item.change? := by
  have hblocks : ∀ ls ∈ (items.map (List.map Item.block)).flatten, EventStream.Block ls := by
    rw [← List.map_flatten, List.forall_mem_map]
    exact fun i hi => (hitems i hi).block
  rw [published_of_brings hblocks h, ← List.map_flatten, EventStream.changes_of_items hitems]

/-- How many requests of the watcher the connection is worth at most. -/
def cost (c : Connection) : Nat := 8 + 3 * c.events.length

theorem events_eq_nil {c : Connection} (h : c.body?.isSome = false) : c.events = [] := by
  rw [events, Option.not_isSome_iff_eq_none.mp (Bool.eq_false_iff.mp h)]
  rfl

end Connection

/-! ## The feed -/

/-- What is to come of the controller. -/
structure Feed where
  /-- The connections that have not been made. -/
  coming : List Connection
  /-- The events that are left of the open stream. -/
  now : List StreamEvent := []

namespace Feed

/-- The changes that are to come. -/
def changes (f : Feed) : List EdgeEvent :=
  f.now.filterMap StreamEvent.change? ++ Connection.published f.coming

/-- How many requests of the watcher the feed is worth at most. -/
def cost (f : Feed) : Nat := 3 * f.now.length + (f.coming.map Connection.cost).sum

/-- Makes the next connection: has a stream been opened? -/
def connect (f : Feed) : Option (Bool × Feed) :=
  match f.coming with
  | [] => none
  | c :: coming => some (c.body?.isSome, ⟨coming, c.events⟩)

/-- The next event of the open stream, or nothing when it has ended. -/
def next (f : Feed) : Option StreamEvent × Feed :=
  match f.now with
  | [] => (none, f)
  | e :: now => (some e, ⟨f.coming, now⟩)

variable (coming : List Connection)

/-- The events of a connection that is made stand where the connection stood. -/
theorem changes_connection (c : Connection) :
    (⟨c :: coming, []⟩ : Feed).changes = (⟨coming, c.events⟩ : Feed).changes := rfl

theorem cost_connection (c : Connection) :
    (⟨c :: coming, []⟩ : Feed).cost = 8 + (⟨coming, c.events⟩ : Feed).cost := by
  simp only [cost, Connection.cost, List.map_cons, List.sum_cons, List.length_nil]
  omega

theorem changes_event (e : StreamEvent) (now : List StreamEvent) :
    (⟨coming, e :: now⟩ : Feed).changes = e.change?.toList ++ (⟨coming, now⟩ : Feed).changes := by
  unfold changes
  rw [← List.append_assoc, List.filterMap_cons]
  cases e.change? with
  | none | some => rfl

theorem cost_event (e : StreamEvent) (now : List StreamEvent) :
    (⟨coming, e :: now⟩ : Feed).cost = 3 + (⟨coming, now⟩ : Feed).cost := by
  simp only [cost, List.length_cons]
  omega

end Feed

variable {σ : Type}

/-- The same surroundings with a feed beside them. -/
def fed (around : Around σ) : Around (Feed × σ) where
  tunnel := around.tunnel.beside
  bind a := fun (f, w) =>
    let (r, w) := around.bind a w
    (r, (f, w))
  register e := fun (f, w) => (around.register e w).map fun (r, w) => (r, (f, w))
  report edge a := fun (f, w) => (around.report edge a w).map fun (r, w) => (r, (f, w))
  unregister edge := fun (f, w) => (around.unregister edge w).map fun (r, w) => (r, (f, w))
  connect _ := fun (f, w) => f.connect.map fun (opened, f) => (opened, (f, w))
  event := fun (f, w) => some (f.next.1, (f.next.2, w))
  timer := fun (f, w) => (around.timer w).map fun w => (f, w)
  pause d := fun (f, w) => (around.pause d w).map fun w => (f, w)
  now := fun (_, w) => around.now w
  draw := fun (f, w) =>
    let (n, w) := around.draw w
    (n, (f, w))

/-- The feed in a state. -/
def State.feed (s : State (Feed × σ)) : Feed := s.outside.1

variable {around : Around σ} {s s' : State (Feed × σ)}

/-- To connect is to make the next connection. -/
theorem connected_fed {url : Url} {x : Connecting}
    (h : s.connected (fed around) url = some (x, s')) :
    ∃ c coming, s.feed.coming = c :: coming ∧
      x = (if c.body?.isSome then .opened else .failed) ∧
      s' = { s.setOutside (⟨coming, c.events⟩, s.outside.2) with isOpen := c.body?.isSome } := by
  obtain ⟨⟨opened, w⟩, hconnect, heq⟩ := Option.map_eq_some_iff.mp h
  obtain ⟨⟨opened', f⟩, hfeed, hfw⟩ := Option.map_eq_some_iff.mp hconnect
  have hfeed : s.feed.connect = some (opened', f) := hfeed
  cases hfw
  cases heq
  unfold Feed.connect at hfeed
  split at hfeed
  · exact nomatch hfeed
  · rename_i c coming hcoming
    cases hfeed
    exact ⟨c, coming, hcoming, rfl, rfl⟩

theorem exists_connected_fed {url : Url} (h : s.feed.coming ≠ []) :
    ∃ x u, s.connected (fed around) url = some (x, u) := by
  obtain ⟨c, coming, hcoming⟩ := List.exists_cons_of_ne_nil h
  have hconnect : s.feed.connect = some (c.body?.isSome, ⟨coming, c.events⟩) := by
    unfold Feed.connect
    rw [hcoming]
  have hfed : (fed around).connect url s.outside =
      s.feed.connect.map fun p => (p.1, (p.2, s.outside.2)) := rfl
  unfold State.connected
  rw [hfed, hconnect]
  exact ⟨_, _, rfl⟩

/-- The next arrival is the next event of the open stream, or the end of it. -/
theorem nextArrival_fed {x : Arrival} (h : s.nextArrival (fed around) = some (x, s')) :
    (∃ e now, s.feed.now = e :: now ∧ x = .event e ∧
        s' = s.setOutside (⟨s.feed.coming, now⟩, s.outside.2)) ∨
      s.feed.now = [] ∧ x = .ended ∧ s' = { s with isOpen := false } := by
  obtain ⟨⟨found, w⟩, hevent, heq⟩ := Option.map_eq_some_iff.mp h
  have hevent : some (s.feed.next.1, (s.feed.next.2, s.outside.2)) = some (found, w) := hevent
  cases hnow : s.feed.now with
  | nil =>
      have hnext : s.feed.next = (none, s.feed) := by
        unfold Feed.next
        rw [hnow]
      rw [hnext] at hevent
      cases hevent
      cases heq
      exact Or.inr ⟨rfl, rfl, rfl⟩
  | cons e now =>
      have hnext : s.feed.next = (some e, ⟨s.feed.coming, now⟩) := by
        unfold Feed.next
        rw [hnow]
      rw [hnext] at hevent
      cases hevent
      cases heq
      exact Or.inl ⟨e, now, rfl, rfl, rfl⟩

/-- A wait that is over has taken nothing of the feed. -/
theorem waited_fed {d : Duration} {stop : Bool}
    (h : ((fed around).pause d s.outside).map (fun w => (false, s.setOutside w)) =
      some (stop, s')) :
    stop = false ∧ ∃ w, s' = s.setOutside (s.feed, w) := by
  obtain ⟨fw, hpause, heq⟩ := Option.map_eq_some_iff.mp h
  obtain ⟨w, -, rfl⟩ := Option.map_eq_some_iff.mp hpause
  cases heq
  exact ⟨rfl, w, rfl⟩

end Overlay.Agent
