import Overlay.Device.Channel
import Mathlib.Data.List.Forall2

/-!
# What a device in memory carries

The two sides of a device call it in any order, and each may go away.  A `Course` is one such
order: every call with what came of it, from the first to the last.  A call that has to wait
stands where it is answered.

Each direction is a `Lane`: a queue with room for 1024 packets that one side fills, until it will
put nothing more in, and the other side empties, until it goes away.  `Lane.Step` lists what can
happen to it.  One look at the calls shows that they do nothing else to either direction
(`outbound_traces`, `inbound_traces`); what holds of every lane then holds of both.

* `Lane.Conveys`: what comes out of a lane is what was put in, in order, and the end only after
  the last packet.
* `Separate`: the calls of one direction, alone, make a course with the same answers.
* `Course.lossless`: what is true of a device after any calls.
-/

namespace Overlay.Channel

variable {c c' d : Channel} {p q : Packet} {size : Nat}

/-! ## One direction -/

/-- One direction of a device. -/
structure Lane where
  /-- What was put in and not taken out, the oldest first. -/
  waiting : List Packet
  /-- Will nothing more be put in? -/
  finished : Bool
  /-- Has the side that takes the packets out gone away? -/
  lost : Bool

namespace Lane

variable {l l' : Lane} {put before taken : List Packet} {found got : List (Option Packet)}
  {ends : Nat}

/-- What can happen to a lane, with the packets that are put in and what is found at the other
    side, which is a packet or the end. -/
inductive Step (l : Lane) : List Packet → List (Option Packet) → Lane → Prop where
  /-- A packet is put in, for which there is room. -/
  | put (p : Packet) : l.finished = false → l.lost = false → l.waiting.length < capacity →
      Step l [p] [] { l with waiting := l.waiting ++ [p] }
  /-- The oldest packet is taken out. -/
  | packet (p : Packet) (rest : List Packet) : l.lost = false → l.waiting = p :: rest →
      Step l [] [some p] { l with waiting := rest }
  /-- Nothing is there, and nothing will come. -/
  | ended : l.finished = true → l.lost = false → l.waiting = [] → Step l [] [none] l
  /-- Nothing more will be put in. -/
  | stop : Step l [] [] { l with finished := true }
  /-- The side that takes the packets out goes away, and what waits with it. -/
  | lose : Step l [] [] { l with waiting := [], lost := true }
  /-- The call concerns the other direction, or it has failed. -/
  | idle : Step l [] [] l

/-- The packets `taken` have been found, in order, and the end `ends` times after them.  They are
    the first of those put in.  The end is found only when all of them have come out; what has not
    come out is waiting, unless the side that takes it has gone away. -/
structure Conveys (put : List Packet) (found : List (Option Packet)) (waiting : List Packet)
    (finished lost : Prop) (taken : List Packet) (ends : Nat) : Prop where
  found_eq : found = taken.map some ++ List.replicate ends none
  taken_first : taken <+: put
  ended : ends ≠ 0 → taken = put ∧ finished
  put_eq : ¬ lost → put = taken ++ waiting
  room : waiting.length ≤ 1024

theorem Conveys.ends_eq_zero {waiting : List Packet} {finished lost : Prop}
    (h : Conveys put found waiting finished lost taken ends) (hmore : finished → taken ≠ put) :
    ends = 0 := by
  by_contra hne
  obtain ⟨hall, hdone⟩ := h.ended hne
  exact hmore hdone hall

/-- Whatever happens to a lane, it conveys what is put in. -/
theorem Step.conveys (h : l.Step put found l')
    (hl : Conveys before got l.waiting (l.finished = true) (l.lost = true) taken ends) :
    ∃ taken' ends', Conveys (before ++ put) (got ++ found) l'.waiting (l'.finished = true)
      (l'.lost = true) taken' ends' := by
  cases h with
  | put p hopen hthere hroom =>
      -- the end has not been found yet, because the lane is not finished
      obtain rfl := hl.ends_eq_zero fun hdone => absurd (hopen.symm.trans hdone) Bool.false_ne_true
      refine ⟨taken, 0, ?_, hl.taken_first.trans (List.prefix_append _ _),
        fun hne => absurd rfl hne, fun hnot => ?_, ?_⟩
      · rw [List.append_nil]
        exact hl.found_eq
      · rw [hl.put_eq hnot, List.append_assoc]
      · rw [List.length_append, List.length_singleton]
        exact hroom
  | packet p rest hthere hw =>
      have hput : before = taken ++ p :: rest := hw ▸ hl.put_eq (hthere ▸ Bool.false_ne_true)
      -- nor has it here, because a packet has not come out yet
      obtain rfl := hl.ends_eq_zero fun _ hall =>
        List.cons_ne_nil p rest (List.self_eq_append_right.mp (hall.trans hput))
      refine ⟨taken ++ [p], 0, ?_, ⟨rest, ?_⟩, fun hne => absurd rfl hne, fun _ => ?_, ?_⟩
      · rw [hl.found_eq, List.map_append, List.replicate_zero, List.append_nil, List.append_nil,
          List.map_singleton]
      · rw [hput, List.append_nil, List.append_assoc, List.singleton_append]
      · rw [hput, List.append_nil, List.append_assoc, List.singleton_append]
      · have hroom := hl.room
        rw [hw, List.length_cons] at hroom
        exact Nat.le_of_succ_le hroom
  | ended hdone hthere hw =>
      have hput : before = taken ++ l.waiting := hl.put_eq (hthere ▸ Bool.false_ne_true)
      have htaken : taken = before ++ [] := by rw [hput, hw, List.append_nil, List.append_nil]
      refine ⟨taken, ends + 1, ?_, htaken ▸ List.prefix_rfl, fun _ => ⟨htaken, hdone⟩, fun _ => ?_,
        hl.room⟩
      · rw [hl.found_eq, List.replicate_succ', List.append_assoc]
      · rw [← htaken, hw, List.append_nil]
  | stop =>
      rw [List.append_nil, List.append_nil]
      exact ⟨taken, ends, { hl with ended := fun hne => ⟨(hl.ended hne).1, rfl⟩ }⟩
  | lose =>
      rw [List.append_nil, List.append_nil]
      exact ⟨taken, ends, { hl with put_eq := fun hnot => absurd rfl hnot, room := Nat.zero_le _ }⟩
  | idle =>
      rw [List.append_nil, List.append_nil]
      exact ⟨taken, ends, hl⟩

/-- No packet can be put in: there is no room, or no one to take it. -/
def Blocked (l : Lane) : Prop := l.waiting.length = capacity ∨ l.lost = true

/-- As long as nothing is taken out of a blocked lane, nothing is put in. -/
theorem Step.blocked (h : l.Step put found l') (hl : l.Blocked) (hfound : found = []) :
    put = [] ∧ l'.Blocked := by
  cases h with
  | put p _ hthere hroom =>
      rcases hl with hfull | hlost
      · exact absurd hfull (Nat.ne_of_lt hroom)
      · exact absurd (hthere.symm.trans hlost) Bool.false_ne_true
  | packet p rest _ _ => exact nomatch hfound
  | ended _ _ _ => exact nomatch hfound
  | stop => exact ⟨rfl, hl⟩
  | lose => exact ⟨rfl, Or.inr rfl⟩
  | idle => exact ⟨rfl, hl⟩

end Lane

/-! ## What each call can do -/

theorem transmit_cases {x : Except IoError Unit} (h : c.transmit p = some (x, c')) :
    ((∃ e, x = .error e) ∧ c' = c) ∨
      (x = .ok () ∧ c.closed = false ∧ c.tunnelGone = false ∧ c.outgoing.length < capacity ∧
        c' = { c with outgoing := c.outgoing ++ [p] }) := by
  unfold transmit at h
  split_ifs at h with hclosed hgone hroom
  · cases h
    exact Or.inl ⟨⟨_, rfl⟩, rfl⟩
  · cases h
    exact Or.inl ⟨⟨_, rfl⟩, rfl⟩
  · cases h
    exact Or.inr ⟨rfl, eq_false_of_ne_true hclosed, eq_false_of_ne_true hgone, hroom, rfl⟩

theorem read_cases (h : c.read size = some (q, c')) :
    (∃ p rest, c.outgoing = p :: rest ∧ q = p.take size ∧ c' = { c with outgoing := rest }) ∨
      (c.outgoing = [] ∧ (c.closed || c.handleGone) = true ∧ q = [] ∧ c' = c) := by
  unfold read at h
  split at h
  · rename_i p rest hw
    cases h
    exact Or.inl ⟨p, rest, hw, rfl, rfl⟩
  · rename_i hw
    split_ifs at h with hdone
    cases h
    exact Or.inr ⟨hw, hdone, rfl, rfl⟩

theorem write_cases {x : Except IoError Unit} (h : c.write p = some (x, c')) :
    ((∃ e, x = .error e) ∧ c' = c) ∨
      (x = .ok () ∧ c.handleGone = false ∧ c.incoming.length < capacity ∧
        c' = { c with incoming := c.incoming ++ [p] }) := by
  unfold write at h
  split_ifs at h with hgone hroom
  · cases h
    exact Or.inl ⟨⟨_, rfl⟩, rfl⟩
  · cases h
    exact Or.inr ⟨rfl, eq_false_of_ne_true hgone, hroom, rfl⟩

theorem take_cases {x : Option Packet} (h : c.take = some (x, c')) :
    (∃ p rest, c.incoming = p :: rest ∧ x = some p ∧ c' = { c with incoming := rest }) ∨
      (c.incoming = [] ∧ c.tunnelGone = true ∧ x = none ∧ c' = c) := by
  unfold take at h
  split at h
  · rename_i p rest hw
    cases h
    exact Or.inl ⟨p, rest, hw, rfl, rfl⟩
  · rename_i hw
    split_ifs at h with hgone
    cases h
    exact Or.inr ⟨hw, hgone, rfl, rfl⟩

/-! ## Calls in any order -/

/-- A call on a device and what came of it. -/
inductive Event where
  /-- The handle has sent a packet, or could not. -/
  | transmit (p : Packet) (x : Except IoError Unit)
  /-- The tunnel has read into a buffer of the given size. -/
  | read (size : Nat) (q : Packet)
  /-- The tunnel has written a packet, or could not. -/
  | write (p : Packet) (x : Except IoError Unit)
  /-- The handle has taken a packet, or learned that none will come. -/
  | take (x : Option Packet)
  /-- The handle has closed its direction. -/
  | close
  /-- The handle has gone away. -/
  | dropHandle
  /-- The tunnel's side has gone away. -/
  | dropTunnel

/-- The call can be made and is answered so.  A side that has gone away calls no more. -/
def Step (c : Channel) : Event → Channel → Prop
  | .transmit p x, c' => c.handleGone = false ∧ c.transmit p = some (x, c')
  | .read size q, c' => c.tunnelGone = false ∧ c.read size = some (q, c')
  | .write p x, c' => c.tunnelGone = false ∧ c.write p = some (x, c')
  | .take x, c' => c.handleGone = false ∧ c.take = some (x, c')
  | .close, c' => c.handleGone = false ∧ c' = c.close
  | .dropHandle, c' => c.handleGone = false ∧ c' = c.dropHandle
  | .dropTunnel, c' => c.tunnelGone = false ∧ c' = c.dropTunnel

/-- Calls that are made one after the other, whoever makes them, the first one first. -/
inductive Course : Channel → List Event → Channel → Prop where
  | nil {c : Channel} : Course c [] c
  | cons {c c' d : Channel} {e : Event} {es : List Event} :
      Step c e c' → Course c' es d → Course c (e :: es) d

variable {e : Event} {es : List Event}

/-- The packet that the handle sent, when the device has accepted it. -/
def Event.accepted? : Event → Option Packet
  | .transmit p (.ok _) => some p
  | _ => none

/-- The size of the buffer that the tunnel read into, and what it read. -/
def Event.read? : Event → Option (Nat × Packet)
  | .read size q => some (size, q)
  | _ => none

/-- The packet that the tunnel wrote, when the device has accepted it. -/
def Event.written? : Event → Option Packet
  | .write p (.ok _) => some p
  | _ => none

/-- What the handle found when it took a packet. -/
def Event.taken? : Event → Option (Option Packet)
  | .take x => some x
  | _ => none

/-- What went into the device at the handle and was accepted. -/
def accepted (es : List Event) : List Packet := es.filterMap Event.accepted?

/-- What the tunnel has read, with the sizes of its buffers. -/
def reads (es : List Event) : List (Nat × Packet) := es.filterMap Event.read?

/-- What went into the device at the tunnel and was accepted. -/
def written (es : List Event) : List Packet := es.filterMap Event.written?

/-- What the handle has found. -/
def takes (es : List Event) : List (Option Packet) := es.filterMap Event.taken?

/-- What is read is as much of the packet as the buffer holds, and at the end it has length zero. -/
def Cut (r : Nat × Packet) (x : Option Packet) : Prop := r.2 = (x.getD []).take r.1

/-! ## Both directions are lanes -/

/-- From the handle to the tunnel. -/
def outbound (c : Channel) : Lane := ⟨c.outgoing, c.closed || c.handleGone, c.tunnelGone⟩

/-- From the tunnel to the handle. -/
def inbound (c : Channel) : Lane := ⟨c.incoming, c.tunnelGone, c.handleGone⟩

/-- Every call is a step of the lane that is seen in the device: `put` and `got` are what it puts
    in and gets out, and what it gets shows what is found. -/
def Traces {β : Type} (side : Channel → Lane) (put : Event → Option Packet)
    (got : Event → Option β) (Shows : β → Option Packet → Prop) : Prop :=
  ∀ {c e c'}, Step c e c' →
    ∃ found, List.Forall₂ Shows (got e).toList found ∧
      (side c).Step (put e).toList found (side c')

theorem outbound_traces : Traces outbound Event.accepted? Event.read? Cut := by
  intro c e c' h
  cases e with
  | transmit p x =>
      obtain ⟨hhandle, hx⟩ := h
      rcases transmit_cases hx with ⟨⟨e, rfl⟩, rfl⟩ | ⟨rfl, hopen, hthere, hroom, rfl⟩
      · exact ⟨[], .nil, .idle⟩
      · exact ⟨[], .nil, .put p (by rw [outbound, hopen, hhandle, Bool.or_false]) hthere hroom⟩
  | read size q =>
      obtain ⟨hthere, hx⟩ := h
      rcases read_cases hx with ⟨p, rest, hw, rfl, rfl⟩ | ⟨hw, hdone, rfl, rfl⟩
      · exact ⟨[some p], .cons rfl .nil, .packet p rest hthere hw⟩
      · exact ⟨[none], .cons List.take_nil.symm .nil, .ended hdone hthere hw⟩
  | write p x =>
      rcases write_cases h.2 with ⟨-, rfl⟩ | ⟨-, -, -, rfl⟩ <;>
        exact ⟨[], .nil, .idle⟩
  | take x =>
      rcases take_cases h.2 with ⟨p, rest, -, -, rfl⟩ | ⟨-, -, -, rfl⟩ <;>
        exact ⟨[], .nil, .idle⟩
  | close =>
      obtain ⟨-, rfl⟩ := h
      exact ⟨[], .nil, .stop⟩
  | dropHandle =>
      obtain ⟨-, rfl⟩ := h
      refine ⟨[], .nil, ?_⟩
      have hdone : outbound c.dropHandle = { outbound c with finished := true } := by
        rw [outbound, dropHandle, outbound, Bool.or_true]
      rw [hdone]
      exact .stop
  | dropTunnel =>
      obtain ⟨-, rfl⟩ := h
      exact ⟨[], .nil, .lose⟩

theorem inbound_traces : Traces inbound Event.written? Event.taken? Eq := by
  intro c e c' h
  cases e with
  | transmit p x =>
      rcases transmit_cases h.2 with ⟨-, rfl⟩ | ⟨-, -, -, -, rfl⟩ <;>
        exact ⟨[], .nil, .idle⟩
  | read size q =>
      rcases read_cases h.2 with ⟨p, rest, -, -, rfl⟩ | ⟨-, -, -, rfl⟩ <;>
        exact ⟨[], .nil, .idle⟩
  | write p x =>
      obtain ⟨htunnel, hx⟩ := h
      rcases write_cases hx with ⟨⟨e, rfl⟩, rfl⟩ | ⟨rfl, hthere, hroom, rfl⟩
      · exact ⟨[], .nil, .idle⟩
      · exact ⟨[], .nil, .put p htunnel hthere hroom⟩
  | take x =>
      obtain ⟨hthere, hx⟩ := h
      rcases take_cases hx with ⟨p, rest, hw, rfl, rfl⟩ | ⟨hw, hdone, rfl, rfl⟩
      · exact ⟨[some p], .cons rfl .nil, .packet p rest hthere hw⟩
      · exact ⟨[none], .cons rfl .nil, .ended hdone hthere hw⟩
  | close =>
      obtain ⟨-, rfl⟩ := h
      exact ⟨[], .nil, .idle⟩
  | dropHandle =>
      obtain ⟨-, rfl⟩ := h
      exact ⟨[], .nil, .lose⟩
  | dropTunnel =>
      obtain ⟨-, rfl⟩ := h
      exact ⟨[], .nil, .stop⟩

namespace Traces

variable {β : Type} {side : Channel → Lane} {put : Event → Option Packet} {got : Event → Option β}
  {Shows : β → Option Packet → Prop}

private theorem filterMap_cons_eq {α γ : Type} (f : α → Option γ) (a : α) (l : List α) :
    (a :: l).filterMap f = (f a).toList ++ l.filterMap f := by
  rw [List.filterMap_eq_flatMap_toList, List.flatMap_cons, List.filterMap_eq_flatMap_toList]

/-- A direction that has conveyed what was put in goes on to do so. -/
theorem conveys (ht : Traces side put got Shows) (h : Course c es d) {before taken : List Packet}
    {found : List (Option Packet)} {ends : Nat}
    (hc : Lane.Conveys before found (side c).waiting ((side c).finished = true)
      ((side c).lost = true) taken ends) :
    ∃ more taken' ends', List.Forall₂ Shows (es.filterMap got) more ∧
      Lane.Conveys (before ++ es.filterMap put) (found ++ more) (side d).waiting
        ((side d).finished = true) ((side d).lost = true) taken' ends' := by
  induction h generalizing before found taken ends with
  | nil =>
      refine ⟨[], taken, ends, .nil, ?_⟩
      rw [List.filterMap_nil, List.append_nil, List.append_nil]
      exact hc
  | @cons c c' d e es hstep _ ih =>
      obtain ⟨first, hfirst, hlane⟩ := ht hstep
      obtain ⟨taken₁, ends₁, hc₁⟩ := hlane.conveys hc
      obtain ⟨more, taken', ends', hmore, hc'⟩ := ih hc₁
      refine ⟨first ++ more, taken', ends', ?_, ?_⟩
      · rw [filterMap_cons_eq]
        exact List.rel_append hfirst hmore
      · rw [filterMap_cons_eq, ← List.append_assoc, ← List.append_assoc]
        exact hc'

/-- A direction of a new device conveys what is put in. -/
theorem conveys_all (ht : Traces side put got Shows) (hnew : (side {}).waiting = [])
    (h : Course {} es c) :
    ∃ found taken ends, List.Forall₂ Shows (es.filterMap got) found ∧
      Lane.Conveys (es.filterMap put) found (side c).waiting ((side c).finished = true)
        ((side c).lost = true) taken ends := by
  have hroom : (side {}).waiting.length ≤ 1024 := by
    rw [hnew]
    exact Nat.zero_le 1024
  have hnothing : Lane.Conveys [] [] (side {}).waiting ((side {}).finished = true)
      ((side {}).lost = true) [] 0 :=
    ⟨rfl, List.prefix_rfl, fun hne => absurd rfl hne, fun _ => hnew.symm, hroom⟩
  exact ht.conveys h hnothing

/-- As long as nothing is taken out of a direction that is blocked, nothing is put in. -/
theorem blocked (ht : Traces side put got Shows) (h : Course c es d) (hc : (side c).Blocked)
    (hgot : es.filterMap got = []) : es.filterMap put = [] := by
  induction h with
  | nil => rfl
  | @cons c c' d e es hstep _ ih =>
      rw [filterMap_cons_eq, List.append_eq_nil_iff] at hgot
      obtain ⟨found, hfound, hlane⟩ := ht hstep
      rw [hgot.1, List.forall₂_nil_left_iff] at hfound
      obtain ⟨hput, hc'⟩ := hlane.blocked hc hfound
      rw [filterMap_cons_eq, hput, ih hc' hgot.2, List.nil_append]

end Traces

/-! ## What the device remembers -/

/-- A call changes only the flag that it is about. -/
theorem Step.flags (h : Step c e c') :
    (c'.closed = true ↔ c.closed = true ∨ .close = e) ∧
      (c'.handleGone = true ↔ c.handleGone = true ∨ .dropHandle = e) ∧
      (c'.tunnelGone = true ↔ c.tunnelGone = true ∨ .dropTunnel = e) := by
  cases e with
  | transmit p x =>
      rcases transmit_cases h.2 with ⟨-, rfl⟩ | ⟨-, -, -, -, rfl⟩ <;>
        simp only [reduceCtorEq, or_false, and_self]
  | read size q =>
      rcases read_cases h.2 with ⟨p, rest, -, -, rfl⟩ | ⟨-, -, -, rfl⟩ <;>
        simp only [reduceCtorEq, or_false, and_self]
  | write p x =>
      rcases write_cases h.2 with ⟨-, rfl⟩ | ⟨-, -, -, rfl⟩ <;>
        simp only [reduceCtorEq, or_false, and_self]
  | take x =>
      rcases take_cases h.2 with ⟨p, rest, -, -, rfl⟩ | ⟨-, -, -, rfl⟩ <;>
        simp only [reduceCtorEq, or_false, and_self]
  | close =>
      obtain ⟨-, rfl⟩ := h
      simp only [Channel.close, reduceCtorEq, or_false, or_true, and_self]
  | dropHandle =>
      obtain ⟨-, rfl⟩ := h
      simp only [Channel.dropHandle, reduceCtorEq, or_false, or_true, and_self]
  | dropTunnel =>
      obtain ⟨-, rfl⟩ := h
      simp only [Channel.dropTunnel, reduceCtorEq, or_false, or_true, and_self]

/-- The flags tell which calls there have been. -/
theorem Course.flags (h : Course c es d) :
    (d.closed = true ↔ c.closed = true ∨ .close ∈ es) ∧
      (d.handleGone = true ↔ c.handleGone = true ∨ .dropHandle ∈ es) ∧
      (d.tunnelGone = true ↔ c.tunnelGone = true ∨ .dropTunnel ∈ es) := by
  induction h with
  | nil => simp only [List.not_mem_nil, or_false, and_self]
  | @cons c c' d e es hstep _ ih =>
      obtain ⟨hclosed, hhandle, htunnel⟩ := hstep.flags
      simp only [List.mem_cons, ← or_assoc, ← hclosed, ← hhandle, ← htunnel]
      exact ih

/-! ## Each direction alone -/

/-- The device as it would be had nothing been written or taken. -/
def outboundOnly (c : Channel) : Channel := { c with incoming := [] }

/-- The device as it would be had nothing been sent, read or closed. -/
def inboundOnly (c : Channel) : Channel := { c with outgoing := [], closed := false }

/-- Does the call concern what the handle sends and the tunnel reads? -/
def Event.isOutbound : Event → Bool
  | .write _ _ => false
  | .take _ => false
  | _ => true

/-- Does the call concern what the tunnel writes and the handle takes? -/
def Event.isInbound : Event → Bool
  | .transmit _ _ => false
  | .read _ _ => false
  | .close => false
  | _ => true

/-- The calls `own` depend on what is in view alone, and no other call changes that. -/
structure Separate (view : Channel → Channel) (own : Event → Bool) : Prop where
  step_iff : ∀ {c d e}, own e = true → (Step (view c) e d ↔ ∃ c', Step c e c' ∧ view c' = d)
  unseen : ∀ {c c' e}, Step c e c' → own e = false → view c' = view c

namespace Separate

variable {view : Channel → Channel} {own : Event → Bool}

/-- The calls of one direction make a course without the other ones, with the same answers. -/
theorem course (hs : Separate view own) (h : Course c es d) :
    Course (view c) (es.filter own) (view d) := by
  induction h with
  | nil => exact .nil
  | @cons c c' d e es hstep _ ih =>
      cases he : own e with
      | true =>
          rw [List.filter_cons_of_pos he]
          exact .cons ((hs.step_iff he).mpr ⟨c', hstep, rfl⟩) ih
      | false =>
          rw [List.filter_cons_of_neg (he ▸ Bool.false_ne_true), ← hs.unseen hstep he]
          exact ih

/-- What a call of one direction is answered does not depend on the other one. -/
theorem exists_step_iff (hs : Separate view own) (he : own e = true) :
    (∃ c', Step c e c') ↔ ∃ d, Step (view c) e d := by
  simp only [hs.step_iff he]
  exact ⟨fun ⟨c', h⟩ => ⟨_, c', h, rfl⟩, fun ⟨_, c', h, _⟩ => ⟨c', h⟩⟩

end Separate

theorem transmit_outboundOnly :
    c.outboundOnly.transmit p = (c.transmit p).map (Prod.map id outboundOnly) := by
  unfold transmit outboundOnly
  split_ifs <;> rfl

theorem read_outboundOnly :
    c.outboundOnly.read size = (c.read size).map (Prod.map id outboundOnly) := by
  unfold read
  rw [show c.outboundOnly.outgoing = c.outgoing from rfl]
  split
  · rfl
  · rw [apply_ite (Option.map (Prod.map id outboundOnly))]
    rfl

theorem write_inboundOnly :
    c.inboundOnly.write p = (c.write p).map (Prod.map id inboundOnly) := by
  unfold write inboundOnly
  split_ifs <;> rfl

theorem take_inboundOnly : c.inboundOnly.take = c.take.map (Prod.map id inboundOnly) := by
  unfold take
  rw [show c.inboundOnly.incoming = c.incoming from rfl]
  split
  · rfl
  · rw [apply_ite (Option.map (Prod.map id inboundOnly))]
    rfl

section

variable {α : Type} {view : Channel → Channel} {there : Prop}

/-- A call that gives an outcome, where its outcome can be seen. -/
private theorem outcome_iff {m m' : Option (α × Channel)} {x : α}
    (hm : m' = m.map (Prod.map id view)) :
    (there ∧ m' = some (x, d)) ↔ ∃ c', (there ∧ m = some (x, c')) ∧ view c' = d := by
  rw [hm, Option.map_eq_some_iff]
  constructor
  · rintro ⟨hthere, ⟨y, c'⟩, hy, heq⟩
    cases heq
    exact ⟨c', ⟨hthere, hy⟩, rfl⟩
  · rintro ⟨c', ⟨hthere, hx⟩, rfl⟩
    exact ⟨hthere, (x, c'), hx, rfl⟩

/-- A call that only changes the device, where the change can be seen. -/
private theorem change_iff {next next' : Channel} (hnext : next' = view next) :
    (there ∧ d = next') ↔ ∃ c', (there ∧ c' = next) ∧ view c' = d := by
  rw [hnext]
  constructor
  · rintro ⟨hthere, rfl⟩
    exact ⟨next, ⟨hthere, rfl⟩, rfl⟩
  · rintro ⟨c', ⟨hthere, rfl⟩, rfl⟩
    exact ⟨hthere, rfl⟩

end

theorem outbound_separate : Separate outboundOnly Event.isOutbound where
  step_iff {c d e} he := by
    cases e with
    | transmit p x => exact outcome_iff transmit_outboundOnly
    | read size q => exact outcome_iff read_outboundOnly
    | close | dropHandle | dropTunnel => exact change_iff rfl
    | write | take => exact nomatch he
  unseen {c c' e} h he := by
    cases e with
    | write p x => rcases write_cases h.2 with ⟨-, rfl⟩ | ⟨-, -, -, rfl⟩ <;> rfl
    | take x => rcases take_cases h.2 with ⟨p, rest, -, -, rfl⟩ | ⟨-, -, -, rfl⟩ <;> rfl
    | transmit | read | close | dropHandle | dropTunnel => exact nomatch he

theorem inbound_separate : Separate inboundOnly Event.isInbound where
  step_iff {c d e} he := by
    cases e with
    | write p x => exact outcome_iff write_inboundOnly
    | take x => exact outcome_iff take_inboundOnly
    | dropHandle | dropTunnel => exact change_iff rfl
    | transmit | read | close => exact nomatch he
  unseen {c c' e} h he := by
    cases e with
    | transmit p x => rcases transmit_cases h.2 with ⟨-, rfl⟩ | ⟨-, -, -, -, rfl⟩ <;> rfl
    | read size q => rcases read_cases h.2 with ⟨p, rest, -, -, rfl⟩ | ⟨-, -, -, rfl⟩ <;> rfl
    | close =>
        obtain ⟨-, rfl⟩ := h
        rfl
    | write | take | dropHandle | dropTunnel => exact nomatch he

/-! ## The whole device -/

/-- The tunnel can read all that waits, into buffers of any sizes. -/
theorem course_reads {waiting : List Packet} {sizes : List Nat} (hthere : c.tunnelGone = false)
    (hw : c.outgoing = waiting) (hsizes : sizes.length = waiting.length) :
    Course c (List.zipWith (fun n p => .read n (p.take n)) sizes waiting)
      { c with outgoing := [] } := by
  induction waiting generalizing c sizes with
  | nil =>
      rw [List.zipWith_nil_right, ← hw]
      exact .nil
  | cons p rest ih =>
      obtain ⟨n, ns, rfl⟩ := List.exists_cons_of_length_eq_add_one hsizes
      have hread : c.read n = some (p.take n, { c with outgoing := rest }) := by rw [read, hw]
      have hrest := ih (c := { c with outgoing := rest }) hthere rfl (Nat.succ.inj hsizes)
      exact .cons ⟨hthere, hread⟩ hrest

/-- The handle can take all that waits. -/
theorem course_takes {waiting : List Packet} (hthere : c.handleGone = false)
    (hw : c.incoming = waiting) :
    Course c (waiting.map fun p => .take (some p)) { c with incoming := [] } := by
  induction waiting generalizing c with
  | nil =>
      rw [List.map_nil, ← hw]
      exact .nil
  | cons p rest ih =>
      have htake : c.take = some (some p, { c with incoming := rest }) := by rw [take, hw]
      have hrest := ih (c := { c with incoming := rest }) hthere rfl
      exact .cons ⟨hthere, htake⟩ hrest

/-- What is true of a device after the calls `es`. -/
structure Lossless (es : List Event) (c : Channel) : Prop where
  /-- The tunnel reads what the handle has sent, in order, each packet cut to its buffer, and the
  end only after all of it; what it has not read is waiting. -/
  outbound : ∃ found taken ends, List.Forall₂ Cut (reads es) found ∧
    Lane.Conveys (accepted es) found c.outgoing (.close ∈ es ∨ .dropHandle ∈ es)
      (.dropTunnel ∈ es) taken ends
  /-- The handle takes what the tunnel has written, in the same way. -/
  inbound : ∃ taken ends, Lane.Conveys (written es) (takes es) c.incoming (.dropTunnel ∈ es)
    (.dropHandle ∈ es) taken ends
  /-- One direction goes on as if there were no calls of the other. -/
  outbound_alone : Course {} (es.filter Event.isOutbound) c.outboundOnly ∧
    ∀ e, e.isOutbound = true → ((∃ c', Step c e c') ↔ ∃ d, Step c.outboundOnly e d)
  inbound_alone : Course {} (es.filter Event.isInbound) c.inboundOnly ∧
    ∀ e, e.isInbound = true → ((∃ c', Step c e c') ↔ ∃ d, Step c.inboundOnly e d)
  /-- While 1024 packets wait, no further one is accepted before one is taken. -/
  outbound_full : c.outgoing.length = 1024 →
    ∀ {es' d}, Course c es' d → reads es' = [] → accepted es' = []
  inbound_full : c.incoming.length = 1024 →
    ∀ {es' d}, Course c es' d → takes es' = [] → written es' = []
  /-- What is sent comes to the end of the queue, or has to wait for room there. -/
  transmit_open : .close ∉ es → .dropTunnel ∉ es → ∀ p, c.transmit p =
    if c.outgoing.length < 1024 then some (.ok (), { c with outgoing := c.outgoing ++ [p] })
    else none
  /-- Nothing is sent through a closed device, whether its other side is there or not. -/
  transmit_closed : .close ∈ es → ∀ p, ∃ e, c.transmit p = some (.error e, c) ∧
    e.kind = .notConnected
  /-- Nothing is sent to a side that has gone away. -/
  transmit_dropped : .close ∉ es → .dropTunnel ∈ es → ∀ p, ∃ e,
    c.transmit p = some (.error e, c) ∧ e.kind = .brokenPipe
  write_open : .dropHandle ∉ es → ∀ p, c.write p =
    if c.incoming.length < 1024 then some (.ok (), { c with incoming := c.incoming ++ [p] })
    else none
  write_dropped : .dropHandle ∈ es → ∀ p, ∃ e, c.write p = some (.error e, c) ∧
    e.kind = .brokenPipe
  /-- All that waits can be read, and when nothing more can be sent the end follows. -/
  outbound_drains : .dropTunnel ∉ es →
    (∀ sizes : List Nat, sizes.length = c.outgoing.length →
      Course c (List.zipWith (fun n p => .read n (p.take n)) sizes c.outgoing)
        { c with outgoing := [] }) ∧
    (.close ∈ es ∨ .dropHandle ∈ es → ∀ size,
      Step { c with outgoing := [] } (.read size []) { c with outgoing := [] })
  inbound_drains : .dropHandle ∉ es →
    Course c (c.incoming.map fun p => .take (some p)) { c with incoming := [] } ∧
    (.dropTunnel ∈ es → Step { c with incoming := [] } (.take none) { c with incoming := [] })

/-- **A device in memory loses nothing, duplicates nothing and keeps the order**, whatever calls
    are made and in whatever order. -/
theorem Course.lossless (h : Course {} es c) : Lossless es c := by
  obtain ⟨hclosed, hhandle, htunnel⟩ := h.flags
  simp only [Bool.false_eq_true, false_or] at hclosed hhandle htunnel
  constructor
  case outbound =>
    rw [← hclosed, ← hhandle, ← htunnel, ← Bool.or_eq_true]
    exact outbound_traces.conveys_all rfl h
  case inbound =>
    obtain ⟨found, taken, ends, hfound, hc⟩ := inbound_traces.conveys_all rfl h
    rw [List.forall₂_eq_eq_eq] at hfound
    rw [← hhandle, ← htunnel, takes, hfound]
    exact ⟨taken, ends, hc⟩
  case outbound_alone =>
    exact ⟨outbound_separate.course h, fun e he => outbound_separate.exists_step_iff he⟩
  case inbound_alone =>
    exact ⟨inbound_separate.course h, fun e he => inbound_separate.exists_step_iff he⟩
  case outbound_full =>
    intro hfull es' d h' hreads
    exact outbound_traces.blocked h' (Or.inl hfull) hreads
  case inbound_full =>
    intro hfull es' d h' htakes
    exact inbound_traces.blocked h' (Or.inl hfull) htakes
  case transmit_open =>
    intro hopen hthere p
    rw [transmit, if_neg (hclosed.not.mpr hopen), if_neg (htunnel.not.mpr hthere)]
    rfl
  case transmit_closed =>
    intro hin p
    exact ⟨closedError, by rw [transmit, if_pos (hclosed.mpr hin)], rfl⟩
  case transmit_dropped =>
    intro hopen hgone p
    refine ⟨tunnelGoneError, ?_, rfl⟩
    rw [transmit, if_neg (hclosed.not.mpr hopen), if_pos (htunnel.mpr hgone)]
  case write_open =>
    intro hthere p
    rw [write, if_neg (hhandle.not.mpr hthere)]
    rfl
  case write_dropped =>
    intro hgone p
    exact ⟨handleGoneError, by rw [write, if_pos (hhandle.mpr hgone)], rfl⟩
  case outbound_drains =>
    intro hthere
    have htunnel' : c.tunnelGone = false := eq_false_of_ne_true (htunnel.not.mpr hthere)
    refine ⟨fun sizes hsizes => course_reads htunnel' rfl hsizes, fun hdone size => ⟨htunnel', ?_⟩⟩
    rw [← hclosed, ← hhandle, ← Bool.or_eq_true] at hdone
    rw [read, if_pos hdone]
  case inbound_drains =>
    intro hthere
    have hhandle' : c.handleGone = false := eq_false_of_ne_true (hhandle.not.mpr hthere)
    refine ⟨course_takes hhandle' rfl, fun hgone => ⟨hhandle', ?_⟩⟩
    rw [take, if_pos (htunnel.mpr hgone)]

/-- The handle sends two packets and closes the device.  The tunnel cuts the first one. -/
def closing : List Event :=
  [.transmit [1, 2, 3] (.ok ()), .write [9] (.ok ()), .transmit [4] (.ok ()), .read 2 [1, 2],
    .close, .transmit [5] (.error closedError), .take (some [9]), .read 16 [4], .read 16 []]

theorem Course.lossless_closing :
    Course {} closing { closed := true } ∧ Lossless closing { closed := true } := by
  have h : Course {} closing { closed := true } :=
    .cons ⟨rfl, rfl⟩ <| .cons ⟨rfl, rfl⟩ <| .cons ⟨rfl, rfl⟩ <| .cons ⟨rfl, rfl⟩ <|
      .cons ⟨rfl, rfl⟩ <| .cons ⟨rfl, rfl⟩ <| .cons ⟨rfl, rfl⟩ <| .cons ⟨rfl, rfl⟩ <|
      .cons ⟨rfl, rfl⟩ .nil
  exact ⟨h, Course.lossless h⟩

end Overlay.Channel
