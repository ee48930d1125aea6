import Overlay.Proofs.Agent.Parts

/-!
# How the bridge is told to stop

The bridge applies one change after the other.  Here is what it asks for, as a protocol: where it
looks for the signal, how an attempt to change the peers goes, and that it leaves once it was told
to stop.  `bridge_keeps` says that the bridge keeps it.

Of the signal the bridge hears only for itself, and only where it waits for something that is not
its own (`Bridge.Step.listener`).
-/

namespace Overlay.Agent.Halting

/-! ## The protocol -/

/-- How far the bridge has come. -/
inductive Bridge where
  /-- It has nothing in hand. -/
  | idle
  /-- It has seen that it is to go on. -/
  | checked
  /-- It begins an attempt to change the peers. -/
  | starting
  /-- It waits for the lock. -/
  | waiting
  /-- It holds the lock. -/
  | holding
  /-- The attempt is over. -/
  | tried
  /-- It was told to stop while it waited for the next attempt. -/
  | told
  /-- It is to leave. -/
  | leaving
  /-- It has left. -/
  | left

/-- The requests of the bridge while it holds the lock. -/
def Works : Tunnel.Request → Prop
  | .remove _ => True
  | .insert _ => True
  | .removeSame _ _ => True
  | .connect _ _ => True
  | .issue _ _ => True
  | .outcome _ _ => True
  | _ => False

/-- The phases between two requests of which the bridge may look at the signal. -/
def Bridge.Ready : Bridge → Prop
  | idle => True
  | tried => True
  | told => True
  | _ => False

/-- The phase in which the bridge turns to a host: a host that names no network is not tried. -/
def Bridge.toward (h : Host) : Bridge :=
  match h.network with
  | .ok _ => starting
  | .error _ => idle

theorem Bridge.toward_ok {h : Host} {n : Subnet} (hn : h.network = .ok n) :
    toward h = starting := by
  rw [toward, hn]

theorem Bridge.toward_error {h : Host} {e : CidrError} (hn : h.network = .error e) :
    toward h = idle := by
  rw [toward, hn]

/-- The phase in which the bridge turns to a host with some attempts left. -/
def Bridge.attempting : Nat → Host → Bridge
  | 0, _ => idle
  | _ + 1, h => toward h

/-- The phase after the bridge has heard of a change. -/
def Bridge.ofEvent (self : Edge) (policy : RetryPolicy) (e : EdgeEvent) : Bridge :=
  if isOwn self e then idle
  else
    match e with
    | .put edge => attempting policy.attempts edge.host
    | .delete edge => toward edge.host

/-- The steps of the bridge. -/
inductive Bridge.Step (self : Edge) (policy : RetryPolicy) :
    Bridge → (r : Request) → r.Answer → Bridge → Prop where
  | go {b : Bridge} : b.Ready → Step self policy b (.stopping .bridge) false checked
  | stop {b : Bridge} : b.Ready → Step self policy b (.stopping .bridge) true leaving
  | told : Step self policy checked .change (.signal true) leaving
  | calm : Step self policy checked .change (.signal false) idle
  | closed : Step self policy checked .change .closed leaving
  | hear {e : EdgeEvent} : Step self policy checked .change (.event e) (ofEvent self policy e)
  | queue {x : Unit} : Step self policy starting (.tunnel .queue) x waiting
  | lock {x : Unit} : Step self policy waiting (.tunnel .lock) x holding
  | work {r : Tunnel.Request} {x : r.Answer} : Works r →
      Step self policy holding (.tunnel r) x holding
  | unlock {x : Unit} : Step self policy holding (.tunnel .unlock) x tried
  | draw {n : Nat} : Step self policy tried .draw n tried
  | again {d : Duration} : Step self policy tried (.pause .bridge d) false starting
  | giveUp {d : Duration} : Step self policy tried (.pause .bridge d) true told
  | leave {x : Unit} : Step self policy leaving (.leave .bridge) x left

/-- The protocol of the bridge. -/
def halting (self : Edge) (policy : RetryPolicy) : Protocol interface where
  Phase := Bridge
  Possible := Plausible
  Step := Bridge.Step self policy

/-! ## The bridge keeps it -/

section Programs

variable {self : Edge} {policy : RetryPolicy} {α : Type}

/-- A request of the bridge. -/
theorem step_keeps {Ends : Bridge → α → Prop} {b : Bridge} {r : Request} {next : r.Answer → Work α}
    (h : ∀ x, ∃ b', b.Step self policy r x b' ∧ (next x).Keeps (halting self policy) Ends b') :
    (Program.ask r next).Keeps (halting self policy) Ends b :=
  fun x _ => h x

/-- A request under the lock. -/
theorem work_keeps {Ends : Bridge → α → Prop} {r : Tunnel.Request} {next : r.Answer → Work α}
    (hr : Works r)
    (h : ∀ x, (next x).Keeps (halting self policy) Ends Bridge.holding) :
    (Program.ask (Request.tunnel r) next).Keeps (halting self policy) Ends Bridge.holding :=
  step_keeps fun x => ⟨.holding, .work hr, h x⟩

theorem removeNetwork_keeps {Ends : Bridge → Bool → Prop} {n : Subnet}
    (hends : ∀ b, Ends .holding b) :
    (tunnel (Tunnel.removeNetwork n)).Keeps (halting self policy) Ends Bridge.holding := by
  refine work_keeps (r := .remove n) trivial fun old => ?_
  refine work_keeps (r := .issue .del n) trivial fun _ => ?_
  exact work_keeps (r := .outcome .del n) trivial fun _ => hends old.isSome

theorem connectNetwork_keeps {Ends : Bridge → Except TunnelError Unit → Prop} {n : Subnet}
    {h : Host} (hends : ∀ r, Ends .holding r) :
    (tunnel (Tunnel.connectNetwork n h)).Keeps (halting self policy) Ends Bridge.holding := by
  refine keeps_tunnel_bind (keeps_tunnel_bind (removeNetwork_keeps fun _ => ?_))
  refine work_keeps (r := .connect n h) trivial fun connected => ?_
  cases connected with
  | error e => exact hends _
  | ok p =>
      refine work_keeps (r := .insert p) trivial fun _ => ?_
      refine work_keeps (r := .issue .add n) trivial fun _ => ?_
      refine work_keeps (r := .outcome .add n) trivial fun outcome => ?_
      cases outcome with
      | ok output => exact hends _
      | error e => exact work_keeps (r := .removeSame n p) trivial fun _ => hends _

/-- An attempt takes the lock, works under it and gives it back. -/
theorem locked_keeps {Ends : Bridge → α → Prop} {body : Tunnel.Work α}
    (hbody : (tunnel body).Keeps (halting self policy) (fun q a =>
      q = Bridge.holding ∧ Ends .tried a) Bridge.holding) :
    (tunnel (Tunnel.acquire >>= fun _ => body >>= fun a =>
      Tunnel.ask .unlock >>= fun _ => pure a)).Keeps (halting self policy) Ends
        Bridge.starting := by
  refine step_keeps fun _ => ⟨.waiting, .queue, ?_⟩
  refine step_keeps fun _ => ⟨.holding, .lock, ?_⟩
  show (tunnel (body >>= fun a => Tunnel.ask .unlock >>= fun _ => pure a)).Keeps
    (halting self policy) Ends Bridge.holding
  refine keeps_tunnel_bind (hbody.mono fun q a hq => ?_)
  obtain ⟨rfl, ha⟩ := hq
  exact step_keeps fun _ => ⟨.tried, .unlock, ha⟩

/-- The attempts to add an edge: each begins when the one before has failed and the wait was not
    cut short. -/
theorem addWithin_keeps {Ends : Bridge → Unit → Prop} {left : Nat} {delays : Backoff} {h : Host}
    (hends : ∀ b : Bridge, b.Ready → Ends b ()) :
    (addWithin left delays h).Keeps (halting self policy) Ends
      (Bridge.attempting left h) := by
  induction left generalizing delays with
  | zero => exact hends _ trivial
  | succ left ih =>
      show (addWithin (left + 1) delays h).Keeps (halting self policy) Ends
        (Bridge.toward h)
      unfold addWithin Tunnel.addPeer
      cases hn : h.network with
      | error e =>
          rw [Bridge.toward_error hn]
          exact hends .idle trivial
      | ok n =>
          rw [Bridge.toward_ok hn]
          refine Program.Keeps.bind (locked_keeps (connectNetwork_keeps fun r => ⟨rfl, ?_⟩))
          cases r with
          | ok _ => exact hends .tried trivial
          | error e =>
              show (if isRetried e && left ≠ 0 then _ else _ : Work Unit).Keeps
                (halting self policy) Ends Bridge.tried
              split
              · rename_i hretried
                refine step_keeps fun drawn => ⟨.tried, .draw, ?_⟩
                refine step_keeps (r := .pause .bridge (delays.take drawn)) fun stop => ?_
                cases stop with
                | true => exact ⟨.told, .giveUp, hends .told trivial⟩
                | false =>
                    have hstarting : Bridge.attempting left h = .starting := by
                      cases left with
                      | zero => simp at hretried
                      | succ left => exact Bridge.toward_ok hn
                    exact ⟨.starting, .again, hstarting ▸ ih⟩
              · exact hends .tried trivial

theorem apply_keeps {Ends : Bridge → Unit → Prop} {e : EdgeEvent}
    (hends : ∀ b : Bridge, b.Ready → Ends b ()) :
    (apply self policy e).Keeps (halting self policy) Ends
      (Bridge.ofEvent self policy e) := by
  unfold apply Bridge.ofEvent
  by_cases hown : isOwn self e = true
  · rw [if_pos hown, if_pos hown]
    exact hends _ trivial
  · rw [if_neg hown, if_neg hown]
    cases e with
    | put edge => exact addWithin_keeps hends
    | delete edge =>
        show (discard (tunnel (Tunnel.delPeer edge.host))).Keeps (halting self policy) Ends
          (Bridge.toward edge.host)
        unfold Tunnel.delPeer
        cases hn : edge.host.network with
        | error e =>
            rw [Bridge.toward_error hn]
            exact hends .idle trivial
        | ok n =>
            rw [Bridge.toward_ok hn]
            refine Program.Keeps.map (locked_keeps (removeNetwork_keeps fun _ => ⟨rfl, ?_⟩))
            exact hends _ trivial

theorem leaveBridge_keeps {Ends : Bridge → Option Unit → Prop} (h : Ends .left (some ())) :
    (leave .bridge).Keeps (halting self policy) Ends Bridge.leaving :=
  step_keeps fun _ => ⟨.left, .leave, h⟩

/-- The bridge keeps the protocol, and it has left when it ends. -/
theorem bridge_keeps :
    (background (bridgeRun self policy)).Keeps (halting self policy) (fun b _ => b = .left)
      Bridge.idle := by
  refine Task.keeps_loop Bridge.Ready (fun b hb => ?_) trivial
  refine Program.Keeps.map (step_keeps (r := .stopping .bridge) fun stop => ?_)
  cases stop with
  | true => exact ⟨.leaving, .stop hb, leaveBridge_keeps rfl⟩
  | false =>
      refine ⟨.checked, .go hb, step_keeps (r := .change) fun change => ?_⟩
      match change with
      | .signal true => exact ⟨.leaving, .told, leaveBridge_keeps rfl⟩
      | .signal false => exact ⟨.idle, .calm, trivial⟩
      | .closed => exact ⟨.leaving, .closed, leaveBridge_keeps rfl⟩
      | .event e =>
          refine ⟨.ofEvent self policy e, .hear, ?_⟩
          show (apply self policy e >>= fun _ => pure none).Keeps (halting self policy) _
            (Bridge.ofEvent self policy e)
          exact Program.Keeps.bind (apply_keeps fun b hb => hb)

end Programs

/-! ## The bridge and the signal -/

/-- The phases in which the bridge has not heard that it is to stop. -/
def Bridge.Listens : Bridge → Prop
  | told => False
  | leaving => False
  | left => False
  | _ => True

/-- The bridge turns to a change or passes it over. -/
theorem Bridge.ofEvent_cases (self : Edge) (policy : RetryPolicy) (e : EdgeEvent) :
    ofEvent self policy e = idle ∨ ofEvent self policy e = starting := by
  have htoward : ∀ h : Host, toward h = idle ∨ toward h = starting := fun h => by
    unfold toward
    cases h.network with
    | ok => exact Or.inr rfl
    | error => exact Or.inl rfl
  unfold ofEvent
  split
  · exact Or.inl rfl
  · cases e with
    | put edge =>
        show attempting policy.attempts edge.host = idle ∨ _ = starting
        cases policy.attempts with
        | zero => exact Or.inl rfl
        | succ n => exact htoward edge.host
    | delete edge => exact htoward edge.host

namespace Bridge.Step

variable {self : Edge} {policy : RetryPolicy} {b b' : Bridge} {r : Request} {x : r.Answer}

/-- The bridge tells nobody to stop. -/
theorem ne_signal (h : b.Step self policy r x b') : r ≠ .signal := by
  rintro rfl
  cases h

/-- Who listens to the signal in a request of the bridge is the bridge. -/
theorem listener (h : b.Step self policy r x b') {p : Part} (hp : r.listener? = some p) :
    p = .bridge := by
  cases h with
  | told | calm | closed | hear | again | giveUp =>
      cases hp
      rfl
  | _ => exact nomatch hp

/-- A bridge that has heard that it is to stop listens no more. -/
theorem heard (h : b.Step self policy r x b') (hx : Heard true r x) : ¬ b'.Listens := by
  cases h with
  | told | giveUp => exact id
  | calm | closed | hear | again => exact nomatch hx
  | _ => exact hx.elim

end Bridge.Step

end Overlay.Agent.Halting
