import Overlay.Proofs.Packet
import Overlay.Proofs.Tunnel.Performing

/-!
# What becomes of a packet from the device

The outbound loop takes one packet after the other, and each of them comes to one of four
ends: it is not valid, nobody owns its destination, it is sent to the owner, or that fails.
`Forwards` lists what is asked for in each case.  Which case it is depends on the packet and
on the table when it is read; the surroundings only decide whether the sending fails
(`Performs.outboundRun_inv`).  Nothing in it has to be waited for (`exists_outboundRun`).
-/

namespace Overlay.Tunnel

/-! ## Valid packets -/

/-- A valid packet has a source and a destination. -/
theorem exists_addresses {p : Packet} (h : p.validate = .ok ()) :
    ∃ a d, p.source? = some a ∧ p.destination? = some d := by
  have hreads := Packet.reads_fieldsOf (Packet.validate_eq_ok_iff.mp h).long
  exact ⟨_, _, hreads.source, hreads.destination⟩

/-! ## What the trace says of packets -/

/-- The packets that the outbound loop has read. -/
def arrivals (tr : List (Exchange interface)) : List Packet :=
  tr.filterMap fun e =>
    match e with
    | ⟨_, .arrival .outbound, .read (.ok p)⟩ => some p
    | _ => none

/-- The packets that were handed to the socket of a peer. -/
def sends (tr : List (Exchange interface)) : List (Peer × Packet) :=
  tr.filterMap fun e =>
    match e.request with
    | .send q p => some (q, p)
    | _ => none

/-- The sources that were reported. -/
def reports (tr : List (Exchange interface)) : List Ipv4 :=
  tr.filterMap fun e =>
    match e.request with
    | .report a => some a
    | _ => none

/-- The packets that were handed to the socket of the peer. -/
def sentTo (q : Peer) (tr : List (Exchange interface)) : List Packet :=
  ((sends tr).filter fun e => e.1 = q).map Prod.snd

theorem arrivals_append (tr tr' : List (Exchange interface)) :
    arrivals (tr ++ tr') = arrivals tr ++ arrivals tr' := List.filterMap_append

theorem eq_read_of_arrivals {id : TaskId} {x : Arrival} {p : Packet}
    (h : arrivals [⟨id, .arrival .outbound, x⟩] = [p]) : x = .read (.ok p) := by
  cases x with
  | stop => cases h
  | read r =>
      cases r with
      | error e => cases h
      | ok p' => rw [List.singleton_inj.mp h]

theorem sends_append (tr tr' : List (Exchange interface)) :
    sends (tr ++ tr') = sends tr ++ sends tr' := List.filterMap_append

variable {σ : Type} {around : Surroundings σ} {id : TaskId} {s s' : Server σ}
  {tr : List (Exchange interface)}

/-! ## One packet -/

/-- The surroundings go on by themselves. -/
def Drifts (s t : Server σ) : Prop := ∃ v, t = { s with outside := v }

theorem Drifts.refl (s : Server σ) : Drifts s s := ⟨s.outside, rfl⟩

theorem Drifts.trans {s t u : Server σ} (h : Drifts s t) (h' : Drifts t u) : Drifts s u := by
  obtain ⟨v, rfl⟩ := h
  obtain ⟨w, rfl⟩ := h'
  exact ⟨w, rfl⟩

theorem Drifts.table_eq {s t : Server σ} (h : Drifts s t) : t.table = s.table := by
  obtain ⟨v, rfl⟩ := h
  rfl

/-- A counter that moves later moves in the same way. -/
theorem Drifts.bump {s t u : Server σ} {c : Counter} (h : Drifts s t)
    (h' : Drifts { t with stats := t.stats.bump c } u) :
    Drifts { s with stats := s.stats.bump c } u := by
  obtain ⟨v, rfl⟩ := h
  obtain ⟨w, rfl⟩ := h'
  exact ⟨w, rfl⟩

theorem keepsTable_drifts : KeepsTable (Drifts : Server σ → Server σ → Prop) :=
  fun _ _ h => h.table_eq

/-- The counter for the outcome of a sending. -/
def sentCounter : Except IoError Unit → Counter
  | .ok _ => .forwardedLocal
  | .error _ => .sendErrors

/-- What becomes of a packet that the outbound loop has read, with the table as it is: what is
    asked for, and the counter that moves. -/
inductive Forwards (id : TaskId) (t : RouteTable) (p : Packet) :
    List (Exchange interface) → Counter → Prop where
  | invalid : p.validate ≠ .ok () → Forwards id t p [⟨id, .count .invalid, ()⟩] .invalid
  | noRoute {a d : Ipv4} :
      p.validate = .ok () → p.source? = some a → p.destination? = some d → t.lookup d = none →
      Forwards id t p
        [⟨id, .report a, ()⟩, ⟨id, .lookup d, none⟩, ⟨id, .count .noRoute, ()⟩] .noRoute
  | sent {a d : Ipv4} {q : Peer} (x : Except IoError Unit) :
      p.validate = .ok () → p.source? = some a → p.destination? = some d → t.lookup d = some q →
      Forwards id t p
        [⟨id, .report a, ()⟩, ⟨id, .lookup d, some q⟩, ⟨id, .send q p, x⟩,
          ⟨id, .count (sentCounter x), ()⟩] (sentCounter x)

namespace Performs

variable {α : Type} {a : α}

/-- A report changes nothing but the surroundings. -/
theorem report_inv {next : Unit → Work α} {b : Ipv4}
    (h : Performs around Drifts id (.ask (.report b) next) s tr a s') :
    ∃ u tr', Drifts s u ∧ tr = ⟨id, .report b, ()⟩ :: tr' ∧
      Performs around Drifts id (next ()) u tr' a s' := by
  cases h with
  | ask ht hx hnext =>
      obtain ⟨v, rfl⟩ := ht
      cases hx
      exact ⟨_, _, ⟨_, rfl⟩, rfl, hnext⟩

theorem lookup_inv {d : Ipv4} {next : Option Peer → Work α}
    (h : Performs around Drifts id (.ask (.lookup d) next) s tr a s') :
    ∃ u tr', Drifts s u ∧ tr = ⟨id, .lookup d, s.table.lookup d⟩ :: tr' ∧
      Performs around Drifts id (next (s.table.lookup d)) u tr' a s' := by
  cases h with
  | ask ht hx hnext =>
      obtain ⟨v, rfl⟩ := ht
      cases hx
      exact ⟨_, _, ⟨_, rfl⟩, rfl, hnext⟩

theorem send_inv {q : Peer} {p : Packet} {next : Except IoError Unit → Work α}
    (h : Performs around Drifts id (.ask (.send q p) next) s tr a s') :
    ∃ x u tr', Drifts s u ∧ tr = ⟨id, .send q p, x⟩ :: tr' ∧
      Performs around Drifts id (next x) u tr' a s' := by
  cases h with
  | ask ht hx hnext =>
      obtain ⟨v, rfl⟩ := ht
      cases hx
      exact ⟨_, _, _, ⟨_, rfl⟩, rfl, hnext⟩

/-- A program that ends with a count moves that counter. -/
theorem count_inv {c : Counter} {b : Unit}
    (h : Performs around Drifts id (Tunnel.ask (.count c)) s tr b s') :
    tr = [⟨id, .count c, ()⟩] ∧ Drifts { s with stats := s.stats.bump c } s' := by
  cases h with
  | ask ht hx hnext =>
      obtain ⟨v, rfl⟩ := ht
      cases hx
      obtain ⟨rfl, -, rfl⟩ := done_inv hnext
      exact ⟨rfl, v, rfl⟩

theorem sendTo_inv {p : Packet} {b d : Ipv4} {x : Unit} (hvalid : p.validate = .ok ())
    (hb : p.source? = some b) (hd : p.destination? = some d)
    (h : Performs around Drifts id (sendTo d p) s tr x s') :
    ∃ c, Forwards id s.table p (⟨id, .report b, ()⟩ :: tr) c ∧
      Drifts { s with stats := s.stats.bump c } s' := by
  obtain ⟨u, _, hu, rfl, hnext⟩ := lookup_inv h
  cases hfound : s.table.lookup d with
  | none =>
      rw [hfound] at hnext
      obtain ⟨rfl, hcount⟩ := count_inv hnext
      exact ⟨.noRoute, .noRoute hvalid hb hd hfound, hu.bump hcount⟩
  | some q =>
      rw [hfound] at hnext
      obtain ⟨sent, v, rest, hv, rfl, hlast⟩ := send_inv hnext
      have hcounted : Performs around Drifts id (Tunnel.ask (.count (sentCounter sent))) v rest
          x s' := by
        cases sent with
        | ok _ => exact hlast
        | error _ => exact hlast
      obtain ⟨rfl, hcount⟩ := count_inv hcounted
      exact ⟨sentCounter sent, .sent sent hvalid hb hd hfound, (hu.trans hv).bump hcount⟩

/-- What a packet comes to depends on the table when it is read. -/
theorem forwardOutbound_inv {p : Packet} {x : Unit}
    (h : Performs around Drifts id (forwardOutbound p) s tr x s') :
    ∃ c, Forwards id s.table p tr c ∧ Drifts { s with stats := s.stats.bump c } s' := by
  cases hvalid : p.validate with
  | error e =>
      rw [forwardOutbound, hvalid] at h
      obtain ⟨rfl, hcount⟩ := count_inv h
      exact ⟨.invalid, .invalid (by rw [hvalid]; exact fun heq => nomatch heq), hcount⟩
  | ok _ =>
      obtain ⟨b, d, hb, hd⟩ := exists_addresses hvalid
      rw [forwardOutbound, hvalid, hb, hd] at h
      obtain ⟨u, _, hu, rfl, hnext⟩ := report_inv h
      obtain ⟨c, hforwards, hdrifts⟩ := sendTo_inv hvalid hb hd hnext
      rw [hu.table_eq] at hforwards
      exact ⟨c, hforwards, hu.bump hdrifts⟩

/-- The loop goes on after a packet. -/
theorem outboundRun_inv {p : Packet} (hp : p ≠ []) {r : Option Ending}
    (h : Performs around Drifts id outboundRun s
      (⟨id, .arrival .outbound, .read (.ok p)⟩ :: tr) r s') :
    r = none ∧ ∃ c, Forwards id s.table p tr c ∧
      Drifts { s with stats := s.stats.bump c } s' := by
  cases h with
  | @ask _ _ _ t u _ _ _ _ ht hx h =>
      have hu : Drifts s u := by
        obtain ⟨v, rfl⟩ := ht
        simp only [Server.answer] at hx
        split at hx
        · cases hx
        · obtain ⟨⟨y, w⟩, -, heq⟩ := Option.map_eq_some_iff.mp hx
          cases heq
          exact ⟨w, rfl⟩
      obtain ⟨b, bytes, rfl⟩ := List.exists_cons_of_ne_nil hp
      have hbody : Performs around Drifts id
          (forwardOutbound (b :: bytes) >>= fun _ => .done none) u tr r s' := h
      obtain ⟨_, v, tr₁, _, hforward, hlast, rfl⟩ := bind_inv hbody
      obtain ⟨rfl, rfl, rfl⟩ := done_inv hlast
      obtain ⟨c, hforwards, hdrifts⟩ := forwardOutbound_inv hforward
      rw [hu.table_eq] at hforwards
      rw [List.append_nil]
      exact ⟨rfl, c, hforwards, hu.bump hdrifts⟩

end Performs

/-! ## Nothing has to be waited for -/

/-- Requests that are answered at once. -/
def Request.Prompt : Request → Prop
  | report _ => True
  | lookup _ => True
  | send _ _ => True
  | count _ => True
  | _ => False

/-- To ask only for what is answered at once. -/
def promptly : Protocol interface where
  Phase := Unit
  Possible _ _ := True
  Step _ r _ _ := r.Prompt

theorem Request.Prompt.exists_answer {r : Request} (h : r.Prompt) (s : Server σ) :
    ∃ x u, s.answer around id r = some (x, u) := by
  cases r with
  | report | lookup | send | count => exact ⟨_, _, rfl⟩
  | _ => exact h.elim

theorem exists_performs {α : Type} {p : Work α} (hk : p.Keeps promptly (fun _ _ => True) ())
    (s : Server σ) : ∃ tr a s', Performs around Drifts id p s tr a s' := by
  induction p generalizing s with
  | done a => exact ⟨[], a, s, .done a s⟩
  | ask r next ih =>
      obtain ⟨y, -⟩ := exists_plausible r
      obtain ⟨_, hprompt, -⟩ := hk y trivial
      obtain ⟨x, u, hx⟩ : ∃ x u, s.answer around id r = some (x, u) := hprompt.exists_answer s
      obtain ⟨_, -, hnext⟩ := hk x trivial
      obtain ⟨tr, a, s', hrest⟩ := ih x hnext u
      exact ⟨_, a, s', .ask (Drifts.refl s) hx hrest⟩

theorem ask_promptly {r : Request} (hr : r.Prompt) :
    (ask r).Keeps promptly (fun _ _ => True) () :=
  fun _ _ => ⟨(), hr, trivial⟩

theorem sendTo_promptly (d : Ipv4) (p : Packet) :
    (sendTo d p).Keeps promptly (fun _ _ => True) () := by
  intro found _
  refine ⟨(), trivial, ?_⟩
  cases found with
  | none => exact ask_promptly trivial
  | some q =>
      intro sent _
      refine ⟨(), trivial, ?_⟩
      cases sent with
      | ok _ => exact ask_promptly trivial
      | error _ => exact ask_promptly trivial

theorem forwardOutbound_promptly (p : Packet) :
    (forwardOutbound p).Keeps promptly (fun _ _ => True) () := by
  unfold forwardOutbound
  split
  · intro _ _
    exact ⟨(), trivial, sendTo_promptly _ p⟩
  · exact ask_promptly trivial

/-- A packet that the loop has read is forwarded to the end. -/
theorem exists_outboundRun {p : Packet} (hp : p ≠ []) {t u : Server σ} (ht : Drifts s t)
    (hx : t.answer around id (.arrival .outbound) = some (.read (.ok p), u)) :
    ∃ tr s', Performs around Drifts id outboundRun s
      (⟨id, .arrival .outbound, .read (.ok p)⟩ :: tr) none s' := by
  obtain ⟨b, bytes, rfl⟩ := List.exists_cons_of_ne_nil hp
  obtain ⟨tr, _, s', hforward⟩ :
      ∃ tr a s', Performs around Drifts id (forwardOutbound (b :: bytes)) u tr a s' :=
    exists_performs (forwardOutbound_promptly (b :: bytes)) u
  have hbody : Performs around Drifts id
      (forwardOutbound (b :: bytes) >>= fun _ => .done (none : Option Ending)) u (tr ++ []) none
      s' :=
    hforward.bind (.done none s')
  exact ⟨tr ++ [], s', .ask ht hx hbody⟩

end Overlay.Tunnel
