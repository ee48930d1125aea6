import Overlay.Proofs.Agent.Helpers
import Overlay.Proofs.Tunnel.Agreement

/-!
# The routes that an agent leaves behind

A route stands from the command that added it until a command to remove it is given.  The
bridge and the run of an agent change the peers under the lock of the tunnel server.  So
whenever nobody holds the lock, a network whose route stands has a peer in the table, and
an empty table means that no route stands.
-/

namespace Overlay.Agent.Lifecycle

variable {c : Config} {tr : List (Exchange interface)} {id : TaskId} {r : Request}
  {x : r.Answer} {t : RouteTable}

/-! ## The routes that stand -/

/-- A route of the network was added, and no command to remove it was given since. -/
def Standing (tr : List (Exchange interface)) (n : Subnet) : Prop :=
  ∃ before i output after, tr = before ++ ⟨i, .tunnel (.outcome .add n), .ok output⟩ :: after ∧
    ∀ e ∈ after, e.request ≠ .tunnel (.issue .del n)

theorem standing_append {e : Exchange interface} {n : Subnet} :
    Standing (tr ++ [e]) n ↔
      (∃ i output, e = ⟨i, .tunnel (.outcome .add n), .ok output⟩) ∨
        (Standing tr n ∧ e.request ≠ .tunnel (.issue .del n)) := by
  constructor
  · rintro ⟨before, i, output, after, htr, hafter⟩
    rcases System.append_singleton_eq_cut htr with ⟨-, he, -⟩ | ⟨init, rfl, hinit⟩
    · exact Or.inl ⟨i, output, he⟩
    · refine Or.inr ⟨⟨before, i, output, init, hinit, fun e' he' => ?_⟩, ?_⟩
      · exact hafter e' (List.mem_append_left _ he')
      · exact hafter e (List.mem_append_right _ List.mem_cons_self)
  · rintro (⟨i, output, rfl⟩ | ⟨⟨before, i, output, after, rfl, hafter⟩, he⟩)
    · exact ⟨tr, i, output, [], rfl, fun _ h => nomatch h⟩
    · exact ⟨before, i, output, after ++ [e], by simp, System.forall_mem_concat hafter he⟩

/-- The exchanges of the tunnel server. -/
def tunnelTrace (tr : List (Exchange interface)) : List (Exchange Tunnel.interface) :=
  tr.filterMap fun e =>
    match e with
    | ⟨i, .tunnel r, x⟩ => some ⟨i, r, x⟩
    | _ => none

theorem tunnelTrace_append_tunnel {r : Tunnel.Request} {x : r.Answer} :
    tunnelTrace (tr ++ [⟨id, .tunnel r, x⟩]) = tunnelTrace tr ++ [⟨id, r, x⟩] := by
  unfold tunnelTrace
  rw [List.filterMap_append]
  rfl

theorem tunnelTrace_append_other (hr : ∀ q, r ≠ .tunnel q) :
    tunnelTrace (tr ++ [⟨id, r, x⟩]) = tunnelTrace tr := by
  unfold tunnelTrace
  rw [List.filterMap_append]
  cases r with
  | tunnel q => exact absurd rfl (hr q)
  | _ => exact List.append_nil _

/-- What the tunnel server exchanges matters to a route as its own trace tells. -/
theorem standing_append_tunnel {r : Tunnel.Request} {x : r.Answer} {n : Subnet} :
    Standing (tr ++ [⟨id, .tunnel r, x⟩]) n ↔
      Tunnel.Succeeds .add n ⟨id, r, x⟩ ∨ (Standing tr n ∧ r ≠ .issue .del n) := by
  rw [standing_append]
  refine or_congr ⟨?_, ?_⟩ (and_congr_right fun _ => not_congr ?_)
  · rintro ⟨i, output, heq⟩
    cases heq
    exact ⟨rfl, rfl⟩
  · intro h
    cases r with
    | outcome action m =>
        cases x with
        | ok output =>
            obtain ⟨rfl, rfl⟩ := h
            exact ⟨id, output, rfl⟩
        | error e => exact h.elim
    | _ => exact h.elim
  · exact ⟨fun h => by cases h; rfl, fun h => congrArg Request.tunnel h⟩

theorem standing_append_other (hr : ∀ q, r ≠ .tunnel q) {n : Subnet} :
    Standing (tr ++ [⟨id, r, x⟩]) n ↔ Standing tr n := by
  rw [standing_append]
  constructor
  · rintro (⟨i, output, heq⟩ | h)
    · cases heq
      exact absurd rfl (hr _)
    · exact h.1
  · exact fun h => Or.inr ⟨h, hr _⟩

/-! ## The discipline of the lock -/

/-- How far the task is with the lock. -/
def Stage.lock : Stage → Tunnel.Phase
  | aside (.part _ _ q) => q
  | run (.adding q) => q
  | run (.clearing _ _ q) => q
  | _ => .outside

/-- What a task asks of the tunnel server keeps the discipline of the lock. -/
theorem Course.lock_tunnel {q q' : Stage} {r : Tunnel.Request} {x : r.Answer}
    (h : Course c q (.tunnel r) x q') :
    Tunnel.Change Tunnel.Request.Passive q.lock r x q'.lock := by
  have hlocks : ∀ {p p' : Tunnel.Phase}, Locks p r x p' →
      Tunnel.Change Tunnel.Request.Passive p r x p' :=
    fun hl => hl.mono fun _ hr => hr.elim
  cases h with
  | aside h =>
      cases h with
      | arrive | finish | firstEnded | stop | join => exact .aside trivial
      | forward hr =>
          refine .aside ?_
          cases r with
          | lookup | report | send | write | count => trivial
          | _ => exact hr.elim
      | work hr => exact hr.elim
      | change hl => exact hlocks hl
  | run h =>
      cases h with
      | add hl => exact hlocks hl
      | stop | stopEnded => exact .aside trivial
      | queue => exact .queue
      | lock => exact .lock
      | networks => exact .networks
      | remove => exact .remove
      | issue => exact .issueDel
      | outcome => exact .deleted
      | unlock => exact .unlock

/-- Other requests have nothing to do with the lock. -/
theorem Course.lock_other {q q' : Stage} (hr : ∀ q, r ≠ .tunnel q) (h : Course c q r x q') :
    q'.lock = q.lock := by
  cases h with
  | aside h =>
      cases h with
      | arrive | forward | finish | firstEnded | stop | join | change => exact absurd rfl (hr _)
      | _ => rfl
  | run h =>
      cases h with
      | add | stop | stopEnded | queue | lock | networks | remove | issue | outcome | unlock =>
          exact absurd rfl (hr _)
      | claim =>
          rcases Leg.ofUrl_cases c with hurl | ⟨e, hurl⟩
          · rw [hurl]
            rfl
          · rw [hurl]
            rfl
      | _ => rfl

/-- What holds of the table and the routes while the task inside is in the phase. -/
structure Shielded (tr : List (Exchange interface)) (t : RouteTable) (q : Tunnel.Phase) :
    Prop where
  known : Tunnel.Known t q
  covered : Tunnel.Covered true {n | Standing tr n} t q

namespace Shielded

variable {q q' : Tunnel.Phase}

/-- With fewer routes less has to be covered. -/
theorem mono {tr' : List (Exchange interface)} (h : Shielded tr t q)
    (hstanding : ∀ n, Standing tr' n → Standing tr n) : Shielded tr' t q where
  known := h.known
  covered := ⟨fun hn hset => h.covered.mem (hstanding _ hn) hset,
    fun hq hn => h.covered.fresh hq (hstanding _ hn)⟩

/-- Where no removal is under way, the lock may be taken and given back. -/
theorem settled (h : Shielded tr t q) (hq : q.unsettled true = none) (hknown : Tunnel.Known t q')
    (hfresh : ∀ p, q' ≠ .inserted p) : Shielded tr t q' where
  known := hknown
  covered := ⟨fun hn _ => h.covered.mem hn fun heq => (nomatch hq.symm.trans heq),
    fun heq => absurd heq (hfresh _)⟩

/-- The step of a task inside. -/
theorem inside {r : Tunnel.Request} {x : r.Answer} (h : Shielded tr t q)
    (hstep : Tunnel.Change Tunnel.Request.Passive q r x q') (hin : q'.Inside) :
    Shielded (tr ++ [⟨id, .tunnel r, x⟩]) (r.tableAfter t) q' where
  known := h.known.step hstep hin
  covered := by
    have hgrow : ∀ {n : Subnet}, Standing (tr ++ [⟨id, .tunnel r, x⟩]) n →
        Standing tr n ∨ Tunnel.Succeeds .add n ⟨id, r, x⟩ := by
      intro n hn
      rcases standing_append_tunnel.mp hn with hadd | hold
      · exact Or.inr hadd
      · exact Or.inl hold.1
    refine h.covered.step h.known hstep hin hgrow fun hset hset' hn => ?_
    -- a removal is settled as soon as its command is given
    cases hstep with
    | aside => exact hin
    | issueDel =>
        cases hset
        rcases standing_append_tunnel.mp hn with hadd | hold
        · exact hadd
        · exact hold.2 rfl
    | _ => exact nomatch hset

end Shielded

/-- The tasks of an agent stand in line for the lock, and what it guards is guarded. -/
structure Guarded (tr : List (Exchange interface)) (line : List TaskId) (t : RouteTable)
    (ph : TaskId → Stage) : Prop where
  line : Tunnel.Line (tunnelTrace tr) line fun i => (ph i).lock
  shielded : Tunnel.Guards (Shielded tr t) fun i => (ph i).lock

namespace Guarded

variable {line : List TaskId} {ph : TaskId → Stage} {q : Stage}

theorem lock_update : (fun i => (Function.update ph id q i).lock) =
    Function.update (fun i => (ph i).lock) id q.lock := by
  funext i
  by_cases hi : i = id
  · rw [hi, Function.update_self, Function.update_self]
  · rw [Function.update_of_ne hi, Function.update_of_ne hi]

private theorem step_tunnel {r : Tunnel.Request} {x : r.Answer} (h : Guarded tr line t ph)
    (hstep : Course c (ph id) (.tunnel r) x q) (hshows : Tunnel.Shows id line t r x) :
    Guarded (tr ++ [⟨id, .tunnel r, x⟩]) (r.lineAfter id line) (r.tableAfter t)
      (Function.update ph id q) := by
  have hchange := hstep.lock_tunnel
  have hstanding : (∀ n, r ≠ .outcome .add n) → ∀ n,
      Standing (tr ++ [⟨id, .tunnel r, x⟩]) n → Standing tr n := by
    intro hr n hn
    rcases standing_append_tunnel.mp hn with hadd | hold
    · cases r with
      | outcome action m =>
          cases x with
          | ok output => exact absurd (by rw [hadd.1]) (hr m)
          | error e => exact hadd.elim
      | _ => exact hadd.elim
    · exact hold.1
  refine ⟨?_, ?_⟩
  · rw [lock_update, tunnelTrace_append_tunnel]
    exact h.line.step (fun _ hr => hr) hchange hshows
  · rw [lock_update]
    refine h.shielded.step h.line hchange hshows ?_ ?_ ?_ fun _ hin hq => hq.inside hchange hin
    · -- outside of the lock neither the table changes nor a route
      intro hr q hq
      rw [Tunnel.Request.tableAfter_eq hr]
      refine hq.mono (hstanding fun n hn => ?_)
      rcases hr with hr | hr
      · rw [hn] at hr
        exact hr
      · exact nomatch hn.symm.trans hr
    · rintro rfl hq
      refine (hq.mono (hstanding fun n hn => nomatch hn)).settled rfl trivial fun p hp => nomatch hp
    · rintro rfl hq
      generalize (ph id).lock = p at hchange hq
      generalize q.lock = p' at hchange
      cases hchange with
      | unlock =>
          exact (hq.mono (hstanding fun n hn => nomatch hn)).settled rfl trivial
            fun p hp => nomatch hp
      | aside hr => exact hr.elim

/-- Every exchange keeps the discipline of the lock. -/
theorem step (h : Guarded tr line t ph) (hstep : Course c (ph id) r x q)
    (hshows : Shows id line t r x) :
    Guarded (tr ++ [⟨id, r, x⟩]) (r.lineAfter id line) (r.tableAfter t)
      (Function.update ph id q) := by
  by_cases htunnel : ∃ q, r = .tunnel q
  · obtain ⟨r, rfl⟩ := htunnel
    exact h.step_tunnel hstep hshows
  · have hr : ∀ q, r ≠ .tunnel q := fun q hq => htunnel ⟨q, hq⟩
    have hlock : (fun i => (Function.update ph id q i).lock) = fun i => (ph i).lock := by
      rw [lock_update, hstep.lock_other hr, Function.update_eq_self]
    have hline : r.lineAfter id line = line := by
      cases r with
      | tunnel q => exact absurd rfl (hr q)
      | _ => rfl
    have htable : r.tableAfter t = t := by
      cases r with
      | tunnel q => exact absurd rfl (hr q)
      | _ => rfl
    refine ⟨?_, ?_⟩
    · rw [hlock, hline, tunnelTrace_append_other hr]
      exact h.line
    · rw [hlock, htable]
      have hmono : ∀ q, Shielded tr t q → Shielded (tr ++ [⟨id, r, x⟩]) t q :=
        fun q hq => hq.mono fun n => (standing_append_other hr).mp
      exact ⟨fun hi => hmono _ (h.shielded.inside hi), fun hi => hmono _ (h.shielded.outside hi)⟩

end Guarded

end Overlay.Agent.Lifecycle
