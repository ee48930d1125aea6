import Overlay.Proofs.Agent.Course

/-!
# The helpers of an agent

Every helper has a role, and no two helpers have the same one.  A role is only ever given
up, and it is given up with the request that marks its end.  So once a loop is said to have
ended, or a part to have left, there is no task any more that could act in that role, and
once all of them are marked there is no helper at work at all.

Before the launch no helper has done anything: what each of them asks for first is only
answered afterwards.
-/

namespace Overlay.Agent.Lifecycle

variable {c : Config} {m : Marks} {past : List (Tunnel.Direction × Tunnel.Ending)}
  {ph : TaskId → Stage} {id : TaskId} {r : Request} {x : r.Answer} {q : Stage}

/-! ## Roles -/

/-- What a helper is there for. -/
inductive Role where
  /-- It runs a forwarding loop. -/
  | loop (d : Tunnel.Direction)
  /-- It waits for the end of the tunnel server. -/
  | server
  /-- It is a part. -/
  | part (p : Part)

/-- The role of a helper that has not ended. -/
def Helper.role? : Helper → Option Role
  | loop d _ => some (.loop d)
  | serving => some .server
  | ending _ _ => some .server
  | ended _ => some .server
  | part p _ _ => some (.part p)
  | finished => none

/-- The role of a task. -/
def Stage.role? : Stage → Option Role
  | aside b => b.role?
  | run _ => none

/-- The task that the role belongs to. -/
def Role.home : Role → TaskId
  | loop .inbound => 0
  | loop .outbound => 1
  | server => 2
  | part .report => 3
  | part .bridge => 4
  | part .watch => 5

/-- A task keeps its role or gives it up. -/
theorem Course.role? {q' : Stage} (h : Course c q r x q') {ρ : Role} (hρ : q'.role? = some ρ) :
    q.role? = some ρ := by
  cases h with
  | aside h =>
      cases h with
      | finish | served | leave => exact nomatch hρ
      | _ => exact hρ
  | run h => exact nomatch hρ

/-- A part that leaves gives its role up. -/
theorem Course.leave {q q' : Stage} {p : Part} {y : Unit} (h : Course c q (.leave p) y q') :
    q.role? = some (.part p) ∧ q'.role? = none := by
  cases h with
  | aside h =>
      cases h with
      | leave => exact ⟨rfl, rfl⟩
      | work hr => exact hr.elim
  | run h => exact nomatch h

/-- A loop that ends gives its role up. -/
theorem Course.finish {q q' : Stage} {d : Tunnel.Direction} {e : Tunnel.Ending} {y : Unit}
    (h : Course c q (.tunnel (.finish d e)) y q') :
    q.role? = some (.loop d) ∧ q'.role? = none := by
  cases h with
  | aside h =>
      cases h with
      | finish => exact ⟨rfl, rfl⟩
      | forward hr => exact hr.elim
      | work hr => exact hr.elim
      | change hl => cases hl with
        | aside hr => exact hr.elim
  | run h =>
      cases h with
      | add hl => cases hl with
        | aside hr => exact hr.elim

/-- Whoever makes the ending of the server known has waited for both loops. -/
theorem Course.served {q q' : Stage} {e : Tunnel.Ending} {y : Unit}
    (h : Course c q (.served e) y q') : q = .aside (.ended e) ∧ q' = .aside .finished := by
  cases h with
  | aside h =>
      cases h with
      | served => exact ⟨rfl, rfl⟩
      | work hr => exact hr.elim
  | run h => exact nomatch h

/-! ## What requests mark -/

theorem mem_endedAfter {d : Tunnel.Direction} {e : Tunnel.Ending}
    (h : (d, e) ∈ r.endedAfter past) : (d, e) ∈ past ∨ r = .tunnel (.finish d e) := by
  cases r with
  | tunnel r =>
      cases r with
      | finish d' e' =>
          rcases List.mem_cons.mp h with heq | h
          · cases heq
            exact Or.inr rfl
          · exact Or.inl h
      | _ => exact Or.inl h
  | _ => exact Or.inl h

theorem mem_endedAfter_of_mem {a : Tunnel.Direction × Tunnel.Ending} (h : a ∈ past) :
    a ∈ r.endedAfter past := by
  cases r with
  | tunnel r =>
      cases r with
      | finish d' e' => exact List.mem_cons_of_mem _ h
      | _ => exact h
  | _ => exact h

theorem mem_mark_left {p : Part} (h : p ∈ (r.mark m).left) : p ∈ m.left ∨ r = .leave p := by
  cases r with
  | leave p' =>
      rcases List.mem_cons.mp h with rfl | h
      · exact Or.inr rfl
      · exact Or.inl h
  | _ => exact Or.inl h

theorem mem_mark_left_of_mem {p : Part} (h : p ∈ m.left) : p ∈ (r.mark m).left := by
  cases r with
  | leave p' => exact List.mem_cons_of_mem _ h
  | _ => exact h

theorem mark_served {e : Tunnel.Ending} (h : (r.mark m).served = some e) :
    m.served = some e ∨ r = .served e := by
  cases r with
  | served e' =>
      cases h
      exact Or.inr rfl
  | _ => exact Or.inl h

theorem mark_launched (h : (r.mark m).launched = false) : m.launched = false := by
  cases r with
  | launch => exact nomatch h
  | _ => exact h

/-! ## The helpers and the marks -/

/-- Has the helper not done anything yet? -/
def Helper.Asleep : Helper → Prop
  | loop _ awake => awake = false
  | serving => True
  | part _ awake _ => awake = false
  | _ => False

/-- What wakes a helper is the launch, or a loop that has been launched and has ended. -/
theorem Helper.Step.wakes {b b' : Helper} (h : b.Step r x b') (hb : b.Asleep)
    (htells : Tells m past r x) : m.launched = true ∨ past ≠ [] := by
  cases h with
  | arrive => exact Or.inl htells
  | firstEnded => exact Or.inr (List.ne_nil_of_mem htells)
  | sight => exact Or.inl htells
  | check => exact Or.inl htells
  | look => exact Or.inl htells
  | forward | finish | work | change | leave => exact nomatch hb
  | stop | join | served => exact hb.elim

/-- Both loops have ended. -/
def Joined (past : List (Tunnel.Direction × Tunnel.Ending)) : Prop := ∀ d, ∃ e, (d, e) ∈ past

theorem Joined.after (h : Joined past) : Joined (r.endedAfter past) := by
  intro d
  obtain ⟨e, he⟩ := h d
  exact ⟨e, mem_endedAfter_of_mem he⟩

/-- What a helper knows of the loops. -/
def Helper.Knows (past : List (Tunnel.Direction × Tunnel.Ending)) : Helper → Prop
  | ending d e => (d, e) ∈ past
  | ended _ => Joined past
  | _ => True

theorem Helper.Knows.after {b : Helper} (h : b.Knows past) : b.Knows (r.endedAfter past) := by
  cases b with
  | ending d e => exact mem_endedAfter_of_mem h
  | ended e => exact Joined.after h
  | _ => trivial

/-- A helper knows what it was answered. -/
theorem Helper.Step.knows {b b' : Helper} (h : b.Step r x b') (hb : b.Knows past)
    (htells : Tells m past r x) : b'.Knows past := by
  cases h with
  | firstEnded => exact htells
  | stop => exact hb
  | @join d e y =>
      intro d'
      have hd : d' = d ∨ d' = d.other := by cases d <;> cases d' <;> simp [Tunnel.Direction.other]
      rcases hd with rfl | rfl
      · exact ⟨e, hb⟩
      · exact ⟨y, htells⟩
  | _ => trivial

/-- The helpers are as the marks and the loops that have ended say. -/
structure Helpers (m : Marks) (past : List (Tunnel.Direction × Tunnel.Ending))
    (ph : TaskId → Stage) : Prop where
  /-- Nobody has the role of another task. -/
  home : ∀ {i : TaskId} {ρ : Role}, (ph i).role? = some ρ → i = ρ.home
  /-- Before the launch nothing has happened. -/
  asleep : m.launched = false → past = [] ∧ ∀ {i : TaskId} {b : Helper}, ph i = .aside b → b.Asleep
  /-- A part that has left is gone. -/
  left : ∀ {p : Part}, p ∈ m.left → ∀ i, (ph i).role? ≠ some (.part p)
  /-- A loop that has ended is gone. -/
  loops : ∀ {d : Tunnel.Direction} {e : Tunnel.Ending}, (d, e) ∈ past →
    ∀ i, (ph i).role? ≠ some (.loop d)
  /-- What the helpers know is so. -/
  knows : ∀ {i : TaskId} {b : Helper}, ph i = .aside b → b.Knows past
  /-- Once the ending of the server is known, both loops and the server are gone. -/
  served : ∀ {e : Tunnel.Ending}, m.served = some e →
    Joined past ∧ ∀ i, (ph i).role? ≠ some .server

theorem role?_update {q : Stage} (hq : ∀ {ρ}, q.role? = some ρ → (ph id).role? = some ρ)
    {i : TaskId}
    {ρ : Role} (h : (Function.update ph id q i).role? = some ρ) : (ph i).role? = some ρ := by
  by_cases hi : i = id
  · rw [hi, Function.update_self] at h
    rw [hi]
    exact hq h
  · rw [Function.update_of_ne hi] at h
    exact h

namespace Helpers

/-- The role that a task has given up is gone. -/
theorem gone (h : Helpers m past ph) {ρ : Role} (hρ : (ph id).role? = some ρ)
    (hq : q.role? = none) (i : TaskId) : (Function.update ph id q i).role? ≠ some ρ := by
  intro hi
  by_cases heq : i = id
  · rw [heq, Function.update_self, hq] at hi
    exact nomatch hi
  · rw [Function.update_of_ne heq] at hi
    exact heq ((h.home hi).trans (h.home hρ).symm)

/-- Before the launch only a run can take a step. -/
theorem step_run (h : Helpers m past ph) (hlaunched : m.launched = false)
    (hstep : Course c (ph id) r x q) (htells : Tells m past r x) :
    ∃ l l', ph id = .run l ∧ q = .run l' ∧ l.Step c r x l' := by
  generalize hp : ph id = p at hstep
  cases hstep with
  | aside hb =>
      -- a helper would have to be woken first
      obtain ⟨hnil, hasleep⟩ := h.asleep hlaunched
      rcases hb.wakes (hasleep hp) htells with hl | hne
      · exact nomatch hlaunched.symm.trans hl
      · exact absurd hnil hne
  | run hl => exact ⟨_, _, rfl, rfl, hl⟩

/-- Every exchange keeps the helpers in order. -/
theorem step (h : Helpers m past ph) (hstep : Course c (ph id) r x q)
    (htells : Tells m past r x) :
    Helpers (r.mark m) (r.endedAfter past) (Function.update ph id q) where
  home := fun hi => h.home (role?_update hstep.role? hi)
  asleep := by
    intro hlaunched
    have hbefore := mark_launched hlaunched
    obtain ⟨hnil, hasleep⟩ := h.asleep hbefore
    -- before the launch the step is one of a run, which ends no loop
    obtain ⟨l, l', hl, rfl, hrun⟩ := h.step_run hbefore hstep htells
    refine ⟨?_, ?_⟩
    · refine List.eq_nil_iff_forall_not_mem.mpr fun (d, e) hmem => ?_
      rcases mem_endedAfter hmem with hmem | rfl
      · rw [hnil] at hmem
        exact List.not_mem_nil hmem
      · exact nomatch hstep.finish.1.symm.trans (congrArg Stage.role? hl)
    · intro i b hb
      by_cases hi : i = id
      · rw [hi, Function.update_self] at hb
        exact nomatch hb
      · rw [Function.update_of_ne hi] at hb
        exact hasleep hb
  left := by
    intro p hp i hi
    rcases mem_mark_left hp with hp | rfl
    · exact h.left hp i (role?_update hstep.role? hi)
    · exact h.gone hstep.leave.1 hstep.leave.2 i hi
  loops := by
    intro d e he i hi
    rcases mem_endedAfter he with he | rfl
    · exact h.loops he i (role?_update hstep.role? hi)
    · exact h.gone hstep.finish.1 hstep.finish.2 i hi
  knows := by
    intro i b hb
    by_cases hi : i = id
    · rw [hi, Function.update_self] at hb
      subst hb
      generalize hp : ph id = p at hstep
      cases hstep with
      | aside hb => exact (hb.knows (h.knows hp) htells).after
    · rw [Function.update_of_ne hi] at hb
      exact (h.knows hb).after
  served := by
    intro e he
    rcases mark_served he with he | rfl
    · obtain ⟨hjoined, hserver⟩ := h.served he
      exact ⟨hjoined.after, fun i hi => hserver i (role?_update hstep.role? hi)⟩
    · obtain ⟨hp, hq⟩ := hstep.served
      refine ⟨Joined.after (h.knows hp), h.gone (by rw [hp]; rfl) (by rw [hq]; rfl)⟩

/-- The ending of the server is made known once. -/
theorem served_stays (h : Helpers m past ph) (hstep : Course c (ph id) r x q)
    {e : Tunnel.Ending} (he : m.served = some e) : (r.mark m).served = some e := by
  cases r with
  | served e' =>
      refine absurd ?_ ((h.served he).2 id)
      rw [hstep.served.1]
      rfl
  | _ => exact he

/-- **Nobody is left** once the ending of the server is known and all parts have left. -/
theorem idle (h : Helpers m past ph) {e : Tunnel.Ending} (he : m.served = some e)
    (hleft : ∀ p, p ∈ m.left) (i : TaskId) : (ph i).role? = none := by
  obtain ⟨hjoined, hserver⟩ := h.served he
  cases hρ : (ph i).role? with
  | none => rfl
  | some ρ =>
      cases ρ with
      | loop d =>
          obtain ⟨e', he'⟩ := hjoined d
          exact absurd hρ (h.loops he' i)
      | server => exact absurd hρ (hserver i)
      | part p => exact absurd hρ (h.left (hleft p) i)

end Helpers

/-- The helpers of an agent that has not been run are asleep. -/
theorem helpers_begin : Helpers ⟨false, false, [], none⟩ [] (begins c) := by
  have hhelper : ∀ {i : TaskId} {b : Helper}, begins c i = .aside b →
      b.Asleep ∧ b.Knows [] ∧ ∀ ρ, b.role? = some ρ → i = ρ.home := by
    intro i b hb
    unfold begins launchStages at hb
    cases hurl : Controller.watchUrl c.registry.url with
    | error e =>
        rw [hurl] at hb
        match i with
        | 0 | 1 | 2 | 3 | 4 =>
            cases hb
            refine ⟨by trivial, trivial, fun ρ hρ => ?_⟩
            cases hρ
            rfl
        | _ + 5 => exact nomatch hb
    | ok url =>
        rw [hurl] at hb
        match i with
        | 0 | 1 | 2 | 3 | 4 | 5 =>
            cases hb
            refine ⟨by trivial, trivial, fun ρ hρ => ?_⟩
            cases hρ
            rfl
        | _ + 6 => exact nomatch hb
  refine ⟨?_, fun _ => ⟨rfl, fun hb => (hhelper hb).1⟩, fun h => (nomatch h),
    fun h => (nomatch h), fun hb => (hhelper hb).2.1, fun h => (nomatch h)⟩
  intro i ρ hρ
  cases hs : begins c i with
  | aside b =>
      rw [hs] at hρ
      exact (hhelper hs).2.2 ρ hρ
  | run l =>
      rw [hs] at hρ
      exact nomatch hρ

end Overlay.Agent.Lifecycle
