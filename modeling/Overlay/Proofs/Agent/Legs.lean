import Overlay.Proofs.Agent.Routes

/-!
# The run that leads

At most one run of an agent gets the right to run, and this run leads.  For each of its
legs `Leg.Fits` says what has happened by then.  A step of the run that leads goes on to a
leg that fits, and nobody else can disturb it: other runs are refused, and a helper is only
at work between the launch and its own end.
-/

namespace Overlay.Agent.Lifecycle

variable {c : Config} {m : Marks} {past : List (Tunnel.Direction × Tunnel.Ending)}
  {line : List TaskId} {t : RouteTable} {tr : List (Exchange interface)} {i id : TaskId}
  {r : Request} {x : r.Answer} {l l' : Leg}

/-! ## What a trace tells -/

/-- A route command was given. -/
def Commands : Exchange interface → Prop
  | ⟨_, .tunnel (.issue _ _), _⟩ => True
  | _ => False

/-- An edge was unregistered. -/
def Unregisters : Exchange interface → Prop
  | ⟨_, .unregister _, _⟩ => True
  | _ => False

/-- Was the edge registered? -/
def registers : Exchange interface → Bool
  | ⟨_, .register _, .ok _⟩ => true
  | _ => false

/-- The error that came of an attempt to bind the listen socket or to register the edge. -/
def setback? : Exchange interface → Option AgentError
  | ⟨_, .bind _, .error e⟩ => some (.engine (.io e))
  | ⟨_, .register _, .error e⟩ => some (.registry e)
  | _ => none

/-- Something failed before the edge was registered: there is no address to watch, or the
    listen socket or the registration was refused. -/
def Fails (c : Config) (tr : List (Exchange interface)) (e : AgentError) : Prop :=
  (∃ reason, Controller.watchUrl c.registry.url = .error reason ∧ e = .watch reason) ∨
    ∃ y ∈ tr, setback? y = some e

/-- Nothing was unregistered. -/
def Staying (tr : List (Exchange interface)) : Prop := ∀ e ∈ tr, ¬ Unregisters e

/-- The task has unregistered the edge, once, and nothing but the right to run was asked for
    afterwards. -/
def Parted (c : Config) (i : TaskId) (tr : List (Exchange interface)) : Prop :=
  ∃ before x after, tr = before ++ ⟨i, .unregister c.registry.name, x⟩ :: after ∧
    Staying before ∧ ∀ e ∈ after, e.request = .claim

/-- Nothing has been launched, and nothing was done that would have to be undone. -/
structure Early (m : Marks) (tr : List (Exchange interface)) : Prop where
  launched : m.launched = false
  none : ∀ e ∈ tr, ¬ Commands e ∧ ¬ Unregisters e ∧ ¬ registers e

/-- The tunnel server has ended as given, and all parts have left. -/
structure Done (m : Marks) (e : Tunnel.Ending) : Prop where
  served : m.served = some e
  left : ∀ p, p ∈ m.left

theorem Staying.append {e : Exchange interface} (h : Staying tr) (he : ¬ Unregisters e) :
    Staying (tr ++ [e]) :=
  System.forall_mem_concat h he

theorem Early.staying (h : Early m tr) : Staying tr := fun e he => (h.none e he).2.1

theorem Early.append {m' : Marks} {e : Exchange interface} (h : Early m tr)
    (hm : m'.launched = m.launched) (he : ¬ Commands e ∧ ¬ Unregisters e ∧ ¬ registers e) :
    Early m' (tr ++ [e]) where
  launched := hm.trans h.launched
  none := System.forall_mem_concat h.none he

theorem Parted.append {e : Exchange interface} (h : Parted c i tr) (he : e.request = .claim) :
    Parted c i (tr ++ [e]) := by
  obtain ⟨before, x, after, rfl, hbefore, hafter⟩ := h
  exact ⟨before, x, after ++ [e], by simp, hbefore, System.forall_mem_concat hafter he⟩

/-! ## The legs of a run -/

/-- Does the run lead, that is, has it got the right to run? -/
def Leg.Leading : Leg → Prop
  | fresh => False
  | rejected => False
  | _ => True

/-- What has happened when the run of the given number is on the leg. -/
def Leg.Fits (c : Config) (i : TaskId) (m : Marks) (t : RouteTable)
    (tr : List (Exchange interface)) : Leg → Prop
  | fresh => ∀ e ∈ tr, e.task ≠ i
  | rejected => ∀ e ∈ tr, e.task = i → e = ⟨i, .claim, false⟩
  | claimed => Early m tr
  | bound => Early m tr
  | failed _ => Early m tr
  | adding _ => m.launched = false ∧ Staying tr
  | waiting => Staying tr
  | stopping => Staying tr
  | joining e ps => Staying tr ∧ m.served = some e ∧ ∀ p, p ∈ ps ∨ p ∈ m.left
  | clearing e rest _ => Staying tr ∧ Done m e ∧ ∀ ns ∈ rest, ∀ n, t.get? n ≠ none → n ∈ ns
  | cleared e => Staying tr ∧ Done m e ∧ ∀ n, t.get? n = none
  | gone e => Parted c i tr ∧ Done m e ∧ ∀ n, t.get? n = none

/-- The first leg after the claim. -/
theorem ofUrl_leading : (Leg.ofUrl c).Leading := by
  rcases Leg.ofUrl_cases c with h | ⟨e, h⟩
  · rw [h]
    trivial
  · rw [h]
    trivial

theorem ofUrl_fits (h : Early m tr) : (Leg.ofUrl c).Fits c i m t tr := by
  rcases Leg.ofUrl_cases c with hurl | ⟨e, hurl⟩
  · rw [hurl]
    exact h
  · rw [hurl]
    exact h

/-- A step of the run that leads goes on to a leg that fits. -/
theorem Leg.Fits.step (h : l.Fits c i m t tr) (hl : l.Leading) (hstep : l.Step c r x l')
    (htells : Tells m past r x) (hshows : Shows i line t r x) :
    l'.Fits c i (r.mark m) (r.tableAfter t) (tr ++ [⟨i, r, x⟩]) := by
  cases hstep with
  | claim | reject => exact hl.elim
  | bind | bindError | registerError =>
      exact Early.append h rfl ⟨not_false, not_false, Bool.false_ne_true⟩
  | register => exact ⟨Early.launched h, (Early.staying h).append not_false⟩
  | add => exact ⟨h.1, h.2.append not_false⟩
  | launch => exact h.2.append not_false
  | told | tell | stop => exact Staying.append h not_false
  | ended =>
      refine ⟨Staying.append h not_false, htells _ rfl, fun p => Or.inl ?_⟩
      cases p <;> simp [parts]
  | tellEnded | stopEnded => exact ⟨h.1.append not_false, h.2⟩
  | joinServer =>
      refine ⟨Staying.append h not_false, htells, fun p => Or.inl ?_⟩
      cases p <;> simp [parts]
  | @join e p ps _ =>
      refine ⟨h.1.append not_false, h.2.1, fun p' => ?_⟩
      rcases h.2.2 p' with hp' | hleft
      · rcases List.mem_cons.mp hp' with rfl | hps
        · exact Or.inr htells
        · exact Or.inl hps
      · exact Or.inr hleft
  | queue =>
      refine ⟨h.1.append not_false, ⟨h.2.1, fun p => ?_⟩, fun ns hns => nomatch hns⟩
      exact (h.2.2 p).resolve_left (List.not_mem_nil)
  | lock => exact ⟨h.1.append not_false, h.2.1, fun ns hns => nomatch hns⟩
  | networks =>
      -- what is to be removed are all networks that have a peer
      refine ⟨h.1.append not_false, h.2.1, ?_⟩
      rintro _ ⟨⟩ n hn
      rw [show _ = t.networks from hshows]
      exact RouteTable.mem_networks_iff.mpr hn
  | @remove e n ns g _ =>
      refine ⟨h.1.append not_false, h.2.1, ?_⟩
      rintro _ ⟨⟩ n' hn'
      have hn'' : (t.erase n).get? n' ≠ none := hn'
      rw [RouteTable.get?_erase] at hn''
      by_cases heq : n' = n
      · rw [if_pos heq] at hn''
        exact absurd rfl hn''
      · rw [if_neg heq] at hn''
        rcases List.mem_cons.mp (h.2.2 _ rfl n' hn'') with heq' | hmem
        · exact absurd heq' heq
        · exact hmem
  | issue | outcome => exact ⟨h.1.append not_false, h.2⟩
  | unlock =>
      -- nothing is left to be removed, so that the table is empty
      refine ⟨h.1.append not_false, h.2.1, fun n => ?_⟩
      by_contra hn
      exact List.not_mem_nil (h.2.2 [] rfl n hn)
  | @unregister e y =>
      exact ⟨⟨tr, y, [], rfl, h.1, fun _ hmem => nomatch hmem⟩, h.2⟩

/-- A run that does not lead has nothing to do with what others ask. -/
theorem Leg.Fits.idle {m' : Marks} {t' : RouteTable} {e : Exchange interface}
    (h : l.Fits c i m t tr) (hl : ¬ l.Leading) (hne : e.task ≠ i) :
    l.Fits c i m' t' (tr ++ [e]) := by
  cases l with
  | fresh => exact System.forall_mem_concat h hne
  | rejected => exact System.forall_mem_concat h fun heq => absurd heq hne
  | _ => exact absurd trivial hl

/-- The claim of another run changes nothing. -/
theorem Leg.Fits.claim (h : l.Fits c i m t tr) (hne : id ≠ i) {y : Bool} :
    l.Fits c i m t (tr ++ [⟨id, .claim, y⟩]) := by
  cases l with
  | fresh | rejected => exact h.idle not_false hne
  | claimed | bound | failed => exact Early.append h rfl ⟨not_false, not_false, Bool.false_ne_true⟩
  | adding => exact ⟨h.1, h.2.append not_false⟩
  | waiting | stopping => exact Staying.append h not_false
  | joining | clearing | cleared => exact ⟨h.1.append not_false, h.2⟩
  | gone => exact ⟨h.1.append rfl, h.2⟩

/-- What a helper does beside a run changes nothing either: before the launch and after the
    end there is no helper at work. -/
theorem Leg.Fits.beside {b b' : Helper} (h : l.Fits c i m t tr) (hne : id ≠ i)
    (hstep : b.Step r x b') (hlaunched : m.launched = true) (hdone : ∀ e, ¬ Done m e)
    (hserved : ∀ e, m.served = some e → (r.mark m).served = some e) :
    l.Fits c i (r.mark m) (r.tableAfter t) (tr ++ [⟨id, r, x⟩]) := by
  have hstays : ¬ Unregisters ⟨id, r, x⟩ := by
    cases hstep with
    | work hr =>
        cases r with
        | unregister => exact hr.elim
        | _ => exact not_false
    | _ => exact not_false
  have hearly : ∀ {tr}, ¬ Early m tr := fun he => nomatch he.launched.symm.trans hlaunched
  cases l with
  | fresh | rejected => exact h.idle not_false hne
  | claimed | bound | failed => exact absurd h hearly
  | adding => exact nomatch h.1.symm.trans hlaunched
  | waiting | stopping => exact Staying.append h hstays
  | joining e ps =>
      refine ⟨h.1.append hstays, hserved e h.2.1, fun p => ?_⟩
      exact (h.2.2 p).imp_right mem_mark_left_of_mem
  -- every helper has ended by then
  | clearing | cleared | gone => exact absurd h.2.1 (hdone _)

/-! ## One run leads -/

/-- Who leads, and what has happened on the way. -/
structure Led (c : Config) (tr : List (Exchange interface)) (m : Marks) (t : RouteTable)
    (ph : TaskId → Stage) : Prop where
  /-- Before the agent is run nothing happens. -/
  unclaimed : m.claimed = false → tr = [] ∧ m.launched = false
  /-- A run that leads has got the right to run. -/
  claimed : ∀ {i : TaskId} {l : Leg}, ph i = .run l → l.Leading → m.claimed = true
  /-- At most one run leads. -/
  unique : ∀ {i j : TaskId} {l l' : Leg}, ph i = .run l → l.Leading → ph j = .run l' →
    l'.Leading → j = i
  /-- Whoever has got the right to run leads. -/
  granted : ∀ {i : TaskId}, ⟨i, .claim, true⟩ ∈ tr → ∃ l, ph i = .run l ∧ l.Leading
  /-- Every run has done what its leg says. -/
  fits : ∀ {i : TaskId} {l : Leg}, ph i = .run l → l.Fits c i m t tr
  /-- What fails makes the run that leads fail. -/
  fails : ∀ {i : TaskId} {l : Leg} {e : AgentError}, ph i = .run l → l.Leading →
    Fails c tr e → l = .failed e
  /-- The ending of the server is the one that was made known. -/
  told : ∀ {e : Tunnel.Ending}, m.served = some e ↔ ∃ k, ⟨k, .served e, ()⟩ ∈ tr

/-- A run that leads goes on to lead. -/
theorem Leg.Step.leading (h : l.Step c r x l') (hl : l.Leading) : l'.Leading := by
  cases h with
  | claim | reject => exact hl.elim
  | _ => trivial

/-- Once the right to run is gone, nobody else comes to lead. -/
theorem Leg.Step.leading_before (h : l.Step c r x l') (hl' : l'.Leading)
    (hclaimed : m.claimed = true) (htells : Tells m past r x) : l.Leading := by
  cases h with
  | claim =>
      have hfree : true = !m.claimed := htells
      rw [hclaimed] at hfree
      exact nomatch hfree
  | reject => exact hl'
  | _ => trivial

/-- A run that does not lead asks for the right to run and gets a refusal. -/
theorem Leg.Step.refused (id : TaskId) (h : l.Step c r x l') (hl : ¬ l.Leading)
    (hclaimed : m.claimed = true)
    (htells : Tells m past r x) :
    l = .fresh ∧ l' = .rejected ∧ (⟨id, r, x⟩ : Exchange interface) = ⟨id, .claim, false⟩ := by
  cases h with
  | claim =>
      have hfree : true = !m.claimed := htells
      rw [hclaimed] at hfree
      exact nomatch hfree
  | reject => exact ⟨rfl, rfl, rfl⟩
  | _ => exact absurd trivial hl

/-- Only the run that leads meets with a setback, and it fails then. -/
theorem Course.setback {q q' : Stage} {e : AgentError} (h : Course c q r x q')
    (he : setback? ⟨id, r, x⟩ = some e) : ∃ l, q = .run l ∧ l.Leading ∧ q' = .run (.failed e) := by
  cases h with
  | aside h =>
      cases h with
      | work hr =>
          cases r with
          | bind | register => exact hr.elim
          | _ => exact nomatch he
      | _ => exact nomatch he
  | run h =>
      cases h with
      | bindError | registerError =>
          cases he
          exact ⟨_, rfl, trivial, rfl⟩
      | _ => exact nomatch he

theorem mark_claim (h : m.claimed = true) : Request.claim.mark m = m := by
  cases m
  cases h
  rfl

theorem mark_claimed (h : m.claimed = true) : (r.mark m).claimed = true := by
  cases r with
  | claim => rfl
  | _ => exact h

namespace Led

variable {ph : TaskId → Stage} {q : Stage}

/-- The first run that asks for the right to run gets it. -/
private theorem grant (h : Led c tr m t ph) (hh : Helpers m past ph)
    (hclaimed : m.claimed = false) (hstep : Course c (ph id) r x q) (htells : Tells m past r x) :
    Led c (tr ++ [⟨id, r, x⟩]) (r.mark m) (r.tableAfter t) (Function.update ph id q) := by
  obtain ⟨rfl, hlaunched⟩ := h.unclaimed hclaimed
  obtain ⟨l, l', hl, rfl, hrun⟩ := hh.step_run hlaunched hstep htells
  -- nobody has asked yet, so that nobody leads
  have hnone : ∀ {i : TaskId} {l : Leg}, ph i = .run l → ¬ l.Leading :=
    fun hi hlead => nomatch hclaimed.symm.trans (h.claimed hi hlead)
  cases hrun with
  | reject =>
      have htaken : false = !m.claimed := htells
      rw [hclaimed] at htaken
      exact nomatch htaken
  | claim =>
      have hlead : ∀ {i : TaskId} {l : Leg}, Function.update ph id (.run (.ofUrl c)) i = .run l →
          l.Leading → i = id := by
        intro i l hi hl
        by_contra hne
        rw [Function.update_of_ne hne] at hi
        exact hnone hi hl
      refine ⟨fun hfalse => (nomatch hfalse), fun _ _ => rfl, ?_, ?_, ?_, ?_, ?_⟩
      · intro i j l l' hi hl hj hl'
        exact (hlead hj hl').trans (hlead hi hl).symm
      · intro i hi
        cases List.mem_singleton.mp hi
        exact ⟨.ofUrl c, Function.update_self .., ofUrl_leading⟩
      · intro i l hi
        by_cases heq : i = id
        · rw [heq, Function.update_self] at hi
          cases hi
          refine ofUrl_fits ⟨hlaunched, fun e he => ?_⟩
          rw [List.mem_singleton.mp he]
          exact ⟨not_false, not_false, Bool.false_ne_true⟩
        · rw [Function.update_of_ne heq] at hi
          exact (h.fits hi).idle (hnone hi) fun hid => heq hid.symm
      · intro i l e hi hl hfails
        rw [hlead hi hl, Function.update_self] at hi
        cases hi
        rcases hfails with ⟨reason, hurl, rfl⟩ | ⟨y, hy, he⟩
        · exact Leg.ofUrl_error hurl
        · cases List.mem_singleton.mp hy
          exact nomatch he
      · intro e
        have hunserved : m.served ≠ some e := fun he => by
          obtain ⟨k, hk⟩ := h.told.mp he
          exact List.not_mem_nil hk
        refine iff_of_false hunserved fun ⟨k, hk⟩ => ?_
        exact nomatch List.mem_singleton.mp hk
  | _ => exact absurd trivial (hnone hl)

/-- Once the right to run is gone, whoever leads has led before. -/
theorem leading_before (hclaimed : m.claimed = true) (hstep : Course c (ph id) r x q)
    (htells : Tells m past r x) (hi : Function.update ph id q i = .run l) (hl : l.Leading) :
    ∃ l₀, ph i = .run l₀ ∧ l₀.Leading := by
  by_cases heq : i = id
  · rw [heq, Function.update_self] at hi
    subst hi
    rw [heq]
    generalize ph id = p at hstep
    cases hstep with
    | run hrun => exact ⟨_, rfl, hrun.leading_before hl hclaimed htells⟩
  · rw [Function.update_of_ne heq] at hi
    exact ⟨l, hi, hl⟩

/-- A run that has taken a step is on a leg that fits. -/
theorem fits_own (h : Led c tr m t ph) (hclaimed : m.claimed = true)
    (hstep : Course c (ph id) r x (.run l)) (htells : Tells m past r x)
    (hshows : Shows id line t r x) :
    l.Fits c id (r.mark m) (r.tableAfter t) (tr ++ [⟨id, r, x⟩]) := by
  generalize hp : ph id = p at hstep
  cases hstep with
  | @run l₀ _ r x hrun =>
      by_cases hl : l₀.Leading
      · exact (h.fits hp).step hl hrun htells hshows
      · obtain ⟨rfl, rfl, he⟩ := hrun.refused id hl hclaimed htells
        -- the refusal is the first exchange of this run
        refine System.forall_mem_concat (fun e' he' htask => ?_) fun _ => he
        exact absurd htask (h.fits hp e' he')

/-- A run stays on a leg that fits while another task takes a step. -/
theorem fits_other (h : Led c tr m t ph) (hh : Helpers m past ph) (hclaimed : m.claimed = true)
    (hstep : Course c (ph id) r x q) (htells : Tells m past r x) (hi : ph i = .run l)
    (hne : id ≠ i) : l.Fits c i (r.mark m) (r.tableAfter t) (tr ++ [⟨id, r, x⟩]) := by
  have hcourse := hstep
  generalize hp : ph id = p at hstep
  cases hstep with
  | aside hb =>
      refine (h.fits hi).beside hne hb ?_ ?_ fun e he => hh.served_stays hcourse he
      · by_contra hlaunched
        obtain ⟨l₀, -, hl₀, -⟩ :=
          hh.step_run (Bool.eq_false_of_not_eq_true hlaunched) hcourse htells
        exact nomatch hp.symm.trans hl₀
      · intro e hdone
        -- a run that is done with the helpers leaves none that could take a step
        have hidle := hh.idle hdone.served hdone.left id
        rw [hp] at hidle
        cases hb <;> exact nomatch hidle
  | @run l₀ _ r x hrun =>
      by_cases hl : l.Leading
      · -- two different runs cannot both lead, so that the other one is refused
        have hl₀ : ¬ l₀.Leading := fun hl₀ => hne (h.unique hi hl hp hl₀)
        obtain ⟨rfl, rfl, he⟩ := hrun.refused id hl₀ hclaimed htells
        cases he
        rw [mark_claim hclaimed]
        exact (h.fits hi).claim hne
      · exact (h.fits hi).idle hl hne

/-- What fails in this exchange makes the run that leads fail, and nothing fails twice. -/
theorem fails_after {e : AgentError} (h : Led c tr m t ph) (hclaimed : m.claimed = true)
    (hstep : Course c (ph id) r x q) (htells : Tells m past r x)
    (hi : Function.update ph id q i = .run l) (hl : l.Leading)
    (hfails : Fails c (tr ++ [⟨id, r, x⟩]) e) : l = .failed e := by
  obtain ⟨l₀, hi₀, hl₀⟩ := leading_before hclaimed hstep htells hi hl
  have hcases : Fails c tr e ∨ setback? ⟨id, r, x⟩ = some e := by
    rcases hfails with hurl | ⟨y, hy, he⟩
    · exact Or.inl (Or.inl hurl)
    · rcases List.mem_append.mp hy with hy | hy
      · exact Or.inl (Or.inr ⟨y, hy, he⟩)
      · rw [List.mem_singleton.mp hy] at he
        exact Or.inr he
  rcases hcases with hold | hnew
  · have hfailed := h.fails hi₀ hl₀ hold
    by_cases heq : i = id
    · -- a run that has failed takes no further step
      rw [← heq, hi₀, hfailed] at hstep
      cases hstep with
      | run hrun => exact nomatch hrun
    · rw [Function.update_of_ne heq, hi₀] at hi
      cases hi
      exact hfailed
  · obtain ⟨l₁, hl₁, hlead, rfl⟩ := hstep.setback hnew
    rw [h.unique hl₁ hlead hi₀ hl₀, Function.update_self] at hi
    cases hi
    rfl

/-- The ending of the server is made known by an exchange, and stays known. -/
theorem told_after {e : Tunnel.Ending} (h : Led c tr m t ph) (hh : Helpers m past ph)
    (hstep : Course c (ph id) r x q) :
    (r.mark m).served = some e ↔ ∃ k, ⟨k, .served e, ()⟩ ∈ tr ++ [⟨id, r, x⟩] := by
  constructor
  · intro he
    rcases mark_served he with he | rfl
    · obtain ⟨k, hk⟩ := h.told.mp he
      exact ⟨k, List.mem_append_left _ hk⟩
    · exact ⟨id, List.mem_append_right _ (List.mem_singleton.mpr rfl)⟩
  · rintro ⟨k, hk⟩
    rcases List.mem_append.mp hk with hk | hk
    · exact hh.served_stays hstep (h.told.mpr ⟨k, hk⟩)
    · cases List.mem_singleton.mp hk
      rfl

/-- Once the right to run is gone, nobody else comes to lead. -/
private theorem go (h : Led c tr m t ph) (hh : Helpers m past ph) (hclaimed : m.claimed = true)
    (hstep : Course c (ph id) r x q) (htells : Tells m past r x) (hshows : Shows id line t r x) :
    Led c (tr ++ [⟨id, r, x⟩]) (r.mark m) (r.tableAfter t) (Function.update ph id q) := by
  have hbefore : ∀ {i : TaskId} {l : Leg}, Function.update ph id q i = .run l → l.Leading →
      ∃ l₀, ph i = .run l₀ ∧ l₀.Leading := leading_before hclaimed hstep htells
  refine ⟨fun hfalse => ?_, fun _ _ => mark_claimed hclaimed, ?_, ?_, ?_,
    fun hi hl hfails => h.fails_after hclaimed hstep htells hi hl hfails, h.told_after hh hstep⟩
  · exact nomatch (mark_claimed hclaimed).symm.trans hfalse
  · intro i j l l' hi hl hj hl'
    obtain ⟨l₀, hi₀, hl₀⟩ := hbefore hi hl
    obtain ⟨l₁, hj₁, hl₁⟩ := hbefore hj hl'
    exact h.unique hi₀ hl₀ hj₁ hl₁
  · intro i hi
    rcases List.mem_append.mp hi with hi | hi
    · obtain ⟨l, hl, hlead⟩ := h.granted hi
      by_cases heq : i = id
      · rw [heq] at hl ⊢
        rw [Function.update_self]
        rw [hl] at hstep
        cases hstep with
        | run hrun => exact ⟨_, rfl, hrun.leading hlead⟩
      · rw [Function.update_of_ne heq]
        exact ⟨l, hl, hlead⟩
    · cases List.mem_singleton.mp hi
      have hfree : true = !m.claimed := htells
      rw [hclaimed] at hfree
      exact nomatch hfree
  · intro i l hi
    by_cases heq : i = id
    · rw [heq, Function.update_self] at hi
      rw [heq]
      exact h.fits_own hclaimed (hi ▸ hstep) htells hshows
    · rw [Function.update_of_ne heq] at hi
      exact h.fits_other hh hclaimed hstep htells hi fun hid => heq hid.symm

/-- Every exchange keeps the account of who leads. -/
theorem step (h : Led c tr m t ph) (hh : Helpers m past ph) (hstep : Course c (ph id) r x q)
    (htells : Tells m past r x) (hshows : Shows id line t r x) :
    Led c (tr ++ [⟨id, r, x⟩]) (r.mark m) (r.tableAfter t) (Function.update ph id q) := by
  by_cases hclaimed : m.claimed = true
  · exact h.go hh hclaimed hstep htells hshows
  · exact h.grant hh (Bool.eq_false_of_not_eq_true hclaimed) hstep htells

end Led

end Overlay.Agent.Lifecycle
