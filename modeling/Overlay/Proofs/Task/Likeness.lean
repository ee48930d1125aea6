import Overlay.Proofs.Task.Protocol

/-!
# Two runs side by side

Two systems that differ in data which no request depends on run alike: what the one asks for,
the other asks for up to these data, and is answered alike.  A `Likeness` says which requests
are alike and which answers to them.  Whether two programs are alike can be read off the
programs (`Program.Alike`), and whether a machine answers alike in states that are alike can be
read off the machine (`Machine.Respects`).

Together they give `System.play_alike`: in whatever order the tasks of the two systems take
their steps, the exchanges, the states and the results are alike.
-/

namespace Overlay

variable {I J : Interface} {σ α β : Type}

/-- Which requests are alike, and which answers to them. -/
abbrev Likeness (I : Interface) : Type :=
  (r r' : I.Request) → (I.Answer r → I.Answer r' → Prop) → Prop

/-- What is done to like values, if there are any, comes to like values. -/
theorem optionRel_bind {γ δ : Type} {R : α → β → Prop} {R' : γ → δ → Prop} {o : Option α}
    {o' : Option β} {f : α → Option γ} {f' : β → Option δ} (h : Option.Rel R o o')
    (hf : ∀ a b, R a b → Option.Rel R' (f a) (f' b)) : Option.Rel R' (o.bind f) (o'.bind f') := by
  cases h with
  | some hab => exact hf _ _ hab
  | none => exact .none

theorem optionRel_map {γ δ : Type} {R : α → β → Prop} {R' : γ → δ → Prop} {o : Option α}
    {o' : Option β} {f : α → γ} {f' : β → δ} (h : Option.Rel R o o')
    (hf : ∀ a b, R a b → R' (f a) (f' b)) : Option.Rel R' (o.map f) (o'.map f') := by
  cases h with
  | some hab => exact .some (hf _ _ hab)
  | none => exact .none

/-- What is like something is there. -/
theorem exists_of_optionRel_some {R : α → β → Prop} {o : Option α} {b : β}
    (h : Option.Rel R o (some b)) : ∃ a, o = some a ∧ R a b := by
  cases h with
  | some hab => exact ⟨_, rfl, hab⟩

namespace Program

/-- The programs ask for like things as long as they get like answers, and come to like
    results. -/
inductive Alike (L : Likeness I) (E : α → α → Prop) : Program I α → Program I α → Prop where
  | done {a a' : α} : E a a' → Alike L E (.done a) (.done a')
  | ask {r r' : I.Request} {A : I.Answer r → I.Answer r' → Prop} {next : I.Answer r → Program I α}
      {next' : I.Answer r' → Program I α} :
      L r r' A → (∀ x x', A x x' → Alike L E (next x) (next' x')) →
        Alike L E (.ask r next) (.ask r' next')

namespace Alike

variable {L : Likeness I} {E : α → α → Prop} {p p' : Program I α}

/-- Like programs after like programs. -/
theorem bind {E' : β → β → Prop} {f f' : α → Program I β} (h : p.Alike L E p')
    (hf : ∀ a a', E a a' → (f a).Alike L E' (f' a')) : (p >>= f).Alike L E' (p' >>= f') := by
  induction h with
  | done ha => exact hf _ _ ha
  | ask hr _ ih => exact .ask hr ih

theorem map {E' : β → β → Prop} {f f' : α → β} (h : p.Alike L E p')
    (hf : ∀ a a', E a a' → E' (f a) (f' a')) : (f <$> p).Alike L E' (f' <$> p') :=
  h.bind fun a a' ha => .done (hf a a' ha)

/-- Like programs are alike in another interface. -/
theorem lift {M : Likeness J} {request : I.Request → J.Request}
    {answer : ∀ r, J.Answer (request r) → I.Answer r}
    (hlift : ∀ {r r' A}, L r r' A →
      M (request r) (request r') fun x x' => A (answer r x) (answer r' x'))
    (h : p.Alike L E p') : (p.lift request answer).Alike M E (p'.lift request answer) := by
  induction h with
  | done ha => exact .done ha
  | ask hr _ ih => exact .ask (hlift hr) fun x x' hx => ih _ _ hx

end Alike

end Program

/-- To ask only for what is alike to something, as long as the answers are alike to something,
    is a protocol of one phase. -/
def Likeness.asking (L : Likeness I) : Protocol I where
  Phase := Unit
  Possible r x := ∀ r' A, L r r' A → ∃ x', A x x'
  Step _ r _ _ := ∃ r' A, L r r' A

/-- A program that is alike to another one keeps it. -/
theorem Program.Alike.keeps {L : Likeness I} {E : α → α → Prop} {p p' : Program I α}
    (h : p.Alike L E p') : p.Keeps L.asking (fun _ _ => True) () := by
  induction h with
  | done => exact trivial
  | @ask r r' A _ _ hr _ ih =>
      intro x hx
      obtain ⟨x', hxx'⟩ := hx r' A hr
      exact ⟨(), ⟨r', A, hr⟩, ih x x' hxx'⟩

/-- Like requests of the same task, with like answers. -/
def Exchange.Alike (L : Likeness I) (e e' : Exchange I) : Prop :=
  e.task = e'.task ∧ ∃ A, L e.request e'.request A ∧ A e.answer e'.answer

/-- The tasks run like programs. -/
inductive Task.Alike (L : Likeness I) (E : α → α → Prop) : Task I α → Task I α → Prop where
  | once {now now' : Program I α} : now.Alike L E now' → Alike L E (.once now) (.once now')
  | forever {body body' now now' : Program I (Option α)} :
      body.Alike L (Option.Rel E) body' → now.Alike L (Option.Rel E) now' →
        Alike L E (.forever body now) (.forever body' now')

/-- Like tasks have like results, or none yet. -/
theorem Task.Alike.result? {L : Likeness I} {E : α → α → Prop} {a a' : Task I α}
    (h : a.Alike L E a') : Option.Rel E a.result? a'.result? := by
  cases h with
  | once hnow =>
      cases hnow with
      | done ha => exact .some ha
      | ask => exact .none
  | forever _ hnow =>
      cases hnow with
      | done ha => exact ha
      | ask => exact .none

/-- The machine answers like requests alike, in states that are alike. -/
def Machine.Respects (m : Machine I σ) (L : Likeness I) (S : σ → σ → Prop) : Prop :=
  ∀ {id r r' A s s'}, L r r' A → S s s' →
    Option.Rel (fun y y' => A y.1 y'.1 ∧ S y.2 y'.2) (m.answer id r s) (m.answer id r' s')

/-- What is answered in a state that is alike to itself is alike to something. -/
theorem Machine.Respects.possible {m : Machine I σ} {L : Likeness I} {S : σ → σ → Prop}
    (hm : m.Respects L S) {id : TaskId} {r : I.Request} {x : I.Answer r} {s s' : σ} (hs : S s s)
    (hx : m.answer id r s = some (x, s')) : L.asking.Possible r x := by
  intro r' A hr
  have hanswers := @hm id _ _ _ _ _ hr hs
  rw [hx] at hanswers
  generalize m.answer id r' s = y at hanswers
  cases hanswers with
  | some hy => exact ⟨_, hy.1⟩

namespace System

/-- Like tasks in like states. -/
structure Alike (L : Likeness I) (S : σ → σ → Prop) (E : α → α → Prop) (s s' : System I σ α) :
    Prop where
  state : S s.state s'.state
  tasks : List.Forall₂ (Task.Alike L E) s.tasks s'.tasks

/-- What two systems have exchanged, and what they have come to. -/
def PlayedAlike (L : Likeness I) (S : σ → σ → Prop) (E : α → α → Prop)
    (y y' : List (Exchange I) × System I σ α) : Prop :=
  List.Forall₂ (Exchange.Alike L) y.1 y'.1 ∧ y.2.Alike L S E y'.2

variable {L : Likeness I} {S : σ → σ → Prop} {E : α → α → Prop} {m : Machine I σ}
  {s s' : System I σ α}

/-- Like tasks stand in the same places. -/
theorem Alike.task (h : s.Alike L S E s') (id : TaskId) :
    Option.Rel (Task.Alike L E) s.tasks[id]? s'.tasks[id]? := by
  obtain ⟨hlength, hget⟩ := List.forall₂_iff_get.mp h.tasks
  by_cases hid : id < s.tasks.length
  · rw [List.getElem?_eq_getElem hid, List.getElem?_eq_getElem (hlength ▸ hid)]
    exact .some (hget id hid (hlength ▸ hid))
  · have hle : s.tasks.length ≤ id := Nat.le_of_not_lt hid
    rw [List.getElem?_eq_none hle, List.getElem?_eq_none (hlength ▸ hle)]
    exact .none

/-- Like tasks in the place of like tasks. -/
theorem Alike.set (h : s.Alike L S E s') (id : TaskId) {a a' : Task I α} (ha : a.Alike L E a')
    {state state' : σ} (hstate : S state state') :
    (⟨state, s.tasks.set id a⟩ : System I σ α).Alike L S E ⟨state', s'.tasks.set id a'⟩ := by
  obtain ⟨hlength, hget⟩ := List.forall₂_iff_get.mp h.tasks
  refine ⟨hstate, List.forall₂_iff_get.mpr ⟨?_, ?_⟩⟩
  · rw [List.length_set, List.length_set, hlength]
  · intro i hi hi'
    rw [List.get_eq_getElem, List.get_eq_getElem, List.getElem_set, List.getElem_set]
    split
    · exact ha
    · exact hget i (by simpa using hi) (by simpa using hi')

/-- One step of each. -/
theorem exchange_alike (hm : m.Respects L S) (h : s.Alike L S E s') (id : TaskId) :
    Option.Rel (PlayedAlike L S E) (s.exchange m id) (s'.exchange m id) := by
  have htask := h.task id
  unfold System.exchange
  generalize s.tasks[id]? = a, s'.tasks[id]? = a' at htask
  cases htask with
  | none => exact .none
  | some ha =>
      cases ha with
      | once hnow =>
          cases hnow with
          | done => exact .none
          | @ask r r' A _ _ hr hnext =>
              refine optionRel_map (hm hr h.state) ?_
              rintro ⟨x, state⟩ ⟨x', state'⟩ ⟨hx, hstate⟩
              exact ⟨.cons ⟨rfl, A, hr, hx⟩ .nil, h.set id (.once (hnext x x' hx)) hstate⟩
      | forever hbody hnow =>
          cases hnow with
          | done hresult =>
              cases hresult with
              | some => exact .none
              | none => exact .some ⟨.nil, h.set id (.forever hbody hbody) h.state⟩
          | @ask r r' A _ _ hr hnext =>
              refine optionRel_map (hm hr h.state) ?_
              rintro ⟨x, state⟩ ⟨x', state'⟩ ⟨hx, hstate⟩
              exact ⟨.cons ⟨rfl, A, hr, hx⟩ .nil, h.set id (.forever hbody (hnext x x' hx)) hstate⟩

/-- **Like systems run alike** in every order of the steps. -/
theorem play_alike (hm : m.Respects L S) (h : s.Alike L S E s') (ids : List TaskId) :
    Option.Rel (PlayedAlike L S E) (s.play m ids) (s'.play m ids) := by
  induction ids generalizing s s' with
  | nil => exact .some ⟨.nil, h⟩
  | cons id ids ih =>
      refine optionRel_bind (exchange_alike hm h id) ?_
      rintro ⟨tr, t⟩ ⟨tr', t'⟩ ⟨htr, ht⟩
      refine optionRel_map (ih ht) ?_
      rintro ⟨rest, u⟩ ⟨rest', u'⟩ ⟨hrest, hu⟩
      exact ⟨List.rel_append htr hrest, hu⟩

end System

end Overlay
