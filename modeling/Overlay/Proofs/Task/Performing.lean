import Overlay.Proofs.Task.Trace

/-!
# A program from its first request to its result

`Program.Performs` follows one program on a machine: its exchanges in order, its result, and
the state before and after.  Between its requests others go on, and what they may do to the
state is a parameter.  A program that goes on to its end while nobody else does anything is one
case of it (`Performs.of_advance`), with the exchanges that `Program.exchanges` lists.
-/

namespace Overlay.Program

variable {I : Interface} {σ α β : Type} {m : Machine I σ} {others : σ → σ → Prop} {id : TaskId}
  {s s' : σ} {tr : List (Exchange I)}

/-- The task performs the program: its exchanges in order, its result and the state after it. -/
inductive Performs (m : Machine I σ) (others : σ → σ → Prop) (id : TaskId) :
    Program I α → σ → List (Exchange I) → α → σ → Prop where
  /-- The result is there. -/
  | done (a : α) (s : σ) : Performs m others id (.done a) s [] a s
  /-- Others go on, then the next request is answered. -/
  | ask {r : I.Request} {next : I.Answer r → Program I α} {s t u s' : σ} {x : I.Answer r}
      {tr : List (Exchange I)} {a : α} :
      others s t → m.answer id r t = some (x, u) → Performs m others id (next x) u tr a s' →
        Performs m others id (.ask r next) s (⟨id, r, x⟩ :: tr) a s'

/-- The exchanges of a program that goes on until it is done or waits. -/
def exchanges (m : Machine I σ) (id : TaskId) : Program I α → σ → List (Exchange I)
  | done _, _ => []
  | ask r next, s =>
    match m.answer id r s with
    | some (x, s') => ⟨id, r, x⟩ :: (next x).exchanges m id s'
    | none => []

namespace Performs

/-- A program that is done asks for nothing. -/
theorem done_inv {a b : α} (h : Performs m others id (.done a) s tr b s') :
    tr = [] ∧ b = a ∧ s' = s := by
  cases h with
  | done => exact ⟨rfl, rfl, rfl⟩

/-- A program after another one. -/
theorem bind_inv {p : Program I α} {f : α → Program I β} {b : β}
    (h : Performs m others id (p >>= f) s tr b s') :
    ∃ a u tr₁ tr₂, Performs m others id p s tr₁ a u ∧ Performs m others id (f a) u tr₂ b s' ∧
      tr = tr₁ ++ tr₂ := by
  induction p generalizing s tr with
  | done a => exact ⟨a, s, [], tr, .done a s, h, rfl⟩
  | ask r next ih =>
      cases h with
      | ask ht hx hnext =>
          obtain ⟨a, u, tr₁, tr₂, hp, hf, rfl⟩ := ih _ hnext
          exact ⟨a, u, _, tr₂, .ask ht hx hp, hf, rfl⟩

/-- A program that goes on to its end when nothing else happens is performed. -/
theorem of_advance {p : Program I α} {a : α} (hothers : ∀ s, others s s)
    (h : p.advance m id s = (.done a, s')) :
    Performs m others id p s (p.exchanges m id s) a s' := by
  induction p generalizing s with
  | done b =>
      cases h
      exact .done _ _
  | ask r next ih =>
      simp only [Program.advance] at h
      split at h
      · rename_i x u hx
        simp only [exchanges, hx]
        exact .ask (hothers s) hx (ih x h)
      · exact nomatch h

end Performs

end Overlay.Program
