import Overlay.Proofs.Tunnel.Lock

/-!
# Calls of a server

What other parts of the process may ask of the peers of a server, each call as a task of
its own: to add or delete hosts, to remove all peers, and to look up who owns an address.
-/

namespace Overlay.Tunnel

/-- A call. -/
inductive Call where
  /-- Adds a host. -/
  | add (h : Host)
  /-- Adds hosts one after the other. -/
  | addAll (hs : List Host)
  /-- Deletes a host. -/
  | del (h : Host)
  /-- Removes all peers. -/
  | clear
  /-- Looks up who owns an address. -/
  | route (a : Ipv4)

/-- What a call returns. -/
inductive Reply where
  /-- Whether the host was added. -/
  | added (r : Except TunnelError Unit)
  /-- The hosts that were not added. -/
  | failed (hosts : List (Host × TunnelError))
  /-- Whether there was a peer. -/
  | deleted (found : Bool)
  /-- Nothing. -/
  | cleared
  /-- The peer that owns the address. -/
  | routed (p : Option Peer)

namespace Call

/-- The program of a call. -/
def program : Call → Work Reply
  | add h => .added <$> addPeer h
  | addAll hs => .failed <$> addPeers hs
  | del h => .deleted <$> delPeer h
  | clear => (fun _ => .cleared) <$> clearPeers
  | route a => .routed <$> ask (.lookup a)

/-- The call as a task. -/
def task (c : Call) : Task interface Reply := .once c.program

/-- Does the call change peers? -/
def Changes : Call → Prop
  | route _ => False
  | _ => True

/-- Calls keep the discipline of the lock.  A look-up has to be free; the others need
    nothing beside the lock. -/
theorem keeps {Free : Request → Prop} {c : Call} (h : c.Changes ∨ ∀ a, Free (.lookup a)) :
    c.task.Keeps (changing Free) (fun ph _ => ph = .outside) Phase.outside := by
  cases c with
  | add host => exact Program.Keeps.map (addPeer_keeps fun _ => rfl)
  | addAll hosts => exact Program.Keeps.map (addPeers_keeps fun _ => rfl)
  | del host => exact Program.Keeps.map (delPeer_keeps fun _ => rfl)
  | clear => exact Program.Keeps.map (clearPeers_keeps fun _ => rfl)
  | route a => exact ask_keeps (h.resolve_left id a) fun _ => rfl

/-- The call is made for hosts that name no network. -/
def Refused : Call → Prop
  | add h => ∃ e, h.network = .error e
  | addAll hs => ∀ h ∈ hs, ∃ e, h.network = .error e
  | del h => ∃ e, h.network = .error e
  | clear => False
  | route _ => False

/-- Hosts that name no network are refused at once. -/
theorem addPeers_eq_done {hs : List Host} (h : ∀ k ∈ hs, ∃ e, k.network = .error e) :
    ∃ failures, addPeers hs = .done failures := by
  induction hs with
  | nil => exact ⟨[], rfl⟩
  | cons k hs ih =>
      obtain ⟨e, he⟩ := h k List.mem_cons_self
      obtain ⟨failures, hfailures⟩ := ih fun k' hk' => h k' (List.mem_cons_of_mem k hk')
      refine ⟨(k, .host e) :: failures, ?_⟩
      simp only [addPeers, addPeer, he, hfailures, Program.pure_eq, Program.done_bind]

/-- A refused call asks for nothing. -/
theorem Refused.result? {c : Call} (h : c.Refused) : ∃ reply, c.task.result? = some reply := by
  cases c with
  | add k =>
      obtain ⟨e, he⟩ := h
      refine ⟨.added (.error (.host e)), ?_⟩
      simp only [task, program, addPeer, he]
      rfl
  | addAll hs =>
      obtain ⟨failures, hfailures⟩ := addPeers_eq_done h
      refine ⟨.failed failures, ?_⟩
      simp only [task, program, hfailures]
      rfl
  | del k =>
      obtain ⟨e, he⟩ := h
      refine ⟨.deleted false, ?_⟩
      simp only [task, program, delPeer, he]
      rfl
  | clear => exact h.elim
  | route a => exact h.elim

end Call

/-- What happens to a server that had no peers when its calls are made at any time and take
    their steps in any order, while its surroundings go on as well. -/
def Called {σ : Type} (around : Surroundings σ) (device : String) (w : σ) :
    List (Exchange interface) → System interface (Server σ) Reply → Prop :=
  System.Runs (Server.machine around) (fun a => ∃ c, a = Call.task c)
    (fun s s' => ∃ v, s' = { s with outside := v }) ⟨{ device, outside := w }, []⟩

/-- Calls that are made at once and then take their steps in the given order. -/
theorem Called.of_play {σ : Type} {around : Surroundings σ} {device : String} {w : σ}
    {calls : List Call} {ids : List TaskId} {tr : List (Exchange interface)}
    {s : System interface (Server σ) Reply}
    (h : System.play (Server.machine around) ids
      ⟨{ device, outside := w }, calls.map Call.task⟩ = some (tr, s)) :
    Called around device w tr s := by
  have hmade : Called around device w [] ⟨{ device, outside := w }, [] ++ calls.map Call.task⟩ := by
    refine System.Runs.spawnAll .refl fun a ha => ?_
    obtain ⟨c, -, rfl⟩ := List.mem_map.mp ha
    exact ⟨c, rfl⟩
  exact hmade.play h

end Overlay.Tunnel
