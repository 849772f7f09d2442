import RunTable.Poll.Session
import RunTable.Proofs.Poll.Moves

/-! # Sessions are runs of moves

Whatever a step of a session does, it does by moves: the clock only decides
which moves are made, and when. So what holds of all runs of moves holds of
all sessions. Waiting makes only such moves as nobody asks for. -/

namespace RunTable.Poll

variable {δ : Type}

/-- Whether a move is made as time passes, with nobody asking for it. -/
def Move.passes : Move → Bool
  | .tick | .reply _ | .wake | .pass _ => true
  | _ => false

def Move.isStart : Move → Bool
  | .start _ => true
  | _ => false

def Step.isStart : Step → Bool
  | .start _ => true
  | _ => false

theorem Move.isStart_of_passes {m : Move} (h : m.passes = true) : m.isStart = false := by
  cases m with
  | tick | reply | wake | pass => rfl
  | poll | spawn | abort | setVisible | start | stop | evict => cases h

/-- From one state to another by moves of a kind. -/
def Leads (kind : Move → Bool) (c d : Controller δ) : Prop :=
  ∃ moves : List Move, (∀ m ∈ moves, kind m = true) ∧ d = c.run moves

namespace Leads

variable {kind : Move → Bool} {c d e : Controller δ}

theorem refl (c : Controller δ) : Leads kind c c := ⟨[], (fun _ h => nomatch h), rfl⟩

theorem act (c : Controller δ) (m : Move) (h : kind m = true) : Leads kind c (c.act m) :=
  ⟨[m], fun _ hm => List.mem_singleton.mp hm ▸ h, rfl⟩

theorem trans (h : Leads kind c d) (h' : Leads kind d e) : Leads kind c e := by
  obtain ⟨first, hfirst, rfl⟩ := h
  obtain ⟨second, hsecond, rfl⟩ := h'
  refine ⟨first ++ second, fun m hm => ?_, (Controller.run_append c first second).symm⟩
  rcases List.mem_append.mp hm with hm | hm
  · exact hfirst m hm
  · exact hsecond m hm

theorem mono {kind' : Move → Bool} (h : Leads kind c d)
    (hkind : ∀ m, kind m = true → kind' m = true) : Leads kind' c d := by
  obtain ⟨moves, hmoves, rfl⟩ := h
  exact ⟨moves, fun m hm => hkind m (hmoves m hm), rfl⟩

end Leads

namespace Controller

variable {c : Controller δ}

theorem arrive_leads (c : Controller δ) : Leads Move.passes c c.arrive := by
  refine ⟨_, fun m hm => ?_, rfl⟩
  rcases List.mem_append.mp hm with hm | hm
  · obtain ⟨_, _, rfl⟩ := List.mem_map.mp hm
    rfl
  · rw [List.mem_singleton.mp hm]
    rfl

theorem settle_leads (c : Controller δ) : Leads Move.passes c c.settle :=
  ((arrive_leads c).trans (.act _ .tick rfl)).trans (arrive_leads _)

theorem waitUntil_leads (c : Controller δ) (time : Nat) :
    Leads Move.passes c (c.waitUntil time) := by
  fun_induction waitUntil c time with
  | case1 c t _ ih => exact ((Leads.act c _ rfl).trans (settle_leads _)).trans ih
  | case2 c _ => exact .act c _ rfl

theorem advance_leads (c : Controller δ) (ms : Nat) : Leads Move.passes c (c.advance ms) :=
  waitUntil_leads c _

theorem pollAndWait_leads (c : Controller δ) :
    Leads (fun m => !m.isStart) c c.pollAndWait := by
  have waits : ∀ m : Move, m.passes = true → (!m.isStart) = true := fun m hm => by
    rw [Move.isStart_of_passes hm]
    rfl
  have begun : Leads (fun m => !m.isStart) c (c.act .poll).arrive :=
    (Leads.act c _ rfl).trans ((arrive_leads _).mono waits)
  unfold pollAndWait
  dsimp only
  split
  · exact begun.trans ((waitUntil_leads _ _).mono waits)
  · exact begun

/-- A step of a session is a run of moves, and starts a loop only if it is meant to. -/
theorem take_leads (c : Controller δ) (s : Step) :
    Leads (fun m => s.isStart || !m.isStart) c (c.take s) := by
  have waits : ∀ m : Move, m.passes = true → (s.isStart || !m.isStart) = true := fun m hm => by
    rw [Move.isStart_of_passes hm, Bool.not_false, Bool.or_true]
  cases s with
  | poll => exact pollAndWait_leads c
  | spawn => exact (Leads.act c .spawn rfl).trans ((arrive_leads _).mono waits)
  | abort index => exact .act c (.abort index) rfl
  | setVisible visible => exact .act c (.setVisible visible) rfl
  | evict resource => exact .act c (.evict resource) rfl
  | advance ms => exact (advance_leads c ms).mono waits
  | start interval =>
    show Leads _ c (if c.busy then c else c.start interval)
    split
    · exact .refl c
    · exact (Leads.act c _ rfl).trans ((settle_leads _).mono waits)
  | stop =>
    show Leads _ c (if c.busy then c else c.act .stop)
    split
    · exact .refl c
    · exact .act c _ rfl
  | resources => exact .refl c

/-- A whole session is a run of moves. -/
theorem session_leads (c : Controller δ) (steps : List Step) :
    Leads (fun _ => true) c (steps.foldl take c) := by
  induction steps generalizing c with
  | nil => exact .refl c
  | cons s steps ih => exact ((take_leads c s).mono fun _ _ => rfl).trans (ih _)

end Controller

end RunTable.Poll
