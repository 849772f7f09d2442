import RunTable.Proofs.Poll.OnePoll

/-! # Answers still to come

A source is asked for each fetch of a resource once, when the fetch is issued.
So two sources that agree on the fetches still to come cannot be told apart by
what happens from then on, whatever they say about those that were issued. -/

namespace RunTable.Poll.Controller

variable {δ : Type} {c d : Controller δ} {source : Source δ}

/-- The controller with another source. -/
def withSource (c : Controller δ) (source : Source δ) : Controller δ :=
  { c with setup := { c.setup with source := source } }

@[simp] theorem now_withSource (c : Controller δ) (source : Source δ) :
    (c.withSource source).now = c.now := rfl

@[simp] theorem stopped_withSource (c : Controller δ) (source : Source δ) :
    (c.withSource source).stopped = c.stopped := rfl

@[simp] theorem halt_withSource (c : Controller δ) (source : Source δ) :
    (c.withSource source).halt = c.halt := rfl

@[simp] theorem flights_withSource (c : Controller δ) (source : Source δ) :
    (c.withSource source).flights = c.flights := rfl

@[simp] theorem loop_withSource (c : Controller δ) (source : Source δ) :
    (c.withSource source).loop = c.loop := rfl

@[simp] theorem resources_withSource (c : Controller δ) (source : Source δ) :
    (c.withSource source).setup.resources = c.setup.resources := rfl

@[simp] theorem obstacle?_withSource (c : Controller δ) (source : Source δ) :
    (c.withSource source).obstacle? = c.obstacle? := rfl

/-- Whether a source gives the same answers as that of a controller to fetches still to come. -/
def Foresees (c : Controller δ) (source : Source δ) : Prop :=
  ∀ r count, c.fetched r < count → source r count = c.setup.source r count

theorem Foresees.of_le (h : c.Foresees source) (hsource : d.setup.source = c.setup.source)
    (hle : ∀ r, c.fetched r ≤ d.fetched r) : d.Foresees source := by
  intro r count hcount
  rw [hsource]
  exact h r count (Nat.lt_of_le_of_lt (hle r) hcount)

theorem issueFetch_withSource (h : c.Foresees source) (resource : String) :
    (c.withSource source).issueFetch resource =
      ((c.issueFetch resource).1.withSource source, (c.issueFetch resource).2) := by
  have hanswer : source resource ((c.counts.get? resource).getD 0 + 1) =
      c.setup.source resource ((c.counts.get? resource).getD 0 + 1) := h _ _ (Nat.lt_succ_self _)
  unfold issueFetch withSource
  dsimp only
  rw [hanswer]

theorem Foresees.issueFetch (h : c.Foresees source) (resource : String) :
    (c.issueFetch resource).1.Foresees source := by
  refine h.of_le rfl fun r => ?_
  show _ ≤ ((c.counts.insert resource (c.fetched resource + 1)).get? r).getD 0
  rw [KeyMap.get?_insert]
  split
  · next heq =>
    rw [heq]
    exact Nat.le_succ _
  · exact Nat.le_refl _

theorem issueFetches_withSource (h : c.Foresees source) (resources : List String) :
    (c.withSource source).issueFetches resources =
      ((c.issueFetches resources).1.withSource source, (c.issueFetches resources).2) := by
  induction resources generalizing c with
  | nil => rfl
  | cons r rest ih =>
    unfold issueFetches
    rw [issueFetch_withSource h]
    dsimp only
    rw [ih (h.issueFetch r)]

theorem conclude_withSource (c : Controller δ) (origin : Origin) (outcome : Outcome) :
    (c.withSource source).conclude origin outcome =
      (c.conclude origin outcome).withSource source := rfl

theorem handle_withSource (c : Controller δ) (f : Flight δ) :
    (c.withSource source).handle f = (c.handle f).withSource source := rfl

theorem beginPoll_withSource (h : c.Foresees source) (origin : Origin) :
    (c.withSource source).beginPoll origin = (c.beginPoll origin).withSource source := by
  unfold beginPoll
  rw [obstacle?_withSource]
  split
  · exact conclude_withSource ..
  · rw [resources_withSource, issueFetches_withSource h]
    dsimp only
    split
    · rfl
    · exact handle_withSource ..

theorem receive_withSource (c : Controller δ) (n : Nat) :
    (c.withSource source).receive n = (c.receive n).withSource source := by
  unfold receive
  rw [flights_withSource, now_withSource]
  split <;> rfl

theorem land_withSource (c : Controller δ) (place : Nat) :
    (c.withSource source).land place = (c.land place).withSource source := by
  unfold land
  rw [flights_withSource]
  split
  · split <;> rfl
  · rfl

theorem reply_withSource (c : Controller δ) (n : Nat) :
    (c.withSource source).reply n = (c.reply n).withSource source := by
  unfold reply
  rw [receive_withSource]
  dsimp only
  rw [flights_withSource]
  split
  · exact land_withSource ..
  · rfl

theorem endLoop_withSource (c : Controller δ) :
    (c.withSource source).endLoop = c.endLoop.withSource source := by
  unfold endLoop
  rw [loop_withSource]
  split <;> rfl

theorem wake_withSource (c : Controller δ) :
    (c.withSource source).wake = c.wake.withSource source := by
  unfold wake
  rw [loop_withSource, halt_withSource, stopped_withSource]
  split
  · split
    · exact endLoop_withSource { c with halt := false }
    · rfl
  · rfl

theorem tick_withSource (h : c.Foresees source) :
    (c.withSource source).tick = c.tick.withSource source := by
  unfold tick
  rw [loop_withSource, now_withSource, stopped_withSource]
  split
  · next l _ =>
    split
    · rfl
    · split
      · exact endLoop_withSource c
      · exact beginPoll_withSource (c := c.prepareTick l) h _
  · rfl

theorem act_withSource (h : c.Foresees source) (m : Move) :
    (c.withSource source).act m = (c.act m).withSource source := by
  cases m with
  | poll => exact beginPoll_withSource h _
  | spawn => exact beginPoll_withSource (c := { c with spawned := c.spawned + 1 }) h _
  | tick => exact tick_withSource h
  | reply n => exact reply_withSource c n
  | wake => exact wake_withSource c
  | start interval =>
    show (c.withSource source).openLoop interval = _
    unfold openLoop
    rw [endLoop_withSource]
    rfl
  | stop => exact endLoop_withSource c
  | abort | setVisible | evict | pass => rfl

theorem actPiece_withSource (h : c.Foresees source) (p : Piece) :
    (c.withSource source).actPiece p = (c.actPiece p).withSource source := by
  cases p with
  | whole m => exact act_withSource h m
  | receive n => exact receive_withSource c n
  | land place => exact land_withSource c place

theorem fetched_le_actPiece (c : Controller δ) (p : Piece) (r : String) :
    c.fetched r ≤ (c.actPiece p).fetched r := by
  cases hasks : c.asksPiece p with
  | none =>
    obtain ⟨_, hcounts, _⟩ := Ledger.mk.inj (ledger_actPiece hasks)
    exact Nat.le_of_eq (congrArg (fun counts => (counts.get? r).getD 0) hcounts.symm)
  | some origin =>
    cases p with
    | receive | land => cases hasks
    | whole m =>
      cases hobstacle : c.obstacle? with
      | some reason =>
        have hcounts := (skipped_act hasks hobstacle).counts
        exact Nat.le_of_eq (congrArg (fun counts => (counts.get? r).getD 0) hcounts.symm)
      | none =>
        show _ ≤ (c.act m).fetched r
        rw [(issues_act hasks hobstacle).fetched r]
        exact Nat.le_add_right ..

/-- A run depends on the source only in the answers to fetches still to come. -/
theorem runPieces_withSource (h : c.Foresees source) (pieces : List Piece) :
    (c.withSource source).runPieces pieces = (c.runPieces pieces).withSource source := by
  induction pieces generalizing c with
  | nil => rfl
  | cons p pieces ih =>
    have hnext : (c.actPiece p).Foresees source :=
      h.of_le (congrArg Setup.source (setup_actPiece c p)) (fetched_le_actPiece c p)
    show ((c.withSource source).actPiece p).runPieces pieces = _
    rw [actPiece_withSource h]
    exact ih hnext

end RunTable.Poll.Controller
