import Mathlib.Data.List.Perm.Basic
import RunTable.Proofs.Poll.Books
import RunTable.Proofs.Poll.Turns

/-! # What receivers are told

Who can send to the receivers of loops are the loops that have not ended, the
polls that were asked for and have not begun, and the polls under way. All that
is done in a turn makes entries in the books of the channels
(`Tasks.posted_take`), so that the channels are always as they are to be. -/

namespace RunTable.Poll

variable {δ : Type}

namespace Controller

variable {c : Controller δ} {origin : Origin} {others : List Origin}

/-- The books of a controller, when others than the polls under way can send. -/
def books (c : Controller δ) (others : List Origin) : Books :=
  ⟨others ++ c.flights.map (·.origin), c.history, c.channels⟩

theorem not_tick_waiting (k : Nat) : Origin.waiting ≠ .tick k := fun h => nomatch h

theorem not_tick_background (index k : Nat) : Origin.background index ≠ .tick k :=
  fun h => nomatch h

/-- Who else can send matters only by how often it is which loop. -/
theorem posted_others {redirect : String} {rest : List Origin} (c : Controller δ)
    (h : ∀ k, rest.count (.tick k) = others.count (.tick k)) :
    Posted redirect (c.books others) (c.books rest) := by
  refine Posts.posted (.recount fun k => ?_)
  rw [List.count_append, List.count_append, h]

theorem posted_cons {redirect : String} (c : Controller δ) (h : ∀ k, origin ≠ .tick k) :
    Posted redirect (c.books others) (c.books (origin :: others)) :=
  posted_others c fun k => List.count_cons_of_ne (h k)

theorem posted_conclude (c : Controller δ) (origin : Origin) (outcome : Outcome)
    (others : List Origin) :
    Posted c.setup.redirect (c.books (origin :: others))
      ((c.conclude origin outcome).books others) := by
  have hnone : ∀ origin : Origin, (∀ k, origin ≠ .tick k) → Posted c.setup.redirect
      (c.books (origin :: others)) ⟨others ++ c.flights.map (·.origin),
        c.history ++ [(origin, outcome)], c.channels⟩ := fun origin horigin =>
    (posted_others c fun k => (List.count_cons_of_ne (horigin k)).symm).tail
      (.record outcome horigin)
  cases origin with
  | waiting => exact hnone _ not_tick_waiting
  | background index => exact hnone _ (not_tick_background index)
  | tick k => exact Posts.posted (.conclude k outcome)

theorem posted_handle (c : Controller δ) (f : Flight δ) (others : List Origin) :
    Posted c.setup.redirect (c.books (f.origin :: others)) ((c.handle f).books others) := by
  have hposted : Posted _ _ ((c.handle f).books others) := posted_conclude _ f.origin _ others
  exact hposted

theorem posted_beginPoll (c : Controller δ) (origin : Origin) (others : List Origin) :
    Posted c.setup.redirect (c.books (origin :: others)) ((c.beginPoll origin).books others) := by
  rcases beginPoll_cases c origin with
    ⟨_, _, heq⟩ | ⟨_, _, heq⟩ | ⟨_, f, hf, _, _, heq⟩ <;> rw [heq]
  · exact posted_conclude ..
  · exact posted_conclude ..
  · refine Posts.posted (.recount fun k => List.Perm.count_eq ?_ _)
    show (others ++ (c.flights ++ [f]).map (·.origin)).Perm (origin :: others ++ _)
    rw [List.map_append, ← List.append_assoc, ← hf]
    exact List.perm_append_comm

theorem origins_receive (c : Controller δ) (n : Nat) :
    (c.receive n).flights.map (·.origin) = c.flights.map (·.origin) := by
  unfold receive
  split
  · exact List.map_map
  · rfl

theorem posted_receive (c : Controller δ) (n : Nat) (others : List Origin) :
    Posted c.setup.redirect (c.books others) ((c.receive n).books others) := by
  have hbooks : (c.receive n).books others = c.books others := by
    unfold books
    rw [origins_receive, receive_frame]
  rw [hbooks]
  exact .refl

theorem posted_land (c : Controller δ) (place : Nat) (others : List Origin) :
    Posted c.setup.redirect (c.books others) ((c.land place).books others) := by
  unfold land
  split
  · next f hf =>
    split
    · exact .refl
    · obtain ⟨hlt, hplace⟩ := List.getElem?_eq_some_iff.mp hf
      have hperm := (List.getElem_cons_eraseIdx_perm hlt).map (·.origin)
      rw [List.map_cons, hplace] at hperm
      let taken : Controller δ := { c with flights := c.flights.eraseIdx place }
      have htaken : Posted c.setup.redirect (c.books others)
          (taken.books (f.origin :: others)) := by
        refine Posts.posted (.recount fun k => List.Perm.count_eq ?_ _)
        exact List.perm_middle.symm.trans (hperm.append_left others)
      exact htaken.trans (posted_handle taken f others)
  · exact .refl

theorem posted_reply (c : Controller δ) (n : Nat) (others : List Origin) :
    Posted c.setup.redirect (c.books others) ((c.reply n).books others) := by
  refine (reply_preserves (P := fun d => d.setup = c.setup ∧
    Posted c.setup.redirect (c.books others) (d.books others)) ⟨rfl, .refl⟩ n ?_ ?_).2
  · rintro d ⟨hsetup, hposted⟩
    refine ⟨by rw [receive_frame, hsetup], hposted.trans ?_⟩
    rw [← hsetup]
    exact posted_receive d n others
  · rintro d place ⟨hsetup, hposted⟩
    refine ⟨by rw [land_frame, hsetup], hposted.trans ?_⟩
    rw [← hsetup]
    exact posted_land d place others

theorem count_filter_tick (origins : List Origin) (index k : Nat) :
    (origins.filter fun origin => origin ≠ .background index).count (.tick k) =
      origins.count (.tick k) :=
  List.count_filter (decide_eq_true (not_tick_background index k).symm)

theorem posted_abort (c : Controller δ) (index : Nat) (others : List Origin) :
    Posted c.setup.redirect (c.books others) ((c.abort index).books others) := by
  refine Posts.posted (.recount fun k => ?_)
  rw [List.count_append, List.count_append]
  congr 1
  have hcount := count_filter_tick (c.flights.map (·.origin)) index k
  rw [List.filter_map] at hcount
  exact hcount

/-! ## One channel for each start -/

theorem length_conclude (c : Controller δ) (origin : Origin) (outcome : Outcome) :
    (c.conclude origin outcome).channels.length = c.channels.length := by
  cases origin with
  | waiting | background => rfl
  | tick k => exact List.length_modify ..

theorem length_handle (c : Controller δ) (f : Flight δ) :
    (c.handle f).channels.length = c.channels.length :=
  length_conclude ..

theorem length_beginPoll (c : Controller δ) (origin : Origin) :
    (c.beginPoll origin).channels.length = c.channels.length := by
  rcases beginPoll_cases c origin with ⟨_, _, heq⟩ | ⟨_, _, heq⟩ | ⟨_, _, _, _, _, heq⟩
  · rw [heq, length_conclude]
  · rw [heq, length_conclude]
  · rw [heq]
    rfl

theorem length_receive (c : Controller δ) (n : Nat) :
    (c.receive n).channels.length = c.channels.length := by
  rw [receive_frame]

theorem length_land (c : Controller δ) (place : Nat) :
    (c.land place).channels.length = c.channels.length := by
  unfold land
  split
  · split
    · rfl
    · exact length_handle ..
  · rfl

theorem length_reply (c : Controller δ) (n : Nat) :
    (c.reply n).channels.length = c.channels.length :=
  reply_preserves (P := fun d => d.channels.length = c.channels.length) rfl n
    (fun d hd => (length_receive d n).trans hd) fun d place hd => (length_land d place).trans hd

end Controller

namespace Tasks

variable {t : Tasks δ} {s : Standing} {l : Loop} {redirect : String}

/-- Who can send besides the polls under way: the loops that have not ended, and the polls that have
not begun. -/
def others (t : Tasks δ) : List Origin := t.loops.map Loop.origin ++ t.asked

def books (t : Tasks δ) : Books := t.controller.books t.others

theorem perm_loops (h : t.loopAt? s = some l) :
    t.loops.Perm (l :: (t.setLoop s none).loops) := by
  cases s with
  | running =>
    have hloop : t.controller.loop = some l := h
    unfold loops
    rw [hloop]
    exact .refl _
  | dismissed place =>
    obtain ⟨hlt, hplace⟩ := List.getElem?_eq_some_iff.mp h
    have hperm := List.getElem_cons_eraseIdx_perm hlt
    rw [hplace] at hperm
    exact (hperm.symm.append_left _).trans List.perm_middle

/-- A loop that is put back in its place is known by its number. -/
theorem origins_setLoop {l' : Loop} (h : t.loopAt? s = some l) (horigin : l'.origin = l.origin) :
    (t.setLoop s (some l')).loops.map Loop.origin = t.loops.map Loop.origin := by
  cases s with
  | running =>
    have hloop : t.controller.loop = some l := h
    unfold loops
    rw [hloop]
    exact congrArg (· :: _) horigin
  | dismissed place =>
    obtain ⟨hlt, hplace⟩ := List.getElem?_eq_some_iff.mp h
    have hsame : (t.dismissed.set place l').map Loop.origin = t.dismissed.map Loop.origin := by
      have hlt' : place < (t.dismissed.map Loop.origin).length := by rwa [List.length_map]
      have hat : l'.origin = (t.dismissed.map Loop.origin)[place] := by
        rw [List.getElem_map, hplace, horigin]
      rw [List.map_set, hat, List.set_getElem_self]
    show (t.controller.loop.toList ++ t.dismissed.set place l').map _ = _
    rw [List.map_append, hsame, ← List.map_append]
    rfl

theorem mem_others_of_loopAt? (h : t.loopAt? s = some l) : l.origin ∈ t.others :=
  List.mem_append_left _ (List.mem_map_of_mem ((perm_loops h).mem_iff.mpr List.mem_cons_self))

theorem books_setLoop (t : Tasks δ) (s : Standing) (l : Option Loop) (others : List Origin) :
    (t.setLoop s l).controller.books others = t.controller.books others := by
  cases s with
  | running => rfl
  | dismissed place => cases l <;> rfl

theorem posted_endLoop (t : Tasks δ) (s : Standing) :
    Posted redirect t.books (t.endLoop s).books := by
  unfold endLoop
  split
  · next l hl =>
    have hperm : t.others.Perm (l.origin :: (t.setLoop s none).others) := by
      unfold others
      rw [asked_setLoop]
      exact ((perm_loops hl).map Loop.origin).append_right t.asked
    refine (Controller.posted_others _ fun k => (hperm.count_eq _).symm).trans ?_
    rw [← books_setLoop t s none]
    exact Posts.posted (.withdraw l.number)
  · exact .refl

/-- One that can send lets a poll that is asked for send, too. -/
theorem posted_share {k : Nat} (h : .tick k ∈ t.others) : Posted redirect t.books
    { t.modifyChannel k Channel.share with asked := t.asked ++ [.tick k] : Tasks δ }.books := by
  have hperm := List.perm_cons_erase h
  have hmore : (t.loops.map Loop.origin ++ (t.asked ++ [Origin.tick k])).Perm
      (.tick k :: .tick k :: t.others.erase (.tick k)) := by
    rw [← List.append_assoc]
    exact List.perm_append_comm.trans (hperm.cons _)
  refine (Controller.posted_others _ fun j => (hperm.count_eq _).symm).trans ?_
  exact (Posts.posted (.share k)).tail (.recount fun j => (hmore.append_right _).count_eq _)

theorem posted_tick (t : Tasks δ) (s : Standing) : Posted redirect t.books (t.tick s).books := by
  unfold tick
  split
  · next l hl =>
    split
    · exact .refl
    · split
      · exact posted_endLoop t s
      · let next : Loop := { l with nextTick := t.controller.now + l.interval }
        have horigins : (t.setLoop s (some next)).loops.map Loop.origin =
            t.loops.map Loop.origin :=
          origins_setLoop hl rfl
        have hothers : (t.setLoop s (some next)).others = t.others := by
          unfold others
          rw [asked_setLoop, horigins]
        have hbooks : (t.setLoop s (some next)).books = t.books := by
          unfold books
          rw [hothers, books_setLoop]
        rw [← hbooks]
        exact posted_share (t := t.setLoop s (some next)) (hothers ▸ mem_others_of_loopAt? hl)
  · exact .refl

theorem posted_wake (t : Tasks δ) (s : Standing) : Posted redirect t.books (t.wake s).books := by
  unfold wake
  split
  · dsimp only
    split
    · exact posted_endLoop { t with controller := { t.controller with halt := false } } s
    · exact .refl
  · exact .refl

theorem posted_stop (t : Tasks δ) : Posted redirect t.books t.stop.books := by
  refine Controller.posted_others _ fun k => List.Perm.count_eq ?_ _
  refine List.Perm.append_right _ (List.Perm.map _ ?_)
  show (t.dismissed ++ t.controller.loop.toList).Perm _
  exact List.perm_append_comm

/-- The books when the loops are as they were. -/
theorem books_of_loop {d : Controller δ} (h : d.loop = t.controller.loop) (asked : List Origin) :
    (⟨d, t.dismissed, asked⟩ : Tasks δ).books =
      d.books (t.loops.map Loop.origin ++ asked) := by
  unfold books others loops
  rw [h]

theorem posted_begin (t : Tasks δ) (place : Nat) :
    Posted t.controller.setup.redirect t.books (t.begin place).books := by
  unfold begin
  split
  · next origin horigin =>
    obtain ⟨hlt, hplace⟩ := List.getElem?_eq_some_iff.mp horigin
    have hperm := List.getElem_cons_eraseIdx_perm hlt
    rw [hplace] at hperm
    rw [books_of_loop (Controller.loop_beginPoll _ _)]
    refine (Controller.posted_others _ fun k => List.Perm.count_eq ?_ _).trans
      (Controller.posted_beginPoll ..)
    exact List.perm_middle.symm.trans (hperm.append_left _)
  · exact .refl

/-- A turn makes entries in the books, and changes nothing else there. -/
theorem posted_take (t : Tasks δ) (u : Turn) :
    Posted t.controller.setup.redirect t.books (t.take u).books := by
  cases u with
  | poll =>
    show Posted _ _ (⟨_, t.dismissed, t.asked⟩ : Tasks δ).books
    rw [books_of_loop (Controller.loop_beginPoll _ _)]
    exact (Controller.posted_cons _ Controller.not_tick_waiting).trans
      (Controller.posted_beginPoll ..)
  | spawn =>
    refine Controller.posted_others _ fun k => ?_
    have hnone := Controller.not_tick_background t.controller.spawned k
    show (t.loops.map _ ++ (t.asked ++ [Origin.background t.controller.spawned])).count _ = _
    rw [← List.append_assoc, List.count_append, List.count_singleton, beq_false_of_ne hnone]
    rfl
  | begin place => exact posted_begin t place
  | tick s => exact posted_tick t s
  | wake s => exact posted_wake t s
  | heed place => exact posted_endLoop t _
  | stop => exact posted_stop t
  | start interval => exact (posted_stop t).tail .opens
  | reply n =>
    show Posted _ _ (⟨_, t.dismissed, t.asked⟩ : Tasks δ).books
    rw [books_of_loop (Controller.loop_reply _ n)]
    exact Controller.posted_reply ..
  | receive n =>
    show Posted _ _ (⟨_, t.dismissed, t.asked⟩ : Tasks δ).books
    have hloop : (t.controller.receive n).loop = t.controller.loop := by
      rw [Controller.receive_frame]
    rw [books_of_loop hloop]
    exact Controller.posted_receive ..
  | land place =>
    show Posted _ _ (⟨_, t.dismissed, t.asked⟩ : Tasks δ).books
    have hloop : (t.controller.land place).loop = t.controller.loop := by
      rw [Controller.land_frame]
    rw [books_of_loop hloop]
    exact Controller.posted_land ..
  | abort index =>
    refine (Controller.posted_others _ fun k => ?_).trans
      (Controller.posted_abort t.controller index (t.abort index).others)
    show (t.loops.map _ ++ t.asked.filter _).count _ = _
    rw [List.count_append, Controller.count_filter_tick, ← List.count_append]
    rfl
  | setVisible | evict | pass => exact .refl

variable {u : Turn} {d : Controller δ}

theorem Effect.length (h : Effect t u d) :
    d.channels.length = t.controller.channels.length + if u.isStart then 1 else 0 := by
  cases h with
  | begins h =>
    rw [isStart_of_asks h]
    exact Controller.length_beginPoll ..
  | replies n => exact Controller.length_reply ..
  | receives n => exact Controller.length_receive ..
  | lands place => exact Controller.length_land ..
  | aborts | evicts => rfl
  | starts h =>
    rw [← h.length]
    exact List.length_append
  | loops hu h =>
    rw [hu]
    exact h.length
  | host hu =>
    rw [hu]
    rfl

/-- The loop that runs has the last channel. -/
def Latest (c : Controller δ) : Prop :=
  ∀ k, c.loop.map Loop.number = some k → k + 1 = c.channels.length

theorem Effect.latest (h : Effect t u d) (hlatest : Latest t.controller) : Latest d := by
  have same : ∀ {e : Controller δ}, e.loop = t.controller.loop →
      e.channels.length = t.controller.channels.length → Latest e := fun hloop hlength k hk => by
    rw [hlength]
    exact hlatest k (hloop ▸ hk)
  cases h with
  | begins => exact same (Controller.loop_beginPoll _ _) (Controller.length_beginPoll ..)
  | replies n => exact same (Controller.loop_reply _ n) (Controller.length_reply ..)
  | receives n => exact same (by rw [Controller.receive_frame]) (Controller.length_receive ..)
  | lands place => exact same (by rw [Controller.land_frame]) (Controller.length_land ..)
  | aborts | evicts | host => exact same rfl rfl
  | starts h hl =>
    intro k hk
    rw [List.length_append, ← hl]
    exact congrArg (· + 1) (Option.some.inj hk).symm
  | loops hu h =>
    intro k hk
    rw [h.length]
    exact hlatest k (h.number k hk)

/-- The channels are as they are to be, and the loop that runs has the last. -/
structure Delivers (t : Tasks δ) : Prop where
  delivered : Delivered t.controller.setup.redirect t.books
  latest : Latest t.controller

theorem delivers_initial (setup : Setup δ) (visible : Bool) : (initial setup visible).Delivers where
  delivered := ⟨(fun _ hk => nomatch hk), fun _ _ hch => nomatch hch⟩
  latest _ hk := nomatch hk

theorem Delivers.take (h : t.Delivers) (u : Turn) : (t.take u).Delivers where
  delivered := by
    rw [setup_take]
    exact (posted_take t u).preserves h.delivered fun _ _ hposts hb => hb.posts hposts
  latest := (take_effect t u).latest h.latest

theorem Delivers.run (h : t.Delivers) (turns : List Turn) : (t.run turns).Delivers :=
  run_induction h fun _ u _ hd => hd.take u

theorem Delivers.run_moves {c : Controller δ} (h : (of c).Delivers) (moves : List Move) :
    (of (c.run moves)).Delivers := by
  rw [← run_turns]
  exact h.run _

theorem Delivers.number_eq (h : t.Delivers) (hloop : t.controller.loop = some l) :
    l.number + 1 = t.controller.channels.length :=
  h.latest l.number (by rw [hloop]; rfl)

/-- A channel is closed when its loop has ended, and each of the loop's polls is over. -/
theorem Delivers.senders_eq_zero {k : Nat} {ch : Channel} (h : t.Delivers)
    (hch : t.controller.channels[k]? = some ch) :
    ch.senders = 0 ↔ (∀ l ∈ t.loops, l.number ≠ k) ∧ .tick k ∉ t.asked ∧
      ∀ f ∈ t.controller.flights, f.origin ≠ .tick k := by
  rw [h.delivered.channel k ch hch]
  show (t.others ++ t.controller.flights.map (·.origin)).count _ = 0 ↔ _
  rw [List.count_eq_zero]
  simp [others, Loop.origin, not_or]

end Tasks

end RunTable.Poll
