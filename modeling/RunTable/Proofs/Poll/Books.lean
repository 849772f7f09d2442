import Mathlib.Logic.Relation
import RunTable.Poll.Controller

/-! # The books of the channels

The channel of a loop is accounted for from outside: its events are the
outcomes of the loop's own polls, in the order in which these were over, and
it can still be sent to by the loop until it has ended and by each of the
loop's polls until it is over (`Delivered`). The books show who can send, what
is over and what was sent. There are few kinds of entries in them (`Posts`),
and what each of these preserves is preserved by all that makes no others. -/

namespace RunTable.Poll

/-- What the receiver of a loop is to be told of the polls that are over. -/
def told (redirect : String) (loop : Nat) (history : List (Origin × Outcome)) : List Event :=
  history.filterMap fun
    | (.tick k, .completed fetched failed) =>
      if k = loop then some (.refreshed fetched failed) else none
    | (.tick k, .notFound resource) => if k = loop then some (.notFound resource redirect) else none
    | _ => none

theorem told_append (redirect : String) (loop : Nat) (history : List (Origin × Outcome))
    (origin : Origin) (outcome : Outcome) :
    told redirect loop (history ++ [(origin, outcome)]) = told redirect loop history ++
      if origin = .tick loop then (Controller.eventOf? redirect outcome).toList else [] := by
  unfold told
  rw [List.filterMap_append]
  congr 1
  cases origin with
  | waiting | background => cases outcome <;> rfl
  | tick k => by_cases hk : k = loop <;> cases outcome <;> simp [hk, Controller.eventOf?]

theorem told_append_of_ne {redirect : String} {loop : Nat} {history : List (Origin × Outcome)}
    {origin : Origin} (h : origin ≠ .tick loop) (outcome : Outcome) :
    told redirect loop (history ++ [(origin, outcome)]) = told redirect loop history := by
  rw [told_append, if_neg h, List.append_nil]

theorem told_eq_nil {redirect : String} {loop : Nat} {history : List (Origin × Outcome)}
    (h : .tick loop ∉ history.map Prod.fst) : told redirect loop history = [] := by
  refine List.filterMap_eq_nil_iff.mpr fun e he => ?_
  have hne : e.1 ≠ .tick loop := fun heq => h (List.mem_map.mpr ⟨e, he, heq⟩)
  obtain ⟨origin, outcome⟩ := e
  cases origin with
  | waiting | background => cases outcome <;> rfl
  | tick k =>
    have hk : k ≠ loop := fun heq => hne (congrArg Origin.tick heq)
    cases outcome <;> simp [hk]

/-- The origin of the polls of a loop. -/
def Loop.origin (l : Loop) : Origin := .tick l.number

/-- What is known of channels: who can send, where a loop that has not ended counts as a poll of its
own, the polls that are over, and the channels of all loops so far. -/
structure Books where
  senders : List Origin
  history : List (Origin × Outcome)
  channels : List Channel

/-- The entries in the books: senders are counted anew, a poll of no loop is over, a poll of a loop
is over, one that can send lets another send, one that can send goes, and a loop opens. -/
inductive Posts (redirect : String) : Books → Books → Prop where
  | recount {senders rest : List Origin} {history : List (Origin × Outcome)}
    {channels : List Channel} (h : ∀ k, rest.count (.tick k) = senders.count (.tick k)) :
    Posts redirect ⟨senders, history, channels⟩ ⟨rest, history, channels⟩
  | record {senders : List Origin} {history : List (Origin × Outcome)} {channels : List Channel}
    {origin : Origin} (outcome : Outcome) (h : ∀ k, origin ≠ .tick k) :
    Posts redirect ⟨senders, history, channels⟩ ⟨senders, history ++ [(origin, outcome)], channels⟩
  | conclude {senders : List Origin} {history : List (Origin × Outcome)} {channels : List Channel}
    (k : Nat) (outcome : Outcome) :
    Posts redirect ⟨.tick k :: senders, history, channels⟩
      ⟨senders, history ++ [(.tick k, outcome)],
        channels.modify k (·.leave (Controller.eventOf? redirect outcome))⟩
  | share {senders : List Origin} {history : List (Origin × Outcome)} {channels : List Channel}
    (k : Nat) :
    Posts redirect ⟨.tick k :: senders, history, channels⟩
      ⟨.tick k :: .tick k :: senders, history, channels.modify k Channel.share⟩
  | withdraw {senders : List Origin} {history : List (Origin × Outcome)} {channels : List Channel}
    (k : Nat) :
    Posts redirect ⟨.tick k :: senders, history, channels⟩
      ⟨senders, history, channels.modify k (·.leave none)⟩
  | opens {senders : List Origin} {history : List (Origin × Outcome)} {channels : List Channel} :
    Posts redirect ⟨senders, history, channels⟩
      ⟨.tick channels.length :: senders, history, channels ++ [.opened]⟩

/-- Some entries, one after the other. -/
def Posted (redirect : String) : Books → Books → Prop := Relation.ReflTransGen (Posts redirect)

theorem Posts.posted {redirect : String} {b b' : Books} (h : Posts redirect b b') :
    Posted redirect b b' :=
  .single h

/-- A channel as it is to be: what was told, and how many can send. -/
def account (redirect : String) (senders : List Origin) (history : List (Origin × Outcome))
    (k : Nat) : Channel :=
  ⟨told redirect k history, senders.count (.tick k)⟩

/-- The channels of all loops so far are as they are to be. -/
structure Delivered (redirect : String) (b : Books) : Prop where
  known : ∀ k, .tick k ∈ b.senders ++ b.history.map Prod.fst → k < b.channels.length
  channel : ∀ k ch, b.channels[k]? = some ch → ch = account redirect b.senders b.history k

section

variable {redirect : String} {b b' : Books} {channels : List Channel}

/-- One channel changes, and the others stay as they are to be. -/
theorem channel_modify {expected expected' : Nat → Channel} {place : Nat} {f : Channel → Channel}
    (h : ∀ k ch, channels[k]? = some ch → ch = expected k)
    (hf : ∀ k, expected' k = if place = k then f (expected k) else expected k) :
    ∀ k ch, (channels.modify place f)[k]? = some ch → ch = expected' k := by
  intro k ch hch
  rw [List.getElem?_modify] at hch
  obtain ⟨old, hold, rfl⟩ := Option.map_eq_some_iff.mp hch
  rw [hf, ← h k old hold]

/-- What each entry preserves, some entries preserve. -/
theorem Posted.preserves {P : Books → Prop} (h : Posted redirect b b') (hb : P b)
    (step : ∀ b b', Posts redirect b b' → P b → P b') : P b' := by
  induction h with
  | refl => exact hb
  | tail _ hposts ih => exact step _ _ hposts ih

theorem Delivered.posts (h : Delivered redirect b) (hposts : Posts redirect b b') :
    Delivered redirect b' := by
  cases hposts with
  | recount hcount =>
    refine ⟨fun k hk => h.known k ?_, fun k ch hch => ?_⟩
    · rcases List.mem_append.mp hk with hk | hk
      · refine List.mem_append_left _ (List.count_pos_iff.mp ?_)
        exact hcount k ▸ List.count_pos_iff.mpr hk
      · exact List.mem_append_right _ hk
    · rw [h.channel k ch hch, account, account, hcount]
  | record outcome horigin =>
    refine ⟨fun k hk => h.known k ?_, fun k ch hch => ?_⟩
    · simp only [List.map_append, List.mem_append, List.map_cons, List.map_nil,
        List.mem_singleton] at hk ⊢
      rcases hk with hk | hk | hk
      · exact .inl hk
      · exact .inr hk
      · exact absurd hk.symm (horigin k)
    · rw [h.channel k ch hch, account, account, told_append_of_ne (horigin k)]
  | conclude k outcome =>
    refine ⟨fun j hj => ?_, channel_modify h.channel fun j => ?_⟩
    · rw [List.length_modify]
      refine h.known j ?_
      simp only [List.map_append, List.mem_append, List.map_cons, List.map_nil, List.mem_cons,
        List.not_mem_nil, or_false] at hj ⊢
      rcases hj with hj | hj | hj
      · exact .inl (.inr hj)
      · exact .inr hj
      · exact .inl (.inl hj)
    · unfold account Channel.leave
      rw [told_append]
      by_cases hj : k = j
      · subst hj
        rw [if_pos rfl, if_pos rfl, List.count_cons_self, Nat.add_sub_cancel]
      · have hne : Origin.tick k ≠ .tick j := fun heq => hj (Origin.tick.inj heq)
        rw [if_neg hne, if_neg hj, List.append_nil, List.count_cons_of_ne hne]
  | share k =>
    refine ⟨fun j hj => ?_, channel_modify h.channel fun j => ?_⟩
    · rw [List.length_modify]
      refine h.known j ?_
      rcases List.mem_cons.mp hj with heq | hj
      · exact heq ▸ List.mem_cons_self
      · exact hj
    · unfold account Channel.share
      by_cases hj : k = j
      · subst hj
        rw [if_pos rfl, List.count_cons_self]
      · rw [if_neg hj, List.count_cons_of_ne fun heq => hj (Origin.tick.inj heq)]
  | withdraw k =>
    refine ⟨fun j hj => ?_, channel_modify h.channel fun j => ?_⟩
    · rw [List.length_modify]
      exact h.known j (List.mem_cons_of_mem _ hj)
    · unfold account Channel.leave
      by_cases hj : k = j
      · subst hj
        rw [if_pos rfl, List.count_cons_self, Nat.add_sub_cancel, Option.toList_none,
          List.append_nil]
      · rw [if_neg hj, List.count_cons_of_ne fun heq => hj (Origin.tick.inj heq)]
  | @opens senders history channels =>
    refine ⟨fun j hj => ?_, fun j ch hch => ?_⟩
    · rw [List.length_append, List.length_singleton]
      rcases List.mem_cons.mp hj with heq | hj
      · rw [Origin.tick.inj heq]
        exact Nat.lt_succ_self _
      · exact Nat.lt_add_right 1 (h.known j hj)
    · rw [List.getElem?_append] at hch
      split at hch
      · next hlt =>
        have hne : Origin.tick channels.length ≠ .tick j := fun heq =>
          Nat.ne_of_gt hlt (Origin.tick.inj heq)
        rw [h.channel j ch hch, account, account, List.count_cons_of_ne hne]
      · next hge =>
        have hnew : .tick j ∉ senders ++ history.map Prod.fst := fun hj => hge (h.known j hj)
        rw [List.mem_append, not_or] at hnew
        obtain ⟨hlt, _⟩ := List.getElem?_eq_some_iff.mp hch
        rw [List.length_singleton] at hlt
        obtain rfl : j = channels.length := by omega
        rw [Nat.sub_self] at hch
        rw [account, told_eq_nil hnew.2, List.count_cons_self, List.count_eq_zero.mpr hnew.1]
        exact (Option.some.inj hch).symm

end

end RunTable.Poll
