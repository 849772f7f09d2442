import Mathlib.Data.List.Induction
import RunTable.Proofs.Command.Processes
import RunTable.Proofs.View.SwitchConsistency

/-! # Hiding columns and showing them again

A command that hides columns, or shows them again, puts a new set in place of
what is hidden in one category, worked out from what is shown as hidden there.
Of the keys of that set it decides those that it names and keeps the others
(`ViewCommand.mem_keysAfter`). So after any number of such commands each key is
as the last one has left it that named it. -/

namespace RunTable

namespace DiffSwitch

variable (s : DiffSwitch)

theorem setHidden_setHidden (c : Category) (keys keys' : KeySet) :
    (s.setHidden c keys).setHidden c keys' = s.setHidden c keys' := by
  cases h : s.isOn with
  | true => simp [setHidden, h]
  | false => simp [setHidden, h]

theorem setHidden_comm {c c' : Category} (hne : c ≠ c') (keys keys' : KeySet) :
    (s.setHidden c keys).setHidden c' keys' = (s.setHidden c' keys').setHidden c keys := by
  cases h : s.isOn with
  | true => simp [setHidden, h, HiddenKeys.set_comm _ hne]
  | false => simp [setHidden, h, HiddenKeys.set_comm _ hne]

end DiffSwitch

namespace Command

namespace ViewCommand

/-- Commands that hide columns or show them again. -/
def editsColumns : ViewCommand → Bool
  | .hide .. | .unhide .. => true
  | _ => false

def hides : ViewCommand → Bool
  | .hide .. => true
  | _ => false

/-- The keys that a command hides or shows. -/
def keys : ViewCommand → List String
  | .hide _ keys | .unhide _ keys => keys
  | _ => []

/-- The category whose columns a command hides or shows, if its word is one for
a category. -/
def category? : ViewCommand → Option Category
  | .hide word _ | .unhide word _ => (Category.parse word).toOption
  | _ => none

/-- A command names a key of a category. -/
def Names (c : Category) (key : String) (command : ViewCommand) : Prop :=
  command.category? = some c ∧ key ∈ command.keys

instance (c : Category) (key : String) (command : ViewCommand) :
    Decidable (command.Names c key) :=
  inferInstanceAs (Decidable (_ ∧ _))

/-- Some command names a key of a category, and the last one that does hides it. -/
def LastHides (c : Category) (key : String) (commands : List ViewCommand) : Prop :=
  ∃ earlier command later, commands = earlier ++ command :: later ∧
    command.Names c key ∧ command.hides = true ∧ ∀ k ∈ later, ¬k.Names c key

theorem lastHides_concat {c : Category} {key : String} {commands : List ViewCommand}
    {command : ViewCommand} :
    LastHides c key (commands ++ [command]) ↔
      (command.Names c key ∧ command.hides = true) ∨
        (¬command.Names c key ∧ LastHides c key commands) := by
  constructor
  · rintro ⟨earlier, k, later, heq, hnames, hhides, hlater⟩
    rcases List.eq_nil_or_concat later with rfl | ⟨later, last, rfl⟩
    · obtain ⟨-, hsame⟩ := List.append_inj' heq rfl
      cases hsame
      exact Or.inl ⟨hnames, hhides⟩
    · rw [List.concat_eq_append, ← List.cons_append, ← List.append_assoc] at heq
      obtain ⟨hcommands, hsame⟩ := List.append_inj' heq rfl
      cases hsame
      refine Or.inr ⟨hlater _ (by simp), earlier, k, later, hcommands, hnames, hhides, ?_⟩
      exact fun k hk => hlater k (by simp [hk])
  · rintro (⟨hnames, hhides⟩ | ⟨hnot, earlier, k, later, rfl, hnames, hhides, hlater⟩)
    · exact ⟨commands, command, [], rfl, hnames, hhides, nofun⟩
    · refine ⟨earlier, k, later ++ [command], by simp, hnames, hhides, fun k' hk' => ?_⟩
      rcases List.mem_append.mp hk' with hk' | hk'
      · exact hlater k' hk'
      · rwa [List.mem_singleton.mp hk']

/-! ## One command -/

/-- What is hidden of a category after a command that hides or shows keys of it. -/
def keysAfter (hidden : KeySet) : ViewCommand → KeySet
  | .hide _ keys => hidden.insertAll keys
  | .unhide _ keys => hidden.diff (.ofList keys)
  | _ => hidden

/-- The columns after a command that hides or shows some of them. -/
def edit (s : DiffSwitch) (command : ViewCommand) : DiffSwitch :=
  command.category?.elim s fun c => s.setHidden c (command.keysAfter (s.hidden.get c))

variable {command command' : ViewCommand} {s : DiffSwitch} {c : Category} {key : String}

theorem mem_keysAfter {hidden : KeySet} : key ∈ command.keysAfter hidden ↔
    (key ∈ command.keys ∧ command.hides = true) ∨ (key ∉ command.keys ∧ key ∈ hidden) := by
  cases command with
  | hide word keys =>
    simp only [keysAfter, KeySet.mem_insertAll, ViewCommand.keys, hides]
    by_cases h : key ∈ keys <;> simp [h]
  | unhide word keys =>
    simp only [keysAfter, KeySet.mem_diff, KeySet.mem_ofList, ViewCommand.keys, hides]
    by_cases h : key ∈ keys <;> simp [h]
  | _ => simp [keysAfter, ViewCommand.keys]

theorem edit_of_none (h : command.category? = none) : command.edit s = s := by
  rw [edit, h, Option.elim_none]

theorem edit_of_some (h : command.category? = some c) :
    command.edit s = s.setHidden c (command.keysAfter (s.hidden.get c)) := by
  rw [edit, h, Option.elim_some]

/-- A command decides the keys that it names and leaves all others. -/
theorem contains_edit : (command.edit s).hidden.contains c key = true ↔
    (command.Names c key ∧ command.hides = true) ∨
      (¬command.Names c key ∧ s.hidden.contains c key = true) := by
  unfold HiddenKeys.contains
  rw [KeySet.contains_iff, KeySet.contains_iff]
  cases hcategory : command.category? with
  | none => simp [edit_of_none hcategory, Names, hcategory]
  | some d =>
    rw [edit_of_some hcategory, DiffSwitch.hidden_setHidden]
    by_cases hd : c = d
    · subst hd
      rw [HiddenKeys.get_set_self, mem_keysAfter]
      simp [Names, hcategory]
    · have hd' : d ≠ c := fun h => hd h.symm
      simp [HiddenKeys.get_set_of_ne _ hd, Names, hcategory, hd']

/-- Only the edited category changes, only on the side of the switch that is
active, and the switch stays where it is. -/
theorem edit_frame (command : ViewCommand) (s : DiffSwitch) :
    (command.edit s).isOn = s.isOn ∧
    (s.isOn = true → (command.edit s).whileOff = s.whileOff) ∧
    (s.isOn = false → (command.edit s).whileOn = s.whileOn) ∧
    (s.Consistent → (command.edit s).Consistent) ∧
    ∀ c, command.category? ≠ some c →
      (command.edit s).hidden.get c = s.hidden.get c ∧
      (command.edit s).whileOff.get c = s.whileOff.get c ∧
      (command.edit s).whileOn.get c = s.whileOn.get c := by
  cases hcategory : command.category? with
  | none =>
    rw [edit_of_none hcategory]
    exact ⟨rfl, fun _ => rfl, fun _ => rfl, id, fun _ _ => ⟨rfl, rfl, rfl⟩⟩
  | some d =>
    rw [edit_of_some hcategory]
    refine ⟨DiffSwitch.isOn_setHidden _ _, fun h => ?_, fun h => ?_,
      fun h => h.setHidden _ _, fun c hc => DiffSwitch.get_setHidden_of_ne ?_ _⟩
    · rw [DiffSwitch.setHidden_of_on h]
    · rw [DiffSwitch.setHidden_of_off h]
    · exact fun h => hc (congrArg some h.symm)

/-- A command that was carried out has nothing left to do. -/
theorem edit_edit (command : ViewCommand) (s : DiffSwitch) :
    command.edit (command.edit s) = command.edit s := by
  cases hcategory : command.category? with
  | none => rw [edit_of_none hcategory, edit_of_none hcategory]
  | some c =>
    rw [edit_of_some hcategory, edit_of_some hcategory, DiffSwitch.setHidden_setHidden,
      DiffSwitch.hidden_setHidden, HiddenKeys.get_set_self]
    congr 1
    refine KeySet.ext fun key => ?_
    simp only [mem_keysAfter]
    by_cases h : key ∈ command.keys <;> simp [h]

theorem keysAfter_comm {hidden : KeySet} (h : ∀ key ∈ command.keys, key ∉ command'.keys) :
    command'.keysAfter (command.keysAfter hidden) =
      command.keysAfter (command'.keysAfter hidden) := by
  refine KeySet.ext fun key => ?_
  simp only [mem_keysAfter]
  by_cases hkey : key ∈ command.keys
  · simp [hkey, h key hkey]
  · simp [hkey]

/-- Commands that name no key together may be carried out in either order. -/
theorem edit_comm (h : ∀ c key, command.Names c key → ¬command'.Names c key) (s : DiffSwitch) :
    command'.edit (command.edit s) = command.edit (command'.edit s) := by
  cases hc : command.category? with
  | none => rw [edit_of_none hc, edit_of_none hc]
  | some c =>
    cases hc' : command'.category? with
    | none => rw [edit_of_none hc', edit_of_none hc']
    | some c' =>
      simp only [edit_of_some hc, edit_of_some hc', DiffSwitch.hidden_setHidden]
      by_cases hsame : c = c'
      · subst hsame
        rw [HiddenKeys.get_set_self, HiddenKeys.get_set_self, DiffSwitch.setHidden_setHidden,
          DiffSwitch.setHidden_setHidden,
          keysAfter_comm fun key hkey hkey' => h c key ⟨hc, hkey⟩ ⟨hc', hkey'⟩]
      · rw [HiddenKeys.get_set_of_ne _ (Ne.symm hsame), HiddenKeys.get_set_of_ne _ hsame,
          DiffSwitch.setHidden_comm _ hsame]

/-! ## Any commands -/

theorem contains_foldl_edit (commands : List ViewCommand) (s : DiffSwitch) (c : Category)
    (key : String) :
    (commands.foldl (fun s command => command.edit s) s).hidden.contains c key = true ↔
      LastHides c key commands ∨
        ((∀ command ∈ commands, ¬command.Names c key) ∧ s.hidden.contains c key = true) := by
  induction commands using List.reverseRecOn with
  | nil =>
    have hnone : ¬LastHides c key [] := by
      rintro ⟨earlier, command, later, heq, -⟩
      simp at heq
    simp [hnone]
  | append_singleton commands command ih =>
    rw [List.foldl_append, List.foldl_cons, List.foldl_nil, contains_edit, ih, lastHides_concat]
    by_cases h : command.Names c key
    · have hnamed : ¬∀ k ∈ commands ++ [command], ¬k.Names c key :=
        fun hall => hall command (by simp) h
      simp only [h, hnamed, true_and, not_true_eq_false, false_and, or_false]
    · simp [h, or_imp, forall_and]

theorem foldl_edit_frame (commands : List ViewCommand) (s : DiffSwitch) :
    let t := commands.foldl (fun s command => command.edit s) s
    t.isOn = s.isOn ∧
    (s.isOn = true → t.whileOff = s.whileOff) ∧
    (s.isOn = false → t.whileOn = s.whileOn) ∧
    (s.Consistent → t.Consistent) ∧
    ∀ c, (∀ command ∈ commands, command.category? ≠ some c) →
      t.hidden.get c = s.hidden.get c ∧ t.whileOff.get c = s.whileOff.get c ∧
      t.whileOn.get c = s.whileOn.get c := by
  induction commands generalizing s with
  | nil => exact ⟨rfl, fun _ => rfl, fun _ => rfl, id, fun _ _ => ⟨rfl, rfl, rfl⟩⟩
  | cons command commands ih =>
    obtain ⟨hon, hoff, hwhile, hconsistent, hothers⟩ := edit_frame command s
    obtain ⟨ihon, ihoff, ihwhile, ihconsistent, ihothers⟩ := ih (command.edit s)
    refine ⟨ihon.trans hon, fun h => ?_, fun h => ?_, fun h => ihconsistent (hconsistent h),
      fun c hc => ?_⟩
    · exact (ihoff (hon.trans h)).trans (hoff h)
    · exact (ihwhile (hon.trans h)).trans (hwhile h)
    · obtain ⟨hhead, htail⟩ := List.forall_mem_cons.mp hc
      obtain ⟨h₁, h₂, h₃⟩ := hothers c hhead
      obtain ⟨h₁', h₂', h₃'⟩ := ihothers c htail
      exact ⟨h₁'.trans h₁, h₂'.trans h₂, h₃'.trans h₃⟩

/-! ## What is stored -/

/-- A command that hides or shows columns fails if its word is none for a
category, and has nothing to edit then. -/
theorem outcome_of_editsColumns (runsAt : String → Except CommandError (List Run))
    (h : command.editsColumns = true) (s : ViewState) :
    (∃ e, command.outcome runsAt s = .error e ∧ command.edit s.columns = s.columns) ∨
      command.outcome runsAt s = .ok ({ s with columns := command.edit s.columns }, none) := by
  cases command with
  | hide word keys | unhide word keys =>
    simp only [outcome, action, edit, category?, categoryOf]
    cases Category.parse word with
    | error e => exact Or.inl ⟨.rejected e, rfl, rfl⟩
    | ok c => exact Or.inr rfl
  | _ => cases h

end ViewCommand

namespace ViewRequest

variable {db : Database} {q q' : ViewRequest} {s : ViewState}

theorem loadState_serve (load : loadState db q.experiment = .ok s)
    (edits : q.command.editsColumns = true)
    (saved : ∀ experiment, (q.serve db).2 ≠ .error (.unwritable experiment)) :
    loadState (q.serve db).1 q.experiment =
      .ok { s with columns := q.command.edit s.columns } := by
  rw [serve_eq] at saved ⊢
  have ran := q.command.ran_run ⟨db, q.writable, q.look⟩ q.second q.experiment
  generalize q.command.run ⟨db, q.writable, q.look⟩ q.second q.experiment = left at ran saved ⊢
  have outcome := ViewCommand.outcome_of_editsColumns (runsAt q.look) edits s
  cases ran with
  | undecoded load' => cases load.symm.trans load'
  | refused load' refuse =>
    obtain rfl := Except.ok.inj (load.symm.trans load')
    rcases outcome with ⟨_, _, kept⟩ | move
    · rwa [kept]
    · cases move.symm.trans refuse
  | idle load' stay =>
    obtain rfl := Except.ok.inj (load.symm.trans load')
    rcases outcome with ⟨_, refuse, _⟩ | move
    · cases stay.symm.trans refuse
    · have same := congrArg Prod.fst (Except.ok.inj (stay.symm.trans move))
      exact load.trans (congrArg Except.ok same)
  | unwritable _ _ _ _ => exact absurd rfl (saved q.experiment)
  | written load' move' _ _ =>
    obtain rfl := Except.ok.inj (load.symm.trans load')
    rcases outcome with ⟨_, refuse, _⟩ | move
    · cases move'.symm.trans refuse
    · have same := congrArg Prod.fst (Except.ok.inj (move'.symm.trans move))
      rw [loadState_put, if_pos rfl]
      exact congrArg Except.ok same

/-- Requests to hide and show columns of one experiment leave it in the state in
which the columns were edited by one command after the other. -/
theorem loadState_session {x : String} {requests : List ViewRequest}
    (load : loadState db x = .ok s)
    (edits : ∀ q ∈ requests, q.experiment = x ∧ q.command.editsColumns = true)
    (saved : ∀ experiment, .error (.unwritable experiment) ∉ (session serve db requests).2) :
    loadState (session serve db requests).1 x =
      .ok { s with columns :=
        (requests.map command).foldl (fun s command => command.edit s) s.columns } := by
  induction requests generalizing db s with
  | nil => exact load
  | cons q requests ih =>
    obtain ⟨⟨rfl, hq⟩, hrest⟩ := List.forall_mem_cons.mp edits
    simp only [session, List.mem_cons, not_or] at saved ⊢
    exact ih (loadState_serve load hq fun e => Ne.symm (saved e).1) hrest fun e => (saved e).2

theorem serve_ne_unwritable (h : q.writable = true) (experiment : String) :
    (q.serve db).2 ≠ .error (.unwritable experiment) := fun failed =>
  saved_of_writable (List.forall_mem_singleton.mpr h) db experiment
    (List.mem_singleton.mpr failed.symm)

/-- A request that was served leaves nothing to do for another one of its kind. -/
theorem database_of_repeated (load : loadState db q.experiment = .ok s)
    (edits : q.command.editsColumns = true)
    (saved : ∀ experiment, (q.serve db).2 ≠ .error (.unwritable experiment))
    (hexperiment : q'.experiment = q.experiment) (hcommand : q'.command = q.command) :
    (q'.serve (q.serve db).1).1 = (q.serve db).1 := by
  have load' := loadState_serve load edits saved
  rw [serve_eq q']
  rcases q'.command.keeps_or_writes ⟨(q.serve db).1, q'.writable, q'.look⟩ q'.second
      q'.experiment with kept | ⟨before, after, runs, load'', move, differ, _⟩
  · exact kept
  · rw [hexperiment, load'] at load''
    obtain rfl := Except.ok.inj load''
    rw [hcommand] at move
    rcases ViewCommand.outcome_of_editsColumns (runsAt q'.look) edits
        { s with columns := q.command.edit s.columns } with ⟨_, refuse, _⟩ | same
    · cases move.symm.trans refuse
    · have hafter := congrArg Prod.fst (Except.ok.inj (move.symm.trans same))
      rw [ViewCommand.edit_edit] at hafter
      exact absurd hafter.symm differ

/-- **The last command that names a key decides it.** Whatever requests to hide
and to show columns of one experiment are served, a key is hidden in a category
just if the last of them that named it there hid it, or none named it and it was
hidden before. Nothing else changes but the copy of the side on which the switch
stands, and that only in the categories that were edited. The same request again
leaves the database as it is, and two that name no key together may be served in
either order. -/
theorem hidden_by_last_naming (db : Database) (x : String) (before : ViewState)
    (load : loadState db x = .ok before) :
    (∀ requests : List ViewRequest,
      (∀ q ∈ requests, q.experiment = x ∧ q.command.editsColumns = true) →
      (∀ experiment, .error (.unwritable experiment) ∉ (session serve db requests).2) →
      ∃ columns : DiffSwitch,
        loadState (session serve db requests).1 x = .ok { before with columns := columns } ∧
        (∀ c key, columns.hidden.contains c key = true ↔
          ViewCommand.LastHides c key (requests.map command) ∨
            ((∀ q ∈ requests, ¬q.command.Names c key) ∧
              before.columns.hidden.contains c key = true)) ∧
        columns.isOn = before.columns.isOn ∧
        (before.columns.isOn = true → columns.whileOff = before.columns.whileOff) ∧
        (before.columns.isOn = false → columns.whileOn = before.columns.whileOn) ∧
        (before.columns.Consistent → columns.Consistent) ∧
        ∀ c, (∀ q ∈ requests, q.command.category? ≠ some c) →
          columns.hidden.get c = before.columns.hidden.get c ∧
          columns.whileOff.get c = before.columns.whileOff.get c ∧
          columns.whileOn.get c = before.columns.whileOn.get c) ∧
    (∀ q q' : ViewRequest, q.experiment = x → q.command.editsColumns = true →
      q'.experiment = x → q'.command = q.command →
      (∀ experiment, (q.serve db).2 ≠ .error (.unwritable experiment)) →
      (q'.serve (q.serve db).1).1 = (q.serve db).1) ∧
    ∀ p q : ViewRequest,
      (∀ r ∈ [p, q], r.experiment = x ∧ r.command.editsColumns = true) →
      (∀ c key, p.command.Names c key → ¬q.command.Names c key) →
      (∀ experiment, .error (.unwritable experiment) ∉ (session serve db [p, q]).2) →
      (∀ experiment, .error (.unwritable experiment) ∉ (session serve db [q, p]).2) →
      loadState (session serve db [p, q]).1 x = loadState (session serve db [q, p]).1 x := by
  refine ⟨fun requests edits saved => ?_, fun q q' hq edits hq' same saved => ?_,
    fun p q edits apart saved saved' => ?_⟩
  · obtain ⟨hon, hoff, hwhile, hconsistent, hothers⟩ :=
      ViewCommand.foldl_edit_frame (requests.map command) before.columns
    refine ⟨_, loadState_session load edits saved, fun c key => ?_, hon, hoff, hwhile,
      hconsistent, fun c hc => hothers c ?_⟩
    · rw [ViewCommand.contains_foldl_edit, List.forall_mem_map]
    · rwa [List.forall_mem_map]
  · subst hq
    exact database_of_repeated load edits saved hq' same
  · have edits' : ∀ r ∈ [q, p], r.experiment = x ∧ r.command.editsColumns = true := by
      intro r hr
      exact edits r (by simpa [or_comm] using hr)
    rw [loadState_session load edits saved, loadState_session load edits' saved']
    simp only [List.map_cons, List.map_nil, List.foldl_cons, List.foldl_nil,
      ViewCommand.edit_comm apart]

/-- Diff view is on, and its copy does not agree with what is shown. One key is
hidden, shown and hidden again, under three words for its category, and another
is shown; a word for no category edits nothing. -/
theorem hidden_by_last_naming_aliases :
    let seed := HiddenKeys.none.set .params (.ofList ["seed"])
    let before := { ViewState.initial with columns := ⟨seed, true, seed, .none⟩ }
    let db := Database.empty.put "a" 1 before
    let request (command : ViewCommand) : ViewRequest :=
      ⟨"a", command, .human, 2, fun _ => .missing, true⟩
    let shows := request (.unhide "params" ["seed"])
    let hides := request (.hide "params" ["lr"])
    let requests := [request (.hide "Params" ["lr", "lr"]), request (.unhide "param" ["lr"]),
      request (.hide "labels" ["seed"]), hides, shows]
    loadState db "a" = .ok before ∧
    (∃ columns : DiffSwitch,
      loadState (session serve db requests).1 "a" = .ok { before with columns := columns } ∧
      columns.hidden.contains .params "lr" = true ∧
      columns.hidden.contains .params "seed" = false ∧
      columns.hidden.get .tags = .empty ∧ columns.whileOff = seed) ∧
    (shows.serve (shows.serve db).1).1 = (shows.serve db).1 ∧
    loadState (session serve db [shows, hides]).1 "a" =
      loadState (session serve db [hides, shows]).1 "a" := by
  intro seed before db request shows hides requests
  have load : loadState db "a" = .ok before := by rw [loadState_put, if_pos rfl]
  have edits : ∀ q ∈ requests, q.experiment = "a" ∧ q.command.editsColumns = true := by
    simp [requests, request, shows, hides, ViewCommand.editsColumns]
  have free : ∀ q ∈ requests, q.writable = true := by simp [requests, request, shows, hides]
  have among : ∀ q ∈ [shows, hides], q ∈ requests := by simp [requests]
  have among' : ∀ q ∈ [hides, shows], q ∈ requests := by simp [requests]
  obtain ⟨along, again, either⟩ := hidden_by_last_naming db "a" before load
  obtain ⟨columns, loaded, decided, -, away, -, -, others⟩ :=
    along requests edits (saved_of_writable free db)
  refine ⟨load, ⟨columns, loaded, (decided _ _).mpr (.inl ?_), ?_, ?_, away rfl⟩, ?_, ?_⟩
  · refine ⟨(requests.take 3).map command, hides.command, [shows.command], rfl, by decide, rfl, ?_⟩
    rw [List.forall_mem_singleton]
    decide
  · rw [← Bool.not_eq_true, decided]
    rintro (last | ⟨unnamed, -⟩)
    · have split : requests.map command =
          (requests.dropLast.map command) ++ [shows.command] := rfl
      rw [split, ViewCommand.lastHides_concat] at last
      rcases last with ⟨-, hidden⟩ | ⟨unnamed, -⟩
      · cases hidden
      · exact unnamed (by decide)
    · exact unnamed shows (by simp [requests]) (by decide)
  · refine (others .tags fun q hq => ?_).1
    simp only [requests, List.mem_cons, List.not_mem_nil, or_false] at hq
    rcases hq with rfl | rfl | rfl | rfl | rfl <;> decide
  · exact again shows shows rfl rfl rfl rfl (serve_ne_unwritable rfl)
  · refine either shows hides (fun q hq => edits q (among q hq)) ?_
      (saved_of_writable (fun q hq => free q (among q hq)) db)
      (saved_of_writable (fun q hq => free q (among' q hq)) db)
    rintro c key ⟨-, hkey⟩ ⟨-, hkey'⟩
    cases List.mem_singleton.mp hkey
    exact absurd hkey' (by decide)

end ViewRequest

end Command

end RunTable
