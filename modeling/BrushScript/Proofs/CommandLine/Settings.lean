import BrushScript.CommandLine.Perform
import BrushScript.Proofs.CommandLine.Action
import BrushScript.Proofs.CommandLine.Options
import BrushScript.Proofs.Settings.Saving
import Mathlib.Data.List.Forall2

/-!
# Changing settings from the command line

The task that changes settings loads them, applies the change and saves the result, and all else it
does is to print (`ends_performSettings`). So a command line either stores the changed settings or
leaves the tree as it was, and in both cases the next one can store its own (`Serves`). What one
command line does is carried along any sequence of them, whatever words they are made of
(`updates_never_lost`, `Serves.stored_treeAfter`).

`Serves` is the invariant: the settings that are loaded can be used, and settings can be stored. A
change to settings that no run could use is refused before anything is written, so it leaves the
invariant as it was (`Updates.onTree_refused`). A change that is stored leaves settings that can be
used, in a file that can be replaced again (`Updates.onTree_stored`).

The theme is the one field for which naming it and changing it are not quite the same, since an
empty one stands for no theme. No command line names an empty theme, so a change replaces just the
fields that it names (`Updates.updated_eq`).
-/

namespace BrushScript.CommandLine

open BrushScript.CommandLine.Action BrushScript.Settings

variable {config : Path} {settings : Settings} {change : Change} {t t' : FileTree}

/-! ## The task

With its remarks passed over, the task is to save the changed settings and to show them.
-/

/-- What the task does behind its remark on the background. -/
def saveAndShow (config : Path) (after : Settings) (json : Bool) :
    Action (StateM FileTree) Ending := do
  Action.onFiles .store (after.save config)
  Action.remark s!"Saved {config.settingsFile.text}"
  if json then sayJson after.toJson else (settingsLines after).forM Action.say
  return .success

theorem ends_saveAndShow {after : Settings} (json : Bool)
    (saved : (after.save config : Work Unit).run t = (.ok (), t')) :
    Ends (saveAndShow config after json) t (.ok .success) t' := by
  refine (ends_onFiles Refusal.store saved).bind ((ends_remark _ t').bind ?_)
  cases json with
  | true => exact (ends_say _ t').bind (ends_pure _ t')
  | false => exact (ends_forM_say _ t').bind (ends_pure _ t')

theorem ends_saveAndShow_error {after : Settings} {e : StoreError} (json : Bool)
    (failed : (after.save config : Work Unit).run t = (.error e, t')) :
    Ends (saveAndShow config after json) t (.error (.store e)) t' :=
  (ends_onFiles_error Refusal.store failed).bind_error

/-- A remark on the background changes neither how the task ends nor what it leaves. -/
theorem ends_performSettings {json : Bool} (changes : change ≠ .nothing)
    {result : Except Refusal Ending}
    (rest : Ends (saveAndShow config (change.apply settings) json) t result t') :
    Ends (performSettings config settings json change) t result t' := by
  rw [performSettings]
  dsimp only
  rw [if_pos changes]
  split
  · split
    · exact (ends_remark _ t).bind rest
    · exact rest
  · exact rest

/-! ## One command line

A command line that asks for a change comes down to the task, on the settings that are loaded from
its configuration folder.
-/

/-- A command line changes the settings in a configuration folder. -/
structure Updates (env : Environment) (config : Path) (words : List String) (change : Change) :
    Prop where
  asks : ∃ json dir, Request.ofArguments words = .ok (.invocation ⟨.settings change, json, dir⟩) ∧
    dir.getD (Path.defaultConfig env.xdgConfigHome env.home) = config
  changes : change ≠ .nothing

/-- The outcome of a command line on a tree, and the tree that it leaves. -/
def onTree (env : Environment) (words : List String) (t : FileTree) : Outcome × FileTree :=
  (answer env words : StateM FileTree Outcome).run t

variable {env : Environment} {words : List String}

/-- The settings that a change makes of stored ones, or of the defaults where none are stored. -/
def updated (config : Path) (change : Change) (t : FileTree) : Settings :=
  change.apply ((stored config t).getD .default)

theorem Updates.exists_onTree (updates : Updates env config words change)
    (usable : ((stored config t).getD .default).problem? = none) {result : Except Refusal Ending}
    (rest : ∀ json, Ends (saveAndShow config (updated config change t) json) t result t') :
    ∃ transcript, onTree env words t = (⟨shown result, transcript⟩, t') := by
  obtain ⟨⟨json, dir, asks, same⟩, changes⟩ := updates
  have ends : Ends (performInvocation env ⟨.settings change, json, dir⟩) t result t' := by
    rw [performInvocation, same]
    refine (ends_lift _ t).bind ?_
    rw [run_load]
    dsimp only
    rw [usable]
    exact ends_performSettings changes (rest json)
  obtain ⟨transcript, ended⟩ := ends.outcome
  refine ⟨transcript, ?_⟩
  rw [onTree, answer, asks]
  exact ended

/-- A change to settings that no run could use is refused, and leaves everything as it was. -/
theorem Updates.onTree_refused (updates : Updates env config words change)
    (usable : ((stored config t).getD .default).problem? = none)
    (unusable : (updated config change t).problem? ≠ none) :
    ∃ transcript, onTree env words t = (⟨.failure, transcript⟩, t) := by
  obtain ⟨problem, unusable⟩ := Option.ne_none_iff_exists'.mp unusable
  exact updates.exists_onTree usable fun json =>
    ends_saveAndShow_error json (run_save_of_problem unusable config t)

/-- A change to settings that a run could use is stored, and others can be stored after it. -/
theorem Updates.onTree_stored (updates : Updates env config words change)
    (usable : ((stored config t).getD .default).problem? = none) (can : CanStore config t)
    (usable' : (updated config change t).problem? = none) :
    ∃ transcript t', onTree env words t = (⟨.success, transcript⟩, t') ∧
      stored config t' = some (updated config change t) ∧ CanStore config t' := by
  obtain ⟨t', saved⟩ := exists_save usable' can
  obtain ⟨transcript, ended⟩ :=
    updates.exists_onTree usable fun json => ends_saveAndShow json saved
  exact ⟨transcript, t', ended, stored_of_save saved⟩

/-- A command line that is not understood leaves everything as it was. -/
theorem onTree_misuse {e : UsageError} (misuse : Request.ofArguments words = .error e)
    (env : Environment) (t : FileTree) :
    onTree env words t = (⟨.misuse, ⟨"", misuseText e⟩⟩, t) := by
  rw [onTree, answer, misuse]
  rfl

/-! ## Command lines one after the other

Any number of command lines, changes and misuses among each other. The invariant goes along, and so
does what is stored in the end.
-/

/-- The tree that command lines leave, one after the other. -/
def treeAfter (env : Environment) (t : FileTree) (lines : List (List String)) : FileTree :=
  lines.foldl (fun t words => (onTree env words t).2) t

/-- Settings can be loaded, used and stored. -/
structure Serves (config : Path) (t : FileTree) : Prop where
  usable : ((stored config t).getD .default).problem? = none
  writable : CanStore config t

theorem Serves.onTree_update (serves : Serves config t)
    (updates : Updates env config words change) :
    Serves config (onTree env words t).2 := by
  by_cases usable : (updated config change t).problem? = none
  · obtain ⟨transcript, t', ended, found, can⟩ :=
      updates.onTree_stored serves.usable serves.writable usable
    rw [ended]
    exact ⟨by rw [found]; exact usable, can⟩
  · obtain ⟨transcript, ended⟩ := updates.onTree_refused serves.usable usable
    rw [ended]
    exact serves

theorem Serves.onTree_misuse (serves : Serves config t) {e : UsageError}
    (misuse : Request.ofArguments words = .error e) : Serves config (onTree env words t).2 := by
  rw [CommandLine.onTree_misuse misuse]
  exact serves

theorem Serves.treeAfter (serves : Serves config t) {lines : List (List String)}
    (each : ∀ words ∈ lines, (∃ change, Updates env config words change) ∨
      ∃ e, Request.ofArguments words = .error e) : Serves config (treeAfter env t lines) := by
  induction lines generalizing t with
  | nil => exact serves
  | cons words lines ih =>
    -- the first line leaves settings that serve, whatever it was
    refine ih ?_ fun words mem => each words (List.mem_cons_of_mem _ mem)
    obtain ⟨change, updates⟩ | ⟨e, misuse⟩ := each words List.mem_cons_self
    · exact serves.onTree_update updates
    · exact serves.onTree_misuse misuse

/-- A change replaces the settings it names. -/
theorem Updates.updated_eq (updates : Updates env config words change) (t : FileTree) :
    let previous := (stored config t).getD .default
    updated config change t = { previous with
      canvasSize := change.canvasSize.getD previous.canvasSize
      background := change.background.getD previous.background
      theme := change.theme <|> previous.theme
      maxGoToVisits := change.maxGoToVisits.getD previous.maxGoToVisits } := by
  obtain ⟨⟨json, dir, asks, -⟩, -⟩ := updates
  have shown := Request.theme_ne_empty asks
  unfold updated Change.apply
  cases theme : change.theme with
  | none => rfl
  | some name =>
    have shown : name ≠ "" := by
      rintro rfl
      exact shown theme
    simp [shown]

/-- Settings after a change, which is passed over if no run could use them with it. -/
def accepted (s : Settings) (change : Change) : Settings :=
  if (change.apply s).problem? = none then change.apply s else s

theorem accepted_eq (config : Path) (change : Change) (t : FileTree) :
    accepted ((stored config t).getD .default) change =
      if (updated config change t).problem? = none then updated config change t
      else (stored config t).getD .default := rfl

/-- In the end the settings are those of all changes that were accepted. -/
theorem Serves.stored_treeAfter (serves : Serves config t) {lines : List (List String)}
    {changes : List Change} (updates : List.Forall₂ (Updates env config) lines changes) :
    (stored config (CommandLine.treeAfter env t lines)).getD .default =
      changes.foldl accepted ((stored config t).getD .default) := by
  induction updates generalizing t with
  | nil => rfl
  | @cons words change lines changes first _ ih =>
    have step : (stored config (onTree env words t).2).getD .default =
        accepted ((stored config t).getD .default) change := by
      by_cases fits : (updated config change t).problem? = none
      · -- a change that was stored
        obtain ⟨transcript, left, ended, found, -⟩ :=
          first.onTree_stored serves.usable serves.writable fits
        rw [ended, accepted_eq, if_pos fits, found]
        rfl
      · -- a change that was refused
        obtain ⟨transcript, ended⟩ := first.onTree_refused serves.usable fits
        rw [ended, accepted_eq, if_neg fits]
    rw [List.foldl_cons, ← step]
    exact ih (serves.onTree_update first)

/-- No update of the settings is ever lost. Where settings can be used and stored at first, a
command line that changes them succeeds just if a run could use the changed settings. They are then
loaded from the tree that it leaves; otherwise, and where the command line is misused, the tree
stays as it was. -/
theorem updates_never_lost (env : Environment) (config : Path) (t₀ : FileTree)
    (usable : ((stored config t₀).getD .default).problem? = none)
    (writable : CanStore config t₀) (lines : List (List String))
    (each : ∀ words ∈ lines, (∃ change, Updates env config words change) ∨
      ∃ e, Request.ofArguments words = .error e) :
    ∀ earlier words later, lines = earlier ++ words :: later →
      let t := treeAfter env t₀ earlier
      let previous := (stored config t).getD .default
      let outcome := (onTree env words t).1
      let t' := (onTree env words t).2
      (∀ change, Updates env config words change →
        let next : Settings := { previous with
          canvasSize := change.canvasSize.getD previous.canvasSize
          background := change.background.getD previous.background
          theme := change.theme <|> previous.theme
          maxGoToVisits := change.maxGoToVisits.getD previous.maxGoToVisits }
        (outcome.ending.status = 0 ↔ next.problem? = none) ∧
          (outcome.ending.status = 0 → stored config t' = some next) ∧
          (next.problem? ≠ none → t' = t)) ∧
      (∀ e, Request.ofArguments words = .error e → outcome.ending.status = 2 ∧ t' = t) := by
  intro earlier words later whole t previous outcome t'
  -- wherever the sequence is cut, settings can be used and stored
  have serves : Serves config t := Serves.treeAfter ⟨usable, writable⟩ fun words mem =>
    each words (whole ▸ List.mem_append_left _ mem)
  refine ⟨fun change updates => ?_, fun e misuse => ?_⟩
  · -- a change, which a run could use or not
    dsimp only [outcome, t', previous]
    rw [← updates.updated_eq t]
    by_cases fits : (updated config change t).problem? = none
    · obtain ⟨transcript, left, ended, found, -⟩ :=
        updates.onTree_stored serves.usable serves.writable fits
      rw [ended]
      exact ⟨iff_of_true rfl fits, fun _ => found, fun unfit => absurd fits unfit⟩
    · obtain ⟨transcript, ended⟩ := updates.onTree_refused serves.usable fits
      rw [ended]
      have failed : Ending.failure.status ≠ 0 := by decide
      exact ⟨iff_of_false failed fits, fun zero => absurd zero failed, fun _ => rfl⟩
  · -- a misuse
    dsimp only [outcome, t']
    rw [onTree_misuse misuse]
    exact ⟨rfl, rfl⟩

/-- A background of any letters, named where no settings are stored yet. -/
theorem updates_never_lost_first :
    stored (.ofText ".pixel-walle")
      (onTree ⟨none, none⟩ (changeWords { background := some "n\"oчь\n" }) .empty).2 =
        some { Settings.default with background := "n\"oчь\n" } := by
  have unstored : stored (.ofText ".pixel-walle") .empty = none := by rfl
  have writable : CanStore (.ofText ".pixel-walle") .empty := by
    intro content
    exact ⟨⟨[(".pixel-walle", .folder [("settings.json", .file content)])]⟩, by rfl⟩
  have updates : Updates ⟨none, none⟩ (.ofText ".pixel-walle")
      (changeWords { background := some "n\"oчь\n" }) { background := some "n\"oчь\n" } :=
    ⟨⟨false, none, ofArguments_changeWords (by decide), rfl⟩, by decide⟩
  have kept := updates_never_lost ⟨none, none⟩ (.ofText ".pixel-walle") .empty
    (by rw [unstored]; decide) writable [changeWords { background := some "n\"oчь\n" }]
    (by
      intro words mem
      obtain rfl := List.mem_singleton.mp mem
      exact .inl ⟨_, updates⟩)
    [] (changeWords { background := some "n\"oчь\n" }) [] rfl
  obtain ⟨succeeds, found, -⟩ := kept.1 _ updates
  have start : (stored (.ofText ".pixel-walle") (treeAfter ⟨none, none⟩ .empty [])).getD .default =
      Settings.default := by
    rw [treeAfter, List.foldl_nil, unstored]
    rfl
  rw [start] at succeeds found
  exact found (succeeds.mpr (by decide))

end BrushScript.CommandLine
