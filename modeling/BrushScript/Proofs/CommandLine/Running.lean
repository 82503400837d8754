import BrushScript.Proofs.Canvas.Stored
import BrushScript.Proofs.CommandLine.Settings
import BrushScript.Proofs.Machine.Termination
import BrushScript.Proofs.Store.Replacement
import Mathlib.Algebra.Module.Submodule.Lattice

/-!
# Running scripts from the command line

A run reads its script and its theme and stores one picture, or nothing (`ensures_performRun`). If
it is not told where, the picture goes next to the script, under the name of the script with the
extension of the format. So nothing can change there but that name and its two siblings
(`run_keeps_inputs`): the script is not among them, unless it has that extension itself.

* `Stores` is what a run can do to a tree: nothing, with a failure; nothing, with a crash; or to
  export one picture, whatever it reports of it afterwards;
* `ensures_performRun` goes through a run step by step and arrives at one of these;
* `Leaves` is what is left next to the script, and `leaves_of_stores` reads it off the laws of
  replaced files;
* `run_not_keeps_inputs` is a script that is overwritten by its own picture.

A crash is no ending that the program has words for. It happens where there is no canvas of the size
that was asked for, because its pixels cannot be numbered, and where a visit counter is full, which
takes the greatest limit (`limit_of_counterFull`). In both cases nothing has been stored yet, so the
tree is left as it was.
-/

namespace BrushScript.CommandLine

open BrushScript.CommandLine.Action BrushScript.Settings
open BrushScript.FileTree (Accepts Confined Under start places)
open BrushScript.Path (IsName nameWith)

variable {config script out : Path} {settings : Settings} {t t' : FileTree}

/-! ## Reading

A script and a theme are read from files, and reading changes no tree. That is all that is used of
them, apart from the script being a file.
-/

theorem run_loadScript (script : Path) (t : FileTree) :
    ((Storage.loadScript script : Work String).run t).2 = t ∧
      ∀ source, ((Storage.loadScript script : Work String).run t).1 = .ok source →
        ∃ content, t.read script = .ok content := by
  rw [Storage.loadScript, Work.run_bind]
  cases found : t.read script with
  | error e =>
    rw [Work.run_readText_of_error found]
    exact ⟨rfl, nofun⟩
  | ok content =>
    rw [Work.run_readText found]
    refine ⟨?_, fun _ _ => ⟨content, rfl⟩⟩
    cases Work.textOf content with
    | error e => rfl
    | ok s =>
      dsimp only
      split <;> rfl

/-- Reading a script changes nothing, and needs a file. -/
theorem ensures_readScript (script : Path) (t : FileTree) :
    Ensures (readScript script) t fun result t' =>
      t' = t ∧ ∀ source, result = .ok source → ∃ content, t.read script = .ok content := by
  have loaded : Ensures (onFiles (.script script) (Storage.loadScript script)) t fun result t' =>
      t' = t ∧ ∀ source, result = .ok source → ∃ content, t.read script = .ok content := by
    obtain ⟨result, t', ends, same, gives⟩ :=
      ensures_onFiles (.script script) (Storage.loadScript script) t
    obtain ⟨same', read⟩ := run_loadScript script t
    exact ends.ensures ⟨same.trans same', fun source ok => read source (gives source ok)⟩
  rw [readScript]
  split
  · exact loaded
  · obtain ⟨result, t', ends, holds⟩ := loaded
    exact ((ends_remark _ t).bind ends).ensures holds

theorem run_loadTheme (path : Path) (t : FileTree) :
    ((Theme.load path : Work Theme).run t).2 = t := by
  have same := Work.run_load_snd (Document.ofOption Theme.ofJson?) path t
  rw [Theme.load, Work.run_bind]
  generalize (Document.load (Document.ofOption Theme.ofJson?) path : Work Theme).run t = loaded at *
  obtain ⟨result, t'⟩ := loaded
  cases same
  cases result with
  | error e => rfl
  | ok theme =>
    dsimp only
    split <;> rfl

/-- Reading a theme changes nothing. -/
theorem ensures_readTheme (config : Path) (reference : Option String) (t : FileTree) :
    Ensures (readTheme config reference) t fun _ t' => t' = t := by
  cases reference with
  | none => exact (ends_pure none t).ensures rfl
  | some reference =>
    have located : ((Theme.locate config reference : StateM FileTree Path).run t).2 = t := by
      unfold Theme.locate
      rw [StateT.run_bind]
      show ((if t.kind (Path.ofText reference) = some .file then _ else _ :
        StateM FileTree Path).run t).2 = t
      split <;> rfl
    have lifted : Ensures (liftM (Theme.locate config reference : StateM FileTree Path)) t
        fun _ t' => t' = t := (ends_lift _ t).ensures located
    refine lifted.bind (fun _ _ => id) ?_
    rintro path _ rfl
    refine (ensures_onFiles _ _ _).bind ?_ ?_
    · rintro why t' ⟨same, -⟩
      rw [same, run_loadTheme]
    · rintro theme t' ⟨same, -⟩
      rw [run_loadTheme] at same
      exact Ends.ensures ((ends_remark _ _).bind (ends_pure _ _)) same

/-! ## Drawing

The steps of a run in their order. Up to the run of the script everything may fail, and nothing is
stored; then one picture is exported, also if the run has stopped at a fault.
-/

/-- A visit counter can get full only under the greatest limit. -/
theorem limit_of_counterFull {source : String} {options : RunOptions} {canvas : Canvas}
    (full : (Script.run source options canvas).result = .error (.stop .counterFull)) :
    options.maxGoToVisits = 0xffffffff := by
  by_contra smaller
  have room : options.limit < 0xffffffff := by
    have least := options.maxGoToVisits.toNat_lt
    have other : options.maxGoToVisits.toNat ≠ 0xffffffff :=
      fun same => smaller (UInt32.toNat_inj.mp same)
    show options.maxGoToVisits.toNat < 0xffffffff
    omega
  unfold Script.run at full
  split at full
  · cases full
  · next program _ =>
    obtain ⟨trace, executes⟩ := program.executes_run options canvas
    have goesOn := executes.ne_counterFull room
    dsimp only at full
    cases result : (program.run options canvas).result with
    | ok report =>
      rw [result] at full
      cases full
    | error why =>
      rw [result] at full goesOn
      cases full
      exact goesOn rfl

/-- Why a run may crash: there is no canvas of its size, or its limit leaves no room in the visit
counters. -/
def MayCrash (size : UInt64) (limit : UInt32) : Prop :=
  ¬ Addressable size.toNat ∨ limit = 0xffffffff

/-- A run has stored nothing and failed or crashed, or it has read its script and stored a picture,
without a problem if it succeeded. -/
inductive Stores (script out : Path) (format : ExportFormat) (size : UInt64) (limit : UInt32)
    (t : FileTree) : Except Refusal Ending → FileTree → Prop
  | nothing {result : Except Refusal Ending} (failed : shown result = .failure) :
      Stores script out format size limit t result t
  | crash (may : MayCrash size limit) : Stores script out format size limit t (.ok .crash) t
  | picture {result : Except Refusal Ending} {t' : FileTree} {content : ByteArray}
      {exported : Except StoreError Unit} (canvas : Canvas) (read : t.read script = .ok content)
      (stored : (canvas.exportTo out format : Work Unit).run t = (exported, t'))
      (succeeds : shown result = .success → exported = .ok ()) :
      Stores script out format size limit t result t'

theorem ends_reportProblems (json : Bool) (problems : List String) (t : FileTree) :
    Ends (reportProblems json problems) t (.ok .failure) t := by
  cases json with
  | true => exact (ends_say _ t).bind (ends_pure _ t)
  | false =>
    have warned := ends_forM (fun line => ends_warn line t) problems
    exact warned.bind ((ends_remark _ t).bind (ends_pure _ t))

theorem ends_reportStop (json : Bool) (out : Path) (message : String) (t : FileTree) :
    Ends (reportStop json out message) t (.ok .failure) t := by
  cases json with
  | true => exact (ends_say _ t).bind (ends_pure _ t)
  | false => exact (ends_warn _ t).bind ((ends_remark _ t).bind (ends_pure _ t))

theorem ends_reportSuccess (json : Bool) (side : Nat) (out : Path) (r : Report) (t : FileTree) :
    Ends (reportSuccess json side out r) t (.ok .success) t := by
  cases json with
  | true => exact (ends_say _ t).bind (ends_pure _ t)
  | false => exact (ends_say _ t).bind ((ends_say _ t).bind (ends_pure _ t))

/-- Whatever is reported of a picture does not change what is stored of it. -/
theorem ensures_store {format : ExportFormat} {content : ByteArray} (size : UInt64)
    (limit : UInt32) (canvas : Canvas) (read : t.read script = .ok content)
    {report : Action (StateM FileTree) Ending}
    (reported : ∀ t', ∃ ending, Ends report t' (.ok ending) t') :
    Ensures (onFiles .store (canvas.exportTo out format) >>= fun _ => report) t
      (Stores script out format size limit t) := by
  refine (ensures_onFiles .store (canvas.exportTo out format) t).bind ?_ ?_
  · rintro why t' ⟨rfl, -⟩
    exact .picture canvas read rfl nofun
  · rintro _ t' ⟨rfl, gives⟩
    obtain ⟨ending, ends⟩ := reported ((canvas.exportTo out format : Work Unit).run t).2
    exact ends.ensures (.picture canvas read rfl fun _ => gives _ rfl)

/-- A run leaves the tree as it was, or with the picture that it stored. -/
theorem ensures_performRun (config : Path) (settings : Settings) (json : Bool) (script : Path)
    (c : RunChoices) (t : FileTree) :
    Ensures (performRun config settings json script c) t
      (Stores script
        (c.out.getD (script.withExtension (c.format.getD settings.exportFormat).name))
        (c.format.getD settings.exportFormat) (c.size.getD settings.canvasSize)
        settings.maxGoToVisits t) := by
  rw [performRun]
  refine (ensures_readScript script t).bind ?_ ?_
  · rintro why _ ⟨rfl, -⟩
    exact .nothing rfl
  rintro source _ ⟨same, read⟩
  obtain ⟨content, read⟩ := read source rfl
  rw [same]
  refine (ensures_readTheme config _ t).bind ?_ ?_
  · rintro why _ rfl
    exact .nothing rfl
  rintro theme _ same
  rw [same]
  dsimp only
  split
  -- the background is no colour
  · exact (ends_throw _ t).bind_error.ensures (.nothing rfl)
  split
  -- a side of zero
  · exact (ends_throw _ t).ensures (.nothing rfl)
  -- no canvas has so many pixels
  split
  · next none =>
    have large : ¬ Addressable (c.size.getD settings.canvasSize).toNat := by
      intro fits
      rw [freshCanvas?, dif_pos fits] at none
      cases none
    exact (ends_pure _ t).ensures (.crash (.inl large))
  -- there is a canvas, and it depends on the run whether it becomes a picture
  split
  · -- the script has problems
    exact (ends_reportProblems json _ t).ensures (.nothing rfl)
  · -- the run has crashed
    next full => exact (ends_pure _ t).ensures (.crash (.inr (limit_of_counterFull full)))
  · -- the run has stopped at a fault, and the picture shows how far it came
    exact ensures_store _ _ _ read fun t' => ⟨_, ends_reportStop json _ _ t'⟩
  · -- the run has come to its end
    exact ensures_store _ _ _ read fun t' => ⟨_, ends_reportSuccess json _ _ _ t'⟩

/-- A run without any problem stores the picture of its script. -/
theorem ends_performRun {c : RunChoices} {json : Bool} {source : String} {theme : Option Theme}
    {background : Color} {canvas : Canvas} {r : Report}
    (found : t.read script = .ok source.toUTF8) (unmarked : source.toList.head? ≠ some '\ufeff')
    (themed : Ends (readTheme config (c.theme <|> settings.theme)) t (.ok theme) t)
    (sized : c.size.getD settings.canvasSize ≠ 0)
    (resolved : Theme.resolveBackground theme (c.background.getD settings.background) =
      some background)
    (made : freshCanvas? (c.size.getD settings.canvasSize) background = some canvas)
    (drawn : (Script.run source ⟨theme.map Theme.resolver, settings.maxGoToVisits⟩ canvas).result =
      .ok r)
    (stored : ((Script.run source ⟨theme.map Theme.resolver, settings.maxGoToVisits⟩
        canvas).canvas.exportTo
      (c.out.getD (script.withExtension (c.format.getD settings.exportFormat).name))
      (c.format.getD settings.exportFormat) : Work Unit).run t = (.ok (), t')) :
    Ends (performRun config settings json script c) t (.ok .success) t' := by
  have loaded : (Storage.loadScript script : Work String).run t = (.ok source, t) := by
    rw [Storage.loadScript, Work.run_bind, Work.run_readText found, Work.textOf,
      Work.fromUTF8?_toUTF8]
    dsimp only
    split
    · -- a mark at the front, which the text does not have
      next rest letters => exact absurd (by rw [letters]; rfl) unmarked
    · rfl
  have script' : Ends (readScript script) t (.ok source) t := by
    rw [readScript]
    split
    · -- with the extension of scripts
      exact ends_onFiles _ loaded
    · -- without it, and so with a remark
      exact (ends_remark _ t).bind (ends_onFiles _ loaded)
  rw [performRun]
  refine script'.bind (themed.bind ?_)
  dsimp only
  rw [if_neg sized, resolved]
  dsimp only
  rw [made]
  dsimp only
  rw [drawn]
  exact (ends_onFiles .store stored).bind (ends_reportSuccess json _ _ r t')

/-! ## Command lines

From the words of a command line to the run that they ask for, with the settings of their
configuration folder. The other tasks and the misuses of the command line are none of these.
-/

/-- A command line runs a script, with the settings of a configuration folder. -/
def Runs (env : Environment) (config : Path) (words : List String) (script : Path)
    (choices : RunChoices) : Prop :=
  ∃ json dir, Request.ofArguments words = .ok (.invocation ⟨.run script choices, json, dir⟩) ∧
    dir.getD (Path.defaultConfig env.xdgConfigHome env.home) = config

/-- The format of the picture that a run stores. -/
def runFormat (config : Path) (choices : RunChoices) (t : FileTree) : ExportFormat :=
  choices.format.getD ((stored config t).getD .default).exportFormat

/-- The side of the canvas that a run draws on. -/
def runSize (config : Path) (choices : RunChoices) (t : FileTree) : UInt64 :=
  choices.size.getD ((stored config t).getD .default).canvasSize

/-- How often a run may come to a jump. -/
def runLimit (config : Path) (t : FileTree) : UInt32 :=
  ((stored config t).getD .default).maxGoToVisits

variable {env : Environment} {words : List String} {choices : RunChoices}

theorem Runs.exists_stores (runs : Runs env config words script choices) (t : FileTree) :
    ∃ result, (onTree env words t).1.ending = shown result ∧
      Stores script (choices.out.getD (script.withExtension (runFormat config choices t).name))
        (runFormat config choices t) (runSize config choices t) (runLimit config t) t result
        (onTree env words t).2 := by
  obtain ⟨json, dir, asks, same⟩ := runs
  have performed : Ensures (performInvocation env ⟨.run script choices, json, dir⟩) t
      (Stores script (choices.out.getD (script.withExtension (runFormat config choices t).name))
        (runFormat config choices t) (runSize config choices t) (runLimit config t) t) := by
    rw [performInvocation, same]
    have loaded := ends_lift (load config : StateM FileTree (Option Settings)) t
    rw [run_load] at loaded
    have lifted : Ensures (liftM (load config : StateM FileTree (Option Settings))) t
        fun result t' => result = .ok (stored config t) ∧ t' = t := loaded.ensures ⟨rfl, rfl⟩
    refine lifted.bind ?_ ?_
    · rintro why _ ⟨loaded, -⟩
      cases loaded
    rintro _ _ ⟨⟨⟩, rfl⟩
    dsimp only
    split
    · exact (ends_throw _ _).ensures (.nothing rfl)
    · exact ensures_performRun config _ json script choices _
  obtain ⟨result, t', ends, stores⟩ := performed
  obtain ⟨transcript, ended⟩ := ends.outcome
  have answered : onTree env words t = (⟨shown result, transcript⟩, t') := by
    rw [onTree, answer, asks]
    exact ended
  rw [answered]
  exact ⟨result, rfl, stores⟩

/-- With settings that can be used a command line ends as its run does. -/
theorem Runs.exists_onTree (runs : Runs env config words script choices)
    (usable : ((stored config t).getD .default).problem? = none) {result : Except Refusal Ending}
    (ends : ∀ json, Ends (performRun config ((stored config t).getD .default) json script choices) t
      result t') : ∃ transcript, onTree env words t = (⟨shown result, transcript⟩, t') := by
  obtain ⟨json, dir, asks, same⟩ := runs
  have ends' : Ends (performInvocation env ⟨.run script choices, json, dir⟩) t result t' := by
    rw [performInvocation, same]
    refine (ends_lift _ t).bind ?_
    rw [run_load]
    dsimp only
    rw [usable]
    exact ends json
  obtain ⟨transcript, ended⟩ := ends'.outcome
  refine ⟨transcript, ?_⟩
  rw [onTree, answer, asks]
  exact ended

/-! ## Next to the script

The name of the picture is that of the script with another extension. It differs from the name of
the script unless that has the extension already, and so do the names of its two siblings, which end
in extensions that no format has.
-/

variable {front : Path} {folder : List String} {name output : String} {format : ExportFormat}

/-- A picture that goes to the folder of another file needs no new folder. -/
theorem run_exportTo (named : IsName output) (accepts : Accepts (front.below name))
    (led : t.follow (start front) front.names = .ok (some folder)) (canvas : Canvas)
    (format : ExportFormat) :
    (canvas.exportTo (front.below output) format : Work Unit).run t =
      (Storage.replaceFile (front.below output) (canvas.encoded format) : Work Unit).run t := by
  have made : (Canvas.makeRoom (front.below output)).run t = (.ok (), t) := by
    rw [Canvas.makeRoom, Path.parent?_below named]
    show (if _ then _ else _ : Work Unit).run t = _
    split
    · rfl
    · exact FileTree.run_makeFolders (fun _ => accepts.clean_of_below)
        (FileTree.follow_clean.mpr led)
  rw [Canvas.exportTo_eq, Work.run_bind, made]

theorem isName_nameWith (name : String) (format : ExportFormat) :
    IsName (nameWith name format.name) := by
  apply Path.isName_append
  cases format <;> decide

/-- The picture of a script is not the script, nor is one of its siblings or what may be below them,
unless the script has the extension of the format. -/
theorem not_under_places (other : nameWith name format.name ≠ name) :
    ¬ Under (places folder (nameWith name format.name)) (folder ++ [name]) := by
  have notFresh : nameWith name format.name ++ ".tmp" ≠ name :=
    Path.nameWith_append_ne (by decide)
  have notBackup : nameWith name format.name ++ ".bak" ≠ name :=
    Path.nameWith_append_ne (by decide)
  rintro ⟨place, mem, start⟩
  have long : place.length = (folder ++ [name]).length := by
    simp only [places, List.mem_cons, List.not_mem_nil, or_false] at mem
    obtain rfl | rfl | rfl := mem <;> simp
  rw [start.eq_of_length long] at mem
  simp [places, other.symm, notFresh.symm, notBackup.symm] at mem

/-- What a run that is not told where to store its picture leaves of the tree: next to the script
only the picture and its siblings are new. A script that has the extension of the format is the old
picture, and goes to its backup. -/
structure Leaves (script : Path) (format : ExportFormat) (ending : Ending) (folder : List String)
    (name : String) (t t' : FileTree) : Prop where
  located : t.locate script = .ok (.entry folder name false)
  confined : Confined folder (nameWith name format.name) t t'
  keeps : script.extension? ≠ some format.name →
    t'.item? (folder ++ [name]) = t.item? (folder ++ [name])
  draws : ending = .success → ∃ canvas : Canvas,
    t'.item? (folder ++ [nameWith name format.name]) = some (.file (canvas.encoded format))
  same : script.extension? = some format.name → nameWith name format.name = name
  backs : script.extension? = some format.name → ending = .success →
    t.IsFree folder (name ++ ".bak") →
      t'.item? (folder ++ [name ++ ".bak"]) = t.item? (folder ++ [name])

theorem leaves_of_stores {result : Except Refusal Ending} {content : ByteArray}
    {exported : Except StoreError Unit} (canvas : Canvas) (read : t.read script = .ok content)
    (stored : (canvas.exportTo (script.withExtension format.name) format : Work Unit).run t =
      (exported, t')) (succeeds : shown result = .success → exported = .ok ()) :
    ∃ folder name, Leaves script format (shown result) folder name t t' := by
  -- the script is a file of the folder in which the picture is stored
  obtain ⟨folder, name, located, found⟩ := FileTree.read_eq_ok_iff.mp read
  obtain ⟨shown', led, whole⟩ := FileTree.entry_of_locate located
  have accepts : Accepts (script.front.below name) := by
    rw [whole rfl]
    exact (FileTree.exists_place_of_locate located).1
  have named := isName_nameWith name format
  rw [Path.withExtension_eq shown', run_exportTo named accepts led] at stored
  have confined := (FileTree.replacement_of_run stored).confined named led
  refine ⟨folder, name, located, confined, ?_, ?_, ?_, ?_⟩
  · -- the script stands under none of the names that may change
    intro other
    rw [Path.extension?_eq shown', ne_eq, ← Path.nameWith_eq_iff] at other
    exact confined.under _ (not_under_places other)
  · -- the picture is in the folder of the script, which is where its path leads
    intro ended
    rw [succeeds ended] at stored
    obtain ⟨-, ⟨folder', ready⟩, drawn⟩ :=
      FileTree.ready_of_replaceFile (Path.fileName?_below named) stored
    rw [Path.front_below named] at ready
    cases FileTree.follow_unique led (ready.led named)
    obtain ⟨_, _, located', found'⟩ := FileTree.read_eq_ok_iff.mp drawn
    cases ready.target.symm.trans located'
    exact ⟨canvas, FileTree.find?_eq_file_iff.mp found'⟩
  · -- with the extension of the format, the script has the name of the picture
    intro own
    rw [Path.extension?_eq shown', ← Path.nameWith_eq_iff] at own
    exact own
  · -- and then the backup is what stood under that name
    intro own ended backupFree
    rw [Path.extension?_eq shown', ← Path.nameWith_eq_iff] at own
    rw [succeeds ended, own] at stored
    have replaceable := FileTree.replaceable_of_replaceFile (Path.isName_of_fileName? shown') led
      (FileTree.isFree_of_find? found) backupFree stored
    obtain ⟨-, -, backup⟩ := replaceable.find?_replaced stored
    rw [FileTree.item?_concat, FileTree.item?_concat, backup, found]
    rfl

/-- A run that is not told where to store its picture changes nothing but the picture next to its
script and the two siblings of that, as long as no folder stands under its name. The script is kept
unless it has the extension of the picture; then the picture of a run that succeeds takes its
place. A run that fails before it draws leaves everything as it was. So does one that crashes, which
takes a canvas without addresses for its pixels or the greatest limit. -/
theorem run_keeps_inputs (runs : Runs env config words script choices)
    (untold : choices.out = none) :
    let format := runFormat config choices t
    let ending := (onTree env words t).1.ending
    let t' := (onTree env words t).2
    (ending = .failure ∧ t' = t) ∨
      (ending = .crash ∧ t' = t ∧ MayCrash (runSize config choices t) (runLimit config t)) ∨
      ∃ folder name, Leaves script format ending folder name t t' := by
  obtain ⟨result, ended, stores⟩ := runs.exists_stores t
  rw [untold, Option.getD_none] at stores
  dsimp only
  rw [ended]
  generalize (onTree env words t).2 = t' at stores ⊢
  cases stores with
  | nothing failed => exact .inl ⟨failed, rfl⟩
  | crash may => exact .inr (.inl ⟨rfl, rfl, may⟩)
  | picture canvas read stored succeeds =>
    exact .inr (.inr (leaves_of_stores canvas read stored succeeds))

/-- A command line that runs a file on one pixel. -/
def drawWords (file : String) : List String := ["run", file, "--size", "1"]

/-- The folder under the name of the picture moves away, and the script is kept. -/
theorem run_keeps_inputs_beside :
    (onTree ⟨none, none⟩ (drawWords "draw.pw")
      ⟨[("draw.pw", .file "Spawn(0,0)".toUTF8), ("draw.ppm", .folder [])]⟩).2.item? ["draw.pw"] =
        some (.file "Spawn(0,0)".toUTF8) := by
  have asks : Request.ofArguments (drawWords "draw.pw") =
      .ok (.invocation ⟨.run (.ofText "draw.pw") { size := some 1 }, false, none⟩) := by
    decide +kernel
  have runs : Runs ⟨none, none⟩ (.ofText ".pixel-walle") (drawWords "draw.pw") (.ofText "draw.pw")
      { size := some 1 } := ⟨false, none, asks, rfl⟩
  obtain ⟨-, same⟩ | ⟨-, same, -⟩ | ⟨folder, name, leaves⟩ := run_keeps_inputs
    (t := ⟨[("draw.pw", .file "Spawn(0,0)".toUTF8), ("draw.ppm", .folder [])]⟩) runs rfl
  · rw [same]
    rfl
  · rw [same]
    rfl
  · cases leaves.located
    exact leaves.keeps (by decide +kernel)

/-- The program that puts the robot on the first pixel. -/
def placed : Syntax.Program :=
  ⟨#[⟨.call (.command .spawn) [.number 0 ⟨6, 7, 1, 7⟩, .number 0 ⟨8, 9, 1, 9⟩], ⟨0, 10, 1, 1⟩⟩]⟩

theorem compile_placed : Script.compile "Spawn(0,0)" = .ok placed := by
  have lexed : Syntax.Lexer.lex "Spawn(0,0)" =
      ⟨[⟨.builtin (.command .spawn), ⟨0, 5, 1, 1⟩⟩, ⟨.sign .leftParen, ⟨5, 6, 1, 6⟩⟩,
        ⟨.number "0", ⟨6, 7, 1, 7⟩⟩, ⟨.sign .comma, ⟨7, 8, 1, 8⟩⟩, ⟨.number "0", ⟨8, 9, 1, 9⟩⟩,
        ⟨.sign .rightParen, ⟨9, 10, 1, 10⟩⟩, ⟨.eof, ⟨10, 10, 1, 11⟩⟩], []⟩ := by
    decide +kernel
  rw [Script.compile, Script.examine, lexed]
  -- on the digits this unfolds `≤`, by the equation that the import from the library brings
  cbv

theorem run_placed : Script.run "Spawn(0,0)" ⟨none, defaultMaxGoToVisits⟩ (Canvas.filled 1 .white) =
    ⟨.ok ⟨some ⟨0, 0⟩, .fresh, 1⟩, Canvas.filled 1 .white⟩ := by
  have result : (placed.run ⟨none, defaultMaxGoToVisits⟩ (Canvas.filled 1 .white)).result =
      .ok ⟨some ⟨0, 0⟩, .fresh, 1⟩ := by cbv
  have canvas : (placed.run ⟨none, defaultMaxGoToVisits⟩ (Canvas.filled 1 .white)).canvas =
      Canvas.filled 1 .white := by cbv
  rw [Script.run, compile_placed]
  dsimp only
  rw [result, canvas]
  rfl

/-- A script that has the extension of pictures is overwritten by its own picture. -/
theorem run_not_keeps_inputs :
    Request.ofArguments (drawWords "draw.ppm") =
      .ok (.invocation ⟨.run (.ofText "draw.ppm") { size := some 1 }, false, none⟩) ∧
    (onTree ⟨none, none⟩ (drawWords "draw.ppm")
      ⟨[("draw.ppm", .file "Spawn(0,0)".toUTF8)]⟩).2.item? ["draw.ppm"] =
        some (.file (Canvas.filled 1 .white).toPpm) ∧
    (Canvas.filled 1 .white).toPpm ≠ "Spawn(0,0)".toUTF8 := by
  have asks : Request.ofArguments (drawWords "draw.ppm") =
      .ok (.invocation ⟨.run (.ofText "draw.ppm") { size := some 1 }, false, none⟩) := by
    decide +kernel
  have unstored : ((Settings.stored (.ofText ".pixel-walle")
      ⟨[("draw.ppm", .file "Spawn(0,0)".toUTF8)]⟩).getD .default) = .default := by rfl
  have draws (json : Bool) : Ends (performRun (.ofText ".pixel-walle") .default json
      (.ofText "draw.ppm") { size := some 1 }) ⟨[("draw.ppm", .file "Spawn(0,0)".toUTF8)]⟩
      (.ok .success) ⟨[("draw.ppm.bak", .file "Spawn(0,0)".toUTF8),
        ("draw.ppm", .file (Canvas.filled 1 .white).toPpm)]⟩ := by
    have resolved : Theme.resolveBackground none "white" = some .white := by decide +kernel
    have made : freshCanvas? 1 .white = some (Canvas.filled 1 .white) := by rfl
    have drawn := congrArg Script.Outcome.result run_placed
    refine ends_performRun (by rfl) (by decide) (ends_pure none _) (by decide) resolved made
      drawn ?_
    show ((Script.run "Spawn(0,0)" ⟨none, defaultMaxGoToVisits⟩
      (Canvas.filled 1 .white)).canvas.exportTo (.ofText "draw.ppm") .ppm : Work Unit).run _ = _
    rw [run_placed]
    rfl
  have runs : Runs ⟨none, none⟩ (.ofText ".pixel-walle") (drawWords "draw.ppm") (.ofText "draw.ppm")
      { size := some 1 } := ⟨false, none, asks, rfl⟩
  obtain ⟨transcript, ended⟩ := runs.exists_onTree (by rw [unstored]; decide)
    (by rw [unstored]; exact draws)
  rw [ended]
  exact ⟨asks, rfl, by decide +kernel⟩

end BrushScript.CommandLine
