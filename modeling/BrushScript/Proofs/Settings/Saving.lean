import BrushScript.Proofs.Settings.Stored
import BrushScript.Proofs.Store.Storage

/-!
# Saving settings

Settings that were saved are the settings that are loaded, and settings that no run could use are
not saved. Where settings can be saved once, they can be saved again and again (`CanStore`,
`stored_of_save`).

To save is to make the configuration folder and to replace the file in it, both of which may fail
for reasons that the tree alone decides. `CanStore` says that they do not fail, whatever the content
of the file. It is kept by saving, because the tree is then ready for the same replacement: the
folder is there, and the name of the file and those of its two siblings can be written to.

To load changes nothing (`run_load`), so `stored` is a function of the tree and can be spoken of
without running anything.
-/

namespace BrushScript.Settings

open FileTree (Accepts start)

variable {config : Path} {s : Settings} {t t' : FileTree}

/-- The settings that are loaded from a tree. -/
def stored (config : Path) (t : FileTree) : Option Settings :=
  ((load config : StateM FileTree (Option Settings)).run t).1

/-- The writes that saving needs can be carried out, whatever is written. -/
def CanStore (config : Path) (t : FileTree) : Prop :=
  ∀ content, ∃ t', (do
    Storage.makeFolders config
    Storage.replaceFile config.settingsFile content : Work Unit).run t = (.ok (), t')

theorem run_load_eq (config : Path) (t : FileTree) :
    (load config : StateM FileTree (Option Settings)).run t =
      (((Document.load (Document.ofOption ofJson?) config.settingsFile : Work Settings).run
        t).1.toOption, t) := by
  have same := Work.run_load_snd (Document.ofOption ofJson?) config.settingsFile t
  change _ = ((StateT.run (Document.load (Document.ofOption ofJson?)
    config.settingsFile : Work Settings).run t).1.toOption, t)
  rw [load, StateT.run_bind]
  change (StateT.run (Document.load (Document.ofOption ofJson?)
    config.settingsFile : Work Settings).run t).2 = t at same
  generalize StateT.run (Document.load (Document.ofOption ofJson?)
    config.settingsFile : Work Settings).run t = loaded at *
  obtain ⟨result, t'⟩ := loaded
  cases same
  cases result <;> rfl

/-- Loading changes nothing. -/
theorem run_load (config : Path) (t : FileTree) :
    (load config : StateM FileTree (Option Settings)).run t = (stored config t, t) := by
  rw [stored, run_load_eq]

/-! ## Where settings can be saved

The configuration folder is a path with any number of slashes at its end, while the folder of the
settings file is that path without them. Both lead to the same place.
-/

theorem isName_settings : Path.IsName "settings.json" := ⟨by decide, by decide⟩

/-- The folder of a file that can be reached is itself a path that can be followed. -/
theorem accepts_of_unslashed {name : String} (accepts : Accepts (config.unslashed.below name)) :
    Accepts config where
  noNul := by
    rw [Bool.eq_false_iff, ne_eq, List.any_eq_true]
    rintro ⟨segment, mem, nul⟩
    obtain rfl | mem := config.segments_subset_unslashed segment mem
    · exact absurd nul (by decide)
    · have noNul := Bool.eq_false_iff.mp accepts.noNul
      exact noNul (List.any_eq_true.mpr ⟨segment, List.mem_append_left _ mem, nul⟩)
  short := Nat.le_trans (config.utf8ByteSize_text_le name) accepts.short

theorem canStore_of_ready {folder : List String}
    (ready : t.Ready config.unslashed "settings.json" folder) : CanStore config t := by
  intro content
  obtain ⟨accepts, -⟩ := (FileTree.locate_below_iff isName_settings).mp ready.target
  have led : t.follow (start config) config.names = .ok (some folder) := by
    rw [← config.names_unslashed]
    exact FileTree.follow_of_locate isName_settings ready.target
  obtain ⟨t', done⟩ := ready.exists_replaceFile isName_settings content
  refine ⟨t', ?_⟩
  rw [Work.run_bind, FileTree.run_makeFolders (fun _ => accepts_of_unslashed accepts) led]
  exact done

/-! ## Saving

Nothing is written for settings with a problem. Otherwise what was written is read again.
-/

theorem run_save_of_problem {problem : InvalidProject} (unusable : s.problem? = some problem)
    (config : Path) (t : FileTree) :
    (s.save config : Work Unit).run t = (.error (.invalid problem), t) := by
  rw [save, unusable]
  rfl

theorem exists_save (usable : s.problem? = none) (can : CanStore config t) :
    ∃ t', (s.save config : Work Unit).run t = (.ok (), t') := by
  rw [save, usable]
  exact can _

/-- Settings that were saved are loaded again, and others can be saved after them. -/
theorem stored_of_save (done : (s.save config : Work Unit).run t = (.ok (), t')) :
    stored config t' = some s ∧ CanStore config t' := by
  rw [save] at done
  split at done
  · cases done
  · obtain ⟨_, t₁, -, done⟩ := Work.bind_eq_ok_iff.mp done
    rw [Document.save, Path.settingsFile_eq] at done
    obtain ⟨-, ⟨folder, ready⟩, content⟩ :=
      FileTree.ready_of_replaceFile (Path.fileName?_below isName_settings) done
    rw [Path.front_below isName_settings] at ready
    refine ⟨?_, canStore_of_ready ready⟩
    rw [← Path.settingsFile_eq] at content
    -- the file holds the text of the settings, and that is parsed to them
    have loaded := Work.run_load content s.parse_pretty
    rw [stored, run_load_eq, loaded]
    rfl

end BrushScript.Settings
