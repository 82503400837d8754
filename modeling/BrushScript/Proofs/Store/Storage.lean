import BrushScript.Proofs.Store.Following
import BrushScript.Proofs.Store.Work

/-!
# Storing on a file tree

A file is replaced in three steps: a sibling is written, the old file moves out of the way if it
can, and the sibling takes its name. Whatever becomes of the second step, the file then has the new
content and can be replaced again (`ready_of_replaceFile`), and a file that can be replaced is
(`Ready.exists_replaceFile`). Folders that are there need not be made (`run_makeFolders`).

* `read_eq_ok_iff`, `write_eq_ok_iff`, `rename_eq_ok_iff`: when an operation on files succeeds, and
  what tree it makes;
* `run_replaceFile`: the three steps, as operations on the tree;
* `stash_cases`: what can become of the second step;
* `Ready`: the paths of a file and of its sibling lead to names of one folder, and no folder stands
  under either. It is kept by every step.

The paths of the siblings are made from that of the file, and each operation follows them anew. That
they all lead to the same folder is not a matter of how they are written: a path leads to one folder
at most, in whatever tree it is followed (`sibling_of_locate`).
-/

namespace BrushScript.FileTree

open BrushScript.Path (IsName below)

variable {t t' : FileTree} {folder : List String} {name other : String} {content : ByteArray}

/-! ## Operations on entries

Each operation locates its paths and then looks at what stands there. Reading and writing take paths
of entries without a slash behind them, and only folders may be renamed with one.
-/

/-- Only files can be read, by paths without a slash at their end. -/
theorem read_eq_ok_iff {p : Path} : t.read p = .ok content ↔ ∃ folder name,
    t.locate p = .ok (.entry folder name false) ∧ t.find? folder name = some (.file content) := by
  rw [read, lookup]
  constructor
  · intro found
    cases located : t.locate p with
    | error e =>
      rw [located] at found
      cases found
    | ok spot =>
      rw [located] at found
      change (t.nodeAt spot >>= _) = _ at found
      match spot with
      -- the root of the file system, or something above the known folders
      | .folder none => cases found
      | .folder (some names) => -- a folder
        rw [nodeAt] at found
        cases inside : folderIn t.entries names <;> rw [inside] at found <;> cases found
      | .entry folder name slash =>
        rw [nodeAt] at found
        cases node : t.find? folder name with
        | none =>
          rw [node] at found
          cases found
        | some node' =>
          rw [node] at found
          cases node' with
          | folder entries => cases found
          | file old =>
            cases slash with
            | true => cases found
            | false =>
              cases found
              exact ⟨folder, name, rfl, node⟩
  · rintro ⟨folder, name, located, found⟩
    rw [located]
    change (t.nodeAt (.entry folder name false) >>= _) = _
    rw [nodeAt, found]
    rfl

theorem write_eq_ok_iff {p : Path} (located : t.locate p = .ok (.entry folder name false)) :
    t.write p content = .ok t' ↔ t.IsFree folder name ∧ t' = t.put folder name (.file content) := by
  rw [write, located]
  dsimp only [bind, Except.bind]
  rw [if_neg Bool.false_ne_true]
  split
  · next inner found =>
    refine iff_of_false (by rintro ⟨⟩) ?_
    rintro ⟨free, -⟩
    exact free inner found
  · next other =>
    constructor
    · intro written
      exact ⟨fun inner found => other inner found, (Except.ok.inj written).symm⟩
    · rintro ⟨-, rfl⟩
      rfl

theorem exists_locate_of_write {p : Path} (written : t.write p content = .ok t') :
    ∃ spot, t.locate p = .ok spot := by
  rw [write] at written
  cases located : t.locate p with
  | ok spot => exact ⟨spot, rfl⟩
  | error e =>
    rw [located] at written
    cases written

/-- Only entries have other names. -/
theorem exists_entry_of_rename {p q : Path} (renamed : t.rename p q = .ok t') :
    (∃ folder name slash, t.locate p = .ok (.entry folder name slash)) ∧
      ∃ folder name slash, t.locate q = .ok (.entry folder name slash) := by
  rw [rename] at renamed
  cases source : t.locate p with
  | error e =>
    rw [source] at renamed
    cases renamed
  | ok spot =>
    cases target : t.locate q with
    | error e =>
      rw [source, target] at renamed
      cases renamed
    | ok spot' =>
      rw [source, target] at renamed
      cases spot with
      | folder names => cases spot' <;> cases renamed -- a folder that is known by its steps only
      | entry folder name slash =>
        cases spot' with
        | folder names => cases renamed
        | entry folder' name' slash' =>
          exact ⟨⟨folder, name, slash, rfl⟩, folder', name', slash', rfl⟩

theorem checkTarget_file_iff {target : Option Node} :
    checkTarget (.file content) target = .ok () ↔ ∀ inner, target ≠ some (.folder inner) := by
  match target with
  | none => exact ⟨fun _ => nofun, fun _ => rfl⟩
  | some (.file _) => exact ⟨fun _ => nofun, fun _ => rfl⟩
  | some (.folder inner) => exact ⟨nofun, fun free => absurd rfl (free inner)⟩

/-- An entry moves to another name of its folder; only a folder may be called by a path with a slash
at its end. -/
theorem rename_eq_ok_iff {p q : Path} {slash slash' : Bool}
    (source : t.locate p = .ok (.entry folder name slash))
    (target : t.locate q = .ok (.entry folder other slash')) (different : name ≠ other) :
    t.rename p q = .ok t' ↔ ∃ node, t.find? folder name = some node ∧
      (node.isFile = true → slash = false ∧ slash' = false) ∧
      checkTarget node (t.find? folder other) = .ok () ∧
      t' = (t.erase folder name).put folder other node := by
  have notInside (n : String) : (folder ++ [n]).isPrefixOf folder = false := by
    rw [Bool.eq_false_iff]
    intro inside
    have := (List.isPrefixOf_iff_prefix.mp inside).length_le
    rw [List.length_append, List.length_singleton] at this
    omega
  rw [rename, source, target]
  dsimp only [bind, Except.bind]
  cases found : t.find? folder name with
  | none => -- there is nothing to rename
    refine iff_of_false (by rintro ⟨⟩) ?_
    rintro ⟨node, ⟨⟩, -⟩
  | some node =>
    dsimp only
    by_cases slashed : node.isFile = true ∧ (slash = true ∨ slash' = true)
    · -- a file by the path of a folder
      rw [if_pos slashed]
      refine iff_of_false (by rintro ⟨⟩) ?_
      rintro ⟨_, ⟨⟩, plain, -⟩
      obtain ⟨rfl, rfl⟩ := plain slashed.1
      exact slashed.2.elim Bool.false_ne_true Bool.false_ne_true
    · -- an entry by a path that is right for it
      have plain : node.isFile = true → slash = false ∧ slash' = false := by
        intro file
        rw [not_and, not_or, Bool.not_eq_true, Bool.not_eq_true] at slashed
        exact slashed file
      rw [if_neg slashed, if_neg fun same => different same.2, notInside, notInside,
        if_neg Bool.false_ne_true, if_neg Bool.false_ne_true]
      cases allowed : checkTarget node (t.find? folder other) with
      | error e =>
        refine iff_of_false (by rintro ⟨⟩) ?_
        rintro ⟨_, ⟨⟩, -, allowed', -⟩
        cases allowed.symm.trans allowed'
      | ok =>
        constructor
        · intro moved
          exact ⟨node, rfl, plain, allowed, (Except.ok.inj moved).symm⟩
        · rintro ⟨_, ⟨⟩, -, -, rfl⟩
          rfl

/-! ## The steps of a replacement

The replacement of a file as it is written, brought into a form that speaks of trees only.
-/

/-- The tree with the old file moved out of the way, if that can be done. -/
def stash (t : FileTree) (p backup : Path) : FileTree :=
  if (t.kind p).isSome then
    match t.rename p backup with
    | .ok t' => t'
    | .error _ => t
  else t

theorem run_attempt_change (op : FileTree → Except FileError FileTree) (t : FileTree) :
    (Storage.attempt (change op) : Work Unit).run t = match op t with
      | .ok t' => (.ok (), t')
      | .error e => (.error (.file e), t) := by
  show (((change op).run t).1.mapError StoreError.file, ((change op).run t).2) = _
  unfold change
  dsimp only [StateT.run]
  cases op t <;> rfl

theorem run_stash (p backup : Path) (work : Work Unit) (t : FileTree) :
    (do
      if (← (Storage.kind p : StateM FileTree _)).isSome then
        let _ ← (Storage.rename p backup : StateM FileTree _)
      work : Work Unit).run t = work.run (t.stash p backup) := by
  rw [stash]
  change ((if (t.kind p).isSome then _ else work : Work Unit)).run t = _
  split
  · change work.run (change (fun t => t.rename p backup) t).2 = _
    rw [change]
    cases t.rename p backup <;> rfl
  · rfl

/-- The path of the sibling that a new file is written to. -/
def freshPath (front : Path) (name : String) : Path := front.clean.below (name ++ ".tmp")

/-- The path of the sibling that keeps an old file. -/
def backupPath (front : Path) (name : String) : Path := front.clean.below (name ++ ".bak")

/-- A file is replaced by writing a sibling and, whatever became of the old file, renaming it. -/
theorem run_replaceFile {p : Path} (shown : p.fileName? = some name) (content : ByteArray)
    (t : FileTree) : (Storage.replaceFile p content : Work Unit).run t =
      match t.write (freshPath p.front name) content with
      | .error e => (.error (.file e), t)
      | .ok t₁ =>
        let t₂ := t₁.stash p (backupPath p.front name)
        match t₂.rename (freshPath p.front name) p with
        | .ok t₃ => (.ok (), t₃)
        | .error e => (.error (.file e), t₂) := by
  have written : (Storage.attempt (Storage.write (p.front.clean.below (name ++ ".tmp")) content) :
      Work Unit).run t = match t.write (freshPath p.front name) content with
        | .ok t' => (.ok (), t')
        | .error e => (.error (.file e), t) := run_attempt_change _ t
  rw [Storage.replaceFile, shown]
  dsimp only
  rw [Path.withFileName_eq shown, Path.withFileName_eq shown, Work.run_bind, written]
  cases t.write (freshPath p.front name) content with
  | error e => rfl
  | ok t₁ =>
    dsimp only
    rw [run_stash]
    exact run_attempt_change (fun t => t.rename (freshPath p.front name) p) _

/-- A path without a file name is refused. -/
theorem run_replaceFile_of_none {p : Path} (none : p.fileName? = none) (content : ByteArray)
    (t : FileTree) : (Storage.replaceFile p content : Work Unit).run t =
      (.error (.invalid (.noFileName p)), t) := by
  rw [Storage.replaceFile, none]
  rfl

theorem exists_fileName_of_replaceFile {p : Path}
    (done : (Storage.replaceFile p content : Work Unit).run t = (.ok (), t')) :
    ∃ name, p.fileName? = some name := by
  cases shown : p.fileName? with
  | some name => exact ⟨name, rfl⟩
  | none =>
    rw [run_replaceFile_of_none shown] at done
    cases done

theorem run_replaceFile_eq_ok_iff {p : Path} (shown : p.fileName? = some name) :
    (Storage.replaceFile p content : Work Unit).run t = (.ok (), t') ↔
      ∃ t₁, t.write (freshPath p.front name) content = .ok t₁ ∧
        (t₁.stash p (backupPath p.front name)).rename (freshPath p.front name) p = .ok t' := by
  rw [run_replaceFile shown]
  constructor
  · intro done
    split at done
    · cases done
    · next t₁ written =>
      dsimp only at done
      split at done
      · next renamed =>
        cases done
        exact ⟨t₁, written, renamed⟩
      · cases done
  · rintro ⟨t₁, written, renamed⟩
    rw [written]
    dsimp only
    rw [renamed]

/-! ## Siblings

In the folder of a file its siblings have other names, and their paths lead to that folder too, in
every tree in which they lead anywhere.
-/

theorem follow_of_locate {p : Path} (named : IsName name) {slash : Bool}
    (located : t.locate (p.below name) = .ok (.entry folder name slash)) :
    t.follow (start p) p.names = .ok (some folder) := by
  obtain ⟨-, -, folder', led, same⟩ := (locate_below_iff named).mp located
  cases same
  exact led

theorem follow_clean {front : Path} {there : Option (List String)} :
    t.follow (start front.clean) front.clean.names = .ok there ↔
      t.follow (start front) front.names = .ok there := by
  rw [Path.names_clean]
  rfl

theorem isFolder_of_led {p : Path} (led : t.follow (start p) p.names = .ok (some folder)) :
    t.IsFolder folder :=
  stands_of_follow (t.stands_start p) led folder rfl

/-- In every tree in which a sibling is found, it is found in the same folder. -/
theorem sibling_of_locate {front : Path} {sibling : String} {spot : Spot} (named : IsName sibling)
    (led : t.follow (start front) front.names = .ok (some folder))
    (located : t'.locate (front.clean.below sibling) = .ok spot) :
    spot = .entry folder sibling false ∧
      t'.follow (start front) front.names = .ok (some folder) := by
  obtain ⟨-, -, folder', led', rfl⟩ := (locate_below_iff named).mp located
  rw [follow_clean] at led'
  cases follow_unique led led'
  exact ⟨rfl, led'⟩

theorem isName_fresh (name : String) : IsName (name ++ ".tmp") :=
  Path.isName_append name (by decide)

theorem isName_backup (name : String) : IsName (name ++ ".bak") :=
  Path.isName_append name (by decide)

theorem fresh_ne (name : String) : name ++ ".tmp" ≠ name := Path.append_ne_self name (by decide)

theorem backup_ne (name : String) : name ++ ".bak" ≠ name := Path.append_ne_self name (by decide)

theorem fresh_ne_backup (name : String) : name ++ ".tmp" ≠ name ++ ".bak" :=
  fun same => absurd (Path.append_right_cancel same) (by decide)

/-- Where the name of the sibling is not too long, that of the file is not. -/
theorem short_of_fresh (short : (name ++ ".tmp").utf8ByteSize ≤ nameLimit) :
    name.utf8ByteSize ≤ nameLimit := by
  rw [String.utf8ByteSize_append] at short
  exact Nat.le_trans (Nat.le_add_right _ _) short

theorem isFree_of_find? (found : t.find? folder name = some (.file content)) :
    t.IsFree folder name := by
  intro inner taken
  cases found.symm.trans taken

section

variable {p : Path} {t₀ : FileTree} (shown : p.fileName? = some name)
  (led : t₀.follow (start p.front) p.front.names = .ok (some folder))
include shown led

/-- Moving the old entry away changes nothing, or gives it the name of the backup. -/
theorem stash_cases : t.stash p (backupPath p.front name) = t ∨
    ∃ node slash, t.locate p = .ok (.entry folder name slash) ∧
      t.find? folder name = some node ∧ (node.isFile = true → slash = false) ∧
      checkTarget node (t.find? folder (name ++ ".bak")) = .ok () ∧
      t.stash p (backupPath p.front name) =
        (t.erase folder name).put folder (name ++ ".bak") node := by
  unfold stash
  split
  · -- the old entry may be renamed
    split
    · next renamed =>
      right
      obtain ⟨⟨folder', name', slash, source⟩, _, _, _, target⟩ := exists_entry_of_rename renamed
      obtain ⟨shown', led', -⟩ := entry_of_locate source
      cases shown.symm.trans shown'
      cases follow_unique led led'
      cases (sibling_of_locate (isName_backup name) led target).1
      obtain ⟨node, found, plain, allowed, same⟩ :=
        (rename_eq_ok_iff source target (backup_ne name).symm).mp renamed
      exact ⟨node, slash, source, found, fun file => (plain file).1, allowed, same⟩
    · exact .inl rfl
  · exact .inl rfl

theorem find?_stash (notName : other ≠ name) (notBackup : other ≠ name ++ ".bak") :
    (t.stash p (backupPath p.front name)).find? folder other = t.find? folder other := by
  obtain same | ⟨node, slash, source, -, -, -, same⟩ := stash_cases (t := t) shown led
  · rw [same]
  · have there := isFolder_of_led (entry_of_locate source).2.1
    rw [same, find?_put (there.erase name), if_neg notBackup, find?_erase there, if_neg notName]

theorem keepsFolders_stash (free : t.IsFree folder name) :
    t.KeepsFolders (t.stash p (backupPath p.front name)) ∧
      (t.stash p (backupPath p.front name)).IsFree folder name := by
  obtain same | ⟨node, slash, source, found, -, allowed, same⟩ := stash_cases (t := t) shown led
  · rw [same]
    exact ⟨.refl t, free⟩
  · have there := isFolder_of_led (entry_of_locate source).2.1
    rw [same]
    have backupFree : t.IsFree folder (name ++ ".bak") := by
      cases node with
      | file content => exact checkTarget_file_iff.mp allowed
      | folder entries => exact absurd found (free entries)
    refine ⟨(keepsFolders_erase free).trans (keepsFolders_put ?_ node), ?_⟩
    · intro inner taken
      rw [find?_erase there, if_neg (backup_ne name)] at taken
      exact backupFree inner taken
    · intro inner taken
      rw [find?_put (there.erase name), if_neg (backup_ne name).symm, find?_erase there,
        if_pos rfl] at taken
      cases taken

/-- A sibling that was written takes the place of a file, or of nothing, and its path is that of the
file without anything behind the name. -/
theorem of_rename_fresh (written : t.find? folder (name ++ ".tmp") = some (.file content))
    (renamed : t.rename (freshPath p.front name) p = .ok t') :
    p.front.below name = p ∧ t.locate (freshPath p.front name) =
        .ok (.entry folder (name ++ ".tmp") false) ∧
      t.locate p = .ok (.entry folder name false) ∧ t.IsFree folder name ∧
      t' = (t.erase folder (name ++ ".tmp")).put folder name (.file content) := by
  obtain ⟨⟨_, _, _, source⟩, folder', name', slash, target⟩ := exists_entry_of_rename renamed
  cases (sibling_of_locate (isName_fresh name) led source).1
  obtain ⟨shown', led', whole⟩ := entry_of_locate target
  cases shown.symm.trans shown'
  cases follow_unique led led'
  obtain ⟨node, found, plain, allowed, same⟩ :=
    (rename_eq_ok_iff source target (fresh_ne name)).mp renamed
  cases written.symm.trans found
  obtain ⟨-, rfl⟩ := plain rfl
  exact ⟨whole rfl, source, target, checkTarget_file_iff.mp allowed, same⟩

end

/-! ## Replacing

The steps from a tree in which a file can be replaced. Before each of them, the next can be taken.
-/

/-- A file can be replaced: its path and that of its sibling lead to names of one folder, under
which no folder stands. -/
structure Ready (t : FileTree) (front : Path) (name : String) (folder : List String) : Prop where
  target : t.locate (front.below name) = .ok (.entry folder name false)
  fresh : t.locate (freshPath front name) = .ok (.entry folder (name ++ ".tmp") false)
  targetFree : t.IsFree folder name
  freshFree : t.IsFree folder (name ++ ".tmp")

section

variable {front : Path} (named : IsName name)
include named

/-- A file can still be replaced where all folders have stayed and the two names are free. -/
theorem Ready.of_keepsFolders (ready : t.Ready front name folder) (keeps : t.KeepsFolders t')
    (targetFree : t'.IsFree folder name) (freshFree : t'.IsFree folder (name ++ ".tmp")) :
    t'.Ready front name folder where
  target := locate_below_of_keepsFolders named keeps ready.target
  fresh := locate_below_of_keepsFolders (isName_fresh name) keeps ready.fresh
  targetFree := targetFree
  freshFree := freshFree

theorem Ready.led (ready : t.Ready front name folder) :
    t.follow (start front) front.names = .ok (some folder) :=
  follow_of_locate named ready.target

theorem Ready.isFolder (ready : t.Ready front name folder) : t.IsFolder folder :=
  isFolder_of_led (ready.led named)

/-- What was written as the sibling becomes the file, which can be replaced again. -/
theorem Ready.exists_rename (ready : t.Ready front name folder)
    (written : t.find? folder (name ++ ".tmp") = some (.file content)) :
    ∃ t', t.rename (freshPath front name) (front.below name) = .ok t' ∧
      t'.Ready front name folder ∧ t'.read (front.below name) = .ok content := by
  have there := ready.isFolder named
  have erasedFree : (t.erase folder (name ++ ".tmp")).IsFree folder name := by
    intro inner taken
    rw [find?_erase there, if_neg (fresh_ne name).symm] at taken
    exact ready.targetFree inner taken
  have content' (n : String) :
      ((t.erase folder (name ++ ".tmp")).put folder name (.file content)).find? folder n =
        if n = name then some (.file content)
        else if n = name ++ ".tmp" then none else t.find? folder n := by
    rw [find?_put (there.erase _), find?_erase there]
  -- both names lose what stood under them before, so all folders stay
  have settled : ((t.erase folder (name ++ ".tmp")).put folder name (.file content)).Ready
      front name folder := by
    refine ready.of_keepsFolders named
      ((keepsFolders_erase ready.freshFree).trans (keepsFolders_put erasedFree _)) ?_ ?_
    · -- the name of the file has a file under it
      intro inner taken
      rw [content', if_pos rfl] at taken
      cases taken
    · -- the name of the sibling has nothing under it
      intro inner taken
      rw [content', if_neg (fresh_ne name), if_pos rfl] at taken
      cases taken
  refine ⟨_, (rename_eq_ok_iff ready.fresh ready.target (fresh_ne name)).mpr
    ⟨_, written, fun _ => ⟨rfl, rfl⟩, checkTarget_file_iff.mpr ready.targetFree, rfl⟩, settled, ?_⟩
  exact read_eq_ok_iff.mpr ⟨folder, name, settled.target, by rw [content', if_pos rfl]⟩

/-- A sibling can be written, and the file can be replaced then. -/
theorem Ready.write (ready : t.Ready front name folder) (content : ByteArray) :
    t.write (freshPath front name) content =
        .ok (t.put folder (name ++ ".tmp") (.file content)) ∧
      (t.put folder (name ++ ".tmp") (.file content)).Ready front name folder := by
  have there := ready.isFolder named
  refine ⟨(write_eq_ok_iff ready.fresh).mpr ⟨ready.freshFree, rfl⟩,
    ready.of_keepsFolders named (keepsFolders_put ready.freshFree _) ?_ ?_⟩
  · intro inner taken
    rw [find?_put there, if_neg (fresh_ne name).symm] at taken
    exact ready.targetFree inner taken
  · apply isFree_of_find?
    rw [find?_put there, if_pos rfl]

/-- Whatever becomes of the old file, the file can be replaced then. -/
theorem Ready.stash (ready : t.Ready front name folder)
    (written : t.find? folder (name ++ ".tmp") = some (.file content)) :
    (t.stash (front.below name) (backupPath front name)).Ready front name folder ∧
      (t.stash (front.below name) (backupPath front name)).find? folder (name ++ ".tmp") =
        some (.file content) := by
  have shown := Path.fileName?_below (p := front) named
  have led := ready.led named
  rw [← Path.front_below (p := front) named] at led
  have fresh := find?_stash (t := t) shown led (fresh_ne name) (fresh_ne_backup name)
  obtain ⟨keeps, free⟩ := keepsFolders_stash (t := t) shown led ready.targetFree
  rw [Path.front_below named] at fresh keeps free
  rw [written] at fresh
  exact ⟨ready.of_keepsFolders named keeps free (isFree_of_find? fresh), fresh⟩

/-- A file that can be replaced is replaced, whatever its new content is. -/
theorem Ready.exists_replaceFile (ready : t.Ready front name folder) (content : ByteArray) :
    ∃ t', (Storage.replaceFile (front.below name) content : Work Unit).run t = (.ok (), t') := by
  obtain ⟨written, ready₁⟩ := ready.write named content
  have fresh : (t.put folder (name ++ ".tmp") (.file content)).find? folder (name ++ ".tmp") =
      some (.file content) := by
    rw [find?_put (ready.isFolder named), if_pos rfl]
  obtain ⟨ready₂, fresh⟩ := ready₁.stash named fresh
  obtain ⟨t', renamed, -⟩ := ready₂.exists_rename named fresh
  refine ⟨t', (run_replaceFile_eq_ok_iff (Path.fileName?_below named)).mpr ?_⟩
  rw [Path.front_below named]
  exact ⟨_, written, renamed⟩

end

/-- What was written as the sibling is a file of the folder that the path leads to. -/
theorem of_write_fresh {p : Path} {t₁ : FileTree}
    (written : t.write (freshPath p.front name) content = .ok t₁) :
    ∃ folder, t.follow (start p.front) p.front.names = .ok (some folder) ∧
      t.locate (freshPath p.front name) = .ok (.entry folder (name ++ ".tmp") false) ∧
      t.IsFree folder (name ++ ".tmp") ∧
      t₁ = t.put folder (name ++ ".tmp") (.file content) ∧
      t₁.find? folder (name ++ ".tmp") = some (.file content) := by
  obtain ⟨spot, located⟩ := exists_locate_of_write written
  obtain ⟨-, -, folder, led, rfl⟩ := (locate_below_iff (isName_fresh name)).mp located
  rw [follow_clean] at led
  obtain ⟨free, rfl⟩ := (write_eq_ok_iff located).mp written
  refine ⟨folder, led, located, free, rfl, ?_⟩
  rw [find?_put (isFolder_of_led led), if_pos rfl]

/-- A file that was replaced has its new content and can be replaced again. Its path has nothing
behind the file name. -/
theorem ready_of_replaceFile {p : Path} (shown : p.fileName? = some name)
    (done : (Storage.replaceFile p content : Work Unit).run t = (.ok (), t')) :
    p.front.below name = p ∧ (∃ folder, t'.Ready p.front name folder) ∧
      t'.read p = .ok content := by
  obtain ⟨t₁, written, renamed⟩ := (run_replaceFile_eq_ok_iff shown).mp done
  -- the folder is found when the sibling is written, and is the same ever after
  obtain ⟨folder, led, -, -, -, fresh⟩ := of_write_fresh written
  have fresh' := find?_stash (t := t₁) shown led (fresh_ne name) (fresh_ne_backup name)
  rw [fresh] at fresh'
  generalize t₁.stash p (backupPath p.front name) = t₂ at *
  -- the last step could only be taken in a tree where a file can be replaced
  obtain ⟨whole, source, target, free, -⟩ := of_rename_fresh shown led fresh' renamed
  have ready : t₂.Ready p.front name folder :=
    ⟨by rw [whole]; exact target, source, free, isFree_of_find? fresh'⟩
  obtain ⟨t'', renamed', ready', content'⟩ :=
    ready.exists_rename (Path.isName_of_fileName? shown) fresh'
  rw [whole] at renamed' content'
  cases renamed.symm.trans renamed'
  exact ⟨whole, ⟨folder, ready'⟩, content'⟩

/-! ## Making folders

A folder is made by trying the paths from the outside in, from the first that is missing. If the
whole path leads to a folder, none is.
-/

theorem exists_nodeAt {spot : Spot} (same : spot.names? = some folder) (there : t.IsFolder folder) :
    ∃ entries, t.nodeAt spot = .ok (.folder entries) := by
  cases spot with
  | folder names =>
    cases same
    obtain ⟨entries, inside⟩ := Option.isSome_iff_exists.mp there
    exact ⟨entries, by rw [nodeAt, inside]⟩
  | entry outer name slash =>
    cases same
    obtain ⟨inner, found⟩ := isFolder_concat_iff.mp there
    exact ⟨inner, by rw [nodeAt, found]⟩

/-- A folder that is there cannot be made, and is seen to be one. -/
theorem makeFolder_of_isFolder {p : Path} {spot : Spot} (located : t.locate p = .ok spot)
    (same : spot.names? = some folder) (there : t.IsFolder folder) :
    t.makeFolder p = .error .alreadyExists ∧ t.kind p = some .folder := by
  constructor
  · -- another one cannot be made in its place
    rw [makeFolder, located]
    cases spot with
    | folder names => rfl
    | entry outer name slash =>
      cases same
      obtain ⟨inner, found⟩ := isFolder_concat_iff.mp there
      dsimp only [bind, Except.bind]
      rw [found]
  · -- and what stands there is a folder
    obtain ⟨entries, node⟩ := exists_nodeAt same there
    have found : t.lookup p = .ok (.folder entries) := by
      rw [lookup, located]
      exact node
    rw [kind, found]

/-- Making a folder that is there changes nothing. -/
theorem run_makeFolders {p : Path} (accepts : p.isEmpty = false → Accepts p)
    (led : t.follow (start p) p.names = .ok (some folder)) :
    (Storage.makeFolders p : Work Unit).run t = (.ok (), t) := by
  have none : (Storage.missingFolders p.ancestors : Work (List Path)).run t = (.ok [], t) := by
    obtain ⟨outer, same⟩ := p.exists_ancestors
    rw [same, Storage.missingFolders]
    cases shown : p.isEmpty with
    | true => rfl
    | false =>
      obtain ⟨spot, located, names⟩ := exists_locate shown (accepts shown) led
      obtain ⟨exists', isFolder⟩ :=
        makeFolder_of_isFolder located names (isFolder_of_led led)
      have refused : (Storage.makeFolder p : StateM FileTree _).run t =
          (.error .alreadyExists, t) := by
        change change (fun t => t.makeFolder p) t = _
        rw [change, exists']
      have seen : (Storage.kind p : StateM FileTree _).run t = (some .folder, t) := by
        change (t.kind p, t) = _
        rw [isFolder]
      rw [if_neg nofun, Work.run_bind, Work.run_lift, refused]
      dsimp only
      rw [Work.run_bind, Work.run_lift, seen]
      rfl
  rw [Storage.makeFolders, Work.run_bind, none]
  rfl

end BrushScript.FileTree
