import BrushScript.Proofs.Store.Replacement

/-!
# What a failed replacement leaves

A replacement that fails before its first step has changed nothing. One that stops later leaves the
new sibling where it is (`LeavesSibling`), and a folder that stood at the path may be gone to the
name of the backup (`DisplacesFolder`). A file is safe: when it moves away, the sibling takes its
name (`leaves_of_stopped`).

The three steps do not undo each other. So what a failure leaves depends on how far the replacement
came, and `replaceFile_failed` reads it off: whether the sibling could be written decides whether
anything has changed, and if it has, the path is not one of a file. A path that goes on behind the
file name, as with a slash at its end, is found out by the last step only. If a folder stands there
it has been moved away by then, and stays away: `replaceFile_failed_changes`.
-/

namespace BrushScript.FileTree

variable {t t' t₁ : FileTree} {folder : List String} {name : String} {content : ByteArray}
  {p : Path}

/-- The new sibling stands next to what was there. -/
structure LeavesSibling (folder : List String) (name : String) (content : ByteArray)
    (t t' : FileTree) : Prop where
  sibling : t'.item? (folder ++ [name ++ ".tmp"]) = some (.file content)
  others : AgreeOutside (· ∈ [folder ++ [name ++ ".tmp"]]) t t'

/-- The new sibling is there, and a folder with all that is in it has gone from the path to the
name of the backup. -/
structure DisplacesFolder (folder : List String) (name : String) (content : ByteArray)
    (t t' : FileTree) : Prop where
  sibling : t'.item? (folder ++ [name ++ ".tmp"]) = some (.file content)
  wasFolder : t.IsFolder (folder ++ [name])
  moved : ∀ rest, t'.item? (folder ++ (name ++ ".bak") :: rest) = t.item? (folder ++ name :: rest)
  gone : ∀ rest, t'.item? (folder ++ name :: rest) = none
  others : AgreeOutside (Under (places folder name)) t t'

/-- Where the sibling can be written and the path leads to a name that no folder has, nothing stops
the replacement. -/
theorem ready_of_written (shown : p.fileName? = some name)
    (written : t.write (freshPath p.front name) content = .ok t₁) (whole : p.front.below name = p)
    (accepts : Accepts p) : ∃ folder,
      t.follow (start p.front) p.front.names = .ok (some folder) ∧
      (t.IsFree folder name → t.Ready p.front name folder) := by
  obtain ⟨folder, led, fresh, freshFree, -, -⟩ := of_write_fresh written
  refine ⟨folder, led, fun targetFree => ⟨?_, fresh, targetFree, freshFree⟩⟩
  have short := ((locate_below_iff (isName_fresh name)).mp fresh).2.1
  apply (locate_below_iff (Path.isName_of_fileName? shown)).mpr
  rw [whole]
  exact ⟨accepts, short_of_fresh short, folder, led, rfl⟩

/-- A replacement that stops after its first step has written the sibling, and has moved nothing
away but perhaps a folder: a file that moves away makes room for the sibling. -/
theorem leaves_of_stopped {e : FileError} (shown : p.fileName? = some name)
    (written : t.write (freshPath p.front name) content = .ok t₁)
    (failed : (t₁.stash p (backupPath p.front name)).rename (freshPath p.front name) p =
      .error e) : ∃ folder, t.follow (start p.front) p.front.names = .ok (some folder) ∧
        (LeavesSibling folder name content t (t₁.stash p (backupPath p.front name)) ∨
          DisplacesFolder folder name content t (t₁.stash p (backupPath p.front name))) := by
  have named := Path.isName_of_fileName? shown
  obtain ⟨folder, led, confined, sibling⟩ := confined_stash shown written
  obtain ⟨folder', led', fresh, free, put, found⟩ := of_write_fresh written
  cases led.symm.trans led'
  have there := isFolder_of_led led
  have sibling' : (t₁.stash p (backupPath p.front name)).item? (folder ++ [name ++ ".tmp"]) =
      some (.file content) := find?_eq_file_iff.mp sibling
  refine ⟨folder, led, ?_⟩
  obtain same | ⟨node, slash, source, target, plain, allowed, same⟩ :=
    stash_cases (t := t₁) shown led
  · -- the old entry stayed, so there is the sibling and nothing else
    left
    refine ⟨sibling', ?_⟩
    rw [same, put]
    exact agreeOutside_put_file there free content
  · cases node with
    | file old =>
      -- the path leads to the file, so the sibling can take its name
      obtain rfl := plain rfl
      have whole := (entry_of_locate source).2.2 rfl
      have ready : t₁.Ready p.front name folder := by
        refine ⟨by rw [whole]; exact source, ?_, isFree_of_find? target, isFree_of_find? found⟩
        rw [put]
        exact locate_below_of_keepsFolders (isName_fresh name) (keepsFolders_put free _) fresh
      obtain ⟨ready', found'⟩ := ready.stash named found
      obtain ⟨t₂, renamed, -⟩ := ready'.exists_rename named found'
      rw [whole] at renamed
      cases failed.symm.trans renamed
    | folder inner => -- a folder has moved away, with all that is in it
      right
      have there₁ := isFolder_of_led (entry_of_locate source).2.1
      have before : t.find? folder name = some (.folder inner) := by
        rw [put, find?_put there, if_neg (fresh_ne name).symm] at target
        exact target
      refine ⟨sibling', isFolder_concat_iff.mpr ⟨inner, before⟩, ?_, ?_, confined.under⟩
      · intro rest
        rw [item?_of_find? before, same]
        apply item?_of_find?
        rw [find?_put (there₁.erase name), if_pos rfl]
      · intro rest
        rw [same]
        apply item?_of_find?_none
        rw [find?_put (there₁.erase name), if_neg (backup_ne name).symm, find?_erase there₁,
          if_pos rfl]

/-- A replacement that fails before it begins has changed nothing. One that fails later leaves the
new sibling, and perhaps has displaced a folder; then the path is not that of a file: it goes on
behind the file name, is too long, or a folder stands there. -/
theorem replaceFile_failed {e : StoreError}
    (failed : (Storage.replaceFile p content : Work Unit).run t = (.error e, t')) :
    (¬ t.Begins p content → t' = t) ∧
    (t.Begins p content → ∃ folder name, p.fileName? = some name ∧
      t.follow (start p.front) p.front.names = .ok (some folder) ∧
      (LeavesSibling folder name content t t' ∨ DisplacesFolder folder name content t t') ∧
      (p.front.below name = p → Accepts p → t.IsFolder (folder ++ [name]))) := by
  cases replacement_of_run failed with
  -- no sibling was written
  | refused _ idle => exact ⟨fun _ => rfl, fun begins => absurd begins idle⟩
  | @stopped name t₁ e shown written stuck =>
    -- the sibling was written, and could not take the name
    refine ⟨fun idle => absurd ((begins_iff shown).mpr ⟨t₁, written⟩) idle, fun _ => ?_⟩
    obtain ⟨folder, led, left⟩ := leaves_of_stopped shown written stuck
    refine ⟨folder, name, shown, led, left, fun whole accepts => ?_⟩
    -- with a path of a file and no folder in its way, all three steps succeed
    apply Classical.byContradiction
    intro free
    obtain ⟨folder', led', ready⟩ := ready_of_written shown written whole accepts
    cases led.symm.trans led'
    have free' : t.IsFree folder name := by
      intro inner taken
      exact free (isFolder_concat_iff.mpr ⟨inner, taken⟩)
    obtain ⟨t₂, done⟩ := (ready free').exists_replaceFile (Path.isName_of_fileName? shown) content
    rw [whole, failed] at done
    cases done

/-- A folder, and a file under the name of its backup. -/
def blocked : FileTree :=
  ⟨[("d", .folder [("a", .file "old".toUTF8)]), ("d.bak", .file "older".toUTF8)]⟩

/-- The folder cannot move away, and the new sibling stays. -/
theorem replaceFile_failed_blocked :
    (Storage.replaceFile (.ofText "d") "new".toUTF8 : Work Unit).run blocked =
        (.error (.file .isAFolder), blocked.put [] "d.tmp" (.file "new".toUTF8)) ∧
      ∃ folder name, (Path.ofText "d").fileName? = some name ∧
        blocked.follow (start (Path.ofText "d").front) (Path.ofText "d").front.names =
          .ok (some folder) ∧
        (LeavesSibling folder name "new".toUTF8 blocked
            (blocked.put [] "d.tmp" (.file "new".toUTF8)) ∨
          DisplacesFolder folder name "new".toUTF8 blocked
            (blocked.put [] "d.tmp" (.file "new".toUTF8))) ∧
        ((Path.ofText "d").front.below name = Path.ofText "d" → Accepts (Path.ofText "d") →
          blocked.IsFolder (folder ++ [name])) := by
  have failed : (Storage.replaceFile (.ofText "d") "new".toUTF8 : Work Unit).run blocked =
      (.error (.file .isAFolder), blocked.put [] "d.tmp" (.file "new".toUTF8)) := by rfl
  exact ⟨failed, (replaceFile_failed failed).2 ⟨"d", by rfl, _, by rfl⟩⟩

/-- A slash behind the name of a folder stops the replacement when the folder is displaced
already. -/
theorem replaceFile_failed_changes :
    (Storage.replaceFile (.ofText "d/") "x".toUTF8 : Work Unit).run
        ⟨[("d", .folder [("a", .file "old".toUTF8)])]⟩ =
      (.error (.file .notAFolder),
        ⟨[("d.tmp", .file "x".toUTF8), ("d.bak", .folder [("a", .file "old".toUTF8)])]⟩) := by
  rfl

end BrushScript.FileTree
