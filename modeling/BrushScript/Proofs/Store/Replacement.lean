import BrushScript.Proofs.Store.Item
import BrushScript.Proofs.Store.Storage

/-!
# What replacing a file leaves

A replacement of a file goes one, two or three steps far (`Replacement`). However far it goes,
nothing changes but the file, the sibling with the new content and the backup, and what is below
them (`Replacement.confined`); where no folder stands at the path, the three names alone change.

A file whose path has all that a replacement needs (`Replaceable`) is replaced: it has the new
content, its old content is the backup, and it can be replaced again
(`Replaceable.exists_replaced`). So any number of replacements can follow each other, and the backup
then is what the last but one of them wrote (`Replaceable.exists_replaced_all`).

What a replacement needs is a folder that is there, paths that the file system takes, for the file
and for the sibling that is written first, and three names under which no folder stands. The name of
the sibling is longer than that of the file by four bytes, and a file whose own name is just within
the limit cannot be replaced: `replaceFile_not_replaces`.
-/

namespace BrushScript.FileTree

open BrushScript.Path (IsName below)

variable {t t' t₁ : FileTree} {folder : List String} {name : String} {content : ByteArray}
  {p front : Path}

/-! ## Steps

The steps depend on each other: without the sibling nothing happens, and what becomes of the old
file does not stop the last step. So a replacement has been refused, has stopped at its last step,
or is done.
-/

/-- The sibling of a file with the new content can be written. -/
def Begins (t : FileTree) (p : Path) (content : ByteArray) : Prop :=
  ∃ name, p.fileName? = some name ∧
    ∃ t₁, t.write (p.withFileName (name ++ ".tmp")) content = .ok t₁

/-- How far a replacement goes. -/
inductive Replacement (p : Path) (content : ByteArray) (t : FileTree) :
    Except StoreError Unit → FileTree → Prop
  | refused (e : StoreError) (idle : ¬ t.Begins p content) : Replacement p content t (.error e) t
  | stopped {name : String} {t₁ : FileTree} {e : FileError} (shown : p.fileName? = some name)
      (written : t.write (freshPath p.front name) content = .ok t₁)
      (failed : (t₁.stash p (backupPath p.front name)).rename (freshPath p.front name) p =
        .error e) :
      Replacement p content t (.error (.file e)) (t₁.stash p (backupPath p.front name))
  | done {name : String} {t₁ t₂ : FileTree} (shown : p.fileName? = some name)
      (written : t.write (freshPath p.front name) content = .ok t₁)
      (renamed : (t₁.stash p (backupPath p.front name)).rename (freshPath p.front name) p =
        .ok t₂) : Replacement p content t (.ok ()) t₂

theorem begins_iff (shown : p.fileName? = some name) : t.Begins p content ↔
    ∃ t₁, t.write (freshPath p.front name) content = .ok t₁ := by
  constructor
  · rintro ⟨name', shown', t₁, written⟩
    cases shown.symm.trans shown'
    rw [Path.withFileName_eq shown] at written
    exact ⟨t₁, written⟩
  · rintro ⟨t₁, written⟩
    refine ⟨name, shown, t₁, ?_⟩
    rw [Path.withFileName_eq shown]
    exact written

theorem replacement_of_run {result : Except StoreError Unit}
    (run : (Storage.replaceFile p content : Work Unit).run t = (result, t')) :
    Replacement p content t result t' := by
  cases shown : p.fileName? with
  | none => -- there is no file name
    rw [run_replaceFile_of_none shown] at run
    cases run
    apply Replacement.refused
    rintro ⟨name, shown', -⟩
    cases shown.symm.trans shown'
  | some name =>
    rw [run_replaceFile shown] at run
    split at run
    · -- the sibling cannot be written
      next refused =>
      cases run
      apply Replacement.refused
      intro begins
      obtain ⟨t₁, written⟩ := (begins_iff shown).mp begins
      cases refused.symm.trans written
    · next t₁ written =>
      dsimp only at run
      split at run
      · -- the sibling has taken the name of the file
        next renamed =>
        cases run
        exact .done shown written renamed
      · -- the sibling could not take the name
        next failed =>
        cases run
        exact .stopped shown written failed

/-! ## What can change

Each step is confined to two of the three places. A file shows at its own name alone, and only where
a folder moves away is there anything below a place.
-/

/-- The file, the sibling that is written and the backup. -/
def places (folder : List String) (name : String) : List (List String) :=
  [folder ++ [name], folder ++ [name ++ ".tmp"], folder ++ [name ++ ".bak"]]

/-- Nothing has changed but some places and what is below them, and where no folder stands at the
first of them, nothing is below. -/
structure Confined (folder : List String) (name : String) (t t' : FileTree) : Prop where
  under : AgreeOutside (Under (places folder name)) t t'
  exact : t.IsFree folder name → AgreeOutside (· ∈ places folder name) t t'

/-- Moving the old entry away changes its name and that of the backup. -/
theorem agreeOutside_stash {t₀ : FileTree} (shown : p.fileName? = some name)
    (led : t₀.follow (start p.front) p.front.names = .ok (some folder)) :
    AgreeOutside (Under [folder ++ [name], folder ++ [name ++ ".bak"]]) t
        (t.stash p (backupPath p.front name)) ∧
      (t.IsFree folder name → AgreeOutside (· ∈ [folder ++ [name], folder ++ [name ++ ".bak"]]) t
        (t.stash p (backupPath p.front name))) := by
  obtain same | ⟨node, slash, source, found, -, allowed, same⟩ := stash_cases (t := t) shown led
  · -- the old entry stayed where it was
    rw [same]
    exact ⟨.refl _ t, fun _ => .refl _ t⟩
  · have there := isFolder_of_led (entry_of_locate source).2.1
    rw [same]
    refine ⟨agreeOutside_move t folder name (name ++ ".bak") node, ?_⟩
    intro free
    -- where no folder stands, a file is what moves away
    cases node with
    | file old =>
      exact agreeOutside_move_file there found (checkTarget_file_iff.mp allowed)
        (backup_ne name).symm
    | folder inner => exact absurd found (free inner)

/-- Writing the sibling and moving the old entry away is confined to the three places. -/
theorem confined_stash (shown : p.fileName? = some name)
    (written : t.write (freshPath p.front name) content = .ok t₁) :
    ∃ folder, t.follow (start p.front) p.front.names = .ok (some folder) ∧
      Confined folder name t (t₁.stash p (backupPath p.front name)) ∧
      (t₁.stash p (backupPath p.front name)).find? folder (name ++ ".tmp") =
        some (.file content) := by
  obtain ⟨folder, led, -, free, put, found⟩ := of_write_fresh written
  have fresh : AgreeOutside (· ∈ [folder ++ [name ++ ".tmp"]]) t t₁ := by
    rw [put]
    exact agreeOutside_put_file (isFolder_of_led led) free content
  obtain ⟨under, exact'⟩ := agreeOutside_stash (t := t₁) shown led
  refine ⟨folder, led, ⟨?_, ?_⟩, ?_⟩
  · refine (fresh.mono ?_).trans (under.mono fun _ => Under.mono (by simp [places]))
    intro names mem
    exact (under_of_mem mem).mono (by simp [places])
  · intro free
    have free₁ : t₁.IsFree folder name := by
      rw [isFree_iff, fresh _ (by simpa using (fresh_ne name).symm)]
      exact isFree_iff.mp free
    exact (fresh.mono (by simp [places])).trans ((exact' free₁).mono (by simp +contextual [places]))
  · rw [find?_stash shown led (fresh_ne name) (fresh_ne_backup name), found]

/-- However far a replacement goes, it is confined to its three places. -/
theorem Replacement.confined {result : Except StoreError Unit} (named : IsName name)
    (led : t.follow (start front) front.names = .ok (some folder))
    (run : Replacement (front.below name) content t result t') : Confined folder name t t' := by
  have shown' := Path.fileName?_below (p := front) named
  cases run with
  | refused => exact ⟨.refl _ t, fun _ => .refl _ t⟩
  | stopped shown written failed =>
    cases shown'.symm.trans shown
    obtain ⟨folder', led', confined, -⟩ := confined_stash shown written
    rw [Path.front_below named] at led'
    cases led.symm.trans led'
    exact confined
  | @done _ t₁ t₂ shown written renamed =>
    cases shown'.symm.trans shown
    obtain ⟨folder', led', confined, found⟩ := confined_stash shown written
    -- in the last step the sibling moves, which is a file, to where no folder stands
    obtain ⟨-, -, target, free, rfl⟩ := of_rename_fresh shown led' found renamed
    have last := agreeOutside_move_file (isFolder_of_led (entry_of_locate target).2.1) found free
      (fresh_ne name)
    rw [Path.front_below named] at led'
    cases led.symm.trans led'
    constructor
    · refine confined.under.trans (last.mono ?_)
      intro names mem
      exact (under_of_mem mem).mono (by simp [places])
    · intro before
      exact (confined.exact before).trans (last.mono (by simp +contextual [places]))

/-! ## Replaced files

A file that can be replaced, what its replacement needs and what it leaves, in the order of its
steps: the sibling, the backup, the file.
-/

/-- What stands under a name, where the name is written without a slash behind it. -/
theorem kind_of_locate (located : t.locate p = .ok (.entry folder name false)) :
    t.kind p = (t.find? folder name).map fun node => if node.isFile then .file else .folder := by
  have node : t.lookup p = t.nodeAt (.entry folder name false) := by
    rw [lookup, located]
    rfl
  rw [kind, node, nodeAt]
  cases t.find? folder name with
  | none => rfl
  | some node => cases node <;> rfl

/-- A path of a file has all that its replacement needs: the folder that it names is there, the
file system takes it and that of the sibling, and no folder stands in the way. -/
structure Replaceable (t : FileTree) (front : Path) (name : String) (folder : List String) :
    Prop where
  named : IsName name
  led : t.follow (start front) front.names = .ok (some folder)
  accepts : Accepts (front.below name)
  acceptsFresh : Accepts (freshPath front name)
  short : (name ++ ".tmp").utf8ByteSize ≤ nameLimit
  free : ∀ other ∈ [name, name ++ ".tmp", name ++ ".bak"], t.IsFree folder other

/-- A file has been replaced: it has the new content, and nothing else is new but what is the
backup now. -/
structure Replaced (t t' : FileTree) (folder : List String) (name : String)
    (content : ByteArray) (backup : Option Item) : Prop where
  target : t'.item? (folder ++ [name]) = some (.file content)
  noFresh : t'.item? (folder ++ [name ++ ".tmp"]) = none
  backup : t'.item? (folder ++ [name ++ ".bak"]) = backup
  others : AgreeOutside (· ∈ places folder name) t t'

/-- The paths of the two siblings have the same length, and no more is asked of them. -/
theorem Accepts.backup (accepts : Accepts (freshPath front name)) :
    Accepts (backupPath front name) := by
  obtain ⟨noNul, short⟩ := accepts
  constructor
  · rw [freshPath, below, List.any_append] at noNul
    rw [backupPath, below, List.any_append]
    simpa [String.toList_append] using noNul
  · suffices same : (backupPath front name).text.utf8ByteSize =
        (freshPath front name).text.utf8ByteSize by
      rw [same]
      exact short
    unfold backupPath freshPath below Path.text
    dsimp only
    rw [String.utf8ByteSize_append, String.utf8ByteSize_append]
    congr 1
    by_cases none : front.clean.segments = []
    · rw [none]
      show (name ++ ".bak").utf8ByteSize = (name ++ ".tmp").utf8ByteSize
      rw [String.utf8ByteSize_append, String.utf8ByteSize_append]
      rfl
    · rw [String.intercalate_append_of_ne_nil none (List.cons_ne_nil _ _),
        String.intercalate_append_of_ne_nil none (List.cons_ne_nil _ _)]
      show (_ ++ _ ++ (name ++ ".bak")).utf8ByteSize = (_ ++ _ ++ (name ++ ".tmp")).utf8ByteSize
      simp only [String.utf8ByteSize_append]
      rfl

/-- A file that was replaced had all that it needs, if nothing stood in its way. -/
theorem replaceable_of_replaceFile (named : IsName name)
    (led : t.follow (start front) front.names = .ok (some folder)) (free : t.IsFree folder name)
    (backupFree : t.IsFree folder (name ++ ".bak"))
    (done : (Storage.replaceFile (front.below name) content : Work Unit).run t = (.ok (), t')) :
    t.Replaceable front name folder := by
  have shown := Path.fileName?_below (p := front) named
  obtain ⟨t₁, written, renamed⟩ := (run_replaceFile_eq_ok_iff shown).mp done
  obtain ⟨folder', led', fresh, freshFree, -, -⟩ := of_write_fresh written
  obtain ⟨-, folder'', name', slash, target⟩ := exists_entry_of_rename renamed
  rw [Path.front_below named] at led' fresh
  cases led.symm.trans led'
  obtain ⟨accepts, -⟩ := (locate_below_iff named).mp target
  obtain ⟨acceptsFresh, short, -⟩ := (locate_below_iff (isName_fresh name)).mp fresh
  refine ⟨named, led, accepts, acceptsFresh, short, ?_⟩
  intro other mem
  simp only [List.mem_cons, List.not_mem_nil, or_false] at mem
  obtain rfl | rfl | rfl := mem
  · exact free
  · exact freshFree
  · exact backupFree

namespace Replaceable

variable (h : t.Replaceable front name folder)
include h

theorem ready : t.Ready front name folder where
  target := (locate_below_iff h.named).mpr
    ⟨h.accepts, short_of_fresh h.short, folder, h.led, rfl⟩
  fresh := (locate_below_iff (isName_fresh name)).mpr
    ⟨h.acceptsFresh, h.short, folder, follow_clean.mpr h.led, rfl⟩
  targetFree := h.free name (by simp)
  freshFree := h.free (name ++ ".tmp") (by simp)

theorem locate_backup :
    t.locate (backupPath front name) = .ok (.entry folder (name ++ ".bak") false) := by
  have short := h.short
  rw [String.utf8ByteSize_append] at short
  refine (locate_below_iff (isName_backup name)).mpr
    ⟨h.acceptsFresh.backup, ?_, folder, follow_clean.mpr h.led, rfl⟩
  rw [String.utf8ByteSize_append]
  exact short

/-- All stays in place for a replacement as long as all folders stay and no other gets in the
way. -/
theorem of_keepsFolders (keeps : t.KeepsFolders t')
    (free : ∀ other ∈ [name, name ++ ".tmp", name ++ ".bak"], t'.IsFree folder other) :
    t'.Replaceable front name folder :=
  ⟨h.named, follow_of_keepsFolders keeps h.led, h.accepts, h.acceptsFresh, h.short, free⟩

/-- The old file becomes the backup. -/
theorem find?_stash_backup :
    (t.stash (front.below name) (backupPath front name)).find? folder (name ++ ".bak") =
      (t.find? folder name).or (t.find? folder (name ++ ".bak")) := by
  have there := isFolder_of_led h.led
  rw [stash, kind_of_locate h.ready.target]
  cases found : t.find? folder name with
  | none => rfl
  | some node =>
    cases node with
    -- a folder in the place of the file has been ruled out
    | folder inner => exact absurd found (h.free name (by simp) inner)
    | file old =>
      have renamed := (rename_eq_ok_iff h.ready.target h.locate_backup (backup_ne name).symm).mpr
        ⟨_, found, fun _ => ⟨rfl, rfl⟩,
          checkTarget_file_iff.mpr (h.free (name ++ ".bak") (by simp)), rfl⟩
      show (if true = true then _ else _ : FileTree).find? _ _ = _
      rw [if_pos rfl, renamed]
      dsimp only
      rw [find?_put (there.erase name), if_pos rfl]
      rfl

/-- The new sibling is in nobody's way. -/
theorem write_fresh (written : t.write (freshPath front name) content = .ok t₁) :
    t₁.Replaceable front name folder ∧ ∀ other, t₁.find? folder other =
      if other = name ++ ".tmp" then some (.file content) else t.find? folder other := by
  have put := ((write_eq_ok_iff h.ready.fresh).mp written).2
  have found (other : String) : t₁.find? folder other =
      if other = name ++ ".tmp" then some (.file content) else t.find? folder other := by
    rw [put, find?_put (isFolder_of_led h.led)]
  refine ⟨h.of_keepsFolders ?_ ?_, found⟩
  · rw [put]
    exact keepsFolders_put (h.free (name ++ ".tmp") (by simp)) _
  · intro other mem inner taken
    rw [found] at taken
    split at taken
    · cases taken
    · exact h.free other mem inner taken

/-- What stands in the folder when a file has been replaced. -/
theorem find?_replaced
    (done : (Storage.replaceFile (front.below name) content : Work Unit).run t = (.ok (), t')) :
    t'.find? folder name = some (.file content) ∧ t'.find? folder (name ++ ".tmp") = none ∧
      t'.find? folder (name ++ ".bak") =
        (t.find? folder name).or (t.find? folder (name ++ ".bak")) := by
  have shown := Path.fileName?_below (p := front) h.named
  have led := h.led
  obtain ⟨t₁, written, renamed⟩ := (run_replaceFile_eq_ok_iff shown).mp done
  rw [← Path.front_below (p := front) h.named] at led
  have stashed := find?_stash (t := t₁) shown led (fresh_ne name) (fresh_ne_backup name)
  obtain ⟨h₁, found⟩ : t₁.Replaceable front name folder ∧ ∀ other, t₁.find? folder other =
      if other = name ++ ".tmp" then some (.file content) else t.find? folder other := by
    rw [Path.front_below h.named] at written
    exact h.write_fresh written
  rw [found, if_pos rfl] at stashed
  obtain ⟨-, -, target, -, put⟩ := of_rename_fresh shown led stashed renamed
  rw [Path.front_below h.named] at put target
  -- the sibling takes the name of the file and leaves its own
  have moved (other : String) : t'.find? folder other =
      if other = name then some (.file content)
      else if other = name ++ ".tmp" then none
      else (t₁.stash (front.below name) (backupPath front name)).find? folder other := by
    have there := isFolder_of_led (follow_of_locate h.named target)
    rw [put, find?_put (there.erase _), find?_erase there]
  refine ⟨?_, ?_, ?_⟩
  · -- the file has the new content
    rw [moved, if_pos rfl]
  · -- the sibling is gone
    rw [moved, if_neg (fresh_ne name), if_pos rfl]
  · -- the backup is the old file, or what it was before if there was none
    rw [moved, if_neg (backup_ne name), if_neg (fresh_ne_backup name).symm,
      h₁.find?_stash_backup, found, if_neg (fresh_ne name).symm, found,
      if_neg (fresh_ne_backup name).symm]

/-- A file is replaced, and can be replaced again. -/
theorem exists_replaced (content : ByteArray) :
    ∃ t', (Storage.replaceFile (front.below name) content : Work Unit).run t = (.ok (), t') ∧
      t'.read (front.below name) = .ok content ∧
      t.Replaced t' folder name content
        ((t.item? (folder ++ [name])).or (t.item? (folder ++ [name ++ ".bak"]))) ∧
      t'.Replaceable front name folder := by
  obtain ⟨t', done⟩ := h.ready.exists_replaceFile h.named content
  have shown := Path.fileName?_below (p := front) h.named
  obtain ⟨target, noFresh, backup⟩ := h.find?_replaced done
  obtain ⟨-, ⟨folder', ready⟩, read⟩ := ready_of_replaceFile shown done
  rw [Path.front_below h.named] at ready
  have led := ready.led h.named
  cases follow_unique h.led led
  refine ⟨t', done, read, ⟨?_, ?_, ?_, ?_⟩, ⟨h.named, led, h.accepts, h.acceptsFresh, h.short, ?_⟩⟩
  · -- the file
    rw [item?_concat, target]
    rfl
  · -- the sibling
    rw [item?_concat, noFresh]
    rfl
  · -- the backup
    rw [item?_concat, backup, item?_concat, item?_concat]
    cases t.find? folder name <;> rfl
  · -- everything else
    exact ((replacement_of_run done).confined h.named h.led).exact (h.free name (by simp))
  · -- none of the three names is that of a folder now
    intro other mem inner taken
    simp only [List.mem_cons, List.not_mem_nil, or_false] at mem
    obtain rfl | rfl | rfl := mem
    · cases target.symm.trans taken
    · cases noFresh.symm.trans taken
    · rw [backup, Option.or_eq_some_iff] at taken
      obtain taken | ⟨-, taken⟩ := taken
      · exact h.free name (by simp) inner taken
      · exact h.free (name ++ ".bak") (by simp) inner taken

omit h in
/-- After several replacements of a file the backup is what the last but one wrote. -/
theorem exists_replaced_all (earlier : List ByteArray) (second last : ByteArray) {t : FileTree}
    (h : t.Replaceable front name folder) :
    ∃ t', ((earlier ++ [second, last]).forM fun content =>
        (Storage.replaceFile (front.below name) content : Work Unit)).run t = (.ok (), t') ∧
      t'.read (front.below name) = .ok last ∧
      t.Replaced t' folder name last (some (.file second)) := by
  induction earlier generalizing t with
  | nil => -- two replacements, the second of which makes the backup
    obtain ⟨t₁, first, -, replaced, h₁⟩ := h.exists_replaced second
    obtain ⟨t₂, run, read, replaced', -⟩ := h₁.exists_replaced last
    refine ⟨t₂, ?_, read, replaced'.target, replaced'.noFresh, ?_,
      replaced.others.trans replaced'.others⟩
    · rw [List.nil_append, Work.run_forM_cons first, Work.run_forM_cons run]
      rfl
    · rw [replaced'.backup, replaced.target]
      rfl
  | cons content earlier ih => -- another one before them
    obtain ⟨t₁, first, -, replaced, h₁⟩ := h.exists_replaced content
    obtain ⟨t₂, run, read, replaced'⟩ := ih h₁
    refine ⟨t₂, ?_, read, replaced'.target, replaced'.noFresh, replaced'.backup,
      replaced.others.trans replaced'.others⟩
    rw [List.cons_append, Work.run_forM_cons first]
    exact run

end Replaceable

/-- A file is replaced by its new content and keeps its predecessor as the backup, so that after
several replacements the backup is what the last but one wrote. -/
theorem replaceFile_replaces (h : t.Replaceable front name folder) :
    (∀ content, ∃ t',
      (Storage.replaceFile (front.below name) content : Work Unit).run t = (.ok (), t') ∧
      t'.read (front.below name) = .ok content ∧
      t.Replaced t' folder name content
        ((t.item? (folder ++ [name])).or (t.item? (folder ++ [name ++ ".bak"])))) ∧
    ∀ earlier second last, ∃ t',
      ((earlier ++ [second, last]).forM fun content =>
        (Storage.replaceFile (front.below name) content : Work Unit)).run t = (.ok (), t') ∧
      t'.read (front.below name) = .ok last ∧
      t.Replaced t' folder name last (some (.file second)) := by
  constructor
  · intro content
    obtain ⟨t', run, read, replaced, -⟩ := h.exists_replaced content
    exact ⟨t', run, read, replaced⟩
  · intro earlier second last
    exact Replaceable.exists_replaced_all earlier second last h

/-- A folder with an old file, its backup and an old sibling. -/
def shelf : FileTree :=
  ⟨[("out", .folder [("a", .file "old".toUTF8), ("a.tmp", .file "torn".toUTF8),
    ("a.bak", .file "older".toUTF8)])]⟩

/-- The old sibling is lost, and the old file becomes the backup in the place of the older one. -/
theorem replaceFile_replaces_shelf : shelf.Replaceable ⟨false, ["out"]⟩ "a" ["out"] ∧
    (∃ t', (Storage.replaceFile (.ofText "out/a") "new".toUTF8 : Work Unit).run shelf =
        (.ok (), t') ∧
      t'.read (.ofText "out/a") = .ok "new".toUTF8 ∧
      shelf.Replaced t' ["out"] "a" "new".toUTF8 (some (.file "old".toUTF8))) ∧
    ∃ t', (["new".toUTF8, "newer".toUTF8, "newest".toUTF8].forM fun content =>
        (Storage.replaceFile (.ofText "out/a") content : Work Unit)).run shelf = (.ok (), t') ∧
      t'.read (.ofText "out/a") = .ok "newest".toUTF8 ∧
      shelf.Replaced t' ["out"] "a" "newest".toUTF8 (some (.file "newer".toUTF8)) := by
  have h : shelf.Replaceable ⟨false, ["out"]⟩ "a" ["out"] := by
    refine ⟨⟨by decide, by decide⟩, rfl, ⟨by decide, by decide⟩, ⟨by decide, by decide⟩, by decide,
      ?_⟩
    intro other mem inner taken
    simp only [List.mem_cons, List.not_mem_nil, or_false] at mem
    obtain rfl | rfl | rfl := mem <;> cases taken
  exact ⟨h, (replaceFile_replaces h).1 _, (replaceFile_replaces h).2 ["new".toUTF8] _ _⟩

/-- No file whose name is within the limit, while that of its sibling is not, can be replaced. -/
theorem run_replaceFile_of_long (named : IsName name)
    (led : t.follow (start front) front.names = .ok (some folder))
    (accepts : Accepts (freshPath front name))
    (long : nameLimit < (name ++ ".tmp").utf8ByteSize) (content : ByteArray) :
    (Storage.replaceFile (front.below name) content : Work Unit).run t =
      (.error (.file .nameTooLong), t) := by
  have refused : t.write (freshPath front name) content = .error .nameTooLong := by
    rw [write, freshPath, locate_below_of_long (isName_fresh name) accepts
      (follow_clean.mpr led) long]
    rfl
  rw [run_replaceFile (Path.fileName?_below named), Path.front_below named, refused]

/-- A name with which files can be made. -/
def longName : String := String.ofList (List.replicate 252 'a')

theorem toList_longName : longName.toList = List.replicate 252 'a' := String.toList_ofList

/-- A file that could be written is not replaced, though nothing is in its way. -/
theorem replaceFile_not_replaces :
    empty.locate (below ⟨false, []⟩ longName) = .ok (.entry [] longName false) ∧
    (∃ t', empty.write (below ⟨false, []⟩ longName) "x".toUTF8 = .ok t') ∧
    (∀ other, empty.IsFree [] other) ∧
    (Storage.replaceFile (below ⟨false, []⟩ longName) "x".toUTF8 : Work Unit).run empty =
      (.error (.file .nameTooLong), empty) := by
  have named : IsName longName := ⟨by decide +kernel, by decide +kernel⟩
  have accepts : Accepts (below ⟨false, []⟩ longName) := by
    refine ⟨?_, by decide +kernel⟩
    show (longName.toList.contains '\x00' || false) = false
    rw [toList_longName]
    decide +kernel
  have acceptsFresh : Accepts (freshPath ⟨false, []⟩ longName) := by
    refine ⟨?_, by decide +kernel⟩
    show ((longName ++ ".tmp").toList.contains '\x00' || false) = false
    rw [String.toList_append, toList_longName]
    decide +kernel
  have located : empty.locate (below ⟨false, []⟩ longName) = .ok (.entry [] longName false) :=
    (locate_below_iff named).mpr ⟨accepts, by decide +kernel, [], rfl, rfl⟩
  refine ⟨located, ⟨_, (write_eq_ok_iff located).mpr ⟨nofun, rfl⟩⟩, fun _ => nofun, ?_⟩
  exact run_replaceFile_of_long named rfl acceptsFresh (by decide +kernel) _

end BrushScript.FileTree
