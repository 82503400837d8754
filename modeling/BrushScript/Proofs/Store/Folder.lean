import BrushScript.Store.FileTree

/-!
# Folders and files of a tree

Putting a file into a folder, or taking one out, changes what stands under its name and nothing else
of the folder (`find?_put`, `find?_erase`), and all folders of the tree stay folders
(`KeepsFolders`).

A tree is changed in one of its folders by rebuilding the way to it (`editIn`), so everything here
is an induction over the names that lead to a folder. To keep all folders is what later modules need
most: where a path leads depends on nothing but the folders. A file may be put where no folder
stands, and taken from there, without the loss of any (`keepsFolders_put`, `keepsFolders_erase`).
-/

namespace BrushScript

/-- A name that was removed is not found; every other name is found as before. -/
theorem Scope.find?_remove {α : Type} (name other : String) (bindings : List (String × α)) :
    Scope.find? other (Scope.remove name bindings) =
      if other = name then none else Scope.find? other bindings := by
  induction bindings with
  | nil => simp [Scope.remove, Scope.find?]
  | cons binding rest ih =>
    rw [Scope.remove, List.filter_cons]
    by_cases h : name = binding.1
    · -- the first binding is the one that is removed
      rw [if_neg (by simpa using h)]
      change Scope.find? other (Scope.remove name rest) = _
      rw [ih, Scope.find?]
      split
      · rfl
      · next different => rw [if_neg (by rwa [← h])]
    · -- the first binding stays
      rw [if_pos (by simpa using h), Scope.find?]
      change (if _ then _ else Scope.find? other (Scope.remove name rest)) = _
      rw [ih, Scope.find?]
      by_cases same : other = name
      · subst same
        simp [h]
      · simp [same]

namespace FileTree

variable {t t' : FileTree} {folder names : List String} {name : String}

/-! ## Entries

To look into a folder that was edited, or into one further in, is to look into the folder on the way
first.
-/

theorem folderIn_append (entries : Entries) (outer inner : List String) :
    folderIn entries (outer ++ inner) = (folderIn entries outer).bind (folderIn · inner) := by
  induction outer generalizing entries with
  | nil => rfl
  | cons name outer ih =>
    rw [List.cons_append, folderIn, folderIn]
    split
    · exact ih _
    · rfl

theorem folderIn_editIn (f : Entries → Entries) (entries : Entries) (folder : List String) :
    folderIn (editIn f entries folder) folder = (folderIn entries folder).map f := by
  induction folder generalizing entries with
  | nil => rfl
  | cons name folder ih =>
    rw [editIn]
    split
    · next inner found =>
      rw [folderIn, Scope.find?_replace, if_pos rfl, folderIn, found]
      exact ih inner
    · next other =>
      rw [folderIn]
      split
      · next found => exact absurd found (other _)
      · rfl

/-! ## Folders

What is a folder is asked of the names that lead to it. The names themselves may be any list; where
they lead nowhere there is no folder.
-/

/-- Names lead to a folder. -/
def IsFolder (t : FileTree) (names : List String) : Prop := (folderIn t.entries names).isSome = true

theorem isFolder_nil (t : FileTree) : t.IsFolder [] := rfl

theorem isFolder_concat_iff : t.IsFolder (names ++ [name]) ↔
    ∃ inner, t.find? names name = some (.folder inner) := by
  rw [IsFolder, folderIn_append, find?]
  cases folderIn t.entries names with
  | none => simp
  | some entries =>
    change (folderIn entries [name]).isSome = true ↔
      ∃ inner, Scope.find? name entries = some (.folder inner)
    rw [folderIn]
    split
    · next inner found => simp [found, folderIn]
    · next other =>
      simp only [Option.isSome_none, Bool.false_eq_true, false_iff]
      rintro ⟨inner, found⟩
      exact other inner found

theorem IsFolder.of_append {outer inner : List String} (h : t.IsFolder (outer ++ inner)) :
    t.IsFolder outer := by
  rw [IsFolder, folderIn_append] at h
  exact Option.isSome_of_isSome_bind h

/-- All folders of a tree are folders of another. -/
def KeepsFolders (t t' : FileTree) : Prop := ∀ names, t.IsFolder names → t'.IsFolder names

theorem KeepsFolders.refl (t : FileTree) : t.KeepsFolders t := fun _ h => h

theorem KeepsFolders.trans {t'' : FileTree} (first : t.KeepsFolders t')
    (second : t'.KeepsFolders t'') : t.KeepsFolders t'' := fun _ h => second _ (first _ h)

theorem keepsFolders_editIn {f : Entries → Entries}
    (keeps : ∀ entries, folderIn t.entries folder = some entries →
      ∀ name inner, Scope.find? name entries = some (.folder inner) →
        Scope.find? name (f entries) = some (.folder inner)) :
    t.KeepsFolders ⟨editIn f t.entries folder⟩ := by
  obtain ⟨entries⟩ := t
  intro names there
  unfold IsFolder at *
  dsimp only at *
  -- on the way to the edited folder each folder is bound again, and all others stay as they are
  induction folder generalizing entries names with
  | nil =>
    cases names with
    | nil => rfl
    | cons name names =>
      rw [folderIn] at there ⊢
      split at there
      · -- the way to the edited folder begins with this name
        next inner found =>
        rw [editIn, keeps entries rfl name inner found]
        exact there
      · cases there
  | cons first folder ih =>
    rw [editIn]
    split
    · next inner found =>
      cases names with
      | nil => rfl
      | cons name names =>
        rw [folderIn] at there ⊢
        rw [Scope.find?_replace]
        by_cases same : name = first
        · subst same
          rw [found] at there
          rw [if_pos rfl]
          refine ih inner (fun entries inside => keeps entries ?_) names there
          rw [folderIn, found]
          exact inside
        · rw [if_neg same]
          exact there
    · exact there

/-- The place of a name is no folder. -/
def IsFree (t : FileTree) (folder : List String) (name : String) : Prop :=
  ∀ inner, t.find? folder name ≠ some (.folder inner)

theorem find?_eq_of_folderIn {entries : Entries} (inside : folderIn t.entries folder = some entries)
    (name : String) : t.find? folder name = Scope.find? name entries := by
  rw [find?, inside]
  rfl

theorem keepsFolders_put (free : t.IsFree folder name) (node : Node) :
    t.KeepsFolders (t.put folder name node) := by
  refine keepsFolders_editIn fun entries inside other inner found => ?_
  rw [Scope.find?_replace, if_neg]
  · exact found
  · rintro rfl
    exact free inner (by rw [find?_eq_of_folderIn inside, found])

theorem keepsFolders_erase (free : t.IsFree folder name) :
    t.KeepsFolders (t.erase folder name) := by
  refine keepsFolders_editIn fun entries inside other inner found => ?_
  rw [Scope.find?_remove, if_neg]
  · exact found
  · rintro rfl
    exact free inner (by rw [find?_eq_of_folderIn inside, found])

/-- What is put under a name is found there, and all else of the folder as before. -/
theorem find?_put (there : t.IsFolder folder) (name other : String) (node : Node) :
    (t.put folder name node).find? folder other =
      if other = name then some node else t.find? folder other := by
  obtain ⟨entries, inside⟩ := Option.isSome_iff_exists.mp there
  have inside' : folderIn (t.put folder name node).entries folder =
      some (Scope.replace name node entries) := by
    rw [put, folderIn_editIn, inside]
    rfl
  rw [find?_eq_of_folderIn inside', find?_eq_of_folderIn inside, Scope.find?_replace]

/-- What is taken out is not found, and all else of the folder as before. -/
theorem find?_erase (there : t.IsFolder folder) (name other : String) :
    (t.erase folder name).find? folder other =
      if other = name then none else t.find? folder other := by
  obtain ⟨entries, inside⟩ := Option.isSome_iff_exists.mp there
  have inside' : folderIn (t.erase folder name).entries folder =
      some (Scope.remove name entries) := by
    rw [erase, folderIn_editIn, inside]
    rfl
  rw [find?_eq_of_folderIn inside', find?_eq_of_folderIn inside, Scope.find?_remove]

theorem IsFolder.erase (there : t.IsFolder folder) (name : String) :
    (t.erase folder name).IsFolder folder := by
  rw [IsFolder, FileTree.erase, folderIn_editIn, Option.isSome_map]
  exact there

end FileTree
end BrushScript
