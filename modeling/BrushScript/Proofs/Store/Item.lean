import BrushScript.Proofs.Store.Folder

/-!
# What stands in a tree

A tree is looked at through its items: names that lead into it end at a folder, at a file with its
content, or at nothing (`item?`). What is put into a folder, and what is taken out of one, shows at
its own name and below it, and nowhere else (`agreeOutside_put`, `agreeOutside_erase`). A file has
nothing below it, so where no folder stands it shows at its own name alone (`agreeOutside_move`).

Two trees with the same items everywhere look the same, however their entries are arranged. So what
an operation leaves alone is said by `AgreeOutside`: the items are those of before, but for some
names. There are two grades of it. With `Under places` whatever is below a place may have changed as
well, which is what happens when a folder moves. With the places themselves nothing below them has
changed, which is the case if there is nothing below them before and after (`AgreeOutside.exact`).
-/

namespace BrushScript

/-- A folder, or a file with its content. -/
inductive Item where
  | folder
  | file (content : ByteArray)

namespace Node

/-- What a node is, whatever is in it if it is a folder. -/
def item : Node → Item
  | .file content => .file content
  | .folder _ => .folder

/-- What is in a folder. -/
def entries? : Node → Option Entries
  | .file _ => none
  | .folder entries => some entries

/-- The node that names lead to from a node. -/
def inside? : Node → List String → Option Node
  | node, [] => some node
  | node, name :: rest =>
    (node.entries?.bind (Scope.find? name)).bind fun inner => inner.inside? rest

theorem inside?_cons (node : Node) (name : String) (rest : List String) :
    node.inside? (name :: rest) =
      (node.entries?.bind (Scope.find? name)).bind fun inner => inner.inside? rest := rfl

theorem inside?_append (node : Node) (outer inner : List String) :
    node.inside? (outer ++ inner) = (node.inside? outer).bind fun next => next.inside? inner := by
  induction outer generalizing node with
  | nil => rfl
  | cons name outer ih =>
    rw [List.cons_append, inside?_cons, inside?_cons]
    cases node.entries?.bind (Scope.find? name) with
    | none => rfl
    | some next => exact ih next

end Node

namespace FileTree

variable {t t' t'' : FileTree} {folder names rest : List String} {name other : String}
  {node : Node} {content : ByteArray}

theorem folderIn_eq (entries : Entries) (names : List String) :
    folderIn entries names = ((Node.folder entries).inside? names).bind Node.entries? := by
  induction names generalizing entries with
  | nil => rfl
  | cons name names ih =>
    rw [folderIn, Node.inside?_cons]
    show _ = ((Scope.find? name entries).bind fun inner => inner.inside? names).bind Node.entries?
    cases Scope.find? name entries with
    | none => rfl
    | some node =>
      cases node with
      | file content => cases names <;> rfl
      | folder inner => exact ih inner

/-! ## Items

The item at some names is found by going down from the root. What stands below a name of a folder is
what is inside the node under that name, so items further down move along when the node moves.
-/

/-- What names lead to. -/
def item? (t : FileTree) (names : List String) : Option Item :=
  ((Node.folder t.entries).inside? names).map Node.item

/-- What is below a name of a folder is inside of what stands under the name. -/
theorem item?_below (t : FileTree) (folder : List String) (name : String) (rest : List String) :
    t.item? (folder ++ name :: rest) =
      (t.find? folder name).bind fun node => (node.inside? rest).map Node.item := by
  rw [item?, Node.inside?_append, find?, folderIn_eq]
  cases (Node.folder t.entries).inside? folder with
  | none => rfl
  | some outer =>
    show (outer.inside? (name :: rest)).map Node.item =
      (outer.entries?.bind (Scope.find? name)).bind _
    rw [Node.inside?_cons]
    cases outer.entries?.bind (Scope.find? name) <;> rfl

theorem item?_concat (t : FileTree) (folder : List String) (name : String) :
    t.item? (folder ++ [name]) = (t.find? folder name).map Node.item := by
  rw [item?_below]
  cases t.find? folder name <;> rfl

theorem item?_of_find? (found : t.find? folder name = some node) (rest : List String) :
    t.item? (folder ++ name :: rest) = (node.inside? rest).map Node.item := by
  rw [item?_below, found]
  rfl

theorem item?_of_find?_none (none : t.find? folder name = none) (rest : List String) :
    t.item? (folder ++ name :: rest) = .none := by
  rw [item?_below, none]
  rfl

theorem isFolder_iff : t.IsFolder names ↔ t.item? names = some .folder := by
  rw [IsFolder, folderIn_eq, item?]
  cases (Node.folder t.entries).inside? names with
  | none => simp
  | some node => cases node <;> simp [Node.item, Node.entries?]

theorem isFree_iff : t.IsFree folder name ↔ t.item? (folder ++ [name]) ≠ some .folder := by
  rw [ne_eq, ← isFolder_iff, isFolder_concat_iff, not_exists]
  rfl

theorem find?_eq_file_iff :
    t.find? folder name = some (.file content) ↔
      t.item? (folder ++ [name]) = some (.file content) := by
  rw [item?_concat]
  cases t.find? folder name with
  | none => simp
  | some node => cases node <;> simp [Node.item]

/-- Only folders have something below them. -/
theorem IsFree.item?_below (free : t.IsFree folder name) (more : rest ≠ []) :
    t.item? (folder ++ name :: rest) = none := by
  obtain ⟨first, rest, rfl⟩ := List.exists_cons_of_ne_nil more
  rw [FileTree.item?_below]
  cases found : t.find? folder name with
  | none => rfl
  | some node =>
    cases node with
    | file content => rfl
    | folder inner => exact absurd found (free inner)

/-! ## Trees that agree

The frame of an operation, and how frames are joined: one operation after another leaves alone what
both leave alone.
-/

/-- Two trees have the same items, but for some names. -/
def AgreeOutside (touched : List String → Prop) (t t' : FileTree) : Prop :=
  ∀ names, ¬ touched names → t'.item? names = t.item? names

/-- Names lead to one of some places, or below it. -/
def Under (places : List (List String)) (names : List String) : Prop :=
  ∃ place ∈ places, place <+: names

theorem AgreeOutside.refl (touched : List String → Prop) (t : FileTree) :
    AgreeOutside touched t t := fun _ _ => rfl

theorem AgreeOutside.trans {touched : List String → Prop} (first : AgreeOutside touched t t')
    (second : AgreeOutside touched t' t'') : AgreeOutside touched t t'' := by
  intro names apart
  rw [second names apart, first names apart]

theorem AgreeOutside.mono {touched touched' : List String → Prop}
    (agree : AgreeOutside touched t t') (more : ∀ names, touched names → touched' names) :
    AgreeOutside touched' t t' :=
  fun names apart => agree names fun mem => apart (more names mem)

theorem Under.mono {places places' : List (List String)} (more : places ⊆ places')
    (under : Under places names) : Under places' names := by
  obtain ⟨place, mem, start⟩ := under
  exact ⟨place, more mem, start⟩

theorem under_of_mem {places : List (List String)} (mem : names ∈ places) : Under places names :=
  ⟨names, mem, List.prefix_rfl⟩

/-- Where nothing is below the places, before and after, they alone have changed. -/
theorem AgreeOutside.exact {places : List (List String)} (agree : AgreeOutside (Under places) t t')
    (before : ∀ place ∈ places, ∀ rest ≠ [], t.item? (place ++ rest) = none)
    (after : ∀ place ∈ places, ∀ rest ≠ [], t'.item? (place ++ rest) = none) :
    AgreeOutside (· ∈ places) t t' := by
  intro names apart
  by_cases under : Under places names
  · obtain ⟨place, mem, rest, rfl⟩ := under
    have more : rest ≠ [] := by
      rintro rfl
      rw [List.append_nil] at apart
      exact apart mem
    rw [before place mem rest more, after place mem rest more]
  · exact agree names under

/-- A change to one name of a folder shows there and below, and nowhere else. -/
theorem agreeOutside_editIn {f : Entries → Entries} (t : FileTree) (folder : List String)
    (keeps : ∀ entries other, other ≠ name →
      Scope.find? other (f entries) = Scope.find? other entries) :
    AgreeOutside (Under [folder ++ [name]]) t ⟨editIn f t.entries folder⟩ := by
  obtain ⟨entries⟩ := t
  intro names outside
  have apart : ¬ folder ++ [name] <+: names := fun start =>
    outside ⟨_, List.mem_singleton.mpr rfl, start⟩
  clear outside
  unfold item?
  dsimp only
  induction folder generalizing entries names with
  | nil => -- the edited folder itself
    cases names with
    | nil => rfl
    | cons first names =>
      have different : first ≠ name := by
        rintro rfl
        exact apart ⟨names, rfl⟩
      rw [editIn, Node.inside?_cons, Node.inside?_cons]
      show ((Scope.find? first (f entries)).bind _).map _ = _
      rw [keeps entries first different]
      rfl
  | cons outer folder ih =>
    rw [editIn]
    split
    · -- on the way to the edited folder, which only one name continues
      next inner found =>
      cases names with
      | nil => rfl
      | cons first names =>
        rw [Node.inside?_cons, Node.inside?_cons]
        show ((Scope.find? first (Scope.replace _ _ entries)).bind _).map _ =
          ((Scope.find? first entries).bind _).map _
        rw [Scope.find?_replace]
        by_cases same : first = outer
        · subst same
          rw [if_pos rfl, found]
          apply ih
          intro start
          exact apart ((List.prefix_append_right_inj [first]).mpr start)
        · rw [if_neg same]
    · rfl

theorem agreeOutside_put (t : FileTree) (folder : List String) (name : String) (node : Node) :
    AgreeOutside (Under [folder ++ [name]]) t (t.put folder name node) := by
  apply agreeOutside_editIn
  intro entries other different
  rw [Scope.find?_replace, if_neg different]

theorem agreeOutside_erase (t : FileTree) (folder : List String) (name : String) :
    AgreeOutside (Under [folder ++ [name]]) t (t.erase folder name) := by
  apply agreeOutside_editIn
  intro entries other different
  rw [Scope.find?_remove, if_neg different]

/-- A node that moves in its folder shows at both its names. -/
theorem agreeOutside_move (t : FileTree) (folder : List String) (name other : String)
    (node : Node) : AgreeOutside (Under [folder ++ [name], folder ++ [other]]) t
      ((t.erase folder name).put folder other node) := by
  have taken := agreeOutside_erase t folder name
  have put := agreeOutside_put (t.erase folder name) folder other node
  exact (taken.mono fun _ => Under.mono (by simp)).trans (put.mono fun _ => Under.mono (by simp))

/-- A file where no folder stands shows at its name alone. -/
theorem agreeOutside_put_file (there : t.IsFolder folder) (free : t.IsFree folder name)
    (content : ByteArray) :
    AgreeOutside (· ∈ [folder ++ [name]]) t (t.put folder name (.file content)) := by
  apply (agreeOutside_put t folder name (.file content)).exact
  all_goals
    intro place mem rest more
    rw [List.mem_singleton] at mem
    rw [mem, List.append_assoc, List.singleton_append]
  · exact free.item?_below more
  · refine IsFree.item?_below ?_ more
    intro inner taken
    rw [find?_put there, if_pos rfl] at taken
    cases taken

/-- A file that moves to where no folder stands shows at its two names alone. -/
theorem agreeOutside_move_file (there : t.IsFolder folder)
    (found : t.find? folder name = some (.file content)) (free : t.IsFree folder other)
    (different : name ≠ other) : AgreeOutside (· ∈ [folder ++ [name], folder ++ [other]]) t
      ((t.erase folder name).put folder other (.file content)) := by
  apply (agreeOutside_move t folder name other (.file content)).exact
  all_goals
    intro place mem rest more
    simp only [List.mem_cons, List.not_mem_nil, or_false] at mem
    obtain rfl | rfl := mem
    all_goals
      rw [List.append_assoc, List.singleton_append]
      refine IsFree.item?_below ?_ more
      intro inner taken
  -- before the move nothing is below the file, and nothing below the name that it goes to
  · cases found.symm.trans taken
  · exact free inner taken
  · rw [find?_put (there.erase name), if_neg different, find?_erase there, if_pos rfl] at taken
    cases taken
  · rw [find?_put (there.erase name), if_pos rfl] at taken
    cases taken

end FileTree
end BrushScript
