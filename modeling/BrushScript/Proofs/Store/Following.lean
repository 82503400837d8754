import BrushScript.Proofs.Store.Folder
import BrushScript.Proofs.Store.Path

/-!
# Where paths lead

A path is followed name by name: a step to the parent leads out of a folder, every other name into
one of the tree (`Step`). What the steps keep, all of following keeps. So where a path leads depends
on the folders of the tree only: it leads to the same place as long as all folders stay
(`locate_below_of_keepsFolders`), and to no other place in any tree (`follow_unique`).

A path that is followed leads to a folder. To locate a path is to follow all of it but its last
name, which may be that of anything, or of nothing yet. What counts as the last name, and what a
slash behind it means, is decided on the segments of the path as they were written (`place`), before
any tree is looked at.

* `Step`, `follow_cons_iff`: following as a sequence of steps;
* `entry_of_locate`: a path that leads to an entry is a front, a name and perhaps a slash;
* `locate_below_iff`: the path of a name below another path leads into the folder of that path;
* `exists_locate`: a path that can be followed can be located as well.
-/

namespace BrushScript.FileTree

open BrushScript.Path (IsName below)

variable {t t' : FileTree} {name : String}

/-! ## Following

One step, and then any number of them. The folder above the one in which relative paths start is not
known, so a place is a list of names or unknown, and what is said of a place is said in case it is
known.
-/

/-- The folder around a folder. -/
def outerFolder : Option (List String) → Option (List String)
  | none => none
  | some names => if names = [] then none else some names.dropLast

/-- What following does with one name: a step to the parent leads out, every other name into a
folder of the tree. -/
inductive Step (t : FileTree) : Option (List String) → String → Option (List String) → Prop
  | out (here : Option (List String)) : Step t here ".." (outerFolder here)
  | into {names : List String} {name : String} (named : name ≠ "..")
      (short : name.utf8ByteSize ≤ nameLimit) (there : t.IsFolder (names ++ [name])) :
      Step t (some names) name (some (names ++ [name]))

theorem follow_cons_iff {here there : Option (List String)} {path : List String} :
    t.follow here (name :: path) = .ok there ↔
      ∃ next, t.Step here name next ∧ t.follow next path = .ok there := by
  constructor
  · intro led
    cases here with
    | none =>
      rw [follow] at led
      split at led
      · -- a step to the parent of a place that is not known
        next step =>
        subst step
        exact ⟨_, .out none, led⟩
      · cases led
    | some names =>
      rw [follow] at led
      split at led
      · -- a step to the parent
        next step =>
        subst step
        exact ⟨_, .out (some names), led⟩
      · -- a step into a folder of the tree
        next named =>
        split at led
        · cases led
        · next short =>
          split at led
          · cases led
          · cases led
          · next found =>
            exact ⟨_, .into named (Nat.not_lt.mp short) (isFolder_concat_iff.mpr ⟨_, found⟩), led⟩
  · rintro ⟨next, step, led⟩
    cases step with
    | out => cases here <;> exact led
    | into named short there =>
      obtain ⟨inner, found⟩ := isFolder_concat_iff.mp there
      rw [follow, if_neg named, if_neg (Nat.not_lt.mpr short), found]
      exact led

theorem follow_append_iff {here there : Option (List String)} {first second : List String} :
    t.follow here (first ++ second) = .ok there ↔
      ∃ middle, t.follow here first = .ok middle ∧ t.follow middle second = .ok there := by
  induction first generalizing here with
  | nil =>
    constructor
    · exact fun led => ⟨here, rfl, led⟩
    · rintro ⟨_, ⟨⟩, led⟩
      exact led
  | cons name first ih =>
    rw [List.cons_append, follow_cons_iff]
    constructor
    · rintro ⟨next, step, led⟩
      obtain ⟨middle, led, led'⟩ := ih.mp led
      exact ⟨middle, follow_cons_iff.mpr ⟨next, step, led⟩, led'⟩
    · rintro ⟨middle, led, led'⟩
      obtain ⟨next, step, led⟩ := follow_cons_iff.mp led
      exact ⟨next, step, ih.mpr ⟨middle, led, led'⟩⟩

/-- Names that may be known lead to a folder of the tree. -/
def Stands (t : FileTree) (here : Option (List String)) : Prop :=
  ∀ names, here = some names → t.IsFolder names

theorem Step.stands {here next : Option (List String)} (step : t.Step here name next)
    (stands : t.Stands here) : t.Stands next := by
  cases step with
  | out =>
    intro outer same
    cases here with
    | none => cases same
    | some names =>
      rw [outerFolder] at same
      split at same
      · cases same
      · next nonempty =>
        cases same
        have there := stands names rfl
        rw [← List.dropLast_concat_getLast nonempty] at there
        exact there.of_append
  | into named short there =>
    rintro _ ⟨⟩
    exact there

theorem Step.of_keepsFolders {here next : Option (List String)} (step : t.Step here name next)
    (keeps : t.KeepsFolders t') : t'.Step here name next := by
  cases step with
  | out => exact .out here
  | into named short there => exact .into named short (keeps _ there)

/-- Where a name leads does not depend on the tree, if it leads anywhere. -/
theorem Step.unique {here next next' : Option (List String)} (step : t.Step here name next)
    (step' : t'.Step here name next') : next = next' := by
  cases step with
  | out =>
    cases step' with
    | out => rfl
    | into named => exact absurd rfl named
  | into named =>
    cases step' with
    | out => exact absurd rfl named
    | into => rfl

theorem Step.of_ne {here next : Option (List String)} (step : t.Step here name next)
    (named : name ≠ "..") :
    ∃ outer, here = some outer ∧ name.utf8ByteSize ≤ nameLimit ∧ next = some (outer ++ [name]) := by
  cases step with
  | out => exact absurd rfl named
  | into _ short there => exact ⟨_, rfl, short, rfl⟩

/-- Following leads to folders of the tree. -/
theorem stands_of_follow {here there : Option (List String)} {path : List String}
    (stands : t.Stands here) (led : t.follow here path = .ok there) : t.Stands there := by
  induction path generalizing here with
  | nil =>
    cases led
    exact stands
  | cons name path ih =>
    obtain ⟨next, step, led⟩ := follow_cons_iff.mp led
    exact ih (step.stands stands) led

theorem follow_of_keepsFolders (keeps : t.KeepsFolders t') {here there : Option (List String)}
    {path : List String} (led : t.follow here path = .ok there) :
    t'.follow here path = .ok there := by
  induction path generalizing here with
  | nil => exact led
  | cons name path ih =>
    obtain ⟨next, step, led⟩ := follow_cons_iff.mp led
    exact follow_cons_iff.mpr ⟨next, step.of_keepsFolders keeps, ih led⟩

theorem follow_unique {here there there' : Option (List String)} {path : List String}
    (led : t.follow here path = .ok there) (led' : t'.follow here path = .ok there') :
    there = there' := by
  induction path generalizing here with
  | nil =>
    cases led
    cases led'
    rfl
  | cons name path ih =>
    obtain ⟨next, step, led⟩ := follow_cons_iff.mp led
    obtain ⟨next', step', led'⟩ := follow_cons_iff.mp led'
    cases step.unique step'
    exact ih led led'

/-! ## Locating

From following to locating. A path is refused for its form before it is followed, and the form does
not depend on the tree (`Accepts`).
-/

/-- The folder in which a path starts. -/
def start (p : Path) : Option (List String) := if p.absolute then none else some []

theorem stands_start (t : FileTree) (p : Path) : t.Stands (start p) := by
  intro names same
  unfold start at same
  split at same
  · cases same
  · cases same
    exact t.isFolder_nil

/-- A path has a form in which it can be followed. -/
structure Accepts (p : Path) : Prop where
  noNul : (p.segments.any fun s => s.toList.contains '\x00') = false
  short : p.text.utf8ByteSize ≤ pathLimit

/-- The folder of a file that can be reached is itself a path that can be followed. -/
theorem Accepts.clean_of_below {p : Path} (accepts : Accepts (p.below name)) :
    Accepts p.clean := by
  obtain ⟨noNul, short⟩ := accepts
  obtain ⟨rest, whole⟩ := p.trimmed_prefix
  have segments : (p.below name).segments = p.trimmed ++ (rest ++ [name]) := by
    rw [← List.append_assoc, whole]
    rfl
  constructor
  · rw [segments, List.any_append, Bool.or_eq_false_iff] at noNul
    exact noNul.1
  · refine Nat.le_trans ?_ short
    unfold Path.text
    rw [segments, String.utf8ByteSize_append, String.utf8ByteSize_append]
    exact Nat.add_le_add_left (Path.utf8ByteSize_intercalate_append_le _ _) _

/-- The segments of a path without empty ones at its end. -/
def solid (p : Path) : List String := (p.segments.reverse.dropWhile (· = "")).reverse

/-- Where a path leads that has a form in which it can be followed. -/
def place (t : FileTree) (p : Path) : Except FileError Spot :=
  match (solid p).getLast? with
  | none => .ok (.folder (start p))
  | some last =>
    if Path.isIdle last ∨ last = ".." then do
      return .folder (← t.follow (start p) ((solid p).filter fun s => !Path.isIdle s))
    else do
      match ← t.follow (start p) ((solid p).dropLast.filter fun s => !Path.isIdle s) with
      | none => .error .notFound
      | some folder =>
        if nameLimit < last.utf8ByteSize then .error .nameTooLong
        else return .entry folder last ((solid p).length < p.segments.length)

theorem locate_of_accepts {p : Path} (shown : p.isEmpty = false) (accepts : Accepts p) :
    t.locate p = t.place p := by
  rw [locate, accepts.noNul, if_neg nofun, if_neg (by rw [shown]; exact nofun),
    if_neg (Nat.not_lt.mpr accepts.short)]
  rfl

theorem locate_eq_ok_iff {p : Path} (shown : p.isEmpty = false) {spot : Spot} :
    t.locate p = .ok spot ↔ Accepts p ∧ t.place p = .ok spot := by
  constructor
  · intro located
    unfold locate at located
    split at located
    · cases located
    · next noNul =>
      split at located
      · next empty => exact absurd empty (by rw [shown]; exact nofun)
      · split at located
        · cases located
        · next short => exact ⟨⟨Bool.eq_false_iff.mpr noNul, Nat.not_lt.mp short⟩, located⟩
  · rintro ⟨accepts, placed⟩
    rw [locate_of_accepts shown accepts]
    exact placed

theorem exists_place_of_locate {p : Path} {spot : Spot} (located : t.locate p = .ok spot) :
    Accepts p ∧ t.place p = .ok spot := by
  cases shown : p.isEmpty with
  | false => exact (locate_eq_ok_iff shown).mp located
  | true =>
    unfold locate at located
    split at located <;> cases located

theorem solid_below (p : Path) (named : IsName name) :
    solid (p.below name) = p.segments ++ [name] := by
  rw [solid, below, List.reverse_concat,
    List.dropWhile_cons_of_neg (by simpa using named.ne_empty), ← List.reverse_concat,
    List.reverse_reverse]

theorem filter_solid (p : Path) : ((solid p).filter fun s => !Path.isIdle s) = p.names :=
  Path.filter_dropWhile (fun s empty => by simp_all [Path.isIdle]) p.segments

/-- Where the last segment is a name, no more segments are idle than those that are empty. -/
theorem trimmed_eq_solid {p : Path} {last : String} (found : (solid p).getLast? = some last)
    (shown : Path.isIdle last = false) : p.trimmed = solid p := by
  have first : (p.segments.reverse.dropWhile (· = "")).head? = some last := by
    rw [← List.getLast?_reverse]
    exact found
  obtain ⟨more, same⟩ := List.head?_eq_some_iff.mp first
  have idle : ∀ s ∈ p.segments.reverse.takeWhile (· = ""), Path.isIdle s = true := by
    intro s mem
    have empty : s = "" := by simpa using List.all_eq_true.mp List.all_takeWhile s mem
    rw [empty]
    rfl
  have kept : p.segments.reverse.dropWhile Path.isIdle =
      -- empty segments are idle, so dropping idle segments drops the empty ones first, and then
      -- nothing
      p.segments.reverse.dropWhile (· = "") := by
    calc p.segments.reverse.dropWhile Path.isIdle
        = (p.segments.reverse.takeWhile (· = "") ++
            p.segments.reverse.dropWhile (· = "")).dropWhile Path.isIdle := by
          rw [List.takeWhile_append_dropWhile]
      _ = (p.segments.reverse.dropWhile (· = "")).dropWhile Path.isIdle :=
          List.dropWhile_append_of_pos idle
      _ = p.segments.reverse.dropWhile (· = "") := by
          rw [same, List.dropWhile_cons_of_neg (by rw [shown]; exact nofun)]
  have some : solid p ≠ [] := by
    intro none
    rw [none] at found
    cases found
  unfold Path.trimmed
  rw [kept]
  exact if_neg fun none => some none.1

/-- A path that leads to an entry has its name as file name, and leads there by the segments before
it; where no slash is behind the name, these and the name are the whole path. -/
theorem entry_of_locate {p : Path} {folder : List String} {slash : Bool}
    (located : t.locate p = .ok (.entry folder name slash)) :
    p.fileName? = some name ∧ t.follow (start p.front) p.front.names = .ok (some folder) ∧
      (slash = false → p.front.below name = p) := by
  have placed := (exists_place_of_locate located).2
  unfold place at placed
  split at placed
  · cases placed
  · next last found =>
    split at placed
    · -- the path ends in a step, so it leads to a folder
      cases led : t.follow (start p) ((solid p).filter fun s => !Path.isIdle s) <;>
        rw [led] at placed <;> cases placed
    · next named =>
      rw [not_or, Bool.not_eq_true] at named
      have same := trimmed_eq_solid found named.1
      obtain ⟨before, whole⟩ := List.getLast?_eq_some_iff.mp found
      have front : p.front = ⟨p.absolute, before⟩ := by
        rw [Path.front, same, whole, List.dropLast_concat]
      rw [whole, List.dropLast_concat] at placed
      cases led : t.follow (start p) (before.filter fun s => !Path.isIdle s) with
      | error e =>
        rw [led] at placed
        cases placed
      | ok there =>
        rw [led] at placed
        cases there with
        | none => cases placed
        | some outer =>
          change (if nameLimit < last.utf8ByteSize then _ else _) = _ at placed
          split at placed
          · cases placed
          · cases placed
            -- in a known folder the name is looked at, and how long it is
            refine ⟨?_, ?_, ?_⟩
            · rw [Path.fileName?, same, whole, List.getLast?_concat]
              have notDot : name ≠ "." := by
                rintro rfl
                exact absurd named.1 (by decide)
              exact if_neg fun step => step.elim notDot named.2
            · rw [front]
              exact led
            · -- without a slash no segment is dropped at the end
              intro whole'
              have long : p.segments.length ≤ (solid p).length := by
                rw [whole]
                simpa using whole'
              have start : solid p <+: p.segments := by
                rw [← List.reverse_suffix, solid, List.reverse_reverse]
                exact List.dropWhile_suffix _
              have all := start.eq_of_length_le long
              rw [front, Path.below, ← whole, all]

theorem isEmpty_below (p : Path) (named : IsName name) : (p.below name).isEmpty = false := by
  simp [Path.isEmpty, below, named.ne_empty]

/-- A path below another leads to a name in the folder that the other leads to. -/
theorem place_below (p : Path) (named : IsName name) : t.place (p.below name) = do
    match ← t.follow (start p) p.names with
    | none => .error .notFound
    | some folder =>
      if nameLimit < name.utf8ByteSize then .error .nameTooLong
      else return .entry folder name false := by
  have last : ¬ (Path.isIdle name = true ∨ name = "..") := by
    rw [named.notIdle]
    exact fun step => step.elim Bool.false_ne_true named.notStep
  have same : ¬ (p.segments ++ [name]).length < (p.below name).segments.length := by
    rw [below]
    exact Nat.lt_irrefl _
  rw [place, solid_below p named, List.getLast?_concat]
  dsimp only
  rw [if_neg last, List.dropLast_concat, decide_eq_false same]
  rfl

/-- The path of an entry leads to its name in the folder that the segments before it lead to. -/
theorem locate_below_iff {p : Path} (named : IsName name) {spot : Spot} :
    t.locate (p.below name) = .ok spot ↔ Accepts (p.below name) ∧ name.utf8ByteSize ≤ nameLimit ∧
      ∃ folder, t.follow (start p) p.names = .ok (some folder) ∧
        spot = .entry folder name false := by
  rw [locate_eq_ok_iff (isEmpty_below p named), place_below p named]
  refine and_congr_right fun _ => ?_
  constructor
  · intro placed
    -- the folder is missing, is no folder, or takes the name
    cases led : t.follow (start p) p.names with
    | error e =>
      rw [led] at placed
      cases placed
    | ok there =>
      rw [led] at placed
      cases there with
      | none => cases placed
      | some folder =>
        change (if nameLimit < name.utf8ByteSize then _ else _) = _ at placed
        split at placed
        · -- the name is too long
          cases placed
        · next short =>
          cases placed
          exact ⟨Nat.not_lt.mp short, folder, rfl, rfl⟩
  · rintro ⟨short, folder, led, rfl⟩
    rw [led]
    change (if nameLimit < name.utf8ByteSize then _ else _) = _
    rw [if_neg (Nat.not_lt.mpr short)]
    rfl

/-- A name that is too long is refused, wherever its path leads. -/
theorem locate_below_of_long {p : Path} {folder : List String} (named : IsName name)
    (accepts : Accepts (p.below name)) (led : t.follow (start p) p.names = .ok (some folder))
    (long : nameLimit < name.utf8ByteSize) : t.locate (p.below name) = .error .nameTooLong := by
  rw [locate_of_accepts (isEmpty_below p named) accepts, place_below p named, led]
  change (if nameLimit < name.utf8ByteSize then _ else _) = _
  rw [if_pos long]

/-- The names of where a spot is. -/
def Spot.names? : Spot → Option (List String)
  | .folder names => names
  | .entry outer name _ => some (outer ++ [name])

/-- The path of a folder leads to it, as an entry or by its last step. -/
theorem exists_locate {p : Path} (shown : p.isEmpty = false) (accepts : Accepts p)
    (led : t.follow (start p) p.names = .ok (some folder)) :
    ∃ spot, t.locate p = .ok spot ∧ spot.names? = some folder := by
  have placed : ∃ spot, t.place p = .ok spot ∧ spot.names? = some folder := by
    rw [place]
    cases found : (solid p).getLast? with
    | none =>
      have names := filter_solid p
      rw [List.getLast?_eq_none_iff.mp found] at names
      rw [← names] at led
      exact ⟨_, rfl, Except.ok.inj led⟩
    | some last =>
      -- the path ends in a step, or in a name that is no longer followed but located
      obtain ⟨front, same⟩ := List.getLast?_eq_some_iff.mp found
      dsimp only
      rw [filter_solid, led, same, List.dropLast_concat]
      split
      · exact ⟨_, rfl, rfl⟩
      · next named =>
        rw [not_or, Bool.not_eq_true] at named
        rw [← filter_solid p, same, List.filter_append,
          List.filter_cons_of_pos (by rw [named.1]; rfl), follow_append_iff] at led
        obtain ⟨middle, led, led'⟩ := led
        obtain ⟨next, step, ended⟩ := follow_cons_iff.mp led'
        cases ended
        obtain ⟨outer, rfl, short, same⟩ := step.of_ne named.2
        cases same
        rw [led]
        change ∃ spot, (if nameLimit < last.utf8ByteSize then _ else _) = _ ∧ _
        rw [if_neg (Nat.not_lt.mpr short)]
        exact ⟨_, rfl, rfl⟩
  obtain ⟨spot, placed, names⟩ := placed
  exact ⟨spot, (locate_eq_ok_iff shown).mpr ⟨accepts, placed⟩, names⟩

/-- A path of an entry leads on to it as long as all folders stay. -/
theorem locate_below_of_keepsFolders {p : Path} (named : IsName name) (keeps : t.KeepsFolders t')
    {spot : Spot} (located : t.locate (p.below name) = .ok spot) :
    t'.locate (p.below name) = .ok spot := by
  rw [locate_below_iff named] at located ⊢
  obtain ⟨accepts, short, folder, led, same⟩ := located
  exact ⟨accepts, short, folder, follow_of_keepsFolders keeps led, same⟩

end BrushScript.FileTree
