import BrushScript.Store.Path

/-!
# Paths of files

A path whose last segment is a name of its own is the path of an entry in the folder that the
segments before it write (`below`). Every path with a file name has the name behind such segments,
its `front`, perhaps with idle ones after it. Its siblings are written without the idle segments
that the front may end in (`withFileName_eq`, `names_clean`). With another extension a path has
another last name (`withExtension_eq`), unless the extension is its own (`nameWith_eq_iff`).

A segment is idle if it is empty or a single dot. Such segments lead nowhere, but they are part of
how a path was written, and the operations on paths treat them differently: the file name is taken
from behind them, a sibling is put in their place, and a path is followed as if they were not there.
The lemmas here say which of two ways to write a path are the same for which purpose.
-/

namespace BrushScript.Path

/-! ## Names

What ends in an extension of three letters or more is no step and not idle, whatever its stem is. So
the siblings of a file have names of their own.
-/

/-- A segment names an entry: it is no step and means something. -/
structure IsName (segment : String) : Prop where
  notIdle : isIdle segment = false
  notStep : segment ≠ ".."

theorem IsName.ne_empty {segment : String} (name : IsName segment) : segment ≠ "" := by
  rintro rfl
  exact absurd name.notIdle (by decide)

theorem IsName.ne_dot {segment : String} (name : IsName segment) : segment ≠ "." := by
  rintro rfl
  exact absurd name.notIdle (by decide)

/-- What ends in an extension is a name. -/
theorem isName_append (stem : String) {extension : String} (long : 2 < extension.length) :
    IsName (stem ++ extension) := by
  have other (s : String) (short : s.length ≤ 2) : stem ++ extension ≠ s := by
    rintro rfl
    rw [String.length_append] at short
    omega
  refine ⟨?_, other ".." (by decide)⟩
  rw [isIdle, decide_eq_false (other "" (by decide)), decide_eq_false (other "." (by decide))]
  rfl

theorem append_ne_self (stem : String) {extension : String} (long : extension ≠ "") :
    stem ++ extension ≠ stem := by
  intro same
  have length := congrArg String.length same
  rw [String.length_append] at length
  exact long (String.length_eq_zero_iff.mp (by omega))

/-- The path of a segment below a path. -/
def below (p : Path) (segment : String) : Path := ⟨p.absolute, p.segments ++ [segment]⟩

variable {p : Path} {name : String}

theorem trimmed_below (named : IsName name) : (p.below name).trimmed = p.segments ++ [name] := by
  have kept : ((p.segments ++ [name]).reverse.dropWhile isIdle).reverse = p.segments ++ [name] := by
    rw [List.reverse_concat, List.dropWhile_cons_of_neg (by rw [named.notIdle]; exact nofun),
      ← List.reverse_concat, List.reverse_reverse]
  rw [trimmed, below, kept]
  exact if_neg fun none => absurd none.1 (List.concat_ne_nil _ _)

theorem fileName?_below (named : IsName name) : (p.below name).fileName? = some name := by
  rw [fileName?, trimmed_below named, List.getLast?_concat]
  exact if_neg fun step => step.elim named.ne_dot named.notStep

/-- The path without idle segments at its end. -/
def clean (p : Path) : Path := ⟨p.absolute, p.trimmed⟩

theorem parent?_below (named : IsName name) : (p.below name).parent? = some p.clean := by
  rw [parent?, trimmed_below named, if_neg (List.concat_ne_nil _ _), List.dropLast_concat]
  rfl

/-- Idle segments at the end name nothing. -/
theorem filter_dropWhile {q : String → Bool} (idle : ∀ s, q s = true → isIdle s = true)
    (segments : List String) : (segments.reverse.dropWhile q).reverse.filter (!isIdle ·) =
      segments.filter (!isIdle ·) := by
  have cut : (segments.reverse.takeWhile q).filter (!isIdle ·) = [] := by
    rw [List.filter_eq_nil_iff]
    intro s mem
    simpa using idle s (List.all_eq_true.mp List.all_takeWhile s mem)
  have whole := congrArg (List.filter (!isIdle ·))
    (List.takeWhile_append_dropWhile (p := q) (l := segments.reverse))
  rw [List.filter_append, cut, List.nil_append, List.filter_reverse] at whole
  rw [List.filter_reverse, whole, List.reverse_reverse]

theorem names_clean (p : Path) : p.clean.names = p.names := by
  have kept := filter_dropWhile (fun _ => id) p.segments
  unfold clean names trimmed
  dsimp only
  split
  · next none =>
    rw [none.1] at kept
    exact kept
  · exact kept

/-! ## File names

A file name is the last segment that counts, if it is no step. In front of it stand the segments of
the folder.
-/

/-- The path before the file name. -/
def front (p : Path) : Path := ⟨p.absolute, p.trimmed.dropLast⟩

theorem front_below (named : IsName name) : (p.below name).front = p := by
  rw [front, trimmed_below named, List.dropLast_concat]
  rfl

theorem isIdle_of_trimmed {last : String} (shown : p.trimmed.getLast? = some last) :
    last = "." ∨ isIdle last = false := by
  unfold trimmed at shown
  dsimp only at shown
  split at shown
  · left
    exact (Option.some.inj shown).symm
  · right
    rw [List.getLast?_reverse] at shown
    have first := List.head?_dropWhile_not isIdle p.segments.reverse
    rw [shown] at first
    simpa using first

/-- A file name is a name, and the last of the segments that count. -/
theorem trimmed_of_fileName? (shown : p.fileName? = some name) :
    IsName name ∧ p.trimmed = p.front.segments ++ [name] := by
  unfold fileName? at shown
  split at shown
  · cases shown
  · next last found =>
    split at shown
    · cases shown
    · next named =>
      cases shown
      rw [not_or] at named
      constructor
      · exact ⟨(isIdle_of_trimmed found).resolve_left named.1, named.2⟩
      · obtain ⟨before, same⟩ := List.getLast?_eq_some_iff.mp found
        rw [front, same, List.dropLast_concat]

theorem isName_of_fileName? (shown : p.fileName? = some name) : IsName name :=
  (trimmed_of_fileName? shown).1

/-- A sibling is below the same folder, whose path is written without idle segments at its end. -/
theorem withFileName_eq (shown : p.fileName? = some name) (other : String) :
    p.withFileName other = p.front.clean.below other := by
  have some : p.trimmed ≠ [] := by
    rw [(trimmed_of_fileName? shown).2]
    exact List.concat_ne_nil _ _
  have folder : p.parent? = .some p.front.clean := by
    rw [parent?, if_neg some]
    rfl
  rw [withFileName, shown, folder]
  rfl

/-! ## Extensions

An extension is what stands behind the last dot of a name. A dot at the very front does not count,
so a name may have none.
-/

/-- A name splits at its last dot. -/
theorem splitExtension?_eq_some {stem extension : String}
    (split : splitExtension? name = some (stem, extension)) :
    name = stem ++ "." ++ extension ∧ '.' ∉ extension.toList := by
  unfold splitExtension? at split
  dsimp only at split
  split at split
  · cases split
  · -- the last dot, with something in front of it
    next dot rest dropped =>
    split at split
    · cases split
    · cases split
      have back := List.takeWhile_append_dropWhile (p := (· ≠ '.')) (l := name.toList.reverse)
      have tail : name.toList.reverse.drop (name.toList.reverse.takeWhile (· ≠ '.')).length =
          name.toList.reverse.dropWhile (· ≠ '.') := by
        have whole := List.prefix_iff_eq_append.mp (List.takeWhile_prefix (l := name.toList.reverse)
          fun c => decide (c ≠ '.'))
        exact List.append_cancel_left (whole.trans back.symm)
      rw [tail] at dropped
      have isDot : dot = '.' := by
        have first := List.head?_dropWhile_not (· ≠ '.') name.toList.reverse
        rw [dropped] at first
        simpa using first
      rw [dropped, isDot] at back
      constructor
      · apply String.toList_injective
        simp only [String.toList_append, String.toList_ofList]
        show _ = rest.reverse ++ ['.'] ++ _
        rw [← List.reverse_cons, ← List.reverse_append, back, List.reverse_reverse]
      · rw [String.toList_ofList, List.mem_reverse]
        intro mem
        simpa using List.all_eq_true.mp List.all_takeWhile '.' mem

/-- A file name with another extension. -/
def nameWith (name extension : String) : String :=
  (splitExtension? name).elim name (·.1) ++ "." ++ extension

theorem withExtension_eq (shown : p.fileName? = some name) (extension : String) :
    p.withExtension extension = p.front.below (nameWith name extension) := by
  rw [withExtension, shown]
  rfl

theorem extension?_eq (shown : p.fileName? = some name) :
    p.extension? = (splitExtension? name).map (·.2) := by
  rw [extension?, shown]
  rfl

theorem append_right_cancel {s t u : String} (same : s ++ t = s ++ u) : t = u := by
  have letters := congrArg String.toList same
  rw [String.toList_append, String.toList_append] at letters
  exact String.toList_injective (List.append_cancel_left letters)

/-- Only its own extension gives a file its own name. -/
theorem nameWith_eq_iff {extension : String} :
    nameWith name extension = name ↔ (splitExtension? name).map (·.2) = some extension := by
  unfold nameWith
  cases split : splitExtension? name with
  | none => -- without an extension of its own the name gets longer
    refine iff_of_false ?_ nofun
    show name ++ "." ++ extension ≠ name
    rw [String.append_assoc]
    exact append_ne_self name (by simp)
  | some parts =>
    obtain ⟨stem, own⟩ := parts
    obtain ⟨rfl, -⟩ := splitExtension?_eq_some split
    show stem ++ "." ++ extension = stem ++ "." ++ own ↔ some own = some extension
    constructor
    · intro same
      rw [append_right_cancel same]
    · intro same
      cases same
      rfl

/-- A sibling of a file with another extension is another file, whatever that extension is. -/
theorem nameWith_append_ne {extension suffix : String} (dotted : '.' ∈ suffix.toList) :
    nameWith name extension ++ suffix ≠ name := by
  unfold nameWith
  cases split : splitExtension? name with
  | none => -- without an extension of its own the name gets longer
    show name ++ "." ++ extension ++ suffix ≠ name
    rw [String.append_assoc, String.append_assoc]
    exact append_ne_self name (by simp)
  | some parts =>
    obtain ⟨stem, own⟩ := parts
    obtain ⟨rfl, last⟩ := splitExtension?_eq_some split
    show stem ++ "." ++ extension ++ suffix ≠ stem ++ "." ++ own
    -- the last dot of the name would have to be the one in the sibling's extension
    intro same
    rw [String.append_assoc] at same
    apply last
    rw [← append_right_cancel same, String.toList_append]
    exact List.mem_append_right _ dotted

/-! ## Folders

What is said of the folder of a file needs the lengths of paths as well: a path that the file system
takes for an entry is not too long for its folder.
-/

theorem trimmed_prefix (p : Path) : p.trimmed <+: p.segments := by
  have kept : (p.segments.reverse.dropWhile isIdle).reverse <+: p.segments := by
    rw [← List.reverse_suffix, List.reverse_reverse]
    exact List.dropWhile_suffix _
  unfold trimmed
  dsimp only
  split
  · next dot =>
    obtain ⟨rest, same⟩ := List.head?_eq_some_iff.mp dot.2.2
    exact ⟨rest, same.symm⟩
  · exact kept

/-- A path without the empty segment that a slash at its end leaves. -/
def unslashed (p : Path) : Path :=
  ⟨p.absolute, if p.segments.getLast? = some "" then p.segments.dropLast else p.segments⟩

theorem names_unslashed (p : Path) : p.unslashed.names = p.names := by
  unfold unslashed names
  dsimp only
  split
  · next slash =>
    obtain ⟨front, same⟩ := List.getLast?_eq_some_iff.mp slash
    rw [same, List.dropLast_concat, List.filter_append]
    exact (List.append_nil _).symm
  · rfl

theorem segments_subset_unslashed (p : Path) :
    ∀ s ∈ p.segments, s = "" ∨ s ∈ p.unslashed.segments := by
  intro s mem
  unfold unslashed
  dsimp only
  split
  · next slash =>
    obtain ⟨front, same⟩ := List.getLast?_eq_some_iff.mp slash
    rw [same, List.dropLast_concat]
    rw [same, List.mem_append, List.mem_singleton] at mem
    exact mem.symm
  · exact .inr mem

theorem exists_ancestors (p : Path) : ∃ outer, p.ancestors = p :: outer := by
  rw [ancestors, ancestors.go]
  split
  · exact ⟨_, rfl⟩
  · exact ⟨[], rfl⟩

/-- The settings file is below its folder. -/
theorem settingsFile_eq (config : Path) :
    config.settingsFile = config.unslashed.below "settings.json" := by
  rfl

theorem utf8ByteSize_intercalate_append_le (first second : List String) :
    ("/".intercalate first).utf8ByteSize ≤ ("/".intercalate (first ++ second)).utf8ByteSize := by
  by_cases none : first = []
  · subst none
    exact Nat.zero_le _
  · by_cases none' : second = []
    · exact Nat.le_of_eq (by rw [none', List.append_nil])
    · rw [String.intercalate_append_of_ne_nil none none', String.utf8ByteSize_append,
        String.utf8ByteSize_append]
      omega

theorem utf8ByteSize_intercalate_concat_empty (front : List String) (last : String) :
    ("/".intercalate (front ++ [""])).utf8ByteSize ≤
      ("/".intercalate (front ++ [last])).utf8ByteSize := by
  by_cases none : front = []
  · subst none
    exact Nat.zero_le _
  · rw [String.intercalate_append_of_ne_nil none (List.cons_ne_nil _ _),
      String.intercalate_append_of_ne_nil none (List.cons_ne_nil _ _)]
    simp only [String.utf8ByteSize_append]
    have empty : ("/".intercalate [""]).utf8ByteSize = 0 := rfl
    omega

/-- A path is no longer than that of an entry of its folder. -/
theorem utf8ByteSize_text_le (p : Path) (name : String) :
    p.text.utf8ByteSize ≤ (p.unslashed.below name).text.utf8ByteSize := by
  unfold text
  rw [String.utf8ByteSize_append, String.utf8ByteSize_append]
  refine Nat.add_le_add_left ?_ _
  unfold unslashed below
  dsimp only
  split
  · next slash =>
    obtain ⟨front, same⟩ := List.getLast?_eq_some_iff.mp slash
    rw [same, List.dropLast_concat]
    exact utf8ByteSize_intercalate_concat_empty front name
  · exact utf8ByteSize_intercalate_append_le p.segments [name]

end BrushScript.Path
