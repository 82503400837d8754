import BrushScript.Proofs.Store.Work
import BrushScript.Proofs.Text.Trim
import BrushScript.Theme.Document

/-!
# The legend and the meaning of names

The legend of a theme lists names, and a name means what the first entry for it says
(`resolveColor_eq_legend`): looking into the theme and then into the palette is the same as looking
into the one list, because a name of the palette that is missing there is hidden by the theme.

The other way round it can fail. A name with blanks around it is accepted in a theme, but it is
trimmed before it is looked for, and names that differ in case only are the same name. So the legend
of a stored theme tells the truth about every name exactly under the condition of
`legend_usable_iff`, which `padded` does not meet.

What is known of a stored theme is that it was read from a file, and with it that none of its names
is blank (`IsStored.not_blank`). The palette needs no condition: its names are trimmed and all
different, which is decided on the list.
-/

namespace BrushScript

open Text (Blank caselessEq trim)

namespace ColorTable

/-- No two names are the same up to the case of ASCII letters. -/
def NamesDistinct (table : ColorTable) : Prop :=
  table.Pairwise fun entry other => caselessEq entry.1 other.1 = false

instance (table : ColorTable) : Decidable table.NamesDistinct :=
  inferInstanceAs (Decidable (List.Pairwise _ table))

variable {table : ColorTable} {name : String}

theorem resolve?_eq_none_iff :
    table.resolve? name = none ↔ ∀ entry ∈ table, caselessEq entry.1 name = false := by
  rw [resolve?, Option.map_eq_none_iff, List.find?_eq_none]
  simp only [Bool.not_eq_true]

theorem resolve?_append (table other : ColorTable) (name : String) :
    resolve? (table ++ other) name = (table.resolve? name <|> resolve? other name) := by
  rw [resolve?, List.find?_append]
  cases found : table.find? fun entry => caselessEq entry.1 name <;> simp [resolve?, found]

/-- If no two names are the same, every entry is the first one for its name. -/
theorem NamesDistinct.resolve?_eq (distinct : table.NamesDistinct) {entry : String × Color}
    (mem : entry ∈ table) : table.resolve? entry.1 = some entry.2 := by
  -- on the entries before it
  induction table with
  | nil => cases mem
  | cons first rest ih =>
    obtain ⟨apart, distinct⟩ := List.pairwise_cons.mp distinct
    rw [resolve?, List.find?_cons]
    rcases List.mem_cons.mp mem with rfl | later
    · -- the first entry is the one
      rw [Text.caselessEq_refl]
      rfl
    · -- the first entry has another name, so the search goes on
      rw [apart entry later]
      exact ih distinct later

end ColorTable

namespace Theme

variable {theme : Theme} {name : String}

/-! ## What the legend says

A name is looked for without the blanks around it, and without regard to the case of ASCII letters.
The legend is searched in the same way, so what has to be shown is that one list does for two.
-/

/-- A name of the palette that is not in the legend means what the theme says. -/
theorem resolve?_legend (theme : Option Theme) (name : String) :
    (legend theme).resolve? name = ((table theme).resolve? name <|> palette.resolve? name) := by
  rw [legend, ColorTable.resolve?_append]
  cases own : (table theme).resolve? name with
  | some color => rfl
  | none =>
    -- no name of the palette that is meant here is hidden, or the theme would have the name
    have visible (entry : String × Color) (same : caselessEq entry.1 name = true) :
        (!(table theme).any fun own => caselessEq own.1 entry.1) = true := by
      rw [Bool.not_eq_true', List.any_eq_false]
      intro other mem hides
      have absent := ColorTable.resolve?_eq_none_iff.mp own other mem
      rw [Text.caselessEq_trans hides same] at absent
      cases absent
    have unfiltered : (palette.filter fun entry =>
        !(table theme).any fun own => caselessEq own.1 entry.1).find?
          (fun entry => caselessEq entry.1 name) =
        palette.find? fun entry => caselessEq entry.1 name := by
      rw [List.find?_filter]
      refine congrArg (fun p => palette.find? p) (funext fun entry => ?_)
      rw [Bool.decide_and, Bool.decide_eq_true, Bool.decide_eq_true]
      cases same : caselessEq entry.1 name with
      | false => exact Bool.and_false _
      | true => rw [visible entry same, Bool.and_true]
    rw [ColorTable.resolve?, unfiltered]
    rfl

theorem resolveColor_eq (theme : Option Theme) (meant : ¬ Blank name) :
    resolveColor theme name = (legend theme).resolve? (trim name) := by
  rw [resolve?_legend, resolveColor, BrushScript.resolveColor,
    if_neg (mt Text.trim_eq_empty_iff.mp meant)]
  cases theme <;> rfl

/-- A name that is not blank means the colour of the first entry of the legend that has the name
without the blanks around it, up to the case of ASCII letters; and if there is no such entry, and
only then, it means nothing. -/
theorem resolveColor_eq_legend (theme : Option Theme) {name : String} (meant : ¬ Blank name) :
    resolveColor theme name =
        ((legend theme).find? fun entry => caselessEq entry.1 (trim name)).map (·.2) ∧
      (resolveColor theme name = none ↔
        ¬ ∃ entry ∈ legend theme, caselessEq entry.1 (trim name) = true) := by
  rw [resolveColor_eq theme meant]
  refine ⟨rfl, ?_⟩
  rw [ColorTable.resolve?_eq_none_iff]
  simp only [not_exists, not_and, Bool.not_eq_true]

/-- A theme that hides a name of the palette twice, and has a name that no script can use. -/
def redder : Theme :=
  ⟨"redder", [("Red", .black), ("red", .white), (" red", .clear), ("LEAF", .opaqueOf 40 160 60)]⟩

theorem resolveColor_eq_legend_redder :
    ¬ Blank "\u00a0 rED\t" ∧ resolveColor (some redder) "\u00a0 rED\t" = some .black ∧
      ((legend (some redder)).find? fun entry =>
        caselessEq entry.1 (trim "\u00a0 rED\t")) = some ("Red", .black) := by
  have meant : ¬ Blank "\u00a0 rED\t" := by decide
  have found : ((legend (some redder)).find? fun entry =>
      caselessEq entry.1 (trim "\u00a0 rED\t")) = some ("Red", .black) := by decide +kernel
  refine ⟨meant, ?_, found⟩
  rw [(resolveColor_eq_legend (some redder) meant).1, found]
  rfl

/-! ## Whether the legend is right

For a name of the legend there are three ways to be wrong: it is not found since it has blanks
around it, another entry is found first, or it is there twice.
-/

theorem resolveColor_trim (theme : Option Theme) (name : String) :
    resolveColor theme (trim name) = resolveColor theme name := by
  rw [resolveColor, resolveColor, BrushScript.resolveColor, BrushScript.resolveColor,
    Text.trim_trim]

theorem palette_namesDistinct : palette.NamesDistinct := by decide +kernel

theorem palette_trimmed : ∀ entry ∈ palette, trim entry.1 = entry.1 ∧ ¬ Blank entry.1 := by
  decide +kernel

theorem legend_namesDistinct_iff {theme : Option Theme} :
    (legend theme).NamesDistinct ↔ (table theme).NamesDistinct := by
  rw [legend, ColorTable.NamesDistinct, List.pairwise_append]
  constructor
  · exact fun ⟨own, _, _⟩ => own
  · intro own
    -- the names of the palette that are shown differ from each other and from those of the theme
    refine ⟨own, palette_namesDistinct.filter _, fun entry mem other shown => ?_⟩
    have unhidden := (List.mem_filter.mp shown).2
    rw [Bool.not_eq_true', List.any_eq_false] at unhidden
    exact Bool.eq_false_iff.mpr (unhidden entry mem)

/-- The theme was read from some file. -/
def IsStored (theme : Theme) : Prop :=
  ∃ (tree left : FileTree) (path : Path), (load path : Work Theme).run tree = (.ok theme, left)

theorem IsStored.not_blank (stored : theme.IsStored) {entry : String × Color}
    (mem : entry ∈ theme.colors) : ¬ Blank entry.1 := by
  obtain ⟨tree, left, path, read⟩ := stored
  obtain ⟨found, t, -, checked⟩ := Work.bind_eq_ok_iff.mp read
  split at checked
  · cases checked
  · next usable =>
    cases checked
    intro blank
    have named : entry.1 ∈ theme.colors.map (·.1) := List.mem_map_of_mem mem
    have unseen := List.find?_eq_none.mp usable entry.1 named
    rw [beq_iff_eq] at unseen
    exact unseen (Text.trim_eq_empty_iff.mpr blank)

/-- A working folder with one file. -/
def singleFile (name content : String) : FileTree := ⟨[(name, .file content.toUTF8)]⟩

theorem isStored_of_parse (content : String)
    (parsed : Document.parse (Document.ofOption ofJson?) content = .ok theme)
    (usable : theme.blankName? = none) : theme.IsStored := by
  refine ⟨singleFile "t.json" content, singleFile "t.json" content, .ofText "t.json", ?_⟩
  rw [load, Work.run_bind, Work.run_load (s := content) ?_ parsed]
  · dsimp only
    rw [usable]
    rfl
  · rfl

/-- The legend of a stored theme is right about all its names, and has no name twice, exactly if the
theme itself has none twice and a name with blanks around it means the same without them. -/
theorem legend_usable_iff (stored : theme.IsStored) :
    ((∀ entry ∈ legend theme, resolveColor theme entry.1 = some entry.2) ∧
        (legend theme).NamesDistinct) ↔
      theme.colors.NamesDistinct ∧ ∀ entry ∈ theme.colors, trim entry.1 ≠ entry.1 →
        resolveColor theme (trim entry.1) = some entry.2 := by
  constructor
  · rintro ⟨usable, distinct⟩
    refine ⟨legend_namesDistinct_iff.mp distinct, fun entry mem _ => ?_⟩
    rw [resolveColor_trim]
    exact usable entry (List.mem_append_left _ mem)
  · rintro ⟨own, padded⟩
    have distinct : (legend theme).NamesDistinct := legend_namesDistinct_iff.mpr own
    refine ⟨fun entry mem => ?_, distinct⟩
    have trimmed (meant : ¬ Blank entry.1) (same : trim entry.1 = entry.1) :
        resolveColor theme entry.1 = some entry.2 := by
      rw [resolveColor_eq _ meant, same]
      exact distinct.resolve?_eq mem
    rcases List.mem_append.mp mem with ours | fixed
    · -- a name of the theme
      by_cases same : trim entry.1 = entry.1
      · exact trimmed (stored.not_blank ours) same
      · rw [← resolveColor_trim]
        exact padded entry ours same
    · -- a name of the palette
      obtain ⟨same, meant⟩ := palette_trimmed entry (List.mem_filter.mp fixed).1
      exact trimmed meant same

/-- A stored theme in which a name with a blank in front has the colour of the name without it. -/
def agreeingText : String :=
  "\x7b\"name\":\"agreeing\",\"colors\":\x7b\" leaf\":[1,2,3,255],\"Leaf\":[1,2,3,255]\x7d\x7d"

def agreeing : Theme := ⟨"agreeing", [(" leaf", .opaqueOf 1 2 3), ("Leaf", .opaqueOf 1 2 3)]⟩

theorem isStored_agreeing : agreeing.IsStored :=
  isStored_of_parse agreeingText (by decide +kernel) (by decide)

theorem legend_usable_iff_agreeing :
    agreeing.IsStored ∧
      (∀ entry ∈ legend agreeing, resolveColor agreeing entry.1 = some entry.2) ∧
      (legend agreeing).NamesDistinct :=
  ⟨isStored_agreeing, (legend_usable_iff isStored_agreeing).mpr (by decide +kernel)⟩

/-- A stored theme with a name that is written in two ways, and one with a blank in front. -/
def paddedText : String :=
  "\x7b\"name\":\"padded\",\"colors\":\x7b" ++
    "\"Leaf\":\x7b\"r\":40,\"g\":160,\"b\":60,\"a\":255\x7d," ++
    "\"leaf\":\x7b\"r\":1,\"g\":2,\"b\":3,\"a\":255\x7d," ++
    "\" moss\":\x7b\"r\":4,\"g\":5,\"b\":6,\"a\":255\x7d\x7d\x7d"

def padded : Theme :=
  ⟨"padded", [("Leaf", .opaqueOf 40 160 60), ("leaf", .opaqueOf 1 2 3),
    (" moss", .opaqueOf 4 5 6)]⟩

/-- The legend can list a name that means nothing, or another colour, and a name twice. -/
theorem legend_not_usable :
    padded.IsStored ∧
      ((" moss", .opaqueOf 4 5 6) ∈ legend padded ∧ resolveColor padded " moss" = none) ∧
      (("leaf", .opaqueOf 1 2 3) ∈ legend padded ∧
        resolveColor padded "leaf" = some (.opaqueOf 40 160 60)) ∧
      ¬ (legend padded).NamesDistinct := by
  refine ⟨isStored_of_parse paddedText ?_ (by decide), ?_⟩
  · decide +kernel
  · decide +kernel

end Theme
end BrushScript
