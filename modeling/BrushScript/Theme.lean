import BrushScript.Color.Hex
import BrushScript.Text.Caseless

/-!
# Colour names

A script names its colours. What runs a script may bring a resolver for names of its own, which is
asked before the fixed palette; blanks around a name do not count. The usual resolver is a theme: it
finds a name without regard to the case of ASCII letters, the first entry winning. The background of
a canvas may also be a colour literal.

A theme comes from a list of entries in which a name may stand more than once. Letter for letter the
same name is one entry, with the place of the first and the colour of the last; names that differ in
case are different entries, of which the later ones are never found.

`legend` lists what a script can use: the theme's names and the palette's names that the theme does
not hide.
-/

namespace BrushScript

/-- Names with their colours, in the order of the legend. -/
abbrev ColorTable := List (String × Color)

namespace ColorTable

/-- The colour of the first entry with the given name. -/
def resolve? (table : ColorTable) (name : String) : Option Color :=
  (table.find? fun entry => Text.caselessEq entry.1 name).map (·.2)

/-- The table with a name bound to a colour. A name that is there already, letter for letter, keeps
its place and takes the new colour. -/
def insert (table : ColorTable) (name : String) (color : Color) : ColorTable :=
  match table with
  | [] => [(name, color)]
  | entry :: rest =>
    if entry.1 = name then (name, color) :: rest else entry :: insert rest name color

/-- The table that entries build when they are inserted in order. -/
def ofList (entries : List (String × Color)) : ColorTable :=
  entries.foldl (fun table entry => table.insert entry.1 entry.2) []

end ColorTable

/-- A way to find the colour of a name. -/
abbrev ColorResolver := String → Option Color

/-- A named set of colours. -/
structure Theme where
  name : String
  colors : ColorTable
  deriving DecidableEq, Repr

/-- The colour names that every script knows. -/
def palette : ColorTable := [
  ("blue", .opaqueOf 0 0 255),
  ("darkblue", .opaqueOf 0 0 128),
  ("darkred", .opaqueOf 128 0 0),
  ("steelblue", .opaqueOf 26 51 77),
  ("cyan", .opaqueOf 0 255 255),
  ("purple", .opaqueOf 128 0 128),
  ("green", .opaqueOf 0 255 0),
  ("red", .opaqueOf 255 0 0),
  ("yellow", .opaqueOf 255 235 4),
  ("orange", .opaqueOf 255 128 0),
  ("brown", .opaqueOf 153 77 26),
  ("coral", .opaqueOf 255 128 77),
  ("burgundy", .opaqueOf 102 0 26),
  ("gray", .opaqueOf 128 128 128),
  ("black", .black),
  ("turquoise", .opaqueOf 64 224 209),
  ("lime", .opaqueOf 191 255 0),
  ("white", .white),
  ("pink", .opaqueOf 255 102 179),
  ("transparent", .clear)
]

/-- The colour of a name: the one that the resolver finds, if there is a resolver and it finds one,
or that of the palette. A blank name has none. -/
def resolveColor (resolver : Option ColorResolver) (name : String) : Option Color :=
  let name := Text.trim name
  if name = "" then none
  else resolver.bind (· name) <|> palette.resolve? name

/-- The colour of a background: a name or a colour literal. -/
def resolveBackground (resolver : Option ColorResolver) (name : String) : Option Color :=
  resolveColor resolver name <|> Color.ofHex? name

namespace Theme

/-- A theme finds the colours that it brings. -/
def resolver (theme : Theme) : ColorResolver := theme.colors.resolve?

instance : Coe (Option Theme) (Option ColorResolver) := ⟨Option.map resolver⟩

/-- The colour of a name under a theme. -/
def resolveColor (theme : Option Theme) (name : String) : Option Color :=
  BrushScript.resolveColor theme name

/-- The colour of a background under a theme. -/
def resolveBackground (theme : Option Theme) (name : String) : Option Color :=
  BrushScript.resolveBackground theme name

/-- The colours that a theme brings, none without a theme. -/
def table (theme : Option Theme) : ColorTable := (theme.map (·.colors)).getD []

/-- The names of a theme and the names of the palette that it does not hide. -/
def legend (theme : Option Theme) : ColorTable :=
  table theme ++ palette.filter fun entry =>
    !(table theme).any fun own => Text.caselessEq own.1 entry.1

/-- The first name of a theme that is blank. -/
def blankName? (theme : Theme) : Option String :=
  (theme.colors.map (·.1)).find? fun name => Text.trim name == ""

end Theme
end BrushScript
