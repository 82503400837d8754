import BrushScript.Settings

/-!
# Changes to settings

A change names new values for some of the settings. Applying it replaces exactly those.

A change is what a command line can ask for, and no more: the version and the export format have no
option, so no change names them. To have no theme again is named by the empty text.
-/

namespace BrushScript.Settings

/-- New values for some of the settings. -/
structure Change where
  canvasSize : Option UInt64 := none
  background : Option String := none
  theme : Option String := none
  maxGoToVisits : Option UInt32 := none
  deriving DecidableEq, Repr

namespace Change

/-- The change that names nothing. -/
def nothing : Change := {}

/-- The settings with the named values; an empty theme stands for none. -/
def apply (c : Change) (s : Settings) : Settings where
  version := s.version
  canvasSize := c.canvasSize.getD s.canvasSize
  background := c.background.getD s.background
  theme := c.theme.elim s.theme fun t => if t = "" then none else some t
  maxGoToVisits := c.maxGoToVisits.getD s.maxGoToVisits
  exportFormat := s.exportFormat

end Change
end BrushScript.Settings
