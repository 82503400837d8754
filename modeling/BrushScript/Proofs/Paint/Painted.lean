import BrushScript.Paint.Circle
import BrushScript.Paint.Rectangle
import BrushScript.Proofs.Paint.Flood
import BrushScript.Proofs.Paint.Stamp

/-!
# What painting can change

`c.Painted colors c'` says that `c'` came of `c` by painting some pixels in some of the given
colours, none of them clear. It goes along with a sequence of paintings, and painting in the clear
colour alone is no painting (`Painted.eq_of_clear`). Whatever is drawn with a brush is painted in
the brush's colour: one lemma for each of stamps, circles, rectangles and fills.

The relation says nothing about which pixels are painted. It is what an invariant over a run can
keep, where the pixels depend on everything that happened before, while the colours do not.
-/

namespace BrushScript

/-! ## Paintings

The relation is reflexive and transitive, and grows with the colours. The clear colour may be among
them without making a difference.
-/

/-- Every pixel is as before or has one of the colours, which is not clear. -/
structure Canvas.Painted (c : Canvas) (colors : Color → Prop) (c' : Canvas) : Prop where
  side_eq : c'.side = c.side
  pixel : ∀ q, c'.pixel? q = c.pixel? q ∨
    ∃ color, colors color ∧ color ≠ .clear ∧ c'.pixel? q = some color

namespace Canvas.Painted

variable {α : Type} {c c' c'' : Canvas} {colors colors' : Color → Prop} {color : Color}

theorem refl (c : Canvas) (colors : Color → Prop) : c.Painted colors c := ⟨rfl, fun _ => .inl rfl⟩

theorem trans (first : c.Painted colors c') (second : c'.Painted colors c'') :
    c.Painted colors c'' where
  side_eq := second.side_eq.trans first.side_eq
  pixel q := by
    rcases second.pixel q with same | painted
    · rw [same]
      exact first.pixel q
    · exact .inr painted

/-- Only colours that are not clear count. -/
theorem mono (h : c.Painted colors c')
    (more : ∀ color, color ≠ .clear → colors color → colors' color) : c.Painted colors' c' where
  side_eq := h.side_eq
  pixel q := by
    rcases h.pixel q with same | ⟨color, painted, visible, pixel⟩
    · exact .inl same
    · exact .inr ⟨color, more color visible painted, visible, pixel⟩

theorem eq_of_clear (h : c.Painted colors c') (clears : ∀ color, colors color → color = .clear) :
    c' = c := by
  refine ext_pixel? h.side_eq fun q => ?_
  rcases h.pixel q with same | ⟨color, painted, visible, _⟩
  · exact same
  · exact absurd (clears color painted) visible

/-- A canvas whose pixels in some places have the colour. -/
theorem of_view (visible : color ≠ .clear) (side : c'.side = c.side) {places : Point → Prop}
    [DecidablePred places]
    (view : ∀ q, c'.pixel? q = if places q then some color else c.pixel? q) :
    c.Painted (· = color) c' where
  side_eq := side
  pixel q := by
    rw [view]
    split
    · exact .inr ⟨color, rfl, visible, rfl⟩
    · exact .inl rfl

theorem foldl {draw : Canvas → α → Canvas}
    (each : ∀ (c : Canvas) a, c.Painted colors (draw c a)) (c : Canvas) (as : List α) :
    c.Painted colors (as.foldl draw c) := by
  induction as generalizing c with
  | nil => exact refl c colors
  | cons a as ih => exact (each c a).trans (ih (draw c a))

end Canvas.Painted

/-! ## What the brush draws

Each drawing either does nothing, for want of a visible colour or of a size, or paints cells in the
colour of the brush, all at once or cell after cell.
-/

namespace Paint

open Canvas (Painted)

variable {color : Color}

theorem painted_paint (visible : color ≠ .clear) (c : Canvas) (cells : List Point) :
    c.Painted (· = color) (c.paint cells color) :=
  .of_view visible (Canvas.side_paint ..) (c.pixel?_paint cells color)

theorem painted_stamp (c : Canvas) (p : Point) (size : Int) (color : Color) :
    c.Painted (· = color) (stamp c p size color) := by
  unfold stamp
  split
  · exact .refl ..
  · next visible => exact painted_paint visible c _

theorem painted_circle (c : Canvas) (center : Point) (radius size : Int) (color : Color) :
    c.Painted (· = color) (circle c center radius size color) := by
  unfold circle
  split
  · exact .refl ..
  · next draws =>
    dsimp only
    split
    · exact .foldl (fun c _ => painted_stamp c _ size color) c _
    · exact painted_paint (not_or.mp draws).1 c _

theorem painted_rectangle (c : Canvas) (center : Point) (width height size : Int) (color : Color) :
    c.Painted (· = color) (rectangle c center width height size color) := by
  unfold rectangle
  split
  · exact .refl ..
  · next draws => exact .foldl (fun c _ => painted_paint (not_or.mp draws).1 c _) c _

open Classical in
theorem painted_flood (c : Canvas) (seed : Point) (color : Color) :
    c.Painted (· = color) (flood c seed color).1 := by
  by_cases still : ∀ target, c.pixel? seed = some target →
      color = .clear ∨ color.approx target = true
  · rw [flood_eq_self still]
    exact .refl ..
  · simp only [not_forall, not_or, Bool.not_eq_true] at still
    obtain ⟨target, here, visible, fresh⟩ := still
    exact .of_view visible (side_flood ..)
      (pixel?_flood here visible fresh)

end Paint
end BrushScript
