import BrushScript.Canvas.Document
import BrushScript.Proofs.Json.Value
import BrushScript.Proofs.Store.Storage

/-!
# Stored canvases

A canvas that was exported as JSON is imported as it was, and no file at all is imported as a canvas
with another number of pixels than its side asks for (`import_export`). What a file describes is one
thing and whether its side and its pixels go together is another (`Describes`), so that every
spelling of a document is held to the same count.

A document may be an object or an array, with its members in any order and others among them. All of
these are read to a side and a list of pixels by `partsOfJson?`, and only then does the count come
in: `ofJson_eq_ok_iff` says what is accepted, and `described_eq_pixelCount` what the refusal names.
The count is one of natural numbers. A side whose square would be zero in 64-bit words is refused
with no pixels like any other.

The first half is a chain of inverses: a colour and its document, a canvas and its document, a
document and its text, a text and its bytes, and a file that was replaced and the file that is read.
-/

namespace BrushScript

/-! ## Colours

A channel is a number below 256, and a colour is a record of four channels.
-/

theorem Color.channelOfJson?_int (n : UInt8) : channelOfJson? (.int n.toNat) = some n := by
  rw [channelOfJson?, Json.natBelow?_int n.toNat_lt]
  exact congrArg some UInt8.ofNat_toNat

/-- A colour comes back from its document. -/
theorem Color.ofJson?_toJson (c : Color) : ofJson? c.toJson = some c := by
  have fields : c.toJson.fields? ["r", "g", "b", "a"] =
      some [some (.int c.red.toNat), some (.int c.green.toNat), some (.int c.blue.toNat),
        some (.int c.alpha.toNat)] := rfl
  rw [ofJson?, fields]
  simp [channelOfJson?_int]

theorem Color.plain_toJson (c : Color) : c.toJson.Plain := by
  apply Json.Plain.record
  intro m mem
  simp only [List.mem_cons, List.not_mem_nil, or_false] at mem
  obtain rfl | rfl | rfl | rfl := mem <;> exact .int _

theorem Color.mapM_ofJson?_toJson (colors : List Color) :
    (colors.map toJson).mapM ofJson? = some colors := by
  induction colors with
  | nil => rfl
  | cons c colors ih => simp [ofJson?_toJson, ih]

namespace Canvas

/-! ## Documents

From a document to its side and pixels and back, and from there to a canvas. The two directions meet
in `ofJson_eq_ok_iff`, which says that a document is decoded to just the canvas of its parts.
-/

theorem plain_toJson (c : Canvas) : c.toJson.Plain := by
  apply Json.Plain.record
  intro m mem
  simp only [List.mem_cons, List.not_mem_nil, or_false] at mem
  obtain rfl | rfl := mem
  · exact .int _
  · apply Json.Plain.array
    intro item mem
    obtain ⟨color, -, rfl⟩ := List.mem_map.mp mem
    exact color.plain_toJson

/-- The side and the pixels come back from the document of a canvas. -/
theorem partsOfJson?_toJson (c : Canvas) :
    partsOfJson? c.toJson = some (c.side, c.pixels.toList) := by
  have fields : c.toJson.fields? ["size", "pixels"] =
      some [some (.int c.side), some (.list Color.toJson c.pixels.toList)] := rfl
  have items : (Json.list Color.toJson c.pixels.toList).items? =
      some (c.pixels.toList.map Color.toJson) := rfl
  have small : c.side < 0x10000000000000000 := Nat.lt_trans c.side_lt (by decide)
  rw [partsOfJson?, fields]
  simp [Json.natBelow?_int small, items, Color.mapM_ofJson?_toJson, -List.mapM_map]

/-- The content of a file is a document that gives a side and pixels, whether or not these go
together. -/
def Describes (content : ByteArray) (side : Nat) (pixels : List Color) : Prop :=
  ∃ s j, content = s.toUTF8 ∧ Json.read? s = some (j, true) ∧
    partsOfJson? j = some (side, pixels)

theorem describes_of_read {s : String} {side : Nat} {pixels : List Color}
    (found : ((Json.read? s).filter (·.2)).bind (fun read => partsOfJson? read.1) =
      some (side, pixels)) : Describes s.toUTF8 side pixels := by
  obtain ⟨⟨j, clean⟩, read, parts⟩ := Option.bind_eq_some_iff.mp found
  obtain ⟨read, all⟩ := Option.filter_eq_some_iff.mp read
  cases all
  exact ⟨s, j, rfl, read, parts⟩

theorem describes_pretty (c : Canvas) : Describes c.toJson.pretty.toUTF8 c.side c.pixels.toList :=
  ⟨_, _, rfl, c.plain_toJson.read?_pretty, c.partsOfJson?_toJson⟩

/-- A document is decoded to the canvas of its side and pixels, and to nothing else. -/
theorem ofJson_eq_ok_iff {j : Json} {c : Canvas} :
    ofJson j = .ok c ↔ partsOfJson? j = some (c.side, c.pixels.toList) := by
  unfold ofJson
  constructor
  · -- a canvas was made, so the pixels are as many as they should be
    intro made
    split at made
    · cases made
    · next side pixels parts =>
      split at made
      · next found =>
        cases made
        obtain ⟨rfl, same⟩ := ofPixels?_eq_some_iff.mp found
        rw [parts, same, List.toList_toArray]
      · cases made
  · -- the parts are those of a canvas, so they go together
    intro parts
    have whole : ofPixels? c.side c.pixels.toList.toArray = some c :=
      ofPixels?_eq_some_iff.mpr ⟨rfl, by rw [Array.toArray_toList]⟩
    rw [parts]
    dsimp only
    rw [whole]

theorem described_eq_ok_iff {content : ByteArray} {c : Canvas} :
    Work.described ofJson content = .ok c ↔ Describes content c.side c.pixels.toList := by
  rw [Work.described_eq_ok_iff]
  constructor
  · -- the text is read to a document and nothing behind it
    rintro ⟨s, rfl, parsed⟩
    unfold Document.parse at parsed
    split at parsed
    · cases parsed
    · next j clean read =>
      cases decoded : ofJson j with
      | error e =>
        rw [decoded] at parsed
        cases parsed
      | ok made =>
        rw [decoded] at parsed
        cases clean with
        | false => cases parsed
        | true =>
          cases parsed
          exact ⟨s, j, rfl, read, ofJson_eq_ok_iff.mp decoded⟩
  · -- a document that is read and accepted
    rintro ⟨s, j, rfl, read, parts⟩
    refine ⟨s, rfl, ?_⟩
    rw [Document.parse, read]
    dsimp only
    rw [ofJson_eq_ok_iff.mpr parts]
    rfl

/-- A document whose pixels are not as many as its side asks for is refused. -/
theorem described_eq_pixelCount {content : ByteArray} {side : Nat} {pixels : List Color}
    (describes : Describes content side pixels) (other : pixels.length ≠ side * side) :
    Work.described ofJson content = .error (.document (.pixelCount pixels.length side)) := by
  obtain ⟨s, j, rfl, read, parts⟩ := describes
  have none : ofPixels? side pixels.toArray = none := by
    apply dif_neg
    intro same
    exact other (by simpa using same.1)
  have refused : ofJson j = .error (.pixelCount pixels.length side) := by
    rw [ofJson, parts]
    dsimp only
    rw [none]
  have text : Work.textOf s.toUTF8 = .ok s := by
    rw [Work.textOf, Work.fromUTF8?_toUTF8]
  rw [Work.described, text]
  show (Document.parse ofJson s).mapError StoreError.document = _
  rw [Document.parse, read]
  dsimp only
  rw [refused]
  rfl

/-! ## Files

An export makes the folder and replaces the file, and an import reads the file. Between the two
stands the tree, in which the content of the file is what the export put there.
-/

/-- The content of a file that a canvas is exported to. -/
def encoded (c : Canvas) : ExportFormat → ByteArray
  | .ppm => c.toPpm
  | .json => c.toJson.pretty.toUTF8

/-- What is done for the folder of a file that is to be exported. -/
def makeRoom (path : Path) : Work Unit :=
  match path.parent? with
  | some folder => unless folder.isEmpty do Storage.makeFolders folder
  | none => pure ()

/-- Exporting replaces a file, once its folder is there. -/
theorem exportTo_eq (c : Canvas) (path : Path) (format : ExportFormat) :
    (c.exportTo path format : Work Unit) =
      (makeRoom path >>= fun _ => Storage.replaceFile path (c.encoded format)) := by
  unfold exportTo makeRoom
  cases path.parent? with
  | none => cases format <;> rfl
  | some folder =>
    dsimp only
    split <;> cases format <;> rfl

theorem import_of_export {c : Canvas} {path : Path} {t t' : FileTree}
    (done : (c.exportTo path .json : Work Unit).run t = (.ok (), t')) :
    (importFrom path : Work Canvas).run t' = (.ok c, t') := by
  rw [exportTo_eq] at done
  obtain ⟨_, t₁, -, done⟩ := Work.bind_eq_ok_iff.mp done
  obtain ⟨name, shown⟩ := FileTree.exists_fileName_of_replaceFile done
  obtain ⟨-, -, content⟩ := FileTree.ready_of_replaceFile shown done
  rw [importFrom, Work.run_load_eq content]
  exact congrArg (·, t') (described_eq_ok_iff.mpr c.describes_pretty)

/-- A canvas that was exported as JSON is imported as it was. Whatever a file holds, what is
imported from it is a canvas with just the side and the pixels that the file describes, which go
together without any wrap-around, or else a problem. -/
theorem import_export :
    (∀ (c : Canvas) (path : Path) (t t' : FileTree),
      (c.exportTo path .json : Work Unit).run t = (.ok (), t') →
        (importFrom path : Work Canvas).run t' = (.ok c, t')) ∧
    (∀ (path : Path) (t : FileTree),
      (∃ e, (importFrom path : Work Canvas).run t = (.error e, t)) ∨
        ∃ (content : ByteArray) (side : Nat) (pixels : List Color) (c : Canvas),
          t.read path = .ok content ∧ Describes content side pixels ∧
            pixels.length = side * side ∧
            (importFrom path : Work Canvas).run t = (.ok c, t) ∧
            c.side = side ∧ c.pixels.toList = pixels) ∧
    ∀ (path : Path) (t : FileTree) (content : ByteArray) (side : Nat) (pixels : List Color),
      t.read path = .ok content → Describes content side pixels → pixels.length ≠ side * side →
        (importFrom path : Work Canvas).run t =
          (.error (.document (.pixelCount pixels.length side)), t) := by
  refine ⟨fun c path t t' done => import_of_export done, fun path t => ?_, ?_⟩
  · -- any file
    cases found : t.read path with
    | error e =>
      left
      refine ⟨.file e, ?_⟩
      rw [importFrom, Document.load, Work.run_bind, Work.run_readText_of_error found]
    | ok content =>
      rw [importFrom, Work.run_load_eq found]
      cases made : Work.described ofJson content with
      | error e => exact .inl ⟨e, rfl⟩
      | ok c =>
        right
        refine ⟨content, c.side, c.pixels.toList, c, rfl, described_eq_ok_iff.mp made, ?_, rfl, rfl,
          rfl⟩
        rw [Array.length_toList, c.size_eq]
  · -- a file whose side and pixels do not go together
    intro path t content side pixels found describes other
    rw [importFrom, Work.run_load_eq found, described_eq_pixelCount describes other]

/-- A canvas with one clear pixel. -/
def pierced : Canvas := (Canvas.filled 2 .white).set ⟨1, 0⟩ .clear

/-- A canvas goes to a new folder and comes back, and a side whose square is a power of two beyond
64 bits does not go with no pixels. -/
theorem import_export_pierced :
    (importFrom (.ofText "out/a.json") : Work Canvas).run
        ⟨[("out", .folder [("a.json", .file pierced.toJson.pretty.toUTF8)])]⟩ =
      (.ok pierced, ⟨[("out", .folder [("a.json", .file pierced.toJson.pretty.toUTF8)])]⟩) ∧
    (importFrom (.ofText "b.json") : Work Canvas).run
        ⟨[("b.json", .file "[4294967296, []]".toUTF8)]⟩ =
      (.error (.document (.pixelCount 0 4294967296)),
        ⟨[("b.json", .file "[4294967296, []]".toUTF8)]⟩) := by
  constructor
  · exact import_export.1 pierced (.ofText "out/a.json") .empty _ (by rfl)
  · have describes : Describes "[4294967296, []]".toUTF8 4294967296 [] :=
      describes_of_read (by decide +kernel)
    exact import_export.2.2 (.ofText "b.json") _ _ 4294967296 [] (by rfl) describes (by decide)

end Canvas
end BrushScript
