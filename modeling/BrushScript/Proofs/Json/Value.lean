import BrushScript.Json.Printer
import BrushScript.Proofs.Json.Grammar

/-!
# Values survive JSON

What is written for a value follows the grammar (`Plain.writes`), if its numbers are integers and
its texts have readings. So it is read as that value (`Plain.read?_pretty`).

The two conditions are those of `Plain`. A number that was read keeps the text of its literal, which
need not be the notation of an integer, and a text that was read may have no characters. What a
program makes itself is always plain: records of integers, texts and lists of these.

The writer puts every item and every member on a line of its own. `itemPiece` and `memberPiece` say
which blanks that makes, and with them the lines of an array or an object are the pieces of the
grammar in a row.
-/

namespace BrushScript.Json

/-- A value that can be written and read: its numbers are integers, its texts have readings. -/
inductive Plain : Json → Prop
  | null : Plain .null
  | boolean (b : Bool) : Plain (.boolean b)
  | int (n : Int) : Plain (.int n)
  | text (s : String) : Plain (.text s)
  | array {items : List Json} (each : ∀ item ∈ items, Plain item) : Plain (.array items)
  | object {members : List (Option String × Json)} (keys : ∀ m ∈ members, ∃ key, m.1 = some key)
      (values : ∀ m ∈ members, Plain m.2) : Plain (.object members)

theorem Plain.record {members : List (String × Json)} (each : ∀ m ∈ members, m.2.Plain) :
    (Json.record members).Plain :=
  .object (List.forall_mem_map.mpr fun m _ => ⟨m.1, rfl⟩) (List.forall_mem_map.mpr each)

theorem Plain.option {α : Type} {f : α → Json} {a : Option α} (plain : ∀ a, (f a).Plain) :
    (Json.option f a).Plain := by
  cases a with
  | none => exact .null
  | some a => exact plain a

/-! ## What is written

The two functions that write the inside of an array and of an object, as lists of pieces. The blanks
in front of a piece are its line break and its indentation, and there are none behind it.
-/

theorem gap_newLine (depth : Nat) : Gap (newLine depth) := by
  intro c mem
  obtain rfl | mem := List.mem_cons.mp mem
  · rfl
  · rw [List.eq_of_mem_replicate mem]
    rfl

/-- An item on a line of its own. -/
def itemPiece (depth : Nat) (item : Json) : Piece :=
  ⟨item, writeIndented depth item, newLine depth, [], gap_newLine depth, gap_nil⟩

/-- A member on a line of its own. -/
def memberPiece (depth : Nat) (m : Option String × Json) : MemberPiece where
  key := some (m.1.getD "")
  name := writeText m.1
  before := newLine depth
  behind := []
  piece := ⟨m.2, writeIndented depth m.2, [' '], [], List.forall_mem_singleton.mpr rfl, gap_nil⟩
  gap_before := gap_newLine depth
  gap_behind := gap_nil
  written := writesText_quote _

theorem writeIndentedItems_eq (depth : Nat) (items : List Json) :
    writeIndentedItems depth items = separated ((items.map (itemPiece depth)).map (·.whole)) := by
  have whole (item : Json) :
      (itemPiece depth item).whole = newLine depth ++ writeIndented depth item := by
    simp [Piece.whole, itemPiece]
  induction items with
  | nil => simp [writeIndentedItems, separated]
  | cons item items ih =>
    cases items with
    | nil => simp [writeIndentedItems, separated, whole] -- the last item, without a comma
    | cons next items =>
      rw [writeIndentedItems, ih]
      · simp [separated, whole]
      · exact List.cons_ne_nil _ _

theorem writeIndentedMembers_eq (depth : Nat) (members : List (Option String × Json)) :
    writeIndentedMembers depth members =
      separated ((members.map (memberPiece depth)).map (·.whole)) := by
  have whole (key : Option String) (value : Json) : (memberPiece depth (key, value)).whole =
      newLine depth ++ writeText key ++ ':' :: ' ' :: writeIndented depth value := by
    simp [MemberPiece.whole, Piece.whole, memberPiece]
  induction members with
  | nil => simp [writeIndentedMembers, separated]
  | cons member members ih =>
    obtain ⟨key, value⟩ := member
    cases members with
    | nil => simp [writeIndentedMembers, separated, whole] -- the last member, without a comma
    | cons next members =>
      rw [writeIndentedMembers, ih]
      · simp [separated, whole]
      · exact List.cons_ne_nil _ _

theorem writes_array {depth : Nat} {items : List Json}
    (each : ∀ item ∈ items, Writes item (writeIndented (depth + 1) item)) :
    Writes (.array items) (writeIndented depth (.array items)) := by
  cases items with
  -- nothing is written between the brackets
  | nil => exact .array gap_nil (nofun : ∀ p ∈ ([] : List Piece), Writes p.value p.text)
  | cons item items =>
    have pieces : ∀ p ∈ (item :: items).map (itemPiece (depth + 1)), Writes p.value p.text :=
      List.forall_mem_map.mpr each
    have values : ((item :: items).map (itemPiece (depth + 1))).map (·.value) = item :: items := by
      rw [List.map_map]
      exact List.map_id _
    have written := Writes.array (gap_newLine depth) pieces
    rwa [values, ← writeIndentedItems_eq, ← List.append_assoc] at written

theorem writes_object {depth : Nat} {members : List (Option String × Json)}
    (keys : ∀ m ∈ members, ∃ key, m.1 = some key)
    (values : ∀ m ∈ members, Writes m.2 (writeIndented (depth + 1) m.2)) :
    Writes (.object members) (writeIndented depth (.object members)) := by
  cases members with
  | nil =>
    exact .object gap_nil
      (nofun : ∀ m ∈ ([] : List MemberPiece), Writes m.piece.value m.piece.text)
  | cons member members =>
    have pieces : ∀ m ∈ (member :: members).map (memberPiece (depth + 1)),
        Writes m.piece.value m.piece.text := List.forall_mem_map.mpr values
    have named : ((member :: members).map (memberPiece (depth + 1))).map (·.member) =
        member :: members := by
      rw [List.map_map]
      refine (List.map_congr_left fun m mem => ?_).trans (List.map_id _)
      obtain ⟨key, same⟩ := keys m mem
      have named : some (m.1.getD "") = m.1 := by rw [same, Option.getD_some]
      exact Prod.ext_iff.mpr ⟨named, rfl⟩
    have written := Writes.object (gap_newLine depth) pieces
    rwa [named, ← writeIndentedMembers_eq, ← List.append_assoc] at written

/-- What is written for a value is a text of it. -/
theorem Plain.writes {j : Json} (plain : j.Plain) (depth : Nat) :
    Writes j (writeIndented depth j) := by
  -- what is inside an array or an object is written one level deeper
  induction plain generalizing depth with
  | null => exact .null
  | boolean b =>
    cases b with
    | true => exact .yes
    | false => exact .no
  | int n =>
    have written := Writes.number (writesNumber_int n)
    rwa [String.ofList_toList] at written
  | text s => exact .string (writesText_quote s)
  | array _ ih => exact writes_array fun item mem => ih item mem (depth + 1)
  | object keys _ ih => exact writes_object keys fun m mem => ih m mem (depth + 1)

/-- What is written for a value is a document of it. -/
theorem Plain.writesDocument {j : Json} (plain : j.Plain) : WritesDocument j j.pretty := by
  refine ⟨⟨j, writeIndented 0 j, [], [], gap_nil, gap_nil⟩, rfl, plain.writes 0, ?_⟩
  rw [pretty, String.toList_ofList, Piece.whole, List.nil_append, List.append_nil]

/-- A document is read as it was written. -/
theorem Plain.read?_pretty {j : Json} (plain : j.Plain) : read? j.pretty = some (j, true) :=
  plain.writesDocument.read?

end BrushScript.Json
