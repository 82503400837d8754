import BrushScript.Store.Document
import BrushScript.Store.FileTree

/-!
# Work on a file tree

Whatever is done with files can be done on a file tree in memory. Such work ends in a result or in a
problem and leaves a tree, and one piece of work behind another starts on the tree that the first
one left (`run_bind`), unless that ended in a problem.

A tree in memory takes the place of a file system here. The programs that store something are
written for any monad with the operations on files that they need, and `Work` is the one in which
their effect can be looked at: a state that is the tree, and a result that may be a problem. The
tree is kept where a problem ends the work, as it is when a program fails half way.
-/

namespace BrushScript

/-- Something to do on a file tree, which may end in a problem. -/
abbrev Work (α : Type) := ExceptT StoreError (StateM FileTree) α

namespace Work

variable {α β : Type}

theorem run_lift (request : StateM FileTree α) (t : FileTree) :
    (liftM request : Work α).run t = (.ok (request.run t).1, (request.run t).2) := rfl

theorem run_bind (x : Work α) (f : α → Work β) (t : FileTree) :
    (x >>= f).run t = match x.run t with
      | (.ok a, s) => (f a).run s
      | (.error e, s) => (.error e, s) := by
  change ExceptT.bindCont f (x.run t).1 (x.run t).2 = _
  obtain ⟨result, s⟩ := x.run t
  cases result with
  | ok a => rfl
  | error e => rfl

theorem bind_eq_ok_iff {x : Work α} {f : α → Work β} {t u : FileTree} {b : β} :
    (x >>= f).run t = (.ok b, u) ↔
      ∃ a s, x.run t = (.ok a, s) ∧ (f a).run s = (.ok b, u) := by
  rw [run_bind]
  constructor
  · intro done
    split at done
    · next a s first => exact ⟨a, s, first, done⟩
    · cases done
  · rintro ⟨a, s, first, second⟩
    rw [first]
    exact second

theorem run_forM_cons {f : β → Work Unit} {b : β} {t s : FileTree}
    (first : (f b).run t = (.ok (), s)) (bs : List β) :
    ((b :: bs).forM f).run t = (bs.forM f).run s := by
  have whole : (b :: bs).forM f = f b >>= fun _ => bs.forM f := List.forM_cons
  rw [whole, run_bind, first]

/-! ## Documents

A document is loaded by reading the bytes of its file, decoding them as a text, parsing the text and
making sense of the value. Only the first of these looks at the tree, and none changes it.
-/

theorem fromUTF8?_toUTF8 (s : String) : String.fromUTF8? s.toUTF8 = some s :=
  dif_pos s.isValidUTF8

/-- Only UTF-8 makes a text. -/
theorem fromUTF8?_eq_some_iff {content : ByteArray} {s : String} :
    String.fromUTF8? content = some s ↔ content = s.toUTF8 := by
  constructor
  · intro decoded
    unfold String.fromUTF8? at decoded
    split at decoded
    · cases decoded
      rfl
    · cases decoded
  · rintro rfl
    exact fromUTF8?_toUTF8 s

/-- The text of a file with some content. -/
def textOf (content : ByteArray) : Except StoreError String :=
  match String.fromUTF8? content with
  | some s => .ok s
  | none => .error (.file .notUtf8)

theorem run_readText {t : FileTree} {path : Path} {content : ByteArray}
    (h : t.read path = .ok content) :
    (Storage.readText path : Work String).run t = (textOf content, t) := by
  have bytes : (Storage.attempt (Storage.read path) : Work ByteArray).run t = (.ok content, t) := by
    show ((t.read path).mapError StoreError.file, t) = _
    rw [h]
    rfl
  rw [Storage.readText, run_bind, bytes, textOf]
  dsimp only
  cases String.fromUTF8? content <;> rfl

theorem run_readText_of_error {t : FileTree} {path : Path} {e : FileError}
    (h : t.read path = .error e) :
    (Storage.readText path : Work String).run t = (.error (.file e), t) := by
  have refused : (Storage.attempt (Storage.read path) : Work ByteArray).run t =
      (.error (.file e), t) := by
    show ((t.read path).mapError StoreError.file, t) = _
    rw [h]
    rfl
  rw [Storage.readText, run_bind, refused]

/-- What a file with some content describes. -/
def described (decode : Json → Except DocumentError α) (content : ByteArray) :
    Except StoreError α :=
  (textOf content).bind fun s => (Document.parse decode s).mapError .document

theorem described_toUTF8 (decode : Json → Except DocumentError α) (s : String) :
    described decode s.toUTF8 = (Document.parse decode s).mapError .document := by
  rw [described, textOf, fromUTF8?_toUTF8]
  rfl

theorem described_eq_ok_iff {decode : Json → Except DocumentError α} {content : ByteArray} {a : α} :
    described decode content = .ok a ↔
      ∃ s, content = s.toUTF8 ∧ Document.parse decode s = .ok a := by
  unfold described textOf
  constructor
  · intro whole
    split at whole
    · -- the content is a text
      next s decoded =>
      refine ⟨s, fromUTF8?_eq_some_iff.mp decoded, ?_⟩
      change (Document.parse decode s).mapError StoreError.document = .ok a at whole
      cases parsed : Document.parse decode s with
      | ok b =>
        rw [parsed] at whole
        cases whole
        rfl
      | error e =>
        rw [parsed] at whole
        cases whole
    · cases whole
  · -- the text is what its bytes decode to
    rintro ⟨s, rfl, parsed⟩
    rw [fromUTF8?_toUTF8]
    show (Document.parse decode s).mapError StoreError.document = .ok a
    rw [parsed]
    rfl

/-- Loading a file gives what its content describes, and changes nothing. -/
theorem run_load_eq {decode : Json → Except DocumentError α} {t : FileTree} {path : Path}
    {content : ByteArray} (h : t.read path = .ok content) :
    (Document.load decode path : Work α).run t = (described decode content, t) := by
  rw [Document.load, run_bind, run_readText h, described]
  cases textOf content with
  | error e => rfl
  | ok s =>
    dsimp only [Except.bind]
    cases Document.parse decode s <;> rfl

theorem run_load {decode : Json → Except DocumentError α} {t : FileTree} {path : Path} {s : String}
    {a : α} (h : t.read path = .ok s.toUTF8) (parsed : Document.parse decode s = .ok a) :
    (Document.load decode path : Work α).run t = (.ok a, t) := by
  rw [run_load_eq h, described_eq_ok_iff.mpr ⟨s, rfl, parsed⟩]

/-- Reading a document changes nothing. -/
theorem run_load_snd (decode : Json → Except DocumentError α) (path : Path) (t : FileTree) :
    ((Document.load decode path : Work α).run t).2 = t := by
  cases h : t.read path with
  | ok content => rw [run_load_eq h]
  | error e =>
    rw [Document.load, run_bind, run_readText_of_error h]

end Work
end BrushScript
