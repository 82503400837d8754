import BrushScript.Proofs.Machine.Relocation
import BrushScript.Proofs.Syntax.Keyword
import BrushScript.Proofs.Syntax.LineEnding
import BrushScript.Proofs.Typing.Relocation
import BrushScript.Script

/-!
# Spelling that makes no difference

A script may be written with other line endings, and its commands, queries and jumps in any case
(`Respelling`). The tokens then are the same on the same lines and columns, at most at other
offsets, and everything behind the lexer only carries the places of the tokens along. So the script
runs in the same way: `run_respelled`.

That places are only carried along is said by moving them: for a function on places, `relocate`
applies it to all the places of a list of tokens, of a program, of problems and of an outcome, and
each pass of the compiler commutes with it (`run_relocate`). A function may be applied if it agrees
with the merging of places, as a parser makes the place of an expression from those of its parts.
What another spelling does to places is such a function, and it keeps their lines and columns.

`Respelling` is one change of the spelling, and the theorem is about any number of them, one after
the other. So all ways to write a script are covered that differ in line endings and in the case of
words, in any combination.
-/

namespace BrushScript

open Syntax Lexer

namespace Script

variable {f : Span → Span} {source source' : String}

/-! ## The same at other places

The lemmas of the passes, joined: if the lexer finds the same tokens at other places, the same
happens further on, and the problems are told of the other places.
-/

/-- A failure at other places. -/
def Failure.relocate (f : Span → Span) : Failure → Failure
  | .compile problems => .compile (problems.map (·.relocate f))
  | .stop why => .stop (why.relocate f)

/-- What a run came to, with its problems at other places. -/
def Outcome.relocate (f : Span → Span) (o : Outcome) : Outcome :=
  ⟨o.result.mapError (Failure.relocate f), o.canvas⟩

theorem examine_relocate (respects : RespectsMerge f)
    (lexed : lex source' = (lex source).relocate f) :
    examine source' =
      ((examine source).1.relocate f, (examine source).2.map (·.relocate f)) := by
  have parsed : Parser.parse (lex source').tokens =
      (Parser.parse (lex source).tokens).relocate f := by
    rw [lexed]
    exact Parser.parse_relocate respects (endsInEof_lex source)
  unfold examine
  dsimp only
  rw [parsed]
  dsimp only [Parser.Result.relocate]
  rw [Typing.analyze_relocate, lexed]
  dsimp only [Result.relocate]
  simp only [List.map_append, List.map_map]
  rfl

/-- If the tokens of a script are moved, the script runs in the same way, and its problems are
moved. -/
theorem run_relocate (respects : RespectsMerge f) (lexed : lex source' = (lex source).relocate f)
    (options : RunOptions) (canvas : Canvas) :
    run source' options canvas = (run source options canvas).relocate f := by
  unfold run compile
  rw [examine_relocate respects lexed]
  obtain ⟨program, problems⟩ := examine source
  cases problems with
  | nil => -- the script compiles, and runs as a program
    have same := BrushScript.run_relocate f program options canvas
    show Outcome.mk (((program.relocate f).run options canvas).result.mapError .stop) _ = _
    rw [same]
    show Outcome.mk (((program.run options canvas).result.mapError (Stop.relocate f)).mapError
      Failure.stop) _ =
      Outcome.mk (((program.run options canvas).result.mapError Failure.stop).mapError _) _
    cases (program.run options canvas).result <;> rfl
  | cons problem problems => rfl -- the script does not compile

/-! ## What is told

A caller sees places as lines and columns only. So an outcome with its places moved tells the same,
if lines and columns are kept.
-/

/-- What the caller of a run is told. -/
inductive Told where
  | report (report : Report)
  | problems (lines : List String)
  | fault (fault : Fault) (line column : UInt32)
  | counterFull
  deriving DecidableEq

/-- What is told of a run: its report, the lines that report the problems, or the fault with the
line and the column of its statement. -/
def Outcome.told (o : Outcome) : Told :=
  match o.result with
  | .ok report => .report report
  | .error (.compile problems) => .problems (problems.map Diagnostic.render)
  | .error (.stop (.fault e)) => .fault e.fault e.span.line e.span.column
  | .error (.stop .counterFull) => .counterFull

/-- Moving keeps the line and the column of a place. -/
def KeepsLines (f : Span → Span) : Prop := ∀ s, (f s).line = s.line ∧ (f s).column = s.column

theorem render_relocate (keeps : KeepsLines f) (d : Diagnostic) :
    Diagnostic.render (d.relocate f) = d.render := by
  unfold Diagnostic.render Located.relocate
  rw [(keeps d.span).1, (keeps d.span).2]

theorem told_relocate (keeps : KeepsLines f) (o : Outcome) : (o.relocate f).told = o.told := by
  obtain ⟨result, canvas⟩ := o
  match result with
  | .ok report => rfl
  | .error (.compile problems) =>
    show Told.problems ((problems.map (·.relocate f)).map _) = Told.problems _
    rw [List.map_map]
    exact congrArg Told.problems (List.map_congr_left fun d _ => render_relocate keeps d)
  | .error (.stop (.fault e)) =>
    show Told.fault e.fault (f e.span).line (f e.span).column = _
    rw [(keeps e.span).1, (keeps e.span).2]
    rfl
  | .error (.stop .counterFull) => rfl

/-! ## Other spellings

Line feeds may become any of the endings as long as the text has no carriage return of its own,
which would end lines as well. A word may change its case wherever the lexer has found it as a word.
-/

/-- One step from one spelling of a script to another: another line ending in place of the line
feeds, or another case for the letters of a word of the language. -/
inductive Respelling : (source source' : String) → Prop
  | lineEnding {source : String} (e : LineEnding) (plain : '\r' ∉ source.toList) :
      Respelling source (withEnding e source)
  | keyword {source : String} {before word word' after : List Char} {t : Located Token}
      (mem : t ∈ (lex source).tokens) (keyword : t.value.isKeyword = true)
      (whole : source.toList = before ++ word ++ after) (place : t.span = stretch before word)
      (same : word'.map Char.toLower = word.map Char.toLower) :
      Respelling source (String.ofList (before ++ word' ++ after))

/-- What a token is, and its line and column. -/
def seen (t : Located Token) : Token × UInt32 × UInt32 := (t.value, t.span.line, t.span.column)

/-- Another spelling has the same tokens and problems, at most at other offsets. -/
theorem Respelling.lex_eq (h : Respelling source source') :
    ∃ f, RespectsMerge f ∧ KeepsLines f ∧ lex source' = (lex source).relocate f := by
  cases h with
  | lineEnding e plain => -- the lexer moves the offsets past each ending
    exact ⟨_, respectsMerge_moveOffsets (strictMono_movedOffset e _), fun _ => ⟨rfl, rfl⟩,
      lex_withEnding e plain⟩
  | keyword mem keyword whole place same => -- the places are the same
    refine ⟨id, fun _ _ => rfl, fun _ => ⟨rfl, rfl⟩, ?_⟩
    rw [lex_recased mem keyword whole place same, Result.relocate_id]

theorem Respelling.seen_eq (h : Respelling source source') :
    (lex source').tokens.map seen = (lex source).tokens.map seen := by
  obtain ⟨f, -, keeps, lexed⟩ := h.lex_eq
  rw [lexed, Result.relocate, List.map_map]
  refine List.map_congr_left fun t _ => ?_
  show (t.value, (f t.span).line, (f t.span).column) = _
  rw [(keeps t.span).1, (keeps t.span).2]
  rfl

theorem Respelling.run_eq (h : Respelling source source') (options : RunOptions)
    (canvas : Canvas) :
    (run source' options canvas).told = (run source options canvas).told ∧
      (run source' options canvas).canvas = (run source options canvas).canvas := by
  obtain ⟨f, respects, keeps, lexed⟩ := h.lex_eq
  rw [run_relocate respects lexed]
  exact ⟨told_relocate keeps _, rfl⟩

/-- However a script is spelled, with any line endings and any case of its words, it has the same
tokens on the same lines and columns. And on every canvas and with all options it comes to the same
report, the same fault or the same lines of problems, and leaves the same canvas. -/
theorem run_respelled (h : Relation.ReflTransGen Respelling source source') :
    (lex source').tokens.map seen = (lex source).tokens.map seen ∧
      ∀ (options : RunOptions) (canvas : Canvas),
        (run source' options canvas).told = (run source options canvas).told ∧
          (run source' options canvas).canvas = (run source options canvas).canvas := by
  induction h with
  | refl => exact ⟨rfl, fun _ _ => ⟨rfl, rfl⟩⟩
  | tail _ last ih =>
    obtain ⟨tokens, runs⟩ := ih
    refine ⟨last.seen_eq.trans tokens, fun options canvas => ?_⟩
    obtain ⟨told, left⟩ := runs options canvas
    obtain ⟨told', left'⟩ := last.run_eq options canvas
    exact ⟨told'.trans told, left'.trans left⟩

/-- A script with a text that a line break cuts off. -/
def cutOff : String := "Spawn(\"0\nGoTo"

theorem lex_cutOff :
    lex cutOff =
      ⟨[⟨.builtin (.command .spawn), ⟨0, 5, 1, 1⟩⟩, ⟨.sign .leftParen, ⟨5, 6, 1, 6⟩⟩,
        ⟨.unknown "\"0...", ⟨6, 8, 1, 7⟩⟩, ⟨.newline, ⟨8, 9, 1, 9⟩⟩, ⟨.goTo, ⟨9, 13, 2, 1⟩⟩,
        ⟨.eof, ⟨13, 13, 2, 5⟩⟩], [⟨.newlineInString, ⟨6, 8, 1, 7⟩⟩]⟩ := by
  decide +kernel

theorem compile_cutOff :
    compile cutOff = .error [⟨.lexical .newlineInString, ⟨6, 8, 1, 7⟩⟩,
      ⟨.parse .expression, ⟨6, 8, 1, 7⟩⟩, ⟨.parse .bracketBeforeLabel, ⟨13, 13, 2, 5⟩⟩] := by
  rw [compile, examine, lex_cutOff]
  cbv

theorem run_respelled_cutOff :
    Relation.ReflTransGen Respelling cutOff "Spawn(\"0\r\ngOtO" ∧
      (lex "Spawn(\"0\r\ngOtO").tokens.map seen = (lex cutOff).tokens.map seen ∧
      (run "Spawn(\"0\r\ngOtO" ⟨none, 9⟩ (Canvas.filled 1 .white)).told = .problems
        ["[Line 1:7] Lexical Error: Newline in string literal is not allowed.",
          "[Line 1:7] Parse Error: " ++ ParseProblem.message .expression,
          "[Line 2:5] Parse Error: Expected '[' after 'GoTo'."] ∧
      (run "Spawn(\"0\r\ngOtO" ⟨none, 9⟩ (Canvas.filled 1 .white)).canvas =
        (run cutOff ⟨none, 9⟩ (Canvas.filled 1 .white)).canvas := by
  have jump : Respelling cutOff "Spawn(\"0\ngOtO" :=
    @Respelling.keyword cutOff "Spawn(\"0\n".toList "GoTo".toList "gOtO".toList []
      ⟨.goTo, ⟨9, 13, 2, 1⟩⟩ (by rw [lex_cutOff]; decide) rfl rfl rfl rfl
  have lines : Respelling "Spawn(\"0\ngOtO" "Spawn(\"0\r\ngOtO" := .lineEnding .both (by decide)
  have respelled : Relation.ReflTransGen Respelling cutOff "Spawn(\"0\r\ngOtO" :=
    .tail (.single jump) lines
  obtain ⟨tokens, runs⟩ := run_respelled respelled
  obtain ⟨told, left⟩ := runs ⟨none, 9⟩ (Canvas.filled 1 .white)
  refine ⟨respelled, tokens, told.trans ?_, left⟩
  rw [run, compile_cutOff]
  decide +kernel

end Script
end BrushScript
