import BrushScript.Script
import BrushScript.Proofs.Machine.Spawn
import BrushScript.Proofs.Machine.Termination
import BrushScript.Proofs.Syntax.Parsed
import BrushScript.Proofs.Typing.Program

/-!
# How a script opens

A script without problems is a program that opens with a `Spawn`: the parser asks for the word
before anything else, and the line that it opens is the first statement. `robot_invariant` joins
this with what the machine does: no state of a run has the robot off the canvas, and a compiled
script can be without a robot at its first statement only.

Only the first half of this is about scripts. That the robot is on the canvas, or nowhere yet, holds
in every state that the machine can reach, in every program. That it is somewhere after the first
statement takes a program that opens with a `Spawn`, which is what the parser sees to
(`opensWithSpawn_parse`). And that the first statement is carried out only once takes a `Spawn` that
has no label before it, so that no jump leads back to it.
-/

namespace BrushScript

open Syntax Typing

/-! ## Parsing

The parser looks at the first word behind the line breaks. If it is not that of a `Spawn` there is a
problem, and if it is, the statement read from there on is a call of it, or there is a problem as
well.
-/

namespace Syntax.Parser

variable {stop : Span} {t : Located Token} {rest : Tokens}

/-- A statement that the word of a command opens is a call of it. -/
theorem action_of_command {c : Command} (word : t.value = .builtin (.command c)) {s : Stmt}
    (parsed : (parseStmt stop (t :: rest)).outcome = .ok s) :
    ∃ args, s.action = .call (.command c) args := by
  have yields : (parseStmt stop (t :: rest)).Yields s (parseStmt stop (t :: rest)).rest :=
    ⟨parsed, rfl⟩
  obtain ⟨action, mid, _, acted, ended⟩ := Parsed.yields_andThen_iff.mp yields
  obtain ⟨value, span⟩ := t
  cases word
  obtain ⟨⟨args, place⟩, -, rfl⟩ := Parsed.yields_map_iff.mp acted
  split at ended
  · obtain ⟨rfl, -⟩ := Parsed.yields_accept_iff.mp ended
    exact ⟨args, rfl⟩
  · exact absurd ended Parsed.not_yields_reject

/-- The statements of a script that opens with a `Spawn` and has no problems do so as well. -/
theorem opensWithSpawn_collect (spawn : t.value = .builtin (.command .spawn))
    (clean : (collect (parseStmts stop (t :: rest))).problems = []) :
    (collect (parseStmts stop (t :: rest))).program.OpensWithSpawn := by
  have line : t.value ≠ .newline ∧ t.value ≠ .eof := by
    rw [spawn]
    exact ⟨nofun, nofun⟩
  rw [parseStmts, if_neg line.1, if_neg line.2] at clean ⊢
  dsimp only at clean ⊢
  cases parsed : (parseStmt stop (t :: rest)).outcome with
  | ok s => -- the first statement is the one that was read
    obtain ⟨args, spawns⟩ := action_of_command spawn parsed
    exact ⟨Nat.zero_lt_succ _, args, spawns⟩
  | error problem =>
    rw [parsed] at clean
    cases clean

/-- A script that is read without problems opens with a `Spawn`. -/
theorem opensWithSpawn_parse {tokens : Tokens} (clean : (parse tokens).problems = []) :
    (parse tokens).program.OpensWithSpawn := by
  unfold parse at *
  dsimp only at *
  generalize tokens.dropWhile (·.value = .newline) = script at *
  cases script with
  | nil => cases clean
  | cons t rest =>
    dsimp only at *
    by_cases ends : t.value = .eof
    · -- there is nothing but line breaks
      rw [if_pos ends] at clean
      cases clean
    by_cases spawn : t.value = .builtin (.command .spawn)
    · rw [if_neg ends, if_pos spawn] at clean ⊢
      exact opensWithSpawn_collect spawn clean
    · -- the word of another statement
      rw [if_neg ends, if_neg spawn] at clean
      cases clean

end Syntax.Parser

/-! ## Compiling

To compile is to lex, to parse and to check, and to have no problems from any of the three.
-/

namespace Script

variable {source : String} {p : Program}

theorem compile_eq_ok_iff : compile source = .ok p ↔ examine source = (p, []) := by
  unfold compile
  generalize examine source = examined
  obtain ⟨program, problems⟩ := examined
  cases problems with
  | nil => simp
  | cons problem problems => simp

/-- A script that compiles is a program that the parser and the checker have nothing to say
about. -/
theorem compiled (h : compile source = .ok p) :
    Parser.parse (Lexer.lex source).tokens = ⟨p, []⟩ ∧ Typing.analyze p = [] := by
  rw [compile_eq_ok_iff, examine] at h
  obtain ⟨same, clean⟩ := Prod.mk.inj h
  obtain ⟨before, checked⟩ := List.append_eq_nil_iff.mp clean
  obtain ⟨-, parsed⟩ := List.append_eq_nil_iff.mp before
  rw [List.map_eq_nil_iff] at parsed checked
  rw [same] at checked
  refine ⟨?_, checked⟩
  rw [← same, ← parsed]

theorem opensWithSpawn (h : compile source = .ok p) : p.OpensWithSpawn := by
  have parsed := (compiled h).1
  have opens := Parser.opensWithSpawn_parse (congrArg Parser.Result.problems parsed)
  rw [parsed] at opens
  exact opens

end Script

/-! ## Runs

The first part is an invariant of the machine. For the second one, the run is split at its first
step, which is the `Spawn`.
-/

namespace State

/-- In every run of every program the robot is on the canvas or nowhere yet, and the brush is an odd
positive number of cells wide, in every reachable state and in the middle of every statement. A
script that compiles opens with a `Spawn`. That statement is carried out once, the robot stands
somewhere from then on, and only there can the run stop for want of a robot, with the canvas
untouched. -/
theorem robot_invariant :
    (∀ (p : Program) (options : RunOptions) (canvas : Canvas) (s : State p),
      Reaches options (start p canvas) s →
        s.machine.Sound canvas.side ∧
        (∀ b args, (s.machine.call options.resolver b args).machine.Sound canvas.side) ∧
        ∀ q step n, (s.machine.drawCells q step n).machine.Sound canvas.side) ∧
    ∀ (source : String) (p : Program), Script.compile source = .ok p →
      (∃ (here : 0 < p.statements.size) (args : List Expr),
        p.statements[0].action = .call (.command .spawn) args) ∧
      ∀ (options : RunOptions) (canvas : Canvas),
        (∀ s, Reaches options (start p canvas) s →
          s = start p canvas ∨ 0 < s.pc ∧ s.machine.pointer.isSome = true) ∧
        (∀ report, (p.run options canvas).result = .ok report → report.pointer.isSome = true) ∧
        ∃ trace, p.Executes options canvas trace (p.run options canvas) ∧
          trace.head? = some 0 ∧ trace.count 0 = 1 ∧
          ∀ e, (p.run options canvas).result = .error (.fault e) → e.fault = .notSpawned →
            trace = [0] ∧ (p.run options canvas).canvas = canvas := by
  refine ⟨?_, ?_⟩
  · -- every program: the states, and the machine inside of a call or of a line
    intro p options canvas s reaches
    have sound := reaches.sound
    refine ⟨sound, fun b args => ?_, fun q step n => ?_⟩
    · exact sound.of_follows (s.machine.call_meets options.resolver b args).follows
    · exact sound.of_follows (s.machine.follows_drawCells q step n)
  · intro source p compiles
    have opens := Script.opensWithSpawn compiles
    have distinct : duplicateLabel? [] p.statements.toList = none :=
      duplicateLabel?_eq_none (List.append_eq_nil_iff.mp (Script.compiled compiles).2).1
    refine ⟨opens, fun options canvas => ⟨fun s reaches => reaches.opened opens, ?_, ?_⟩⟩
    · -- a run to the end stops at a state other than the first
      intro report reported
      obtain ⟨s, reaches, ended, rfl, -⟩ := end_cases reported
      rcases reaches.opened opens with rfl | ⟨-, placed⟩
      · exact absurd opens.1 ended
      · exact placed
    obtain ⟨trace, execution⟩ := execution_run options (start p canvas)
    obtain ⟨later, same, once⟩ := execution.opening opens
    have ran : p.run options canvas = (start p canvas).run options := by
      rw [Program.run, distinct]
    rw [ran]
    refine ⟨trace, .start distinct execution, ?_, ?_, ?_⟩
    · rw [same, List.head?_cons]
    · rw [same, List.count_cons_self, List.count_eq_zero.mpr once]
    · -- a stop for want of a robot
      intro e stopped unplaced
      rw [Outcome.eq_of_result stopped] at execution
      exact execution.eq_of_notSpawned opens unplaced

/-- A place on the first line, in text without any long characters. -/
def firstLine (start stop : Nat) : Span := ⟨start, stop, 1, start + 1⟩

/-- The program of a script that asks for the robot before there is one. -/
def tooEarly : Program :=
  ⟨#[⟨.call (.command .spawn) [.call (.query .actualX) [] (firstLine 6 18),
    .call (.query .actualX) [] (firstLine 19 31)], firstLine 0 32⟩]⟩

theorem lex_tooEarly :
    Lexer.lex "Spawn(GetActualX(),GetActualX())" =
      ⟨[⟨.builtin (.command .spawn), firstLine 0 5⟩, ⟨.sign .leftParen, firstLine 5 6⟩,
        ⟨.builtin (.query .actualX), firstLine 6 16⟩, ⟨.sign .leftParen, firstLine 16 17⟩,
        ⟨.sign .rightParen, firstLine 17 18⟩, ⟨.sign .comma, firstLine 18 19⟩,
        ⟨.builtin (.query .actualX), firstLine 19 29⟩, ⟨.sign .leftParen, firstLine 29 30⟩,
        ⟨.sign .rightParen, firstLine 30 31⟩, ⟨.sign .rightParen, firstLine 31 32⟩,
        ⟨.eof, firstLine 32 32⟩], []⟩ := by
  decide +kernel

theorem robot_invariant_tooEarly :
    Script.compile "Spawn(GetActualX(),GetActualX())" = .ok tooEarly ∧
      (tooEarly.run ⟨none, 9⟩ (Canvas.filled 1 .white)).result =
        .error (.fault ⟨.notSpawned, firstLine 0 32⟩) ∧
      tooEarly.Executes ⟨none, 9⟩ (Canvas.filled 1 .white) [0]
        (tooEarly.run ⟨none, 9⟩ (Canvas.filled 1 .white)) ∧
      (tooEarly.run ⟨none, 9⟩ (Canvas.filled 1 .white)).canvas = Canvas.filled 1 .white := by
  have compiles : Script.compile "Spawn(GetActualX(),GetActualX())" = .ok tooEarly := by
    rw [Script.compile_eq_ok_iff, Script.examine, lex_tooEarly]
    cbv
  have stopped : (tooEarly.run ⟨none, 9⟩ (Canvas.filled 1 .white)).result =
      .error (.fault ⟨.notSpawned, firstLine 0 32⟩) := by cbv
  obtain ⟨-, opened⟩ := robot_invariant.2 "Spawn(GetActualX(),GetActualX())" tooEarly compiles
  obtain ⟨-, -, trace, executes, -, -, unplaced⟩ := opened ⟨none, 9⟩ (Canvas.filled 1 .white)
  obtain ⟨rfl, untouched⟩ := unplaced _ stopped rfl
  exact ⟨compiles, stopped, executes, untouched⟩

end State
end BrushScript
