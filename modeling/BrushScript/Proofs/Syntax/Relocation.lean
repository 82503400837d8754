import BrushScript.Proofs.Syntax.Lines

/-!
# A script is parsed in the same way wherever its tokens stand

If the places of all tokens are moved in a way that respects what two places cover together, what
comes of the script is the same at the places moved (`parse_relocate`). This is put together from
the lines, each of which is parsed by itself.

The parser makes one place itself: that of an expression or a statement, which covers those of its
first and last token. So a function on places has to agree with covering (`RespectsMerge`), and no
more is asked of it. A function that moves all offsets by a strictly monotone one is such, and so is
one that forgets all places.
-/

namespace BrushScript.Syntax

/-- What two places cover together is moved to what the moved places cover. -/
def RespectsMerge (f : Span → Span) : Prop := ∀ s t : Span, f (s.merge t) = (f s).merge (f t)

/-- The program with every span changed. -/
def Program.relocate (f : Span → Span) (p : Program) : Program :=
  ⟨p.statements.map (Stmt.relocate f)⟩

namespace Program

variable {f : Span → Span} {p : Program} {i : Nat}

@[simp] theorem size_relocate : (p.relocate f).statements.size = p.statements.size :=
  Array.size_map

theorem getElem_relocate (moved : i < (p.relocate f).statements.size)
    (here : i < p.statements.size) :
    (p.relocate f).statements[i] = p.statements[i].relocate f :=
  Array.getElem_map ..

end Program

namespace Parser

variable {f : Span → Span}

/-- The result with every span changed. -/
def Result.relocate (f : Span → Span) (r : Result) : Result :=
  ⟨r.program.relocate f, r.problems.map (·.relocate f)⟩

/-- The line with every span changed. -/
def Line.relocate (f : Span → Span) (l : Line) : Line where
  tokens := l.tokens.map (·.relocate f)
  terminator := l.terminator.relocate f
  inside := by
    rw [List.forall_mem_map]
    exact l.inside
  ends := l.ends

/-- A line that has its places moved. -/
def Line.moved (respects : RespectsMerge f) (l : Line) : Transport where
  move := f
  move_merge := respects
  end₁ := l.terminator
  end₂ := l.terminator.relocate f
  behind₁ := []
  behind₂ := []
  ends₁ := l.ends
  ends₂ := l.ends
  span_end := rfl

-- a line that is parsed twice, at its own places and at the places moved
theorem Line.outcome_relocate (respects : RespectsMerge f) {l : Line} (nonempty : l.tokens ≠ []) :
    (l.relocate f).outcome = relocated f (Stmt.relocate f) l.outcome := by
  obtain ⟨tokens, e, inside, ends⟩ := l
  obtain ⟨t, tokens, rfl⟩ := List.exists_cons_of_ne_nil nonempty
  obtain ⟨here, later⟩ := List.forall_mem_cons.mp inside
  have along := (Line.moved respects ⟨t :: tokens, e, inside, ends⟩).alongside_append later
  exact (Transport.lockstep_parseStmt here along default default).outcome_eq

theorem lines_relocate (tokens : Tokens) :
    lines (tokens.map (·.relocate f)) = (lines tokens).map (Line.relocate f) := by
  induction tokens with
  | nil => rfl
  | cons t rest ih =>
    rw [List.map_cons, lines, lines, ih]
    by_cases ends : t.EndsLine
    · have moved : (t.relocate f).EndsLine := ends
      rw [dif_pos ends, dif_pos moved]
      rfl
    · have moved : ¬ (t.relocate f).EndsLine := ends
      rw [dif_neg ends, dif_neg moved]
      cases lines rest <;> rfl

theorem outcomes_relocate (respects : RespectsMerge f) (ls : List Line) :
    outcomes (ls.map (Line.relocate f)) =
      (outcomes ls).map (relocated f (Stmt.relocate f)) := by
  induction ls with
  | nil => rfl
  | cons l ls ih =>
    rw [List.map_cons]
    by_cases empty : l.tokens = []
    · -- a line without tokens comes to nothing
      have empty' : (l.relocate f).tokens = [] := List.map_eq_nil_iff.mpr empty
      rw [outcomes_cons_of_empty empty, outcomes_cons_of_empty empty', ih]
    · -- any other line
      have nonempty' : (l.relocate f).tokens ≠ [] := mt List.map_eq_nil_iff.mp empty
      rw [outcomes_cons empty, outcomes_cons nonempty', List.map_cons, ih,
        Line.outcome_relocate respects empty]

theorem collect_relocate (rs : List (Except (Located ParseProblem) Stmt)) :
    collect (rs.map (relocated f (Stmt.relocate f))) = (collect rs).relocate f := by
  unfold collect Result.relocate Program.relocate
  rw [List.filterMap_map, List.filterMap_map, List.map_toArray, List.map_filterMap,
    List.map_filterMap]
  congr 4
  · funext r
    cases r <;> rfl
  · funext r
    cases r <;> rfl

theorem endsInEof_relocate {tokens : Tokens} (ends : EndsInEof tokens) :
    EndsInEof (tokens.map (·.relocate f)) := by
  obtain ⟨body, e, rfl, eof, only⟩ := ends
  refine ⟨body.map (·.relocate f), e.relocate f, List.map_append, eof, ?_⟩
  rw [List.forall_mem_map]
  exact only

theorem relocate_refusal (problem : Located ParseProblem) :
    (Result.mk ⟨#[]⟩ [problem]).relocate f = ⟨⟨#[]⟩, [problem.relocate f]⟩ :=
  congrArg (fun statements => Result.mk ⟨statements⟩ [problem.relocate f]) Array.map_empty

/-- What comes of a script that the lexer has read is moved with its tokens. -/
theorem parse_relocate (respects : RespectsMerge f) {tokens : Tokens} (ends : EndsInEof tokens) :
    parse (tokens.map (·.relocate f)) = (parse tokens).relocate f := by
  obtain ⟨t, rest, first⟩ := exists_first ends
  have first' : (tokens.map (·.relocate f)).dropWhile (·.value = .newline) =
      t.relocate f :: rest.map (·.relocate f) := by
    rw [List.dropWhile_map, ← List.map_cons, ← first]
    rfl
  rw [parse_of_first ends first, parse_of_first (endsInEof_relocate ends) first', lines_relocate,
    outcomes_relocate respects, collect_relocate]
  -- the first token says the same wherever it stands
  show (if t.value = _ then _ else if t.value = _ then _ else _) = _
  split
  · exact (relocate_refusal ⟨.emptyScript, t.span⟩).symm
  · split
    · rfl
    · exact (relocate_refusal ⟨.spawnNotFirst, t.span⟩).symm

end Parser
end BrushScript.Syntax
