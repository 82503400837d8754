import BrushScript.Proofs.Syntax.Lexer
import BrushScript.Proofs.Syntax.Transport

/-!
# A script is parsed line by line

A script is its lines (`lines`), and what the parser makes of it is what it makes of each line by
itself that is not empty, in order: `parse_eq_collect`. What it makes of a line depends on the
tokens of the line and its end only, and on the places only as far as it tells them
(`Line.bareOutcome_congr`). So a change to one line is no change to what becomes of another one.

Both come from the lockstep of a `Transport`. Where a line stays where it is and loses what is
behind it (`Line.alone`), the parser does the same, and so it cannot have looked behind the line;
where all places are forgotten (`Line.nowhere`), it does the same up to places. What is left to do
is to walk over the lines: `parseStmt_line` for the one in front, `parseStmts_line` with the loop
around it, `parseStmts_eq_outcomes` for all.

After a problem the parser goes on behind the next end of a line, which is the end of the line with
the problem (`skipLine_append`), since no parser reads past it. This is why a line has one outcome,
even if there is more than one thing wrong with it.
-/

namespace BrushScript.Syntax.Parser

/-! ## Lines

A line carries its end, and that nothing else in it ends a line, so that a list of lines cannot be
cut in any other way. In a script the last line ends with the end of the script, and all others with
a line break.
-/

/-- The tokens of a line and the token that ends it. -/
structure Line where
  tokens : Tokens
  terminator : Located Token
  inside : ∀ t ∈ tokens, ¬ t.EndsLine
  ends : terminator.EndsLine

namespace Line

/-- A line without tokens. -/
def empty (t : Located Token) (ends : t.EndsLine) : Line := ⟨[], t, nofun, ends⟩

/-- The line with one more token in front. -/
def cons (t : Located Token) (inside : ¬ t.EndsLine) (l : Line) : Line :=
  ⟨t :: l.tokens, l.terminator, List.forall_mem_cons.mpr ⟨inside, l.inside⟩, l.ends⟩

/-- All tokens of the line, with its end. -/
def all (l : Line) : Tokens := l.tokens ++ [l.terminator]

/-- What the line says, without the places. -/
def words (l : Line) : List Token × Token := (l.tokens.map (·.value), l.terminator.value)

/-- What the parser makes of the line by itself. -/
def outcome (l : Line) : Except (Located ParseProblem) Stmt := (parseStmt default l.all).outcome

end Line

/-- Tokens cut behind every end of a line; what is behind the last one is dropped. -/
def lines : Tokens → List Line
  | [] => []
  | t :: rest =>
    if ends : t.EndsLine then .empty t ends :: lines rest
    else
      match lines rest with
      | [] => []
      | l :: ls => l.cons t ends :: ls

/-- What the parser makes of the lines that are not empty. -/
def outcomes (ls : List Line) : List (Except (Located ParseProblem) Stmt) :=
  (ls.filter fun l => !l.tokens.isEmpty).map Line.outcome

theorem outcomes_append (ls ls' : List Line) :
    outcomes (ls ++ ls') = outcomes ls ++ outcomes ls' := by
  rw [outcomes, List.filter_append, List.map_append]
  rfl

theorem lines_append (l : Line) (more : Tokens) : lines (l.all ++ more) = l :: lines more := by
  obtain ⟨tokens, t, inside, ends⟩ := l
  -- on the tokens in front of the end of the line
  induction tokens with
  | nil => exact dif_pos ends
  | cons x tokens ih =>
    have inside := List.forall_mem_cons.mp inside
    have rest := ih inside.2
    show lines (x :: (Line.all ⟨tokens, t, inside.2, ends⟩ ++ more)) = _
    rw [lines, dif_neg inside.1, rest]
    rfl

theorem exists_line {ts : Tokens} {t : Located Token} (mem : t ∈ ts) (ends : t.EndsLine) :
    ∃ (l : Line) (more : Tokens), ts = l.all ++ more := by
  induction ts with
  | nil => cases mem
  | cons x ts ih =>
    by_cases ended : x.EndsLine
    · exact ⟨.empty x ended, ts, rfl⟩
    · have later : t ∈ ts := by
        rcases List.mem_cons.mp mem with rfl | later
        · exact absurd ends ended
        · exact later
      obtain ⟨l, more, rfl⟩ := ih later
      exact ⟨l.cons x ended, more, rfl⟩

/-! ## Scripts

The lexer gives one token for the end of the script, at the end (`EndsInEof`). So the tokens of a
script are lines with nothing left over, and there is an induction on them.
-/

/-- What the lexer makes of a script that opens with `Spawn`. -/
structure IsScript (tokens : Tokens) : Prop where
  ends : EndsInEof tokens
  opens : (tokens.dropWhile (·.value = .newline)).head?.map (·.value) =
    some (.builtin (.command .spawn))

/-- Behind a line of a script that is not its last one there is a script again. -/
theorem behind_of_endsInEof {l : Line} {more : Tokens} (h : EndsInEof (l.all ++ more)) :
    (l.terminator.value = .eof ∧ more = []) ∨
      (l.terminator.value = .newline ∧ EndsInEof more) := by
  obtain ⟨body, e, same, eof, only⟩ := h
  rcases List.eq_nil_or_concat more with rfl | ⟨init, last, rfl⟩
  -- the only `eof` is the end of the line, or it is behind the line
  · rw [List.append_nil, Line.all] at same
    obtain ⟨-, same⟩ := List.append_inj' same rfl
    cases same
    exact .inl ⟨eof, rfl⟩
  · rw [List.concat_eq_append, ← List.append_assoc] at same
    obtain ⟨front, back⟩ := List.append_inj' same rfl
    cases back
    right
    refine ⟨l.ends.resolve_right (only _ ?_), init, e, List.concat_eq_append, eof, ?_⟩
    · rw [← front]
      simp [Line.all]
    · intro t mem
      apply only
      rw [← front]
      exact List.mem_append_right _ mem

/-- Induction on the lines of a script, from the last one. -/
@[elab_as_elim]
theorem induction_endsInEof {motive : Tokens → Prop}
    (last : ∀ l : Line, l.terminator.value = .eof → motive l.all)
    (next : ∀ (l : Line) (more : Tokens), l.terminator.value = .newline → motive more →
      motive (l.all ++ more))
    {ts : Tokens} (h : EndsInEof ts) : motive ts := by
  -- by the number of tokens, since a line has its end at least
  induction length : ts.length using Nat.strongRecOn generalizing ts with
  | ind _ ih =>
    obtain ⟨body, e, same, eof, -⟩ := id h
    have mem : e ∈ ts := by
      rw [same]
      exact List.mem_append_right body List.mem_cons_self
    obtain ⟨l, more, rfl⟩ := exists_line mem (.inr eof)
    rcases behind_of_endsInEof h with ⟨ends, rfl⟩ | ⟨newline, later⟩
    · rw [List.append_nil]
      exact last l ends
    · refine next l more newline (ih more.length ?_ later rfl)
      rw [← length, Line.all, List.length_append, List.length_append, List.length_singleton]
      omega

/-! ## One line

Two transports take a line out of its script: to the same place, with nothing behind it, and to no
place at all.
-/

/-- A line that stays where it is and loses what is behind it. -/
def Line.alone (l : Line) (more : Tokens) : Transport where
  move := id
  move_merge _ _ := rfl
  end₁ := l.terminator
  end₂ := l.terminator
  behind₁ := more
  behind₂ := []
  ends₁ := l.ends
  ends₂ := l.ends
  span_end := rfl

/-- A line that loses all its places. -/
def Line.nowhere (l : Line) : Transport where
  move _ := default
  move_merge _ _ := (Span.merge_self default).symm
  end₁ := l.terminator
  end₂ := ⟨l.terminator.value, default⟩
  behind₁ := []
  behind₂ := []
  ends₁ := l.ends
  ends₂ := l.ends
  span_end := rfl

namespace Transport

variable {T : Transport}

theorem alongside_append {tokens : Tokens} (inside : ∀ t ∈ tokens, ¬ t.EndsLine) :
    T.Alongside (tokens ++ T.end₁ :: T.behind₁)
      (tokens.map (·.relocate T.move) ++ T.end₂ :: T.behind₂) := by
  -- on the tokens, none of which ends the line
  induction tokens with
  | nil => exact .ended
  | cons t tokens ih =>
    obtain ⟨here, later⟩ := List.forall_mem_cons.mp inside
    exact .step here (ih later)

theorem Alongside.exists_line {ts us : Tokens} (along : T.Alongside ts us) :
    ∃ l : Line, ts = l.all ++ T.behind₁ ∧ l.terminator = T.end₁ := by
  induction along with
  | ended => exact ⟨.empty T.end₁ T.ends₁, rfl, rfl⟩
  | @step t ts us inside along ih =>
    obtain ⟨l, rfl, same⟩ := ih
    exact ⟨l.cons t inside, rfl, same⟩

end Transport

theorem skipLine_append (l : Line) (more : Tokens) :
    skipLine (l.all ++ more) =
      if l.terminator.value = .newline then more else l.terminator :: more := by
  obtain ⟨tokens, t, inside, ends⟩ := l
  -- on the tokens that are skipped
  induction tokens with
  | nil =>
    show skipLine (t :: more) = _
    rw [skipLine]
    split
    · -- a line break, behind which the parser goes on
      rfl
    · -- the end of the script, at which it stays
      next other => rw [if_pos (ends.resolve_left other)]
  | cons x tokens ih =>
    obtain ⟨here, later⟩ := List.forall_mem_cons.mp inside
    show skipLine (x :: (Line.all ⟨tokens, t, later, ends⟩ ++ more)) = _
    rw [skipLine, if_neg (mt .inl here), if_neg (mt .inr here), ih later]

theorem relocated_id (r : Except (Located ParseProblem) Stmt) :
    relocated id (Stmt.relocate id) r = r := by
  cases r with
  | ok s => exact congrArg Except.ok s.relocate_id
  | error problem => rfl

/-- In front of other lines, a line that is not empty comes to what it comes to by itself, and the
next statement is looked for behind it. -/
theorem parseStmt_line (stop : Span) {l : Line} (nonempty : l.tokens ≠ []) (more : Tokens) :
    (parseStmt stop (l.all ++ more)).outcome = l.outcome ∧
      skipLine (parseStmt stop (l.all ++ more)).rest =
        if l.terminator.value = .newline then more else l.terminator :: more := by
  -- the parser cannot tell the line from the same line without the lines behind it
  have lockstep : (l.alone more).Lockstep (Stmt.relocate id) (parseStmt stop (l.all ++ more))
      (parseStmt default l.all) := by
    obtain ⟨tokens, e, inside, ends⟩ := l
    obtain ⟨t, tokens, rfl⟩ := List.exists_cons_of_ne_nil nonempty
    obtain ⟨here, later⟩ := List.forall_mem_cons.mp inside
    have along := (Line.alone ⟨t :: tokens, e, inside, ends⟩ more).alongside_append later
    have parsed := Transport.lockstep_parseStmt here along stop default
    have stays : tokens.map (·.relocate id) = tokens := List.map_id' tokens
    rw [show Line.all ⟨t :: tokens, e, inside, ends⟩ ++ more = t :: (tokens ++ e :: more) by
      simp [Line.all]]
    rw [show (Line.alone ⟨t :: tokens, e, inside, ends⟩ more).move = id from rfl, stays] at parsed
    exact parsed
  constructor
  · rw [Line.outcome, lockstep.outcome_eq]
    exact (relocated_id _).symm
  · obtain ⟨rest, same, ends⟩ := lockstep.rest.exists_line
    rw [same, skipLine_append, ends]
    rfl

/-- An outcome without its places. -/
def bareOutcome : Except (Located ParseProblem) Stmt → Except (Located ParseProblem) Stmt :=
  relocated (fun _ => default) (Stmt.relocate fun _ => default)

/-- Up to places, a line that is not empty comes to what its words come to nowhere in particular. -/
theorem Line.bareOutcome_eq {l : Line} (nonempty : l.tokens ≠ []) :
    bareOutcome l.outcome =
      (parseStmt default (l.words.1.map (⟨·, default⟩) ++ [⟨l.words.2, default⟩])).outcome := by
  obtain ⟨tokens, e, inside, ends⟩ := l
  obtain ⟨t, tokens, rfl⟩ := List.exists_cons_of_ne_nil nonempty
  obtain ⟨here, later⟩ := List.forall_mem_cons.mp inside
  have along := (Line.nowhere ⟨t :: tokens, e, inside, ends⟩).alongside_append later
  have parsed := (Transport.lockstep_parseStmt here along default default).outcome_eq
  rw [Line.words, List.map_map]
  exact parsed.symm

theorem Line.tokens_eq_nil_iff {l l' : Line} (same : l.words = l'.words) :
    l.tokens = [] ↔ l'.tokens = [] := by
  have words : l.tokens.map (·.value) = l'.tokens.map (·.value) := congrArg Prod.fst same
  rw [← List.map_eq_nil_iff, words, List.map_eq_nil_iff]

theorem Line.bareOutcome_congr {l l' : Line} (nonempty : l.tokens ≠ [])
    (same : l.words = l'.words) :
    bareOutcome l.outcome = bareOutcome l'.outcome := by
  have nonempty' : l'.tokens ≠ [] := mt (tokens_eq_nil_iff same).mpr nonempty
  rw [bareOutcome_eq nonempty, bareOutcome_eq nonempty', same]

/-! ## All lines

The loop of the parser passes over empty lines, and takes one statement or one problem from each of
the others.
-/

theorem outcomes_cons_of_empty {l : Line} (empty : l.tokens = []) (ls : List Line) :
    outcomes (l :: ls) = outcomes ls := by
  rw [outcomes, List.filter_cons_of_neg (by simp [empty])]
  rfl

theorem outcomes_cons {l : Line} (nonempty : l.tokens ≠ []) (ls : List Line) :
    outcomes (l :: ls) = l.outcome :: outcomes ls := by
  rw [outcomes, List.filter_cons_of_pos (by simpa using nonempty)]
  rfl

theorem bareOutcomes_congr {ls ls' : List Line} (same : ls.map Line.words = ls'.map Line.words) :
    (outcomes ls).map bareOutcome = (outcomes ls').map bareOutcome := by
  induction ls generalizing ls' with
  | nil => rw [List.map_eq_nil_iff.mp same.symm]
  | cons l ls ih =>
    obtain ⟨l', ls', rfl, first, rest⟩ := List.map_eq_cons_iff.mp same.symm
    by_cases empty : l.tokens = []
    · -- a line without tokens has no outcome, in either list
      have empty' : l'.tokens = [] := (Line.tokens_eq_nil_iff first).mpr empty
      rw [outcomes_cons_of_empty empty, outcomes_cons_of_empty empty']
      exact ih rest.symm
    · -- any other line has one
      have nonempty' : l'.tokens ≠ [] := mt (Line.tokens_eq_nil_iff first).mp empty
      rw [outcomes_cons empty, outcomes_cons nonempty', List.map_cons, List.map_cons,
        Line.bareOutcome_congr empty first.symm, ih rest.symm]

theorem parseStmts_terminator (stop : Span) (l : Line) (more : Tokens) :
    parseStmts stop (l.terminator :: more) =
      if l.terminator.value = .newline then parseStmts stop more else [] := by
  rw [parseStmts]
  split
  · rfl
  · next other => rw [if_pos (l.ends.resolve_left other)]

theorem parseStmts_line (stop : Span) {l : Line} (nonempty : l.tokens ≠ []) (more : Tokens) :
    parseStmts stop (l.all ++ more) = l.outcome ::
      if l.terminator.value = .newline then parseStmts stop more else [] := by
  obtain ⟨outcome, behind⟩ := parseStmt_line stop nonempty more
  obtain ⟨t, tokens, same⟩ := List.exists_cons_of_ne_nil nonempty
  have here : ¬ t.EndsLine := l.inside t (by rw [same]; exact List.mem_cons_self)
  have front : l.all ++ more = t :: (tokens ++ l.terminator :: more) := by simp [Line.all, same]
  rw [front] at outcome behind
  rw [front, parseStmts, if_neg (mt .inl here), if_neg (mt .inr here)]
  show (parseStmt stop _).outcome :: parseStmts stop (skipLine (parseStmt stop _).rest) = _
  rw [outcome, behind]
  -- the parser goes on behind the line, or finds its end again, which is `eof`
  split
  · rfl
  · next other => rw [parseStmts_terminator, if_neg other]

/-- The parser takes the lines one after the other. -/
theorem parseStmts_eq_outcomes (stop : Span) {ts : Tokens} (h : EndsInEof ts) :
    parseStmts stop ts = outcomes (lines ts) := by
  have step (l : Line) (more : Tokens) (ls : List Line) (first : lines (l.all ++ more) = l :: ls)
      (behind : (if l.terminator.value = .newline then parseStmts stop more else []) =
        outcomes ls) : parseStmts stop (l.all ++ more) = outcomes (lines (l.all ++ more)) := by
    rw [first]
    by_cases empty : l.tokens = []
    · -- of an empty line nothing is left but its end
      rw [outcomes_cons_of_empty empty, ← behind, ← parseStmts_terminator, Line.all, empty]
      rfl
    · -- any other line is parsed first
      rw [outcomes_cons empty, ← behind]
      exact parseStmts_line stop empty more
  refine induction_endsInEof (fun l eof => ?_) (fun l more newline ih => ?_) h
  · -- the last line, with nothing behind it
    rw [← List.append_nil l.all]
    refine step l [] [] (lines_append l []) ?_
    rw [eof]
    rfl
  · -- a line with others behind it
    refine step l more (lines more) (lines_append l more) ?_
    rw [if_pos newline]
    exact ih

theorem parseStmts_dropWhile (stop : Span) (ts : Tokens) :
    parseStmts stop (ts.dropWhile (·.value = .newline)) = parseStmts stop ts := by
  induction ts with
  | nil => rfl
  | cons t ts ih =>
    by_cases newline : t.value = .newline
    · -- an empty line in front
      rw [List.dropWhile_cons_of_pos (by simpa using newline), ih, parseStmts, if_pos newline]
    · -- the first line that is not empty
      rw [List.dropWhile_cons_of_neg (by simpa using newline)]

/-- There is a first token that ends no line, or it is the end of the script. -/
theorem exists_first {tokens : Tokens} (ends : EndsInEof tokens) :
    ∃ t rest, tokens.dropWhile (·.value = .newline) = t :: rest := by
  obtain ⟨body, e, rfl, eof, -⟩ := ends
  refine List.exists_cons_of_ne_nil fun none => ?_
  have newline := List.dropWhile_eq_nil_iff.mp none e (by simp)
  rw [eof] at newline
  cases newline

/-- What the parser makes of a script by its first token. -/
theorem parse_of_first {tokens rest : Tokens} {t : Located Token} (ends : EndsInEof tokens)
    (first : tokens.dropWhile (·.value = .newline) = t :: rest) :
    parse tokens =
      if t.value = .eof then ⟨⟨#[]⟩, [⟨.emptyScript, t.span⟩]⟩
      else if t.value = .builtin (.command .spawn) then collect (outcomes (lines tokens))
      else ⟨⟨#[]⟩, [⟨.spawnNotFirst, t.span⟩]⟩ := by
  unfold parse
  simp only [first]
  rw [← first, parseStmts_dropWhile, parseStmts_eq_outcomes _ ends]

theorem parse_eq_collect {tokens : Tokens} (script : IsScript tokens) :
    parse tokens = collect (outcomes (lines tokens)) := by
  obtain ⟨t, rest, first⟩ := exists_first script.ends
  have spawn : t.value = .builtin (.command .spawn) := by
    have opens := script.opens
    rw [first] at opens
    exact Option.some.inj opens
  rw [parse_of_first script.ends first, if_neg (by rw [spawn]; exact nofun), if_pos spawn]

theorem size_add_length_collect (rs : List (Except (Located ParseProblem) Stmt)) :
    (collect rs).program.statements.size + (collect rs).problems.length = rs.length := by
  unfold collect
  rw [List.size_toArray]
  induction rs with
  | nil => rfl
  | cons r rs ih =>
    rw [List.length_cons, ← ih]
    cases r with
    | ok s =>
      simp only [List.filterMap_cons, Except.toOption, List.length_cons]
      omega
    | error problem =>
      simp only [List.filterMap_cons, Except.toOption, List.length_cons]
      omega

theorem flatMap_lines {ts : Tokens} (h : EndsInEof ts) : (lines ts).flatMap Line.all = ts := by
  refine induction_endsInEof (fun l eof => ?_) (fun l more newline ih => ?_) h
  · have whole := lines_append l []
    rw [List.append_nil] at whole
    rw [whole]
    exact List.append_nil l.all
  · rw [lines_append, List.flatMap_cons, ih]

/-- What comes of a script is the outcomes of its lines that are not empty, in order: one statement
or one problem for each. If one line is replaced, the outcomes of the lines before it and behind it
stay the same up to their places. -/
theorem parse_line_by_line {tokens : Tokens} (script : IsScript tokens) :
    (lines tokens).flatMap Line.all = tokens ∧
      parse tokens = collect (outcomes (lines tokens)) ∧
      (parse tokens).program.statements.size + (parse tokens).problems.length =
        ((lines tokens).filter fun l => !l.tokens.isEmpty).length ∧
      ∀ tokens', IsScript tokens' → ∀ before old after before' new after',
        lines tokens = before ++ old :: after → lines tokens' = before' ++ new :: after' →
        before.map Line.words = before'.map Line.words →
        after.map Line.words = after'.map Line.words →
          parse tokens = collect (outcomes before ++ outcomes [old] ++ outcomes after) ∧
          parse tokens' = collect (outcomes before' ++ outcomes [new] ++ outcomes after') ∧
          (outcomes before).map bareOutcome = (outcomes before').map bareOutcome ∧
          (outcomes after).map bareOutcome = (outcomes after').map bareOutcome := by
  refine ⟨flatMap_lines script.ends, parse_eq_collect script, ?_, ?_⟩
  · rw [parse_eq_collect script, size_add_length_collect, outcomes, List.length_map]
  · intro tokens' script' before old after before' new after' cut cut' same same'
    have parts (before : List Line) (l : Line) (after : List Line) :
        outcomes (before ++ l :: after) = outcomes before ++ outcomes [l] ++ outcomes after := by
      rw [← outcomes_append, ← outcomes_append, List.append_assoc, List.singleton_append]
    refine ⟨?_, ?_, bareOutcomes_congr same, bareOutcomes_congr same'⟩
    · rw [parse_eq_collect script, cut, parts]
    · rw [parse_eq_collect script', cut', parts]

/-- The tokens of a script of three lines, of which the second says nothing and the third has a
problem. -/
def threeLines : Tokens :=
  [⟨.builtin (.command .spawn), default⟩, ⟨.newline, default⟩, ⟨.newline, default⟩,
    ⟨.sign .comma, default⟩, ⟨.eof, default⟩]

theorem parse_line_by_line_threeLines :
    IsScript threeLines ∧ parse threeLines = collect (outcomes (lines threeLines)) ∧
      (parse threeLines).program.statements.size + (parse threeLines).problems.length = 2 := by
  have script : IsScript threeLines := by
    refine ⟨⟨threeLines.dropLast, ⟨.eof, default⟩, rfl, rfl, ?_⟩, rfl⟩
    simp [threeLines]
  obtain ⟨-, whole, count, -⟩ := parse_line_by_line script
  exact ⟨script, whole, count⟩

end BrushScript.Syntax.Parser
