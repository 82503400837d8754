import BrushScript.Integer
import BrushScript.Syntax.Parsed

/-!
# From tokens to a program

A statement is one line. The parser goes through the tokens once, statement by statement. Where a
statement cannot be read it notes the problem, passes over the tokens up to the end of the line and
starts again behind it, so a bad line costs one problem and no other line. A script that does not
open with `Spawn` has that one problem and no statement.

Expressions have the usual tiers. From loose to tight: `||`, `&&`, equality, order, sums, products,
powers, signs and negation, and the primaries. Sums, products, `&&` and `||` group to the left,
powers to the right; equality and order stop after one operator.
-/

namespace BrushScript.Syntax.Parser

/-- Read a sign and tell where it stood. -/
def expect (s : Sign) (problem : ParseProblem) (stop : Span) (ts : Tokens) : Parsed Span ts :=
  match ts with
  | [] => .reject problem stop []
  | t :: rest =>
    if t.value = .sign s then (Parsed.accept t.span rest).after t
    else .reject problem stop (t :: rest)

/-! ## Operators -/

/-- The binary operators by tier: those of tier `n` join expressions of tier `n` into one of tier
`n + 1`. -/
def operatorAt? : Nat → Token → Option BinaryOp
  | 0, .sign .star => some .mul
  | 0, .sign .slash => some .div
  | 0, .sign .percent => some .mod
  | 1, .sign .plus => some .add
  | 1, .sign .minus => some .sub
  | 2, .sign .less => some .lt
  | 2, .sign .greater => some .gt
  | 2, .sign .lessEqual => some .le
  | 2, .sign .greaterEqual => some .ge
  | 3, .sign .equal => some .eq
  | 3, .sign .notEqual => some .ne
  | 4, .sign .and => some .and
  | 5, .sign .or => some .or
  | _, _ => none

/-- The operators of a tier may follow each other, grouping to the left. -/
def repeats (tier : Nat) : Bool := tier != 2 && tier != 3

/-- The tier of a whole expression. -/
def loosest : Nat := 6

/-- The operators that stand before their operand. -/
def unaryOperator? : Token → Option UnaryOp
  | .sign .minus => some .neg
  | .sign .bang => some .not
  | _ => none

/-- Two operands joined, at the place that covers both. -/
def join (op : BinaryOp) (left right : Expr) : Expr :=
  .binary op left right (left.span.merge right.span)

/-! ## Expressions

The parsers of the tiers call each other on the same tokens from loose to tight, and start at the
loosest tier again only behind a token. -/

/-- From one parser to another one further down that starts at tokens which are left. -/
theorem descends {rest ts : Tokens} (h : rest <:+ ts) {i j : Nat} (lt : i < j) :
    Prod.Lex (· < ·) (· < ·) (rest.length, i) (ts.length, j) :=
  (Nat.lt_or_eq_of_le h.length_le).elim (Prod.Lex.left _ _) fun same =>
    same ▸ Prod.Lex.right _ lt

mutual

/-- An expression of a tier. -/
def parseTier (stop : Span) (tier : Nat) (ts : Tokens) : Parsed Expr ts :=
  match tier with
  | 0 => parsePower stop ts
  | tier + 1 =>
    (parseTier stop tier ts).andThen fun left rest _ => parseTail stop tier left rest
termination_by (ts.length, tier + 3)
decreasing_by
  · exact descends List.suffix_rfl (by omega)
  · exact descends List.suffix_rfl (by omega)
  · exact descends (by assumption) (by omega)

/-- The operators of a tier and their right operands, as long as they follow. -/
def parseTail (stop : Span) (tier : Nat) (left : Expr) (ts : Tokens) : Parsed Expr ts :=
  match ts with
  | [] => .accept left []
  | t :: rest =>
    match operatorAt? tier t.value with
    | none => .accept left (t :: rest)
    | some op =>
      ((parseTier stop tier rest).andThen fun right rest' _ =>
        if repeats tier then parseTail stop tier (join op left right) rest'
        else .accept (join op left right) rest').after t
termination_by (ts.length, 0)
decreasing_by
  · exact Prod.Lex.left _ _ (by simp)
  · next h _ => exact Prod.Lex.left _ _ (Nat.lt_succ_of_le h.length_le)

/-- A power, whose exponent may be a power again. -/
def parsePower (stop : Span) (ts : Tokens) : Parsed Expr ts :=
  (parseUnary stop ts).andThen fun base rest h =>
    match rest, h with
    | [], _ => .accept base []
    | t :: rest', _ =>
      if t.value = .sign .starStar then ((parsePower stop rest').map (join .pow base)).after t
      else .accept base (t :: rest')
termination_by (ts.length, 2)
decreasing_by
  · exact descends List.suffix_rfl (by decide)
  · next h _ => exact Prod.Lex.left _ _ h.length_le

/-- A primary with any number of signs and negations before it. -/
def parseUnary (stop : Span) (ts : Tokens) : Parsed Expr ts :=
  match ts with
  | [] => parsePrimary stop []
  | t :: rest =>
    match unaryOperator? t.value with
    | none => parsePrimary stop (t :: rest)
    | some op =>
      ((parseUnary stop rest).map fun operand =>
        .unary op operand (t.span.merge operand.span)).after t
termination_by (ts.length, 1)
decreasing_by
  · exact descends List.suffix_rfl (by decide)
  · exact descends List.suffix_rfl (by decide)
  · exact Prod.Lex.left _ _ (by simp)

/-- A literal, a variable, a call of a query, or an expression in parentheses, which leave no trace
of their own. -/
def parsePrimary (stop : Span) (ts : Tokens) : Parsed Expr ts :=
  match ts with
  | [] => .reject .expression stop []
  | t :: rest =>
    match t.value with
    | .number text =>
      match Integer.decimal? text with
      | some n => (Parsed.accept (.number n t.span) rest).after t
      | none => ⟨.error ⟨.numberFormat text, t.span⟩, rest, List.suffix_cons t rest⟩
    | .string body => (Parsed.accept (.string body t.span) rest).after t
    | .ident name => (Parsed.accept (.var name t.span) rest).after t
    | .builtin (.command c) => .reject (.commandInExpression c) stop (t :: rest)
    | .builtin (.query q) =>
      ((parseArguments stop (.query q) rest).map fun (args, close) =>
        .call (.query q) args (t.span.merge close)).after t
    | .sign .leftParen =>
      ((parseTier stop loosest rest).andThen fun inner rest' _ =>
        (expect .rightParen .parenAfterExpression stop rest').map fun _ => inner).after t
    | _ => .reject .expression stop (t :: rest)
termination_by (ts.length, 0)
decreasing_by
  · exact Prod.Lex.left _ _ (by simp)
  · exact Prod.Lex.left _ _ (by simp)

/-- The arguments of a built-in in their parentheses, as many as it has parameters, and the place of
the closing one. -/
def parseArguments (stop : Span) (b : Builtin) (ts : Tokens) : Parsed (List Expr × Span) ts :=
  (expect .leftParen (.parenBeforeArguments b) stop ts).andThen fun _ rest _ =>
    (parseList stop b rest).andThen fun args rest' _ =>
      (expect .rightParen (.parenAfterArguments b) stop rest').andThen fun close rest'' _ =>
        if args.length = b.arity then .accept (args, close) rest''
        else ⟨.error ⟨.argumentCount b args.length, close⟩, rest'', List.suffix_rfl⟩
termination_by (ts.length, loosest + 6)
decreasing_by exact descends (by assumption) (by decide)

/-- The arguments up to a closing parenthesis, none if it comes first. -/
def parseList (stop : Span) (b : Builtin) (ts : Tokens) : Parsed (List Expr) ts :=
  if ts.head?.map (·.value) = some (.sign .rightParen) then .accept [] ts
  else if b.arity = 0 then .reject (.noArguments b) stop ts
  else parseItems stop ts
termination_by (ts.length, loosest + 5)
decreasing_by exact descends List.suffix_rfl (by decide)

/-- One or more expressions with commas between them. -/
def parseItems (stop : Span) (ts : Tokens) : Parsed (List Expr) ts :=
  (parseTier stop loosest ts).andThen fun item rest h =>
    match rest, h with
    | [], _ => .accept [item] []
    | t :: rest', _ =>
      if t.value = .sign .comma then ((parseItems stop rest').map (item :: ·)).after t
      else .accept [item] (t :: rest')
termination_by (ts.length, loosest + 4)
decreasing_by
  · exact descends List.suffix_rfl (by decide)
  · next h _ => exact Prod.Lex.left _ _ h.length_le

end

/-! ## Statements -/

/-- The line ends in front of the next token. -/
def endsLine : Tokens → Bool
  | [] => true
  | t :: _ => t.value = .newline || t.value = .eof

/-- The name of a label. -/
def parseLabel (stop : Span) (ts : Tokens) : Parsed String ts :=
  match ts with
  | ⟨.ident label, span⟩ :: rest => (Parsed.accept label rest).after ⟨.ident label, span⟩
  | other => .reject .label stop other

/-- What follows the word of a jump: its label in brackets and its condition in parentheses. -/
def parseJump (stop : Span) (ts : Tokens) : Parsed Action ts :=
  (expect .leftBracket .bracketBeforeLabel stop ts).andThen fun _ rest _ =>
    (parseLabel stop rest).andThen fun label rest _ =>
      (expect .rightBracket .bracketAfterLabel stop rest).andThen fun _ rest _ =>
        (expect .leftParen .parenBeforeCondition stop rest).andThen fun _ rest _ =>
          (parseTier stop loosest rest).andThen fun condition rest _ =>
            (expect .rightParen .parenAfterCondition stop rest).map fun _ =>
              .goTo label condition

/-- What follows a name at the start of a line: a value to assign, or nothing if it is a label. -/
def parseNamed (stop : Span) (name : Located Token) (label : String) (ts : Tokens) :
    Parsed Action (name :: ts) :=
  match ts with
  | ⟨.sign .assign, span⟩ :: rest =>
    (((parseTier stop loosest rest).map (.assign label)).after ⟨.sign .assign, span⟩).after name
  | other =>
    if endsLine other then (Parsed.accept (.label label) other).after name
    else .reject .statement stop (name :: other)

/-- The action that the next token opens. -/
def parseAction (stop : Span) (ts : Tokens) : Parsed Action ts :=
  match ts with
  | [] => .reject .statement stop []
  | t :: rest =>
    match t.value with
    | .ident name => parseNamed stop t name rest
    | .builtin (.command c) =>
      ((parseArguments stop (.command c) rest).map fun (args, _) => .call (.command c) args).after t
    | .goTo => (parseJump stop rest).after t
    | _ => .reject .statement stop (t :: rest)

/-- The place that the tokens before the end of the line cover. -/
def lineSpan (stop : Span) (ts : Tokens) : Span :=
  match ts.takeWhile fun t => !endsLine [t] with
  | [] => stop
  | t :: rest => t.span.merge ((t :: rest).getLast (by simp)).span

/-- A statement, behind which the line must end. -/
def parseStmt (stop : Span) (ts : Tokens) : Parsed Stmt ts :=
  (parseAction stop ts).andThen fun action rest _ =>
    if endsLine rest then .accept ⟨action, lineSpan stop ts⟩ rest else .reject .lineEnd stop rest

/-! ## Programs -/

/-- Pass over the tokens of a line and over its end, but not over the end of the script. -/
def skipLine : Tokens → Tokens
  | [] => []
  | t :: rest =>
    if t.value = .newline then rest
    else if t.value = .eof then t :: rest
    else skipLine rest

theorem length_skipLine_le (ts : Tokens) : (skipLine ts).length ≤ ts.length := by
  fun_induction skipLine ts with
  | case1 => simp
  | case2 => simp
  | case3 => simp
  | case4 t rest _ _ ih =>
    simp only [List.length_cons]
    omega

/-- A line that is not empty ends further on, wherever its parser stopped. -/
theorem length_skipLine_lt {t : Located Token} {rest left : Tokens} (h : left <:+ t :: rest)
    (newline : t.value ≠ .newline) (eof : t.value ≠ .eof) :
    (skipLine left).length < (t :: rest).length := by
  rcases List.suffix_cons_iff.mp h with rfl | h
  · rw [skipLine, if_neg newline, if_neg eof]
    exact Nat.lt_succ_of_le (length_skipLine_le rest)
  · exact Nat.lt_succ_of_le (Nat.le_trans (length_skipLine_le left) h.length_le)

/-- The statements of a script and the problems of the lines that have none. Empty lines give
neither. -/
def parseStmts (stop : Span) (ts : Tokens) : List (Except (Located ParseProblem) Stmt) :=
  match ts with
  | [] => []
  | t :: rest =>
    if t.value = .newline then parseStmts stop rest
    else if t.value = .eof then []
    else
      let parsed := parseStmt stop (t :: rest)
      parsed.outcome :: parseStmts stop (skipLine parsed.rest)
termination_by ts.length
decreasing_by
  · simp
  · exact length_skipLine_lt (Parsed.suffix _) ‹_› ‹_›

/-- The statements that could be read, and the problems of the other lines. -/
structure Result where
  program : Program
  problems : List (Located ParseProblem)

/-- Statements and problems apart, each in order. -/
def collect (lines : List (Except (Located ParseProblem) Stmt)) : Result where
  program := ⟨(lines.filterMap Except.toOption).toArray⟩
  problems := lines.filterMap fun
    | .ok _ => none
    | .error problem => some problem

/-- The program of a list of tokens, which ends at its first `eof`. -/
def parse (tokens : Tokens) : Result :=
  let stop := (tokens.getLast?.map (·.span)).getD default
  let script := tokens.dropWhile (·.value = .newline)
  match script with
  | [] => ⟨⟨#[]⟩, [⟨.emptyScript, stop⟩]⟩
  | t :: _ =>
    if t.value = .eof then ⟨⟨#[]⟩, [⟨.emptyScript, t.span⟩]⟩
    else if t.value = .builtin (.command .spawn) then collect (parseStmts stop script)
    else ⟨⟨#[]⟩, [⟨.spawnNotFirst, t.span⟩]⟩

end BrushScript.Syntax.Parser
