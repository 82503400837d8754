import BrushScript.Syntax.Program

/-!
# What can be wrong with a script

Problems are causes: what the lexer could not read, what the parser expected and did not find, what
the type checker refuses. Their wording is in one function for each phase, and `Diagnostic.render`
puts the place and the phase before it.

A cause carries what its message tells: the word, the character, the types that were found. The
place is not part of it; a problem at its place is a `Located` one.
-/

namespace BrushScript.Syntax

/-- What the lexer cannot read. -/
inductive LexicalProblem where
  | character (c : Char)
  | operator (c : Char)
  | newlineInString
  | unterminatedString
  deriving DecidableEq, Repr

/-- The wording of a lexical problem. -/
def LexicalProblem.message : LexicalProblem → String
  | character c => s!"Unrecognized character '{c}'."
  | operator c => s!"Unrecognized operator '{c}'."
  | newlineInString => "Newline in string literal is not allowed."
  | unterminatedString => "Unterminated string literal at end of file."

/-- What the parser misses or refuses. -/
inductive ParseProblem where
  | emptyScript
  | spawnNotFirst
  | statement
  | lineEnd
  | bracketBeforeLabel
  | label
  | bracketAfterLabel
  | parenBeforeCondition
  | parenAfterCondition
  | parenBeforeArguments (b : Builtin)
  | parenAfterArguments (b : Builtin)
  | noArguments (b : Builtin)
  | argumentCount (b : Builtin) (found : Nat)
  | commandInExpression (c : Command)
  | numberFormat (text : String)
  | parenAfterExpression
  | expression
  deriving DecidableEq, Repr

/-- The wording of a wrong number of arguments. -/
def argumentCountMessage (b : Builtin) (found : Nat) : String :=
  s!"'{b.name}' expects {b.arity} arguments, but got {found}."

/-- The wording of a problem of the parser. -/
def ParseProblem.message : ParseProblem → String
  | emptyScript => "Source code cannot be empty. Must start with 'Spawn'."
  | spawnNotFirst => "Source must start with 'Spawn'."
  | statement => "Unexpected token. Expected a command, assignment, label, or GoTo."
  | lineEnd => "Expected newline after statement."
  | bracketBeforeLabel => "Expected '[' after 'GoTo'."
  | label => "Expected label name inside '[ ]' after 'GoTo'."
  | bracketAfterLabel => "Expected ']' after GoTo label."
  | parenBeforeCondition => "Expected '(' before GoTo condition."
  | parenAfterCondition => "Expected ')' after GoTo condition."
  | parenBeforeArguments b => s!"Expected '(' after function name '{b.name}'."
  | parenAfterArguments b => s!"Expected ')' or ',' after argument list for function '{b.name}'."
  | noArguments b => s!"Function '{b.name}' does not take any arguments."
  | argumentCount b found => argumentCountMessage b found
  | commandInExpression c => s!"Command '{c.name}' cannot be used inside an expression."
  | numberFormat text => s!"Invalid integer number format '{text}'."
  | parenAfterExpression => "Expected ')' after expression."
  | expression => "Expected expression (number, string, variable, function call, or parentheses)."

/-- What the type checker refuses. -/
inductive SemanticProblem where
  | duplicateLabel (name : String)
  | undefinedLabel (name : String)
  | undefinedVariable (name : String)
  | voidAssignment
  | reassignment (name : String) (found bound : TypeName)
  | condition (found : TypeName)
  | unaryOperand (op : UnaryOp) (found : TypeName)
  | arithmeticOperands (op : BinaryOp) (left right : TypeName)
  | orderOperands (op : BinaryOp) (left right : TypeName)
  | equalityOperands (left right : TypeName)
  | logicOperands (op : BinaryOp) (left right : TypeName)
  | argumentCount (b : Builtin) (found : Nat)
  | argumentType (b : Builtin) (position : Nat) (param : Param) (found : TypeName)
  deriving DecidableEq, Repr

/-- The wording of a problem of the type checker. -/
def SemanticProblem.message : SemanticProblem → String
  | duplicateLabel name => s!"Duplicate label definition: '{name}'."
  | undefinedLabel name => s!"Undefined label: '{name}'."
  | undefinedVariable name => s!"Variable '{name}' is not defined in the current scope."
  | voidAssignment => "Cannot assign a void value to a variable."
  | reassignment name found bound =>
    s!"Cannot assign a value of type {found.name} to variable '{name}' " ++
      s!"which is of type {bound.name}."
  | condition found => s!"GoTo condition must evaluate to a Boolean, but got {found.name}."
  | unaryOperand .neg found =>
    s!"Unary '-' operator can only be applied to numbers, not {found.name}."
  | unaryOperand .not found => s!"'!' operator can only be applied to booleans, not {found.name}."
  | arithmeticOperands op left right =>
    s!"Operator '{op.symbol}' can only be used with numbers, got {left.name} and {right.name}."
  | orderOperands op left right =>
    s!"Operator '{op.symbol}' can only compare numbers, got {left.name} and {right.name}."
  | equalityOperands left right =>
    s!"Cannot compare values of different types: {left.name} and {right.name}."
  | logicOperands op left right =>
    s!"Operator '{op.symbol}' can only be used with booleans, got {left.name} and {right.name}."
  | argumentCount b found => argumentCountMessage b found
  | argumentType b position param found =>
    s!"Argument {position} ('{param.name}') for '{b.name}' should be of type " ++
      s!"{param.type.name}, but got {found.name}."

/-- What is wrong with a script, in the phase that found it. -/
inductive Problem where
  | lexical (p : LexicalProblem)
  | parse (p : ParseProblem)
  | semantic (p : SemanticProblem)
  deriving DecidableEq, Repr

/-- The phase in words. -/
def Problem.phase : Problem → String
  | lexical _ => "Lexical"
  | parse _ => "Parse"
  | semantic _ => "Semantic"

/-- The wording without place and phase. -/
def Problem.message : Problem → String
  | lexical p => p.message
  | parse p => p.message
  | semantic p => p.message

/-- A problem at its place. -/
abbrev Diagnostic := Located Problem

/-- The line that reports a problem. -/
def Diagnostic.render (d : Diagnostic) : String :=
  s!"[Line {d.span.line}:{d.span.column}] {d.value.phase} Error: {d.value.message}"

/-- A lexical problem as a diagnostic. -/
def Diagnostic.ofLexical (p : Located LexicalProblem) : Diagnostic := ⟨.lexical p.value, p.span⟩

/-- A problem of the parser as a diagnostic. -/
def Diagnostic.ofParse (p : Located ParseProblem) : Diagnostic := ⟨.parse p.value, p.span⟩

/-- A problem of the type checker as a diagnostic. -/
def Diagnostic.ofSemantic (p : Located SemanticProblem) : Diagnostic := ⟨.semantic p.value, p.span⟩

end BrushScript.Syntax
