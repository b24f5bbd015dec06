import Workbench.Form.Basic

/-!
Reading tokens into forms. The parser takes one token at a time and keeps the brackets and functions
that are still open on a stack. A token either is refused there and then, or it opens, completes or
closes something; only when the tokens have run out can something be missing. So the errors fall
into two groups, those of `Parser.step`, which no further token can cure, and those of
`Parser.finish`, which further tokens may.
-/

namespace Workbench

/-- Why tokens are not a program. -/
inductive ParseError.Cause where
  /-- Brackets and functions are nested more deeply than the limit. -/
  | nestingTooDeep (limit : Nat)
  /-- A closing bracket that closes nothing. -/
  | unexpected (spelling : String)
  /-- A quote mark. -/
  | quoting
  /-- A token of unknown kind. -/
  | invalidToken (spelling : String)
  /-- A function whose parameters are not a list. -/
  | parametersNotAList
  /-- A function with a parameter that is not a word. -/
  | parameterNotAWord
  /-- A group in parentheses that is not closed. -/
  | unterminatedCall
  /-- A group in square brackets that is not closed. -/
  | unterminatedList
  /-- A function that ends before its parameters. -/
  | missingParameters
  /-- A function that ends before its body. -/
  | missingBody
  /-- Nothing is left where a form should be. -/
  | endOfInput
  deriving DecidableEq

/-- What is wrong, in words. -/
def ParseError.Cause.message : ParseError.Cause → String
  | .nestingTooDeep limit => "nesting too deep (limit " ++ toString limit ++ ")"
  | .unexpected spelling => "unexpected '" ++ spelling ++ "'"
  | .quoting => "quoting is not supported"
  | .invalidToken spelling => "invalid token '" ++ spelling ++ "'"
  | .parametersNotAList => "invalid function declaration: arguments should be a list"
  | .parameterNotAWord => "invalid function arguments: arguments should only be identifiers"
  | .unterminatedCall => "unterminated expression opened here"
  | .unterminatedList => "unterminated list opened here"
  | .missingParameters => "invalid function declaration: missing arguments"
  | .missingBody => "invalid function declaration: missing body"
  | .endOfInput => "unexpected end of input"

/-- Whether the error is that the tokens run out where something is open. -/
def ParseError.Cause.isMissingInput : ParseError.Cause → Bool
  | .unterminatedCall | .unterminatedList | .missingParameters | .missingBody => true
  | _ => false

/-- Tokens that are not a program: where and why. -/
structure ParseError where
  position : Position
  cause : ParseError.Cause
  deriving DecidableEq

/-- What is still open, with the token that opened it. -/
inductive Parser.Open where
  /-- A group in parentheses with its items so far, the last one first. -/
  | call (opener : Token) (items : List Form)
  /-- A group in square brackets with its items so far, the last one first. -/
  | list (opener : Token) (items : List Form)
  /-- A function that has no parameters yet. -/
  | function (opener : Token)
  /-- A function that has no body yet. -/
  | body (opener : Token) (parameters : List Form)

/-- What has been read of a program: the complete top-level forms, the last one first, and what is
still open, the innermost first. -/
structure Parser where
  forms : List Form := []
  stack : List Parser.Open := []

namespace Parser

/-- A complete form takes its place in what is innermost. It completes a function that waits for its
body, and the function then takes its own place further out. -/
def place (forms : List Form) : List Open → Form → Except ParseError Parser
  | [], form => .ok ⟨form :: forms, []⟩
  | .call opener items :: rest, form => .ok ⟨forms, .call opener (form :: items) :: rest⟩
  | .list opener items :: rest, form => .ok ⟨forms, .list opener (form :: items) :: rest⟩
  | .function opener :: rest, .list parameters =>
      if parameters.all fun parameter => parameter.kind = .word then
        .ok ⟨forms, .body opener parameters :: rest⟩
      else .error ⟨opener.start, .parameterNotAWord⟩
  | .function opener :: _, _ => .error ⟨opener.start, .parametersNotAList⟩
  | .body opener parameters :: rest, form => place forms rest (.function opener parameters form)

/-- Something opens, unless the limit of nesting has been reached. -/
def push (limit : Nat) (parser : Parser) (token : Token) (opened : Open) :
    Except ParseError Parser :=
  if parser.stack.length < limit then .ok { parser with stack := opened :: parser.stack }
  else .error ⟨token.start, .nestingTooDeep limit⟩

/-- One more token. -/
def step (limit : Nat) (parser : Parser) (token : Token) : Except ParseError Parser :=
  match token.kind with
  | .comment => .ok parser
  | .leftParen => parser.push limit token (.call token [])
  | .leftSquare => parser.push limit token (.list token [])
  | .rightParen =>
      match parser.stack with
      | .call _ items :: rest => place parser.forms rest (.call items.reverse)
      | _ => .error ⟨token.start, .unexpected token.value⟩
  | .rightSquare =>
      match parser.stack with
      | .list _ items :: rest => place parser.forms rest (.list items.reverse)
      | _ => .error ⟨token.start, .unexpected token.value⟩
  | .string => place parser.forms parser.stack (.string token)
  | .number => place parser.forms parser.stack (.number token)
  | .word =>
      if token.value = "fn" then parser.push limit token (.function token)
      else if token.value = "true" ∨ token.value = "false" then
        place parser.forms parser.stack (.boolean token)
      else place parser.forms parser.stack (.word token)
  | .singleQuote => .error ⟨token.start, .quoting⟩
  | .unknown => .error ⟨token.start, .invalidToken token.value⟩

/-- All tokens, one after the other. -/
def steps (limit : Nat) (parser : Parser) : List Token → Except ParseError Parser
  | [] => .ok parser
  | token :: rest =>
      match parser.step limit token with
      | .ok next => next.steps limit rest
      | .error error => .error error

/-- The tokens have run out: nothing may be open. -/
def finish (parser : Parser) : Except ParseError Form :=
  match parser.stack with
  | [] => .ok (.call parser.forms.reverse)
  | .call opener _ :: _ => .error ⟨opener.start, .unterminatedCall⟩
  | .list opener _ :: _ => .error ⟨opener.start, .unterminatedList⟩
  | .function opener :: _ => .error ⟨opener.start, .missingParameters⟩
  | .body opener _ :: _ => .error ⟨opener.start, .missingBody⟩

end Parser

namespace Form

/-- The program that tokens spell, as a call form of its top-level forms. Brackets and functions may
be nested as deeply as the limit says. -/
def parse (limit : Nat) (tokens : List Token) : Except ParseError Form := do
  let parser ← Parser.steps limit {} tokens
  parser.finish

end Form

namespace Parser

/-- Tokens can be taken in pieces. -/
theorem steps_append (limit : Nat) (parser : Parser) (ts us : List Token) :
    parser.steps limit (ts ++ us) = parser.steps limit ts >>= fun next => next.steps limit us := by
  induction ts generalizing parser with
  | nil => rfl
  | cons t ts ih =>
    simp only [List.cons_append, steps]
    cases parser.step limit t with
    | error e => rfl
    | ok next => exact ih next

end Parser

end Workbench
