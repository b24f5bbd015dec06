import Workbench.Proofs.Form.Descent
import Workbench.Proofs.Form.Grammar

/-!
# Where parse errors are, and which of them more tokens can cure

A parser refuses a token when it reads it, or finds at the end that something is still open. Errors
of the first kind are final; those of the second kind report missing input and are none as soon as
there is more to read. The parser by recursive descent has a third kind, for a form that it looks for
where no token is left.

**Theorem** (`Form.parse_error_final`), for the parser by recursive descent: the place of an error is
where a token starts that is not a comment, and the third kind never comes up. An error stays the same
whatever follows the tokens exactly if it does not report missing input. There is then one token that
decides: before it no error is final, and after it this one is.

* The tokens that opened what is open have been read, so that an error that is reported where
  something was opened is reported at a token (`Parser.Accounted`).
* Only `Parser.step` refuses, and for good (`Parser.accounted_step`,
  `Parser.steps_append_of_error`); only `Parser.finish` misses something (`Parser.finish_error`).
  Neither looks for a form where no token is left, and the descent answers what they answer
  (`Descent.parse_eq`).
-/

namespace Workbench

/-! ### Messages -/

namespace ParseError

/-- The messages that report missing input. -/
def missingInput : List String :=
  ["unterminated expression opened here", "unterminated list opened here",
   "invalid function declaration: missing arguments", "invalid function declaration: missing body"]

/-- A text is none of those that begin differently. -/
theorem append_not_mem {first middle last : String} {texts : List String}
    (h : ∀ text ∈ texts, text.toList.take first.length ≠ first.toList) :
    first ++ middle ++ last ∉ texts := by
  intro hmem
  apply h _ hmem
  rw [String.append_assoc, String.toList_append, ← String.length_toList, List.take_left]

/-- A message that begins with none of the fixed texts. -/
theorem Cause.message_apart (cause : Cause) (hcause : cause.isMissingInput = false)
    (hother : cause ≠ .endOfInput)
    (h : cause.message ∉ "unexpected end of input" :: missingInput) :
    (cause.message = "unexpected end of input" ↔ cause = .endOfInput) ∧
      (cause.message ∈ missingInput ↔ cause.isMissingInput = true) := by
  rw [List.mem_cons, not_or] at h
  exact ⟨iff_of_false h.1 hother, iff_of_false h.2 (by simp [hcause])⟩

/-- Errors can be told from their messages: the end of the input, and what reports missing input. -/
theorem Cause.message_cases (cause : Cause) :
    (cause.message = "unexpected end of input" ↔ cause = .endOfInput) ∧
      (cause.message ∈ missingInput ↔ cause.isMissingInput = true) := by
  cases cause with
  | unterminatedCall | unterminatedList | missingParameters | missingBody | endOfInput => decide
  | quoting | parametersNotAList | parameterNotAWord => decide
  | nestingTooDeep limit =>
      apply message_apart (.nestingTooDeep limit) rfl nofun
      show "nesting too deep (limit " ++ toString limit ++ ")" ∉ _
      exact append_not_mem (by decide)
  | unexpected spelling =>
      apply message_apart (.unexpected spelling) rfl nofun
      show "unexpected '" ++ spelling ++ "'" ∉ _
      exact append_not_mem (by decide)
  | invalidToken spelling =>
      apply message_apart (.invalidToken spelling) rfl nofun
      show "invalid token '" ++ spelling ++ "'" ∉ _
      exact append_not_mem (by decide)

end ParseError

/-! ### The parser -/

namespace Parser

/-- The token that opened something. -/
def Open.opener : Open → Token
  | .call opener _ => opener
  | .list opener _ => opener
  | .function opener => opener
  | .body opener _ => opener

/-- Everything that is open was opened by one of some tokens. -/
def OpenedBy (tokens : List Token) (stack : List Open) : Prop :=
  ∀ opened ∈ stack, opened.opener ∈ tokens

/-- What the parser has come to among some tokens: it goes on with what they opened, or it refuses
one of them for good and says so at one of them. -/
def Accounted (tokens : List Token) : Except ParseError Parser → Prop
  | .ok next => OpenedBy tokens next.stack
  | .error error => (∃ token ∈ tokens, error.position = token.start) ∧
      error.cause.isMissingInput = false ∧ error.cause ≠ .endOfInput

variable {tokens : List Token} {stack : List Open}

/-- What is open was opened by some tokens if the innermost group was, and the others were. -/
theorem openedBy_cons {opened : Open} :
    OpenedBy tokens (opened :: stack) ↔ opened.opener ∈ tokens ∧ OpenedBy tokens stack :=
  List.forall_mem_cons

/-- Placing a form opens nothing, and a form that is out of place is reported where the function
begins that it does not fit into. -/
theorem accounted_place (h : OpenedBy tokens stack) (forms : List Form) (form : Form) :
    Accounted tokens (place forms stack form) := by
  -- A form that completes a function takes the function's place further out.
  induction stack generalizing form with
  | nil => exact h
  | cons top rest ih =>
      obtain ⟨htop, hrest⟩ := openedBy_cons.mp h
      cases top with
      | call opener items => exact openedBy_cons.mpr ⟨htop, hrest⟩
      | list opener items => exact openedBy_cons.mpr ⟨htop, hrest⟩
      | body opener parameters => exact ih hrest (.function opener parameters form)
      | function opener =>
          cases form with
          | list parameters =>
              rw [place]
              split
              · exact openedBy_cons.mpr ⟨htop, hrest⟩
              · exact ⟨⟨opener, htop, rfl⟩, rfl, nofun⟩
          | word | call | string | number | boolean | function =>
              exact ⟨⟨opener, htop, rfl⟩, rfl, nofun⟩

variable {limit : Nat} {parser : Parser} {token : Token}

/-- A group is opened by the token that opens it, or refused there. -/
theorem accounted_push (h : OpenedBy tokens parser.stack) (htoken : token ∈ tokens) {opened : Open}
    (hopened : opened.opener = token) : Accounted tokens (parser.push limit token opened) := by
  unfold push
  split
  · exact openedBy_cons.mpr ⟨hopened ▸ htoken, h⟩
  · exact ⟨⟨token, htoken, rfl⟩, rfl, nofun⟩

/-- **What one more token does.** A comment does nothing; any other token is one at which an error
may be reported. -/
theorem accounted_step (h : OpenedBy tokens parser.stack)
    (htoken : token.kind ≠ .comment → token ∈ tokens) :
    Accounted tokens (parser.step limit token) := by
  have hrefused : ∀ cause : ParseError.Cause, token.kind ≠ .comment →
      cause.isMissingInput = false → cause ≠ .endOfInput →
        Accounted tokens (.error ⟨token.start, cause⟩) :=
    fun cause hkind hcause hother => ⟨⟨token, htoken hkind, rfl⟩, hcause, hother⟩
  cases hkind : token.kind with
  | comment =>
      simp only [step, hkind]
      exact h
  | leftParen | leftSquare =>
      simp only [step, hkind]
      exact accounted_push h (htoken (by simp [hkind])) rfl
  | rightParen | rightSquare =>
      simp only [step, hkind]
      split
      · rename_i hstack
        rw [hstack] at h
        exact accounted_place (openedBy_cons.mp h).2 _ _
      · exact hrefused _ (by simp [hkind]) rfl nofun
  | string | number =>
      simp only [step, hkind]
      exact accounted_place h _ _
  | word =>
      simp only [step, hkind]
      split
      · exact accounted_push h (htoken (by simp [hkind])) rfl
      · split <;> exact accounted_place h _ _
  | singleQuote | unknown =>
      simp only [step, hkind]
      exact hrefused _ (by simp [hkind]) rfl nofun

/-- **What all tokens do.** -/
theorem accounted_steps (h : OpenedBy tokens parser.stack) {read : List Token}
    (hread : ∀ token ∈ read, token.kind ≠ .comment → token ∈ tokens) :
    Accounted tokens (parser.steps limit read) := by
  induction read generalizing parser with
  | nil => exact h
  | cons token rest ih =>
      obtain ⟨htoken, hrest⟩ := List.forall_mem_cons.mp hread
      have hstep : Accounted tokens (parser.step limit token) := accounted_step h htoken
      rw [steps]
      cases hnext : parser.step limit token with
      | ok next =>
          rw [hnext] at hstep
          exact ih hstep hrest
      | error error =>
          rw [hnext] at hstep
          exact hstep

/-- What is missing at the end is reported where it was opened. -/
theorem finish_error (h : OpenedBy tokens parser.stack) {error : ParseError}
    (hfinish : parser.finish = .error error) :
    (∃ token ∈ tokens, error.position = token.start) ∧ error.cause.isMissingInput = true := by
  obtain ⟨forms, stack⟩ := parser
  cases stack with
  | nil => cases hfinish
  | cons top rest =>
      have htop := (openedBy_cons.mp h).1
      cases top <;> cases hfinish <;> exact ⟨⟨_, htop, rfl⟩, rfl⟩

/-- Tokens that are refused: one of them is, where those before it are not. -/
theorem exists_refused {read : List Token} {error : ParseError}
    (h : parser.steps limit read = .error error) :
    ∃ before token after next, read = before ++ token :: after ∧
      parser.steps limit before = .ok next ∧ next.step limit token = .error error := by
  induction read generalizing parser with
  | nil => cases h
  | cons token rest ih =>
      rw [steps] at h
      cases hnext : parser.step limit token with
      | error refused =>
          rw [hnext] at h
          cases h
          exact ⟨[], token, rest, parser, rfl, rfl, hnext⟩
      | ok next =>
          rw [hnext] at h
          obtain ⟨before, last, after, middle, rfl, hbefore, hlast⟩ := ih h
          refine ⟨token :: before, last, after, middle, rfl, ?_, hlast⟩
          rw [steps, hnext]
          exact hbefore

/-- Once refused, always refused. -/
theorem steps_append_of_error {read : List Token} {error : ParseError}
    (h : parser.steps limit read = .error error) (more : List Token) :
    parser.steps limit (read ++ more) = .error error := by
  rw [steps_append, h]
  rfl

end Parser

namespace Form

open Workbench.Parser

variable {limit : Nat} {tokens : List Token} {error : ParseError}

/-- How an error comes about: a token was refused, or something was open at the end. -/
theorem parse_eq_error_iff : parse limit tokens = .error error ↔
    Parser.steps limit {} tokens = .error error ∨
      ∃ parser, Parser.steps limit {} tokens = .ok parser ∧ parser.finish = .error error := by
  unfold parse
  cases Parser.steps limit {} tokens with
  | error refused => simp [bind, Except.bind]
  | ok parser => simp [bind, Except.bind]

/-- An error is reported at a token, is not that the input has ended, and reports missing input
exactly if no token was refused. -/
theorem parse_error_cases (h : parse limit tokens = .error error) :
    (∃ token ∈ Token.withoutComments tokens, error.position = token.start) ∧
    error.cause ≠ .endOfInput ∧
    (error.cause.isMissingInput = false ↔ Parser.steps limit {} tokens = .error error) := by
  have hmem : ∀ token ∈ tokens, token.kind ≠ .comment → token ∈ Token.withoutComments tokens := by
    intro token hmem hkind
    exact List.mem_filter.mpr ⟨hmem, by simpa using hkind⟩
  have hsteps : Accounted (Token.withoutComments tokens) (Parser.steps limit {} tokens) :=
    accounted_steps (fun _ hopen => absurd hopen List.not_mem_nil) hmem
  rcases parse_eq_error_iff.mp h with hrefused | ⟨parser, hparser, hfinish⟩
  · rw [hrefused] at hsteps
    obtain ⟨hplace, hcause, hother⟩ := hsteps
    exact ⟨hplace, hother, iff_of_true hcause hrefused⟩
  · rw [hparser] at hsteps
    obtain ⟨hplace, hmissing⟩ := finish_error hsteps hfinish
    refine ⟨hplace, ?_, iff_of_false (by simp [hmissing]) (by simp [hparser])⟩
    intro hother
    rw [hother] at hmissing
    cases hmissing

/-- Where a token was refused, no error was final before it and this one is from then on. -/
theorem exists_deciding (h : Parser.steps limit {} tokens = .error error) :
    ∃ before token after, tokens = before ++ token :: after ∧ token.kind ≠ .comment ∧
      (∀ early, parse limit before = .error early →
        early.cause.message ∈ ParseError.missingInput) ∧
      ∀ more, parse limit (before ++ token :: more) = .error error := by
  obtain ⟨before, token, after, next, rfl, hbefore, htoken⟩ := exists_refused h
  refine ⟨before, token, after, rfl, ?_, ?_, ?_⟩
  · intro hkind
    simp [step, hkind] at htoken
  · intro early hearly
    rw [ParseError.Cause.message_cases early.cause |>.2, ← Bool.not_eq_false]
    intro hfinal
    have hrefused := (parse_error_cases hearly).2.2.mp hfinal
    rw [hbefore] at hrefused
    cases hrefused
  · intro more
    apply parse_eq_error_iff.mpr
    left
    rw [steps_append_of_ok hbefore, steps, htoken]

/-- A token of unknown kind. -/
def stray : Token := ⟨"", .unknown, .first, .first⟩

/-- **Parse errors are well placed, and all but those that report missing input are final.** An
error of the parser by descent is reported at a token that is not a comment, and it is never that the
input has ended where a form should be. More tokens make no difference to it exactly if it does not
report missing input; it is then there as soon as one of the tokens has been read, and no error before
that is final. -/
theorem parse_error_final (h : Descent.parse limit tokens = .error error) :
    (∃ token ∈ Token.withoutComments tokens, error.position = token.start) ∧
    error.cause.message ≠ "unexpected end of input" ∧
    (error.cause.message ∉ ParseError.missingInput ↔
      ∀ more, Descent.parse limit (tokens ++ more) = .error error) ∧
    (error.cause.message ∉ ParseError.missingInput →
      ∃ before token after, tokens = before ++ token :: after ∧ token.kind ≠ .comment ∧
        (∀ early, Descent.parse limit before = .error early →
          early.cause.message ∈ ParseError.missingInput) ∧
        ∀ more, Descent.parse limit (before ++ token :: more) = .error error) := by
  -- The stack gives the same answers, and of it each part is known.
  simp only [Descent.parse_eq] at h ⊢
  obtain ⟨hend, hmessage⟩ := error.cause.message_cases
  obtain ⟨hplace, hother, hrefused⟩ := parse_error_cases h
  rw [ne_eq, hend, hmessage, Bool.not_eq_true, hrefused]
  refine ⟨hplace, hother, ⟨?_, ?_⟩, exists_deciding⟩
  · intro hsteps more
    exact parse_eq_error_iff.mpr (.inl (steps_append_of_error hsteps more))
  · -- A stray token is refused, and that is another error than that something is missing.
    intro hfinal
    rcases parse_eq_error_iff.mp h with hsteps | ⟨parser, hparser, hfinish⟩
    · exact hsteps
    · have hstray : Parser.steps limit {} (tokens ++ [stray]) =
          .error ⟨.first, .invalidToken ""⟩ := by
        rw [steps_append_of_ok hparser]
        rfl
      have hinvalid := hfinal [stray]
      rw [parse_eq_error_iff.mpr (.inl hstray)] at hinvalid
      cases hinvalid
      rw [← hrefused]
      rfl

/-- The tokens of a function with a number for a parameter, after a comment. -/
def misnamed : List Token :=
  [⟨"; f", .comment, ⟨1, 1⟩, ⟨1, 3⟩⟩, ⟨"fn", .word, ⟨2, 1⟩, ⟨2, 2⟩⟩,
   ⟨"[", .leftSquare, ⟨2, 4⟩, ⟨2, 4⟩⟩, ⟨"1", .number, ⟨2, 5⟩, ⟨2, 5⟩⟩,
   ⟨"]", .rightSquare, ⟨2, 6⟩, ⟨2, 6⟩⟩]

/-- A number for a parameter is refused when the list of parameters ends, at the function. -/
theorem parse_error_final_misnamed :
    Descent.parse 2 misnamed = .error ⟨⟨2, 1⟩, .parameterNotAWord⟩ ∧
    ∀ more, Descent.parse 2 (misnamed ++ more) = .error ⟨⟨2, 1⟩, .parameterNotAWord⟩ := by
  have hparse : Descent.parse 2 misnamed = .error ⟨⟨2, 1⟩, .parameterNotAWord⟩ :=
    (Descent.parse_eq 2 misnamed).trans rfl
  exact ⟨hparse, (parse_error_final hparse).2.2.1.mp (by decide)⟩

end Form

end Workbench
