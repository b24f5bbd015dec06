import Workbench.Form.Parser

/-!
The parser by recursive descent. `Form.parse` takes one token at a time and keeps a stack of what is
open. A parser can as well look for a form, and for the forms inside that, by calls of itself. It
keeps an index into the tokens and a counter of its depth, which it raises where something opens and
lowers by hand where that is complete. It looks in several places whether any token is left; where a
form should be and none is, it refuses the end of the input.

What a routine answers carries that it has read something and has left the depth as it should
(`Descent.Read`). So the recursion ends, without a bound on it.
-/

namespace Workbench

/-- The two kinds of groups. -/
inductive Bracket where
  | round
  | square

namespace Bracket

/-- The kind of the token that closes a group. -/
def closer : Bracket → Token.Kind
  | .round => .rightParen
  | .square => .rightSquare

/-- What is wrong with a group that is not closed. -/
def unterminated : Bracket → ParseError.Cause
  | .round => .unterminatedCall
  | .square => .unterminatedList

/-- A group as a form. -/
def form : Bracket → List Form → Form
  | .round => .call
  | .square => .list

/-- A group that is open. -/
def opened : Bracket → Token → List Form → Parser.Open
  | .round => .call
  | .square => .list

end Bracket

/-- Where a parser by descent stands. -/
structure Descent where
  /-- The number of tokens before it. -/
  index : Nat := 0
  /-- The number of groups and functions around it. -/
  depth : Nat := 0

namespace Descent

/-- One token further. -/
def advance (state : Descent) : Descent := { state with index := state.index + 1 }

/-- One level deeper. -/
def deeper (state : Descent) : Descent := { state with depth := state.depth + 1 }

/-- One level up. -/
def shallower (state : Descent) : Descent := { state with depth := state.depth - 1 }

/-- Fails where the depth exceeds the limit; the error is at the token that opened the last level. -/
def checkDepth (limit : Nat) (state : Descent) (opener : Token) : Except ParseError Unit :=
  if limit < state.depth then .error ⟨opener.start, .nestingTooDeep limit⟩ else .ok ()

/-- A state at a token is within the tokens. -/
theorem index_lt_length {tokens : List Token} {state : Descent} {token : Token}
    (h : tokens[state.index]? = some token) : state.index < tokens.length :=
  (List.getElem?_eq_some_iff.mp h).1

/-- Past the comments that are next. -/
def skipComments (tokens : List Token) (state : Descent) : Descent :=
  match h : tokens[state.index]? with
  | some token =>
      have _ : tokens.length - state.advance.index < tokens.length - state.index :=
        Nat.sub_succ_lt_self _ _ (index_lt_length h)
      if token.kind = .comment then state.advance.skipComments tokens else state
  | none => state
termination_by tokens.length - state.index

/-- The place of the last token's last character. -/
def endPosition (tokens : List Token) : Position :=
  (tokens.getLast?.map Token.stop).getD .first

/-- The parameters of a function: a list of words. -/
def parametersOf (word : Token) : Form → Except ParseError (List Form)
  | .list parameters =>
      if parameters.all fun parameter => parameter.kind = .word then .ok parameters
      else .error ⟨word.start, .parameterNotAWord⟩
  | _ => .error ⟨word.start, .parametersNotAList⟩

section SkipComments

variable (tokens : List Token) (state : Descent)

/-- Skipping comments never goes back. -/
theorem le_index_skipComments : state.index ≤ (state.skipComments tokens).index := by
  fun_induction skipComments tokens state with
  | case1 state token h hless hcomment ih => exact Nat.le_trans (Nat.le_succ _) ih
  | case2 | case3 => exact Nat.le_refl _

/-- Skipping comments goes no deeper. -/
@[simp]
theorem depth_skipComments : (state.skipComments tokens).depth = state.depth := by
  fun_induction skipComments tokens state with
  | case1 state token h hless hcomment ih => exact ih
  | case2 | case3 => rfl

end SkipComments

/-- What is read from some index on: it takes one token at least, and leaves a certain depth. -/
structure Read (α : Type) (index depth : Nat) where
  value : α
  /-- Where reading stopped. -/
  next : Descent
  progress : index < next.index
  balance : next.depth = depth

/-- What is read can be seen as read from further back, and as something else. -/
def Read.since {α β : Type} {index depth earlier depth' : Nat} (read : Read α index depth)
    (f : α → β) (hindex : earlier ≤ index) (hdepth : depth = depth') : Read β earlier depth' :=
  ⟨f read.value, read.next, Nat.lt_of_le_of_lt hindex read.progress, read.balance.trans hdepth⟩

variable (limit : Nat) (tokens : List Token)

mutual

/-- One form. -/
def expr (state : Descent) : Except ParseError (Read Form state.index state.depth) :=
  let start := state.skipComments tokens
  match h : tokens[start.index]? with
  | none => .error ⟨endPosition tokens, .endOfInput⟩
  | some token =>
      have _ : start.index < tokens.length := index_lt_length h
      have hindex : state.index < start.advance.index :=
        Nat.lt_succ_of_le (le_index_skipComments tokens state)
      have hdepth : start.advance.depth = state.depth := depth_skipComments tokens state
      match token.kind with
      | .leftParen => do
          let items ← sequence .round token start.advance
          return items.since .call (Nat.le_of_lt hindex) hdepth
      | .leftSquare => do
          let items ← sequence .square token start.advance
          return items.since .list (Nat.le_of_lt hindex) hdepth
      | .rightParen | .rightSquare => .error ⟨token.start, .unexpected token.value⟩
      | .string => .ok ⟨.string token, start.advance, hindex, hdepth⟩
      | .number => .ok ⟨.number token, start.advance, hindex, hdepth⟩
      | .word =>
          if token.value = "fn" then do
            let form ← function token start.advance
            return form.since id (Nat.le_of_lt hindex) hdepth
          else if token.value = "true" ∨ token.value = "false" then
            .ok ⟨.boolean token, start.advance, hindex, hdepth⟩
          else .ok ⟨.word token, start.advance, hindex, hdepth⟩
      | .singleQuote => .error ⟨token.start, .quoting⟩
      | .unknown => .error ⟨token.start, .invalidToken token.value⟩
      -- No comment is next behind those that are skipped.
      | .comment => do
          let form ← expr start.advance
          return form.since id (Nat.le_of_lt hindex) hdepth
termination_by 3 * (tokens.length - state.index)
decreasing_by
  all_goals
    simp +zetaDelta only [advance] at *
    omega

/-- A group, behind the token that opens it. -/
def sequence (bracket : Bracket) (opener : Token) (state : Descent) :
    Except ParseError (Read (List Form) state.index state.depth) := do
  checkDepth limit state.deeper opener
  let all ← items bracket opener [] state.deeper
  return all.since id (Nat.le_refl state.index) (Nat.add_sub_cancel state.depth 1)
termination_by 3 * (tokens.length - state.index) + 2
decreasing_by
  exact Nat.lt_succ_self _

/-- The items of a group, after some that have been read, the last one first. -/
def items (bracket : Bracket) (opener : Token) (before : List Form) (state : Descent) :
    Except ParseError (Read (List Form) state.index (state.depth - 1)) :=
  let start := state.skipComments tokens
  have hindex : state.index ≤ start.index := le_index_skipComments tokens state
  have hdepth : start.depth = state.depth := depth_skipComments tokens state
  match h : tokens[start.index]? with
  | none => .error ⟨opener.start, bracket.unterminated⟩
  | some token =>
      have _ : start.index < tokens.length := index_lt_length h
      if token.kind = bracket.closer then
        .ok ⟨before.reverse, start.advance.shallower, Nat.lt_succ_of_le hindex,
          congrArg (· - 1) hdepth⟩
      else do
        let item ← expr start
        have hitem : start.index < item.next.index := item.progress
        let all ← items bracket opener (item.value :: before) item.next
        return all.since id (Nat.le_trans hindex (Nat.le_of_lt hitem))
          (congrArg (· - 1) (item.balance.trans hdepth))
termination_by 3 * (tokens.length - state.index) + 1
decreasing_by
  all_goals
    simp +zetaDelta only at *
    omega

/-- A function, behind the word that introduces it. -/
def function (word : Token) (state : Descent) :
    Except ParseError (Read Form state.index state.depth) := do
  checkDepth limit state.deeper word
  let start := state.deeper.skipComments tokens
  have hindex : state.index ≤ start.index := le_index_skipComments tokens state.deeper
  have hdepth : start.depth = state.depth + 1 := depth_skipComments tokens state.deeper
  match tokens[start.index]? with
  | none => .error ⟨word.start, .missingParameters⟩
  | some _ =>
      let list ← expr start
      let parameters ← parametersOf word list.value
      let next := list.next.skipComments tokens
      have hnext : start.index < next.index :=
        Nat.lt_of_lt_of_le list.progress (le_index_skipComments tokens list.next)
      have hbody : next.depth = state.depth + 1 :=
        (depth_skipComments tokens list.next).trans (list.balance.trans hdepth)
      match tokens[next.index]? with
      | none => .error ⟨word.start, .missingBody⟩
      | some _ =>
          let body ← expr next
          return ⟨.function word parameters body.value, body.next.shallower,
            Nat.lt_of_le_of_lt hindex (Nat.lt_trans hnext body.progress),
            congrArg (· - 1) (body.balance.trans hbody)⟩
termination_by 3 * (tokens.length - state.index) + 1
decreasing_by
  all_goals
    simp +zetaDelta only at *
    omega

end

/-- The forms that are left, after some that have been read, the last one first. -/
def forms (before : List Form) (state : Descent) : Except ParseError (List Form) :=
  let start := state.skipComments tokens
  match h : tokens[start.index]? with
  | none => .ok before.reverse
  | some _ => do
      have _ : start.index < tokens.length := index_lt_length h
      have _ : state.index ≤ start.index := le_index_skipComments tokens state
      let form ← expr limit tokens start
      have _ : start.index < form.next.index := form.progress
      forms (form.value :: before) form.next
termination_by tokens.length - state.index
decreasing_by
  simp +zetaDelta only at *
  omega

/-- The program that tokens spell, as a call form of its top-level forms. -/
def parse : Except ParseError Form := do
  return .call (← forms limit tokens [] {})

end Descent

end Workbench
