import Workbench.Form.Parser

/-!
# Places do not matter to the parser

`Token.unplaced` and `Form.unplaced` forget where in the source text tokens stand. Two forms are the
same up to places if they are equal without them. **Theorem** (`Form.parse_unplaced`): what the
parser answers for tokens without places is what it answers for the tokens, without places. So the
places of tokens show in the places of forms and of errors and nowhere else.
-/

namespace Workbench

/-- The token with its places forgotten. -/
def Token.unplaced (token : Token) : Token :=
  { token with start := .first, stop := .first }

/-- A token without its place has its value. -/
@[simp]
theorem Token.value_unplaced (token : Token) : token.unplaced.value = token.value := rfl

/-- And it has its kind. -/
@[simp]
theorem Token.kind_unplaced (token : Token) : token.unplaced.kind = token.kind := rfl

namespace Form

mutual

/-- The form with the places of its tokens forgotten. -/
def unplaced : Form → Form
  | .word token => .word token.unplaced
  | .call items => .call (unplacedAll items)
  | .list items => .list (unplacedAll items)
  | .string token => .string token.unplaced
  | .number token => .number token.unplaced
  | .boolean token => .boolean token.unplaced
  | .function token parameters body =>
      .function token.unplaced (unplacedAll parameters) body.unplaced

/-- Forms with the places of their tokens forgotten. -/
def unplacedAll : List Form → List Form
  | [] => []
  | form :: rest => form.unplaced :: unplacedAll rest

end

/-- Each form in a list is taken by itself. -/
@[simp]
theorem unplacedAll_eq_map (forms : List Form) : unplacedAll forms = forms.map unplaced := by
  induction forms with
  | nil => rfl
  | cons form rest ih => simp [unplacedAll, ih]

/-- A form without places is of the same kind. -/
@[simp]
theorem kind_unplaced (form : Form) : form.unplaced.kind = form.kind := by
  cases form <;> rfl

mutual

/-- A form has a last place exactly if it has one without places. -/
theorem lastPlace_unplaced (form : Form) :
    form.unplaced.lastPlace = form.lastPlace.map fun _ => .first := by
  match form with
  | .word _ | .string _ | .number _ | .boolean _ => rfl
  | .call items => simpa only [unplaced, lastPlace] using lastPlaceOf_unplacedAll items
  | .list items => simpa only [unplaced, lastPlace] using lastPlaceOf_unplacedAll items
  | .function token parameters body =>
      simp only [unplaced, lastPlace, lastPlace_unplaced body]
      cases body.lastPlace <;> rfl

/-- A list of forms has a last place without places if it has one with them. -/
theorem lastPlaceOf_unplacedAll (forms : List Form) :
    lastPlaceOf (unplacedAll forms) = (lastPlaceOf forms).map fun _ => .first := by
  match forms with
  | [] => rfl
  | form :: rest =>
      simp only [unplacedAll, lastPlaceOf, lastPlaceOf_unplacedAll rest, lastPlace_unplaced form]
      cases lastPlaceOf rest <;> rfl

end

end Form

/-- The error with its place forgotten. -/
def ParseError.unplaced (error : ParseError) : ParseError := { error with position := .first }

namespace Parser

/-- What is open, with the places of tokens forgotten. -/
def Open.unplaced : Open → Open
  | .call opener items => .call opener.unplaced (items.map Form.unplaced)
  | .list opener items => .list opener.unplaced (items.map Form.unplaced)
  | .function opener => .function opener.unplaced
  | .body opener parameters => .body opener.unplaced (parameters.map Form.unplaced)

/-- The parser with the places of tokens forgotten. -/
def unplaced (parser : Parser) : Parser :=
  ⟨parser.forms.map Form.unplaced, parser.stack.map Open.unplaced⟩

/-- What came of tokens, with places forgotten. -/
def outcomeUnplaced : Except ParseError Parser → Except ParseError Parser
  | .ok parser => .ok parser.unplaced
  | .error error => .error error.unplaced

/-- A form takes its place in a group, whatever its own place is. -/
theorem place_unplaced (forms : List Form) (stack : List Open) (form : Form) :
    place (forms.map Form.unplaced) (stack.map Open.unplaced) form.unplaced =
      outcomeUnplaced (place forms stack form) := by
  induction stack generalizing form with
  | nil => rfl
  | cons top rest ih =>
      cases top with
      | call opener items => rfl
      | list opener items => rfl
      | body opener parameters =>
          have hbody := ih (.function opener parameters form)
          simp only [Form.unplaced, Form.unplacedAll_eq_map] at hbody
          exact hbody
      | function opener =>
          cases form with
          | list parameters =>
              have hall : (parameters.map Form.unplaced).all (fun parameter =>
                  decide (parameter.kind = .word)) =
                    parameters.all fun parameter => decide (parameter.kind = .word) := by
                simp [List.all_map, Function.comp_def]
              simp only [List.map_cons, Open.unplaced, Form.unplaced, Form.unplacedAll_eq_map,
                place, hall]
              split <;> rfl
          | word | call | string | number | boolean | function => rfl

/-- A group is opened or refused, whatever its place is. -/
theorem push_unplaced (limit : Nat) (parser : Parser) (token : Token) (opened : Open) :
    parser.unplaced.push limit token.unplaced opened.unplaced =
      outcomeUnplaced (parser.push limit token opened) := by
  have hlength : parser.unplaced.stack.length = parser.stack.length := List.length_map _
  unfold push
  rw [hlength]
  split <;> rfl

/-- **What one more token does**, places apart. -/
theorem step_unplaced (limit : Nat) (parser : Parser) (token : Token) :
    parser.unplaced.step limit token.unplaced = outcomeUnplaced (parser.step limit token) := by
  obtain ⟨forms, stack⟩ := parser
  unfold step
  rw [Token.kind_unplaced]
  cases token.kind with
  | comment => rfl
  | leftParen => exact push_unplaced limit ⟨forms, stack⟩ token (.call token [])
  | leftSquare => exact push_unplaced limit ⟨forms, stack⟩ token (.list token [])
  | rightParen =>
      match stack with
      | .call _ items :: rest =>
          have hplace := place_unplaced forms rest (.call items.reverse)
          simp only [Form.unplaced, Form.unplacedAll_eq_map, List.map_reverse] at hplace
          exact hplace
      | [] | .list _ _ :: _ | .function _ :: _ | .body _ _ :: _ => rfl
  | rightSquare =>
      match stack with
      | .list _ items :: rest =>
          have hplace := place_unplaced forms rest (.list items.reverse)
          simp only [Form.unplaced, Form.unplacedAll_eq_map, List.map_reverse] at hplace
          exact hplace
      | [] | .call _ _ :: _ | .function _ :: _ | .body _ _ :: _ => rfl
  | string => exact place_unplaced forms stack (.string token)
  | number => exact place_unplaced forms stack (.number token)
  | word =>
      change (if token.value = "fn" then _ else if token.value = "true" ∨ token.value = "false"
        then _ else _) = _
      by_cases hfunction : token.value = "fn"
      · rw [if_pos hfunction, if_pos hfunction]
        exact push_unplaced limit ⟨forms, stack⟩ token (.function token)
      · rw [if_neg hfunction, if_neg hfunction]
        by_cases hboolean : token.value = "true" ∨ token.value = "false"
        · rw [if_pos hboolean, if_pos hboolean]
          exact place_unplaced forms stack (.boolean token)
        · rw [if_neg hboolean, if_neg hboolean]
          exact place_unplaced forms stack (.word token)
  | singleQuote => rfl
  | unknown => rfl

/-- Tokens without places are read as they are with places, one after the other. -/
theorem steps_unplaced (limit : Nat) (parser : Parser) (tokens : List Token) :
    parser.unplaced.steps limit (tokens.map Token.unplaced) =
      outcomeUnplaced (parser.steps limit tokens) := by
  induction tokens generalizing parser with
  | nil => rfl
  | cons token rest ih =>
      rw [List.map_cons, steps, steps, step_unplaced]
      cases parser.step limit token with
      | ok next => exact ih next
      | error error => rfl

/-- At the end of the text, what is still open does not depend on places. -/
theorem finish_unplaced (parser : Parser) :
    parser.unplaced.finish = match parser.finish with
      | .ok form => .ok form.unplaced
      | .error error => .error error.unplaced := by
  obtain ⟨forms, stack⟩ := parser
  match stack with
  | [] => simp [finish, unplaced, Form.unplaced]
  | .call _ _ :: _ | .list _ _ :: _ | .function _ :: _ | .body _ _ :: _ => rfl

end Parser

/-- **Places do not matter to the parser.** -/
theorem Form.parse_unplaced (limit : Nat) (tokens : List Token) :
    parse limit (tokens.map Token.unplaced) = match parse limit tokens with
      | .ok form => .ok form.unplaced
      | .error error => .error error.unplaced := by
  have hsteps := Parser.steps_unplaced limit {} tokens
  change Parser.steps limit {} (tokens.map Token.unplaced) = _ at hsteps
  unfold parse
  rw [hsteps]
  cases Parser.steps limit {} tokens with
  | ok parser => exact parser.finish_unplaced
  | error error => rfl

end Workbench
