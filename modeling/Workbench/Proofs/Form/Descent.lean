import Workbench.Form.Descent

/-!
# The descent and the stack

**Theorem** (`Descent.parse_eq`): the parser by recursive descent and the parser with a stack give
the same answer for all tokens and limits.

* Each routine of the descent does what the steps of the stack do up to where it stops
  (`Descent.run_expr`, `Descent.run_items`, `Descent.run_sequence`, `Descent.run_function`). Its depth
  is the height of the stack.
* A form is only looked for where a token is next that does not close what is innermost. So the
  descent never refuses the end of the input there, and the stack has no such error to begin with.
-/

namespace Workbench

namespace Descent

/-! ### Where the comments end -/

variable {limit : Nat} {tokens : List Token} {state : Descent}

/-- What is next behind comments is no comment. -/
theorem kind_ne_comment_of_skipComments {token : Token}
    (h : tokens[(state.skipComments tokens).index]? = some token) : token.kind ≠ .comment := by
  fun_induction skipComments tokens state with
  | case1 state _ _ hless hcomment ih => exact ih h
  | case2 state other hother hless hkind =>
      rw [hother] at h
      cases h
      exact hkind
  | case3 state hnone =>
      rw [hnone] at h
      cases h

/-- Behind comments there are none to skip. -/
theorem skipComments_skipComments :
    (state.skipComments tokens).skipComments tokens = state.skipComments tokens := by
  rw [skipComments]
  split
  · rename_i token h
    exact if_neg (kind_ne_comment_of_skipComments h)
  · rfl

/-- What is next is still next when comments have been skipped. -/
theorem next_skipComments {next : Option Token}
    (h : tokens[(state.skipComments tokens).index]? = next) :
    tokens[((state.skipComments tokens).skipComments tokens).index]? = next := by
  rw [skipComments_skipComments]
  exact h

/-! ### Both parsers, step by step -/

/-- What the stack makes of the tokens from some state on. -/
def run (limit : Nat) (tokens : List Token) (parser : Parser) (state : Descent) :
    Except ParseError Form :=
  parser.steps limit (tokens.drop state.index) >>= Parser.finish

variable {parser : Parser}

/-- Behind the last token. -/
theorem run_of_none (h : tokens[state.index]? = none) :
    run limit tokens parser state = parser.finish := by
  rw [run, List.drop_eq_nil_of_le (List.getElem?_eq_none_iff.mp h)]
  rfl

/-- At a token. -/
theorem run_of_some {token : Token} (h : tokens[state.index]? = some token) :
    run limit tokens parser state =
      parser.step limit token >>= fun next => run limit tokens next state.advance := by
  obtain ⟨hindex, rfl⟩ := List.getElem?_eq_some_iff.mp h
  rw [run, List.drop_eq_getElem_cons hindex, Parser.steps]
  cases parser.step limit tokens[state.index] <;> rfl

/-- The stack passes over comments. -/
theorem run_skipComments :
    run limit tokens parser (state.skipComments tokens) = run limit tokens parser state := by
  fun_induction skipComments tokens state with
  | case1 state token h hless hcomment ih =>
      rw [ih, run_of_some h]
      simp only [Parser.step, hcomment]
      rfl
  | case2 | case3 => rfl

/-- Whether a token closes what is innermost. -/
def Closes (token : Token) : List Parser.Open → Prop
  | .call _ _ :: _ => token.kind = .rightParen
  | .list _ _ :: _ => token.kind = .rightSquare
  | _ => False

/-- What the stack makes of a form that it places and of the tokens behind it. -/
def resume (limit : Nat) (tokens : List Token) (forms : List Form) (stack : List Parser.Open)
    (form : Form) (next : Descent) : Except ParseError Form :=
  Parser.place forms stack form >>= fun parser => run limit tokens parser next

section Stack

variable {forms before : List Form} {stack : List Parser.Open} {token opener : Token}
variable {bracket : Bracket}

/-- The depth is checked as the height of the stack is. -/
theorem push_eq_checkDepth (hstack : stack.length = state.depth) (opened : Parser.Open) :
    Parser.push limit ⟨forms, stack⟩ opener opened =
      checkDepth limit state.deeper opener >>= fun _ => pure ⟨forms, opened :: stack⟩ := by
  unfold Parser.push checkDepth
  change (if stack.length < limit then _ else _) = (if limit < state.depth + 1 then _ else _) >>= _
  by_cases hroom : state.depth < limit
  · rw [hstack, if_pos hroom, if_neg (Nat.not_lt.mpr hroom)]
    rfl
  · rw [hstack, if_neg hroom, if_pos (Nat.lt_succ_of_le (Nat.not_lt.mp hroom))]
    rfl

/-- A group takes any form. -/
theorem place_opened (form : Form) :
    Parser.place forms (bracket.opened opener before :: stack) form =
      pure ⟨forms, bracket.opened opener (form :: before) :: stack⟩ := by
  cases bracket <;> rfl

/-- The token that closes a group. -/
theorem step_closer (hclose : token.kind = bracket.closer) :
    Parser.step limit ⟨forms, bracket.opened opener before :: stack⟩ token =
      Parser.place forms stack (bracket.form before.reverse) := by
  cases bracket with
  | round | square => simp only [Parser.step, hclose, Bracket.closer, Bracket.opened, Bracket.form]

/-- Another token does not close a group. -/
theorem not_closes_opened (hclose : token.kind ≠ bracket.closer) :
    ¬ Closes token (bracket.opened opener before :: stack) := by
  cases bracket <;> exact hclose

/-- A group that is open at the end is reported. -/
theorem finish_opened :
    Parser.finish ⟨forms, bracket.opened opener before :: stack⟩ =
      .error ⟨opener.start, bracket.unterminated⟩ := by
  cases bracket <;> rfl

/-- The form that a function takes first is its list of parameters. -/
theorem place_function (form : Form) :
    Parser.place forms (.function opener :: stack) form =
      parametersOf opener form >>= fun parameters =>
        pure ⟨forms, .body opener parameters :: stack⟩ := by
  cases form with
  | list parameters =>
      simp only [Parser.place, parametersOf]
      split <;> rfl
  | word | call | string | number | boolean | function => rfl

/-- A closing bracket that does not close what is innermost is refused. -/
theorem step_of_not_closes (hkind : token.kind = .rightParen ∨ token.kind = .rightSquare)
    (hcloses : ¬ Closes token stack) :
    Parser.step limit ⟨forms, stack⟩ token = .error ⟨token.start, .unexpected token.value⟩ := by
  rcases hkind with hkind | hkind
  all_goals
    simp only [Parser.step, hkind]
    split
    · exact absurd hkind hcloses
    · rfl

end Stack

section Routines

variable {forms : List Form}

mutual

/-- **A form**, where its first token does not close what is innermost. -/
theorem run_expr {state : Descent} {stack : List Parser.Open} {token : Token}
    (hstack : stack.length = state.depth)
    (htoken : tokens[(state.skipComments tokens).index]? = some token)
    (hcloses : ¬ Closes token stack) :
    run limit tokens ⟨forms, stack⟩ state =
      expr limit tokens state >>= fun form =>
        resume limit tokens forms stack form.value form.next := by
  have hless : 3 * (tokens.length - (state.skipComments tokens).advance.index) + 2 <
      3 * (tokens.length - state.index) := by
    have hlength := index_lt_length htoken
    have hindex := le_index_skipComments tokens state
    simp only [advance]
    omega
  have hdepth : stack.length = (state.skipComments tokens).advance.depth :=
    hstack.trans (depth_skipComments tokens state).symm
  rw [← run_skipComments, run_of_some htoken, expr]
  split
  · rename_i hnone
    rw [htoken] at hnone
    cases hnone
  · rename_i same hsome
    obtain rfl := Option.some.inj (htoken.symm.trans hsome)
    cases hkind : token.kind with
    | leftParen =>
        simp only [Parser.step, hkind, bind_assoc, pure_bind]
        exact run_sequence .round token hdepth
    | leftSquare =>
        simp only [Parser.step, hkind, bind_assoc, pure_bind]
        exact run_sequence .square token hdepth
    | rightParen =>
        rw [step_of_not_closes (.inl hkind) hcloses]
        rfl
    | rightSquare =>
        rw [step_of_not_closes (.inr hkind) hcloses]
        rfl
    | string | number =>
        simp only [Parser.step, hkind]
        rfl
    | word =>
        simp only [Parser.step, hkind]
        split
        · simp only [bind_assoc, pure_bind]
          exact run_function token hdepth
        · split <;> rfl
    | singleQuote | unknown =>
        simp only [Parser.step, hkind]
        rfl
    | comment => exact absurd hkind (kind_ne_comment_of_skipComments htoken)
termination_by 3 * (tokens.length - state.index)

/-- **A group**, once it is open. -/
theorem run_sequence {state : Descent} {stack : List Parser.Open} (bracket : Bracket)
    (opener : Token) (hstack : stack.length = state.depth) :
    (Parser.push limit ⟨forms, stack⟩ opener (bracket.opened opener []) >>= fun parser =>
      run limit tokens parser state) =
      sequence limit tokens bracket opener state >>= fun all =>
        resume limit tokens forms stack (bracket.form all.value) all.next := by
  rw [push_eq_checkDepth hstack, sequence]
  simp only [bind_assoc, pure_bind]
  refine bind_congr fun _ => ?_
  have hdeeper : stack.length + 1 = state.deeper.depth := congrArg (· + 1) hstack
  exact run_items bracket opener [] hdeeper
termination_by 3 * (tokens.length - state.index) + 2
decreasing_by exact Nat.lt_succ_self _

/-- **The items of a group** that are left, where some have been read. -/
theorem run_items {state : Descent} {stack : List Parser.Open} (bracket : Bracket)
    (opener : Token) (before : List Form) (hstack : stack.length + 1 = state.depth) :
    run limit tokens ⟨forms, bracket.opened opener before :: stack⟩ state =
      items limit tokens bracket opener before state >>= fun all =>
        resume limit tokens forms stack (bracket.form all.value) all.next := by
  have hindex := le_index_skipComments tokens state
  have hdepth : stack.length + 1 = (state.skipComments tokens).depth :=
    hstack.trans (depth_skipComments tokens state).symm
  rw [← run_skipComments, items]
  split
  · rename_i hnone
    rw [run_of_none hnone, finish_opened]
    rfl
  · rename_i token htoken
    have hlength := index_lt_length htoken
    split
    · rename_i hclose
      rw [run_of_some htoken, step_closer hclose]
      rfl
    · rename_i hclose
      have hopened : (bracket.opened opener before :: stack).length =
          (state.skipComments tokens).depth := hdepth
      rw [run_expr hopened (next_skipComments htoken) (not_closes_opened hclose), bind_assoc]
      refine bind_congr fun item => ?_
      have hitem := item.progress
      rw [resume, place_opened]
      simp only [bind_assoc, pure_bind]
      exact run_items bracket opener (item.value :: before) (hdepth.trans item.balance.symm)
termination_by 3 * (tokens.length - state.index) + 1

/-- **A function**, once it is open. -/
theorem run_function {state : Descent} {stack : List Parser.Open} (word : Token)
    (hstack : stack.length = state.depth) :
    (Parser.push limit ⟨forms, stack⟩ word (.function word) >>= fun parser =>
      run limit tokens parser state) =
      function limit tokens word state >>= fun form =>
        resume limit tokens forms stack form.value form.next := by
  have hindex := le_index_skipComments tokens state.deeper
  rw [push_eq_checkDepth hstack, function]
  simp only [bind_assoc, pure_bind]
  refine bind_congr fun _ => ?_
  have hdepth : (Parser.Open.function word :: stack).length =
      (state.deeper.skipComments tokens).depth :=
    (congrArg (· + 1) hstack).trans (depth_skipComments tokens state.deeper).symm
  change run limit tokens _ state.deeper = _
  rw [← run_skipComments]
  split
  · rename_i hnone
    rw [run_of_none hnone]
    rfl
  · rename_i token htoken
    rw [run_expr hdepth (next_skipComments htoken) id]
    simp only [bind_assoc]
    refine bind_congr fun list => ?_
    rw [resume, place_function]
    simp only [bind_assoc, pure_bind]
    refine bind_congr fun parameters => ?_
    have hbody : (Parser.Open.body word parameters :: stack).length =
        (list.next.skipComments tokens).depth := by
      rw [depth_skipComments, list.balance]
      exact hdepth
    have hlist := list.progress
    have hnext := le_index_skipComments tokens list.next
    rw [← run_skipComments]
    split
    · rename_i hnone
      rw [run_of_none hnone]
      rfl
    · rename_i last hlast
      rw [run_expr hbody (next_skipComments hlast) id]
      simp only [bind_assoc, pure_bind]
      rfl
termination_by 3 * (tokens.length - state.index) + 1
decreasing_by
  all_goals
    simp only [deeper] at *
    omega

end

end Routines

/-- **The top-level forms** that are left, where some have been read. -/
theorem run_forms {state : Descent} {before : List Form} (hdepth : state.depth = 0) :
    run limit tokens ⟨before, []⟩ state =
      forms limit tokens before state >>= fun all => pure (.call all) := by
  have hindex := le_index_skipComments tokens state
  have hstart : (state.skipComments tokens).depth = 0 :=
    (depth_skipComments tokens state).trans hdepth
  have hstack : ([] : List Parser.Open).length = (state.skipComments tokens).depth := hstart.symm
  rw [← run_skipComments, forms]
  split
  · rename_i hnone
    rw [run_of_none hnone]
    rfl
  · rename_i token htoken
    have hlength := index_lt_length htoken
    rw [run_expr hstack (next_skipComments htoken) id]
    simp only [bind_assoc]
    refine bind_congr fun form => ?_
    have hform := form.progress
    exact run_forms (form.balance.trans hstart)
termination_by tokens.length - state.index

/-- **The descent and the stack give the same answer.** -/
theorem parse_eq (limit : Nat) (tokens : List Token) : parse limit tokens = Form.parse limit tokens :=
  (run_forms rfl).symm

end Descent

end Workbench
