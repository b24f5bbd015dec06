import Workbench.Proofs.Evaluator.Places
import Workbench.Proofs.Form.Grammar

/-!
# Layout and comments do not matter

`Program.plain` writes a source text anew: its tokens without the comments, one to a line.
**Theorem** (`Program.layout_irrelevant`): the plain text has the same tokens up to places, it is
read into the same form up to places or refused for the same reason, and it runs with the same
result, print events and failure, up to places.

The tokens are the same because each of them *stands* before a line feed as it stood in the source
text (`Token.StandsBefore`): a line feed ends a number or a word as whatever followed them did, and
it cannot turn a minus sign into the start of a number. The one token that would swallow what
follows, a string without a closing quote, has nothing after it (`Token.Spaced`). The rest is that
neither the parser nor the evaluator looks at comments or places.
-/

namespace Workbench

namespace Token

/-! ### What follows a token -/

/-- What can follow a token in a text that has one token to a line. -/
inductive IsBreak : List Char → Prop where
  | done : IsBreak []
  | line (rest : List Char) : IsBreak ('\n' :: rest)

/-- A count goes on up to a break that takes the place of what ended it. -/
theorem countWhile_append {test : Char → Bool} (htest : test '\n' = false) (cs : List Char)
    {rest : List Char} (hrest : IsBreak rest) :
    countWhile test (cs.take (countWhile test cs) ++ rest) = countWhile test cs := by
  have hbreak : rest.takeWhile test = [] := by
    cases hrest with
    | done => rfl
    | line rest => simp [htest]
  induction cs with
  | nil => simp [countWhile, hbreak]
  | cons c cs ih =>
      by_cases hc : test c = true
      · simpa [countWhile, hc] using ih
      · simp [countWhile, hc, hbreak]

/-- A count up to a character that is kept does not depend on what follows it. -/
theorem countWhile_ne_append {quote : Char} {cs : List Char}
    (hclosed : countWhile (· ≠ quote) cs < cs.length) (rest : List Char) :
    countWhile (· ≠ quote) (cs.take (countWhile (· ≠ quote) cs + 1) ++ rest) =
      countWhile (· ≠ quote) cs := by
  induction cs with
  | nil => exact absurd hclosed (Nat.not_lt_zero _)
  | cons c cs ih =>
      by_cases hc : c = quote
      · simp [countWhile, hc]
      · simp only [countWhile, ne_eq, hc, not_false_eq_true, decide_true,
          List.takeWhile_cons_of_pos, List.length_cons, Nat.add_lt_add_iff_right] at hclosed
        simpa [countWhile, hc] using ih hclosed

/-- No more characters pass a test than there are. -/
theorem countWhile_le (test : Char → Bool) (cs : List Char) : countWhile test cs ≤ cs.length :=
  (List.takeWhile_sublist test).length_le

/-- Where the count of a test that digits pass stopped, a break makes no number start that did not
start, and it hides none that did. -/
theorem startsNumber_append {test : Char → Bool} (hdigit : ∀ c, c.isDigit = true → test c = true)
    (c : Char) (cs : List Char) {rest : List Char} (hrest : IsBreak rest) :
    startsNumber c (cs.take (countWhile test cs) ++ rest) = startsNumber c cs := by
  have hbreak : (rest.head?.map Char.isDigit).getD false = false := by
    cases hrest <;> rfl
  cases cs with
  | nil => simp [startsNumber, hbreak]
  | cons d ds =>
      by_cases hd : test d = true
      · simp [startsNumber, countWhile, hd]
      · have hnot : d.isDigit = false := Bool.eq_false_iff.mpr fun hyes => hd (hdigit d hyes)
        simp [startsNumber, countWhile, hd, hnot, hbreak]

/-- A token takes no more characters than there are. -/
theorem classify_le (c : Char) (cs : List Char) : (classify c cs).2 ≤ cs.length := by
  have hcount := fun test => countWhile_le test cs
  unfold classify
  split
  · exact Nat.zero_le _
  · simp only
    split
    · split
      · assumption
      · exact hcount _
    · split
      · exact hcount _
      · split
        · exact hcount _
        · split
          · exact hcount _
          · exact Nat.zero_le _

/-- **A token before a break.** A token takes the same characters when a break follows them, unless
it is a comment or a string without a closing quote, which take all that is left of the line or of
the text. -/
theorem classify_append (c : Char) (cs : List Char) (hcomment : (classify c cs).1 ≠ .comment)
    (hopen : c = '"' → countWhile (· ≠ '"') cs < cs.length) {rest : List Char}
    (hrest : IsBreak rest) :
    classify c (cs.take (classify c cs).2 ++ rest) = classify c cs := by
  unfold classify at hcomment ⊢
  split
  · rfl
  · rename_i hdelimiter
    simp only [hdelimiter] at hcomment ⊢
    by_cases hquote : c = '"'
    · -- The closing quote is among the characters that are kept.
      have hinside := hopen hquote
      have hcount := countWhile_ne_append hinside rest
      have hlength : countWhile (· ≠ '"') cs <
          (cs.take (countWhile (· ≠ '"') cs + 1) ++ rest).length := by
        simp only [List.length_append, List.length_take]
        omega
      simp only [hquote, if_true, hinside, hcount, hlength]
    · by_cases hsemicolon : c = ';'
      · simp [hsemicolon] at hcomment
      · simp only [hquote, hsemicolon, if_false]
        by_cases hnumber : startsNumber c cs = true
        · simp only [hnumber, if_true,
            startsNumber_append isAlphanumeric_of_isDigit c cs hrest,
            countWhile_append (by decide : Text.isAlphanumeric '\n' = false) cs hrest]
        · by_cases hword : isWordStart c = true
          · simp only [hnumber, hword, if_true, if_false, Bool.false_eq_true,
              startsNumber_append isWordPart_of_isDigit c cs hrest,
              countWhile_append (by decide : isWordPart '\n' = false) cs hrest]
          · have hdigit : c.isDigit = false := by
              simp only [startsNumber, Bool.or_eq_true, not_or] at hnumber
              exact Bool.eq_false_iff.mpr hnumber.1
            have hstill : startsNumber c rest = false := by
              cases hrest <;> simp [startsNumber, hdigit]
            simp [hnumber, hword, hstill]

/-! ### Tokens that can be written one to a line -/

/-- The token is what a text starts with that is its spelling and `rest`. -/
def StandsBefore (token : Token) (rest : List Char) : Prop :=
  ∃ c cs, token.value.toList = c :: cs ∧ Text.isBlank c = false ∧
    classify c (cs ++ rest) = (token.kind, cs.length)

/-- Tokens of which each stands before a line feed, except that the last one may be such that
nothing can follow it. -/
inductive Spaced : List Token → Prop where
  | nil : Spaced []
  | last {token : Token} (hstands : token.StandsBefore []) : Spaced [token]
  | cons {token : Token} {rest : List Token}
      (hstands : ∀ rest, IsBreak rest → token.StandsBefore rest) (hrest : Spaced rest) :
      Spaced (token :: rest)

/-- The token that starts with `c`, where `cs` follows. -/
def startingWith (p : Position) (c : Char) (cs : List Char) : Token :=
  spelled p (classify c cs).1 (c :: cs.take (classify c cs).2)

/-- A character that is no blank begins a token. -/
theorem scan_cons {c : Char} (hblank : Text.isBlank c = false) (p : Position) (cs : List Char) :
    scan p 0 (c :: cs) = startingWith p c cs :: scan (p.after c) (classify c cs).2 cs := by
  rw [scan, hblank]
  rfl

/-- A token can be written on a line of its own, or it is the last one of its text. -/
theorem stands_startingWith (p : Position) {c : Char} (cs : List Char)
    (hblank : Text.isBlank c = false) (hcomment : (classify c cs).1 ≠ .comment) :
    (∀ rest, IsBreak rest → (startingWith p c cs).StandsBefore rest) ∨
    ((startingWith p c cs).StandsBefore [] ∧ cs.drop (classify c cs).2 = []) := by
  have hlength : (cs.take (classify c cs).2).length = (classify c cs).2 :=
    List.length_take_of_le (classify_le c cs)
  have hvalue : (startingWith p c cs).value.toList = c :: cs.take (classify c cs).2 :=
    String.toList_ofList
  by_cases hopen : c = '"' → countWhile (· ≠ '"') cs < cs.length
  · refine .inl fun rest hrest => ⟨c, _, hvalue, hblank, ?_⟩
    rw [classify_append c cs hcomment hopen hrest, hlength]
    rfl
  · -- A string without a closing quote takes all that is left.
    obtain ⟨hquote, hinside⟩ := Classical.not_imp.mp hopen
    have hall : (classify c cs).2 = cs.length := by
      have hle := countWhile_le (· ≠ '"') cs
      subst hquote
      change (if countWhile (· ≠ '"') cs < cs.length then
        (Kind.string, countWhile (· ≠ '"') cs + 1) else
        (Kind.unknown, countWhile (· ≠ '"') cs)).2 = cs.length
      rw [if_neg hinside]
      exact Nat.le_antisymm hle (Nat.le_of_not_lt hinside)
    refine .inr ⟨⟨c, _, hvalue, hblank, ?_⟩, by rw [hall, List.drop_length]⟩
    rw [hlength, List.append_nil, hall, List.take_length, ← hall]
    rfl

/-- The tokens of a text can be written one to a line when the comments are left out. -/
theorem spaced_scan (p : Position) (held : Nat) (cs : List Char) :
    Spaced (withoutComments (scan p held cs)) := by
  induction cs generalizing p held with
  | nil => cases held <;> exact .nil
  | cons c cs ih =>
      cases held with
      | succ more => exact ih (p.after c) more
      | zero =>
          cases hblank : Text.isBlank c with
          | true =>
              rw [scan, hblank]
              exact ih (p.after c) 0
          | false =>
              have hrest := ih (p.after c) (classify c cs).2
              rw [scan_cons hblank, withoutComments]
              by_cases hcomment : (classify c cs).1 = .comment
              · rw [List.filter_cons_of_neg (by simp [startingWith, spelled, hcomment])]
                exact hrest
              · rw [List.filter_cons_of_pos (by simp [startingWith, spelled, hcomment])]
                rcases stands_startingWith p cs hblank hcomment with hstands | ⟨hstands, hdone⟩
                · exact .cons hstands hrest
                · rw [scan_held, hdone]
                  exact .last hstands

/-- A text that starts with a token that stands there. -/
theorem scan_of_standsBefore {token : Token} {rest : List Char} (h : token.StandsBefore rest)
    (p : Position) :
    (scan p 0 (token.value.toList ++ rest)).map unplaced =
      token.unplaced :: (scan (p.afterAll token.value.toList) 0 rest).map unplaced := by
  obtain ⟨c, cs, hvalue, hblank, hclass⟩ := h
  have hspelling : String.ofList (c :: cs) = token.value := by rw [← hvalue, String.ofList_toList]
  rw [hvalue, List.cons_append, scan_cons hblank, startingWith, hclass]
  simp only [List.map_cons, List.take_left, scan_held _ cs.length, List.drop_left, spelled,
    hspelling]
  rfl

/-- **Cutting a text with one token to a line.** It gives the tokens back, up to places. -/
theorem scan_joinWith {tokens : List Token} (hspaced : Spaced tokens) (p : Position) :
    (scan p 0 (Text.joinWith "\n" (tokens.map value)).toList).map unplaced =
      tokens.map unplaced := by
  induction hspaced generalizing p with
  | nil => rfl
  | @last token hstands =>
      have hscan := scan_of_standsBefore hstands p
      rw [List.append_nil] at hscan
      exact hscan
  | @cons token rest hstands hrest ih =>
      cases rest with
      | nil =>
          have hscan := scan_of_standsBefore (hstands [] .done) p
          rw [List.append_nil] at hscan
          exact hscan
      | cons next rest =>
          have htext : (Text.joinWith "\n" ((token :: next :: rest).map value)).toList =
              token.value.toList ++
                '\n' :: (Text.joinWith "\n" ((next :: rest).map value)).toList := by
            simp [String.toList_append]
          rw [htext, scan_of_standsBefore (hstands _ (.line _))]
          -- The line feed is a blank before the next token.
          exact congrArg (token.unplaced :: ·) (ih _)

end Token

/-! ### Two texts with the same tokens -/

namespace Program

/-- The source text with its comments left out and one token to a line. -/
def plain (source : String) : String :=
  Text.joinWith "\n" ((Token.withoutComments (Token.tokenize source)).map Token.value)

/-- The plain text has the tokens of the source text, apart from the comments and up to places. -/
theorem tokenize_plain (source : String) :
    (Token.tokenize (plain source)).map Token.unplaced =
      (Token.withoutComments (Token.tokenize source)).map Token.unplaced :=
  Token.scan_joinWith (Token.spaced_scan .first 0 source.toList) .first

/-- Two attempts to read a program that end the same up to places: with forms that are the same
without their places, or for the same cause. -/
def SameReading : Except ParseError Form → Except ParseError Form → Prop
  | .ok form, .ok form' => form.unplaced = form'.unplaced
  | .error error, .error error' => error.cause = error'.cause
  | _, _ => False

/-- The source text and its plain text are read into the same form or refused for the same cause. -/
theorem sameReading_plain (limit : Nat) (source : String) :
    SameReading (Form.parse limit (Token.tokenize source))
      (Form.parse limit (Token.tokenize (plain source))) := by
  have hsource := Form.parse_unplaced limit (Token.withoutComments (Token.tokenize source))
  have hplain := Form.parse_unplaced limit (Token.tokenize (plain source))
  rw [Form.parse_withoutComments] at hsource
  rw [tokenize_plain, hsource] at hplain
  rcases hleft : Form.parse limit (Token.tokenize source) with error | form <;>
    rcases hright : Form.parse limit (Token.tokenize (plain source)) with error' | form' <;>
    rw [hleft, hright] at hplain
  · have herror : error.unplaced = error'.unplaced := Except.error.inj hplain
    have hcause : error.unplaced.cause = error'.unplaced.cause := congrArg ParseError.cause herror
    exact hcause
  · cases hplain
  · cases hplain
  · exact Except.ok.inj hplain

/-- Two outcomes that are the same up to places. -/
def SameOutcome : Except Failure Output → Except Failure Output → Prop
  | .ok output, .ok output' => output.result.unplaced = output'.result.unplaced
  | .error failure, .error failure' => failure.unplaced = failure'.unplaced
  | _, _ => False

/-- Two runs that show the same up to places: the same print events and outcomes that are the same.
The texts of the print events are the same as they are. -/
structure SameRun (left right : Run) : Prop where
  events : left.events.map (·.map Value.unplaced) = right.events.map (·.map Value.unplaced)
  texts : left.events.map (·.map Value.render) = right.events.map (·.map Value.render)
  outcome : SameOutcome left.outcome right.outcome

/-- The second events are the first without places. -/
def Unplaces (events events' : Array (List Value)) : Prop :=
  events'.toList = events.toList.map (·.map Value.unplaced)

/-- A form is evaluated among fresh globals as the form without places is. -/
theorem alike_unplaced (bounds : Bounds) (form : Form) :
    Eval.Alike Value.unplaced (Eval.evalProgram bounds form (Machine.recording Frame.standard)).1
      (Eval.evalProgram bounds form.unplaced (Machine.recording Frame.standard)).1 ∧
    Unplaces (Eval.evalProgram bounds form (Machine.recording Frame.standard)).2.world
      (Eval.evalProgram bounds form.unplaced (Machine.recording Frame.standard)).2.world := by
  have hstart : (Machine.recording Frame.standard).Forgets Unplaces
      (Machine.recording Frame.standard) :=
    { scope := by rw [Machine.recording, Scope.unplaced, Frame.standard_unplaced]; rfl
      stamp := rfl
      world := rfl
      sink := by
        intro values events events' hevents
        simp only [Machine.recording, record, Unplaces, Array.toList_push, List.map_append] at *
        rw [hevents]
        rfl }
  obtain ⟨hanswer, hafter⟩ := Eval.placeless_evalProgram bounds form hstart
  exact ⟨hanswer, hafter.world⟩

/-- The texts of values do not depend on places. -/
theorem render_events_unplaced (events : List (List Value)) :
    (events.map (·.map Value.unplaced)).map (·.map Value.render) =
      events.map (·.map Value.render) := by
  simp only [List.map_map]
  refine List.map_congr_left fun values _ => ?_
  simp only [Function.comp_apply, List.map_map]
  exact List.map_congr_left fun value _ => value.render_unplaced

/-- A text that is accepted is run. -/
theorem run_eq_of_parse {limits : Limits} {source : String} {form : Form}
    (h : Form.parse limits.nestingDepth (Token.tokenize source) = .ok form) :
    run limits source =
      let (result, after) := Eval.evalProgram limits.bounds form (Machine.recording Frame.standard)
      ⟨after.world.toList, result.map fun result => ⟨result, Token.tokenize source, form⟩⟩ := by
  simp only [run, runInto, read, h]
  rfl

/-- A text that is refused is not run, and prints nothing. -/
theorem run_eq_of_parse_error {limits : Limits} {source : String} {error : ParseError}
    (h : Form.parse limits.nestingDepth (Token.tokenize source) = .error error) :
    run limits source = ⟨[], .error (.parse error)⟩ := by
  simp only [run, runInto, read, h]

/-- Programs whose answers are the same up to places have outcomes that are. -/
theorem sameOutcome_of_sameAnswer {left right : Except Failure Value}
    (h : Eval.SameAnswer left right) (tokens tokens' : List Token) (form form' : Form) :
    SameOutcome (left.map fun result => ⟨result, tokens, form⟩)
      (right.map fun result => ⟨result, tokens', form'⟩) := by
  cases left <;> cases right <;> exact h

/-- Two texts that are read the same run the same. -/
theorem sameRun_of_sameReading {limits : Limits} {source source' : String}
    (h : SameReading (Form.parse limits.nestingDepth (Token.tokenize source))
      (Form.parse limits.nestingDepth (Token.tokenize source'))) :
    SameRun (run limits source) (run limits source') := by
  rcases hleft : Form.parse limits.nestingDepth (Token.tokenize source) with error | form <;>
    rcases hright : Form.parse limits.nestingDepth (Token.tokenize source') with error' | form' <;>
    rw [hleft, hright] at h
  · rw [run_eq_of_parse_error hleft, run_eq_of_parse_error hright]
    refine ⟨rfl, rfl, ?_⟩
    have hcause : error.cause = error'.cause := h
    change Failure.parse error.unplaced = Failure.parse error'.unplaced
    rw [ParseError.unplaced, ParseError.unplaced, hcause]
  · exact absurd h id
  · exact absurd h id
  · have hform : form.unplaced = form'.unplaced := h
    obtain ⟨hanswer, hevents⟩ := alike_unplaced limits.bounds form
    obtain ⟨hanswer', hevents'⟩ := alike_unplaced limits.bounds form'
    rw [← hform] at hanswer' hevents'
    rw [run_eq_of_parse hleft, run_eq_of_parse hright]
    have hsame := hevents.symm.trans hevents'
    refine ⟨hsame, ?_, ?_⟩
    · have htexts := congrArg (List.map (List.map Value.render)) hsame
      rwa [render_events_unplaced, render_events_unplaced] at htexts
    · exact sameOutcome_of_sameAnswer (Eval.sameAnswer_of_alike hanswer hanswer') _ _ form form'

/-- **Layout and comments do not matter.** The plain text of a source text has the kinds and
spellings of its tokens that are not comments; under every limit both are read into the same form
up to places or both are refused with the same message; and under all limits both run with the same
print events and the same result up to places, or with failures of the same kind. -/
theorem layout_irrelevant (source : String) :
    (Token.tokenize (plain source)).map (fun token => (token.kind, token.value)) =
      (Token.withoutComments (Token.tokenize source)).map
        (fun token => (token.kind, token.value)) ∧
    (∀ limit, SameReading (Form.parse limit (Token.tokenize source))
      (Form.parse limit (Token.tokenize (plain source)))) ∧
    ∀ limits, SameRun (run limits source) (run limits (plain source)) := by
  refine ⟨?_, fun limit => sameReading_plain limit source,
    fun limits => sameRun_of_sameReading (sameReading_plain limits.nestingDepth source)⟩
  have htokens := congrArg (List.map fun token => (token.kind, token.value)) (tokenize_plain source)
  rw [List.map_map, List.map_map] at htokens
  exact htokens

-- A comment inside a function, a minus sign at the end of a line and a string that is not closed.
example : plain "(fn ;arguments\n[x]x)- 1\"a b" = "(\nfn\n[\nx\n]\nx\n)\n-\n1\n\"a b" := by
  decide

end Program

end Workbench
