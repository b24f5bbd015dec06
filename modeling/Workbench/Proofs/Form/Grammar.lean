import Workbench.Form.Parser

/-!
# The grammar of forms, and the parser that reads it

`Form.Derives` says which tokens spell which form, and `Form.DerivesAll` which tokens spell which
forms in a row. It is the grammar alone: no stack, no order of checks, no limit. **Theorem**
(`Form.parse_iff_derives`): the parser accepts tokens exactly if what is left of them without the
comments spells forms of which none is nested more deeply than the limit; it then answers these
forms, and there are no others that the tokens spell.

* Completeness (`Derives.steps`): whatever is open already, the tokens of a form bring the parser to
  where it places that form, if there is room for it.
* Soundness (`Parser.Spells.steps`): at any time the tokens that were read are spelled by the complete
  forms and by what is still open, the outermost first.
* The grammar is unambiguous because the parser is a function (`DerivesAll.unique`).
-/

namespace Workbench

/-- The tokens that the grammar sees. -/
def Token.withoutComments (tokens : List Token) : List Token :=
  tokens.filter fun token => token.kind ≠ .comment

/-- A word that is not one of the words of the grammar. -/
structure Token.IsName (token : Token) : Prop where
  kind : token.kind = .word
  notFunction : token.value ≠ "fn"
  notBoolean : ¬ (token.value = "true" ∨ token.value = "false")

namespace Form

mutual

/-- The tokens that spell a form. -/
inductive Derives : List Token → Form → Prop where
  | string {token : Token} (hkind : token.kind = .string) : Derives [token] (.string token)
  | number {token : Token} (hkind : token.kind = .number) : Derives [token] (.number token)
  | boolean {token : Token} (hkind : token.kind = .word)
      (hvalue : token.value = "true" ∨ token.value = "false") : Derives [token] (.boolean token)
  | word {token : Token} (hname : token.IsName) : Derives [token] (.word token)
  | call {opener closer : Token} {tokens : List Token} {items : List Form}
      (hopener : opener.kind = .leftParen) (hitems : DerivesAll tokens items)
      (hcloser : closer.kind = .rightParen) :
      Derives (opener :: (tokens ++ [closer])) (.call items)
  | list {opener closer : Token} {tokens : List Token} {items : List Form}
      (hopener : opener.kind = .leftSquare) (hitems : DerivesAll tokens items)
      (hcloser : closer.kind = .rightSquare) :
      Derives (opener :: (tokens ++ [closer])) (.list items)
  | function {token opener closer : Token} {names tokens : List Token} {body : Form}
      (hkind : token.kind = .word) (hvalue : token.value = "fn")
      (hopener : opener.kind = .leftSquare) (hnames : ∀ name ∈ names, name.IsName)
      (hcloser : closer.kind = .rightSquare) (hbody : Derives tokens body) :
      Derives (token :: opener :: (names ++ closer :: tokens))
        (.function token (names.map .word) body)

/-- The tokens that spell some forms, one after the other. -/
inductive DerivesAll : List Token → List Form → Prop where
  | nil : DerivesAll [] []
  | cons {tokens rest : List Token} {form : Form} {forms : List Form}
      (hform : Derives tokens form) (hforms : DerivesAll rest forms) :
      DerivesAll (tokens ++ rest) (form :: forms)

end

/-! ### Forms in a row -/

/-- Two rows of forms are derived from their tokens one after the other. -/
theorem DerivesAll.append {tokens tokens' : List Token} {forms forms' : List Form}
    (h : DerivesAll tokens forms) (h' : DerivesAll tokens' forms') :
    DerivesAll (tokens ++ tokens') (forms ++ forms') := by
  induction forms generalizing tokens with
  | nil =>
      cases h
      exact h'
  | cons form rest ih =>
      cases h with
      | cons hform hrest =>
          rw [List.append_assoc]
          exact .cons hform (ih hrest)

/-- One more form at the end. -/
theorem DerivesAll.concat {tokens more : List Token} {forms : List Form} {form : Form}
    (h : DerivesAll tokens forms) (hform : Derives more form) :
    DerivesAll (tokens ++ more) (forms ++ [form]) := by
  have hlast : DerivesAll (more ++ []) [form] := .cons hform .nil
  rw [List.append_nil] at hlast
  exact h.append hlast

/-- Words are spelled by names. -/
theorem DerivesAll.names {tokens : List Token} {forms : List Form} (h : DerivesAll tokens forms)
    (hwords : forms.all fun form => form.kind = .word) :
    forms = tokens.map .word ∧ ∀ name ∈ tokens, name.IsName := by
  induction forms generalizing tokens with
  | nil =>
      cases h
      exact ⟨rfl, fun name hmem => absurd hmem List.not_mem_nil⟩
  | cons form rest ih =>
      cases h with
      | cons hform hrest =>
          rw [List.all_cons, Bool.and_eq_true] at hwords
          obtain ⟨hforms, hnames⟩ := ih hrest hwords.2
          cases hform with
          | word hname =>
              refine ⟨congrArg (Form.word _ :: ·) hforms, ?_⟩
              exact List.forall_mem_cons.mpr ⟨hname, hnames⟩
          | string | number | boolean | call | list | function => simp [kind] at hwords

end Form

namespace Parser

open Form

/-! ### Completeness -/

/-- What is innermost takes any number of forms: it is a group, or nothing is open. -/
def IsGroup : List Open → Prop
  | .function _ :: _ => False
  | .body _ _ :: _ => False
  | _ => True

/-- The parser when some forms have been added to what is innermost. -/
def extend (parser : Parser) (items : List Form) : Parser :=
  match parser.stack with
  | [] => ⟨items.reverse ++ parser.forms, []⟩
  | .call opener before :: rest => ⟨parser.forms, .call opener (items.reverse ++ before) :: rest⟩
  | .list opener before :: rest => ⟨parser.forms, .list opener (items.reverse ++ before) :: rest⟩
  | .function _ :: _ => parser
  | .body _ _ :: _ => parser

section Extend

variable (forms : List Form) {stack : List Open}

/-- A group without more forms is as it was. -/
theorem extend_nil (hgroup : IsGroup stack) : extend ⟨forms, stack⟩ [] = ⟨forms, stack⟩ := by
  match stack, hgroup with
  | [], _ => rfl
  | .call _ _ :: _, _ => rfl
  | .list _ _ :: _, _ => rfl

/-- Placing a form in a group adds it, and the group stays what is innermost. -/
theorem place_of_isGroup (hgroup : IsGroup stack) (form : Form) (items : List Form) :
    ∃ forms' stack', place forms stack form = .ok ⟨forms', stack'⟩ ∧ IsGroup stack' ∧
      stack'.length = stack.length ∧
      extend ⟨forms', stack'⟩ items = extend ⟨forms, stack⟩ (form :: items) := by
  match stack, hgroup with
  | [], _ => exact ⟨_, _, rfl, trivial, rfl, by simp [extend]⟩
  | .call _ _ :: _, _ => exact ⟨_, _, rfl, trivial, rfl, by simp [extend]⟩
  | .list _ _ :: _, _ => exact ⟨_, _, rfl, trivial, rfl, by simp [extend]⟩

end Extend

/-- Something opens as long as there is room. -/
theorem push_of_lt {limit : Nat} {parser : Parser} (h : parser.stack.length < limit) (token : Token)
    (opened : Open) :
    parser.push limit token opened = .ok { parser with stack := opened :: parser.stack } :=
  if_pos h

/-- A token after which there is more to read. -/
theorem steps_cons_of_ok {limit : Nat} {parser next : Parser} {token : Token}
    (h : parser.step limit token = .ok next) (tokens : List Token) :
    parser.steps limit (token :: tokens) = next.steps limit tokens := by
  rw [steps, h]

/-- A single token. -/
theorem steps_singleton (limit : Nat) (parser : Parser) (token : Token) :
    parser.steps limit [token] = parser.step limit token := by
  rw [steps]
  cases parser.step limit token <;> rfl

/-- Tokens that the parser takes, and then more. -/
theorem steps_append_of_ok {limit : Nat} {parser next : Parser} {tokens : List Token}
    (h : parser.steps limit tokens = .ok next) (more : List Token) :
    parser.steps limit (tokens ++ more) = next.steps limit more := by
  rw [steps_append, h]
  rfl

/-- A token that is a form by itself is placed. -/
theorem step_of_atom {limit : Nat} {forms : List Form} {stack : List Open} {token : Token}
    {form : Form} (h : Derives [token] form) :
    step limit ⟨forms, stack⟩ token = place forms stack form := by
  generalize htokens : [token] = tokens at h
  cases h with
  | string hkind =>
      cases htokens
      simp only [step, hkind]
  | number hkind =>
      cases htokens
      simp only [step, hkind]
  | boolean hkind hvalue =>
      cases htokens
      have hnot : token.value ≠ "fn" := by
        rcases hvalue with hvalue | hvalue <;> rw [hvalue] <;> decide
      simp only [step, hkind, if_neg hnot, if_pos hvalue]
  | word hname =>
      cases htokens
      simp only [step, hname.kind, if_neg hname.notFunction, if_neg hname.notBoolean]
  | call | list | function => simp at htokens

/-- Names are added to a group as words. -/
theorem steps_names {names : List Token} (hnames : ∀ name ∈ names, name.IsName) (limit : Nat)
    (forms : List Form) (stack : List Open) (hgroup : IsGroup stack) :
    steps limit ⟨forms, stack⟩ names = .ok (extend ⟨forms, stack⟩ (names.map .word)) := by
  induction names generalizing forms stack with
  | nil => rw [steps, List.map_nil, extend_nil forms hgroup]
  | cons name rest ih =>
      obtain ⟨hname, hrest⟩ := List.forall_mem_cons.mp hnames
      obtain ⟨forms', stack', hplace, hgroup', -, hextend⟩ :=
        place_of_isGroup forms hgroup (.word name) (rest.map .word)
      rw [← step_of_atom (.word hname)] at hplace
      rw [steps_cons_of_ok hplace, ih hrest forms' stack' hgroup', hextend, List.map_cons]

section Group

variable {limit : Nat} {forms : List Form} {stack : List Open} {opener closer : Token}
variable {tokens : List Token} {items : List Form}

/-- A group of either kind, given what its items do, and that its brackets open and close it. -/
theorem steps_group {opened : Open} {form : Form}
    (hopen : step limit ⟨forms, stack⟩ opener = .ok ⟨forms, opened :: stack⟩)
    (hclose : step limit (extend ⟨forms, opened :: stack⟩ items) closer = place forms stack form)
    (hitems : steps limit ⟨forms, opened :: stack⟩ tokens =
      .ok (extend ⟨forms, opened :: stack⟩ items)) :
    steps limit ⟨forms, stack⟩ (opener :: (tokens ++ [closer])) = place forms stack form := by
  rw [steps_cons_of_ok hopen, steps_append_of_ok hitems, steps_singleton, hclose]

/-- A group in parentheses. -/
theorem steps_call (hopener : opener.kind = .leftParen) (hcloser : closer.kind = .rightParen)
    (hroom : stack.length < limit)
    (hitems : steps limit ⟨forms, .call opener [] :: stack⟩ tokens =
      .ok (extend ⟨forms, .call opener [] :: stack⟩ items)) :
    steps limit ⟨forms, stack⟩ (opener :: (tokens ++ [closer])) =
      place forms stack (.call items) := by
  refine steps_group ?_ ?_ hitems
  · simp only [step, hopener]
    exact push_of_lt hroom _ _
  · simp only [step, hcloser, extend, List.append_nil, List.reverse_reverse]

/-- A group in square brackets. -/
theorem steps_list (hopener : opener.kind = .leftSquare) (hcloser : closer.kind = .rightSquare)
    (hroom : stack.length < limit)
    (hitems : steps limit ⟨forms, .list opener [] :: stack⟩ tokens =
      .ok (extend ⟨forms, .list opener [] :: stack⟩ items)) :
    steps limit ⟨forms, stack⟩ (opener :: (tokens ++ [closer])) =
      place forms stack (.list items) := by
  refine steps_group ?_ ?_ hitems
  · simp only [step, hopener]
    exact push_of_lt hroom _ _
  · simp only [step, hcloser, extend, List.append_nil, List.reverse_reverse]

/-- Parameters of which each is a word. -/
theorem place_parameters (token : Token) (names : List Token) :
    place forms (.function token :: stack) (.list (names.map .word)) =
      .ok ⟨forms, .body token (names.map .word) :: stack⟩ := by
  have hwords : (names.map Form.word).all fun parameter => parameter.kind = .word := by
    simp [Form.kind]
  simp only [place, hwords, if_true]

end Group

end Parser

namespace Form

open Workbench.Parser

mutual

/-- **Completeness**: the tokens of a form lead to where the form is placed, whatever is open, if
there is room for it. -/
theorem Derives.steps {tokens : List Token} {form : Form} (h : Derives tokens form) (limit : Nat)
    (forms : List Form) (stack : List Open) (hroom : stack.length + form.depth ≤ limit) :
    Parser.steps limit ⟨forms, stack⟩ tokens = place forms stack form := by
  match h with
  | .string hkind => rw [steps_singleton, step_of_atom (.string hkind)]
  | .number hkind => rw [steps_singleton, step_of_atom (.number hkind)]
  | .boolean hkind hvalue => rw [steps_singleton, step_of_atom (.boolean hkind hvalue)]
  | .word hname => rw [steps_singleton, step_of_atom (.word hname)]
  | @Derives.call opener closer tokens items hopener hitems hcloser =>
      rw [depth] at hroom
      refine steps_call hopener hcloser (by omega) (hitems.steps limit forms _ trivial ?_)
      rw [List.length_cons]
      omega
  | @Derives.list opener closer tokens items hopener hitems hcloser =>
      rw [depth] at hroom
      refine steps_list hopener hcloser (by omega) (hitems.steps limit forms _ trivial ?_)
      rw [List.length_cons]
      omega
  | @Derives.function token opener closer names tokens body hkind hvalue hopener hnames hcloser
      hbody =>
      rw [depth] at hroom
      have hopen : step limit ⟨forms, stack⟩ token = .ok ⟨forms, .function token :: stack⟩ := by
        simp only [step, hkind, if_pos hvalue]
        exact push_of_lt (show stack.length < limit by omega) _ _
      have hparameters : Parser.steps limit ⟨forms, .function token :: stack⟩
          (opener :: (names ++ [closer])) =
            .ok ⟨forms, .body token (names.map .word) :: stack⟩ := by
        rw [← place_parameters]
        refine steps_list hopener hcloser ?_ (steps_names hnames limit forms _ trivial)
        rw [List.length_cons]
        omega
      have hsplit : opener :: (names ++ closer :: tokens) =
          opener :: (names ++ [closer]) ++ tokens := by simp
      rw [steps_cons_of_ok hopen, hsplit, steps_append_of_ok hparameters,
        hbody.steps limit forms _ (by rw [List.length_cons]; omega), place]

/-- The tokens of some forms add these forms to a group. -/
theorem DerivesAll.steps {tokens : List Token} {items : List Form} (h : DerivesAll tokens items)
    (limit : Nat) (forms : List Form) (stack : List Open) (hgroup : IsGroup stack)
    (hroom : stack.length + depthAll items ≤ limit) :
    Parser.steps limit ⟨forms, stack⟩ tokens = .ok (extend ⟨forms, stack⟩ items) := by
  match h with
  | .nil => rw [Parser.steps, extend_nil forms hgroup]
  | @DerivesAll.cons tokens rest form items hform hrest =>
      rw [depthAll] at hroom
      obtain ⟨forms', stack', hplace, hgroup', hlength, hextend⟩ :=
        place_of_isGroup forms hgroup form items
      have hfirst := hform.steps limit forms stack (by omega)
      rw [hplace] at hfirst
      rw [steps_append_of_ok hfirst, hrest.steps limit forms' stack' hgroup' (by omega), hextend]

end

end Form

namespace Parser

open Form

/-! ### Soundness -/

/-- The tokens that spell what is open, where the items inside may be as deep as `room` says. -/
inductive Open.Spells (room : Nat) : Open → List Token → Prop where
  | call {opener : Token} {items : List Form} {tokens : List Token}
      (hopener : opener.kind = .leftParen) (hitems : DerivesAll tokens items.reverse)
      (hdepth : ∀ item ∈ items, item.depth ≤ room) :
      Open.Spells room (.call opener items) (opener :: tokens)
  | list {opener : Token} {items : List Form} {tokens : List Token}
      (hopener : opener.kind = .leftSquare) (hitems : DerivesAll tokens items.reverse)
      (hdepth : ∀ item ∈ items, item.depth ≤ room) :
      Open.Spells room (.list opener items) (opener :: tokens)
  | function {token : Token} (hkind : token.kind = .word) (hvalue : token.value = "fn") :
      Open.Spells room (.function token) [token]
  /-- There was room for the list of parameters. -/
  | body {token opener closer : Token} {names : List Token} (hkind : token.kind = .word)
      (hvalue : token.value = "fn") (hopener : opener.kind = .leftSquare)
      (hnames : ∀ name ∈ names, name.IsName) (hcloser : closer.kind = .rightSquare)
      (hroom : 1 ≤ room) :
      Open.Spells room (.body token (names.map .word)) (token :: opener :: (names ++ [closer]))

/-- The tokens that spell everything that is open, the outermost first, where `limit` bounds the
nesting. -/
inductive StackSpells (limit : Nat) : List Open → List Token → Prop where
  | nil : StackSpells limit [] []
  | cons {top : Open} {rest : List Open} {tokens more : List Token}
      (hrest : StackSpells limit rest tokens) (hlength : rest.length < limit)
      (htop : top.Spells (limit - (rest.length + 1)) more) :
      StackSpells limit (top :: rest) (tokens ++ more)

/-- The tokens that a parser has read. -/
inductive Spells (limit : Nat) : Parser → List Token → Prop where
  | intro {forms : List Form} {stack : List Open} {tokens more : List Token}
      (hforms : DerivesAll tokens forms.reverse) (hdepth : ∀ form ∈ forms, form.depth ≤ limit)
      (hstack : StackSpells limit stack more) : Spells limit ⟨forms, stack⟩ (tokens ++ more)

/-- No more is open than the limit allows. -/
theorem StackSpells.length_le {limit : Nat} {stack : List Open} {tokens : List Token}
    (h : StackSpells limit stack tokens) : stack.length ≤ limit := by
  cases h with
  | nil => exact Nat.zero_le limit
  | cons hrest hlength htop => exact hlength

section Soundness

variable {limit : Nat} {forms : List Form} {stack : List Open} {next : Parser}
variable {before inside tokens : List Token}

/-- One more form in a group. -/
theorem derivesAll_reverse_cons {items : List Form} {form : Form}
    (hitems : DerivesAll inside items.reverse) (hform : Derives tokens form) :
    DerivesAll (inside ++ tokens) (form :: items).reverse := by
  rw [List.reverse_cons]
  exact hitems.concat hform

/-- A form that is placed has been read. -/
theorem spells_of_place (hforms : DerivesAll before forms.reverse)
    (hdepths : ∀ form ∈ forms, form.depth ≤ limit) (hstack : StackSpells limit stack inside)
    {form : Form} (hform : Derives tokens form) (hdepth : stack.length + form.depth ≤ limit)
    (h : place forms stack form = .ok next) : Spells limit next (before ++ (inside ++ tokens)) := by
  -- A form that completes a function takes the function's place further out.
  induction stack generalizing form inside tokens with
  | nil =>
      cases hstack
      cases h
      have hmore := Spells.intro (derivesAll_reverse_cons hforms hform)
        (List.forall_mem_cons.mpr ⟨by simpa using hdepth, hdepths⟩) StackSpells.nil
      simpa using hmore
  | cons top rest ih =>
      rw [List.length_cons] at hdepth
      cases hstack with
      | @cons _ _ outer more hrest hlength htop =>
          rw [List.append_assoc]
          have hroom : form.depth ≤ limit - (rest.length + 1) := by omega
          cases htop with
          | call hopener hitems hitemsDepth =>
              cases h
              exact .intro hforms hdepths (.cons hrest hlength (.call hopener
                (derivesAll_reverse_cons hitems hform)
                (List.forall_mem_cons.mpr ⟨hroom, hitemsDepth⟩)))
          | list hopener hitems hitemsDepth =>
              cases h
              exact .intro hforms hdepths (.cons hrest hlength (.list hopener
                (derivesAll_reverse_cons hitems hform)
                (List.forall_mem_cons.mpr ⟨hroom, hitemsDepth⟩)))
          | function hkind hvalue =>
              cases hform with
              | list hopener hitems hcloser =>
                  rw [place] at h
                  split at h
                  · rename_i hwords
                    obtain ⟨rfl, hnames⟩ := hitems.names hwords
                    cases h
                    rw [depth] at hroom
                    exact .intro hforms hdepths (.cons hrest hlength
                      (.body hkind hvalue hopener hnames hcloser (by omega)))
                  · cases h
              | string | number | boolean | word | call | function => cases h
          | body hkind hvalue hopener hnames hcloser hone =>
              have hfunction := Derives.function hkind hvalue hopener hnames hcloser hform
              have hread := ih hrest hfunction (by rw [depth]; omega) h
              simpa using hread

/-- Something that opens has been read. -/
theorem spells_of_push (h : Spells limit ⟨forms, stack⟩ before) {token : Token} {opened : Open}
    (hopened : ∀ room, opened.Spells room [token])
    (hpush : push limit ⟨forms, stack⟩ token opened = .ok next) :
    Spells limit next (before ++ [token]) := by
  unfold push at hpush
  split at hpush
  · rename_i hlength
    cases hpush
    cases h with
    | intro hforms hdepths hstack =>
        rw [List.append_assoc]
        exact .intro hforms hdepths (.cons hstack hlength (hopened _))
  · cases hpush

/-- A token that is a form by itself has been read. -/
theorem spells_of_atom (h : Spells limit ⟨forms, stack⟩ before) {token : Token} {form : Form}
    (hform : Derives [token] form) (hdepth : form.depth = 0)
    (hplace : place forms stack form = .ok next) : Spells limit next (before ++ [token]) := by
  cases h with
  | intro hforms hdepths hstack =>
      rw [List.append_assoc]
      refine spells_of_place hforms hdepths hstack hform ?_ hplace
      rw [hdepth]
      exact hstack.length_le

/-- A group that is closed has been read. -/
theorem spells_of_close {top : Open} {rest : List Open} (h : Spells limit ⟨forms, top :: rest⟩ before)
    {token : Token} {form : Form}
    (hform : ∀ room tokens, top.Spells room tokens →
      Derives (tokens ++ [token]) form ∧ form.depth ≤ room + 1)
    (hplace : place forms rest form = .ok next) : Spells limit next (before ++ [token]) := by
  cases h with
  | intro hforms hdepths hstack =>
      cases hstack with
      | cons hrest hlength htop =>
          obtain ⟨hderives, hdepth⟩ := hform _ _ htop
          have hread := spells_of_place hforms hdepths hrest hderives (by omega) hplace
          simpa using hread

/-- The depth of items is not changed by their order. -/
theorem depthAll_reverse_le {items : List Form} {room : Nat}
    (h : ∀ item ∈ items, item.depth ≤ room) : depthAll items.reverse ≤ room :=
  depthAll_le_iff.mpr fun item hmem => h item (List.mem_reverse.mp hmem)

/-- **What one more token keeps**: a token that is not a comment is read. -/
theorem Spells.step {parser : Parser} (h : Spells limit parser before) {token : Token}
    (hcomment : token.kind ≠ .comment) (hstep : parser.step limit token = .ok next) :
    Spells limit next (before ++ [token]) := by
  obtain ⟨forms, stack⟩ := parser
  cases hkind : token.kind with
  | comment => exact absurd hkind hcomment
  | leftParen =>
      simp only [Parser.step, hkind] at hstep
      refine spells_of_push h (fun _ => ?_) hstep
      exact .call hkind .nil fun _ hmem => absurd hmem List.not_mem_nil
  | leftSquare =>
      simp only [Parser.step, hkind] at hstep
      refine spells_of_push h (fun _ => ?_) hstep
      exact .list hkind .nil fun _ hmem => absurd hmem List.not_mem_nil
  | rightParen =>
      simp only [Parser.step, hkind] at hstep
      split at hstep
      · refine spells_of_close h (fun room tokens htop => ?_) hstep
        cases htop with
        | call hopener hitems hdepth =>
            have := depthAll_reverse_le hdepth
            exact ⟨.call hopener hitems hkind, by rw [depth]; omega⟩
      · cases hstep
  | rightSquare =>
      simp only [Parser.step, hkind] at hstep
      split at hstep
      · refine spells_of_close h (fun room tokens htop => ?_) hstep
        cases htop with
        | list hopener hitems hdepth =>
            have := depthAll_reverse_le hdepth
            exact ⟨.list hopener hitems hkind, by rw [depth]; omega⟩
      · cases hstep
  | string =>
      simp only [Parser.step, hkind] at hstep
      exact spells_of_atom h (.string hkind) rfl hstep
  | number =>
      simp only [Parser.step, hkind] at hstep
      exact spells_of_atom h (.number hkind) rfl hstep
  | word =>
      simp only [Parser.step, hkind] at hstep
      split at hstep
      · rename_i hvalue
        exact spells_of_push h (fun _ => .function hkind hvalue) hstep
      · rename_i hfunction
        split at hstep
        · rename_i hboolean
          exact spells_of_atom h (.boolean hkind hboolean) rfl hstep
        · rename_i hboolean
          exact spells_of_atom h (.word ⟨hkind, hfunction, hboolean⟩) rfl hstep
  | singleQuote =>
      simp only [Parser.step, hkind] at hstep
      cases hstep
  | unknown =>
      simp only [Parser.step, hkind] at hstep
      cases hstep

/-- **What all tokens keep.** -/
theorem Spells.steps {parser : Parser} (h : Spells limit parser before)
    (hcomments : ∀ token ∈ tokens, token.kind ≠ .comment)
    (hsteps : parser.steps limit tokens = .ok next) : Spells limit next (before ++ tokens) := by
  induction tokens generalizing parser before with
  | nil =>
      cases hsteps
      simpa using h
  | cons token rest ih =>
      obtain ⟨hcomment, hrest⟩ := List.forall_mem_cons.mp hcomments
      rw [Parser.steps] at hsteps
      split at hsteps
      · rename_i mid hstep
        have hread := ih (h.step hcomment hstep) hrest hsteps
        simpa using hread
      · cases hsteps

/-- A new parser has read nothing. -/
theorem spells_new (limit : Nat) : Spells limit {} [] :=
  .intro .nil (fun _ hmem => absurd hmem List.not_mem_nil) .nil

/-- A parser with nothing open has read its forms. -/
theorem Spells.derivesAll {parser : Parser} (h : Spells limit parser tokens)
    (hstack : parser.stack = []) :
    DerivesAll tokens parser.forms.reverse ∧ ∀ form ∈ parser.forms.reverse, form.depth ≤ limit := by
  cases h with
  | intro hforms hdepths hopen =>
      cases hstack
      cases hopen
      rw [List.append_nil]
      exact ⟨hforms, fun form hmem => hdepths form (List.mem_reverse.mp hmem)⟩

end Soundness

/-- Comments make no difference to the parser. -/
theorem steps_withoutComments (limit : Nat) (parser : Parser) (tokens : List Token) :
    parser.steps limit (Token.withoutComments tokens) = parser.steps limit tokens := by
  induction tokens generalizing parser with
  | nil => rfl
  | cons token rest ih =>
      by_cases hkind : token.kind = .comment
      · have hskip : Token.withoutComments (token :: rest) = Token.withoutComments rest :=
          List.filter_cons_of_neg (by simp [hkind])
        have hstep : parser.step limit token = .ok parser := by simp only [step, hkind]
        rw [hskip, steps_cons_of_ok hstep, ih]
      · have hkeep : Token.withoutComments (token :: rest) =
            token :: Token.withoutComments rest := List.filter_cons_of_pos (by simp [hkind])
        rw [hkeep, steps, steps]
        cases parser.step limit token with
        | ok next => exact ih next
        | error error => rfl

/-- A parser is done exactly if nothing is open. -/
theorem finish_eq_ok_iff {parser : Parser} {root : Form} :
    parser.finish = .ok root ↔ parser.stack = [] ∧ root = .call parser.forms.reverse := by
  obtain ⟨forms, stack⟩ := parser
  match stack with
  | [] => simp [finish, eq_comm]
  | .call _ _ :: _ => simp [finish]
  | .list _ _ :: _ => simp [finish]
  | .function _ :: _ => simp [finish]
  | .body _ _ :: _ => simp [finish]

end Parser

namespace Form

open Workbench.Parser

/-! ### The parser and the grammar -/

/-- Comments make no difference to what tokens spell. -/
theorem parse_withoutComments (limit : Nat) (tokens : List Token) :
    parse limit (Token.withoutComments tokens) = parse limit tokens := by
  rw [parse, parse, steps_withoutComments]

/-- A program that is parsed was parsed to its end. -/
theorem parse_eq_ok_iff {limit : Nat} {tokens : List Token} {root : Form} :
    parse limit tokens = .ok root ↔ ∃ parser, Parser.steps limit {} tokens = .ok parser ∧
      parser.stack = [] ∧ root = .call parser.forms.reverse := by
  unfold parse
  cases Parser.steps limit {} tokens with
  | error error =>
      constructor
      · intro h
        cases h
      · rintro ⟨_, ⟨⟩, _⟩
  | ok parser =>
      refine finish_eq_ok_iff.trans ⟨fun h => ⟨parser, rfl, h⟩, ?_⟩
      rintro ⟨_, ⟨⟩, h⟩
      exact h

/-- The forms of a program are spelled by its tokens, and none of them is too deep. -/
theorem derivesAll_of_parse {limit : Nat} {tokens : List Token} {forms : List Form}
    (h : parse limit tokens = .ok (.call forms)) :
    DerivesAll (Token.withoutComments tokens) forms ∧ ∀ form ∈ forms, form.depth ≤ limit := by
  rw [← parse_withoutComments] at h
  obtain ⟨parser, hsteps, hstack, hroot⟩ := parse_eq_ok_iff.mp h
  have hcomments : ∀ token ∈ Token.withoutComments tokens, token.kind ≠ .comment := by
    intro token hmem
    simpa using (List.mem_filter.mp hmem).2
  cases hroot
  exact ((spells_new limit).steps hcomments hsteps).derivesAll hstack

/-- What spells a program is parsed, if its forms are not too deep. -/
theorem DerivesAll.parse {tokens : List Token} {forms : List Form} (h : DerivesAll tokens forms)
    (limit : Nat) (hdepth : ∀ form ∈ forms, form.depth ≤ limit) :
    Form.parse limit tokens = .ok (.call forms) := by
  have hroom : ([] : List Open).length + depthAll forms ≤ limit := by
    rw [List.length_nil, Nat.zero_add]
    exact depthAll_le_iff.mpr hdepth
  refine parse_eq_ok_iff.mpr ⟨_, h.steps limit [] [] trivial hroom, rfl, ?_⟩
  simp [extend]

/-- **The grammar is unambiguous**: tokens spell one sequence of forms at most. -/
theorem DerivesAll.unique {tokens : List Token} {forms forms' : List Form}
    (h : DerivesAll tokens forms) (h' : DerivesAll tokens forms') : forms = forms' := by
  -- The parser answers both, under a limit that neither of them exceeds.
  let limit := max (depthAll forms) (depthAll forms')
  have hparse := h.parse limit (depthAll_le_iff.mp (Nat.le_max_left _ _))
  have hparse' := h'.parse limit (depthAll_le_iff.mp (Nat.le_max_right _ _))
  rw [hparse] at hparse'
  exact Form.call.inj (Except.ok.inj hparse')

/-- **The parser accepts exactly the grammar.** It answers the forms that the tokens spell without
the comments, as long as none is nested more deeply than the limit; these are the only forms that
they spell; and in every other case it answers an error. -/
theorem parse_iff_derives (limit : Nat) (tokens : List Token) :
    (∀ root, parse limit tokens = .ok root ↔ ∃ forms,
      DerivesAll (Token.withoutComments tokens) forms ∧ (∀ form ∈ forms, form.depth ≤ limit) ∧
        root = .call forms) ∧
    (∀ forms forms', DerivesAll (Token.withoutComments tokens) forms →
      DerivesAll (Token.withoutComments tokens) forms' → forms = forms') ∧
    ((¬ ∃ forms, DerivesAll (Token.withoutComments tokens) forms ∧
        ∀ form ∈ forms, form.depth ≤ limit) →
      ∃ error : ParseError, parse limit tokens = .error error) := by
  have hiff : ∀ root, parse limit tokens = .ok root ↔ ∃ forms,
      DerivesAll (Token.withoutComments tokens) forms ∧ (∀ form ∈ forms, form.depth ≤ limit) ∧
        root = .call forms := by
    intro root
    constructor
    · intro h
      obtain ⟨parser, -, -, rfl⟩ := parse_eq_ok_iff.mp h
      obtain ⟨hderives, hdepth⟩ := derivesAll_of_parse h
      exact ⟨_, hderives, hdepth, rfl⟩
    · rintro ⟨forms, hderives, hdepth, rfl⟩
      rw [← parse_withoutComments]
      exact hderives.parse limit hdepth
  refine ⟨hiff, fun _ _ => DerivesAll.unique, fun hnone => ?_⟩
  cases hparse : parse limit tokens with
  | error error => exact ⟨error, rfl⟩
  | ok root =>
      obtain ⟨forms, hderives, hdepth, -⟩ := (hiff root).mp hparse
      exact absurd ⟨forms, hderives, hdepth⟩ hnone

end Form

end Workbench
