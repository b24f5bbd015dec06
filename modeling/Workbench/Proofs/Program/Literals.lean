import Workbench.Proofs.Program.Layout

/-!
# Literals are read as what they say

A literal is a value that can be written down in a source text: null, a boolean, an integer, a text
without a double quote, or a list of literals. `Literal.source` writes it. **Theorem**
(`Program.run_literal`): the text of a literal runs to its value and prints nothing, as long as its
lists are nested neither more deeply than the limit of the run nor more deeply than evaluation goes;
beyond the limit of the run it is refused at the first bracket with which too many are open, and
otherwise it fails in evaluation.

`Literal.Spells` says which tokens and which form spell a literal, wherever they stand. The scanner
cuts the text of a literal into such tokens (`Literal.exists_spells`), and all else is about tokens
that spell a literal:

* the grammar reads them into the form (`Spells.derives`), which is as deep as the value;
* the form has the value of the literal (`Spells.eval_eq`), or evaluation fails because there is too
  little allowance, and for no other reason;
* brackets come in pairs (`Spells.openBehind_eq`), so that the parser stops at the first one that is
  too deep (`Spells.steps_too_deep`).
-/

namespace Workbench

/-- A value that can be written in a source text. -/
inductive Literal where
  | null
  | bool (flag : Bool)
  | int (number : Int64)
  | str (text : String) (hquote : '"' ∉ text.toList)
  | list (items : List Literal)

namespace Literal

mutual

/-- The value of a literal. -/
def value : Literal → Value
  | .null => .null
  | .bool flag => .bool flag
  | .int number => .int number
  | .str text _ => .str text
  | .list items => .list (values items)

/-- The values of some literals. -/
def values : List Literal → List Value
  | [] => []
  | item :: rest => item.value :: values rest

end

/-- The word for a boolean. -/
def flagWord (flag : Bool) : String := if flag then "true" else "false"

mutual

/-- The text of a literal. -/
def source : Literal → String
  | .null => "null"
  | .bool flag => flagWord flag
  | .int number => toString number.toInt
  | .str text _ => "\"" ++ text ++ "\""
  | .list items => "[" ++ Text.joinWith " " (sources items) ++ "]"

/-- The texts of some literals. -/
def sources : List Literal → List String
  | [] => []
  | item :: rest => item.source :: sources rest

end

mutual

/-- The tokens and the form that spell a literal. -/
inductive Spells : Literal → List Token → Form → Prop where
  | null {token : Token} (hkind : token.kind = .word) (hvalue : token.value = "null") :
      Spells .null [token] (.word token)
  | bool {flag : Bool} {token : Token} (hkind : token.kind = .word)
      (hvalue : token.value = flagWord flag) : Spells (.bool flag) [token] (.boolean token)
  | int {number : Int64} {token : Token} (hkind : token.kind = .number)
      (hvalue : token.value = toString number.toInt) : Spells (.int number) [token] (.number token)
  | str {text : String} {hquote : '"' ∉ text.toList} {token : Token} (hkind : token.kind = .string)
      (hvalue : token.value = "\"" ++ text ++ "\"") :
      Spells (.str text hquote) [token] (.string token)
  | list {items : List Literal} {opener closer : Token} {tokens : List Token} {forms : List Form}
      (hopener : opener.kind = .leftSquare) (hitems : SpellsAll items tokens forms)
      (hcloser : closer.kind = .rightSquare) :
      Spells (.list items) (opener :: (tokens ++ [closer])) (.list forms)

/-- The tokens and the forms that spell some literals, one after the other. -/
inductive SpellsAll : List Literal → List Token → List Form → Prop where
  | nil : SpellsAll [] [] []
  | cons {item : Literal} {rest : List Literal} {tokens more : List Token} {form : Form}
      {forms : List Form} (hitem : Spells item tokens form) (hrest : SpellsAll rest more forms) :
      SpellsAll (item :: rest) (tokens ++ more) (form :: forms)

end

end Literal

/-! ### The scanner -/

namespace Token

/-- What can follow a literal: nothing, the space before the next one, or the end of the list. -/
def EndsLiteral (rest : List Char) : Prop := ∀ c ∈ rest.head?, c = ' ' ∨ c = ']'

/-- A blank ends a literal: the one between two items. -/
theorem endsLiteral_space (rest : List Char) : EndsLiteral (' ' :: rest) := by
  rintro c ⟨⟩
  exact .inl rfl

/-- A closing bracket ends a literal: the one behind the last item. -/
theorem endsLiteral_bracket (rest : List Char) : EndsLiteral (']' :: rest) := by
  rintro c ⟨⟩
  exact .inr rfl

/-- A count goes up to what can follow a literal. -/
theorem countWhile_literal {test : Char → Bool} (hspace : test ' ' = false)
    (hbracket : test ']' = false) {cs rest : List Char} (hcs : ∀ c ∈ cs, test c = true)
    (hrest : EndsLiteral rest) : countWhile test (cs ++ rest) = cs.length := by
  have hstop : rest.takeWhile test = [] := by
    cases rest with
    | nil => rfl
    | cons c rest =>
        rcases hrest c rfl with rfl | rfl
        · simp [hspace]
        · simp [hbracket]
  rw [countWhile, List.takeWhile_append_of_pos hcs, hstop, List.append_nil]

/-- A text that starts with a token. -/
theorem scan_spelled {c : Char} {cs rest : List Char} {kind : Kind}
    (hblank : Text.isBlank c = false) (hclass : classify c (cs ++ rest) = (kind, cs.length)) (p : Position) :
    scan p 0 (c :: cs ++ rest) =
      spelled p kind (c :: cs) :: scan (p.afterAll (c :: cs)) 0 rest := by
  rw [List.cons_append, scan_cons hblank, startingWith, hclass, List.take_left, scan_held,
    List.take_left, List.drop_left]
  rfl

/-- A digit begins a number, which extends over all letters and digits behind it. -/
theorem classify_of_isDigit {c : Char} (hdigit : c.isDigit = true) (cs : List Char) :
    classify c cs = (.number, countWhile Text.isAlphanumeric cs) := by
  have hdelimiter : Kind.ofDelimiter? c = none := by
    unfold Kind.ofDelimiter?
    split
    all_goals first | rfl | cases hdigit
  have hquote : c ≠ '"' := by
    rintro rfl
    cases hdigit
  have hsemicolon : c ≠ ';' := by
    rintro rfl
    cases hdigit
  simp [classify, hdelimiter, hquote, hsemicolon, startsNumber, hdigit]

/-- A digit is no blank, so that it begins a token. -/
theorem isBlank_of_isDigit {c : Char} (hdigit : c.isDigit = true) : Text.isBlank c = false := by
  simp only [Char.isDigit, ge_iff_le, Bool.and_eq_true, decide_eq_true_eq] at hdigit
  have hlow : 48 ≤ c.toNat := UInt32.le_iff_toNat_le.mp hdigit.1
  have hhigh : c.toNat ≤ 57 := UInt32.le_iff_toNat_le.mp hdigit.2
  have hspace : c ≠ ' ' := by
    rintro rfl
    exact absurd hlow (by decide)
  have hascii : c.toNat < 0x80 := by omega
  have hcontrol : ¬ (9 ≤ c.toNat ∧ c.toNat ≤ 13) := by omega
  simp [Text.isBlank, hascii, hspace]
  omega

/-- An integer is one token. -/
theorem scan_integer (n : Int) {rest : List Char} (hrest : EndsLiteral rest) (p : Position) :
    scan p 0 ((toString n).toList ++ rest) = spelled p .number (toString n).toList ::
      scan (p.afterAll (toString n).toList) 0 rest := by
  obtain ⟨d, ds, hdigits⟩ := List.exists_cons_of_ne_nil
    (Nat.toDigits_ne_nil : Nat.toDigits 10 n.natAbs ≠ [])
  have hall : ∀ c ∈ d :: ds, c.isDigit = true := by
    intro c hmem
    rw [← hdigits] at hmem
    exact Nat.isDigit_of_mem_toDigits (by decide) (by decide) hmem
  have hcount : ∀ cs, (∀ c ∈ cs, c.isDigit = true) →
      countWhile Text.isAlphanumeric (cs ++ rest) = cs.length := fun cs hcs =>
    countWhile_literal (by decide) (by decide)
      (fun c hmem => isAlphanumeric_of_isDigit c (hcs c hmem)) hrest
  rw [Text.toList_toString_int, hdigits]
  by_cases hn : n < 0
  · rw [if_pos hn, List.singleton_append]
    refine scan_spelled (by decide) ?_ p
    have hstarts : startsNumber '-' (d :: ds ++ rest) = true := by
      simp [startsNumber, hall d List.mem_cons_self]
    change (if startsNumber '-' (d :: ds ++ rest) = true then
      (Kind.number, countWhile Text.isAlphanumeric (d :: ds ++ rest)) else _) = _
    rw [if_pos hstarts, hcount _ hall]
  · rw [if_neg hn, List.nil_append]
    have hdigit := hall d List.mem_cons_self
    refine scan_spelled (isBlank_of_isDigit hdigit) ?_ p
    rw [classify_of_isDigit hdigit, hcount ds fun c hmem => hall c (List.mem_cons_of_mem d hmem)]

/-- A text between quotes is one token. -/
theorem scan_quoted {text : String} (hquote : '"' ∉ text.toList) (rest : List Char) (p : Position) :
    scan p 0 (("\"" ++ text ++ "\"").toList ++ rest) =
      spelled p .string ("\"" ++ text ++ "\"").toList ::
        scan (p.afterAll ("\"" ++ text ++ "\"").toList) 0 rest := by
  have hchars : ("\"" ++ text ++ "\"").toList = '"' :: (text.toList ++ ['"']) := by
    simp [String.toList_append]
  have hinside : countWhile (· ≠ '"') (text.toList ++ ['"'] ++ rest) = text.toList.length := by
    have hall : ∀ c ∈ text.toList, decide (c ≠ '"') = true := by
      intro c hmem
      exact decide_eq_true fun heq => hquote (heq ▸ hmem)
    rw [countWhile, List.append_assoc, List.takeWhile_append_of_pos hall]
    simp
  rw [hchars]
  refine scan_spelled (by decide) ?_ p
  have hclosed : text.toList.length < (text.toList ++ ['"'] ++ rest).length := by
    simp only [List.length_append, List.length_singleton]
    omega
  change (if countWhile (· ≠ '"') (text.toList ++ ['"'] ++ rest) <
      (text.toList ++ ['"'] ++ rest).length then
    (Kind.string, countWhile (· ≠ '"') (text.toList ++ ['"'] ++ rest) + 1) else _) = _
  rw [hinside, if_pos hclosed, List.length_append, List.length_singleton]

/-- The words that are literals are one token each. -/
theorem scan_literalWord {word : String} (hword : word = "null" ∨ word = "true" ∨ word = "false")
    {rest : List Char} (hrest : EndsLiteral rest) (p : Position) :
    scan p 0 (word.toList ++ rest) =
      spelled p .word word.toList :: scan (p.afterAll word.toList) 0 rest := by
  have hclass : ∀ c cs, (∀ ds, classify c ds = (.word, countWhile isWordPart ds)) →
      cs.all isWordPart = true → classify c (cs ++ rest) = (.word, cs.length) := by
    intro c cs hstart hcs
    rw [hstart, countWhile_literal (by decide) (by decide) (List.all_eq_true.mp hcs) hrest]
  rcases hword with rfl | rfl | rfl
  · exact scan_spelled (by decide) (hclass 'n' ['u', 'l', 'l'] (fun _ => rfl) (by decide)) p
  · exact scan_spelled (by decide) (hclass 't' ['r', 'u', 'e'] (fun _ => rfl) (by decide)) p
  · exact scan_spelled (by decide) (hclass 'f' ['a', 'l', 's', 'e'] (fun _ => rfl) (by decide)) p

end Token

namespace Literal

open Token

/-- The text of a list, character by character. -/
theorem toList_source_list (items : List Literal) :
    (Literal.list items).source.toList =
      '[' :: ((Text.joinWith " " (sources items)).toList ++ [']']) := by
  simp [source, String.toList_append]

mutual

/-- **The scanner cuts the text of a literal into tokens that spell it**, wherever it stands and
whatever follows it. -/
theorem exists_spells (literal : Literal) (p : Position) {rest : List Char}
    (hrest : EndsLiteral rest) :
    ∃ tokens form, literal.Spells tokens form ∧
      scan p 0 (literal.source.toList ++ rest) =
        tokens ++ scan (p.afterAll literal.source.toList) 0 rest := by
  match literal with
  | .null =>
      exact ⟨[_], _, .null rfl String.ofList_toList, scan_literalWord (.inl rfl) hrest p⟩
  | .bool flag =>
      have hword : flagWord flag = "null" ∨ flagWord flag = "true" ∨ flagWord flag = "false" := by
        cases flag <;> simp [flagWord]
      exact ⟨[_], _, .bool rfl String.ofList_toList, scan_literalWord hword hrest p⟩
  | .int number =>
      exact ⟨[_], _, .int rfl String.ofList_toList, scan_integer number.toInt hrest p⟩
  | .str text hquote =>
      exact ⟨[_], _, .str rfl String.ofList_toList, scan_quoted hquote rest p⟩
  | .list items =>
      obtain ⟨tokens, forms, hspells, hscan⟩ := exists_spellsAll items (p.after '[') rest
      let q := (p.after '[').afterAll (Text.joinWith " " (sources items)).toList
      refine ⟨spelled p .leftSquare ['['] :: (tokens ++ [spelled q .rightSquare [']']]),
        .list forms, .list rfl hspells rfl, ?_⟩
      have hclose : ∀ q, scan q 0 (']' :: rest) =
          spelled q .rightSquare [']'] :: scan (q.after ']') 0 rest := fun _ => rfl
      rw [toList_source_list, List.cons_append, List.append_assoc, Position.afterAll_cons,
        Position.afterAll_append]
      change spelled p .leftSquare ['['] :: scan (p.after '[') 0 _ = _
      rw [List.singleton_append, hscan, hclose]
      simp only [q, List.cons_append, List.append_assoc, List.nil_append, Position.afterAll_cons,
        Position.afterAll_nil]

/-- The items of a list, up to the bracket that closes it. -/
theorem exists_spellsAll (items : List Literal) (p : Position) (rest : List Char) :
    ∃ tokens forms, SpellsAll items tokens forms ∧
      scan p 0 ((Text.joinWith " " (sources items)).toList ++ ']' :: rest) =
        tokens ++ scan (p.afterAll (Text.joinWith " " (sources items)).toList) 0 (']' :: rest) := by
  match items with
  | [] => exact ⟨[], [], .nil, rfl⟩
  | [item] =>
      obtain ⟨tokens, form, hspells, hscan⟩ := exists_spells item p (endsLiteral_bracket rest)
      exact ⟨tokens ++ [], [form], .cons hspells .nil, by rw [List.append_nil]; exact hscan⟩
  | item :: next :: others =>
      obtain ⟨tokens, form, hspells, hscan⟩ := exists_spells item p (endsLiteral_space
        ((Text.joinWith " " (sources (next :: others))).toList ++ ']' :: rest))
      obtain ⟨more, forms, hmore, hscanMore⟩ := exists_spellsAll (next :: others)
        ((p.afterAll item.source.toList).after ' ') rest
      refine ⟨tokens ++ more, form :: forms, .cons hspells hmore, ?_⟩
      have htext : (Text.joinWith " " (sources (item :: next :: others))).toList =
          item.source.toList ++ ' ' :: (Text.joinWith " " (sources (next :: others))).toList := by
        simp [sources, String.toList_append]
      rw [htext, List.append_assoc, List.cons_append, hscan, Position.afterAll_append,
        Position.afterAll_cons, List.append_assoc, ← hscanMore]
      -- The space before the next item is skipped.
      rfl

end

/-- The tokens of the text of a literal. -/
theorem spells_tokenize (literal : Literal) :
    ∃ form, literal.Spells (tokenize literal.source) form := by
  have hend : EndsLiteral [] := nofun
  obtain ⟨tokens, form, hspells, hscan⟩ := literal.exists_spells .first hend
  rw [List.append_nil, scan, List.append_nil] at hscan
  rw [← hscan] at hspells
  exact ⟨form, hspells⟩

/-! ### The grammar -/

mutual

/-- The tokens of a literal derive its form in the grammar of forms. -/
theorem Spells.derives {literal : Literal} {tokens : List Token} {form : Form}
    (h : literal.Spells tokens form) : Form.Derives tokens form := by
  match h with
  | .null hkind hvalue =>
      exact .word ⟨hkind, by rw [hvalue]; decide, by rw [hvalue]; decide⟩
  | @Spells.bool flag token hkind hvalue =>
      refine .boolean hkind ?_
      rw [hvalue]
      cases flag <;> simp [flagWord]
  | .int hkind _ => exact .number hkind
  | .str hkind _ => exact .string hkind
  | .list hopener hitems hcloser => exact .list hopener hitems.derivesAll hcloser

/-- The tokens of the items derive their forms, one after the other. -/
theorem SpellsAll.derivesAll {items : List Literal} {tokens : List Token} {forms : List Form}
    (h : SpellsAll items tokens forms) : Form.DerivesAll tokens forms := by
  match h with
  | .nil => exact .nil
  | .cons hitem hrest => exact .cons hitem.derives hrest.derivesAll

end

mutual

/-- Forms of literals are as deep as their values. -/
theorem Spells.depth_eq {literal : Literal} {tokens : List Token} {form : Form}
    (h : literal.Spells tokens form) : form.depth = literal.value.depth := by
  match h with
  | .null _ _ | .bool _ _ | .int _ _ | .str _ _ => rfl
  | .list _ hitems _ => rw [Form.depth, value, Value.depth, hitems.depthAll_eq]

/-- The forms of the items are nested as deeply as their values. -/
theorem SpellsAll.depthAll_eq {items : List Literal} {tokens : List Token} {forms : List Form}
    (h : SpellsAll items tokens forms) : Form.depthAll forms = Value.depthAll (values items) := by
  match h with
  | .nil => rfl
  | .cons hitem hrest =>
      rw [Form.depthAll, values, Value.depthAll, hitem.depth_eq, hrest.depthAll_eq]

end

end Literal

/-! ### Evaluation -/

namespace Eval

variable {ω α β : Type} {step : Eval ω α} {next : α → Eval ω β} {machine after : Machine ω}

/-- What follows a step with an answer goes on from where that step ends. -/
theorem bind_of_ok {a : α} (h : step machine = (.ok a, after)) :
    (step >>= next) machine = next a after := by
  change ExceptT.bindCont next (step machine).1 (step machine).2 = _
  rw [h]
  rfl

/-- What follows a step that fails is not done. -/
theorem bind_of_error {failure : Failure} (h : step machine = (.error failure, after)) :
    (step >>= next) machine = (.error failure, after) := by
  change ExceptT.bindCont next (step machine).1 (step machine).2 = _
  rw [h]
  rfl

end Eval

namespace Literal

/-- The number of a token is the integer that it was written for. -/
theorem numberOf_integer {token : Token} {number : Int64}
    (hvalue : token.value = toString number.toInt) :
    Eval.numberOf token = .ok (.int number) := by
  rw [Eval.numberOf, hvalue, Text.integer?_toString, Option.bind_some, Value.narrow?_toInt]

/-- What stands between the quotes is the text that was put there. -/
theorem unquote_quoted (text : String) : Eval.unquote ("\"" ++ text ++ "\"") = text := by
  have hchars : ("\"" ++ text ++ "\"").toList = '"' :: (text.toList ++ ['"']) := by
    simp [String.toList_append]
  simp [Eval.unquote, hchars]

section Evaluation

variable {ω : Type} {machine : Machine ω} (bounds : Bounds)

mutual

/-- **The form of a literal has its value**, unless there is too little allowance for its lists.
Evaluation leaves the machine as it is. The word for null is an ordinary one, which stands for
nothing else. -/
theorem Spells.eval_eq {literal : Literal} {tokens : List Token} {form : Form}
    (h : literal.Spells tokens form) (hnull : machine.scope.lookup "null" = .null)
    (allowance : Nat) :
    Eval.eval bounds allowance form machine =
      (if literal.value.depth ≤ allowance then .ok literal.value
        else .error (.nesting bounds.nesting), machine) := by
  match h with
  | .null _ hvalue =>
      rw [← hvalue] at hnull
      simp only [Eval.eval]
      exact congrArg (fun found => (Except.ok found, machine)) hnull
  | @Spells.bool flag token _ hvalue =>
      have hflag : decide (token.value = "true") = flag := by
        rw [hvalue]
        cases flag <;> rfl
      simp only [Eval.eval, hflag]
      rfl
  | .int _ hvalue =>
      simp only [Eval.eval, numberOf_integer hvalue]
      rfl
  | .str _ hvalue =>
      simp only [Eval.eval, hvalue, unquote_quoted]
      rfl
  | @Spells.list items _ _ _ forms _ hitems _ =>
      cases allowance with
      | zero =>
          rw [if_neg (by simp [value, Value.depth])]
          rfl
      | succ allowance =>
          have hall := hitems.evalAll_eq hnull allowance
          simp only [Eval.eval, value, Value.depth]
          by_cases hdepth : Value.depthAll (values items) ≤ allowance
          · rw [if_pos hdepth] at hall
            rw [if_pos (by omega), Eval.bind_of_ok hall]
            rfl
          · rw [if_neg hdepth] at hall
            rw [if_neg (by omega), Eval.bind_of_error hall]

/-- The items have their values, unless one of them is nested more deeply than the groups that may
still be opened. -/
theorem SpellsAll.evalAll_eq {items : List Literal} {tokens : List Token} {forms : List Form}
    (h : SpellsAll items tokens forms) (hnull : machine.scope.lookup "null" = .null)
    (allowance : Nat) :
    Eval.evalAll (Eval.eval bounds allowance) forms machine =
      (if Value.depthAll (values items) ≤ allowance then .ok (values items)
        else .error (.nesting bounds.nesting), machine) := by
  match h with
  | .nil => rfl
  | @SpellsAll.cons item rest _ _ form forms hitem hrest =>
      have hfirst := hitem.eval_eq hnull allowance
      have hothers := hrest.evalAll_eq hnull allowance
      simp only [Eval.evalAll, values, Value.depthAll, Nat.max_le]
      by_cases hdepth : item.value.depth ≤ allowance
      · rw [if_pos hdepth] at hfirst
        rw [Eval.bind_of_ok hfirst]
        by_cases hdepths : Value.depthAll (values rest) ≤ allowance
        · rw [if_pos hdepths] at hothers
          rw [if_pos ⟨hdepth, hdepths⟩, Eval.bind_of_ok hothers]
          rfl
        · rw [if_neg hdepths] at hothers
          rw [if_neg fun hboth => hdepths hboth.2, Eval.bind_of_error hothers]
      · rw [if_neg hdepth] at hfirst
        rw [if_neg fun hboth => hdepth hboth.1, Eval.bind_of_error hfirst]

end

end Evaluation

end Literal

/-! ### Brackets -/

namespace Token

/-- How many square brackets are open behind some tokens. -/
def openBehind (tokens : List Token) : Int :=
  tokens.countP (·.kind = .leftSquare) - tokens.countP (·.kind = .rightSquare)

/-- The brackets open behind two texts are those of the one and those of the other. -/
theorem openBehind_append (tokens more : List Token) :
    openBehind (tokens ++ more) = openBehind tokens + openBehind more := by
  simp only [openBehind, List.countP_append]
  omega

/-- An opening bracket opens one. -/
theorem openBehind_leftSquare {token : Token} (hkind : token.kind = .leftSquare) :
    openBehind [token] = 1 := by
  simp [openBehind, hkind]

/-- A closing bracket closes one. -/
theorem openBehind_rightSquare {token : Token} (hkind : token.kind = .rightSquare) :
    openBehind [token] = -1 := by
  simp [openBehind, hkind]

/-- Nowhere in the tokens are more brackets open than the bound says. -/
def OpenWithin (bound : Nat) (tokens : List Token) : Prop :=
  ∀ front, front <+: tokens → openBehind front ≤ bound

/-- The bracket that follows the tokens is the first one with which more brackets are open than the
limit says. -/
structure Exceeds (limit : Nat) (before : List Token) (bracket : Token) : Prop where
  kind : bracket.kind = .leftSquare
  open_eq : openBehind before = limit
  within : OpenWithin limit before

/-- No token opens no bracket. -/
theorem openWithin_nil (bound : Nat) : OpenWithin bound [] := by
  intro front hfront
  rw [List.prefix_nil.mp hfront]
  exact Int.natCast_nonneg bound

/-- What stays within a bound stays within every greater one. -/
theorem OpenWithin.mono {bound bound' : Nat} {tokens : List Token} (h : OpenWithin bound tokens)
    (hle : bound ≤ bound') : OpenWithin bound' tokens := by
  intro front hfront
  have := h front hfront
  omega

/-- One token that does not open anything. -/
theorem openWithin_singleton (bound : Nat) {token : Token} (h : openBehind [token] ≤ 0) :
    OpenWithin bound [token] := by
  intro front hfront
  rcases List.prefix_cons_iff.mp hfront with rfl | ⟨rest, rfl, hrest⟩
  · exact Int.natCast_nonneg bound
  · rw [List.prefix_nil.mp hrest]
    omega

/-- Tokens behind a bracket. -/
theorem OpenWithin.inside {bound : Nat} {tokens : List Token} (h : OpenWithin bound tokens)
    {opener : Token} (hopener : opener.kind = .leftSquare) :
    OpenWithin (bound + 1) (opener :: tokens) := by
  intro front hfront
  rcases List.prefix_cons_iff.mp hfront with rfl | ⟨rest, rfl, hrest⟩
  · exact Int.natCast_nonneg _
  · have hinner := h rest hrest
    rw [← List.singleton_append, openBehind_append, openBehind_leftSquare hopener]
    omega

/-- Tokens behind others that close what they open. -/
theorem OpenWithin.append {bound : Nat} {tokens more : List Token} (h : OpenWithin bound tokens)
    (hclosed : openBehind tokens = 0) (hmore : OpenWithin bound more) :
    OpenWithin bound (tokens ++ more) := by
  rintro front ⟨back, hsplit⟩
  rcases List.append_eq_append_iff.mp hsplit with ⟨rest, htokens, -⟩ | ⟨rest, rfl, hrest⟩
  · exact h front ⟨rest, htokens.symm⟩
  · have hinner := hmore rest ⟨back, hrest.symm⟩
    rw [openBehind_append, hclosed]
    omega

/-- What exceeds a limit inside a bracket exceeds the next limit with the bracket before it. -/
theorem Exceeds.inside {limit : Nat} {before : List Token} {bracket : Token}
    (h : Exceeds limit before bracket) {opener : Token} (hopener : opener.kind = .leftSquare) :
    Exceeds (limit + 1) (opener :: before) bracket where
  kind := h.kind
  open_eq := by
    have hopen := h.open_eq
    rw [← List.singleton_append, openBehind_append, openBehind_leftSquare hopener]
    omega
  within := h.within.inside hopener

/-- What exceeds a limit does so also behind a text that closes what it opens and stays within the
limit. -/
theorem Exceeds.behind {limit : Nat} {tokens before : List Token} {bracket : Token}
    (h : Exceeds limit before bracket) (hclosed : openBehind tokens = 0)
    (hwithin : OpenWithin limit tokens) : Exceeds limit (tokens ++ before) bracket where
  kind := h.kind
  open_eq := by
    have hopen := h.open_eq
    rw [openBehind_append, hclosed]
    omega
  within := hwithin.append hclosed h.within

end Token

namespace Literal

open Token

mutual

/-- Literals close the brackets that they open. -/
theorem Spells.openBehind_eq {literal : Literal} {tokens : List Token} {form : Form}
    (h : literal.Spells tokens form) : openBehind tokens = 0 := by
  match h with
  | .null hkind _ | .bool hkind _ | .int hkind _ | .str hkind _ => simp [openBehind, hkind]
  | .list hopener hitems hcloser =>
      rw [← List.singleton_append, openBehind_append, openBehind_append, hitems.openBehind_eq,
        openBehind_leftSquare hopener, openBehind_rightSquare hcloser]
      rfl

/-- The items close all the brackets that they open. -/
theorem SpellsAll.openBehind_eq {items : List Literal} {tokens : List Token} {forms : List Form}
    (h : SpellsAll items tokens forms) : openBehind tokens = 0 := by
  match h with
  | .nil => rfl
  | .cons hitem hrest =>
      rw [openBehind_append, hitem.openBehind_eq, hrest.openBehind_eq]
      rfl

end

mutual

/-- As many brackets are open as the literal is deep, and no more. -/
theorem Spells.openWithin {literal : Literal} {tokens : List Token} {form : Form}
    (h : literal.Spells tokens form) : OpenWithin literal.value.depth tokens := by
  match h with
  | .null hkind _ | .bool hkind _ | .int hkind _ | .str hkind _ =>
      exact openWithin_singleton _ (by simp [openBehind, hkind])
  | @Spells.list items _ _ _ _ hopener hitems hcloser =>
      have hclose := openWithin_singleton (Value.depthAll (values items))
        (by rw [openBehind_rightSquare hcloser]; decide)
      rw [value, Value.depth, Nat.add_comm]
      exact (hitems.openWithin.append hitems.openBehind_eq hclose).inside hopener

/-- Inside the items no more brackets are open than their values are deep. -/
theorem SpellsAll.openWithin {items : List Literal} {tokens : List Token} {forms : List Form}
    (h : SpellsAll items tokens forms) : OpenWithin (Value.depthAll (values items)) tokens := by
  match h with
  | .nil => exact openWithin_nil _
  | .cons hitem hrest =>
      exact (hitem.openWithin.mono (Nat.le_max_left _ _)).append hitem.openBehind_eq
        (hrest.openWithin.mono (Nat.le_max_right _ _))

end

open Workbench.Parser

mutual

/-- **The parser stops at the first bracket that is too deep**, where the brackets count that are
open already. -/
theorem Spells.steps_too_deep {literal : Literal} {tokens : List Token} {form : Form}
    (h : literal.Spells tokens form) (limit : Nat) (forms : List Form) (stack : List Open)
    (hstack : stack.length ≤ limit) (hdeep : limit < stack.length + literal.value.depth) :
    ∃ before bracket after, tokens = before ++ bracket :: after ∧
      Exceeds (limit - stack.length) before bracket ∧
      steps limit ⟨forms, stack⟩ tokens = .error ⟨bracket.start, .nestingTooDeep limit⟩ := by
  match h with
  | .null _ _ | .bool _ _ | .int _ _ | .str _ _ =>
      simp only [value, Value.depth] at hdeep
      omega
  | @Spells.list items opener closer tokens _ hopener hitems hcloser =>
      rw [value, Value.depth] at hdeep
      by_cases hroom : stack.length < limit
      · -- There is room for this bracket, so one of the items is too deep.
        have hopen : step limit ⟨forms, stack⟩ opener = .ok ⟨forms, .list opener [] :: stack⟩ := by
          simp only [step, hopener]
          exact push_of_lt hroom _ _
        obtain ⟨before, bracket, after, rfl, hexceeds, herror⟩ :=
          hitems.steps_too_deep limit forms (.list opener [] :: stack) trivial
            (by rw [List.length_cons]; omega) (by rw [List.length_cons]; omega)
        refine ⟨opener :: before, bracket, after ++ [closer], by simp, ?_, ?_⟩
        · have hlimit : limit - stack.length = limit - (stack.length + 1) + 1 := by omega
          rw [hlimit]
          exact hexceeds.inside hopener
        · rw [steps_cons_of_ok hopen, steps_append, herror]
          rfl
      · have hfull : limit - stack.length = 0 := by omega
        refine ⟨[], opener, tokens ++ [closer], rfl, ?_, ?_⟩
        · rw [hfull]
          exact ⟨hopener, rfl, openWithin_nil 0⟩
        · have herror : step limit ⟨forms, stack⟩ opener =
              .error ⟨opener.start, .nestingTooDeep limit⟩ := by
            simp only [step, hopener]
            exact if_neg hroom
          rw [steps, herror]

/-- Items that are too deep for the brackets that may still be opened are refused at the first
bracket that is one too many. -/
theorem SpellsAll.steps_too_deep {items : List Literal} {tokens : List Token} {forms' : List Form}
    (h : SpellsAll items tokens forms') (limit : Nat) (forms : List Form) (stack : List Open)
    (hgroup : IsGroup stack) (hstack : stack.length ≤ limit)
    (hdeep : limit < stack.length + Value.depthAll (values items)) :
    ∃ before bracket after, tokens = before ++ bracket :: after ∧
      Exceeds (limit - stack.length) before bracket ∧
      steps limit ⟨forms, stack⟩ tokens = .error ⟨bracket.start, .nestingTooDeep limit⟩ := by
  match h with
  | .nil =>
      simp only [values, Value.depthAll] at hdeep
      omega
  | @SpellsAll.cons item rest tokens more form _ hitem hrest =>
      rw [values, Value.depthAll] at hdeep
      by_cases hfirst : limit < stack.length + item.value.depth
      · obtain ⟨before, bracket, after, rfl, hexceeds, herror⟩ :=
          hitem.steps_too_deep limit forms stack hstack hfirst
        refine ⟨before, bracket, after ++ more, by simp, hexceeds, ?_⟩
        rw [steps_append, herror]
        rfl
      · -- The first item is read, and it leaves as much open as it found.
        obtain ⟨forms', stack', hplace, hgroup', hlength, -⟩ :=
          place_of_isGroup forms hgroup form []
        have hsteps := hitem.derives.steps limit forms stack (by rw [hitem.depth_eq]; omega)
        rw [hplace] at hsteps
        obtain ⟨before, bracket, after, rfl, hexceeds, herror⟩ :=
          hrest.steps_too_deep limit forms' stack' hgroup' (by omega) (by omega)
        refine ⟨tokens ++ before, bracket, after, by simp, ?_, ?_⟩
        · rw [hlength] at hexceeds
          exact hexceeds.behind hitem.openBehind_eq (hitem.openWithin.mono (by omega))
        · rw [steps_append_of_ok hsteps, herror]

end

/-- The text of a literal that is not too deep is read into its form. -/
theorem Spells.parse_eq {literal : Literal} {tokens : List Token} {form : Form}
    (h : literal.Spells tokens form) {limit : Nat} (hdepth : literal.value.depth ≤ limit) :
    Form.parse limit tokens = .ok (.call [form]) := by
  have hderives : Form.DerivesAll (tokens ++ []) [form] := .cons h.derives .nil
  rw [List.append_nil] at hderives
  refine hderives.parse limit fun other hmem => ?_
  rw [List.mem_singleton.mp hmem, h.depth_eq]
  exact hdepth

end Literal

namespace Program

open Token

/-- A program of one literal has its value, unless its lists are nested more deeply than evaluation
goes. -/
theorem evalProgram_literal {literal : Literal} {tokens : List Token} {form : Form}
    (h : literal.Spells tokens form) (limits : Limits) :
    Eval.evalProgram limits.bounds (.call [form]) (Machine.recording Frame.standard) =
      (if literal.value.depth ≤ limits.bounds.nesting then .ok literal.value
        else .error (.nesting limits.bounds.nesting), Machine.recording Frame.standard) := by
  have heval : Eval.eval limits.bounds limits.bounds.nesting form
      (Machine.recording Frame.standard) = _ := h.eval_eq limits.bounds rfl limits.bounds.nesting
  have htop : Eval.evalTop limits.bounds form (Machine.recording Frame.standard) =
      (if literal.value.depth ≤ limits.bounds.nesting then .ok literal.value
        else .error (.nesting limits.bounds.nesting), Machine.recording Frame.standard) := by
    change ((Eval.eval limits.bounds limits.bounds.nesting form
        (Machine.recording Frame.standard)).1.mapError _,
      (Eval.eval limits.bounds limits.bounds.nesting form
        (Machine.recording Frame.standard)).2) = _
    rw [heval]
    split <;> rfl
  change (Eval.evalTop limits.bounds form >>= fun value => pure value) _ = _
  by_cases hdepth : literal.value.depth ≤ limits.bounds.nesting
  · rw [if_pos hdepth] at htop ⊢
    exact Eval.bind_of_ok htop
  · rw [if_neg hdepth] at htop ⊢
    exact Eval.bind_of_error htop

/-- **Literals are read as what they say.** Under all limits, the text of a literal runs to its
value and prints nothing, if its lists are nested neither more deeply than the limit of the run nor
more deeply than 320; if they are nested more deeply than the limit, it is refused at the first
bracket with which more brackets are open than the limit allows; and otherwise it fails in
evaluation. -/
theorem run_literal (literal : Literal) (limits : Limits) :
    (literal.value.depth ≤ limits.nestingDepth → literal.value.depth ≤ 320 →
      ∃ tokens form, run limits literal.source = ⟨[], .ok ⟨literal.value, tokens, form⟩⟩) ∧
    (limits.nestingDepth < literal.value.depth → ∃ before bracket after,
      tokenize literal.source = before ++ bracket :: after ∧
      Exceeds limits.nestingDepth before bracket ∧
      run limits literal.source =
        ⟨[], .error (.parse ⟨bracket.start, .nestingTooDeep limits.nestingDepth⟩)⟩) ∧
    (320 < literal.value.depth → literal.value.depth ≤ limits.nestingDepth →
      run limits literal.source = ⟨[], .error (.nesting 320)⟩) := by
  obtain ⟨form, hspells⟩ := literal.spells_tokenize
  have hprogram := evalProgram_literal hspells limits
  refine ⟨fun hdepth hnesting => ?_, fun hdeep => ?_, fun hnesting hdepth => ?_⟩
  · have hfits : literal.value.depth ≤ limits.bounds.nesting := hnesting
    rw [run_eq_of_parse (hspells.parse_eq hdepth), hprogram, if_pos hfits]
    exact ⟨_, _, rfl⟩
  · obtain ⟨before, bracket, after, htokens, hexceeds, hsteps⟩ :=
      hspells.steps_too_deep limits.nestingDepth [] [] (Nat.zero_le _)
        (by rw [List.length_nil]; omega)
    refine ⟨before, bracket, after, htokens, hexceeds, run_eq_of_parse_error ?_⟩
    have hparser : Parser.steps limits.nestingDepth {} (tokenize literal.source) = _ := hsteps
    rw [Form.parse, hparser]
    rfl
  · have hexceeds : ¬ literal.value.depth ≤ limits.bounds.nesting := Nat.not_le.mpr hnesting
    rw [run_eq_of_parse (hspells.parse_eq hdepth), hprogram, if_neg hexceeds]
    rfl

-- A minus sign behind a bracket, and a text that looks like the end of the list and a comment.
example : (Literal.list [.int (-1), .str "a] ;" (by decide), .list [], .null]).source =
    "[-1 \"a] ;\" [] null]" := by
  decide

end Program

end Workbench
