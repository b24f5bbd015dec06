import Workbench.Proofs.Form.Seam

/-!
# Sizes and ends of forms, read off the tokens

Brackets and parameter lists leave no token in a form, so that neither the size of a form nor the
place where it ends can be looked up in it. Both can be read off the tokens that spell the form.

* **Sizes** (`Form.Derives.size_eq`). Every form starts with an opening bracket, a word or a
  literal, and every parameter is a word. Only functions start with two such tokens, their own word
  and the bracket of their parameters, which make one form together.
* **Ends** (`Form.Derives.lastPlace_eq`). A form ends where the last word or literal does that
  stands outside of all parameter lists, and nowhere if there is none. Nothing but the word of a
  function and the next closing bracket is needed to tell parameters apart
  (`Token.outsideParameters`), since parameter lists hold names only.
* **Parts** (`Form.Derives.exists_tokens`). The tokens of a form stand together among those of every
  form around it.
-/

namespace Workbench

namespace Token

/-- The word of a function. -/
def isFunctionWord (token : Token) : Bool := token.kind = .word ∧ token.value = "fn"

/-- A token with which a form or a parameter list can start. -/
def startsForm (token : Token) : Bool :=
  match token.kind with
  | .leftParen | .leftSquare | .word | .string | .number => true
  | .rightParen | .rightSquare | .singleQuote | .comment | .unknown => false

/-- A word or a literal. -/
def isAtom (token : Token) : Bool :=
  match token.kind with
  | .word | .string | .number => true
  | .leftParen | .leftSquare | .rightParen | .rightSquare | .singleQuote | .comment | .unknown =>
      false

/-- The tokens outside of parameter lists. A parameter list begins behind the word of a function and
ends with the next closing square bracket; `listed` says whether one has begun. -/
def outsideParameters : (listed : Bool) → List Token → List Token
  | _, [] => []
  | true, token :: rest => outsideParameters (token.kind ≠ .rightSquare) rest
  | false, token :: rest => token :: outsideParameters token.isFunctionWord rest

/-- The words and literals outside of parameter lists. -/
def atoms (tokens : List Token) : List Token := (outsideParameters false tokens).filter isAtom

/-- The place where the last word or literal ends that is not in a parameter list. -/
def lastEnd (tokens : List Token) : Option Position := (atoms tokens).getLast?.map stop

/-- Tokens have no last end exactly if they have neither words nor literals. -/
theorem lastEnd_eq_none_iff {tokens : List Token} : lastEnd tokens = none ↔ atoms tokens = [] := by
  rw [lastEnd, Option.map_eq_none_iff, List.getLast?_eq_none_iff]

/-! ### Kinds of tokens -/

/-- Only a word can be the word of a function. -/
theorem isFunctionWord_of_kind {token : Token} (h : token.kind ≠ .word) :
    token.isFunctionWord = false := by
  simp [isFunctionWord, h]

/-- The word `fn` is the word of a function. -/
theorem isFunctionWord_of_value {token : Token} (hkind : token.kind = .word)
    (hvalue : token.value = "fn") : token.isFunctionWord = true := by
  simp [isFunctionWord, hkind, hvalue]

/-- The words for the truth values are not. -/
theorem isFunctionWord_of_boolean {token : Token}
    (h : token.value = "true" ∨ token.value = "false") : token.isFunctionWord = false := by
  rcases h with hvalue | hvalue <;> simp [isFunctionWord, hvalue]

/-- Neither are names. -/
theorem IsName.isFunctionWord {token : Token} (h : token.IsName) :
    token.isFunctionWord = false := by
  simp [Token.isFunctionWord, h.notFunction]

/-- The brackets around a group. -/
structure AreBrackets (opener closer : Token) : Prop where
  opens : opener.kind = .leftParen ∨ opener.kind = .leftSquare
  closes : closer.kind = .rightParen ∨ closer.kind = .rightSquare

namespace AreBrackets

variable {opener closer : Token} (h : AreBrackets opener closer)
include h

/-- Brackets are not the word of a function. -/
theorem isFunctionWord : opener.isFunctionWord = false ∧ closer.isFunctionWord = false := by
  refine ⟨isFunctionWord_of_kind ?_, isFunctionWord_of_kind ?_⟩
  · rcases h.opens with hkind | hkind <;> simp [hkind]
  · rcases h.closes with hkind | hkind <;> simp [hkind]

/-- An opening bracket starts a form, and a closing one does not. -/
theorem startsForm : opener.startsForm = true ∧ closer.startsForm = false := by
  constructor
  · rcases h.opens with hkind | hkind <;> simp [Token.startsForm, hkind]
  · rcases h.closes with hkind | hkind <;> simp [Token.startsForm, hkind]

/-- A group has one more token with which a form can start than its items have. -/
theorem countP_group (tokens : List Token) :
    (opener :: (tokens ++ [closer])).countP Token.isFunctionWord =
        tokens.countP Token.isFunctionWord ∧
      (opener :: (tokens ++ [closer])).countP Token.startsForm =
        tokens.countP Token.startsForm + 1 := by
  constructor
  · simp [h.isFunctionWord]
  · simp [h.startsForm]

/-- Brackets are neither words nor literals. -/
theorem isAtom : opener.isAtom = false ∧ closer.isAtom = false := by
  constructor
  · rcases h.opens with hkind | hkind <;> simp [Token.isAtom, hkind]
  · rcases h.closes with hkind | hkind <;> simp [Token.isAtom, hkind]

end AreBrackets

/-! ### Comments -/

/-- What does not hold of comments is counted as if there were none. -/
theorem countP_withoutComments {p : Token → Bool}
    (hp : ∀ token : Token, token.kind = .comment → p token = false) (tokens : List Token) :
    (withoutComments tokens).countP p = tokens.countP p := by
  rw [withoutComments, List.countP_filter]
  refine List.countP_congr fun token _ => ?_
  by_cases hkind : token.kind = .comment
  · simp [hp token hkind]
  · simp [hkind]

/-- Comments are neither words nor literals, and they neither begin nor end a parameter list. -/
theorem filter_outsideParameters_withoutComments (listed : Bool) (tokens : List Token) :
    (outsideParameters listed (withoutComments tokens)).filter isAtom =
      (outsideParameters listed tokens).filter isAtom := by
  induction tokens generalizing listed with
  | nil => rfl
  | cons token rest ih =>
      by_cases hkind : token.kind = .comment
      · have hskip : withoutComments (token :: rest) = withoutComments rest :=
          List.filter_cons_of_neg (by simp [hkind])
        have hword : token.isFunctionWord = false := isFunctionWord_of_kind (by simp [hkind])
        rw [hskip, ih]
        cases listed with
        | true => simp [outsideParameters, hkind]
        | false => simp [outsideParameters, hword, isAtom, hkind]
      · have hkeep : withoutComments (token :: rest) = token :: withoutComments rest :=
          List.filter_cons_of_pos (by simp [hkind])
        rw [hkeep]
        cases listed with
        | true => exact ih _
        | false => simp only [outsideParameters, List.filter_cons, ih]

/-- Comments are neither words nor literals, wherever they stand. -/
theorem atoms_withoutComments (tokens : List Token) :
    atoms (withoutComments tokens) = atoms tokens :=
  filter_outsideParameters_withoutComments false tokens

/-! ### Functions -/

/-- The names in a parameter list and the bracket that closes it are left out. -/
theorem outsideParameters_names {names : List Token} (hnames : ∀ name ∈ names, name.IsName)
    {closer : Token} (hcloser : closer.kind = .rightSquare) (tokens : List Token) :
    outsideParameters true (names ++ closer :: tokens) = outsideParameters false tokens := by
  induction names with
  | nil => simp [outsideParameters, hcloser]
  | cons name rest ih =>
      obtain ⟨hname, hrest⟩ := List.forall_mem_cons.mp hnames
      simp [outsideParameters, hname.kind, ih hrest]

section Function

variable {token opener closer : Token} {names : List Token} (hkind : token.kind = .word)
variable (hvalue : token.value = "fn") (hopener : opener.kind = .leftSquare)
variable (hnames : ∀ name ∈ names, name.IsName) (hcloser : closer.kind = .rightSquare)
include hkind hvalue hopener hnames hcloser

/-- A function has two more tokens with which a form can start than its parameters and its body, and
one of them is its word. -/
theorem countP_function (tokens : List Token) :
    (token :: opener :: (names ++ closer :: tokens)).countP isFunctionWord =
        tokens.countP isFunctionWord + 1 ∧
      (token :: opener :: (names ++ closer :: tokens)).countP startsForm =
        names.length + tokens.countP startsForm + 2 := by
  have hbrackets : AreBrackets opener closer := ⟨.inr hopener, .inr hcloser⟩
  constructor
  · have hnone : names.countP isFunctionWord = 0 :=
      List.countP_eq_zero.mpr fun name hmem => by simp [(hnames name hmem).isFunctionWord]
    simp [isFunctionWord_of_value hkind hvalue, hnone, hbrackets.isFunctionWord]
  · have hstart : token.startsForm = true := by simp [startsForm, hkind]
    have hall : names.countP startsForm = names.length :=
      List.countP_eq_length.mpr fun name hmem => by simp [startsForm, (hnames name hmem).kind]
    simp [hstart, hall, hbrackets.startsForm]

/-- A function without its parameter list. -/
theorem outsideParameters_function (tokens : List Token) :
    outsideParameters false (token :: opener :: (names ++ closer :: tokens)) =
      token :: outsideParameters false tokens := by
  simp [outsideParameters, isFunctionWord_of_value hkind hvalue, hopener,
    outsideParameters_names hnames hcloser]

/-- Of the head of a function only its word counts. -/
theorem atoms_function (tokens : List Token) :
    atoms (token :: opener :: (names ++ closer :: tokens)) = token :: atoms tokens := by
  have hatom : token.isAtom = true := by simp [isAtom, hkind]
  rw [atoms, outsideParameters_function hkind hvalue hopener hnames hcloser,
    List.filter_cons_of_pos hatom, atoms]

end Function

end Token

namespace Form

open Token

/-! ### Sizes -/

/-- Each parameter of a function counts once. -/
theorem sizeAll_names (names : List Token) : sizeAll (names.map .word) = names.length := by
  induction names with
  | nil => rfl
  | cons name rest ih => rw [List.map_cons, sizeAll, ih, size, List.length_cons, Nat.add_comm]

mutual

/-- **The size of a form** is the number of tokens with which a form can start, less the words of
functions. -/
theorem Derives.size_eq {tokens : List Token} {form : Form} (h : Derives tokens form) :
    form.size + tokens.countP isFunctionWord = tokens.countP startsForm := by
  match h with
  | .string hkind | .number hkind => simp [size, isFunctionWord, startsForm, hkind]
  | .boolean hkind hvalue => simp [size, isFunctionWord_of_boolean hvalue, startsForm, hkind]
  | .word hname => simp [size, hname.isFunctionWord, startsForm, hname.kind]
  | @Derives.call _ _ inside _ hopener hitems hcloser =>
      obtain ⟨hwords, hstarts⟩ := AreBrackets.countP_group ⟨.inl hopener, .inl hcloser⟩ inside
      have hsize := hitems.size_eq
      rw [size]
      omega
  | @Derives.list _ _ inside _ hopener hitems hcloser =>
      obtain ⟨hwords, hstarts⟩ := AreBrackets.countP_group ⟨.inr hopener, .inr hcloser⟩ inside
      have hsize := hitems.size_eq
      rw [size]
      omega
  | @Derives.function token opener closer names tokens body hkind hvalue hopener hnames hcloser
      hbody =>
      obtain ⟨hwords, hstarts⟩ := countP_function hkind hvalue hopener hnames hcloser tokens
      have hsize := hbody.size_eq
      rw [size, sizeAll_names]
      omega

/-- The size of some forms in a row. -/
theorem DerivesAll.size_eq {tokens : List Token} {forms : List Form} (h : DerivesAll tokens forms) :
    sizeAll forms + tokens.countP isFunctionWord = tokens.countP startsForm := by
  match h with
  | .nil => rfl
  | .cons hform hforms =>
      have hfirst := hform.size_eq
      have hrest := hforms.size_eq
      rw [sizeAll, List.countP_append, List.countP_append]
      omega

end

/-! ### Ends -/

mutual

/-- Behind a form no parameter list is open. -/
theorem Derives.outsideParameters_append {tokens : List Token} {form : Form}
    (h : Derives tokens form) (rest : List Token) :
    outsideParameters false (tokens ++ rest) =
      outsideParameters false tokens ++ outsideParameters false rest := by
  match h with
  | .string hkind | .number hkind =>
      simp [outsideParameters, isFunctionWord_of_kind, hkind]
  | .boolean _ hvalue => simp [outsideParameters, isFunctionWord_of_boolean hvalue]
  | .word hname => simp [outsideParameters, hname.isFunctionWord]
  | @Derives.call opener closer _ _ hopener hitems hcloser =>
      have hbrackets : AreBrackets opener closer := ⟨.inl hopener, .inl hcloser⟩
      simp [outsideParameters, hbrackets.isFunctionWord, hitems.outsideParameters_append]
  | @Derives.list opener closer _ _ hopener hitems hcloser =>
      have hbrackets : AreBrackets opener closer := ⟨.inr hopener, .inr hcloser⟩
      simp [outsideParameters, hbrackets.isFunctionWord, hitems.outsideParameters_append]
  | @Derives.function token opener closer names tokens body hkind hvalue hopener hnames hcloser
      hbody =>
      simp only [List.cons_append, List.append_assoc,
        outsideParameters_function hkind hvalue hopener hnames hcloser,
        hbody.outsideParameters_append]

/-- Behind a row of forms no parameter list has begun. -/
theorem DerivesAll.outsideParameters_append {tokens : List Token} {forms : List Form}
    (h : DerivesAll tokens forms) (rest : List Token) :
    outsideParameters false (tokens ++ rest) =
      outsideParameters false tokens ++ outsideParameters false rest := by
  match h with
  | .nil => rfl
  | .cons hform hforms =>
      rw [List.append_assoc, hform.outsideParameters_append, hforms.outsideParameters_append,
        hform.outsideParameters_append, List.append_assoc]

end

/-- The words and literals of a form stand before those of what follows it. -/
theorem Derives.atoms_append {tokens : List Token} {form : Form} (h : Derives tokens form)
    (rest : List Token) : atoms (tokens ++ rest) = atoms tokens ++ atoms rest := by
  rw [atoms, h.outsideParameters_append, List.filter_append, atoms, atoms]

/-- Brackets around forms add neither words nor literals. -/
theorem DerivesAll.atoms_group {opener closer : Token} (hbrackets : AreBrackets opener closer)
    {tokens : List Token} {forms : List Form} (h : DerivesAll tokens forms) :
    atoms (opener :: (tokens ++ [closer])) = atoms tokens := by
  simp [atoms, outsideParameters, hbrackets.isFunctionWord, hbrackets.isAtom,
    h.outsideParameters_append]

mutual

/-- **A form ends where the last word or literal does** that is not in a parameter list. -/
theorem Derives.lastPlace_eq {tokens : List Token} {form : Form} (h : Derives tokens form) :
    form.lastPlace = lastEnd tokens := by
  match h with
  | .string hkind | .number hkind | .boolean hkind _ =>
      simp [lastPlace, lastEnd, atoms, outsideParameters, isAtom, hkind]
  | .word hname => simp [lastPlace, lastEnd, atoms, outsideParameters, isAtom, hname.kind]
  | .call hopener hitems hcloser =>
      rw [lastPlace, hitems.lastPlace_eq, lastEnd, lastEnd,
        hitems.atoms_group ⟨.inl hopener, .inl hcloser⟩]
  | .list hopener hitems hcloser =>
      rw [lastPlace, hitems.lastPlace_eq, lastEnd, lastEnd,
        hitems.atoms_group ⟨.inr hopener, .inr hcloser⟩]
  | @Derives.function token opener closer names tokens body hkind hvalue hopener hnames hcloser
      hbody =>
      rw [lastPlace, hbody.lastPlace_eq, lastEnd, lastEnd,
        atoms_function hkind hvalue hopener hnames hcloser]
      -- The word of the function is the last one only if the body has none.
      cases hlast : (atoms tokens).getLast? <;> simp [List.getLast?_cons, hlast]

/-- A row of forms ends where the last of them does that has a place. -/
theorem DerivesAll.lastPlace_eq {tokens : List Token} {forms : List Form}
    (h : DerivesAll tokens forms) : lastPlaceOf forms = lastEnd tokens := by
  match h with
  | .nil => rfl
  | .cons hform hforms =>
      rw [lastPlaceOf, hform.lastPlace_eq, hforms.lastPlace_eq, lastEnd, lastEnd, lastEnd,
        hform.atoms_append, List.getLast?_append, Option.map_or]

end

/-- A form ends as its tokens do: where the last word or literal ends that is not in a parameter
list, and nowhere exactly if there is none. -/
structure EndsLike (tokens : List Token) (form : Form) : Prop where
  place : form.lastPlace = lastEnd tokens
  none_iff : form.lastPlace = none ↔ atoms tokens = []

/-- A form that ends at the last end has no place exactly if its tokens have none. -/
theorem endsLike_of_lastPlace_eq {tokens : List Token} {form : Form}
    (h : form.lastPlace = lastEnd tokens) : EndsLike tokens form :=
  ⟨h, by rw [h, lastEnd_eq_none_iff]⟩

/-! ### Parts -/

/-- The forms in a form, itself included. The parameters of a function are none. -/
inductive Part (part : Form) : Form → Prop where
  | self : Part part part
  | call {items : List Form} {item : Form} (hmem : item ∈ items) (h : Part part item) :
      Part part (.call items)
  | list {items : List Form} {item : Form} (hmem : item ∈ items) (h : Part part item) :
      Part part (.list items)
  | body {token : Token} {parameters : List Form} {body : Form} (h : Part part body) :
      Part part (.function token parameters body)

/-- The tokens of forms in a row, around those of one of them. -/
theorem DerivesAll.split {tokens : List Token} {before after : List Form} {form : Form}
    (h : DerivesAll tokens (before ++ form :: after)) :
    ∃ left own right, tokens = left ++ (own ++ right) ∧ DerivesAll left before ∧
      Derives own form ∧ DerivesAll right after := by
  induction before generalizing tokens with
  | nil =>
      cases h with
      | @cons own right _ _ hform hafter => exact ⟨[], own, right, rfl, .nil, hform, hafter⟩
  | cons first rest ih =>
      cases h with
      | @cons begun _ _ _ hfirst hrest =>
          obtain ⟨left, own, right, rfl, hleft, hown, hright⟩ := ih hrest
          refine ⟨begun ++ left, own, right, ?_, .cons hfirst hleft, hown, hright⟩
          rw [List.append_assoc]

/-- The tokens of one of some forms stand together. -/
theorem DerivesAll.exists_tokens {tokens : List Token} {forms : List Form}
    (h : DerivesAll tokens forms) {form : Form} (hmem : form ∈ forms) :
    ∃ own, own <:+: tokens ∧ Derives own form := by
  obtain ⟨before, after, rfl⟩ := List.append_of_mem hmem
  obtain ⟨left, own, right, rfl, -, hown, -⟩ := h.split
  exact ⟨own, ⟨left, right, List.append_assoc ..⟩, hown⟩

/-- The tokens of one of the items of a group stand together. -/
theorem DerivesAll.exists_tokens_group {opener closer : Token} {tokens : List Token}
    {items : List Form} (h : DerivesAll tokens items) {item : Form} (hmem : item ∈ items) :
    ∃ own, own <:+: opener :: (tokens ++ [closer]) ∧ Derives own item := by
  obtain ⟨own, hown, hitem⟩ := h.exists_tokens hmem
  exact ⟨own, hown.trans ⟨[opener], [closer], rfl⟩, hitem⟩

/-- **The tokens of a part stand together** among those of the whole. -/
theorem Derives.exists_tokens {tokens : List Token} {form part : Form} (h : Derives tokens form)
    (hpart : Part part form) : ∃ own, own <:+: tokens ∧ Derives own part := by
  induction hpart generalizing tokens with
  | self => exact ⟨tokens, List.infix_rfl, h⟩
  | call hmem _ ih =>
      cases h with
      | call _ hitems _ =>
          obtain ⟨around, haround, hitem⟩ := hitems.exists_tokens_group hmem
          obtain ⟨own, hown, hpart⟩ := ih hitem
          exact ⟨own, hown.trans haround, hpart⟩
  | list hmem _ ih =>
      cases h with
      | list _ hitems _ =>
          obtain ⟨around, haround, hitem⟩ := hitems.exists_tokens_group hmem
          obtain ⟨own, hown, hpart⟩ := ih hitem
          exact ⟨own, hown.trans haround, hpart⟩
  | @body token _ _ _ ih =>
      cases h with
      | @function _ opener closer names around _ _ _ _ _ _ hbody =>
          obtain ⟨own, hown, hpart⟩ := ih hbody
          refine ⟨own, hown.trans (List.IsSuffix.isInfix ?_), hpart⟩
          exact ⟨token :: opener :: (names ++ [closer]), by simp⟩

/-! ### Programs -/

variable {limit : Nat} {tokens : List Token} {forms : List Form}

/-- The root of a program is one form more than its tokens account for. -/
theorem size_of_parse (h : parse limit tokens = .ok (.call forms)) :
    (Form.call forms).size + tokens.countP isFunctionWord = 1 + tokens.countP startsForm := by
  have hsize := (derivesAll_of_parse h).1.size_eq
  have hwords : ∀ token : Token, token.kind = .comment → token.isFunctionWord = false :=
    fun token hkind => isFunctionWord_of_kind (by simp [hkind])
  have hstarts : ∀ token : Token, token.kind = .comment → token.startsForm = false :=
    fun token hkind => by simp [startsForm, hkind]
  rw [countP_withoutComments hwords, countP_withoutComments hstarts] at hsize
  rw [size]
  omega

/-- The root ends as all tokens do, comments or not. -/
theorem endsLike_of_parse (h : parse limit tokens = .ok (.call forms)) :
    EndsLike tokens (.call forms) := by
  have hplace := (derivesAll_of_parse h).1.lastPlace_eq
  rw [lastEnd, atoms_withoutComments, ← lastEnd] at hplace
  exact endsLike_of_lastPlace_eq hplace

end Form

end Workbench
