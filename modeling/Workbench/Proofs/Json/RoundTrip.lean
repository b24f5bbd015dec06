import Workbench.Proofs.Json.Order

/-!
# What is written is read back

Places, tokens, forms, statuses and events can be written as documents and read from them.
**Theorem** (`wire_round_trip`): from any document of the same value as the one that was written
exactly what was written is read. So two forms never have the same document up to the order of
fields, and the document of a form has the document of each of its tokens in it.

Lines, columns and the indices of messages are counted in words of 64 bits: a reader takes no other
numbers. What has a larger number in it, which no text is long enough for, can be written but not
read, and `Fits` says that there is none.

The forms are the only recursive case. A reader of forms is given how deeply they may be nested,
which the depth of the document bounds, and the proof runs along the form
(`Form.ofJsonWithin?_toJson`).
-/

namespace Workbench

/-! ### What can be read -/

/-- A place with a line and a column of 64 bits. -/
def Position.Fits (p : Position) : Prop := p.line < UInt64.size ∧ p.col < UInt64.size

/-- A token between two such places. -/
def Token.Fits (t : Token) : Prop := t.start.Fits ∧ t.stop.Fits

namespace Form

mutual

/-- The tokens in a form, those of parameters included. -/
def tokens : Form → List Token
  | .word token | .string token | .number token | .boolean token => [token]
  | .call items => tokensOf items
  | .list items => tokensOf items
  | .function token parameters body => token :: (tokensOf parameters ++ body.tokens)

/-- The tokens in some forms. -/
def tokensOf : List Form → List Token
  | [] => []
  | form :: rest => form.tokens ++ tokensOf rest

end

/-- A form in which every token can be read. -/
def Fits (form : Form) : Prop := ∀ token ∈ form.tokens, token.Fits

/-- Forms in which every token can be read. -/
def AllFit (forms : List Form) : Prop := ∀ token ∈ tokensOf forms, token.Fits

/-- The first form fits, and so do the others. -/
theorem allFit_cons {form : Form} {forms : List Form} :
    AllFit (form :: forms) ↔ form.Fits ∧ AllFit forms :=
  List.forall_mem_append

/-- Forms fit if each of them does. -/
theorem allFit_iff {forms : List Form} : AllFit forms ↔ ∀ form ∈ forms, form.Fits := by
  induction forms with
  | nil => simp [AllFit, tokensOf]
  | cons form rest ih => rw [allFit_cons, ih, List.forall_mem_cons]

/-- A function fits if its token, its parameters and its body do. -/
theorem fits_function {token : Token} {parameters : List Form} {body : Form} :
    (Form.function token parameters body).Fits ↔ token.Fits ∧ AllFit parameters ∧ body.Fits := by
  simp only [Fits, tokens, List.forall_mem_cons, List.forall_mem_append, AllFit]

/-- A form of one token fits if the token does. -/
theorem fits_of_singleton {token : Token} {form : Form} (h : form.tokens = [token]) :
    form.Fits ↔ token.Fits := by
  rw [Fits, h, List.forall_mem_singleton]

end Form

/-- An event with an index of 64 bits, if it has one. -/
def Board.Event.Fits {ρ : Type} : Board.Event ρ → Prop
  | .messageAppended index => index < UInt64.size
  | _ => True

/-- A document that stands somewhere in another one. -/
inductive Json.Part (part : Json) : Json → Prop where
  | self : Part part part
  | item {item : Json} {items : List Json} (hmem : item ∈ items) (h : Part part item) :
      Part part (.list items)
  | field {name : String} {value : Json} {fields : List (String × Json)}
      (hmem : (name, value) ∈ fields) (h : Part part value) : Part part (.object fields)

/-! ### Places and tokens -/

/-- Something that is made of what was read. -/
theorem Json.bind_some_of_read {α β : Type} {read : Option α} {a : α} (h : read = some a)
    (make : α → β) : (read.bind fun a => some (make a)) = some (make a) := by
  rw [h, Option.bind_some]

/-- A number is a word if it is less than `2 ^ 64`. -/
theorem Json.word?_nat {n : Nat} :
    (Json.nat n).word? = if n < UInt64.size then some n else none := by
  simp [Json.nat, Json.word?]

/-- Words are less than `2 ^ 64`. -/
theorem Json.lt_of_word? {document : Json} {n : Nat} (h : document.word? = some n) :
    n < UInt64.size := by
  cases document with
  | int value =>
      rw [word?] at h
      split at h
      · rename_i hrange
        cases h
        exact hrange.2
      · cases h
  | null | bool | decimal | str | unreadable | list | object => cases h

/-- A place is read back from its document. -/
theorem Position.ofJson?_toJson {p : Position} (h : p.Fits) : ofJson? p.toJson = some p := by
  have hrecord : p.toJson.record? ["line", "col"] = some [.nat p.line, .nat p.col] := rfl
  rw [ofJson?, hrecord]
  simp [Json.word?_nat, h.1, h.2]

/-- Only places that fit are read from documents. -/
theorem Position.fits_of_ofJson? {document : Json} {p : Position} (h : ofJson? document = some p) :
    p.Fits := by
  obtain ⟨values, -, h⟩ := Option.bind_eq_some_iff.mp h
  split at h
  · obtain ⟨line, hline, h⟩ := Option.bind_eq_some_iff.mp h
    obtain ⟨col, hcol, h⟩ := Option.bind_eq_some_iff.mp h
    cases h
    exact ⟨Json.lt_of_word? hline, Json.lt_of_word? hcol⟩
  · cases h

/-- A kind of token is read back from its name. -/
theorem Token.Kind.ofName?_name (kind : Kind) : ofName? kind.name = some kind := by
  cases kind <;> decide

/-- A token is read back from its document. -/
theorem Token.ofJson?_toJson {t : Token} (h : t.Fits) : ofJson? t.toJson = some t := by
  have hrecord : t.toJson.record? ["value", "kind", "start", "end"] =
      some [.str t.value, .str t.kind.name, t.start.toJson, t.stop.toJson] := rfl
  rw [ofJson?, hrecord]
  simp [Json.text?, Json.constant?, Kind.ofName?_name, Position.ofJson?_toJson h.1,
    Position.ofJson?_toJson h.2]

/-- Only tokens that fit are read from documents. -/
theorem Token.fits_of_ofJson? {document : Json} {t : Token} (h : ofJson? document = some t) :
    t.Fits := by
  obtain ⟨values, -, h⟩ := Option.bind_eq_some_iff.mp h
  split at h
  · obtain ⟨value, -, h⟩ := Option.bind_eq_some_iff.mp h
    obtain ⟨name, -, h⟩ := Option.bind_eq_some_iff.mp h
    obtain ⟨kind, -, h⟩ := Option.bind_eq_some_iff.mp h
    obtain ⟨start, hstart, h⟩ := Option.bind_eq_some_iff.mp h
    obtain ⟨stop, hstop, h⟩ := Option.bind_eq_some_iff.mp h
    cases h
    exact ⟨Position.fits_of_ofJson? hstart, Position.fits_of_ofJson? hstop⟩
  · cases h

/-! ### Forms -/

namespace Form

/-- A form is nested less deeply than its document. -/
theorem depth_tagged (type : String) (value : Json) :
    (tagged type value).depth = 1 + value.depth := by
  simp [tagged, Json.depth, Json.depthOfFields]

mutual

/-- **A form that is written is read back**, if the reader may go as deep as its document does. -/
theorem ofJsonWithin?_toJson {form : Form} (h : form.Fits) {fuel : Nat}
    (hfuel : form.toJson.depth < fuel) : ofJsonWithin? fuel form.toJson = some form := by
  cases fuel with
  | zero => exact absurd hfuel (Nat.not_lt_zero _)
  | succ fuel =>
      cases form with
      | word token | string token | number token | boolean token =>
          have htoken := Token.ofJson?_toJson ((fits_of_singleton rfl).mp h)
          exact Json.bind_some_of_read htoken _
      | call items | list items =>
          rw [toJson, depth_tagged, Json.depth] at hfuel
          have hitems : (toJsonAll items).mapM (ofJsonWithin? fuel) = some items :=
            mapM_toJsonAll h (by omega)
          exact Json.bind_some_of_read hitems _
      | function token parameters body =>
          obtain ⟨htoken, hparameters, hbody⟩ := fits_function.mp h
          rw [toJson, depth_tagged] at hfuel
          simp only [Json.depth, Json.depthOfFields] at hfuel
          have hread := Token.ofJson?_toJson htoken
          have hitems : (toJsonAll parameters).mapM (ofJsonWithin? fuel) = some parameters :=
            mapM_toJsonAll hparameters (by omega)
          have hinside : ofJsonWithin? fuel body.toJson = some body :=
            ofJsonWithin?_toJson hbody (by omega)
          show (Token.ofJson? token.toJson).bind (fun token =>
            ((toJsonAll parameters).mapM (ofJsonWithin? fuel)).bind fun parameters =>
              (ofJsonWithin? fuel body.toJson).bind fun body =>
                some (Form.function token parameters body)) = _
          rw [hread, hitems, hinside]
          rfl

/-- Forms that are written are read back one by one. -/
theorem mapM_toJsonAll {forms : List Form} (h : AllFit forms) {fuel : Nat}
    (hfuel : Json.depthOfItems (toJsonAll forms) < fuel) :
    (toJsonAll forms).mapM (ofJsonWithin? fuel) = some forms := by
  cases forms with
  | nil => rfl
  | cons form rest =>
      obtain ⟨hform, hrest⟩ := allFit_cons.mp h
      rw [toJsonAll, Json.depthOfItems] at hfuel
      have hread : ofJsonWithin? fuel form.toJson = some form :=
        ofJsonWithin?_toJson hform (by omega)
      have hreadAll : (toJsonAll rest).mapM (ofJsonWithin? fuel) = some rest :=
        mapM_toJsonAll hrest (by omega)
      rw [toJsonAll, List.mapM_cons, hread, hreadAll]
      rfl

end

/-- A form of any depth is read back from its document. -/
theorem ofJson?_toJson {form : Form} (h : form.Fits) : ofJson? form.toJson = some form :=
  ofJsonWithin?_toJson h (Nat.lt_succ_self _)

/-- What is read one by one is as the reader makes it. -/
theorem forall_of_mapM {wanted : Form → Prop} {read : Json → Option Form}
    (h : ∀ document form, read document = some form → wanted form) {documents : List Json}
    {forms : List Form} (hread : documents.mapM read = some forms) :
    ∀ form ∈ forms, wanted form := by
  induction documents generalizing forms with
  | nil =>
      cases hread
      exact nofun
  | cons document rest ih =>
      rw [List.mapM_cons] at hread
      obtain ⟨form, hform, hread⟩ := Option.bind_eq_some_iff.mp hread
      obtain ⟨others, hothers, hread⟩ := Option.bind_eq_some_iff.mp hread
      cases hread
      exact List.forall_mem_cons.mpr ⟨h document form hform, ih hothers⟩

/-- A form that is made of a token that was read. -/
theorem fits_of_token {document : Json} {form : Form} {make : Token → Form}
    (hmake : ∀ token, (make token).tokens = [token])
    (h : (do pure (make (← Token.ofJson? document))) = some form) : form.Fits := by
  obtain ⟨token, htoken, h⟩ := Option.bind_eq_some_iff.mp h
  cases h
  exact (fits_of_singleton (hmake token)).mpr (Token.fits_of_ofJson? htoken)

/-- A form that is made of forms that were read. -/
theorem fits_of_items {read : Json → Option Form}
    (hread : ∀ document form, read document = some form → form.Fits) {document : Json}
    {form : Form} {make : List Form → Form} (hmake : ∀ items, (make items).tokens = tokensOf items)
    (h : (do pure (make (← (← document.items?).mapM read))) = some form) : form.Fits := by
  obtain ⟨documents, -, h⟩ := Option.bind_eq_some_iff.mp h
  obtain ⟨items, hitems, h⟩ := Option.bind_eq_some_iff.mp h
  cases h
  rw [Fits, hmake]
  exact allFit_iff.mpr (forall_of_mapM hread hitems)

/-- No form is read that does not fit. -/
theorem fits_of_ofJsonWithin? {fuel : Nat} {document : Json} {form : Form}
    (h : ofJsonWithin? fuel document = some form) : form.Fits := by
  induction fuel generalizing document form with
  | zero => cases h
  | succ fuel ih =>
      rw [ofJsonWithin?] at h
      obtain ⟨⟨type, content⟩, -, h⟩ := Option.bind_eq_some_iff.mp h
      obtain ⟨value, -, h⟩ := Option.bind_eq_some_iff.mp h
      split at h
      · exact fits_of_token (fun _ => rfl) h
      · exact fits_of_token (fun _ => rfl) h
      · exact fits_of_token (fun _ => rfl) h
      · exact fits_of_token (fun _ => rfl) h
      · exact fits_of_items (fun _ _ => ih) (fun _ => rfl) h
      · exact fits_of_items (fun _ _ => ih) (fun _ => rfl) h
      · obtain ⟨values, -, h⟩ := Option.bind_eq_some_iff.mp h
        split at h
        · obtain ⟨token, htoken, h⟩ := Option.bind_eq_some_iff.mp h
          obtain ⟨documents, -, h⟩ := Option.bind_eq_some_iff.mp h
          obtain ⟨parameters, hparameters, h⟩ := Option.bind_eq_some_iff.mp h
          obtain ⟨body, hbody, h⟩ := Option.bind_eq_some_iff.mp h
          cases h
          have hall : AllFit parameters :=
            allFit_iff.mpr (forall_of_mapM (fun _ _ => ih) hparameters)
          exact fits_function.mpr ⟨Token.fits_of_ofJson? htoken, hall, ih hbody⟩
        · cases h
      · cases h

mutual

/-- The document of a form has those of its tokens in it. -/
theorem part_toJson {form : Form} {token : Token} (h : token ∈ form.tokens) :
    token.toJson.Part form.toJson := by
  have hvalue : ∀ {type : String} {value : Json}, token.toJson.Part value →
      token.toJson.Part (tagged type value) :=
    fun hpart => .field (List.mem_cons_of_mem _ List.mem_cons_self) hpart
  cases form with
  | word own | string own | number own | boolean own =>
      rw [List.mem_singleton.mp h]
      exact .field (List.mem_cons_of_mem _ List.mem_cons_self) .self
  | call items | list items =>
      obtain ⟨document, hdocument, hpart⟩ := exists_part_toJsonAll h
      exact hvalue (.item hdocument hpart)
  | function own parameters body =>
      apply hvalue
      rcases List.mem_cons.mp h with rfl | h
      · exact .field List.mem_cons_self .self
      · rcases List.mem_append.mp h with h | h
        · obtain ⟨document, hdocument, hpart⟩ := exists_part_toJsonAll h
          exact .field (List.mem_cons_of_mem _ List.mem_cons_self) (.item hdocument hpart)
        · have hmem : ("body", body.toJson) ∈ [("token", own.toJson),
              ("arguments", .list (toJsonAll parameters)), ("body", body.toJson)] := by simp
          exact .field hmem (part_toJson h)

/-- Every token of some forms has its document among the parts of theirs. -/
theorem exists_part_toJsonAll {forms : List Form} {token : Token} (h : token ∈ tokensOf forms) :
    ∃ document ∈ toJsonAll forms, token.toJson.Part document := by
  cases forms with
  | nil => cases h
  | cons form rest =>
      rcases List.mem_append.mp h with h | h
      · exact ⟨form.toJson, List.mem_cons_self, part_toJson h⟩
      · obtain ⟨document, hdocument, hpart⟩ := exists_part_toJsonAll h
        exact ⟨document, List.mem_cons_of_mem _ hdocument, hpart⟩

end

end Form

/-! ### Names of runs -/

namespace Uuid

/-- The document of an identifier: its text. -/
def toJson (uuid : Uuid) : Json := .str uuid.render

/-- The identifier that a document describes. -/
def ofJson? (document : Json) : Option Uuid := document.text?.bind read?

/-- A hexadecimal digit is read back from its character. -/
theorem digit?_digitChar (digit : Fin 16) : digit? (Nat.digitChar digit.val) = some digit := by
  revert digit
  decide

/-- A digit is no hyphen, no brace and not the first letter of the mark of a resource name. -/
theorem digitChar_ne (digit : Fin 16) :
    Nat.digitChar digit.val ≠ '-' ∧ Nat.digitChar digit.val ≠ '\x7b' ∧
      (Nat.digitChar digit.val).toLower ≠ 'u' := by
  revert digit
  decide

/-- Without the hyphens there is what there was. -/
theorem filter_hyphenate {cs : List Char} (h : ∀ c ∈ cs, c ≠ '-') :
    (hyphenate cs).filter (· ≠ '-') = cs := by
  have hkept : ∀ part : List Char, (∀ c ∈ part, c ∈ cs) → part.filter (· ≠ '-') = part := by
    intro part hpart
    exact List.filter_eq_self.mpr fun c hmem => by simpa using h c (hpart c hmem)
  have htake : ∀ n k, ((cs.drop n).take k).filter (· ≠ '-') = (cs.drop n).take k := fun n k =>
    hkept _ fun c hmem => List.mem_of_mem_drop (List.mem_of_mem_take hmem)
  have hfirst : (cs.take 8).filter (· ≠ '-') = cs.take 8 := htake 0 8
  have hlast : (cs.drop 20).filter (· ≠ '-') = cs.drop 20 :=
    hkept _ fun c hmem => List.mem_of_mem_drop hmem
  have hhyphen : ∀ rest : List Char,
      ('-' :: rest).filter (· ≠ '-') = rest.filter (· ≠ '-') := fun _ => rfl
  have hjoin : ∀ n k, (cs.drop n).take k ++ cs.drop (n + k) = cs.drop n := by
    intro n k
    rw [← List.drop_drop, List.take_append_drop]
  simp only [hyphenate, List.filter_append, hhyphen, hfirst, htake, hlast]
  rw [hjoin 16 4, hjoin 12 4, hjoin 8 4, List.take_append_drop]

/-- Four hyphens are put among the digits. -/
theorem length_hyphenate {cs : List Char} (h : cs.length = 32) : (hyphenate cs).length = 36 := by
  simp [hyphenate, h]

/-- Digits are read back one by one. -/
theorem mapM_digit? (digits : List (Fin 16)) :
    (digits.map fun digit => Nat.digitChar digit.val).mapM digit? = some digits := by
  induction digits with
  | nil => rfl
  | cons digit rest ih => simp [digit?_digitChar, ih]

/-- The characters of an identifier without hyphens. -/
def plain (uuid : Uuid) : List Char := uuid.digits.map fun digit => Nat.digitChar digit.val

/-- An identifier is read back from its digits with the hyphens among them. -/
theorem ofHyphenated?_hyphenate (uuid : Uuid) :
    ofHyphenated? (hyphenate uuid.plain) = some uuid := by
  have hplain : (hyphenate uuid.plain).filter (· ≠ '-') = uuid.plain := by
    apply filter_hyphenate
    intro c hmem
    obtain ⟨digit, -, rfl⟩ := List.mem_map.mp hmem
    exact (digitChar_ne digit).1
  have hdigits : uuid.plain.mapM digit? = some uuid.digits := mapM_digit? uuid.digits
  simp only [ofHyphenated?, hplain, if_true, ofDigits?, hdigits, dif_pos uuid.length_digits]

/-- A text that is longer than the digits, and neither in braces nor behind a mark, has to have its
hyphens in their places. -/
theorem read?_ofList {cs : List Char} (hbrace : cs.head? ≠ some '\x7b')
    (hmark : (cs.take resourceMark.length).map Char.toLower ≠ resourceMark)
    (hlong : cs.length ≠ 32) : read? (String.ofList cs) = ofHyphenated? cs := by
  rw [read?, String.toList_ofList]
  simp only [hmark, hlong, if_false]
  exact if_neg fun h => hbrace h.1

/-- **An identifier that is written is read back.** -/
theorem read?_render (uuid : Uuid) : read? uuid.render = some uuid := by
  have hlength : uuid.plain.length = 32 := (List.length_map _).trans uuid.length_digits
  obtain ⟨first, rest, hfirst⟩ : ∃ first rest, uuid.digits = first :: rest := by
    apply List.exists_cons_of_ne_nil
    intro hnil
    simp [plain, hnil] at hlength
  have hhead : hyphenate uuid.plain =
      Nat.digitChar first.val :: (hyphenate uuid.plain).tail := by
    rw [plain, hfirst]
    rfl
  have hrender : uuid.render = String.ofList (hyphenate uuid.plain) := rfl
  rw [hrender, read?_ofList, ofHyphenated?_hyphenate]
  · rw [hhead]
    intro hbrace
    exact (digitChar_ne first).2.1 (Option.some.inj hbrace)
  · rw [hhead]
    intro hmark
    exact (digitChar_ne first).2.2 (List.cons.inj hmark).1
  · rw [length_hyphenate hlength]
    decide

/-- An identifier is read back from its document. -/
theorem ofJson?_toJson (uuid : Uuid) : ofJson? uuid.toJson = some uuid := read?_render uuid

/-- An identifier is read from a document in the same way when the fields of the document are put in
order. -/
theorem ofJson?_sortFields (document : Json) :
    ofJson? document.sortFields = ofJson? document := by
  rw [ofJson?, ofJson?, Json.text?_sortFields]

end Uuid

/-! ### Statuses and events -/

/-- A status is read back from its document, with the reason of a failure. -/
theorem Engine.Status.ofJson?_toJson (status : Status) : ofJson? status.toJson = some status := by
  cases status <;> rfl

namespace Board.Event

/-- An event is read back from its document. -/
theorem ofJson?_toJson {event : Event Uuid} (h : event.Fits) :
    ofJson? Uuid.ofJson? (event.toJson Uuid.toJson) = some event := by
  cases event with
  | artifactsReplaced run | runFailed run => exact Json.bind_some_of_read run.ofJson?_toJson _
  | messagesCleared => rfl
  | messageAppended index =>
      have hindex : (Json.nat index).word? = some index := by
        rw [Json.word?_nat]
        exact if_pos h
      exact Json.bind_some_of_read hindex _

/-- An event that is made of the only field of a record. -/
theorem fits_of_field {α : Type} {read : Json → Option α} {make : α → Event Uuid} {name : String}
    {document : Json} {event : Event Uuid}
    (h : (do
      match ← document.record? [name] with
      | [value] => return make (← read value)
      | _ => none) = some event)
    (hmake : ∀ value a, read value = some a → (make a).Fits) : event.Fits := by
  obtain ⟨values, -, h⟩ := Option.bind_eq_some_iff.mp h
  split at h
  · obtain ⟨a, hread, h⟩ := Option.bind_eq_some_iff.mp h
    cases h
    exact hmake _ a hread
  · cases h

/-- No event is read that does not fit. -/
theorem fits_of_ofJson? {document : Json} {event : Event Uuid}
    (h : ofJson? Uuid.ofJson? document = some event) : event.Fits := by
  obtain ⟨⟨change, rest⟩, -, h⟩ := Option.bind_eq_some_iff.mp h
  simp only at h
  split at h
  · exact fits_of_field h fun _ _ _ => trivial
  · exact fits_of_field h fun _ _ hindex => Json.lt_of_word? hindex
  · split at h
    · cases h
    · cases h
      trivial
  · exact fits_of_field h fun _ _ _ => trivial
  · cases h

/-- The order of the fields in an event's document does not matter. -/
theorem ofJson?_of_written {event : Event Uuid} {document : Json}
    (h : document.SameValue (event.toJson Uuid.toJson)) :
    ofJson? Uuid.ofJson? document = ofJson? Uuid.ofJson? (event.toJson Uuid.toJson) := by
  cases event <;> exact ofJson?_of_sameValue Uuid.ofJson?_sortFields h

end Board.Event

/-! ### Everything that is written -/

/-- **What is written is read back**, from every document of the value that was written: forms,
tokens and events if their numbers are of 64 bits, and statuses always. Two forms never have
documents of the same value, and the document of a form has that of every token of the form in
it. -/
theorem wire_round_trip :
    (∀ (form : Form) (document : Json), document.SameValue form.toJson →
      (Form.ofJson? document = some form ↔ form.Fits)) ∧
    (∀ (token : Token) (document : Json), document.SameValue token.toJson →
      (Token.ofJson? document = some token ↔ token.Fits)) ∧
    (∀ (status : Engine.Status) (document : Json), document.SameValue status.toJson →
      Engine.Status.ofJson? document = some status) ∧
    (∀ (event : Board.Event Uuid) (document : Json),
      document.SameValue (event.toJson Uuid.toJson) →
      (Board.Event.ofJson? Uuid.ofJson? document = some event ↔ event.Fits)) ∧
    (∀ form other : Form, form.Fits → other.Fits → form.toJson.SameValue other.toJson →
      form = other) ∧
    ∀ form : Form, ∀ token ∈ form.tokens, token.toJson.Part form.toJson := by
  refine ⟨?_, ?_, ?_, ?_, ?_, fun _ _ => Form.part_toJson⟩
  · intro form document hsame
    rw [hsame.read_eq Form.ofJson?_sortFields]
    exact ⟨Form.fits_of_ofJsonWithin?, Form.ofJson?_toJson⟩
  · intro token document hsame
    rw [hsame.read_eq Token.ofJson?_sortFields]
    exact ⟨Token.fits_of_ofJson?, Token.ofJson?_toJson⟩
  · intro status document hsame
    rw [hsame.read_eq Engine.Status.ofJson?_sortFields]
    exact status.ofJson?_toJson
  · intro event document hsame
    rw [Board.Event.ofJson?_of_written hsame]
    exact ⟨Board.Event.fits_of_ofJson?, Board.Event.ofJson?_toJson⟩
  · intro form other hform hother hsame
    have hread := hsame.read_eq Form.ofJson?_sortFields
    rw [Form.ofJson?_toJson hform, Form.ofJson?_toJson hother] at hread
    exact Option.some.inj hread

/-- A function that puts its argument into a list. -/
def Form.boxing : Form :=
  .function ⟨"fn", .word, ⟨1, 1⟩, ⟨1, 2⟩⟩ [.word ⟨"x", .word, ⟨1, 5⟩, ⟨1, 5⟩⟩]
    (.list [.word ⟨"x", .word, ⟨1, 9⟩, ⟨1, 9⟩⟩])

/-- It is read back also when the fields of its document are sorted. -/
theorem wire_round_trip_boxing :
    Form.boxing.toJson.sortFields.SameValue Form.boxing.toJson ∧ Form.boxing.Fits ∧
      Form.ofJson? Form.boxing.toJson.sortFields = some Form.boxing := by
  have hsame : Form.boxing.toJson.sortFields.SameValue Form.boxing.toJson := by rfl
  have hfits : Form.boxing.Fits := by
    simp [Form.Fits, Form.boxing, Form.tokens, Form.tokensOf, Token.Fits, Position.Fits,
      UInt64.size]
  exact ⟨hsame, hfits, (wire_round_trip.1 _ _ hsame).mpr hfits⟩

end Workbench
