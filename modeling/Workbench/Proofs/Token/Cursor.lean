import Workbench.Token.Lexer

/-!
# Cutting a text with a cursor

`Token.scan` decides at the first character of a token how many characters belong to it. A scanner can
as well keep a cursor in the text, with an index, a line and a column, and take characters one by one.
Each kind of token then has a routine of its own. It adds every character that it takes to a text and
notes the place of the last one, and most routines test the first character, which has decided for the
routine, once more.

**Theorem** (`Cursor.tokenize_eq`): both give the same tokens, with the same places, for every text.

* A draft is what has been taken since a token began (`Draft.since`); taking characters only makes
  that longer (`Draft.take_since`, `Draft.takeWhile_since`).
* Each routine takes what `classify` says (`Cursor.lex_eq`). So it passes its first character, also
  where that is tested again, no token is empty, and the scanner comes to an end.
-/

namespace Workbench.Token

/-! ### The routines -/

/-- Where a scanner stands in a text. -/
structure Cursor where
  /-- The number of characters behind it. -/
  index : Nat := 0
  line : Nat := 1
  col : Nat := 1

/-- The place of the next character. -/
def Cursor.place (cursor : Cursor) : Position := ⟨cursor.line, cursor.col⟩

/-- Past the next character, if there is one. -/
def Cursor.advance (chars : List Char) (cursor : Cursor) : Cursor :=
  match chars[cursor.index]? with
  | some c =>
      if c = '\n' then ⟨cursor.index + 1, cursor.line + 1, 1⟩
      else ⟨cursor.index + 1, cursor.line, cursor.col + 1⟩
  | none => cursor

/-- Past a character, index and place go on together. -/
theorem Cursor.advance_eq {chars : List Char} {cursor : Cursor} {c : Char}
    (h : chars[cursor.index]? = some c) : cursor.advance chars =
      ⟨cursor.index + 1, (cursor.place.after c).line, (cursor.place.after c).col⟩ := by
  rw [Cursor.advance, h]
  unfold Position.after
  dsimp only
  split <;> rfl

/-- There is less to take past a character. -/
theorem Cursor.advance_lt {chars : List Char} {cursor : Cursor} {c : Char}
    (h : chars[cursor.index]? = some c) :
    chars.length - (cursor.advance chars).index < chars.length - cursor.index := by
  rw [Cursor.advance_eq h]
  exact Nat.sub_succ_lt_self _ _ (List.getElem?_eq_some_iff.mp h).1

/-- A token in the making. -/
structure Draft where
  /-- The characters that have been taken. -/
  text : String
  /-- The place of the last one of them. -/
  stop : Position
  cursor : Cursor

namespace Draft

/-- Nothing has been taken yet. -/
def begin (cursor : Cursor) : Draft := ⟨"", cursor.place, cursor⟩

/-- Takes one character. -/
def take (chars : List Char) (c : Char) (draft : Draft) : Draft :=
  ⟨draft.text.push c, draft.cursor.place, draft.cursor.advance chars⟩

/-- Takes characters as long as they satisfy a test. -/
def takeWhile (chars : List Char) (test : Char → Bool) (draft : Draft) : Draft :=
  match h : chars[draft.cursor.index]? with
  | some c =>
      have _ := Cursor.advance_lt h
      if test c then (draft.take chars c).takeWhile chars test else draft
  | none => draft
termination_by chars.length - draft.cursor.index

/-- The token that a draft comes to, and where the next one may begin. -/
def finish (kind : Kind) (start : Position) (draft : Draft) : Token × Cursor :=
  (⟨draft.text, kind, start, draft.stop⟩, draft.cursor)

/-- Takes the rest of a string, up to its closing quote. -/
def close (chars : List Char) (start : Position) (draft : Draft) : Token × Cursor :=
  match h : chars[draft.cursor.index]? with
  | some c =>
      have _ := Cursor.advance_lt h
      if c = '"' then (draft.take chars c).finish .string start
      else (draft.take chars c).close chars start
  | none => draft.finish .unknown start
termination_by chars.length - draft.cursor.index

section Equations

variable {chars : List Char} {draft : Draft} {c : Char}

/-- At the end of the text nothing more is taken. -/
theorem takeWhile_of_none (h : chars[draft.cursor.index]? = none) (test : Char → Bool) :
    draft.takeWhile chars test = draft := by
  rw [takeWhile]
  split
  · rename_i hsome
    rw [h] at hsome
    cases hsome
  · rfl

/-- The next character is taken if it satisfies the test, and then those behind it. -/
theorem takeWhile_of_some (h : chars[draft.cursor.index]? = some c) (test : Char → Bool) :
    draft.takeWhile chars test =
      if test c then (draft.take chars c).takeWhile chars test else draft := by
  rw [takeWhile]
  split
  · rename_i hsome
    obtain rfl := Option.some.inj (h.symm.trans hsome)
    rfl
  · rename_i hnone
    exact absurd (h.symm.trans hnone) nofun

/-- A string is not closed at the end of the text. -/
theorem close_of_none (h : chars[draft.cursor.index]? = none) (start : Position) :
    draft.close chars start = draft.finish .unknown start := by
  rw [close]
  split
  · rename_i hsome
    rw [h] at hsome
    cases hsome
  · rfl

/-- The next character closes a string or belongs to it. -/
theorem close_of_some (h : chars[draft.cursor.index]? = some c) (start : Position) :
    draft.close chars start =
      if c = '"' then (draft.take chars c).finish .string start
      else (draft.take chars c).close chars start := by
  rw [close]
  split
  · rename_i hsome
    obtain rfl := Option.some.inj (h.symm.trans hsome)
    rfl
  · rename_i hnone
    exact absurd (h.symm.trans hnone) nofun

end Equations

end Draft

namespace Cursor

variable (chars : List Char) (cursor : Cursor)

/-- A token of one character. -/
def lexSingle (kind : Kind) (c : Char) : Token × Cursor :=
  ((Draft.begin cursor).take chars c).finish kind cursor.place

/-- A text between quotes. -/
def lexString : Token × Cursor :=
  ((Draft.begin cursor).take chars '"').close chars cursor.place

/-- A comment, up to the end of its line. -/
def lexComment : Token × Cursor :=
  ((Draft.begin cursor).takeWhile chars (· ≠ '\n')).finish .comment cursor.place

/-- A number, with its sign. -/
def lexNumber : Token × Cursor :=
  let draft := Draft.begin cursor
  let signed := if chars[cursor.index]? = some '-' then draft.take chars '-' else draft
  (signed.takeWhile chars Text.isAlphanumeric).finish .number cursor.place

/-- A word. -/
def lexWord : Token × Cursor :=
  ((Draft.begin cursor).takeWhile chars isWordPart).finish .word cursor.place

/-- The token that starts with the next character, `c`. -/
def lex (c : Char) : Token × Cursor :=
  match Kind.ofDelimiter? c with
  | some kind => lexSingle chars cursor kind c
  | none =>
      if c = '"' then lexString chars cursor
      else if c = ';' then lexComment chars cursor
      else if c = '-' ∧ chars[cursor.index + 1]?.any Char.isDigit then lexNumber chars cursor
      else if c.isDigit then lexNumber chars cursor
      else if isWordStart c then lexWord chars cursor
      else lexSingle chars cursor .unknown c

end Cursor

/-! ### What a draft holds -/

/-- The cursor when some characters have been taken. -/
def Cursor.past (cursor : Cursor) (read : List Char) : Cursor :=
  ⟨cursor.index + read.length, (cursor.place.afterAll read).line, (cursor.place.afterAll read).col⟩

/-- The draft when some characters have been taken since a token began. -/
def Draft.since (cursor : Cursor) (read : List Char) : Draft :=
  ⟨String.ofList read, cursor.place.afterAll read.dropLast, cursor.past read⟩

/-- The token that some characters spell, and the cursor behind them. -/
def Cursor.cut (cursor : Cursor) (kind : Kind) (spelling : List Char) : Token × Cursor :=
  (spelled cursor.place kind spelling, cursor.past spelling)

section Draft

variable {chars cs read : List Char} {cursor : Cursor} {c : Char}

/-- What is next in a text, and what is left behind that. -/
theorem drop_eq_cons {index : Nat} (h : chars.drop index = c :: cs) :
    chars[index]? = some c ∧ chars.drop (index + 1) = cs := by
  constructor
  · rw [← List.head?_drop, h]
    rfl
  · rw [← List.tail_drop, h]
    rfl

/-- Nothing is next where nothing is left. -/
theorem getElem?_of_drop_eq_nil {index : Nat} (h : chars.drop index = []) : chars[index]? = none :=
  List.getElem?_eq_none_iff.mpr (List.drop_eq_nil_iff.mp h)

/-- **One more character.** -/
theorem Draft.take_since (h : chars[cursor.index + read.length]? = some c) :
    (Draft.since cursor read).take chars c = Draft.since cursor (read ++ [c]) := by
  have htext : (String.ofList read).push c = String.ofList (read ++ [c]) := by
    apply String.toList_injective
    simp
  have hcursor : (cursor.past read).advance chars = cursor.past (read ++ [c]) := by
    have hnext : chars[(cursor.past read).index]? = some c := h
    rw [Cursor.advance_eq hnext, Cursor.past, Cursor.past, Position.afterAll_append,
      List.length_append]
    rfl
  rw [Draft.since, Draft.since, List.dropLast_concat, ← htext, ← hcursor]
  rfl

/-- A draft that is finished. -/
theorem Draft.finish_since (kind : Kind) :
    (Draft.since cursor read).finish kind cursor.place = cursor.cut kind read := rfl

/-- What is left when one more character has been taken. -/
theorem drop_since (hrest : chars.drop (cursor.index + read.length) = c :: cs) :
    chars.drop (cursor.index + (read ++ [c]).length) = cs := by
  rw [List.length_append]
  exact (drop_eq_cons hrest).2

/-- **All characters that satisfy a test.** -/
theorem Draft.takeWhile_since (test : Char → Bool)
    (hrest : chars.drop (cursor.index + read.length) = cs) :
    (Draft.since cursor read).takeWhile chars test =
      Draft.since cursor (read ++ cs.takeWhile test) := by
  induction cs generalizing read with
  | nil =>
      have hnext : chars[(Draft.since cursor read).cursor.index]? = none :=
        getElem?_of_drop_eq_nil hrest
      rw [Draft.takeWhile_of_none hnext, List.takeWhile_nil, List.append_nil]
  | cons d ds ih =>
      have hnext : chars[(Draft.since cursor read).cursor.index]? = some d := (drop_eq_cons hrest).1
      rw [Draft.takeWhile_of_some hnext, List.takeWhile_cons]
      split
      · rw [Draft.take_since hnext, ih (drop_since hrest), List.append_assoc]
        rfl
      · rw [List.append_nil]

/-- **The rest of a string.** -/
theorem Draft.close_since (hrest : chars.drop (cursor.index + read.length) = cs) :
    (Draft.since cursor read).close chars cursor.place =
      if countWhile (· ≠ '"') cs < cs.length then
        cursor.cut .string (read ++ cs.take (countWhile (· ≠ '"') cs + 1))
      else cursor.cut .unknown (read ++ cs.take (countWhile (· ≠ '"') cs)) := by
  induction cs generalizing read with
  | nil =>
      have hnext : chars[(Draft.since cursor read).cursor.index]? = none :=
        getElem?_of_drop_eq_nil hrest
      rw [Draft.close_of_none hnext]
      simp only [List.take_nil, List.append_nil]
      rfl
  | cons d ds ih =>
      have hnext : chars[(Draft.since cursor read).cursor.index]? = some d := (drop_eq_cons hrest).1
      rw [Draft.close_of_some hnext, Draft.take_since hnext]
      by_cases hquote : d = '"'
      · have hcount : countWhile (· ≠ '"') (d :: ds) = 0 := by simp [countWhile, hquote]
        have hmore : 0 < (d :: ds).length := Nat.succ_pos _
        rw [if_pos hquote, hcount, if_pos hmore]
        rfl
      · have hcount : countWhile (· ≠ '"') (d :: ds) = countWhile (· ≠ '"') ds + 1 := by
          simp [countWhile, hquote]
        rw [if_neg hquote, ih (drop_since hrest), hcount]
        simp only [List.append_assoc, List.take_succ_cons, List.length_cons,
          Nat.add_lt_add_iff_right]
        rfl

end Draft

/-! ### What a routine takes -/

/-- The characters at the front that satisfy a test, taken by their number. -/
theorem take_countWhile (test : Char → Bool) (cs : List Char) :
    cs.take (countWhile test cs) = cs.takeWhile test :=
  (List.prefix_iff_eq_take.mp (List.takeWhile_prefix test)).symm

/-- A word can go on with what it can start with. -/
theorem isWordPart_of_isWordStart {c : Char} (h : isWordStart c = true) : isWordPart c = true := by
  simp only [isWordStart, isWordPart, Text.isAlphanumeric, Bool.or_eq_true] at h ⊢
  exact h.imp_left .inl

namespace Cursor

variable {chars cs : List Char} {cursor : Cursor} {c : Char}

/-- The first character of a token is taken. -/
theorem take_begin (h : chars.drop cursor.index = c :: cs) :
    (Draft.begin cursor).take chars c = Draft.since cursor [c] := by
  have hnext : chars[cursor.index + ([] : List Char).length]? = some c := (drop_eq_cons h).1
  exact Draft.take_since hnext

/-- A routine that tests the first character once more takes it again. -/
theorem takeWhile_begin (h : chars.drop cursor.index = c :: cs) {test : Char → Bool}
    (htest : test c = true) :
    (Draft.begin cursor).takeWhile chars test =
      Draft.since cursor (c :: cs.take (countWhile test cs)) := by
  have hrest : chars.drop (cursor.index + ([] : List Char).length) = c :: cs := h
  have htake : (Draft.begin cursor).takeWhile chars test =
      Draft.since cursor ((c :: cs).takeWhile test) := Draft.takeWhile_since test hrest
  rw [htake, List.takeWhile_cons_of_pos htest, take_countWhile]

/-- A token of one character is that character. -/
theorem lexSingle_eq (h : chars.drop cursor.index = c :: cs) (kind : Kind) :
    lexSingle chars cursor kind c = cursor.cut kind [c] := by
  rw [lexSingle, take_begin h, Draft.finish_since]

/-- A string goes up to its closing quote; without one it is of unknown kind. -/
theorem lexString_eq (h : chars.drop cursor.index = '"' :: cs) :
    lexString chars cursor =
      if countWhile (· ≠ '"') cs < cs.length then
        cursor.cut .string ('"' :: cs.take (countWhile (· ≠ '"') cs + 1))
      else cursor.cut .unknown ('"' :: cs.take (countWhile (· ≠ '"') cs)) := by
  rw [lexString, take_begin h]
  exact Draft.close_since (drop_eq_cons h).2

/-- A comment goes up to the end of its line. -/
theorem lexComment_eq (h : chars.drop cursor.index = ';' :: cs) :
    lexComment chars cursor =
      cursor.cut .comment (';' :: cs.take (countWhile (· ≠ '\n') cs)) := by
  rw [lexComment, takeWhile_begin h (by decide)]
  rfl

/-- A word starts with a character that it can also go on with. -/
theorem lexWord_eq (h : chars.drop cursor.index = c :: cs) (hstart : isWordStart c = true) :
    lexWord chars cursor = cursor.cut .word (c :: cs.take (countWhile isWordPart cs)) := by
  rw [lexWord, takeWhile_begin h (isWordPart_of_isWordStart hstart)]
  rfl

/-- A number starts with a sign, which is taken without a test, or with a digit. -/
theorem lexNumber_eq (h : chars.drop cursor.index = c :: cs) (hstart : c = '-' ∨ c.isDigit = true) :
    lexNumber chars cursor =
      cursor.cut .number (c :: cs.take (countWhile Text.isAlphanumeric cs)) := by
  obtain ⟨hnext, hbehind⟩ := drop_eq_cons h
  rw [lexNumber, hnext]
  by_cases hsign : c = '-'
  · subst hsign
    rw [if_pos rfl, take_begin h, Draft.takeWhile_since _ hbehind, take_countWhile]
    rfl
  · have hdigit : c.isDigit = true := hstart.resolve_left hsign
    have hother : some c ≠ some '-' := fun hsame => hsign (Option.some.inj hsame)
    rw [if_neg hother, takeWhile_begin h (isAlphanumeric_of_isDigit c hdigit)]
    rfl

/-- A number starts with a digit, or with a sign right before one. -/
theorem startsNumber_iff : startsNumber c cs = true ↔
    c.isDigit = true ∨ c = '-' ∧ (cs.head?.map Char.isDigit).getD false = true := by
  simp [startsNumber]

/-- **Each routine takes what the first character and what follows it decide.** -/
theorem lex_eq (h : chars.drop cursor.index = c :: cs) :
    lex chars cursor c = cursor.cut (classify c cs).1 (c :: cs.take (classify c cs).2) := by
  have hpeek : chars[cursor.index + 1]?.any Char.isDigit =
      (cs.head?.map Char.isDigit).getD false := by
    rw [← List.head?_drop, (drop_eq_cons h).2]
    cases cs.head? <;> rfl
  unfold lex classify
  cases Kind.ofDelimiter? c with
  | some kind => exact lexSingle_eq h kind
  | none =>
      dsimp only
      rw [hpeek]
      split
      · rename_i hquote
        subst hquote
        rw [lexString_eq h]
        split <;> rfl
      · split
        · rename_i hcomment
          subst hcomment
          exact lexComment_eq h
        · by_cases hnumber : startsNumber c cs = true
          · rw [if_pos hnumber]
            rw [startsNumber_iff] at hnumber
            have hstart : c = '-' ∨ c.isDigit = true := hnumber.symm.imp_left And.left
            split
            · exact lexNumber_eq h hstart
            · rename_i hsigned
              rw [if_pos (hnumber.resolve_right hsigned)]
              exact lexNumber_eq h hstart
          · rw [if_neg hnumber]
            rw [startsNumber_iff, not_or] at hnumber
            rw [if_neg hnumber.2, if_neg hnumber.1]
            split
            · rename_i hword
              exact lexWord_eq h hword
            · exact lexSingle_eq h .unknown

/-- **Every routine goes on**: what a token starts with belongs to it. -/
theorem index_lt_lex (h : chars[cursor.index]? = some c) :
    chars.length - (lex chars cursor c).2.index < chars.length - cursor.index := by
  obtain ⟨hlength, rfl⟩ := List.getElem?_eq_some_iff.mp h
  rw [lex_eq (List.drop_eq_getElem_cons hlength)]
  change chars.length - (cursor.index + (List.length _ + 1)) < _
  omega

/-- The tokens of a text from a cursor on, after some that have been read, the last one first. -/
def run (chars : List Char) (tokens : List Token) (cursor : Cursor) : List Token :=
  match h : chars[cursor.index]? with
  | none => tokens.reverse
  | some c =>
      if Text.isBlank c then
        have _ := advance_lt h
        run chars tokens (cursor.advance chars)
      else
        have _ := index_lt_lex h
        run chars ((lex chars cursor c).1 :: tokens) (lex chars cursor c).2
termination_by chars.length - cursor.index

/-- The tokens of a source text. -/
def tokenize (source : String) : List Token := run source.toList [] {}

/-! ### Both scanners -/

/-- A blank is passed. -/
theorem scan_blank (hblank : Text.isBlank c = true) (p : Position) :
    scan p 0 (c :: cs) = scan (p.after c) 0 cs := by
  rw [scan, if_pos hblank]

/-- A token is made at its first character, and the scan goes on behind its last one. -/
theorem scan_token (hblank : ¬ Text.isBlank c = true) (cursor : Cursor) :
    scan cursor.place 0 (c :: cs) =
      let next := cursor.cut (classify c cs).1 (c :: cs.take (classify c cs).2)
      next.1 :: scan next.2.place 0 (cs.drop (classify c cs).2) := by
  rw [scan, if_neg hblank]
  dsimp only
  rw [scan_held]
  rfl

/-- The characters behind some that are taken. -/
theorem drop_past (h : chars.drop cursor.index = c :: cs) (more : Nat) :
    chars.drop (cursor.past (c :: cs.take more)).index = cs.drop more := by
  have hindex : (cursor.past (c :: cs.take more)).index = cursor.index + 1 + min more cs.length := by
    change cursor.index + ((cs.take more).length + 1) = _
    rw [List.length_take, Nat.add_right_comm, Nat.add_assoc]
  rw [hindex, ← List.drop_drop, (drop_eq_cons h).2]
  rcases Nat.le_total more cs.length with hle | hge
  · rw [Nat.min_eq_left hle]
  · rw [Nat.min_eq_right hge, List.drop_length, List.drop_eq_nil_of_le hge]

/-- The cursor and the scan find the same tokens in what is left of a text. -/
theorem run_eq (tokens : List Token) (cursor : Cursor) :
    run chars tokens cursor =
      tokens.reverse ++ scan cursor.place 0 (chars.drop cursor.index) := by
  fun_induction run chars tokens cursor with
  | case1 tokens cursor hnone =>
      rw [List.drop_eq_nil_iff.mpr (List.getElem?_eq_none_iff.mp hnone), scan, List.append_nil]
  | case2 tokens cursor c h hblank _ ih =>
      obtain ⟨hlength, rfl⟩ := List.getElem?_eq_some_iff.mp h
      rw [ih, advance_eq h, List.drop_eq_getElem_cons hlength, scan_blank hblank]
      rfl
  | case3 tokens cursor c h hblank _ ih =>
      obtain ⟨hlength, rfl⟩ := List.getElem?_eq_some_iff.mp h
      have hdrop := List.drop_eq_getElem_cons hlength
      have hnext := drop_past hdrop (classify chars[cursor.index] (chars.drop (cursor.index + 1))).2
      rw [lex_eq hdrop] at ih ⊢
      rw [ih, hdrop, scan_token hblank, ← hnext, List.reverse_cons, List.append_assoc]
      rfl

/-- **A cursor finds the tokens of a text.** -/
theorem tokenize_eq (source : String) : tokenize source = Token.tokenize source :=
  run_eq [] {}

end Cursor

end Workbench.Token
