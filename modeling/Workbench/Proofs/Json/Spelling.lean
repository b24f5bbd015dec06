import Mathlib.Data.List.TakeWhile
import Mathlib.Tactic.SplitIfs
import Workbench.Json.Printer
import Workbench.Json.Reader
import Workbench.Proofs.Text.Quoted

/-!
# Documents that are written are read back

**Theorem** (`Readable.spells_compact`, `Readable.spells_prettyAt`, with `Spells.read?`): a document
that is written on one line, or over several lines, is read as itself. This is about every document
of texts, integers of any size, numbers that keep their spelling, constants, lists and objects, with
fields of any names in the order and multiplicity in which they stand.

The reader takes one character at a time and has a draft of what has been read. A text *leads* from
one draft to another if the reader comes from one to the other by reading it (`Leads`). Only numbers
and words have no end of their own, so a text leads where it does if the next character does not
belong to them; with a text that ends by itself nothing has to be said of what follows (`Passes`). A
text *spells* a document if wherever a value is wanted it leads to where the document has taken its
place (`Spells`). The theorem is by induction on the document:

- strings: each character is read as it is written (`feedAll_escape`);
- numbers and words: `leads_number`, `leads_word`;
- brackets: lists and objects are read through the same stages (`Stages.passes`), whatever blanks
  there are between the elements.
-/

namespace Workbench.Json

/-! ### Reading one text after the other -/

/-- A character with which neither a number nor a word goes on. -/
def EndsLexeme (c : Char) : Prop := isNumberChar c = false ∧ c.isLower = false

/-- A text that is empty or starts with such a character. -/
def Breaks (cs : List Char) : Prop := ∀ c, cs.head? = some c → EndsLexeme c

/-- A text leads from one draft to another, whatever is behind it. -/
def Passes (draft : Draft) (cs : List Char) (after : Draft) : Prop :=
  ∀ rest, Reader.feedAll ⟨draft, .nothing⟩ (cs ++ rest) = Reader.feedAll ⟨after, .nothing⟩ rest

/-- A text leads from one draft to another, if the character behind it ends its last lexeme. -/
def Leads (draft : Draft) (cs : List Char) (after : Draft) : Prop :=
  ∀ c rest, EndsLexeme c →
    Reader.feedAll ⟨draft, .nothing⟩ (cs ++ c :: rest) =
      Reader.feedAll ⟨after, .nothing⟩ (c :: rest)

section Steps

variable {draft between after : Draft} {cs ds : List Char}

/-- What leads on whatever is behind it leads on in particular if a lexeme ends there. -/
theorem Passes.leads (h : Passes draft cs after) : Leads draft cs after :=
  fun c rest _ => h (c :: rest)

/-- Two texts that end by themselves may be read one after the other. -/
theorem Passes.trans (h : Passes draft cs between) (hnext : Passes between ds after) :
    Passes draft (cs ++ ds) after := by
  intro rest
  rw [List.append_assoc, h, hnext]

/-- Behind a text that ends by itself, any text may be read. -/
theorem Passes.trans_leads (h : Passes draft cs between) (hnext : Leads between ds after) :
    Leads draft (cs ++ ds) after := by
  intro c rest hc
  rw [List.append_assoc, h, hnext c rest hc]

/-- What comes next has to end the last lexeme. -/
theorem Leads.trans (h : Leads draft cs between) (hnext : Leads between ds after)
    (hbreaks : Breaks ds) : Leads draft (cs ++ ds) after := by
  intro c rest hc
  cases ds with
  | nil => rw [List.append_nil, h c rest hc, ← hnext c rest hc, List.nil_append]
  | cons d ds =>
      rw [List.append_assoc, List.cons_append, h d _ (hbreaks d rfl), ← List.cons_append,
        hnext c rest hc]

/-- A text that needs an end finds it in the next one, if there is a next one; what ends by itself
then ends the two together. -/
theorem Leads.trans_passes (h : Leads draft cs between) (hnext : Passes between ds after)
    (hbreaks : Breaks ds) (hne : ds ≠ []) : Passes draft (cs ++ ds) after := by
  intro rest
  obtain ⟨d, ds, rfl⟩ := List.exists_cons_of_ne_nil hne
  rw [List.append_assoc, List.cons_append, h d _ (hbreaks d rfl), ← List.cons_append, hnext]

/-- A character that is a lexeme of its own. -/
theorem passes_singleton {c : Char} (h : draft.start c = some ⟨after, .nothing⟩) :
    Passes draft [c] after := by
  intro rest
  simp only [List.singleton_append, Reader.feedAll, Reader.feed, h]

end Steps

/-- Only the first character counts for whether a text ends the lexeme before it. -/
theorem breaks_cons {c : Char} (h : EndsLexeme c) (cs : List Char) : Breaks (c :: cs) := by
  intro d hd
  cases hd
  exact h

/-- A text ends the lexeme before it if its first part does, or, where that is empty, its second. -/
theorem Breaks.append {cs ds : List Char} (hcs : Breaks cs) (hds : Breaks ds) :
    Breaks (cs ++ ds) := by
  cases cs with
  | nil => exact hds
  | cons c cs => exact breaks_cons (hcs c rfl) _

/-- Blanks between lexemes. -/
def IsGap (gap : String) : Prop := ∀ c ∈ gap.toList, c = ' ' ∨ c = '\n'

/-- Blanks change nothing of what has been read. -/
theorem IsGap.passes {gap : String} (h : IsGap gap) (draft : Draft) :
    Passes draft gap.toList draft := by
  intro rest
  unfold IsGap at h
  generalize gap.toList = cs at h
  induction cs with
  | nil => rfl
  | cons d cs ih =>
      have hstart : draft.start d = some ⟨draft, .nothing⟩ := by
        rcases h d List.mem_cons_self with rfl | rfl <;> rfl
      simp only [List.cons_append, Reader.feedAll, Reader.feed, hstart]
      exact ih fun e he => h e (List.mem_cons_of_mem _ he)

/-- Blanks end numbers and words. -/
theorem IsGap.breaks {gap : String} (h : IsGap gap) : Breaks gap.toList := by
  intro c hc
  rcases h c (List.mem_of_mem_head? hc) with rfl | rfl <;> exact ⟨rfl, rfl⟩

/-! ### Strings -/

/-- How a character is read that was written as `escape` writes it. -/
def unitOf (c : Char) : StringUnit :=
  if c.toNat < 0x20 ∧ c ∉ ['\x08', '\x0c', '\n', '\r', '\t'] then .code c.toNat else .char c

/-- A hexadecimal digit is read as the number that it was written for. -/
theorem hexValue_hexDigit (n : Nat) : hexValue (hexDigit n) = some (n % 16) := by
  have hall : ∀ k < 16, hexValue (Nat.digitChar k) = some k := by decide
  exact hall (n % 16) (Nat.mod_lt n (by decide))

/-- **A character in a string is read as it is written.** -/
theorem feedAll_escape (draft : Draft) (units : List StringUnit) (c : Char) (rest : List Char) :
    Reader.feedAll ⟨draft, .string units⟩ (escape c ++ rest) =
      Reader.feedAll ⟨draft, .string (unitOf c :: units)⟩ rest := by
  unfold escape
  split_ifs with hquote hbackslash hb hf hn hr ht hcontrol
  · subst hquote; rfl
  · subst hbackslash; rfl
  · subst hb; rfl
  · subst hf; rfl
  · subst hn; rfl
  · subst hr; rfl
  · subst ht; rfl
  · have hunit : unitOf c = .code c.toNat := by simp [unitOf, hcontrol, hb, hf, hn, hr, ht]
    have hvalue : 16 * (c.toNat / 16 % 16) + c.toNat % 16 = c.toNat := by omega
    have hzero : hexValue '0' = some 0 := rfl
    simp [Reader.feedAll, Reader.feed, hzero, hexValue_hexDigit, hunit, hvalue]
  · have hunit : unitOf c = .char c := by simp [unitOf, hcontrol]
    simp [Reader.feedAll, Reader.feed, hquote, hbackslash, hcontrol, hunit]

/-- The characters of a string are read one after the other, the last of them on top. -/
theorem feedAll_escapes (draft : Draft) (units : List StringUnit) (cs rest : List Char) :
    Reader.feedAll ⟨draft, .string units⟩ (cs.flatMap escape ++ rest) =
      Reader.feedAll ⟨draft, .string ((cs.map unitOf).reverse ++ units)⟩ rest := by
  induction cs generalizing units with
  | nil => rfl
  | cons c cs ih =>
      rw [List.flatMap_cons, List.append_assoc, feedAll_escape, ih]
      simp

/-- A unit below the surrogates is a character by itself, whatever follows it. -/
theorem textOfUnits_code {unit : Nat} (h : unit < 0xd800) (units : List StringUnit) :
    textOfUnits (.code unit :: units) = (textOfUnits units).map (Char.ofNat unit :: ·) := by
  -- What the unit is depends on whether another one follows it; below the surrogates it does not.
  have hsurrogate : ¬ (0xd800 ≤ unit ∧ unit < 0xdc00) := by omega
  have htrailing : ¬ (0xdc00 ≤ unit ∧ unit < 0xe000) := by omega
  have hneither : ¬ (0xd800 ≤ unit ∧ unit < 0xe000) := by omega
  rcases units with _ | ⟨c | low, units⟩
  · simp only [textOfUnits, if_neg hneither]
  · simp only [textOfUnits, if_neg hneither]
  · simp only [textOfUnits, if_neg hsurrogate, if_neg htrailing]

/-- The units of a text that was written come to the text again, also where they are control
characters written by their number. -/
theorem textOfUnits_map_unitOf (cs : List Char) : textOfUnits (cs.map unitOf) = some cs := by
  induction cs with
  | nil => rfl
  | cons c cs ih =>
      rw [List.map_cons, unitOf]
      split
      · rename_i hcontrol
        rw [textOfUnits_code (by omega), ih, Option.map_some, Char.ofNat_toNat]
      · rw [textOfUnits, ih, Option.map_some]

/-- **A string is read as it is written.** -/
theorem passes_quote {draft after : Draft} {s : String}
    (h : draft.add (.text (some s)) = some after) : Passes draft (quote s).toList after := by
  intro rest
  have htext : (textOfUnits (s.toList.map unitOf)).map String.ofList = some s := by
    rw [textOfUnits_map_unitOf, Option.map_some, String.ofList_toList]
  have hopen : draft.start '"' = some ⟨draft, .string []⟩ := rfl
  rw [quote, String.toList_ofList, List.cons_append, Reader.feedAll]
  simp only [Reader.feed, hopen, List.append_assoc]
  rw [feedAll_escapes, List.singleton_append, Reader.feedAll]
  simp [Reader.feed, htext, h]

/-! ### Numbers and words -/

/-- A lexeme of which the reader keeps the characters goes on as long as they belong to it. -/
theorem feedAll_gathered {draft : Draft} {pending : List Char → Pending} {belongs : Char → Bool}
    (hfeed : ∀ read c, belongs c = true →
      Reader.feed ⟨draft, pending read⟩ c = some ⟨draft, pending (c :: read)⟩)
    {cs : List Char} (h : ∀ c ∈ cs, belongs c = true) (read rest : List Char) :
    Reader.feedAll ⟨draft, pending read⟩ (cs ++ rest) =
      Reader.feedAll ⟨draft, pending (cs.reverse ++ read)⟩ rest := by
  induction cs generalizing read with
  | nil => rfl
  | cons c cs ih =>
      rw [List.cons_append, Reader.feedAll, hfeed read c (h c List.mem_cons_self)]
      simp only [List.reverse_cons, List.append_assoc, List.singleton_append]
      exact ih (fun d hd => h d (List.mem_cons_of_mem _ hd)) (c :: read)

/-- A number goes on with every character that may stand in one. -/
theorem feed_number (draft : Draft) (read : List Char) (c : Char) (h : isNumberChar c = true) :
    Reader.feed ⟨draft, .number read⟩ c = some ⟨draft, .number (c :: read)⟩ := by
  simp only [Reader.feed, h, if_true]

/-- A word goes on with every small letter. -/
theorem feed_word (draft : Draft) (read : List Char) (c : Char) (h : c.isLower = true) :
    Reader.feed ⟨draft, .word read⟩ c = some ⟨draft, .word (c :: read)⟩ := by
  simp only [Reader.feed, h, if_true]

/-- A number starts with a digit or a sign. -/
theorem start_number (draft : Draft) {c : Char} (h : c.isDigit = true ∨ c = '-') :
    draft.start c = some ⟨draft, .number [c]⟩ := by
  rcases h with hdigit | rfl
  · have hne : ∀ d : Char, d.isDigit = false → (c == d) = false := by
      intro d hd
      rw [beq_eq_false_iff_ne]
      rintro rfl
      rw [hdigit] at hd
      cases hd
    simp [Draft.start, hdigit, hne ' ' rfl, hne '\t' rfl, hne '\n' rfl, hne '\r' rfl, hne '[' rfl,
      hne ']' rfl, hne '\x7b' rfl, hne '\x7d' rfl, hne ',' rfl, hne ':' rfl, hne '"' rfl]
  · rfl

/-- **A number is read as it is written.** -/
theorem leads_number {draft after : Draft} {c : Char} {cs : List Char} {value : Json}
    (hstart : c.isDigit = true ∨ c = '-') (hchars : ∀ d ∈ cs, isNumberChar d = true)
    (hvalue : number? (c :: cs) = some value) (h : draft.add (.scalar value) = some after) :
    Leads draft (c :: cs) after := by
  intro d rest hd
  rw [List.cons_append, Reader.feedAll]
  simp only [Reader.feed, start_number draft hstart]
  rw [feedAll_gathered (feed_number draft) hchars]
  simp [Reader.feedAll, Reader.feed, hd.1, hvalue, h]

/-- A word that names a constant is read as that constant, once it has ended. -/
theorem leads_word {draft after : Draft} {c : Char} {cs : List Char} {value : Json}
    (hstart : draft.start c = some ⟨draft, .word [c]⟩) (hchars : cs.all Char.isLower = true)
    (hvalue : constantOfWord (c :: cs) = some value) (h : draft.add (.scalar value) = some after) :
    Leads draft (c :: cs) after := by
  intro d rest hd
  rw [List.cons_append, Reader.feedAll]
  simp only [Reader.feed, hstart]
  rw [feedAll_gathered (feed_word draft) (List.all_eq_true.mp hchars)]
  simp [Reader.feedAll, Reader.feed, hd.2, hvalue, h]

/-! ### Spellings of integers -/

/-- No zero leads the digits of a number. -/
theorem head_toDigits_ne {n : Nat} (h : 0 < n) :
    ∃ c cs, Nat.toDigits 10 n = c :: cs ∧ c ≠ '0' := by
  induction n using Nat.strongRecOn with
  | ind n ih =>
      by_cases hn : n < 10
      · refine ⟨Nat.digitChar n, [], Nat.toDigits_of_lt_base hn, ?_⟩
        rw [Ne, Nat.digitChar_eq_zero]
        omega
      · obtain ⟨c, cs, hdigits, hc⟩ := ih (n / 10) (by omega) (by omega)
        refine ⟨c, cs ++ [Nat.digitChar (n % 10)], ?_, hc⟩
        rw [Nat.toDigits_of_base_le (by decide) (by omega), hdigits, List.cons_append]

/-- A number is written without leading zeros, as a document demands it. -/
theorem isWhole_toDigits (n : Nat) : isWhole (Nat.toDigits 10 n) = true := by
  by_cases hn : n = 0
  · subst hn
    rfl
  · obtain ⟨c, cs, hdigits, hc⟩ := head_toDigits_ne (Nat.pos_of_ne_zero hn)
    have hall := Text.areDigits_toDigits n
    rw [hdigits] at hall ⊢
    unfold isWhole
    split
    · rfl
    · rename_i heq
      exact absurd (List.cons.inj heq).1 hc
    · exact hall

/-- The digits of a number spell it, with a sign if it is not zero. -/
theorem unsigned?_toDigits {negative : Bool} {n : Nat} (h : negative = true → n ≠ 0) :
    unsigned? negative (Nat.toDigits 10 n) = some (.int (if negative then -n else n)) := by
  have hdigits : ∀ c ∈ Nat.toDigits 10 n, c.isDigit = true :=
    fun c hc => Nat.isDigit_of_mem_toDigits (by decide) (by decide) hc
  have htake : (Nat.toDigits 10 n).takeWhile Char.isDigit = Nat.toDigits 10 n :=
    List.takeWhile_eq_self_iff.mpr hdigits
  have hdrop : (Nat.toDigits 10 n).dropWhile Char.isDigit = [] :=
    List.dropWhile_eq_nil_iff.mpr hdigits
  have hvalue : Text.valueOfDigits (Nat.toDigits 10 n) = n := by
    have hread := Text.natural?_toDigits n
    rw [Text.natural?, if_pos (Text.areDigits_toDigits n)] at hread
    exact Option.some.inj hread
  have hzero : negative = true → Nat.toDigits 10 n ≠ ['0'] := by
    intro hnegative heq
    obtain ⟨c, cs, hcons, hc⟩ := head_toDigits_ne (Nat.pos_of_ne_zero (h hnegative))
    rw [hcons] at heq
    exact hc (List.cons.inj heq).1
  cases negative with
  | false =>
      simp [unsigned?, htake, hdrop, hvalue, isWhole_toDigits, isFractionAndExponent, isExponent]
  | true =>
      simp [unsigned?, htake, hdrop, hvalue, isWhole_toDigits, isFractionAndExponent, isExponent,
        hzero rfl]

/-- An integer of any size is read as itself. -/
theorem number?_toString (n : Int) : number? (toString n).toList = some (.int n) := by
  rw [Text.toList_toString_int]
  by_cases hn : n < 0
  · rw [if_pos hn, List.singleton_append, number?, unsigned?_toDigits (by omega), if_pos rfl]
    have habs : -(n.natAbs : Int) = n := by omega
    rw [habs]
  · have hsign :
        number? (Nat.toDigits 10 n.natAbs) = unsigned? false (Nat.toDigits 10 n.natAbs) := by
      unfold number?
      split
      · rename_i heq
        have hdigit : Char.isDigit '-' = true :=
          Nat.isDigit_of_mem_toDigits (by decide) (by decide) (heq ▸ List.mem_cons_self)
        exact absurd hdigit (by decide)
      · rfl
    rw [if_neg hn, List.nil_append, hsign, @unsigned?_toDigits false _ nofun, if_neg nofun]
    have habs : (n.natAbs : Int) = n := by omega
    rw [habs]

/-! ### Spellings of numbers -/

/-- Digits are characters of numbers. -/
theorem isNumberChar_of_isDigit {c : Char} (h : c.isDigit = true) : isNumberChar c = true := by
  simp [isNumberChar, h]

/-- So are those of a row of digits. -/
theorem isNumberChar_of_areDigits {cs : List Char} (h : Text.areDigits cs = true) :
    ∀ c ∈ cs, isNumberChar c = true := by
  rw [Text.areDigits, Bool.and_eq_true, List.all_eq_true] at h
  exact fun c hc => isNumberChar_of_isDigit (h.2 c hc)

/-- An exponent has only characters of numbers, its sign included. -/
theorem isNumberChar_of_isExponent {cs : List Char} (h : isExponent cs = true) :
    ∀ c ∈ cs, isNumberChar c = true := by
  have hmark : ∀ {c : Char}, (c == 'e' || c == 'E') = true → isNumberChar c = true := by
    intro c hc
    rcases Bool.or_eq_true_iff.mp hc with hc | hc <;> rw [beq_iff_eq] at hc <;> subst hc <;> rfl
  unfold isExponent at h
  split at h
  · exact nofun
  · rw [Bool.and_eq_true] at h
    exact List.forall_mem_cons.mpr ⟨hmark h.1, List.forall_mem_cons.mpr
      ⟨rfl, isNumberChar_of_areDigits h.2⟩⟩
  · rw [Bool.and_eq_true] at h
    exact List.forall_mem_cons.mpr ⟨hmark h.1, List.forall_mem_cons.mpr
      ⟨rfl, isNumberChar_of_areDigits h.2⟩⟩
  · rw [Bool.and_eq_true] at h
    exact List.forall_mem_cons.mpr ⟨hmark h.1, isNumberChar_of_areDigits h.2⟩

/-- Digits in front of something that has no other characters than numbers. -/
theorem isNumberChar_of_dropWhile {cs : List Char}
    (h : ∀ c ∈ cs.dropWhile Char.isDigit, isNumberChar c = true) :
    ∀ c ∈ cs, isNumberChar c = true := by
  intro c hc
  rw [← List.takeWhile_append_dropWhile (p := Char.isDigit) (l := cs)] at hc
  rcases List.mem_append.mp hc with hc | hc
  · exact isNumberChar_of_isDigit (List.mem_takeWhile_imp hc)
  · exact h c hc

/-- So has what follows the whole part of a number. -/
theorem isNumberChar_of_isFractionAndExponent {cs : List Char}
    (h : isFractionAndExponent cs = true) : ∀ c ∈ cs, isNumberChar c = true := by
  unfold isFractionAndExponent at h
  split at h
  · rw [Bool.and_eq_true] at h
    exact List.forall_mem_cons.mpr
      ⟨rfl, isNumberChar_of_dropWhile (isNumberChar_of_isExponent h.2)⟩
  · exact isNumberChar_of_isExponent h

/-- What spells a number without its sign starts with a digit and has no other characters than
numbers. -/
theorem of_unsigned? {negative : Bool} {cs : List Char} {value : Json}
    (h : unsigned? negative cs = some value) :
    (∀ c ∈ cs, isNumberChar c = true) ∧ ∃ c rest, cs = c :: rest ∧ c.isDigit = true := by
  simp only [unsigned?] at h
  split at h
  · rename_i hparts
    rw [Bool.and_eq_true] at hparts
    refine ⟨isNumberChar_of_dropWhile (isNumberChar_of_isFractionAndExponent hparts.2), ?_⟩
    cases cs with
    | nil => exact absurd hparts.1 (by decide)
    | cons c rest =>
        refine ⟨c, rest, rfl, ?_⟩
        by_contra hc
        rw [List.takeWhile_cons_of_neg hc] at hparts
        exact absurd hparts.1 (by decide)
  · cases h

/-- What spells a number starts with a digit or a sign and has no other characters than numbers. -/
theorem of_number? {cs : List Char} {value : Json} (h : number? cs = some value) :
    ∃ c rest, cs = c :: rest ∧ (c.isDigit = true ∨ c = '-') ∧
      ∀ d ∈ rest, isNumberChar d = true := by
  unfold number? at h
  split at h
  · exact ⟨_, _, rfl, .inr rfl, (of_unsigned? h).1⟩
  · obtain ⟨hchars, c, rest, rfl, hc⟩ := of_unsigned? h
    exact ⟨c, rest, rfl, .inl hc, fun d hd => hchars d (List.mem_cons_of_mem _ hd)⟩

/-! ### Documents -/

/-- The text is read as the document wherever a value is wanted. -/
def Spells (text : String) (document : Json) : Prop :=
  ∀ brackets wanted, wanted = .value ∨ wanted = .firstItem →
    Leads ⟨brackets, wanted⟩ text.toList (Draft.place document brackets)

/-- A scalar takes its place wherever a value or a first item is wanted. -/
theorem add_scalar {wanted : Wanted} (h : wanted = .value ∨ wanted = .firstItem)
    (brackets : List Bracket) (value : Json) :
    Draft.add ⟨brackets, wanted⟩ (.scalar value) = some (Draft.place value brackets) := by
  rcases h with rfl | rfl <;> rfl

/-- The word for nothing spells it. -/
theorem spells_null : Spells "null" .null := by
  intro brackets wanted hwanted
  exact leads_word rfl rfl rfl (add_scalar hwanted brackets .null)

/-- The words for the truth values spell them. -/
theorem spells_bool (flag : Bool) : Spells (if flag then "true" else "false") (.bool flag) := by
  intro brackets wanted hwanted
  cases flag with
  | false => exact leads_word rfl rfl rfl (add_scalar hwanted brackets (.bool false))
  | true => exact leads_word rfl rfl rfl (add_scalar hwanted brackets (.bool true))

/-- The text of a number spells it. -/
theorem spells_of_number? {text : String} {value : Json} (h : number? text.toList = some value) :
    Spells text value := by
  intro brackets wanted hwanted
  obtain ⟨c, rest, htext, hstart, hchars⟩ := of_number? h
  rw [htext] at h ⊢
  exact leads_number hstart hchars h (add_scalar hwanted brackets value)

/-- A quoted text spells the text, whatever characters it has. -/
theorem spells_quote (s : String) : Spells (quote s) (.str s) := by
  intro brackets wanted hwanted
  apply Passes.leads
  apply passes_quote
  rcases hwanted with rfl | rfl <;> rfl

/-- Elements behind commas and blanks. -/
def row {α : Type} (gap : String) (write : α → String) (elements : List α) : List Char :=
  (elements.map write).flatMap fun text => ("," ++ gap).toList ++ text.toList

/-- A row of elements starts with a comma, unless it is empty. -/
theorem breaks_row {α : Type} (gap : String) (write : α → String) (elements : List α) :
    Breaks (row gap write elements) := by
  cases elements with
  | nil => exact nofun
  | cons a rest => simpa [row] using breaks_cons ⟨rfl, rfl⟩ _

/-- The drafts that a bracket passes through while its elements are read. -/
structure Stages (α : Type) where
  /-- The bracket has just been opened. -/
  opened : Draft
  /-- Some elements have been read, the last one first. -/
  after : List α → Draft
  /-- Some elements have been read, and a comma. -/
  behindComma : List α → Draft
  comma : ∀ read, (after read).start ',' = some ⟨behindComma read, .nothing⟩

/-- How lists are read. -/
def listStages (brackets : List Bracket) : Stages Json where
  opened := ⟨.list [] :: brackets, .firstItem⟩
  after read := ⟨.list read :: brackets, .separator⟩
  behindComma read := ⟨.list read :: brackets, .value⟩
  comma _ := rfl

/-- How objects are read. -/
def objectStages (brackets : List Bracket) : Stages (String × Json) where
  opened := ⟨.object (some []) none :: brackets, .firstKey⟩
  after read := ⟨.object (some read) none :: brackets, .separator⟩
  behindComma read := ⟨.object (some read) none :: brackets, .key⟩
  comma _ := rfl

section Stages

variable {α : Type} (stages : Stages α) {closed : Draft} {gap gapAfter : String}
  {write : α → String} {closing : Char} {elements : List α}

/-- **Elements behind commas are read one after the other.** The induction is on the elements that
are still to be read. -/
theorem Stages.leads_row (hgap : IsGap gap)
    (h : ∀ a ∈ elements, ∀ read,
      Leads (stages.behindComma read) (write a).toList (stages.after (a :: read)))
    (read : List α) :
    Leads (stages.after read) (row gap write elements)
      (stages.after (elements.reverse ++ read)) := by
  induction elements generalizing read with
  | nil => exact Passes.leads fun _ => rfl
  | cons a rest ih =>
      have hfirst : Leads (stages.after read) ([','] ++ (gap.toList ++ (write a).toList))
          (stages.after (a :: read)) :=
        (passes_singleton (stages.comma read)).trans_leads
          ((hgap.passes _).trans_leads (h a List.mem_cons_self read))
      have hrest := ih (fun b hb => h b (List.mem_cons_of_mem _ hb)) (a :: read)
      have hall := hfirst.trans hrest (breaks_row gap write rest)
      simpa [row] using hall

/-- **What stands in brackets is read**: elements with commas and blanks between them, blanks around
them, and the closing bracket. -/
theorem Stages.passes (hgap : IsGap gap) (hgapAfter : IsGap gapAfter) (hends : EndsLexeme closing)
    (hfirst : ∀ a ∈ elements, Leads stages.opened (write a).toList (stages.after [a]))
    (h : ∀ a ∈ elements, ∀ read,
      Leads (stages.behindComma read) (write a).toList (stages.after (a :: read)))
    (hempty : elements = [] → stages.opened.start closing = some ⟨closed, .nothing⟩)
    (hclosed : (stages.after elements.reverse).start closing = some ⟨closed, .nothing⟩) :
    Passes stages.opened
      (gap.toList ++ ((Text.joinWith ("," ++ gap) (elements.map write)).toList ++
        (gapAfter.toList ++ [closing]))) closed := by
  refine (hgap.passes _).trans ?_
  -- The first element stands behind the bracket itself, all others behind commas.
  cases elements with
  | nil => exact (hgapAfter.passes _).trans (passes_singleton (hempty rfl))
  | cons a rest =>
      rw [List.map_cons, Text.toList_joinWith_cons]
      have hrow := stages.leads_row hgap (fun b hb => h b (List.mem_cons_of_mem _ hb)) [a]
      have hbody := (hfirst a List.mem_cons_self).trans hrow (breaks_row gap write rest)
      rw [List.reverse_cons] at hclosed
      have hend := (hgapAfter.passes _).trans (passes_singleton hclosed)
      exact hbody.trans_passes hend (hgapAfter.breaks.append (breaks_cons hends [])) (by simp)

end Stages

/-- **A list is read as it is written**, if its items are. -/
theorem Spells.list {write : Json → String} {items : List Json} {gap gapAfter : String}
    (h : ∀ item ∈ items, Spells (write item) item) (hgap : IsGap gap) (hgapAfter : IsGap gapAfter) :
    Spells ("[" ++ gap ++ Text.joinWith ("," ++ gap) (items.map write) ++ gapAfter ++ "]")
      (.list items) := by
  intro brackets wanted hwanted
  have hopen : Draft.start ⟨brackets, wanted⟩ '[' =
      some ⟨(listStages brackets).opened, .nothing⟩ := by
    rcases hwanted with rfl | rfl <;> rfl
  have hclose : Draft.start ((listStages brackets).after items.reverse) ']' =
      some ⟨Draft.place (.list items.reverse.reverse) brackets, .nothing⟩ := rfl
  rw [List.reverse_reverse] at hclose
  have hinside := (listStages brackets).passes hgap hgapAfter ⟨rfl, rfl⟩
    (fun item hitem => h item hitem _ _ (.inr rfl))
    (fun item hitem read => h item hitem _ _ (.inl rfl)) (by rintro rfl; rfl) hclose
  simpa using ((passes_singleton hopen).trans hinside).leads

/-- A field is read behind an opening brace or a comma. -/
theorem leads_field {write : Json → String} {field : String × Json} {space : String}
    (h : Spells (write field.2) field.2) (hspace : IsGap space) {brackets : List Bracket}
    {read : List (String × Json)} {wanted : Wanted} (hwanted : wanted = .firstKey ∨ wanted = .key) :
    Leads ⟨.object (some read) none :: brackets, wanted⟩
      (quote field.1 ++ ":" ++ space ++ write field.2).toList
      ((objectStages brackets).after (field :: read)) := by
  have hkey : Draft.add ⟨.object (some read) none :: brackets, wanted⟩ (.text (some field.1)) =
      some ⟨.object (some read) (some field.1) :: brackets, .colon⟩ := by
    rcases hwanted with rfl | rfl <;> rfl
  have hcolon : Draft.start ⟨.object (some read) (some field.1) :: brackets, .colon⟩ ':' =
      some ⟨⟨.object (some read) (some field.1) :: brackets, .value⟩, .nothing⟩ := rfl
  have hvalue : Leads ⟨.object (some read) (some field.1) :: brackets, .value⟩
      (write field.2).toList ((objectStages brackets).after (field :: read)) :=
    h (.object (some read) (some field.1) :: brackets) .value (.inl rfl)
  have hall := (passes_quote hkey).trans_leads
    ((passes_singleton hcolon).trans_leads ((hspace.passes _).trans_leads hvalue))
  simpa using hall

/-- **An object is read as it is written**, if its values are. -/
theorem Spells.object {write : Json → String} {fields : List (String × Json)}
    {gap gapAfter space : String} (h : ∀ field ∈ fields, Spells (write field.2) field.2)
    (hgap : IsGap gap) (hgapAfter : IsGap gapAfter) (hspace : IsGap space) :
    Spells ("\x7b" ++ gap ++ Text.joinWith ("," ++ gap)
      (fields.map fun field => quote field.1 ++ ":" ++ space ++ write field.2) ++
        gapAfter ++ "\x7d") (.object fields) := by
  intro brackets wanted hwanted
  have hopen : Draft.start ⟨brackets, wanted⟩ '\x7b' =
      some ⟨(objectStages brackets).opened, .nothing⟩ := by
    rcases hwanted with rfl | rfl <;> rfl
  have hclose : Draft.start ((objectStages brackets).after fields.reverse) '\x7d' =
      some ⟨Draft.place (.object fields.reverse.reverse) brackets, .nothing⟩ := rfl
  rw [List.reverse_reverse] at hclose
  have hinside := (objectStages brackets).passes hgap hgapAfter ⟨rfl, rfl⟩
    (fun field hfield => leads_field (h field hfield) hspace (.inl rfl))
    (fun field hfield read => leads_field (h field hfield) hspace (.inr rfl))
    (by rintro rfl; rfl) hclose
  simpa using ((passes_singleton hopen).trans hinside).leads

/-- A document that a text can spell: every number in it is spelled as one, and all texts in it can
be read. -/
inductive Readable : Json → Prop where
  | null : Readable .null
  | bool (flag : Bool) : Readable (.bool flag)
  | int (value : Int) : Readable (.int value)
  | decimal {literal : String} (h : number? literal.toList = some (.decimal literal)) :
      Readable (.decimal literal)
  | str (text : String) : Readable (.str text)
  | list {items : List Json} (h : ∀ item ∈ items, Readable item) : Readable (.list items)
  | object {fields : List (String × Json)} (h : ∀ field ∈ fields, Readable field.2) :
      Readable (.object fields)

/-- No blank at all is a gap: the one in documents on one line. -/
theorem isGap_empty : IsGap "" := by simp [IsGap]

/-- A blank is a gap: the one behind a colon. -/
theorem isGap_space : IsGap " " := by simp [IsGap]

/-- A line break with its indentation is a gap: the one in documents over several lines. -/
theorem isGap_lineBreak (level : Nat) : IsGap (lineBreak level) := by
  intro c hc
  simp only [lineBreak, String.toList_append, String.toList_ofList, List.mem_append,
    List.mem_replicate] at hc
  rcases hc with hc | hc
  · exact .inr (by simpa using hc)
  · exact .inl hc.2

/-- The items of a list are written each by itself. -/
theorem compactItems_eq_map (items : List Json) : compactItems items = items.map compact := by
  induction items with
  | nil => rfl
  | cons item rest ih => simp [compactItems, ih]

/-- So are the fields of an object, each with its name. -/
theorem compactFields_eq_map (fields : List (String × Json)) :
    compactFields fields = fields.map fun field => quote field.1 ++ ":" ++ compact field.2 := by
  induction fields with
  | nil => rfl
  | cons field rest ih => simp [compactFields, ih]

/-- Over several lines, items are written each by itself too, all at one level. -/
theorem prettyItems_eq_map (level : Nat) (items : List Json) :
    prettyItems level items = items.map (prettyAt level) := by
  induction items with
  | nil => rfl
  | cons item rest ih => simp [prettyItems, ih]

/-- So are the fields of an object over several lines. -/
theorem prettyFields_eq_map (level : Nat) (fields : List (String × Json)) :
    prettyFields level fields =
      fields.map fun field => quote field.1 ++ ": " ++ prettyAt level field.2 := by
  induction fields with
  | nil => rfl
  | cons field rest ih => simp [prettyFields, ih]

/-- **A document on one line is read back.** -/
theorem Readable.spells_compact {document : Json} (h : document.Readable) :
    Spells document.compact document := by
  induction h with
  | null => exact spells_null
  | bool flag => exact spells_bool flag
  | int value => exact spells_of_number? (number?_toString value)
  | decimal h => exact spells_of_number? h
  | str text => exact spells_quote text
  | list _ ih =>
      have hlist := Spells.list ih isGap_empty isGap_empty
      simpa [compact, compactItems_eq_map] using hlist
  | object _ ih =>
      have hobject := Spells.object ih isGap_empty isGap_empty isGap_empty
      simpa [compact, compactFields_eq_map] using hobject

/-- Items over several lines are items in brackets, with line breaks between them if there are any
items. -/
theorem spread_eq (opening closing : String) (level : Nat) (items : List String) :
    ∃ gap gapAfter, IsGap gap ∧ IsGap gapAfter ∧
      spread opening closing level items =
        opening ++ gap ++ Text.joinWith ("," ++ gap) items ++ gapAfter ++ closing := by
  cases items with
  | nil => exact ⟨"", "", isGap_empty, isGap_empty, by simp [spread]⟩
  | cons item rest =>
      exact ⟨lineBreak (level + 1), lineBreak level, isGap_lineBreak _, isGap_lineBreak _, rfl⟩

/-- **A document over several lines is read back**, at every level of indentation. -/
theorem Readable.spells_prettyAt {document : Json} (h : document.Readable) (level : Nat) :
    Spells (document.prettyAt level) document := by
  induction h generalizing level with
  | null => exact spells_null
  | bool flag => exact spells_bool flag
  | int value => exact spells_of_number? (number?_toString value)
  | decimal h => exact spells_of_number? h
  | str text => exact spells_quote text
  | @list items _ ih =>
      rw [prettyAt, prettyItems_eq_map]
      obtain ⟨gap, gapAfter, hgap, hgapAfter, heq⟩ :=
        spread_eq "[" "]" level (items.map (prettyAt (level + 1)))
      rw [heq]
      exact .list (fun item hitem => ih item hitem (level + 1)) hgap hgapAfter
  | @object fields _ ih =>
      rw [prettyAt, prettyFields_eq_map]
      obtain ⟨gap, gapAfter, hgap, hgapAfter, heq⟩ := spread_eq "\x7b" "\x7d" level
        (fields.map fun field => quote field.1 ++ ": " ++ prettyAt (level + 1) field.2)
      rw [heq]
      have hobject := Spells.object (fun field hfield => ih field hfield (level + 1)) hgap
        hgapAfter isGap_space
      simpa [String.append_assoc] using hobject

/-- **A text that is read as a document wherever a value is wanted spells it on its own.** -/
theorem Spells.read? {text : String} {document : Json} (h : Spells text document) :
    Json.read? text = some document := by
  have hend : Reader.feedAll ⟨Draft.place document [], .nothing⟩ [' '] =
      some ⟨⟨[], .nothing document⟩, .nothing⟩ := rfl
  -- `read?` ends the last lexeme by a blank of its own, so a blank is what stands behind the text.
  have hread := (h [] .value (.inl rfl) ' ' [] ⟨rfl, rfl⟩).trans hend
  rw [Reader.feedAll_append] at hread
  obtain ⟨reader, hreader, hblank⟩ := Option.bind_eq_some_iff.mp hread
  have hfeed : reader.feed ' ' = some ⟨⟨[], .nothing document⟩, .nothing⟩ := by
    rw [← hblank, Reader.feedAll]
    cases reader.feed ' ' <;> rfl
  have hstart : Reader.feedAll {} text.toList = some reader := hreader
  rw [Json.read?, hstart, Option.bind_eq_bind, Option.bind_some, hfeed]
  rfl

end Workbench.Json
