import Workbench.Proofs.Form.Grammar
import Workbench.Proofs.Program.Layout

/-!
# Reading a text after another one

A text that is put on the lines after another one is read as it would be by itself, only further
down. **Theorem** (`Form.parse_lines`): if two texts are programs, the first one, a line feed and
the second one make the program that has the forms of the first and then those of the second, each
of these as many lines further down as the first text and the line feed take.

* `Position.lower`, `Token.lower` and `Form.lower` move places down and leave columns alone.
* A line feed ends every token but a string that is still open, and a program has none
  (`Token.scan_lines`). It also ends a comment at the end of the first text.
* Neither the scanner nor the grammar asks how far down a text stands (`Token.scan_lower`,
  `Form.Derives.lower`).
-/

namespace Workbench

/-! ### Places further down -/

namespace Position

/-- The place as many lines further down. -/
def lower (lines : Nat) (p : Position) : Position := { p with line := p.line + lines }

/-- Behind a character, a place that is further down is still as much further down. -/
theorem lower_after (lines : Nat) (p : Position) (c : Char) :
    (p.lower lines).after c = (p.after c).lower lines := by
  unfold after lower
  split
  · exact congrArg (Position.mk · 1) (Nat.add_right_comm p.line lines 1)
  · rfl

/-- So it is behind a text. -/
theorem lower_afterAll (lines : Nat) (p : Position) (cs : List Char) :
    (p.lower lines).afterAll cs = (p.afterAll cs).lower lines := by
  induction cs generalizing p with
  | nil => rfl
  | cons c cs ih => rw [afterAll_cons, afterAll_cons, lower_after, ih]

/-- A text ends as many lines further down as it has line feeds. -/
theorem line_afterAll (p : Position) (cs : List Char) :
    (p.afterAll cs).line = p.line + cs.count '\n' := by
  induction cs generalizing p with
  | nil => rfl
  | cons c cs ih =>
      rw [afterAll_cons, ih, after]
      by_cases hc : c = '\n'
      · rw [if_pos hc, hc, List.count_cons_self]
        exact Nat.add_right_comm p.line 1 _
      · rw [if_neg hc, List.count_cons_of_ne hc]

/-- A text after a line feed starts in the first column, below all lines before it. -/
theorem first_afterAll_line (cs : List Char) :
    first.afterAll (cs ++ ['\n']) = first.lower (1 + cs.count '\n') := by
  rw [afterAll_append, afterAll_cons, afterAll_nil, after, if_pos rfl, line_afterAll]
  have hlines : first.line + cs.count '\n' + 1 = first.line + (1 + cs.count '\n') := by omega
  exact congrArg (Position.mk · 1) hlines

end Position

namespace Token

/-- The token as many lines further down. -/
def lower (lines : Nat) (token : Token) : Token :=
  { token with start := token.start.lower lines, stop := token.stop.lower lines }

/-- A token that starts further down ends as much further down. -/
theorem spelled_lower (lines : Nat) (p : Position) (kind : Kind) (spelling : List Char) :
    spelled (p.lower lines) kind spelling = (spelled p kind spelling).lower lines := by
  rw [spelled, Position.lower_afterAll]
  rfl

/-- How far down a text stands shows in the places of its tokens only. -/
theorem scan_lower (lines : Nat) (p : Position) (held : Nat) (cs : List Char) :
    scan (p.lower lines) held cs = (scan p held cs).map (lower lines) := by
  induction cs generalizing p held with
  | nil => cases held <;> rfl
  | cons c cs ih =>
      cases held with
      | succ more =>
          rw [scan, scan, Position.lower_after]
          exact ih (p.after c) more
      | zero =>
          cases hblank : Text.isBlank c with
          | true =>
              rw [scan, scan, hblank, Position.lower_after]
              exact ih (p.after c) 0
          | false =>
              rw [scan_cons hblank, scan_cons hblank, startingWith, spelled_lower,
                Position.lower_after, ih (p.after c) (classify c cs).2]
              rfl

/-! ### Across a line feed -/

/-- What no line feed belongs to ends before it. -/
theorem countWhile_line {test : Char → Bool} (htest : test '\n' = false) (cs ds : List Char) :
    countWhile test (cs ++ '\n' :: ds) = countWhile test cs := by
  induction cs with
  | nil => simp [countWhile, htest]
  | cons c cs ih =>
      by_cases hc : test c = true
      · simpa [countWhile, hc] using ih
      · simp [countWhile, hc]

/-- What ends inside a text does so also if the text goes on. -/
theorem countWhile_of_lt {test : Char → Bool} {cs : List Char}
    (hinside : countWhile test cs < cs.length) (ds : List Char) :
    countWhile test (cs ++ ds) = countWhile test cs := by
  induction cs with
  | nil => exact absurd hinside (Nat.not_lt_zero _)
  | cons c cs ih =>
      by_cases hc : test c = true
      · have hrest : countWhile test cs < cs.length := by
          simpa [countWhile, hc] using hinside
        simpa [countWhile, hc] using ih hrest
      · simp [countWhile, hc]

/-- Whether a number starts is decided by the two characters before the line feed. -/
theorem startsNumber_line (c : Char) (cs ds : List Char) :
    startsNumber c (cs ++ '\n' :: ds) = startsNumber c cs := by
  cases cs with
  | nil => rfl
  | cons d cs => rfl

/-- **A token before a line feed** takes the same characters as at the end of the text, unless it is
a string that is still open. -/
theorem classify_line (c : Char) (cs ds : List Char)
    (hclosed : c = '"' → countWhile (· ≠ '"') cs < cs.length) :
    classify c (cs ++ '\n' :: ds) = classify c cs := by
  unfold classify
  split
  · rfl
  · by_cases hquote : c = '"'
    · have hinside := hclosed hquote
      have hcount := countWhile_of_lt hinside ('\n' :: ds)
      have hlength : countWhile (· ≠ '"') cs < (cs ++ '\n' :: ds).length := by
        rw [List.length_append]
        exact Nat.lt_add_right _ hinside
      simp only [hquote, if_true, hinside, hcount, hlength]
    · have hcomment : countWhile (· ≠ '\n') (cs ++ '\n' :: ds) = countWhile (· ≠ '\n') cs :=
        countWhile_line (by decide) cs ds
      simp only [hquote, if_false, startsNumber_line, hcomment,
        countWhile_line (by decide : Text.isAlphanumeric '\n' = false),
        countWhile_line (by decide : isWordPart '\n' = false)]

/-- A string that is still open at the end of the text is of unknown kind. -/
theorem closed_of_kind {c : Char} {cs : List Char} (hkind : (classify c cs).1 ≠ .unknown)
    (hquote : c = '"') : countWhile (· ≠ '"') cs < cs.length := by
  refine Decidable.byContradiction fun hopen => hkind ?_
  subst hquote
  change (if countWhile (· ≠ '"') cs < cs.length then
    (Kind.string, countWhile (· ≠ '"') cs + 1) else
    (Kind.unknown, countWhile (· ≠ '"') cs)).1 = .unknown
  rw [if_neg hopen]

/-- **Scanning across a line feed.** The induction is on the first text, of which some characters
may belong to a token that has been made already. -/
theorem scan_lines (p : Position) (held : Nat) (cs ds : List Char) (hheld : held ≤ cs.length)
    (hkinds : ∀ token ∈ scan p held cs, token.kind ≠ .unknown) :
    scan p held (cs ++ '\n' :: ds) =
      scan p held cs ++ scan (p.afterAll (cs ++ ['\n'])) 0 ds := by
  induction cs generalizing p held with
  | nil =>
      cases Nat.le_zero.mp hheld
      rfl
  | cons c cs ih =>
      cases held with
      | succ more => exact ih (p.after c) more (Nat.le_of_succ_le_succ hheld) hkinds
      | zero =>
          cases hblank : Text.isBlank c with
          | true =>
              rw [scan, hblank] at hkinds
              rw [List.cons_append, scan, scan, hblank]
              exact ih (p.after c) 0 (Nat.zero_le _) hkinds
          | false =>
              rw [scan_cons hblank] at hkinds
              obtain ⟨hkind, hrest⟩ := List.forall_mem_cons.mp hkinds
              have hclass := classify_line c cs ds (closed_of_kind hkind)
              have htoken : startingWith p c (cs ++ '\n' :: ds) = startingWith p c cs := by
                rw [startingWith, startingWith, hclass,
                  List.take_append_of_le_length (classify_le c cs)]
              rw [List.cons_append, scan_cons hblank, scan_cons hblank, htoken, hclass,
                ih (p.after c) _ (classify_le c cs) hrest]
              rfl

/-- The tokens of a text on the lines after another one. -/
theorem tokenize_lines (first second : String)
    (hkinds : ∀ token ∈ tokenize first, token.kind ≠ .unknown) :
    tokenize (first ++ "\n" ++ second) =
      tokenize first ++ (tokenize second).map (lower (1 + first.toList.count '\n')) := by
  have htext : (first ++ "\n" ++ second).toList = first.toList ++ '\n' :: second.toList := by
    simp [String.toList_append]
  rw [tokenize, htext, scan_lines .first 0 first.toList second.toList (Nat.zero_le _) hkinds,
    Position.first_afterAll_line, scan_lower]
  rfl

end Token

/-- A name is a name on every line. -/
theorem Token.IsName.lower {token : Token} (h : token.IsName) (lines : Nat) :
    (token.lower lines).IsName :=
  ⟨h.kind, h.notFunction, h.notBoolean⟩

/-! ### Forms further down -/

namespace Form

mutual

/-- The form as many lines further down. -/
def lower (lines : Nat) : Form → Form
  | .word token => .word (token.lower lines)
  | .call items => .call (lowerAll lines items)
  | .list items => .list (lowerAll lines items)
  | .string token => .string (token.lower lines)
  | .number token => .number (token.lower lines)
  | .boolean token => .boolean (token.lower lines)
  | .function token parameters body =>
      .function (token.lower lines) (lowerAll lines parameters) (body.lower lines)

/-- Forms as many lines further down. -/
def lowerAll (lines : Nat) : List Form → List Form
  | [] => []
  | form :: rest => form.lower lines :: lowerAll lines rest

end

/-- Each form in a list is taken by itself. -/
theorem lowerAll_eq_map (lines : Nat) (forms : List Form) :
    lowerAll lines forms = forms.map (lower lines) := by
  induction forms with
  | nil => rfl
  | cons form rest ih => simp [lowerAll, ih]

mutual

/-- Forms further down are nested as deeply. -/
theorem depth_lower (lines : Nat) (form : Form) : (form.lower lines).depth = form.depth := by
  match form with
  | .word _ | .string _ | .number _ | .boolean _ => rfl
  | .call items => simp only [lower, depth, depthAll_lowerAll lines items]
  | .list items => simp only [lower, depth, depthAll_lowerAll lines items]
  | .function _ _ body => simp only [lower, depth, depth_lower lines body]

/-- So are lists of forms. -/
theorem depthAll_lowerAll (lines : Nat) (forms : List Form) :
    depthAll (lowerAll lines forms) = depthAll forms := by
  match forms with
  | [] => rfl
  | form :: rest =>
      simp only [lowerAll, depthAll, depth_lower lines form, depthAll_lowerAll lines rest]

end

mutual

/-- Places that are forgotten may as well have been further down. -/
theorem unplaced_lower (lines : Nat) (form : Form) :
    (form.lower lines).unplaced = form.unplaced := by
  match form with
  | .word _ | .string _ | .number _ | .boolean _ => rfl
  | .call items => simp only [lower, unplaced, unplacedAll_lowerAll lines items]
  | .list items => simp only [lower, unplaced, unplacedAll_lowerAll lines items]
  | .function token parameters body =>
      simp only [lower, unplaced, unplacedAll_lowerAll lines parameters, unplaced_lower lines body]
      rfl

/-- Without places nothing is further down. -/
theorem unplacedAll_lowerAll (lines : Nat) (forms : List Form) :
    unplacedAll (lowerAll lines forms) = unplacedAll forms := by
  match forms with
  | [] => rfl
  | form :: rest =>
      simp only [lowerAll, unplacedAll, unplaced_lower lines form, unplacedAll_lowerAll lines rest]

end

mutual

/-- Tokens further down spell the form further down. -/
theorem Derives.lower {tokens : List Token} {form : Form} (h : Derives tokens form) (lines : Nat) :
    Derives (tokens.map (Token.lower lines)) (form.lower lines) := by
  match h with
  | .string hkind => exact .string hkind
  | .number hkind => exact .number hkind
  | .boolean hkind hvalue => exact .boolean hkind hvalue
  | .word hname => exact .word (hname.lower lines)
  | .call hopener hitems hcloser =>
      rw [List.map_cons, List.map_append, Form.lower]
      exact .call hopener (hitems.lower lines) hcloser
  | .list hopener hitems hcloser =>
      rw [List.map_cons, List.map_append, Form.lower]
      exact .list hopener (hitems.lower lines) hcloser
  | @Derives.function token opener closer names tokens body hkind hvalue hopener hnames hcloser
      hbody =>
      have hwords : lowerAll lines (names.map .word) =
          (names.map (Token.lower lines)).map .word := by
        rw [lowerAll_eq_map, List.map_map, List.map_map]
        rfl
      rw [List.map_cons, List.map_cons, List.map_append, List.map_cons, Form.lower, hwords]
      refine .function hkind hvalue hopener (fun name hmem => ?_) hcloser (hbody.lower lines)
      obtain ⟨name', hmem', rfl⟩ := List.mem_map.mp hmem
      exact (hnames name' hmem').lower lines

/-- Tokens further down derive the forms further down. -/
theorem DerivesAll.lower {tokens : List Token} {forms : List Form} (h : DerivesAll tokens forms)
    (lines : Nat) : DerivesAll (tokens.map (Token.lower lines)) (lowerAll lines forms) := by
  match h with
  | .nil => exact .nil
  | .cons hform hforms =>
      rw [List.map_append, lowerAll]
      exact .cons (hform.lower lines) (hforms.lower lines)

end

/-! ### Programs -/

/-- The parser takes no token of unknown kind. -/
theorem kind_ne_unknown_of_steps {limit : Nat} {parser after : Parser} {tokens : List Token}
    (h : parser.steps limit tokens = .ok after) : ∀ token ∈ tokens, token.kind ≠ .unknown := by
  induction tokens generalizing parser with
  | nil => exact fun token hmem => absurd hmem List.not_mem_nil
  | cons token rest ih =>
      rw [Parser.steps] at h
      split at h
      · rename_i next hstep
        refine List.forall_mem_cons.mpr ⟨fun hkind => ?_, ih h⟩
        simp only [Parser.step, hkind] at hstep
        cases hstep
      · cases h

/-- **Reading a program after another one.** -/
theorem parse_lines {limit : Nat} {first second : String} {forms forms' : List Form}
    (hfirst : parse limit (Token.tokenize first) = .ok (.call forms))
    (hsecond : parse limit (Token.tokenize second) = .ok (.call forms')) :
    parse limit (Token.tokenize (first ++ "\n" ++ second)) =
      .ok (.call (forms ++ lowerAll (1 + first.toList.count '\n') forms')) := by
  obtain ⟨hderives, hdepth⟩ := derivesAll_of_parse hfirst
  obtain ⟨hderives', hdepth'⟩ := derivesAll_of_parse hsecond
  obtain ⟨parser, hsteps, -⟩ := parse_eq_ok_iff.mp hfirst
  have htokens : Token.withoutComments (Token.tokenize (first ++ "\n" ++ second)) =
      Token.withoutComments (Token.tokenize first) ++
        (Token.withoutComments (Token.tokenize second)).map
          (Token.lower (1 + first.toList.count '\n')) := by
    rw [Token.tokenize_lines first second (kind_ne_unknown_of_steps hsteps), Token.withoutComments,
      List.filter_append, List.filter_map]
    rfl
  rw [← parse_withoutComments, htokens]
  refine (hderives.append (hderives'.lower _)).parse limit fun form hmem => ?_
  rcases List.mem_append.mp hmem with hmem | hmem
  · exact hdepth form hmem
  · rw [lowerAll_eq_map] at hmem
    obtain ⟨form', hmem', rfl⟩ := List.mem_map.mp hmem
    rw [depth_lower]
    exact hdepth' form' hmem'

end Form

end Workbench
