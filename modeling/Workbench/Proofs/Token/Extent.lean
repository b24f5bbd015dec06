import Workbench.Proofs.Program.Layout

/-!
# Where tokens stand in their text

**Theorem** (`Token.tokenize_exact`): a source text is the spellings of its tokens, in order, with
nothing but blanks before, between and behind them; no spelling is empty; and the places of a token
are those of its first and its last character in that text. So tokens stand in the order in which
they are read and do not overlap.

The place of a character is read off the text before it (`Position.behind`): its line feeds, and
what follows the last of them. The scanner counts places as it goes along instead, and the two agree
as long as they agree at the start (`Position.afterAll_behind`). `Token.Cover` cuts a text into
blanks and tokens from the front; the scanner does so (`Token.cover_scan`), and everything else
follows from it.
-/

namespace Workbench

/-! ### Places -/

namespace Position

/-- The place of the character that follows a text: there is a line for each line feed before it,
and a column for each character since the last one. -/
def behind (text : List Char) : Position :=
  ⟨1 + text.count '\n', 1 + (text.reverse.takeWhile (· ≠ '\n')).length⟩

/-- Places in the order in which they are read. -/
instance : LT Position where
  lt p q := p.line < q.line ∨ (p.line = q.line ∧ p.col < q.col)

/-- Places are in the order of lines, and on one line in the order of columns. -/
theorem lt_iff {p q : Position} : p < q ↔ p.line < q.line ∨ (p.line = q.line ∧ p.col < q.col) :=
  Iff.rfl

/-- Places behind each other are in order. -/
theorem lt_trans {p q r : Position} (h : p < q) (h' : q < r) : p < r := by
  rw [lt_iff] at *
  omega

/-- A character takes a place further on. -/
theorem lt_after (p : Position) (c : Char) : p < p.after c := by
  unfold after
  split
  · exact .inl (Nat.lt_succ_self p.line)
  · exact .inr ⟨rfl, Nat.lt_succ_self p.col⟩

/-- The place behind a text is one character behind the place before its last one. -/
theorem behind_concat (text : List Char) (c : Char) :
    behind (text ++ [c]) = (behind text).after c := by
  unfold behind after
  by_cases hc : c = '\n'
  · simp [hc, Nat.add_assoc]
  · simp [hc, Nat.add_assoc]

/-- Counting places along a text comes to the place behind it. -/
theorem afterAll_behind (before text : List Char) :
    (behind before).afterAll text = behind (before ++ text) := by
  induction text generalizing before with
  | nil => rw [afterAll_nil, List.append_nil]
  | cons c text ih =>
      rw [afterAll_cons, ← behind_concat, ih, List.append_assoc, List.singleton_append]

/-- The place behind a text comes before the place behind a longer one. -/
theorem behind_lt (before : List Char) (c : Char) (text : List Char) :
    behind before < behind (before ++ c :: text) := by
  induction text generalizing before c with
  | nil =>
      rw [behind_concat]
      exact lt_after _ c
  | cons d text ih =>
      have hnext := ih (before ++ [c]) d
      rw [List.append_assoc, List.singleton_append, behind_concat] at hnext
      exact lt_trans (lt_after _ c) hnext

end Position

namespace Token

open Position (behind)

/-! ### Blanks and tokens -/

/-- A text, which follows another one, is made of blanks and of tokens that are placed where they
stand. -/
inductive Cover : List Char → List Token → List Char → Prop where
  | done (before : List Char) : Cover before [] []
  | blank {before : List Char} {tokens : List Token} {text : List Char} {c : Char}
      (hblank : Text.isBlank c = true) (hrest : Cover (before ++ [c]) tokens text) :
      Cover before tokens (c :: text)
  | token {before : List Char} {token : Token} {tokens : List Token} {text : List Char}
      (hvalue : token.value.toList ≠ []) (hstart : token.start = behind before)
      (hstop : token.stop = behind (before ++ token.value.toList.dropLast))
      (hrest : Cover (before ++ token.value.toList) tokens text) :
      Cover before (token :: tokens) (token.value.toList ++ text)

/-- **The scanner cuts a text into blanks and tokens**, from the first character on that belongs to
no token yet. -/
theorem cover_scan (before : List Char) (held : Nat) (cs : List Char) :
    Cover (before ++ cs.take held) (scan (behind before) held cs) (cs.drop held) := by
  induction cs generalizing before held with
  | nil =>
      rw [List.take_nil, List.drop_nil]
      cases held <;> exact .done _
  | cons c cs ih =>
      have hnext := fun more => ih (before ++ [c]) more
      simp only [Position.behind_concat, List.append_assoc, List.singleton_append] at hnext
      cases held with
      | succ more => exact hnext more
      | zero =>
          rw [List.take_zero, List.append_nil, List.drop_zero]
          cases hblank : Text.isBlank c with
          | true =>
              rw [scan, hblank]
              refine .blank hblank ?_
              exact hnext 0
          | false =>
              rw [scan_cons hblank]
              have hvalue : (startingWith (behind before) c cs).value.toList =
                  c :: cs.take (classify c cs).2 := String.toList_ofList
              have htext : c :: cs = (startingWith (behind before) c cs).value.toList ++
                  cs.drop (classify c cs).2 := by
                rw [hvalue, List.cons_append, List.take_append_drop]
              rw [htext]
              refine .token ?_ rfl ?_ ?_
              · rw [hvalue]
                exact List.cons_ne_nil _ _
              · rw [hvalue]
                exact Position.afterAll_behind _ _
              · rw [hvalue]
                exact hnext (classify c cs).2

/-! ### The order of tokens -/

/-- The first character of a token stands somewhere in the text. -/
theorem Cover.start_eq {before text : List Char} {tokens : List Token}
    (h : Cover before tokens text) {token : Token} (hmem : token ∈ tokens) :
    ∃ more, token.start = behind (before ++ more) := by
  induction h with
  | done => cases hmem
  | @blank _ _ _ c _ _ ih =>
      obtain ⟨more, hmore⟩ := ih hmem
      exact ⟨c :: more, by rw [hmore, List.append_assoc, List.singleton_append]⟩
  | @token before first _ _ _ hstart _ _ ih =>
      rcases List.mem_cons.mp hmem with rfl | hmem
      · exact ⟨[], by rw [hstart, List.append_nil]⟩
      · obtain ⟨more, hmore⟩ := ih hmem
        exact ⟨first.value.toList ++ more, by rw [hmore, List.append_assoc]⟩

/-- Tokens stand one behind the other. -/
theorem Cover.pairwise {before text : List Char} {tokens : List Token}
    (h : Cover before tokens text) :
    tokens.Pairwise fun token later => token.stop < later.start := by
  induction h with
  | done => exact .nil
  | blank _ _ ih => exact ih
  | @token before token _ _ hvalue _ hstop hrest ih =>
      refine .cons (fun later hmem => ?_) ih
      obtain ⟨more, hmore⟩ := hrest.start_eq hmem
      -- The last character of the token is read between the two places.
      rw [← List.dropLast_concat_getLast hvalue, ← List.append_assoc, List.append_assoc _ [_]]
        at hmore
      rw [hstop, hmore]
      exact Position.behind_lt _ _ _

/-- A token starts where it stops or before. -/
theorem Cover.start_le_stop {before text : List Char} {tokens : List Token}
    (h : Cover before tokens text) {token : Token} (hmem : token ∈ tokens) :
    token.start = token.stop ∨ token.start < token.stop := by
  induction h with
  | done => cases hmem
  | blank _ _ ih => exact ih hmem
  | token hvalue hstart hstop _ ih =>
      rcases List.mem_cons.mp hmem with rfl | hmem
      · rw [hstart, hstop]
        cases token.value.toList.dropLast with
        | nil => exact .inl (by rw [List.append_nil])
        | cons c cs => exact .inr (Position.behind_lt _ c cs)
      · exact ih hmem

/-! ### A text as tokens with blanks between them -/

/-- A token and the characters between it and the next one. -/
structure Piece where
  token : Token
  gap : List Char

/-- The text that some characters and then some pieces make. -/
def written (lead : List Char) (pieces : List Piece) : List Char :=
  lead ++ pieces.flatMap fun piece => piece.token.value.toList ++ piece.gap

/-- Nothing but blanks. -/
def IsBlank (cs : List Char) : Prop := ∀ c ∈ cs, Text.isBlank c = true

/-- A text, which follows another one, is some blanks and then some pieces, whose tokens are placed
where they stand. -/
structure Exact (before text lead : List Char) (pieces : List Piece) : Prop where
  text_eq : text = written lead pieces
  lead_blank : IsBlank lead
  gaps_blank : ∀ piece ∈ pieces, IsBlank piece.gap
  value_ne : ∀ piece ∈ pieces, piece.token.value ≠ ""
  /-- A token starts at the place of its first character. -/
  start_eq : ∀ earlier piece later, pieces = earlier ++ piece :: later →
    piece.token.start = behind (before ++ written lead earlier)
  /-- A token stops at the place of its last character. -/
  stop_eq : ∀ earlier piece later, pieces = earlier ++ piece :: later →
    piece.token.stop =
      behind (before ++ written lead earlier ++ piece.token.value.toList.dropLast)

/-- What is written starts with what is before the first token, and the token. -/
theorem written_cons (lead : List Char) (piece : Piece) (pieces : List Piece) :
    written lead (piece :: pieces) =
      lead ++ piece.token.value.toList ++ written piece.gap pieces := by
  simp [written]

/-- Where no text is left, there are no tokens. -/
theorem exact_nil (before : List Char) : Exact before [] [] [] where
  text_eq := rfl
  lead_blank := nofun
  gaps_blank := nofun
  value_ne := nofun
  start_eq earlier piece later h := by simp at h
  stop_eq earlier piece later h := by simp at h

section Exact

variable {before text lead : List Char} {pieces : List Piece}

/-- One more blank in front. -/
theorem Exact.blank {c : Char} (hblank : Text.isBlank c = true)
    (h : Exact (before ++ [c]) text lead pieces) : Exact before (c :: text) (c :: lead) pieces where
  text_eq := by rw [h.text_eq, written, written, List.cons_append]
  lead_blank := by
    intro d hmem
    rcases List.mem_cons.mp hmem with rfl | hmem
    · exact hblank
    · exact h.lead_blank d hmem
  gaps_blank := h.gaps_blank
  value_ne := h.value_ne
  start_eq earlier piece later heq := by
    simpa [written] using h.start_eq earlier piece later heq
  stop_eq earlier piece later heq := by
    simpa [written] using h.stop_eq earlier piece later heq

/-- One more token in front, behind which the blanks come that were in front. -/
theorem Exact.token {token : Token} (hvalue : token.value.toList ≠ [])
    (hstart : token.start = behind before)
    (hstop : token.stop = behind (before ++ token.value.toList.dropLast))
    (h : Exact (before ++ token.value.toList) text lead pieces) :
    Exact before (token.value.toList ++ text) [] (⟨token, lead⟩ :: pieces) where
  text_eq := by rw [h.text_eq, written_cons, List.nil_append]
  lead_blank := nofun
  gaps_blank := List.forall_mem_cons.mpr ⟨h.lead_blank, h.gaps_blank⟩
  value_ne := by
    refine List.forall_mem_cons.mpr ⟨fun hempty => hvalue ?_, h.value_ne⟩
    exact String.toList_eq_nil_iff.mpr hempty
  start_eq earlier piece later heq := by
    cases earlier with
    | nil =>
        cases heq
        simpa [written] using hstart
    | cons first earlier =>
        cases heq
        rw [h.start_eq earlier piece later rfl, written_cons, List.nil_append, List.append_assoc]
  stop_eq earlier piece later heq := by
    cases earlier with
    | nil =>
        cases heq
        simpa [written] using hstop
    | cons first earlier =>
        cases heq
        rw [h.stop_eq earlier piece later rfl, written_cons, List.nil_append, List.append_assoc]
        simp only [List.append_assoc]

end Exact

/-- Blanks and tokens can be taken together, each token with the blanks behind it. -/
theorem Cover.exists_exact {before text : List Char} {tokens : List Token}
    (h : Cover before tokens text) :
    ∃ lead pieces, pieces.map Piece.token = tokens ∧ Exact before text lead pieces := by
  induction h with
  | done before => exact ⟨[], [], rfl, exact_nil before⟩
  | blank hblank _ ih =>
      obtain ⟨lead, pieces, htokens, hexact⟩ := ih
      exact ⟨_, pieces, htokens, hexact.blank hblank⟩
  | token hvalue hstart hstop _ ih =>
      obtain ⟨lead, pieces, htokens, hexact⟩ := ih
      refine ⟨[], ⟨_, lead⟩ :: pieces, ?_, hexact.token hvalue hstart hstop⟩
      rw [List.map_cons, htokens]

/-- The tokens of a source text cover it. -/
theorem cover_tokenize (source : String) : Cover [] (tokenize source) source.toList :=
  cover_scan [] 0 source.toList

/-- **Cutting a text into tokens loses nothing, and places are exact.** A source text is some blanks
and then each of its tokens with some blanks behind it; no token is empty, and it starts and stops
at the places that its first and its last character have in the text. Each token stops before all
later ones start, and starts no later than it stops. -/
theorem tokenize_exact (source : String) :
    (∃ lead pieces, pieces.map Piece.token = tokenize source ∧
      Exact [] source.toList lead pieces) ∧
    (tokenize source).Pairwise (fun token later => token.stop < later.start) ∧
    ∀ token ∈ tokenize source, token.start = token.stop ∨ token.start < token.stop :=
  ⟨(cover_tokenize source).exists_exact, (cover_tokenize source).pairwise,
    fun _ hmem => (cover_tokenize source).start_le_stop hmem⟩

-- A string over two lines, a comment up to the end of its line and a string that is not closed.
example : (tokenize "[\"a\nb\" ;c \n \"").map (fun token => (token.start, token.stop)) =
    [(⟨1, 1⟩, ⟨1, 1⟩), (⟨1, 2⟩, ⟨2, 2⟩), (⟨2, 4⟩, ⟨2, 6⟩), (⟨3, 2⟩, ⟨3, 2⟩)] := by
  decide

end Token

end Workbench
