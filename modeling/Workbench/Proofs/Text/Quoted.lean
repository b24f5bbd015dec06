import Mathlib.Tactic.SplitIfs
import Workbench.Text.Join
import Workbench.Text.Quoted

/-!
# Texts that end where they end

A text that stands in front of other text can be read only if it shows where it ends.
`Text.SelfDelimited` says so without a reader: if what is written of one thing and something behind
it is the same text as what is written of another thing and something behind that, then the things
are the same, and so is what is behind them. There are two ways to get there. A text may end in a
character that it does not have in it otherwise (`SelfDelimited.of_stop`), or it is a row of such
texts before a character that none of them starts with (`SelfDelimited.row`).

**Theorem** (`Quoted.encode_selfDelimited`): quoted text is of this kind. Every character in it is
written on its own, in one of three ways that differ in what they start with
(`Quoted.escaped_escape`), and none of them starts with a quote.
-/

namespace Workbench.Text

/-- What is written of a thing can be told from what is written of any of these things, whatever
stands behind it. -/
def SelfDelimited {α : Type} (these : α → Prop) (write : α → List Char) (a : α) : Prop :=
  ∀ b, these b → ∀ behind other, write a ++ behind = write b ++ other → a = b ∧ behind = other

section SelfDelimited

variable {α : Type} {these : α → Prop} {write : α → List Char} {a : α} {stop : Char}

/-- Two texts end at the same place if each goes on to a character that is not in it. -/
theorem eq_of_append_stop {cs ds behind other : List Char} (hcs : stop ∉ cs) (hds : stop ∉ ds)
    (h : cs ++ stop :: behind = ds ++ stop :: other) : cs = ds ∧ behind = other := by
  induction cs generalizing ds with
  | nil =>
      cases ds with
      | nil => simpa using h
      | cons d ds =>
          rw [List.nil_append, List.cons_append, List.cons.injEq] at h
          exact absurd (h.1 ▸ List.mem_cons_self) hds
  | cons c cs ih =>
      cases ds with
      | nil =>
          rw [List.nil_append, List.cons_append, List.cons.injEq] at h
          exact absurd (h.1 ▸ List.mem_cons_self) hcs
      | cons d ds =>
          simp only [List.cons_append, List.cons.injEq] at h
          simp only [List.mem_cons, not_or] at hcs hds
          obtain ⟨rfl, hbehind⟩ := ih hcs.2 hds.2 h.2
          exact ⟨by rw [h.1], hbehind⟩

/-- A text ends at the first place where a character stands that is not in it. -/
theorem SelfDelimited.of_stop (hinjective : ∀ b, these b → write a = write b → a = b)
    (hstop : ∀ b, stop ∉ write b) : SelfDelimited these (fun a => write a ++ [stop]) a := by
  intro b hb behind other h
  simp only [List.append_assoc, List.singleton_append] at h
  obtain ⟨hwrite, hbehind⟩ := eq_of_append_stop (hstop a) (hstop b) h
  exact ⟨hinjective b hb hwrite, hbehind⟩

/-- How lists are written: an empty one as a stop, and any other one as its first element, which does
not start with the stop, and the others behind it. -/
structure WritesList (write : α → List Char) (rest code : List α → List Char) (stop : Char) :
    Prop where
  nil : code [] = [stop]
  cons : ∀ a as, code (a :: as) = write a ++ rest as
  start : ∀ a behind other, write a ++ behind ≠ stop :: other

section WritesList

variable {rest code : List α → List Char} (h : WritesList write rest code stop)
include h

/-- An empty list can be told from every other one. -/
theorem WritesList.selfDelimited_nil : SelfDelimited (fun bs => ∀ b ∈ bs, these b) code [] := by
  intro bs _ behind other hsame
  cases bs with
  | nil => simpa [h.nil] using hsame
  | cons b bs =>
      rw [h.nil, h.cons, List.append_assoc] at hsame
      exact absurd hsame.symm (h.start b _ _)

/-- A list shows where it ends if its first element does, and then the others do. -/
theorem WritesList.selfDelimited_cons (ha : SelfDelimited these write a) {as : List α}
    (has : SelfDelimited (fun bs => ∀ b ∈ bs, these b) rest as) :
    SelfDelimited (fun bs => ∀ b ∈ bs, these b) code (a :: as) := by
  intro bs hbs behind other hsame
  cases bs with
  | nil =>
      rw [h.nil, h.cons, List.append_assoc] at hsame
      exact absurd hsame (h.start a _ _)
  | cons b bs =>
      rw [h.cons, h.cons, List.append_assoc, List.append_assoc] at hsame
      obtain ⟨rfl, hrest⟩ := ha b (hbs b List.mem_cons_self) _ _ hsame
      obtain ⟨rfl, hbehind⟩ := has bs (fun c hc => hbs c (List.mem_cons_of_mem _ hc)) _ _ hrest
      exact ⟨rfl, hbehind⟩

end WritesList

/-- **A row of texts ends at a character that none of them starts with.** The induction is on the
row, and takes one text off both sides at each step. -/
theorem SelfDelimited.row {as : List α} (ha : ∀ a ∈ as, SelfDelimited these write a)
    (hstart : ∀ b behind other, write b ++ behind ≠ stop :: other) :
    SelfDelimited (fun bs => ∀ b ∈ bs, these b) (fun as => as.flatMap write ++ [stop]) as := by
  have hwrites : WritesList write (fun as => as.flatMap write ++ [stop])
      (fun as => as.flatMap write ++ [stop]) stop :=
    ⟨rfl, fun a as => by simp, hstart⟩
  induction as with
  | nil => exact hwrites.selfDelimited_nil
  | cons a as ih =>
      exact hwrites.selfDelimited_cons (ha a List.mem_cons_self)
        (ih fun c hc => ha c (List.mem_cons_of_mem _ hc))

end SelfDelimited

namespace Quoted

/-! ### Code points -/

/-- A hexadecimal digit stands for one number. -/
theorem digitChar_injective {m n : Nat} (hm : m < 16) (hn : n < 16)
    (h : Nat.digitChar m = Nat.digitChar n) : m = n := by
  revert n
  revert m
  decide

/-- The digits of a number from sixteen on end in its last digit. -/
theorem toDigits_of_le {n : Nat} (h : 16 ≤ n) :
    Nat.toDigits 16 n = Nat.toDigits 16 (n / 16) ++ [Nat.digitChar (n % 16)] :=
  Nat.toDigits_of_base_le (by decide) h

/-- Numbers of one digit and numbers of more digits are written differently. -/
theorem toDigits_ne_of_lt_of_le {m n : Nat} (hm : m < 16) (hn : 16 ≤ n) :
    Nat.toDigits 16 m ≠ Nat.toDigits 16 n := by
  intro h
  rw [Nat.toDigits_of_lt_base hm, toDigits_of_le hn] at h
  have hlength := congrArg List.length h
  have hpos : 0 < (Nat.toDigits 16 (n / 16)).length := Nat.length_toDigits_pos
  simp only [List.length_append, List.length_singleton] at hlength
  omega

/-- Different numbers have different hexadecimal digits. The induction takes the last digit off. -/
theorem toDigits_injective {m n : Nat} (h : Nat.toDigits 16 m = Nat.toDigits 16 n) : m = n := by
  induction m using Nat.strongRecOn generalizing n with
  | ind m ih =>
      by_cases hm : m < 16 <;> by_cases hn : n < 16
      · rw [Nat.toDigits_of_lt_base hm, Nat.toDigits_of_lt_base hn] at h
        exact digitChar_injective hm hn (List.singleton_inj.mp h)
      · exact absurd h (toDigits_ne_of_lt_of_le hm (Nat.not_lt.mp hn))
      · exact absurd h.symm (toDigits_ne_of_lt_of_le hn (Nat.not_lt.mp hm))
      · rw [toDigits_of_le (Nat.not_lt.mp hm), toDigits_of_le (Nat.not_lt.mp hn)] at h
        obtain ⟨hfront, hlast⟩ := List.append_inj' h rfl
        have hdiv : m / 16 = n / 16 := ih (m / 16) (by omega) hfront
        have hmod : m % 16 = n % 16 :=
          digitChar_injective (Nat.mod_lt _ (by decide)) (Nat.mod_lt _ (by decide))
            (List.singleton_inj.mp hlast)
        omega

/-- A number has no brace in it. -/
theorem brace_notMem_toDigits (n : Nat) : '\x7d' ∉ Nat.toDigits 16 n := by
  induction n using Nat.strongRecOn with
  | ind n ih =>
      by_cases hn : n < 16
      · rw [Nat.toDigits_of_lt_base hn, List.mem_singleton]
        exact (Nat.digitChar_ne '\x7d' rfl).symm
      · rw [toDigits_of_le (Nat.not_lt.mp hn), List.mem_append, List.mem_singleton, not_or]
        exact ⟨ih (n / 16) (by omega), (Nat.digitChar_ne '\x7d' rfl).symm⟩

/-- A code point ends at its brace. -/
theorem codePoint_selfDelimited (c : Char) : SelfDelimited (fun _ => True) codePoint c := by
  intro d _ behind other h
  have hdigits : SelfDelimited (fun _ => True)
      (fun c : Char => Nat.toDigits 16 c.toNat ++ ['\x7d']) c :=
    .of_stop (fun d _ heq => Char.toNat_inj.mp (toDigits_injective heq))
      (fun d => brace_notMem_toDigits d.toNat)
  exact hdigits d trivial behind other (by simpa [codePoint] using h)

/-! ### Characters -/

/-- The characters that are written by a backslash and a letter, with these letters. -/
def letters : List (Char × Char) :=
  [('\x00', '0'), ('\t', 't'), ('\r', 'r'), ('\n', 'n'), ('"', '"'), ('\\', '\\')]

/-- The three ways in which a character can be written. -/
inductive Escaped (c : Char) : List Char → Prop where
  | letter {e : Char} (hletter : (c, e) ∈ letters) : Escaped c ['\\', e]
  | codePoint : Escaped c (codePoint c)
  | plain (hquote : c ≠ '"') (hbackslash : c ≠ '\\') : Escaped c [c]

/-- **Every character is written in one of these ways.** -/
theorem escaped_escape (c : Char) : Escaped c (escape c) := by
  unfold escape
  split_ifs with h0 ht hr hn hq hb hseen
  · exact .letter (by simp [letters, h0])
  · exact .letter (by simp [letters, ht])
  · exact .letter (by simp [letters, hr])
  · exact .letter (by simp [letters, hn])
  · exact .letter (by simp [letters, hq])
  · exact .letter (by simp [letters, hb])
  · exact .codePoint
  · exact .plain hq hb

/-- No way of writing a character starts with a quote. -/
theorem Escaped.append_ne {c : Char} {cs behind other : List Char} (h : Escaped c cs) :
    cs ++ behind ≠ '"' :: other := by
  cases h with
  | letter | codePoint => simp [Quoted.codePoint]
  | plain hquote => simp [hquote]

/-- A letter stands for one character. -/
theorem letters_injective {c d e : Char} (hc : (c, e) ∈ letters) (hd : (d, e) ∈ letters) :
    c = d := by
  have hall : ∀ p ∈ letters, ∀ q ∈ letters, p.2 = q.2 → p.1 = q.1 := by decide
  exact hall (c, e) hc (d, e) hd rfl

/-- None of the letters is the one that announces a code point. -/
theorem letter_ne_u {c e : Char} (h : (c, e) ∈ letters) : e ≠ 'u' := by
  have hall : ∀ p ∈ letters, p.2 ≠ 'u' := by decide
  exact hall (c, e) h

/-- **Every character is written on its own.** What follows a backslash tells a letter from a code
point, and no other character is a backslash. -/
theorem escape_selfDelimited (c : Char) : SelfDelimited (fun _ => True) escape c := by
  intro d _ behind other h
  have hc := escaped_escape c
  have hd := escaped_escape d
  generalize escape c = cs at h hc
  generalize escape d = ds at h hd
  cases hc with
  | letter hletter =>
      cases hd with
      | letter hother =>
          simp only [List.cons_append, List.nil_append, List.cons.injEq, true_and] at h
          obtain ⟨rfl, hbehind⟩ := h
          exact ⟨letters_injective hletter hother, hbehind⟩
      | codePoint =>
          simp only [Quoted.codePoint, List.cons_append, List.cons.injEq, true_and] at h
          exact absurd h.1 (letter_ne_u hletter)
      | plain _ hbackslash =>
          simp only [List.cons_append, List.cons.injEq] at h
          exact absurd h.1.symm hbackslash
  | codePoint =>
      cases hd with
      | letter hother =>
          simp only [Quoted.codePoint, List.cons_append, List.cons.injEq, true_and] at h
          exact absurd h.1.symm (letter_ne_u hother)
      | codePoint => exact codePoint_selfDelimited c d trivial behind other h
      | plain _ hbackslash =>
          simp only [Quoted.codePoint, List.cons_append, List.cons.injEq] at h
          exact absurd h.1.symm hbackslash
  | plain _ hbackslash =>
      cases hd with
      | letter | codePoint =>
          simp only [Quoted.codePoint, List.cons_append, List.cons.injEq] at h
          exact absurd h.1 hbackslash
      | plain => simpa using h

/-- **A quoted text ends at its second quote.** -/
theorem encode_selfDelimited (cs : List Char) : SelfDelimited (fun _ => True) encode cs := by
  intro ds _ behind other h
  have hrow : SelfDelimited (fun ds => ∀ d ∈ ds, True) (fun cs => cs.flatMap escape ++ ['"']) cs :=
    .row (fun c _ => escape_selfDelimited c) fun c _ _ => (escaped_escape c).append_ne
  exact hrow ds (fun _ _ => trivial) behind other (List.cons.inj h).2

end Quoted

/-! ### Texts between commas -/

/-- Texts with a separator between them: the first one, and then each behind a separator. -/
theorem toList_joinWith_cons (separator s : String) (rest : List String) :
    (joinWith separator (s :: rest)).toList =
      s.toList ++ rest.flatMap fun t => separator.toList ++ t.toList := by
  induction rest generalizing s with
  | nil => simp
  | cons t rest ih => simp [ih]

/-- **Texts with a separator between them end at a character** with which neither the separator nor
any of them starts. -/
theorem SelfDelimited.joinWith {α : Type} {these : α → Prop} {write : α → String}
    {separator : String} {stop : Char} {as : List α}
    (ha : ∀ a ∈ as, SelfDelimited these (fun a => (write a).toList) a)
    (hstart : ∀ b behind other, (write b).toList ++ behind ≠ stop :: other)
    (hseparator : ∀ behind other, separator.toList ++ behind ≠ stop :: other) :
    SelfDelimited (fun bs => ∀ b ∈ bs, these b)
      (fun as => (Text.joinWith separator (as.map write)).toList ++ [stop]) as := by
  -- Behind the first text there is a row of texts, each behind a separator.
  have hwrites : WritesList (fun a => (write a).toList)
      (fun as => as.flatMap (fun a => separator.toList ++ (write a).toList) ++ [stop])
      (fun as => (Text.joinWith separator (as.map write)).toList ++ [stop]) stop := by
    refine ⟨rfl, fun a as => ?_, hstart⟩
    simp only [List.map_cons, toList_joinWith_cons, List.append_assoc, List.flatMap_map]
  cases as with
  | nil => exact hwrites.selfDelimited_nil
  | cons a as =>
      refine hwrites.selfDelimited_cons (ha a List.mem_cons_self) (.row ?_ ?_)
      · intro c hc b hb behind other h
        simp only [List.append_assoc, List.append_cancel_left_eq] at h
        exact ha c (List.mem_cons_of_mem _ hc) b hb behind other h
      · intro b behind other
        rw [List.append_assoc]
        exact hseparator _ _

end Workbench.Text
