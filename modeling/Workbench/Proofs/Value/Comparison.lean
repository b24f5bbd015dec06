import Mathlib.Data.List.Chain
import Mathlib.Data.List.Pairwise
import Workbench.Proofs.Value.Parts

/-!
# What comparisons mean

The builtin functions that compare look at neighbours only. What they answer is about all of their
arguments all the same, because the relations that they look for are transitive.

* **Sameness is an equivalence** (`Value.same_equivalence`). Two values are the same if and only if
  they are equal once every function is reduced to its stamp (`Value.same_iff_bare_eq`), so that
  reflexivity, symmetry and transitivity are those of equality.
* **Neighbours are enough** (`Builtin.chained_same_iff`, `Builtin.chained_lessThan_iff`): neighbours
  are the same if and only if every two arguments are, and of two or more arguments each is less
  than the next if and only if all are integers and each is less than all behind it. For a single
  argument the second statement fails: it has no neighbour, whatever it is.
* **Descending is ascending backwards** (`Builtin.chained_reverse`).
-/

namespace Workbench

namespace Value

/-- A function of which nothing but the stamp is left. -/
def onlyStamp (stamp : Nat) (_ : List String) (_ : Form) : Value := .function stamp [] (.call [])

/-- What counts in comparisons: of a function that a program has made nothing but its stamp. -/
def bare : Value → Value := mapFunctions onlyStamp

mutual

/-- **Two values are the same if they have the same stamps in the same places**, and are equal
otherwise. -/
theorem same_iff_bare_eq (a b : Value) : a.same b = true ↔ a.bare = b.bare := by
  match a with
  | .list items =>
      cases b with
      | list others => simpa [same, bare, mapFunctions] using sameAll_iff_bare_eq items others
      | null | bool | int | str | function | builtin => simp [same, bare, mapFunctions, onlyStamp]
  | .null | .bool _ | .int _ | .str _ | .function .. | .builtin _ =>
      cases b <;> simp [same, bare, mapFunctions, onlyStamp]

/-- Lists are the same if they are one list without what does not count. -/
theorem sameAll_iff_bare_eq (as bs : List Value) :
    sameAll as bs = true ↔ mapFunctionsAll onlyStamp as = mapFunctionsAll onlyStamp bs := by
  match as with
  | [] => cases bs <;> simp [sameAll, mapFunctionsAll]
  | a :: as =>
      cases bs with
      | nil => simp [sameAll, mapFunctionsAll]
      | cons b bs =>
          have hfirst : a.same b = true ↔ a.mapFunctions onlyStamp = b.mapFunctions onlyStamp :=
            same_iff_bare_eq a b
          simp [sameAll, mapFunctionsAll, hfirst, sameAll_iff_bare_eq as bs]

end

/-- **Sameness is an equivalence.** -/
theorem same_equivalence : Equivalence fun a b : Value => a.same b = true where
  refl a := (same_iff_bare_eq a a).mpr rfl
  symm {a b} h := (same_iff_bare_eq b a).mpr ((same_iff_bare_eq a b).mp h).symm
  trans {a b c} hab hbc := by
    have hbare : a.bare = c.bare :=
      ((same_iff_bare_eq a b).mp hab).trans ((same_iff_bare_eq b c).mp hbc)
    exact (same_iff_bare_eq a c).mpr hbare

end Value

namespace Builtin

variable {values : List Value}

/-! ### Neighbours -/

/-- A comparison of many values is one of neighbours. -/
theorem chained_iff_isChain (relation : Value → Value → Bool) (values : List Value) :
    chained relation values = true ↔ values.IsChain fun a b => relation a b = true := by
  fun_induction chained relation values with
  | case1 a b rest ih => simp [ih]
  | case2 values hshort =>
      match values, hshort with
      | [], _ => simp
      | [a], _ => simp
      | a :: b :: rest, hshort => exact absurd rfl (hshort a b rest)

/-- **Neighbours are the same if and only if every two are.** -/
theorem chained_same_iff (values : List Value) :
    chained Value.same values = true ↔ ∀ a ∈ values, ∀ b ∈ values, a.same b = true := by
  have htrans : IsTrans Value fun a b => a.same b = true :=
    ⟨fun _ _ _ => Value.same_equivalence.trans⟩
  have hsymm : Std.Symm fun a b : Value => a.same b = true :=
    ⟨fun _ _ => Value.same_equivalence.symm⟩
  rw [chained_iff_isChain, List.isChain_iff_pairwise]
  constructor
  · intro hpairs a ha b hb
    exact hpairs.forall_of_forall (fun c _ => Value.same_equivalence.refl c) ha hb
  · intro hall
    rw [List.pairwise_iff_forall_sublist]
    intro a b hab
    exact hall a (hab.subset (by simp)) b (hab.subset (by simp))

/-- Integers are compared as numbers. -/
theorem lessThan_int (m n : Int64) :
    lessThan (.int m) (.int n) = true ↔ m.toInt < n.toInt := by
  simp [lessThan, Int64.lt_iff_toInt_lt]

/-- Only integers come before one another. -/
theorem exists_of_lessThan {a b : Value} (h : lessThan a b = true) :
    ∃ m n : Int64, a = .int m ∧ b = .int n := by
  unfold lessThan at h
  split at h
  · exact ⟨_, _, rfl, rfl⟩
  · cases h

/-- Where there are neighbours, there is nothing but integers. -/
theorem exists_numbers_of_chained :
    ∀ {values : List Value}, 2 ≤ values.length → chained lessThan values = true →
      ∃ numbers : List Int64, values = numbers.map .int
  | a :: b :: rest, _, h => by
      simp only [chained, Bool.and_eq_true] at h
      obtain ⟨m, n, rfl, rfl⟩ := exists_of_lessThan h.1
      cases rest with
      | nil => exact ⟨[m, n], rfl⟩
      | cons c rest =>
          obtain ⟨numbers, hnumbers⟩ := exists_numbers_of_chained (by simp) h.2
          exact ⟨m :: numbers, by rw [hnumbers, List.map_cons]⟩

/-- Integers are in order from neighbour to neighbour exactly if all of them are. -/
theorem chained_lessThan_map_int (numbers : List Int64) :
    chained lessThan (numbers.map .int) = true ↔
      numbers.Pairwise fun m n => m.toInt < n.toInt := by
  have htrans : IsTrans Int64 fun m n => m.toInt < n.toInt := ⟨fun _ _ _ => Int.lt_trans⟩
  rw [chained_iff_isChain, List.isChain_map, ← List.isChain_iff_pairwise]
  simp only [lessThan_int]

/-- **Each of two or more arguments is less than the next if and only if all are integers and each
is less than all behind it.** -/
theorem chained_lessThan_iff (h : 2 ≤ values.length) :
    chained lessThan values = true ↔ ∃ numbers : List Int64,
      values = numbers.map .int ∧ numbers.Pairwise fun m n => m.toInt < n.toInt := by
  constructor
  · intro hchained
    obtain ⟨numbers, rfl⟩ := exists_numbers_of_chained h hchained
    exact ⟨numbers, rfl, (chained_lessThan_map_int numbers).mp hchained⟩
  · rintro ⟨numbers, rfl, hpairs⟩
    exact (chained_lessThan_map_int numbers).mpr hpairs

/-- **A relation backwards is the relation between the values backwards.** -/
theorem chained_reverse (relation : Value → Value → Bool) (values : List Value) :
    chained (fun a b => relation b a) values = chained relation values.reverse := by
  rw [Bool.eq_iff_iff, chained_iff_isChain, chained_iff_isChain, List.isChain_reverse]

/-! ### Answers -/

/-- The builtin functions that compare. -/
def comparing : List Builtin := [.equal, .notEqual, .less, .greater]

/-- The builtin function answers whether something holds. -/
def Tells (builtin : Builtin) (arguments : List Value) (statement : Prop) : Prop :=
  ∃ flag : Bool, builtin.answer arguments = .ok (.bool flag) ∧ (flag = true ↔ statement)

/-- A comparison of something has an answer. -/
theorem compared_of_ne_nil (builtin : Builtin) (holds : List Value → Bool) (h : values ≠ []) :
    compared builtin holds values = .ok (.bool (holds values)) := by
  unfold compared
  split
  · exact absurd rfl h
  · rfl

/-- **What comparisons mean.** Sameness is an equivalence, which looks at nothing but the stamps of
functions. Of any arguments at all `==` tells whether every two are the same and `!=` whether not;
`<` of two or more tells whether all are integers and each is less than all behind it, and `>` is
`<` of the arguments backwards. Of no arguments all four are at fault. -/
theorem comparison_meaning :
    Equivalence (fun a b : Value => a.same b = true) ∧
    (∀ a b : Value, a.same b = true ↔ a.bare = b.bare) ∧
    (∀ arguments : List Value, arguments ≠ [] →
      Tells .equal arguments (∀ a ∈ arguments, ∀ b ∈ arguments, a.same b = true) ∧
      Tells .notEqual arguments (¬ ∀ a ∈ arguments, ∀ b ∈ arguments, a.same b = true) ∧
      answer .greater arguments = answer .less arguments.reverse) ∧
    (∀ arguments : List Value, 2 ≤ arguments.length →
      Tells .less arguments (∃ numbers : List Int64,
        arguments = numbers.map .int ∧ numbers.Pairwise fun m n => m.toInt < n.toInt)) ∧
    ∀ builtin ∈ comparing, builtin.answer [] = .error (.builtinCount builtin 0 2) := by
  refine ⟨Value.same_equivalence, Value.same_iff_bare_eq, ?_, ?_, ?_⟩
  · intro arguments hne
    refine ⟨⟨_, compared_of_ne_nil _ _ hne, chained_same_iff arguments⟩, ?_, ?_⟩
    · refine ⟨_, compared_of_ne_nil _ _ hne, ?_⟩
      rw [← chained_same_iff]
      simp
    · have hne' : arguments.reverse ≠ [] := by simpa using hne
      simp only [answer, compared_of_ne_nil _ _ hne, compared_of_ne_nil _ _ hne', chained_reverse]
  · intro arguments hlength
    have hne : arguments ≠ [] := by
      rintro rfl
      simp at hlength
    exact ⟨_, compared_of_ne_nil _ _ hne, chained_lessThan_iff hlength⟩
  · simp [comparing, answer, compared]

/-- The same text makes a function twice: lists of the two are different, even behind one that is
the same as the first. -/
theorem comparison_meaning_twins :
    let twin (stamp : Nat) : Value := .list [.function stamp ["x"] (.list [])]
    [twin 0, twin 0, twin 1] ≠ [] ∧ answer .equal [twin 0, twin 0, twin 1] = .ok (.bool false) ∧
      answer .greater [.int 5, .int 0, .int Int64.minValue] = .ok (.bool true) := by
  intro twin
  refine ⟨by simp, ?_, ?_⟩
  · obtain ⟨⟨flag, hflag, hiff⟩, -⟩ := comparison_meaning.2.2.1 [twin 0, twin 0, twin 1] (by simp)
    have hdifferent : ¬ (twin 0).same (twin 1) = true := by decide
    have hfalse : flag = false := by
      rw [← Bool.not_eq_true, hiff]
      intro hall
      exact hdifferent (hall (twin 0) (by simp) (twin 1) (by simp))
    rw [hflag, hfalse]
  · rw [(comparison_meaning.2.2.1 _ (by simp)).2.2]
    obtain ⟨flag, hflag, hiff⟩ :=
      comparison_meaning.2.2.2.1 [.int Int64.minValue, .int 0, .int 5] (by simp)
    have htrue : flag = true := hiff.mpr ⟨[Int64.minValue, 0, 5], rfl, by decide⟩
    simpa [htrue] using hflag

end Builtin

end Workbench
