import Mathlib.Algebra.Ring.Int.Defs
import Mathlib.Data.List.Infix
import Workbench.Value.Operation

/-!
# Arithmetic is exact or a fault

A builtin function that calculates works on integers of 64 bits from left to right and gives up at
the first step that it cannot do. Here it is set against the integers without bounds.
`Builtin.exactResult` is what the numbers come to there, all at once: a sum, a difference, a
product, or the quotient of the first number by the product of the others. `Builtin.stages` says how
many of the numbers have been used after each step, so that the exact results of the stages are what
the calculation passes through.

**Theorem** (`Builtin.arithmetic_exact`): the first argument that is not an integer is at fault.
Otherwise the answer is the exact result, unless there is a stage whose exact result does not fit
into 64 bits or does not exist, and the first such stage says what the fault is.

The proof turns every calculation into the list of what its stages come to (`Builtin.follow`). For
sums, differences and products that is a matter of folds. A quotient of quotients, each rounded
toward zero, is the quotient by the product (`Builtin.tdiv_tdiv`).
-/

namespace Workbench.Builtin

/-- The builtin functions that calculate. -/
def calculating : List Builtin := [.add, .subtract, .multiply, .divide]

/-- What integers without bounds come to, if anything. Division rounds toward zero. -/
def exactResult : Builtin → List Int → Option Int
  | .add, numbers => some numbers.sum
  | .subtract, [number] => some (-number)
  | .subtract, number :: rest => some (number - rest.sum)
  | .multiply, numbers => some numbers.prod
  | .divide, number :: rest => if rest.prod = 0 then none else some (number.tdiv rest.prod)
  | _, _ => none

/-- The numbers that have been used after each step from left to right. Sums and products start from
nothing, so that the first number takes a step of its own; differences and quotients start from the
first number, unless it is the only one and is negated. -/
def stages : Builtin → List Int → List (List Int)
  | .subtract, [number] => [[number]]
  | .subtract, numbers => numbers.inits.drop 2
  | .divide, numbers => numbers.inits.drop 2
  | _, numbers => numbers.inits.drop 1

/-- Whether a result exists and is an integer of 64 bits. -/
def fits : Option Int → Bool
  | some result => decide (-2 ^ 63 ≤ result ∧ result < 2 ^ 63)
  | none => false

/-- The exact result of the first step that cannot be done: one that does not fit, or none at all
where the step is a division by zero. -/
def undone? (builtin : Builtin) (numbers : List Int) : Option (Option Int) :=
  ((builtin.stages numbers).map builtin.exactResult).find? fun result => !fits result

/-- How a calculation with integers ends. -/
structure EndsExactly (builtin : Builtin) (numbers : List Int) (outcome : Except Fault Value) :
    Prop where
  /-- Nothing has no difference and no quotient. -/
  nothing : numbers = [] → builtin = .subtract ∨ builtin = .divide →
    ∃ wanted, outcome = .error (.builtinCount builtin 0 wanted)
  /-- A step had an exact result that does not fit. -/
  overflow : outcome = .error (.overflow builtin) ↔
    ∃ result, builtin.undone? numbers = some (some result)
  /-- A step was a division by zero. -/
  divisionByZero : outcome = .error .divisionByZero ↔ builtin.undone? numbers = some none
  /-- Every step was done, and the answer is the exact result. -/
  answer : ∀ value, outcome = .ok value ↔ builtin.undone? numbers = none ∧
    ∃ number : Int64, value = .int number ∧ builtin.exactResult numbers = some number.toInt

/-! ### Arguments -/

/-- The first argument that is not an integer is at fault. -/
theorem integers_of_find? (builtin : Builtin) {arguments : List Value} {value : Value}
    (h : arguments.find? (fun argument => argument.kind ≠ .number) = some value) :
    builtin.integers arguments = .error (.builtinArgument builtin .number value.kind) := by
  induction arguments with
  | nil => simp at h
  | cons argument rest ih =>
      cases argument with
      | int number =>
          rw [List.find?_cons_of_neg (by simp [Value.kind])] at h
          simp [integers, ih h, Except.map]
      | null | bool | str | list | function | builtin =>
          rw [List.find?_cons_of_pos (by simp [Value.kind])] at h
          cases h
          rfl

/-- Integers are what calculations take. -/
theorem integers_map_int (builtin : Builtin) (numbers : List Int64) :
    builtin.integers (numbers.map .int) = .ok numbers := by
  induction numbers with
  | nil => rfl
  | cons number rest ih => simp [integers, ih, Except.map]

/-- Arguments among which there is nothing but integers. -/
theorem exists_numbers {arguments : List Value}
    (h : arguments.find? (fun argument => argument.kind ≠ .number) = none) :
    ∃ numbers : List Int64, arguments = numbers.map .int := by
  induction arguments with
  | nil => exact ⟨[], rfl⟩
  | cons argument rest ih =>
      cases argument with
      | int number =>
          rw [List.find?_cons_of_neg (by simp [Value.kind])] at h
          obtain ⟨numbers, rfl⟩ := ih h
          exact ⟨number :: numbers, rfl⟩
      | null | bool | str | list | function | builtin =>
          rw [List.find?_cons_of_pos (by simp [Value.kind])] at h
          cases h

/-! ### Following the stages -/

/-- A calculation by what its stages come to. -/
def follow (builtin : Builtin) (total : Int64) : List (Option Int) → Except Fault Int64
  | [] => .ok total
  | none :: _ => .error .divisionByZero
  | some result :: rest => do
      let total ← exact builtin result
      follow builtin total rest

/-- A result of 64 bits is taken as it is, and every other one is at fault. -/
theorem exact_cases (builtin : Builtin) (result : Int) :
    (fits (some result) = true ∧ ∃ number : Int64, exact builtin result = .ok number ∧
      number.toInt = result) ∨
    (fits (some result) = false ∧ exact builtin result = .error (.overflow builtin)) := by
  unfold exact
  cases hnarrow : Value.narrow? result with
  | some number =>
      refine .inl ⟨?_, number, rfl, Value.toInt_of_narrow? hnarrow⟩
      have hmin := number.le_toInt
      have hmax := number.toInt_lt
      rw [Value.toInt_of_narrow? hnarrow] at hmin hmax
      exact decide_eq_true ⟨hmin, hmax⟩
  | none =>
      refine .inr ⟨?_, rfl⟩
      unfold Value.narrow? at hnarrow
      split at hnarrow
      · cases hnarrow
      · rename_i hrange
        unfold Value.minInt Value.maxInt at hrange
        simp only [fits, decide_eq_false_iff_not]
        omega

/-- What comes after a step depends on its exact result alone. -/
theorem exact_bind_congr {α : Type} {builtin : Builtin} {result : Int}
    {next next' : Int64 → Except Fault α}
    (h : ∀ number : Int64, number.toInt = result → next number = next' number) :
    (exact builtin result >>= next) = exact builtin result >>= next' := by
  rcases exact_cases builtin result with ⟨-, number, hexact, hnumber⟩ | ⟨-, hexact⟩
  · rw [hexact]
    exact h number hnumber
  · rw [hexact]
    rfl

section Follow

variable (builtin : Builtin) (total : Int64) {results : List (Option Int)}

/-- Where every stage fits, the last one is the answer. -/
theorem follow_of_fits (h : results.find? (fun result => !fits result) = none) :
    ∃ number : Int64, follow builtin total results = .ok number ∧
      results.getLast?.getD (some total.toInt) = some number.toInt := by
  induction results generalizing total with
  | nil => exact ⟨total, rfl, rfl⟩
  | cons result rest ih =>
      cases result with
      | none => simp [fits] at h
      | some result =>
          rcases exact_cases builtin result with ⟨hfits, number, hexact, rfl⟩ | ⟨hfits, -⟩
          · rw [List.find?_cons_of_neg (by simp [hfits])] at h
            obtain ⟨last, hlast, hget⟩ := ih number h
            refine ⟨last, ?_, ?_⟩
            · simp only [follow, hexact]
              exact hlast
            · rw [List.getLast?_cons, Option.getD_some]
              exact hget
          · rw [List.find?_cons_of_pos (by simp [hfits])] at h
            exact absurd h (by simp)

/-- The first stage that does not fit says what the fault is. -/
theorem follow_of_not_fits {result : Option Int}
    (h : results.find? (fun result => !fits result) = some result) :
    follow builtin total results =
      .error (if result = none then .divisionByZero else .overflow builtin) := by
  induction results generalizing total with
  | nil => cases h
  | cons first rest ih =>
      cases first with
      | none =>
          rw [List.find?_cons_of_pos (by simp [fits])] at h
          cases h
          rfl
      | some first =>
          rcases exact_cases builtin first with ⟨hfits, number, hexact, -⟩ | ⟨hfits, hexact⟩
          · rw [List.find?_cons_of_neg (by simp [hfits])] at h
            simp only [follow, hexact]
            exact ih number h
          · rw [List.find?_cons_of_pos (by simp [hfits])] at h
            cases h
            simp only [follow, hexact]
            rfl

end Follow

/-! ### The stages of each calculation -/

/-- After each step from nothing, the first number has been used, and some of the others. -/
theorem inits_drop_one_cons (number : Int) (rest : List Int) :
    (number :: rest).inits.drop 1 = [number] :: (rest.inits.drop 1).map (number :: ·) := by
  cases rest <;> simp

/-- Steps that start from the first number use it from the beginning. -/
theorem inits_drop_two_cons (number : Int) (rest : List Int) :
    (number :: rest).inits.drop 2 = (rest.inits.drop 1).map (number :: ·) := by
  simp

/-- What holds of the numbers up to each place holds of all of them at the last place. -/
theorem getLast?_inits_drop_one (f : List Int → Option Int) (numbers : List Int) :
    ((numbers.inits.drop 1).map f).getLast?.getD (f []) = f numbers := by
  induction numbers generalizing f with
  | nil => rfl
  | cons number rest ih =>
      rw [inits_drop_one_cons, List.map_cons, List.map_map, List.getLast?_cons, Option.getD_some]
      exact ih (f ∘ (number :: ·))

/-- An operation from left to right passes through the folds of the numbers up to each place. -/
theorem accumulate_eq_follow (builtin : Builtin) (operation : Int → Int → Int) (total : Int64)
    (numbers : List Int64) :
    accumulate builtin operation total numbers =
      follow builtin total (((numbers.map Int64.toInt).inits.drop 1).map fun first =>
        some (first.foldl operation total.toInt)) := by
  induction numbers generalizing total with
  | nil => rfl
  | cons number rest ih =>
      rw [List.map_cons, inits_drop_one_cons, List.map_cons, List.map_map, accumulate, follow]
      simp only [List.foldl_cons, List.foldl_nil]
      refine exact_bind_congr fun next hnext => ?_
      have hrest := ih next
      rw [hnext] at hrest
      exact hrest

/-- **A quotient of quotients is the quotient by the product**, also when all of them are rounded
toward zero. -/
theorem tdiv_tdiv (a b c : Int) : (a.tdiv b).tdiv c = a.tdiv (b * c) := by
  obtain ⟨k, rfl | rfl⟩ := a.eq_nat_or_neg <;> obtain ⟨m, rfl | rfl⟩ := b.eq_nat_or_neg <;>
    obtain ⟨n, rfl | rfl⟩ := c.eq_nat_or_neg <;>
    simp only [Int.neg_tdiv, Int.tdiv_neg, Int.neg_mul, Int.mul_neg, Int.neg_neg,
      ← Int.natCast_mul, ← Int.ofNat_tdiv, Nat.div_div_eq_div_mul]

/-- Quotients from left to right pass through the quotients by the products. -/
theorem quotients_eq_follow (total : Int64) (numbers : List Int64) :
    quotients total numbers =
      follow .divide total (((numbers.map Int64.toInt).inits.drop 1).map fun first =>
        if first.prod = 0 then none else some (total.toInt.tdiv first.prod)) := by
  induction numbers generalizing total with
  | nil => rfl
  | cons number rest ih =>
      rw [List.map_cons, inits_drop_one_cons, List.map_cons, List.map_map, quotients]
      by_cases hzero : number = 0
      · rw [if_pos hzero]
        simp [hzero, follow]
      · have hne : number.toInt ≠ 0 := by
          intro h
          exact hzero (Int64.toInt_inj.mp (by simpa using h))
        rw [if_neg hzero, List.prod_singleton, if_neg hne, follow]
        refine exact_bind_congr fun next hnext => ?_
        have hrest := ih next
        rw [hnext] at hrest
        simp only [Function.comp_def, List.prod_cons, Int.mul_eq_zero, hne, false_or, ← tdiv_tdiv]
        exact hrest

/-- To subtract numbers one after the other is to subtract their sum. -/
theorem foldl_sub (total : Int) (numbers : List Int) :
    numbers.foldl (· - ·) total = total - numbers.sum := by
  induction numbers generalizing total with
  | nil => simp
  | cons number rest ih =>
      rw [List.foldl_cons, ih, List.sum_cons]
      omega

/-- What a calculation starts from and passes through. -/
structure Course (builtin : Builtin) (numbers : List Int64) (total : Int64) : Prop where
  answer : builtin.answer (numbers.map .int) =
    (builtin.follow total
      ((builtin.stages (numbers.map Int64.toInt)).map builtin.exactResult)).map .int
  last : (((builtin.stages (numbers.map Int64.toInt)).map builtin.exactResult).getLast?).getD
    (some total.toInt) = builtin.exactResult (numbers.map Int64.toInt)

/-- The answer to integers is the answer of the calculation with their numbers. -/
theorem map_bind_int (numbers : List Int64) (builtin : Builtin)
    (calculation : List Int64 → Except Fault Int64) :
    (do
      let numbers ← builtin.integers (numbers.map .int)
      return Value.int (← calculation numbers)) = (calculation numbers).map Value.int := by
  rw [integers_map_int]
  cases hcalculation : calculation numbers with
  | ok number => simp [bind, Except.bind, pure, Except.pure, Except.map, hcalculation]
  | error cause => simp [bind, Except.bind, Except.map, hcalculation]

/-- A calculation that starts from what no number comes to. -/
theorem Course.of_results {builtin : Builtin} {numbers : List Int64} {total : Int64}
    (rest : List Int) (f : List Int → Option Int) (hstart : f [] = some total.toInt)
    (hend : f rest = builtin.exactResult (numbers.map Int64.toInt))
    (hresults : (builtin.stages (numbers.map Int64.toInt)).map builtin.exactResult =
      (rest.inits.drop 1).map f)
    (hanswer : builtin.answer (numbers.map .int) =
      (builtin.follow total ((rest.inits.drop 1).map f)).map .int) :
    Course builtin numbers total := by
  refine ⟨?_, ?_⟩
  · rw [hresults]
    exact hanswer
  · rw [hresults, ← hstart, getLast?_inits_drop_one]
    exact hend

/-- A sum starts from zero and passes through the sums of the first numbers. -/
theorem course_add (numbers : List Int64) : Course .add numbers 0 := by
  have hfold : (fun first : List Int => some (first.foldl (· + ·) 0)) = exactResult .add := by
    funext first
    rw [exactResult, List.sum_eq_foldl]
  refine Course.of_results (numbers.map Int64.toInt) (exactResult .add) rfl rfl rfl ?_
  rw [answer, map_bind_int numbers .add fun numbers => accumulate .add (· + ·) 0 numbers,
    accumulate_eq_follow, ← hfold]
  rfl

/-- A product starts from one and passes through the products of the first numbers. -/
theorem course_multiply (numbers : List Int64) : Course .multiply numbers 1 := by
  have hfold : (fun first : List Int => some (first.foldl (· * ·) 1)) = exactResult .multiply := by
    funext first
    rw [exactResult, List.prod_eq_foldl]
  refine Course.of_results (numbers.map Int64.toInt) (exactResult .multiply) rfl rfl rfl ?_
  rw [answer, map_bind_int numbers .multiply fun numbers => accumulate .multiply (· * ·) 1 numbers,
    accumulate_eq_follow, ← hfold]
  rfl

/-- A single number is negated in one step. -/
theorem course_negate (number : Int64) : Course .subtract [number] number where
  answer := by
    rw [answer, map_bind_int [number] .subtract differences]
    simp only [differences, stages, exactResult, List.map_cons, List.map_nil, follow]
    cases exact .subtract (-number.toInt) <;> rfl
  last := rfl

/-- A difference starts from the first number, from which the sums of the next ones are taken. -/
theorem course_subtract (number second : Int64) (rest : List Int64) :
    Course .subtract (number :: second :: rest) number := by
  refine Course.of_results ((second :: rest).map Int64.toInt)
    (fun first => some (number.toInt - first.sum)) ?_ rfl ?_ ?_
  · simp
  · simp [stages, exactResult, Function.comp_def]
  · rw [answer, map_bind_int _ .subtract differences]
    simp only [differences, accumulate_eq_follow, foldl_sub]

/-- A quotient starts from the first number, which is divided by the products of the next ones. -/
theorem course_divide (number : Int64) (rest : List Int64) :
    Course .divide (number :: rest) number := by
  refine Course.of_results (rest.map Int64.toInt)
    (fun first => if first.prod = 0 then none else some (number.toInt.tdiv first.prod)) ?_ rfl ?_ ?_
  · simp
  · rw [List.map_cons, stages, inits_drop_two_cons, List.map_map]
    rfl
  · rw [answer, integers_map_int, ← quotients_eq_follow]
    cases hquotients : quotients number rest <;>
      simp [bind, Except.bind, pure, Except.pure, Except.map, hquotients]

/-! ### How calculations end -/

/-- A calculation that follows its course ends as the exact results of its stages say. -/
theorem Course.endsExactly {builtin : Builtin} {numbers : List Int64} {total : Int64}
    (h : Course builtin numbers total)
    (hsome : numbers = [] → ¬ (builtin = .subtract ∨ builtin = .divide)) :
    EndsExactly builtin (numbers.map Int64.toInt) (builtin.answer (numbers.map .int)) := by
  have hnothing : numbers.map Int64.toInt = [] → ¬ (builtin = .subtract ∨ builtin = .divide) :=
    fun hnil => hsome (List.map_eq_nil_iff.mp hnil)
  rw [h.answer]
  cases hundone : builtin.undone? (numbers.map Int64.toInt) with
  | none =>
      obtain ⟨number, hnumber, hlast⟩ := follow_of_fits builtin total hundone
      rw [h.last] at hlast
      rw [hnumber]
      refine ⟨fun hnil hneeds => absurd hneeds (hnothing hnil), ?_, ?_, ?_⟩
      · simp [hundone, Except.map]
      · simp [hundone, Except.map]
      · intro value
        constructor
        · intro hvalue
          cases hvalue
          exact ⟨hundone, number, rfl, hlast⟩
        · rintro ⟨-, other, rfl, hother⟩
          rw [hlast, Option.some.injEq, Int64.toInt_inj] at hother
          rw [hother]
          rfl
  | some result =>
      have hfault := follow_of_not_fits builtin total hundone
      rw [hfault]
      refine ⟨fun hnil hneeds => absurd hneeds (hnothing hnil), ?_, ?_, ?_⟩
      · cases result <;> simp [hundone, Except.map]
      · cases result <;> simp [hundone, Except.map]
      · intro value
        simp [hundone, Except.map]

/-- Nothing has no difference and no quotient. -/
theorem endsExactly_nothing {builtin : Builtin} (h : builtin = .subtract ∨ builtin = .divide) :
    EndsExactly builtin [] (builtin.answer []) := by
  rcases h with rfl | rfl
  · refine ⟨fun _ _ => ⟨1, rfl⟩, ?_, ?_, ?_⟩ <;>
      simp [answer, integers, differences, undone?, stages, exactResult, bind, Except.bind]
  · refine ⟨fun _ _ => ⟨2, rfl⟩, ?_, ?_, ?_⟩ <;>
      simp [answer, integers, undone?, stages, exactResult, bind, Except.bind, throw, throwThe,
        MonadExceptOf.throw]

/-- **Arithmetic is exact or a fault.** The first argument that is not an integer is at fault.
Integers have their exact sum, difference, product or quotient as the answer, unless there is a
first step from left to right that cannot be done: its exact result does not fit into 64 bits, which
is an overflow, or it is a division by zero. -/
theorem arithmetic_exact {builtin : Builtin} (h : builtin ∈ calculating) (arguments : List Value) :
    (∃ value, arguments.find? (fun argument => argument.kind ≠ .number) = some value ∧
      builtin.answer arguments = .error (.builtinArgument builtin .number value.kind)) ∨
    ∃ numbers : List Int64, arguments = numbers.map .int ∧
      EndsExactly builtin (numbers.map Int64.toInt) (builtin.answer arguments) := by
  simp only [calculating, List.mem_cons, List.not_mem_nil, or_false] at h
  cases hfind : arguments.find? (fun argument => argument.kind ≠ .number) with
  | some value =>
      refine .inl ⟨value, rfl, ?_⟩
      rcases h with rfl | rfl | rfl | rfl <;> rw [answer, integers_of_find? _ hfind] <;> rfl
  | none =>
      obtain ⟨numbers, rfl⟩ := exists_numbers hfind
      refine .inr ⟨numbers, rfl, ?_⟩
      rcases h with rfl | rfl | rfl | rfl
      · exact (course_add numbers).endsExactly (by simp)
      · match numbers with
        | [] => exact endsExactly_nothing (.inl rfl)
        | [number] => exact (course_negate number).endsExactly (by simp)
        | number :: second :: rest =>
            exact (course_subtract number second rest).endsExactly (by simp)
      · exact (course_multiply numbers).endsExactly (by simp)
      · match numbers with
        | [] => exact endsExactly_nothing (.inr rfl)
        | number :: rest => exact (course_divide number rest).endsExactly (by simp)

/-- The least integer divided by one, by minus one and by zero: the second step is the first that
cannot be done. -/
theorem arithmetic_exact_least :
    Builtin.divide ∈ calculating ∧
    undone? .divide [-2 ^ 63, 1, -1, 0] = some (some (2 ^ 63)) ∧
    answer .divide [.int Int64.minValue, .int 1, .int (-1), .int 0] =
      .error (.overflow .divide) := by
  have hundone : undone? .divide [-2 ^ 63, 1, -1, 0] = some (some (2 ^ 63)) := by decide
  refine ⟨by decide, hundone, ?_⟩
  rcases @arithmetic_exact .divide (by decide)
    [.int Int64.minValue, .int 1, .int (-1), .int 0] with ⟨value, hfind, -⟩ | ⟨numbers, hnumbers, h⟩
  · simp [Value.kind] at hfind
  · have hints : [Int64.minValue, 1, -1, 0].map Value.int = numbers.map Value.int := hnumbers
    rw [List.map_inj_right fun _ _ => Value.int.inj] at hints
    rw [← hints] at h
    exact h.overflow.mpr ⟨_, hundone⟩

end Workbench.Builtin
