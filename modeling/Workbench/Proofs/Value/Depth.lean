import Workbench.Proofs.Value.Parts

/-!
# The depth of values

How deeply lists are nested in values, and what builtin functions do about it: one call puts at most
one list around its arguments (`Builtin.depth_answer_le`).
-/

namespace Workbench

namespace Value

/-- Values are within a bound on their depth together exactly if each of them is. -/
theorem depthAll_le_iff {values : List Value} {bound : Nat} :
    depthAll values ≤ bound ↔ ∀ value ∈ values, value.depth ≤ bound :=
  greatest_le_iff rfl fun _ _ => rfl

/-- One of some values is no deeper than all of them together. -/
theorem depth_le_depthAll {values : List Value} {value : Value} (h : value ∈ values) :
    value.depth ≤ depthAll values :=
  depthAll_le_iff.mp (Nat.le_refl _) value h

/-- What is not a list has no depth. -/
theorem IsPlain.depth_eq {value : Value} (h : value.IsPlain) : value.depth = 0 := by
  cases value with
  | list => exact absurd rfl h.notList
  | null | bool | int | str | function | builtin => rfl

/-- The value with as many lists around it. -/
def wrapped : Nat → Value → Value
  | 0, value => value
  | count + 1, value => wrapped count (.list [value])

/-- Each list around a value adds one to its depth. -/
theorem depth_wrapped (count : Nat) (value : Value) :
    (wrapped count value).depth = count + value.depth := by
  induction count generalizing value with
  | zero => exact (Nat.zero_add _).symm
  | succ count ih =>
      rw [wrapped, ih]
      simp only [depth, depthAll, Nat.max_zero]
      omega

end Value

namespace Builtin

/-- **A builtin function puts at most one list around its arguments.** -/
theorem depth_answer_le (builtin : Builtin) {arguments : List Value} {value : Value}
    (h : builtin.answer arguments = .ok value) : value.depth ≤ 1 + Value.depthAll arguments := by
  have hitems : ∀ items, Value.list items ∈ arguments →
      1 + Value.depthAll items ≤ Value.depthAll arguments :=
    fun items hmem => Value.depth_le_depthAll hmem
  cases builtin.made_of_answer h with
  | plain hplain => exact hplain.depth_eq ▸ Nat.zero_le _
  | list => exact Nat.le_refl _
  | element hmem hvalue =>
      have hlist := hitems _ hmem
      have helement := Value.depth_le_depthAll hvalue
      omega
  | @tail items hmem =>
      have hlist := hitems _ hmem
      have htail : Value.depthAll items.tail ≤ Value.depthAll items :=
        Value.depthAll_le_iff.mpr fun item htail =>
          Value.depth_le_depthAll (List.mem_of_mem_tail htail)
      simp only [Value.depth]
      omega

end Builtin

end Workbench
