/-!
Integers written in decimal digits.
-/

namespace Workbench.Text

/-- Whether the characters are decimal digits, at least one of them. -/
def areDigits (cs : List Char) : Bool :=
  !cs.isEmpty && cs.all Char.isDigit

/-- The number that decimal digits denote. -/
def valueOfDigits (digits : List Char) : Nat :=
  digits.foldl (fun n c => 10 * n + (c.toNat - '0'.toNat)) 0

/-- The number that a spelling without a sign denotes. -/
def natural? (cs : List Char) : Option Nat :=
  if areDigits cs then some (valueOfDigits cs) else none

/-- The integer that a spelling denotes: digits, with a sign in front if wanted. -/
def integer? : List Char → Option Int
  | '-' :: digits => (natural? digits).map fun n => -(n : Int)
  | '+' :: digits => (natural? digits).map fun n => (n : Int)
  | digits => (natural? digits).map fun n => (n : Int)

/-! ### Reading back what is written -/

/-- The digits of a number are digits. -/
theorem areDigits_toDigits (n : Nat) : areDigits (Nat.toDigits 10 n) = true := by
  have hdigits : ∀ c ∈ Nat.toDigits 10 n, c.isDigit = true :=
    fun c hmem => Nat.isDigit_of_mem_toDigits (by decide) (by decide) hmem
  have hne : Nat.toDigits 10 n ≠ [] := Nat.toDigits_ne_nil
  simp [areDigits, hne, List.all_eq_true.mpr hdigits]

/-- The digits of a number denote it. -/
theorem natural?_toDigits (n : Nat) : natural? (Nat.toDigits 10 n) = some n := by
  rw [natural?, if_pos (areDigits_toDigits n)]
  exact congrArg some Nat.ofDigitChars_ten_toDigits

/-- A spelling without a sign denotes the number of its digits. -/
theorem integer?_of_areDigits {cs : List Char} (h : areDigits cs = true) :
    integer? cs = (natural? cs).map fun n => (n : Int) := by
  unfold integer?
  split
  · simp [areDigits, show Char.isDigit '-' = false from rfl] at h
  · simp [areDigits, show Char.isDigit '+' = false from rfl] at h
  · rfl

/-- An integer is written with its digits, behind a minus sign if it is negative. -/
theorem toList_toString_int (n : Int) :
    (toString n).toList = (if n < 0 then ['-'] else []) ++ Nat.toDigits 10 n.natAbs := by
  rw [Int.toString_eq_repr, Int.repr_eq_if]
  by_cases hn : 0 ≤ n
  · have habs : n.toNat = n.natAbs := by omega
    simp [hn, Int.not_lt.mpr hn, Nat.repr_eq_ofList_toDigits, habs]
  · have habs : (-n).toNat = n.natAbs := by omega
    simp [hn, Int.not_le.mp hn, Nat.repr_eq_ofList_toDigits, habs]

/-- **An integer that is written is read back.** -/
theorem integer?_toString (n : Int) : integer? (toString n).toList = some n := by
  rw [toList_toString_int]
  by_cases hn : n < 0
  · rw [if_pos hn, List.singleton_append, integer?, natural?_toDigits]
    have habs : -(n.natAbs : Int) = n := by omega
    exact congrArg some habs
  · rw [if_neg hn, List.nil_append, integer?_of_areDigits (areDigits_toDigits _),
      natural?_toDigits]
    have habs : (n.natAbs : Int) = n := by omega
    exact congrArg some habs

end Workbench.Text
