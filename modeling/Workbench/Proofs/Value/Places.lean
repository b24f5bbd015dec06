import Workbench.Proofs.Form.Places
import Workbench.Value.Operation

/-!
# Places do not matter to values

A function carries the form of its body, and this form the places of its tokens. `Value.unplaced`
forgets them, at any depth inside lists. Nothing that can be asked of a value depends on them: its
kind, its truth, its texts, and whether it is the same as another one. **Theorem**
(`Builtin.answer_unplaced`): a builtin function answers for values without places what it answers
for the values, without places.
-/

namespace Workbench

namespace Value

mutual

/-- The value with the places in the bodies of functions forgotten. -/
def unplaced : Value → Value
  | .null => .null
  | .bool flag => .bool flag
  | .int number => .int number
  | .str text => .str text
  | .list items => .list (unplacedAll items)
  | .function stamp parameters body => .function stamp parameters body.unplaced
  | .builtin name => .builtin name

/-- Values with the places in the bodies of functions forgotten. -/
def unplacedAll : List Value → List Value
  | [] => []
  | value :: rest => value.unplaced :: unplacedAll rest

end

/-- Each value in a list is taken by itself. -/
@[simp]
theorem unplacedAll_eq_map (values : List Value) : unplacedAll values = values.map unplaced := by
  induction values with
  | nil => rfl
  | cons value rest ih => simp [unplacedAll, ih]

/-- A value without places is of the same kind. -/
@[simp]
theorem kind_unplaced (value : Value) : value.unplaced.kind = value.kind := by
  cases value <;> rfl

/-- It counts as true or false in the same way. -/
@[simp]
theorem isTruthy_unplaced (value : Value) : value.unplaced.isTruthy = value.isTruthy := by
  cases value <;> simp [unplaced, isTruthy]

mutual

/-- It has the same text. -/
@[simp]
theorem render_unplaced (value : Value) : value.unplaced.render = value.render := by
  match value with
  | .list items => simp only [unplaced, render, renderAll_unplacedAll items]
  | .null | .bool _ | .int _ | .str _ | .function .. | .builtin _ => rfl

/-- So have the items of a list. -/
theorem renderAll_unplacedAll (values : List Value) :
    renderAll (unplacedAll values) = renderAll values := by
  match values with
  | [] => rfl
  | value :: rest =>
      simp only [unplacedAll, renderAll, render_unplaced value, renderAll_unplacedAll rest]

end

mutual

/-- It has the same text for programmers. -/
@[simp]
theorem debug_unplaced (value : Value) : value.unplaced.debug = value.debug := by
  match value with
  | .list items => simp only [unplaced, debug, debugAll_unplacedAll items]
  | .null | .bool _ | .int _ | .str _ | .function .. | .builtin _ => rfl

/-- So have the items of a list for programmers. -/
theorem debugAll_unplacedAll (values : List Value) :
    debugAll (unplacedAll values) = debugAll values := by
  match values with
  | [] => rfl
  | value :: rest =>
      simp only [unplacedAll, debugAll, debug_unplaced value, debugAll_unplacedAll rest]

end

mutual

/-- Functions are told apart by their stamps, and these stay. -/
theorem same_unplaced (a b : Value) : a.unplaced.same b.unplaced = a.same b := by
  match a, b with
  | .list as, .list bs => simpa only [unplaced, same] using sameAll_unplacedAll as bs
  | .list _, .null | .list _, .bool _ | .list _, .int _ | .list _, .str _ | .list _, .function ..
  | .list _, .builtin _ => rfl
  | .null, b | .bool _, b | .int _, b | .str _, b | .function .., b | .builtin _, b =>
      cases b <;> rfl

/-- Lists are the same if they are so without places. -/
theorem sameAll_unplacedAll (as bs : List Value) :
    sameAll (unplacedAll as) (unplacedAll bs) = sameAll as bs := by
  match as, bs with
  | [], [] | [], _ :: _ | _ :: _, [] => rfl
  | a :: as, b :: bs =>
      simp only [unplacedAll, sameAll, same_unplaced a b, sameAll_unplacedAll as bs]

end

end Value

namespace Builtin

open Value

/-! ### Arguments -/

/-- Integers have no places, and what is not an integer is refused in the same words. -/
theorem integers_unplaced (builtin : Builtin) (arguments : List Value) :
    integers builtin (arguments.map unplaced) = integers builtin arguments := by
  induction arguments with
  | nil => rfl
  | cons value rest ih =>
      cases value with
      | int number => exact congrArg (Except.map (number :: ·)) ih
      | null | bool | str | list | function | builtin => rfl

/-- A relation that does not see places holds between neighbours as before. -/
theorem chained_unplaced {relation : Value → Value → Bool}
    (hrelation : ∀ a b, relation a.unplaced b.unplaced = relation a b) (values : List Value) :
    chained relation (values.map unplaced) = chained relation values := by
  induction values with
  | nil => rfl
  | cons a rest ih =>
      cases rest with
      | nil => rfl
      | cons b rest =>
          rw [List.map_cons, List.map_cons, chained, chained, hrelation]
          exact congrArg (relation a b && ·) ih

/-- Places are not what values are compared by. -/
theorem lessThan_unplaced (a b : Value) : lessThan a.unplaced b.unplaced = lessThan a b := by
  cases a <;> cases b <;> rfl

/-- The only argument is a list or not, whatever the places in it. -/
theorem onlyList_unplaced (builtin : Builtin) (arguments : List Value) :
    onlyList builtin (arguments.map unplaced) =
      (onlyList builtin arguments).map (List.map unplaced) := by
  match arguments with
  | [] | _ :: _ :: _ => simp [onlyList, Except.map]
  | [value] => cases value <;> simp [onlyList, unplaced, Except.map, kind]

/-! ### Answers -/

section Answers

variable (arguments : List Value)

/-- A number has no places. -/
theorem map_unplaced_int {α : Type} (numbers : Except Fault α) (next : α → Except Fault Int64) :
    (numbers >>= fun a => next a >>= fun n => pure (Value.int n)).map unplaced =
      numbers >>= fun a => next a >>= fun n => pure (Value.int n) := by
  cases numbers with
  | error cause => rfl
  | ok a =>
      change (next a >>= fun n => pure (Value.int n)).map unplaced =
        next a >>= fun n => pure (Value.int n)
      cases next a <;> rfl

/-- A comparison comes out the same if the test does not see places. -/
theorem compared_unplaced (builtin : Builtin) {holds : List Value → Bool}
    (hholds : ∀ values, holds (values.map unplaced) = holds values) :
    compared builtin holds (arguments.map unplaced) =
      (compared builtin holds arguments).map unplaced := by
  cases arguments with
  | nil => rfl
  | cons value rest =>
      have hsame := hholds (value :: rest)
      rw [List.map_cons] at hsame
      simp only [List.map_cons, compared, hsame]
      rfl

/-- A list has the same length. -/
theorem lengthOf_unplaced :
    lengthOf (arguments.map unplaced) = (lengthOf arguments).map unplaced := by
  match arguments with
  | [] | _ :: _ :: _ => simp [lengthOf, Except.map]
  | [value] => cases value <;> simp [lengthOf, unplaced, Except.map, kind]

/-- The element of a list is the same one. -/
theorem element_unplaced :
    element (arguments.map unplaced) = (element arguments).map unplaced := by
  match arguments with
  | [] | _ :: _ :: _ :: _ => simp [element, Except.map]
  | [value] => cases value <;> simp [element, unplaced, Except.map]
  | [.int index, .list items] =>
      simp only [List.map_cons, List.map_nil, unplaced, unplacedAll_eq_map, element, Except.map,
        List.getElem?_map]
      split
      · rfl
      · cases items[index.toInt.toNat]? <;> rfl
  | [.int _, .null] | [.int _, .bool _] | [.int _, .int _] | [.int _, .str _]
  | [.int _, .function ..] | [.int _, .builtin _] => rfl
  | [.null, _] | [.bool _, _] | [.str _, _] | [.list _, _] | [.function .., _]
  | [.builtin _, _] => rfl

/-- **Places do not matter to builtin functions.** -/
theorem answer_unplaced (builtin : Builtin) :
    builtin.answer (arguments.map unplaced) = (builtin.answer arguments).map unplaced := by
  cases builtin with
  | add =>
      simp only [answer, integers_unplaced]
      exact (map_unplaced_int _ _).symm
  | subtract =>
      simp only [answer, integers_unplaced]
      exact (map_unplaced_int _ _).symm
  | multiply =>
      simp only [answer, integers_unplaced]
      exact (map_unplaced_int _ _).symm
  | divide =>
      simp only [answer, integers_unplaced]
      cases integers .divide arguments with
      | error cause => rfl
      | ok numbers =>
          cases numbers with
          | nil => rfl
          | cons number rest =>
              change (quotients number rest >>= fun n => pure (Value.int n)) =
                (quotients number rest >>= fun n => pure (Value.int n)).map unplaced
              cases quotients number rest <;> rfl
  | equal => exact compared_unplaced arguments .equal (chained_unplaced same_unplaced)
  | notEqual =>
      refine compared_unplaced arguments .notEqual fun values => ?_
      exact congrArg (!·) (chained_unplaced same_unplaced values)
  | less => exact compared_unplaced arguments .less (chained_unplaced lessThan_unplaced)
  | greater =>
      refine compared_unplaced arguments .greater (chained_unplaced fun a b => ?_)
      exact lessThan_unplaced b a
  | concat => simp [answer, Except.map, unplaced, Function.comp_def]
  | length => exact lengthOf_unplaced arguments
  | list => simp [answer, Except.map, unplaced]
  | head =>
      simp only [answer, onlyList_unplaced]
      cases onlyList .head arguments with
      | error cause => rfl
      | ok items => cases items <;> rfl
  | tail =>
      simp only [answer, onlyList_unplaced]
      cases onlyList .tail arguments with
      | error cause => rfl
      | ok items =>
          change Except.ok (Value.list (items.map unplaced).tail) =
            Except.ok (Value.list items.tail).unplaced
          rw [unplaced, unplacedAll_eq_map, List.map_tail]
  | nth => exact element_unplaced arguments
  | print => rfl
  | debug => rfl

/-- The print event of a builtin function. -/
theorem event_unplaced (builtin : Builtin) :
    builtin.event (arguments.map unplaced) = (builtin.event arguments).map (List.map unplaced) := by
  cases builtin <;> simp [event, unplaced, Function.comp_def]

end Answers

end Builtin

end Workbench
