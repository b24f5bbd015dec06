import Workbench.Evaluator
import Workbench.Proofs.Text.Quoted
import Workbench.Proofs.Value.Parts

/-!
# What programmers see tells values apart

The text that a programmer sees of a value names its kind, quotes texts, and puts brackets around
lists. Texts in a value may look like anything, such as the text of another value.
**Theorem** (`Value.debug_tells_apart`): two values in which there are no functions made by programs
have the same text only if they are equal, so that calls of `debug` raise the same print event only
for equal values.

The proof shows more, which lists need: the text of a value shows where it ends
(`Value.debug_selfDelimited`). What it starts with tells the kind (`Value.kind_eq_of_debug`), and
what follows is digits, a quoted text, a name or a list of values up to a bracket.
-/

namespace Workbench

namespace Value

open Text (SelfDelimited)

/-- A value in which there is no function that a program has made. -/
def FunctionFree : Value → Prop := Carries fun _ => False

/-- What the texts of values of a kind start with. -/
def Kind.opening : Kind → String
  | .null => "Null"
  | .boolean => "Bool("
  | .number => "Integer("
  | .string => "String("
  | .list => "List(["
  | .function => "Function("
  | .builtin => "Builtin("

/-- What the text of a value goes on with. -/
def inside : Value → List Char
  | .null => []
  | .bool flag => (if flag then "true)" else "false)").toList
  | .int number => (toString number.toInt).toList ++ [')']
  | .str text => Text.Quoted.encode text.toList ++ [')']
  | .list items => (Text.joinWith ", " (items.map debug)).toList ++ [']', ')']
  | .function _ parameters _ => (Text.joinWith " " parameters).toList ++ [')']
  | .builtin b => b.name.toList ++ [')']

/-- The text of a value is the opening of its kind and what it goes on with. -/
theorem toList_debug (value : Value) :
    value.debug.toList = value.kind.opening.toList ++ value.inside := by
  cases value with
  | null => rfl
  | bool flag => cases flag <;> rfl
  | list items => simp [debug, debugAll_eq_map, kind, Kind.opening, inside]
  | int | str | function | builtin => simp [debug, kind, Kind.opening, inside]

/-- **What a text starts with tells the kind**, by its first two characters. -/
theorem kind_eq_of_debug {value other : Value} {behind otherBehind : List Char}
    (h : value.debug.toList ++ behind = other.debug.toList ++ otherBehind) :
    value.kind = other.kind := by
  have htake : ∀ (kind : Kind) (cs : List Char),
      (kind.opening.toList ++ cs).take 2 = kind.opening.toList.take 2 := by
    intro kind cs
    cases kind <;> rfl
  have htwo : ∀ kind other : Kind,
      kind.opening.toList.take 2 = other.opening.toList.take 2 → kind = other := by
    intro kind other
    cases kind <;> cases other <;> decide
  rw [toList_debug, toList_debug, List.append_assoc, List.append_assoc] at h
  apply htwo
  rw [← htake value.kind, h, htake]

/-- No text of a value starts with the bracket that ends a list. -/
theorem debug_append_ne (value : Value) (behind other : List Char) :
    value.debug.toList ++ behind ≠ ']' :: other := by
  intro h
  have hhead := congrArg List.head? h
  rw [toList_debug] at hhead
  cases hkind : value.kind <;> simp [hkind, Kind.opening] at hhead

/-! ### Where the text of a value ends -/

/-- A number has no parenthesis in it. -/
theorem paren_notMem_toString (n : Int) : ')' ∉ (toString n).toList := by
  rw [Text.toList_toString_int]
  intro hmem
  rcases List.mem_append.mp hmem with hsign | hdigit
  · split at hsign <;> simp at hsign
  · have hdigits : Char.isDigit ')' = true :=
      Nat.isDigit_of_mem_toDigits (by decide) (by decide) hdigit
    exact absurd hdigits (by decide)

/-- The text of an integer ends by itself, at the parenthesis behind it. -/
theorem int_selfDelimited (number : Int64) :
    SelfDelimited (fun _ => True) (fun n : Int64 => (toString n.toInt).toList ++ [')']) number := by
  refine .of_stop ?_ fun n => paren_notMem_toString n.toInt
  intro other _ h
  have hread := congrArg Text.integer? h
  rw [Text.integer?_toString, Text.integer?_toString] at hread
  exact Int64.toInt_inj.mp (Option.some.inj hread)

/-- So does that of a builtin function. -/
theorem builtin_selfDelimited (b : Builtin) :
    SelfDelimited (fun _ => True) (fun b : Builtin => b.name.toList ++ [')']) b := by
  refine .of_stop ?_ ?_
  · intro other _ h
    exact Builtin.name_injective (String.toList_inj.mp h)
  · intro other
    cases other <;> decide

/-- Of a value that is no list and no function, what follows the kind tells which one it is. -/
theorem eq_of_inside {value other : Value} {behind otherBehind : List Char} (hplain : value.IsPlain)
    (hkind : value.kind = other.kind) (h : value.inside ++ behind = other.inside ++ otherBehind) :
    value = other ∧ behind = otherBehind := by
  match value, other, hkind with
  | .null, .null, _ => exact ⟨rfl, h⟩
  | .bool flag, .bool otherFlag, _ =>
      cases flag <;> cases otherFlag <;> simp_all [inside]
  | .int number, .int otherNumber, _ =>
      obtain ⟨rfl, hbehind⟩ := int_selfDelimited number otherNumber trivial _ _ h
      exact ⟨rfl, hbehind⟩
  | .str text, .str otherText, _ =>
      rw [inside, inside, List.append_assoc, List.append_assoc] at h
      obtain ⟨htext, hbehind⟩ :=
        Text.Quoted.encode_selfDelimited text.toList otherText.toList trivial _ _ h
      exact ⟨congrArg Value.str (String.toList_inj.mp htext), (List.cons.inj hbehind).2⟩
  | .builtin b, .builtin otherB, _ =>
      obtain ⟨rfl, hbehind⟩ := builtin_selfDelimited b otherB trivial _ _ h
      exact ⟨rfl, hbehind⟩
  | .list _, .list _, _ => exact absurd rfl hplain.notList
  | .function .., .function .., _ => exact absurd rfl hplain.notFunction

mutual

/-- **The text of a value shows where it ends**, if there are no functions in it. -/
theorem debug_selfDelimited (value : Value) (hfree : value.FunctionFree) :
    SelfDelimited FunctionFree (fun value => value.debug.toList) value := by
  intro other hother behind otherBehind h
  have hkind := kind_eq_of_debug h
  simp only [toList_debug, ← hkind, List.append_assoc, List.append_cancel_left_eq] at h
  match value with
  | .null => exact eq_of_inside isPlain_null hkind h
  | .bool flag => exact eq_of_inside (isPlain_bool flag) hkind h
  | .int number => exact eq_of_inside (isPlain_int number) hkind h
  | .str text => exact eq_of_inside (isPlain_str text) hkind h
  | .builtin b => exact eq_of_inside ⟨nofun, nofun⟩ hkind h
  | .function .. => exact hfree.elim
  | .list items =>
      match other, hkind with
      | .list others, _ =>
          have hitems : SelfDelimited (fun others => ∀ other ∈ others, other.FunctionFree)
              (fun items => (Text.joinWith ", " (items.map debug)).toList ++ [']']) items :=
            .joinWith (debugAll_selfDelimited items hfree) debug_append_ne (by simp)
          obtain ⟨rfl, hbehind⟩ := hitems others (carriesAll_iff.mp hother) (')' :: behind)
            (')' :: otherBehind) (by simpa [inside] using h)
          exact ⟨rfl, (List.cons.inj hbehind).2⟩

/-- So do the texts of the items of a list. -/
theorem debugAll_selfDelimited (values : List Value) (hfree : CarriesAll (fun _ => False) values) :
    ∀ value ∈ values, SelfDelimited FunctionFree (fun value => value.debug.toList) value := by
  match values with
  | [] => exact nofun
  | value :: rest =>
      exact List.forall_mem_cons.mpr
        ⟨debug_selfDelimited value hfree.1, debugAll_selfDelimited rest hfree.2⟩

end

/-- **Values without functions of the program can be told apart** by their texts. -/
theorem debug_injective {value other : Value} (hvalue : value.FunctionFree)
    (hother : other.FunctionFree) (h : value.debug = other.debug) : value = other := by
  have hbehind : value.debug.toList ++ [] = other.debug.toList ++ [] := by rw [h]
  exact (debug_selfDelimited value hvalue other hother [] [] hbehind).1

/-- The message of the print event that `debug` raises for one value is its text. -/
theorem message_event_debug (value : Value) :
    (Builtin.event .debug [value]).map message = some value.debug := rfl

/-- A call of `debug` hands over its print event and nothing else. -/
theorem events_callBuiltin_debug (globals : Frame) (value : Value) :
    ((Machine.recording globals).perform (Eval.callBuiltin .debug [value])).1.events =
      [[.str value.debug]] := rfl

/-- **What programmers see tells values apart.** Values without functions that have the same text
are equal. So calls of `debug` with one such value each raise the same print event only for equal
values, even if nothing but the message of the event is seen. -/
theorem debug_tells_apart (value other : Value) (hvalue : value.FunctionFree)
    (hother : other.FunctionFree) :
    (value.debug = other.debug ↔ value = other) ∧
    ((Builtin.event .debug [value]).map message = (Builtin.event .debug [other]).map message ↔
      value = other) ∧
    ∀ globals others : Frame,
      (((Machine.recording globals).perform (Eval.callBuiltin .debug [value])).1.events =
        ((Machine.recording others).perform (Eval.callBuiltin .debug [other])).1.events ↔
        value = other) := by
  have htext : value.debug = other.debug ↔ value = other :=
    ⟨debug_injective hvalue hother, congrArg debug⟩
  refine ⟨htext, ?_, ?_⟩
  · rw [message_event_debug, message_event_debug, Option.some.injEq, htext]
  · intro globals others
    rw [events_callBuiltin_debug, events_callBuiltin_debug]
    simpa using htext

/-- A list of one text that looks like the inside of a list of two. -/
theorem debug_tells_apart_disguised :
    let one : Value := .list [.str "a\"), String(\"b"]
    let two : Value := .list [.str "a", .str "b"]
    one.FunctionFree ∧ two.FunctionFree ∧ one.debug ≠ two.debug := by
  intro one two
  have hone : one.FunctionFree := ⟨trivial, trivial⟩
  have htwo : two.FunctionFree := ⟨trivial, trivial, trivial⟩
  have hne : one ≠ two := by simp [one, two]
  exact ⟨hone, htwo, fun h => hne ((debug_tells_apart one two hone htwo).1.mp h)⟩

end Value

end Workbench
