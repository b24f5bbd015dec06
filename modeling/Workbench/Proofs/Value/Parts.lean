import Workbench.Value.Operation

/-!
# What values are made of

Builtin functions make nothing that was not there: what one of them answers is neither a list nor a
function, or it is its arguments as a list, an element of a list that it was given, or such a list
without its first element (`Builtin.made_of_answer`). So whatever is true of all functions in the
arguments is true of all functions in the answer (`Builtin.carries_answer`).
-/

namespace Workbench

namespace Value

/-- A value that is no list and no function that a program has made. -/
structure IsPlain (value : Value) : Prop where
  notList : value.kind ≠ .list
  notFunction : value.kind ≠ .function

/-- Integers are plain. -/
theorem isPlain_int (number : Int64) : (Value.int number).IsPlain := ⟨nofun, nofun⟩

/-- Truth values are plain. -/
theorem isPlain_bool (flag : Bool) : (Value.bool flag).IsPlain := ⟨nofun, nofun⟩

/-- Texts are plain. -/
theorem isPlain_str (text : String) : (Value.str text).IsPlain := ⟨nofun, nofun⟩

/-- Nothing is plain. -/
theorem isPlain_null : Value.null.IsPlain := ⟨nofun, nofun⟩

/-! ### The functions in a value -/

mutual

/-- All functions in the value that a program has made have bodies of a kind. -/
def Carries (P : Form → Prop) : Value → Prop
  | .list items => CarriesAll P items
  | .function _ _ body => P body
  | _ => True

/-- All functions in the values that a program has made have bodies of a kind. -/
def CarriesAll (P : Form → Prop) : List Value → Prop
  | [] => True
  | item :: rest => item.Carries P ∧ CarriesAll P rest

end

variable {P : Form → Prop}

/-- Values carry bodies of a kind if each of them does. -/
theorem carriesAll_iff {values : List Value} :
    CarriesAll P values ↔ ∀ value ∈ values, value.Carries P := by
  induction values with
  | nil => simp [CarriesAll]
  | cons value rest ih => simp [CarriesAll, ih]

/-- A plain value carries no bodies. -/
theorem IsPlain.carries {value : Value} (h : value.IsPlain) : value.Carries P := by
  cases value with
  | list => exact absurd rfl h.notList
  | function => exact absurd rfl h.notFunction
  | null | bool | int | str | builtin => trivial

mutual

/-- A kind that all bodies are of. -/
theorem carries_of_forall (h : ∀ body, P body) : (value : Value) → value.Carries P
  | .list items => carriesAll_of_forall h items
  | .function _ _ body => h body
  | .null | .bool _ | .int _ | .str _ | .builtin _ => trivial

/-- Lists carry bodies of a kind that all bodies are of. -/
theorem carriesAll_of_forall (h : ∀ body, P body) : (values : List Value) → CarriesAll P values
  | [] => trivial
  | value :: rest => ⟨carries_of_forall h value, carriesAll_of_forall h rest⟩

end

mutual

/-- The value with something else in the place of each function that a program has made. -/
def mapFunctions (f : Nat → List String → Form → Value) : Value → Value
  | .list items => .list (mapFunctionsAll f items)
  | .function stamp parameters body => f stamp parameters body
  | value => value

/-- Values with something else in the place of each function that a program has made. -/
def mapFunctionsAll (f : Nat → List String → Form → Value) : List Value → List Value
  | [] => []
  | item :: rest => item.mapFunctions f :: mapFunctionsAll f rest

end

end Value

namespace Builtin

open Value

variable {arguments : List Value} {value : Value}

/-- What can be made of arguments. -/
inductive Made (arguments : List Value) : Value → Prop where
  | plain {value : Value} (hplain : value.IsPlain) : Made arguments value
  /-- The arguments as a list. -/
  | list : Made arguments (.list arguments)
  /-- An element of a list that is an argument. -/
  | element {items : List Value} {value : Value} (hitems : .list items ∈ arguments)
      (hvalue : value ∈ items) : Made arguments value
  /-- A list that is an argument, without its first element. -/
  | tail {items : List Value} (hitems : .list items ∈ arguments) : Made arguments (.list items.tail)

/-- Two steps that may fail succeed one after the other. -/
theorem of_bind_eq_ok {α β : Type} {first : Except Fault α} {next : α → Except Fault β} {b : β}
    (h : first >>= next = .ok b) : ∃ a, first = .ok a ∧ next a = .ok b := by
  cases first with
  | error cause => cases h
  | ok a => exact ⟨a, rfl, h⟩

/-- What arithmetic answers is an integer. -/
theorem made_of_int {number : Except Fault Int64}
    (h : (do return Value.int (← number)) = Except.ok value) : Made arguments value := by
  obtain ⟨_, -, ⟨⟩⟩ := of_bind_eq_ok h
  exact .plain (isPlain_int _)

/-- Comparisons answer with truth values. -/
theorem made_of_compared {builtin : Builtin} {holds : List Value → Bool}
    (h : compared builtin holds arguments = .ok value) : Made arguments value := by
  cases arguments with
  | nil => cases h
  | cons argument rest =>
      cases h
      exact .plain (isPlain_bool _)

/-- A length is an integer. -/
theorem made_of_lengthOf (h : lengthOf arguments = .ok value) : Made arguments value := by
  unfold lengthOf at h
  split at h <;> cases h <;> exact .plain (isPlain_int _)

/-- The items are those of the only argument. -/
theorem onlyList_eq_ok {builtin : Builtin} {items : List Value}
    (h : onlyList builtin arguments = .ok items) : arguments = [.list items] := by
  unfold onlyList at h
  split at h <;> cases h
  rfl

/-- An element is one of the list, or nothing where the list has none. -/
theorem made_of_element (h : element arguments = .ok value) : Made arguments value := by
  unfold element at h
  split at h <;> cases h
  rename_i index items
  split
  · exact .plain isPlain_null
  · cases hitem : items[index.toInt.toNat]? with
    | none => exact .plain isPlain_null
    | some item =>
        exact .element (List.mem_cons_of_mem _ List.mem_cons_self) (List.mem_of_getElem? hitem)

/-- **What a builtin function answers is made of its arguments.** -/
theorem made_of_answer (builtin : Builtin) (h : builtin.answer arguments = .ok value) :
    Made arguments value := by
  cases builtin with
  | add | subtract | multiply =>
      obtain ⟨numbers, -, hnumber⟩ := of_bind_eq_ok h
      exact made_of_int hnumber
  | divide =>
      obtain ⟨numbers, -, hnumber⟩ := of_bind_eq_ok h
      cases numbers with
      | nil => cases hnumber
      | cons number rest => exact made_of_int hnumber
  | equal | notEqual | less | greater => exact made_of_compared h
  | length => exact made_of_lengthOf h
  | concat =>
      cases h
      exact .plain (isPlain_str _)
  | print | debug =>
      cases h
      exact .plain isPlain_null
  | list =>
      cases h
      exact .list
  | head =>
      obtain ⟨items, hitems, ⟨⟩⟩ := of_bind_eq_ok h
      rw [onlyList_eq_ok hitems]
      cases items with
      | nil => exact .plain isPlain_null
      | cons item rest => exact .element List.mem_cons_self List.mem_cons_self
  | tail =>
      obtain ⟨items, hitems, ⟨⟩⟩ := of_bind_eq_ok h
      rw [onlyList_eq_ok hitems]
      exact .tail List.mem_cons_self
  | nth => exact made_of_element h

/-- The functions in the answer of a builtin function come from its arguments. -/
theorem carries_answer {P : Form → Prop} (builtin : Builtin)
    (harguments : ∀ argument ∈ arguments, argument.Carries P)
    (h : builtin.answer arguments = .ok value) : value.Carries P := by
  have hitems : ∀ items, Value.list items ∈ arguments → ∀ item ∈ items, item.Carries P :=
    fun items hmem => carriesAll_iff.mp (harguments _ hmem)
  cases builtin.made_of_answer h with
  | plain hplain => exact hplain.carries
  | list => exact carriesAll_iff.mpr harguments
  | element hmem hvalue => exact hitems _ hmem _ hvalue
  | tail hmem =>
      exact carriesAll_iff.mpr fun item htail => hitems _ hmem item (List.mem_of_mem_tail htail)

end Builtin

end Workbench
