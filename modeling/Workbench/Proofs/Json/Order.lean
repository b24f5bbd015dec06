import Workbench.Board.Event
import Workbench.Engine.Status
import Workbench.Form.Wire
import Workbench.Json.Printer
import Workbench.Uuid

/-!
# The order of fields makes no difference

A document keeps the fields of an object in the order in which they were written, which is no part
of what the document says: two documents that are equal once the fields of every object are sorted
are the same value. Readers of documents go by the names of fields alone, so that they answer the
same to all documents of one value.

Sorting is stable, so that it keeps even the fields of one name in order (`Json.valuesOf_sortEach`).
Everything else is read off that: the readers of fields commute with sorting, and the readers of
places, tokens, forms, statuses and events do not see it.
-/

namespace Workbench

namespace Json

/-- Two documents that differ at most in the order of fields. -/
def SameValue (document other : Json) : Prop := document.sortFields = other.sortFields

/-- A reader that does not see the order of fields answers the same to documents of one value. -/
theorem SameValue.read_eq {α : Type} {read : Json → Option α}
    (hread : ∀ document : Json, read document.sortFields = read document) {document other : Json}
    (h : document.SameValue other) : read document = read other := by
  rw [← hread document, ← hread other, h]

/-! ### What sorting keeps -/

/-- The items of a list are sorted each by itself. -/
theorem sortItems_eq_map (items : List Json) : sortItems items = items.map sortFields := by
  induction items with
  | nil => rfl
  | cons item rest ih => rw [sortItems, ih, List.map_cons]

/-- A field that is put in its place is one more field. -/
theorem length_insertField (field : String × Json) (fields : List (String × Json)) :
    (insertField field fields).length = fields.length + 1 := by
  induction fields with
  | nil => rfl
  | cons other rest ih =>
      rw [insertField]
      split
      · rfl
      · rw [List.length_cons, ih, List.length_cons]

/-- Sorting keeps the number of fields. -/
theorem length_sortEach (fields : List (String × Json)) :
    (sortEach fields).length = fields.length := by
  induction fields with
  | nil => rfl
  | cons field rest ih => rw [sortEach, length_insertField, ih, List.length_cons]

/-- A field counts for the depth wherever it is put. -/
theorem depthOfFields_insertField (field : String × Json) (fields : List (String × Json)) :
    depthOfFields (insertField field fields) = max field.2.depth (depthOfFields fields) := by
  induction fields with
  | nil => rfl
  | cons other rest ih =>
      rw [insertField]
      split
      · rfl
      · rw [depthOfFields, ih, depthOfFields]
        omega

mutual

/-- **Sorting keeps the depth** of a document, which is what readers of nested documents go by. -/
theorem depth_sortFields (document : Json) : document.sortFields.depth = document.depth := by
  cases document with
  | list items => rw [sortFields, depth, depth, depthOfItems_sortItems items]
  | object fields => rw [sortFields, depth, depth, depthOfFields_sortEach fields]
  | null | bool | int | decimal | str | unreadable => rfl

/-- It keeps the depth of the items of a list. -/
theorem depthOfItems_sortItems (items : List Json) :
    depthOfItems (sortItems items) = depthOfItems items := by
  cases items with
  | nil => rfl
  | cons item rest =>
      rw [sortItems, depthOfItems, depthOfItems, depth_sortFields item, depthOfItems_sortItems rest]

/-- And it keeps the depth of the fields of an object. -/
theorem depthOfFields_sortEach (fields : List (String × Json)) :
    depthOfFields (sortEach fields) = depthOfFields fields := by
  cases fields with
  | nil => rfl
  | cons field rest =>
      rw [sortEach, depthOfFields_insertField, depthOfFields, depth_sortFields field.2,
        depthOfFields_sortEach rest]

end

/-! ### Readers of fields -/

/-- The first field has a value of the name, or only the others have. -/
theorem valuesOf_cons (name : String) (field : String × Json) (fields : List (String × Json)) :
    valuesOf name (field :: fields) =
      if field.1 = name then field.2 :: valuesOf name fields else valuesOf name fields := by
  unfold valuesOf
  by_cases h : field.1 = name <;> simp [h]

/-- For the fields of one name it makes no difference where among others a field is put. -/
theorem valuesOf_insertField (name : String) (field : String × Json)
    (fields : List (String × Json)) :
    valuesOf name (insertField field fields) = valuesOf name (field :: fields) := by
  induction fields with
  | nil => rfl
  | cons other rest ih =>
      rw [insertField]
      split
      · rfl
      · -- The field goes behind one of another name.
        rename_i hbehind
        have hne : field.1 ≠ other.1 := by
          intro heq
          exact hbehind (heq ▸ String.le_refl _)
        simp only [valuesOf_cons, ih]
        by_cases hfield : field.1 = name
        · have hother : other.1 ≠ name := fun heq => hne (hfield.trans heq.symm)
          simp [hfield, hother]
        · simp [hfield]

/-- **Sorting keeps the fields of one name in order.** -/
theorem valuesOf_sortEach (name : String) (fields : List (String × Json)) :
    valuesOf name (sortEach fields) = (valuesOf name fields).map sortFields := by
  induction fields with
  | nil => rfl
  | cons field rest ih =>
      rw [sortEach, valuesOf_insertField, valuesOf_cons, valuesOf_cons, ih]
      split <;> rfl

/-- Fields are read one name after the other, and each of them has to be there once. -/
theorem fieldsOf?_cons (name : String) (names : List String) (fields : List (String × Json)) :
    fieldsOf? (name :: names) fields =
      match valuesOf name fields with
      | [value] => (fieldsOf? names fields).map (value :: ·)
      | _ => none := by
  rw [fieldsOf?, List.mapM_cons]
  rcases valuesOf name fields with _ | ⟨value, _ | ⟨other, more⟩⟩
  · rfl
  · exact Option.map_eq_bind.symm
  · rfl

/-- Sorting makes no difference to which fields are read. -/
theorem fieldsOf?_sortEach (names : List String) (fields : List (String × Json)) :
    fieldsOf? names (sortEach fields) = (fieldsOf? names fields).map (List.map sortFields) := by
  induction names with
  | nil => rfl
  | cons name rest ih =>
      rw [fieldsOf?_cons, fieldsOf?_cons, valuesOf_sortEach, ih]
      rcases valuesOf name fields with _ | ⟨value, _ | ⟨other, more⟩⟩
      · rfl
      · simp [Option.map_map, Function.comp_def]
      · rfl

/-- A record by names is read in the same way from sorted fields. -/
theorem namedRecord?_sortFields (names : List String) (document : Json) :
    document.sortFields.namedRecord? names =
      (document.namedRecord? names).map (List.map sortFields) := by
  cases document with
  | object fields => exact fieldsOf?_sortEach names fields
  | null | bool | int | decimal | str | unreadable | list => rfl

/-- So is a record that may also be a list. -/
theorem record?_sortFields (names : List String) (document : Json) :
    document.sortFields.record? names = (document.record? names).map (List.map sortFields) := by
  cases document with
  | object fields => exact fieldsOf?_sortEach names fields
  | list items =>
      rw [sortFields, record?, record?, sortItems_eq_map, List.length_map]
      split <;> rfl
  | null | bool | int | decimal | str | unreadable => rfl

/-- The name of a constant is a text or the only key of an object. -/
theorem constant?_object_of_length {fields : List (String × Json)} (h : fields.length ≠ 1) :
    (Json.object fields).constant? = none := by
  rcases fields with _ | ⟨⟨name, value⟩, _ | ⟨other, rest⟩⟩
  · rfl
  · exact absurd rfl h
  · cases value <;> rfl

/-- So is a constant. -/
theorem constant?_sortFields (document : Json) :
    document.sortFields.constant? = document.constant? := by
  cases document with
  | object fields =>
      by_cases h : fields.length = 1
      · obtain ⟨⟨name, value⟩, rfl⟩ := List.length_eq_one_iff.mp h
        cases value <;> rfl
      · rw [sortFields, constant?_object_of_length h,
          constant?_object_of_length ((length_sortEach fields).symm ▸ h)]
  | null | bool | int | decimal | str | unreadable | list => rfl

/-- So are a tag and its content. -/
theorem tagged?_sortFields (tag content : String) (document : Json) :
    document.sortFields.tagged? tag content =
      (document.tagged? tag content).map fun found => (found.1, found.2.map sortFields) := by
  cases document with
  | object fields =>
      rw [sortFields, tagged?, tagged?, valuesOf_sortEach, valuesOf_sortEach]
      rcases valuesOf tag fields with _ | ⟨name, _ | ⟨other, more⟩⟩
      · rfl
      · rcases valuesOf content fields with _ | ⟨value, _ | ⟨other, more⟩⟩
        · simp [constant?_sortFields, Option.map_map, Function.comp_def]
        · simp [constant?_sortFields, Option.map_map, Function.comp_def]
        · rfl
      · rfl
  | list items =>
      rw [sortFields, sortItems_eq_map]
      rcases items with _ | ⟨name, _ | ⟨value, _ | ⟨other, more⟩⟩⟩
      · rfl
      · cases name <;> rfl
      · cases name <;> rfl
      · cases name <;> rfl
  | null | bool | int | decimal | str | unreadable => rfl

/-- Texts have no fields. -/
theorem text?_sortFields (document : Json) : document.sortFields.text? = document.text? := by
  cases document <;> rfl

/-- Nor have numbers. -/
theorem word?_sortFields (document : Json) : document.sortFields.word? = document.word? := by
  cases document <;> rfl

/-- Items keep their order. -/
theorem items?_sortFields (document : Json) :
    document.sortFields.items? = document.items?.map (List.map sortFields) := by
  cases document with
  | list items => exact congrArg some (sortItems_eq_map items)
  | null | bool | int | decimal | str | unreadable | object => rfl

end Json

/-! ### Readers of documents -/

/-- Places are read in the same way from sorted fields. -/
theorem Position.ofJson?_sortFields (document : Json) :
    ofJson? document.sortFields = ofJson? document := by
  rw [ofJson?, ofJson?, Json.record?_sortFields]
  rcases document.record? ["line", "col"] with _ | ⟨_ | ⟨line, _ | ⟨col, _ | ⟨other, more⟩⟩⟩⟩ <;>
    simp [Json.word?_sortFields]

/-- So are tokens. -/
theorem Token.ofJson?_sortFields (document : Json) :
    ofJson? document.sortFields = ofJson? document := by
  rw [ofJson?, ofJson?, Json.record?_sortFields]
  rcases document.record? ["value", "kind", "start", "end"] with
    _ | ⟨_ | ⟨value, _ | ⟨kind, _ | ⟨start, _ | ⟨stop, _ | ⟨other, more⟩⟩⟩⟩⟩⟩ <;>
    simp [Json.text?_sortFields, Json.constant?_sortFields, Position.ofJson?_sortFields]

/-- Elements that are read one by one. -/
theorem Json.mapM_items?_sortFields {α β : Type} {read : Json → Option α}
    (h : ∀ document : Json, read document.sortFields = read document) (document : Json)
    (next : List α → Option β) :
    (document.sortFields.items?.bind fun items => (items.mapM read).bind next) =
      document.items?.bind fun items => (items.mapM read).bind next := by
  rw [items?_sortFields]
  cases document.items? with
  | none => rfl
  | some items =>
      have hread : (items.map sortFields).mapM read = items.mapM read := by
        rw [List.mapM_map]
        exact congrArg (fun step => items.mapM step) (funext h)
      show ((items.map sortFields).mapM read).bind next = (items.mapM read).bind next
      rw [hread]

/-- The induction is on how deeply forms may be nested, as in the reader. -/
theorem Form.ofJsonWithin?_sortFields (fuel : Nat) (document : Json) :
    ofJsonWithin? fuel document.sortFields = ofJsonWithin? fuel document := by
  induction fuel generalizing document with
  | zero => rfl
  | succ fuel ih =>
      rw [ofJsonWithin?, ofJsonWithin?, Json.tagged?_sortFields]
      rcases document.tagged? "type" "value" with _ | ⟨type, _ | value⟩
      · rfl
      · rfl
      · simp only [Option.map_some, Option.bind_eq_bind, Option.bind_some,
          Token.ofJson?_sortFields, Json.namedRecord?_sortFields]
        split
        · rfl
        · rfl
        · rfl
        · rfl
        · exact Json.mapM_items?_sortFields ih value _
        · exact Json.mapM_items?_sortFields ih value _
        · rcases value.namedRecord? ["token", "arguments", "body"] with
            _ | ⟨_ | ⟨token, _ | ⟨parameters, _ | ⟨body, _ | ⟨other, more⟩⟩⟩⟩⟩ <;>
            simp [Token.ofJson?_sortFields, Json.mapM_items?_sortFields ih, ih]
        · rfl

/-- So are forms, however deep they are. -/
theorem Form.ofJson?_sortFields (document : Json) :
    ofJson? document.sortFields = ofJson? document := by
  rw [ofJson?, ofJson?, Json.depth_sortFields, ofJsonWithin?_sortFields]

/-- So are statuses. -/
theorem Engine.Status.ofJson?_sortFields (document : Json) :
    ofJson? document.sortFields = ofJson? document := by
  rw [ofJson?, ofJson?, Json.tagged?_sortFields]
  rcases document.tagged? "status" "reason" with _ | ⟨name, _ | value⟩
  · rfl
  · rfl
  · cases value <;> simp [Json.sortFields]

namespace Board.Event

variable {ρ : Type}

/-- The field that names the change is not one of the others. -/
theorem valuesOf_filter_event {name : String} (h : name ≠ "event") (fields : List (String × Json)) :
    Json.valuesOf name (fields.filter fun field => field.1 ≠ "event") =
      Json.valuesOf name fields := by
  unfold Json.valuesOf
  rw [List.filter_filter]
  refine congrArg (List.map Prod.snd) (List.filter_congr fun field _ => ?_)
  by_cases hname : field.1 = name
  · simp [hname, h]
  · simp [hname]

/-- What is read of an object besides the change. -/
theorem record?_rest {name : String} (h : name ≠ "event") (fields : List (String × Json)) :
    (Json.object ((Json.sortEach fields).filter fun field => field.1 ≠ "event")).record? [name] =
      ((Json.object (fields.filter fun field => field.1 ≠ "event")).record? [name]).map
        (List.map Json.sortFields) := by
  have hfields : ∀ fields : List (String × Json),
      Json.fieldsOf? [name] (fields.filter fun field => field.1 ≠ "event") =
        Json.fieldsOf? [name] fields := by
    intro fields
    rw [Json.fieldsOf?_cons, Json.fieldsOf?_cons, valuesOf_filter_event h]
    rfl
  rw [Json.record?, Json.record?, hfields, hfields, Json.fieldsOf?_sortEach]

/-- An event that is described by an object. -/
theorem ofJson?_sortEach {run? : Json → Option ρ}
    (h : ∀ document : Json, run? document.sortFields = run? document)
    (fields : List (String × Json)) :
    ofJson? run? (.object (Json.sortEach fields)) = ofJson? run? (.object fields) := by
  simp only [ofJson?, split?, Json.valuesOf_sortEach]
  rcases Json.valuesOf "event" fields with _ | ⟨event, _ | ⟨other, more⟩⟩
  · rfl
  · cases event with
    | str change =>
        simp only [List.map_cons, List.map_nil, Json.sortFields, Option.bind_eq_bind,
          Option.bind_some]
        split
        · rw [record?_rest (by decide)]
          rcases Json.record? ["run_id"] _ with _ | ⟨_ | ⟨run, _ | ⟨other, more⟩⟩⟩ <;> simp [h]
        · rw [record?_rest (by decide)]
          rcases Json.record? ["index"] _ with _ | ⟨_ | ⟨index, _ | ⟨other, more⟩⟩⟩ <;>
            simp [Json.word?_sortFields]
        · rfl
        · rw [record?_rest (by decide)]
          rcases Json.record? ["run_id"] _ with _ | ⟨_ | ⟨run, _ | ⟨other, more⟩⟩⟩ <;> simp [h]
        · rfl
    | null | bool | int | decimal | unreadable | list | object => rfl
  · simp

/-- A document of the same value as an object is an object. -/
theorem ofJson?_of_sameValue {run? : Json → Option ρ}
    (h : ∀ document : Json, run? document.sortFields = run? document) {document : Json}
    {fields : List (String × Json)} (hsame : document.SameValue (.object fields)) :
    ofJson? run? document = ofJson? run? (.object fields) := by
  cases document with
  | object others =>
      have hsorted : Json.sortEach others = Json.sortEach fields := Json.object.inj hsame
      rw [← ofJson?_sortEach h others, ← ofJson?_sortEach h fields, hsorted]
  | null | bool | int | decimal | str | unreadable | list => cases hsame

end Board.Event

end Workbench
