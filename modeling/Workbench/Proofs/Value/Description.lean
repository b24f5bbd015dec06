import Workbench.Proofs.Json.Order
import Workbench.Proofs.Value.Parts
import Workbench.Value.Json

/-!
# The document of a value is faithful

The text of a value does not tell it: a number and its digits as a text read alike, and so do a list
of two texts and a list of one text with a comma in it. The document of a value does. **Theorem**
(`Value.description_faithful`): two values have the same document, up to the order of fields, if and
only if they are equal apart from what their functions do. Of a function the document has the
parameters and nothing else, and `Value.outline` keeps just these.

One direction is that a document does not depend on more than the outline (`Value.toJson_outline`).
The other runs along both values at once (`Value.outline_eq_of_sameValue`): the field `type` tells
their kinds, `value`, `items` or `parameters` what they are made of, and the text is not needed.

Besides, the text that stands at each level is the text of the value described there, and that of a
list is put together from the texts one level down (`Value.describes_toJson`).
-/

namespace Workbench

/-- A document at some level of another one that describes a value: this itself, or a document at
some level of one of its items. -/
inductive Json.Level (document : Json) : Json → Prop where
  | self : Level document document
  | item {whole item : Json} {items : List Json}
      (hitems : whole.namedRecord? ["items"] = some [.list items]) (hmem : item ∈ items)
      (h : Level document item) : Level document whole

namespace Value

/-- A value that stands somewhere in another one. -/
inductive Part (part : Value) : Value → Prop where
  | self : Part part part
  | item {item : Value} {items : List Value} (hmem : item ∈ items) (h : Part part item) :
      Part part (.list items)

/-- A function of which nothing but the parameters is left. -/
def onlyParameters (_ : Nat) (parameters : List String) (_ : Form) : Value :=
  .function 0 parameters (.call [])

/-- The structure of a value: of a function that a program has made nothing but the parameters. -/
def outline : Value → Value := mapFunctions onlyParameters

/-- What a document says about a value, at one level. -/
structure Describes (document : Json) (value : Value) : Prop where
  type : document.namedRecord? ["type"] = some [.str value.kind.name]
  /-- The summary is the text of the value. -/
  summary : document.namedRecord? ["summary"] = some [.str value.render]
  /-- There are items if and only if the value is a list. -/
  isList : (∃ items, document.namedRecord? ["items"] = some [.list items]) ↔ value.kind = .list
  /-- The length is the number of items. -/
  length : ∀ items, document.namedRecord? ["items"] = some [.list items] →
    document.namedRecord? ["len"] = some [.nat items.length]
  /-- The summary is put together from those of the items. -/
  joined : ∀ items, document.namedRecord? ["items"] = some [.list items] → ∃ summaries,
    items.map (·.namedRecord? ["summary"]) = summaries.map (fun summary => some [.str summary]) ∧
    document.namedRecord? ["summary"] = some [.str ("[" ++ Text.joinWith "," summaries ++ "]")]

/-! ### Fields of a description -/

/-- Each value in a list has a document of its own. -/
theorem toJsonAll_eq_map (values : List Value) : toJsonAll values = values.map toJson := by
  induction values with
  | nil => rfl
  | cons value rest ih => simp [toJsonAll, ih]

/-- A document names the kind of its value. -/
theorem type_toJson (value : Value) :
    value.toJson.namedRecord? ["type"] = some [.str value.kind.name] := by
  cases value <;> rfl

/-- A document has the text of its value. -/
theorem summary_toJson (value : Value) :
    value.toJson.namedRecord? ["summary"] = some [.str value.render] := by
  cases value <;> rfl

/-- The items of a list have their documents in it, in order. -/
theorem items_toJson_list (items : List Value) :
    (Value.list items).toJson.namedRecord? ["items"] = some [.list (items.map toJson)] := by
  rw [← toJsonAll_eq_map]
  rfl

/-- The document of a list says how many items there are. -/
theorem len_toJson_list (items : List Value) :
    (Value.list items).toJson.namedRecord? ["len"] = some [.nat items.length] := rfl

/-- Only lists have items. -/
theorem eq_list_of_items {value : Value} {documents : List Json}
    (h : value.toJson.namedRecord? ["items"] = some [.list documents]) :
    ∃ items, value = .list items ∧ documents = items.map toJson := by
  cases value with
  | list items =>
      rw [items_toJson_list] at h
      simp only [Option.some.injEq, List.cons.injEq, Json.list.injEq, and_true] at h
      exact ⟨items, rfl, h.symm⟩
  | null | bool | int | str | function | builtin => cases h

/-- **A value is described by its document.** -/
theorem describes_toJson (value : Value) : Describes value.toJson value where
  type := type_toJson value
  summary := summary_toJson value
  isList := by
    constructor
    · rintro ⟨documents, hdocuments⟩
      obtain ⟨items, rfl, -⟩ := eq_list_of_items hdocuments
      rfl
    · intro hkind
      cases value with
      | list items => exact ⟨_, items_toJson_list items⟩
      | null | bool | int | str | function | builtin => cases hkind
  length := by
    intro documents hdocuments
    obtain ⟨items, rfl, rfl⟩ := eq_list_of_items hdocuments
    simpa using len_toJson_list items
  joined := by
    intro documents hdocuments
    obtain ⟨items, rfl, rfl⟩ := eq_list_of_items hdocuments
    refine ⟨items.map render, ?_, ?_⟩
    · simp [Function.comp_def, summary_toJson]
    · rw [summary_toJson, render, renderAll_eq_map]

/-- The levels of the document of a value are the documents of the values in it. -/
theorem exists_part_of_level {document whole : Json} (h : document.Level whole) :
    ∀ value : Value, whole = value.toJson →
      ∃ part : Value, part.Part value ∧ document = part.toJson := by
  induction h with
  | self =>
      intro value hvalue
      exact ⟨value, .self, hvalue⟩
  | item hitems hmem _ ih =>
      rintro value rfl
      obtain ⟨items, rfl, rfl⟩ := eq_list_of_items hitems
      obtain ⟨inner, hinner, rfl⟩ := List.mem_map.mp hmem
      obtain ⟨part, hpart, hdocument⟩ := ih inner rfl
      exact ⟨part, .item hinner hpart, hdocument⟩

/-- Every value inside another one has its document at some level. -/
theorem level_of_part {part value : Value} (h : part.Part value) :
    part.toJson.Level value.toJson := by
  induction h with
  | self => exact .self
  | item hmem _ ih => exact .item (items_toJson_list _) (List.mem_map_of_mem hmem) ih

/-! ### Nothing but the outline -/

mutual

/-- The text of a function shows nothing but its parameters. -/
theorem render_outline (value : Value) : value.outline.render = value.render := by
  match value with
  | .list items =>
      have hitems : renderAll (mapFunctionsAll onlyParameters items) = renderAll items :=
        renderAll_outline items
      simp [outline, mapFunctions, render, hitems]
  | .null | .bool _ | .int _ | .str _ | .function .. | .builtin _ => rfl

/-- So it is for the functions in a list. -/
theorem renderAll_outline (values : List Value) :
    renderAll (mapFunctionsAll onlyParameters values) = renderAll values := by
  match values with
  | [] => rfl
  | value :: rest =>
      have hvalue : (value.mapFunctions onlyParameters).render = value.render :=
        render_outline value
      simp [mapFunctionsAll, renderAll, hvalue, renderAll_outline rest]

end

mutual

/-- **A document does not depend on more than the outline.** -/
theorem toJson_outline (value : Value) : value.outline.toJson = value.toJson := by
  match value with
  | .list items =>
      have hsummary := render_outline (.list items)
      have hitems := toJsonAll_outline items
      have hlength := congrArg List.length hitems
      simp only [toJsonAll_eq_map, List.length_map] at hlength
      simp only [outline, mapFunctions] at hsummary ⊢
      simp [toJson, hsummary, hitems, hlength]
  | .null | .bool _ | .int _ | .str _ | .function .. | .builtin _ => rfl

/-- Nor do the documents of the items of a list depend on more. -/
theorem toJsonAll_outline (values : List Value) :
    toJsonAll (mapFunctionsAll onlyParameters values) = toJsonAll values := by
  match values with
  | [] => rfl
  | value :: rest =>
      have hvalue : (value.mapFunctions onlyParameters).toJson = value.toJson :=
        toJson_outline value
      simp [mapFunctionsAll, toJsonAll, hvalue, toJsonAll_outline rest]

end

/-! ### As much as the outline -/

/-- Kinds of values have names of their own. -/
theorem Kind.name_injective {kind other : Kind} (h : kind.name = other.name) : kind = other := by
  revert h
  cases kind <;> cases other <;> decide

end Value

/-- Documents of one value have the same fields, up to the order of fields inside. -/
theorem Json.SameValue.namedRecord?_eq {document other : Json} (h : document.SameValue other)
    (names : List String) :
    (document.namedRecord? names).map (List.map sortFields) =
      (other.namedRecord? names).map (List.map sortFields) := by
  rw [← namedRecord?_sortFields, ← namedRecord?_sortFields, h]

namespace Value

/-- Documents of one value are of values of one kind. -/
theorem kind_eq_of_sameValue {value other : Value} (h : value.toJson.SameValue other.toJson) :
    value.kind = other.kind := by
  have htype := h.namedRecord?_eq ["type"]
  rw [type_toJson, type_toJson] at htype
  apply Kind.name_injective
  simpa [Json.sortFields] using htype

/-- What documents of one value have in a field of the same name. -/
theorem field_eq_of_sameValue {value other : Value} (h : value.toJson.SameValue other.toJson)
    (name : String) {field otherField : Json}
    (hfield : value.toJson.namedRecord? [name] = some [field])
    (hother : other.toJson.namedRecord? [name] = some [otherField]) :
    field.SameValue otherField := by
  have hfields := h.namedRecord?_eq [name]
  rw [hfield, hother] at hfields
  simpa [Json.SameValue] using hfields

/-- A list of texts can be told from its document. -/
theorem eq_of_sameValue_listOf_str {texts others : List String}
    (h : (Json.listOf .str texts).SameValue (Json.listOf .str others)) : texts = others := by
  have hstr : ∀ texts : List String, (Json.listOf .str texts).sortFields = .listOf .str texts := by
    intro texts
    simp [Json.listOf, Json.sortFields, Json.sortItems_eq_map, Function.comp_def]
  rw [Json.SameValue, hstr, hstr, Json.listOf, Json.listOf, Json.list.injEq] at h
  exact (List.map_inj_right fun _ _ => Json.str.inj).mp h

mutual

/-- **Values with documents of one value have the same outline.** The induction is on the first of
them; the second is of the same kind. -/
theorem outline_eq_of_sameValue (value other : Value)
    (h : value.toJson.SameValue other.toJson) : value.outline = other.outline := by
  match value, other, kind_eq_of_sameValue h with
  | .null, .null, _ => rfl
  | .bool flag, .bool otherFlag, _ =>
      have hflag : (Json.bool flag).SameValue (.bool otherFlag) :=
        field_eq_of_sameValue h "value" rfl rfl
      rw [Json.bool.inj hflag]
  | .int number, .int otherNumber, _ =>
      have hnumber : (Json.int number.toInt).SameValue (.int otherNumber.toInt) :=
        field_eq_of_sameValue h "value" rfl rfl
      rw [Int64.toInt_inj.mp (Json.int.inj hnumber)]
  | .str text, .str otherText, _ =>
      have htext : (Json.str text).SameValue (.str otherText) :=
        field_eq_of_sameValue h "value" rfl rfl
      rw [Json.str.inj htext]
  | .builtin b, .builtin otherB, _ =>
      have hname : (Json.str b.name).SameValue (.str otherB.name) :=
        field_eq_of_sameValue h "value" rfl rfl
      rw [Builtin.name_injective (Json.str.inj hname)]
  | .function _ parameters _, .function _ otherParameters _, _ =>
      have hparameters : (Json.listOf .str parameters).SameValue (.listOf .str otherParameters) :=
        field_eq_of_sameValue h "parameters" rfl rfl
      simp [outline, mapFunctions, onlyParameters, eq_of_sameValue_listOf_str hparameters]
  | .list items, .list others, _ =>
      have hitems : (Json.list (items.map toJson)).SameValue (.list (others.map toJson)) :=
        field_eq_of_sameValue h "items" (items_toJson_list items) (items_toJson_list others)
      rw [Json.SameValue, Json.sortFields, Json.sortFields, Json.list.injEq, Json.sortItems_eq_map,
        Json.sortItems_eq_map, List.map_map, List.map_map] at hitems
      simp [outline, mapFunctions, outlines_eq_of_sameValue items others hitems]

/-- So it is for the items of two lists, one by one. -/
theorem outlines_eq_of_sameValue (values others : List Value)
    (h : values.map (Json.sortFields ∘ toJson) = others.map (Json.sortFields ∘ toJson)) :
    mapFunctionsAll onlyParameters values = mapFunctionsAll onlyParameters others := by
  match values, others with
  | [], [] => rfl
  | [], _ :: _ => simp at h
  | _ :: _, [] => simp at h
  | value :: values, other :: others =>
      rw [List.map_cons, List.map_cons, List.cons.injEq] at h
      have hfirst : value.mapFunctions onlyParameters = other.mapFunctions onlyParameters :=
        outline_eq_of_sameValue value other h.1
      rw [mapFunctionsAll, mapFunctionsAll, hfirst, outlines_eq_of_sameValue values others h.2]

end

/-- **The document of a value is faithful.** It is the same for two values, also up to the order of
fields, if and only if their outlines are equal. Its levels are the documents of the values in it,
and at each of them the summary is the text of the value, the length is the number of items, and the
summary of a list is put together from those of its items. -/
theorem description_faithful :
    (∀ value other : Value, value.toJson = other.toJson ↔ value.outline = other.outline) ∧
    (∀ value other : Value,
      value.toJson.SameValue other.toJson ↔ value.outline = other.outline) ∧
    (∀ (value : Value) (document : Json), document.Level value.toJson →
      ∃ part : Value, part.Part value ∧ document = part.toJson ∧ Describes document part) ∧
    ∀ part value : Value, part.Part value → part.toJson.Level value.toJson := by
  have hequal : ∀ value other : Value, value.outline = other.outline →
      value.toJson = other.toJson := by
    intro value other h
    rw [← toJson_outline value, h, toJson_outline other]
  have hsame : ∀ value other : Value, value.toJson = other.toJson →
      value.toJson.SameValue other.toJson := fun _ _ h => congrArg Json.sortFields h
  refine ⟨?_, ?_, ?_, fun _ _ => level_of_part⟩
  · intro value other
    exact ⟨fun h => outline_eq_of_sameValue value other (hsame value other h), hequal value other⟩
  · intro value other
    exact ⟨outline_eq_of_sameValue value other, fun h => hsame value other (hequal value other h)⟩
  · intro value document hlevel
    obtain ⟨part, hpart, rfl⟩ := exists_part_of_level hlevel value rfl
    exact ⟨part, hpart, rfl, describes_toJson part⟩

/-- A list of two texts and a list of one text with a comma in it read alike and are described
differently; the first text is described two levels down. -/
theorem description_faithful_comma :
    let two : Value := .list [.str "a", .str "b"]
    let one : Value := .list [.str "a,b"]
    two.render = one.render ∧ ¬ two.toJson.SameValue one.toJson ∧
      (Value.str "a").Part (.list [two]) ∧ (Value.str "a").toJson.Level (Value.list [two]).toJson ∧
      ∃ part : Value, part.Part (.list [two]) ∧ Describes (Value.str "a").toJson part := by
  intro two one
  have hdifferent : two.outline ≠ one.outline := by
    simp [two, one, outline, mapFunctions, mapFunctionsAll]
  have hpart : (Value.str "a").Part (.list [two]) :=
    .item List.mem_cons_self (.item List.mem_cons_self .self)
  have hlevel := description_faithful.2.2.2 (.str "a") (.list [two]) hpart
  obtain ⟨part, hinside, -, hdescribes⟩ := description_faithful.2.2.1 _ _ hlevel
  refine ⟨by decide, ?_, hpart, hlevel, part, hinside, hdescribes⟩
  exact fun hsame => hdifferent ((description_faithful.2.1 two one).mp hsame)

end Value

end Workbench
