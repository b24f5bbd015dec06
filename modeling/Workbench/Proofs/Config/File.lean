import Workbench.Config
import Workbench.Proofs.Json.RoundTrip
import Workbench.Proofs.Json.Spelling

/-!
# Configurations and their files

**Theorem** (`file_round_trip`): the text that is written for a configuration loads as that
configuration, or is refused for the first limit in it that is zero; and a file may give any of the
five fields, in any order and between any fields of other names, for the values it gives and the
defaults of what it leaves out.

The statement is about texts. The route:

- the text of a document is read back (`Json.Readable.spells_prettyAt`), so what remains is about
  documents;
- each name is asked for in the list of all fields. The answer depends on the list up to order, and
  fields of other names do not matter (`Json.sparseRecord?_of_perm`);
- what is answered for a field is read as its value, or as its default (`fieldOr_map`).

Which fields a file gives is a `Given`. A configuration as it is written gives all of them.
-/

namespace Workbench

namespace Json

/-! ### Records in which fields can be left out -/

/-- The fields that are given. -/
def present (entries : List (String × Option Json)) : List (String × Json) :=
  entries.filterMap fun entry => entry.2.map (entry.1, ·)

/-- The values of a name stand in the order of the fields. -/
theorem valuesOf_append (name : String) (fields others : List (String × Json)) :
    valuesOf name (fields ++ others) = valuesOf name fields ++ valuesOf name others := by
  simp [valuesOf]

/-- In another order of the fields, a name has the same values in another order. -/
theorem valuesOf_perm {fields others : List (String × Json)} (h : fields.Perm others)
    (name : String) : (valuesOf name fields).Perm (valuesOf name others) :=
  (h.filter _).map _

/-- A name that no field has, has no values. -/
theorem valuesOf_eq_nil {name : String} {fields : List (String × Json)}
    (h : ∀ field ∈ fields, field.1 ≠ name) : valuesOf name fields = [] := by
  have hnone : fields.filter (fun field => field.1 = name) = [] := by
    rw [List.filter_eq_nil_iff]
    intro field hfield
    simpa using h field hfield
  rw [valuesOf, hnone, List.map_nil]

/-- Only fields that can be given are given. -/
theorem name_mem_of_mem_present {entries : List (String × Option Json)} {field : String × Json}
    (h : field ∈ present entries) : field.1 ∈ entries.map Prod.fst := by
  obtain ⟨entry, hentry, hfield⟩ := List.mem_filterMap.mp h
  obtain ⟨value, -, rfl⟩ := Option.map_eq_some_iff.mp hfield
  exact List.mem_map_of_mem hentry

/-- The first field stands first if it is given. -/
theorem present_cons (entry : String × Option Json) (rest : List (String × Option Json)) :
    present (entry :: rest) = (entry.2.map (entry.1, ·)).toList ++ present rest := by
  rcases entry with ⟨name, _ | value⟩ <;> simp [present]

/-- A field is there once if it is given, and not at all otherwise. -/
theorem valuesOf_present {entries : List (String × Option Json)}
    (hnodup : (entries.map Prod.fst).Nodup) {entry : String × Option Json}
    (h : entry ∈ entries) : valuesOf entry.1 (present entries) = entry.2.toList := by
  induction entries with
  | nil => cases h
  | cons first rest ih =>
      rw [List.map_cons, List.nodup_cons] at hnodup
      rw [present_cons, valuesOf_append]
      rcases List.mem_cons.mp h with rfl | hrest
      · have hothers : valuesOf entry.1 (present rest) = [] := by
          apply valuesOf_eq_nil
          intro field hfield heq
          exact hnodup.1 (heq ▸ name_mem_of_mem_present hfield)
        rw [hothers, List.append_nil]
        rcases entry with ⟨name, _ | value⟩ <;> simp [valuesOf]
      · have hfirst : valuesOf entry.1 (first.2.map (first.1, ·)).toList = [] := by
          apply valuesOf_eq_nil
          intro field hfield heq
          obtain ⟨value, -, rfl⟩ := Option.map_eq_some_iff.mp (Option.mem_toList.mp hfield)
          exact hnodup.1 (heq ▸ List.mem_map_of_mem hrest)
        rw [hfirst, List.nil_append, ih hnodup.2 hrest]

/-- What is asked of every name is answered for all names. -/
theorem mapM_fst {entries : List (String × Option Json)} {ask : String → Option (Option Json)}
    (h : ∀ entry ∈ entries, ask entry.1 = some entry.2) :
    (entries.map Prod.fst).mapM ask = some (entries.map Prod.snd) := by
  induction entries with
  | nil => rfl
  | cons entry rest ih =>
      rw [List.map_cons, List.mapM_cons, h entry List.mem_cons_self,
        ih fun other hother => h other (List.mem_cons_of_mem _ hother)]
      rfl

/-- **The fields that are given are found**, in whatever order and among whatever other fields. -/
theorem sparseRecord?_of_perm {entries : List (String × Option Json)}
    {unknown fields : List (String × Json)} (hnodup : (entries.map Prod.fst).Nodup)
    (hunknown : ∀ field ∈ unknown, field.1 ∉ entries.map Prod.fst)
    (hfields : fields.Perm (present entries ++ unknown)) :
    (Json.object fields).sparseRecord? (entries.map Prod.fst) = some (entries.map Prod.snd) := by
  apply mapM_fst
  intro entry hentry
  have hothers : valuesOf entry.1 unknown = [] := by
    apply valuesOf_eq_nil
    intro field hfield heq
    exact hunknown field hfield (heq ▸ List.mem_map_of_mem hentry)
  -- At most one field has the name, so that its order among the others is lost without harm.
  have hvalues := valuesOf_perm hfields entry.1
  rw [valuesOf_append, hothers, List.append_nil, valuesOf_present hnodup hentry] at hvalues
  cases hgiven : entry.2 with
  | none =>
      rw [hgiven] at hvalues
      simp only [List.perm_nil.mp hvalues]
  | some value =>
      rw [hgiven] at hvalues
      simp only [List.perm_singleton.mp hvalues]

end Json

namespace Config

/-! ### Some of the fields of a configuration -/

/-- Values for some of the fields of a configuration. -/
structure Given where
  echoResult : Option Bool := none
  maxCallDepth : Option UInt64 := none
  maxNestingDepth : Option UInt64 := none
  eventCapacity : Option UInt64 := none
  debug : Option Bool := none

namespace Given

/-- The document of a number of 64 bits. -/
def word (n : UInt64) : Json := .nat n.toNat

/-- All fields in order, with what is written of them if they are given. -/
def entries (given : Given) : List (String × Option Json) :=
  [("echo_result", given.echoResult.map .bool), ("max_call_depth", given.maxCallDepth.map word),
    ("max_nesting_depth", given.maxNestingDepth.map word),
    ("event_capacity", given.eventCapacity.map word), ("debug", given.debug.map .bool)]

/-- The fields that are written. -/
def fields (given : Given) : List (String × Json) := Json.present given.entries

/-- The configuration that has these values, and the defaults otherwise. -/
def complete (given : Given) : Config where
  echoResult := given.echoResult.getD ({} : Config).echoResult
  maxCallDepth := given.maxCallDepth.getD ({} : Config).maxCallDepth
  maxNestingDepth := given.maxNestingDepth.getD ({} : Config).maxNestingDepth
  eventCapacity := given.eventCapacity.getD ({} : Config).eventCapacity
  debug := given.debug.getD ({} : Config).debug

/-- All values of a configuration. -/
def all (config : Config) : Given :=
  ⟨some config.echoResult, some config.maxCallDepth, some config.maxNestingDepth,
    some config.eventCapacity, some config.debug⟩

end Given

/-- A number of 64 bits is read from the document that is written for it. -/
theorem number?_word (n : UInt64) : number? (Given.word n) = some n := by
  rw [number?, Given.word, Json.word?_nat, if_pos n.toNat_lt_size, Option.map_some,
    UInt64.ofNat_toNat]

/-- A field that is written is read back, and one that is left out has its default. -/
theorem fieldOr_map {α : Type} {decode : Json → Option α} {encode : α → Json}
    (h : ∀ a, decode (encode a) = some a) (default : α) (given : Option α) :
    fieldOr decode default (given.map encode) = some (given.getD default) := by
  cases given with
  | none => rfl
  | some a => exact h a

/-- **The fields that are given are read, in any order and among any other fields.** -/
theorem ofJson?_of_perm {given : Given} {unknown fields : List (String × Json)}
    (hunknown : ∀ field ∈ unknown, field.1 ∉ fieldNames)
    (hfields : fields.Perm (given.fields ++ unknown)) :
    ofJson? (.object fields) = some given.complete := by
  have hnodup : (given.entries.map Prod.fst).Nodup := by
    show fieldNames.Nodup
    decide
  have hrecord : (Json.object fields).sparseRecord? fieldNames =
      some (given.entries.map Prod.snd) :=
    Json.sparseRecord?_of_perm hnodup hunknown hfields
  have hbool : ∀ flag : Bool, (Json.bool flag).bool? = some flag := fun _ => rfl
  rw [ofJson?, hrecord]
  simp [Given.entries, Given.complete, fieldOr_map hbool, fieldOr_map number?_word]

/-- The fields of a file are flags and numbers, so that they can be written as text and read again.
-/
theorem Given.readable (given : Given) : ∀ field ∈ given.fields, field.2.Readable := by
  intro field hfield
  obtain ⟨entry, hentry, hwritten⟩ := List.mem_filterMap.mp hfield
  obtain ⟨value, hvalue, rfl⟩ := Option.map_eq_some_iff.mp hwritten
  simp only [Given.entries, List.mem_cons, List.not_mem_nil, or_false] at hentry
  rcases hentry with rfl | rfl | rfl | rfl | rfl <;>
    obtain ⟨a, -, rfl⟩ := Option.map_eq_some_iff.mp hvalue
  · exact .bool a
  · exact .int _
  · exact .int _
  · exact .int _
  · exact .bool a

/-- A configuration is written with all its fields. -/
theorem toJson_eq (config : Config) : config.toJson = .object (Given.all config).fields := rfl

/-- Nothing is to be completed where all fields are given. -/
theorem Given.complete_all (config : Config) : (Given.all config).complete = config := rfl

/-! ### Texts and files -/

/-- A text that is the document of a configuration is read as the configuration. -/
theorem read_of_read? {text : String} {document : Json} {config : Config}
    (htext : Json.read? text = some document) (hconfig : ofJson? document = some config) :
    read text = .ok config := by
  rw [read, htext, Option.bind_some, hconfig]

/-- A text in a file is the text that was written to it. -/
theorem load_toUTF8 (text : String) :
    load (some text.toUTF8) = (read text).bind validate := by
  have hvalid : text.toUTF8.IsValidUTF8 := text.isValidUTF8
  have hfile : (some text.toUTF8).bind String.fromUTF8? = some text := by
    rw [Option.bind_some, String.fromUTF8?, dif_pos hvalid]
    rfl
  rw [load, hfile]
  rfl

/-- A file is checked when it has been read. -/
theorem load_of_read {text : String} {config : Config} (h : read text = .ok config) :
    load (some text.toUTF8) = config.validate := by
  rw [load_toUTF8, h]
  rfl

/-- The value of a field that must not be zero. -/
def Field.value (config : Config) : Field → UInt64
  | .maxCallDepth => config.maxCallDepth
  | .maxNestingDepth => config.maxNestingDepth
  | .eventCapacity => config.eventCapacity

/-- The fields that must not be zero, in the order in which they are checked. -/
def checked : List Field := [.maxCallDepth, .maxNestingDepth, .eventCapacity]

/-- The field that is refused is the first one that is zero, in the order of the checks. -/
theorem zeroField?_eq_find? (config : Config) :
    config.zeroField? = checked.find? fun field => field.value config = 0 := by
  simp only [zeroField?, checked, List.find?_cons, List.find?_nil, Field.value]
  split_ifs <;> simp_all

/-- The text that is written is read as what was written. -/
theorem read_save (config : Config) : read config.save = .ok config := by
  have hreadable : config.toJson.Readable := .object (Given.all config).readable
  have hfields : (Given.all config).fields.Perm ((Given.all config).fields ++ []) := by
    rw [List.append_nil]
  have hdocument := ofJson?_of_perm (by simp) hfields
  rw [Given.complete_all, ← toJson_eq] at hdocument
  exact read_of_read? (hreadable.spells_prettyAt 0).read? hdocument

/-- The first field of those that are checked that is zero is the one that is reported. -/
theorem validate_eq (config : Config) :
    config.validate =
      match checked.find? fun field => field.value config = 0 with
      | some field => .error (.zero field)
      | none => .ok config := by
  have hfirst := zeroField?_eq_find? config
  cases hzero : checked.find? fun field => field.value config = 0 with
  | none => simp only [validate, hfirst, hzero]
  | some field => simp only [validate, hfirst, hzero]

/-- **Configurations round-trip through their files.** The file of a configuration loads as it,
unless one of its limits is zero; the first such limit is reported. And a text in which some of the
fields stand, in whatever order and between whatever fields of other names, is read as the
configuration with these values and the defaults of all other fields. -/
theorem file_round_trip :
    (∀ config : Config,
      load (some config.save.toUTF8) = config.validate ∧
      config.validate =
        match checked.find? fun field => field.value config = 0 with
        | some field => .error (.zero field)
        | none => .ok config) ∧
    ∀ (given : Given) (unknown fields : List (String × Json)),
      (∀ field ∈ unknown, field.1 ∉ fieldNames) → fields.Perm (given.fields ++ unknown) →
      (∀ text, Json.read? text = some (.object fields) →
        read text = .ok given.complete ∧
          load (some text.toUTF8) = given.complete.validate) ∧
      ((∀ field ∈ unknown, field.2.Readable) →
        read (Json.object fields).pretty = .ok given.complete ∧
          read (Json.object fields).compact = .ok given.complete) := by
  constructor
  · intro config
    exact ⟨load_of_read (read_save config), validate_eq config⟩
  · intro given unknown fields hunknown hfields
    have hdocument := ofJson?_of_perm hunknown hfields
    refine ⟨fun text htext => ?_, fun hvalues => ?_⟩
    · have hread := read_of_read? htext hdocument
      exact ⟨hread, load_of_read hread⟩
    · have hall : ∀ field ∈ fields, field.2.Readable := by
        intro field hfield
        rcases List.mem_append.mp (hfields.subset hfield) with hgiven | hother
        · exact given.readable field hgiven
        · exact hvalues field hother
      have hreadable : (Json.object fields).Readable := .object hall
      exact ⟨read_of_read? (hreadable.spells_prettyAt 0).read? hdocument,
        read_of_read? hreadable.spells_compact.read? hdocument⟩

/-- A file with the largest limit that there is, another limit that is zero, and a field that is not
of a configuration. -/
theorem file_round_trip_partly :
    let text := "\x7b\"theme\": [1.5], \"event_capacity\": 0," ++
      " \"max_call_depth\": 18446744073709551615\x7d"
    read text = .ok { maxCallDepth := 18446744073709551615, eventCapacity := 0 } ∧
      load (some text.toUTF8) = .error (.zero .eventCapacity) := by
  have hfields : [("theme", Json.list [.decimal "1.5"]), ("event_capacity", .nat 0),
      ("max_call_depth", .nat 18446744073709551615)].Perm
        (Given.fields { maxCallDepth := some 18446744073709551615, eventCapacity := some 0 } ++
          [("theme", Json.list [.decimal "1.5"])]) := by
    apply (List.perm_append_singleton _ _).symm.trans
    exact (List.Perm.swap _ _ _).append_right _
  exact (file_round_trip.2 _ _ _ (by decide) hfields).1 _ rfl

end Config

end Workbench
