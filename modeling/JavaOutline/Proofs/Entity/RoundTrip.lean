import JavaOutline.Entity.Dump
import JavaOutline.Entity.Load
import JavaOutline.Proofs.Data.Loading
import JavaOutline.Proofs.Scope.Names

/-!
# Entities survive being dumped and loaded

An entity has one kind, and whatever is loaded as that kind is named: every name in it is a name,
at any depth of a type. It also fits in the room that it was loaded with: no more types with
arguments are inside one another in it. The two are enough: the dump of a named entity that fits is
loaded, as the kind of the entity, and gives the entity back. Defaults, spellings of truth values and
the order of fields can therefore differ in what an entity is first loaded from, but not in its dump.
-/

namespace JavaOutline

open Data

/-! ## Nesting -/

namespace JavaType

mutual
/-- How many types with arguments are inside one another in a type. -/
def nesting : JavaType → Nat
  | plain _ => 0
  | generic _ arguments => nestingAll arguments + 1
/-- How many types with arguments are inside one another in some type of a list. -/
def nestingAll : List JavaType → Nat
  | [] => 0
  | type :: types => max type.nesting (nestingAll types)
end

end JavaType

/-! ## Kinds of entity -/

namespace Entity

/-- The kind of an entity. -/
def kind : Entity → EntityKind
  | type (.plain _) => .plainType
  | type (.generic _ _) => .genericType
  | fact (.importing _) => .importing
  | fact (.field _) => .field
  | fact (.invocation (.call _ _ _)) => .call
  | fact (.invocation (.creation _ _)) => .creation
  | header .file => .fileHeader
  | header (.package _) => .packageHeader
  | header (.type _ _ _) => .typeHeader
  | header (.record _ _ _) => .recordHeader
  | header (.function _ _ _ _ _) => .functionHeader

/-- The names of the fields of an entity of some kind, in order. -/
def fieldNames : EntityKind → List String
  | .plainType => ["kind", "name"]
  | .genericType => ["kind", "name", "type_parameters"]
  | .importing => ["identifiers", "static"]
  | .field => ["modifiers", "identifier", "type_identifier"]
  | .call => ["kind", "receiver", "access_path", "arguments"]
  | .creation => ["kind", "type_identifier", "arguments"]
  | .fileHeader => ["kind"]
  | .packageHeader => ["kind", "identifiers"]
  | .typeHeader => ["kind", "modifiers", "name"]
  | .recordHeader => ["kind", "modifiers", "name", "formal_parameters"]
  | .functionHeader => ["kind", "modifiers", "name", "parameters", "return_type"]

/-- The dump of an entity has all the fields of its kind, those with a default too. -/
theorem exists_fields_dump (entity : Entity) :
    ∃ fields, entity.dump = .object fields ∧ fields.map Prod.fst = fieldNames entity.kind := by
  cases entity with
  | type written => cases written <;> exact ⟨_, by rw [dump, JavaType.dump], rfl⟩
  | fact recorded =>
    cases recorded with
    | importing | field => exact ⟨_, rfl, rfl⟩
    | invocation made => cases made <;> exact ⟨_, rfl, rfl⟩
  | header opened => cases opened <;> exact ⟨_, rfl, rfl⟩

/-- Every name in an entity is one. -/
def IsNamed : Entity → Prop
  | type written => written.IsNamed
  | fact recorded => recorded.IsNamed
  | header opened => opened.IsNamed

/-- How many types with arguments are inside one another in an entity, which does not count. -/
def nesting : Entity → Nat
  | type (.plain _) => 0
  | type (.generic _ arguments) => JavaType.nestingAll arguments
  | fact (.field declared) => declared.type.nesting
  | fact (.invocation (.creation created _)) => created.nesting
  | fact (.invocation (.call _ _ _)) | fact (.importing _) | header _ => 0

end Entity

/-! ## What is loaded is named and fits -/

section

variable {fields : Fields} {key : String}

/-- A name that is loaded from a field is one. -/
theorem isName_of_required {name : String} (h : required key loadName fields = .ok name) :
    IsName name := by
  obtain ⟨value, _, hvalue⟩ := required_eq_ok_iff.mp h
  exact (loadName_eq_ok_iff.mp hvalue).2

/-- Segments that are loaded from a field are a dotted name. -/
theorem isDottedName_of_required {segments : List String}
    (h : required key loadSegments fields = .ok segments) : IsDottedName segments := by
  obtain ⟨value, _, hvalue⟩ := required_eq_ok_iff.mp h
  exact (loadSegments_eq_ok_iff.mp hvalue).2

end

namespace JavaType

/-- A type without arguments that is loaded is one, and has a name. -/
theorem loadPlain_eq_ok {fields : Fields} {type : JavaType} (h : loadPlain fields = .ok type) :
    ∃ name, type = plain name ∧ IsName name := by
  simp only [loadPlain, Checked.withFaults_eq_ok_iff, Checked.ap_eq_ok_iff,
    Checked.map_eq_ok_iff] at h
  obtain ⟨⟨_, name, ⟨_, _, rfl⟩, hname, rfl⟩, _⟩ := h
  exact ⟨name, rfl, isName_of_required hname⟩

/-- A type with arguments that is loaded is one, has a name, and has the arguments that were loaded
for it. -/
theorem loadGeneric_eq_ok {fields : Fields} {arguments : Checked (List JavaType)} {type : JavaType}
    (h : loadGeneric fields arguments = .ok type) :
    ∃ name types, type = generic name types ∧ IsName name ∧ arguments = .ok types := by
  simp only [loadGeneric, Checked.withFaults_eq_ok_iff, Checked.ap_eq_ok_iff,
    Checked.map_eq_ok_iff] at h
  obtain ⟨⟨_, types, ⟨_, name, ⟨_, _, rfl⟩, hname, rfl⟩, htypes, rfl⟩, _⟩ := h
  exact ⟨name, types, rfl, isName_of_required hname, htypes⟩

/-- A type that is loaded in either form is named and fits if its arguments do in the room that it
leaves. -/
theorem isNamed_of_loadTagged {room : Nat} {fields : Fields} {arguments : Checked (List JavaType)}
    (harguments : ∀ types, arguments = .ok types → AreNamed types ∧ nestingAll types ≤ room - 1)
    {type : JavaType} (h : loadTagged room fields arguments = .ok type) :
    type.IsNamed ∧ type.nesting ≤ room := by
  unfold loadTagged at h
  split at h
  · exact absurd h Checked.fail_ne_ok
  · obtain ⟨name, rfl, hname⟩ := loadPlain_eq_ok (Checked.within_eq_ok_iff.mp h)
    rw [IsNamed, nesting]
    exact ⟨hname, Nat.zero_le room⟩
  · rw [Checked.within_eq_ok_iff] at h
    split at h
    next hroom => exact absurd h Checked.fail_ne_ok
    next hroom =>
      obtain ⟨name, types, rfl, hname, htypes⟩ := loadGeneric_eq_ok h
      obtain ⟨hnamed, hnesting⟩ := harguments types htypes
      rw [IsNamed, nesting]
      exact ⟨⟨hname, hnamed⟩, by omega⟩
  · exact absurd h Checked.fail_ne_ok

mutual
/-- A type that is loaded is named and fits in the room that it was loaded with. -/
theorem isNamed_of_load {room : Nat} {value : Value} {type : JavaType}
    (h : load room value = .ok type) : type.IsNamed ∧ type.nesting ≤ room := by
  cases value with
  | object fields =>
    rw [load] at h
    exact isNamed_of_loadTagged (fun _ htypes => areNamed_of_loadArguments htypes) h
  | null | bool | int | float | text | list =>
    rw [load] at h
    · exact absurd h Checked.fail_ne_ok
    · simp
/-- Arguments that are loaded from among fields are named and fit. -/
theorem areNamed_of_loadArguments {room : Nat} {fields : Fields} {types : List JavaType}
    (h : loadArguments room fields = .ok types) : AreNamed types ∧ nestingAll types ≤ room := by
  cases fields with
  | nil =>
    rw [loadArguments] at h
    cases h
    rw [AreNamed, nestingAll]
    exact ⟨trivial, Nat.zero_le room⟩
  | cons field fields =>
    obtain ⟨key, value⟩ := field
    rw [loadArguments] at h
    split at h
    · exact areNamed_of_loadList (Checked.within_eq_ok_iff.mp h)
    · exact areNamed_of_loadArguments h
/-- Types that are loaded from a list are named and fit. -/
theorem areNamed_of_loadList {room : Nat} {value : Value} {types : List JavaType}
    (h : loadList room value = .ok types) : AreNamed types ∧ nestingAll types ≤ room := by
  cases value with
  | list items =>
    rw [loadList] at h
    exact areNamed_of_loadEach h
  | null | bool | int | float | text | object =>
    rw [loadList] at h
    · exact absurd h Checked.fail_ne_ok
    · simp
/-- Types that are loaded one by one are named and fit. -/
theorem areNamed_of_loadEach {room index : Nat} {items : List Value} {types : List JavaType}
    (h : loadEach room index items = .ok types) : AreNamed types ∧ nestingAll types ≤ room := by
  cases items with
  | nil =>
    rw [loadEach] at h
    cases h
    rw [AreNamed, nestingAll]
    exact ⟨trivial, Nat.zero_le room⟩
  | cons item items =>
    rw [loadEach, Checked.ap_eq_ok_iff] at h
    simp only [Checked.map_eq_ok_iff, Checked.within_eq_ok_iff] at h
    obtain ⟨_, rest, ⟨first, hfirst, rfl⟩, hrest, rfl⟩ := h
    obtain ⟨hnamed, hnesting⟩ := isNamed_of_load hfirst
    obtain ⟨hallNamed, hallNesting⟩ := areNamed_of_loadEach hrest
    rw [AreNamed, nestingAll]
    exact ⟨⟨hnamed, hallNamed⟩, Nat.max_le.mpr ⟨hnesting, hallNesting⟩⟩
end

end JavaType

namespace Entity

/-- What is loaded as a kind of entity is of that kind, is named and fits. -/
theorem kind_and_isNamed_of_loadFields {room : Nat} {kind : EntityKind} {fields : Fields}
    {entity : Entity} (h : loadFields room kind fields = .ok entity) :
    entity.kind = kind ∧ entity.IsNamed ∧ entity.nesting ≤ room := by
  cases kind with
  | plainType =>
    obtain ⟨type, htype, rfl⟩ := Checked.map_eq_ok_iff.mp h
    obtain ⟨name, rfl, hname⟩ := JavaType.loadPlain_eq_ok htype
    rw [IsNamed, JavaType.IsNamed]
    exact ⟨rfl, hname, Nat.zero_le room⟩
  | genericType =>
    obtain ⟨type, htype, rfl⟩ := Checked.map_eq_ok_iff.mp h
    obtain ⟨name, types, rfl, hname, htypes⟩ := JavaType.loadGeneric_eq_ok htype
    obtain ⟨hnamed, hnesting⟩ := JavaType.areNamed_of_loadArguments htypes
    rw [IsNamed, JavaType.IsNamed]
    exact ⟨rfl, ⟨hname, hnamed⟩, hnesting⟩
  | importing =>
    simp only [loadFields, Import.load, Checked.map_eq_ok_iff, Checked.withFaults_eq_ok_iff,
      Checked.ap_eq_ok_iff] at h
    obtain ⟨_, ⟨⟨_, isStatic, ⟨segments, hsegments, rfl⟩, _, rfl⟩, _⟩, rfl⟩ := h
    exact ⟨rfl, isDottedName_of_required hsegments, Nat.zero_le room⟩
  | field =>
    simp only [loadFields, Field.load, Checked.map_eq_ok_iff, Checked.withFaults_eq_ok_iff,
      Checked.ap_eq_ok_iff] at h
    obtain ⟨_, ⟨⟨_, type, ⟨_, identifier, ⟨modifiers, _, rfl⟩, hidentifier, rfl⟩, htype, rfl⟩, _⟩,
      rfl⟩ := h
    obtain ⟨value, _, hvalue⟩ := required_eq_ok_iff.mp htype
    obtain ⟨hnamed, hnesting⟩ := JavaType.isNamed_of_load hvalue
    exact ⟨rfl, ⟨isName_of_required hidentifier, hnamed⟩, hnesting⟩
  | call =>
    simp only [loadFields, Invocation.loadCall, Checked.map_eq_ok_iff,
      Checked.withFaults_eq_ok_iff, Checked.ap_eq_ok_iff] at h
    obtain ⟨_, ⟨⟨_, arguments, ⟨_, path, ⟨_, receiver, ⟨_, _, rfl⟩, _, rfl⟩, hpath, rfl⟩, _, rfl⟩, _⟩,
      rfl⟩ := h
    exact ⟨rfl, isDottedName_of_required hpath, Nat.zero_le room⟩
  | creation =>
    simp only [loadFields, Invocation.loadCreation, Checked.map_eq_ok_iff,
      Checked.withFaults_eq_ok_iff, Checked.ap_eq_ok_iff] at h
    obtain ⟨_, ⟨⟨_, arguments, ⟨_, type, ⟨_, _, rfl⟩, htype, rfl⟩, _, rfl⟩, _⟩, rfl⟩ := h
    obtain ⟨value, _, hvalue⟩ := required_eq_ok_iff.mp htype
    exact ⟨rfl, JavaType.isNamed_of_load hvalue⟩
  | fileHeader =>
    simp only [loadFields, Header.loadFile, Checked.map_eq_ok_iff,
      Checked.withFaults_eq_ok_iff] at h
    obtain ⟨_, ⟨⟨_, _, rfl⟩, _⟩, rfl⟩ := h
    exact ⟨rfl, trivial, Nat.zero_le room⟩
  | packageHeader =>
    simp only [loadFields, Header.loadPackage, Checked.map_eq_ok_iff,
      Checked.withFaults_eq_ok_iff, Checked.ap_eq_ok_iff] at h
    obtain ⟨_, ⟨⟨_, segments, ⟨_, _, rfl⟩, hsegments, rfl⟩, _⟩, rfl⟩ := h
    exact ⟨rfl, isDottedName_of_required hsegments, Nat.zero_le room⟩
  | typeHeader =>
    simp only [loadFields, Header.loadType, Checked.map_eq_ok_iff, Checked.withFaults_eq_ok_iff,
      Checked.ap_eq_ok_iff] at h
    obtain ⟨_, ⟨⟨_, name, ⟨_, modifiers, ⟨sort, _, rfl⟩, _, rfl⟩, hname, rfl⟩, _⟩, rfl⟩ := h
    exact ⟨rfl, isName_of_required hname, Nat.zero_le room⟩
  | recordHeader =>
    simp only [loadFields, Header.loadRecord, Checked.map_eq_ok_iff, Checked.withFaults_eq_ok_iff,
      Checked.ap_eq_ok_iff] at h
    obtain ⟨_, ⟨⟨_, parameters, ⟨_, name, ⟨_, modifiers, ⟨_, _, rfl⟩, _, rfl⟩, hname, rfl⟩, _, rfl⟩,
      _⟩, rfl⟩ := h
    exact ⟨rfl, isName_of_required hname, Nat.zero_le room⟩
  | functionHeader =>
    simp only [loadFields, Header.loadFunction, Checked.map_eq_ok_iff,
      Checked.withFaults_eq_ok_iff, Checked.ap_eq_ok_iff] at h
    obtain ⟨_, ⟨⟨_, returnType, ⟨_, parameters, ⟨_, name, ⟨_, modifiers, ⟨sort, _, rfl⟩, _, rfl⟩,
      hname, rfl⟩, _, rfl⟩, _, rfl⟩, _⟩, rfl⟩ := h
    exact ⟨rfl, isName_of_required hname, Nat.zero_le room⟩

end Entity

/-! ## What is named and fits is loaded from its dump -/

namespace JavaType

/-- A type without arguments is loaded from the fields of its dump. -/
theorem loadPlain_dump {name : String} (h : IsName name) :
    loadPlain [("kind", .text "concrete"), ("name", .text name)] = .ok (plain name) := by
  simp [loadPlain, loadTag, loadChoice, required, Data.optional, unknownFields, Value.field?, h]

/-- A type with arguments is loaded from the fields of its dump, with the arguments that are loaded
for it. -/
theorem loadGeneric_dump {name : String} (h : IsName name) (parameters : Value)
    (arguments : List JavaType) :
    loadGeneric [("kind", .text "generic"), ("name", .text name), ("type_parameters", parameters)]
      (.ok arguments) = .ok (generic name arguments) := by
  simp [loadGeneric, loadTag, loadChoice, required, Data.optional, unknownFields, Value.field?, h]

/-- The arguments of a type are looked up in its dump. -/
theorem loadArguments_dump (room : Nat) (name : String) (arguments : List JavaType) :
    loadArguments room [("kind", .text "generic"), ("name", .text name),
      ("type_parameters", .list (dumpAll arguments))] =
      (loadEach room 0 (dumpAll arguments)).within (.key "type_parameters") := by
  simp [loadArguments, loadList]

mutual
/-- A named type is loaded from its dump in a room that it fits in. -/
theorem load_dump {room : Nat} {type : JavaType} (h : type.IsNamed) (hfits : type.nesting ≤ room) :
    load room type.dump = .ok type := by
  cases type with
  | plain name =>
    rw [IsNamed] at h
    rw [dump, load]
    exact Checked.within_eq_ok_iff.mpr (loadPlain_dump h)
  | generic name arguments =>
    rw [IsNamed] at h
    rw [nesting] at hfits
    have hroom : room ≠ 0 := by omega
    have harguments : nestingAll arguments ≤ room - 1 := by omega
    rw [dump, load, loadArguments_dump, loadEach_dumpAll 0 h.2 harguments]
    refine Checked.within_eq_ok_iff.mpr ?_
    rw [if_neg hroom]
    exact loadGeneric_dump h.1 _ arguments
/-- Named types are loaded from their dumps one by one in a room that they fit in. -/
theorem loadEach_dumpAll {room : Nat} (index : Nat) {types : List JavaType} (h : AreNamed types)
    (hfits : nestingAll types ≤ room) : loadEach room index (dumpAll types) = .ok types := by
  cases types with
  | nil => rw [dumpAll, loadEach]
  | cons type types =>
    rw [AreNamed] at h
    rw [nestingAll, Nat.max_le] at hfits
    rw [dumpAll, loadEach, load_dump h.1 hfits.1, loadEach_dumpAll (index + 1) h.2 hfits.2]
    rfl
end

end JavaType

namespace Entity

/-- An entity is loaded from its fields, and from nothing but an object. -/
theorem load_eq_ok_iff {room : Nat} {kind : EntityKind} {value : Value} {entity : Entity} :
    load kind value room = .ok entity ↔
      ∃ fields, value = .object fields ∧ loadFields room kind fields = .ok entity := by
  rw [load, mapError_eq_ok_iff]
  cases value <;> simp [loadObject]

/-- A named import or field, and a named use of a function or constructor, is loaded from the fields of
its dump in a room that it fits in. -/
theorem loadFields_dump_fact {room : Nat} {recorded : Fact} (h : recorded.IsNamed)
    (hfits : (fact recorded).nesting ≤ room) :
    ∃ fields, recorded.dump = .object fields ∧
      loadFields room (fact recorded).kind fields = .ok (fact recorded) := by
  cases recorded with
  | importing declaration =>
    have hsegments : IsDottedName declaration.segments := h
    refine ⟨_, rfl, ?_⟩
    simp [kind, loadFields, Import.load, required, Data.optional, unknownFields, Value.field?,
      loadBool, dumpTexts, List.map_inj_right, hsegments]
  | field declared =>
    obtain ⟨hidentifier, htype⟩ := h
    refine ⟨_, rfl, ?_⟩
    simp [kind, loadFields, Field.load, required, unknownFields, Value.field?, hidentifier,
      JavaType.load_dump htype hfits]
  | invocation made =>
    cases made with
    | call receiver path arguments =>
      have hpath : IsDottedName path := h
      refine ⟨_, rfl, ?_⟩
      simp [kind, loadFields, Invocation.loadCall, loadTag, loadChoice, required, Data.optional,
        unknownFields, Value.field?, dumpTexts, List.map_inj_right, hpath]
    | creation type arguments =>
      have htype : type.IsNamed := h
      refine ⟨_, rfl, ?_⟩
      simp [kind, loadFields, Invocation.loadCreation, loadTag, loadChoice, required,
        Data.optional, unknownFields, Value.field?, JavaType.load_dump htype hfits]

/-- A named header is loaded from the fields of its dump. -/
theorem loadFields_dump_header (room : Nat) {opened : Header} (h : opened.IsNamed) :
    ∃ fields, opened.dump = .object fields ∧
      loadFields room (header opened).kind fields = .ok (header opened) := by
  cases opened with
  | file =>
    refine ⟨_, rfl, ?_⟩
    simp [kind, loadFields, Header.loadFile, loadKind, loadChoice, Data.optional, unknownFields,
      Value.field?, Header.kind]
  | package segments =>
    have hsegments : IsDottedName segments := h
    refine ⟨_, rfl, ?_⟩
    simp [kind, loadFields, Header.loadPackage, loadKind, loadChoice, required, Data.optional,
      unknownFields, Value.field?, Header.kind, dumpTexts, List.map_inj_right, hsegments]
  | type sort modifiers name =>
    have hname : IsName name := h
    refine ⟨_, rfl, ?_⟩
    cases sort <;>
      simp [kind, loadFields, Header.loadType, loadKind, loadChoice, required, Data.optional,
        unknownFields, Value.field?, Header.kind, TypeSort.scopeKind, ScopeKind.word,
        List.lookup_cons, hname]
  | record modifiers name parameters =>
    have hname : IsName name := h
    refine ⟨_, rfl, ?_⟩
    simp [kind, loadFields, Header.loadRecord, loadKind, loadChoice, required, Data.optional,
      unknownFields, Value.field?, Header.kind, hname]
  | function sort modifiers name parameters returnType =>
    have hname : IsName name := h
    refine ⟨_, rfl, ?_⟩
    cases sort <;>
      simp [kind, loadFields, Header.loadFunction, loadKind, loadChoice, required, Data.optional,
        unknownFields, Value.field?, Header.kind, FunctionSort.scopeKind, ScopeKind.word,
        List.lookup_cons, hname]

/-- A named entity is loaded from its dump, as the kind of entity that it is, in a room that it fits
in. -/
theorem load_kind_dump {room : Nat} {entity : Entity} (h : entity.IsNamed)
    (hfits : entity.nesting ≤ room) : load entity.kind entity.dump room = .ok entity := by
  rw [load_eq_ok_iff]
  cases entity with
  | type written =>
    cases written with
    | plain name =>
      rw [IsNamed, JavaType.IsNamed] at h
      exact ⟨_, rfl, Checked.map_eq_ok_iff.mpr ⟨_, JavaType.loadPlain_dump h, rfl⟩⟩
    | generic name arguments =>
      rw [IsNamed, JavaType.IsNamed] at h
      refine ⟨_, rfl, ?_⟩
      rw [kind, loadFields, JavaType.loadArguments_dump, JavaType.loadEach_dumpAll 0 h.2 hfits]
      exact Checked.map_eq_ok_iff.mpr ⟨_, JavaType.loadGeneric_dump h.1 _ _, rfl⟩
  | fact recorded => exact loadFields_dump_fact h hfits
  | header opened => exact loadFields_dump_header room h

end Entity

/-- An entity survives being dumped and loaded. Whatever value an entity of some kind is loaded from,
its dump has all the fields of that kind, and is loaded again as that kind. What is then loaded is the
same entity, with the same dump and the same text. -/
theorem dump_loads_back (kind : EntityKind) (value : Value) (entity : Entity)
    (hload : Entity.load kind value = .ok entity) :
    (∃ fields, entity.dump = .object fields ∧ fields.map Prod.fst = Entity.fieldNames kind) ∧
    ∃ again, Entity.load kind entity.dump = .ok again ∧ again = entity ∧
      again.dump = entity.dump ∧ again.text = entity.text := by
  obtain ⟨fields, rfl, hfields⟩ := Entity.load_eq_ok_iff.mp hload
  obtain ⟨rfl, hnamed, hfits⟩ := Entity.kind_and_isNamed_of_loadFields hfields
  exact ⟨entity.exists_fields_dump, entity, Entity.load_kind_dump hnamed hfits, rfl, rfl, rfl⟩

/-- An import with its fields in another order and a word for true, and a type inside a type, with no
arguments given. -/
theorem dump_loads_back_coerced :
    (Entity.load .importing (.object [("static", .text "ON"), ("identifiers", .list [.text "a"])]) =
        .ok (.fact (.importing ⟨["a"], true⟩)) ∧
      Entity.load .importing (Entity.fact (.importing ⟨["a"], true⟩)).dump =
        .ok (.fact (.importing ⟨["a"], true⟩))) ∧
    Entity.load .genericType
        (.object [("name", .text "Map"),
          ("type_parameters", .list [.object [("name", .text "List"), ("kind", .text "generic")]])]) =
        .ok (.type (.generic "Map" [.generic "List" []])) ∧
      Entity.load .genericType (Entity.type (.generic "Map" [.generic "List" []])).dump =
        .ok (.type (.generic "Map" [.generic "List" []])) := by
  have himport : Entity.load .importing
      (.object [("static", .text "ON"), ("identifiers", .list [.text "a"])]) =
        .ok (.fact (.importing ⟨["a"], true⟩)) := by
    rfl
  have htype : Entity.load .genericType
      (.object [("name", .text "Map"),
        ("type_parameters", .list [.object [("name", .text "List"), ("kind", .text "generic")]])]) =
        .ok (.type (.generic "Map" [.generic "List" []])) := by
    rfl
  obtain ⟨_, _, himport', rfl, _⟩ := dump_loads_back _ _ _ himport
  obtain ⟨_, _, htype', rfl, _⟩ := dump_loads_back _ _ _ htype
  exact ⟨⟨himport, himport'⟩, htype, htype'⟩

end JavaOutline
