import Dispatch.Proofs.Json.Record
import Dispatch.Proofs.Outcome

namespace Dispatch.Outcome

open Json (Shape Members)

section grammar

/-- Where a part of an outcome stands in a value: under its name in an object, and at its place in a list. -/
def part (value : Json) (place : Nat) (name : String) : Option Json :=
  match value with
  | .object entries => lookup? name entries
  | .array items => items[place]?
  | _ => none

/-- A value that has room for the parts of an outcome. -/
inductive Framed : Json → Prop
  | object (entries : List (String × Json)) : Framed (.object entries)
  | array {items : List Json} (enough : 2 ≤ items.length) (most : items.length ≤ 5) : Framed (.array items)

/-- A flag that is set if nothing is said. -/
inductive SpellsFlag : Option Json → Bool → Prop
  | absent : SpellsFlag none true
  | bool (flag : Bool) : SpellsFlag (some (.bool flag)) flag

/-- A text that may be missing. -/
inductive SpellsText : Option Json → Option String → Prop
  | absent : SpellsText none none
  | null : SpellsText (some .null) none
  | string (words : String) : SpellsText (some (.string words)) (some words)

/-- A table that is empty if it is missing. -/
inductive SpellsTable : Option Json → Attributes → Prop
  | absent : SpellsTable none ∅
  | null : SpellsTable (some .null) ∅
  | object (table : Attributes) : SpellsTable (some (.object table.entries)) table

/-- A success without an error, or a failure with an error that says something. -/
def Agrees (success : Bool) (error : Option String) : Prop :=
  (success = true ∧ error = none) ∨
    (success = false ∧ ∃ words, error = some words ∧ ∃ c ∈ words.toList, Text.isBlank c = false)

/-- The value spells the outcome part by part. -/
structure Spells (value : Json) (outcome : Outcome) : Prop where
  framed : Framed value
  success : SpellsFlag (part value 0 "success") outcome.success
  message : part value 1 "message" = some (.string outcome.message)
  error : SpellsText (part value 2 "error") outcome.error
  prompt : SpellsText (part value 3 "prompt") outcome.prompt
  context : SpellsTable (part value 4 "context") outcome.context
  agrees : Agrees outcome.success outcome.error

end grammar

section parts
variable {found : Option Json}

/-- A flag is spelled just when its slot holds it, or nothing and the flag is set. -/
theorem spellsFlag_iff {flag : Bool} :
    SpellsFlag found flag ↔ ∃ slot, Shape.bool.Fills found slot ∧ slot.getD true = flag := by
  constructor
  · rintro (_ | flag)
    · exact ⟨none, rfl, rfl⟩
    · exact ⟨some flag, ⟨flag, Shape.ofJson_bool_iff.mpr rfl, rfl⟩, rfl⟩
  · rintro ⟨slot, fills, rfl⟩
    cases found with
    | none =>
      obtain rfl : slot = none := fills
      exact .absent
    | some value =>
      obtain ⟨flag, read, rfl⟩ := fills
      obtain rfl := Shape.ofJson_bool_iff.mp read
      exact .bool flag

/-- A text that must be there is spelled just when its slot holds it. -/
theorem fills_message_iff {words : String} :
    Shape.string.Fills found (some words) ↔ found = some (.string words) := by
  cases found with
  | none => simp [Shape.Fills]
  | some value =>
    have read : Shape.string.ofJson value = .ok words ↔ value = .string words := Shape.ofJson_string_iff
    simp [Shape.Fills, read]

/-- A text that may be missing is spelled just when its slot holds it. -/
theorem spellsText_iff {words : Option String} :
    SpellsText found words ↔ ∃ slot, (Shape.orNull .string).Fills found slot ∧ slot.join = words := by
  constructor
  · rintro (_ | _ | words)
    · exact ⟨none, rfl, rfl⟩
    · exact ⟨some none, ⟨none, Shape.ofJson_orNull_iff.mpr (.inl ⟨rfl, rfl⟩), rfl⟩, rfl⟩
    · exact ⟨some (some words), ⟨some words, Shape.ofJson_ofString? (some words), rfl⟩, rfl⟩
  · rintro ⟨slot, fills, rfl⟩
    cases found with
    | none =>
      obtain rfl : slot = none := fills
      exact .absent
    | some value =>
      obtain ⟨held, given, rfl⟩ := fills
      obtain ⟨rfl, rfl⟩ | ⟨_, words, read, rfl⟩ := Shape.ofJson_orNull_iff.mp given
      · exact .null
      · obtain rfl := Shape.ofJson_string_iff.mp read
        exact .string words

/-- A table that may be missing is spelled just when its slot holds it, or nothing and the table is empty. -/
theorem spellsTable_iff (canonical : ∀ value, found = some value → value.Canonical) {table : Attributes} :
    SpellsTable found table ↔ ∃ slot, (Shape.orNull .attributes).Fills found slot ∧ slot.join.getD ∅ = table := by
  constructor
  · rintro (_ | _ | table)
    · exact ⟨none, rfl, rfl⟩
    · exact ⟨some none, ⟨none, Shape.ofJson_orNull_iff.mpr (.inl ⟨rfl, rfl⟩), rfl⟩, rfl⟩
    · exact ⟨some (some table), ⟨some table, Shape.ofJson_ofTable table, rfl⟩, rfl⟩
  · rintro ⟨slot, fills, rfl⟩
    cases found with
    | none =>
      obtain rfl : slot = none := fills
      exact .absent
    | some value =>
      obtain ⟨held, given, rfl⟩ := fills
      obtain ⟨rfl, rfl⟩ | ⟨_, table, read, rfl⟩ := Shape.ofJson_orNull_iff.mp given
      · exact .null
      · obtain rfl := (Shape.ofJson_attributes_iff (canonical value rfl)).mp read
        exact .object table

end parts

section reader

/-- The parts of a canonical value are canonical. -/
theorem canonical_of_part {value : Json} (canonical : value.Canonical) {place : Nat} {name : String} {item : Json}
    (found : part value place name = some item) : item.Canonical := by
  cases value with
  | object entries => exact Json.canonical_of_lookup? canonical.2 found
  | array items => exact Json.canonical_of_getElem? canonical found
  | null | bool | int | double | string => cases found

/-- The members of an outcome have five names. -/
theorem distinct_members : members.Distinct := by
  simp [Members.Distinct, Members.knows]

/-- What a reader fills the slots of an outcome with. -/
structure Fills (found : Nat → String → Option Json) (parts : members.Carrier) : Prop where
  success : Shape.bool.Fills (found 0 "success") parts.1
  message : Shape.string.Fills (found 1 "message") (some parts.2.1)
  error : (Shape.orNull .string).Fills (found 2 "error") parts.2.2.1
  prompt : (Shape.orNull .string).Fills (found 3 "prompt") parts.2.2.2.1
  context : (Shape.orNull .attributes).Fills (found 4 "context") parts.2.2.2.2.1

/-- The members of an outcome may be left out of an object just as they may be left out of a list. -/
theorem holds_iff_fills {found : Nat → String → Option Json} {listed : Bool} {parts : members.Carrier} :
    members.Holds found listed 0 parts ↔ Fills found parts :=
  ⟨fun ⟨success, message, error, prompt, context, _⟩ => ⟨success, message, error, prompt, context⟩,
    fun ⟨success, message, error, prompt, context⟩ => ⟨success, message, error, prompt, context, trivial⟩⟩

/-- The parts of an outcome are read just when there is room for them and each one fits. -/
theorem ofJson_shape_iff {value : Json} (canonical : value.Canonical) {parts : members.Carrier} :
    shape.ofJson value = .ok parts ↔ Framed value ∧ Fills (part value) parts := by
  cases value with
  | object entries =>
    rw [Json.ofJson_object_iff canonical.1 distinct_members, holds_iff_fills]
    exact ⟨fun fills => ⟨.object entries, fills⟩, fun fills => fills.2⟩
  | array items =>
    rw [Json.ofJson_array_iff, holds_iff_fills]
    constructor
    · rintro ⟨most, fills⟩
      -- a list without a second item has no message
      have message : items[1]? = some (.string parts.2.1) := fills_message_iff.mp fills.message
      have enough : 1 < items.length := (List.getElem?_eq_some_iff.mp message).1
      exact ⟨.array enough most, fills⟩
    · rintro ⟨framed, fills⟩
      cases framed with
      | array _ most => exact ⟨most, fills⟩
  | null | bool | int | double | string =>
    refine ⟨fun read => ?_, fun framed => nomatch framed.1⟩
    obtain ⟨_, other⟩ | ⟨_, other⟩ := Json.framed_of_ofJson read <;> cases other

/-- Parts go together just when success and error agree. -/
theorem assemble_eq_ok_iff {parts : members.Carrier} {outcome : Outcome} :
    assemble parts = .ok outcome ↔
      outcome = ⟨parts.1.getD true, parts.2.1, parts.2.2.1.join, parts.2.2.2.1.join, parts.2.2.2.2.1.join.getD ∅⟩ ∧
        Agrees outcome.success outcome.error := by
  obtain ⟨success, message, error, prompt, context, ⟨⟩⟩ := parts
  unfold assemble
  dsimp only
  cases success.getD true <;> cases error.join
  case false.none =>
    refine ⟨nofun, ?_⟩
    rintro ⟨rfl, ⟨success, _⟩ | ⟨_, _, told, _⟩⟩
    · cases success
    · cases told
  case false.some words =>
    cases blank : Text.isAllBlank words with
    | false =>
      simp only [blank, Bool.false_eq_true, if_false]
      refine ⟨?_, ?_⟩
      · rintro ⟨⟩
        exact ⟨rfl, .inr ⟨rfl, words, rfl, Text.isAllBlank_eq_false_iff.mp blank⟩⟩
      · rintro ⟨rfl, _⟩
        rfl
    | true =>
      simp only [blank, if_true]
      refine ⟨nofun, ?_⟩
      rintro ⟨rfl, ⟨success, _⟩ | ⟨_, _, told, spoken⟩⟩
      · cases success
      · obtain rfl := Option.some.inj told
        exact absurd ((Text.isAllBlank_eq_false_iff.mpr spoken).symm.trans blank) nofun
  case true.none =>
    refine ⟨?_, ?_⟩
    · rintro ⟨⟩
      exact ⟨rfl, .inl ⟨rfl, rfl⟩⟩
    · rintro ⟨rfl, _⟩
      rfl
  case true.some words =>
    refine ⟨nofun, ?_⟩
    rintro ⟨rfl, ⟨_, told⟩ | ⟨success, _⟩⟩
    · cases told
    · cases success

/-- What is read from a value was read part by part and assembled. -/
theorem ofWire_eq_ok_iff {value : Json} {outcome : Outcome} :
    ofWire value = .ok outcome ↔ ∃ parts, shape.ofJson value = .ok parts ∧ assemble parts = .ok outcome := by
  unfold ofWire
  rw [Json.bind_eq_ok_iff]
  refine exists_congr fun parts => and_congr_right fun _ => ?_
  cases assemble parts <;> simp

/-- A value is read as an outcome just when it spells this outcome, which is read again as it travels on. -/
theorem ofWire_iff_spells {value : Json} (canonical : value.Canonical) :
    (∀ outcome, ofWire value = .ok outcome ↔ Spells value outcome) ∧
      ∀ outcome, ofWire value = .ok outcome → ofWire outcome.toWire = .ok outcome := by
  have table (item : Json) (found : part value 4 "context" = some item) : item.Canonical :=
    canonical_of_part canonical found
  refine ⟨fun outcome => ?_, fun outcome read => ofWire_toWire_iff.mpr (sound_of_ofWire read)⟩
  rw [ofWire_eq_ok_iff]
  constructor
  · rintro ⟨parts, read, assembled⟩
    obtain ⟨framed, fills⟩ := (ofJson_shape_iff canonical).mp read
    obtain ⟨rfl, agrees⟩ := assemble_eq_ok_iff.mp assembled
    exact ⟨framed, spellsFlag_iff.mpr ⟨_, fills.success, rfl⟩, fills_message_iff.mp fills.message,
      spellsText_iff.mpr ⟨_, fills.error, rfl⟩, spellsText_iff.mpr ⟨_, fills.prompt, rfl⟩,
      (spellsTable_iff table).mpr ⟨_, fills.context, rfl⟩, agrees⟩
  · intro spells
    obtain ⟨success, givenSuccess, sameSuccess⟩ := spellsFlag_iff.mp spells.success
    obtain ⟨error, givenError, sameError⟩ := spellsText_iff.mp spells.error
    obtain ⟨prompt, givenPrompt, samePrompt⟩ := spellsText_iff.mp spells.prompt
    obtain ⟨context, givenContext, sameContext⟩ := (spellsTable_iff table).mp spells.context
    have fills : Fills (part value) (success, outcome.message, error, prompt, context, ()) :=
      ⟨givenSuccess, fills_message_iff.mpr spells.message, givenError, givenPrompt, givenContext⟩
    refine ⟨_, (ofJson_shape_iff canonical).mpr ⟨spells.framed, fills⟩, assemble_eq_ok_iff.mpr ⟨?_, spells.agrees⟩⟩
    simp only [sameSuccess, sameError, samePrompt, sameContext]

/-- A list without a context and an object without a success are read, also if there is a name too many. -/
theorem ofWire_of_short_values :
    let list := Json.array [.bool false, .string "", .string "\u00a0x", .null]
    let object := Json.object [("context", .object []), ("error", .null), ("message", .string "m"), ("other", .null)]
    list.Canonical ∧ object.Canonical ∧ ofWire list = .ok ⟨false, "", some "\u00a0x", none, ∅⟩ ∧
      ofWire object = .ok ⟨true, "m", none, none, ∅⟩ := by
  intro list object
  have knownList : list.Canonical := ⟨trivial, trivial, trivial, trivial, trivial⟩
  have knownObject : object.Canonical := ⟨by decide, ⟨by decide, trivial⟩, trivial, trivial, trivial, trivial⟩
  refine ⟨knownList, knownObject, ((ofWire_iff_spells knownList).1 _).mpr ?_,
    ((ofWire_iff_spells knownObject).1 _).mpr ?_⟩
  · exact ⟨.array (by decide) (by decide), .bool false, rfl, .string _, .null, .absent,
      .inr ⟨rfl, _, rfl, 'x', by decide, by decide⟩⟩
  · exact ⟨.object _, .absent, rfl, .null, .absent, .object ∅, .inl ⟨rfl, rfl⟩⟩

end reader

end Dispatch.Outcome
