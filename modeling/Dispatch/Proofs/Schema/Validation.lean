import Dispatch.Proofs.Number.Double
import Dispatch.Schema.Validator

namespace Dispatch.Schema

namespace Field

/-- The value is of the field's kind, and one of the allowed values if there are any. -/
structure Admits (field : Field) (value : Json) : Prop where
  kind : field.kind.accepts value = true
  chosen (choices : List Json) (restricted : field.choices = some choices) :
    ∃ choice ∈ choices, choice.same value = true

/-- What an integer becomes in a number field; any other value stays as it is. -/
def widened (field : Field) (value : Json) : Json :=
  match field.kind, value with
  | .number, .int n => (Double.ofInt? n).elim value .double
  | _, _ => value

/-- The value that is given is admitted, and one that is missing has a default or is not required. -/
def Content (field : Field) (params : Attributes) : Prop :=
  match supplied? params field.name with
  | some value => field.Admits value
  | none => field.default = none → field.required = false

/-- What an accepted field holds, if it holds anything. -/
def outcome? (field : Field) (params : Attributes) : Option Json :=
  match supplied? params field.name with
  | some value => some (field.widened value)
  | none => field.default

/-- The value is one that the field could have been given to hold: it is admitted, and a number field holds doubles. -/
structure Holds (field : Field) (value : Json) : Prop where
  admitted : field.Admits value
  double (number : field.kind = .number) : ∃ d, value = .double d

end Field

section field
variable {field : Field} {params settled : Attributes} {value : Json}

theorem supplied?_eq_some {name : String} :
    supplied? params name = some value ↔ params.get? name = some value ∧ value.isNull = false := by
  simp [supplied?, Option.filter_eq_some_iff]

theorem supplied?_eq_none {name : String} (missing : supplied? params name = none) :
    params.get? name = none ∨ params.get? name = some .null := by
  cases given : params.get? name with
  | none => exact .inl rfl
  | some value =>
    cases value with
    | null => exact .inr rfl
    | _ => simp [supplied?, given, Json.isNull] at missing

theorem Field.apply_widen {name : String} (given : settled.get? name = some value) :
    ((field.widen value).apply name settled).get? name = some (field.widened value) := by
  fun_cases Field.widen field value with
  | case1 n number =>
    cases rounded : Double.ofInt? n with
    | none => simpa [Field.widened, number, rounded, Settlement.apply] using given
    | some d => simp [Field.widened, number, rounded, Settlement.apply]
  | case2 _ stays => simpa [Field.widened, Settlement.apply] using given

/-- Where no values are prescribed the kind decides. -/
theorem Field.admits_of_free (accepts : field.kind.accepts value = true) (free : field.choices = none) :
    field.Admits value where
  kind := accepts
  chosen choices restricted := by
    rw [free] at restricted
    cases restricted

theorem Field.admits_of_chosen {choices : List Json} (accepts : field.kind.accepts value = true)
    (restricted : field.choices = some choices) (chosen : ∃ choice ∈ choices, choice.same value = true) :
    field.Admits value where
  kind := accepts
  chosen others prescribed := by
    rw [restricted] at prescribed
    cases prescribed
    exact chosen

theorem Field.judge_of_supplied (given : supplied? params field.name = some value) (admits : field.Admits value) :
    field.judge params = .ok (field.widen value) := by
  simp only [Field.judge, given, admits.kind]
  cases restricted : field.choices with
  | none => rfl
  | some choices =>
    have allowed : (choices.any fun choice => choice.same value) = true := by
      rw [List.any_eq_true]
      exact admits.chosen choices restricted
    simp [allowed]

theorem Field.judge_of_refused (given : supplied? params field.name = some value) (refused : ¬field.Admits value) :
    ∃ violation, field.judge params = .error violation := by
  simp only [Field.judge, given]
  cases kind : field.kind.accepts value with
  | false => exact ⟨_, rfl⟩
  | true =>
    cases restricted : field.choices with
    | none => exact absurd (admits_of_free kind restricted) refused
    | some choices =>
      cases allowed : choices.any fun choice => choice.same value with
      | false => exact ⟨_, by simp [allowed]; rfl⟩
      | true => exact absurd (admits_of_chosen kind restricted (List.any_eq_true.mp allowed)) refused

/-- A field that has nothing against the parameters settles what it holds. -/
theorem Field.judge_of_content (content : field.Content params) : ∃ settlement, field.judge params = .ok settlement ∧
    ∀ settled : Attributes, settled.get? field.name = params.get? field.name →
      (settlement.apply field.name settled).get? field.name = field.outcome? params := by
  unfold Field.Content at content
  cases given : supplied? params field.name with
  | some value =>
    simp only [given] at content
    refine ⟨_, Field.judge_of_supplied given content, fun settled same => ?_⟩
    rw [Field.outcome?, given]
    exact Field.apply_widen (same.trans (supplied?_eq_some.mp given).1)
  | none =>
    simp only [given] at content
    cases fallback : field.default with
    | some default =>
      refine ⟨.set default, by simp [Field.judge, given, fallback], fun settled _ => ?_⟩
      rw [Field.outcome?, given, fallback]
      exact Table.get?_insert_self _ _ _
    | none =>
      refine ⟨.drop, by simp [Field.judge, given, fallback, content fallback], fun settled _ => ?_⟩
      rw [Field.outcome?, given, fallback]
      exact Table.get?_erase_self _ _

theorem Field.judge_of_not_content (discontent : ¬field.Content params) :
    ∃ violation, field.judge params = .error violation := by
  unfold Field.Content at discontent
  cases given : supplied? params field.name with
  | some value =>
    simp only [given] at discontent
    exact Field.judge_of_refused given discontent
  | none =>
    simp only [given] at discontent
    have missing : field.default = none ∧ field.required = true := by simpa using discontent
    exact ⟨.missing field.name, by simp [Field.judge, given, missing]⟩

/-- No field disturbs what another one holds. -/
theorem Settlement.apply_get?_of_ne {name other : String} (ne : other ≠ name) (settlement : Settlement) :
    (settlement.apply name settled).get? other = settled.get? other := by
  cases settlement with
  | keep => rfl
  | set value => exact Table.get?_insert_of_ne _ ne _
  | drop => exact Table.get?_erase_of_ne _ ne

end field

section fields
variable {params : Attributes}

theorem judgeFields_content (fields : List Field) (settled : Attributes) :
    (judgeFields params fields settled).2 = [] ↔ ∀ field ∈ fields, field.Content params := by
  induction fields generalizing settled with
  | nil => simp [judgeFields]
  | cons field rest ih =>
    by_cases content : field.Content params
    · obtain ⟨settlement, judged, _⟩ := Field.judge_of_content content
      simp [judgeFields, judged, content, ih]
    · obtain ⟨violation, judged⟩ := Field.judge_of_not_content content
      simp [judgeFields, judged, content]

theorem judgeFields_elsewhere {name : String} {fields : List Field} (undeclared : name ∉ fields.map Field.name)
    (settled : Attributes) : (judgeFields params fields settled).1.get? name = settled.get? name := by
  induction fields generalizing settled with
  | nil => rfl
  | cons field rest ih =>
    have ne : name ≠ field.name := fun same => undeclared (by simp [same])
    have undeclared : name ∉ rest.map Field.name := fun member => undeclared (List.mem_cons_of_mem _ member)
    cases judged : field.judge params with
    | error violation => simp [judgeFields, judged, ih undeclared]
    | ok settlement => simp [judgeFields, judged, ih undeclared, Settlement.apply_get?_of_ne ne]

theorem judgeFields_outcome {fields : List Field} (distinct : (fields.map Field.name).Nodup)
    (content : ∀ field ∈ fields, field.Content params) (settled : Attributes)
    (untouched : ∀ field ∈ fields, settled.get? field.name = params.get? field.name) :
    ∀ field ∈ fields, (judgeFields params fields settled).1.get? field.name = field.outcome? params := by
  induction fields generalizing settled with
  | nil => exact nofun
  | cons first rest ih =>
    obtain ⟨fresh, distinct⟩ := List.nodup_cons.mp distinct
    obtain ⟨settlement, judged, settles⟩ := Field.judge_of_content (content first List.mem_cons_self)
    intro field member
    simp only [judgeFields, judged]
    rcases List.mem_cons.mp member with rfl | member
    · rw [judgeFields_elsewhere fresh]
      exact settles settled (untouched field List.mem_cons_self)
    · refine ih distinct (fun field member => content field (List.mem_cons_of_mem _ member)) _ ?_ field member
      intro field member
      have ne : field.name ≠ first.name := fun same => fresh (same ▸ List.mem_map_of_mem member)
      rw [Settlement.apply_get?_of_ne ne]
      exact untouched field (List.mem_cons_of_mem _ member)

end fields

section schema
variable {schema : Schema} {params out : Attributes}

theorem violation_ofList_eq_none {violations : List Violation} : Violation.ofList violations = none ↔ violations = [] := by
  rcases violations with _ | ⟨_, _ | _⟩ <;> simp [Violation.ofList]

/-- Parameters are accepted just when no field has anything against them. -/
theorem validate_accepts_iff : (∃ out, schema.validate params = .ok out) ↔ ∀ field ∈ schema.fields, field.Content params := by
  rw [← judgeFields_content schema.fields params, ← violation_ofList_eq_none]
  simp only [validate]
  split <;> simp_all

/-- What accepted parameters are, name by name. -/
theorem validate_eq_ok_iff (distinct : schema.names.Nodup) : schema.validate params = .ok out ↔
    (∀ field ∈ schema.fields, field.Content params ∧ out.get? field.name = field.outcome? params) ∧
      ∀ name ∉ schema.names, out.get? name = params.get? name := by
  have described (content : ∀ field ∈ schema.fields, field.Content params) :
      schema.validate params = .ok (judgeFields params schema.fields params).1 := by
    have none := violation_ofList_eq_none.mpr ((judgeFields_content schema.fields params).mpr content)
    simp [validate, none]
  constructor
  · intro accepted
    have content := validate_accepts_iff.mp ⟨out, accepted⟩
    rw [described content] at accepted
    cases accepted
    constructor
    · intro field member
      exact ⟨content field member, judgeFields_outcome distinct content params (fun _ _ => rfl) field member⟩
    · exact fun name undeclared => judgeFields_elsewhere undeclared params
  · rintro ⟨declared, undeclared⟩
    have content (field : Field) (member : field ∈ schema.fields) := (declared field member).1
    rw [described content]
    refine congrArg Except.ok (Table.ext_get? fun name => ?_)
    by_cases member : name ∈ schema.names
    · obtain ⟨field, declares, rfl⟩ := List.mem_map.mp member
      rw [(declared field declares).2]
      exact judgeFields_outcome distinct content params (fun _ _ => rfl) field declares
    · rw [undeclared name member]
      exact judgeFields_elsewhere member params

end schema

/-- Values as texts can carry them: their integers fit into 64 bits. -/
def CanonicalParameters (params : Attributes) : Prop := ∀ name value, params.get? name = some value → value.Canonical

/-- A table is as texts can carry it if its entries are. -/
theorem canonicalParameters_ofList {entries : List (String × Json)}
    (each : ∀ name value, (name, value) ∈ entries → value.Canonical) : CanonicalParameters (.ofList entries) :=
  fun name value given => each name value (Table.mem_of_get?_ofList given)

/-- A field whose default is a value that it may hold, and which admits the double of every integer that it admits. -/
structure Field.Sound (field : Field) : Prop where
  default (value : Json) (given : field.default = some value) : field.Holds value
  widening (value : Json) (admits : field.Admits value) : field.Admits (field.widened value)

section field
variable {field : Field} {params out : Attributes} {value : Json}

theorem Field.widened_of_number (canonical : value.Canonical) (number : field.kind = .number)
    (accepts : field.kind.accepts value = true) :
    ∃ d, field.widened value = .double d ∧ value.asDouble? = some d := by
  rw [number] at accepts
  cases value with
  | double d => exact ⟨d, by simp [Field.widened, number], rfl⟩
  | int n =>
    obtain ⟨d, rounded⟩ := Double.ofInt?_of_intRange canonical
    exact ⟨d, by simp [Field.widened, number, rounded], rounded⟩
  | _ => cases accepts

/-- Only number fields change what they are given. -/
theorem Field.widened_of_ne (other : field.kind ≠ .number) : field.widened value = value := by
  simp [Field.widened, other]

/-- A field that widens nothing is sound if it admits its default. -/
theorem Field.sound_of_ne (other : field.kind ≠ .number)
    (default : ∀ value, field.default = some value → field.Admits value) : field.Sound where
  default value given := ⟨default value given, fun number => absurd number other⟩
  widening value admits := by rwa [Field.widened_of_ne other]

/-- A value stays of the field's kind when it is widened. -/
theorem Field.accepts_widened (canonical : value.Canonical) (accepts : field.kind.accepts value = true) :
    field.kind.accepts (field.widened value) = true := by
  by_cases number : field.kind = .number
  · obtain ⟨d, widened, _⟩ := Field.widened_of_number canonical number accepts
    rw [widened, number]
    rfl
  · rw [Field.widened_of_ne number]
    exact accepts

/-- The values that a field may hold are those that it admits and leaves as they are. -/
theorem Field.holds_iff (canonical : value.Canonical) :
    field.Holds value ↔ field.Admits value ∧ field.widened value = value := by
  constructor
  · intro holds
    have same : field.widened value = value := by
      by_cases number : field.kind = .number
      · obtain ⟨d, rfl⟩ := holds.double number
        simp [Field.widened, number]
      · exact Field.widened_of_ne number
    exact ⟨holds.admitted, same⟩
  · rintro ⟨admits, same⟩
    constructor
    · exact admits
    · intro number
      obtain ⟨d, widened, _⟩ := Field.widened_of_number canonical number admits.kind
      exact ⟨d, same.symm.trans widened⟩

theorem Field.outcome?_canonical (canonical : CanonicalParameters params)
    (default : ∀ value, field.default = some value → value.Canonical) (held : field.outcome? params = some value) :
    value.Canonical := by
  unfold Field.outcome? at held
  split at held
  · rename_i given supplied
    cases held
    have fits := canonical _ _ (supplied?_eq_some.mp supplied).1
    unfold Field.widened
    split
    · cases Double.ofInt? _ with
      | none => exact fits
      | some d => trivial
    · exact fits
  · exact default value held

/-- What a sound field ends up with is a value that it may hold. -/
theorem Field.holds_outcome? (sound : field.Sound) (content : field.Content params)
    (canonical : CanonicalParameters params) (held : field.outcome? params = some value) : field.Holds value := by
  unfold Field.Content at content
  unfold Field.outcome? at held
  split at held
  · rename_i given supplied
    cases held
    simp only [supplied] at content
    have fits := canonical _ _ (supplied?_eq_some.mp supplied).1
    constructor
    · exact sound.widening given content
    · intro number
      obtain ⟨d, widened, _⟩ := Field.widened_of_number fits number content.kind
      exact ⟨d, widened⟩
  · exact sound.default value held

/-- A widened value is never null. -/
theorem Field.widened_isNull (there : value.isNull = false) : (field.widened value).isNull = false := by
  unfold Field.widened
  split
  · cases Double.ofInt? _ <;> rfl
  · exact there

/-- Where a field ends up with no value, or with null, there is nothing else that it could end up with. -/
theorem Field.default_of_outcome? (blank : field.outcome? params = none ∨ field.outcome? params = some .null) :
    supplied? params field.name = none ∧ field.default = field.outcome? params := by
  unfold Field.outcome? at blank ⊢
  split at blank
  · rename_i given supplied
    have there : (field.widened given).isNull = false := Field.widened_isNull (supplied?_eq_some.mp supplied).2
    rcases blank with blank | blank
    · cases blank
    · rw [Option.some.inj blank] at there
      cases there
  · rename_i missing
    exact ⟨missing, rfl⟩

/-- A field has nothing against what it holds and leaves it as it is just when it may hold it. -/
theorem Field.steady_iff (content : field.Content params) (canonical : CanonicalParameters params)
    (default : ∀ value, field.default = some value → value.Canonical)
    (settled : out.get? field.name = field.outcome? params) :
    (field.Content out ∧ out.get? field.name = field.outcome? out) ↔
      ∀ value, out.get? field.name = some value → value.isNull = false → field.Holds value := by
  cases supplied : supplied? out field.name with
  | some value =>
    obtain ⟨held, there⟩ := supplied?_eq_some.mp supplied
    have fits : value.Canonical := Field.outcome?_canonical canonical default (settled.symm.trans held)
    have steady : (field.Content out ∧ out.get? field.name = field.outcome? out) ↔ field.Holds value := by
      rw [Field.holds_iff fits, held]
      simp [Field.Content, Field.outcome?, supplied, eq_comm]
    rw [steady, held]
    constructor
    · rintro holds _ ⟨⟩ _
      exact holds
    · exact fun all => all value rfl there
  | none =>
    have blank := supplied?_eq_none supplied
    have nothing (value : Json) (held : out.get? field.name = some value) : value.isNull = true := by
      rcases blank with blank | blank <;> rw [blank] at held <;> cases held
      rfl
    rw [settled] at blank
    obtain ⟨missing, fallback⟩ := Field.default_of_outcome? blank
    have steady : field.Content out ∧ out.get? field.name = field.outcome? out := by
      simp only [Field.Content, missing] at content
      simp only [Field.Content, Field.outcome?, supplied]
      exact ⟨content, settled.trans fallback.symm⟩
    constructor
    · intro _ value held there
      rw [nothing value held] at there
      cases there
    · exact fun _ => steady

end field

section schema
variable {schema : Schema} {params out : Attributes}

/-- Accepted parameters hold what their fields were given or default to, and those that may hold it are stable. -/
theorem validate_accepted (distinct : schema.names.Nodup)
    (defaults : ∀ field ∈ schema.fields, ∀ value, field.default = some value → value.Canonical)
    (canonical : CanonicalParameters params) (accepted : schema.validate params = .ok out) :
    (∀ field ∈ schema.fields,
      (∀ value, supplied? params field.name = some value → field.Admits value ∧
        ∃ held, out.get? field.name = some held ∧ field.kind.accepts held = true ∧
          (field.kind = .number → ∃ d, held = .double d ∧ value.asDouble? = some d) ∧
          (field.kind ≠ .number → held = value)) ∧
      (supplied? params field.name = none → out.get? field.name = field.default)) ∧
    (schema.validate out = .ok out ↔ ∀ field ∈ schema.fields, ∀ value,
      out.get? field.name = some value → value.isNull = false → field.Holds value) ∧
    ((∀ field ∈ schema.fields, field.Sound) →
      (∀ field ∈ schema.fields, ∀ value, out.get? field.name = some value → field.Holds value) ∧
        schema.validate out = .ok out) := by
  obtain ⟨declared, _⟩ := (validate_eq_ok_iff distinct).mp accepted
  have steady : schema.validate out = .ok out ↔ ∀ field ∈ schema.fields, ∀ value,
      out.get? field.name = some value → value.isNull = false → field.Holds value := by
    rw [validate_eq_ok_iff distinct]
    constructor
    · rintro ⟨again, _⟩ field member
      obtain ⟨content, settled⟩ := declared field member
      exact (Field.steady_iff content canonical (defaults field member) settled).mp (again field member)
    · intro holds
      constructor
      · intro field member
        obtain ⟨content, settled⟩ := declared field member
        exact (Field.steady_iff content canonical (defaults field member) settled).mpr (holds field member)
      · exact fun _ _ => rfl
  constructor
  · intro field member
    obtain ⟨content, settled⟩ := declared field member
    constructor
    · intro value given
      simp only [Field.Content, given] at content
      simp only [Field.outcome?, given] at settled
      have fits := canonical _ _ (supplied?_eq_some.mp given).1
      have accepts := Field.accepts_widened fits content.kind
      have doubles (number : field.kind = .number) := Field.widened_of_number fits number content.kind
      exact ⟨content, _, settled, accepts, doubles, Field.widened_of_ne⟩
    · intro missing
      simpa only [Field.outcome?, missing] using settled
  · constructor
    · exact steady
    intro sound
    have holds (field : Field) (member : field ∈ schema.fields) (value : Json)
        (held : out.get? field.name = some value) : field.Holds value := by
      obtain ⟨content, settled⟩ := declared field member
      exact Field.holds_outcome? (sound field member) content canonical (settled.symm.trans held)
    exact ⟨holds, steady.mpr fun field member value held _ => holds field member value held⟩

/-- A radius that is an integer, a unit that has to be one of two, and a number of copies that is left out. -/
theorem validate_accepted_radius :
    let radius := Field.needed "radius" .number
    let unit := (Field.defaulted "unit" .string (.string "cm")).restrict [.string "cm", .string "mm"]
    let schema : Schema := ⟨[radius, unit, .defaulted "copies" .integer (.int 3)]⟩
    let params : Attributes := .ofList [("radius", .int 1), ("unit", .string "mm"), ("note", .bool true)]
    let out := (params.insert "radius" (.double .one)).insert "copies" (.int 3)
    schema.validate params = .ok out ∧ schema.validate out = .ok out ∧
      unit.Holds (.string "mm") ∧ radius.Holds (.double .one) := by
  intro radius unit schema params out
  have each {motive : Field → Prop} (first : motive radius) (second : motive unit)
      (third : motive (.defaulted "copies" .integer (.int 3))) : ∀ field ∈ schema.fields, motive field := by
    simp only [schema, List.forall_mem_cons, List.not_mem_nil, false_implies, implies_true, and_true]
    exact ⟨first, second, third⟩
  have distinct : schema.names.Nodup := by decide
  have canonical : CanonicalParameters params := by
    refine canonicalParameters_ofList fun name value member => ?_
    simp only [List.mem_cons, List.not_mem_nil, or_false, Prod.mk.injEq] at member
    rcases member with ⟨rfl, rfl⟩ | ⟨rfl, rfl⟩ | ⟨rfl, rfl⟩ <;> trivial
  have mm : ∃ choice ∈ [Json.string "cm", .string "mm"], choice.same (.string "mm") = true :=
    ⟨_, .tail _ (.head _), by decide⟩
  have cm : ∃ choice ∈ [Json.string "cm", .string "mm"], choice.same (.string "cm") = true := ⟨_, .head _, by decide⟩
  have sound : ∀ field ∈ schema.fields, field.Sound := by
    have text : unit.kind ≠ .number := show Kind.string ≠ .number by decide
    refine each ⟨fun _ given => ?_, fun value admits => Field.admits_of_free ?_ rfl⟩
      (Field.sound_of_ne text fun _ given => ?_) (Field.sound_of_ne (by decide) fun _ given => ?_)
    · cases given
    · cases value with
      | int n =>
        change Kind.number.accepts ((Double.ofInt? n).elim (.int n) .double) = true
        cases Double.ofInt? n <;> rfl
      | _ => exact admits.kind
    · cases given
      exact Field.admits_of_chosen rfl rfl cm
    · cases given
      exact Field.admits_of_free rfl rfl
  have accepted : schema.validate params = .ok out := by
    refine (validate_eq_ok_iff distinct).mpr ⟨each ⟨Field.admits_of_free rfl rfl, ?_⟩
      ⟨Field.admits_of_chosen rfl rfl mm, rfl⟩ ⟨fun _ => rfl, rfl⟩, ?_⟩
    · change some (Json.double .one) = some ((Double.ofInt? 1).elim (.int 1) .double)
      rw [Double.ofInt?_one]
      rfl
    · intro name undeclared
      have others : name ≠ "copies" ∧ name ≠ "radius" := by
        constructor <;> rintro rfl <;> exact undeclared (by decide)
      rw [Table.get?_insert_of_ne _ others.1, Table.get?_insert_of_ne _ others.2]
  have defaults : ∀ field ∈ schema.fields, ∀ value, field.default = some value → value.Canonical := by
    refine each ?_ ?_ ?_ <;> rintro _ ⟨rfl⟩ <;> trivial
  obtain ⟨_, _, settles⟩ := validate_accepted distinct defaults canonical accepted
  obtain ⟨holds, again⟩ := settles sound
  exact ⟨accepted, again, holds unit (by simp [schema]) _ rfl, holds radius (by simp [schema]) _ rfl⟩

theorem Field.widen_one {field : Field} (number : field.kind = .number) :
    field.widen (.int 1) = .set (.double .one) := by
  simp [Field.widen, number, Double.ofInt?_one]

/-- Defaults are put in as they stand, and a widened integer is none of the allowed values any longer. -/
theorem not_always_held :
    (let field := Field.defaulted "radius" .number (.int 1)
      let out : Attributes := .ofList [("radius", .int 1)]
      (Schema.mk [field]).validate ∅ = .ok out ∧ ¬field.Holds (.int 1) ∧ (Schema.mk [field]).validate out ≠ .ok out) ∧
    (let field := (Field.needed "radius" .number).restrict [.int 1]
      let out : Attributes := .ofList [("radius", .double .one)]
      (Schema.mk [field]).validate (.ofList [("radius", .int 1)]) = .ok out ∧ ¬field.Holds (.double .one) ∧
        (Schema.mk [field]).validate out ≠ .ok out) := by
  constructor
  · intro field out
    refine ⟨rfl, ?_, ?_⟩
    · intro holds
      obtain ⟨d, double⟩ := holds.double rfl
      cases double
    · have judged : field.judge out = .ok (field.widen (.int 1)) := rfl
      rw [Field.widen_one rfl] at judged
      have again : (Schema.mk [field]).validate out = .ok (out.insert "radius" (.double .one)) := by
        simp only [validate, judgeFields, judged]
        rfl
      rw [again]
      intro same
      have held : (out.insert "radius" (.double .one)).get? "radius" = out.get? "radius" := by rw [Except.ok.inj same]
      rw [Table.get?_insert_self] at held
      cases held
  · intro field out
    refine ⟨?_, ?_, ?_⟩
    · have judged : field.judge (.ofList [("radius", .int 1)]) = .ok (field.widen (.int 1)) := rfl
      rw [Field.widen_one rfl] at judged
      have same : (Table.ofList [("radius", .int 1)]).insert "radius" (.double .one) = out := by
        refine Table.ext_get? fun name => ?_
        change ((Table.empty.insert "radius" (.int 1)).insert "radius" _).get? name =
          (Table.empty.insert "radius" _).get? name
        simp only [Table.get?_insert]
        split <;> rfl
      rw [← same]
      simp only [validate, judgeFields, judged]
      rfl
    · intro holds
      obtain ⟨choice, member, same⟩ := holds.admitted.chosen _ rfl
      obtain rfl := List.mem_singleton.mp member
      cases same
    · have again : ∃ violation, (Schema.mk [field]).validate out = .error violation := ⟨_, rfl⟩
      obtain ⟨violation, refused⟩ := again
      rw [refused]
      exact nofun

end schema

end Dispatch.Schema
