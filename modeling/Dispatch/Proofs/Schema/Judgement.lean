import Dispatch.Proofs.Schema.Validation
import Mathlib.Data.List.Forall2

namespace Dispatch.Schema

namespace Field

/-- How parameters offend a field, by a value that is missing, of the wrong kind or not allowed. -/
inductive Offends (field : Field) (params : Attributes) : Violation → Prop
  | missing (unsupplied : supplied? params field.name = none) (unsettled : field.default = none)
      (needed : field.required = true) : Offends field params (.missing field.name)
  | mismatch {value : Json} (given : supplied? params field.name = some value)
      (wrong : field.kind.accepts value = false) :
      Offends field params (.mismatch field.name field.kind.advertised value.typeName)
  | notAllowed {value : Json} {choices : List Json} (given : supplied? params field.name = some value)
      (right : field.kind.accepts value = true) (restricted : field.choices = some choices)
      (outside : ∀ choice ∈ choices, choice.same value = false) :
      Offends field params (.notAllowed field.name (choicesText choices) value.text)

/-- The parameters offend the field in one of these ways. -/
def Offended (field : Field) (params : Attributes) : Prop := ∃ violation, field.Offends params violation

/-- What a field gets from parameters that do not offend it, integers of a number field as doubles. -/
inductive Gets (field : Field) (params : Attributes) : Option Json → Prop
  | widened {n : Int} {d : Double} (given : supplied? params field.name = some (.int n)) (number : field.kind = .number)
      (nearest : Double.ofInt? n = some d) : Gets field params (some (.double d))
  | kept {value : Json} (given : supplied? params field.name = some value)
      (other : field.kind = .number → ∀ n, value ≠ .int n) : Gets field params (some value)
  | default (unsupplied : supplied? params field.name = none) : Gets field params field.default

variable {field : Field} {params : Attributes} {violation : Violation}

/-- A field is judged by the ways in which it can be offended. -/
theorem judge_eq_error_iff : field.judge params = .error violation ↔ field.Offends params violation := by
  constructor
  · intro judged
    unfold judge at judged
    split at judged
    · rename_i unsupplied
      split at judged
      · cases judged
      · rename_i unsettled
        split at judged
        · rename_i needed
          cases judged
          exact .missing unsupplied unsettled needed
        · cases judged
    · rename_i value given
      split at judged
      · rename_i wrong
        cases judged
        exact .mismatch given (by simpa using wrong)
      · rename_i right
        split at judged
        · rename_i choices restricted
          split at judged
          · cases judged
          · rename_i outside
            cases judged
            exact .notAllowed given (by simpa using right) restricted (by simpa using outside)
        · cases judged
  · intro offends
    cases offends with
    | missing unsupplied unsettled needed => simp [judge, unsupplied, unsettled, needed]
    | mismatch given wrong => simp [judge, given, wrong]
    | notAllowed given right restricted outside => simpa [judge, given, right, restricted] using outside

/-- A field says one thing of parameters that offend it. -/
theorem Offends.unique {other : Violation} (offends : field.Offends params violation)
    (too : field.Offends params other) : violation = other :=
  Except.error.inj ((judge_eq_error_iff.mpr offends).symm.trans (judge_eq_error_iff.mpr too))

theorem offended_iff_judge : (field.judge params).toBool = false ↔ field.Offended params := by
  simp only [Offended, ← judge_eq_error_iff]
  cases field.judge params <;> simp [Except.toBool]

instance : Decidable (field.Offended params) := decidable_of_iff _ offended_iff_judge

/-- A field is content just when it is not offended. -/
theorem not_offended_iff : ¬field.Offended params ↔ field.Content params := by
  constructor
  · intro unoffended
    by_contra discontent
    obtain ⟨violation, judged⟩ := judge_of_not_content discontent
    exact unoffended ⟨violation, judge_eq_error_iff.mp judged⟩
  · rintro content ⟨violation, offends⟩
    obtain ⟨settlement, judged, _⟩ := judge_of_content content
    cases judged.symm.trans (judge_eq_error_iff.mpr offends)

theorem outcome?_of_supplied {value : Json} (given : supplied? params field.name = some value) :
    field.outcome? params = some (field.widened value) := by
  rw [outcome?, given]

theorem outcome?_of_unsupplied (unsupplied : supplied? params field.name = none) :
    field.outcome? params = field.default := by
  rw [outcome?, unsupplied]

/-- Whatever is not an integer in a number field stays as it is. -/
theorem widened_of_other {value : Json} (other : field.kind = .number → ∀ n, value ≠ .int n) :
    field.widened value = value := by
  unfold widened
  split
  · rename_i n number
    exact absurd rfl (other number n)
  · rfl

/-- A field ends up with what it gets. -/
theorem gets_iff (canonical : CanonicalParameters params) {held : Option Json} :
    field.Gets params held ↔ held = field.outcome? params := by
  constructor
  · intro gets
    cases gets with
    | widened given number nearest => simp [outcome?_of_supplied given, widened, number, nearest]
    | kept given other => rw [outcome?_of_supplied given, widened_of_other other]
    | default unsupplied => rw [outcome?_of_unsupplied unsupplied]
  · rintro rfl
    cases given : supplied? params field.name with
    | none =>
      rw [outcome?_of_unsupplied given]
      exact .default given
    | some value =>
      rw [outcome?_of_supplied given]
      by_cases integer : field.kind = .number ∧ ∃ n, value = .int n
      · obtain ⟨number, n, rfl⟩ := integer
        obtain ⟨d, nearest⟩ := Double.ofInt?_of_intRange (canonical _ _ (supplied?_eq_some.mp given).1)
        have double : field.widened (.int n) = .double d := by simp [widened, number, nearest]
        rw [double]
        exact .widened given number nearest
      · have other (number : field.kind = .number) (n : Int) : value ≠ .int n := fun same => integer ⟨number, n, same⟩
        rw [widened_of_other other]
        exact .kept given other

end Field

variable {params : Attributes}

/-- The violations that are found are those of the offended fields, one for each of them, in order. -/
theorem judgeFields_violations (fields : List Field) (settled : Attributes) :
    List.Forall₂ (fun field violation => field.Offends params violation)
      (fields.filter fun field => field.Offended params) (judgeFields params fields settled).2 := by
  induction fields generalizing settled with
  | nil => exact .nil
  | cons field rest ih =>
    cases judged : field.judge params with
    | error violation =>
      have offends : field.Offends params violation := Field.judge_eq_error_iff.mp judged
      have offended : field.Offended params := ⟨violation, offends⟩
      simp only [judgeFields, judged, List.filter_cons, offended, decide_true, if_true]
      exact .cons offends (ih settled)
    | ok settlement =>
      have unoffended : ¬field.Offended params := by
        rintro ⟨violation, offends⟩
        cases judged.symm.trans (Field.judge_eq_error_iff.mpr offends)
      simp only [judgeFields, judged, List.filter_cons, unoffended, decide_false, Bool.false_eq_true, if_false]
      exact ih _

variable {schema : Schema}

theorem validate_eq_error_iff {violation : Violation} : schema.validate params = .error violation ↔
    Violation.ofList (judgeFields params schema.fields params).2 = some violation := by
  simp only [validate]
  split <;> simp_all

/-- One violation stands for itself, and several are put together. -/
theorem violation_ofList_eq_some {violations : List Violation} {violation : Violation} :
    Violation.ofList violations = some violation ↔
      violations = [violation] ∨ 2 ≤ violations.length ∧ violation = .several violations := by
  rcases violations with _ | ⟨first, _ | ⟨second, rest⟩⟩ <;> simp [Violation.ofList, eq_comm]

/-- Validation reports the violations of all offended fields in order, or puts in what each field gets. -/
theorem validate_judges (distinct : schema.names.Nodup) :
    ((∃ violation, schema.validate params = .error violation) ↔ ∃ field ∈ schema.fields, field.Offended params) ∧
    (∀ violation, schema.validate params = .error violation ↔ ∃ violations,
      List.Forall₂ (fun field violation => field.Offends params violation)
        (schema.fields.filter fun field => field.Offended params) violations ∧
      (violations = [violation] ∨ 2 ≤ violations.length ∧ violation = .several violations)) ∧
    (CanonicalParameters params → ∀ out, schema.validate params = .ok out ↔
      (∀ field ∈ schema.fields, ¬field.Offended params ∧ field.Gets params (out.get? field.name)) ∧
        ∀ name ∉ schema.names, out.get? name = params.get? name) ∧
    ∀ other : Schema, other.fields.Perm schema.fields → ∀ out,
      other.validate params = .ok out ↔ schema.validate params = .ok out := by
  have refused : (∃ violation, schema.validate params = .error violation) ↔
      ∃ field ∈ schema.fields, field.Offended params := by
    have accepts : (∃ out, schema.validate params = .ok out) ↔ ∀ field ∈ schema.fields, ¬field.Offended params := by
      simp only [Field.not_offended_iff]
      exact validate_accepts_iff
    cases judged : schema.validate params with
    | error violation =>
      rw [judged] at accepts
      simpa using accepts
    | ok out =>
      rw [judged] at accepts
      simpa using accepts
  refine ⟨refused, ?_, ?_, ?_⟩
  · intro violation
    have found : List.Forall₂ (fun field violation => field.Offends params violation)
        (schema.fields.filter fun field => field.Offended params) (judgeFields params schema.fields params).2 :=
      judgeFields_violations schema.fields params
    rw [validate_eq_error_iff, violation_ofList_eq_some]
    constructor
    · intro reported
      exact ⟨_, found, reported⟩
    · rintro ⟨violations, each, reported⟩
      have unique : Relator.RightUnique fun (field : Field) violation => field.Offends params violation :=
        fun _ _ _ offends too => offends.unique too
      rwa [← List.right_unique_forall₂' unique each found]
  · intro canonical out
    rw [validate_eq_ok_iff distinct]
    simp only [Field.not_offended_iff, Field.gets_iff canonical]
  · intro other permuted out
    have names : other.names.Perm schema.names := permuted.map Field.name
    rw [validate_eq_ok_iff distinct, validate_eq_ok_iff (names.nodup_iff.mpr distinct)]
    simp only [permuted.mem_iff, names.mem_iff]

/-- Two violations are reported in order, and fields in either order accept a radius of one as a double. -/
theorem validate_judges_sphere :
    let schema : Schema := ⟨[.defaulted "radius" .number (.double .one), .needed "name" .string]⟩
    let good : Attributes := .ofList [("radius", .int 1), ("name", .string "ball"), ("size", .null)]
    schema.names.Nodup ∧
      schema.validate (.ofList [("radius", .string "big"), ("name", .null)]) =
        .error (.several [.mismatch "radius" "number" "string", .missing "name"]) ∧
      CanonicalParameters good ∧
      (Schema.mk schema.fields.reverse).validate good = .ok (good.insert "radius" (.double .one)) := by
  intro schema good
  have distinct : schema.names.Nodup := by decide
  have canonical : CanonicalParameters good := by
    refine canonicalParameters_ofList fun name value member => ?_
    simp only [List.mem_cons, List.not_mem_nil, or_false, Prod.mk.injEq] at member
    rcases member with ⟨rfl, rfl⟩ | ⟨rfl, rfl⟩ | ⟨rfl, rfl⟩ <;> trivial
  have accepted : schema.validate good = .ok (good.insert "radius" (.double .one)) := by
    apply ((validate_judges distinct).2.2.1 canonical _).mpr
    constructor
    · intro field member
      rcases List.mem_cons.mp member with rfl | member
      · have held := Table.get?_insert_self good "radius" (.double .one)
        exact ⟨by decide, held ▸ .widened rfl rfl Double.ofInt?_one⟩
      · obtain rfl := List.mem_singleton.mp member
        exact ⟨by decide, .kept rfl fun number => by cases number⟩
    · intro name undeclared
      have other : name ≠ "radius" := fun same => undeclared (same ▸ List.mem_cons_self)
      exact Table.get?_insert_of_ne good other _
  refine ⟨distinct, ?_, canonical, ?_⟩
  · apply ((validate_judges distinct).2.1 _).mpr
    exact ⟨_, .cons (.mismatch rfl rfl) (.cons (.missing rfl rfl rfl) .nil), .inr ⟨by decide, rfl⟩⟩
  · exact ((validate_judges distinct).2.2.2 _ (List.reverse_perm _) _).mpr accepted

end Dispatch.Schema
