import Dispatch.Identifier
import Mathlib.Data.List.DropRight

namespace Dispatch

namespace Text

theorem trimChars_eq (cs : List Char) : trimChars cs = (cs.dropWhile isBlank).rdropWhile isBlank := rfl

/-- What trimming has left has nothing to trim. -/
theorem trimChars_trimChars (cs : List Char) : trimChars (trimChars cs) = trimChars cs := by
  have front : (trimChars cs).dropWhile isBlank = trimChars cs := by
    rw [List.dropWhile_eq_self_iff]
    intro nonempty
    have begins : trimChars cs <+: cs.dropWhile isBlank := List.rdropWhile_prefix isBlank _
    have settled := List.dropWhile_eq_self_iff.mp (List.dropWhile_idempotent isBlank cs)
    rw [begins.getElem nonempty]
    exact settled _
  rw [trimChars_eq (trimChars cs), front, trimChars_eq, List.rdropWhile_idempotent]

theorem trim_trim (text : String) : trim (trim text) = trim text := by
  simp [trim, trimChars_trimChars]

/-- Trimming takes nothing away but what is blank. -/
theorem mem_trimFront_iff {cs : List Char} {c : Char} (solid : isBlank c = false) : c ∈ trimFront cs ↔ c ∈ cs := by
  have parted := List.takeWhile_append_dropWhile (p := isBlank) (l := cs)
  constructor
  · intro left
    exact (List.dropWhile_suffix isBlank).subset left
  · intro member
    rw [← parted, List.mem_append] at member
    refine member.resolve_left fun dropped => ?_
    rw [List.mem_takeWhile_imp dropped] at solid
    cases solid

theorem mem_trim_iff {text : String} {c : Char} (solid : isBlank c = false) :
    c ∈ (trim text).toList ↔ c ∈ text.toList := by
  simp [trim, trimChars, mem_trimFront_iff solid]

end Text

namespace Identifier

variable {rules : Rules} {text core : String}

/-- An identifier is the text that it was read from, trimmed where the rules allow for it. -/
theorem normalize_ok (admitted : rules.normalize text = .ok core) :
    core = if rules.trims then Text.trim text else text := by
  unfold Rules.normalize at admitted
  dsimp only at admitted
  generalize (if rules.trims then Text.trim text else text) = candidate at admitted ⊢
  repeat' split at admitted
  all_goals cases admitted
  rfl

/-- The characters of an identifier are those that the rules allow. -/
theorem allows_of_normalize (admitted : rules.normalize text = .ok core) : ∀ c ∈ core.toList, rules.allows c = true := by
  unfold Rules.normalize at admitted
  dsimp only at admitted
  generalize (if rules.trims then Text.trim text else text) = candidate at admitted
  repeat' split at admitted
  all_goals cases admitted
  rename_i found
  intro c member
  simpa using List.find?_eq_none.mp found c member

/-- An identifier stands for itself. -/
theorem normalize_normal (admitted : rules.normalize text = .ok core) : rules.normalize core = .ok core := by
  have trimmed := normalize_ok admitted
  cases trims : rules.trims with
  | false =>
    rw [trims] at trimmed
    simp only [Bool.false_eq_true, if_false] at trimmed
    rw [trimmed] at admitted ⊢
    exact admitted
  | true =>
    rw [trims] at trimmed
    simp only [if_true] at trimmed
    have again : Text.trim core = core := by rw [trimmed, Text.trim_trim]
    unfold Rules.normalize at admitted ⊢
    simp only [trims, if_true, again, ← trimmed, Bool.not_true, Bool.false_eq_true, false_and, if_false]
      at admitted ⊢
    exact admitted

/-- A colon is no letter and no number, so it is in an identifier only where the rules say so. -/
theorem colon_not_mem (colonless : rules.allowColons = false) (admitted : rules.normalize text = .ok core) :
    ':' ∉ core.toList := by
  intro member
  have allowed := allows_of_normalize admitted ':' member
  have outside : Text.isAlphanumeric ':' = false := by decide +kernel
  simp [Rules.allows, outside, colonless] at allowed

/-- Trimming takes no colon away, so that there is none in the text either. -/
theorem colon_not_mem_text (colonless : rules.allowColons = false) (admitted : rules.normalize text = .ok core) :
    ':' ∉ text.toList := by
  have bare := colon_not_mem colonless admitted
  rw [normalize_ok admitted] at bare
  split at bare
  · rwa [Text.mem_trim_iff rfl] at bare
  · exact bare

/-- Texts without a colon are known from what they make when they are joined by one. -/
theorem join_colon_inj {first second first' second' : String} (bare : ':' ∉ first.toList) (bare' : ':' ∉ second.toList)
    (same : first' ++ ":" ++ second' = first ++ ":" ++ second) : first' = first ∧ second' = second := by
  have chars : first'.toList ++ ':' :: second'.toList = first.toList ++ ':' :: second.toList := by
    simpa using congrArg String.toList same
  rcases List.append_eq_append_iff.mp chars with ⟨more, front, back⟩ | ⟨more, front, back⟩
  · cases more with
    | nil => simp_all [String.ext_iff]
    | cons c rest =>
      have begins : c = ':' := by simp_all
      simp [front, begins] at bare
  · cases more with
    | nil => simp_all [String.ext_iff]
    | cons c rest =>
      have ends : ':' ∈ second.toList := by
        have later : second.toList = rest ++ ':' :: second'.toList := by simp_all
        simp [later]
      exact absurd ends bare'

end Identifier

end Dispatch
