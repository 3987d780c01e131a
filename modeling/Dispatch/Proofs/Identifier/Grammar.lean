import Dispatch.Proofs.Identifier
import Mathlib.Data.String.Basic

namespace Dispatch

namespace Text

/-- No character lies in ranges of both kinds. -/
def areApart (ranges others : List (Nat × Nat)) : Bool :=
  ranges.all fun range => others.all fun other => range.2 < other.1 || other.2 < range.1

theorem within_of_areApart {ranges others : List (Nat × Nat)} (apart : areApart ranges others = true) {c : Char}
    (inside : within ranges c = true) : within others c = false := by
  rw [Bool.eq_false_iff]
  intro insideToo
  obtain ⟨range, member, here⟩ := List.any_eq_true.mp inside
  obtain ⟨other, memberToo, there⟩ := List.any_eq_true.mp insideToo
  have between := List.all_eq_true.mp (List.all_eq_true.mp apart range member) other memberToo
  simp only [Bool.and_eq_true, decide_eq_true_eq] at here there
  simp only [Bool.or_eq_true, decide_eq_true_eq] at between
  omega

/-- Letters and numbers are not blank. -/
theorem isBlank_of_isAlphanumeric {c : Char} (letter : isAlphanumeric c = true) : isBlank c = false :=
  within_of_areApart (by decide +kernel) letter

/-- Where nothing is blank there is nothing to trim. -/
theorem trim_of_not_blank {text : String} (solid : ∀ c ∈ text.toList, isBlank c = false) : trim text = text := by
  have front : text.toList.dropWhile isBlank = text.toList :=
    List.dropWhile_eq_self_iff.mpr fun nonempty => by simp [solid _ (List.getElem_mem nonempty)]
  have back : text.toList.rdropWhile isBlank = text.toList :=
    List.rdropWhile_eq_self_iff.mpr fun nonempty => by simp [solid _ (List.getLast_mem nonempty)]
  rw [trim, trimChars_eq, front, back, String.ofList_toList]

/-- Trimming adds no character. -/
theorem mem_of_mem_trim {text : String} {c : Char} (member : c ∈ (trim text).toList) : c ∈ text.toList := by
  rw [trim, String.toList_ofList, trimChars_eq] at member
  exact (List.dropWhile_suffix isBlank).subset ((List.rdropWhile_prefix isBlank _).subset member)

/-- Every character has a byte at least. -/
theorem length_le_utf8ByteSize (text : String) : text.length ≤ text.utf8ByteSize := by
  rw [← String.utf8Len_toList, ← String.length_toList]
  induction text.toList with
  | nil => exact Nat.zero_le _
  | cons c cs ih =>
    rw [List.length_cons, String.utf8Len_cons]
    exact Nat.add_le_add ih c.utf8Size_pos

/-- Characters of ASCII have one byte each. -/
theorem utf8ByteSize_of_ascii {text : String} (ascii : ∀ c ∈ text.toList, c.toNat < 128) :
    text.utf8ByteSize = text.length := by
  rw [← String.utf8Len_toList, ← String.length_toList]
  generalize text.toList = chars at ascii
  induction chars with
  | nil => rfl
  | cons c cs ih =>
    obtain ⟨first, later⟩ := List.forall_mem_cons.mp ascii
    have single : c.utf8Size = 1 := Char.utf8Size_eq_one_iff.mpr (UInt32.le_iff_toNat_le.mpr (Nat.le_of_lt_succ first))
    rw [List.length_cons, String.utf8Len_cons, ih later, single]

end Text

namespace Identifier

/-- The identifier that a text spells by the rules, with its length in characters. -/
structure Rules.Spells (rules : Rules) (text core : String) : Prop where
  trimmed : core = if rules.trims then Text.trim text else text
  nonempty : core ≠ ""
  short : core.length ≤ rules.maxLength
  allowed : ∀ c ∈ core.toList, Text.isAlphanumeric c = true ∨ c = '_' ∨ c = '-' ∨
    (c = '.' ∧ rules.allowDots = true) ∨ (c = ':' ∧ rules.allowColons = true)

variable {rules : Rules} {text core : String} {c : Char}

theorem allows_iff : rules.allows c = true ↔ Text.isAlphanumeric c = true ∨ c = '_' ∨ c = '-' ∨
    (c = '.' ∧ rules.allowDots = true) ∨ (c = ':' ∧ rules.allowColons = true) := by
  simp [Rules.allows, or_assoc]

/-- Nothing blank is allowed. -/
theorem isBlank_of_allows (allowed : rules.allows c = true) : Text.isBlank c = false := by
  rcases allows_iff.mp allowed with letter | rfl | rfl | ⟨rfl, _⟩ | ⟨rfl, _⟩
  · exact Text.isBlank_of_isAlphanumeric letter
  all_goals rfl

/-- A slash is not allowed. -/
theorem slash_not_allowed : rules.allows '/' = false := by
  have sign : Text.isAlphanumeric '/' = false := by decide +kernel
  simp [Rules.allows, sign]

/-- A step to another directory takes a slash. -/
theorem slash_mem_of_hasStep {cs : List Char} (step : hasStep cs = true) : '/' ∈ cs := by
  fun_induction hasStep cs with
  | case1 => simp
  | case2 _ _ _ ih => exact List.mem_cons_of_mem _ (ih step)
  | case3 => cases step

/-- Whatever is admitted is not empty, and short enough. -/
theorem nonempty_and_short_of_normalize (admitted : rules.normalize text = .ok core) :
    core ≠ "" ∧ core.utf8ByteSize ≤ rules.maxLength := by
  have trimmed := normalize_ok admitted
  unfold Rules.normalize at admitted
  dsimp only at admitted
  rw [← trimmed] at admitted
  split at admitted
  case isTrue => cases admitted
  rename_i full
  iterate 2
    split at admitted
    case isTrue => cases admitted
  split at admitted
  case isTrue => cases admitted
  rename_i short
  exact ⟨by simpa using full, Nat.not_lt.mp short⟩

/-- Where only allowed characters are left, and at least one of them, nothing but the number of bytes counts. -/
theorem normalize_of_allowed (trimmed : core = if rules.trims then Text.trim text else text) (nonempty : core ≠ "")
    (allowed : ∀ c ∈ core.toList, rules.allows c = true) : rules.normalize text =
      if rules.maxLength < core.utf8ByteSize then .error (.tooLong core.utf8ByteSize rules.maxLength) else .ok core := by
  have solid (c : Char) (member : c ∈ core.toList) := isBlank_of_allows (allowed c member)
  have kept (keeps : (!rules.trims) = true) : core = text := by
    simp only [Bool.not_eq_true'] at keeps
    simpa [keeps] using trimmed
  have full : ¬core.isEmpty = true := by simpa using nonempty
  have unblank : ¬((!rules.trims) = true ∧ Text.isAllBlank text = true) := by
    rintro ⟨keeps, blank⟩
    rw [← kept keeps] at blank
    obtain ⟨c, member⟩ := List.exists_mem_of_ne_nil core.toList (by simpa using nonempty)
    exact absurd (List.all_eq_true.mp blank c member) (by simp [solid c member])
  have unpadded : ¬((!rules.trims) = true ∧ text ≠ Text.trim text) := by
    rintro ⟨keeps, padded⟩
    rw [← kept keeps] at padded
    exact padded (Text.trim_of_not_blank solid).symm
  have stays : ¬(rules.refuseTraversal = true ∧ hasStep core.toList = true) := by
    rintro ⟨_, step⟩
    exact absurd (allowed '/' (slash_mem_of_hasStep step)) (by simp [slash_not_allowed])
  have spelled : core.toList.find? (fun c => !rules.allows c) = none := by
    simpa [List.find?_eq_none] using allowed
  unfold Rules.normalize
  dsimp only
  rw [← trimmed, if_neg full, if_neg unblank, if_neg unpadded, if_neg stays, spelled]

/-- Spelling says what is allowed, but counts characters. -/
theorem spells_iff : rules.Spells text core ↔
    core = (if rules.trims then Text.trim text else text) ∧ core ≠ "" ∧ core.length ≤ rules.maxLength ∧
      ∀ c ∈ core.toList, rules.allows c = true := by
  simp only [allows_iff]
  exact ⟨fun spells => ⟨spells.trimmed, spells.nonempty, spells.short, spells.allowed⟩,
    fun ⟨trimmed, nonempty, short, allowed⟩ => ⟨trimmed, nonempty, short, allowed⟩⟩

/-- An identifier is what a text spells, unless that has too many bytes. -/
theorem normalize_eq_ok_iff :
    rules.normalize text = .ok core ↔ rules.Spells text core ∧ core.utf8ByteSize ≤ rules.maxLength := by
  rw [spells_iff]
  constructor
  · intro admitted
    obtain ⟨nonempty, short⟩ := nonempty_and_short_of_normalize admitted
    have characters := Nat.le_trans (Text.length_le_utf8ByteSize core) short
    exact ⟨⟨normalize_ok admitted, nonempty, characters, allows_of_normalize admitted⟩, short⟩
  · rintro ⟨⟨trimmed, nonempty, _, allowed⟩, short⟩
    rw [normalize_of_allowed trimmed nonempty allowed, if_neg (Nat.not_lt.mpr short)]

/-- A text is admitted just when it spells an identifier that has no more bytes than the rules say. -/
theorem normalize_spells (rules : Rules) (text core : String) :
    (rules.normalize text = .ok core ↔ rules.Spells text core ∧ core.utf8ByteSize ≤ rules.maxLength) ∧
    (rules.normalize text = .ok core → rules.normalize core = .ok core) ∧
    (rules.Spells text core → rules.normalize text =
      if rules.maxLength < core.utf8ByteSize then .error (.tooLong core.utf8ByteSize rules.maxLength) else .ok core) ∧
    ((∀ c ∈ text.toList, c.toNat < 128) → (rules.normalize text = .ok core ↔ rules.Spells text core)) := by
  refine ⟨normalize_eq_ok_iff, normalize_normal, ?_, ?_⟩
  · intro spells
    obtain ⟨trimmed, nonempty, _, allowed⟩ := spells_iff.mp spells
    exact normalize_of_allowed trimmed nonempty allowed
  · intro ascii
    rw [normalize_eq_ok_iff, and_iff_left_iff_imp]
    intro spells
    have asciiToo (c : Char) (member : c ∈ core.toList) : c.toNat < 128 := by
      rw [spells.trimmed] at member
      split at member
      · exact ascii c (Text.mem_of_mem_trim member)
      · exact ascii c member
    rw [Text.utf8ByteSize_of_ascii asciiToo]
    exact spells.short

/-- With blank characters around it a text spells what is left between them. -/
theorem normalize_spells_maya :
    Rules.targetSystem.Spells " maya " "maya" ∧ Rules.targetSystem.normalize "maya" = .ok "maya" := by
  have admitted : Rules.targetSystem.normalize " maya " = .ok "maya" := rfl
  obtain ⟨spelled, again, _⟩ := normalize_spells .targetSystem " maya " "maya"
  exact ⟨(spelled.mp admitted).1, again admitted⟩

/-- 33 letters of two bytes each are refused for a target system, though 64 characters are not too many. -/
theorem not_always_admitted :
    let text := String.ofList (List.replicate 33 'é')
    Rules.targetSystem.Spells text text ∧ Rules.targetSystem.normalize text = .error (.tooLong 66 64) := by
  intro text
  have chars : text.toList = List.replicate 33 'é' := String.toList_ofList
  have letter : Text.isAlphanumeric 'é' = true := by decide +kernel
  have all (c : Char) (member : c ∈ text.toList) : c = 'é' := by
    rw [chars] at member
    exact List.eq_of_mem_replicate member
  have trimmed : text = if Rules.targetSystem.trims then Text.trim text else text := by
    refine (Text.trim_of_not_blank fun c member => ?_).symm
    rw [all c member]
    exact Text.isBlank_of_isAlphanumeric letter
  have short : text.length ≤ 64 := by
    rw [← String.length_toList, chars]
    decide
  have spells : Rules.targetSystem.Spells text text :=
    ⟨trimmed, by decide, short, fun c member => .inl (all c member ▸ letter)⟩
  have bytes : text.utf8ByteSize = 66 := by
    rw [← String.utf8Len_toList, chars]
    decide
  obtain ⟨_, nonempty, _, allowed⟩ := spells_iff.mp spells
  refine ⟨spells, ?_⟩
  rw [normalize_of_allowed trimmed nonempty allowed, bytes]
  rfl

end Identifier

end Dispatch
