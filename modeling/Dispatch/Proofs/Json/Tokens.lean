import Dispatch.Json.Shape

namespace Dispatch.Json

section texts

/-- A character in front of what is read. -/
def Taken.push (c : Char) (taken : Taken (List Char)) : Taken (List Char) := (c :: taken.1, taken.2)

/-- An escape of one letter is read as the character that it stands for. -/
theorem readChars_shortEscape {letter c : Char} (other : letter ≠ 'u') (short : shortEscape letter = some c)
    (cs : List Char) : readChars ('\\' :: letter :: cs) = Taken.push c <$> readChars cs := by
  rw [readChars, short]
  · rfl
  · exact fun _ _ _ _ _ same => absurd same other
  · exact other

/-- Every control character has a code of two zeros and two digits. -/
theorem hex4_of_control : ∀ n < 0x20, hex4 n = ['0', '0', Nat.digitChar (n / 16), Nat.digitChar (n % 16)] := by
  decide

theorem hexNumber_of_control :
    ∀ n < 0x20, hexNumber '0' '0' (Nat.digitChar (n / 16)) (Nat.digitChar (n % 16)) = some n := by
  decide

/-- The code of a control character is read as this character. -/
theorem readChars_escapeCode {c : Char} (control : c.toNat < 0x20) (cs : List Char) :
    readChars (escapeCode c ++ cs) = Taken.push c <$> readChars cs := by
  have leading : isLeading c.toNat = false := by simp [isLeading]; omega
  have trailing : isTrailing c.toNat = false := by simp [isTrailing]; omega
  rw [escapeCode, hex4_of_control _ control]
  change readChars ('\\' :: 'u' :: '0' :: '0' :: _ :: _ :: cs) = _
  rw [readChars, hexNumber_of_control _ control]
  simp only [leading, trailing, Bool.false_eq_true, if_false, Char.ofNat_toNat]
  rfl

/-- A character that needs no escape is read as it stands. -/
theorem readChars_plain {c : Char} (quote : c ≠ '"') (backslash : c ≠ '\\') (shown : ¬c.toNat < 0x20)
    (cs : List Char) : readChars (c :: cs) = Taken.push c <$> readChars cs := by
  rw [readChars]
  · rw [if_neg shown]
    rfl
  · exact quote
  all_goals simp [backslash]

/-- A control character is escaped by a letter of its own or by its code. -/
theorem escapeChar_of_control : ∀ n < 0x20,
    (['b', 't', 'n', 'f', 'r'].any fun letter =>
      shortEscape letter = some (Char.ofNat n) ∧ escapeChar (Char.ofNat n) = ['\\', letter]) = true ∨
    escapeChar (Char.ofNat n) = escapeCode (Char.ofNat n) := by
  decide

/-- Whichever way a character is written, it is read as itself. -/
theorem readChars_escapeChar (c : Char) (cs : List Char) :
    readChars (escapeChar c ++ cs) = Taken.push c <$> readChars cs := by
  by_cases control : c.toNat < 0x20
  · have written := escapeChar_of_control c.toNat control
    rw [Char.ofNat_toNat] at written
    rcases written with lettered | written
    · obtain ⟨letter, among, told⟩ := List.any_eq_true.mp lettered
      obtain ⟨short, written⟩ := of_decide_eq_true told
      rw [written]
      refine readChars_shortEscape ?_ short cs
      rintro rfl
      exact absurd among (by decide)
    · rw [written]
      exact readChars_escapeCode control cs
  · unfold escapeChar
    split
    · rename_i quote
      exact readChars_shortEscape (by decide) (by rw [quote]; rfl) cs
    split
    · rename_i backslash
      exact readChars_shortEscape (by decide) (by rw [backslash]; rfl) cs
    · rename_i quote backslash
      exact readChars_plain quote backslash control cs

/-- The characters of a text are read up to the quote that closes it. -/
theorem readChars_escaped (cs rest : List Char) :
    readChars (cs.flatMap escapeChar ++ '"' :: rest) = .ok (cs, rest) := by
  induction cs with
  | nil => exact readChars.eq_2 rest
  | cons c cs ih =>
    rw [List.flatMap_cons, List.append_assoc, readChars_escapeChar, ih]
    rfl

/-- What a text is printed as after its opening quote is read as this text. -/
theorem readString_escaped (s : String) (rest : List Char) :
    readString (s.toList.flatMap escapeChar ++ '"' :: rest) = .ok (s, rest) := by
  unfold readString
  rw [readChars_escaped]
  exact congrArg (fun text => Except.ok (text, rest)) String.ofList_toList

end texts

section integers

/-- What may follow a value within brackets, or nothing. -/
def Closed (rest : List Char) : Prop := ∀ c, rest.head? = some c → c = ',' ∨ c = ']' ∨ c = '\x7d'

/-- The digits of a number are taken in as this number if it stays below the limit. -/
theorem absorb_eq {limit sum : Nat} {digits : List Char} (below : Nat.ofDigitChars 10 digits sum < limit) :
    absorb limit sum digits = (Nat.ofDigitChars 10 digits sum, digits.length) := by
  induction digits generalizing sum with
  | nil => rfl
  | cons c cs ih =>
    have grows : ∀ (cs : List Char) (n : Nat), n ≤ Nat.ofDigitChars 10 cs n := by
      intro cs n
      rw [Nat.ofDigitChars_eq_ofDigitChars_zero]
      exact Nat.le_trans (Nat.le_mul_of_pos_left n (Nat.pow_pos (by decide))) (Nat.le_add_right _ _)
    have next : sum * 10 + digitValue c = 10 * sum + (c.toNat - '0'.toNat) := by rw [Nat.mul_comm]; rfl
    rw [Nat.ofDigitChars_cons, ← next] at below ⊢
    have fits : ¬limit ≤ sum * 10 + digitValue c := Nat.not_le.mpr (Nat.lt_of_le_of_lt (grows cs _) below)
    rw [absorb]
    simp only [fits, if_false, ih below, List.length_cons]

/-- No number is written with a zero in front. -/
theorem toDigits_head {n : Nat} (positive : 0 < n) : (Nat.toDigits 10 n).head? ≠ some '0' := by
  induction n using Nat.strongRecOn with
  | _ n ih =>
    rw [Nat.toDigits_eq_if (by decide)]
    split
    · have digits : ∀ n < 10, 0 < n → [Nat.digitChar n].head? ≠ some '0' := by decide
      exact digits n ‹_› positive
    · have smaller := ih (n / 10) (by omega) (by omega)
      cases written : Nat.toDigits 10 (n / 10) with
      | nil => exact absurd written Nat.toDigits_ne_nil
      | cons c cs =>
        rw [written] at smaller
        exact smaller

theorem isDigit_of_mem_toDigits {n : Nat} {c : Char} (member : c ∈ Nat.toDigits 10 n) : c.isDigit = true :=
  Nat.isDigit_of_mem_toDigits (by decide) (by decide) member

/-- No digit, point or exponent comes from outside the brackets around a value. -/
theorem Closed.foreign {rest : List Char} (closed : Closed rest) {c : Char} (first : rest.head? = some c) :
    c.isDigit = false ∧ c ≠ '.' ∧ c ≠ 'e' ∧ c ≠ 'E' := by
  rcases closed c first with rfl | rfl | rfl <;> decide

/-- Digits end where something follows that closes the value. -/
theorem dropWhile_of_closed {rest : List Char} (closed : Closed rest) : rest.dropWhile Char.isDigit = rest := by
  cases rest with
  | nil => rfl
  | cons c cs => exact List.dropWhile_cons_of_neg (by simp [(closed.foreign rfl).1])

theorem takeWhile_of_closed {rest : List Char} (closed : Closed rest) : rest.takeWhile Char.isDigit = [] := by
  cases rest with
  | nil => rfl
  | cons c cs => exact List.takeWhile_cons_of_neg (by simp [(closed.foreign rfl).1])

/-- A number has a first digit, and no other digit follows it if it is a zero. -/
theorem exists_digit (n : Nat) {rest : List Char} (closed : Closed rest) :
    ∃ c after, Nat.toDigits 10 n ++ rest = c :: after ∧ c.isDigit = true ∧
      ¬(c = '0' ∧ after.head?.any Char.isDigit = true) := by
  cases written : Nat.toDigits 10 n with
  | nil => exact absurd written Nat.toDigits_ne_nil
  | cons c cs =>
    refine ⟨c, cs ++ rest, rfl, isDigit_of_mem_toDigits (written ▸ List.mem_cons_self), ?_⟩
    rintro ⟨rfl, more⟩
    -- a number that starts with a zero is zero, so that the next character is not one of its digits
    obtain rfl : n = 0 := Nat.eq_zero_of_not_pos fun positive => toDigits_head positive (by rw [written]; rfl)
    obtain rfl : cs = [] := (List.cons.inj ((Nat.toDigits_zero 10).symm.trans written)).2.symm
    rw [List.nil_append] at more
    cases first : rest.head? with
    | none => simp [first] at more
    | some d => simp [first, (closed.foreign first).1] at more

/-- The digits of a number below the limit are read as this number. -/
theorem readNumber_toDigits {n : Nat} (below : n < Nat.pow 2 64) {rest : List Char} (closed : Closed rest)
    (negative : Bool) : readNumber negative (Nat.toDigits 10 n ++ rest) = ofWhole negative n rest := by
  have digits : ∀ c ∈ Nat.toDigits 10 n, c.isDigit = true := fun c member => isDigit_of_mem_toDigits member
  have written : (Nat.toDigits 10 n ++ rest).takeWhile Char.isDigit = Nat.toDigits 10 n := by
    rw [List.takeWhile_append_of_pos digits, takeWhile_of_closed closed, List.append_nil]
  have left : (Nat.toDigits 10 n ++ rest).dropWhile Char.isDigit = rest := by
    rw [List.dropWhile_append_of_pos digits, dropWhile_of_closed closed]
  have taken : absorb (Nat.pow 2 64) 0 (Nat.toDigits 10 n) = (n, (Nat.toDigits 10 n).length) := by
    rw [absorb_eq (by rwa [Nat.ofDigitChars_ten_toDigits]), Nat.ofDigitChars_ten_toDigits]
  obtain ⟨c, after, start, digit, single⟩ := exists_digit n closed
  rw [start] at written left ⊢
  unfold readNumber
  simp only [digit, single, written, left, taken, Bool.not_true, Bool.false_eq_true, if_false, Nat.sub_self, if_true]
  split
  · exact absurd rfl (closed.foreign rfl).2.1
  · exact absurd rfl (closed.foreign rfl).2.2.1
  · exact absurd rfl (closed.foreign rfl).2.2.2
  · rfl

/-- An integer of 64 bits is read back from its digits, with the sign in front of it or without one. -/
theorem readNumber_natAbs {n : Int} (range : intRange n = true) {rest : List Char} (closed : Closed rest) :
    readNumber (decide (n < 0)) (Nat.toDigits 10 n.natAbs ++ rest) = .ok (.int n, rest) := by
  have bounds : -(2 ^ 63 : Int) ≤ n ∧ n < 2 ^ 64 := by
    simpa [intRange, Int.pow] using range
  have below : n.natAbs < Nat.pow 2 64 := by
    change n.natAbs < 2 ^ 64
    omega
  rw [readNumber_toDigits below closed]
  unfold ofWhole
  by_cases negative : n < 0
  · have fits : 0 < n.natAbs ∧ n.natAbs ≤ Nat.pow 2 63 := by
      change 0 < n.natAbs ∧ n.natAbs ≤ 2 ^ 63
      omega
    have same : -(n.natAbs : Int) = n := by omega
    rw [decide_eq_true negative, if_neg nofun, if_pos fits, same]
  · have same : (n.natAbs : Int) = n := by omega
    rw [decide_eq_false negative, Bool.not_false, if_pos rfl, same]

end integers

end Dispatch.Json
