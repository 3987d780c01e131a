import Dispatch.Proofs.Json.Tokens

namespace Dispatch.Json

variable {α β : Type}

/-- After a value the reader goes on. -/
theorem bind_of_ok {reading : Reading α} {value : α} (read : reading = .ok value) (next : α → Reading β) :
    (reading >>= next) = next value := by
  rw [read]
  rfl

/-- A reading comes to a value and to what follows it, unless something nests too deep and is refused. -/
structure Reads (within : Prop) (reading : Reading (Taken α)) (value : α) (rest : List Char) : Prop where
  fits (flat : within) : reading = .ok (value, rest)
  refuses (deep : ¬within) : ∃ left, reading = .error ⟨.malformed .tooDeep, left⟩

section reads
variable {within further : Prop} {reading : Reading (Taken α)} {value : α} {rest : List Char}

/-- What is read without a bracket is read at any depth. -/
theorem reads_of_ok (read : reading = .ok (value, rest)) : Reads True reading value rest :=
  ⟨fun _ => read, fun deep => absurd trivial deep⟩

/-- What nests too deep is refused. -/
theorem reads_of_refused {left : Nat} (refused : reading = .error ⟨.malformed .tooDeep, left⟩) :
    Reads False reading value rest :=
  ⟨nofun, fun _ => ⟨left, refused⟩⟩

theorem Reads.congr (reads : Reads within reading value rest) (same : further ↔ within) :
    Reads further reading value rest :=
  ⟨fun flat => reads.fits (same.mp flat), fun deep => reads.refuses (mt same.mpr deep)⟩

/-- What follows is read if nothing before it nests too deep. -/
theorem Reads.bind (reads : Reads within reading value rest) {next : Taken α → Reading (Taken β)} {other : β}
    {last : List Char} (later : Reads further (next (value, rest)) other last) :
    Reads (within ∧ further) (reading >>= next) other last := by
  constructor
  · rintro ⟨flat, flatToo⟩
    rw [reads.fits flat]
    exact later.fits flatToo
  · intro deep
    by_cases flat : within
    · rw [reads.fits flat]
      exact later.refuses fun flatToo => deep ⟨flat, flatToo⟩
    · obtain ⟨left, refused⟩ := reads.refuses flat
      rw [refused]
      exact ⟨left, rfl⟩

/-- Another value is made of what was read. -/
theorem Reads.map (reads : Reads within reading value rest) (f : α → β) :
    Reads within (reading >>= fun taken => .ok (f taken.1, taken.2)) (f value) rest := by
  have joined : Reads (within ∧ True) (reading >>= fun taken => .ok (f taken.1, taken.2)) (f value) rest :=
    reads.bind (reads_of_ok rfl)
  exact joined.congr (iff_of_eq (and_true within)).symm

end reads

section printed

/-- A character that is no blank stands where it is. -/
theorem skipSpace_cons {c : Char} (shown : isSpace c = false) (cs : List Char) : skipSpace (c :: cs) = c :: cs :=
  List.dropWhile_cons_of_neg (by simp [shown])

/-- So it is the next one. -/
theorem nextChar_cons {c : Char} (shown : isSpace c = false) (part : Unfinished) (cs : List Char) :
    nextChar part (c :: cs) = .ok (c, cs) := by
  unfold nextChar
  rw [skipSpace_cons shown]

/-- A colon leads from a name to its value. -/
theorem readColon_cons (cs : List Char) : readColon (':' :: cs) = .ok cs := by
  unfold readColon
  rw [nextChar_cons (by decide)]
  rfl

/-- The items of an array behind the first one, each after a comma. -/
def printMoreItems (items : List Json) : List Char := items.flatMap fun item => ',' :: item.print

/-- The entries of an object behind the first one, each after a comma. -/
def printMoreEntries (entries : List (String × Json)) : List Char :=
  entries.flatMap fun entry => ',' :: printString entry.1 ++ ':' :: entry.2.print

theorem printItems_cons (item : Json) (items : List Json) :
    printItems (item :: items) = item.print ++ printMoreItems items := by
  induction items generalizing item with
  | nil => simp [printItems, printMoreItems]
  | cons next rest ih => simp [printItems, ih, printMoreItems]

theorem printEntries_cons (name : String) (item : Json) (entries : List (String × Json)) :
    printEntries ((name, item) :: entries) = printString name ++ ':' :: item.print ++ printMoreEntries entries := by
  induction entries generalizing name item with
  | nil => simp [printEntries, printMoreEntries]
  | cons entry rest ih =>
    obtain ⟨next, other⟩ := entry
    simp [printEntries, ih, printMoreEntries]

/-- How the parts of an array stand in a text, in front of what follows it. -/
theorem print_array_append (item : Json) (items : List Json) (rest : List Char) :
    (Json.array (item :: items)).print ++ rest = '[' :: (item.print ++ (printMoreItems items ++ ']' :: rest)) := by
  simp [print, printItems_cons]

theorem printMoreItems_append (item : Json) (items : List Json) (rest : List Char) :
    printMoreItems (item :: items) ++ rest = ',' :: (item.print ++ (printMoreItems items ++ rest)) := by
  simp [printMoreItems]

/-- How the parts of an object stand in a text, in front of what follows it. -/
theorem print_object_append (name : String) (item : Json) (entries : List (String × Json)) (rest : List Char) :
    (Json.object ((name, item) :: entries)).print ++ rest =
      '\x7b' :: (printString name ++ ':' :: (item.print ++ (printMoreEntries entries ++ '\x7d' :: rest))) := by
  simp [print, printEntries_cons]

theorem printMoreEntries_append (name : String) (item : Json) (entries : List (String × Json)) (rest : List Char) :
    printMoreEntries ((name, item) :: entries) ++ rest =
      ',' :: printString name ++ ':' :: (item.print ++ (printMoreEntries entries ++ rest)) := by
  simp [printMoreEntries]

theorem length_print_array (item : Json) (items : List Json) :
    (Json.array (item :: items)).print.length = item.print.length + (printMoreItems items).length + 2 := by
  simp only [print, printItems_cons, List.length_cons, List.length_append, List.length_nil, Nat.zero_add, Nat.add_assoc]

theorem length_printMoreItems (item : Json) (items : List Json) :
    (printMoreItems (item :: items)).length = item.print.length + (printMoreItems items).length + 1 := by
  simp [printMoreItems]

theorem length_print_object (name : String) (item : Json) (entries : List (String × Json)) :
    (Json.object ((name, item) :: entries)).print.length =
      (printString name).length + item.print.length + (printMoreEntries entries).length + 3 := by
  simp only [print, printEntries_cons, List.length_cons, List.length_append, List.length_nil]
  omega

theorem length_printMoreEntries (name : String) (item : Json) (entries : List (String × Json)) :
    (printMoreEntries ((name, item) :: entries)).length =
      (printString name).length + item.print.length + (printMoreEntries entries).length + 2 := by
  simp only [printMoreEntries, List.flatMap_cons, List.length_cons, List.length_append]
  omega

/-- A text stands between its quotes, in front of what follows it. -/
theorem printString_append (name : String) (cs : List Char) :
    printString name ++ cs = '"' :: (name.toList.flatMap escapeChar ++ '"' :: cs) := by
  simp [printString]

theorem printInt_eq (n : Int) :
    printInt n = if n < 0 then '-' :: Nat.toDigits 10 n.natAbs else Nat.toDigits 10 n.natAbs := by
  simp [printInt, Nat.repr_eq_ofList_toDigits]

end printed

section values

/-- A digit is no blank and begins no word. -/
theorem digit_begins {c : Char} (digit : c.isDigit = true) :
    isSpace c = false ∧ c ≠ 'n' ∧ c ≠ 't' ∧ c ≠ 'f' ∧ c ≠ '-' ∧ c ≠ ']' := by
  have other (d : Char) (letter : d.isDigit = false) : c ≠ d := by
    rintro rfl
    rw [digit] at letter
    cases letter
  refine ⟨?_, other _ rfl, other _ rfl, other _ rfl, other _ rfl, other _ rfl⟩
  simp [isSpace, other ' ' rfl, other '\n' rfl, other '\t' rfl, other '\r' rfl]

/-- What is printed begins with neither a blank nor the end of a list. -/
theorem print_begins {value : Json} (integers : value.IntegersOnly) :
    ∃ c cs, value.print = c :: cs ∧ isSpace c = false ∧ c ≠ ']' := by
  cases value with
  | null => exact ⟨_, _, rfl, by decide, by decide⟩
  | bool flag => cases flag <;> exact ⟨_, _, rfl, by decide, by decide⟩
  | int n =>
    rw [print, printInt_eq]
    split
    · exact ⟨_, _, rfl, by decide, by decide⟩
    · have ends : Closed [] := nofun
      obtain ⟨c, cs, written, digit, _⟩ := exists_digit n.natAbs ends
      rw [List.append_nil] at written
      obtain ⟨shown, _, _, _, _, open_⟩ := digit_begins digit
      exact ⟨c, cs, written, shown, open_⟩
  | double d => exact integers.elim
  | string s => exact ⟨_, _, rfl, by decide, by decide⟩
  | array items => exact ⟨_, _, rfl, by decide, by decide⟩
  | object entries => exact ⟨_, _, rfl, by decide, by decide⟩

/-- Something is printed of every value. -/
theorem length_print_pos {value : Json} (integers : value.IntegersOnly) : 0 < value.print.length := by
  obtain ⟨c, cs, written, _⟩ := print_begins integers
  rw [written]
  exact Nat.succ_pos cs.length

/-- An integer of 64 bits is read as it was printed. -/
theorem readValue_int {n : Int} (range : intRange n = true) (fuel depth : Nat) {rest : List Char}
    (closed : Closed rest) : readValue .full (fuel + 1) depth (printInt n ++ rest) = .ok (.int n, rest) := by
  have read := readNumber_natAbs range closed
  rw [printInt_eq]
  split
  · rename_i negative
    rw [List.cons_append, readValue, nextChar_cons (by decide)]
    rw [decide_eq_true negative] at read
    exact read
  · rename_i positive
    rw [decide_eq_false positive] at read
    obtain ⟨c, after, start, digit, _⟩ := exists_digit n.natAbs closed
    obtain ⟨shown, null, yes, no, minus, _⟩ := digit_begins digit
    rw [start] at read ⊢
    rw [readValue, bind_of_ok (nextChar_cons shown _ _)]
    simp only [null, yes, no, minus, digit, if_false, if_true]
    exact read

/-- A text is read as it was printed. -/
theorem readValue_string (s : String) (fuel depth : Nat) (rest : List Char) :
    readValue .full (fuel + 1) depth (printString s ++ rest) = .ok (.string s, rest) := by
  rw [printString_append, readValue, bind_of_ok (nextChar_cons (by decide) _ _)]
  change (readString _ >>= _) = _
  rw [bind_of_ok (readString_escaped s rest)]
  rfl

/-- Behind a bracket there is a first item, unless the array ends here. -/
theorem readItems_begins {c : Char} (shown : isSpace c = false) (inside : c ≠ ']') (fuel depth : Nat)
    (cs : List Char) : readItems .full (fuel + 1) depth (c :: cs) = (do
      let (item, rest) ← readValue .full fuel depth (c :: cs)
      let (items, rest) ← readMoreItems .full fuel depth rest
      return (item :: items, rest)) := by
  rw [readItems, bind_of_ok (nextChar_cons shown _ _)]
  simp only [inside, if_false]

/-- Behind a comma there is another item. -/
theorem readMoreItems_begins {c : Char} (shown : isSpace c = false) (inside : c ≠ ']') (fuel depth : Nat)
    (cs : List Char) : readMoreItems .full (fuel + 1) depth (',' :: c :: cs) = (do
      let (item, rest) ← readValue .full fuel depth (c :: cs)
      let (items, rest) ← readMoreItems .full fuel depth rest
      return (item :: items, rest)) := by
  have after : Care.full.itemAfterComma (c :: cs) = .ok (c :: cs) := by
    unfold Care.itemAfterComma
    rw [bind_of_ok (nextChar_cons shown _ _)]
    simp only [inside, if_false]
    rfl
  rw [readMoreItems, bind_of_ok (nextChar_cons (by decide) _ _)]
  simp only [show ¬(',' = ']') by decide, if_false, if_true]
  rw [bind_of_ok after]

theorem readMoreItems_ends (fuel depth : Nat) (rest : List Char) :
    readMoreItems .full (fuel + 1) depth (']' :: rest) = .ok ([], rest) := by
  rw [readMoreItems, nextChar_cons (by decide)]
  rfl

/-- Behind a brace there is a first entry, unless the object ends here. -/
theorem readEntries_begins (name : String) (fuel depth : Nat) (cs : List Char) :
    readEntries .full (fuel + 1) depth (printString name ++ ':' :: cs) = (do
      let (item, rest) ← readValue .full fuel depth cs
      let (entries, rest) ← readMoreEntries .full fuel depth rest
      return ((name, item) :: entries, rest)) := by
  rw [printString_append, readEntries, bind_of_ok (nextChar_cons (by decide) _ _)]
  simp only [show ¬('"' = '\x7d') by decide, if_false]
  rw [bind_of_ok (show openName '"' _ = .ok _ from rfl), Care.string, bind_of_ok (readString_escaped name _),
    bind_of_ok (readColon_cons cs)]

/-- Behind a comma the quote opens a name. -/
theorem nameAfterComma_quote (cs : List Char) : Care.full.nameAfterComma ('"' :: cs) = .ok cs := by
  unfold Care.nameAfterComma
  rw [bind_of_ok (nextChar_cons (by decide) _ _)]
  rfl

/-- Behind a comma there is another entry. -/
theorem readMoreEntries_begins (name : String) (fuel depth : Nat) (cs : List Char) :
    readMoreEntries .full (fuel + 1) depth (',' :: printString name ++ ':' :: cs) = (do
      let (item, rest) ← readValue .full fuel depth cs
      let (entries, rest) ← readMoreEntries .full fuel depth rest
      return ((name, item) :: entries, rest)) := by
  rw [List.cons_append, printString_append, readMoreEntries, bind_of_ok (nextChar_cons (by decide) _ _)]
  simp only [show ¬(',' = '\x7d') by decide, if_false, if_true]
  rw [bind_of_ok (nameAfterComma_quote _), Care.string, bind_of_ok (readString_escaped name _),
    bind_of_ok (readColon_cons cs)]

theorem readMoreEntries_ends (fuel depth : Nat) (rest : List Char) :
    readMoreEntries .full (fuel + 1) depth ('\x7d' :: rest) = .ok ([], rest) := by
  rw [readMoreEntries, nextChar_cons (by decide)]
  rfl

end values

section nesting

theorem closed_bracket (rest : List Char) : Closed (']' :: rest) :=
  fun _ same => .inr (.inl (Option.some.inj same).symm)

theorem closed_brace (rest : List Char) : Closed ('\x7d' :: rest) :=
  fun _ same => .inr (.inr (Option.some.inj same).symm)

theorem closed_moreItems (items : List Json) (rest : List Char) : Closed (printMoreItems items ++ ']' :: rest) := by
  cases items with
  | nil => exact closed_bracket rest
  | cons item more => exact fun _ same => .inl (Option.some.inj same).symm

theorem closed_moreEntries (entries : List (String × Json)) (rest : List Char) :
    Closed (printMoreEntries entries ++ '\x7d' :: rest) := by
  cases entries with
  | nil => exact closed_brace rest
  | cons entry more => exact fun _ same => .inl (Option.some.inj same).symm

section brackets
variable {fuel inner : Nat} {cs rest : List Char}

/-- An array is read if the reader may go one level down and its items are read there. -/
theorem reads_array {items : List Json}
    (reads : ∀ depth, Reads (inner ≤ depth) (readItems .full fuel depth cs) items rest) (depth : Nat) :
    Reads (inner + 1 ≤ depth) (readValue .full (fuel + 1) depth ('[' :: cs)) (.array items) rest := by
  rw [readValue, bind_of_ok (nextChar_cons (by decide) _ _)]
  cases depth with
  | zero => exact (reads_of_refused rfl).congr (by simp)
  | succ depth => exact ((reads depth).map Json.array).congr Nat.add_le_add_iff_right

/-- An object is read if the reader may go one level down and its entries are read there. -/
theorem reads_object {entries : List (String × Json)} (ascending : Ascending entries)
    (reads : ∀ depth, Reads (inner ≤ depth) (readEntries .full fuel depth cs) entries rest) (depth : Nat) :
    Reads (inner + 1 ≤ depth) (readValue .full (fuel + 1) depth ('\x7b' :: cs)) (.object entries) rest := by
  have same : Json.ofTable (Table.ofList entries) = .object entries :=
    congrArg Json.ofTable (Table.ofList_entries ⟨entries, ascending⟩)
  rw [readValue, bind_of_ok (nextChar_cons (by decide) _ _), ← same]
  cases depth with
  | zero => exact (reads_of_refused rfl).congr (by simp)
  | succ depth =>
    exact ((reads depth).map fun entries => Json.ofTable (Table.ofList entries)).congr Nat.add_le_add_iff_right

end brackets

section rows
variable {within further : Prop} {fuel depth : Nat} {cs more rest : List Char}

/-- An item and those behind it are read one after the other. -/
theorem Reads.cons_item {item : Json} {items : List Json}
    (reads : Reads within (readValue .full fuel depth cs) item more)
    (later : Reads further (readMoreItems .full fuel depth more) items rest) :
    Reads (within ∧ further) (do
      let (item, rest) ← readValue .full fuel depth cs
      let (items, rest) ← readMoreItems .full fuel depth rest
      return (item :: items, rest)) (item :: items) rest :=
  reads.bind (later.map (item :: ·))

/-- An entry and those behind it are read one after the other. -/
theorem Reads.cons_entry (name : String) {item : Json} {entries : List (String × Json)}
    (reads : Reads within (readValue .full fuel depth cs) item more)
    (later : Reads further (readMoreEntries .full fuel depth more) entries rest) :
    Reads (within ∧ further) (do
      let (item, rest) ← readValue .full fuel depth cs
      let (entries, rest) ← readMoreEntries .full fuel depth rest
      return ((name, item) :: entries, rest)) ((name, item) :: entries) rest :=
  reads.bind (later.map ((name, item) :: ·))

end rows

mutual

/-- A value is read as it was printed just when it nests no deeper than the reader goes. -/
theorem reads_value : ∀ (value : Json), value.Canonical → value.IntegersOnly → ∀ (fuel depth : Nat),
    value.print.length ≤ fuel + 1 → ∀ (rest : List Char), Closed rest →
    Reads (value.depth ≤ depth) (readValue .full (fuel + 1) depth (value.print ++ rest)) value rest
  | .null, _, _, fuel, depth, _, rest, _ => by
    have read : readValue .full (fuel + 1) depth ('n' :: 'u' :: 'l' :: 'l' :: rest) = .ok (.null, rest) := by
      rw [readValue, bind_of_ok (nextChar_cons (by decide) _ _)]
      rfl
    exact (reads_of_ok read).congr (by simp [Json.depth])
  | .bool true, _, _, fuel, depth, _, rest, _ => by
    have read : readValue .full (fuel + 1) depth ('t' :: 'r' :: 'u' :: 'e' :: rest) = .ok (.bool true, rest) := by
      rw [readValue, bind_of_ok (nextChar_cons (by decide) _ _)]
      rfl
    exact (reads_of_ok read).congr (by simp [Json.depth])
  | .bool false, _, _, fuel, depth, _, rest, _ => by
    have read : readValue .full (fuel + 1) depth ('f' :: 'a' :: 'l' :: 's' :: 'e' :: rest) =
        .ok (.bool false, rest) := by
      rw [readValue, bind_of_ok (nextChar_cons (by decide) _ _)]
      rfl
    exact (reads_of_ok read).congr (by simp [Json.depth])
  | .int n, range, _, fuel, depth, _, rest, closed =>
    (reads_of_ok (readValue_int range fuel depth closed)).congr (by simp [Json.depth])
  | .double d, _, integers, _, _, _, _, _ => integers.elim
  | .string s, _, _, fuel, depth, _, rest, _ =>
    (reads_of_ok (readValue_string s fuel depth rest)).congr (by simp [Json.depth])
  | .array [], _, _, fuel, depth, enough, rest, _ => by
    obtain ⟨fuel, rfl⟩ : ∃ less, fuel = less + 1 := ⟨fuel - 1, by simp [print, printItems] at enough; omega⟩
    have read (depth : Nat) : readItems .full (fuel + 1) depth (']' :: rest) = .ok ([], rest) := by
      rw [readItems, bind_of_ok (nextChar_cons (by decide) _ _)]
      rfl
    exact reads_array (fun depth => (reads_of_ok (read depth)).congr (by simp [depthItems])) depth
  | .array (item :: items), canonical, integers, fuel, depth, enough, rest, _ => by
    rw [length_print_array] at enough
    have there := length_print_pos integers.1
    obtain ⟨fuel, rfl⟩ : ∃ less, fuel = less + 2 := ⟨fuel - 2, by omega⟩
    rw [print_array_append]
    refine reads_array (fun depth => ?_) depth
    have first := reads_value item canonical.1 integers.1 fuel depth (by omega) _ (closed_moreItems items rest)
    have others := reads_moreItems items canonical.2 integers.2 fuel depth (by omega) rest
    obtain ⟨c, cs, written, shown, inside⟩ := print_begins integers.1
    rw [written, List.cons_append] at first ⊢
    rw [readItems_begins shown inside]
    exact (first.cons_item others).congr Nat.max_le
  | .object [], _, _, fuel, depth, enough, rest, _ => by
    obtain ⟨fuel, rfl⟩ : ∃ less, fuel = less + 1 := ⟨fuel - 1, by simp [print, printEntries] at enough; omega⟩
    have read (depth : Nat) : readEntries .full (fuel + 1) depth ('\x7d' :: rest) = .ok ([], rest) := by
      rw [readEntries, bind_of_ok (nextChar_cons (by decide) _ _)]
      rfl
    exact reads_object .nil (fun depth => (reads_of_ok (read depth)).congr (by simp [depthEntries])) depth
  | .object ((name, item) :: entries), canonical, integers, fuel, depth, enough, rest, _ => by
    rw [length_print_object] at enough
    have there := length_print_pos integers.1
    obtain ⟨fuel, rfl⟩ : ∃ less, fuel = less + 2 := ⟨fuel - 2, by omega⟩
    rw [print_object_append]
    refine reads_object canonical.1 (fun depth => ?_) depth
    have first := reads_value item canonical.2.1 integers.1 fuel depth (by omega) _ (closed_moreEntries entries rest)
    have others := reads_moreEntries entries canonical.2.2 integers.2 fuel depth (by omega) rest
    rw [readEntries_begins]
    exact (first.cons_entry name others).congr Nat.max_le

/-- So are the items of an array behind the first one. -/
theorem reads_moreItems : ∀ (items : List Json), CanonicalItems items → IntegersOnlyItems items → ∀ (fuel depth : Nat),
    (printMoreItems items).length ≤ fuel → ∀ (rest : List Char),
    Reads (depthItems items ≤ depth) (readMoreItems .full (fuel + 1) depth (printMoreItems items ++ ']' :: rest)) items
      rest
  | [], _, _, fuel, depth, _, rest =>
    (reads_of_ok (readMoreItems_ends fuel depth rest)).congr (by simp [depthItems])
  | item :: items, canonical, integers, fuel, depth, enough, rest => by
    rw [length_printMoreItems] at enough
    have there := length_print_pos integers.1
    obtain ⟨fuel, rfl⟩ : ∃ less, fuel = less + 1 := ⟨fuel - 1, by omega⟩
    have first := reads_value item canonical.1 integers.1 fuel depth (by omega) _ (closed_moreItems items rest)
    have others := reads_moreItems items canonical.2 integers.2 fuel depth (by omega) rest
    obtain ⟨c, cs, written, shown, inside⟩ := print_begins integers.1
    rw [printMoreItems_append, written, List.cons_append, readMoreItems_begins shown inside]
    rw [written, List.cons_append] at first
    exact (first.cons_item others).congr Nat.max_le

/-- So are the entries of an object behind the first one. -/
theorem reads_moreEntries : ∀ (entries : List (String × Json)), CanonicalEntries entries →
    IntegersOnlyEntries entries → ∀ (fuel depth : Nat), (printMoreEntries entries).length ≤ fuel →
    ∀ (rest : List Char), Reads (depthEntries entries ≤ depth)
      (readMoreEntries .full (fuel + 1) depth (printMoreEntries entries ++ '\x7d' :: rest)) entries rest
  | [], _, _, fuel, depth, _, rest =>
    (reads_of_ok (readMoreEntries_ends fuel depth rest)).congr (by simp [depthEntries])
  | (name, item) :: entries, canonical, integers, fuel, depth, enough, rest => by
    rw [length_printMoreEntries] at enough
    have there := length_print_pos integers.1
    obtain ⟨fuel, rfl⟩ : ∃ less, fuel = less + 1 := ⟨fuel - 1, by omega⟩
    have first := reads_value item canonical.1 integers.1 fuel depth (by omega) _ (closed_moreEntries entries rest)
    have others := reads_moreEntries entries canonical.2 integers.2 fuel depth (by omega) rest
    rw [printMoreEntries_append, readMoreEntries_begins]
    exact (first.cons_entry name others).congr Nat.max_le

end

/-- A value that is printed in front of something is read back just when it nests no deeper than the reader goes. -/
theorem reads_print {value : Json} (canonical : value.Canonical) (integers : value.IntegersOnly) (depth : Nat)
    {rest : List Char} (closed : Closed rest) :
    Reads (value.depth ≤ depth) (Json.read depth (value.print ++ rest)) value rest := by
  refine reads_value value canonical integers _ depth ?_ rest closed
  simp only [List.length_append]
  omega

end nesting

end Dispatch.Json
