namespace Dispatch

/-- The value that the first entry of this name carries. -/
def lookup? {α : Type} (name : String) : List (String × α) → Option α
  | [] => none
  | (key, value) :: rest => if name = key then some value else lookup? name rest

/-- One pass puts the entry before the first larger name, and replaces an entry of the same name. -/
def insertEntry {α : Type} (name : String) (value : α) : List (String × α) → List (String × α)
  | [] => [(name, value)]
  | (key, old) :: rest =>
    if name < key then (name, value) :: (key, old) :: rest
    else if name = key then (name, value) :: rest
    else (key, old) :: insertEntry name value rest

/-- Entries of this name are dropped. -/
def eraseEntry {α : Type} (name : String) (entries : List (String × α)) : List (String × α) :=
  entries.filter fun entry => entry.1 ≠ name

/-- Names strictly ascend. -/
def Ascending {α : Type} (entries : List (String × α)) : Prop :=
  entries.Pairwise fun first second => first.1 < second.1

instance {α : Type} (entries : List (String × α)) : Decidable (Ascending entries) :=
  inferInstanceAs (Decidable (List.Pairwise _ _))

section entries
variable {α : Type}

/-- An entry whose name is smaller than the first name comes first. -/
theorem insertEntry_of_lt {name key : String} (lt : name < key) (value old : α) (rest : List (String × α)) :
    insertEntry name value ((key, old) :: rest) = (name, value) :: (key, old) :: rest := by
  rw [insertEntry, if_pos lt]

/-- An entry whose name is larger than the first name goes behind it. -/
theorem insertEntry_of_gt {name key : String} (gt : key < name) (value old : α) (rest : List (String × α)) :
    insertEntry name value ((key, old) :: rest) = (key, old) :: insertEntry name value rest := by
  have notLt : ¬ name < key := fun lt => String.lt_irrefl _ (String.lt_trans lt gt)
  have ne : name ≠ key := fun same => String.lt_irrefl key (same ▸ gt)
  rw [insertEntry, if_neg notLt, if_neg ne]

/-- After an insertion there are only the new entry and old ones. -/
theorem mem_insertEntry {name : String} {value : α} {entries : List (String × α)}
    {entry : String × α} (member : entry ∈ insertEntry name value entries) :
    entry = (name, value) ∨ entry ∈ entries := by
  induction entries with
  | nil => simpa [insertEntry] using member
  | cons head tail ih =>
    obtain ⟨key, old⟩ := head
    rw [insertEntry] at member
    split at member
    · simpa using member
    · split at member <;> simp only [List.mem_cons] at member ⊢
      · exact member.imp_right Or.inr
      · rcases member with member | member
        · exact .inr (.inl member)
        · exact (ih member).imp_right Or.inr

/-- Insertion keeps the order. -/
theorem ascending_insertEntry (name : String) (value : α) {entries : List (String × α)}
    (ascending : Ascending entries) : Ascending (insertEntry name value entries) := by
  induction entries with
  | nil => simp [insertEntry, Ascending]
  | cons head tail ih =>
    obtain ⟨key, old⟩ := head
    have below : ∀ entry ∈ tail, key < entry.1 := fun entry member =>
      List.rel_of_pairwise_cons ascending member
    rw [insertEntry]
    split
    · rename_i smaller
      refine List.pairwise_cons.2 ⟨fun entry member => ?_, ascending⟩
      rcases List.mem_cons.1 member with rfl | member
      · exact smaller
      · exact String.lt_trans smaller (below entry member)
    · split
      · rename_i same
        subst same
        exact List.pairwise_cons.2 ⟨fun entry member => below entry member, ascending.of_cons⟩
      · rename_i notSmaller notSame
        have larger : key < name := by
          rcases String.le_total key name with le | le
          · exact String.not_le.1 fun ge => notSame (String.le_antisymm ge le)
          · exact absurd (String.le_antisymm le (String.not_lt.1 notSmaller)) notSame
        refine List.pairwise_cons.2 ⟨fun entry member => ?_, ih ascending.of_cons⟩
        rcases mem_insertEntry member with rfl | member
        · exact larger
        · exact below entry member

/-- Removal keeps the order. -/
theorem ascending_eraseEntry (name : String) {entries : List (String × α)}
    (ascending : Ascending entries) : Ascending (eraseEntry name entries) :=
  List.Pairwise.filter _ ascending

/-- An edit of the values keeps the order. -/
theorem ascending_map {β : Type} (f : String × α → β) {entries : List (String × α)}
    (ascending : Ascending entries) : Ascending (entries.map fun entry => (entry.1, f entry)) :=
  List.pairwise_map.2 (ascending.imp fun lt => lt)

/-- A look-up in changed entries finds the changed value. -/
theorem lookup?_map {β : Type} (f : String → α → β) (name : String) (entries : List (String × α)) :
    lookup? name (entries.map fun entry => (entry.1, f entry.1 entry.2)) = (lookup? name entries).map (f name) := by
  induction entries with
  | nil => rfl
  | cons entry rest ih =>
    obtain ⟨key, value⟩ := entry
    rw [List.map_cons, lookup?, lookup?]
    split
    · rename_i same
      rw [same]
      rfl
    · exact ih

/-- The new entry is found. -/
@[simp] theorem lookup?_insertEntry_self (name : String) (value : α) (entries : List (String × α)) :
    lookup? name (insertEntry name value entries) = some value := by
  induction entries with
  | nil => simp [insertEntry, lookup?]
  | cons head tail ih =>
    obtain ⟨key, old⟩ := head
    rw [insertEntry]
    split
    · simp [lookup?]
    · split
      · simp [lookup?]
      · rename_i other
        simp [lookup?, other, ih]

/-- Other names are found as before an insertion. -/
theorem lookup?_insertEntry_of_ne {other name : String} (ne : other ≠ name) (value : α)
    (entries : List (String × α)) :
    lookup? other (insertEntry name value entries) = lookup? other entries := by
  induction entries with
  | nil => simp [insertEntry, lookup?, ne]
  | cons head tail ih =>
    obtain ⟨key, old⟩ := head
    rw [insertEntry]
    split
    · simp [lookup?, ne]
    · split
      · rename_i same
        subst same
        simp [lookup?, ne]
      · by_cases eq : other = key <;> simp [lookup?, eq, ih]

/-- A removed name is not found. -/
@[simp] theorem lookup?_eraseEntry_self (name : String) (entries : List (String × α)) :
    lookup? name (eraseEntry name entries) = none := by
  induction entries with
  | nil => rfl
  | cons head tail ih =>
    obtain ⟨key, old⟩ := head
    by_cases eq : key = name
    · simpa [eraseEntry, eq] using ih
    · simpa [eraseEntry, eq, lookup?, Ne.symm eq] using ih

/-- Other names are found as before a removal. -/
theorem lookup?_eraseEntry_of_ne {other name : String} (ne : other ≠ name)
    (entries : List (String × α)) :
    lookup? other (eraseEntry name entries) = lookup? other entries := by
  induction entries with
  | nil => rfl
  | cons head tail ih =>
    obtain ⟨key, old⟩ := head
    by_cases eq : key = name
    · subst eq
      simpa [eraseEntry, lookup?, ne] using ih
    · by_cases same : other = key
      · simp [eraseEntry, eq, lookup?, same]
      · simpa [eraseEntry, eq, lookup?, same] using ih

/-- In ascending entries whatever is there is found. -/
theorem lookup?_eq_some_iff_mem {name : String} {value : α} {entries : List (String × α)}
    (ascending : Ascending entries) :
    lookup? name entries = some value ↔ (name, value) ∈ entries := by
  induction entries with
  | nil => simp [lookup?]
  | cons head tail ih =>
    obtain ⟨key, old⟩ := head
    rw [lookup?]
    split
    · rename_i same
      subst same
      simp only [Option.some.injEq, List.mem_cons, Prod.mk.injEq, true_and]
      refine ⟨fun eq => .inl eq.symm, fun member => ?_⟩
      rcases member with eq | member
      · exact eq.symm
      · exact absurd (List.rel_of_pairwise_cons ascending member) (String.lt_irrefl _)
    · rename_i other
      rw [ih ascending.of_cons]
      simp [other]

/-- Ascending entries are known by their look-ups. -/
theorem eq_of_lookup?_eq {first second : List (String × α)} (ascendingFirst : Ascending first)
    (ascendingSecond : Ascending second) (same : ∀ name, lookup? name first = lookup? name second) :
    first = second := by
  have mem_iff : ∀ entry, entry ∈ first ↔ entry ∈ second := fun entry => by
    rw [← lookup?_eq_some_iff_mem ascendingFirst, ← lookup?_eq_some_iff_mem ascendingSecond, same]
  induction first generalizing second with
  | nil =>
    cases second with
    | nil => rfl
    | cons head tail => simpa using mem_iff head
  | cons head tail ih =>
    cases second with
    | nil => simpa using mem_iff head
    | cons head' tail' =>
      have headsEqual : head = head' := by
        have inSecond := (mem_iff head).1 (by simp)
        have inFirst := (mem_iff head').2 (by simp)
        rcases List.mem_cons.1 inSecond with eq | member
        · exact eq
        · rcases List.mem_cons.1 inFirst with eq | member'
          · exact eq.symm
          · exact absurd (List.rel_of_pairwise_cons ascendingSecond member)
              (String.lt_asymm (List.rel_of_pairwise_cons ascendingFirst member'))
      subst headsEqual
      have fresh : ∀ {entries : List (String × α)}, Ascending (head :: entries) → head ∉ entries :=
        fun ascending member => String.lt_irrefl _ (List.rel_of_pairwise_cons ascending member)
      have tails : ∀ entry, entry ∈ tail ↔ entry ∈ tail' := fun entry => by
        have both := mem_iff entry
        simp only [List.mem_cons] at both
        constructor
        · intro member
          rcases both.1 (.inr member) with rfl | member'
          · exact absurd member (fresh ascendingFirst)
          · exact member'
        · intro member
          rcases both.2 (.inr member) with rfl | member'
          · exact absurd member (fresh ascendingSecond)
          · exact member'
      have lookups : ∀ name, lookup? name tail = lookup? name tail' := fun name => by
        cases found : lookup? name tail with
        | none =>
          cases found' : lookup? name tail' with
          | none => rfl
          | some value =>
            rw [lookup?_eq_some_iff_mem ascendingSecond.of_cons, ← tails,
              ← lookup?_eq_some_iff_mem ascendingFirst.of_cons, found] at found'
            cases found'
        | some value =>
          rw [lookup?_eq_some_iff_mem ascendingFirst.of_cons, tails,
            ← lookup?_eq_some_iff_mem ascendingSecond.of_cons] at found
          exact found.symm
      rw [ih ascendingFirst.of_cons ascendingSecond.of_cons lookups tails]

end entries

/-- A finite map from names, its entries in ascending order. -/
structure Table (α : Type) where
  entries : List (String × α)
  ascending : Ascending entries
deriving DecidableEq

namespace Table
variable {α β : Type}

/-- No names at all. -/
def empty : Table α := ⟨[], List.Pairwise.nil⟩

instance : EmptyCollection (Table α) := ⟨empty⟩
instance : Inhabited (Table α) := ⟨empty⟩

/-- The value of a name. -/
def get? (table : Table α) (name : String) : Option α := lookup? name table.entries

/-- Whether a name is there. -/
def contains (table : Table α) (name : String) : Bool := (table.get? name).isSome

/-- A value takes the place of an older one of its name. -/
def insert (table : Table α) (name : String) (value : α) : Table α :=
  ⟨insertEntry name value table.entries, ascending_insertEntry name value table.ascending⟩

/-- The name is not there any longer. -/
def erase (table : Table α) (name : String) : Table α :=
  ⟨eraseEntry name table.entries, ascending_eraseEntry name table.ascending⟩

/-- Later entries replace earlier ones of the same name. -/
def ofList (entries : List (String × α)) : Table α :=
  entries.foldl (fun table entry => table.insert entry.1 entry.2) empty

/-- The overlay wins where both tables know a name. -/
def overlay (base upper : Table α) : Table α :=
  upper.entries.foldl (fun table entry => table.insert entry.1 entry.2) base

/-- The names in ascending order. -/
def keys (table : Table α) : List String := table.entries.map (·.1)

/-- The values in the order of their names. -/
def values (table : Table α) : List α := table.entries.map (·.2)

/-- How many names there are. -/
def size (table : Table α) : Nat := table.entries.length

/-- Whether there are no names. -/
def isEmpty (table : Table α) : Bool := table.entries.isEmpty

/-- Each value is changed, and keeps its name. -/
def map (f : α → β) (table : Table α) : Table β :=
  ⟨table.entries.map fun entry => (entry.1, f entry.2), ascending_map (f ·.2) table.ascending⟩

/-- Entries that are not to be kept are dropped. -/
def filter (keep : String → α → Bool) (table : Table α) : Table α :=
  ⟨table.entries.filter fun entry => keep entry.1 entry.2, List.Pairwise.filter _ table.ascending⟩

/-- A table is known by its look-ups. -/
theorem ext_get? {first second : Table α} (same : ∀ name, first.get? name = second.get? name) :
    first = second := by
  cases first with
  | mk first ascendingFirst =>
    cases second with
    | mk second ascendingSecond =>
      obtain rfl := eq_of_lookup?_eq ascendingFirst ascendingSecond same
      rfl

/-- Nothing is found in an empty table. -/
@[simp] theorem get?_empty (name : String) : (empty : Table α).get? name = none := rfl

/-- An inserted value is found. -/
@[simp] theorem get?_insert_self (table : Table α) (name : String) (value : α) :
    (table.insert name value).get? name = some value :=
  lookup?_insertEntry_self name value table.entries

/-- Other names are found as before an insertion. -/
theorem get?_insert_of_ne (table : Table α) {other name : String} (ne : other ≠ name) (value : α) :
    (table.insert name value).get? other = table.get? other :=
  lookup?_insertEntry_of_ne ne value table.entries

/-- A look-up after an insertion is decided by the name. -/
theorem get?_insert (table : Table α) (name other : String) (value : α) :
    (table.insert name value).get? other = if other = name then some value else table.get? other := by
  split
  · rename_i eq
    subst eq
    simp
  · rename_i ne
    exact table.get?_insert_of_ne ne value

/-- Entries are put into a table one after the other; ascending ones leave each name its value. -/
theorem get?_foldl_insert {entries : List (String × α)} (ascending : Ascending entries) (table : Table α)
    (name : String) :
    (entries.foldl (fun table entry => table.insert entry.1 entry.2) table).get? name =
      (lookup? name entries).or (table.get? name) := by
  induction entries generalizing table with
  | nil => rfl
  | cons entry rest ih =>
    obtain ⟨key, value⟩ := entry
    rw [List.foldl_cons, ih ascending.of_cons, get?_insert, lookup?]
    split
    · rename_i same
      obtain rfl : name = key := same
      have missing : lookup? name rest = none := by
        refine Option.eq_none_iff_forall_ne_some.mpr fun other found => ?_
        have member := (lookup?_eq_some_iff_mem ascending.of_cons).mp found
        exact String.lt_irrefl name (List.rel_of_pairwise_cons ascending member)
      rw [missing]
      rfl
    · rfl

/-- A look-up in an overlaid table is one in the overlay first. -/
theorem get?_overlay (base upper : Table α) (name : String) :
    (base.overlay upper).get? name = (upper.get? name).or (base.get? name) :=
  get?_foldl_insert upper.ascending base name

/-- A removed name is not found. -/
@[simp] theorem get?_erase_self (table : Table α) (name : String) : (table.erase name).get? name = none :=
  lookup?_eraseEntry_self name table.entries

/-- Other names are found as before a removal. -/
theorem get?_erase_of_ne (table : Table α) {other name : String} (ne : other ≠ name) :
    (table.erase name).get? other = table.get? other :=
  lookup?_eraseEntry_of_ne ne table.entries

/-- An entry is in a table just when its name has its value there. -/
theorem mem_entries_iff {table : Table α} {name : String} {value : α} :
    (name, value) ∈ table.entries ↔ table.get? name = some value :=
  (lookup?_eq_some_iff_mem table.ascending).symm

/-- The names are those of which something is found. -/
theorem mem_keys_iff {table : Table α} {name : String} : name ∈ table.keys ↔ (table.get? name).isSome = true := by
  simp [keys, Option.isSome_iff_exists, ← mem_entries_iff]

theorem keys_ascending (table : Table α) : table.keys.Pairwise (· < ·) :=
  List.pairwise_map.mpr table.ascending

/-- Whatever is found after entries have been put in is one of them or was there before. -/
theorem mem_of_get?_foldl {entries : List (String × α)} {name : String} {value : α} (start : Table α)
    (found : (entries.foldl (fun table entry => table.insert entry.1 entry.2) start).get? name = some value) :
    (name, value) ∈ entries ∨ start.get? name = some value := by
  induction entries generalizing start with
  | nil => exact .inr found
  | cons head tail ih =>
    obtain ⟨key, other⟩ := head
    rcases ih (start.insert key other) found with member | found
    · exact .inl (List.mem_cons_of_mem _ member)
    · rw [get?_insert] at found
      split at found
      · rename_i same
        cases found
        exact .inl (by rw [same]; exact List.mem_cons_self)
      · exact .inr found

/-- Whatever a table of these entries holds is one of the entries. -/
theorem mem_of_get?_ofList {entries : List (String × α)} {name : String} {value : α}
    (found : (ofList entries).get? name = some value) : (name, value) ∈ entries := by
  rcases mem_of_get?_foldl empty found with member | absurd
  · exact member
  · cases absurd

/-- A name that is there before entries are put in, or is one of theirs, is found afterwards. -/
theorem exists_get?_foldl {entries : List (String × α)} {name : String} {value : α} (start : Table α)
    (kept : (∃ found, start.get? name = some found) ∨ (name, value) ∈ entries) :
    ∃ found, (entries.foldl (fun table entry => table.insert entry.1 entry.2) start).get? name = some found := by
  induction entries generalizing start with
  | nil => exact kept.resolve_right List.not_mem_nil
  | cons entry rest ih =>
    refine ih _ ?_
    rw [get?_insert]
    by_cases same : name = entry.1
    · exact .inl ⟨entry.2, if_pos same⟩
    · rw [if_neg same]
      exact kept.imp_right fun member => (List.mem_cons.mp member).resolve_left fun eq => same (congrArg Prod.fst eq)

/-- A name of one of the entries is found in a table of them. -/
theorem exists_get?_ofList {entries : List (String × α)} {name : String} {value : α}
    (member : (name, value) ∈ entries) : ∃ found, (ofList entries).get? name = some found :=
  exists_get?_foldl empty (.inr member)

end Table

end Dispatch
