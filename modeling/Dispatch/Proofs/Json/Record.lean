import Dispatch.Proofs.Json.Shape

namespace Dispatch.Json

/-- What is read in two steps is read in both of them. -/
theorem bind_eq_ok_iff {ε α β : Type} {first : Except ε α} {next : α → Except ε β} {result : β} :
    first >>= next = .ok result ↔ ∃ value, first = .ok value ∧ next value = .ok result := by
  cases first with
  | error words => simp [bind, Except.bind]
  | ok value => simp [bind, Except.bind]

/-- A slot holds what was read of the value found for it, and nothing if none was found. -/
def Shape.Fills (shape : Shape) (found : Option Json) (slot : Option shape.Carrier) : Prop :=
  match found with
  | none => slot = none
  | some value => ∃ data, shape.ofJson value = .ok data ∧ slot = some data

/-- The members hold what was read of the values found for them, and none that must be there is missing. -/
def Members.Holds (found : Nat → String → Option Json) (listed : Bool) (place : Nat) :
    (members : Members) → members.Carrier → Prop
  | .none, () => True
  | .member name .required shape rest, (value, others) =>
    shape.Fills (found place name) (some value) ∧ rest.Holds found listed (place + 1) others
  | .member name .nullable shape rest, (slot, others) =>
    (shape.Fills (found place name) slot ∧ (listed = true → slot.isSome = true)) ∧
      rest.Holds found listed (place + 1) others
  | .member name .optional shape rest, (slot, others) =>
    shape.Fills (found place name) slot ∧ rest.Holds found listed (place + 1) others

/-- No two members have the same name. -/
def Members.Distinct : Members → Prop
  | .none => True
  | .member name _ _ rest => rest.knows name = false ∧ rest.Distinct

section objects

/-- What becomes of the slot of a member when an entry goes by. -/
def Shape.fill (shape : Shape) (name : String) (slot : Option shape.Carrier) (entry : String × Json) :
    Except String (Option shape.Carrier) :=
  if entry.1 = name then some <$> shape.ofJson entry.2 else .ok slot

/-- An entry of a name that no member has changes nothing. -/
theorem Members.put_of_foreign {key : String} (value : Json) : ∀ {members : Members}, members.knows key = false →
    ∀ slots : members.Slots, members.put slots key value = .ok slots
  | .none, _, _ => rfl
  | .member name presence shape rest, foreign, (slot, slots) => by
    simp only [Members.knows, Bool.or_eq_false_iff, decide_eq_false_iff_not] at foreign
    rw [Members.put, if_neg foreign.1, put_of_foreign value foreign.2]
    rfl

/-- The entries of an object fill the slot of a member and the slots of the others independently. -/
theorem Members.foldlM_put_iff {name : String} {presence : Presence} {shape : Shape} {rest : Members}
    (fresh : rest.knows name = false) (entries : List (String × Json)) {slot slot' : Option shape.Carrier}
    {slots slots' : rest.Slots} :
    entries.foldlM (fun slots entry => (Members.member name presence shape rest).put slots entry.1 entry.2)
        (slot, slots) = .ok (slot', slots') ↔
      entries.foldlM (shape.fill name) slot = .ok slot' ∧
        entries.foldlM (fun slots entry => rest.put slots entry.1 entry.2) slots = .ok slots' := by
  induction entries generalizing slot slots with
  | nil => simp [pure, Except.pure]
  | cons entry entries ih =>
    obtain ⟨key, value⟩ := entry
    rw [List.foldlM_cons, List.foldlM_cons, List.foldlM_cons, Members.put, Shape.fill]
    by_cases same : key = name
    · subst same
      rw [if_pos rfl, if_pos rfl, Members.put_of_foreign value fresh]
      cases read : shape.ofJson value with
      | error words => simp [bind, Except.bind, Functor.map, Except.map]
      | ok data => exact ih
    · rw [if_neg same, if_neg same]
      cases read : rest.put slots key value with
      | error words => simp [bind, Except.bind]
      | ok slots => exact ih

/-- A slot stays as it is while no entry of its name goes by. -/
theorem Shape.foldlM_fill_of_missing {name : String} {entries : List (String × Json)}
    (missing : ∀ entry ∈ entries, entry.1 ≠ name) (shape : Shape) (slot : Option shape.Carrier) :
    entries.foldlM (shape.fill name) slot = .ok slot := by
  induction entries with
  | nil => rfl
  | cons entry entries ih =>
    rw [List.foldlM_cons, Shape.fill, if_neg (missing entry List.mem_cons_self)]
    exact ih fun entry member => missing entry (List.mem_cons_of_mem _ member)

/-- The entries of an object fill a slot with the value of its name. -/
theorem Shape.foldlM_fill_iff {entries : List (String × Json)} (ascending : Ascending entries) (shape : Shape)
    (name : String) {slot : Option shape.Carrier} :
    entries.foldlM (shape.fill name) none = .ok slot ↔ shape.Fills (lookup? name entries) slot := by
  induction entries with
  | nil => exact ⟨fun same => (Except.ok.inj same).symm, fun same => congrArg Except.ok same.symm⟩
  | cons entry entries ih =>
    obtain ⟨key, value⟩ := entry
    rw [List.foldlM_cons, Shape.fill, lookup?]
    by_cases same : key = name
    · subst same
      have missing : ∀ entry ∈ entries, entry.1 ≠ key := fun entry member =>
        fun same => String.lt_irrefl key (same ▸ List.rel_of_pairwise_cons ascending member)
      simp only [if_true, Shape.Fills]
      cases read : shape.ofJson value with
      | error words => simp [bind, Except.bind, Functor.map, Except.map]
      | ok data =>
        change entries.foldlM (shape.fill key) (some data) = .ok slot ↔ _
        rw [Shape.foldlM_fill_of_missing missing]
        simp [eq_comm]
    · rw [if_neg same]
      simp only [Ne.symm same, if_false]
      exact ih ascending.of_cons

section complete
variable {name : String} {shape : Shape} {rest : Members} {slot : Option shape.Carrier} {slots : rest.Slots}
  {others : rest.Carrier}

/-- A member that must be there takes what is in its slot. -/
theorem Members.complete_required_iff {value : shape.Carrier} :
    (Members.member name .required shape rest).complete (slot, slots) = .ok (value, others) ↔
      slot = some value ∧ rest.complete slots = .ok others := by
  cases slot with
  | none => simp [Members.complete]
  | some data =>
    cases completed : rest.complete slots <;> simp [Members.complete, completed, bind, Except.bind, pure, Except.pure]

/-- A member that may be left out of an object takes its slot. -/
theorem Members.complete_nullable_iff {value : Option shape.Carrier} :
    (Members.member name .nullable shape rest).complete (slot, slots) = .ok (value, others) ↔
      slot = value ∧ rest.complete slots = .ok others := by
  cases completed : rest.complete slots <;> simp [Members.complete, completed, bind, Except.bind, pure, Except.pure]

/-- So does a member that may be left out. -/
theorem Members.complete_optional_iff {value : Option shape.Carrier} :
    (Members.member name .optional shape rest).complete (slot, slots) = .ok (value, others) ↔
      slot = value ∧ rest.complete slots = .ok others := by
  cases completed : rest.complete slots <;> simp [Members.complete, completed, bind, Except.bind, pure, Except.pure]

/-- Slots that the entries of an object fill are complete if the first one is and the others are. -/
theorem Members.exists_slots_iff {presence : Presence} (fresh : rest.knows name = false)
    (entries : List (String × Json)) {value : Option shape.Carrier}
    {complete : (Members.member name presence shape rest).Slots → Prop} {completeRest : rest.Slots → Prop}
    (parts : ∀ slot slots, complete (slot, slots) ↔ slot = value ∧ completeRest slots) :
    (∃ slots, entries.foldlM (fun slots entry => (Members.member name presence shape rest).put slots entry.1 entry.2)
        (Option.none, rest.blank) = .ok slots ∧ complete slots) ↔
      entries.foldlM (shape.fill name) Option.none = .ok value ∧
        ∃ slots, entries.foldlM (fun slots entry => rest.put slots entry.1 entry.2) rest.blank = .ok slots ∧
          completeRest slots := by
  constructor
  · rintro ⟨⟨slot, slots⟩, filled, completed⟩
    obtain ⟨rfl, completed⟩ := (parts slot slots).mp completed
    obtain ⟨filled, others⟩ := (Members.foldlM_put_iff fresh entries).mp filled
    exact ⟨filled, slots, others, completed⟩
  · rintro ⟨filled, slots, others, completed⟩
    exact ⟨(value, slots), (Members.foldlM_put_iff fresh entries).mpr ⟨filled, others⟩,
      (parts value slots).mpr ⟨rfl, completed⟩⟩

end complete

/-- The entries of an object fill the slots just when every member holds the value of its name. -/
theorem holds_object_iff {entries : List (String × Json)} (ascending : Ascending entries) (place : Nat) :
    ∀ {members : Members}, members.Distinct → ∀ {data : members.Carrier},
      (∃ slots, entries.foldlM (fun slots entry => members.put slots entry.1 entry.2) members.blank = .ok slots ∧
        members.complete slots = .ok data) ↔
      members.Holds (fun _ name => lookup? name entries) false place data
  | .none, _, () => by
    have unread (entries : List (String × Json)) :
        entries.foldlM (fun slots entry => Members.none.put slots entry.1 entry.2) Members.none.blank = .ok () := by
      induction entries with
      | nil => rfl
      | cons entry entries ih => exact ih
    exact ⟨fun _ => trivial, fun _ => ⟨(), unread entries, rfl⟩⟩
  | .member name .required shape rest, distinct, (value, others) => by
    rw [Members.Holds, ← holds_object_iff ascending (place + 1) distinct.2, ← Shape.foldlM_fill_iff ascending]
    exact Members.exists_slots_iff distinct.1 entries fun slot slots => Members.complete_required_iff
  | .member name .nullable shape rest, distinct, (value, others) => by
    rw [Members.Holds, ← holds_object_iff ascending (place + 1) distinct.2, ← Shape.foldlM_fill_iff ascending]
    simp only [Bool.false_eq_true, false_implies, and_true]
    exact Members.exists_slots_iff distinct.1 entries fun slot slots => Members.complete_nullable_iff
  | .member name .optional shape rest, distinct, (value, others) => by
    rw [Members.Holds, ← holds_object_iff ascending (place + 1) distinct.2, ← Shape.foldlM_fill_iff ascending]
    exact Members.exists_slots_iff distinct.1 entries fun slot slots => Members.complete_optional_iff

end objects

section arrays
variable {record : String} {total : Nat}

/-- Behind the end of an array only members that may be left out of it are held. -/
theorem absent_eq_ok_iff {found : Nat → String → Option Json} {place : Nat}
    (missing : ∀ later, place ≤ later → ∀ name, found later name = none) :
    ∀ {members : Members} {data : members.Carrier},
      members.absent record total place = .ok data ↔ members.Holds found true place data
  | .none, () => ⟨fun _ => trivial, fun _ => rfl⟩
  | .member name .required shape rest, (value, others) => by
    simp [Members.absent, Members.Holds, missing place (Nat.le_refl place), Shape.Fills]
  | .member name .nullable shape rest, (slot, others) => by
    cases slot <;> simp [Members.absent, Members.Holds, missing place (Nat.le_refl place), Shape.Fills]
  | .member name .optional shape rest, (slot, others) => by
    have later : rest.absent record total (place + 1) = .ok others ↔ rest.Holds found true (place + 1) others :=
      absent_eq_ok_iff fun later behind => missing later (Nat.le_of_succ_le behind)
    rw [Members.absent, bind_eq_ok_iff, Members.Holds, ← later, missing place (Nat.le_refl place)]
    constructor
    · rintro ⟨rest, left, same⟩
      cases same
      exact ⟨rfl, left⟩
    · rintro ⟨rfl, left⟩
      exact ⟨others, left, rfl⟩

/-- An item and those behind it are read if both are. -/
theorem item_eq_ok_iff {ε α β γ δ : Type} {item : Except ε α} {wrap : α → β} {more : Except ε (γ × δ)} {first : β}
    {others : γ} {left : δ} :
    (do
      let value ← item
      let (data, items) ← more
      return ((wrap value, data), items)) = .ok ((first, others), left) ↔
      (∃ value, item = .ok value ∧ wrap value = first) ∧ more = .ok (others, left) := by
  cases item with
  | error words => simp [bind, Except.bind]
  | ok value => cases more <;> simp [bind, Except.bind, pure, Except.pure, Prod.ext_iff, and_assoc]

/-- The items of an array are read just when every member holds the item at its place, and those behind are left. -/
theorem ofItems_eq_ok_iff (items : List Json) (place : Nat) :
    ∀ {members : Members} {data : members.Carrier} {left : List Json},
      members.ofItems record total place (items.drop place) = .ok (data, left) ↔
        members.Holds (fun place _ => items[place]?) true place data ∧ left = items.drop (place + members.count)
  | .none, (), left => by
    simp [Members.ofItems, Members.Holds, Members.count, eq_comm]
  | .member name presence shape rest, data, left => by
    cases behind : items.drop place with
    | nil =>
      have short : items.length ≤ place := List.drop_eq_nil_iff.mp behind
      have missing (later : Nat) (after : place ≤ later) (_ : String) : items[later]? = none :=
        List.getElem?_eq_none (Nat.le_trans short after)
      rw [List.drop_eq_nil_of_le (Nat.le_trans short (Nat.le_add_right _ _)), Members.ofItems, bind_eq_ok_iff,
        ← @absent_eq_ok_iff record total _ _ missing]
      constructor
      · rintro ⟨_, absent, same⟩
        cases same
        exact ⟨absent, rfl⟩
      · rintro ⟨absent, rfl⟩
        exact ⟨data, absent, rfl⟩
    | cons item more =>
      have found : items[place]? = some item := by rw [← List.head?_drop, behind]; rfl
      obtain rfl : more = items.drop (place + 1) := by rw [← List.tail_drop, behind]; rfl
      have later {others : rest.Carrier} :
          rest.ofItems record total (place + 1) (items.drop (place + 1)) = .ok (others, left) ↔ _ :=
        ofItems_eq_ok_iff items (place + 1)
      have next : place + (rest.count + 1) = place + 1 + rest.count := by omega
      cases presence with
      | required =>
        rw [Members.ofItems, item_eq_ok_iff, later, Members.Holds, Members.count, next, found, and_assoc]
        simp [Shape.Fills, eq_comm]
      | nullable =>
        have there : (∃ value, shape.ofJson item = .ok value ∧ some value = data.1) ↔
            shape.Fills (some item) data.1 ∧ (true = true → data.1.isSome = true) := by
          cases data.1 <;> simp [Shape.Fills, eq_comm]
        rw [Members.ofItems, item_eq_ok_iff, later, Members.Holds, Members.count, next, found, and_assoc, there,
          and_assoc]
      | optional =>
        rw [Members.ofItems, item_eq_ok_iff, later, Members.Holds, Members.count, next, found, and_assoc]
        simp [Shape.Fills, eq_comm]

end arrays

section canonical

/-- The values of a canonical object are canonical. -/
theorem canonical_of_lookup? {name : String} {value : Json} : ∀ {entries : List (String × Json)},
    CanonicalEntries entries → lookup? name entries = some value → value.Canonical
  | (key, item) :: rest, canonical, found => by
    rw [lookup?] at found
    split at found
    · obtain rfl := Option.some.inj found
      exact canonical.1
    · exact canonical_of_lookup? canonical.2 found

/-- So are the items of a canonical array. -/
theorem canonical_of_getElem? {value : Json} : ∀ {items : List Json} {place : Nat},
    CanonicalItems items → items[place]? = some value → value.Canonical
  | item :: rest, 0, canonical, found => by
    obtain rfl := Option.some.inj found
    exact canonical.1
  | item :: rest, place + 1, canonical, found => canonical_of_getElem? canonical.2 (by simpa using found)

end canonical

section records
variable {name : String} {members : Members} {data : members.Carrier}

/-- A record is read from an object just when every member holds the value of its name. -/
theorem ofJson_object_iff {entries : List (String × Json)} (ascending : Ascending entries)
    (distinct : members.Distinct) :
    (Shape.record name members).ofJson (.object entries) = .ok data ↔
      members.Holds (fun _ name => lookup? name entries) false 0 data := by
  rw [Shape.ofJson, bind_eq_ok_iff, holds_object_iff ascending 0 distinct]

/-- A record is read from an array of no more items than members, each member from the item at its place. -/
theorem ofJson_array_iff {items : List Json} :
    (Shape.record name members).ofJson (.array items) = .ok data ↔
      items.length ≤ members.count ∧ members.Holds (fun place _ => items[place]?) true 0 data := by
  have read (found : members.Carrier) (left : List Json) :
      members.ofItems name members.count 0 items = .ok (found, left) ↔
        members.Holds (fun place _ => items[place]?) true 0 found ∧ left = items.drop members.count := by
    have behind := @ofItems_eq_ok_iff name members.count items 0 members found left
    rwa [List.drop_zero, Nat.zero_add] at behind
  rw [Shape.ofJson, bind_eq_ok_iff]
  constructor
  · rintro ⟨⟨found, left⟩, taken, same⟩
    obtain ⟨holds, rfl⟩ := (read found left).mp taken
    cases short : (items.drop members.count).isEmpty with
    | false => simp [short, throw, throwThe, MonadExceptOf.throw] at same
    | true =>
      simp only [short, if_true] at same
      cases same
      exact ⟨List.drop_eq_nil_iff.mp (List.isEmpty_iff.mp short), holds⟩
  · rintro ⟨short, holds⟩
    refine ⟨(data, []), (read data []).mpr ⟨holds, (List.drop_eq_nil_of_le short).symm⟩, rfl⟩

/-- A record is read from nothing else. -/
theorem framed_of_ofJson {value : Json} (read : (Shape.record name members).ofJson value = .ok data) :
    (∃ entries, value = .object entries) ∨ ∃ items, value = .array items := by
  cases value with
  | object entries => exact .inl ⟨entries, rfl⟩
  | array items => exact .inr ⟨items, rfl⟩
  | null | bool | int | double | string => simp [Shape.ofJson] at read

end records

end Dispatch.Json
