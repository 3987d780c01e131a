import Dispatch.Proofs.Json.Reading
import Dispatch.Proofs.Json.Shape

namespace Dispatch.Json

section loop
variable {σ : Type} {entry : σ → String → List Char → Reading (Taken σ)} {within further : Prop} {fuel : Nat}
  {state next last : σ} {name : String} {cs more rest : List Char}

/-- An object ends with its brace. -/
theorem entryLoop_ends (fuel : Nat) (started : Bool) (state : σ) (rest : List Char) :
    entryLoop entry (fuel + 1) started state ('\x7d' :: rest) = .ok (state, rest) := by
  rw [entryLoop, bind_of_ok (nextChar_cons (by decide) _ _)]
  rfl

/-- The first entry stands behind the brace. -/
theorem entryLoop_begins (reads : Reads within (entry state name cs) next more)
    (later : Reads further (entryLoop entry fuel true next more) last rest) :
    Reads (within ∧ further) (entryLoop entry (fuel + 1) false state (printString name ++ cs)) last rest := by
  rw [printString_append, entryLoop, bind_of_ok (nextChar_cons (by decide) _ _)]
  simp only [show ¬('"' = '\x7d') by decide, Bool.not_false, if_false, if_true]
  rw [bind_of_ok (show openName '"' _ = .ok _ from rfl), bind_of_ok (readString_escaped name cs)]
  exact reads.bind later

/-- Any other entry stands behind a comma. -/
theorem entryLoop_continues (reads : Reads within (entry state name cs) next more)
    (later : Reads further (entryLoop entry fuel true next more) last rest) :
    Reads (within ∧ further) (entryLoop entry (fuel + 1) true state (',' :: printString name ++ cs)) last rest := by
  rw [List.cons_append, printString_append, entryLoop, bind_of_ok (nextChar_cons (by decide) _ _)]
  simp only [show ¬(',' = '\x7d') by decide, Bool.not_true, Bool.false_eq_true, if_false, if_true]
  rw [bind_of_ok (nameAfterComma_quote _), bind_of_ok (readString_escaped name cs)]
  exact reads.bind later

end loop

section members
variable {within : Prop} {depth : Nat} {cs rest : List Char} {name key : String} {presence : Presence} {shape : Shape}
  {others : Members}

/-- A member that has not come yet is read in its shape. -/
theorem reads_member {value : shape.Carrier} (slots : others.Slots)
    (reads : Reads within (shape.read depth cs) value rest) :
    Reads within ((Members.member name presence shape others).readEntry (none, slots) name depth (':' :: cs))
      (some value, slots) rest := by
  rw [Members.readEntry]
  simp only [if_true, Option.isSome_none, Bool.false_eq_true, if_false]
  rw [bind_of_ok (readColon_cons cs)]
  exact reads.map fun value => (some value, slots)

/-- A member of another name stays as it is. -/
theorem reads_otherMember {slots after : others.Slots} (slot : Option shape.Carrier) (other : key ≠ name)
    (reads : Reads within (others.readEntry slots key depth cs) after rest) :
    Reads within ((Members.member name presence shape others).readEntry (slot, slots) key depth cs) (slot, after)
      rest := by
  rw [Members.readEntry]
  simp only [other, if_false]
  exact reads.map fun after => (slot, after)

end members

/-- A record is read if the reader may go one level down and its entries are read there. -/
theorem reads_record {within : Prop} {members : Members} {slots : members.Slots} {data : members.Carrier}
    {fuel depth : Nat} {cs rest : List Char} (enough : cs.length + 1 = fuel)
    (reads : Reads within (entryLoop (fun slots key cs => members.readEntry slots key depth cs) fuel false members.blank
      cs) slots rest)
    (complete : members.complete slots = .ok data) (name : String) :
    Reads within ((Shape.record name members).read (depth + 1) ('\x7b' :: cs)) data rest := by
  have fits : Reads True (fitted rest (members.complete slots) >>= fun data => pure (data, rest)) data rest := by
    rw [complete]
    exact reads_of_ok rfl
  rw [← enough] at reads
  rw [Shape.read, skipSpace_cons (by decide)]
  exact (reads.bind fits).congr (by simp)

section shapes
variable {within : Prop} {depth : Nat} {rest : List Char}

/-- What does not begin with a bracket is not refused for one. -/
theorem refuseOpen_of_scalar {c : Char} (shown : isSpace c = false) (list : c ≠ '[') (object : c ≠ '\x7b')
    (expected : String) (cs : List Char) : refuseOpen expected (c :: cs) = .ok () := by
  unfold refuseOpen
  rw [skipSpace_cons shown]
  split
  · rename_i same
    exact absurd (List.cons.inj same).1 list
  · rename_i same
    exact absurd (List.cons.inj same).1 object
  · rfl

/-- A value without brackets is read if it is of the shape. -/
theorem readScalar_print {shape : Shape} {value : Json} {data : shape.Carrier} {c : Char} {cs : List Char}
    (canonical : value.Canonical) (integers : value.IntegersOnly) (flat : value.depth = 0)
    (written : value.print = c :: cs) (shown : isSpace c = false) (list : c ≠ '[') (object : c ≠ '\x7b')
    (fits : shape.ofJson value = .ok data) (closed : Closed rest) :
    readScalar shape (value.print ++ rest) = .ok (data, rest) := by
  have read := (reads_print canonical integers 0 closed).fits (Nat.le_of_eq flat)
  unfold readScalar
  rw [written, List.cons_append] at read ⊢
  rw [bind_of_ok (refuseOpen_of_scalar shown list object _ _), bind_of_ok read]
  simp only [fits]
  rfl

theorem reads_bool (flag : Bool) (depth : Nat) (closed : Closed rest) :
    Shape.bool.read depth ((Json.bool flag).print ++ rest) = .ok (flag, rest) := by
  have fits := Shape.ofJson_bool flag
  rw [Shape.read]
  cases flag with
  | true => exact readScalar_print trivial trivial rfl rfl (by decide) (by decide) (by decide) fits closed
  | false => exact readScalar_print trivial trivial rfl rfl (by decide) (by decide) (by decide) fits closed

theorem reads_string (s : String) (depth : Nat) (closed : Closed rest) :
    Shape.string.read depth ((Json.string s).print ++ rest) = .ok (s, rest) := by
  rw [Shape.read]
  exact readScalar_print trivial trivial rfl rfl (by decide) (by decide) (by decide) (Shape.ofJson_string s) closed

/-- A table is read if it nests no deeper than the reader goes. -/
theorem reads_attributes {table : Attributes} (canonical : (ofTable table).Canonical)
    (integers : (ofTable table).IntegersOnly) (depth : Nat) (closed : Closed rest) :
    Reads ((ofTable table).depth ≤ depth) (Shape.attributes.read depth ((ofTable table).print ++ rest)) table rest := by
  have reads := reads_print canonical integers depth closed
  obtain ⟨cs, written⟩ : ∃ cs, (ofTable table).print ++ rest = '\x7b' :: cs := ⟨_, rfl⟩
  have fits : Reads True (fitted rest (Shape.attributes.ofJson (ofTable table)) >>= fun data => pure (data, rest)) table
      rest := by
    rw [Shape.ofJson_attributes]
    exact reads_of_ok rfl
  rw [written] at reads ⊢
  rw [Shape.read, skipSpace_cons (by decide)]
  exact (reads.bind fits).congr (by simp)

/-- What may be missing is read as missing. -/
theorem reads_null (shape : Shape) (depth : Nat) (rest : List Char) :
    (Shape.orNull shape).read depth (Json.null.print ++ rest) = .ok (none, rest) := by
  rw [Shape.read]
  rfl

/-- What may be missing and is there is read in its shape. -/
theorem reads_orNull {shape : Shape} {data : shape.Carrier} {c : Char} {cs : List Char} (shown : isSpace c = false)
    (there : c ≠ 'n') (reads : Reads within (shape.read depth (c :: cs)) data rest) :
    Reads within ((Shape.orNull shape).read depth (c :: cs)) (some data) rest := by
  rw [Shape.read, skipSpace_cons shown]
  split
  · rename_i same
    exact absurd (List.cons.inj same).1 there
  · exact reads.map some

end shapes

end Dispatch.Json
