import Dispatch.Files
import Mathlib.Data.List.Nodup

namespace Dispatch.Files

/-- A text that can stand as one part of a path. -/
structure IsName (name : String) : Prop where
  undivided : '/' ∉ name.toList
  printable : '\x00' ∉ name.toList

section paths

/-- The pieces between separators are made of what is no separator. -/
theorem mem_of_mem_splitOnP {α : Type} {separates : α → Bool} {items piece : List α}
    (member : piece ∈ items.splitOnP separates) {item : α} (inside : item ∈ piece) :
    item ∈ items ∧ separates item = false := by
  induction items generalizing piece with
  | nil =>
    rw [List.splitOnP_nil, List.mem_singleton] at member
    subst member
    cases inside
  | cons first rest ih =>
    rw [List.splitOnP_cons_eq_if_modifyHead] at member
    split at member
    · rcases List.mem_cons.mp member with rfl | later
      · cases inside
      · exact (ih later inside).imp_left (List.mem_cons_of_mem first)
    · rename_i kept
      obtain ⟨head, tail, pieces⟩ := List.exists_cons_of_ne_nil (List.splitOnP_ne_nil separates rest)
      rw [pieces] at ih
      rw [pieces, List.modifyHead_cons] at member
      rcases List.mem_cons.mp member with rfl | later
      · rcases List.mem_cons.mp inside with rfl | inside
        · exact ⟨List.mem_cons_self, by simpa using kept⟩
        · exact (ih List.mem_cons_self inside).imp_left (List.mem_cons_of_mem first)
      · exact (ih (List.mem_cons_of_mem head later) inside).imp_left (List.mem_cons_of_mem first)

/-- The parts of a path without NUL characters are names. -/
theorem isName_of_mem_parts {path name : String} (printable : '\x00' ∉ path.toList) (member : name ∈ parts path) :
    IsName name := by
  obtain ⟨piece, among, rfl⟩ := List.mem_map.mp member
  rw [List.splitOn_eq_splitOnP] at among
  constructor
  · intro slash
    rw [String.toList_ofList] at slash
    simpa using (mem_of_mem_splitOnP among slash).2
  · intro null
    rw [String.toList_ofList] at null
    exact printable (mem_of_mem_splitOnP among null).1

/-- A slash separates the parts before it from those behind it. -/
theorem parts_append_slash (first second : String) :
    parts (first ++ "/" ++ second) = parts first ++ parts second := by
  have chars : (first ++ "/" ++ second).toList = first.toList ++ '/' :: second.toList := by simp
  unfold parts
  rw [chars, List.splitOn_eq_splitOnP, List.splitOnP_append_cons _ _ (by decide), List.map_append]
  rfl

/-- A name is a single part. -/
theorem parts_of_isName {name : String} (proper : IsName name) : parts name = [name] := by
  have whole : ∀ char ∈ name.toList, (char == '/') = false := by
    intro char member
    rw [beq_eq_false_iff_ne]
    rintro rfl
    exact proper.undivided member
  unfold parts
  rw [List.splitOn_eq_splitOnP, List.splitOnP_eq_singleton whole]
  simp

/-- What parts lead to is where the later ones lead to from where the earlier ones have. -/
theorem walk_append (files : Files) (place : List String) (first second : List String) :
    files.walk place (first ++ second) = (files.walk place first).bind (files.walk · second) := by
  induction first generalizing place with
  | nil => rfl
  | cons part rest ih =>
    rw [List.cons_append, walk, walk]
    split
    · rfl
    · split
      · exact ih place
      · split
        · exact ih place.dropLast
        · exact ih (place ++ [part])

/-- A name leads from a directory to what is there under this name, unless it is made of dots. -/
theorem walk_name {files : Files} {place : List String} (directory : files.entry? place = some .directory)
    {name : String}
    (proper : name ≠ "" ∧ name ≠ "." ∧ name ≠ "..") : files.walk place [name] = some (place ++ [name]) := by
  obtain ⟨some, one, two⟩ := proper
  simp [walk, directory, some, one, two]

/-- A path leads somewhere if it can be walked along to where an entry is. -/
theorem find?_eq_some_iff {files : Files} {path : String} {place : List String} {entry : FileEntry} :
    files.find? path = some (place, entry) ↔ path ≠ "" ∧ '\x00' ∉ path.toList ∧
      files.walk (if path.toList.head? = some '/' then [] else workingDirectory) (parts path) = some place ∧
      files.entry? place = some entry := by
  unfold find?
  by_cases unusable : path.isEmpty ∨ path.toList.contains '\x00'
  · have never : ¬(path ≠ "" ∧ '\x00' ∉ path.toList) := by simpa [or_iff_not_imp_left] using unusable
    rw [if_pos unusable]
    exact ⟨fun found => (by cases found), fun found => absurd ⟨found.1, found.2.1⟩ never⟩
  · have usable : path ≠ "" ∧ '\x00' ∉ path.toList := by simpa using unusable
    rw [if_neg unusable]
    simp only [usable, ne_eq, not_false_eq_true, true_and]
    simp [Option.bind_eq_some_iff]

/-- The path of a name in a directory goes the way of the directory's path, and then to the name. -/
theorem walk_joined {files : Files} {path name : String} (isName : IsName name) (start : List String) :
    files.walk start (parts (joined path name)) = (files.walk start (parts path)).bind (files.walk · [name]) := by
  unfold joined
  split
  · rename_i ends
    obtain ⟨front, chars⟩ := List.getLast?_eq_some_iff.mp ends
    have divided (rest : String) : path ++ rest = String.ofList front ++ "/" ++ rest := by
      apply String.toList_inj.mp
      simp [chars]
    have closed : parts path = parts (String.ofList front) ++ [""] := by
      have whole := divided ""
      rw [String.append_empty] at whole
      rw [whole, parts_append_slash]
      rfl
    rw [divided, parts_append_slash, parts_of_isName isName, closed, walk_append, walk_append, Option.bind_assoc]
    congr 1
    funext place
    by_cases directory : files.entry? place = some .directory
    · simp [walk, directory]
    · simp [walk, directory]
  · rw [parts_append_slash, parts_of_isName isName, walk_append]

/-- In a directory a name that looks like a manifest's leads to what is there under this name. -/
theorem find?_joined {files : Files} {path name : String} {place : List String} {entry : FileEntry}
    (directory : files.find? path = some (place, .directory)) (isName : IsName name)
    (manifest : isManifestName name) (there : files.entry? (place ++ [name]) = some entry) :
    files.find? (joined path name) = some (place ++ [name], entry) := by
  obtain ⟨nonempty, printable, walked, opened⟩ := find?_eq_some_iff.mp directory
  have start : (joined path name).toList.head? = path.toList.head? := by
    obtain ⟨first, rest, chars⟩ := List.exists_cons_of_ne_nil (mt String.toList_eq_nil_iff.mp nonempty)
    unfold joined
    split <;> simp [chars]
  have named : '\x00' ∉ (joined path name).toList := by
    unfold joined
    split <;> simp [printable, isName.printable]
  have proper : name ≠ "" ∧ name ≠ "." ∧ name ≠ ".." := by
    refine ⟨?_, ?_, ?_⟩ <;> rintro rfl <;> exact absurd manifest (by decide)
  refine find?_eq_some_iff.mpr ⟨?_, named, ?_, there⟩
  · intro empty
    rw [empty] at start
    exact nonempty (String.toList_eq_nil_iff.mp (List.head?_eq_none_iff.mp start.symm))
  · rw [walk_joined isName, start, walked]
    exact walk_name opened proper

end paths

/-- Every place has one entry, and places are made of names. -/
structure Proper (files : Files) : Prop where
  distinct : (files.entries.map Prod.fst).Nodup
  named : ∀ entry ∈ files.entries, ∀ name ∈ entry.1, IsName name

section entries

/-- Without its repetitions a list has none. -/
theorem nodup_eraseDups (names : List String) : names.eraseDups.Nodup := by
  induction length : names.length using Nat.strongRecOn generalizing names with
  | _ size ih =>
    cases names with
    | nil => exact List.nodup_nil
    | cons first rest =>
      have shorter : (rest.filter fun name => !name == first).length < size := by
        have bound := List.length_filter_le (fun name => !name == first) rest
        simp at length
        omega
      rw [List.eraseDups_cons]
      refine List.nodup_cons.mpr ⟨?_, ih _ shorter _ rfl⟩
      simp

variable {files : Files}

/-- If every place has one entry, it is the one that is found there. -/
theorem Proper.entry?_eq_some_iff (proper : files.Proper) {place : List String} {entry : FileEntry} :
    files.entry? place = some entry ↔ (place, entry) ∈ files.entries := by
  unfold entry?
  constructor
  · intro found
    obtain ⟨⟨there, kept⟩, first, rfl⟩ := Option.map_eq_some_iff.mp found
    have here : there = place := by simpa using List.find?_some first
    subst here
    exact List.mem_of_find?_eq_some first
  · intro member
    obtain ⟨found, first⟩ := Option.isSome_iff_exists.mp
      (List.find?_isSome (p := fun entry : List String × FileEntry => entry.1 = place).mpr ⟨_, member, by simp⟩)
    have here : found.1 = place := by simpa using List.find?_some first
    obtain rfl := List.inj_on_of_nodup_map proper.distinct (List.mem_of_find?_eq_some first) member here
    rw [first]
    rfl

/-- What looks like a manifest in a directory is a file there with such a name. -/
theorem Proper.mem_manifestNames (proper : files.Proper) {place : List String} {name : String} :
    name ∈ files.manifestNames place ↔
      isManifestName name ∧ ∃ entry, files.entry? (place ++ [name]) = some entry ∧ entry ≠ .directory := by
  simp only [manifestNames, List.mem_mergeSort, List.mem_eraseDups, List.mem_filterMap, proper.entry?_eq_some_iff]
  constructor
  · rintro ⟨⟨there, entry⟩, member, listed⟩
    have below {last : String} {above : List String} (turned : there.reverse = last :: above)
        (file : entry ≠ .directory)
        (listed : (if above.reverse = place ∧ isManifestName last then some last else none) = some name) :
        isManifestName name ∧ ∃ entry, (place ++ [name], entry) ∈ files.entries ∧ entry ≠ .directory := by
      obtain ⟨⟨rfl, manifest⟩, same⟩ := Option.ite_none_right_eq_some.mp listed
      obtain rfl := Option.some.inj same
      have whole : there = above.reverse ++ [last] := by
        rw [← List.reverse_cons, ← turned, List.reverse_reverse]
      exact ⟨manifest, entry, whole ▸ member, file⟩
    split at listed
    · rename_i turned text
      exact below turned (by rintro rfl; cases text) listed
    · rename_i turned binary
      exact below turned (by rintro rfl; cases binary) listed
    · cases listed
  · rintro ⟨manifest, entry, member, file⟩
    refine ⟨_, member, ?_⟩
    rw [List.reverse_concat]
    cases entry with
    | directory => exact absurd rfl file
    | text content => simp [manifest]
    | binary => simp [manifest]

/-- The manifests of a directory stand in the order of their names, each once. -/
theorem manifestNames_ascending (files : Files) (place : List String) :
    (files.manifestNames place).Pairwise (· < ·) := by
  unfold manifestNames
  generalize List.filterMap _ files.entries = names
  have sorted : (names.eraseDups.mergeSort fun first second => decide (first ≤ second)).Pairwise
      fun first second => decide (first ≤ second) = true := by
    refine List.pairwise_mergeSort ?_ ?_ _
    · simpa using fun _ _ _ => String.le_trans
    · simpa using String.le_total
  have once : (names.eraseDups.mergeSort fun first second => decide (first ≤ second)).Nodup :=
    (List.mergeSort_perm _ _).nodup_iff.mpr (nodup_eraseDups names)
  refine (List.pairwise_and_iff.mpr ⟨sorted, once⟩).imp ?_
  rintro first second ⟨le, ne⟩
  exact String.not_le.mp fun ge => ne (String.le_antisymm (of_decide_eq_true le) ge)

end entries

section edits

variable {files after : Files}

/-- To begin with there are two directories. -/
theorem proper_empty : empty.Proper where
  distinct := by decide
  named := by
    have working : IsName "work" := ⟨by decide, by decide⟩
    simp [empty, workingDirectory, working]

/-- An entry may be put wherever names lead. -/
theorem Proper.put (proper : files.Proper) {place : List String} (named : ∀ name ∈ place, IsName name)
    (entry : FileEntry) : (files.put place entry).Proper where
  distinct := by
    refine List.nodup_cons.mpr ⟨?_, proper.distinct.sublist (List.filter_sublist.map Prod.fst)⟩
    intro member
    obtain ⟨other, kept, same⟩ := List.mem_map.mp member
    simp [same] at kept
  named := by
    intro other member
    rcases List.mem_cons.mp member with rfl | member
    · exact named
    · exact proper.named other (List.mem_of_mem_filter member)

theorem Proper.drop (proper : files.Proper) (place : List String) : (files.drop place).Proper where
  distinct := proper.distinct.sublist (List.filter_sublist.map Prod.fst)
  named := fun other member => proper.named other (List.mem_of_mem_filter member)

/-- Directories are made of names, one below the other. -/
theorem Proper.makeDirectories (proper : files.Proper) {above parts : List String}
    (named : ∀ name ∈ above ++ parts, IsName name) (made : files.makeDirectories above parts = some after) :
    after.Proper := by
  induction parts generalizing files above with
  | nil =>
    cases made
    exact proper
  | cons part rest ih =>
    have further : ∀ name ∈ (above ++ [part]) ++ rest, IsName name := by simpa using named
    have here : ∀ name ∈ above ++ [part], IsName name := fun name member => further name (List.mem_append_left _ member)
    unfold Files.makeDirectories at made
    dsimp only at made
    split at made
    · exact ih proper further made
    · cases made
    · exact ih (proper.put here .directory) further made

/-- The names on the way of a path from the working directory. -/
theorem isName_of_plain {path name : String} (printable : '\x00' ∉ path.toList)
    (member : name ∈ workingDirectory ++ plainParts path) : IsName name := by
  rcases List.mem_append.mp member with working | plain
  · obtain rfl := List.mem_singleton.mp working
    exact ⟨by decide, by decide⟩
  · exact isName_of_mem_parts printable (List.mem_of_mem_filter plain)

theorem Proper.makeDirectory (proper : files.Proper) {path : String} (printable : '\x00' ∉ path.toList)
    (made : files.makeDirectory path = some after) : after.Proper :=
  proper.makeDirectories (fun _ member => isName_of_plain printable member) made

theorem Proper.write (proper : files.Proper) {path : String} (printable : '\x00' ∉ path.toList) {entry : FileEntry}
    (written : files.write path entry = some after) : after.Proper := by
  unfold Files.write at written
  obtain ⟨ready, made, written⟩ := Option.bind_eq_some_iff.mp written
  have way : ∀ name ∈ workingDirectory ++ (plainParts path).dropLast, IsName name := by
    intro name member
    apply isName_of_plain printable
    rcases List.mem_append.mp member with working | above
    · exact List.mem_append_left _ working
    · exact List.mem_append_right _ (List.dropLast_subset _ above)
  dsimp only at written
  split at written
  · cases written
  · cases written
    exact (proper.makeDirectories way made).put (fun _ member => isName_of_plain printable member) entry

theorem Proper.remove (proper : files.Proper) {path : String} (removed : files.remove path = some after) :
    after.Proper := by
  unfold Files.remove at removed
  obtain ⟨⟨place, entry⟩, _, dropped⟩ := Option.bind_eq_some_iff.mp removed
  cases dropped
  exact proper.drop place

/-- The trees of files that come about: an empty one, and what is made of one by an edit. -/
inductive Made : Files → Prop
  | empty : Made empty
  | directory {files after : Files} {path : String} (made : Made files) (printable : '\x00' ∉ path.toList)
      (ran : files.makeDirectory path = some after) : Made after
  | written {files after : Files} {path : String} {entry : FileEntry} (made : Made files)
      (printable : '\x00' ∉ path.toList) (ran : files.write path entry = some after) : Made after
  | removed {files after : Files} {path : String} (made : Made files) (ran : files.remove path = some after) :
      Made after

/-- However files are edited, every place keeps one entry, and names stay names. -/
theorem Made.proper (made : files.Made) : files.Proper := by
  induction made with
  | empty => exact proper_empty
  | directory _ printable ran proper => exact proper.makeDirectory printable ran
  | written _ printable ran proper => exact proper.write printable ran
  | removed _ ran proper => exact proper.remove ran

end edits

end Dispatch.Files
