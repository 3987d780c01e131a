import Dispatch.Json.Shape

namespace Dispatch

/-- An action's descriptor holds all that is declared about it. -/
structure Descriptor where
  name : String
  target : Option String
  description : String
  category : String
  /-- Ascending, each tag once. -/
  tags : Table Unit
  version : String
  author : Option String
  dependencies : List String
  isAbstract : Bool
  /-- Where the action was discovered. -/
  source : Option String
deriving DecidableEq

namespace Descriptor

/-- An action that declares no version has this one. -/
def initialVersion : String := "1.0.0"

/-- Nothing is declared but the name. -/
def named (name : String) : Descriptor :=
  { name
    target := none
    description := ""
    category := ""
    tags := ∅
    version := initialVersion
    author := none
    dependencies := []
    isAbstract := false
    source := none }

instance : Inhabited Descriptor := ⟨named ""⟩

/-- A tag that is there already changes nothing. -/
def addTag (descriptor : Descriptor) (tag : String) : Descriptor :=
  { descriptor with tags := descriptor.tags.insert tag () }

/-- Tags are added one after the other. -/
def addTags (descriptor : Descriptor) (tags : List String) : Descriptor := tags.foldl addTag descriptor

/-- Whether the action carries a tag. -/
def hasTag (descriptor : Descriptor) (tag : String) : Bool := descriptor.tags.contains tag

/-- The name with the target system in front. -/
def qualifiedName (descriptor : Descriptor) : String :=
  match descriptor.target with
  | some target => target ++ ":" ++ descriptor.name
  | none => descriptor.name

/-- The written form names every part, with null for what is missing. -/
def toJson (descriptor : Descriptor) : Json :=
  .obj
    [("name", .string descriptor.name),
     ("target_system", .ofString? descriptor.target),
     ("description", .string descriptor.description),
     ("category", .string descriptor.category),
     ("tags", .strings descriptor.tags.keys),
     ("version", .string descriptor.version),
     ("author", .ofString? descriptor.author),
     ("dependencies", .strings descriptor.dependencies),
     ("is_abstract", .bool descriptor.isAbstract),
     ("source", .ofString? descriptor.source)]

open Json (Shape Members)

/-- The parts of the written form. -/
@[reducible] def members : Members :=
  .member "name" .required .string <|
  .member "target_system" .nullable (.orNull .string) <|
  .member "description" .required .string <|
  .member "category" .required .string <|
  .member "tags" .required (.list .string) <|
  .member "version" .required .string <|
  .member "author" .nullable (.orNull .string) <|
  .member "dependencies" .required (.list .string) <|
  .member "is_abstract" .required .bool <|
  .member "source" .nullable (.orNull .string) .none

/-- What a reader accepts as a descriptor. -/
@[reducible] def shape : Shape := .record "ActionDescriptor" members

/-- Tags that were written twice are kept once. -/
def ofCarrier : members.Carrier → Descriptor
  | (name, target, description, category, tags, version, author, dependencies, isAbstract, source, ()) =>
    { name
      target := target.join
      description
      category
      tags := Table.ofList (tags.map fun tag => (tag, ()))
      version
      author := author.join
      dependencies
      isAbstract
      source := source.join }

/-- Reads the written form. -/
def ofJson (value : Json) : Except String Descriptor := do return ofCarrier (← shape.ofJson value)

end Descriptor

/-- An entry of a listing. -/
structure Listing where
  name : String
  qualifiedName : String
  description : String
  category : String
  tags : List String
  target : Option String
  version : String
  author : Option String
  dependencies : List String
  source : Option String
  inputSchema : Json

namespace Listing

/-- The named parts of an entry. -/
def entries (listing : Listing) : List (String × Json) :=
  [("name", .string listing.name),
   ("internal_name", .string listing.qualifiedName),
   ("description", .string listing.description),
   ("category", .string listing.category),
   ("tags", .strings listing.tags),
   ("target_system", .ofString? listing.target),
   ("version", .string listing.version),
   ("author", .ofString? listing.author),
   ("dependencies", .strings listing.dependencies),
   ("source", .ofString? listing.source),
   ("input_schema", listing.inputSchema)]

/-- The written form of an entry. -/
def toJson (listing : Listing) : Json := .obj listing.entries

open Json (Shape Members)

/-- The parts of an entry's written form. -/
@[reducible] def members : Members :=
  .member "name" .required .string <|
  .member "internal_name" .required .string <|
  .member "description" .required .string <|
  .member "category" .required .string <|
  .member "tags" .required (.list .string) <|
  .member "target_system" .nullable (.orNull .string) <|
  .member "version" .required .string <|
  .member "author" .nullable (.orNull .string) <|
  .member "dependencies" .required (.list .string) <|
  .member "source" .nullable (.orNull .string) <|
  .member "input_schema" .required .any .none

/-- What a reader accepts as an entry. -/
@[reducible] def shape : Shape := .record "ActionInfo" members

/-- A part given as null is missing. -/
def ofCarrier : members.Carrier → Listing
  | (name, qualifiedName, description, category, tags, target, version, author, dependencies, source,
      inputSchema, ()) =>
    { name
      qualifiedName
      description
      category
      tags
      target := target.join
      version
      author := author.join
      dependencies
      source := source.join
      inputSchema }

/-- Reads the written form of an entry. -/
def ofJson (value : Json) : Except String Listing := do return ofCarrier (← shape.ofJson value)

end Listing

end Dispatch
