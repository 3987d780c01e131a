import Dispatch.Action.Descriptor

namespace Dispatch

/-- One declared action. -/
structure ManifestEntry where
  handler : String
  name : Option String
  target : Option String
  description : Option String
  category : Option String
  tags : List String
  version : Option String
  author : Option String
deriving DecidableEq

/-- A name for the module, if it has one, and its entries. -/
structure Manifest where
  name : Option String
  entries : List ManifestEntry
deriving DecidableEq

open Json (Shape Members)

namespace ManifestEntry

/-- The parts of an entry's written form. -/
@[reducible] def members : Members :=
  .member "handler" .required .string <|
  .member "name" .optional (.orNull .string) <|
  .member "target_system" .optional (.orNull .string) <|
  .member "description" .optional (.orNull .string) <|
  .member "category" .optional (.orNull .string) <|
  .member "tags" .optional (.list .string) <|
  .member "version" .optional (.orNull .string) <|
  .member "author" .optional (.orNull .string) .none

/-- What a reader accepts as an entry. -/
@[reducible] def shape : Shape := .record "ManifestEntry" members

/-- A part given as null is missing. -/
def ofCarrier : members.Carrier → ManifestEntry
  | (handler, name, target, description, category, tags, version, author, ()) =>
    { handler
      name := name.join
      target := target.join
      description := description.join
      category := category.join
      tags := tags.getD []
      version := version.join
      author := author.join }

/-- The name that the declared action has, if its handler were its name otherwise. -/
def title (entry : ManifestEntry) : String := entry.name.getD entry.handler

/-- What is declared replaces what the handler says; tags are added to it. -/
def amend (entry : ManifestEntry) (descriptor : Descriptor) : Descriptor :=
  { descriptor with
    name := entry.name.getD descriptor.name
    target := entry.target.or descriptor.target
    description := entry.description.getD descriptor.description
    category := entry.category.getD descriptor.category
    tags := (descriptor.addTags entry.tags).tags
    version := entry.version.getD descriptor.version
    author := entry.author.or descriptor.author }

end ManifestEntry

namespace Manifest

/-- The parts of a manifest's written form. -/
@[reducible] def members : Members :=
  .member "name" .optional (.orNull .string) <|
  .member "actions" .required (.list ManifestEntry.shape) .none

/-- What a reader accepts as a manifest. -/
@[reducible] def shape : Shape := .record "Manifest" members

/-- A name given as null is missing. -/
def ofCarrier : members.Carrier → Manifest
  | (name, entries, ()) => ⟨name.join, entries.map ManifestEntry.ofCarrier⟩

/-- Reads a manifest from a whole text. -/
def parse (text : String) : Except TextError Manifest := do return ofCarrier (← shape.parse text)

end Manifest

end Dispatch
