import TagWeave.Catalogue.Moment
import TagWeave.Json.Shape
import TagWeave.Text.Alphanumeric

/-! Message templates as they are kept, what makes one acceptable, and how they are written. -/
namespace TagWeave

structure Template where
  id : Text
  name : Text
  content : Text
  description : Option Text
  created : Moment
  updated : Moment
  deriving DecidableEq, Repr

inductive Refusal where
  | notFound (id : Text)
  | alreadyExists (id : Text)
  | invalidId (detail : Text)
  | invalidTemplate (detail : Text)
  deriving DecidableEq, Repr

def Refusal.message : Refusal → Text
  | .notFound id => "Template not found: ".toList ++ id
  | .alreadyExists id => "Template already exists: ".toList ++ id
  | .invalidId detail => "Invalid template ID: ".toList ++ detail
  | .invalidTemplate detail => "Invalid template: ".toList ++ detail

namespace Template

/-- The greatest size of an id in bytes. -/
def maxId : Nat := 64

def maxName : Nat := 256

def maxContent : Nat := 4000

def isIdCharacter (c : Char) : Bool := Text.isAlphanumeric c || c == '-' || c == '_'

def acceptsId (id : Text) : Bool :=
  1 ≤ Text.utf8Size id && Text.utf8Size id ≤ maxId && id.all isIdCharacter

private def idDetail (id : Text) : Text :=
  '\'' :: id ++ "' must be 1-".toList ++ Text.ofNat maxId ++
    " alphanumeric, '-' or '_' characters".toList

private def lengthDetail (part : String) (limit : Nat) : Text :=
  part.toList ++ " must be 1-".toList ++ Text.ofNat limit ++ " characters".toList

def hasLength (limit : Nat) (text : Text) : Bool := 1 ≤ text.length && text.length ≤ limit

/-- Check the id first, then the name, then the content. -/
def validate (template : Template) : Except Refusal Unit :=
  if !acceptsId template.id then .error (.invalidId (idDetail template.id))
  else if !hasLength maxName template.name then
    .error (.invalidTemplate (lengthDetail "name" maxName))
  else if !hasLength maxContent template.content then
    .error (.invalidTemplate (lengthDetail "content" maxContent))
  else .ok ()

/-- The written form of a template. A description that is not there is left out. -/
def toJson (template : Template) : Json :=
  .ofMembers ([("id".toList, .text template.id), ("name".toList, .text template.name),
    ("content".toList, .text template.content)] ++
    (template.description.toList.map fun description =>
      ("description".toList, .text description)) ++
    [("created_at".toList, .text template.created.text),
     ("updated_at".toList, .text template.updated.text)])

def createFields : List (FieldRule × Shape) :=
  [(⟨"id", .required, false⟩, .anyText), (⟨"name", .required, false⟩, .anyText),
   (⟨"content", .required, false⟩, .anyText), (⟨"description", .optional, true⟩, .anyText)]

def ofCreateRequest (now : Moment) (draft : Draft) : Template :=
  ⟨(draft.field createFields "id").asText, (draft.field createFields "name").asText,
   (draft.field createFields "content").asText, (draft.field createFields "description").text?,
   now, now⟩

private def momentShape : Shape := .text fun text => (Moment.ofText? text).isSome

def fields : List (FieldRule × Shape) :=
  createFields ++ [(⟨"created_at", .defaulted, false⟩, momentShape),
    (⟨"updated_at", .defaulted, false⟩, momentShape)]

/-- The template in a draft that was checked; a time left out is now. -/
def ofDraft (now : Moment) (draft : Draft) : Template :=
  let momentAt (name : String) : Moment :=
    ((draft.field fields name).text?.bind Moment.ofText?).getD now
  ⟨(draft.field fields "id").asText, (draft.field fields "name").asText,
   (draft.field fields "content").asText, (draft.field fields "description").text?,
   momentAt "created_at", momentAt "updated_at"⟩

end Template

/-- A change of a template. What is not there stays as it is. -/
structure Template.Update where
  name : Option Text
  content : Option Text
  /-- A new description, or none to take the old one away. -/
  description : Option (Option Text)
  deriving DecidableEq, Repr

namespace Template.Update

def fields : List (FieldRule × Shape) :=
  [(⟨"name", .optional, true⟩, .anyText), (⟨"content", .optional, true⟩, .anyText),
   (⟨"description", .defaulted, true⟩, .anyText)]

/-- The change that a checked request asks for. Only a description may be taken away by `null`. -/
def ofDraft (draft : Draft) : Update :=
  ⟨(draft.field fields "name").text?, (draft.field fields "content").text?,
   if draft.gives fields "description" then some (draft.field fields "description").text?
   else none⟩

def apply (update : Update) (now : Moment) (template : Template) : Template :=
  { template with
    name := update.name.getD template.name
    content := update.content.getD template.content
    description := update.description.getD template.description
    updated := now }

end Template.Update

end TagWeave
