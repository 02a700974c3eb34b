import TagWeave.Settings.Basic
import TagWeave.Settings.Format
import TagWeave.Settings.Layer
import TagWeave.Settings.Variables

/-! Loading of settings from four layers: the standard settings, the default file, the file of the
mode and the variables. -/
namespace TagWeave

namespace Settings

inductive LoadFault where
  | malformedFile (path : Text)
  | beforeBeginning
  | unusable (name : String)
  deriving DecidableEq, Repr

def standardLayer : Layer :=
  [("server.host".toList, .text standard.host),
   ("server.port".toList, .integer standard.port),
   ("server.body_limit_bytes".toList, .integer standard.bodyLimit),
   ("parser.max_iterations".toList, .integer standard.budget),
   ("logging.json".toList, .flag standard.logsJson)]

def layerOfFile (path content : Text) : Except LoadFault Layer :=
  match Draft.readText .any (fun draft => draft.toJson? Draft.maxDepth) content with
  | .ok (some (.object members)) => .ok (members.map fun member => (member.1, .ofJson member.2))
  | _ => .error (.malformedFile path)

/-- The name of the list that a variable gives with commas between its items. -/
def listName : Text := "server.cors_origins".toList

/-- The dotted name that a variable stands for: two underscores stand for a point. -/
def dottedName : Text → Text
  | '_' :: '_' :: rest => '.' :: dottedName rest
  | c :: rest => c :: dottedName rest
  | [] => []

def variableEntry (name value : Text) : Text × Setting :=
  let dotted := dottedName (Text.lower name)
  let setting := match Setting.ofText value with
    | .text text =>
      if dotted = listName then .list ((Text.pieces ',' text).map Setting.text) else .text text
    | setting => setting
  (dotted, setting)

/-- The layer of the variables. Of those that stand for one name the last one counts. -/
def variableLayer (known : Variables) : Layer :=
  Entries.ofList (known.map fun (name, value) => variableEntry name value)

def modeOf (known : Variables) : Text :=
  (Entries.find? "RUN_MODE".toList known).getD "development".toList

/-- A section, given as a table or as a list of its settings in order; one that is left out is an
empty table. -/
def section? (name : String) (table : Entries Setting) : Except LoadFault Setting :=
  match Entries.find? name.toList table with
  | none => .ok (.table [])
  | some (.table members) => .ok (.table members)
  | some (.list items) => .ok (.list items)
  | some _ => .error (.unusable name)

def sectionEntries (fields : List (FieldRule × Shape)) : Setting → Entries Setting
  | .table members => members
  | .list items => (fields.map fun field => field.1.name.toList).zip items
  | _ => []

def setting {α : Type} (entries : Entries Setting) (name : String) (use : Setting → Option α)
    (missing : α) : Except LoadFault α :=
  match Entries.find? name.toList entries with
  | none => .ok missing
  | some given =>
    match use given with
    | some value => .ok value
    | none => .error (.unusable name)

def portOf? (setting : Setting) : Option Nat := setting.asNatural?.filter (· < portLimit)

def ofTable (table : Entries Setting) : Except LoadFault Settings := do
  let server := sectionEntries serverFields (← section? "server" table)
  let host ← setting server "host" Setting.asText? standard.host
  let port ← setting server "port" portOf? standard.port
  let origins ← setting server "cors_origins" Setting.asTexts? standard.origins
  let bodyLimit ← setting server "body_limit_bytes" Setting.asNatural? standard.bodyLimit
  let api ← section? "api" table
  if api matches .list [] then throw (.unusable "api")
  let apiKey ← setting (sectionEntries apiFields api) "key" Setting.asOptionalText? none
  let engine := sectionEntries engineFields (← section? "parser" table)
  let budget ← setting engine "max_iterations" Setting.asNatural? standard.budget
  let logging := sectionEntries loggingFields (← section? "logging" table)
  let logsJson ← setting logging "json" Setting.asFlag? standard.logsJson
  return ⟨host, port, origins, bodyLimit, apiKey, budget, logsJson⟩

def layOver (table : Entries Setting) (layer : Layer) : Except LoadFault (Entries Setting) :=
  match layer.writeOver table with
  | some table => .ok table
  | none => .error .beforeBeginning

/-- The variables after the file `.env` of the working directory, or of the nearest directory above it,
has added to them. -/
def environment (known : Variables) (disk : Disk) : Variables :=
  match disk.nearest? ".env".toList [] disk.directory with
  | some file => known.addFile file
  | none => known

end Settings

inductive Source where
  | standard
  | defaultFile
  | modeFile
  | variables
  /-- The files and the variables, put together. -/
  | together
  deriving DecidableEq, Repr

/-- What loading leaves open: how files in other forms than JSON are read, in which order forms of files
are tried, and in which order the members of a table are written. -/
structure Loader where
  parse : Format → Text → Option Layer
  tried : List Format
  order : Source → (place : List Text) → Layer → Layer
  tried_perm : tried.Perm Format.all
  order_perm : ∀ source place members, (order source place members).Perm members

namespace Loader

open Settings

/-- The loader that knows JSON alone and takes everything in the order in which it is written. -/
def plain : Loader where
  parse _ _ := none
  tried := Format.all
  order _ _ members := members
  tried_perm := .refl _
  order_perm _ _ _ := .refl _

variable (loader : Loader)

def layerOf (path content : Text) : Format → Except LoadFault Layer
  | .json => layerOfFile path content
  | format =>
    match loader.parse format content with
    | some layer => .ok layer
    | none => .error (.malformedFile path)

/-- The first file that is there under a path with an extension after it. -/
def findFile? (disk : Disk) (path : Text) : Option (Format × Text) :=
  loader.tried.findSome? fun format => format.extensions.findSome? fun extension =>
    ((Disk.withExtension? extension path).bind disk.read?).map (format, ·)

/-- The layer of a file named with or without its extension. A file that is not there gives an empty
layer, and so does a file of just this name whose extension is that of no form. -/
def fileLayer (disk : Disk) (path : Text) : Except LoadFault Layer :=
  match disk.read? path with
  | some content =>
    match Format.ofPath? path with
    | some format => loader.layerOf path content format
    | none => .ok []
  | none =>
    match loader.findFile? disk path with
    | some (format, content) => loader.layerOf path content format
    | none => .ok []

def arranged (source : Source) (layer : Layer) : Layer := layer.arranged (loader.order source)

/-- Load the settings. The layers that are given are put together by themselves before they are written
over the standard one. -/
def load (known : Variables) (disk : Disk) : Except LoadFault Settings := do
  let known := environment known disk
  let defaults ← loader.fileLayer disk "config/default".toList
  let given ← layOver [] (loader.arranged .defaultFile defaults)
  let mode ← loader.fileLayer disk ("config/".toList ++ modeOf known)
  let given ← layOver given (loader.arranged .modeFile mode)
  let given ← layOver given (loader.arranged .variables (variableLayer known))
  let base ← layOver [] (loader.arranged .standard standardLayer)
  ofTable (← layOver base (loader.arranged .together given))

end Loader

/-- Load the settings from variables and from files by their paths. -/
def Settings.load (known : Variables) (files : Entries Text) : Except Settings.LoadFault Settings :=
  Loader.plain.load known (.ofPaths files)

end TagWeave
