import TagWeave.Entries

/-! Files, and how a path leads to one. A path is followed part by part from the working directory, and
every directory on its way has to be there. -/
namespace TagWeave

/-- Where a file or a directory is: the parts of its path from the root. -/
abbrev Place := List Text

/-- The texts of the files there are, and the working directory. -/
structure Disk where
  files : List (Place × Text)
  directory : Place

namespace Disk

def isIdle (part : Text) : Bool := part == [] || part == ['.']

def isUp (part : Text) : Bool := part == ['.', '.']

def partsOf (path : Text) : List Text := (Text.pieces '/' path).filter fun part => !isIdle part

/-- Whether a directory is there: the working directory is, with those above it, and so is one with a
file somewhere in it. -/
def hasDirectory (disk : Disk) (place : Place) : Bool :=
  place.isPrefixOf disk.directory || disk.files.any fun file => place.isPrefixOf file.1.dropLast

/-- Follow the parts of a path from a directory. Nothing is above the root. -/
def follow (disk : Disk) (directory : Place) : (parts : List Text) → Option Place
  | [] => some directory
  | part :: rest =>
    if !disk.hasDirectory directory then none
    else follow disk (if isUp part then directory.dropLast else directory ++ [part]) rest

def endsInName (path : Text) : Bool :=
  (Text.pieces '/' path).getLast?.all fun part => !isIdle part && !isUp part

def fileAt? (disk : Disk) (place : Place) : Option Text :=
  (disk.files.find? fun file => file.1 == place).map Prod.snd

def read? (disk : Disk) (path : Text) : Option Text :=
  if endsInName path then (disk.follow disk.directory (partsOf path)).bind disk.fileAt? else none

/-- The text of the file of a name in a directory or, if it is not there, in the nearest directory above
it. The parts of the directory are those of one above it and the ones from there on. -/
def nearest? (disk : Disk) (name : Text) (above : Place) : (further : List Text) → Option Text
  | [] => disk.fileAt? (above ++ [name])
  | part :: further =>
    (disk.nearest? name (above ++ [part]) further).or (disk.fileAt? (above ++ [name]))

def hasExtension (extension path : Text) : Bool :=
  match (partsOf path).getLast? with
  | some name => name != extension && extension.isSuffixOf name
  | none => false

/-- The path with an extension after its name. A path that ends above its directory has none. -/
def withExtension? (extension path : Text) : Option Text :=
  match (Text.pieces '/' path).reverse.dropWhile isIdle with
  | [] => none
  | name :: above =>
    if isUp name then none
    else some (Text.joined ['/'] ((name ++ extension) :: above).reverse)

def ofPaths (files : Entries Text) : Disk :=
  let directory := ["work".toList]
  ⟨files.map fun file => (directory ++ partsOf file.1, file.2), directory⟩

end Disk

end TagWeave
