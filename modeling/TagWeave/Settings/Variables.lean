import TagWeave.Entries
import TagWeave.Text.Alphanumeric
import TagWeave.Text.Blank

/-! Variables, and the file that may add to them: lines of a name, an equals sign and a value. The
value may be quoted, and it may refer to variables that are known before its line. -/
namespace TagWeave

abbrev Variables := Entries Text

namespace Variables

inductive LinePlace where
  | plain
  /-- After white space, where a comment may begin. -/
  | blank
  | escape
  | single
  | singleEscape
  | double
  | doubleEscape
  deriving DecidableEq, Repr

/-- Read one more character of a line; nothing if it begins a comment. -/
def LinePlace.next (place : LinePlace) (c : Char) : Option LinePlace :=
  let opening : LinePlace :=
    if c = '\\' then .escape else if c = '"' then .double else if c = '\'' then .single else .plain
  match place with
  | .plain => some (if Text.isBlank c && c != '\n' && c != '\r' then .blank else opening)
  | .blank => if c = '#' then none else some opening
  | .escape => some .plain
  | .single => some (if c = '\\' then .singleEscape else if c = '\'' then .plain else .single)
  | .singleEscape => some .single
  | .double => some (if c = '\\' then .doubleEscape else if c = '"' then .plain else .double)
  | .doubleEscape => some .double

/-- What a line says before a comment, and where its end stands unless a comment ends it. -/
def readEnd (place : LinePlace) : Text → Text × Option LinePlace
  | [] => ([], some place)
  | c :: rest =>
    match place.next c with
    | none => ([], none)
    | some place =>
      let (kept, final) := readEnd place rest
      (c :: kept, final)

def withoutEnd (line : Text) : Text :=
  match line.reverse with
  | '\n' :: '\r' :: rest => rest.reverse
  | '\n' :: rest => rest.reverse
  | _ => line

/-- Lines put together as long as a quote or an escape is open. An end that leaves one open is no
line. -/
def joinLines (begun : Text) (place : LinePlace) : List Text → List (Option Text)
  | [] => if place = .plain then [] else [none]
  | line :: rest =>
    let whole := begun ++ line
    if (Text.trimStart whole).head? = some '#' then some [] :: joinLines [] .plain rest
    else match readEnd place line with
      | (kept, none) => some (begun ++ kept) :: joinLines [] .plain rest
      | (_, some .plain) => some (withoutEnd whole) :: joinLines [] .plain rest
      | (_, some place) => joinLines whole place rest

def writtenLines (file : Text) : List Text :=
  let parts := Text.pieces '\n' file
  parts.dropLast.map (· ++ ['\n']) ++ (parts.getLast?.filter (!·.isEmpty)).toList

def valueOf (known : Variables) (name : Text) : Text :=
  (Entries.find? name known).getD []

/-- Where in a value a reader stands; `quoted` tells whether double quotes are open. -/
inductive ValuePlace where
  | plain (quoted : Bool)
  | escape (quoted : Bool)
  | single
  | name (quoted : Bool) (read : Text)
  | braced (quoted : Bool) (read : Text)
  | after
  | comment
  deriving DecidableEq, Repr

/-- Read one more character of a value; what is to be added to it, and where the reader stands
then. -/
def ValuePlace.next (known : Variables) (place : ValuePlace) (c : Char) :
    Option (Text × ValuePlace) :=
  match place with
  | .comment => some ([], .comment)
  | .after =>
    if c = ' ' ∨ c = '\t' then some ([], .after) else if c = '#' then some ([], .comment) else none
  | .escape quoted =>
    if c = 'n' then some (['\n'], .plain quoted)
    else if ['\\', '\'', '"', '$', ' '].contains c then some ([c], .plain quoted)
    else none
  | .single => some (if c = '\'' then ([], .plain false) else ([c], .single))
  | .name quoted read =>
    if Text.isAlphanumeric c then some ([], .name quoted (read ++ [c]))
    else if c = openBrace ∧ read = [] then some ([], .braced quoted [])
    else if c = '$' then some (known.valueOf read, .name quoted [])
    else some (known.valueOf read ++ [c], .plain quoted)
  | .braced quoted read =>
    if c = closeBrace then some (known.valueOf read, .plain quoted)
    else some ([], .braced quoted (read ++ [c]))
  | .plain quoted =>
    if c = '$' then some ([], .name quoted [])
    else if c = '\\' then some ([], .escape quoted)
    else if c = '"' then some ([], .plain !quoted)
    else if quoted then some ([c], .plain true)
    else if c = '\'' then some ([], .single)
    else if c = ' ' ∨ c = '\t' then some ([], .after)
    else some ([c], .plain false)

/-- What the end of a value adds to it, unless something is still open there. -/
def ValuePlace.atEnd? (known : Variables) : ValuePlace → Option Text
  | .plain false | .escape false | .after | .comment => some []
  | .name false read => some (known.valueOf read)
  | _ => none

def readValue (known : Variables) (place : ValuePlace) : Text → Option Text
  | [] => place.atEnd? known
  | c :: rest => do
    let (added, place) ← place.next known c
    return added ++ (← readValue known place rest)

def readName (text : Text) : Option (Text × Text) :=
  let isPart (c : Char) : Bool := c.isAlphanum || c == '_' || c == '.'
  match text with
  | [] => none
  | c :: _ =>
    if c.isAlpha || c == '_' then
      some (text.takeWhile isPart, Text.trimStart (text.dropWhile isPart))
    else none

/-- The name before an equals sign, and what follows the sign. The word `export` may go before. -/
def readBinding (text : Text) : Option (Text × Text) := do
  let (name, rest) ← readName text
  match rest with
  | '=' :: rest => return (name, Text.trimStart rest)
  | rest =>
    if name ≠ "export".toList then none
    else
      let (name, rest) ← readName rest
      match rest with
      | '=' :: rest => return (name, Text.trimStart rest)
      | _ => none

def saysNothing (text : Text) : Bool := text.isEmpty || text.head? == some '#'

def addNew (known : Variables) (name value : Text) : Variables :=
  if (Entries.find? name known).isSome then known else Entries.write name value known

/-- Add what a line says. Nothing if the line is not understood. -/
def addLine (known : Variables) (line : Text) : Option Variables :=
  let line := Text.trimStart (Text.trimEnd line)
  if saysNothing line then some known
  else do
    let (name, rest) ← readBinding line
    let value ← if saysNothing rest then some [] else readValue known (.plain false) rest
    return known.addNew name value

/-- Add what lines say, up to the first one that is not understood. -/
def addLines (known : Variables) : List (Option Text) → Variables
  | [] | none :: _ => known
  | some line :: rest =>
    match addLine known line with
    | some known => addLines known rest
    | none => known

def withoutMark (text : Text) : Text :=
  match text with
  | '\ufeff' :: rest => rest
  | text => text

/-- Add what a file says to variables; those that are there stay as they are. -/
def addFile (known : Variables) (file : Text) : Variables :=
  known.addLines (joinLines [] .plain (writtenLines (withoutMark file)))

end Variables

end TagWeave
