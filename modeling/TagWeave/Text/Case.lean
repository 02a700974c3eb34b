import TagWeave.Text.CaseTable

/-! Upper and lower case by the full mappings of Unicode, so a letter may become several. Only the
Greek sigma looks at its neighbours: at the end of a word its lower case is the final form. -/
namespace TagWeave.Text

/-- The images of a character: its expansion if it has one, else the image under the first run that maps
it, else itself. -/
def mapped (expansions : List (Nat × List Nat)) (runs : List CaseRun) (c : Char) : Text :=
  match expansions.find? (·.1 == c.toNat) with
  | some (_, points) => points.map Char.ofNat
  | none => [(runs.findSome? (·.image? c.toNat)).elim c Char.ofNat]

def upperChar (c : Char) : Text := mapped upperExpansions upperRuns c

/-- The lower case of one character outside any word. -/
def lowerChar (c : Char) : Text := mapped lowerExpansions lowerRuns c

def upper (text : Text) : Text := text.flatMap upperChar

/-- Whether the next letter of the text, marks passed over, is of some case. -/
def meetsCased (text : Text) : Bool :=
  match text.dropWhile fun c => within caseIgnorableRanges c.toNat with
  | [] => false
  | c :: _ => within casedRanges c.toNat

/-- The lower case of a text, given what was read before it, the nearest character first. -/
def lowerAfter (before : Text) : Text → Text
  | [] => []
  | c :: rest =>
    let letter :=
      if c = 'Σ' then [if meetsCased before && !meetsCased rest then 'ς' else 'σ']
      else lowerChar c
    letter ++ lowerAfter (c :: before) rest

def lower (text : Text) : Text := lowerAfter [] text

end TagWeave.Text
