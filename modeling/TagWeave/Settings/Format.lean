import TagWeave.Settings.Files

/-! The forms in which files give settings. A file shows its form by its extension. -/
namespace TagWeave

inductive Format where
  | toml
  | json
  | yaml
  | ini
  | ron
  | json5
  deriving DecidableEq, Repr

namespace Format

def all : List Format := [.toml, .json, .yaml, .ini, .ron, .json5]

def extensions : Format → List Text
  | .toml => [".toml".toList]
  | .json => [".json".toList]
  | .yaml => [".yaml".toList, ".yml".toList]
  | .ini => [".ini".toList]
  | .ron => [".ron".toList]
  | .json5 => [".json5".toList]

def ofPath? (path : Text) : Option Format :=
  all.find? fun format => format.extensions.any fun extension => Disk.hasExtension extension path

end Format

end TagWeave
