import TagWeave.Entries
import TagWeave.Tag.Function

/-! Registries say which function a name calls where the store binds nothing to it. -/
namespace TagWeave

structure Registry where
  entries : Entries FunctionRef
  distinct : (Entries.keys entries).Nodup

namespace Registry

def empty : Registry := ⟨[], List.nodup_nil⟩

def get? (registry : Registry) (name : Text) : Option FunctionRef :=
  Entries.find? name registry.entries

def contains (registry : Registry) (name : Text) : Bool := (registry.get? name).isSome

def add (registry : Registry) (name : Text) (function : FunctionRef) : Registry :=
  ⟨Entries.write name function registry.entries,
    Entries.nodup_keys_write registry.distinct name function⟩

def remove (registry : Registry) (name : Text) : Registry :=
  ⟨Entries.erase name registry.entries, Entries.nodup_keys_erase registry.distinct name⟩

def names (registry : Registry) : List Text :=
  (Entries.keys registry.entries).mergeSort fun a b => !Text.precedes b a

def size (registry : Registry) : Nat := registry.entries.length

def standard : Registry :=
  Builtin.all.foldl (fun registry function => registry.add function.name.toList (.builtin function))
    empty

end Registry

end TagWeave
