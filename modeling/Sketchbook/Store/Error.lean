import Sketchbook.Disk.Basic
import Sketchbook.Document.Id
import Sketchbook.Json.Error
/-!
Why a store of documents or preferences refuses an operation: a kind, which callers act on, and the
cause.
-/
namespace Sketchbook

/-- What kind of fault a store reports. -/
inductive StoreErrorKind where
  | unavailable
  | invalidKey
  | serialization
  | io
  deriving DecidableEq, Repr

/-- The words in front of the cause of a fault. -/
def StoreErrorKind.opening : StoreErrorKind → String
  | .unavailable => "Storage unavailable: "
  | .invalidKey => "Invalid key: "
  | .serialization => "Serialization error: "
  | .io => "IO error: "

/-- Why a store refuses an operation. -/
inductive StoreError where
  /-- The store in memory is switched off. -/
  | offline
  | noHome
  | cannotCreateStore (base : Path) (error : DiskError)
  /-- The directory of a store is there no more. -/
  | storeGone (base : Path)
  | cannotCreateDirectory (path : Path) (error : DiskError)
  | invalidId (fault : IdFault)
  | unknownPreference (name : String)
  | malformedContent (error : Json.Error)
  | malformedMenuKeys (error : Json.Error)
  | malformedFile (path : Path) (error : Json.Error)
  | blankFont
  /-- A font's name holds the separator of the list of fonts. -/
  | dividedFont (name : String)
  | cannotRead (path : Path) (error : DiskError)
  | cannotWrite (path : Path) (error : DiskError)
  | cannotDelete (path : Path) (error : DiskError)
  | cannotList (error : DiskError)
  /-- A fault that another store reported in its own words. -/
  | reported (kind : StoreErrorKind) (detail : String)

namespace StoreError

def kind : StoreError → StoreErrorKind
  | .offline | .noHome | .cannotCreateStore .. | .storeGone _ | .cannotCreateDirectory .. =>
    .unavailable
  | .invalidId _ | .unknownPreference _ => .invalidKey
  | .malformedContent _ | .malformedMenuKeys _ | .malformedFile .. | .blankFont | .dividedFont _ =>
    .serialization
  | .cannotRead .. | .cannotWrite .. | .cannotDelete .. | .cannotList _ => .io
  | .reported kind _ => kind

def detail : StoreError → String
  | .offline => "memory storage is offline"
  | .noHome => "Could not determine home directory"
  | .cannotCreateStore base error => s!"Failed to create storage directory {base}: {error}"
  | .storeGone base => s!"Storage directory {base} is gone"
  | .cannotCreateDirectory path error => s!"Failed to create {path}: {error}"
  | .invalidId fault => fault.message
  | .unknownPreference name => s!"unknown setting {Text.quoted name}"
  | .malformedContent error => error.message
  | .malformedMenuKeys error => s!"open menu keys: {error.message}"
  | .malformedFile path error => s!"Failed to parse {path}: {error.message}"
  | .blankFont => "font name is empty"
  | .dividedFont name => s!"font name {Text.quoted name} contains ','"
  | .cannotRead path error => s!"Failed to read {path}: {error}"
  | .cannotWrite path error => s!"Failed to write {path}: {error}"
  | .cannotDelete path error => s!"Failed to delete {path}: {error}"
  | .cannotList error => s!"Failed to read directory: {error}"
  | .reported _ detail => detail

def message (e : StoreError) : String := e.kind.opening ++ e.detail

instance : ToString StoreError := ⟨message⟩

end StoreError

end Sketchbook
