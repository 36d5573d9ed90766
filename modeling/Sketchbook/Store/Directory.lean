import Sketchbook.Store.Records
import Sketchbook.Text.PercentEncoding
/-!
Records in a directory of a disk: each text is a file that is named for its key in percent encoding.
Other files in the directory do not matter.
-/
namespace Sketchbook

/-- Records in a directory. -/
structure DirectoryRecords where
  base : Path
  disk : Disk

namespace DirectoryRecords

/-- The ending of the names of files that hold records. -/
def ending : String := "json"

/-- The name of the file for a key. -/
def fileName (key : String) : String := Text.percentEncode key ++ "." ++ ending

/-- The key that a file is named for. -/
def keyOf? (name : String) : Option String :=
  match Path.splitEnding name with
  | (stem, some e) => if e = ending then Text.percentDecode? stem else none
  | (_, none) => none

/-- The path of the file for a key. -/
def path (s : DirectoryRecords) (key : String) : Path := s.base.join (fileName key)

/-- Creates the directory of a store unless something is there. -/
def establish (disk : Disk) (base : Path) : Except StoreError Unit × Disk :=
  if disk.has base then (.ok (), disk)
  else
    let (made, disk) := disk.createDirectories base
    (made.mapError (.cannotCreateStore base), disk)

def get (s : DirectoryRecords) (key : String) : Except StoreError (Option String) :=
  match s.disk.readText (s.path key) with
  | .ok text => .ok (some text)
  | .error .notFound => .ok none
  | .error e => .error (.cannotRead (s.path key) e)

def put (s : DirectoryRecords) (key text : String) : Except StoreError DirectoryRecords :=
  if s.disk.isDirectory s.base then
    match s.disk.write (s.path key) text.toUTF8 with
    | .ok disk => .ok { s with disk }
    | .error e => .error (.cannotWrite (s.path key) e)
  else .error (.storeGone s.base)

def delete (s : DirectoryRecords) (key : String) : Except StoreError DirectoryRecords :=
  match s.disk.remove (s.path key) with
  | .ok disk => .ok { s with disk }
  | .error .notFound => .ok s
  | .error e => .error (.cannotDelete (s.path key) e)

def keys (s : DirectoryRecords) : Except StoreError (List String) :=
  if s.disk.has s.base then
    match s.disk.list s.base with
    | .ok names => .ok (names.filterMap keyOf?)
    | .error e => .error (.cannotList e)
  else .ok []

def contains (s : DirectoryRecords) (key : String) : Bool := s.disk.isFile (s.path key)

instance : Records DirectoryRecords where
  get := get
  put := put
  delete := delete
  keys := keys
  contains s key := .ok (s.contains key)

end DirectoryRecords

end Sketchbook
