import Sketchbook.Disk.Basic
/-!
What turns one disk into another: the locations where something else stands, and what stands there
now. Directories come before what is in them.
-/
namespace Sketchbook.Disk

/-- The locations where two disks differ, with what stands there on the second. -/
def changes (old new : Disk) : List (Location × Option Node) :=
  let gone := old.nodes.keys.filter fun place => !new.nodes.contains place
  let changed := new.nodes.entries.filter fun entry =>
    !(old.nodes.get? entry.1).any entry.2.same
  gone.map (·, none) ++ changed.map fun entry => (entry.1, some entry.2)

end Sketchbook.Disk
