/-!
Lines of bytes. A newline ends a line; bytes after the last newline are a line of their own if there
are any.
-/
namespace Sketchbook.Text

/-- The byte that ends a line. -/
def newline : UInt8 := 10

/-- The lines of bytes, without the newlines. -/
def lines : List UInt8 → List (List UInt8)
  | [] => []
  | b :: rest =>
    if b = newline then [] :: lines rest
    else
      match lines rest with
      | [] => [[b]]
      | line :: more => (b :: line) :: more

end Sketchbook.Text
