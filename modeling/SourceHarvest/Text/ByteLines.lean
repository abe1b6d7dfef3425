/-!
# Lines of a file

The bytes of a file are cut into lines at newlines, and a carriage return before a
newline goes with it.  A line is a text only if its bytes are UTF-8.
-/

namespace SourceHarvest.Text

/-- Cut bytes into lines; the bytes of the current line so far are kept latest first. -/
def cutLines (latestFirst : List UInt8) : List UInt8 → List (List UInt8)
  | [] => if latestFirst.isEmpty then [] else [latestFirst.reverse]
  | byte :: rest =>
      if byte = 10 then
        let line := match latestFirst with
          | 13 :: others => others
          | all => all
        line.reverse :: cutLines [] rest
      else cutLines (byte :: latestFirst) rest

/-- The lines of a file, each as a text if it is one. -/
def linesOf (content : ByteArray) : List (Option (List Char)) :=
  (cutLines [] content.toList).map fun line =>
    (String.fromUTF8? ⟨line.toArray⟩).map String.toList

end SourceHarvest.Text
