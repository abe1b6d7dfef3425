/-!
# Letter case

Case is a matter of the letters of ASCII here; all other characters stay as they are.
-/

namespace SourceHarvest.Text

/-- The text with small letters for capital ones. -/
def lowercase (text : String) : String :=
  String.ofList (text.toList.map Char.toLower)

/-- The text with capital letters for small ones. -/
def uppercase (text : String) : String :=
  String.ofList (text.toList.map Char.toUpper)

end SourceHarvest.Text
