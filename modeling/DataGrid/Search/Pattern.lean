import DataGrid.Config
import DataGrid.Text.Blank
import DataGrid.Text.Lower

/-!
The keywords of a search and the patterns that they become. Lower case comes first, then the wild cards,
then the freedom to stand anywhere in a column.
-/

namespace DataGrid

/-- The pattern sign of a wild card: any run for an asterisk, any character for a question mark. -/
def wildcardSign (c : Char) : Char := if c = '*' then '%' else if c = '?' then '_' else c

namespace Config

def patternChars (config : Config) (keyword : List Char) : List Char :=
  let folded := if config.caseInsensitive.truthy then Text.lower keyword else keyword
  let expanded := if config.useWildcards.truthy then folded.map wildcardSign else folded
  if config.smart.truthy then '%' :: expanded ++ ['%'] else expanded

def pattern (config : Config) (keyword : String) : String := String.ofList (config.patternChars keyword.toList)

/-- What is searched for one after the other: each word of the keyword, or the keyword as it is. -/
def terms (config : Config) (keyword : String) : List String :=
  if config.smart.truthy then (Text.words keyword.toList).map String.ofList
  else if keyword = "" then [] else [keyword]

end Config

end DataGrid
