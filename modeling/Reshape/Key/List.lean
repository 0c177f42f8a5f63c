import Reshape.Unicode.Blank
import Reshape.Unicode.Split

/-!
# Key lists

Keys listed in one text with commas between them, or one by one.  Blanks around
a key do not belong to it, and empty entries are dropped.
-/

namespace Reshape

open Unicode

/-- The entries without blanks around them, except for those of which nothing is
left. -/
def cleanKeys (entries : List (List Char)) : List String :=
  ((entries.map trim).filter fun entry => !entry.isEmpty).map String.ofList

/-- The keys of a list with commas. -/
def splitKeys (list : String) : List String :=
  cleanKeys (splitOn ',' list.toList)

inductive KeyList where
  | csv (list : String)
  | items (entries : List String)
  deriving DecidableEq

def KeyList.keys : KeyList -> List String
  | .csv list => splitKeys list
  | .items entries => cleanKeys (entries.map String.toList)

end Reshape
