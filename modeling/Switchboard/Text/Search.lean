/-!
# Search

Whether one text starts another, or occurs in it.  The empty text starts and
occurs in every text.
-/

namespace Switchboard.Text

/-- Whether a list of characters occurs in another. -/
def occursIn (needle : List Char) : List Char → Bool
  | [] => needle.isEmpty
  | c :: cs => needle.isPrefixOf (c :: cs) || occursIn needle cs

def contains (s needle : String) : Bool := occursIn needle.toList s.toList

def startsWith (s start : String) : Bool := start.toList.isPrefixOf s.toList

end Switchboard.Text
