import PathQuery.Text.Lowercase

namespace PathQuery.Text

def fold (s : String) : List Char := s.toList.flatMap lower

def sameAscii (a b : String) : Bool := a.toList.map Char.toLower == b.toList.map Char.toLower

def sameName (a b : String) : Bool := sameAscii a b || fold a == fold b

end PathQuery.Text
