namespace PathQuery.Text

def occursIn (part : List Char) : List Char → Bool
  | [] => part.isEmpty
  | c :: cs => part.isPrefixOf (c :: cs) || occursIn part cs

def replaceFrom (part replacement : List Char) : Nat → List Char → List Char
  | _, [] => []
  | skip + 1, _ :: cs => replaceFrom part replacement skip cs
  | 0, c :: cs =>
    if part.isPrefixOf (c :: cs) then
      replacement ++ replaceFrom part replacement (part.length - 1) cs
    else c :: replaceFrom part replacement 0 cs

-- The empty text occurs before every character and at the end.
def replaceAll (part replacement cs : List Char) : List Char :=
  match part with
  | [] => replacement ++ cs.flatMap fun c => c :: replacement
  | part => replaceFrom part replacement 0 cs

end PathQuery.Text
