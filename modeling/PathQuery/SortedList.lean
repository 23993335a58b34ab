namespace PathQuery

variable {α : Type}

def insertSorted (cmp : α → α → Ordering) (x : α) : List α → List α
  | [] => [x]
  | y :: ys =>
    match cmp x y with
    | .lt => x :: y :: ys
    | .eq => y :: ys
    | .gt => y :: insertSorted cmp x ys

def sortDistinct (cmp : α → α → Ordering) (xs : List α) : List α :=
  xs.foldr (insertSorted cmp) []

def sortNames (names : List String) : List String := sortDistinct compare names

def compareNames : List String → List String → Ordering
  | [], [] => .eq
  | [], _ :: _ => .lt
  | _ :: _, [] => .gt
  | a :: as, b :: bs => (compare a b).then (compareNames as bs)

end PathQuery
