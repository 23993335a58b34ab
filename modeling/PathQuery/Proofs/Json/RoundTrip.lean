import PathQuery.Json.Reader
import PathQuery.Proofs.Json.Lexing

namespace PathQuery.Json

mutual

def depth : Json → Nat
  | .array items => itemsDepth items + 1
  | .object members => membersDepth members + 1
  | _ => 0

def itemsDepth : List Json → Nat
  | [] => 0
  | j :: items => max (depth j) (itemsDepth items)

def membersDepth : List (String × Json) → Nat
  | [] => 0
  | (_, j) :: members => max (depth j) (membersDepth members)

end

section Run

variable {containers : List Open} {ts : List Token}

theorem run?_cons (p : Progress) (t : Token) (ts : List Token) :
    run? p (t :: ts) = (p.step? t).bind fun p => run? p ts := rfl

theorem run?_firstItem (j : Json) : run? (.firstItem containers) (j.tokens ++ ts) =
    run? (.value (.array [] :: containers)) (j.tokens ++ ts) := by
  match j with
  | .null | .bool _ | .number _ | .string _ => rfl
  | .array [] | .array (_ :: _) | .object [] | .object (_ :: _) => rfl

theorem run?_openArray (h : containers.length < maxDepth) :
    run? (.value containers) (.openArray :: ts) = run? (.firstItem containers) ts := by
  simp [run?_cons, Progress.step?, Progress.item?, h]

theorem run?_openObject (h : containers.length < maxDepth) :
    run? (.value containers) (.openObject :: ts) = run? (.firstName containers) ts := by
  simp [run?_cons, Progress.step?, Progress.item?, h]

theorem run?_firstName (name : String) :
    run? (.firstName containers) (.string name :: .colon :: ts) =
      run? (.value (.object [] name :: containers)) ts := rfl

theorem run?_item (j : Json) (items : List Json) :
    run? (.after (.array items :: containers) j) (.comma :: ts) =
      run? (.value (.array (j :: items) :: containers)) ts := rfl

theorem run?_member (j : Json) (name name' : String) (members : List (String × Json)) :
    run? (.after (.object members name :: containers) j)
        (.comma :: .string name' :: .colon :: ts) =
      run? (.value (.object ((name, j) :: members) name' :: containers)) ts := rfl

mutual

theorem run?_tokens : ∀ (j : Json) {containers : List Open} {ts : List Token},
    containers.length + j.depth ≤ maxDepth →
    run? (.value containers) (j.tokens ++ ts) = run? (.after containers j) ts
  | .null, _, _, _ => rfl
  | .bool _, _, _, _ => rfl
  | .number _, _, _, _ => rfl
  | .string _, _, _, _ => rfl
  | .array [], _, _, h => run?_openArray (by rw [depth] at h; omega)
  | .array (j :: items), containers, ts, h => by
    rw [depth, itemsDepth] at h
    have hj : (Open.array [] :: containers).length + j.depth ≤ maxDepth := by
      rw [List.length_cons]
      omega
    rw [tokens, List.cons_append, run?_openArray (by omega), List.append_assoc, List.append_assoc,
      run?_firstItem, run?_tokens j hj]
    exact run?_itemTokens items j [] (by omega)
  | .object [], _, _, h => run?_openObject (by rw [depth] at h; omega)
  | .object ((name, j) :: members), containers, ts, h => by
    rw [depth, membersDepth] at h
    have hj : (Open.object [] name :: containers).length + j.depth ≤ maxDepth := by
      rw [List.length_cons]
      omega
    rw [tokens, List.cons_append, run?_openObject (by omega), List.cons_append, List.cons_append,
      run?_firstName, List.append_assoc, List.append_assoc, run?_tokens j hj]
    exact run?_memberTokens members name j [] (by omega)
termination_by structural j => j

theorem run?_itemTokens : ∀ (items : List Json) (latest : Json) (read : List Json)
    {containers : List Open} {ts : List Token},
    containers.length + (itemsDepth items + 1) ≤ maxDepth →
    run? (.after (.array read :: containers) latest) (itemTokens items ++ .closeArray :: ts) =
      run? (.after containers (.array ((latest :: read).reverse ++ items))) ts
  | [], latest, read, _, _, _ => by
    rw [List.append_nil]
    rfl
  | j :: items, latest, read, containers, ts, h => by
    rw [itemsDepth] at h
    have hj : (Open.array (latest :: read) :: containers).length + j.depth ≤ maxDepth := by
      rw [List.length_cons]
      omega
    rw [itemTokens, List.cons_append, run?_item, List.append_assoc, run?_tokens j hj,
      run?_itemTokens items j (latest :: read) (by omega), List.reverse_cons, List.append_assoc,
      List.singleton_append]
termination_by structural items => items

theorem run?_memberTokens : ∀ (members : List (String × Json)) (name : String) (latest : Json)
    (read : List (String × Json)) {containers : List Open} {ts : List Token},
    containers.length + (membersDepth members + 1) ≤ maxDepth →
    run? (.after (.object read name :: containers) latest)
        (memberTokens members ++ .closeObject :: ts) =
      run? (.after containers (.object (((name, latest) :: read).reverse ++ members))) ts
  | [], name, latest, read, _, _, _ => by
    rw [List.append_nil]
    rfl
  | (name', j) :: members, name, latest, read, containers, ts, h => by
    rw [membersDepth] at h
    have hj : (Open.object ((name, latest) :: read) name' :: containers).length + j.depth ≤
        maxDepth := by
      rw [List.length_cons]
      omega
    rw [memberTokens, List.cons_append, List.cons_append, List.cons_append, run?_member,
      List.append_assoc, run?_tokens j hj,
      run?_memberTokens members name' j ((name, latest) :: read) (by omega), List.reverse_cons,
      List.append_assoc, List.singleton_append]
termination_by structural members => members

end

end Run

theorem read?_chars {l : Layout} {j : Json} (hl : l.IsBlank) (hn : j.HasNumbers)
    (hd : j.depth ≤ maxDepth) : read? (String.ofList (chars l 0 j)) = some j := by
  have htokens : tokens? (chars l 0 j) = some j.tokens := by
    have h := lexes_chars hl j 0 hn Scan.startsOutside_nil lexes_nil
    rw [List.append_nil, List.append_nil] at h
    exact h.tokens?
  have hrun : run? (.value []) j.tokens = some (.after [] j) := by
    have h : run? (.value []) (j.tokens ++ []) = run? (.after [] j) [] :=
      run?_tokens j (by simpa using hd)
    rw [List.append_nil] at h
    exact h
  simp [read?, String.toList_ofList, htokens, hrun, Progress.done?]

theorem read?_text {j : Json} (hn : j.HasNumbers) (hd : j.depth ≤ maxDepth) :
    read? j.text = some j := read?_chars compact_isBlank hn hd

theorem read?_prettyText {j : Json} (hn : j.HasNumbers) (hd : j.depth ≤ maxDepth) :
    read? j.prettyText = some j := read?_chars indented_isBlank hn hd

end PathQuery.Json
