import PathQuery.Proofs.Scan.Respelling

namespace PathQuery

namespace Position

theorem after_of_not_mem {cs : List Char} (h : '\n' ∉ cs) (p : Position) :
    p.after cs = ⟨p.line, p.column + cs.length⟩ := by
  induction cs generalizing p with
  | nil => rfl
  | cons c cs ih =>
    obtain ⟨hc, hcs⟩ := not_or.mp (mt List.mem_cons.mpr h)
    have hstep : p.advance c = ⟨p.line, p.column + 1⟩ := if_neg (Ne.symm hc)
    change (p.advance c).after cs = _
    rw [hstep, ih hcs, List.length_cons, Nat.add_assoc, Nat.add_comm 1]

end Position

namespace Text

theorem hexDigit_ne_newline (n : Nat) : hexDigit n ≠ '\n' := by
  have hall : ∀ d < 16, Nat.digitChar d ≠ '\n' := by decide
  exact hall (n % 16) (Nat.mod_lt n (by decide))

theorem newline_not_mem_quoteChar (c : Char) : '\n' ∉ quoteChar c := by
  unfold quoteChar
  split
  · decide
  · decide
  · decide
  · decide
  · decide
  · decide
  · next hnewline _ _ _ =>
    split
    · have hdigit (n : Nat) : '\n' ≠ hexDigit n := (hexDigit_ne_newline n).symm
      simp [hex4, hdigit]
    · exact fun h => hnewline (List.mem_singleton.mp h).symm

theorem newline_not_mem_quote (s : String) : '\n' ∉ (quote s).toList := by
  rw [quote, String.toList_ofList]
  intro h
  rcases List.mem_append.mp h with h | h
  · rcases List.mem_cons.mp h with h | h
    · exact absurd h (by decide)
    · obtain ⟨c, -, hc⟩ := List.mem_flatMap.mp h
      exact newline_not_mem_quoteChar c hc
  · exact absurd h (by decide)

end Text

namespace Scan

theorem Yields.quote {policy : IdentPolicy} {rest : List Char} {ts : List Token}
    (h : Yields policy rest ts) (s : String) :
    Yields policy ((Text.quote s).toList ++ rest) (.string s :: ts) := by
  have htrivia := afterTrivia?_quote s rest
  have htoken := token_quote policy s rest
  rw [quote_append] at htrivia htoken ⊢
  exact .token htrivia htoken h

end Scan

namespace Cursor

theorem moveTo_self (c : Cursor) : c.moveTo c.rest = c := by
  rw [moveTo, Nat.sub_self]
  rfl

theorem moveTo_append (front rest : List Char) (p : Position) :
    moveTo ⟨front ++ rest, p⟩ rest = ⟨rest, p.after front⟩ := by
  have htake : (front ++ rest).take ((front ++ rest).length - rest.length) = front := by simp
  rw [moveTo, htake]

theorem next_quote (policy : IdentPolicy) (s rest : String) (p : Position) :
    next policy ⟨(Text.quote s ++ rest).toList, p⟩ =
        (⟨.string s, p⟩, ⟨rest.toList, ⟨p.line, p.column + (Text.quote s).length⟩⟩) ∧
      (tokens policy (Text.quote s ++ rest)).map (·.token) =
        .string s :: (tokens policy rest).map (·.token) := by
  refine ⟨?_, ?_⟩
  · have hstart := moveTo_self ⟨(Text.quote s).toList ++ rest.toList, p⟩
    have hend := moveTo_append (Text.quote s).toList rest.toList p
    rw [Position.after_of_not_mem (Text.newline_not_mem_quote s), String.length_toList] at hend
    simp only [next, String.toList_append, Scan.afterTrivia?_quote, hstart, Scan.token_quote, hend]
  · have hall := yields_tokens policy (Text.quote s ++ rest)
    rw [String.toList_append] at hall
    exact hall.unique ((yields_tokens policy rest).quote s)

end Cursor

end PathQuery
