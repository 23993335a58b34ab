import PathQuery.Proofs.Grammar.Completion
import PathQuery.Proofs.Scan.Spacing

namespace PathQuery

theorem Token.Parts.isSturdy {t : Token} {r : PartialQuery} (h : t.Parts r) : t.IsSturdy := by
  cases h with
  | rune hc =>
    obtain ⟨-, hslash, -, -, -, hminus, -⟩ := Scan.token_punctuation hc
    exact ⟨hslash, hminus⟩
  | endOfInput => trivial

theorem Token.Leads.isSturdy {t : Token} {r : PartialQuery} (h : t.Leads r) : t.IsSturdy := by
  cases h with
  | parts h => exact h.isSturdy
  | ident | number | string => trivial

theorem PartialQuery.Accepts.isSturdy {r : PartialQuery} {ts : List Token} (h : r.Accepts ts) :
    ∀ t ∈ ts, t.IsSturdy := by
  induction ts generalizing r with
  | nil => exact List.forall_mem_nil _
  | cons t ts ih =>
    obtain ⟨r', hr, h⟩ := accepts_cons.mp h
    exact List.forall_mem_cons.mpr ⟨(leads_of_next? hr).isSturdy, ih h⟩

theorem Query.read_spaced {s : String} {q : Query} (h : Query.read s = .ok q) {k : Nat}
    (hk : k < (tokens anyIdent s).length) {space : List Char}
    (hs : Scan.IsTrivia ((Cursor.ofText s).skip anyIdent k).rest space) :
    ∃ before, s.toList = before ++ ((Cursor.ofText s).skip anyIdent k).rest ∧
      Query.read (String.ofList (before ++ (space ++ ((Cursor.ofText s).skip anyIdent k).rest))) =
        .ok q := by
  have hread := Query.read_eq_ok_iff.mp h
  have hsturdy := PartialQuery.Accepts.isSturdy ⟨q, hread⟩
  rw [← List.length_map (·.token)] at hk
  obtain ⟨before, hbefore, hyields⟩ :=
    Cursor.yields_spaced (c := .ofText s) (yields_tokens anyIdent s) hsturdy hk
  refine ⟨before, hbefore, Query.read_eq_ok_iff.mpr ?_⟩
  have hspaced := yields_tokens anyIdent
    (String.ofList (before ++ (space ++ ((Cursor.ofText s).skip anyIdent k).rest)))
  rw [String.toList_ofList] at hspaced
  rw [hspaced.unique (hyields space hs), hread]

theorem Query.read_spaced_comments : ∃ q, Query.read "$.a.Add(1.5,'x')" = .ok q ∧
    Query.read "$.a.Add(1.5 /* '*\" // **/// '/*\n,'x')" = .ok q := by
  have h : (Query.read "$.a.Add(1.5,'x')").toOption.map Query.text = some "$.a.Add(1.5,\"x\")" := by
    decide +kernel
  simp only [Option.map_eq_some_iff, PartialQuery.toOption_eq_some_iff] at h
  obtain ⟨q, hq, -⟩ := h
  have hrest : ((Cursor.ofText "$.a.Add(1.5,'x')").skip anyIdent 7).rest =
      [',', '\'', 'x', '\'', ')'] := by decide +kernel
  have hs : Scan.IsTrivia ((Cursor.ofText "$.a.Add(1.5,'x')").skip anyIdent 7).rest
      (' ' :: '/' :: '*' :: ([' ', '\'', '*', '"', ' ', '/', '/', ' ', '*'] ++ '*' :: '/' ::
        '/' :: '/' :: ([' ', '\'', '/', '*'] ++ ['\n']))) := by
    exact .blank rfl (.block (by decide) (.line (by decide) (fun c hc => (Option.some.inj hc).symm)
      (.blank rfl .nil)))
  obtain ⟨before, hbefore, hread⟩ := Query.read_spaced hq (k := 7) (by decide +kernel) hs
  rw [hrest] at hbefore hread
  have hsplit : "$.a.Add(1.5,'x')".toList =
      "$.a.Add(1.5".toList ++ [',', '\'', 'x', '\'', ')'] := by decide +kernel
  obtain rfl := List.append_cancel_right (hsplit.symm.trans hbefore)
  refine ⟨q, hq, ?_⟩
  rw [← hread]
  exact congrArg Query.read (by decide +kernel)

end PathQuery
