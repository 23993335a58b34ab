import PathQuery.Proofs.Scan.Lexeme
import Mathlib.Data.List.DropRight
import Mathlib.Algebra.BigOperators.Group.List.Basic

namespace PathQuery

namespace Position

def behind (cs : List Char) : Position :=
  ⟨cs.count '\n' + 1, (cs.rtakeWhile (· != '\n')).length + 1⟩

theorem behind_concat (cs : List Char) (c : Char) : behind (cs ++ [c]) = (behind cs).advance c := by
  by_cases hc : c = '\n'
  · simp [behind, advance, hc]
  · simp [behind, advance, hc]

theorem behind_append (xs ys : List Char) : behind (xs ++ ys) = (behind xs).after ys := by
  induction ys generalizing xs with
  | nil => rw [List.append_nil]; rfl
  | cons y ys ih =>
    rw [List.append_cons, ih, behind_concat]
    rfl

end Position

structure Piece where
  space : List Char
  lexeme : List Char
  token : PlacedToken

namespace Piece

def text (p : Piece) : List Char := p.space ++ p.lexeme

structure Fits (p : Piece) (before rest : List Char) : Prop where
  space : Scan.IsTrivia (p.lexeme ++ rest) p.space
  lexeme : Scan.Lexeme rest p.lexeme p.token.token
  position : p.token.position =
    if ['/', '*'] <+: p.lexeme then .behind (before ++ p.text) else .behind (before ++ p.space)

theorem Fits.text_ne_nil {p : Piece} {before rest : List Char} (h : p.Fits before rest) :
    p.text ≠ [] := fun hp => h.lexeme.ne_nil (List.append_eq_nil_iff.mp hp).2

end Piece

structure Segmentation (before text : List Char) (pieces : List Piece) (space : List Char) : Prop where
  covers : text = pieces.flatMap Piece.text ++ space
  trivia : Scan.IsTrivia [] space
  fits : ∀ ps p qs, pieces = ps ++ p :: qs →
    p.Fits (before ++ ps.flatMap Piece.text) (qs.flatMap Piece.text ++ space)

theorem Segmentation.cons {before : List Char} {p : Piece} {rest space : List Char} {pieces : List Piece}
    (hp : p.Fits before rest) (h : Segmentation (before ++ p.text) rest pieces space) :
    Segmentation before (p.text ++ rest) (p :: pieces) space := by
  obtain ⟨rfl, ht, hfits⟩ := h
  refine ⟨by simp, ht, ?_⟩
  intro ps q qs hq
  cases ps with
  | nil =>
    obtain ⟨rfl, rfl⟩ := List.cons.inj hq
    simpa using hp
  | cons p' ps =>
    obtain ⟨rfl, rfl⟩ := List.cons.inj hq
    simpa using hfits ps q qs rfl

theorem Segmentation.length_le {before text space : List Char} {pieces : List Piece}
    (h : Segmentation before text pieces space) : pieces.length ≤ text.length := by
  have hpos : ∀ n ∈ pieces.map fun p => p.text.length, 1 ≤ n := by
    intro n hn
    obtain ⟨p, hp, rfl⟩ := List.mem_map.mp hn
    obtain ⟨ps, qs, hps⟩ := List.append_of_mem hp
    exact List.length_pos_iff.mpr (h.fits ps p qs hps).text_ne_nil
  have hsum := List.length_le_sum_of_one_le _ hpos
  rw [List.length_map, ← List.length_flatMap] at hsum
  rw [h.covers, List.length_append]
  exact Nat.le_add_right_of_le hsum

namespace Cursor

def call (policy : IdentPolicy) : Nat → Cursor → PlacedToken
  | 0, c => (c.next policy).1
  | n + 1, c => call policy n (c.next policy).2

open Scan

variable {c : Cursor} {before : List Char}

theorem moveTo_behind {front rest : List Char} (hc : c.position = .behind before)
    (h : c.rest = front ++ rest) : c.moveTo rest = ⟨rest, .behind (before ++ front)⟩ := by
  have htake : c.rest.take (c.rest.length - rest.length) = front := by simp [h]
  rw [moveTo, htake, hc, ← Position.behind_append]

theorem next_finished (hc : c.position = .behind before) (h : afterTrivia? .plain c.rest = some []) :
    IsTrivia [] c.rest ∧ c.next anyIdent =
      (⟨.endOfInput, .behind (before ++ c.rest)⟩, ⟨[], .behind (before ++ c.rest)⟩) := by
  obtain ⟨space, hs, ht, -⟩ := afterTrivia?_eq_some h
  have hm := moveTo_behind hc hs
  rw [List.append_nil] at hs
  refine ⟨hs ▸ ht, ?_⟩
  simp only [next, h, hm]
  rw [hs]
  rfl

theorem next_piece (hc : c.position = .behind before) (h : afterTrivia? .plain c.rest ≠ some []) :
    ∃ (p : Piece) (rest : List Char), p.Fits before rest ∧ c.rest = p.text ++ rest ∧
      c.next anyIdent = (p.token, ⟨rest, .behind (before ++ p.text)⟩) := by
  match hr : afterTrivia? .plain c.rest with
  | none =>
    obtain ⟨space, body, hs, hb, ht⟩ | ⟨⟨⟩, -⟩ := afterTrivia?_eq_none hr
    have hm := moveTo_behind hc (List.append_nil c.rest).symm
    refine ⟨⟨space, '/' :: '*' :: body, .invalid "unterminated comment",
      .behind (before ++ c.rest)⟩, [], ⟨?_, .openComment hb rfl, ?_⟩, ?_, ?_⟩
    · rw [List.append_nil]
      exact ht
    · simp [Piece.text, hs]
    · simp [Piece.text, hs]
    · simp only [next, hr, hm, Piece.text, ← hs]
  | some [] => exact absurd hr h
  | some (d :: ds) =>
    obtain ⟨space, hs, ht, hstart⟩ := afterTrivia?_eq_some hr
    obtain ⟨lexeme, hl, hlex⟩ := reads_token hstart
    have hm := moveTo_behind hc hs
    have hm' := moveTo_behind (c := ⟨d :: ds, .behind (before ++ space)⟩) rfl hl
    have hopen : ¬['/', '*'] <+: lexeme := fun hp =>
      hstart.not_openComment (hl ▸ hp.trans (List.prefix_append _ _))
    refine ⟨⟨space, lexeme, (token anyIdent (d :: ds)).1, .behind (before ++ space)⟩,
      (token anyIdent (d :: ds)).2, ⟨hl ▸ ht, hlex, (if_neg hopen).symm⟩, ?_, ?_⟩
    · rw [Piece.text, List.append_assoc, ← hl, hs]
    · simp only [next, hr, hm, hm', Piece.text, List.append_assoc]

theorem call_of_rest_eq_nil (h : c.rest = []) (k : Nat) :
    c.call anyIdent k = ⟨.endOfInput, c.position⟩ := by
  obtain ⟨rest, position⟩ := c
  subst h
  induction k with
  | zero => rfl
  | succ k ih => exact ih

structure Splits (c : Cursor) (before : List Char) (pieces : List Piece) (space : List Char) : Prop where
  segmentation : Segmentation before c.rest pieces space
  calls : ∀ k, c.call anyIdent k =
    (pieces.map (·.token))[k]?.getD ⟨.endOfInput, .behind (before ++ c.rest)⟩
  tokens : ∀ m, pieces.length < m → c.tokensWithin anyIdent m =
    pieces.map (·.token) ++ [⟨.endOfInput, .behind (before ++ c.rest)⟩]

theorem splits_of_finished (hc : c.position = .behind before)
    (h : afterTrivia? .plain c.rest = some []) : c.Splits before [] c.rest := by
  obtain ⟨ht, hnext⟩ := next_finished hc h
  refine ⟨⟨rfl, ht, by simp⟩, ?_, ?_⟩
  · intro k
    cases k with
    | zero => rw [call, hnext]; rfl
    | succ k => rw [call, hnext]; exact call_of_rest_eq_nil rfl k
  · intro m hm
    obtain ⟨m, rfl⟩ := Nat.exists_eq_succ_of_ne_zero (Nat.ne_of_gt hm)
    simp [tokensWithin, hnext]

theorem Splits.cons {p : Piece} {rest space : List Char} {pieces : List Piece}
    (hp : p.Fits before rest) (hrest : c.rest = p.text ++ rest)
    (hnext : c.next anyIdent = (p.token, ⟨rest, .behind (before ++ p.text)⟩))
    (h : Splits ⟨rest, .behind (before ++ p.text)⟩ (before ++ p.text) pieces space) :
    c.Splits before (p :: pieces) space := by
  obtain ⟨hsplit, hcall, htokens⟩ := h
  rw [List.append_assoc, ← hrest] at hcall htokens
  refine ⟨hrest ▸ hsplit.cons hp, ?_, ?_⟩
  · intro k
    cases k with
    | zero => rw [call, hnext]; rfl
    | succ k => rw [call, hnext]; exact hcall k
  · intro m hm
    obtain ⟨m, rfl⟩ := Nat.exists_eq_succ_of_ne_zero (Nat.ne_of_gt (Nat.zero_lt_of_lt hm))
    have hm : pieces.length < m := Nat.lt_of_succ_lt_succ hm
    simp only [tokensWithin, hnext, if_neg hp.lexeme.ne_endOfInput, htokens m hm, List.map_cons,
      List.cons_append]

theorem exists_splits (hc : c.position = .behind before) :
    ∃ pieces space, c.Splits before pieces space := by
  -- Every piece has characters, so less is left to the next call.
  induction hn : c.rest.length using Nat.strongRecOn generalizing c before with
  | ind n ih =>
    by_cases h : afterTrivia? .plain c.rest = some []
    · exact ⟨[], c.rest, splits_of_finished hc h⟩
    · obtain ⟨p, rest, hp, hrest, hnext⟩ := next_piece hc h
      have hpos := List.length_pos_iff.mpr hp.text_ne_nil
      have hlt : rest.length < n := by
        rw [hrest, List.length_append] at hn
        omega
      obtain ⟨pieces, space, hs⟩ :=
        ih rest.length hlt (c := ⟨rest, .behind (before ++ p.text)⟩) rfl rfl
      exact ⟨p :: pieces, space, hs.cons hp hrest hnext⟩

end Cursor

theorem tokens_segmentation (s : String) :
    ∃ pieces space, Segmentation [] s.toList pieces space ∧
      tokens anyIdent s = pieces.map (·.token) ++ [⟨.endOfInput, .behind s.toList⟩] ∧
      (tokens anyIdent s).length ≤ s.length + 1 ∧
      ∀ k, (Cursor.ofText s).call anyIdent k =
        (pieces.map (·.token))[k]?.getD ⟨.endOfInput, .behind s.toList⟩ := by
  have hstart : (Cursor.ofText s).position = .behind [] := rfl
  obtain ⟨pieces, space, hsplit, hcall, htokens⟩ := Cursor.exists_splits hstart
  have hle : pieces.length ≤ s.toList.length := hsplit.length_le
  have heq := htokens (s.toList.length + 1) (Nat.lt_succ_of_le hle)
  refine ⟨pieces, space, hsplit, heq, ?_, hcall⟩
  have hlength := congrArg List.length heq
  rw [List.length_append, List.length_map, List.length_singleton] at hlength
  rw [tokens, hlength, ← String.length_toList]
  exact Nat.succ_le_succ hle

end PathQuery
