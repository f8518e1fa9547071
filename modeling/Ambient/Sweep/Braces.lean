/-
  Ambient.Sweep.Braces

  Where a declaration ends: after the closing brace of its block, or after the semicolon that no
  brace encloses. Each scan answers with what is left of the text.
-/

namespace Ambient.Sweep

/-- The text after the first semicolon that no brace encloses, or from the first brace that closes
what was not opened; `depth` counts the braces that are open. -/
def afterTerminator (depth : Nat) : List Char → List Char
  | [] => []
  | c :: rest =>
    if c = '\x7b' then afterTerminator (depth + 1) rest
    else if c = '\x7d' then
      match depth with
      | 0 => c :: rest
      | outer + 1 => afterTerminator outer rest
    else if c = ';' ∧ depth = 0 then rest
    else afterTerminator depth rest

/-- The text after the brace that closes a block, inside of which `depth` more are open. -/
def afterClosing (depth : Nat) : List Char → List Char
  | [] => []
  | c :: rest =>
    if c = '\x7b' then afterClosing (depth + 1) rest
    else if c = '\x7d' then
      match depth with
      | 0 => rest
      | outer + 1 => afterClosing outer rest
    else afterClosing depth rest

/-- The text after the next block, or after the terminator where there is no block. -/
def afterBlock (text : List Char) : List Char :=
  match text.dropWhile (· != '\x7b') with
  | [] => afterTerminator 0 text
  | _ :: rest => afterClosing 0 rest

theorem afterTerminator_suffix (depth : Nat) (text : List Char) :
    afterTerminator depth text <:+ text := by
  fun_induction afterTerminator depth text with
  | case1 => exact List.suffix_refl _
  | case2 _ _ ih => exact ih.trans (List.suffix_cons _ _)
  | case3 => exact List.suffix_refl _
  | case4 _ _ _ ih => exact ih.trans (List.suffix_cons _ _)
  | case5 => exact List.suffix_cons _ _
  | case6 _ _ _ _ _ _ ih => exact ih.trans (List.suffix_cons _ _)

theorem afterClosing_suffix (depth : Nat) (text : List Char) :
    afterClosing depth text <:+ text := by
  fun_induction afterClosing depth text with
  | case1 => exact List.suffix_refl _
  | case2 _ _ ih => exact ih.trans (List.suffix_cons _ _)
  | case3 => exact List.suffix_cons _ _
  | case4 _ _ _ ih => exact ih.trans (List.suffix_cons _ _)
  | case5 _ _ _ _ _ ih => exact ih.trans (List.suffix_cons _ _)

theorem afterBlock_suffix (text : List Char) : afterBlock text <:+ text := by
  unfold afterBlock
  split
  · exact afterTerminator_suffix 0 text
  · rename_i c rest h
    have hdrop := List.dropWhile_suffix (l := text) (· != '\x7b')
    rw [h] at hdrop
    exact ((afterClosing_suffix 0 rest).trans (List.suffix_cons _ _)).trans hdrop

/-! ## Positions -/

/-- The position at which what is left of a text begins. -/
def positionOf (text rest : List Char) : Nat :=
  text.length - rest.length

/-- The position after the next block from a position of a text. -/
def blockEnd (text : List Char) (position : Nat) : Nat :=
  positionOf text (afterBlock (text.drop position))

/-- The position after the next terminator from a position of a text. -/
def terminatorEnd (text : List Char) (position : Nat) : Nat :=
  positionOf text (afterTerminator 0 (text.drop position))

end Ambient.Sweep
