/-
  Ambient.Proofs.Sweep.Braces

  Where the scans for the end of a declaration stop. A scan counts the braces that are open, so the
  balance of the text that it has read tells whether it stops: a terminator ends at the first
  semicolon or closing brace behind balanced text, and a block at the first place up to which it
  closes as many braces as it opens (`declaration_ends`).
-/
import Ambient.Sweep.Braces
import Mathlib.Data.List.TakeWhile
import Mathlib.Order.Bounds.Image

namespace Ambient.Sweep

/-! ## Balance -/

/-- A text whose braces are in balance: it closes as many as it opens, and up to no place more. -/
structure IsBalanced (text : List Char) : Prop where
  total : text.count '\x7d' = text.count '\x7b'
  front : ∀ i, (text.take i).count '\x7d' ≤ (text.take i).count '\x7b'

/-- A block: a balanced text that no shorter balanced text begins, but for the empty one. -/
structure IsBlock (text : List Char) : Prop where
  balanced : IsBalanced text
  minimal : ∀ front, front <+: text → front ≠ [] → front ≠ text → ¬ IsBalanced front

/-- A text that closes `depth` open braces and is in balance otherwise. -/
structure Closes (depth : Nat) (text : List Char) : Prop where
  total : text.count '\x7d' = depth + text.count '\x7b'
  front : ∀ i, (text.take i).count '\x7d' ≤ depth + (text.take i).count '\x7b'

theorem closes_zero_iff {text : List Char} : Closes 0 text ↔ IsBalanced text := by
  constructor
  · rintro ⟨htotal, hfront⟩
    exact ⟨by omega, fun i => by have := hfront i; omega⟩
  · rintro ⟨htotal, hfront⟩
    exact ⟨by omega, fun i => by have := hfront i; omega⟩

theorem closes_nil_iff {depth : Nat} : Closes depth [] ↔ depth = 0 := by
  constructor
  · intro h
    have := h.total
    simp only [List.count_nil] at this
    omega
  · rintro rfl
    exact closes_zero_iff.mpr ⟨rfl, by simp⟩

/-- A character leads from one depth to another: an opening brace to the next one, a closing brace
to the one before, any other character to the same. -/
def Leads (depth : Nat) (c : Char) (next : Nat) : Prop :=
  next + [c].count '\x7d' = depth + [c].count '\x7b'

theorem leads_open (depth : Nat) : Leads depth '\x7b' (depth + 1) := rfl

theorem leads_close (depth : Nat) : Leads (depth + 1) '\x7d' depth := rfl

theorem leads_other {c : Char} (hopen : c ≠ '\x7b') (hclose : c ≠ '\x7d') (depth : Nat) :
    Leads depth c depth := by
  simp [Leads, hopen, hclose]

/-- The braces up to a place are those of the first character and those behind it. -/
theorem count_take_succ (d c : Char) (rest : List Char) (i : Nat) :
    ((c :: rest).take (i + 1)).count d = [c].count d + (rest.take i).count d := by
  rw [List.take_succ_cons, ← List.singleton_append, List.count_append]

theorem closes_cons_iff {depth next : Nat} {c : Char} (h : Leads depth c next)
    {rest : List Char} : Closes depth (c :: rest) ↔ Closes next rest := by
  have hc : next + [c].count '\x7d' = depth + [c].count '\x7b' := h
  have hcount : ∀ d : Char, (c :: rest).count d = [c].count d + rest.count d := fun d => by
    rw [← List.singleton_append, List.count_append]
  -- the prefixes of the rest are those of the whole, less their first character
  constructor
  · rintro ⟨htotal, hfront⟩
    rw [hcount, hcount] at htotal
    refine ⟨by omega, fun i => ?_⟩
    have := hfront (i + 1)
    rw [count_take_succ, count_take_succ] at this
    omega
  · rintro ⟨htotal, hfront⟩
    refine ⟨by rw [hcount, hcount]; omega, fun i => ?_⟩
    cases i with
    | zero => simp
    | succ i =>
      have := hfront i
      rw [count_take_succ, count_take_succ]
      omega

/-! ## Places -/

/-- The places from a position on at which a character stands behind balanced text. -/
def stops (c : Char) (text : List Char) (position : Nat) : Set Nat :=
  {i | position ≤ i ∧ text[i]? = some c ∧ IsBalanced (text.extract position i)}

/-- The places from a position on at which a brace opens. -/
def openings (text : List Char) (position : Nat) : Set Nat :=
  {i | position ≤ i ∧ text[i]? = some '\x7b'}

/-- The places behind a brace up to which, from the brace on, as many braces close as open. -/
def closings (text : List Char) (brace : Nat) : Set Nat :=
  {e | brace < e ∧
    (text.extract brace e).count '\x7d' = (text.extract brace e).count '\x7b'}

/-- Where a declaration without a block ends, by the places at which a semicolon or a closing brace
stands behind balanced text: behind the semicolon or before the brace, whichever comes first, and
with the text if there is neither. -/
inductive ScanEnd (semicolons braces : Set Nat) (length : Nat) : Nat → Prop where
  | semicolon {i : Nat} (h : IsLeast semicolons i) (hfirst : ∀ j ∈ braces, i < j) :
      ScanEnd semicolons braces length (i + 1)
  | brace {i : Nat} (h : IsLeast braces i) (hfirst : ∀ j ∈ semicolons, i < j) :
      ScanEnd semicolons braces length i
  | missing (hsemicolons : semicolons = ∅) (hbraces : braces = ∅) :
      ScanEnd semicolons braces length length

/-- The first of some places, or the end of the text if there is none. -/
def FirstOf (places : Set Nat) (length : Nat) (e : Nat) : Prop :=
  IsLeast places e ∨ places = ∅ ∧ e = length

theorem ScanEnd.unique {semicolons braces : Set Nat} {length e f : Nat}
    (he : ScanEnd semicolons braces length e) (hf : ScanEnd semicolons braces length f) :
    e = f := by
  cases he with
  | semicolon h hfirst =>
    cases hf with
    | semicolon h' _ => rw [h.unique h']
    | brace h' hfirst' => exact absurd (hfirst _ h'.1) (Nat.lt_asymm (hfirst' _ h.1))
    | missing hsemicolons _ => exact absurd h.1 (hsemicolons ▸ Set.notMem_empty _)
  | brace h hfirst =>
    cases hf with
    | semicolon h' hfirst' => exact absurd (hfirst _ h'.1) (Nat.lt_asymm (hfirst' _ h.1))
    | brace h' _ => exact h.unique h'
    | missing _ hbraces => exact absurd h.1 (hbraces ▸ Set.notMem_empty _)
  | missing hsemicolons hbraces =>
    cases hf with
    | semicolon h' _ => exact absurd h'.1 (hsemicolons ▸ Set.notMem_empty _)
    | brace h' _ => exact absurd h'.1 (hbraces ▸ Set.notMem_empty _)
    | missing _ _ => rfl

theorem FirstOf.unique {places : Set Nat} {length e f : Nat} (he : FirstOf places length e)
    (hf : FirstOf places length f) : e = f := by
  rcases he with he | ⟨hempty, rfl⟩
  · rcases hf with hf | ⟨hempty, -⟩
    · exact he.unique hf
    · exact absurd he.1 (hempty ▸ Set.notMem_empty _)
  · rcases hf with hf | ⟨-, rfl⟩
    · exact absurd hf.1 (hempty ▸ Set.notMem_empty _)
    · rfl

theorem isLeast_shift_iff {places : Set Nat} (k : Nat) {i : Nat} :
    IsLeast ((k + ·) '' places) (k + i) ↔ IsLeast places i :=
  StrictMono.map_isLeast fun _ _ h => Nat.add_lt_add_left h k

/-- A piece of text in front moves all places. -/
theorem ScanEnd.shift {semicolons braces : Set Nat} {length e : Nat}
    (h : ScanEnd semicolons braces length e) (k : Nat) :
    ScanEnd ((k + ·) '' semicolons) ((k + ·) '' braces) (k + length) (k + e) := by
  have hlater : ∀ {places : Set Nat} {i : Nat}, (∀ j ∈ places, i < j) →
      ∀ j ∈ (k + ·) '' places, k + i < j := by
    rintro places i hfirst _ ⟨j, hj, rfl⟩
    exact Nat.add_lt_add_left (hfirst j hj) k
  cases h with
  | semicolon h hfirst => exact .semicolon ((isLeast_shift_iff k).mpr h) (hlater hfirst)
  | brace h hfirst => exact .brace ((isLeast_shift_iff k).mpr h) (hlater hfirst)
  | missing hsemicolons hbraces =>
    rw [hsemicolons, hbraces, Set.image_empty]
    exact .missing rfl rfl

theorem FirstOf.shift {places : Set Nat} {length e : Nat} (h : FirstOf places length e) (k : Nat) :
    FirstOf ((k + ·) '' places) (k + length) (k + e) := by
  rcases h with h | ⟨rfl, rfl⟩
  · exact .inl ((isLeast_shift_iff k).mpr h)
  · exact .inr ⟨Set.image_empty _, rfl⟩

/-- Places that all lie behind a piece of text are the places in what follows it. -/
theorem eq_shift {places inner : Set Nat} {k : Nat} (hbehind : ∀ i ∈ places, k ≤ i)
    (h : ∀ i, k + i ∈ places ↔ i ∈ inner) : places = (k + ·) '' inner := by
  ext i
  constructor
  · intro hi
    obtain ⟨j, rfl⟩ := Nat.exists_eq_add_of_le (hbehind i hi)
    exact ⟨j, (h j).mp hi, rfl⟩
  · rintro ⟨j, hj, rfl⟩
    exact (h j).mpr hj

/-! ## Scans

Both scans are followed with `depth` braces open. A character that does not end the scan leads to
the next depth and moves the places behind it by one. -/

theorem positionOf_cons (c : Char) {text rest : List Char} (h : rest <:+ text) :
    positionOf (c :: text) rest = 1 + positionOf text rest := by
  have := h.length_le
  simp only [positionOf, List.length_cons]
  omega

/-- The places of a text at which a character stands when `depth` open braces have been closed. -/
def stopsAt (depth : Nat) (c : Char) (text : List Char) : Set Nat :=
  {i | text[i]? = some c ∧ Closes depth (text.take i)}

/-- The places of a text up to which `depth` open braces and one more have been closed. -/
def closesAt (depth : Nat) (text : List Char) : Set Nat :=
  {e | (text.take e).count '\x7d' = depth + 1 + (text.take e).count '\x7b'}

theorem stopsAt_nil (depth : Nat) (c : Char) : stopsAt depth c [] = ∅ := by
  ext i
  simp [stopsAt]

theorem closesAt_nil (depth : Nat) : closesAt depth [] = ∅ := by
  ext e
  simp [closesAt]

theorem stopsAt_cons {depth next : Nat} {c d : Char} (hleads : Leads depth d next)
    (hstop : d = c → depth ≠ 0) (rest : List Char) :
    stopsAt depth c (d :: rest) = (1 + ·) '' stopsAt next c rest := by
  refine eq_shift ?_ fun i => ?_
  · rintro (_ | i) ⟨hc, hclosed⟩
    · exact absurd (closes_nil_iff.mp hclosed) (hstop (by simpa using hc))
    · omega
  · rw [Nat.add_comm 1 i]
    exact and_congr (by simp) (closes_cons_iff hleads)

theorem closesAt_cons {depth next : Nat} {c : Char} (hleads : Leads depth c next)
    (rest : List Char) : closesAt depth (c :: rest) = (1 + ·) '' closesAt next rest := by
  have hc : next + [c].count '\x7d' = depth + [c].count '\x7b' := hleads
  refine eq_shift ?_ fun e => ?_
  · rintro (_ | e) he
    · simp [closesAt] at he
    · omega
  · show (_ : List Char).count _ = _ ↔ (_ : List Char).count _ = _
    rw [Nat.add_comm 1 e, count_take_succ, count_take_succ]
    omega

/-- A place at the start of a text is the least of all. -/
theorem isLeast_zero {places : Set Nat} (h : 0 ∈ places) : IsLeast places 0 :=
  ⟨h, fun i _ => Nat.zero_le i⟩

/-- A text that begins with one character stops at no other one there. -/
theorem pos_of_mem_stopsAt {depth : Nat} {c d : Char} (h : d ≠ c) {rest : List Char} :
    ∀ i ∈ stopsAt depth c (d :: rest), 0 < i := by
  rintro (_ | i) ⟨hc, -⟩
  · exact absurd (by simpa using hc) h
  · exact Nat.succ_pos i

/-- A character that ends no scan moves the end by one. -/
theorem scanEnd_cons {depth next : Nat} {c : Char} {rest after : List Char}
    (hleads : Leads depth c next) (hstop : c = ';' ∨ c = '\x7d' → depth ≠ 0)
    (hafter : after <:+ rest)
    (h : ScanEnd (stopsAt next ';' rest) (stopsAt next '\x7d' rest) rest.length
      (positionOf rest after)) :
    ScanEnd (stopsAt depth ';' (c :: rest)) (stopsAt depth '\x7d' (c :: rest)) (c :: rest).length
      (positionOf (c :: rest) after) := by
  rw [stopsAt_cons hleads fun hc => hstop (.inl hc), stopsAt_cons hleads fun hc => hstop (.inr hc),
    positionOf_cons c hafter, List.length_cons, Nat.add_comm rest.length 1]
  exact h.shift 1

/-- The scan for a terminator, with some braces open. -/
theorem scanEnd_afterTerminator (depth : Nat) (text : List Char) :
    ScanEnd (stopsAt depth ';' text) (stopsAt depth '\x7d' text) text.length
      (positionOf text (afterTerminator depth text)) := by
  -- along the scan: each character moves the places behind it, unless the scan stops at it
  fun_induction afterTerminator depth text with
  | case1 depth => exact .missing (stopsAt_nil _ _) (stopsAt_nil _ _)
  | case2 depth rest ih =>
    exact scanEnd_cons (leads_open depth) (by simp) (afterTerminator_suffix _ _) ih
  | case3 rest =>
    -- a brace that closes what was not opened
    have hhere : IsLeast (stopsAt 0 '\x7d' ('\x7d' :: rest)) 0 :=
      isLeast_zero ⟨rfl, closes_nil_iff.mpr rfl⟩
    rw [positionOf, Nat.sub_self]
    exact .brace hhere (pos_of_mem_stopsAt (by decide))
  | case4 rest outer _ ih =>
    exact scanEnd_cons (leads_close outer) (fun _ => Nat.succ_ne_zero outer)
      (afterTerminator_suffix _ _) ih
  | case5 depth c rest hopen hclose hends =>
    obtain ⟨rfl, rfl⟩ := hends
    have hhere : IsLeast (stopsAt 0 ';' (';' :: rest)) 0 :=
      isLeast_zero ⟨rfl, closes_nil_iff.mpr rfl⟩
    rw [positionOf_cons _ (List.suffix_refl rest), positionOf, Nat.sub_self]
    exact .semicolon hhere (pos_of_mem_stopsAt (by decide))
  | case6 depth c rest hopen hclose hends ih =>
    refine scanEnd_cons (leads_other hopen hclose depth) ?_ (afterTerminator_suffix _ _) ih
    rintro (hc | hc) hdepth
    · exact hends ⟨hc, hdepth⟩
    · exact hclose hc

/-- The scan for the end of a block, with some braces open inside of it. -/
theorem firstOf_afterClosing (depth : Nat) (text : List Char) :
    FirstOf (closesAt depth text) text.length (positionOf text (afterClosing depth text)) := by
  -- a character that ends nothing moves all places by one
  have hcons : ∀ {depth next : Nat} {c : Char} {rest : List Char}, Leads depth c next →
      FirstOf (closesAt next rest) rest.length (positionOf rest (afterClosing next rest)) →
      FirstOf (closesAt depth (c :: rest)) (c :: rest).length
        (positionOf (c :: rest) (afterClosing next rest)) := by
    intro depth next c rest hleads h
    rw [closesAt_cons hleads, positionOf_cons c (afterClosing_suffix _ _), List.length_cons,
      Nat.add_comm rest.length 1]
    exact h.shift 1
  fun_induction afterClosing depth text with
  | case1 depth => exact .inr ⟨closesAt_nil depth, rfl⟩
  | case2 depth rest ih => exact hcons (leads_open depth) ih
  | case3 rest =>
    -- the brace itself closes the block, and no place comes before it
    rw [positionOf_cons _ (List.suffix_refl rest), positionOf, Nat.sub_self]
    refine .inl ⟨by simp [closesAt], ?_⟩
    rintro (_ | e) he
    · simp [closesAt] at he
    · omega
  | case4 rest outer _ ih => exact hcons (leads_close outer) ih
  | case5 depth c rest hopen hclose ih => exact hcons (leads_other hopen hclose depth) ih

/-! ## Positions -/

variable {text : List Char} {position o e : Nat}

theorem stops_eq_shift (c : Char) (text : List Char) (position : Nat) :
    stops c text position = (position + ·) '' stopsAt 0 c (text.drop position) := by
  refine eq_shift (fun i hi => hi.1) fun i => ?_
  show _ ∧ _ ∧ IsBalanced (text.extract position (position + i)) ↔ _ ∧ Closes 0 _
  rw [closes_zero_iff, List.getElem?_drop, List.extract_eq_take_drop, Nat.add_sub_cancel_left]
  simp

theorem positionOf_drop (hposition : position ≤ text.length) {rest : List Char}
    (h : rest <:+ text.drop position) :
    positionOf text rest = position + positionOf (text.drop position) rest := by
  have := h.length_le
  simp only [positionOf, List.length_drop] at *
  omega

theorem scanEnd_terminatorEnd (text : List Char) (position : Nat) :
    ScanEnd (stops ';' text position) (stops '\x7d' text position) text.length
      (terminatorEnd text position) := by
  rcases Nat.le_total position text.length with hposition | hposition
  · have hlength : position + (text.drop position).length = text.length := by
      rw [List.length_drop]
      omega
    -- the scan of what is left, moved to where it begins in the text
    have hscan := (scanEnd_afterTerminator 0 (text.drop position)).shift position
    rw [← stops_eq_shift, ← stops_eq_shift, hlength,
      ← positionOf_drop hposition (afterTerminator_suffix _ _)] at hscan
    exact hscan
  · -- nothing is left to read
    have hdrop : text.drop position = [] := List.drop_eq_nil_of_le hposition
    have hstops : ∀ c, stops c text position = ∅ := by
      intro c
      rw [stops_eq_shift, hdrop, stopsAt_nil, Set.image_empty]
    have hend : terminatorEnd text position = text.length := by
      rw [terminatorEnd, hdrop]
      rfl
    rw [hstops, hstops, hend]
    exact .missing rfl rfl

/-- Without a block, the scan for one looks for a terminator. -/
theorem blockEnd_of_openings_eq_empty (h : openings text position = ∅) :
    blockEnd text position = terminatorEnd text position := by
  have hnone : (text.drop position).dropWhile (· != '\x7b') = [] := by
    rw [List.dropWhile_eq_nil_iff]
    intro c hc
    rw [bne_iff_ne]
    rintro rfl
    obtain ⟨i, hi⟩ := List.mem_iff_getElem?.mp hc
    rw [List.getElem?_drop] at hi
    have hmem : position + i ∈ openings text position := ⟨Nat.le_add_right _ _, hi⟩
    exact Set.notMem_empty _ (h ▸ hmem)
  rw [blockEnd, afterBlock, hnone]
  rfl

theorem drop_of_opening (h : text[o]? = some '\x7b') :
    text.drop o = '\x7b' :: text.drop (o + 1) := by
  rw [List.drop_eq_getElem?_toList_append, h]
  rfl

/-- The scan for a block goes on behind the first brace that opens. -/
theorem afterBlock_of_isLeast (h : IsLeast (openings text position) o) :
    afterBlock (text.drop position) = afterClosing 0 (text.drop (o + 1)) := by
  obtain ⟨⟨hposition, hopen⟩, hleast⟩ := h
  -- the text is cut at the brace, before which no other one opens
  have hsplit : text.drop position =
      (text.drop position).take (o - position) ++ '\x7b' :: text.drop (o + 1) := by
    have hdrop : (text.drop position).drop (o - position) = text.drop o := by
      rw [List.drop_drop, Nat.add_sub_cancel' hposition]
    rw [← drop_of_opening hopen, ← hdrop, List.take_append_drop]
  have hbefore : ∀ c ∈ (text.drop position).take (o - position), (c != '\x7b') = true := by
    intro c hc
    rw [bne_iff_ne]
    rintro rfl
    obtain ⟨i, hi, hbrace⟩ := List.mem_take_iff_getElem.mp hc
    have hmem : position + i ∈ openings text position :=
      ⟨Nat.le_add_right _ _, List.getElem?_drop .. ▸ List.getElem?_eq_some_iff.mpr ⟨_, hbrace⟩⟩
    have := hleast hmem
    omega
  rw [afterBlock, hsplit, List.dropWhile_append_of_pos hbefore]
  rfl

theorem extract_of_opening (h : text[o]? = some '\x7b') (i : Nat) :
    text.extract o (o + 1 + i) = '\x7b' :: (text.drop (o + 1)).take i := by
  rw [List.extract_eq_take_drop, drop_of_opening h, show o + 1 + i - o = i + 1 by omega,
    List.take_succ_cons]

theorem closings_eq_shift (h : text[o]? = some '\x7b') :
    closings text o = (o + 1 + ·) '' closesAt 0 (text.drop (o + 1)) := by
  refine eq_shift (fun e he => he.1) fun e => ?_
  show o < o + 1 + e ∧ (text.extract o (o + 1 + e)).count _ = (text.extract o (o + 1 + e)).count _ ↔
    (_ : List Char).count _ = 0 + 1 + (_ : List Char).count _
  rw [extract_of_opening h, List.count_cons_self, List.count_cons_of_ne (by decide)]
  omega

/-- A block begins with the first brace that opens and ends with the brace that closes it. -/
theorem firstOf_blockEnd (h : IsLeast (openings text position) o) :
    FirstOf (closings text o) text.length (blockEnd text position) := by
  have hopen : text[o]? = some '\x7b' := h.1.2
  have hlength : o + 1 ≤ text.length := (List.getElem?_eq_some_iff.mp hopen).1
  have hrest : o + 1 + (text.drop (o + 1)).length = text.length := by
    rw [List.length_drop]
    omega
  have hscan := (firstOf_afterClosing 0 (text.drop (o + 1))).shift (o + 1)
  rw [← closings_eq_shift hopen, hrest, ← positionOf_drop hlength (afterClosing_suffix _ _),
    ← afterBlock_of_isLeast h] at hscan
  exact hscan

/-! ## Blocks -/

/-- Up to the first place where `depth` open braces and one more have been closed, no other brace is
closed that was not opened. -/
theorem closes_of_isLeast {depth : Nat} (h : IsLeast (closesAt depth text) e) :
    Closes (depth + 1) (text.take e) := by
  -- along the places: the count of closing braces cannot pass its bound without meeting it
  have hfront : ∀ i ≤ e, (text.take i).count '\x7d' ≤ depth + 1 + (text.take i).count '\x7b' := by
    intro i
    induction i with
    | zero => simp
    | succ i ih =>
      intro hi
      -- the bound was not met before, and one character closes one brace at most
      have hearlier : i ∉ closesAt depth text := fun hmem => absurd (h.2 hmem) (by omega)
      have hne : (text.take i).count '\x7d' ≠ depth + 1 + (text.take i).count '\x7b' := hearlier
      have hle := ih (by omega)
      have hone : (text[i]?.toList).count '\x7d' ≤ 1 := by
        cases text[i]? with
        | none => simp
        | some c => exact List.count_le_length
      rw [List.take_add_one, List.count_append, List.count_append]
      omega
  refine ⟨h.1, fun i => ?_⟩
  rw [List.take_take]
  exact hfront _ (Nat.min_le_right i e)

/-- From a brace to the first place up to which as many braces are closed as opened, the text is a
block. -/
theorem isBlock_of_isLeast (hopen : text[o]? = some '\x7b') (h : IsLeast (closings text o) e) :
    IsBlock (text.extract o e) := by
  constructor
  case balanced =>
    have hshift := h
    rw [closings_eq_shift hopen] at hshift
    obtain ⟨k, hk, rfl⟩ := hshift.1
    have hclosed : Closes 1 ((text.drop (o + 1)).take k) :=
      closes_of_isLeast ((isLeast_shift_iff (o + 1)).mp hshift)
    rw [extract_of_opening hopen]
    exact closes_zero_iff.mp ((closes_cons_iff (leads_open 0)).mpr hclosed)
  case minimal =>
    intro front hbegins hne hwhole hbalanced
    have hfront : text.extract o (o + front.length) = front := by
      have hlength := hbegins.length_le
      rw [List.length_take] at hlength
      rw [List.extract_eq_take_drop, Nat.add_sub_cancel_left]
      conv_rhs => rw [List.prefix_iff_eq_take.mp hbegins, List.take_take]
      rw [Nat.min_eq_left (by omega)]
    have hlater : o < o + front.length :=
      Nat.lt_add_of_pos_right (List.length_pos_iff.mpr hne)
    -- the shorter text would have been closed before
    have hmem : o + front.length ∈ closings text o :=
      ⟨hlater, by rw [hfront]; exact hbalanced.total⟩
    have hle : e ≤ o + front.length := h.2 hmem
    refine hwhole (hbegins.eq_of_length ?_)
    have hlength := hbegins.length_le
    rw [List.length_take] at hlength ⊢
    omega

/-! ## Ends of declarations -/

/-- Where the scans of a text stop. A terminator ends behind the first semicolon, or before the
first closing brace, that stands behind balanced text, and with the text if there is neither. A block
ends at the first place behind the brace that opens it up to which as many braces close as open, and
with the text if there is none; up to that place it is balanced and no shorter part of it is. Without
a brace that opens, a block ends as a terminator does. -/
theorem declaration_ends (text : List Char) (position : Nat) :
    (∀ e, terminatorEnd text position = e ↔
      ScanEnd (stops ';' text position) (stops '\x7d' text position) text.length e) ∧
    (∀ o, IsLeast (openings text position) o →
      (∀ e, blockEnd text position = e ↔ FirstOf (closings text o) text.length e) ∧
      ∀ e, IsLeast (closings text o) e → IsBlock (text.extract o e)) ∧
    (openings text position = ∅ → blockEnd text position = terminatorEnd text position) := by
  have hterminator := scanEnd_terminatorEnd text position
  refine ⟨fun e => ⟨?_, hterminator.unique⟩, fun o ho => ⟨fun e => ⟨?_, ?_⟩, fun e he => ?_⟩,
    blockEnd_of_openings_eq_empty⟩
  · rintro rfl
    exact hterminator
  · rintro rfl
    exact firstOf_blockEnd ho
  · exact (firstOf_blockEnd ho).unique
  · exact isBlock_of_isLeast ho.1.2 he

/-- A block with another one in it, and behind it a terminator. -/
theorem declaration_ends_nested :
    let text := "f \x7b g; \x7b \x7d \x7d h; \x7d".toList
    IsLeast (openings text 0) 2 ∧ IsLeast (closings text 2) 12 ∧ IsBlock (text.extract 2 12) ∧
      blockEnd text 0 = 12 ∧ terminatorEnd text 0 = 15 ∧
      ScanEnd (stops ';' text 0) (stops '\x7d' text 0) 17 15 := by
  intro text
  have hopening : IsLeast (openings text 0) 2 := by
    refine ⟨⟨Nat.zero_le 2, rfl⟩, ?_⟩
    rintro (_ | _ | i) ⟨-, hi⟩
    · exact absurd hi (by decide)
    · exact absurd hi (by decide)
    · omega
  obtain ⟨hterminator, hblock, -⟩ := declaration_ends text 0
  obtain ⟨hend, hmatched⟩ := hblock 2 hopening
  have hclosing : IsLeast (closings text 2) 12 := by
    rcases (hend 12).mp (by decide) with hleast | ⟨-, hlength⟩
    · exact hleast
    · exact absurd hlength (by decide)
  exact ⟨hopening, hclosing, hmatched 12 hclosing, by decide, by decide,
    (hterminator 15).mp (by decide)⟩

end Ambient.Sweep
