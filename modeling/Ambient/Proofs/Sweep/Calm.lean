/-
  Ambient.Proofs.Sweep.Calm

  Texts in which no declaration begins and whose braces are in balance. A text is calm if no word
  begins it, and quiet if no word follows a place in it where a declaration could begin. Types are
  written in tame texts, which are quiet, on one line and in balance.
-/
import Ambient.Proofs.Declaration.Layout
import Ambient.Proofs.Declaration.TypeText
import Ambient.Sweep.Removal

namespace Ambient.Sweep

/-! ## Calm and quiet texts -/

/-- Whether no word begins a text: its first character apart from spaces and tabs, if there is one,
is no character of a name. -/
def isCalm : List Char → Bool
  | [] => true
  | c :: rest => if Text.isSpaceOrTab c then isCalm rest else !Text.isNameChar c

/-- Whether no word follows a character of a text after which a declaration could begin. -/
def isQuiet : List Char → Bool
  | [] => true
  | c :: rest => (!isAnchor c || isCalm rest) && isQuiet rest

theorem isQuiet_cons {c : Char} {rest : List Char} :
    isQuiet (c :: rest) = true ↔
      (isAnchor c = true → isCalm rest = true) ∧ isQuiet rest = true := by
  rw [isQuiet, Bool.and_eq_true]
  cases isAnchor c <;> simp

theorem isCalm_append {s t : List Char} (hs : isCalm s = true) (ht : isCalm t = true) :
    isCalm (s ++ t) = true := by
  induction s with
  | nil => exact ht
  | cons c rest ih =>
    rw [List.cons_append, isCalm] at *
    split
    · rename_i hspace
      exact ih (by simpa [hspace] using hs)
    · rename_i hspace
      simpa [hspace] using hs

theorem isCalm_of_isSpaceOrTab {s : List Char} (h : ∀ c ∈ s, Text.isSpaceOrTab c = true) :
    isCalm s = true := by
  induction s with
  | nil => rfl
  | cons c rest ih =>
    rw [isCalm, if_pos (h c (by simp))]
    exact ih fun d hd => h d (by simp [hd])

theorem isQuiet_append {s t : List Char} (hs : isQuiet s = true) (ht : isQuiet t = true)
    (hcalm : isCalm t = true) : isQuiet (s ++ t) = true := by
  induction s with
  | nil => exact ht
  | cons c rest ih =>
    obtain ⟨hanchor, hrest⟩ := isQuiet_cons.mp hs
    exact isQuiet_cons.mpr ⟨fun hc => isCalm_append (hanchor hc) hcalm, ih hrest⟩

/-- What follows a text without anchors may begin with a word. -/
theorem isQuiet_append_of_plain {s t : List Char} (hs : ∀ c ∈ s, isAnchor c = false)
    (ht : isQuiet t = true) : isQuiet (s ++ t) = true := by
  induction s with
  | nil => exact ht
  | cons c rest ih =>
    have hc : isAnchor c = false := hs c (by simp)
    simp [isQuiet, hc, ih fun d hd => hs d (by simp [hd])]

/-! ## Balance -/

theorem afterClosing_open (depth : Nat) (rest : List Char) :
    afterClosing depth ('\x7b' :: rest) = afterClosing (depth + 1) rest := by
  simp [afterClosing]

theorem afterClosing_close (depth : Nat) (rest : List Char) :
    afterClosing (depth + 1) ('\x7d' :: rest) = afterClosing depth rest := by
  simp [afterClosing]

theorem afterClosing_last (rest : List Char) : afterClosing 0 ('\x7d' :: rest) = rest := by
  simp [afterClosing]

theorem afterClosing_other {c : Char} (hopen : c ≠ '\x7b') (hclose : c ≠ '\x7d') (depth : Nat)
    (rest : List Char) : afterClosing depth (c :: rest) = afterClosing depth rest := by
  simp [afterClosing, hopen, hclose]

/-- Whether the end of a block does not depend on a text inside it. -/
def IsNeutral (t : List Char) : Prop :=
  ∀ depth rest, afterClosing depth (t ++ rest) = afterClosing depth rest

namespace IsNeutral

theorem nil : IsNeutral [] :=
  fun _ _ => rfl

theorem append {s t : List Char} (hs : IsNeutral s) (ht : IsNeutral t) : IsNeutral (s ++ t) := by
  intro depth rest
  rw [List.append_assoc, hs, ht]

theorem cons {c : Char} {t : List Char} (hopen : c ≠ '\x7b') (hclose : c ≠ '\x7d')
    (ht : IsNeutral t) : IsNeutral (c :: t) := by
  intro depth rest
  rw [List.cons_append, afterClosing_other hopen hclose, ht]

theorem of_plain {t : List Char} (h : ∀ c ∈ t, isAnchor c = false) : IsNeutral t := by
  induction t with
  | nil => exact nil
  | cons c rest ih =>
    have hc : isAnchor c = false := h c (by simp)
    refine cons ?_ ?_ (ih fun d hd => h d (by simp [hd]))
    · rintro rfl
      exact absurd hc (by decide)
    · rintro rfl
      exact absurd hc (by decide)

/-- Braces around a neutral text are in balance. -/
theorem braces {t : List Char} (ht : IsNeutral t) : IsNeutral ('\x7b' :: (t ++ ['\x7d'])) := by
  intro depth rest
  rw [List.cons_append, afterClosing_open, List.append_assoc, ht, List.singleton_append,
    afterClosing_close]

end IsNeutral

/-! ## Tame texts -/

/-- A character after which no declaration can begin and which breaks no line. -/
def isPlain (c : Char) : Bool :=
  !isAnchor c && c != '\r'

theorem isAnchor_of_isPlain {c : Char} (h : isPlain c = true) : isAnchor c = false := by
  simp only [isPlain, Bool.and_eq_true, Bool.not_eq_true'] at h
  exact h.1

theorem isPlain_of_isNameChar {c : Char} (h : Text.isNameChar c = true) : isPlain c = true := by
  have hne : ∀ d : Char, Text.isNameChar d = false → c ≠ d := by
    rintro d hd rfl
    rw [h] at hd
    cases hd
  simp [isPlain, isAnchor, hne '\n' (by decide), hne ';' (by decide), hne '\x7b' (by decide),
    hne '\x7d' (by decide), hne '\r' (by decide)]

/-- A text on one line with balanced braces in which no declaration begins. -/
structure IsTame (t : List Char) : Prop where
  oneLine : ∀ c, Declaration.IsBreak c → c ∉ t
  neutral : IsNeutral t
  quiet : isQuiet t = true

namespace IsTame

theorem of_plain {t : List Char} (h : ∀ c ∈ t, isPlain c = true) : IsTame t where
  oneLine c hc hmem := by
    have := h c hmem
    rcases hc with rfl | rfl <;> exact absurd this (by decide)
  neutral := .of_plain fun c hc => isAnchor_of_isPlain (h c hc)
  quiet := by
    have := isQuiet_append_of_plain (t := []) (fun c hc => isAnchor_of_isPlain (h c hc)) rfl
    rwa [List.append_nil] at this

theorem of_all {t : List Char} (h : t.all isPlain = true) : IsTame t :=
  of_plain (List.all_eq_true.mp h)

theorem append {s t : List Char} (hs : IsTame s) (ht : IsTame t) (hcalm : isCalm t = true) :
    IsTame (s ++ t) where
  oneLine c hc hmem := by
    rcases List.mem_append.mp hmem with h | h
    · exact hs.oneLine c hc h
    · exact ht.oneLine c hc h
  neutral := hs.neutral.append ht.neutral
  quiet := isQuiet_append hs.quiet ht.quiet hcalm

theorem plain_append {s t : List Char} (hs : ∀ c ∈ s, isPlain c = true) (ht : IsTame t) :
    IsTame (s ++ t) where
  oneLine c hc hmem := by
    rcases List.mem_append.mp hmem with h | h
    · exact (of_plain hs).oneLine c hc h
    · exact ht.oneLine c hc h
  neutral := (of_plain hs).neutral.append ht.neutral
  quiet := isQuiet_append_of_plain (fun c hc => isAnchor_of_isPlain (hs c hc)) ht.quiet

theorem all_append {s t : List Char} (hs : s.all isPlain = true) (ht : IsTame t) :
    IsTame (s ++ t) :=
  plain_append (List.all_eq_true.mp hs) ht

/-- Braces with a space inside them around a tame text. -/
theorem braces {t : List Char} (ht : IsTame t) (hcalm : isCalm t = true) :
    IsTame ('\x7b' :: (t ++ ['\x7d'])) where
  oneLine c hc hmem := by
    have hinner := ht.oneLine c hc
    rcases hc with rfl | rfl <;> simp [hinner] at hmem
  neutral := ht.neutral.braces
  quiet := by
    have hclose : isQuiet (t ++ ['\x7d']) = true := isQuiet_append ht.quiet rfl rfl
    have hstart : isCalm (t ++ ['\x7d']) = true := isCalm_append hcalm rfl
    simp [isQuiet, hclose, hstart]

/-- Tame texts with commas between them. -/
theorem joinWith {ts : List (List Char)} (h : ∀ t ∈ ts, IsTame t) :
    IsTame (Text.joinWith [',', ' '] ts) := by
  induction ts with
  | nil => exact of_plain (by simp [Text.joinWith])
  | cons t rest ih =>
    by_cases hrest : rest = []
    · subst hrest
      exact h t (by simp)
    · rw [Text.joinWith_cons hrest, List.append_assoc]
      refine append (h t (by simp)) ?_ rfl
      exact all_append (by decide) (ih fun s hs => h s (by simp [hs]))

end IsTame

/-! ## Texts of types -/

theorem isTame_of_identifier {s : String} (h : NameRule.identifiers.name s = true) :
    IsTame s.toList :=
  .of_plain fun _ hc => isPlain_of_isNameChar (Text.isNameChar_of_mem h hc)

theorem isPlain_of_mem_scope {s : String} (h : NameRule.identifiers.scope s = true) :
    ∀ c ∈ s.toList, isPlain c = true := by
  intro c hc
  rcases Text.isNameChar_or_dot_of_mem h hc with hchar | rfl
  · exact isPlain_of_isNameChar hchar
  · decide

/-- Types with identifiers for their names are written in tame texts. -/
theorem closed_isTame : TypeExpr.Closed .identifiers fun t => IsTame t.toList := by
  have hjoin : ∀ {ts : List String}, (∀ t ∈ ts, IsTame t.toList) →
      IsTame (String.joinWith ", " ts).toList := by
    intro ts hts
    rw [String.toList_joinWith]
    refine IsTame.joinWith fun t ht => ?_
    obtain ⟨s, hs, rfl⟩ := List.mem_map.mp ht
    exact hts s hs
  constructor
  case word =>
    intro w hw
    refine .of_all ?_
    revert w
    decide
  case name => exact fun h => isTame_of_identifier h
  case array =>
    intro t ht
    rw [String.toList_append]
    exact ht.append (.of_all (by decide)) (by decide)
  case tuple =>
    intro ts hts
    rw [String.toList_append, String.toList_append, List.append_assoc]
    exact .all_append (by decide) ((hjoin hts).append (.of_all (by decide)) (by decide))
  -- braces are written around maps only; the space inside them keeps words away
  case map =>
    intro k v hk hv
    have hinner : IsTame
        (" [key: ".toList ++ (k.toList ++ ("]: ".toList ++ (v.toList ++ [' '])))) :=
      .all_append (by decide) (hk.append
        (.all_append (by decide) (hv.append (.of_all (by decide)) (by decide))) rfl)
    have hbraces := hinner.braces rfl
    simpa using hbraces
  case applied =>
    intro n ts hn hts
    simp only [String.toList_append, List.append_assoc]
    refine hn.append (.all_append (by decide) ?_) rfl
    exact (hjoin hts).append (.of_all (by decide)) (by decide)
  case qualified =>
    intro s t hs ht
    rw [String.toList_append, String.toList_append, List.append_assoc]
    exact .plain_append (isPlain_of_mem_scope hs) (.all_append (by decide) ht)
  case nullable =>
    intro t ht
    rw [String.toList_append]
    exact ht.append (.of_all (by decide)) (by decide)

/-! ## Breaks -/

section Breaks

variable {c : Char} (hc : Declaration.IsBreak c)

include hc

theorem isNameChar_break : Text.isNameChar c = false := by
  rcases hc with rfl | rfl <;> decide

/-- Spaces and tabs are no breaks. -/
theorem break_notMem_indent {indent : String}
    (h : ∀ d ∈ indent.toList, Text.isSpaceOrTab d = true) : c ∉ indent.toList := by
  intro hmem
  have hspace := h c hmem
  rcases hc with rfl | rfl <;> exact absurd hspace (by decide)

/-- No line of a declaration with tame types holds a break. -/
theorem break_notMem_declarationLines {margin indent : String}
    (hmargin : ∀ d ∈ margin.toList, Text.isSpaceOrTab d = true)
    (hindent : ∀ d ∈ indent.toList, Text.isSpaceOrTab d = true) {d : Declaration}
    (hd : d.Obeys .identifiers fun t => IsTame t.toList) :
    ∀ line ∈ d.lines margin indent, c ∉ line.toList :=
  Declaration.break_notMem_lines
    (fun _ hs => NameRule.notMem_of_identifier hs (isNameChar_break hc)) hc
    (fun _ ht => ht.oneLine c hc) (break_notMem_indent hc hmargin)
    (break_notMem_indent hc hindent) hd

/-- No line of a block with tame types holds a break. -/
theorem break_notMem_blockLines {indent : String}
    (hindent : ∀ d ∈ indent.toList, Text.isSpaceOrTab d = true) {b : Block}
    (hb : b.Obeys .identifiers fun t => IsTame t.toList) :
    ∀ line ∈ b.lines indent, c ∉ line.toList := by
  have hdot : c ≠ '.' := by rcases hc with rfl | rfl <;> decide
  exact Block.break_notMem_lines hc
    (fun _ hs => NameRule.notMem_of_identifier hs (isNameChar_break hc))
    (fun _ hs => NameRule.notMem_of_dotted hs (isNameChar_break hc) hdot)
    (fun _ ht => ht.oneLine c hc) (break_notMem_indent hc hindent) hb

end Breaks

end Ambient.Sweep
