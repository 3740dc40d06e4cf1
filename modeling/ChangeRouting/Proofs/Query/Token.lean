import ChangeRouting.Query.Token
import Mathlib.Data.List.TakeWhile

/-!
# ChangeRouting.Proofs.Query.Token

The words of texts in which nothing is quoted.

* `isPlain` — the characters of plain words: letters, digits and underscores;
* `Scans` — these are the words of a text, whatever fuel there is;
* `Scans.word`, `Scans.space`, `Scans.point`, `Scans.comma` — a plain word, a blank, a point and a comma in front
  of a text add themselves to its words and change nothing else.
-/

namespace ChangeRouting.Query.Token

/-- A letter or digit of ASCII or an underscore. -/
def isPlain (c : Char) : Bool := c.isAlphanum || c = '_'

/-- A plain word begins with no digit. -/
def isPlainStart (c : Char) : Bool := c.isAlpha || c = '_'

section plain

variable {c other : Char}

theorem ne_of_isPlain (hc : isPlain c = true) (hother : isPlain other = false) : c ≠ other := by
  rintro rfl
  rw [hc] at hother
  contradiction

theorem isPlain_of_isPlainStart (hc : isPlainStart c = true) : isPlain c = true := by
  simp only [isPlainStart, isPlain, Char.isAlphanum, Bool.or_eq_true] at hc ⊢
  exact hc.imp_left Or.inl

theorem isWordChar_of_isPlain (hc : isPlain c = true) : isWordChar c = true := by
  simp only [isPlain, Char.isAlphanum, Bool.or_eq_true] at hc
  simp only [isWordChar, isWordStart, Bool.or_eq_true]
  rcases hc with (hletter | hdigit) | hmark
  · exact Or.inl (Or.inl (Or.inl (Or.inl hletter)))
  · exact Or.inl (Or.inr hdigit)
  · exact Or.inl (Or.inl (Or.inl (Or.inr hmark)))

theorem isWordStart_of_isPlainStart (hc : isPlainStart c = true) : isWordStart c = true := by
  rw [isPlainStart] at hc
  rw [isWordStart, hc, Bool.true_or]

theorem isDigit_of_isPlainStart (hc : isPlainStart c = true) : c.isDigit = false := by
  have hletters : c.isAlpha = (decide ('A'.val ≤ c.val ∧ c.val ≤ 'Z'.val) ||
      (decide ('a'.val ≤ c.val) && decide (c.val ≤ 'z'.val))) := rfl
  simp only [isPlainStart, hletters, Bool.or_eq_true, Bool.and_eq_true, decide_eq_true_eq,
    UInt32.le_iff_toNat_le] at hc
  simp only [Char.isDigit, Bool.and_eq_false_iff, decide_eq_false_iff_not, ge_iff_le, UInt32.le_iff_toNat_le,
    not_le]
  rcases hc with hletter | rfl
  · simp at hletter ⊢
    omega
  · decide

theorem isSpaceChar_of_isPlain (hc : isPlain c = true) : (isSpaceChar c || c = '\x0b') = false := by
  have hne (other : Char) (hother : isPlain other = false) : c ≠ other := ne_of_isPlain hc hother
  simp only [isSpaceChar, Bool.or_eq_false_iff, decide_eq_false_iff_not]
  exact ⟨⟨⟨⟨⟨hne ' ' rfl, hne '\t' rfl⟩, hne '\n' rfl⟩, hne '\x0c' rfl⟩, hne '\r' rfl⟩, hne '\x0b' rfl⟩

theorem isParameterMark_of_isPlain (hc : isPlain c = true) : isParameterMark c = false := by
  have hne (other : Char) (hother : isPlain other = false) : c ≠ other := ne_of_isPlain hc hother
  simp only [isParameterMark, Bool.or_eq_false_iff, decide_eq_false_iff_not]
  exact ⟨⟨⟨hne ':' rfl, hne '@' rfl⟩, hne '#' rfl⟩, hne '$' rfl⟩

end plain

/-- These are the words of a text, whatever fuel there is beyond its length. -/
structure Scans (s : List Char) (tokens : List Token) : Prop where
  whole : '\x00' ∉ s
  words : ∀ fuel, s.length ≤ fuel → scanFrom fuel s = some tokens

namespace Scans

variable {c : Char} {chars rest : List Char} {tokens : List Token}

theorem scan_eq (h : Scans rest tokens) : scan rest = some tokens := by
  have hwhole : rest.takeWhile (· ≠ '\x00') = rest :=
    List.takeWhile_eq_self_iff.2 fun c hc => decide_eq_true fun heq => h.whole (heq ▸ hc)
  rw [scan, hwhole]
  exact h.words _ le_rfl

theorem nil : Scans [] [] := ⟨List.not_mem_nil, fun fuel _ => by cases fuel <;> rfl⟩

/-- A blank in front of a word does not count. -/
theorem space (h : Scans (c :: rest) tokens) (hc : isPlain c = true) : Scans (' ' :: c :: rest) tokens := by
  refine ⟨by simpa using h.whole, fun fuel hfuel => ?_⟩
  cases fuel with
  | zero => exact absurd hfuel (Nat.not_succ_le_zero _)
  | succ fuel =>
      have hstops : (c :: rest).dropWhile (fun c => isSpaceChar c || c = '\x0b') = c :: rest :=
        List.dropWhile_cons_of_neg (by simp [isSpaceChar_of_isPlain hc])
      have hstep : scanFrom (fuel + 1) (' ' :: c :: rest) =
          scanFrom fuel ((c :: rest).dropWhile fun c => isSpaceChar c || c = '\x0b') := rfl
      rw [hstep, hstops]
      exact h.words fuel (Nat.le_of_succ_le_succ hfuel)

/-- A point in front of a word is one. -/
theorem point (h : Scans (c :: rest) tokens) (hc : isPlainStart c = true) :
    Scans ('.' :: c :: rest) (.symbol "." :: tokens) := by
  refine ⟨by simpa using h.whole, fun fuel hfuel => ?_⟩
  cases fuel with
  | zero => exact absurd hfuel (Nat.not_succ_le_zero _)
  | succ fuel =>
      have hnumber : ¬('.'.isDigit = true ∨ '.' = '.' ∧ (c :: rest).head?.any Char.isDigit = true) := by
        simp [isDigit_of_isPlainStart hc]
      rw [scanFrom, if_neg (by decide), if_neg (by decide), if_neg (by decide), if_neg (by decide),
        if_neg hnumber, if_neg (by decide), readSymbol, Option.bind_eq_bind, Option.bind_some]
      · simp only [h.words fuel (Nat.le_of_succ_le_succ hfuel)]
        rfl
      all_goals simp

/-- So is a comma. -/
theorem comma (h : Scans rest tokens) : Scans (',' :: rest) (.symbol "," :: tokens) := by
  refine ⟨by simpa using h.whole, fun fuel hfuel => ?_⟩
  cases fuel with
  | zero => exact absurd hfuel (Nat.not_succ_le_zero _)
  | succ fuel =>
      have hstep : scanFrom (fuel + 1) (',' :: rest) =
          (scanFrom fuel rest).bind fun words => some (.symbol "," :: words) := by
        rfl
      rw [hstep, h.words fuel (Nat.le_of_succ_le_succ hfuel)]
      rfl

/-- A plain word goes on to the next character that is none of a word. -/
theorem word (h : Scans rest tokens) (hc : isPlainStart c = true) (hchars : ∀ d ∈ chars, isPlain d = true)
    (hrest : ∀ d ∈ rest.head?, isWordChar d = false) :
    Scans (c :: chars ++ rest) (.word (String.ofList (c :: chars)) :: tokens) := by
  have hplain := isPlain_of_isPlainStart hc
  have hne (other : Char) (hother : isPlain other = false) : c ≠ other := ne_of_isPlain hplain hother
  have hend : '\x00' ∉ chars := fun hmem => ne_of_isPlain (hchars _ hmem) rfl rfl
  refine ⟨by simp [hend, h.whole, (hne '\x00' rfl).symm], fun fuel hfuel => ?_⟩
  cases fuel with
  | zero => exact absurd hfuel (Nat.not_succ_le_zero _)
  | succ fuel =>
      have hstops : rest.takeWhile isWordChar = [] ∧ rest.dropWhile isWordChar = rest := by
        cases rest with
        | nil => exact ⟨rfl, rfl⟩
        | cons d rest => simp [hrest d rfl]
      have hall : ∀ d ∈ chars, isWordChar d = true := fun d hd => isWordChar_of_isPlain (hchars d hd)
      have hlength : rest.length ≤ fuel := by
        simp only [List.cons_append, List.length_cons, List.length_append] at hfuel
        omega
      -- none of the readers that come before that of words takes the first character
      have hspace : ¬isSpaceChar c = true := by
        have hboth := isSpaceChar_of_isPlain hplain
        rw [Bool.or_eq_false_iff] at hboth
        simp [hboth.1]
      have hmark : ¬isByteOrderMark c = true := by simpa [isByteOrderMark] using hne '\ufeff' rfl
      have hquote : ¬(c = '"' ∨ c.toNat = 96) := by
        rintro (heq | hcode)
        · exact hne '"' rfl heq
        · exact hne (Char.ofNat 96) rfl (by rw [← hcode, Char.ofNat_toNat])
      have hparameter : ¬isParameterMark c = true := by simp [isParameterMark_of_isPlain hplain]
      have hnumber : ¬(c.isDigit = true ∨ c = '.' ∧ (chars ++ rest).head?.any Char.isDigit = true) := by
        rw [isDigit_of_isPlainStart hc]
        rintro (hdigit | ⟨hpoint, -⟩)
        · contradiction
        · exact hne '.' rfl hpoint
      rw [List.cons_append, scanFrom, if_neg hspace, if_neg hmark, if_neg hquote, if_neg hparameter,
        if_neg hnumber, if_pos (isWordStart_of_isPlainStart hc), List.takeWhile_append_of_pos hall,
        List.dropWhile_append_of_pos hall, hstops.1, hstops.2, h.words fuel hlength, List.append_nil]
      · rfl
      · exact hne ';' rfl
      · exact fun _ heq _ => hne '-' rfl heq
      · exact fun _ heq _ => hne '/' rfl heq
      · exact hne '\'' rfl
      · exact hne '[' rfl
      · exact hne '?' rfl

end Scans

end ChangeRouting.Query.Token
