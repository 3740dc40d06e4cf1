import ChangeRouting.Proofs.Text.Fields
import ChangeRouting.Proofs.Work
import ChangeRouting.Selection.Column
import Mathlib.Data.List.Forall2
import Mathlib.Data.List.Infix

/-!
# ChangeRouting.Proofs.Selection.Expressions

How the expressions of column routers are read.

A line is a column, an operator and a value, and the value may be any text.  The reader looks for `!=`
anywhere in a line before it looks for `=`.

* `StandsFor`, `Sides.Reads` — what a value is compared as, and which test a line stands for;
* `ColumnLine.Taken` — the sides that a line is taken for: those it was written with, unless a value that
  follows `=` holds a `!=`;
* `splitUnequal_eq_some`, `splitUnequal_eq_none_iff` — what a line is cut into at its first `!=`;
* `splitLine_text`, `ofLine_text` — every line reads as the sides it is taken for;
* `ofLine_isError_iff` — which lines are refused;
* `lines_read_as_written_iff` — so lines read as they were written exactly if no such value is among them.
-/

namespace ChangeRouting

/-! ## written lines -/

/-- The values that are no texts. -/
def namedOperands : List (List Char × Operand) :=
  [("NULL".toList, .null), (":NODE_ID".toList, .nodeId), (":EXTERNAL_ID".toList, .externalId),
    (":NODE_GROUP_ID".toList, .groupId), (":REDIRECT_NODE".toList, .redirect)]

/-- What a trimmed value is compared as. -/
structure StandsFor (value : List Char) (operand : Operand) : Prop where
  named : ∀ entry ∈ namedOperands, value = entry.1 → operand = entry.2
  column : value ∉ namedOperands.map Prod.fst → ∀ name, name ≠ [] → value = ':' :: name →
    operand = .column (String.ofList (Text.upper name))
  literal : value ∉ namedOperands.map Prod.fst → (∀ name, name ≠ [] → value ≠ ':' :: name) →
    operand = .literal (String.ofList value)

/-- The sides of a line, and whether `!=` or `=` stands between them. -/
structure Sides where
  column : List Char
  negated : Bool
  value : List Char

/-- The test is the one the sides stand for. -/
structure Sides.Reads (sides : Sides) (test : ColumnTest) : Prop where
  column : test.column = String.ofList (Text.upper (Text.trim sides.column))
  negated : test.negated = sides.negated
  operand : StandsFor (Text.trim sides.value) test.operand

/-- A line of a column expression: the column holds no operator, the value is any text. -/
structure ColumnLine extends Sides where
  named : Text.trim column ≠ []
  plain : ∀ c ∈ column, c ≠ '=' ∧ c ≠ '!' ∧ c ≠ '\n'
  oneLine : '\n' ∉ value

namespace ColumnLine

/-- The line as it is written. -/
def text (line : ColumnLine) : List Char :=
  line.column ++ (if line.negated then ['!', '='] else ['=']) ++ line.value

/-- The value of the line holds no `!=`, unless that is its operator. -/
def IsClear (line : ColumnLine) : Prop := line.negated = true ∨ ¬['!', '='] <:+: line.value

/-- The sides that a line is taken for. -/
inductive Taken (line : ColumnLine) : Sides → Prop
  | asWritten : line.IsClear → Taken line line.toSides
  /-- The first `!=` of the value is taken for the operator. -/
  | within {front back : List Char} : line.negated = false → line.value = front ++ '!' :: '=' :: back →
      ¬['!', '='] <:+: front → Taken line ⟨line.column ++ '=' :: front, true, back⟩

end ColumnLine

/-- A line of an expression, which may be blank. -/
inductive WrittenLine
  | blank (text : List Char) (isBlank : Text.trim text = []) (oneLine : '\n' ∉ text)
  | column (line : ColumnLine)

namespace WrittenLine

/-- The line as it is written. -/
def text : WrittenLine → List Char
  | blank text _ _ => text
  | column line => line.text

/-- The line, if it is not blank. -/
def column? : WrittenLine → Option ColumnLine
  | blank _ _ _ => none
  | column line => some line

/-- Lines in one text. -/
def expression (lines : List WrittenLine) : String :=
  String.ofList (['\n'].intercalate (lines.map text))

end WrittenLine

namespace ColumnTest

/-! ## the first `!=` -/

section unequal

variable {s front back : List Char}

theorem splitUnequal_eq_none_iff : splitUnequal s = none ↔ ¬['!', '='] <:+: s := by
  fun_induction splitUnequal s with
  | case1 => simp
  | case2 rest => simp [List.infix_cons_iff]
  | case3 c rest hnot ih =>
      rw [Option.map_eq_none_iff, ih, List.infix_cons_iff, not_or]
      refine (and_iff_right ?_).symm
      rintro ⟨more, hmore⟩
      cases hmore
      exact hnot more rfl rfl

theorem splitUnequal_eq_some (h : splitUnequal s = some (front, back)) :
    s = front ++ '!' :: '=' :: back ∧ ¬['!', '='] <:+: front := by
  fun_induction splitUnequal s generalizing front with
  | case1 => cases h
  | case2 rest =>
      cases h
      simp
  | case3 c rest hnot ih =>
      simp only [Option.map_eq_some_iff, Prod.exists, Prod.mk.injEq] at h
      obtain ⟨before, after, hrest, rfl, rfl⟩ := h
      obtain ⟨rfl, hfirst⟩ := ih hrest
      refine ⟨rfl, ?_⟩
      rw [List.infix_cons_iff, not_or]
      refine ⟨?_, hfirst⟩
      rintro ⟨more, hmore⟩
      cases hmore
      exact hnot _ rfl rfl

/-- What comes before the first `!=` may have more in front. -/
theorem splitUnequal_append_left (h : '!' ∉ front) (s : List Char) :
    splitUnequal (front ++ s) =
      (splitUnequal s).map fun (before, after) => (front ++ before, after) := by
  induction front with
  | nil => simp
  | cons c front ih =>
      rw [List.mem_cons, not_or] at h
      rw [List.cons_append, splitUnequal]
      · rw [ih h.2, Option.map_map]
        rfl
      · rintro rest rfl
        exact absurd rfl h.1

/-- What comes after it may have more behind. -/
theorem splitUnequal_append_right (s : List Char) (h : '=' ∉ back) :
    splitUnequal (s ++ back) =
      (splitUnequal s).map fun (before, after) => (before, after ++ back) := by
  fun_induction splitUnequal s with
  | case1 =>
      rw [List.nil_append, Option.map_none, splitUnequal_eq_none_iff]
      exact fun hwithin => h (hwithin.subset (by simp))
  | case2 rest => rfl
  | case3 c rest hnot ih =>
      rw [List.cons_append, splitUnequal, ih, Option.map_map, Option.map_map]
      · rfl
      · -- the two characters are neither both in the text nor one in it and one behind it
        rintro later rfl hrest
        cases rest with
        | nil =>
            rw [List.nil_append] at hrest
            simp [hrest] at h
        | cons d rest =>
            cases hrest
            exact hnot rest rfl rfl

end unequal

/-! ## one line -/

section line

variable {line blanks : List Char}

theorem not_mem_of_blank {c : Char} (hc : Text.isBlank c = false)
    (h : ∀ other ∈ blanks, Text.isBlank other = true) : c ∉ blanks := by
  intro hmem
  rw [h c hmem] at hc
  contradiction

/-- Blanks around a line go to its sides. -/
theorem splitLine_blanks {before after : List Char} (hbefore : ∀ c ∈ before, Text.isBlank c = true)
    (hafter : ∀ c ∈ after, Text.isBlank c = true) (line : List Char) :
    splitLine (before ++ line ++ after) =
      (splitLine line).map fun (left, negated, right) => (before ++ left, negated, right ++ after) := by
  have hmark : '!' ∉ before := not_mem_of_blank (by decide) hbefore
  have hequals : '=' ∉ before := not_mem_of_blank (by decide) hbefore
  have hbehind : '=' ∉ after := not_mem_of_blank (by decide) hafter
  rw [splitLine, splitLine, List.append_assoc, splitUnequal_append_left hmark,
    splitUnequal_append_right line hbehind, Text.splitFirst_append hequals]
  cases hunequal : splitUnequal line with
  | some sides => rfl
  | none =>
      simp only [Option.map_none]
      cases hequal : Text.splitFirst '=' line with
      | none =>
          have hline := Text.splitFirst_eq_none_iff.1 hequal
          have hnone : Text.splitFirst '=' (line ++ after) = none := by
            rw [Text.splitFirst_eq_none_iff]
            simp [hline, hbehind]
          rw [hnone]
          rfl
      | some sides =>
          obtain ⟨hleft, rfl⟩ := Text.splitFirst_eq_some hequal
          rw [List.append_assoc, Text.splitFirst_append hleft]
          simp [Text.splitFirst]

/-- The blanks around a line do not count. -/
theorem ofLine_trim {left right : List Char} {negated : Bool}
    (h : splitLine line = some (left, negated, right)) (hleft : Text.trim left ≠ []) :
    ofLine (Text.trim line) =
      .ok ⟨String.ofList (Text.upper (Text.trim left)), negated, operandOf (Text.trim right)⟩ := by
  obtain ⟨before, after, hline, hbefore, hafter⟩ := Text.exists_eq_trim line
  rw [hline, splitLine_blanks hbefore hafter, Option.map_eq_some_iff] at h
  obtain ⟨⟨front, _, back⟩, hsplit, heq⟩ := h
  cases heq
  rw [Text.trim_blanks_append hbefore] at hleft
  rw [ofLine, hsplit, Text.trim_blanks_append hbefore, Text.trim_append_blanks hafter]
  simp only [hleft, if_false]

/-- A line is taken for what stands around its first `!=`, if it has one, and else around its first
`=`. -/
theorem splitLine_text (line : ColumnLine) :
    ∃ sides, line.Taken sides ∧
      splitLine line.text = some (sides.column, sides.negated, sides.value) := by
  have hmark : '!' ∉ line.column := fun hmem => (line.plain _ hmem).2.1 rfl
  have hequals : '=' ∉ line.column := fun hmem => (line.plain _ hmem).1 rfl
  rw [splitLine, ColumnLine.text, List.append_assoc, splitUnequal_append_left hmark,
    Text.splitFirst_append hequals]
  cases hnegated : line.negated with
  | true => exact ⟨line.toSides, .asWritten (Or.inl hnegated), by simp [splitUnequal, hnegated]⟩
  | false =>
      have hafter : splitUnequal ('=' :: line.value) =
          (splitUnequal line.value).map fun (before, after) => ('=' :: before, after) :=
        splitUnequal_append_left (show '!' ∉ ['='] by decide) line.value
      simp only [Bool.false_eq_true, if_false, List.singleton_append, hafter]
      cases hvalue : splitUnequal line.value with
      | none =>
          have hclear : line.IsClear := Or.inr (splitUnequal_eq_none_iff.1 hvalue)
          exact ⟨line.toSides, .asWritten hclear, by simp [Text.splitFirst, hnegated]⟩
      | some cut =>
          obtain ⟨hfront, hfirst⟩ := splitUnequal_eq_some hvalue
          exact ⟨_, .within hnegated hfront hfirst, rfl⟩

theorem standsFor_of_named {value : List Char} {operand : Operand} (h : (value, operand) ∈ namedOperands) :
    StandsFor value operand := by
  have hkeys : ∀ one ∈ namedOperands, ∀ other ∈ namedOperands, one.1 = other.1 → one.2 = other.2 := by
    decide
  have hvalue : value ∈ namedOperands.map Prod.fst := List.mem_map_of_mem h
  exact ⟨fun entry hentry heq => hkeys _ h entry hentry heq, fun hnot => absurd hvalue hnot,
    fun hnot => absurd hvalue hnot⟩

theorem standsFor_operandOf (value : List Char) : StandsFor value (operandOf value) := by
  have hvalue : ∀ {text : String}, String.ofList value = text → value = text.toList := by
    rintro _ rfl
    exact String.toList_ofList.symm
  unfold operandOf
  split
  · next h => exact standsFor_of_named (hvalue h ▸ by decide)
  · next h => exact standsFor_of_named (hvalue h ▸ by decide)
  · next h => exact standsFor_of_named (hvalue h ▸ by decide)
  · next h => exact standsFor_of_named (hvalue h ▸ by decide)
  · next h => exact standsFor_of_named (hvalue h ▸ by decide)
  · next hnull hnode hexternal hgroup hredirect =>
    have hnot : ∀ entry ∈ namedOperands, value ≠ entry.1 := by
      simp only [namedOperands, List.forall_mem_cons, List.not_mem_nil, false_implies, implies_true, and_true]
      refine ⟨?_, ?_, ?_, ?_, ?_⟩
      · rintro rfl
        exact hnull String.ofList_toList
      · rintro rfl
        exact hnode String.ofList_toList
      · rintro rfl
        exact hexternal String.ofList_toList
      · rintro rfl
        exact hgroup String.ofList_toList
      · rintro rfl
        exact hredirect String.ofList_toList
    split
    · next c name =>
      refine ⟨fun entry hentry heq => absurd heq (hnot entry hentry), fun _ other _ heq => ?_,
        fun _ hliteral => absurd rfl (hliteral (c :: name) (List.cons_ne_nil _ _))⟩
      cases heq
      rfl
    · next hother =>
      refine ⟨fun entry hentry heq => absurd heq (hnot entry hentry), fun _ name hname heq => ?_,
        fun _ _ => rfl⟩
      obtain ⟨c, name, rfl⟩ := List.exists_cons_of_ne_nil hname
      exact absurd heq (hother c name)

/-- A line reads as the sides it is taken for. -/
theorem ofLine_text (line : ColumnLine) :
    ∃ test, ofLine (Text.trim line.text) = .ok test ∧ ∃ sides, line.Taken sides ∧ sides.Reads test := by
  obtain ⟨sides, htaken, hsplit⟩ := splitLine_text line
  have hnamed : Text.trim sides.column ≠ [] := by
    cases htaken with
    | asWritten => exact line.named
    | within =>
        intro hblank
        refine line.named (Text.trim_eq_nil_iff.2 fun c hc => ?_)
        exact Text.trim_eq_nil_iff.1 hblank c (List.mem_append_left _ hc)
  exact ⟨_, ofLine_trim hsplit hnamed, sides, htaken, rfl, rfl, standsFor_operandOf _⟩

/-- Where a line is cut, if anywhere. -/
theorem splitLine_cases (line : List Char) :
    splitLine line = none ∧ '=' ∉ line ∨
      (∃ left right, splitLine line = some (left, true, right) ∧ line = left ++ '!' :: '=' :: right ∧
        ¬['!', '='] <:+: left) ∨
      ∃ left right, splitLine line = some (left, false, right) ∧ line = left ++ '=' :: right ∧
        '=' ∉ left ∧ ¬['!', '='] <:+: line := by
  rw [splitLine]
  cases hunequal : splitUnequal line with
  | some sides =>
      obtain ⟨hline, hfirst⟩ := splitUnequal_eq_some hunequal
      exact Or.inr (Or.inl ⟨_, _, rfl, hline, hfirst⟩)
  | none =>
      cases hequal : Text.splitFirst '=' line with
      | none => exact Or.inl ⟨rfl, Text.splitFirst_eq_none_iff.1 hequal⟩
      | some sides =>
          obtain ⟨hleft, hline⟩ := Text.splitFirst_eq_some hequal
          exact Or.inr (Or.inr ⟨_, _, rfl, hline, hleft, splitUnequal_eq_none_iff.1 hunequal⟩)

/-- A line that begins with no blank is refused if it has no operator or begins with one, unless it begins
with `=` and holds a `!=` further on. -/
theorem ofLine_isError_iff (hline : ∀ c ∈ line.head?, Text.isBlank c = false) :
    (∃ fault, ofLine line = .error fault) ↔
      '=' ∉ line ∨ ['!', '='] <+: line ∨ ['='] <+: line ∧ ¬['!', '='] <:+: line := by
  -- what comes before the operator is empty or begins as the line does
  have hnamed : ∀ {left right : List Char}, line = left ++ right → (Text.trim left = [] ↔ left = []) := by
    rintro left right rfl
    refine ⟨fun hblank => ?_, fun hnil => by rw [hnil, Text.trim_nil]⟩
    cases left with
    | nil => rfl
    | cons c left =>
        have hc := Text.trim_eq_nil_iff.1 hblank c List.mem_cons_self
        simp [hc] at hline
  have hrefused : ∀ {left right : List Char} {negated : Bool}, splitLine line = some (left, negated, right) →
      ((∃ fault, ofLine line = .error fault) ↔ Text.trim left = []) := by
    intro left right negated hsplit
    rw [ofLine, hsplit]
    by_cases hblank : Text.trim left = []
    · simp [hblank]
    · simp [hblank]
  obtain ⟨hsplit, hnone⟩ | ⟨left, right, hsplit, hcut, hfirst⟩ | ⟨left, right, hsplit, hcut, hfirst, hequal⟩ :=
    splitLine_cases line
  · rw [ofLine, hsplit]
    exact iff_of_true ⟨_, rfl⟩ (Or.inl hnone)
  · rw [hrefused hsplit, hnamed hcut]
    constructor
    · rintro rfl
      exact Or.inr (Or.inl ⟨right, hcut.symm⟩)
    · rintro (hnone | hbegins | ⟨-, hnowhere⟩)
      · exact absurd (by simp [hcut]) hnone
      · -- nothing before the first two characters holds them both
        rw [hcut] at hbegins
        match left, hfirst with
        | [], _ => rfl
        | [c], _ => simp at hbegins
        | c :: d :: left, hfirst =>
            rw [List.cons_append, List.cons_append, List.cons_prefix_cons, List.cons_prefix_cons] at hbegins
            obtain ⟨rfl, rfl, -⟩ := hbegins
            exact absurd ⟨[], left, rfl⟩ hfirst
      · exact absurd ⟨left, right, by simp [hcut]⟩ hnowhere
  · rw [hrefused hsplit, hnamed hcut]
    constructor
    · rintro rfl
      exact Or.inr (Or.inr ⟨⟨right, hcut.symm⟩, hequal⟩)
    · rintro (hnone | hbegins | ⟨hbegins, -⟩)
      · exact absurd (by simp [hcut]) hnone
      · exact absurd hbegins.isInfix hequal
      · cases left with
        | nil => rfl
        | cons c left =>
            rw [hcut, List.cons_append, List.cons_prefix_cons] at hbegins
            exact absurd (hbegins.1 ▸ List.mem_cons_self) hfirst

end line

end ColumnTest

/-! ## a whole expression -/

namespace WrittenLine

open ColumnTest

variable {lines : List WrittenLine}

theorem oneLine (line : WrittenLine) : '\n' ∉ line.text := by
  cases line with
  | blank text _ hline => exact hline
  | column line =>
      have hcolumn : '\n' ∉ line.column := fun hmem => (line.plain _ hmem).2.2 rfl
      rw [text, ColumnLine.text]
      cases line.negated <;> simp [hcolumn, line.oneLine]

theorem trim_text_ne_nil (line : ColumnLine) : Text.trim line.text ≠ [] := by
  intro hblank
  refine line.named (Text.trim_eq_nil_iff.2 fun c hc => Text.trim_eq_nil_iff.1 hblank c ?_)
  simp [ColumnLine.text, hc]

/-- The lines of an expression are those that were written, without the blank ones. -/
theorem settingLines_expression (hlines : lines ≠ []) :
    Text.settingLines (expression lines).toList =
      (lines.filterMap column?).map fun line => Text.trim line.text := by
  have hsplit : Text.splitAll '\n' (['\n'].intercalate (lines.map text)) = lines.map text := by
    rw [Text.splitAll_eq_splitOn]
    refine List.splitOn_intercalate '\n' ?_ (by simpa using hlines)
    simpa using fun line _ => line.oneLine
  rw [expression, String.toList_ofList, Text.settingLines, hsplit]
  clear hsplit hlines
  induction lines with
  | nil => rfl
  | cons line lines ih =>
      rw [List.map_cons, List.map_cons, List.filter_cons, ih]
      cases line with
      | blank text hblank _ => simp [WrittenLine.text, List.filterMap_cons, column?, hblank]
      | column line => simp [WrittenLine.text, column?, trim_text_ne_nil line]

end WrittenLine

namespace ColumnTest

variable {expression : String} {tests : List ColumnTest}

theorem parse_eq_ok_iff :
    parse expression = .ok tests ↔
      (Text.settingLines expression.toList).mapM ofLine = .ok tests ∧ tests ≠ [] := by
  rw [parse, except_bind_eq_ok]
  constructor
  · rintro ⟨found, hfound, h⟩
    cases found with
    | nil => cases h
    | cons test found =>
        cases h
        exact ⟨hfound, List.cons_ne_nil _ _⟩
  · rintro ⟨hfound, hne⟩
    refine ⟨tests, hfound, ?_⟩
    cases tests with
    | nil => contradiction
    | cons test tests => rfl

/-- An expression is refused if it has no line that is not blank, or one that is refused. -/
theorem parse_isError_iff :
    (∃ fault, parse expression = .error fault) ↔ Text.settingLines expression.toList = [] ∨
      ∃ line ∈ Text.settingLines expression.toList, ∃ fault, ofLine line = .error fault := by
  have hok : (∃ tests, parse expression = .ok tests) ↔ Text.settingLines expression.toList ≠ [] ∧
      ∀ line ∈ Text.settingLines expression.toList, ∃ test, ofLine line = .ok test := by
    rw [← exists_mapM_eq_ok_iff]
    simp only [parse_eq_ok_iff]
    constructor
    · rintro ⟨tests, hread, hne⟩
      refine ⟨fun hnil => ?_, tests, hread⟩
      rw [hnil] at hread
      exact hne (Except.ok.inj hread).symm
    · rintro ⟨hne, tests, hread⟩
      refine ⟨tests, hread, ?_⟩
      rintro rfl
      exact hne (List.forall₂_nil_right_iff.1 (mapM_eq_ok_iff.1 hread))
  simp only [exists_error_iff, hok, not_and_or, not_not, not_forall, exists_prop]

/-- Lines are read one after the other, as the sides that each is taken for. -/
theorem exists_parse_expression {lines : List WrittenLine} (hsome : lines.filterMap WrittenLine.column? ≠ []) :
    ∃ tests, parse (WrittenLine.expression lines) = .ok tests ∧
      List.Forall₂ (fun line test => ∃ sides, ColumnLine.Taken line sides ∧ sides.Reads test)
        (lines.filterMap WrittenLine.column?) tests := by
  have hlines : lines ≠ [] := by
    rintro rfl
    contradiction
  have hread : ∀ written : List ColumnLine, ∃ tests,
      List.Forall₂ (fun line test => ofLine (Text.trim line.text) = .ok test) written tests ∧
        List.Forall₂ (fun line test => ∃ sides, ColumnLine.Taken line sides ∧ sides.Reads test)
          written tests := by
    intro written
    induction written with
    | nil => exact ⟨[], .nil, .nil⟩
    | cons line written ih =>
        obtain ⟨tests, hok, htaken⟩ := ih
        obtain ⟨test, htest, hsides⟩ := ofLine_text line
        exact ⟨test :: tests, .cons htest hok, .cons hsides htaken⟩
  obtain ⟨tests, hok, htaken⟩ := hread (lines.filterMap WrittenLine.column?)
  refine ⟨tests, parse_eq_ok_iff.2 ⟨?_, ?_⟩, htaken⟩
  · rw [WrittenLine.settingLines_expression hlines, mapM_eq_ok_iff, List.forall₂_map_left_iff]
    exact hok
  · rintro rfl
    exact hsome (List.forall₂_nil_right_iff.1 htaken)

/-- A test is the one a line was written for exactly if the line was taken for what was written. -/
theorem reads_iff_isClear {line : ColumnLine} {test : ColumnTest}
    (h : ∃ sides, ColumnLine.Taken line sides ∧ sides.Reads test) :
    line.toSides.Reads test ↔ line.IsClear := by
  obtain ⟨sides, htaken, hreads⟩ := h
  cases htaken with
  | asWritten hclear => exact iff_of_true hreads hclear
  | within hnegated hvalue _ =>
      refine iff_of_false (fun hwritten => ?_) ?_
      · have hsame := hwritten.negated.symm.trans hreads.negated
        rw [hnegated] at hsame
        contradiction
      · rintro (hclear | hclear)
        · rw [hnegated] at hclear
          contradiction
        · exact hclear (hvalue ▸ ⟨_, _, List.append_assoc _ _ _⟩)

end ColumnTest

/-- Where one relation of two lists decides another, that holds throughout exactly if it holds of each
thing. -/
theorem forall₂_iff_forall_mem {R S : α → β → Prop} {p : α → Prop} {xs : List α} {ys : List β}
    (h : List.Forall₂ R xs ys) (hiff : ∀ x y, R x y → (S x y ↔ p x)) :
    List.Forall₂ S xs ys ↔ ∀ x ∈ xs, p x := by
  induction h with
  | nil => simp
  | cons hxy _ ih => rw [List.forall₂_cons, hiff _ _ hxy, ih, List.forall_mem_cons]

/-- Lines of a column, an operator and any value make one test each, in order, among any blank lines.  A line
makes the test that was written exactly if no `!=` is in a value that follows `=`; the first such `!=` is
taken for the operator.  An expression is refused exactly if it has no line that is not blank, or one that
has no operator or begins with one, unless it begins with `=` and holds a `!=` further on. -/
theorem lines_read_as_written_iff (lines : List WrittenLine) (expression : String) :
    (lines.filterMap WrittenLine.column? ≠ [] →
      ∃ tests, ColumnTest.parse (WrittenLine.expression lines) = .ok tests ∧
        List.Forall₂ (fun line test => ∃ sides, ColumnLine.Taken line sides ∧ sides.Reads test)
          (lines.filterMap WrittenLine.column?) tests ∧
        (List.Forall₂ (fun line test => line.toSides.Reads test)
            (lines.filterMap WrittenLine.column?) tests ↔
          ∀ line ∈ lines.filterMap WrittenLine.column?, line.IsClear)) ∧
    ((∃ fault, ColumnTest.parse expression = .error fault) ↔
      Text.settingLines expression.toList = [] ∨
        ∃ line ∈ Text.settingLines expression.toList,
          '=' ∉ line ∨ ['!', '='] <+: line ∨ ['='] <+: line ∧ ¬['!', '='] <:+: line) := by
  constructor
  · intro hsome
    obtain ⟨tests, hparse, htaken⟩ := ColumnTest.exists_parse_expression hsome
    exact ⟨tests, hparse, htaken,
      forall₂_iff_forall_mem htaken fun _ _ => ColumnTest.reads_iff_isClear⟩
  · rw [ColumnTest.parse_isError_iff]
    refine or_congr_right (exists_congr fun line => and_congr_right fun hline => ?_)
    refine ColumnTest.ofLine_isError_iff ?_
    obtain ⟨field, -, rfl⟩ := List.mem_map.1 (List.mem_of_mem_filter hline)
    exact Text.isBlank_head?_trim field

/-! ## a value with an operator in it -/

/-- A store is matched with the attribute of a node. -/
def storeLine : ColumnLine :=
  ⟨⟨"STORE_ID".toList, false, ":EXTERNAL_ID".toList⟩, by decide, by simp, by decide⟩

/-- A status is compared with null, with blanks around all parts. -/
def statusLine : ColumnLine :=
  ⟨⟨" old_status ".toList, true, " NULL ".toList⟩, by decide, by simp, by decide⟩

/-- An `=` in the value makes no difference. -/
def regionLine : ColumnLine :=
  ⟨⟨"REGION".toList, false, "a=b".toList⟩, by decide, by simp, by decide⟩

/-- Three lines without such a value read as they were written, with a blank line among them. -/
theorem lines_read_as_written_iff_status :
    ∃ tests, ColumnTest.parse "STORE_ID=:EXTERNAL_ID\n\n old_status != NULL \nREGION=a=b" = .ok tests ∧
      List.Forall₂ (fun (line : ColumnLine) test => line.toSides.Reads test)
        [storeLine, statusLine, regionLine] tests := by
  let lines : List WrittenLine :=
    [.column storeLine, .blank [] rfl (by decide), .column statusLine, .column regionLine]
  have hsome : lines.filterMap WrittenLine.column? ≠ [] := by simp [lines, WrittenLine.column?]
  have hclear : ∀ line ∈ [storeLine, statusLine, regionLine], line.IsClear := by
    unfold ColumnLine.IsClear
    decide
  obtain ⟨tests, hparse, -, hiff⟩ :=
    (lines_read_as_written_iff lines (WrittenLine.expression lines)).1 hsome
  have htext : WrittenLine.expression lines =
      "STORE_ID=:EXTERNAL_ID\n\n old_status != NULL \nREGION=a=b" := by decide
  exact ⟨tests, htext ▸ hparse, hiff.2 hclear⟩

/-- A note is compared with a text that holds `!=`. -/
def noteLine : ColumnLine :=
  ⟨⟨"NOTE".toList, false, "a!=b".toList⟩, by decide, by simp, by decide⟩

/-- The operator within the value is taken for that of the line, which so tests another column, and the other
way round.  A line without a column is read in the same way. -/
theorem operator_in_value_counts :
    (WrittenLine.column noteLine).text = "NOTE=a!=b".toList ∧
      ColumnTest.parse "NOTE=a!=b" = .ok [⟨"NOTE=A", true, .literal "b"⟩] ∧
      ¬noteLine.toSides.Reads ⟨"NOTE=A", true, .literal "b"⟩ ∧
      ColumnTest.parse "=x!=b" = .ok [⟨"=X", true, .literal "b"⟩] := by
  refine ⟨by decide, by decide +kernel, fun hreads => ?_, by decide +kernel⟩
  exact Bool.noConfusion hreads.negated

end ChangeRouting
