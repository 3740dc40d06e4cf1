import ChangeRouting.Proofs.Query.Token
import ChangeRouting.Proofs.Text.Fields
import ChangeRouting.Proofs.Work
import ChangeRouting.Selection.Lookup

/-!
# ChangeRouting.Proofs.Selection.Settings

How the expressions of lookup routers are read, and what of them reaches the store.

* `IsQualified` — names: parts of letters, digits and underscores between dots;
* `Sets`, `LastSets` — what a line sets, and which of the lines counts;
* `LookupSpec.SetBy` — the lines set the names of a specification;
* `parse_eq_ok_iff`, `parse_isError_iff` — an expression is read as what its lines set, or refused where a line
  has no `=`, or a name is not set, set to nothing or set to something else;
* `scan_query` — so the query has the words that it is meant to have, whatever the names are.
-/

namespace ChangeRouting

namespace LookupSpec

open Query (Token)

/-! ## names -/

/-- A part of a name: letters, digits and underscores of ASCII, and no digit first. -/
def IsPart (part : List Char) : Prop :=
  ∃ c rest, part = c :: rest ∧ (c.isAlpha = true ∨ c = '_') ∧ ∀ d ∈ rest, d.isAlphanum = true ∨ d = '_'

/-- One or more parts between dots. -/
def IsQualified (name : List Char) : Prop :=
  ∃ parts, parts ≠ [] ∧ (∀ part ∈ parts, IsPart part) ∧ name = ['.'].intercalate parts

theorem isName_iff {part : List Char} : isName part = true ↔ IsPart part := by
  cases part with
  | nil => exact iff_of_false (by simp [isName]) fun ⟨_, _, h, _⟩ => nomatch h
  | cons c rest =>
      simp only [isName, isNameStart, isNameChar, Bool.and_eq_true, Bool.or_eq_true, decide_eq_true_eq,
        List.all_eq_true, IsPart, List.cons.injEq]
      constructor
      · rintro ⟨hfirst, hrest⟩
        exact ⟨c, rest, ⟨rfl, rfl⟩, hfirst, hrest⟩
      · rintro ⟨_, _, ⟨rfl, rfl⟩, hfirst, hrest⟩
        exact ⟨hfirst, hrest⟩

/-- A part is a plain word. -/
theorem IsPart.start {part : List Char} (h : IsPart part) :
    ∃ c chars, part = c :: chars ∧ Token.isPlainStart c = true ∧ ∀ d ∈ chars, Token.isPlain d = true := by
  obtain ⟨c, chars, rfl, hfirst, hrest⟩ := h
  refine ⟨c, chars, rfl, by simpa [Token.isPlainStart] using hfirst, fun d hd => ?_⟩
  simpa [Token.isPlain] using hrest d hd

/-- A part holds nothing but letters, digits and underscores. -/
theorem IsPart.plain {part : List Char} (h : IsPart part) : ∀ c ∈ part, Token.isPlain c = true := by
  obtain ⟨c, chars, rfl, hc, hchars⟩ := h.start
  exact List.forall_mem_cons.2 ⟨Token.isPlain_of_isPlainStart hc, hchars⟩

theorem IsPart.not_mem_dot {part : List Char} (h : IsPart part) : '.' ∉ part :=
  fun hdot => Token.ne_of_isPlain (h.plain _ hdot) rfl rfl

theorem isIdentifier_iff {name : List Char} : isIdentifier name = true ↔ IsQualified name := by
  rw [isIdentifier, Text.splitAll_eq_splitOn, List.all_eq_true]
  simp only [isName_iff]
  constructor
  · intro h
    exact ⟨_, List.splitOn_ne_nil '.' name, h, (List.intercalate_splitOn '.').symm⟩
  · rintro ⟨parts, hne, hparts, rfl⟩
    rwa [List.splitOn_intercalate '.' (fun part hpart => (hparts part hpart).not_mem_dot) hne]

/-- A name holds nothing but letters, digits, underscores and dots. -/
theorem IsQualified.chars {name : List Char} (h : IsQualified name) :
    ∀ c ∈ name, c.isAlphanum = true ∨ c = '_' ∨ c = '.' := by
  obtain ⟨parts, -, hparts, rfl⟩ := h
  have hplain : ∀ part ∈ parts, ∀ c ∈ part, c.isAlphanum = true ∨ c = '_' ∨ c = '.' := by
    intro part hpart c hc
    have hboth := (hparts part hpart).plain c hc
    simp only [Token.isPlain, Bool.or_eq_true, decide_eq_true_eq] at hboth
    exact hboth.imp_right Or.inl
  clear hparts
  induction parts with
  | nil => simp
  | cons part parts ih =>
      rw [List.forall_mem_cons] at hplain
      by_cases hlast : parts = []
      · rw [hlast, List.intercalate_singleton]
        exact hplain.1
      · rw [List.intercalate_cons_of_ne_nil hlast, List.forall_mem_append, List.forall_mem_append,
          List.forall_mem_singleton]
        exact ⟨⟨hplain.1, Or.inr (Or.inr rfl)⟩, ih hplain.2⟩

theorem IsQualified.ne_nil {name : List Char} (h : IsQualified name) : name ≠ [] := by
  rintro rfl
  exact absurd (isIdentifier_iff.2 h) (by decide)

/-! ## settings -/

/-- A line sets a name, in either case, to what stands behind its first `=`, blanks apart. -/
def Sets (line : List Char) (name : String) (value : List Char) : Prop :=
  ∃ before after, line = before ++ '=' :: after ∧ '=' ∉ before ∧
    Text.upper (Text.trim before) = name.toList ∧ Text.trim after = value

/-- The last of the lines that set a name sets it to this. -/
def LastSets (lines : List (List Char)) (name : String) (value : List Char) : Prop :=
  ∃ earlier line later, lines = earlier ++ line :: later ∧ Sets line name value ∧
    ∀ other ∈ later, ∀ value, ¬Sets other name value

section settings

variable {line value : List Char} {lines : List (List Char)} {name : String}
  {settings : List (List Char × List Char)}

theorem settingOf_eq_ok_iff {setting : List Char × List Char} :
    settingOf line = .ok setting ↔ ∃ before after, line = before ++ '=' :: after ∧ '=' ∉ before ∧
      Text.upper (Text.trim before) = setting.1 ∧ Text.trim after = setting.2 := by
  rw [settingOf]
  constructor
  · intro h
    cases hsplit : Text.splitFirst '=' line with
    | none =>
        rw [hsplit] at h
        cases h
    | some sides =>
        rw [hsplit] at h
        cases h
        obtain ⟨hbefore, hline⟩ := Text.splitFirst_eq_some hsplit
        exact ⟨sides.1, sides.2, hline, hbefore, rfl, rfl⟩
  · rintro ⟨before, after, rfl, hbefore, hname, hvalue⟩
    rw [Text.splitFirst_append hbefore]
    simp [Text.splitFirst, hname, hvalue]

theorem sets_iff : Sets line name value ↔ settingOf line = .ok (name.toList, value) := by
  rw [settingOf_eq_ok_iff]
  rfl

/-- A line is no setting only if it has no `=`. -/
theorem exists_settingOf_eq_ok_iff : (∃ setting, settingOf line = .ok setting) ↔ '=' ∈ line := by
  rw [settingOf]
  cases hsplit : Text.splitFirst '=' line with
  | none => exact iff_of_false (fun ⟨_, h⟩ => nomatch h) (Text.splitFirst_eq_none_iff.1 hsplit)
  | some sides =>
      obtain ⟨-, rfl⟩ := Text.splitFirst_eq_some hsplit
      exact iff_of_true ⟨_, rfl⟩ (by simp)

theorem lastValue_eq_some_iff :
    lastValue settings name = some value ↔ ∃ earlier later,
      settings = earlier ++ (name.toList, value) :: later ∧ ∀ other ∈ later, other.1 ≠ name.toList := by
  rw [lastValue, Option.map_eq_some_iff]
  simp only [List.find?_eq_some_iff_append, decide_eq_true_eq, Bool.not_eq_true', decide_eq_false_iff_not]
  constructor
  · rintro ⟨⟨_, _⟩, ⟨hname, before, after, hsettings, hbefore⟩, rfl⟩
    simp only at hname
    subst hname
    refine ⟨after.reverse, before.reverse, ?_, fun other hother => ?_⟩
    · simpa using congrArg List.reverse hsettings
    · exact hbefore other (List.mem_reverse.1 hother)
  · rintro ⟨earlier, later, rfl, hlater⟩
    refine ⟨(name.toList, value), ⟨rfl, later.reverse, earlier.reverse, by simp, fun other hother => ?_⟩, rfl⟩
    exact hlater other (List.mem_reverse.1 hother)

/-- The value that counts is the one that the last line with the name sets. -/
theorem lastSets_iff (hread : lines.mapM settingOf = .ok settings) :
    LastSets lines name value ↔ lastValue settings name = some value := by
  have hmap : lines.map settingOf = settings.map Except.ok := by
    induction mapM_eq_ok_iff.1 hread with
    | nil => rfl
    | cons hfirst hrest ih => rw [List.map_cons, List.map_cons, hfirst, ih (mapM_eq_ok_iff.2 hrest)]
  rw [lastValue_eq_some_iff]
  constructor
  · rintro ⟨earlier, line, later, rfl, hsets, hlater⟩
    rw [List.map_append, List.map_cons, eq_comm, List.map_eq_append_iff] at hmap
    obtain ⟨before, rest, rfl, -, hrest⟩ := hmap
    obtain ⟨setting, after, rfl, hsetting, hafter⟩ := List.map_eq_cons_iff.1 hrest
    rw [sets_iff.1 hsets] at hsetting
    cases hsetting
    refine ⟨before, after, rfl, fun other hother hname => ?_⟩
    have hmem : Except.ok other ∈ later.map settingOf := hafter ▸ List.mem_map_of_mem hother
    obtain ⟨one, hone, hsetting⟩ := List.mem_map.1 hmem
    exact hlater one hone other.2 (sets_iff.2 (hname ▸ hsetting))
  · rintro ⟨before, after, rfl, hafter⟩
    rw [List.map_append, List.map_cons, List.map_eq_append_iff] at hmap
    obtain ⟨earlier, rest, rfl, -, hrest⟩ := hmap
    obtain ⟨line, later, rfl, hsetting, hlater⟩ := List.map_eq_cons_iff.1 hrest
    refine ⟨earlier, line, later, rfl, sets_iff.2 hsetting, fun other hother value hsets => ?_⟩
    have hmem : settingOf other ∈ after.map Except.ok := hlater ▸ List.mem_map_of_mem hother
    rw [sets_iff.1 hsets] at hmem
    obtain ⟨setting, hsetting, heq⟩ := List.mem_map.1 hmem
    cases heq
    exact hafter _ hsetting rfl

/-- Some value counts unless no line sets the name. -/
theorem exists_lastSets_iff (hread : lines.mapM settingOf = .ok settings) :
    (∃ value, LastSets lines name value) ↔ ∃ line ∈ lines, ∃ value, Sets line name value := by
  constructor
  · rintro ⟨value, earlier, line, later, rfl, hsets, -⟩
    exact ⟨line, by simp, value, hsets⟩
  · rintro ⟨line, hline, value, hsets⟩
    obtain ⟨setting, hsetting, hread'⟩ := (mapM_ok_mem hread).1 line hline
    rw [sets_iff.1 hsets] at hread'
    cases hread'
    have hsome : (settings.reverse.find? (·.1 = name.toList)).isSome = true :=
      List.find?_isSome.2 ⟨_, List.mem_reverse.2 hsetting, decide_eq_true rfl⟩
    obtain ⟨found, hfound⟩ := Option.isSome_iff_exists.1 hsome
    exact ⟨found.2, (lastSets_iff hread).2 (Option.map_eq_some_iff.2 ⟨found, hfound, rfl⟩)⟩

theorem required_eq_ok_iff {given : String} :
    required settings name = .ok given ↔
      lastValue settings name = some given.toList ∧ IsQualified given.toList := by
  rw [required]
  constructor
  · intro h
    split at h
    · cases h
    · cases h
    · next value hvalue _ hlast =>
      split at h
      · next hvalid =>
        cases h
        simpa using ⟨hlast, isIdentifier_iff.1 hvalid⟩
      · cases h
  · rintro ⟨hlast, hvalid⟩
    have hne := hvalid.ne_nil
    rw [hlast]
    split
    · contradiction
    · next heq => exact absurd (Option.some.inj heq) hne
    · next heq =>
      cases heq
      simp [isIdentifier_iff.2 hvalid]

end settings

/-! ## expressions -/

/-- The names that an expression sets. -/
def names : List String := ["LOOKUP_TABLE", "KEY_COLUMN", "LOOKUP_KEY_COLUMN", "EXTERNAL_ID_COLUMN"]

/-- What each of them is set to. -/
def settings (spec : LookupSpec) : List (String × String) :=
  names.zip [spec.table, spec.key, spec.tableKey, spec.tableExternal]

/-- What holds of all settings holds of each of the four. -/
theorem forall_mem_settings {spec : LookupSpec} {holds : String × String → Prop} :
    (∀ setting ∈ spec.settings, holds setting) ↔
      holds ("LOOKUP_TABLE", spec.table) ∧ holds ("KEY_COLUMN", spec.key) ∧
        holds ("LOOKUP_KEY_COLUMN", spec.tableKey) ∧ holds ("EXTERNAL_ID_COLUMN", spec.tableExternal) := by
  simp [settings, names]

/-- The lines set the names of a specification. -/
structure SetBy (spec : LookupSpec) (lines : List (List Char)) : Prop where
  equals : ∀ line ∈ lines, '=' ∈ line
  last : ∀ setting ∈ spec.settings, LastSets lines setting.1 setting.2.toList
  qualified : ∀ setting ∈ spec.settings, IsQualified setting.2.toList

section parse

variable {expression : String} {spec : LookupSpec}

/-- An expression is read as the specification whose names its lines set. -/
theorem parse_eq_ok_iff :
    parse expression = .ok spec ↔ spec.SetBy (Text.settingLines expression.toList) := by
  have hequals : (∃ settings, (Text.settingLines expression.toList).mapM settingOf = .ok settings) ↔
      ∀ line ∈ Text.settingLines expression.toList, '=' ∈ line := by
    simp only [exists_mapM_eq_ok_iff, exists_settingOf_eq_ok_iff]
  simp only [parse, except_bind_eq_ok, required_eq_ok_iff]
  constructor
  · rintro ⟨read, hread, table, htable, key, hkey, tableKey, htableKey, external, hexternal, hspec⟩
    cases hspec
    refine ⟨hequals.1 ⟨read, hread⟩, forall_mem_settings.2 ?_, forall_mem_settings.2 ?_⟩
    · simp only [lastSets_iff hread]
      exact ⟨htable.1, hkey.1, htableKey.1, hexternal.1⟩
    · exact ⟨htable.2, hkey.2, htableKey.2, hexternal.2⟩
  · rintro ⟨hlines, hlast, hqualified⟩
    obtain ⟨read, hread⟩ := hequals.2 hlines
    simp only [lastSets_iff hread] at hlast
    obtain ⟨htable, hkey, htableKey, hexternal⟩ := forall_mem_settings.1 hlast
    obtain ⟨htable', hkey', htableKey', hexternal'⟩ := forall_mem_settings.1 hqualified
    exact ⟨read, hread, _, ⟨htable, htable'⟩, _, ⟨hkey, hkey'⟩, _, ⟨htableKey, htableKey'⟩, _,
      ⟨hexternal, hexternal'⟩, rfl⟩

/-- A name that no line sets, or that the last line to set it sets to nothing or to what is no name. -/
def Lacks (lines : List (List Char)) (name : String) : Prop :=
  (∀ line ∈ lines, ∀ value, ¬Sets line name value) ∨ LastSets lines name [] ∨
    ∃ value, LastSets lines name value ∧ ¬IsQualified value

theorem not_lacks_iff {lines : List (List Char)} {settings : List (List Char × List Char)}
    (hread : lines.mapM settingOf = .ok settings) {name : String} :
    ¬Lacks lines name ↔ ∃ value, LastSets lines name value ∧ IsQualified value := by
  constructor
  · intro h
    simp only [Lacks, not_or, not_forall, not_not, exists_prop, not_exists, not_and] at h
    obtain ⟨hset, -, hqualified⟩ := h
    obtain ⟨value, hlast⟩ := (exists_lastSets_iff hread).2 hset
    exact ⟨value, hlast, hqualified value hlast⟩
  · rintro ⟨value, hlast, hqualified⟩
    have hunique : ∀ other, LastSets lines name other → other = value := by
      intro other hother
      rw [lastSets_iff hread] at hother hlast
      exact Option.some.inj (hother.symm.trans hlast)
    rintro (hunset | hempty | ⟨other, hother, hinvalid⟩)
    · obtain ⟨line, hline, value, hsets⟩ := (exists_lastSets_iff hread).1 ⟨value, hlast⟩
      exact hunset line hline value hsets
    · exact hqualified.ne_nil (hunique [] hempty).symm
    · exact hinvalid (hunique other hother ▸ hqualified)

/-- An expression is refused where a line has no `=`, or one of the names is lacking. -/
theorem parse_isError_iff :
    (∃ fault, parse expression = .error fault) ↔
      (∃ line ∈ Text.settingLines expression.toList, '=' ∉ line) ∨
        ∃ name ∈ names, Lacks (Text.settingLines expression.toList) name := by
  have hok : (∃ spec, parse expression = .ok spec) ↔
      (∀ line ∈ Text.settingLines expression.toList, '=' ∈ line) ∧
        ∀ name ∈ names, ¬Lacks (Text.settingLines expression.toList) name := by
    simp only [parse_eq_ok_iff]
    refine Iff.trans ⟨fun ⟨spec, hset⟩ => ⟨hset.equals, spec, hset⟩, fun ⟨_, h⟩ => h⟩
      (and_congr_right fun hequals => ?_)
    obtain ⟨read, hread⟩ := exists_mapM_eq_ok_iff.2 fun line hline =>
      exists_settingOf_eq_ok_iff.2 (hequals line hline)
    simp only [not_lacks_iff hread, names, List.forall_mem_cons]
    constructor
    · rintro ⟨spec, -, hlast, hqualified⟩
      obtain ⟨htable, hkey, htableKey, hexternal⟩ := forall_mem_settings.1 hlast
      obtain ⟨htable', hkey', htableKey', hexternal'⟩ := forall_mem_settings.1 hqualified
      exact ⟨⟨_, htable, htable'⟩, ⟨_, hkey, hkey'⟩, ⟨_, htableKey, htableKey'⟩,
        ⟨_, hexternal, hexternal'⟩, nofun⟩
    · rintro ⟨⟨table, htable⟩, ⟨key, hkey⟩, ⟨tableKey, htableKey⟩, ⟨external, hexternal⟩, -⟩
      refine ⟨⟨String.ofList table, String.ofList key, String.ofList tableKey, String.ofList external⟩,
        hequals, forall_mem_settings.2 ?_, forall_mem_settings.2 ?_⟩
      all_goals simp only [String.toList_ofList]
      · exact ⟨htable.1, hkey.1, htableKey.1, hexternal.1⟩
      · exact ⟨htable.2, hkey.2, htableKey.2, hexternal.2⟩
  simp only [exists_error_iff, hok, not_and_or, not_not, not_forall, exists_prop]

end parse

/-! ## the query -/

/-- The words of parts between dots. -/
def partTokens (parts : List (List Char)) : List Token :=
  [.symbol "."].intercalate (parts.map fun part => [.word (String.ofList part)])

section scan

variable {parts : List (List Char)} {name rest : List Char} {tokens : List Token}

/-- Parts between dots begin as the first of them. -/
theorem exists_intercalate_eq (hne : parts ≠ []) (hparts : ∀ part ∈ parts, IsPart part) :
    ∃ c chars, ['.'].intercalate parts = c :: chars ∧ Token.isPlainStart c = true := by
  cases parts with
  | nil => contradiction
  | cons part parts =>
      obtain ⟨c, chars, rfl, hc, -⟩ := (List.forall_mem_cons.1 hparts).1.start
      by_cases hlast : parts = []
      · exact ⟨c, chars, by rw [hlast, List.intercalate_singleton], hc⟩
      · exact ⟨c, _, by rw [List.intercalate_cons_of_ne_nil hlast]; rfl, hc⟩

/-- Parts between dots in front of a text add themselves to its words. -/
theorem scans_parts (hne : parts ≠ []) (hparts : ∀ part ∈ parts, IsPart part) (h : Token.Scans rest tokens)
    (hrest : ∀ d ∈ rest.head?, Token.isWordChar d = false) :
    Token.Scans (['.'].intercalate parts ++ rest) (partTokens parts ++ tokens) := by
  induction parts with
  | nil => contradiction
  | cons part parts ih =>
      rw [List.forall_mem_cons] at hparts
      obtain ⟨c, chars, rfl, hc, hchars⟩ := hparts.1.start
      by_cases hlast : parts = []
      · rw [hlast, List.intercalate_singleton]
        exact h.word hc hchars hrest
      · obtain ⟨d, others, hothers, hd⟩ := exists_intercalate_eq hlast hparts.2
        have hscan := ih hlast hparts.2
        rw [hothers] at hscan
        have hword := (hscan.point hd).word hc hchars (by simp [Token.isWordChar, Token.isWordStart])
        have hmore : parts.map (fun part => [Token.word (String.ofList part)]) ≠ [] := by simpa using hlast
        rw [List.intercalate_cons_of_ne_nil hlast, hothers, partTokens, List.map_cons,
          List.intercalate_cons_of_ne_nil hmore]
        simpa [partTokens] using hword

/-- The words of a name. -/
def nameTokens (name : String) : List Token := partTokens (Text.splitAll '.' name.toList)

/-- A name in front of a text adds itself to its words. -/
theorem scans_name {name : String} (hname : IsQualified name.toList) (h : Token.Scans rest tokens)
    (hrest : ∀ d ∈ rest.head?, Token.isWordChar d = false) :
    Token.Scans (name.toList ++ rest) (nameTokens name ++ tokens) := by
  obtain ⟨parts, hne, hparts, hchars⟩ := hname
  have hsplit : Text.splitAll '.' name.toList = parts := by
    rw [hchars, Text.splitAll_eq_splitOn,
      List.splitOn_intercalate '.' (fun part hpart => (hparts part hpart).not_mem_dot) hne]
  rw [nameTokens, hsplit, hchars]
  exact scans_parts hne hparts h hrest

/-- Blanks before a name do not count. -/
theorem scans_space {name : String} (hname : IsQualified name.toList)
    (h : Token.Scans (name.toList ++ rest) tokens) : Token.Scans (' ' :: name.toList ++ rest) tokens := by
  obtain ⟨parts, hne, hparts, hchars⟩ := hname
  obtain ⟨c, chars, hfirst, hc⟩ := exists_intercalate_eq hne hparts
  rw [hchars, hfirst] at h ⊢
  exact h.space (Token.isPlain_of_isPlainStart hc)

/-- Whatever the names are, the query selects two of them from the third: no name ends where it should not,
and none holds a blank, a quote, a comment or anything else that is not its own. -/
theorem scan_query {spec : LookupSpec} (h : ∀ setting ∈ spec.settings, IsQualified setting.2.toList) :
    Token.scan spec.query.toList = some (.word "SELECT" :: nameTokens spec.tableKey ++ .symbol "," ::
      nameTokens spec.tableExternal ++ .word "FROM" :: nameTokens spec.table) := by
  obtain ⟨htable, -, hkey, hexternal⟩ := forall_mem_settings.1 h
  have hblank : Token.isWordChar ' ' = false := by decide
  have hcomma : Token.isWordChar ',' = false := by decide
  -- from the end of the query to its start
  have hend := scans_space htable (scans_name htable .nil nofun)
  have hfrom : Token.Scans (' ' :: 'F' :: "ROM".toList ++ (' ' :: spec.table.toList ++ []))
      (.word "FROM" :: (nameTokens spec.table ++ [])) :=
    (hend.word (by decide) (by simp [Token.isPlain]) (by simpa using hblank)).space (by decide)
  have hsecond := (scans_space hexternal (scans_name hexternal hfrom (by simpa using hblank))).comma
  have hfirst := scans_space hkey (scans_name hkey hsecond (by simpa using hcomma))
  have hselect : Token.Scans ('S' :: "ELECT".toList ++ _) (.word "SELECT" :: _) :=
    hfirst.word (by decide) (by simp [Token.isPlain]) (by simpa using hblank)
  have htext : spec.query.toList = 'S' :: "ELECT".toList ++ (' ' :: spec.tableKey.toList ++
      (',' :: (' ' :: spec.tableExternal.toList ++
        (' ' :: 'F' :: "ROM".toList ++ (' ' :: spec.table.toList ++ []))))) := by
    simp [query]
  rw [htext, hselect.scan_eq]
  simp

end scan

end LookupSpec

end ChangeRouting
