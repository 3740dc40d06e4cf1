import ChangeRouting.Change.Payload

/-!
# ChangeRouting.Proofs.Change.Payload

What is read of a payload is what was written.

* `escape_cases` — a character is written as a letter behind a backslash, by its number, or as it is;
* `readQuoted_escape` — each of the three is read as the character;
* `readQuoted_quote`, `readValue_encodeValue`, `readRest_encodeRest` — so a text is read up to the quote behind
  it, a value up to what follows it, and values up to the bracket that closes the payload;
* `payloads_tell_values_apart` — a payload gives back its values, and no other values have it.
-/

namespace ChangeRouting.Payload

/-! ## characters -/

/-- What is read of a text that begins with a character, given what is read of the rest. -/
def ahead (c : Char) (read : List Char × List Char) : List Char × List Char := (c :: read.1, read.2)

section characters

variable {c letter : Char} {rest : List Char}

/-- The characters with a letter of their own have it, other control characters have a number, and all
other characters stand for themselves. -/
theorem escape_cases (c : Char) :
    (∃ letter, shortEscape letter = some c ∧ escape c = ['\\', letter]) ∨
      (c.toNat < 32 ∧
        escape c = ['\\', 'u', '0', '0', hexDigit (c.toNat / 16), hexDigit (c.toNat % 16)]) ∨
      (c ≠ '"' ∧ c ≠ '\\' ∧ 32 ≤ c.toNat ∧ escape c = [c]) := by
  unfold escape
  split
  · next h => subst h; exact Or.inl ⟨'"', rfl, rfl⟩
  next hquote =>
  split
  · next h => subst h; exact Or.inl ⟨'\\', rfl, rfl⟩
  next hbackslash =>
  split
  · next h => subst h; exact Or.inl ⟨'b', rfl, rfl⟩
  split
  · next h => subst h; exact Or.inl ⟨'t', rfl, rfl⟩
  split
  · next h => subst h; exact Or.inl ⟨'n', rfl, rfl⟩
  split
  · next h => subst h; exact Or.inl ⟨'f', rfl, rfl⟩
  split
  · next h => subst h; exact Or.inl ⟨'r', rfl, rfl⟩
  split
  · next h => exact Or.inr (Or.inl ⟨h, rfl⟩)
  · next h => exact Or.inr (Or.inr ⟨hquote, hbackslash, Nat.not_lt.1 h, rfl⟩)

theorem hexValue_hexDigit {n : Nat} (h : n < 16) : hexValue (hexDigit n) = some n := by
  have hall : ∀ n < 16, hexValue (hexDigit n) = some n := by decide
  exact hall n h

/-- The digits of a number below 256, behind two zeros, stand for it. -/
theorem hexUnit_hexDigit {n : Nat} (h : n < 256) :
    hexUnit '0' '0' (hexDigit (n / 16)) (hexDigit (n % 16)) = some n := by
  have hzero : hexValue '0' = some 0 := rfl
  have hhigh := hexValue_hexDigit (show n / 16 < 16 by omega)
  have hlow := hexValue_hexDigit (show n % 16 < 16 by omega)
  have hsum : n / 16 * 16 + n % 16 = n := by omega
  simp [hexUnit, hzero, hhigh, hlow, hsum]

theorem readQuoted_letter (h : shortEscape letter = some c) :
    readQuoted ('\\' :: letter :: rest) = (readQuoted rest).map (ahead c) := by
  have hu : letter ≠ 'u' := by
    rintro rfl
    contradiction
  rw [readQuoted]
  · simp only [h, Option.bind_eq_bind, Option.bind_some]
    cases readQuoted rest <;> rfl
  · simp [hu]

theorem readQuoted_number {a b d e : Char} {unit : Nat} (h : hexUnit a b d e = some unit)
    (hplain : unit < 0xD800) :
    readQuoted ('\\' :: 'u' :: a :: b :: d :: e :: rest) =
      (readQuoted rest).map (ahead (Char.ofNat unit)) := by
  rw [readQuoted]
  simp only [h, hplain, true_or, if_true, Option.bind_eq_bind, Option.bind_some]
  cases readQuoted rest <;> rfl

theorem readQuoted_plain (hquote : c ≠ '"') (hbackslash : c ≠ '\\') (hprinted : 32 ≤ c.toNat) :
    readQuoted (c :: rest) = (readQuoted rest).map (ahead c) := by
  have hnot : ¬(c = '\\' ∨ c.toNat < 32) := by
    rintro (heq | hlt)
    · exact hbackslash heq
    · omega
  rw [readQuoted]
  · rw [if_neg hnot]
    cases readQuoted rest <;> rfl
  all_goals simp [hquote, hbackslash]

/-- However a character is written, it is read as itself. -/
theorem readQuoted_escape (c : Char) (rest : List Char) :
    readQuoted (escape c ++ rest) = (readQuoted rest).map (ahead c) := by
  obtain ⟨letter, hletter, hescape⟩ | ⟨hcontrol, hescape⟩ | ⟨hquote, hbackslash, hprinted, hescape⟩ :=
    escape_cases c
  · rw [hescape]
    exact readQuoted_letter hletter
  · rw [hescape]
    have hunit := hexUnit_hexDigit (show c.toNat < 256 by omega)
    refine (readQuoted_number hunit (by omega)).trans ?_
    rw [Char.ofNat_toNat]
    rfl
  · rw [hescape]
    exact readQuoted_plain hquote hbackslash hprinted

end characters

/-! ## texts and values -/

/-- A text is read up to the quote behind it. -/
theorem readQuoted_quote (text rest : List Char) :
    readQuoted (text.flatMap escape ++ '"' :: rest) = some (text, rest) := by
  induction text with
  | nil => rfl
  | cons c text ih =>
      rw [List.flatMap_cons, List.append_assoc, readQuoted_escape, ih]
      rfl

/-- A value is read up to what follows it. -/
theorem readValue_encodeValue (value : Option String) (rest : List Char) :
    readValue (encodeValue value ++ rest) = some (value, rest) := by
  cases value with
  | none => rfl
  | some text =>
      have hquote : encodeValue (some text) ++ rest =
          '"' :: (text.toList.flatMap escape ++ '"' :: rest) := by
        simp [encodeValue, quote]
      rw [hquote, readValue, readQuoted_quote]
      simp

/-- A value does not begin with white space. -/
theorem skipSpace_encodeValue (value : Option String) (rest : List Char) :
    skipSpace (encodeValue value ++ rest) = encodeValue value ++ rest := by
  cases value <;> rfl

/-! ## payloads -/

/-- Each value takes at least a comma, and the bracket comes behind them. -/
theorem length_lt_length_encodeRest (values : List (Option String)) :
    values.length < (encodeRest values).length := by
  induction values with
  | nil => exact Nat.one_pos
  | cons value values ih =>
      rw [encodeRest, List.length_cons, List.length_cons, List.length_append]
      omega

/-- Values are read up to the bracket, given fuel for each of them. -/
theorem readRest_encodeRest {values : List (Option String)} {fuel : Nat} (h : values.length < fuel) :
    readRest fuel (encodeRest values) = some values := by
  induction values generalizing fuel with
  | nil =>
      obtain ⟨fuel, rfl⟩ := Nat.exists_eq_succ_of_ne_zero (Nat.ne_of_gt h)
      rfl
  | cons value values ih =>
      obtain ⟨fuel, rfl⟩ := Nat.exists_eq_succ_of_ne_zero (Nat.ne_of_gt (Nat.zero_lt_of_lt h))
      rw [List.length_cons] at h
      have hcomma : skipSpace (encodeRest (value :: values)) =
          ',' :: (encodeValue value ++ encodeRest values) := rfl
      rw [readRest, hcomma]
      simp only [skipSpace_encodeValue, readValue_encodeValue, Option.bind_eq_bind, Option.bind_some,
        ih (Nat.lt_of_succ_lt_succ h)]
      rfl

/-- What is written is read back. -/
theorem decodeChars_encodeChars (values : List (Option String)) :
    decodeChars (encodeChars values) = some values := by
  cases values with
  | nil => rfl
  | cons value values =>
      have hfuel : values.length < (encodeChars (value :: values)).length := by
        have hrest := length_lt_length_encodeRest values
        rw [encodeChars, List.length_cons, List.length_append]
        omega
      have hbracket : skipSpace (encodeChars (value :: values)) =
          '[' :: (encodeValue value ++ encodeRest values) := rfl
      rw [decodeChars, hbracket]
      simp only [skipSpace_encodeValue]
      split
      · next hclose =>
        -- no value begins with the bracket
        cases value <;> cases hclose
      · simp only [readValue_encodeValue, Option.bind_eq_bind, Option.bind_some,
          readRest_encodeRest hfuel]
        rfl

/-- A payload gives back the values it was written for, whatever texts and nulls they are.  So no other
values have this payload, and a null is not taken for a text. -/
theorem payloads_tell_values_apart :
    (∀ values, decode (encode values) = .ok values) ∧
      (∀ values others, encode values = encode others → values = others) ∧
      ∀ front back text, encode (front ++ none :: back) ≠ encode (front ++ some text :: back) := by
  have hback : ∀ values, decode (encode values) = .ok values := by
    intro values
    rw [decode, encode, String.toList_ofList, decodeChars_encodeChars]
  have happart : ∀ values others, encode values = encode others → values = others := by
    intro values others h
    have hsame := hback values
    rw [h, hback others] at hsame
    exact (Except.ok.inj hsame).symm
  refine ⟨hback, happart, fun front back text h => ?_⟩
  have hsame := List.append_cancel_left (happart _ _ h)
  cases hsame

end ChangeRouting.Payload
