/-!
# ChangeRouting.Query.Pattern

Patterns for texts: a percent sign stands for any characters, an underscore for any one, and any other
character for itself, letters of ASCII in either case.

A pattern is tried on all tails of the text at once, from the end of the pattern to its start, so the
work is the product of the two lengths whatever the pattern.  `fits_cons` and its companions say what
fitting means character by character.
-/

namespace ChangeRouting.Query.Pattern

/-- Whether two characters are the same, letters of ASCII in either case. -/
def sameChar (a b : Char) : Bool := a.toLower = b.toLower

/-- For each entry, whether it or a later one is true. -/
def anyLater : List Bool → List Bool
  | [] => []
  | b :: rest =>
    let later := anyLater rest
    (b || later.headD false) :: later

/-- For each tail of a text, the whole text first and the empty one last, whether it fits a pattern. -/
def tailsFitting (s : List Char) : List Char → List Bool
  | [] => s.map (fun _ => false) ++ [true]
  | w :: wanted =>
    let rest := tailsFitting s wanted
    if w = '%' then anyLater rest
    else List.zipWith (fun c fit => (w = '_' || sameChar w c) && fit) s rest.tail ++ [false]

/-- Whether a text fits a pattern. -/
def fits (wanted s : List Char) : Bool := (tailsFitting s wanted).headD false

/-! ## fitting, character by character -/

@[simp] theorem length_anyLater (bs : List Bool) : (anyLater bs).length = bs.length := by
  induction bs with
  | nil => rfl
  | cons b rest ih => simp [anyLater, ih]

@[simp] theorem length_tailsFitting (s wanted : List Char) :
    (tailsFitting s wanted).length = s.length + 1 := by
  induction wanted with
  | nil => simp [tailsFitting]
  | cons w wanted ih => by_cases h : w = '%' <;> simp [tailsFitting, h, ih]

/-- The tails of a text begin with the text itself. -/
private theorem exists_tailsFitting (s wanted : List Char) :
    ∃ rest, tailsFitting s wanted = fits wanted s :: rest := by
  cases h : tailsFitting s wanted with
  | nil => simpa [h] using length_tailsFitting s wanted
  | cons b rest => exact ⟨rest, by simp [fits, h]⟩

/-- The tails of a longer text are the text itself and the tails of the rest. -/
theorem tailsFitting_cons (c : Char) (s wanted : List Char) :
    tailsFitting (c :: s) wanted = fits wanted (c :: s) :: tailsFitting s wanted := by
  suffices (tailsFitting (c :: s) wanted).tail = tailsFitting s wanted by
    obtain ⟨rest, h⟩ := exists_tailsFitting (c :: s) wanted
    rw [h] at this ⊢
    exact congrArg _ this
  induction wanted with
  | nil => rfl
  | cons w wanted ih =>
    obtain ⟨rest, h⟩ := exists_tailsFitting (c :: s) wanted
    obtain ⟨rest', h'⟩ := exists_tailsFitting s wanted
    have hrest : rest = tailsFitting s wanted := by rw [← ih, h]; rfl
    by_cases hw : w = '%'
    · simp [tailsFitting, hw, h, anyLater, hrest]
    · simp [tailsFitting, hw, h, hrest, h']

/-- The empty pattern is fitted by the empty text alone. -/
theorem fits_nil (s : List Char) : fits [] s = s.isEmpty := by
  cases s <;> rfl

/-- A percent sign takes nothing or one more character. -/
theorem fits_percent (wanted : List Char) (c : Char) (s : List Char) :
    fits ('%' :: wanted) (c :: s) = (fits wanted (c :: s) || fits ('%' :: wanted) s) := by
  have e (t : List Char) : fits ('%' :: wanted) t = (anyLater (tailsFitting t wanted)).headD false := by
    simp [fits, tailsFitting]
  rw [e, e, tailsFitting_cons]
  rfl

/-- At the end of a text a percent sign takes nothing. -/
theorem fits_percent_nil (wanted : List Char) : fits ('%' :: wanted) [] = fits wanted [] := by
  obtain ⟨rest, h⟩ := exists_tailsFitting [] wanted
  have : rest = [] := by simpa [h] using length_tailsFitting [] wanted
  rw [fits, tailsFitting, if_pos rfl, h, this]
  simp [anyLater]

/-- Any other character of a pattern takes one that it stands for. -/
theorem fits_cons {w : Char} (h : w ≠ '%') (wanted : List Char) (c : Char) (s : List Char) :
    fits (w :: wanted) (c :: s) = ((w = '_' || sameChar w c) && fits wanted s) := by
  obtain ⟨rest, hs⟩ := exists_tailsFitting s wanted
  rw [fits, tailsFitting, if_neg h, tailsFitting_cons, hs]
  rfl

end ChangeRouting.Query.Pattern
