import ChangeRouting.Change.ColumnValues
import ChangeRouting.Proofs.Work
import Mathlib.Data.List.Nodup

/-!
# ChangeRouting.Proofs.Change.ColumnValues

The values of a change stand under the names of its snapshot, place by place.

* `LinesUp` — a name stands where a value stands, in lists of any length;
* `find?_insertAll` — names that differ are bound to the values they line up with, and nothing else changes;
* `current_eq_some_iff` — which payload is current, and which names it lines up with;
* `values_line_up` — so a change binds the current values and those before it, and fails with the fault of a
  payload it needs if that cannot be read.
-/

namespace ChangeRouting

/-! ## one payload -/

/-- A name is that of some place, whose value is this. -/
def LinesUp (columns : List String) (payload : List (Option String)) (name : String)
    (value : Option String) : Prop :=
  ∃ (i : Nat) (column : String), columns[i]? = some column ∧ payload[i]? = some value ∧
    Text.uppercase name = Text.uppercase column

section payload

variable {columns : List String} {payload : List (Option String)} {column name : String}
  {value other : Option String} {values : ColumnValues}

theorem not_linesUp_nil_left : ¬LinesUp [] payload name value := by
  rintro ⟨i, column, hcolumn, -⟩
  rw [List.getElem?_nil] at hcolumn
  contradiction

theorem not_linesUp_nil_right : ¬LinesUp columns [] name value := by
  rintro ⟨i, column, -, hvalue, -⟩
  rw [List.getElem?_nil] at hvalue
  contradiction

theorem linesUp_cons_iff :
    LinesUp (column :: columns) (other :: payload) name value ↔
      Text.uppercase name = Text.uppercase column ∧ other = value ∨ LinesUp columns payload name value := by
  constructor
  · rintro ⟨i, found, hcolumn, hvalue, hname⟩
    cases i with
    | zero =>
        cases hcolumn
        cases hvalue
        exact Or.inl ⟨hname, rfl⟩
    | succ i => exact Or.inr ⟨i, found, hcolumn, hvalue, hname⟩
  · rintro (⟨hname, rfl⟩ | ⟨i, found, hcolumn, hvalue, hname⟩)
    · exact ⟨0, column, rfl, rfl, hname⟩
    · exact ⟨i + 1, found, hcolumn, hvalue, hname⟩

theorem LinesUp.mem (h : LinesUp columns payload name value) :
    Text.uppercase name ∈ columns.map Text.uppercase := by
  obtain ⟨i, column, hcolumn, -, hname⟩ := h
  rw [hname]
  exact List.mem_map_of_mem (List.mem_of_getElem? hcolumn)

/-- Names that differ are bound to the values they line up with.  Other names keep what they had. -/
theorem find?_insertAll (hnames : (columns.map Text.uppercase).Nodup) :
    (values.insertAll columns payload).find? name = some value ↔
      LinesUp columns payload name value ∨
        (∀ other, ¬LinesUp columns payload name other) ∧ values.find? name = some value := by
  induction columns generalizing payload values with
  | nil => simp [ColumnValues.insertAll, not_linesUp_nil_left]
  | cons column columns ih =>
      cases payload with
      | nil => simp [ColumnValues.insertAll, not_linesUp_nil_right]
      | cons first payload =>
          rw [List.map_cons, List.nodup_cons] at hnames
          have hstep : values.insertAll (column :: columns) (first :: payload) =
              (values.insert column first).insertAll columns payload := rfl
          rw [hstep, ih hnames.2, ColumnValues.find?_insert]
          simp only [linesUp_cons_iff]
          by_cases hname : Text.uppercase name = Text.uppercase column
          · -- the name of the first place is none of the later ones
            have hlater : ∀ other, ¬LinesUp columns payload name other := fun other h =>
              hnames.1 (hname ▸ h.mem)
            simp [hname, hlater]
          · simp [hname]

end payload

/-! ## a payload that may be absent -/

/-- A payload, if there is one, has this value in the place of a name. -/
def Supplies (supply : Option (String × List String)) (name : String) (value : Option String) : Prop :=
  ∃ payload columns values, supply = some (payload, columns) ∧ Payload.decode payload = .ok values ∧
    LinesUp columns values name value

section supply

variable {supply : Option (String × List String)} {values bound : ColumnValues} {payload name : String}
  {columns : List String} {value : Option String} {fault : Fault}

theorem bindPayload_some :
    bindPayload values (some (payload, columns)) =
      (Payload.decode payload).map (values.insertAll columns) := by
  rw [bindPayload]
  cases Payload.decode payload <;> rfl

/-- Binding fails with the fault of the payload. -/
theorem bindPayload_eq_error_iff :
    bindPayload values supply = .error fault ↔
      ∃ entry ∈ supply, Payload.decode entry.1 = .error fault := by
  cases supply with
  | none => simp [bindPayload]
  | some entry =>
      rw [bindPayload_some]
      cases hread : Payload.decode entry.1 <;> simp [Except.map, hread]

/-- What is bound is what the payload supplies, and else what was bound before. -/
theorem find?_bindPayload (hnames : ∀ entry ∈ supply, (entry.2.map Text.uppercase).Nodup)
    (h : bindPayload values supply = .ok bound) :
    bound.find? name = some value ↔
      Supplies supply name value ∨
        (∀ other, ¬Supplies supply name other) ∧ values.find? name = some value := by
  cases supply with
  | none =>
      cases h
      simp [Supplies]
  | some entry =>
      obtain ⟨payload, columns⟩ := entry
      rw [bindPayload_some] at h
      cases hread : Payload.decode payload with
      | error fault =>
          rw [hread] at h
          contradiction
      | ok read =>
          rw [hread] at h
          cases h
          have hsupplies : ∀ other, Supplies (some (payload, columns)) name other ↔
              LinesUp columns read name other := by
            intro other
            simp [Supplies, hread, ← and_assoc]
          rw [find?_insertAll (hnames _ rfl)]
          simp only [hsupplies]

end supply

/-! ## a change -/

/-- A payload holds the current values of a change, and these are their names. -/
inductive Change.IsCurrent (change : Change) (snapshot : Snapshot) : String → List String → Prop
  | row {payload : String} (hevent : change.event ≠ .delete) (h : change.row = some payload) :
    IsCurrent change snapshot payload snapshot.columns
  /-- A deletion has the values before it. -/
  | deleted {payload : String} (hevent : change.event = .delete) (h : change.old = some payload) :
    IsCurrent change snapshot payload snapshot.columns
  /-- Without them it has those of the key. -/
  | deletedKey {payload : String} (hevent : change.event = .delete) (hold : change.old = none)
    (h : change.key = some payload) : IsCurrent change snapshot payload snapshot.keyColumns

/-- The payloads that the values of a change are read from. -/
def Change.Needs (change : Change) (snapshot : Snapshot) (payload : String) : Prop :=
  (∃ names, change.IsCurrent snapshot payload names) ∨ change.old = some payload

/-- What a change binds a name to: the i-th value to the i-th name. -/
inductive Change.Binds (change : Change) (snapshot : Snapshot) (name : String) (value : Option String) :
    Prop
  | current (payload : String) (names : List String) (values : List (Option String))
    (h : change.IsCurrent snapshot payload names) (hread : Payload.decode payload = .ok values)
    (hplace : LinesUp names values name value)
  /-- The values before the change have names of their own. -/
  | before (payload : String) (values : List (Option String)) (h : change.old = some payload)
    (hread : Payload.decode payload = .ok values)
    (hplace : LinesUp (snapshot.columns.map (oldMarker ++ ·)) values name value)

section change

variable {change : Change} {snapshot : Snapshot} {payload name : String} {names : List String}
  {value other : Option String} {bound : ColumnValues} {fault : Fault}

theorem current_eq_some_iff :
    change.current snapshot = some (payload, names) ↔ change.IsCurrent snapshot payload names := by
  constructor
  · intro h
    rw [Change.current] at h
    split at h
    · next hevent =>
      split at h
      · next hold => cases h; exact .deleted hevent hold
      · next hold hkey => cases h; exact .deletedKey hevent hold hkey
      · contradiction
    · next hevent =>
      obtain ⟨row, hrow, heq⟩ := Option.map_eq_some_iff.1 h
      cases heq
      exact .row hevent hrow
  · intro h
    cases h with
    | row hevent h =>
        cases hcase : change.event <;>
          first | exact absurd hcase hevent | simp only [Change.current, hcase, h, Option.map_some]
    | deleted hevent h => simp only [Change.current, hevent, h]
    | deletedKey hevent hold h => simp only [Change.current, hevent, hold, h]

/-- The payload before a change, with the names that mark it. -/
def Change.previous (change : Change) (snapshot : Snapshot) : Option (String × List String) :=
  change.old.map (·, snapshot.columns.map (oldMarker ++ ·))

theorem binds_iff :
    change.Binds snapshot name value ↔
      Supplies (change.current snapshot) name value ∨ Supplies (change.previous snapshot) name value := by
  constructor
  · intro h
    cases h with
    | current payload names values h hread hplace =>
        exact Or.inl ⟨payload, names, values, current_eq_some_iff.2 h, hread, hplace⟩
    | before payload values h hread hplace =>
        exact Or.inr ⟨payload, _, values, by rw [Change.previous, h, Option.map_some], hread, hplace⟩
  · rintro (⟨payload, names, values, h, hread, hplace⟩ | ⟨payload, names, values, h, hread, hplace⟩)
    · exact .current payload names values (current_eq_some_iff.1 h) hread hplace
    · obtain ⟨_, hold, heq⟩ := Option.map_eq_some_iff.1 h
      cases heq
      exact .before payload values hold hread hplace

@[simp] theorem uppercase_oldMarker (column : String) :
    Text.uppercase (oldMarker ++ column) = oldMarker ++ Text.uppercase column := by
  have hmarker : Text.upper oldMarker.toList = oldMarker.toList := by decide
  rw [← String.toList_inj]
  simp [Text.uppercase, hmarker]

/-- No name has both a current value and one before the change, if no column is named as another one
before the change. -/
theorem not_supplies_previous
    (hapart : ∀ column ∈ snapshot.columns, ∀ other ∈ snapshot.columns,
      Text.uppercase column ≠ oldMarker ++ Text.uppercase other)
    (h : Supplies (change.current snapshot) name value) :
    ¬Supplies (change.previous snapshot) name other := by
  obtain ⟨payload, names, values, hcurrent, -, hplace⟩ := h
  rintro ⟨old, _, others, hprevious, -, hmarked⟩
  obtain ⟨_, hold, heq⟩ := Option.map_eq_some_iff.1 hprevious
  cases heq
  -- where there is a row before the change, the key is not current
  have hnames : names = snapshot.columns := by
    cases current_eq_some_iff.1 hcurrent with
    | row | deleted => rfl
    | deletedKey _ hnone _ =>
        rw [hold] at hnone
        contradiction
  obtain ⟨column, hcolumn, hname⟩ := List.mem_map.1 (hnames ▸ hplace.mem)
  obtain ⟨_, hmem, hother⟩ := List.mem_map.1 hmarked.mem
  obtain ⟨marked, hmarked, rfl⟩ := List.mem_map.1 hmem
  rw [uppercase_oldMarker] at hother
  exact hapart column hcolumn marked hmarked (hname.trans hother.symm)

theorem nodup_previous (hcolumns : (snapshot.columns.map Text.uppercase).Nodup)
    (entry : String × List String) (h : entry ∈ change.previous snapshot) :
    (entry.2.map Text.uppercase).Nodup := by
  obtain ⟨_, -, rfl⟩ := Option.map_eq_some_iff.1 h
  have hmarked : (snapshot.columns.map (oldMarker ++ ·)).map Text.uppercase =
      (snapshot.columns.map Text.uppercase).map (oldMarker ++ ·) := by
    rw [List.map_map, List.map_map]
    exact List.map_congr_left fun column _ => uppercase_oldMarker column
  rw [hmarked]
  exact hcolumns.map fun one other heq => (String.append_right_inj _).1 heq

theorem nodup_current (hcolumns : (snapshot.columns.map Text.uppercase).Nodup)
    (hkeys : (snapshot.keyColumns.map Text.uppercase).Nodup) (entry : String × List String)
    (h : entry ∈ change.current snapshot) : (entry.2.map Text.uppercase).Nodup := by
  obtain ⟨payload, names⟩ := entry
  cases current_eq_some_iff.1 h with
  | row | deleted => exact hcolumns
  | deletedKey => exact hkeys

/-- The values that are read are those of the payloads. -/
theorem find?_values (hcolumns : (snapshot.columns.map Text.uppercase).Nodup)
    (hkeys : (snapshot.keyColumns.map Text.uppercase).Nodup)
    (hapart : ∀ column ∈ snapshot.columns, ∀ other ∈ snapshot.columns,
      Text.uppercase column ≠ oldMarker ++ Text.uppercase other)
    (h : change.values snapshot = .ok bound) :
    bound.find? name = some value ↔ change.Binds snapshot name value := by
  obtain ⟨mid, hmid, hbound⟩ := except_bind_eq_ok.1 h
  have hempty : ColumnValues.empty.find? name ≠ some value := fun h => by cases h
  rw [find?_bindPayload (nodup_previous hcolumns) hbound,
    find?_bindPayload (nodup_current hcolumns hkeys) hmid, binds_iff]
  constructor
  · rintro (hbefore | ⟨-, hcurrent | ⟨-, hfound⟩⟩)
    · exact Or.inr hbefore
    · exact Or.inl hcurrent
    · exact absurd hfound hempty
  · rintro (hcurrent | hbefore)
    · exact Or.inr ⟨fun _ => not_supplies_previous hapart hcurrent, Or.inl hcurrent⟩
    · exact Or.inl hbefore

/-- Reading the values fails with the fault of a payload that is needed. -/
theorem values_eq_error (h : change.values snapshot = .error fault) :
    ∃ payload, change.Needs snapshot payload ∧ Payload.decode payload = .error fault := by
  cases hmid : bindPayload .empty (change.current snapshot) with
  | error first =>
      have heq : fault = first := by
        have hrun : change.values snapshot = .error first := by
          rw [Change.values, hmid]
          rfl
        exact Except.error.inj (h.symm.trans hrun)
      subst heq
      obtain ⟨⟨payload, names⟩, hcurrent, hread⟩ := bindPayload_eq_error_iff.1 hmid
      exact ⟨payload, Or.inl ⟨names, current_eq_some_iff.1 hcurrent⟩, hread⟩
  | ok mid =>
      have hlast : bindPayload mid (change.previous snapshot) = .error fault := by
        rw [← h, Change.values, hmid]
        rfl
      obtain ⟨⟨payload, names⟩, hprevious, hread⟩ := bindPayload_eq_error_iff.1 hlast
      obtain ⟨_, hold, heq⟩ := Option.map_eq_some_iff.1 hprevious
      cases heq
      exact ⟨payload, Or.inr hold, hread⟩

/-- Reading the values needs every payload it needs. -/
theorem decode_of_values (hneeds : change.Needs snapshot payload)
    (h : change.values snapshot = .ok bound) : ∃ values, Payload.decode payload = .ok values := by
  obtain ⟨mid, hmid, hbound⟩ := except_bind_eq_ok.1 h
  by_contra hbroken
  obtain ⟨fault, hfault⟩ := exists_error_iff.2 hbroken
  obtain ⟨names, hcurrent⟩ | hold := hneeds
  · rw [bindPayload_eq_error_iff.2 ⟨_, current_eq_some_iff.2 hcurrent, hfault⟩] at hmid
    contradiction
  · have hprevious : (payload, snapshot.columns.map (oldMarker ++ ·)) ∈ change.previous snapshot :=
      Option.map_eq_some_iff.2 ⟨payload, hold, rfl⟩
    rw [show change.old.map _ = change.previous snapshot from rfl,
      bindPayload_eq_error_iff.2 ⟨_, hprevious, hfault⟩] at hbound
    contradiction

/-- The values of a change line up with the names of its snapshot, in any spelling and in payloads of any
length.  No other name is bound.  If a payload that is needed cannot be read, its fault is all there is. -/
theorem values_line_up (change : Change) (snapshot : Snapshot)
    (hcolumns : (snapshot.columns.map Text.uppercase).Nodup)
    (hkeys : (snapshot.keyColumns.map Text.uppercase).Nodup)
    (hapart : ∀ column ∈ snapshot.columns, ∀ other ∈ snapshot.columns,
      Text.uppercase column ≠ oldMarker ++ Text.uppercase other) :
    ((∀ payload, change.Needs snapshot payload → ∃ values, Payload.decode payload = .ok values) →
      ∃ bound, change.values snapshot = .ok bound ∧
        ∀ name value, bound.find? name = some value ↔ change.Binds snapshot name value) ∧
    ((∃ payload, change.Needs snapshot payload ∧ ¬∃ values, Payload.decode payload = .ok values) →
      ∃ payload fault, change.Needs snapshot payload ∧ Payload.decode payload = .error fault ∧
        change.values snapshot = .error fault) := by
  constructor
  · intro hneeds
    cases hvalues : change.values snapshot with
    | ok bound => exact ⟨bound, rfl, fun _ _ => find?_values hcolumns hkeys hapart hvalues⟩
    | error fault =>
        obtain ⟨payload, hneeded, hread⟩ := values_eq_error hvalues
        obtain ⟨values, hok⟩ := hneeds payload hneeded
        rw [hok] at hread
        contradiction
  · rintro ⟨payload, hneeded, hbroken⟩
    cases hvalues : change.values snapshot with
    | ok bound => exact absurd (decode_of_values hneeded hvalues) hbroken
    | error fault =>
        obtain ⟨culprit, hculprit, hread⟩ := values_eq_error hvalues
        exact ⟨culprit, fault, hculprit, hread, rfl⟩

/-- A deletion that only has a key, which is too short for the names of the key. -/
theorem values_line_up_deletedKey :
    let snapshot : Snapshot :=
      { id := 1, trigger := "items", table := "item", columns := ["Id", "Region", "Name"],
        keyColumns := ["Id", "Region"] }
    let change : Change :=
      { id := 7, table := "item", event := .delete, row := none, key := some "[\"1\"]", old := none,
        snapshot := 1, channel := "orders", transaction := none, source := none, createTime := 0,
        storedSize := none }
    ∃ bound, change.values snapshot = .ok bound ∧
      ∀ name value, bound.find? name = some value ↔ Text.uppercase name = "ID" ∧ value = some "1" := by
  intro snapshot change
  have hread : Payload.decode "[\"1\"]" = .ok [some "1"] := by decide +kernel
  have hname : Text.uppercase "Id" = "ID" := by decide +kernel
  have hcurrent : change.IsCurrent snapshot "[\"1\"]" ["Id", "Region"] := .deletedKey rfl rfl rfl
  have honly : ∀ payload names, change.IsCurrent snapshot payload names →
      payload = "[\"1\"]" ∧ names = ["Id", "Region"] := by
    intro payload names h
    cases h with
    | row hevent => exact absurd rfl hevent
    | deleted _ h => cases h
    | deletedKey _ _ h => exact ⟨(Option.some.inj h).symm, rfl⟩
  obtain ⟨bound, hbound, hfind⟩ := (values_line_up change snapshot (by decide +kernel) (by decide +kernel)
    (by decide +kernel)).1 (by
      rintro payload (⟨names, h⟩ | h)
      · obtain ⟨rfl, -⟩ := honly payload names h
        exact ⟨_, hread⟩
      · cases h)
  refine ⟨bound, hbound, fun name value => ⟨fun h => ?_, ?_⟩⟩
  · cases (hfind name value).1 h with
    | current payload names values h hdecoded hplace =>
        obtain ⟨rfl, rfl⟩ := honly payload names h
        cases hread.symm.trans hdecoded
        obtain hplace | hplace := linesUp_cons_iff.1 hplace
        · exact ⟨hplace.1.trans hname, hplace.2.symm⟩
        · exact absurd hplace not_linesUp_nil_right
    | before _ _ h => cases h
  · rintro ⟨h, rfl⟩
    have hplace : LinesUp ["Id", "Region"] [some "1"] name (some "1") :=
      linesUp_cons_iff.2 (Or.inl ⟨h.trans hname.symm, rfl⟩)
    exact (hfind name _).2 (.current _ _ _ hcurrent hread hplace)

end change

end ChangeRouting
