import ChangeRouting.Proofs.Read.Rows
import ChangeRouting.Proofs.Read.Trail

/-!
# ChangeRouting.Proofs.Read.Queries

Either way of asking the log reads exactly the gaps, however they overlap.

* `ofRanges_ok` — of rows that can all be read, those routed before are skipped and the others queued;
* `fault_alongGaps` — nor does walking along the gaps meet a fault then;
* `content_of_readable` — so both ways give the rows in the gaps;
* `queries_read_the_gaps` — a reading queues the rows in the gaps that were not routed before, each once and
  in id order, lists the others as skipped and comes to its end, whichever way the log is asked.
-/

namespace ChangeRouting

/-- A row at or below the mark of its own transaction. -/
def AlreadyRouted (marks : Marks) (row : ChangeRow) : Prop :=
  ∃ transaction mark, row.transaction = some transaction ∧ marks.lookup transaction = some mark ∧
    row.id ≤ mark

/-- An id in at least one of the gaps. -/
def LiesIn (gaps : List Gap) (id : Int) : Prop := ∃ gap ∈ gaps, gap.start ≤ id ∧ id ≤ gap.stop

/-- Ranges of ids are answered with the rows of a channel that lie in some range, in the order of the log,
each as far as it can be read. -/
def AnswersChain (inRanges : List (Int × Int) → Except Fault (List (Except Fault Change)))
    (options : ReadOptions) (rows : List ChangeRow) (ranges : List (Int × Int)) : Prop :=
  inRanges ranges = .ok (((rows.filter (·.channel = options.channel)).filter fun row =>
    ranges.any fun (start, stop) => start ≤ row.id ∧ row.id ≤ stop).map (·.read options.columns))

/-- A reading came to its end, queued exactly the rows of its channel in the gaps that were not routed
before, and skipped those that were. -/
structure ReadsExactly (options : ReadOptions) (rows : List ChangeRow) (gaps : List Gap) (marks : Marks)
    (reading : Reading) : Prop where
  queued : ∀ change, change ∈ reading.changes ↔ ∃ row ∈ rows, row.channel = options.channel ∧
    LiesIn gaps row.id ∧ ¬AlreadyRouted marks row ∧ row.read options.columns = .ok change
  /-- Each once, in id order. -/
  ascending : reading.changes.Pairwise (·.id < ·.id)
  skipped : ∀ id, id ∈ reading.skipped ↔ ∃ row ∈ rows, row.id = id ∧ row.channel = options.channel ∧
    LiesIn gaps row.id ∧ AlreadyRouted marks row
  ascendingSkipped : reading.skipped.Pairwise (· < ·)
  exhausted : reading.isExhausted = true

section queries

variable {columns : PayloadColumns} {rows : List ChangeRow} {row : ChangeRow} {change : Change}
  {gaps : List Gap} {marks : Marks}

/-! ## rows that can be read -/

theorem exists_met (hread : ∀ row ∈ rows, ∃ change, row.read columns = .ok change) :
    ∃ met : List Change, rows.map (·.read columns) = met.map .ok ∧
      met.map Change.id = rows.map ChangeRow.id := by
  induction rows with
  | nil => exact ⟨[], rfl, rfl⟩
  | cons row rows ih =>
      obtain ⟨change, hchange⟩ := hread row List.mem_cons_self
      obtain ⟨met, hmet, hids⟩ := ih fun other hother => hread other (List.mem_cons_of_mem _ hother)
      exact ⟨change :: met, by simp [hchange, hmet], by simp [id_of_read hchange, hids]⟩

/-- Rows that can all be read are met one by one. -/
theorem ofRanges_ok (marks : Marks) (met : List Change) :
    Reading.ofRanges marks (met.map .ok) =
      ⟨met.filter (!Reading.isMarked marks ·), (met.filter (Reading.isMarked marks ·)).map Change.id,
        none, false⟩ := by
  induction met with
  | nil => rfl
  | cons change met ih =>
      rw [List.map_cons, Reading.ofRanges, ih, Reading.meet]
      cases hmarked : Reading.isMarked marks change <;> simp [hmarked]

/-- Walking along the gaps meets no fault if all rows can be read. -/
theorem fault_alongGaps (marks : Marks) (gaps : List Gap) (met : List Change) :
    (Reading.alongGaps marks gaps (met.map .ok)).fault = none := by
  induction met generalizing gaps with
  | nil => rfl
  | cons change met ih =>
      rw [List.map_cons, Reading.alongGaps]
      cases gaps.dropWhile (·.stop < change.id) with
      | nil => rfl
      | cons gap later =>
          by_cases hin : gap.contains change.id <;> simp [hin, fault_meet, ih]

theorem isMarked_iff (h : row.read columns = .ok change) :
    Reading.isMarked marks change = true ↔ AlreadyRouted marks row := by
  have hid := id_of_read h
  have htransaction : change.transaction = row.transaction := by
    rw [ChangeRow.read] at h
    split at h
    · cases h
    · cases h
      rfl
  rw [Reading.isMarked, AlreadyRouted, hid, htransaction]
  cases row.transaction with
  | none => simp
  | some transaction => cases hmark : marks.lookup transaction <;> simp [hmark]

theorem mem_wanted {channel : String} :
    row ∈ wanted rows channel gaps ↔ row ∈ rows ∧ row.channel = channel ∧ LiesIn gaps row.id := by
  simp [wanted, LiesIn, Gap.contains_iff, and_comm]

/-! ## both ways of asking -/

variable {inRanges : List (Int × Int) → Except Fault (List (Except Fault Change))} {options : ReadOptions}
  {store : Store} {log : Numbered ChangeRow}

/-- Few enough ranges are answered by the store itself. -/
theorem answersChain_changesInRanges (options : ReadOptions) {ranges : List (Int × Int)}
    (hlog : store.changes = some log) (hfew : ranges.length ≤ Store.mostRanges) :
    AnswersChain (store.changesInRanges options.channel · options.columns) options log.rows ranges := by
  simp [AnswersChain, Store.changesInRanges, hlog, Nat.not_lt.2 hfew]

/-- A reading of rows that can all be read meets no fault. -/
theorem fault_readBy (hlog : store.changes = some log)
    (hread : ∀ row ∈ log.rows, ∃ change, row.read options.columns = .ok change)
    (hchain : gaps.length ≤ options.maxRanges →
      AnswersChain inRanges options log.rows (gaps.map fun gap => (gap.start, gap.stop))) :
    (readBy inRanges options gaps marks store).fault = none := by
  have hmet : ∀ p : ChangeRow → Bool, ∃ met : List Change,
      ((log.rows.filter (·.channel = options.channel)).filter p).map (·.read options.columns) =
        met.map .ok := by
    intro p
    obtain ⟨met, hmet, -⟩ := exists_met fun row hrow =>
      hread row (List.mem_of_mem_filter (List.mem_of_mem_filter (p := p) hrow))
    exact ⟨met, hmet⟩
  cases gaps with
  | nil => rfl
  | cons gap later =>
      rw [readBy]
      by_cases hmany : options.maxRanges < (gap :: later).length
      · obtain ⟨met, hmet⟩ := hmet (gap.start ≤ ·.id)
        simp only [hmany, if_true, Store.changesFrom, hlog, hmet]
        exact fault_alongGaps marks _ met
      · obtain ⟨met, hmet⟩ := hmet fun row =>
          ((gap :: later).map fun gap => (gap.start, gap.stop)).any fun (start, stop) =>
            start ≤ row.id ∧ row.id ≤ stop
        have hasked := hchain (Nat.not_lt.1 hmany)
        rw [AnswersChain, hmet] at hasked
        simp only [hmany, if_false, hasked, ofRanges_ok]

/-- Either way of asking gives the rows in the gaps, if all rows can be read. -/
theorem content_of_readable (hlog : store.changes = some log)
    (hrows : log.rows.Pairwise (·.id < ·.id))
    (hread : ∀ row ∈ log.rows, ∃ change, row.read options.columns = .ok change)
    (hgaps : gaps.Pairwise fun a b => a.start ≤ b.start)
    (hchain : gaps.length ≤ options.maxRanges →
      AnswersChain inRanges options log.rows (gaps.map fun gap => (gap.start, gap.stop))) :
    (readBy inRanges options gaps marks store).content =
      (Reading.ofRanges marks ((wanted log.rows options.channel gaps).map
        (·.read options.columns))).content := by
  refine content_readBy hlog hrows hgaps (fun hfew answers hanswers => ?_)
    (fault_readBy hlog hread hchain)
  have hasked := hchain hfew
  rw [AnswersChain, hanswers] at hasked
  cases hasked
  simp only [wanted, List.any_map]
  rfl

/-- Rows in id order that can all be read are read exactly. -/
theorem ReadsExactly.of_content {reading : Reading} (hrows : rows.Pairwise (·.id < ·.id))
    (hread : ∀ row ∈ rows, ∃ change, row.read options.columns = .ok change)
    (hcontent : reading.content =
      (Reading.ofRanges marks ((wanted rows options.channel gaps).map (·.read options.columns))).content) :
    ReadsExactly options rows gaps marks reading := by
  obtain ⟨met, hmet, hids⟩ := exists_met fun row hrow => hread row (mem_wanted.1 hrow).1
  rw [hmet, ofRanges_ok] at hcontent
  simp only [Reading.content, Prod.mk.injEq] at hcontent
  obtain ⟨hchanges, hskipped, hfault⟩ := hcontent
  have hmem : ∀ change, change ∈ met ↔
      ∃ row ∈ wanted rows options.channel gaps, row.read options.columns = .ok change := by
    intro change
    have hiff : .ok change ∈ met.map (Except.ok (ε := Fault)) ↔ change ∈ met := by simp
    rw [← hiff, ← hmet, List.mem_map]
  have hascending : met.Pairwise (·.id < ·.id) := by
    rw [← List.pairwise_map (f := Change.id) (R := (· < ·)), hids, List.pairwise_map]
    exact (hrows.filter _).filter _
  exact {
    queued := by
      intro change
      rw [hchanges, List.mem_filter, hmem]
      constructor
      · rintro ⟨⟨row, hrow, hok⟩, hnot⟩
        obtain ⟨hlogged, hchannel, hlies⟩ := mem_wanted.1 hrow
        exact ⟨row, hlogged, hchannel, hlies, by simpa [← isMarked_iff hok] using hnot, hok⟩
      · rintro ⟨row, hlogged, hchannel, hlies, hnot, hok⟩
        exact ⟨⟨row, mem_wanted.2 ⟨hlogged, hchannel, hlies⟩, hok⟩, by simpa [← isMarked_iff hok] using hnot⟩
    ascending := hchanges ▸ hascending.filter _
    skipped := by
      intro id
      simp only [hskipped, List.mem_map, List.mem_filter, hmem]
      constructor
      · rintro ⟨change, ⟨⟨row, hrow, hok⟩, hmarked⟩, rfl⟩
        obtain ⟨hlogged, hchannel, hlies⟩ := mem_wanted.1 hrow
        exact ⟨row, hlogged, (id_of_read hok).symm, hchannel, hlies, (isMarked_iff hok).1 hmarked⟩
      · rintro ⟨row, hlogged, rfl, hchannel, hlies, hrouted⟩
        obtain ⟨change, hok⟩ := hread row hlogged
        exact ⟨change, ⟨⟨row, mem_wanted.2 ⟨hlogged, hchannel, hlies⟩, hok⟩, (isMarked_iff hok).2 hrouted⟩,
          id_of_read hok⟩
    ascendingSkipped := by
      rw [hskipped, List.pairwise_map]
      exact hascending.filter _
    exhausted := by rw [Reading.isExhausted, hfault, Option.isNone_none] }

theorem fromFirst_readBy (hlog : store.changes = some log)
    (hchain : gaps.length ≤ options.maxRanges →
      AnswersChain inRanges options log.rows (gaps.map fun gap => (gap.start, gap.stop))) :
    (readBy inRanges options gaps marks store).fromFirst = decide (options.maxRanges < gaps.length) := by
  cases gaps with
  | nil => rfl
  | cons gap later =>
      rw [readBy]
      by_cases hmany : options.maxRanges < (gap :: later).length
      · simp only [hmany, if_true, Store.changesFrom, hlog, alongGaps_eq, decide_true]
      · have hasked := hchain (Nat.not_lt.1 hmany)
        rw [AnswersChain] at hasked
        simp only [hmany, if_false, hasked, fromFirst_ofRanges, decide_false]

/-- However the gaps overlap and whichever way the log is asked, a reading queues the rows of its channel in
the gaps that were not routed before, each once and in id order, skips the others and comes to its end.  The
log is asked from the first gap on exactly if there are more gaps than ranges may be asked for, and what the
reading gives does not depend on it. -/
theorem queries_read_the_gaps (hlog : store.changes = some log)
    (hrows : log.rows.Pairwise (·.id < ·.id))
    (hread : ∀ row ∈ log.rows, ∃ change, row.read options.columns = .ok change)
    (hgaps : gaps.Pairwise fun a b => a.start ≤ b.start)
    (hchain : AnswersChain inRanges options log.rows (gaps.map fun gap => (gap.start, gap.stop))) :
    ReadsExactly options log.rows gaps marks (readBy inRanges options gaps marks store) ∧
      (readBy inRanges options gaps marks store).fromFirst = decide (options.maxRanges < gaps.length) ∧
      ∀ most, (readBy inRanges { options with maxRanges := most } gaps marks store).content =
        (readBy inRanges options gaps marks store).content := by
  have hcontent : ∀ most, (readBy inRanges { options with maxRanges := most } gaps marks store).content =
      (Reading.ofRanges marks ((wanted log.rows options.channel gaps).map
        (·.read options.columns))).content :=
    fun most => content_of_readable hlog hrows hread hgaps fun _ => hchain
  exact ⟨.of_content hrows hread (hcontent options.maxRanges), fromFirst_readBy hlog fun _ => hchain,
    fun most => (hcontent most).trans (hcontent options.maxRanges).symm⟩

/-- A store reads exactly the gaps unless it is asked for more ranges than a statement may name. -/
theorem readsExactly_read (hlog : store.changes = some log)
    (hrows : log.rows.Pairwise (·.id < ·.id))
    (hread : ∀ row ∈ log.rows, ∃ change, row.read options.columns = .ok change)
    (hgaps : gaps.Pairwise fun a b => a.start ≤ b.start)
    (hlimits : gaps.length ≤ options.maxRanges → gaps.length ≤ Store.mostRanges) :
    ReadsExactly options log.rows gaps marks (read options gaps marks store) :=
  .of_content hrows hread <| content_of_readable hlog hrows hread hgaps fun hfew =>
    answersChain_changesInRanges options hlog (by simpa using hlimits hfew)

end queries

/-! ## gaps that overlap -/

/-- A row that can be read. -/
def noted (id : Int) (channel : String) (transaction : Option String) : ChangeRow :=
  ⟨id, "item", "I", none, none, none, 1, channel, transaction, none, 0⟩

/-- A log of two channels. -/
def notedLog : List ChangeRow :=
  [noted 1 "notes" (some "a"), noted 2 "notes" none, noted 3 "prices" none, noted 4 "notes" (some "a"),
    noted 6 "notes" (some "b"), noted 8 "notes" (some "a"), noted 9 "notes" none, noted 10 "notes" none]

/-- A store with this log. -/
def notedStore : Store := { Store.empty with changes := some ⟨notedLog, 10⟩ }

/-- A gap within another one, one that overlaps with it, one that touches that, and one id alone. -/
def crossing : List Gap :=
  [⟨1, 4, .active, 0, 0⟩, ⟨2, 3, .active, 0, 0⟩, ⟨4, 6, .active, 0, 0⟩, ⟨7, 8, .active, 0, 0⟩,
    ⟨10, 10, .active, 0, 0⟩]

/-- Ask for up to so many ranges. -/
def askingFor (most : Nat) : ReadOptions := ⟨"notes", .all, most⟩

/-- Read one of the channels. -/
def readNotes (most : Nat) : Reading :=
  readBy (notedStore.changesInRanges "notes" · .all) (askingFor most) crossing [("a", 4)] notedStore

/-- The row between the gaps is left out, and the rows up to the mark are skipped, whichever way the log is
asked. -/
theorem queries_read_the_gaps_crossing :
    ReadsExactly (askingFor 9) notedLog crossing [("a", 4)] (readNotes 9) ∧
      (readNotes 9).fromFirst = false ∧ (readNotes 2).fromFirst = true ∧
      (readNotes 2).content = (readNotes 9).content ∧
      (readNotes 9).changes.map Change.id = [2, 6, 8, 10] ∧ (readNotes 9).skipped = [1, 4] := by
  have hlog : notedStore.changes = some ⟨notedLog, 10⟩ := rfl
  have hrows : notedLog.Pairwise (·.id < ·.id) := by decide
  have hread : ∀ row ∈ notedLog, ∃ change, row.read PayloadColumns.all = .ok change := by
    have hok : ∀ row ∈ notedLog, (row.read PayloadColumns.all).toOption.isSome := by decide +kernel
    intro row hrow
    cases hrowRead : row.read PayloadColumns.all with
    | error fault =>
        have hsome := hok row hrow
        rw [hrowRead] at hsome
        exact absurd hsome Bool.false_ne_true
    | ok change => exact ⟨change, rfl⟩
  have hgaps : crossing.Pairwise fun a b => a.start ≤ b.start := by decide
  have hfew : (crossing.map fun gap => (gap.start, gap.stop)).length ≤ Store.mostRanges := by decide
  have hchain : AnswersChain (notedStore.changesInRanges "notes" · .all) (askingFor 9) notedLog
      (crossing.map fun gap => (gap.start, gap.stop)) := answersChain_changesInRanges (askingFor 9) hlog hfew
  obtain ⟨hexactly, hfirst, halike⟩ := queries_read_the_gaps hlog hrows hread hgaps hchain
  exact ⟨hexactly, hfirst, by decide +kernel, halike 2, by decide +kernel, by decide +kernel⟩

end ChangeRouting
