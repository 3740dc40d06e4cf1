import ChangeRouting.Proofs.Query.Engine
import ChangeRouting.Proofs.Service.Abreast
import ChangeRouting.Proofs.Service.World

/-!
# ChangeRouting.Proofs.Service.Independence

Channels do not depend on each other, nor on their order.

* `Store.Orderly` — the tables of a store are there, and its ids were given out one after the other;
* `Service.NeverShort` — no pass of a cycle runs out of ids for batches;
* `cycle_of_order` — the order of the channels does not show in what a cycle leaves;
* `cycle_of_others` — what a cycle does on a channel does not depend on the rows of the others;
* `channels_are_independent` — both, for a service that was set up.
-/

namespace ChangeRouting

/-- The tables of a store are there, its log is in id order, it lists no range twice, and no batch and no
event has a batch id still to be given out. -/
structure Store.Orderly (store : Store) (rows : List GapRow) (log : Numbered ChangeRow) (book : Book) :
    Prop where
  gaps : store.gaps = some rows
  keyed : Keyed rows
  changes : store.changes = some log
  ascending : log.rows.Pairwise (·.id < ·.id)
  shows : store.Shows book
  issued : book.Issued
  eventsIssued : book.EventsIssued
  watermarks : ∃ marks, store.watermarks = some marks

/-- No pass of a cycle on the store fails because there is no id left for a batch. -/
def Service.NeverShort (service : Service) (circumstances : Circumstances) (store : Store) : Prop :=
  let course := service.course (service.passes circumstances.stalls) circumstances.now store
  ∀ turn ∈ course.turns,
    ¬turn.Short (service.passes circumstances.stalls course.lookups course.gaps)

/-- A channel reads the same from two stores: over the same ranges, or over ranges that hold the same ids
and without a fault over either. -/
def Service.ReadsAlike (service : Service) (channel : String) (gaps otherGaps : List Gap)
    (store other : Store) : Prop :=
  gaps.map Gap.range = otherGaps.map Gap.range ∨
    (∀ id, Held (gaps.map Gap.range) id ↔ Held (otherGaps.map Gap.range) id) ∧
      ∀ candidate ∈ service.channels, candidate.id = channel →
        (service.readingOf gaps candidate store).fault = none ∧
          (service.readingOf otherGaps candidate other).fault = none

theorem Service.ReadsAlike.held {service : Service} {channel : String} {gaps otherGaps : List Gap}
    {store other : Store} (h : service.ReadsAlike channel gaps otherGaps store other) (id : Int) :
    Held (gaps.map Gap.range) id ↔ Held (otherGaps.map Gap.range) id := by
  cases h with
  | inl hranges => rw [hranges]
  | inr hheld => exact hheld.1 id

section cycle

variable {service : Service} {circumstances : Circumstances} {store left : Store} {course : Course}
  {rows before : List GapRow} {log : Numbered ChangeRow} {book : Book} {hidden : List TableName}

theorem Store.Orderly.ready (h : store.Orderly rows log book) (before : List GapRow) :
    (store.withGaps before).Ready :=
  ⟨⟨book, ⟨h.shows.batches, h.shows.events⟩, h.eventsIssued⟩, h.watermarks⟩

theorem Service.NeverShort.turns (h : service.NeverShort circumstances store)
    (hwent : service.Went (service.passes circumstances.stalls) circumstances.now store course) :
    ∀ turn ∈ course.turns,
      ¬turn.Short (service.passes circumstances.stalls course.lookups course.gaps) := by
  rw [Service.NeverShort, ← hwent.eq_course] at h
  exact h

/-- The gaps after the turns of a cycle can always be brought up to date. -/
theorem exists_reconcile {host : Service}
    (hwent : host.Went (service.passes circumstances.stalls) circumstances.now store course)
    (hgaps : course.loaded.gaps = some before) (hlog : course.loaded.changes = some log) :
    ∃ report left,
      (reconcile service.gapPolicy course.gaps course.state.coverage circumstances.visibility
        circumstances.now circumstances.now).on course.ended = (.ok report, left) ∧
      left.gaps = some (purged service.gapPolicy circumstances.now
        (Grounds.settled ⟨service.gapPolicy, course.state.coverage, circumstances.visibility,
          circumstances.now, log⟩ circumstances.now course.gaps before)) := by
  have hgiven : course.ended.given = course.loaded.given := by
    rw [hwent.ended]
    exact @given_storeAfter service circumstances.stalls .none course.lookups course.gaps _ _
  rw [Store.given, Store.given, Prod.mk.injEq] at hgiven
  obtain ⟨count, hleft⟩ := reconcile_on ⟨service.gapPolicy, course.state.coverage,
    circumstances.visibility, circumstances.now, log⟩ (hgiven.1.trans hgaps) (hgiven.2.trans hlog)
    circumstances.now course.gaps
  exact ⟨_, _, hleft, rfl⟩

/-! ## the order of the channels -/

/-- The order of the channels does not show in what a cycle leaves. -/
theorem cycle_of_order {channels : List Channel} {report : CycleReport} {after : Service}
    (hids : (service.config.channels.map Channel.id).Nodup)
    (hperm : channels.Perm service.config.channels) (hoverlooks : service.Overlooks batchTables)
    (hstore : store.Orderly rows log book)
    (hcommit : service.cycle circumstances store = (.ok report, after, left))
    (hlong : service.NeverShort circumstances store)
    (hotherLong : (service.arranged channels).NeverShort circumstances store) :
    ∃ otherReport otherAfter otherLeft,
      (service.arranged channels).cycle circumstances store = (.ok otherReport, otherAfter, otherLeft) ∧
      otherLeft.gaps = left.gaps ∧
      (∀ channel, otherLeft.watermarkOf channel = left.watermarkOf channel) ∧
      ∀ channel node, otherLeft.lots channel node = left.lots channel node := by
  obtain ⟨course, gaps, hwent, hreconcile, -, -⟩ := cycleBy_eq_ok.1 hcommit
  obtain ⟨before, -, hloaded, -⟩ := loadGaps_eq_ok hstore.gaps hwent.gaps
  let run := service.passes circumstances.stalls course.lookups course.gaps
  let other : Course := ⟨course.gaps, course.lookups, course.loaded,
    turns run (service.arranged channels).channels course.loaded,
    storeAfter run (service.arranged channels).channels course.loaded⟩
  have hother : (service.arranged channels).Went (service.passes circumstances.stalls)
      circumstances.now store other := ⟨hwent.gaps, hwent.snapshots, hwent.nodes, rfl, rfl⟩
  have hlog : course.loaded.changes = some log := by
    rw [hloaded]
    exact hstore.changes
  have hgaps : course.loaded.gaps = some before := by rw [hloaded]; rfl
  have hpresents : course.loaded.Presents batchTables (course.loaded.view batchTables) :=
    ⟨hloaded ▸ hstore.ready before, rfl⟩
  have hblind : service.Blind batchTables := ⟨fun _ h => h, hoverlooks⟩
  have hotherLong' : ∀ turn ∈ other.turns, ¬turn.Short run := by
    rw [← service.passes_arranged channels] at hother
    have h := hotherLong.turns hother
    rw [service.passes_arranged channels] at h
    exact h
  have hagree : ∀ channel, service.AgreeOn channel course other := fun channel =>
    agreeOn_of_went hblind hperm hids hwent hother rfl ⟨hpresents, hpresents⟩ hlog hstore.ascending hlog
      hstore.ascending (hlong.turns hwent) hotherLong' fun _ _ _ => rfl
  obtain ⟨_, _, hreconcile', hleft⟩ := exists_reconcile hwent hgaps hlog
  obtain ⟨otherGaps, otherLeft, hotherReconcile, hotherLeft⟩ := exists_reconcile hother hgaps hlog
  rw [hreconcile, Prod.mk.injEq] at hreconcile'
  obtain ⟨-, rfl⟩ := hreconcile'
  obtain ⟨marks, hmarks⟩ := hstore.watermarks
  have hlots := fun channel => same_lots (hagree channel) hstore.issued hstore.eventsIssued hstore.shows
    hstore.shows hmarks hmarks hwent hreconcile hother hotherReconcile
  refine ⟨Service.reportOf other.state otherGaps, (service.arranged channels).rememberAll other.state.passes,
    otherLeft, ?_, ?_, fun channel => (hlots channel).2, fun channel => (hlots channel).1⟩
  · rw [Service.cycle, service.passes_arranged]
    exact cycleBy_eq_ok.2 ⟨other, otherGaps, hother, hotherReconcile, rfl, rfl⟩
  · let on : Grounds := ⟨service.gapPolicy, course.state.coverage, circumstances.visibility,
      circumstances.now, log⟩
    rw [hleft, hotherLeft, ← on.settled_of_reach fun channel => (hagree channel).reach.symm]

/-! ## the rows of other channels -/

/-- What is in the log and in the gap table cannot be seen where they are hidden. -/
theorem view_of_given (hchanges : TableName.changes ∈ hidden) (hgaps : TableName.gaps ∈ hidden)
    (store : Store) (log otherLog : Numbered ChangeRow) (rows otherRows : List GapRow) :
    Store.view hidden { store with changes := some log, gaps := some rows } =
      Store.view hidden { store with changes := some otherLog, gaps := some otherRows } := by
  have htables : ∀ name,
      (Store.view hidden { store with changes := some log, gaps := some rows }).tables name =
        (Store.view hidden { store with changes := some otherLog, gaps := some otherRows }).tables name := by
    intro name
    cases name with
    | changes => simp [Store.view, Store.typed?, hchanges]
    | gaps => simp [Store.view, Store.typed?, hgaps]
    | _ => rfl
  exact congrArg (View.mk store.nodes store.redirects store.foreign) (funext htables)

/-- Passes over gaps that a channel reads alike read the same. -/
theorem content_of_readsAlike {channel : String} {gaps otherGaps : List Gap} {other : Store}
    {otherLog : Numbered ChangeRow} {candidate : Channel}
    (hreads : service.ReadsAlike channel gaps otherGaps store other)
    (hlog : store.changes = some log) (hother : other.changes = some otherLog)
    (hasc : log.rows.Pairwise (·.id < ·.id)) (hotherAsc : otherLog.rows.Pairwise (·.id < ·.id))
    (hgaps : gaps.Pairwise fun a b => a.start ≤ b.start)
    (hotherGaps : otherGaps.Pairwise fun a b => a.start ≤ b.start)
    (hrows : log.rows.filter (·.channel = channel) = otherLog.rows.filter (·.channel = channel))
    (hmem : candidate ∈ service.channels) (hid : candidate.id = channel) :
    (service.readingOf gaps candidate store).content =
      (service.readingOf otherGaps candidate other).content := by
  subst hid
  cases hreads with
  | inl hranges =>
      exact congrArg Reading.content (read_congr hranges hlog hother hrows)
  | inr hheld =>
      obtain ⟨hfault, hotherFault⟩ := hheld.2 candidate hmem rfl
      have hwanted : wanted log.rows (service.readOptions candidate).channel gaps =
          wanted otherLog.rows (service.readOptions candidate).channel otherGaps :=
        wanted_congr hheld.1 hrows
      rw [Service.readingOf, content_read hlog hasc hgaps hfault, Service.readingOf,
        content_read hother hotherAsc hotherGaps hotherFault, hwanted]

/-- After loading, stores with other changes and other gaps look alike to routers that see neither. -/
theorem lookAlike_loaded {other loaded otherLoaded : Store} {otherRows otherBefore : List GapRow}
    {otherLog : Numbered ChangeRow} (hstore : store.Orderly rows log book)
    (hother : other.Orderly otherRows otherLog book)
    (hsame : other = { store with changes := some otherLog, gaps := some otherRows })
    (hloaded : loaded = store.withGaps before) (hotherLoaded : otherLoaded = other.withGaps otherBefore)
    (hhidden : ∀ name ∈ TableName.changes :: .gaps :: batchTables, name ∈ hidden) :
    LookAlike hidden (loaded.view hidden) loaded otherLoaded := by
  refine ⟨⟨hloaded ▸ hstore.ready before, rfl⟩, hotherLoaded ▸ hother.ready otherBefore, ?_⟩
  have hself : store.withGaps before = { store with changes := some log, gaps := some before } := by
    rw [← hstore.changes]
    rfl
  rw [hotherLoaded, hloaded, hself, hsame]
  exact view_of_given (hhidden _ (by decide)) (hhidden _ (by decide)) _ _ _ _ _

/-- A cycle goes its way on a store with other changes and other gaps too, if the gaps load. -/
theorem exists_course {other loaded : Store} {gaps : List Gap} {otherRows : List GapRow}
    {otherLog : Numbered ChangeRow}
    (hsame : other = { store with changes := some otherLog, gaps := some otherRows })
    (hgaps : store.gaps = some rows) (hotherGaps : other.gaps = some otherRows)
    (hwent : service.Went (service.passes circumstances.stalls) circumstances.now store course)
    (hload : (loadGaps circumstances.now).on other = (.ok gaps, loaded)) :
    ∃ otherCourse : Course, otherCourse.gaps = gaps ∧ otherCourse.loaded = loaded ∧
      otherCourse.lookups = course.lookups ∧
      service.Went (service.passes circumstances.stalls) circumstances.now other otherCourse := by
  obtain ⟨_, -, hloaded, -⟩ := loadGaps_eq_ok hgaps hwent.gaps
  obtain ⟨_, -, hotherLoaded, -⟩ := loadGaps_eq_ok hotherGaps hload
  have hsnapshots : loaded.allSnapshots = course.loaded.allSnapshots := by
    rw [hotherLoaded, hloaded, hsame]
    rfl
  have hnodes : loaded.allNodes = course.loaded.allNodes := by
    rw [hotherLoaded, hloaded, hsame]
    rfl
  let run := service.passes circumstances.stalls course.lookups gaps
  exact ⟨⟨gaps, course.lookups, loaded, turns run service.channels loaded,
    storeAfter run service.channels loaded⟩, rfl, rfl, rfl, hload, hsnapshots.trans hwent.snapshots,
    hnodes.trans hwent.nodes, rfl, rfl⟩

/-- A row that a cycle was to examine is in a gap after it exactly if it is not confirmed. -/
theorem held_reconciled_iff {coverage : Coverage} {row : ChangeRow}
    (hbefore : Loaded circumstances.now rows before) (hkeyed : Keyed rows)
    (hone : SingleOpen (activeRanges rows)) (hlog : ProperLog log.rows) (hrow : row ∈ log.rows)
    (hheld : Held ((activeIn before).map Gap.range) row.id) :
    Held (activeRanges (purged service.gapPolicy circumstances.now
        (Grounds.settled ⟨service.gapPolicy, coverage, circumstances.visibility, circumstances.now, log⟩
          circumstances.now (activeIn before) before))) row.id ↔
      coverage.confirms row.channel row.id = false := by
  rw [held_perm (ranges_activeIn before)] at hheld
  let on : Grounds := ⟨service.gapPolicy, coverage, circumstances.visibility, circumstances.now, log⟩
  have hiff : Held (activeRanges (on.settled circumstances.now (activeIn before) before)) row.id ↔
      on.coverage.confirms row.channel row.id = false :=
    held_settled_iff hlog (hbefore.keyed hkeyed) (hbefore.singleOpen hkeyed hone)
      (hbefore.exists_open hkeyed) hrow hheld
  rw [activeRanges_purged]
  exact hiff

/-- What a cycle does on a channel does not depend on the rows of the others. -/
theorem cycle_of_others {channel : String} {report : CycleReport} {after : Service}
    {gaps otherGaps : List Gap} {loaded otherLoaded : Store} {otherRows : List GapRow}
    {otherLog : Numbered ChangeRow} {other : Store}
    (hids : (service.config.channels.map Channel.id).Nodup)
    (hoverlooks : service.Overlooks (.changes :: .gaps :: batchTables))
    (hsame : other = { store with changes := some otherLog, gaps := some otherRows })
    (hstore : store.Orderly rows log book) (hother : other.Orderly otherRows otherLog book)
    (hcommit : service.cycle circumstances store = (.ok report, after, left))
    (hlong : service.NeverShort circumstances store)
    (hotherLong : service.NeverShort circumstances other)
    (hrows : log.rows.filter (·.channel = channel) = otherLog.rows.filter (·.channel = channel))
    (hload : (loadGaps circumstances.now).on store = (.ok gaps, loaded))
    (hotherLoad : (loadGaps circumstances.now).on other = (.ok otherGaps, otherLoaded))
    (hreads : service.ReadsAlike channel gaps otherGaps store other) :
    ∃ otherReport otherAfter otherLeft leftRows otherLeftRows,
      service.cycle circumstances other = (.ok otherReport, otherAfter, otherLeft) ∧
      (∀ node, otherLeft.lots channel node = left.lots channel node) ∧
      left.gaps = some leftRows ∧ otherLeft.gaps = some otherLeftRows ∧
      (ProperLog log.rows → ProperLog otherLog.rows → SingleOpen (activeRanges rows) →
        SingleOpen (activeRanges otherRows) → ∀ row ∈ log.rows, row.channel = channel →
          Held (gaps.map Gap.range) row.id →
            (Held (activeRanges otherLeftRows) row.id ↔ Held (activeRanges leftRows) row.id)) := by
  obtain ⟨course, gapReport, hwent, hreconcile, -, -⟩ := cycleBy_eq_ok.1 hcommit
  obtain ⟨rfl, rfl⟩ : course.gaps = gaps ∧ course.loaded = loaded := by
    have h := hwent.gaps.symm.trans hload
    simp only [Prod.mk.injEq, Except.ok.injEq] at h
    exact h
  obtain ⟨otherCourse, rfl, rfl, hlookups, hotherWent⟩ :=
    exists_course hsame hstore.gaps hother.gaps hwent hotherLoad
  obtain ⟨before, hbefore, hloaded, hactive⟩ := loadGaps_eq_ok hstore.gaps hload
  obtain ⟨otherBefore, hotherBefore, hotherLoaded, hotherActive⟩ := loadGaps_eq_ok hother.gaps hotherLoad
  have hlog : course.loaded.changes = some log := hloaded ▸ hstore.changes
  have hotherLog : otherCourse.loaded.changes = some otherLog := hotherLoaded ▸ hother.changes
  have hagree : service.AgreeOn channel course otherCourse := by
    have hblind : service.Blind (.changes :: .gaps :: batchTables) :=
      ⟨fun _ h => List.mem_cons_of_mem _ (List.mem_cons_of_mem _ h), hoverlooks⟩
    refine agreeOn_of_went hblind (.refl _) hids hwent hotherWent hlookups
      (lookAlike_loaded hstore hother hsame hloaded hotherLoaded fun _ h => h) hlog hstore.ascending
      hotherLog hother.ascending (hlong.turns hwent) (hotherLong.turns hotherWent) ?_
    intro candidate hmem hid
    rw [readingOf_of_changes hlog hstore.changes, readingOf_of_changes hotherLog hother.changes]
    exact content_of_readsAlike hreads hstore.changes hother.changes hstore.ascending hother.ascending
      (hactive ▸ pairwise_activeIn before) (hotherActive ▸ pairwise_activeIn otherBefore) hrows hmem hid
  have hgaps : course.loaded.gaps = some before := by rw [hloaded]; rfl
  have hotherGaps : otherCourse.loaded.gaps = some otherBefore := by rw [hotherLoaded]; rfl
  obtain ⟨_, _, hreconcile', hleft⟩ := exists_reconcile hwent hgaps hlog
  obtain ⟨otherReport, otherLeft, hotherReconcile, hotherLeft⟩ :=
    exists_reconcile hotherWent hotherGaps hotherLog
  rw [hreconcile, Prod.mk.injEq] at hreconcile'
  obtain ⟨-, rfl⟩ := hreconcile'
  obtain ⟨marks, hmarks⟩ := hstore.watermarks
  have hotherMarks : other.watermarks = some marks := hsame ▸ hmarks
  have hlots := same_lots hagree hstore.issued hstore.eventsIssued hstore.shows hother.shows hmarks
    hotherMarks hwent hreconcile hotherWent hotherReconcile
  refine ⟨_, _, otherLeft, _, _,
    cycleBy_eq_ok.2 ⟨otherCourse, otherReport, hotherWent, hotherReconcile, rfl, rfl⟩, hlots.1, hleft,
    hotherLeft, ?_⟩
  intro hproper hotherProper hone hotherOne row hrow hchannel hheld
  have hotherHeld := (hreads.held row.id).1 hheld
  have hotherRow : row ∈ otherLog.rows := by
    have hmem : row ∈ otherLog.rows.filter (·.channel = channel) :=
      hrows ▸ List.mem_filter.2 ⟨hrow, decide_eq_true hchannel⟩
    exact (List.mem_filter.1 hmem).1
  have hconfirms : course.state.coverage.confirms row.channel row.id =
      otherCourse.state.coverage.confirms row.channel row.id := by
    rw [Coverage.confirms, Coverage.confirms, hchannel, hagree.reach]
  rw [hactive] at hheld ⊢
  rw [hotherActive] at hotherHeld ⊢
  rw [held_reconciled_iff hbefore hstore.keyed hone hproper hrow hheld,
    held_reconciled_iff hotherBefore hother.keyed hotherOne hotherProper hotherRow hotherHeld, hconfirms]

end cycle

/-! ## both -/

/-- The channels of a configuration in another order set up the same service, but for their order. -/
theorem setUp_arranged {config : Configuration} {registry : Registry} {fresh : Service}
    {channels : List Channel} (hperm : channels.Perm config.channels)
    (h : Service.setUp config registry = .ok fresh) :
    Service.setUp { config with channels := channels } registry = .ok (fresh.arranged channels) := by
  obtain ⟨hcheck, resolved, hresolved, rfl⟩ := setUp_eq_ok.1 h
  exact setUp_eq_ok.2 ⟨check_arranged hperm hcheck, resolved, hresolved, rfl⟩

/-- A service that was set up has its configuration, whose channels have different ids. -/
theorem config_of_setUp {config : Configuration} {registry : Registry} {fresh : Service}
    (h : Service.setUp config registry = .ok fresh) :
    fresh.config = config ∧ (config.channels.map Channel.id).Nodup := by
  obtain ⟨hcheck, resolved, -, rfl⟩ := setUp_eq_ok.1 h
  exact ⟨rfl, nodup_channels hcheck⟩

/-- Channels are independent of each other and of their order, where no answer to a query of a router depends
on what a cycle writes.  Listed in another order, a cycle leaves the same gaps, the same watermarks and on each
channel for each node the same batches, up to their ids; and with other rows on the other channels it leaves the
same batches on a channel, and the same of its rows in gaps. -/
theorem channels_are_independent {config : Configuration} {registry : Registry} {fresh after : Service}
    {marks : List (String × Marks)} {circumstances : Circumstances} {store left : Store}
    {report : CycleReport} {rows : List GapRow} {log : Numbered ChangeRow} {book : Book}
    (hsetup : Service.setUp config registry = .ok fresh) (hstore : store.Orderly rows log book)
    (hcommit : Service.cycle { fresh with marks := marks } circumstances store =
      (.ok report, after, left))
    (hlong : Service.NeverShort { fresh with marks := marks } circumstances store) :
    let service : Service := { fresh with marks := marks }
    (∀ channels : List Channel, channels.Perm config.channels →
      Service.setUp { config with channels := channels } registry = .ok (fresh.arranged channels) ∧
      (service.Overlooks batchTables → (service.arranged channels).NeverShort circumstances store →
        ∃ otherReport otherAfter otherLeft,
          (service.arranged channels).cycle circumstances store =
            (.ok otherReport, otherAfter, otherLeft) ∧
          otherLeft.gaps = left.gaps ∧
          (∀ channel, otherLeft.watermarkOf channel = left.watermarkOf channel) ∧
          ∀ channel node, otherLeft.lots channel node = left.lots channel node)) ∧
    ∀ (channel : String) (other loaded otherLoaded : Store) (otherRows : List GapRow)
      (otherLog : Numbered ChangeRow) (gaps otherGaps : List Gap),
      other = { store with changes := some otherLog, gaps := some otherRows } →
      other.Orderly otherRows otherLog book →
      log.rows.filter (·.channel = channel) = otherLog.rows.filter (·.channel = channel) →
      (loadGaps circumstances.now).on store = (.ok gaps, loaded) →
      (loadGaps circumstances.now).on other = (.ok otherGaps, otherLoaded) →
      service.ReadsAlike channel gaps otherGaps store other →
      service.Overlooks (.changes :: .gaps :: batchTables) → service.NeverShort circumstances other →
      ∃ otherReport otherAfter otherLeft leftRows otherLeftRows,
        service.cycle circumstances other = (.ok otherReport, otherAfter, otherLeft) ∧
        (∀ node, otherLeft.lots channel node = left.lots channel node) ∧
        left.gaps = some leftRows ∧ otherLeft.gaps = some otherLeftRows ∧
        (ProperLog log.rows → ProperLog otherLog.rows → SingleOpen (activeRanges rows) →
          SingleOpen (activeRanges otherRows) → ∀ row ∈ log.rows, row.channel = channel →
            Held (gaps.map Gap.range) row.id →
              (Held (activeRanges otherLeftRows) row.id ↔ Held (activeRanges leftRows) row.id)) := by
  intro service
  obtain ⟨hconfig, hids⟩ := config_of_setUp hsetup
  have hnodup : (service.config.channels.map Channel.id).Nodup := hconfig ▸ hids
  refine ⟨fun channels hperm => ⟨setUp_arranged hperm hsetup, fun hoverlooks hotherLong => ?_⟩, ?_⟩
  · exact cycle_of_order hnodup (hconfig ▸ hperm) hoverlooks hstore hcommit hlong hotherLong
  · intro channel other loaded otherLoaded otherRows otherLog gaps otherGaps hsame hother hrows hload
      hotherLoad hreads hoverlooks hotherLong
    exact cycle_of_others hnodup hoverlooks hsame hstore hother hcommit hlong hotherLong hrows hload
      hotherLoad hreads

/-- A cycle all of whose passes are committed is not short of ids. -/
theorem neverShort_of_committed {service : Service} {circumstances : Circumstances} {store : Store}
    (h : ∀ turn ∈ (service.course (service.passes circumstances.stalls) circumstances.now store).turns,
      turn.outcome.isSome = true) : service.NeverShort circumstances store := by
  intro turn hturn hshort
  obtain ⟨outcome, houtcome⟩ := Option.isSome_iff_exists.1 (h turn hturn)
  have hself := eq_turnOf_of_mem hturn
  rw [hself] at houtcome
  have hresult := congrArg Prod.fst (turnOf_eq_ok houtcome)
  nomatch hresult.symm.trans hshort

/-! ## a market -/

/-- The gap of all ids. -/
def wholeGap : List GapRow := [⟨1, openEnd, "GP", 0, 0⟩]

/-- A router that looks up the zone of a rate. -/
def zoneRouter (table key external : String) : Router where
  id := "zone"
  type := "lookuptable"
  sourceGroup := "corp"
  targetGroup := "branch"
  expression := some ("LOOKUP_TABLE=" ++ table ++ "\nKEY_COLUMN=zone\nLOOKUP_KEY_COLUMN=" ++ key ++
    "\nEXTERNAL_ID_COLUMN=" ++ external)

/-- A head office that sends items to all branches and rates to those of a zone. -/
def market (zone : Router) : Configuration where
  node := ⟨"00000", "corp"⟩
  store := ⟨"routing.db", 5000⟩
  routing := { gapRetention := 0 }
  channels := [{ id := "orders" }, { id := "prices" }]
  routers := [{ id := "down", sourceGroup := "corp", targetGroup := "branch" }, zone]
  triggers := [{ id := "items", table := "item", channel := "orders", routers := ["down"] },
    { id := "rates", table := "rate", channel := "prices", routers := ["zone"] }]

/-- The service of that office. -/
def marketService (zone : Router) : Service where
  config := market zone
  registry := .builtin (.plain 0) (market zone).routing.topologyMarker
  attached := [
    ("items", [⟨{ id := "down", sourceGroup := "corp", targetGroup := "branch" }, .everyone⟩]),
    ("rates", [⟨zone, .lookup (.plain 0)⟩])]
  marks := []

/-- A store with two branches, each in a zone. -/
def marketStore (rows : List ChangeRow) : Store :=
  { shopStore wholeGap rows with
    snapshots := some [⟨1, "items", "item", "", ""⟩, ⟨2, "rates", "rate", "zone", ""⟩]
    nodes := some [⟨"001", "branch", "1", true, some "00000"⟩,
      ⟨"002", "branch", "2", true, some "00000"⟩]
    foreign := [⟨"zones", [⟨"zone", .text, false⟩, ⟨"branch", .text, false⟩], .none, [],
      [[.text "north", .text "1"], [.text "south", .text "2"]]⟩] }

/-- A rate of a zone. -/
def rateRow (zone : String) : ChangeRow :=
  { shopRow 20 "I" "prices" with
    table := "rate", row := some ("[\"" ++ zone ++ "\"]"), snapshot := 2 }

/-- An office with a table of zones. -/
abbrev zoned : Router := zoneRouter "zones" "zone" "branch"

theorem setUp_market :
    Service.setUp (market zoned) (.builtin (.plain 0) (market zoned).routing.topologyMarker) =
      .ok (marketService zoned) := by
  have haccepted : (market zoned).check = .ok () := by decide
  rw [Service.setUp, haccepted]
  rfl

/-- The log of the market. -/
def marketLog : List ChangeRow := [shopRow 10 "I" "orders", rateRow "north"]

theorem orderly_marketStore {rows : List ChangeRow} (h : rows.Pairwise (·.id < ·.id)) :
    (marketStore rows).Orderly wholeGap ⟨rows, 0⟩ ⟨⟨[], 0⟩, []⟩ where
  gaps := rfl
  keyed := by unfold Keyed; decide
  changes := rfl
  ascending := h
  shows := ⟨rfl, rfl⟩
  issued := fun _ h => (List.not_mem_nil h).elim
  eventsIssued := fun _ h => (List.not_mem_nil h).elim
  watermarks := ⟨[], rfl⟩

/-- The market with its channels in the other order, and without its orders. -/
theorem channels_are_independent_market :
    ∃ report after left otherReport otherAfter otherLeft aloneReport aloneAfter alone leftRows aloneRows,
      (marketService zoned).cycle calm (marketStore marketLog) = (.ok report, after, left) ∧
      ((marketService zoned).arranged (market zoned).channels.reverse).cycle calm
          (marketStore marketLog) = (.ok otherReport, otherAfter, otherLeft) ∧
      otherLeft.gaps = left.gaps ∧
      (∀ channel node, otherLeft.lots channel node = left.lots channel node) ∧
      (marketService zoned).cycle calm (marketStore [rateRow "north"]) =
        (.ok aloneReport, aloneAfter, alone) ∧
      (∀ node, alone.lots "prices" node = left.lots "prices" node) ∧
      left.gaps = some leftRows ∧ alone.gaps = some aloneRows ∧
      (Held (activeRanges aloneRows) 20 ↔ Held (activeRanges leftRows) 20) := by
  have hok : ((marketService zoned).cycle calm (marketStore marketLog)).1.toOption.isSome = true := by
    decide +kernel
  have hlong : (marketService zoned).NeverShort calm (marketStore marketLog) :=
    neverShort_of_committed (by decide +kernel)
  have hotherLong : ((marketService zoned).arranged (market zoned).channels.reverse).NeverShort calm
      (marketStore marketLog) := neverShort_of_committed (by decide +kernel)
  have haloneLong : (marketService zoned).NeverShort calm (marketStore [rateRow "north"]) :=
    neverShort_of_committed (by decide +kernel)
  have hstore : (marketStore marketLog).Orderly wholeGap ⟨marketLog, 0⟩ ⟨⟨[], 0⟩, []⟩ :=
    orderly_marketStore (by decide)
  have hparse : LookupSpec.parse zoned.text = .ok ⟨"zones", "zone", "zone", "branch"⟩ := by decide +kernel
  have hzones : (QueryEngine.plain 0).Overlooks (.changes :: .gaps :: batchTables)
      (LookupSpec.query ⟨"zones", "zone", "zone", "branch"⟩) := by
    have hplain : PlainQuery.parse? (LookupSpec.query ⟨"zones", "zone", "zone", "branch"⟩) =
        some ⟨[["zone"], ["branch"]], ["zones"], none⟩ := by decide +kernel
    have hname : PlainQuery.tableName ["zones"] = .ok "zones" := by
      simp only [PlainQuery.tableName, PlainQuery.isReserved, toUpper_eq]
      decide
    have hother : ∀ other ∈ hiddenNames (.changes :: .gaps :: batchTables),
        sameName "zones" other = false := by
      simp only [sameName, toLower_eq]
      decide
    refine plain_overlooks fun plain hquery name htable => ?_
    rw [hplain] at hquery
    cases hquery
    rw [hname] at htable
    cases htable
    exact hother
  have hoverlooks : (marketService zoned).Overlooks (.changes :: .gaps :: batchTables) := by
    refine Service.overlooks_of_attached fun entry hentry resolved hresolved asked hasked => ?_
    simp only [marketService, List.mem_cons, List.not_mem_nil, or_false] at hentry
    rcases hentry with rfl | rfl
    all_goals
      rw [List.mem_singleton] at hresolved
      subst hresolved
      simp [ResolvedRouter.queries, hparse, Except.toOption] at hasked
    subst hasked
    exact hzones
  have hload : ∀ rows, (loadGaps calm.now).on (marketStore rows) =
      (.ok (activeIn wholeGap), marketStore rows) := fun _ => rfl
  cases hrun : (marketService zoned).cycle calm (marketStore marketLog) with
  | mk result rest =>
      rw [hrun] at hok
      cases result with
      | error fault => contradiction
      | ok report =>
          have hcommit : Service.cycle { marketService zoned with marks := [] } calm
              (marketStore marketLog) = (.ok report, rest.1, rest.2) := hrun
          obtain ⟨horder, hothers⟩ := channels_are_independent setUp_market hstore hcommit hlong
          obtain ⟨-, horder⟩ := horder (market zoned).channels.reverse (List.reverse_perm _)
          obtain ⟨otherReport, otherAfter, otherLeft, hother, hgaps, -, hlots⟩ :=
            horder (hoverlooks.mono (by decide)) hotherLong
          obtain ⟨aloneReport, aloneAfter, alone, leftRows, aloneRows, halone, haloneLots, hleft,
            haloneLeft, hheld⟩ :=
            hothers "prices" (marketStore [rateRow "north"]) _ _ _ ⟨[rateRow "north"], 0⟩ _ _ rfl
              (orderly_marketStore (by decide)) (by decide) (hload _) (hload _) (.inl rfl) hoverlooks
              haloneLong
          refine ⟨report, rest.1, rest.2, otherReport, otherAfter, otherLeft, aloneReport, aloneAfter,
            alone, leftRows, aloneRows, rfl, hother, hgaps, hlots, halone, haloneLots, hleft, haloneLeft,
            hheld ⟨by decide, by unfold IsWord; decide⟩ ⟨by decide, by unfold IsWord; decide⟩ (by decide)
              (by decide) (rateRow "north") (by decide) rfl (by decide)⟩

/-! ## how channels meet -/

/-- The number of batches of a channel for the unrouted node after a cycle that committed. -/
def unroutedAfter (service : Service) (circumstances : Circumstances) (store : Store)
    (channel : String) : Option Nat :=
  match service.cycle circumstances store with
  | (.ok _, _, left) => some (left.lots channel unroutedNode).length
  | (.error _, _, _) => none

/-- Whether an id is in an active gap after a cycle that committed. -/
def heldAfter (service : Service) (circumstances : Circumstances) (store : Store) (id : Int) :
    Option Bool :=
  match service.cycle circumstances store with
  | (.ok _, _, left) => left.gaps.map fun rows => decide (Held (activeRanges rows) id)
  | (.error _, _, _) => none

/-- The service of two channels without routers, with the second one first. -/
def shopBackwards : Service := shopService.arranged shop.channels.reverse

/-- The gap of all ids in a thousand parts. -/
def partedGap : List GapRow :=
  (List.range 999).map (fun id => ⟨id + 1, id + 1, "GP", 0, 0⟩) ++ [⟨1000, openEnd, "GP", 0, 0⟩]

/-- The order of the channels shows where an event is stored under the next batch id, and where only one
batch id is left; other rows show to a router that looks things up in the log, and in gaps of the same ids
that are too many for one statement; and rows stay or leave according to those of other channels where two
gaps are open, and where an id is the last of all. -/
theorem channels_meet :
    (unroutedAfter shopService calm
        { shopStore wholeGap shopLog with events := some [⟨10, 1, unknownRouter⟩] } "orders" = some 0 ∧
      unroutedAfter shopBackwards calm
        { shopStore wholeGap shopLog with events := some [⟨10, 1, unknownRouter⟩] } "orders" = some 1) ∧
    (unroutedAfter shopService calm
        { shopStore wholeGap shopLog with batches := some ⟨[], openEnd - 1⟩ } "orders" = some 1 ∧
      unroutedAfter shopBackwards calm
        { shopStore wholeGap shopLog with batches := some ⟨[], openEnd - 1⟩ } "orders" = some 0) ∧
    (unroutedAfter (marketService (zoneRouter "change_log" "channel_id" "table_name")) calm
        (marketStore [rateRow "orders"]) "prices" = some 1 ∧
      unroutedAfter (marketService (zoneRouter "change_log" "channel_id" "table_name")) calm
        (marketStore [{ shopRow 10 "I" "orders" with table := "1" }, rateRow "orders"]) "prices" =
          some 0) ∧
    (unroutedAfter { shopService with config.routing.maxRanges := 2000 } calm
        (shopStore wholeGap shopLog) "orders" = some 1 ∧
      unroutedAfter { shopService with config.routing.maxRanges := 2000 } calm
        (shopStore partedGap shopLog) "orders" = some 0) ∧
    (heldAfter shopService ⟨.known none, 5, [("prices", 0)]⟩
        (shopStore (⟨50, openEnd, "GP", 0, 0⟩ :: wholeGap) [shopRow 20 "I" "prices"]) 20 = some true ∧
      heldAfter shopService ⟨.known none, 5, [("prices", 0)]⟩
        (shopStore (⟨50, openEnd, "GP", 0, 0⟩ :: wholeGap) shopLog) 20 = some false) ∧
    heldAfter shopService calm (shopStore wholeGap [shopRow 20 "I" "prices"]) 20 = some false ∧
      heldAfter shopService calm
        (shopStore wholeGap [shopRow 20 "I" "prices", shopRow openEnd "I" "orders"]) 20 = some true := by
  refine ⟨⟨?_, ?_⟩, ⟨?_, ?_⟩, ⟨?_, ?_⟩, ⟨?_, ?_⟩, ⟨?_, ?_⟩, ?_, ?_⟩ <;> decide +kernel

end ChangeRouting
