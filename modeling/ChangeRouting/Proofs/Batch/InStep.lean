import ChangeRouting.Proofs.Batch.Building
import ChangeRouting.Proofs.Batch.Targets
import ChangeRouting.Proofs.Selection.View

/-!
# ChangeRouting.Proofs.Batch.InStep

Two runs of one piece of work, on stores that differ in the ids they give out.

* `InStep` — two runs from related states end alike, unless a store has no ids left for batches;
* `Store.Ready`, `filing_on` — a batch is always stored where the tables are there and no event names an id
  to come, as long as there are ids;
* `Level` — the same work is under way on two stores that routers see the same of;
* `inStep_add`, `inStep_finish` — so building batches goes on in step, whatever ids they get.
-/

namespace ChangeRouting

/-! ## two runs -/

/-- The fault of a batch for which there is no id left. -/
def outOfIds : Fault := .statement (.idsExhausted TableName.batches.text)

variable {σ α β : Type}

/-- How two runs may end: alike and in related states, or one of them without ids. -/
inductive Together (R : σ → σ → Prop) : Except Fault α × σ → Except Fault α × σ → Prop
  | done (a : α) {s t : σ} (h : R s t) : Together R (.ok a, s) (.ok a, t)
  | failed (fault : Fault) {s t : σ} : Together R (.error fault, s) (.error fault, t)
  | short {s : σ} {other : Except Fault α × σ} : Together R (.error outOfIds, s) other
  | otherShort {t : σ} {one : Except Fault α × σ} : Together R one (.error outOfIds, t)

/-- Two runs of the work from related states end together. -/
def InStep (R R' : σ → σ → Prop) (work : ExceptT Fault (StateM σ) α) : Prop :=
  ∀ ⦃s t⦄, R s t → Together R' (work.run.run s) (work.run.run t)

section inStep

variable {R R' R'' : σ → σ → Prop} {work : ExceptT Fault (StateM σ) α}

theorem inStep_pure (a : α) (h : ∀ s t, R s t → R' s t) :
    InStep R R' (pure a : ExceptT Fault (StateM σ) α) := fun s t hst => .done a (h s t hst)

theorem inStep_throw (fault : Fault) : InStep R R' (throw fault : ExceptT Fault (StateM σ) α) :=
  fun _ _ _ => .failed fault

theorem inStep_modify {f : σ → σ} (h : ∀ s t, R s t → R' (f s) (f t)) :
    InStep R R' (modify f : ExceptT Fault (StateM σ) PUnit) := by
  intro s t hst
  exact .done PUnit.unit (h s t hst)

theorem Together.bind {next next' : α → ExceptT Fault (StateM σ) β} {work' : ExceptT Fault (StateM σ) α}
    {s t : σ} (h : Together R (work.run.run s) (work'.run.run t))
    (hnext : ∀ a s t, R s t → Together R' ((next a).run.run s) ((next' a).run.run t)) :
    Together R' ((work >>= next).run.run s) ((work' >>= next').run.run t) := by
  rw [run_bind, run_bind]
  generalize work.run.run s = one at h ⊢
  generalize work'.run.run t = other at h ⊢
  cases h with
  | done a h => exact hnext a _ _ h
  | failed fault => exact .failed fault
  | short => exact .short
  | otherShort => exact .otherShort

theorem InStep.bind {next : α → ExceptT Fault (StateM σ) β} (hwork : InStep R R' work)
    (hnext : ∀ a, InStep R' R'' (next a)) : InStep R R'' (work >>= next) := fun _ _ hst =>
  (hwork hst).bind fun a _ _ hmid => hnext a hmid

theorem InStep.discard (h : InStep R R' work) : InStep R R' (discard work) :=
  h.bind fun _ => inStep_pure _ fun _ _ hst => hst

end inStep

/-! ## stores that take batches -/

/-- The tables of batches are there, and no event names a batch id that has not been given out. -/
structure Store.Ready (store : Store) : Prop where
  book : ∃ book, store.Shows book ∧ book.EventsIssued
  watermarks : ∃ marks, store.watermarks = some marks

/-- A store takes batches, and this is what can be seen of it. -/
structure Store.Presents (hidden : List TableName) (seen : View) (store : Store) : Prop where
  ready : store.Ready
  view : store.view hidden = seen

/-- The tables that storing a batch writes. -/
def batchTables : List TableName := [.batches, .events, .watermarks]

/-- Store a batch with its members, and move the watermark of its channel up to an id. -/
def filing (batch : Batch) (members : List (Int × String)) (channel : String) (last : Int) :
    Work Unit := do
  let id ← Work.statement (Store.insertBatch batch)
  Store.insertEvents id members
  Work.update (Store.advanceWatermark channel last)

section filing

variable {store : Store} {hidden : List TableName} {seen : View}

/-- The contents of the tables of batches cannot be seen where they are hidden. -/
theorem view_of_ready (hready : store.Ready) (hhidden : ∀ name ∈ batchTables, name ∈ hidden)
    (batches : Numbered BatchRow) (events : List BatchEvent) (marks : List (String × Int))
    (wasRead : Bool) :
    Store.view hidden { store with
      batches := some batches, events := some events, watermarks := some marks,
      hasEventStatement := wasRead } = store.view hidden := by
  obtain ⟨⟨book, hbook, -⟩, marks', hmarks⟩ := hready
  have hbatches := hhidden .batches (by decide)
  have hevents := hhidden .events (by decide)
  have hwatermarks := hhidden .watermarks (by decide)
  have htables : ∀ name, (Store.view hidden { store with
      batches := some batches, events := some events, watermarks := some marks,
      hasEventStatement := wasRead }).tables name = (store.view hidden).tables name := by
    intro name
    cases name with
    | batches => simp [Store.view, Store.typed?, hbatches, hbook.batches]
    | events => simp [Store.view, Store.typed?, hevents, hbook.events]
    | watermarks => simp [Store.view, Store.typed?, hwatermarks, hmarks]
    | _ => rfl
  exact congrArg (View.mk store.nodes store.redirects store.foreign) (funext htables)

/-- Members are stored one after the other, each beside those before it. -/
theorem insertMembers_on {events : List BatchEvent} {id : Int} (hnew : ∀ event ∈ events, event.batch < id)
    (stored : List (Int × String)) {members : List (Int × String)}
    (hsorted : ((stored ++ members).map (·.1)).Pairwise (· < ·))
    (hevents : store.events = some (events ++ stored.map fun member => ⟨member.1, id, member.2⟩)) :
    (members.forM fun member => Work.update (Store.insertEvent ⟨member.1, id, member.2⟩)).on store =
      (.ok (), { store with
        events := some (events ++ (stored ++ members).map fun member => ⟨member.1, id, member.2⟩) }) := by
  induction members generalizing stored store with
  | nil =>
      rw [List.append_nil, ← hevents]
      rfl
  | cons member members ih =>
      have hfresh : ((events ++ stored.map fun member => (⟨member.1, id, member.2⟩ : BatchEvent)).any
          fun row => row.change = member.1 ∧ row.batch = id) = false := by
        rw [List.any_eq_false]
        intro row hrow
        rw [List.mem_append, List.mem_map] at hrow
        simp only [decide_eq_true_eq, not_and]
        intro hchange hbatch
        obtain hold | ⟨before, hbefore, rfl⟩ := hrow
        · have hlt := hnew row hold
          omega
        · rw [List.map_append, List.pairwise_append] at hsorted
          have hlt := hsorted.2.2 before.1 (List.mem_map_of_mem hbefore) member.1
            (List.mem_map_of_mem List.mem_cons_self)
          simp only at hchange
          omega
      have hinsert : (Work.update (Store.insertEvent ⟨member.1, id, member.2⟩)).on store =
          (.ok (), { store with
            events := some (events ++ (stored ++ [member]).map fun member =>
              ⟨member.1, id, member.2⟩) }) := by
        rw [Work.update, Work.statement_on, Store.insertEvent, hevents]
        simp only [hfresh, Bool.false_eq_true, if_false]
        rw [List.map_append, ← List.append_assoc]
        rfl
      rw [List.append_cons] at hsorted ⊢
      simp only [List.forM, Work.bind_on, hinsert]
      exact ih _ hsorted rfl

/-- Members of a new batch are always stored. -/
theorem insertEvents_on {events : List BatchEvent} (hevents : store.events = some events) {id : Int}
    (hnew : ∀ event ∈ events, event.batch < id) {members : List (Int × String)}
    (hmembers : (members.map (·.1)).Pairwise (· < ·)) :
    (Store.insertEvents id members).on store = (.ok (), { store with
      events := some (events ++ members.map fun member => ⟨member.1, id, member.2⟩),
      hasEventStatement := true }) := by
  have hread : (Work.update Store.readEventStatement).on store =
      (.ok (), { store with hasEventStatement := true }) := by
    have hthere : store.events.isNone = false := by rw [hevents]; rfl
    refine update_on_eq_ok.2 ?_
    rw [Store.readEventStatement, hthere]
    split
    · next hread =>
      cases store
      cases hread
      rfl
    · rfl
  have hstored : { store with hasEventStatement := true }.events =
      some (events ++ ([] : List (Int × String)).map fun member => ⟨member.1, id, member.2⟩) := by
    rw [List.map_nil, List.append_nil]
    exact hevents
  rw [Store.insertEvents, Work.bind_on, hread]
  exact insertMembers_on hnew [] hmembers hstored

/-- A batch is stored unless there is no id left for it, and routers see nothing of it where the tables of
batches are hidden. -/
theorem filing_on (hstore : store.Presents hidden seen) (hhidden : ∀ name ∈ batchTables, name ∈ hidden)
    (batch : Batch) {members : List (Int × String)} (hmembers : (members.map (·.1)).Pairwise (· < ·))
    (channel : String) (last : Int) :
    ((filing batch members channel last).on store).1 = .error outOfIds ∨
      ∃ after, (filing batch members channel last).on store = (.ok (), after) ∧
        after.Presents hidden seen := by
  obtain ⟨⟨book, hbook, hissued⟩, marks, hmarks⟩ := hstore.ready
  by_cases hfull : openEnd ≤ book.batches.lastId
  · refine Or.inl ?_
    rw [filing, Work.bind_on, Work.statement_on, Store.insertBatch, hbook.batches]
    simp only [hfull, if_true]
    rfl
  · let id := book.batches.lastId + 1
    let row : BatchRow := ⟨{ batch with id := id }, batch.status.code⟩
    let events := book.events ++ members.map fun member => (⟨member.1, id, member.2⟩ : BatchEvent)
    have hinsert : (Work.statement (Store.insertBatch batch)).on store =
        (.ok id, { store with batches := some ⟨book.batches.rows ++ [row], id⟩ }) := by
      rw [Work.statement_on, Store.insertBatch, hbook.batches]
      simp only [hfull, if_false]
      rfl
    have hbelow : ∀ event ∈ book.events, event.batch < id := fun event hevent =>
      Int.lt_add_one_of_le (hissued event hevent)
    refine Or.inr ⟨{ store with
      batches := some ⟨book.batches.rows ++ [row], id⟩, events := some events,
      watermarks := some (Store.raise channel last marks), hasEventStatement := true }, ?_, ?_, ?_⟩
    · rw [filing, Work.bind_on, hinsert]
      simp only
      rw [Work.bind_on, insertEvents_on (by exact hbook.events) hbelow hmembers]
      simp only
      rw [Work.update, Work.statement_on, Store.advanceWatermark]
      simp only [hmarks]
      rfl
    · refine ⟨⟨⟨⟨book.batches.rows ++ [row], id⟩, events⟩, ⟨rfl, rfl⟩, fun event hevent => ?_⟩, _, rfl⟩
      obtain hold | hnew := List.mem_append.1 hevent
      · exact Int.le_of_lt (hbelow event hold)
      · obtain ⟨member, -, rfl⟩ := List.mem_map.1 hnew
        exact Int.le_refl _
    · exact (view_of_ready hstore.ready hhidden _ _ _ _).trans hstore.view

end filing

/-! ## building in step -/

/-- The same work is under way beside two stores that take batches and look alike. -/
structure Level (hidden : List TableName) (seen : View) (P : σ → Prop) (s t : σ × Store) : Prop where
  same : s.1 = t.1
  holds : P s.1
  store : s.2.Presents hidden seen
  other : t.2.Presents hidden seen

namespace Builder

/-- Every open batch holds changes in id order. -/
def Sorted (builder : Builder) : Prop :=
  ∀ entry ∈ builder.opened, (entry.2.members.map (·.1)).Pairwise (· < ·)

/-- No open batch holds a change behind this one, and those of some nodes do not hold it either. -/
def Upto (builder : Builder) (id : Int) (todo : List String) : Prop :=
  ∀ entry ∈ builder.opened, ∀ member ∈ entry.2.members,
    member.1 ≤ id ∧ (entry.1 ∈ todo → member.1 < id)

/-- A change is sent to some nodes, in id order. -/
structure Sends (id : Int) (todo : List String) (builder : Builder) : Prop where
  sorted : builder.Sorted
  upto : builder.Upto id todo

namespace Sends

variable {builder : Builder} {id : Int} {node router : String} {todo : List String} {change : Change}

theorem withoutOpen (h : builder.Sends id todo) : (builder.withoutOpen node).Sends id todo where
  sorted := fun entry hentry => h.sorted entry (List.mem_filter.1 hentry).1
  upto := fun entry hentry => h.upto entry (List.mem_filter.1 hentry).1

theorem start (h : builder.Sends id todo) : (builder.start node).Sends id todo where
  sorted := by
    intro entry hentry
    obtain rfl | hold := mem_placeOpen hentry
    · exact List.Pairwise.nil
    · exact h.sorted entry hold
  upto := by
    intro entry hentry
    obtain rfl | hold := mem_placeOpen hentry
    · exact fun _ hmember => (List.not_mem_nil hmember).elim
    · exact h.upto entry hold

/-- The change ends the open batch of the node. -/
theorem record (h : builder.Sends change.id (node :: todo)) (hnode : node ∉ todo) :
    (builder.record node router change).Sends change.id todo := by
  have hrest : builder.Sends change.id todo :=
    ⟨h.sorted, fun entry hentry member hmember =>
      (h.upto entry hentry member hmember).imp id fun hlt hmem => hlt (List.mem_cons_of_mem _ hmem)⟩
  rw [Builder.record]
  cases hopen : builder.open? node with
  | none => exact ⟨hrest.sorted, hrest.upto⟩
  | some batch =>
      obtain ⟨entry, hfind, rfl⟩ := Option.map_eq_some_iff.1 hopen
      have hentry := List.mem_of_find?_eq_some hfind
      have hnamed : entry.1 = node := of_decide_eq_true (List.find?_some hfind :)
      have hbelow : ∀ member ∈ entry.2.members, member.1 < change.id := fun member hmember =>
        (h.upto entry hentry member hmember).2 (hnamed ▸ List.mem_cons_self)
      constructor
      · intro other hother
        obtain rfl | hold := mem_placeOpen hother
        · simp only [OpenBatch.append, List.map_append, List.map_cons, List.map_nil]
          refine List.pairwise_append.2 ⟨h.sorted entry hentry, List.pairwise_singleton _ _, ?_⟩
          intro id hid last hlast
          obtain ⟨member, hmember, rfl⟩ := List.mem_map.1 hid
          rw [List.mem_singleton] at hlast
          exact hlast ▸ hbelow member hmember
        · exact hrest.sorted other hold
      · intro other hother
        obtain rfl | hold := mem_placeOpen hother
        · intro member hmember
          refine ⟨?_, fun hmem => absurd hmem hnode⟩
          obtain hmem | hmem := List.mem_append.1 hmember
          · exact Int.le_of_lt (hbelow member hmem)
          · rw [List.mem_singleton] at hmem
            exact Int.le_of_eq (congrArg Prod.fst hmem)
        · exact hrest.upto other hold

end Sends

end Builder

section building

variable {hidden : List TableName} {seen : View} {P P' : Builder → Prop}

theorem inStep_adjust {f : Builder → Builder} (h : ∀ builder, P builder → P' (f builder)) :
    InStep (Level hidden seen P) (Level hidden seen P') (Builder.adjust f) :=
  inStep_modify fun s _ hst =>
    ⟨congrArg f hst.same, h s.1 hst.holds, hst.store, hst.other⟩

/-- A batch is stored beside either store, whatever id it gets. -/
theorem inStep_flush (hhidden : ∀ name ∈ batchTables, name ∈ hidden) {batch : OpenBatch}
    (hmembers : (batch.members.map (·.1)).Pairwise (· < ·))
    (hreport : ∀ builder report, P builder → P { builder with report := report }) :
    InStep (Level hidden seen P) (Level hidden seen P) (Builder.flush batch) := by
  rintro ⟨builder, store⟩ ⟨_, other⟩ ⟨rfl, hholds, hstore, hother⟩
  rw [Builder.flush]
  split
  · exact .done _ ⟨rfl, hholds, hstore, hother⟩
  · next last _ =>
    rw [run_bind, run_bind, run_get, run_get]
    have hfiled : Together (Level hidden seen P)
        ((Builder.onStore (filing batch.batch batch.members builder.channel last)).run.run
          (builder, store))
        ((Builder.onStore (filing batch.batch batch.members builder.channel last)).run.run
          (builder, other)) := by
      have hrun : ∀ store, (Builder.onStore (filing batch.batch batch.members builder.channel
          last)).run.run (builder, store) =
            (((filing batch.batch batch.members builder.channel last).on store).1, builder,
              ((filing batch.batch batch.members builder.channel last).on store).2) := fun _ => rfl
      rw [hrun, hrun]
      obtain hshort | ⟨after, hon, hafter⟩ :=
        filing_on hstore hhidden batch.batch hmembers builder.channel last
      · rw [hshort]
        exact .short
      · obtain hshort | ⟨otherAfter, hotherOn, hotherAfter⟩ :=
          filing_on hother hhidden batch.batch hmembers builder.channel last
        · rw [hshort]
          exact .otherShort
        · rw [hon, hotherOn]
          exact .done () ⟨rfl, hholds, hafter, hotherAfter⟩
    exact hfiled.bind fun _ _ _ hmid =>
      inStep_adjust (fun builder hbuilder => hreport builder _ hbuilder) hmid

/-- A change is sent to a node beside either store. -/
theorem inStep_append (hhidden : ∀ name ∈ batchTables, name ∈ hidden) {node router : String}
    {change : Change} {todo : List String} (hnode : node ∉ todo) :
    InStep (Level hidden seen (Builder.Sends change.id (node :: todo)))
      (Level hidden seen (Builder.Sends change.id todo)) (Builder.append node router change) := by
  have hrecord : InStep (Level hidden seen (Builder.Sends change.id (node :: todo)))
      (Level hidden seen (Builder.Sends change.id todo))
      (Builder.adjust (·.record node router change)) :=
    inStep_adjust fun builder hbuilder => hbuilder.record hnode
  have hstart : InStep (Level hidden seen (Builder.Sends change.id (node :: todo)))
      (Level hidden seen (Builder.Sends change.id (node :: todo))) (Builder.adjust (·.start node)) :=
    inStep_adjust fun builder hbuilder => hbuilder.start
  rintro ⟨builder, store⟩ ⟨_, other⟩ ⟨rfl, hholds, hstore, hother⟩
  have hlevel : Level hidden seen (Builder.Sends change.id (node :: todo)) (builder, store)
      (builder, other) := ⟨rfl, hholds, hstore, hother⟩
  rw [Builder.append, run_bind, run_bind, run_get, run_get]
  simp only
  cases hopen : builder.open? node with
  | none => exact (hstart.bind fun _ => hrecord) hlevel
  | some batch =>
      simp only
      cases hcut : builder.cutsBefore change batch with
      | false =>
          simp only [Bool.false_eq_true, if_false]
          exact hrecord hlevel
      | true =>
          obtain ⟨entry, hfind, rfl⟩ := Option.map_eq_some_iff.1 hopen
          have hmembers := hholds.sorted entry (List.mem_of_find?_eq_some hfind)
          have hwithout : InStep (Level hidden seen (Builder.Sends change.id (node :: todo)))
              (Level hidden seen (Builder.Sends change.id (node :: todo)))
              (Builder.adjust (·.withoutOpen node)) :=
            inStep_adjust fun builder hbuilder => hbuilder.withoutOpen
          simp only [if_true]
          exact (hwithout.bind fun _ => (inStep_flush hhidden hmembers fun _ _ h =>
            ⟨h.sorted, h.upto⟩).bind fun _ => hstart.bind fun _ => hrecord) hlevel

theorem inStep_appends (hhidden : ∀ name ∈ batchTables, name ∈ hidden) {change : Change}
    {targets : List (String × String)} (hnodup : (targets.map Prod.fst).Nodup) :
    InStep (Level hidden seen (Builder.Sends change.id (targets.map Prod.fst)))
      (Level hidden seen (Builder.Sends change.id []))
      (targets.forM fun target => Builder.append target.1 target.2 change) := by
  induction targets with
  | nil => exact inStep_pure _ fun _ _ hst => hst
  | cons target targets ih =>
      rw [List.map_cons, List.nodup_cons] at hnodup
      exact (inStep_append hhidden hnodup.1).bind fun _ => ih hnodup.2

/-- A change that lies behind all others is sent where the routers decided, beside either store. -/
theorem inStep_add (hhidden : ∀ name ∈ batchTables, name ∈ hidden) {change : Change}
    (decisions : List Decision) :
    InStep (Level hidden seen fun builder => ∀ todo, builder.Sends change.id todo)
      (Level hidden seen (Builder.Sends change.id [])) (Builder.add change decisions) := by
  have hsend : InStep (Level hidden seen fun builder => ∀ todo, builder.Sends change.id todo)
      (Level hidden seen (Builder.Sends change.id []))
      ((Builder.targets decisions).forM fun target => Builder.append target.1 target.2 change) :=
    fun _ _ hst => inStep_appends hhidden (destined_targets decisions).nodup
      ⟨hst.same, hst.holds _, hst.store, hst.other⟩
  rw [Builder.add]
  simp only
  split
  · have hcount : InStep (Level hidden seen fun builder => ∀ todo, builder.Sends change.id todo)
        (Level hidden seen fun builder => ∀ todo, builder.Sends change.id todo)
        (Builder.adjust fun builder =>
          { builder with report.unrouted := builder.report.unrouted + 1 }) :=
      inStep_adjust fun _ h todo => ⟨(h todo).sorted, (h todo).upto⟩
    exact hcount.bind fun _ => hsend.bind fun _ => inStep_pure _ fun _ _ hst => hst
  · exact hsend.bind fun _ => inStep_pure _ fun _ _ hst => hst

/-- The batches still open are stored beside either store. -/
theorem inStep_finish (hhidden : ∀ name ∈ batchTables, name ∈ hidden) :
    InStep (Level hidden seen Builder.Sorted) (Level hidden seen fun _ => True) Builder.finish := by
  have hflushes : ∀ opened : List (String × OpenBatch),
      (∀ entry ∈ opened, (entry.2.members.map (·.1)).Pairwise (· < ·)) →
      InStep (Level hidden seen fun _ => True) (Level hidden seen fun _ => True)
        (opened.forM fun entry => Builder.flush entry.2) := by
    intro opened hsorted
    induction opened with
    | nil => exact inStep_pure _ fun _ _ hst => hst
    | cons entry opened ih =>
        rw [List.forall_mem_cons] at hsorted
        exact (inStep_flush hhidden hsorted.1 fun _ _ _ => trivial).bind fun _ => ih hsorted.2
  have hreport : InStep (Level hidden seen fun _ => True) (Level hidden seen fun _ => True)
      (do return (← get).1.report : Building BuildReport) := by
    rintro ⟨builder, store⟩ ⟨_, other⟩ ⟨rfl, hholds, hstore, hother⟩
    exact .done _ ⟨rfl, hholds, hstore, hother⟩
  have hclosed : InStep (Level hidden seen Builder.Sorted) (Level hidden seen fun _ => True)
      (Builder.adjust ({ · with opened := [] })) := inStep_adjust fun _ _ => trivial
  rintro ⟨builder, store⟩ ⟨_, other⟩ ⟨rfl, hholds, hstore, hother⟩
  rw [Builder.finish, run_bind, run_bind, run_get, run_get]
  simp only
  exact (hclosed.bind fun _ => (hflushes builder.opened hholds).bind fun _ => hreport)
    ⟨rfl, hholds, hstore, hother⟩

end building

end ChangeRouting
