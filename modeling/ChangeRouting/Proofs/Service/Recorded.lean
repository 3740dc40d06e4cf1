import ChangeRouting.Proofs.Batch.Delivery
import ChangeRouting.Proofs.Selection.Cache
import ChangeRouting.Proofs.Service.Attached
import ChangeRouting.Proofs.Service.Frame
import ChangeRouting.Proofs.Service.Pass

/-!
# ChangeRouting.Proofs.Service.Recorded

Which events a change leaves.

* `Service.contributions` — what the routers contribute that look at a change, each in its turn;
* `decisions_decide` — that is what is decided, unless the payload cannot be read;
* `contributions_split` — a router contributes what it selects, and one that fails is no matter to others;
* `recordedFor`, `recordedFor_eq` — what a node has of a pass, in stored batches and in the open one;
* `Service.Comes`, `sound_of_comes` — whatever changes a pass routed, its cache says what the store says;
* `changes_are_recorded_iff` — a change is recorded once for each node that some router contributes, in the
  name of the first that does, or once for none, in the name of the first router that looks at it, exactly
  unless its payload cannot be read and the first router of its table does not look at it.
-/

namespace ChangeRouting

/-! ## what routers contribute -/

/-- What a change says under its snapshot, if that is known. -/
def Lookups.read? (lookups : Lookups) (change : Change) : Option (Except Fault ColumnValues) :=
  (lookups.snapshots.find? (·.id = change.snapshot)).map change.values

/-- The payload of a change cannot be read. -/
def Lookups.Garbles (lookups : Lookups) (change : Change) : Prop :=
  ∃ fault, lookups.read? change = some (.error fault)

/-- The id of the first of some routers, or what stands for no router. -/
def leader (routers : List ResolvedRouter) : String :=
  (routers.head?.map (·.router.id)).getD unknownRouter

/-- Routers that contribute nobody. -/
def silent (routers : List ResolvedRouter) : List Decision :=
  routers.map fun resolved => ⟨resolved.router.id, ∅⟩

namespace Service

/-- The routers attached to the trigger that the snapshot of a change names. -/
def attachedTo (service : Service) (lookups : Lookups) (change : Change) : List ResolvedRouter :=
  (lookups.snapshots.find? (·.id = change.snapshot)).elim [] (service.routersOf ·.trigger)

/-- Those of them that look at its kind. -/
def applicable (service : Service) (lookups : Lookups) (change : Change) : List ResolvedRouter :=
  (service.attachedTo lookups change).filter (·.router.appliesTo change.event)

/-- What a router answers that is asked about a change, and the scope after that. -/
def answerOf (service : Service) (nodes : List Node) (store : Store) (change : Change)
    (values : ColumnValues) (scope : RoutingScope) (resolved : ResolvedRouter) :
    Except Fault NodeSet × RoutingScope :=
  (resolved.strategy.select store ⟨resolved.router, change, values,
    service.candidates resolved.router change nodes, change.event = .reload⟩).run.run scope

/-- What the routers contribute that look at a change: each what it selects in its turn, or nobody where it
fails or the payload cannot be read. -/
def contributions (service : Service) (lookups : Lookups) (store : Store) (change : Change)
    (scope : RoutingScope) : List Decision :=
  match lookups.read? change with
  | some (.ok values) =>
    (service.ask lookups.nodes store change values scope (service.applicable lookups change)).decisions
  | _ => silent (service.applicable lookups change)

end Service

section asking

variable {service : Service} {lookups : Lookups} {nodes : List Node} {store : Store} {change : Change}
  {values : ColumnValues} {scope other : RoutingScope} {resolved : ResolvedRouter}
  {routers front back : List ResolvedRouter} {texts : String → String}

theorem ask_cons :
    service.ask nodes store change values scope (resolved :: routers) =
      let answer := service.answerOf nodes store change values scope resolved
      let later := service.ask nodes store change values answer.2 routers
      { later with
        decisions := ⟨resolved.router.id, answer.1.toOption.getD ∅⟩ :: later.decisions
        faults := later.faults + answer.1.toOption.elim 1 fun _ => 0 } := by
  simp only [Service.ask, Service.answerOf]
  split
  next outcome left hrun =>
    rw [hrun]
    cases outcome <;> rfl

/-- Routers that come later are asked in the scope that the others leave. -/
theorem ask_append :
    (service.ask nodes store change values scope (front ++ back)).decisions =
        (service.ask nodes store change values scope front).decisions ++
          (service.ask nodes store change values
            (service.ask nodes store change values scope front).scope back).decisions ∧
      (service.ask nodes store change values scope (front ++ back)).scope =
        (service.ask nodes store change values
          (service.ask nodes store change values scope front).scope back).scope := by
  induction front generalizing scope with
  | nil => exact ⟨rfl, rfl⟩
  | cons resolved front ih =>
      rw [List.cons_append, ask_cons, ask_cons]
      exact ⟨congrArg (_ :: ·) ih.1, ih.2⟩

/-- Routers that are asked in scopes that concord decide alike, and leave scopes that concord. -/
theorem concord_ask
    (htexts : ∀ resolved ∈ routers, texts resolved.router.id = resolved.router.text)
    (h : scope.Concord texts store other) :
    (service.ask nodes store change values scope routers).decisions =
        (service.ask nodes store change values other routers).decisions ∧
      (service.ask nodes store change values scope routers).scope.Concord texts store
        (service.ask nodes store change values other routers).scope := by
  induction routers generalizing scope other with
  | nil => exact ⟨rfl, h⟩
  | cons resolved routers ih =>
      rw [List.forall_mem_cons] at htexts
      obtain ⟨houtcome, hafter⟩ :
          (service.answerOf nodes store change values scope resolved).1 =
              (service.answerOf nodes store change values other resolved).1 ∧
            (service.answerOf nodes store change values scope resolved).2.Concord texts store
              (service.answerOf nodes store change values other resolved).2 :=
        respects_select htexts.1 resolved.strategy h
      obtain ⟨hlater, hend⟩ := ih htexts.2 hafter
      rw [ask_cons, ask_cons]
      simp only [houtcome, hlater]
      exact ⟨trivial, hend⟩

/-- A router contributes what it selects when it is asked.  If it fails, those asked later contribute what
they would if it were not attached. -/
theorem contributions_split
    (htexts : ∀ other ∈ resolved :: back, texts other.router.id = other.router.text)
    (hfront : (service.ask nodes store change values scope front).scope.Truthful texts store) :
    let asked := service.ask nodes store change values scope front
    let answer := service.answerOf nodes store change values asked.scope resolved
    ∃ later, (service.ask nodes store change values scope (front ++ resolved :: back)).decisions =
        asked.decisions ++ ⟨resolved.router.id, answer.1.toOption.getD ∅⟩ :: later ∧
      ((∃ fault, answer.1 = .error fault) →
        (service.ask nodes store change values scope (front ++ back)).decisions =
          asked.decisions ++ later) := by
  rw [List.forall_mem_cons] at htexts
  refine ⟨_, by rw [ask_append.1, ask_cons], ?_⟩
  rintro ⟨fault, hfailed⟩
  have hconcord := concord_of_failed htexts.1 hfront (Prod.ext hfailed rfl)
  rw [ask_append.1, (concord_ask htexts.2 hconcord).1]
  rfl

end asking

section deciding

variable {service : Service} {lookups : Lookups} {store : Store} {change : Change} {scope : RoutingScope}

/-- The routers decide what those contribute that look at a change.  Where the payload cannot be read, the
first router of the table stands for them. -/
theorem decisions_decide :
    (service.decide lookups store change scope).decisions =
      match lookups.read? change with
      | some (.error _) => silent ((service.attachedTo lookups change).take 1)
      | _ => service.contributions lookups store change scope := by
  rw [Service.decide, Service.contributions, Service.applicable, Service.attachedTo, Lookups.read?]
  cases lookups.snapshots.find? (·.id = change.snapshot) with
  | none => rfl
  | some snapshot =>
      simp only [Option.map_some, Option.elim_some]
      cases service.routersOf snapshot.trigger with
      | nil => cases change.values snapshot <;> rfl
      | cons first rest => cases change.values snapshot <;> rfl

/-- Deciding about a change leaves the scope that the routers leave, if they are asked. -/
theorem truthful_decide {texts : String → String}
    (htexts : ∀ trigger, ∀ resolved ∈ service.routersOf trigger,
      texts resolved.router.id = resolved.router.text)
    (h : scope.Truthful texts store) :
    (service.decide lookups store change scope).scope.Truthful texts store := by
  rw [Service.decide]
  split
  · exact h
  · next snapshot _ =>
    simp only
    split
    · exact h
    · split
      · exact h
      · refine (concord_ask (fun resolved hresolved => ?_) h.refl).2.truthful
        exact htexts _ resolved (List.mem_of_mem_filter hresolved)

end deciding

/-! ## what is recorded -/

/-- The changes that a node has of a pass and of those before it, with the routers that sent them: those in
its stored batches, and those in its open one. -/
def recordedFor (node : String) (s : Builder × Store) : List (Int × String) :=
  deliveredTo node ((s.2.batches.map Numbered.rows).getD []) (s.2.events.getD []) ++
    ((s.1.open? node).map OpenBatch.members).getD []

section recorded

variable {channel : Channel} {before : Store} {book : Book} {sent : List (String × Item)}
  {parcels : List Parcel} {s t : Builder × Store} {change : Change} {decisions : List Decision}

/-- Segments are listed with the last of them in an open batch. -/
theorem listed_segments (node channel : String) (segs : List (List Item)) :
    segs.dropLast.flatten.map Item.listed ++
        ((segs.getLast?.map (packed node channel)).map OpenBatch.members).getD [] =
      segs.flatten.map Item.listed := by
  induction segs using List.reverseRecOn with
  | nil => rfl
  | append_singleton front last _ =>
      rw [List.dropLast_concat, List.getLast?_concat, List.flatten_append, List.flatten_singleton,
        List.map_append, Option.map_some, Option.map_some, Option.getD_some, members_packed]
      rfl

/-- Stored and open batches hold what a node was sent, behind what was there. -/
theorem recordedFor_eq (h : Builds channel before book sent parcels s) (hproper : book.Proper)
    (node : String) :
    recordedFor node s = deliveredTo node book.batches.rows book.events ++
      (itemsFor node sent).map Item.listed := by
  obtain ⟨later, hlater⟩ := h.stored
  have hflatten : (channel.segments (itemsFor node sent)).flatten = itemsFor node sent :=
    flatten_segments _ _ _
  rw [recordedFor, hlater.shows.batches, hlater.shows.events, Option.map_some, Option.getD_some,
    Option.getD_some, deliveredTo_of_takes hlater.takes hproper, List.flatMap_def, h.closed, h.opened,
    List.append_assoc, listed_segments, hflatten]

/-- A change that is sent where routers decided is recorded once for each node that gets it, and for no
other. -/
theorem recordedFor_add {count : Nat} (h : Builds channel before book sent parcels s)
    (hproper : book.Proper)
    (hrun : (Builder.add change decisions).run.run s = (.ok count, t)) (node : String) :
    recordedFor node t =
      recordedFor node s ++ ((sender? node decisions).map (change.id, ·)).toList := by
  obtain ⟨more, hnext⟩ := builds_add h hrun
  rw [recordedFor_eq h hproper, recordedFor_eq hnext hproper, itemsFor_append, itemsFor_sendingsOf_eq,
    List.map_append, List.append_assoc]
  cases sender? node decisions <;> rfl

end recorded

/-! ## the states of a pass -/

/-- What column routers look up beside the tables of batches, where these are there. -/
def Store.directory (store : Store) : Bool × Option (List (String × String)) × Option (List Table) :=
  let files := store.batches.isSome && store.events.isSome && store.watermarks.isSome
  (files, store.redirects, if files then some store.foreign else none)

theorem spared_directory : Spared Store.directory where
  insertBatch {batch store after id} h := by
    rw [Store.insertBatch] at h
    split at h
    · next hnone =>
      obtain ⟨loose, rfl⟩ := looseUpdate_eq_ok h
      simp [Store.directory, Store.withForeign, hnone]
    · next table hsome =>
      split at h
      · cases h
      · cases h
        simp [Store.directory, hsome]
  insertEvent {event store after} h := by
    rw [Store.insertEvent] at h
    split at h
    · next hnone =>
      obtain ⟨loose, rfl⟩ := snd_looseUpdate_eq_ok h
      simp [Store.directory, Store.withForeign, hnone]
    · next rows hsome =>
      split at h
      · cases h
      · cases h
        simp [Store.directory, hsome]
  readEventStatement {store after} h := by
    obtain ⟨wasRead, rfl⟩ := readEventStatement_eq_ok h
    rfl
  advanceWatermark {channel id store after} h := by
    rw [Store.advanceWatermark] at h
    split at h
    · next hnone =>
      obtain ⟨loose, rfl⟩ := snd_looseUpdate_eq_ok h
      simp [Store.directory, Store.withForeign, hnone]
    · next marks hsome =>
      cases h
      simp [Store.directory, hsome]

/-- Where the tables of batches are there, the redirects are as they were. -/
theorem allRedirects_of_directory {store after : Store} {book : Book} (hbook : store.Shows book)
    (hmarks : store.watermarks.isSome = true) (h : after.directory = store.directory) :
    after.allRedirects = store.allRedirects := by
  have hfiles : (store.batches.isSome && store.events.isSome && store.watermarks.isSome) = true := by
    rw [hbook.batches, hbook.events, hmarks]
    rfl
  simp only [Store.directory, Prod.mk.injEq] at h
  obtain ⟨hsame, hredirects, hforeign⟩ := h
  rw [hsame, hfiles, if_pos rfl, if_pos rfl, Option.some.injEq] at hforeign
  rw [Store.allRedirects, Store.allRedirects, hredirects, Store.loose, Store.loose, Store.foreign?,
    Store.foreign?, hforeign]

/-- The states that a pass on a channel comes to by routing one change after another. -/
inductive Service.Comes (service : Service) (lookups : Lookups) (channel : Channel) (store : Store) :
    PassState × Store → Prop
  | start : Comes service lookups channel store (service.startOf channel, store)
  | routed {s t : PassState × Store} {change : Change} {u : Unit} :
    Comes service lookups channel store s →
      (service.routeChange lookups change).run.run s = (.ok u, t) → Comes service lookups channel store t

section states

variable {service : Service} {lookups : Lookups} {channel : Channel} {store : Store} {book : Book}
  {s : PassState × Store} {texts : String → String} {change : Change}

/-- Whatever changes a pass routed, its builder stands for what was sent, and its cache says what the store
says. -/
theorem sound_of_comes (hbook : store.Shows book) (hmarks : store.watermarks.isSome = true)
    (htexts : ∀ trigger, ∀ resolved ∈ service.routersOf trigger,
      texts resolved.router.id = resolved.router.text)
    (h : service.Comes lookups channel store s) :
    (∃ sent parcels, Builds channel store book sent parcels (s.1.builder, s.2)) ∧
      s.2.directory = store.directory ∧ s.1.scope.Truthful texts s.2 := by
  induction h with
  | start => exact ⟨⟨[], [], .new hbook⟩, rfl, Scope.truthful_new _ _ _⟩
  | @routed s t change u _ hrun ih =>
      obtain ⟨⟨sent, parcels, hbuilds⟩, hdirectory, htruthful⟩ := ih
      obtain ⟨count, builder, after, hadd, rfl⟩ := routeChange_eq_ok hrun
      obtain ⟨more, hnext⟩ := builds_add hbuilds hadd
      have hkept : after.directory = s.2.directory := by
        have hkeeps := keeps_routeChange spared_directory service lookups change s
        rw [hrun] at hkeeps
        exact hkeeps
      have hafter := hkept.trans hdirectory
      have hdecided : (service.decide lookups s.2 change s.1.scope).scope.Truthful texts s.2 :=
        truthful_decide htexts htruthful
      refine ⟨⟨_, _, hnext⟩, hafter, ⟨hdecided.tests, fun entries hheld => ?_⟩⟩
      have hread := hdecided.redirects entries hheld
      rw [allRedirects_of_directory hbook hmarks hdirectory] at hread
      exact (allRedirects_of_directory hbook hmarks hafter).trans hread

/-- Routing a change fails where the change cannot be put into batches, and nowhere else. -/
theorem routeChange_fst :
    ((service.routeChange lookups change).run.run s).1 =
      ((Builder.add change (service.decide lookups s.2 change s.1.scope).decisions).run.run
        (s.1.builder, s.2)).1.map fun _ => () := by
  have hbuilt : ((Service.building (Builder.add change
      (service.decide lookups s.2 change s.1.scope).decisions)).run.run
        (s.1.note (service.decide lookups s.2 change s.1.scope), s.2)).1 =
      ((Builder.add change (service.decide lookups s.2 change s.1.scope).decisions).run.run
        (s.1.builder, s.2)).1 := rfl
  rw [Service.routeChange, run_bind, run_get]
  simp only
  rw [run_bind, run_set]
  simp only
  rw [run_bind, run_discard, ← hbuilt]
  cases (Service.building (Builder.add change
      (service.decide lookups s.2 change s.1.scope).decisions)).run.run
        (s.1.note (service.decide lookups s.2 change s.1.scope), s.2) with
  | mk outcome after => cases outcome <;> rfl

end states

/-! ## as contributed -/

/-- Where nobody is contributed, the change goes nowhere in the name of the first router. -/
theorem sender?_silent (node : String) (routers : List ResolvedRouter) :
    sender? node (silent routers) =
      if node = unroutedNode then some (leader routers) else none := by
  have hnobody : (silent routers).all (·.nodes.isEmpty) = true := by
    rw [List.all_eq_true]
    intro decision hdecision
    obtain ⟨resolved, -, rfl⟩ := List.mem_map.1 hdecision
    rfl
  rw [sender?, if_pos hnobody, silent, List.head?_map, Option.map_map]
  rfl

/-- What a change is recorded with for a node tells who sent it there. -/
theorem toList_map_pair_inj {id : Int} {one other : Option String} :
    (one.map (id, ·)).toList = (other.map (id, ·)).toList ↔ one = other := by
  cases one <;> cases other <;> simp

theorem leader_take (routers : List ResolvedRouter) : leader (routers.take 1) = leader routers := by
  cases routers <;> rfl

section contributed

variable {service : Service} {lookups : Lookups} {store : Store} {change : Change} {scope : RoutingScope}

/-- What is decided sends a change where the contributions do, exactly unless the payload cannot be read and
the first router of the table is not the first that looks at the change. -/
theorem senders_as_contributed_iff :
    (∀ node, sender? node (service.decide lookups store change scope).decisions =
        sender? node (service.contributions lookups store change scope)) ↔
      (lookups.Garbles change →
        leader (service.attachedTo lookups change) = leader (service.applicable lookups change)) := by
  rw [decisions_decide, Lookups.Garbles, Service.contributions]
  cases lookups.read? change with
  | none => exact iff_of_true (fun _ => rfl) fun ⟨_, hread⟩ => by cases hread
  | some reading =>
      cases reading with
      | ok values => exact iff_of_true (fun _ => rfl) fun ⟨_, hread⟩ => by cases hread
      | error fault =>
          simp only [sender?_silent, leader_take]
          constructor
          · intro hall _
            simpa using hall unroutedNode
          · intro hleader node
            rw [hleader ⟨fault, rfl⟩]

/-- The routers that contribute are those that look at the change, in order. -/
theorem map_router_contributions :
    (service.contributions lookups store change scope).map Decision.router =
      (service.applicable lookups change).map (·.router.id) := by
  have hsilent : (silent (service.applicable lookups change)).map Decision.router =
      (service.applicable lookups change).map (·.router.id) := by
    rw [silent, List.map_map]
    rfl
  rw [Service.contributions]
  split
  · exact decisions_ask _ _ _
  · exact hsilent

/-- Where the payload cannot be read, nobody is contributed. -/
theorem nodes_contributions_of_garbles (h : lookups.Garbles change) :
    ∀ contribution ∈ service.contributions lookups store change scope, contribution.nodes = ∅ := by
  obtain ⟨fault, hread⟩ := h
  intro contribution hcontribution
  rw [Service.contributions, hread] at hcontribution
  obtain ⟨resolved, -, rfl⟩ := List.mem_map.1 hcontribution
  rfl

/-- Routers that look at a change are attached to some trigger. -/
theorem exists_routersOf_of_applicable {resolved : ResolvedRouter}
    (h : resolved ∈ service.applicable lookups change) :
    ∃ trigger, resolved ∈ service.routersOf trigger := by
  have hattached : resolved ∈ service.attachedTo lookups change := List.mem_of_mem_filter h
  rw [Service.attachedTo] at hattached
  cases hsnapshot : lookups.snapshots.find? (·.id = change.snapshot) with
  | none =>
      rw [hsnapshot] at hattached
      exact (List.not_mem_nil hattached).elim
  | some snapshot =>
      rw [hsnapshot] at hattached
      exact ⟨snapshot.trigger, hattached⟩

/-- A change that is routed is recorded as it was contributed, exactly unless the payload cannot be read and
the first router of the table is not the first that looks at the change. -/
theorem recorded_as_contributed_iff {channel : Channel} {before : Store} {book : Book}
    {sent : List (String × Item)} {parcels : List Parcel} {s t : PassState × Store} {u : Unit}
    (h : Builds channel before book sent parcels (s.1.builder, s.2)) (hproper : book.Proper)
    (hrun : (service.routeChange lookups change).run.run s = (.ok u, t)) :
    (∀ node, recordedFor node (t.1.builder, t.2) = recordedFor node (s.1.builder, s.2) ++
        ((sender? node (service.contributions lookups s.2 change s.1.scope)).map
          (change.id, ·)).toList) ↔
      (lookups.Garbles change →
        leader (service.attachedTo lookups change) = leader (service.applicable lookups change)) := by
  obtain ⟨count, builder, after, hadd, rfl⟩ := routeChange_eq_ok hrun
  have hsenders : (∀ node, sender? node (service.decide lookups s.2 change s.1.scope).decisions =
      sender? node (service.contributions lookups s.2 change s.1.scope)) ↔
    (lookups.Garbles change →
      leader (service.attachedTo lookups change) = leader (service.applicable lookups change)) :=
    senders_as_contributed_iff
  rw [← hsenders]
  refine forall_congr' fun node => ?_
  show recordedFor node (builder, after) = _ ↔ _
  rw [recordedFor_add h hproper hadd, List.append_cancel_left_eq]
  exact toList_map_pair_inj

end contributed

/-- The expression that a configuration gives the router of an id. -/
def Configuration.textOf (config : Configuration) (id : String) : String :=
  ((config.router? id).map Router.text).getD ""

/-- Routers are attached with the expression that the configuration gives them. -/
theorem textOf_of_attached {config : Configuration} {registry : Registry} {fresh : Service}
    (h : Service.setUp config registry = .ok fresh) (trigger : String) (resolved : ResolvedRouter)
    (hresolved : resolved ∈ fresh.routersOf trigger) :
    config.textOf resolved.router.id = resolved.router.text := by
  rw [Configuration.textOf, router?_of_attached h hresolved]
  rfl

/-- Wherever a pass has come to, and whatever change it routes next.  The routers that the trigger of the
change's snapshot lists, as far as they look at the change, contribute in listed order: each what it selects
when it is asked, and nobody if it fails or the payload cannot be read; one that fails takes nothing from
what the later ones contribute and does not make the pass fail.  The change is recorded once for each node
that is contributed, in the name of the first router that did, and where no node is, once for the unrouted
node in the name of the first router or of none: exactly unless its payload cannot be read and the
first router of the table does not look at it. -/
theorem changes_are_recorded_iff {config : Configuration} {registry : Registry} {fresh : Service}
    {marks : List (String × Marks)} {lookups : Lookups} {channel : Channel} {store : Store} {book : Book}
    {s : PassState × Store} (hsetup : Service.setUp config registry = .ok fresh)
    (hids : (config.triggers.map Trigger.id).Nodup) (hbook : store.Shows book) (hproper : book.Proper)
    (hmarks : store.watermarks.isSome = true)
    (hcomes : Service.Comes { fresh with marks := marks } lookups channel store s) (change : Change) :
    let service : Service := { fresh with marks := marks }
    let contributions := service.contributions lookups s.2 change s.1.scope
    contributions.map Decision.router =
        (lookups.snapshots.find? (·.id = change.snapshot)).elim [] (fun snapshot =>
          (config.trigger? snapshot.trigger).elim [] (config.consulted change.event)) ∧
    (lookups.Garbles change → ∀ contribution ∈ contributions, contribution.nodes = ∅) ∧
    (∀ values front resolved back, lookups.read? change = some (.ok values) →
      service.applicable lookups change = front ++ resolved :: back →
      let asked := service.ask lookups.nodes s.2 change values s.1.scope front
      let answer := service.answerOf lookups.nodes s.2 change values asked.scope resolved
      ∃ later, contributions =
          asked.decisions ++ ⟨resolved.router.id, answer.1.toOption.getD ∅⟩ :: later ∧
        ((∃ fault, answer.1 = .error fault) →
          (service.ask lookups.nodes s.2 change values s.1.scope (front ++ back)).decisions =
            asked.decisions ++ later)) ∧
    ((service.routeChange lookups change).run.run s).1 =
      ((Builder.add change (service.decide lookups s.2 change s.1.scope).decisions).run.run
        (s.1.builder, s.2)).1.map (fun _ => ()) ∧
    ∀ t, (service.routeChange lookups change).run.run s = (.ok (), t) →
      ((∀ node, recordedFor node (t.1.builder, t.2) = recordedFor node (s.1.builder, s.2) ++
          ((sender? node contributions).map (change.id, ·)).toList) ↔
        (lookups.Garbles change →
          leader (service.attachedTo lookups change) = leader (service.applicable lookups change))) := by
  intro service contributions
  have htexts : ∀ trigger, ∀ resolved ∈ service.routersOf trigger,
      config.textOf resolved.router.id = resolved.router.text :=
    fun trigger resolved hresolved => textOf_of_attached hsetup trigger resolved hresolved
  obtain ⟨⟨sent, parcels, hbuilds⟩, -, htruthful⟩ := sound_of_comes hbook hmarks htexts hcomes
  refine ⟨?_, nodes_contributions_of_garbles, ?_, routeChange_fst,
    fun t hrun => recorded_as_contributed_iff hbuilds hproper hrun⟩
  · rw [map_router_contributions, Service.applicable, Service.attachedTo]
    cases lookups.snapshots.find? (·.id = change.snapshot) with
    | none => rfl
    | some snapshot =>
        rw [Option.elim_some, Option.elim_some, trigger?_eq_lastTrigger? hids]
        exact map_id_routersOf hsetup snapshot.trigger change.event
  · intro values front resolved back hread happlicable
    have hknown : ∀ other ∈ front ++ resolved :: back,
        config.textOf other.router.id = other.router.text := by
      intro other hother
      obtain ⟨trigger, hattached⟩ := exists_routersOf_of_applicable (happlicable ▸ hother)
      exact htexts trigger other hattached
    obtain ⟨hfront, hback⟩ := List.forall_mem_append.1 hknown
    have hasked : (service.ask lookups.nodes s.2 change values s.1.scope front).scope.Truthful
        config.textOf s.2 := (concord_ask hfront htruthful.refl).2.truthful
    simp only [contributions, Service.contributions, hread, happlicable]
    exact contributions_split hback hasked

/-! ## a head office with three routers -/

/-- A head office whose items go where the redirects say and to each branch.  A third router, which comes
first, does not look at new items. -/
def mixed : Configuration :=
  { chain with
    routers := [
      { id := "updates", sourceGroup := "corp", targetGroup := "branch", onInsert := false },
      { id := "redirected", type := "column", sourceGroup := "corp", targetGroup := "branch",
        expression := some "ID=:REDIRECT_NODE" },
      { id := "down", sourceGroup := "corp", targetGroup := "branch" }]
    triggers := [{ id := "items", table := "item", channel := "orders"
                   routers := ["updates", "redirected", "down"] }] }

/-- The service of the head office with three routers. -/
def mixedService : Service where
  config := mixed
  registry := .builtin (.plain 0) mixed.routing.topologyMarker
  attached := [("items",
    (mixed.routers.zip [.everyone, .column, .everyone]).map fun (router, strategy) => ⟨router, strategy⟩)]
  marks := []

theorem setUp_mixed : Service.setUp mixed (.builtin (.plain 0) "sym") = .ok mixedService := by
  have haccepted : mixed.check = .ok () := by decide
  rw [Service.setUp, haccepted]
  rfl

/-- What the head office knows of its items and branches. -/
def mixedLookups : Lookups where
  snapshots := [⟨1, "items", "item", ["ID"], ["ID"]⟩]
  nodes := [⟨"00000", "corp", "0", true, none⟩, ⟨"001", "branch", "1", true, some "00000"⟩]

/-- A store without a table of redirects. -/
def mixedStore : Store := { chainStore with redirects := none }

/-- A new item. -/
def newItem (payload : String) : Change := { blankChange .insert with id := 7, row := some payload }

/-- A pass that begins. -/
def mixedStart : PassState × Store := (mixedService.startOf { id := "orders" }, mixedStore)

/-- The pass after one new item. -/
def mixedRouted (payload : String) : Except Fault Unit × PassState × Store :=
  (mixedService.routeChange mixedLookups (newItem payload)).run.run mixedStart

/-- The router that asks for redirects fails, and the branch gets the item from the next. -/
theorem changes_are_recorded_iff_mixed :
    (mixedRouted "[\"1\"]").1 = .ok () ∧
      (mixedService.contributions mixedLookups mixedStore (newItem "[\"1\"]") mixedStart.1.scope).map
        Decision.router = ["redirected", "down"] ∧
      recordedFor "001" ((mixedRouted "[\"1\"]").2.1.builder, (mixedRouted "[\"1\"]").2.2) =
        [(7, "down")] := by
  have hrouted : (mixedRouted "[\"1\"]").1 = .ok () := by decide +kernel
  have hreadable : ((mixedLookups.read? (newItem "[\"1\"]")).map fun reading => reading.toOption.isSome) =
      some true := by decide +kernel
  have hsender : sender? "001" (mixedService.contributions mixedLookups mixedStore
      (newItem "[\"1\"]") mixedStart.1.scope) = some "down" := by decide +kernel
  have hproper : Book.Proper ⟨⟨[], 0⟩, []⟩ :=
    ⟨fun _ h => (List.not_mem_nil h).elim, fun _ h => (List.not_mem_nil h).elim⟩
  have hbook : mixedStore.Shows ⟨⟨[], 0⟩, []⟩ := ⟨rfl, rfl⟩
  have hmarks : mixedStore.watermarks.isSome = true := rfl
  have hstart : Service.Comes { mixedService with marks := [] } mixedLookups { id := "orders" } mixedStore
    mixedStart := .start
  obtain ⟨hrouters, -, -, -, hrecorded⟩ :=
    changes_are_recorded_iff setUp_mixed (by decide) hbook hproper hmarks hstart (newItem "[\"1\"]")
  have hclean := (hrecorded _ (Prod.ext hrouted rfl)).2 (by
    rintro ⟨fault, hread⟩
    rw [hread] at hreadable
    cases hreadable)
  refine ⟨hrouted, hrouters.trans (by decide), (hclean "001").trans ?_⟩
  show recordedFor "001" (mixedStart.1.builder, mixedStart.2) ++ (Option.map _ (sender? "001"
    (mixedService.contributions mixedLookups mixedStore (newItem "[\"1\"]") mixedStart.1.scope))).toList = _
  rw [hsender]
  rfl

/-- A new item that cannot be read goes nowhere in the name of a router that does not look at new items,
instead of the first that does. -/
theorem unreadable_named_after_bystander :
    Service.setUp mixed (.builtin (.plain 0) "sym") = .ok mixedService ∧ (mixed.triggers.map Trigger.id).Nodup ∧
      (mixedService.applicable mixedLookups (newItem "[")).map (·.router.id) = ["redirected", "down"] ∧
      sender? unroutedNode (mixedService.contributions mixedLookups mixedStore (newItem "[")
        mixedStart.1.scope) = some "redirected" ∧
      (mixedRouted "[").1 = .ok () ∧
      recordedFor unroutedNode ((mixedRouted "[").2.1.builder, (mixedRouted "[").2.2) =
        [(7, "updates")] :=
  ⟨setUp_mixed, by decide, by decide, by decide +kernel, by decide +kernel, by decide +kernel⟩

end ChangeRouting
