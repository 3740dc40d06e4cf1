import ChangeRouting.Proofs.Batch.Delivery
import ChangeRouting.Proofs.Service.Entitled
import ChangeRouting.Proofs.Service.Limits
import ChangeRouting.Proofs.Service.Whole

/-!
# ChangeRouting.Proofs.Service.Capped

No node is given more batches than a pass may give it.

The limit is looked at between two transactions only, while the batches of a node end by what the node
itself was sent.  Two facts bring them together: the builder counts every batch, and a node that has all
the batches it may have goes on with the last of them until the transaction ends.

* `Builder.Tracks` — a builder counts every segment of what a node was sent;
* `Channel.length_segments_concat_le`, `Channel.length_segments_within` — one more item makes one more
  segment at most, and none within a transaction;
* `Channel.Capped` — no node has more segments than it may have batches, and the latest change of one that
  has as many belongs to the transaction that goes on;
* `Channel.Capped.answered`, `capped_routeChanges` — a change, and a whole run of them, keep it so;
* `batches_stay_within_limit` — so a pass stores no more batches for a node than the channel allows.
-/

namespace ChangeRouting

/-! ## batches are counted -/

/-- A builder counts every batch of a node: it counts as many as there are segments of what the node was
sent, or more. -/
def Builder.Tracks (builder : Builder) (channel : Channel) (sent : List (String × Item)) : Prop :=
  ∀ node, (channel.segments (itemsFor node sent)).length ≤ (builder.counts.lookup node).getD 0

theorem countUp_eq_assign (node : String) (counts : List (String × Nat)) :
    Builder.countUp node counts = Service.assign node ((counts.lookup node).getD 0 + 1) counts := by
  induction counts with
  | nil => rfl
  | cons entry counts ih =>
      rw [Builder.countUp, Service.assign, List.lookup_cons]
      split
      · next hsame => rw [beq_iff_eq.2 hsame.symm]; rfl
      · next hother => rw [beq_eq_false_iff_ne.2 (Ne.symm hother), ih]

section tracks

variable {channel : Channel} {before : Store} {book : Book} {sent : List (String × Item)}
  {parcels : List Parcel} {s t : Builder × Store} {node router : String} {change : Change}
  {builder : Builder} {u : Unit}

theorem tracks_append (h : Builds channel before book sent parcels s) (htracks : s.1.Tracks channel sent)
    (hrun : (Builder.append node router change).run.run s = (.ok u, t)) :
    t.1.Tracks channel (sent ++ [(node, ⟨change, router⟩)]) := by
  intro other
  have hother := htracks other
  have hcases := count_append h hrun
  by_cases hsame : other = node
  · subst hsame
    obtain ⟨hcounts, hlength⟩ | ⟨hcounts, hlength⟩ := hcases
    · rw [hcounts, hlength]
      exact hother
    · rw [hcounts, hlength, countUp_eq_assign, Service.lookup_assign, if_pos rfl, Option.getD_some]
      exact Nat.succ_le_succ hother
  · -- what another node has is as it was
    have hcounts : t.1.counts.lookup other = s.1.counts.lookup other := by
      obtain ⟨hcounts, -⟩ | ⟨hcounts, -⟩ := hcases
      · rw [hcounts]
      · rw [hcounts, countUp_eq_assign, Service.lookup_assign, if_neg hsame]
    rw [hcounts, itemsFor_concat, if_neg hsame]
    exact hother

theorem tracks_add {decisions : List Decision} {count : Nat}
    (h : Builds channel before book sent parcels s) (htracks : s.1.Tracks channel sent)
    (hrun : (Builder.add change decisions).run.run s = (.ok count, t)) :
    t.1.Tracks channel (sent ++ sendingsOf change decisions) :=
  carried_add (motive := fun builder sent => builder.Tracks channel sent) (fun _ htracks => htracks)
    tracks_append h htracks hrun

/-- A node that changes are delivered to has no more segments than the most batches that are counted. -/
theorem Builder.Tracks.le_mostBatches (h : builder.Tracks channel sent) (hnode : node ≠ unroutedNode) :
    (channel.segments (itemsFor node sent)).length ≤ builder.mostBatches := by
  refine (h node).trans ?_
  cases hcount : builder.counts.lookup node with
  | none => exact Nat.zero_le _
  | some count =>
      obtain ⟨front, back, hcounts, -⟩ := List.lookup_eq_some_iff.1 hcount
      have hmem : (node, count) ∈ builder.counts.filter (·.1 ≠ unroutedNode) := by
        simp [hcounts, hnode]
      have hcounted : count ∈ (builder.counts.filter (·.1 ≠ unroutedNode)).map (·.2) :=
        List.mem_map.2 ⟨_, hmem, rfl⟩
      rw [mostBatches, List.foldl_max, Option.getD_some]
      exact (List.le_max?_getD_of_mem hcounted).trans (Nat.le_max_right ..)

end tracks

/-! ## one more item -/

namespace Channel

variable {channel : Channel} {items : List Item} {item : Item}

/-- One more item makes one more segment at most. -/
theorem length_segments_concat_le (channel : Channel) (items : List Item) (item : Item) :
    (channel.segments (items ++ [item])).length ≤ (channel.segments items).length + 1 := by
  rw [segments_concat]
  obtain hown | ⟨runs, last, hruns, -, hjoin⟩ := extend_cases channel.policy (max channel.batchSize 1)
    (channel.segments items) item
  · rw [hown, List.length_append]
    exact Nat.le_refl _
  · rw [hjoin, hruns, List.length_append, List.length_append]
    exact Nat.le_succ _

/-- The latest item is the latest of the last segment. -/
theorem getLast?_of_segments {runs : List (List Item)} {last : List Item}
    (h : channel.segments items = runs ++ [last]) : last.getLast? = items.getLast? := by
  have hitems := flatten_segments channel.policy (max channel.batchSize 1) items
  have hlast : last ∈ channel.segments items := h ▸ List.mem_append_right _ List.mem_cons_self
  rw [← segments, h, List.flatten_append, List.flatten_singleton] at hitems
  rw [← hitems, List.getLast?_append_of_ne_nil _ (ne_nil_of_mem_segments hlast)]

/-- An item that goes on with the transaction of the latest one makes no more segments. -/
theorem length_segments_within {transaction : String} (hpolicy : channel.policy ≠ .nontransactional)
    (hlast : items.getLast?.bind (·.change.transaction) = some transaction)
    (hitem : item.change.transaction = some transaction) :
    (channel.segments (items ++ [item])).length = (channel.segments items).length := by
  rw [segments_concat]
  obtain hnone | ⟨runs, last, hruns⟩ := List.eq_nil_or_concat' (channel.segments items)
  · have hitems := flatten_segments channel.policy (max channel.batchSize 1) items
    rw [← segments, hnone] at hitems
    rw [← hitems] at hlast
    contradiction
  · rw [← getLast?_of_segments hruns] at hlast
    rw [hruns, extend_of_not_cut (cutAfter_within hpolicy hlast hitem), List.length_append,
      List.length_append]
    rfl

end Channel

/-! ## the limit -/

/-- The transaction of the latest change that a node was sent. -/
def latestFor (node : String) (sent : List (String × Item)) : Option String :=
  (itemsFor node sent).getLast?.bind (·.change.transaction)

/-- No node has more segments than a pass may give it batches, and the latest change of a node that has as
many belongs to the transaction of the latest change of all. -/
def Channel.Capped (channel : Channel) (last : Option String) (sent : List (String × Item)) : Prop :=
  ∀ node, node ≠ unroutedNode →
    (channel.segments (itemsFor node sent)).length ≤ channel.maxBatches ∧
      ((channel.segments (itemsFor node sent)).length = channel.maxBatches → latestFor node sent = last)

/-- A change that is sent where the routers decided keeps it so, if it begins another transaction only where
every node has fewer batches than it may have. -/
theorem Channel.Capped.answered {channel : Channel} {last : Option String}
    {sent : List (String × Item)} {change : Change} (h : channel.Capped last sent)
    (decisions : List Decision)
    (hroom : change.transaction = none ∨ change.transaction ≠ last → ∀ node, node ≠ unroutedNode →
      (channel.segments (itemsFor node sent)).length < channel.maxBatches)
    (hpolicy : change.transaction ≠ none → channel.policy ≠ .nontransactional) :
    channel.Capped change.transaction (sent ++ sendingsOf change decisions) := by
  intro node hnode
  obtain ⟨hle, hfull⟩ := h node hnode
  -- where a node has all its batches, the change goes on with the transaction of the latest one
  have hwithin : (channel.segments (itemsFor node sent)).length = channel.maxBatches →
      change.transaction ≠ none ∧ change.transaction = last := by
    intro heq
    have hgoes := not_or.1 fun hbegins => Nat.ne_of_lt (hroom hbegins node hnode) heq
    exact ⟨hgoes.1, not_not.1 hgoes.2⟩
  rw [latestFor, itemsFor_append, itemsFor_sendingsOf_eq]
  cases sender? node decisions with
  | none =>
      rw [Option.map_none, Option.toList_none, List.append_nil]
      exact ⟨hle, fun heq => (hfull heq).trans (hwithin heq).2.symm⟩
  | some router =>
      rw [Option.map_some, Option.toList_some, List.getLast?_concat]
      refine ⟨?_, fun _ => rfl⟩
      obtain hlt | heq := Nat.lt_or_eq_of_le hle
      · exact (channel.length_segments_concat_le _ _).trans hlt
      · obtain ⟨hsome, hsame⟩ := hwithin heq
        obtain ⟨transaction, htransaction⟩ := Option.ne_none_iff_exists'.1 hsome
        have hlatest : (itemsFor node sent).getLast?.bind (·.change.transaction) = some transaction := by
          rw [← htransaction, hsame]
          exact hfull heq
        rw [Channel.length_segments_within (hpolicy hsome) hlatest htransaction]
        exact hle

section pass

variable {service : Service} {lookups : Lookups} {gaps : List Gap} {stalledAfter : Option Nat}
  {channel : Channel} {store before : Store} {book : Book} {sent : List (String × Item)}
  {parcels : List Parcel} {s t : PassState × Store} {u : Unit}

/-- A pass goes on to another transaction only where every node has fewer batches than it may have. -/
theorem room_of_not_stopped {change : Change} (hlimit : 0 < channel.maxBatches)
    (htracks : s.1.builder.Tracks channel sent)
    (hgoes : (s.1.isBoundary change && s.1.limitReached channel) = false)
    (hbegins : change.transaction = none ∨ change.transaction ≠ s.1.lastTransaction) {node : String}
    (hnode : node ≠ unroutedNode) :
    (channel.segments (itemsFor node sent)).length < channel.maxBatches := by
  have hboundary : s.1.isBoundary change = true := by
    rw [PassState.isBoundary]
    obtain hnone | hother := hbegins
    · simp [hnone]
    · simp [hother]
  rw [hboundary, Bool.true_and, PassState.limitReached, Bool.or_eq_false_iff] at hgoes
  have hfew := (Bool.and_eq_false_iff.1 hgoes.2).resolve_left (by simp [hlimit])
  rw [decide_eq_false_iff_not, Nat.not_le] at hfew
  exact (htracks.le_mostBatches hnode).trans_lt hfew

/-- Routing changes one after the other, a pass gives no node more batches than it may. -/
theorem capped_routeChanges {changes : List Change} (hlimit : 0 < channel.maxBatches)
    (hpolicy : channel.policy ≠ .nontransactional ∨ ∀ change ∈ changes, change.transaction = none)
    (hbuilds : Builds channel before book sent parcels (s.1.builder, s.2))
    (htracks : s.1.builder.Tracks channel sent) (hcapped : channel.Capped s.1.lastTransaction sent)
    (h : (service.routeChanges lookups channel changes).run.run s = (.ok u, t)) :
    channel.Capped t.1.lastTransaction
      (sent ++ (service.answers lookups channel changes s).flatMap Answer.sendings) := by
  induction changes generalizing s sent parcels with
  | nil =>
      cases h
      rw [Service.answers, List.flatMap_nil, List.append_nil]
      exact hcapped
  | cons change changes ih =>
      rw [Service.routeChanges] at h
      obtain ⟨_, _, hget, h⟩ := run_bind_eq_ok.1 h
      cases hget
      rw [Service.answers]
      cases hstop : s.1.isBoundary change && s.1.limitReached channel with
      | true =>
          simp only [hstop, if_true] at h
          cases h
          rw [if_pos rfl, List.flatMap_nil, List.append_nil]
          exact hcapped
      | false =>
          simp only [hstop, Bool.false_eq_true, if_false] at h
          obtain ⟨_, mid, hone, hrest⟩ := run_bind_eq_ok.1 h
          obtain ⟨count, builder, store, hadd, hmid⟩ := routeChange_eq_ok hone
          obtain ⟨first, hfirst⟩ := builds_add hbuilds hadd
          have htracksMid := tracks_add hbuilds htracks hadd
          have hcappedMid := hcapped.answered (service.decide lookups s.2 change s.1.scope).decisions
            (fun hbegins _ hnode => room_of_not_stopped hlimit htracks hstop hbegins hnode)
            (fun hsome => hpolicy.resolve_right fun hnone => hsome (hnone change List.mem_cons_self))
          have hlater := hpolicy.imp_right fun hnone => (List.forall_mem_cons.1 hnone).2
          rw [if_neg Bool.false_ne_true, hone, List.flatMap_cons, ← List.append_assoc]
          exact ih hlater (by rw [hmid]; exact hfirst) (by rw [hmid]; exact htracksMid)
            (by rw [hmid]; exact hcappedMid) hrest

/-- A pass stores no more batches for a node that changes are delivered to than its channel allows, however
it ends: unless batches are cut by size alone, whatever transactions there are; by size alone, if there are
none. -/
theorem batches_stay_within_limit (hlimit : 0 < channel.maxBatches)
    (hpolicy : channel.policy ≠ .nontransactional ∨
      ∀ change ∈ (service.readingOf gaps channel store).changes, change.transaction = none)
    (hbook : store.Shows book) :
    ∃ later rows,
      ((service.pass lookups gaps stalledAfter channel).guarded.on store).2.Shows later ∧
      later.batches.rows = book.batches.rows ++ rows ∧
      ∀ node, node ≠ unroutedNode →
        (rows.filter (·.batch.node = node)).length ≤ channel.maxBatches := by
  rw [Work.guarded_on]
  cases hpass : (service.pass lookups gaps stalledAfter channel).on store with
  | mk result after =>
      cases result with
      | error fault =>
          -- a pass that failed is taken back
          exact ⟨book, [], hbook, (List.append_nil _).symm, fun _ _ => Nat.zero_le _⟩
      | ok outcome =>
          obtain ⟨parcels, later, hbuilt⟩ := built_of_pass hbook hpass
          obtain ⟨mid, builder, built, hroute, -⟩ := pass_eq_ok hpass
          have hnew : Builds channel store book [] [] ((service.startOf channel).builder, store) :=
            .new hbook
          have hcapped : channel.Capped none [] := fun _ _ => ⟨Nat.zero_le _, fun _ => rfl⟩
          have hend := capped_routeChanges hlimit hpolicy hnew (fun _ => Nat.zero_le _) hcapped hroute
          refine ⟨later, parcels.map Parcel.row, hbuilt.stored.shows, hbuilt.stored.takes.rows,
            fun node hnode => ?_⟩
          have hrows : ((parcels.map Parcel.row).filter (·.batch.node = node)).length =
              ((parcels.filter (·.node = node)).map Parcel.items).length := by
            rw [List.filter_map, List.length_map, List.length_map]
            simp only [Function.comp_def, Parcel.row_node]
          rw [hrows, hbuilt.closed]
          exact (hend node hnode).1

end pass

/-- A channel that ends a batch after each transaction and gives a node two batches in a pass. -/
def brisk : Channel := { id := "orders", batchSize := 1, maxBatches := 2 }

/-- What the head office looks up for one branch. -/
def chainLookups : Lookups :=
  ⟨[⟨1, "items", "item", [], []⟩], [⟨"001", "branch", "1", true, some "00000"⟩]⟩

/-- The limit is reached within the second transaction.  Its other change still goes to the branch, in a
batch that is there; the third transaction is left. -/
theorem batches_stay_within_limit_brisk :
    ∃ later : Book,
      ((chainService.pass chainLookups everything none brisk).guarded.on (shopStore [] orderLog)).2.Shows
        later ∧
      later.events.map (·.change) = [1, 2, 3] ∧
      (later.batches.rows.filter (·.batch.node = "001")).length ≤ 2 := by
  have hevents : ((chainService.pass chainLookups everything none brisk).guarded.on
      (shopStore [] orderLog)).2.events.map (·.map (·.change)) = some [1, 2, 3] := by decide +kernel
  have hbook : (shopStore [] orderLog).Shows ⟨⟨[], 0⟩, []⟩ := ⟨rfl, rfl⟩
  obtain ⟨later, rows, hshows, hrows, hlimit⟩ : ∃ later rows,
      ((chainService.pass chainLookups everything none brisk).guarded.on (shopStore [] orderLog)).2.Shows
        later ∧
      later.batches.rows = [] ++ rows ∧
      ∀ node, node ≠ unroutedNode → (rows.filter (·.batch.node = node)).length ≤ brisk.maxBatches :=
    batches_stay_within_limit (by decide) (Or.inl (by decide)) hbook
  refine ⟨later, hshows, ?_, ?_⟩
  · rw [hshows.events] at hevents
    exact Option.some.inj hevents
  · rw [hrows, List.nil_append]
    exact hlimit "001" (by decide)

end ChangeRouting
