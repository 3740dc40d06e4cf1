import ChangeRouting.Proofs.Service.Pass

/-!
# ChangeRouting.Proofs.Service.Limits

Where a pass stops early.

* `Channel.Spent` — changes and their targets use up what a pass on the channel may do;
* `count_append` — a change that is sent to a node is counted where it begins a batch;
* `carried_add` — what a change carries along that is sent to a node, it carries along that is sent to many;
* `counts_append`, `counts_add` — a builder counts no more batches of a node than there are segments of
  what the node was sent;
* `spent_of_stopped` — a committed pass that stopped early has used up a limit, and so has decided about
  a change.
-/

namespace ChangeRouting

/-- Answers use up what a pass on a channel may do: they are as many as it may route, or what they send to
some node makes as many batches as the node may be given. -/
def Channel.Spent (channel : Channel) (answers : List Answer) : Prop :=
  0 < channel.maxChanges ∧ channel.maxChanges ≤ answers.length ∨
    0 < channel.maxBatches ∧ ∃ node, node ≠ unroutedNode ∧ channel.maxBatches ≤
      (channel.segments (itemsFor node (answers.flatMap Answer.sendings))).length

/-- Without a limit there is none to use up. -/
theorem Channel.not_spent {channel : Channel} {answers : List Answer} (hchanges : channel.maxChanges = 0)
    (hbatches : channel.maxBatches = 0) : ¬channel.Spent answers := by
  rintro (⟨hlimit, -⟩ | ⟨hlimit, -⟩) <;> omega

/-- No limit is used up before the first change. -/
theorem Channel.Spent.ne_nil {channel : Channel} {answers : List Answer} (h : channel.Spent answers) :
    answers ≠ [] := by
  rintro rfl
  obtain ⟨hlimit, hle⟩ | ⟨hlimit, node, -, hle⟩ := h
  · rw [List.length_nil] at hle
    omega
  · have hnone : (channel.segments (itemsFor node ([].flatMap Answer.sendings))).length = 0 := rfl
    omega

/-! ## counted batches -/

/-- A builder counts no more batches of a node than there are segments of what the node was sent. -/
def Builder.Counts (builder : Builder) (channel : Channel) (sent : List (String × Item)) : Prop :=
  ∀ entry ∈ builder.counts, entry.2 ≤ (channel.segments (itemsFor entry.1 sent)).length

section counts

variable {channel : Channel} {before : Store} {book : Book} {sent : List (String × Item)}
  {parcels : List Parcel} {s t : Builder × Store} {node router : String} {change : Change} {u : Unit}

theorem mem_countUp {counts : List (String × Nat)} {entry : String × Nat}
    (h : entry ∈ Builder.countUp node counts) :
    entry ∈ counts ∨
      entry.1 = node ∧ (entry.2 = 1 ∨ ∃ count, (node, count) ∈ counts ∧ entry.2 = count + 1) := by
  induction counts with
  | nil =>
      rw [List.mem_singleton.1 h]
      exact Or.inr ⟨rfl, Or.inl rfl⟩
  | cons first counts ih =>
      rw [Builder.countUp] at h
      split at h
      · next hsame =>
        rw [List.mem_cons] at h
        cases h with
        | inl heq => exact Or.inr ⟨heq ▸ rfl, Or.inr ⟨first.2, hsame ▸ List.mem_cons_self, heq ▸ rfl⟩⟩
        | inr hmem => exact Or.inl (List.mem_cons_of_mem _ hmem)
      · rw [List.mem_cons] at h
        cases h with
        | inl heq => exact Or.inl (heq ▸ List.mem_cons_self)
        | inr hmem =>
            refine (ih hmem).imp (List.mem_cons_of_mem _) fun hnode => ⟨hnode.1, hnode.2.imp_right ?_⟩
            rintro ⟨count, hcount, heq⟩
            exact ⟨count, List.mem_cons_of_mem _ hcount, heq⟩

@[simp] theorem counts_record (builder : Builder) (node router : String) (change : Change) :
    (builder.record node router change).counts = builder.counts := by
  rw [Builder.record]
  cases builder.open? node <;> rfl

/-- One more item makes no fewer segments. -/
theorem length_segments_le (channel : Channel) (other node : String) (sent : List (String × Item))
    (item : Item) :
    (channel.segments (itemsFor other sent)).length ≤
      (channel.segments (itemsFor other (sent ++ [(node, item)]))).length := by
  rw [itemsFor_concat]
  split
  · rw [Channel.segments_concat]
    cases extend_cases channel.policy (max channel.batchSize 1)
        (channel.segments (itemsFor other sent)) item with
    | inl hown =>
        rw [hown, List.length_append]
        omega
    | inr hjoin =>
        obtain ⟨runs, last, hruns, -, hjoin⟩ := hjoin
        rw [hjoin, hruns, List.length_append, List.length_append]
        exact Nat.le_refl _
  · exact Nat.le_refl _

namespace Builder.Counts

variable {builder later : Builder} {item : Item}

/-- An item that begins no batch is not counted. -/
theorem kept (h : builder.Counts channel sent) (hcounts : later.counts = builder.counts) :
    later.Counts channel (sent ++ [(node, item)]) := by
  intro entry hentry
  rw [hcounts] at hentry
  exact (h entry hentry).trans (length_segments_le channel entry.1 node sent item)

/-- An item that begins a batch is a segment more. -/
theorem started (h : builder.Counts channel sent)
    (hcounts : later.counts = Builder.countUp node builder.counts)
    (hmore : (channel.segments (itemsFor node sent)).length <
      (channel.segments (itemsFor node (sent ++ [(node, item)]))).length) :
    later.Counts channel (sent ++ [(node, item)]) := by
  intro entry hentry
  rw [hcounts] at hentry
  obtain hold | ⟨hnode, hfirst | ⟨count, hcount, hnext⟩⟩ := mem_countUp hentry
  · exact (h entry hold).trans (length_segments_le channel entry.1 node sent item)
  · rw [hnode]
    omega
  · have hle := h _ hcount
    rw [hnode]
    simp only at hle
    omega

end Builder.Counts

/-- A change that is sent to a node joins the open batch there, or begins one that is counted. -/
theorem count_append (h : Builds channel before book sent parcels s)
    (hrun : (Builder.append node router change).run.run s = (.ok u, t)) :
    t.1.counts = s.1.counts ∧
        (channel.segments (itemsFor node (sent ++ [(node, ⟨change, router⟩)]))).length =
          (channel.segments (itemsFor node sent)).length ∨
      t.1.counts = Builder.countUp node s.1.counts ∧
        (channel.segments (itemsFor node (sent ++ [(node, ⟨change, router⟩)]))).length =
          (channel.segments (itemsFor node sent)).length + 1 := by
  rw [itemsFor_concat, if_pos rfl, Channel.segments_concat]
  obtain ⟨hopen, rfl⟩ | ⟨batch, hopen, hcases⟩ := append_cases hrun
  · refine Or.inr ⟨counts_record _ _ _ _, ?_⟩
    rw [h.of_open?_none hopen]
    rfl
  · obtain ⟨runs, last, hruns, hne, rfl⟩ := h.of_open? hopen
    rw [h.cutsBefore] at hcases
    rw [hruns]
    obtain ⟨hcut, rfl⟩ | ⟨hcut, _, mid, hflush, rfl⟩ := hcases
    · refine Or.inl ⟨counts_record _ _ _ _, ?_⟩
      rw [extend_of_not_cut hcut, List.length_append, List.length_append]
      rfl
    · -- storing the open batch does not change what is counted
      obtain ⟨later, hlater⟩ := h.stored
      rw [← show (s.1.withoutOpen node).channel = channel.id from h.serves.id] at hflush
      obtain ⟨⟨report, hmid⟩, -⟩ := flush_eq_ok (s := (s.1.withoutOpen node, s.2)) hlater.shows hne hflush
      refine Or.inr ⟨(counts_record _ _ _ _).trans ?_, ?_⟩
      · rw [hmid]
        rfl
      · rw [extend_of_cut hcut, List.length_append]
        rfl

theorem counts_append (h : Builds channel before book sent parcels s) (hcounts : s.1.Counts channel sent)
    (hrun : (Builder.append node router change).run.run s = (.ok u, t)) :
    t.1.Counts channel (sent ++ [(node, ⟨change, router⟩)]) := by
  obtain ⟨hkept, -⟩ | ⟨hstarted, hmore⟩ := count_append h hrun
  · exact hcounts.kept hkept
  · exact hcounts.started hstarted (by omega)

/-- What every change that is sent to a node carries along, a change carries along that is sent where the
routers decided. -/
theorem carried_add {motive : Builder → List (String × Item) → Prop} {decisions : List Decision}
    {count : Nat} (hreport : ∀ report, motive s.1 sent → motive { s.1 with report := report } sent)
    (happend : ∀ {sent parcels s t node router} {u : Unit}, Builds channel before book sent parcels s →
      motive s.1 sent → (Builder.append node router change).run.run s = (.ok u, t) →
        motive t.1 (sent ++ [(node, ⟨change, router⟩)]))
    (h : Builds channel before book sent parcels s) (hstart : motive s.1 sent)
    (hrun : (Builder.add change decisions).run.run s = (.ok count, t)) :
    motive t.1 (sent ++ sendingsOf change decisions) := by
  obtain ⟨_, hsend⟩ := add_eq_ok hrun
  refine (run_forM_eq_ok (motive := fun done s => (∃ parcels, Builds channel before book
    (sent ++ done.map fun target => (target.1, ⟨change, target.2⟩)) parcels s) ∧
      motive s.1 (sent ++ done.map fun target => (target.1, ⟨change, target.2⟩))) ?_ ?_ hsend).2
  · rw [List.map_nil, List.append_nil]
    exact ⟨⟨parcels, h.of_report _⟩, hreport _ hstart⟩
  · intro done target mid next _ hmid hone
    obtain ⟨⟨others, hmid⟩, hcarried⟩ := hmid
    rw [List.map_append, ← List.append_assoc]
    obtain ⟨more, hnext⟩ := builds_append hmid hone
    exact ⟨⟨_, hnext⟩, happend hmid hcarried hone⟩

theorem counts_add {decisions : List Decision} {count : Nat}
    (h : Builds channel before book sent parcels s) (hcounts : s.1.Counts channel sent)
    (hrun : (Builder.add change decisions).run.run s = (.ok count, t)) :
    t.1.Counts channel (sent ++ sendingsOf change decisions) :=
  carried_add (motive := fun builder sent => builder.Counts channel sent) (fun _ hcounts => hcounts)
    counts_append h hcounts hrun

/-- A node has at most as many batches as the builder counts for some node. -/
theorem exists_of_le_mostBatches {builder : Builder} {limit : Nat} (hlimit : 0 < limit)
    (hcounts : builder.Counts channel sent) (h : limit ≤ builder.mostBatches) :
    ∃ node, node ≠ unroutedNode ∧ limit ≤ (channel.segments (itemsFor node sent)).length := by
  have hmax : ∀ (counts : List Nat) (least : Nat), limit ≤ counts.foldl max least →
      limit ≤ least ∨ ∃ count ∈ counts, limit ≤ count := by
    intro counts
    induction counts with
    | nil => exact fun least hle => Or.inl hle
    | cons count counts ih =>
        intro least hle
        obtain hfirst | ⟨other, hother, hle⟩ := ih _ hle
        · rw [Nat.max_def] at hfirst
          split at hfirst
          · exact Or.inr ⟨count, List.mem_cons_self, hfirst⟩
          · exact Or.inl hfirst
        · exact Or.inr ⟨other, List.mem_cons_of_mem _ hother, hle⟩
  obtain hzero | ⟨count, hcount, hle⟩ := hmax _ _ h
  · omega
  · obtain ⟨entry, hentry, rfl⟩ := List.mem_map.1 hcount
    obtain ⟨hmem, hnode⟩ := List.mem_filter.1 hentry
    exact ⟨entry.1, of_decide_eq_true hnode, hle.trans (hcounts entry hmem)⟩

end counts

/-! ## stopping early -/

section stopping

variable {service : Service} {lookups : Lookups} {gaps : List Gap} {stalledAfter : Option Nat}
  {channel : Channel} {store after before : Store} {outcome : PassOutcome} {book : Book}
  {sent : List (String × Item)} {parcels : List Parcel} {s t : PassState × Store} {u : Unit}

/-- A pass counts the changes it routes and the batches they make, and stops where a limit is reached. -/
theorem limits_routeChanges {changes : List Change}
    (hbuilds : Builds channel before book sent parcels (s.1.builder, s.2))
    (hcounts : s.1.builder.Counts channel sent) (hgoing : s.1.stoppedEarly = false)
    (h : (service.routeChanges lookups channel changes).run.run s = (.ok u, t)) :
    t.1.rowsRead = s.1.rowsRead + (service.answers lookups channel changes s).length ∧
      t.1.builder.Counts channel
        (sent ++ (service.answers lookups channel changes s).flatMap Answer.sendings) ∧
      (t.1.stoppedEarly = true → t.1.limitReached channel = true) := by
  induction changes generalizing s sent parcels with
  | nil =>
      cases h
      rw [Service.answers, List.flatMap_nil, List.append_nil]
      exact ⟨rfl, hcounts, fun hstop => absurd (hgoing.symm.trans hstop) Bool.false_ne_true⟩
  | cons change changes ih =>
      rw [Service.routeChanges] at h
      obtain ⟨_, _, hget, h⟩ := run_bind_eq_ok.1 h
      cases hget
      rw [Service.answers]
      by_cases hstop : (s.1.isBoundary change && s.1.limitReached channel) = true
      · rw [if_pos hstop, List.flatMap_nil, List.append_nil]
        simp only [hstop, if_true] at h
        cases h
        exact ⟨rfl, hcounts, fun _ => (Bool.and_eq_true_iff.1 hstop).2⟩
      · rw [if_neg hstop]
        simp only [hstop, Bool.false_eq_true, if_false] at h
        obtain ⟨_, mid, hone, hrest⟩ := run_bind_eq_ok.1 h
        obtain ⟨count, builder, store, hadd, hmid⟩ := routeChange_eq_ok hone
        obtain ⟨first, hfirst⟩ := builds_add hbuilds hadd
        have hcountsMid := counts_add hbuilds hcounts hadd
        rw [hone, List.length_cons, List.flatMap_cons, ← List.append_assoc]
        obtain ⟨hread, hmore, hlimit⟩ := ih (by rw [hmid]; exact hfirst) (by rw [hmid]; exact hcountsMid)
          (by rw [hmid]; exact hgoing) hrest
        have hnext : mid.1.rowsRead = s.1.rowsRead + 1 := by
          rw [hmid]
          rfl
        refine ⟨?_, hmore, hlimit⟩
        rw [hread, hnext, Nat.add_assoc, Nat.add_comm 1]

/-- A committed pass that stopped early has used up a limit of its channel. -/
theorem spent_of_stopped (hbook : store.Shows book)
    (h : (service.pass lookups gaps stalledAfter channel).on store = (.ok outcome, after))
    (hstopped : outcome.report.stoppedEarly = true) :
    channel.Spent (service.recordOf lookups gaps channel store after).answers := by
  obtain ⟨mid, builder, built, hroute, -, -, hout⟩ := pass_eq_ok h
  have hnew : Builds channel store book [] [] ((service.startOf channel).builder, store) := .new hbook
  have hnone : (service.startOf channel).builder.Counts channel [] :=
    fun _ hentry => (List.not_mem_nil hentry).elim
  obtain ⟨hread, hcounts, hlimit⟩ := limits_routeChanges hnew hnone rfl hroute
  rw [hout] at hstopped
  have hreached := hlimit hstopped
  rw [PassState.limitReached, Bool.or_eq_true_iff, Bool.and_eq_true_iff, Bool.and_eq_true_iff,
    decide_eq_true_eq, decide_eq_true_eq, decide_eq_true_eq, decide_eq_true_eq] at hreached
  obtain ⟨hlimit, hle⟩ | ⟨hlimit, hle⟩ := hreached
  · refine Or.inl ⟨hlimit, hle.trans (Nat.le_of_eq ?_)⟩
    rw [hread]
    exact Nat.zero_add _
  · exact Or.inr ⟨hlimit, exists_of_le_mostBatches hlimit hcounts hle⟩

end stopping

end ChangeRouting
