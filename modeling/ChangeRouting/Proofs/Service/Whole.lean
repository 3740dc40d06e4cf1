import ChangeRouting.Proofs.Batch.Targets
import ChangeRouting.Proofs.Service.Failure
import ChangeRouting.Proofs.Service.Pass

/-!
# ChangeRouting.Proofs.Service.Whole

Transactions and limits.  A pass may stop early and a batch may end at any size, but where a channel does
not cut by size alone both respect the transactions in what the pass reads.

* `Routed.front_or_whole` — a pass stops before the first change of a transaction or answers all of its
  changes;
* `Built.exists_parcel` — what a node is sent of a transaction lies in one batch;
* `transactions_stay_whole` — a committed pass routes a transaction whole or not at all, and puts its
  events for a node into one batch.
-/

namespace ChangeRouting

/-- A pass decided about none of these ids and wrote none of them. -/
def PassRecord.Omits (record : PassRecord) (ids : List Int) : Prop :=
  ∀ id ∈ ids, id ∉ record.ids ∧ ∀ event ∈ record.written, event.change ≠ id

/-- A pass decided about all of these ids, and what it wrote of them for one node is in one batch. -/
structure Book.Whole (book : Book) (record : PassRecord) (ids : List Int) : Prop where
  decided : ∀ id ∈ ids, id ∈ record.ids
  written : ∀ id ∈ ids, ∃ event ∈ record.written, event.change = id
  together : ∀ one ∈ record.written, ∀ other ∈ record.written, one.change ∈ ids → other.change ∈ ids →
    book.node? one.batch = book.node? other.batch → one.batch = other.batch

/-- The batches into which a pass wrote some of these ids hold no others. -/
def Book.Alone (book : Book) (record : PassRecord) (ids : List Int) : Prop :=
  ∀ one ∈ record.written, one.change ∈ ids →
    ∀ other ∈ book.events, other.batch = one.batch → other.change ∈ ids

/-! ## where a pass stops -/

/-- What is done when a transaction does not go on ends before that transaction or behind it. -/
theorem before_or_behind {front mine back done rest : List Change} {transaction : String}
    (h : front ++ mine ++ back = done ++ rest)
    (hmine : ∀ change ∈ mine, change.transaction = some transaction)
    (hstop : ∀ next later, rest = next :: later → next.transaction = none ∨
      next.transaction ≠ (done.getLast?.bind (·.transaction))) :
    (rest ≠ [] ∧ ∃ more, front = done ++ more) ∨ ∃ more, done = front ++ mine ++ more := by
  rw [List.append_assoc, List.append_eq_append_iff] at h
  obtain ⟨more, hdone, hmore⟩ | ⟨more, hfront, hrest⟩ := h
  · rw [List.append_eq_append_iff] at hmore
    obtain ⟨later, hmore, -⟩ | ⟨later, hmine', hrest⟩ := hmore
    · exact Or.inr ⟨later, by rw [hdone, hmore, List.append_assoc]⟩
    · cases later with
      | nil => exact Or.inr ⟨[], by rw [hdone, hmine', List.append_nil, List.append_nil]⟩
      | cons next later =>
          rw [List.cons_append] at hrest
          have hnext : next.transaction = some transaction :=
            hmine next (hmine' ▸ List.mem_append_right _ List.mem_cons_self)
          -- the transaction would have to end before this change, and no change of it is done
          have hnone : more = [] := by
            obtain rfl | ⟨before, latest, rfl⟩ := List.eq_nil_or_concat' more
            · rfl
            · have hlatest : latest.transaction = some transaction := by
                refine hmine latest (hmine' ▸ List.mem_append_left _ ?_)
                exact List.mem_append_right _ List.mem_cons_self
              have hends := hstop next (later ++ back) hrest
              rw [hdone, ← List.append_assoc, List.getLast?_concat, Option.bind_some, hlatest,
                hnext] at hends
              exact hends.elim (fun h => absurd h (Option.some_ne_none _)) fun h => absurd rfl h
          refine Or.inl ⟨hrest ▸ List.cons_ne_nil _ _, [], ?_⟩
          rw [hdone, hnone, List.append_nil, List.append_nil]
  · cases hempty : rest with
    | nil =>
        rw [hempty, List.nil_eq_append_iff, List.append_eq_nil_iff] at hrest
        obtain ⟨hmore, hmine', -⟩ := hrest
        exact Or.inr ⟨[], by rw [hfront, hmore, hmine']; simp⟩
    | cons next later => exact Or.inl ⟨List.cons_ne_nil _ _, more, hfront⟩

/-! ## in which batch -/

section block

variable {channel : Channel} {before after : Store} {book later : Book} {sent : List (String × Item)}
  {parcels : List Parcel} {node transaction : String} {front mine back : List Item}

/-- What a node is sent of a transaction, one after the other, lies in one batch. -/
theorem Built.exists_parcel (h : Built channel before book sent parcels after later)
    (hpolicy : channel.policy ≠ .nontransactional) (hne : mine ≠ [])
    (hmine : ∀ item ∈ mine, item.change.transaction = some transaction)
    (hitems : itemsFor node sent = front ++ mine ++ back) :
    ∃ parcel ∈ parcels, ∀ other ∈ parcels, other.node = node → other ≠ parcel →
      ∀ item ∈ other.items, item ∈ front ++ back := by
  obtain ⟨segments, first, last, others, hsegments, hfront, hback⟩ :=
    segments_together (max channel.batchSize 1) front back hpolicy hne hmine
  have hclosed := h.closed node
  rw [hitems, Channel.segments, hsegments, List.map_eq_append_iff] at hclosed
  obtain ⟨xs, ys, hparcels, hxs, hys⟩ := hclosed
  obtain ⟨parcel, zs, rfl, -, hzs⟩ := List.map_eq_cons_iff.1 hys
  have hsub : ∀ other ∈ xs ++ parcel :: zs, other ∈ parcels := by
    rw [← hparcels]
    exact fun other hother => (List.mem_filter.1 hother).1
  refine ⟨parcel, hsub parcel (List.mem_append_right _ List.mem_cons_self), ?_⟩
  intro other hother hnode hdiffers item hitem
  have hmem : other ∈ xs ++ parcel :: zs := by
    rw [← hparcels]
    exact List.mem_filter.2 ⟨hother, decide_eq_true hnode⟩
  rw [hfront, hback]
  simp only [List.mem_append, List.mem_cons] at hmem ⊢
  obtain hxs' | rfl | hzs' := hmem
  · rw [← hxs]
    exact Or.inl (Or.inl (List.mem_flatten.2 ⟨_, List.mem_map_of_mem hxs', hitem⟩))
  · contradiction
  · rw [← hzs]
    exact Or.inr (Or.inr (List.mem_flatten.2 ⟨_, List.mem_map_of_mem hzs', hitem⟩))

/-- An event of a stored batch is about an item that was sent to the node of the batch. -/
theorem Built.exists_item (h : Built channel before book sent parcels after later) {event : BatchEvent}
    (hevent : event ∈ parcels.flatMap Parcel.events) :
    ∃ parcel ∈ parcels, ∃ item ∈ parcel.items, (parcel.node, item) ∈ sent ∧
      event.change = item.change.id ∧ event.batch = parcel.id := by
  obtain ⟨parcel, hparcel, hevent⟩ := List.mem_flatMap.1 hevent
  obtain ⟨item, hitem, rfl⟩ := List.mem_map.1 hevent
  exact ⟨parcel, hparcel, item, hitem, h.mem_sent.2 ⟨parcel, hparcel, rfl, hitem⟩, rfl, rfl⟩

variable {answered done others : List Answer} {ids : List Int}

theorem id_mem_of_sent {answers : List Answer} {item : Item}
    (h : (node, item) ∈ answers.flatMap Answer.sendings) :
    ∃ answer ∈ answers, item.change = answer.change := by
  obtain ⟨answer, hanswer, hchange, -⟩ := mem_sendings.1 h
  exact ⟨answer, hanswer, hchange⟩

/-- Two batches of one node with changes of a transaction are the same batch. -/
theorem Built.eq_of_mem
    (h : Built channel before book ((answered ++ done ++ others).flatMap Answer.sendings) parcels after
      later)
    (hpolicy : channel.policy ≠ .nontransactional)
    (hdone : ∀ answer ∈ done, answer.change.transaction = some transaction)
    (hothers : ∀ answer ∈ answered ++ others, answer.change.id ∉ ids) {one other : Parcel}
    (hone : one ∈ parcels) (hother : other ∈ parcels) (hnode : one.node = other.node)
    (hmem : ∃ item ∈ one.items, item.change.id ∈ ids)
    (hmem' : ∃ item ∈ other.items, item.change.id ∈ ids) : one = other := by
  have hsplit : ∀ node, itemsFor node ((answered ++ done ++ others).flatMap Answer.sendings) =
      itemsFor node (answered.flatMap Answer.sendings) ++
        itemsFor node (done.flatMap Answer.sendings) ++
          itemsFor node (others.flatMap Answer.sendings) := by
    intro node
    rw [List.flatMap_append, List.flatMap_append, itemsFor_append, itemsFor_append]
  have hforeign : ∀ node, ∀ item ∈ itemsFor node (answered.flatMap Answer.sendings) ++
      itemsFor node (others.flatMap Answer.sendings), item.change.id ∉ ids := by
    intro node item hitem
    rw [List.mem_append, mem_itemsFor, mem_itemsFor] at hitem
    obtain hitem | hitem := hitem
    · obtain ⟨answer, hanswer, hchange⟩ := id_mem_of_sent hitem
      rw [hchange]
      exact hothers answer (List.mem_append_left _ hanswer)
    · obtain ⟨answer, hanswer, hchange⟩ := id_mem_of_sent hitem
      rw [hchange]
      exact hothers answer (List.mem_append_right _ hanswer)
  obtain ⟨item, hitem, hid⟩ := hmem
  obtain ⟨item', hitem', hid'⟩ := hmem'
  -- the node is sent something of the transaction
  have hne : itemsFor one.node (done.flatMap Answer.sendings) ≠ [] := by
    intro hnone
    have hsent := mem_itemsFor.2 (h.mem_sent.2 ⟨one, hone, rfl, hitem⟩)
    rw [hsplit, hnone, List.append_nil] at hsent
    exact hforeign _ item hsent hid
  have hmine : ∀ item ∈ itemsFor one.node (done.flatMap Answer.sendings),
      item.change.transaction = some transaction := by
    intro item hitem
    obtain ⟨answer, hanswer, hchange⟩ := id_mem_of_sent (mem_itemsFor.1 hitem)
    rw [hchange]
    exact hdone answer hanswer
  obtain ⟨parcel, -, honly⟩ := h.exists_parcel hpolicy hne hmine (hsplit one.node)
  have hone' : one = parcel := Classical.byContradiction fun hdiffers =>
    hforeign _ item (honly one hone rfl hdiffers item hitem) hid
  have hother' : other = parcel := Classical.byContradiction fun hdiffers =>
    hforeign _ item' (honly other hother hnode.symm hdiffers item' hitem') hid'
  rw [hone', hother']

/-- Where a channel cuts between transactions, the items of a batch are of one transaction. -/
theorem Built.alike (h : Built channel before book sent parcels after later)
    (hpolicy : channel.policy = .transactional)
    (hsome : ∀ sending ∈ sent, sending.2.change.transaction ≠ none) {parcel : Parcel}
    (hparcel : parcel ∈ parcels) : ∀ item ∈ parcel.items, ∀ other ∈ parcel.items,
      item.change.transaction = other.change.transaction := by
  have hmem := h.items_mem_segments hparcel
  rw [Channel.segments, hpolicy] at hmem
  exact segments_alike (fun item hitem => hsome _ (mem_itemsFor.1 hitem)) _ hmem

variable {record : PassRecord}

/-- Nothing is written about ids that no answer is about. -/
theorem Built.omits
    (h : Built channel before book (record.answers.flatMap Answer.sendings) parcels after later)
    (hwritten : record.written = parcels.flatMap Parcel.events)
    (hfree : ∀ answer ∈ record.answers, answer.change.id ∉ ids) : record.Omits ids := by
  refine fun id hid => ⟨fun hdecided => ?_, fun event hevent heq => ?_⟩
  · obtain ⟨answer, hanswer, rfl⟩ := List.mem_map.1 hdecided
    exact hfree answer hanswer hid
  · rw [hwritten] at hevent
    obtain ⟨_, _, item, _, hsent, hchange, -⟩ := h.exists_item hevent
    obtain ⟨answer, hanswer, hitem⟩ := id_mem_of_sent hsent
    rw [← heq, hchange, hitem] at hid
    exact hfree answer hanswer hid

/-- The block of a transaction is routed whole. -/
theorem Built.whole
    (h : Built channel before book (record.answers.flatMap Answer.sendings) parcels after later)
    (hwritten : record.written = parcels.flatMap Parcel.events) (hissued : book.Issued)
    (hpolicy : channel.policy ≠ .nontransactional)
    (hanswers : record.answers = answered ++ done ++ others)
    (hdone : ∀ answer ∈ done, answer.change.transaction = some transaction)
    (hids : done.map (·.change.id) = ids)
    (hothers : ∀ answer ∈ answered ++ others, answer.change.id ∉ ids) : later.Whole record ids where
  decided := by
    intro id hid
    rw [PassRecord.ids, hanswers, List.map_append, List.map_append, hids]
    exact List.mem_append_left _ (List.mem_append_right _ hid)
  written := by
    intro id hid
    rw [← hids] at hid
    obtain ⟨answer, hanswer, rfl⟩ := List.mem_map.1 hid
    -- a change goes somewhere, if only to the unrouted node
    obtain ⟨target, htarget⟩ : ∃ target, target ∈ Builder.targets answer.decisions := by
      refine List.exists_mem_of_ne_nil _ fun hnil => (destined_targets answer.decisions).ne_nil ?_
      rw [hnil]
      rfl
    have hmem : answer ∈ record.answers := by
      rw [hanswers]
      exact List.mem_append_left _ (List.mem_append_right _ hanswer)
    have hsent : (target.1, ⟨answer.change, target.2⟩) ∈ record.answers.flatMap Answer.sendings :=
      mem_sendings.2 ⟨answer, hmem, rfl, htarget⟩
    obtain ⟨parcel, hparcel, -, hitem⟩ := h.mem_sent.1 hsent
    refine ⟨⟨answer.change.id, parcel.id, target.2⟩, ?_, rfl⟩
    rw [hwritten]
    exact List.mem_flatMap.2 ⟨parcel, hparcel, List.mem_map.2 ⟨_, hitem, rfl⟩⟩
  together := by
    intro one hone other hother hid hid' hnode
    rw [hwritten] at hone hother
    rw [hanswers] at h
    obtain ⟨parcel, hparcel, item, hitem, -, hchange, hbatch⟩ := h.exists_item hone
    obtain ⟨parcel', hparcel', item', hitem', -, hchange', hbatch'⟩ := h.exists_item hother
    rw [hbatch, hbatch', h.stored.takes.node?_eq hissued hparcel,
      h.stored.takes.node?_eq hissued hparcel', Option.some_inj] at hnode
    rw [hbatch, hbatch', h.eq_of_mem hpolicy hdone hothers hparcel hparcel' hnode
      ⟨item, hitem, hchange ▸ hid⟩ ⟨item', hitem', hchange' ▸ hid'⟩]

/-- Where a channel cuts between transactions, the block of a transaction shares no batch. -/
theorem Built.alone
    (h : Built channel before book (record.answers.flatMap Answer.sendings) parcels after later)
    (hwritten : record.written = parcels.flatMap Parcel.events) (hproper : book.Proper)
    (hpolicy : channel.policy = .transactional)
    (hsome : ∀ answer ∈ record.answers, answer.change.transaction ≠ none)
    (hids : ∀ answer ∈ record.answers,
      answer.change.id ∈ ids ↔ answer.change.transaction = some transaction) :
    later.Alone record ids := by
  intro one hone hid other hother hbatch
  rw [hwritten] at hone
  obtain ⟨parcel, hparcel, item, hitem, hsent, hchange, hone⟩ := h.exists_item hone
  obtain ⟨answer, hanswer, hitemOf⟩ := id_mem_of_sent hsent
  rw [h.stored.takes.events, List.mem_append] at hother
  obtain hold | hnew := hother
  · -- a batch that was there has an id given out before
    exfalso
    obtain ⟨row, hrow, hrowId⟩ := hproper.known other hold
    have hle := hproper.ids row hrow
    have hlt := (h.stored.takes.issued parcel hparcel).1
    omega
  · obtain ⟨parcel', hparcel', item', hitem', hsent', hchange', hother⟩ := h.exists_item hnew
    obtain ⟨answer', hanswer', hitemOf'⟩ := id_mem_of_sent hsent'
    rw [hother, hone] at hbatch
    rw [h.stored.takes.eq_of_id hparcel' hparcel hbatch] at hitem'
    have hsomes : ∀ sending ∈ record.answers.flatMap Answer.sendings,
        sending.2.change.transaction ≠ none := by
      intro sending hsending
      obtain ⟨answer, hanswer, heq⟩ := id_mem_of_sent hsending
      rw [heq]
      exact hsome answer hanswer
    have halike := h.alike hpolicy hsomes hparcel item hitem item' hitem'
    rw [hchange, hitemOf, hids answer hanswer, ← hitemOf, halike, hitemOf'] at hid
    rw [hchange', hitemOf', hids answer' hanswer']
    exact hid

end block

/-! ## a committed pass -/

section pass

variable {service : Service} {lookups : Lookups} {gaps : List Gap} {stalledAfter : Option Nat}
  {channel : Channel} {store after : Store} {outcome : PassOutcome} {transaction : String}
  {front mine back : List Change}

/-- Of changes in ascending order, those before and after some have other ids. -/
theorem id_not_mem_of_ascending (h : (front ++ mine ++ back).Pairwise (·.id < ·.id)) :
    ∀ change ∈ front ++ back, change.id ∉ mine.map Change.id := by
  intro change hchange hmem
  obtain ⟨other, hother, hid⟩ := List.mem_map.1 hmem
  obtain ⟨hfront, -, hback⟩ := List.pairwise_append.1 h
  rw [List.mem_append] at hchange
  cases hchange with
  | inl hbefore =>
      have hlt := (List.pairwise_append.1 hfront).2.2 change hbefore other hother
      omega
  | inr hafter =>
      have hlt := hback other (List.mem_append_right _ hother) change hafter
      omega

/-- A pass stops before the first change of a transaction or answers all of its changes. -/
theorem Routed.front_or_whole {answers : List Answer} {s t : PassState × Store}
    (h : Routed (front ++ mine ++ back) answers s t) (hstart : s.1.lastTransaction = none)
    (hmine : ∀ change ∈ mine, change.transaction = some transaction) :
    (t.1.stoppedEarly = true ∧ ∀ answer ∈ answers, answer.change ∈ front) ∨
      ∃ answered done others, answers = answered ++ done ++ others ∧
        answered.map Answer.change = front ∧ done.map Answer.change = mine ∧
        ∀ answer ∈ others, answer.change ∈ back := by
  obtain ⟨rest, hfront, hall⟩ := h.front
  have hstop : ∀ next later, rest = next :: later → next.transaction = none ∨
      next.transaction ≠ (answers.map Answer.change).getLast?.bind (·.transaction) := by
    intro next later hrest
    rw [hrest] at hfront
    have hends := h.stop next later hfront
    rw [List.getLast?_map]
    cases hlast : answers.getLast? with
    | none =>
        rw [hlast, Option.elim_none, hstart] at hends
        exact hends
    | some answer =>
        rw [hlast] at hends
        exact hends
  obtain ⟨hrest, more, hmore⟩ | ⟨more, hdone⟩ := before_or_behind hfront hmine hstop
  · refine Or.inl ⟨Bool.of_not_eq_false fun hend => hrest (hall hend), fun answer hanswer => ?_⟩
    rw [hmore]
    exact List.mem_append_left _ (List.mem_map_of_mem hanswer)
  · have hback : back = more ++ rest := by
      rw [hdone, List.append_assoc (front ++ mine), List.append_cancel_left_eq] at hfront
      exact hfront
    obtain ⟨before, others, rfl, hbefore, hothers⟩ := List.map_eq_append_iff.1 hdone
    obtain ⟨answered, done, rfl, hanswered, hblock⟩ := List.map_eq_append_iff.1 hbefore
    refine Or.inr ⟨answered, done, others, rfl, hanswered, hblock, fun answer hanswer => ?_⟩
    rw [hback]
    exact List.mem_append_left _ (hothers ▸ List.mem_map_of_mem hanswer)

/-- A committed pass on a channel that does not cut by size alone routes the changes of a transaction
that it reads one after the other all or none, and puts what it sends to a node into one batch.  Where the
channel cuts between transactions that batch holds nothing else. -/
theorem transactions_stay_whole {book : Book} (hpolicy : channel.policy ≠ .nontransactional)
    (hbook : store.Shows book) (hproper : book.Proper)
    (hstream : (service.readingOf gaps channel store).changes = front ++ mine ++ back)
    (hascending : (front ++ mine ++ back).Pairwise (·.id < ·.id))
    (hmine : ∀ change ∈ mine, change.transaction = some transaction)
    (hothers : ∀ change ∈ front ++ back, change.transaction ≠ some transaction)
    (hpass : (service.pass lookups gaps stalledAfter channel).on store = (.ok outcome, after)) :
    ∃ later, after.Shows later ∧
      later.events = book.events ++ (service.recordOf lookups gaps channel store after).written ∧
      later.Honours (service.recordOf lookups gaps channel store after) ∧
      (outcome.report.stoppedEarly = true ∧
          (service.recordOf lookups gaps channel store after).Omits (mine.map Change.id) ∨
        later.Whole (service.recordOf lookups gaps channel store after) (mine.map Change.id) ∧
          (channel.policy = .transactional →
            (∀ change ∈ front ++ mine ++ back, change.transaction ≠ none) →
            later.Alone (service.recordOf lookups gaps channel store after) (mine.map Change.id))) := by
  obtain ⟨parcels, later, hbuilt⟩ := built_of_pass hbook hpass
  obtain ⟨mid, builder, built, hroute, -, -, hout⟩ := pass_eq_ok hpass
  have hrouted : Routed _ (service.recordOf lookups gaps channel store after).answers _ _ :=
    routed_routeChanges hroute
  have hwritten : (service.recordOf lookups gaps channel store after).written =
      parcels.flatMap Parcel.events := written_eq hbook hbuilt.stored
  have hhonours := hbuilt.honours hbook hproper.ids
  generalize service.recordOf lookups gaps channel store after = record at *
  rw [hstream] at hrouted
  have hforeign := id_not_mem_of_ascending hascending
  refine ⟨later, hbuilt.stored.shows, hwritten ▸ hbuilt.stored.takes.events, hhonours, ?_⟩
  obtain ⟨hearly, hfront⟩ | ⟨answered, done, others, hanswers, hanswered, hblock, hback⟩ :=
    hrouted.front_or_whole rfl hmine
  · -- the pass stopped before the transaction
    refine Or.inl ⟨?_, hbuilt.omits hwritten fun answer hanswer => ?_⟩
    · rw [hout]
      exact hearly
    · exact hforeign answer.change (List.mem_append_left _ (hfront answer hanswer))
  · -- the pass went on behind the transaction
    have hids : done.map (·.change.id) = mine.map Change.id := by
      rw [← hblock, List.map_map]
      rfl
    have hdecided : ∀ answer ∈ done, answer.change.transaction = some transaction := by
      intro answer hanswer
      exact hmine answer.change (hblock ▸ List.mem_map_of_mem hanswer)
    have houtside : ∀ answer ∈ answered ++ others, answer.change ∈ front ++ back := by
      intro answer hanswer
      rw [List.mem_append] at hanswer ⊢
      exact hanswer.imp (fun hmem => hanswered ▸ List.mem_map_of_mem hmem) (hback answer)
    have hfree : ∀ answer ∈ answered ++ others, answer.change.id ∉ mine.map Change.id :=
      fun answer hanswer => hforeign _ (houtside answer hanswer)
    have hsplit : ∀ answer ∈ record.answers, answer ∈ done ∨ answer ∈ answered ++ others := by
      intro answer hanswer
      rw [hanswers] at hanswer
      simp only [List.mem_append] at hanswer ⊢
      exact hanswer.elim (·.elim (Or.inr ∘ Or.inl) Or.inl) (Or.inr ∘ Or.inr)
    refine Or.inr ⟨hbuilt.whole hwritten hproper.ids hpolicy hanswers hdecided hids hfree, ?_⟩
    intro htransactional hsome
    have hiff : ∀ answer ∈ record.answers,
        answer.change.id ∈ mine.map Change.id ↔ answer.change.transaction = some transaction := by
      intro answer hanswer
      obtain hmem | hmem := hsplit answer hanswer
      · exact iff_of_true (hids ▸ List.mem_map_of_mem hmem) (hdecided answer hmem)
      · exact iff_of_false (hfree answer hmem) (hothers _ (houtside answer hmem))
    have hsomes : ∀ answer ∈ record.answers, answer.change.transaction ≠ none := by
      intro answer hanswer
      refine hsome answer.change ?_
      rw [List.append_assoc, List.mem_append, List.mem_append]
      obtain hmem | hmem := hsplit answer hanswer
      · exact Or.inr (Or.inl (hblock ▸ List.mem_map_of_mem hmem))
      · exact (List.mem_append.1 (houtside answer hmem)).imp_right Or.inr
    exact hbuilt.alone hwritten hproper htransactional hsomes hiff

end pass

/-- A row of the log that a transaction made. -/
def orderRow (id : Int) (transaction : String) : ChangeRow :=
  { shopRow id "I" "orders" with transaction := some transaction }

/-- The change of such a row. -/
def orderChange (id : Int) (transaction : String) : Change where
  id := id
  table := "item"
  event := .insert
  row := none
  key := none
  old := none
  snapshot := 1
  channel := "orders"
  transaction := some transaction
  source := none
  createTime := 0
  storedSize := some 0

/-- A channel whose passes and batches are as small as they can be. -/
def narrow : Channel := { id := "orders", policy := .transactional, batchSize := 1, maxChanges := 2 }

/-- Three transactions, the second of two changes. -/
def orderLog : List ChangeRow := [orderRow 1 "a", orderRow 2 "b", orderRow 3 "b", orderRow 4 "c"]

/-- One gap that holds every id. -/
def everything : List Gap := [⟨1, openEnd, .active, 0, 0⟩]

/-- The limit is reached within the second transaction, and the pass stops behind it. -/
theorem transactions_stay_whole_narrow :
    ∃ outcome after, ∃ later : Book,
      (shopService.pass ⟨[], []⟩ everything none narrow).on (shopStore [] orderLog) =
          (.ok outcome, after) ∧
      later.Whole (shopService.recordOf ⟨[], []⟩ everything narrow (shopStore [] orderLog)
        after) [2, 3] ∧
      later.Alone (shopService.recordOf ⟨[], []⟩ everything narrow (shopStore [] orderLog)
        after) [2, 3] := by
  have hok : ((shopService.pass ⟨[], []⟩ everything none narrow).on
      (shopStore [] orderLog)).1.toOption.isSome = true := by decide +kernel
  have hstream : (shopService.readingOf everything narrow (shopStore [] orderLog)).changes =
      [orderChange 1 "a"] ++ [orderChange 2 "b", orderChange 3 "b"] ++ [orderChange 4 "c"] := by
    decide +kernel
  have hids : (shopService.answers ⟨[], []⟩ narrow (shopService.readingOf everything narrow
      (shopStore [] orderLog)).changes (shopService.startOf narrow, shopStore [] orderLog)).map
        (·.change.id) = [1, 2, 3] := by decide +kernel
  have hmine : ∀ change ∈ [orderChange 2 "b", orderChange 3 "b"], change.transaction = some "b" := by
    decide
  have hothers : ∀ change ∈ [orderChange 1 "a"] ++ [orderChange 4 "c"],
      change.transaction ≠ some "b" := by decide
  have hproper : Book.Proper ⟨⟨[], 0⟩, []⟩ :=
    ⟨fun _ h => (List.not_mem_nil h).elim, fun _ h => (List.not_mem_nil h).elim⟩
  cases hrun : (shopService.pass ⟨[], []⟩ everything none narrow).on
      (shopStore [] orderLog) with
  | mk result after =>
      rw [hrun] at hok
      cases result with
      | error fault => exact absurd hok Bool.false_ne_true
      | ok outcome =>
          obtain ⟨later, -, -, -, ⟨-, homits⟩ | ⟨hwhole, halone⟩⟩ :=
            transactions_stay_whole (by decide) ⟨rfl, rfl⟩ hproper hstream (by decide) hmine hothers hrun
          · refine absurd ?_ (homits 2 (by decide)).1
            show 2 ∈ (shopService.answers _ _ _ _).map (·.change.id)
            rw [hids]
            decide
          · exact ⟨outcome, after, later, rfl, hwhole, halone rfl (by decide)⟩

end ChangeRouting
