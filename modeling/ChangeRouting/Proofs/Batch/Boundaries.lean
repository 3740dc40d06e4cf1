import ChangeRouting.Proofs.Batch.Building
import Mathlib.Data.List.SplitBy

/-!
# ChangeRouting.Proofs.Batch.Boundaries

Where the batches of a node end.

The builder decides item by item, from the length of the open batch and the transaction of its last item.
What that comes to for all batches of a node follows from two facts about neighbours:

* `CutBy` — items are cut where the policy ends a batch, and nowhere else;
* `cutBy_segments` — the segments of a node are so cut.

The laws are read off these two, without another induction over the items:

* `CutBy.length_eq`, `CutBy.count_eq` — cut by size alone, every segment but the last is full;
* `CutBy.eq_transactionRuns` — cut between transactions, the segments are the runs of one transaction;
* `CutBy.exists_groups` — cut by both, a segment is made of whole runs, as few as reach the size;
* `CutBy.begins_iff` — an item without a transaction begins a segment exactly if the open one is full;
* `batches_end_by_policy` — so end the batches that are stored for a node.
-/

namespace ChangeRouting

variable {policy : BatchPolicy} {size : Nat} {items front back : List Item} {item : Item}
  {segs : List (List Item)} {segment : List Item}

/-! ## neighbours -/

/-- Items are cut into segments where the policy ends a batch, and nowhere else. -/
structure CutBy (policy : BatchPolicy) (size : Nat) (items : List Item) (segs : List (List Item)) :
    Prop where
  flatten : segs.flatten = items
  ne_nil : ∀ segment ∈ segs, segment ≠ []
  /-- A segment that another follows ends before the first item of that one. -/
  ended : segs.IsChain fun one next => ∀ item ∈ next.head?, cutAfter policy size one item.change = true
  /-- Within a segment it does not end. -/
  goesOn : ∀ segment ∈ segs, ∀ front item back, segment = front ++ item :: back → front ≠ [] →
    cutAfter policy size front item.change = false

namespace CutBy

theorem nil : CutBy policy size [] [] where
  flatten := rfl
  ne_nil := by simp
  ended := List.isChain_nil
  goesOn := by simp

/-- An item begins a segment where the policy ends a batch before it, and where there is no segment. -/
theorem begin (h : CutBy policy size items segs)
    (hcut : ∀ last ∈ segs.getLast?, cutAfter policy size last item.change = true) :
    CutBy policy size (items ++ [item]) (segs ++ [[item]]) where
  flatten := by simp [h.flatten]
  ne_nil := by
    intro segment hsegment
    rw [List.mem_append, List.mem_singleton] at hsegment
    cases hsegment with
    | inl hmem => exact h.ne_nil segment hmem
    | inr hown => simp [hown]
  ended := by
    rw [List.isChain_append]
    refine ⟨h.ended, List.isChain_singleton _, fun last hlast next hnext => ?_⟩
    have hnext : [item] = next := by simpa using hnext
    simpa [← hnext] using hcut last hlast
  goesOn := by
    intro segment hsegment front other back heq hne
    rw [List.mem_append, List.mem_singleton] at hsegment
    cases hsegment with
    | inl hmem => exact h.goesOn segment hmem front other back heq hne
    | inr hown =>
        -- nothing comes before the only item of a segment
        rw [hown, eq_comm, List.append_eq_singleton_iff] at heq
        simp [hne] at heq

/-- An item joins the last segment where the policy does not end a batch before it. -/
theorem join {runs : List (List Item)} {last : List Item} (h : CutBy policy size items (runs ++ [last]))
    (hcut : cutAfter policy size last item.change = false) :
    CutBy policy size (items ++ [item]) (runs ++ [last ++ [item]]) where
  flatten := by simp [← h.flatten]
  ne_nil := by
    intro segment hsegment
    rw [List.mem_append, List.mem_singleton] at hsegment
    cases hsegment with
    | inl hmem => exact h.ne_nil segment (by simp [hmem])
    | inr hjoined => simp [hjoined]
  ended := by
    have hlast : last ≠ [] := h.ne_nil last (by simp)
    have hhead : (last ++ [item]).head? = last.head? := by
      rw [List.head?_append, List.head?_eq_some_head hlast]
      rfl
    have hended := h.ended
    rw [List.isChain_append] at hended ⊢
    refine ⟨hended.1, List.isChain_singleton _, fun one hone next hnext => ?_⟩
    have hnext : last ++ [item] = next := by simpa using hnext
    rw [← hnext, hhead]
    exact hended.2.2 one hone last rfl
  goesOn := by
    intro segment hsegment front other back heq hne
    rw [List.mem_append, List.mem_singleton] at hsegment
    cases hsegment with
    | inl hmem => exact h.goesOn segment (by simp [hmem]) front other back heq hne
    | inr hjoined =>
        rw [hjoined] at heq
        obtain rfl | ⟨rest, final, rfl⟩ := List.eq_nil_or_concat' back
        · -- the item itself
          obtain ⟨rfl, hitem⟩ := List.append_inj' heq rfl
          cases hitem
          exact hcut
        · rw [← List.cons_append, ← List.append_assoc] at heq
          obtain ⟨hfront, -⟩ := List.append_inj' heq rfl
          exact h.goesOn last (by simp) front other rest hfront hne

end CutBy

/-- The segments of a node are cut where the policy ends a batch. -/
theorem cutBy_segments (policy : BatchPolicy) (size : Nat) (items : List Item) :
    CutBy policy size items (segments policy size items) := by
  induction items using List.reverseRecOn with
  | nil => exact .nil
  | append_singleton items item ih =>
      rw [segments_concat]
      obtain hnone | ⟨runs, last, hruns⟩ := List.eq_nil_or_concat' (segments policy size items)
      · rw [hnone] at ih ⊢
        exact ih.begin (by simp)
      · rw [hruns] at ih ⊢
        cases hcut : cutAfter policy size last item.change with
        | true =>
            rw [extend_of_cut hcut]
            exact ih.begin (by simp [hcut])
        | false =>
            rw [extend_of_not_cut hcut]
            exact ih.join hcut

namespace CutBy

theorem mem_items (h : CutBy policy size items segs) (hsegment : segment ∈ segs) (hitem : item ∈ segment) :
    item ∈ items := by
  rw [← h.flatten, List.mem_flatten]
  exact ⟨segment, hsegment, hitem⟩

/-- A segment that is not the last ends before some item. -/
theorem exists_cutAfter (h : CutBy policy size items segs) (hsegment : segment ∈ segs.dropLast) :
    ∃ item ∈ items, cutAfter policy size segment item.change = true := by
  obtain ⟨before, between, hdrop⟩ := List.append_of_mem hsegment
  have hne : segs ≠ [] := by
    intro hnil
    simp [hnil] at hsegment
  have hsegs := List.dropLast_append_getLast hne
  rw [hdrop, List.append_assoc, List.cons_append] at hsegs
  cases hlater : between ++ [segs.getLast hne] with
  | nil => simp at hlater
  | cons next later =>
      rw [hlater] at hsegs
      have hcut := List.isChain_iff_forall_rel_of_append_cons_cons.1 h.ended hsegs.symm
      have hnext : next ∈ segs := by simp [← hsegs]
      obtain ⟨item, rest, rfl⟩ := List.exists_cons_of_ne_nil (h.ne_nil next hnext)
      exact ⟨item, h.mem_items hnext List.mem_cons_self, hcut item rfl⟩

end CutBy

/-! ## cut by size -/

/-- Size alone decides where the policy is to, and before a change without a transaction. -/
theorem cutAfter_by_size {change : Change}
    (h : policy = .nontransactional ∨ change.transaction = none) (items : List Item) :
    cutAfter policy size items change = decide (size ≤ items.length) := by
  rw [cutAfter]
  cases h with
  | inl hpolicy => simp [hpolicy, BatchPolicy.cuts]
  | inr hnone => cases policy <;> simp [hnone, BatchPolicy.cuts]

/-- Where size alone decides, the policy does not matter. -/
theorem segments_eq_of_no_transaction (policy : BatchPolicy) (size : Nat)
    (hnone : ∀ item ∈ items, item.change.transaction = none) :
    segments policy size items = segments .nontransactional size items := by
  induction items using List.reverseRecOn with
  | nil => rfl
  | append_singleton items item ih =>
      have hitem := hnone item (by simp)
      rw [segments_concat, segments_concat, ih fun other hother => hnone other (by simp [hother])]
      simp only [extend, cutAfter_by_size (Or.inr hitem)]

namespace CutBy

variable (h : CutBy policy size items segs)

section size

variable (hsize : 0 < size)
  (hby : ∀ item ∈ items, policy = .nontransactional ∨ item.change.transaction = none)

include h hsize hby

/-- Where size alone decides, no segment is larger than the size. -/
theorem length_le (hsegment : segment ∈ segs) : segment.length ≤ size := by
  by_contra hlarge
  have hback : segment.drop size ≠ [] := by
    intro hnil
    rw [List.drop_eq_nil_iff] at hnil
    omega
  obtain ⟨item, rest, hrest⟩ := List.exists_cons_of_ne_nil hback
  have hcut : segment = segment.take size ++ item :: rest := by
    rw [← hrest, List.take_append_drop]
  have hlength : (segment.take size).length = size := List.length_take_of_le (by omega)
  have hfront : segment.take size ≠ [] := by
    intro hnil
    simp [hnil] at hlength
    omega
  have hitem : item ∈ items := h.mem_items hsegment (hcut ▸ by simp)
  have hgoes := h.goesOn segment hsegment _ item rest hcut hfront
  rw [cutAfter_by_size (hby item hitem), hlength] at hgoes
  simp at hgoes

/-- Where size alone decides, a segment that is not the last is full. -/
theorem length_eq (hsegment : segment ∈ segs.dropLast) : segment.length = size := by
  have hle := h.length_le hsize hby (List.mem_of_mem_dropLast hsegment)
  obtain ⟨item, hitem, hcut⟩ := h.exists_cutAfter hsegment
  rw [cutAfter_by_size (hby item hitem), decide_eq_true_eq] at hcut
  omega

/-- Where size alone decides, there are as many segments as the items need. -/
theorem count_eq : segs.length = (items.length + size - 1) / size := by
  obtain rfl | ⟨before, last, rfl⟩ := List.eq_nil_or_concat' segs
  · have hitems : items = [] := h.flatten.symm
    rw [hitems, List.length_nil, List.length_nil, Nat.div_eq_of_lt (by omega)]
  · have hle : last.length ≤ size := h.length_le hsize hby (by simp)
    have hpos := List.length_pos_iff.2 (h.ne_nil last (by simp))
    have hfull : before.map List.length = List.replicate before.length size := by
      rw [List.eq_replicate_iff]
      refine ⟨List.length_map _, fun n hn => ?_⟩
      obtain ⟨segment, hsegment, rfl⟩ := List.mem_map.1 hn
      exact h.length_eq hsize hby (by simpa using hsegment)
    have hitems : items.length = before.length * size + last.length := by
      rw [← h.flatten, List.length_flatten, List.map_append, List.sum_append, hfull,
        List.sum_replicate_nat]
      simp
    symm
    rw [List.length_append, List.length_singleton, Nat.div_eq_iff hsize, hitems, Nat.add_one_mul]
    omega

end size

end CutBy

/-! ## cut between transactions -/

/-- Two items belong to one transaction, or to none. -/
def sameTransaction (one other : Item) : Bool := one.change.transaction = other.change.transaction

/-- The runs of items that belong to one transaction, each as long as it can be. -/
def transactionRuns (items : List Item) : List (List Item) := items.splitBy sameTransaction

/-- Where segments end between transactions, the runs of all items are those of the segments. -/
theorem transactionRuns_flatten (hne : ∀ segment ∈ segs, segment ≠ [])
    (hends : segs.IsChain fun one next =>
      ∀ x ∈ one.getLast?, ∀ y ∈ next.head?, sameTransaction x y = false) :
    transactionRuns segs.flatten = segs.flatMap transactionRuns := by
  induction segs with
  | nil => rfl
  | cons segment segs ih =>
      have hrest := ih (fun other hother => hne other (List.mem_cons_of_mem _ hother)) hends.tail
      rw [List.flatten_cons, List.flatMap_cons, ← hrest]
      refine List.splitBy_append fun x hx y hy => ?_
      cases segs with
      | nil => simp at hy
      | cons next later =>
          obtain ⟨first, others, rfl⟩ := List.exists_cons_of_ne_nil (hne next (by simp))
          exact hends.rel_head? rfl x hx y hy

namespace CutBy

section transactions

variable (h : CutBy policy size items segs) (hpolicy : policy ≠ .nontransactional)
  (hsome : ∀ item ∈ items, item.change.transaction ≠ none)

include h hpolicy hsome

/-- Where every item has a transaction, a segment ends between two of them. -/
theorem ends_between : segs.IsChain fun one next =>
    ∀ x ∈ one.getLast?, ∀ y ∈ next.head?, sameTransaction x y = false := by
  refine h.ended.imp_of_mem_imp fun one next _ hnext hcut x hx y hy => ?_
  have hy' : y ∈ items := h.mem_items hnext (List.mem_of_head? hy)
  obtain ⟨transaction, htransaction⟩ := Option.ne_none_iff_exists'.1 (hsome y hy')
  rw [sameTransaction, decide_eq_false_iff_not]
  intro hsame
  have hlast : one.getLast?.bind (·.change.transaction) = some transaction := by
    rw [hx, ← htransaction, ← hsame]
    rfl
  have hno : cutAfter policy size one y.change = false := cutAfter_within hpolicy hlast htransaction
  rw [hcut y hy] at hno
  contradiction

/-- Where every item has a transaction, the runs of a node's items are those of its segments. -/
theorem transactionRuns_eq : transactionRuns items = segs.flatMap transactionRuns := by
  rw [← h.flatten]
  exact transactionRuns_flatten h.ne_nil (h.ends_between hpolicy hsome)

end transactions

/-- Cut between transactions, the segments are the runs of one transaction. -/
theorem eq_transactionRuns (h : CutBy .transactional size items segs)
    (hsome : ∀ item ∈ items, item.change.transaction ≠ none) : segs = transactionRuns items := by
  have hself : ∀ segment ∈ segs, transactionRuns segment = [segment] := by
    intro segment hsegment
    refine List.splitBy_of_isChain (h.ne_nil segment hsegment) ?_
    rw [List.isChain_iff_forall_rel_of_append_cons_cons]
    intro one other front back heq
    have hother : other ∈ items := h.mem_items hsegment (by simp [heq])
    obtain ⟨transaction, htransaction⟩ := Option.ne_none_iff_exists'.1 (hsome other hother)
    have hgoes := h.goesOn segment hsegment (front ++ [one]) other back (by simp [heq]) (by simp)
    simpa [cutAfter, BatchPolicy.cuts, htransaction, sameTransaction] using hgoes
  rw [h.transactionRuns_eq (by simp) hsome, List.flatMap_congr hself, List.flatMap_singleton']

/-- Cut by size between transactions, no segment has the size without its last run. -/
theorem length_dropLast_lt (h : CutBy .default size items segs) (hsize : 0 < size)
    (hsome : ∀ item ∈ items, item.change.transaction ≠ none) (hsegment : segment ∈ segs) :
    (transactionRuns segment).dropLast.flatten.length < size := by
  have hflatten : (transactionRuns segment).flatten = segment := List.flatten_splitBy _ _
  have hends := List.isChain_getLast_head_splitBy sameTransaction segment
  rw [← transactionRuns] at hends
  have hruns : ∀ run ∈ transactionRuns segment, run ≠ [] := fun _ => List.ne_nil_of_mem_splitBy
  obtain hnone | ⟨runs, final, hconcat⟩ := List.eq_nil_or_concat' (transactionRuns segment)
  · simpa [hnone] using hsize
  · rw [hconcat] at hflatten hends hruns ⊢
    rw [List.dropLast_concat]
    obtain rfl | ⟨others, previous, rfl⟩ := List.eq_nil_or_concat' runs
    · simpa using hsize
    · obtain ⟨item, rest, rfl⟩ := List.exists_cons_of_ne_nil (hruns final (by simp))
      have hprevious : previous ≠ [] := hruns previous (by simp)
      have hitem : item ∈ items := h.mem_items hsegment (by simp [← hflatten])
      obtain ⟨transaction, htransaction⟩ := Option.ne_none_iff_exists'.1 (hsome item hitem)
      -- the last run begins with another transaction than the one before it ends with
      have hother : (previous.getLast hprevious).change.transaction ≠ some transaction := by
        rw [List.append_assoc, List.singleton_append] at hends
        obtain ⟨_, _, hother⟩ := List.isChain_iff_forall_rel_of_append_cons_cons.1 hends rfl
        simpa [sameTransaction, htransaction] using hother
      have hgoes := h.goesOn segment hsegment (others ++ [previous]).flatten item rest
        (by simpa using hflatten.symm) (by simp [hprevious])
      have hlast : (others ++ [previous]).flatten.getLast? = some (previous.getLast hprevious) := by
        rw [List.flatten_append, List.flatten_singleton, List.getLast?_append,
          List.getLast?_eq_getLast_of_ne_nil hprevious]
        rfl
      rw [cutAfter, hlast, htransaction] at hgoes
      simpa only [BatchPolicy.cuts, Option.bind_some, ne_eq, hother, not_false_eq_true, decide_true,
        Bool.and_true, decide_eq_false_iff_not, Nat.not_le] using hgoes

/-- Cut by size between transactions, a segment that is not the last has the size. -/
theorem le_length (h : CutBy .default size items segs)
    (hsome : ∀ item ∈ items, item.change.transaction ≠ none) (hsegment : segment ∈ segs.dropLast) :
    size ≤ segment.length := by
  obtain ⟨item, hitem, hcut⟩ := h.exists_cutAfter hsegment
  obtain ⟨transaction, htransaction⟩ := Option.ne_none_iff_exists'.1 (hsome item hitem)
  simp [cutAfter, BatchPolicy.cuts, htransaction] at hcut
  exact hcut.1

/-- Cut by size between transactions, a segment is made of whole runs, and of no more than it takes to have
the size. -/
theorem exists_groups (h : CutBy .default size items segs) (hsize : 0 < size)
    (hsome : ∀ item ∈ items, item.change.transaction ≠ none) :
    ∃ groups : List (List (List Item)), groups.flatten = transactionRuns items ∧
      groups.map List.flatten = segs ∧
      ∀ group ∈ groups.dropLast, size ≤ group.flatten.length ∧ group.dropLast.flatten.length < size := by
  have hflatten : ∀ segment, (transactionRuns segment).flatten = segment :=
    List.flatten_splitBy sameTransaction
  refine ⟨segs.map transactionRuns, ?_, ?_, ?_⟩
  · rw [← List.flatMap_def, h.transactionRuns_eq (by simp) hsome]
  · simp [hflatten, Function.comp_def]
  · intro group hgroup
    rw [← List.map_dropLast, List.mem_map] at hgroup
    obtain ⟨segment, hsegment, rfl⟩ := hgroup
    rw [hflatten]
    exact ⟨h.le_length hsome hsegment,
      h.length_dropLast_lt hsize hsome (List.mem_of_mem_dropLast hsegment)⟩

/-! ## items without a transaction -/

/-- What comes before an item ends with the segment that is open there; the policy says whether the item
goes on with it. -/
theorem exists_open (h : CutBy policy size items segs) (hitems : items = front ++ item :: back)
    (hfront : front ≠ []) :
    ∃ before last more later, segs = before ++ (last ++ more) :: later ∧
      front = before.flatten ++ last ∧ last ≠ [] ∧ item :: back = more ++ later.flatten ∧
      (more = [] ↔ cutAfter policy size last item.change = true) := by
  -- an item at the head of a segment ends the one before
  have hends : ∀ heads tails, segs = heads ++ tails → front = heads.flatten →
      item :: back = tails.flatten → ∃ before last later, segs = before ++ last :: later ∧
        front = before.flatten ++ last ∧ last ≠ [] ∧ item :: back = later.flatten ∧
        cutAfter policy size last item.change = true := by
    intro heads tails hsegs hheads htails
    obtain rfl | ⟨before, last, rfl⟩ := List.eq_nil_or_concat' heads
    · exact absurd hheads hfront
    cases tails with
    | nil => simp at htails
    | cons next later =>
        rw [List.append_assoc, List.singleton_append] at hsegs
        have hcut := List.isChain_iff_forall_rel_of_append_cons_cons.1 h.ended hsegs
        obtain ⟨first, rest, rfl⟩ := List.exists_cons_of_ne_nil (h.ne_nil next (by simp [hsegs]))
        obtain ⟨rfl, -⟩ : item = first ∧ _ := by simpa using htails
        exact ⟨before, last, _, hsegs, by simpa using hheads, h.ne_nil last (by simp [hsegs]), htails,
          hcut item rfl⟩
  have hsplit := h.flatten.trans hitems
  rw [List.flatten_eq_append_iff] at hsplit
  obtain ⟨heads, tails, hsegs, hheads, htails⟩ | ⟨before, last, first, more, later, hsegs, hbefore, hlater⟩ :=
    hsplit
  · obtain ⟨before, last, later, hsegs, hbefore, hlast, hlater, hcut⟩ :=
      hends heads tails hsegs hheads htails
    exact ⟨before, last, [], later, by simpa using hsegs, hbefore, hlast, hlater, iff_of_true rfl hcut⟩
  · obtain ⟨rfl, hback⟩ : item = first ∧ _ := by simpa using hlater
    by_cases hlast : last = []
    · obtain ⟨before, last, later, hsegs, hbefore, hlast, hlater, hcut⟩ :=
        hends before ((item :: more) :: later) (by simpa [hlast] using hsegs)
          (by simpa [hlast] using hbefore) hlater
      exact ⟨before, last, [], later, by simpa using hsegs, hbefore, hlast, hlater, iff_of_true rfl hcut⟩
    · -- an item within a segment goes on with it
      have hgoes := h.goesOn (last ++ item :: more) (by simp [hsegs]) last item more rfl hlast
      exact ⟨before, last, item :: more, later, hsegs, hbefore, hlast, hlater, by simp [hgoes]⟩

/-- An item without a transaction begins a segment exactly if the one that is open before it is full. -/
theorem begins_iff (h : CutBy policy size items segs) (hitems : items = front ++ item :: back)
    (hfront : front ≠ []) (hnone : item.change.transaction = none) :
    ∃ before last more later, segs = before ++ (last ++ more) :: later ∧
      front = before.flatten ++ last ∧ last ≠ [] ∧ item :: back = more ++ later.flatten ∧
      (more = [] ↔ size ≤ last.length) := by
  obtain ⟨before, last, more, later, hsegs, hbefore, hlast, hlater, hmore⟩ := h.exists_open hitems hfront
  rw [cutAfter_by_size (Or.inr hnone), decide_eq_true_eq] at hmore
  exact ⟨before, last, more, later, hsegs, hbefore, hlast, hlater, hmore⟩

end CutBy

/-! ## the batches of a node -/

/-- Where items are cut into segments. -/
structure Boundaries (policy : BatchPolicy) (size : Nat) (items : List Item) (segs : List (List Item)) :
    Prop where
  flatten : segs.flatten = items
  ne_nil : ∀ segment ∈ segs, segment ≠ []
  /-- Without regard to transactions, or without any, every segment but the last is full. -/
  bySize : (policy = .nontransactional ∨ ∀ item ∈ items, item.change.transaction = none) →
    (∀ segment ∈ segs.dropLast, segment.length = size) ∧
      segs.length = (items.length + size - 1) / size
  /-- Without transactions all policies cut alike. -/
  alike : (∀ item ∈ items, item.change.transaction = none) →
    ∀ other, segs = segments other size items
  /-- A segment is a run of one transaction. -/
  byRun : policy = .transactional → (∀ item ∈ items, item.change.transaction ≠ none) →
    segs = transactionRuns items
  /-- A segment is made of whole runs, and of no more than it takes to have the size. -/
  byBoth : policy = .default → (∀ item ∈ items, item.change.transaction ≠ none) →
    ∃ groups : List (List (List Item)), groups.flatten = transactionRuns items ∧
      groups.map List.flatten = segs ∧
      ∀ group ∈ groups.dropLast, size ≤ group.flatten.length ∧ group.dropLast.flatten.length < size
  /-- An item without a transaction, unless it is the first, begins a segment exactly if the one that is
  open before it has the size. -/
  lone : ∀ front item back, items = front ++ item :: back → front ≠ [] →
    item.change.transaction = none →
      ∃ before last more later, segs = before ++ (last ++ more) :: later ∧
        front = before.flatten ++ last ∧ last ≠ [] ∧ item :: back = more ++ later.flatten ∧
        (more = [] ↔ size ≤ last.length)

/-- The segments of a node end where its policy says. -/
theorem boundaries_segments (policy : BatchPolicy) (hsize : 0 < size) (items : List Item) :
    Boundaries policy size items (segments policy size items) := by
  have hcut := cutBy_segments policy size items
  exact {
    flatten := hcut.flatten
    ne_nil := hcut.ne_nil
    bySize := by
      intro hcases
      have hby : ∀ item ∈ items, policy = .nontransactional ∨ item.change.transaction = none :=
        fun item hitem => hcases.imp_right fun hnone => hnone item hitem
      exact ⟨fun segment => hcut.length_eq hsize hby, hcut.count_eq hsize hby⟩
    alike := by
      intro hnone other
      rw [segments_eq_of_no_transaction policy size hnone, segments_eq_of_no_transaction other size hnone]
    byRun := by
      intro hpolicy hsome
      subst hpolicy
      exact hcut.eq_transactionRuns hsome
    byBoth := by
      intro hpolicy hsome
      subst hpolicy
      exact hcut.exists_groups hsize hsome
    lone := fun front item back => hcut.begins_iff }

/-- The batches that are stored for a node hold what it was sent, in segments that end where the policy of
the channel says. -/
theorem batches_end_by_policy {channel : Channel} {before : Store} {book : Book}
    {stream : List (Change × List Decision)} {report : BuildReport} {t : Builder × Store}
    (hbook : before.Shows book)
    (hrun : (Builder.build stream).run.run (.new channel, before) = (.ok report, t)) :
    ∃ parcels later, Stored before book parcels t.2 later ∧ ∀ node,
      (parcels.filter (·.node = node)).map Parcel.items =
        channel.segments (itemsFor node (sentBy stream)) ∧
      Boundaries channel.policy (max channel.batchSize 1) (itemsFor node (sentBy stream))
        (channel.segments (itemsFor node (sentBy stream))) := by
  obtain ⟨parcels, later, hbuilt⟩ := built_of_build hbook hrun
  exact ⟨parcels, later, hbuilt.stored, fun node =>
    ⟨hbuilt.closed node, boundaries_segments _ (Nat.lt_of_lt_of_le Nat.one_pos (Nat.le_max_right ..)) _⟩⟩

/-- A change that a transaction made, or none. -/
def madeBy (transaction : Option String) (id : Int) : Change where
  id := id
  table := "item"
  event := .insert
  row := none
  key := none
  old := none
  snapshot := 1
  channel := "orders"
  transaction := transaction
  source := none
  createTime := 0
  storedSize := some 0

/-- A channel whose batches have two changes, unless a transaction is larger. -/
def paired : Channel := { id := "orders", batchSize := 2 }

/-- Six changes for a branch, three of them for another one, too. -/
def branchStream : List (Change × List Decision) :=
  let both : List Decision := [⟨"down", .ofList ["001", "002"]⟩]
  let first : List Decision := [⟨"down", .ofList ["001"]⟩]
  [(madeBy (some "a") 1, first), (madeBy (some "a") 2, both), (madeBy (some "a") 3, first),
    (madeBy none 4, both), (madeBy (some "b") 5, first), (madeBy none 6, both)]

/-- The larger transaction stays whole; the change without one goes on with a batch that is not full. -/
theorem batches_end_by_policy_paired :
    ∃ parcels later report t,
      (Builder.build branchStream).run.run (.new paired, .empty) = (.ok report, t) ∧
      Stored .empty ⟨⟨[], 0⟩, []⟩ parcels t.2 later ∧
      ((parcels.filter (·.node = "001")).map Parcel.items).map (·.map (·.change.id)) =
        [[1, 2, 3], [4, 5], [6]] ∧
      ((parcels.filter (·.node = "002")).map Parcel.items).map (·.map (·.change.id)) =
        [[2, 4], [6]] := by
  have hbook : Store.empty.Shows ⟨⟨[], 0⟩, []⟩ := ⟨rfl, rfl⟩
  have hok : ((Builder.build branchStream).run.run (.new paired, .empty)).1.toOption.isSome = true := by
    decide +kernel
  cases hrun : (Builder.build branchStream).run.run (.new paired, .empty) with
  | mk result t =>
      rw [hrun] at hok
      cases result with
      | error fault => exact absurd hok Bool.false_ne_true
      | ok report =>
          obtain ⟨parcels, later, hstored, hnodes⟩ := batches_end_by_policy hbook hrun
          refine ⟨parcels, later, report, t, rfl, hstored, ?_, ?_⟩
          · rw [(hnodes "001").1]
            decide +kernel
          · rw [(hnodes "002").1]
            decide +kernel

end ChangeRouting
