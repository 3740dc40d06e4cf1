import ChangeRouting.Batch.Builder
import Mathlib.Algebra.Ring.Nat
import Mathlib.Data.List.Infix

/-!
# ChangeRouting.Proofs.Batch.Segments

What one node is sent, cut into batches.

* `packed`, `batch_packed` — the open batch that holds given items, and its counts in closed form;
* `segments` — the items of a node, cut where the policy of the channel cuts them;
* `segments_together` — unless the policy cuts by size alone, the items of a transaction that follow one
  another lie in one segment;
* `segments_alike` — a transactional policy puts one transaction in a segment.
-/

namespace ChangeRouting

/-- A change in the name of the router that sends it to a node. -/
structure Item where
  change : Change
  router : String

/-! ## the batch that holds items -/

/-- The open batch of a node once it took these items. -/
def packed (node channel : String) (items : List Item) : OpenBatch :=
  items.foldl (fun batch item => Builder.OpenBatch.append batch item.change item.router)
    ⟨.new node channel, [], none⟩

section packed

variable {node channel : String}

theorem packed_concat (items : List Item) (item : Item) :
    packed node channel (items ++ [item]) =
      Builder.OpenBatch.append (packed node channel items) item.change item.router := by
  rw [packed, List.foldl_append]
  rfl

@[simp] theorem members_packed (items : List Item) :
    (packed node channel items).members = items.map fun item => (item.change.id, item.router) := by
  induction items using List.reverseRecOn with
  | nil => rfl
  | append_singleton items item ih =>
      rw [packed_concat, Builder.OpenBatch.append, ih, List.map_append]
      rfl

@[simp] theorem last_packed (items : List Item) :
    (packed node channel items).last = items.getLast?.bind (·.change.transaction) := by
  induction items using List.reverseRecOn with
  | nil => rfl
  | append_singleton items item _ =>
      rw [packed_concat, List.getLast?_concat]
      rfl

theorem plainWord_add (a b : Nat) : plainWord (plainWord a + b) = plainWord (a + b) :=
  Nat.mod_add_mod a wordCount b

/-- A batch counts its items, by kind of event and in bytes. -/
theorem batch_packed (items : List Item) :
    (packed node channel items).batch =
      { Batch.new node channel with
        events := items.length
        bytes := plainWord (items.map (·.change.size)).sum
        inserts := items.countP (·.change.event = .insert)
        updates := items.countP (·.change.event = .update)
        deletes := items.countP (·.change.event = .delete)
        others := items.countP fun item => item.change.event ∉ [.insert, .update, .delete] } := by
  induction items using List.reverseRecOn with
  | nil => rfl
  | append_singleton items item ih =>
      rw [packed_concat, Builder.OpenBatch.append, ih]
      cases hevent : item.change.event <;>
        simp [Batch.account, hevent, plainWord_add, List.countP_append]

@[simp] theorem node_packed (items : List Item) : (packed node channel items).batch.node = node := by
  rw [batch_packed]
  rfl

@[simp] theorem channel_packed (items : List Item) :
    (packed node channel items).batch.channel = channel := by
  rw [batch_packed]
  rfl

/-- What goes nowhere is complete from the start. -/
theorem status_packed (items : List Item) :
    (packed node channel items).batch.status = if node = unroutedNode then .ok else .new := by
  rw [batch_packed]
  rfl

end packed

/-! ## where items are cut -/

section segments

variable (policy : BatchPolicy) (size : Nat)

/-- Whether a batch that holds these items ends before a change. -/
def cutAfter (items : List Item) (change : Change) : Bool :=
  policy.cuts size items.length (items.getLast?.bind (·.change.transaction)) change.transaction

/-- Segments with one more item, at the end of the last segment or in one of its own. -/
def extend (runs : List (List Item)) (item : Item) : List (List Item) :=
  match runs.getLast? with
  | none => [[item]]
  | some last =>
    if cutAfter policy size last item.change then runs ++ [[item]]
    else runs.dropLast ++ [last ++ [item]]

/-- Items cut into segments. -/
def segments (items : List Item) : List (List Item) := items.foldl (extend policy size) []

variable {policy : BatchPolicy} {size : Nat} {runs : List (List Item)} {last items : List Item}
  {item : Item}

theorem segments_concat (items : List Item) (item : Item) :
    segments policy size (items ++ [item]) = extend policy size (segments policy size items) item := by
  rw [segments, List.foldl_append]
  rfl

theorem extend_of_cut (h : cutAfter policy size last item.change = true) :
    extend policy size (runs ++ [last]) item = runs ++ [last] ++ [[item]] := by
  rw [extend, List.getLast?_concat]
  simp only [h, if_true]

theorem extend_of_not_cut (h : cutAfter policy size last item.change = false) :
    extend policy size (runs ++ [last]) item = runs ++ [last ++ [item]] := by
  rw [extend, List.getLast?_concat, List.dropLast_concat]
  simp only [h, Bool.false_eq_true, if_false]

/-- An item joins the last segment or begins one. -/
theorem extend_cases (policy : BatchPolicy) (size : Nat) (runs : List (List Item)) (item : Item) :
    extend policy size runs item = runs ++ [[item]] ∨
      ∃ before last, runs = before ++ [last] ∧ cutAfter policy size last item.change = false ∧
        extend policy size runs item = before ++ [last ++ [item]] := by
  induction runs using List.reverseRecOn with
  | nil => exact Or.inl rfl
  | append_singleton before last _ =>
      cases hcut : cutAfter policy size last item.change with
      | true => exact Or.inl (extend_of_cut hcut)
      | false => exact Or.inr ⟨before, last, rfl, hcut, extend_of_not_cut hcut⟩

/-- Nothing is lost, added or moved by cutting. -/
theorem flatten_segments (policy : BatchPolicy) (size : Nat) (items : List Item) :
    (segments policy size items).flatten = items := by
  induction items using List.reverseRecOn with
  | nil => rfl
  | append_singleton items item ih =>
      rw [segments_concat]
      cases extend_cases policy size (segments policy size items) item with
      | inl hown =>
          rw [hown, List.flatten_append, ih]
          rfl
      | inr hjoin =>
          obtain ⟨before, last, hruns, -, hjoin⟩ := hjoin
          rw [hruns, List.flatten_append, List.flatten_singleton] at ih
          rw [hjoin, List.flatten_append, List.flatten_singleton, ← List.append_assoc, ih]

theorem ne_nil_of_mem_segments {segment : List Item} (h : segment ∈ segments policy size items) :
    segment ≠ [] := by
  induction items using List.reverseRecOn with
  | nil => exact (List.not_mem_nil h).elim
  | append_singleton items item ih =>
      rw [segments_concat] at h
      cases extend_cases policy size (segments policy size items) item with
      | inl hown =>
          rw [hown, List.mem_append, List.mem_singleton] at h
          exact h.elim ih fun heq => heq ▸ List.cons_ne_nil _ _
      | inr hjoin =>
          obtain ⟨before, last, hruns, -, hjoin⟩ := hjoin
          rw [hjoin, List.mem_append, List.mem_singleton] at h
          refine h.elim (fun hmem => ih ?_)
            fun heq => heq ▸ List.append_ne_nil_of_right_ne_nil _ (List.cons_ne_nil _ _)
          rw [hruns]
          exact List.mem_append_left _ hmem

/-- Later items leave the segments before the last alone and only add to the last. -/
theorem foldl_extend (policy : BatchPolicy) (size : Nat) (runs : List (List Item))
    (last items : List Item) :
    ∃ more later, items.foldl (extend policy size) (runs ++ [last]) = runs ++ (last ++ more) :: later := by
  induction items using List.reverseRecOn with
  | nil => exact ⟨[], [], by rw [List.append_nil]; rfl⟩
  | append_singleton items item ih =>
      obtain ⟨more, later, hfold⟩ := ih
      rw [List.foldl_append, hfold, List.foldl_cons, List.foldl_nil]
      induction later using List.reverseRecOn with
      | nil =>
          cases hcut : cutAfter policy size (last ++ more) item.change with
          | true => exact ⟨more, [[item]], by rw [extend_of_cut hcut, List.append_assoc]; rfl⟩
          | false =>
              refine ⟨more ++ [item], [], ?_⟩
              rw [extend_of_not_cut hcut, List.append_assoc]
      | append_singleton later final _ =>
          rw [← List.cons_append, ← List.append_assoc]
          cases hcut : cutAfter policy size final item.change with
          | true =>
              refine ⟨more, later ++ [final] ++ [[item]], ?_⟩
              rw [extend_of_cut hcut]
              simp only [List.append_assoc, List.cons_append]
          | false =>
              refine ⟨more, later ++ [final ++ [item]], ?_⟩
              rw [extend_of_not_cut hcut]
              simp only [List.append_assoc, List.cons_append]

/-! ## transactions -/

/-- No batch ends within a transaction, unless size alone decides. -/
theorem cutAfter_within {transaction : String} (hpolicy : policy ≠ .nontransactional)
    (hlast : (items.getLast?.bind (·.change.transaction)) = some transaction)
    (hitem : item.change.transaction = some transaction) :
    cutAfter policy size items item.change = false := by
  rw [cutAfter, hlast, hitem]
  cases policy with
  | default => simp [BatchPolicy.cuts]
  | transactional => simp [BatchPolicy.cuts]
  | nontransactional => contradiction

/-- Items of the transaction the last segment ends with join that segment. -/
theorem foldl_extend_within {transaction : String} {mine : List Item}
    (hpolicy : policy ≠ .nontransactional)
    (hlast : (last.getLast?.bind (·.change.transaction)) = some transaction)
    (hmine : ∀ item ∈ mine, item.change.transaction = some transaction) :
    mine.foldl (extend policy size) (runs ++ [last]) = runs ++ [last ++ mine] := by
  induction mine generalizing last with
  | nil => rw [List.append_nil]; rfl
  | cons item mine ih =>
      have hitem := hmine item List.mem_cons_self
      have hjoined : (last ++ [item]).getLast?.bind (·.change.transaction) = some transaction := by
        rw [List.getLast?_concat]
        exact hitem
      rw [List.foldl_cons, extend_of_not_cut (cutAfter_within hpolicy hlast hitem),
        ih hjoined fun other hother => hmine other (List.mem_cons_of_mem _ hother), List.append_assoc]
      rfl

/-- The items of a transaction that follow one another lie in one segment. -/
theorem segments_together (size : Nat) (front back : List Item) {transaction : String}
    {mine : List Item} (hpolicy : policy ≠ .nontransactional) (hne : mine ≠ [])
    (hmine : ∀ item ∈ mine, item.change.transaction = some transaction) :
    ∃ before first last later,
      segments policy size (front ++ mine ++ back) = before ++ (first ++ mine ++ last) :: later ∧
        front = before.flatten ++ first ∧ back = last ++ later.flatten := by
  cases mine with
  | nil => contradiction
  | cons item mine =>
      -- the first of them ends the last segment, wherever it was put
      have hfirst : ∃ before first, extend policy size (segments policy size front) item =
          before ++ [first ++ [item]] ∧ front = before.flatten ++ first := by
        have hfront := flatten_segments policy size front
        cases extend_cases policy size (segments policy size front) item with
        | inl hown => exact ⟨_, [], hown, by rw [hfront, List.append_nil]⟩
        | inr hjoin =>
            obtain ⟨before, last, hruns, -, hjoin⟩ := hjoin
            rw [hruns, List.flatten_append, List.flatten_singleton] at hfront
            exact ⟨before, last, hjoin, hfront.symm⟩
      obtain ⟨before, first, hfirst, hfront⟩ := hfirst
      have hwithin : mine.foldl (extend policy size) (before ++ [first ++ [item]]) =
          before ++ [first ++ [item] ++ mine] := by
        refine foldl_extend_within hpolicy ?_
          fun other hother => hmine other (List.mem_cons_of_mem _ hother)
        rw [List.getLast?_concat]
        exact hmine item List.mem_cons_self
      obtain ⟨last, later, hback⟩ := foldl_extend policy size before (first ++ [item] ++ mine) back
      have hsegments : segments policy size (front ++ item :: mine ++ back) =
          before ++ (first ++ item :: mine ++ last) :: later := by
        rw [segments, List.foldl_append, List.foldl_append, List.foldl_cons, ← segments, hfirst,
          hwithin, hback]
        simp only [List.append_assoc, List.cons_append, List.nil_append]
      refine ⟨before, first, last, later, hsegments, hfront, ?_⟩
      -- what is left of the items comes after the segment's own
      have hall := flatten_segments policy size (front ++ item :: mine ++ back)
      rw [hsegments, hfront] at hall
      simpa using hall.symm

/-- A transactional policy puts one transaction in a segment. -/
theorem segments_alike (hsome : ∀ item ∈ items, item.change.transaction ≠ none) :
    ∀ segment ∈ segments .transactional size items, ∀ item ∈ segment, ∀ other ∈ segment,
      item.change.transaction = other.change.transaction := by
  induction items using List.reverseRecOn with
  | nil => exact fun segment hsegment => (List.not_mem_nil hsegment).elim
  | append_singleton items item ih =>
      have hbefore := ih fun other hother => hsome other (List.mem_append_left _ hother)
      have hitem := hsome item (List.mem_append_right _ List.mem_cons_self)
      rw [segments_concat]
      cases extend_cases .transactional size (segments .transactional size items) item with
      | inl hown =>
          rw [hown]
          intro segment hsegment one hone other hother
          rw [List.mem_append, List.mem_singleton] at hsegment
          cases hsegment with
          | inl hmem => exact hbefore segment hmem one hone other hother
          | inr heq =>
              rw [heq, List.mem_singleton] at hone hother
              rw [hone, hother]
      | inr hjoin =>
          obtain ⟨before, last, hruns, hcut, hjoin⟩ := hjoin
          rw [hruns] at hbefore
          have hlast : last ∈ before ++ [last] := List.mem_append_right _ List.mem_cons_self
          have hne : last ≠ [] := by
            rw [← hruns] at hlast
            exact ne_nil_of_mem_segments hlast
          -- the item goes on with the transaction of the last one
          have hsame : ∀ one ∈ last, one.change.transaction = item.change.transaction := by
            intro one hone
            rw [hbefore last hlast one hone (last.getLast hne) (List.getLast_mem hne)]
            rw [cutAfter, List.getLast?_eq_getLast_of_ne_nil hne] at hcut
            cases htransaction : item.change.transaction with
            | none => contradiction
            | some transaction =>
                rw [htransaction] at hcut
                have hpos : 0 < last.length := List.length_pos_iff.2 hne
                simpa [BatchPolicy.cuts, hpos] using hcut
          rw [hjoin]
          intro segment hsegment one hone other hother
          rw [List.mem_append, List.mem_singleton] at hsegment
          cases hsegment with
          | inl hmem => exact hbefore segment (List.mem_append_left _ hmem) one hone other hother
          | inr heq =>
              have hall : ∀ one ∈ last ++ [item], one.change.transaction = item.change.transaction := by
                intro one hone
                rw [List.mem_append, List.mem_singleton] at hone
                exact hone.elim (hsame one) fun heq => heq ▸ rfl
              rw [heq] at hone hother
              rw [hall one hone, hall other hother]

end segments

end ChangeRouting
