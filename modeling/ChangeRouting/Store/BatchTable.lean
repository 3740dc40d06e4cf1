import ChangeRouting.Store.Loose

/-!
# ChangeRouting.Store.BatchTable

Batches, the changes they hold, and the watermark of each channel.

* A batch gets the next free id when it is stored.
* A change is in a batch at most once.
* A watermark only moves forward.
-/

namespace ChangeRouting

/-- The batch a row stands for. -/
def BatchRow.read (row : BatchRow) : Except Fault Batch :=
  match BatchStatus.ofCode row.status with
  | .error _ => .error (.statement (.unreadable "status" row.status))
  | .ok status => .ok { row.batch with status := status }

namespace Store

/-! ## batches -/

/-- Store a batch; the id it gets is the answer. -/
def insertBatch (batch : Batch) (store : Store) : Except Fault (Int × Store) :=
  match store.batches with
  | none => store.looseUpdate .batches (·.insertBatch ⟨batch, batch.status.code⟩)
  | some table =>
    if openEnd ≤ table.lastId then .error (.statement (.idsExhausted TableName.batches.text))
    else
      let id := table.lastId + 1
      let row : BatchRow := ⟨{ batch with id := id }, batch.status.code⟩
      .ok (id, { store with batches := some ⟨table.rows ++ [row], id⟩ })

/-- Write a status code over that of a batch, whatever the code. -/
def setBatchCode (id : Int) (code : String) (store : Store) : Except Fault Store :=
  match store.batches with
  | none => Prod.snd <$> store.looseUpdate .batches fun table =>
      return ((), ← table.setBatchCode id code)
  | some table =>
    let rows := table.rows.map fun row => if row.batch.id = id then { row with status := code } else row
    .ok { store with batches := some { table with rows := rows } }

/-- Every batch in id order. -/
def allBatches (store : Store) : Except Fault (List Batch) :=
  match store.batches with
  | none => do (← (← store.loose .batches).batches).mapM BatchRow.read
  | some table => table.rows.mapM BatchRow.read

/-- The batches of one node on one channel in id order. -/
def batchesOf (node channel : String) (store : Store) : Except Fault (List Batch) :=
  match store.batches with
  | none => do (← (← store.loose .batches).batchesOf node channel).mapM BatchRow.read
  | some table =>
    (table.rows.filter fun row => row.batch.node = node ∧ row.batch.channel = channel).mapM
      BatchRow.read

/-! ## events -/

/-- Record one change as a member of a batch. -/
def insertEvent (event : BatchEvent) (store : Store) : Except Fault Store :=
  match store.events with
  | none => Prod.snd <$> store.looseUpdate .events (·.insertEvent event)
  | some rows =>
    if rows.any fun row => row.change = event.change ∧ row.batch = event.batch then
      .error (.statement (.duplicateKey TableName.events.text))
    else .ok { store with events := some (rows ++ [event]) }

/-- Read the statement that records events, unless it has been read before.  Its table must be there. -/
def readEventStatement (store : Store) : Except Fault Store := do
  if store.hasEventStatement then return store
  if store.events.isNone then
    discard <| (← store.loose .events).project (Layout.names .events) []
  return { store with hasEventStatement := true }

/-- Record the members of a batch one after the other.  The first time the table must be there even if
there is nothing to record. -/
def insertEvents (batch : Int) (members : List (Int × String)) : Work Unit := do
  Work.update readEventStatement
  members.forM fun (change, router) => Work.update (insertEvent ⟨change, batch, router⟩)

/-- The members of a batch by change id. -/
def eventsOf (batch : Int) (store : Store) : Except Fault (List BatchEvent) :=
  match store.events with
  | none => do (← store.loose .events).eventsOf batch
  | some rows => .ok ((rows.filter (·.batch = batch)).mergeSort fun a b => a.change ≤ b.change)

/-! ## watermarks -/

/-- Watermarks with that of a channel moved up to an id. -/
def raise (channel : String) (id : Int) : List (String × Int) → List (String × Int)
  | [] => [(channel, id)]
  | mark :: rest =>
    if mark.1 = channel then (channel, max mark.2 id) :: rest else mark :: raise channel id rest

/-- The watermark moves up to the id; those of other channels stay. -/
theorem lookup_raise (channel other : String) (id : Int) (marks : List (String × Int)) :
    (raise channel id marks).lookup other =
      if other = channel then some ((marks.lookup channel).elim id (max · id))
      else marks.lookup other := by
  induction marks with
  | nil =>
      rw [raise, List.lookup_cons]
      by_cases hother : other = channel
      · simp [hother]
      · simp [hother, beq_eq_false_iff_ne.2 hother]
  | cons mark rest ih =>
      rw [raise]
      by_cases hmark : mark.1 = channel
      · rw [if_pos hmark, List.lookup_cons, List.lookup_cons, List.lookup_cons, hmark]
        by_cases hother : other = channel
        · simp [hother]
        · simp [hother, beq_eq_false_iff_ne.2 hother]
      · rw [if_neg hmark, List.lookup_cons, List.lookup_cons, List.lookup_cons, ih,
          beq_eq_false_iff_ne.2 (Ne.symm hmark)]
        by_cases hother : other = mark.1
        · simp [hother, hmark]
        · simp [beq_eq_false_iff_ne.2 hother]

/-- Move the watermark of a channel up to an id. -/
def advanceWatermark (channel : String) (id : Int) (store : Store) : Except Fault Store :=
  match store.watermarks with
  | none => Prod.snd <$> store.looseUpdate .watermarks (·.advanceWatermark channel id)
  | some marks => .ok { store with watermarks := some (raise channel id marks) }

/-- The highest change id routed on a channel. -/
def watermarkOf (channel : String) (store : Store) : Except Fault (Option Int) :=
  match store.watermarks with
  | none => do (← store.loose .watermarks).watermarkOf channel
  | some marks => .ok (marks.lookup channel)

end Store

end ChangeRouting
