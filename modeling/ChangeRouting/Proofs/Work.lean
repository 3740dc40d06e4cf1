import ChangeRouting.Store.Basic
import Mathlib.Data.List.Forall2

/-!
# ChangeRouting.Proofs.Work

Work that may fail, over any state: how it runs, and what it leaves alone however it ends.

* `run_bind` — work that failed is followed by nothing;
* `run_forM_eq_ok` — what each step of a loop carries along holds at its end;
* `mapM_eq_ok_iff`, `exists_mapM_eq_ok_iff` — what is done with every item of a list succeeds if it does
  with each;
* `update_on_eq_ok`, `looseUpdate_eq_ok` — what a statement that succeeded did;
* `Keeps` — something of the state is as it was; composed work keeps what its parts keep;
* `Yields` — what work gives has a property; it is the last step that decides;
* `Respects` — from related states work ends alike and leaves related states; so does composed work.
-/

namespace ChangeRouting

variable {σ τ α β : Type}

/-! ## running -/

/-- What succeeded did so step by step. -/
theorem except_bind_eq_ok {first : Except Fault α} {next : α → Except Fault β} {b : β} :
    (first >>= next) = .ok b ↔ ∃ a, first = .ok a ∧ next a = .ok b := by
  cases first with
  | error fault =>
      constructor
      · intro h
        cases h
      · rintro ⟨a, ha, -⟩
        cases ha
  | ok a =>
      constructor
      · exact fun h => ⟨a, rfl, h⟩
      · rintro ⟨other, hother, h⟩
        cases hother
        exact h

/-- What does not succeed fails. -/
theorem exists_error_iff {outcome : Except Fault α} :
    (∃ fault, outcome = .error fault) ↔ ¬∃ a, outcome = .ok a := by
  cases outcome <;> simp

theorem toOption_eq_some_iff {outcome : Except Fault α} {a : α} :
    outcome.toOption = some a ↔ outcome = .ok a := by
  cases outcome <;> simp [Except.toOption]

/-- Things are read one by one, or not at all. -/
theorem mapM_eq_ok_iff {f : α → Except Fault β} {xs : List α} {ys : List β} :
    xs.mapM f = .ok ys ↔ List.Forall₂ (fun x y => f x = .ok y) xs ys := by
  induction xs generalizing ys with
  | nil =>
      rw [List.mapM_nil, List.forall₂_nil_left_iff]
      exact ⟨fun h => (Except.ok.inj h).symm, fun h => h ▸ rfl⟩
  | cons x xs ih =>
      rw [List.mapM_cons, except_bind_eq_ok, List.forall₂_cons_left_iff]
      constructor
      · rintro ⟨y, hy, h⟩
        obtain ⟨rest, hrest, h⟩ := except_bind_eq_ok.1 h
        cases h
        exact ⟨y, rest, hy, ih.1 hrest, rfl⟩
      · rintro ⟨y, rest, hy, hrest, rfl⟩
        exact ⟨y, hy, except_bind_eq_ok.2 ⟨rest, ih.2 hrest, rfl⟩⟩

theorem exists_mapM_eq_ok_iff {f : α → Except Fault β} {xs : List α} :
    (∃ ys, xs.mapM f = .ok ys) ↔ ∀ x ∈ xs, ∃ y, f x = .ok y := by
  simp only [mapM_eq_ok_iff]
  induction xs with
  | nil => simp
  | cons x xs ih =>
      rw [List.forall_mem_cons, ← ih]
      simp only [List.forall₂_cons_left_iff]
      constructor
      · rintro ⟨_, y, ys, hy, hys, rfl⟩
        exact ⟨⟨y, hy⟩, ys, hys⟩
      · rintro ⟨⟨y, hy⟩, ys, hys⟩
        exact ⟨y :: ys, y, ys, hy, hys, rfl⟩

theorem mapM_ok_mem {f : α → Except Fault β} {xs : List α} {ys : List β} (h : xs.mapM f = .ok ys) :
    (∀ x ∈ xs, ∃ y ∈ ys, f x = .ok y) ∧ ∀ y ∈ ys, ∃ x ∈ xs, f x = .ok y := by
  induction mapM_eq_ok_iff.1 h with
  | nil => exact ⟨fun _ hx => (List.not_mem_nil hx).elim, fun _ hy => (List.not_mem_nil hy).elim⟩
  | cons hx hxs ih =>
      obtain ⟨hto, hfrom⟩ := ih (mapM_eq_ok_iff.2 hxs)
      simp only [List.forall_mem_cons, List.exists_mem_cons_iff]
      exact ⟨⟨Or.inl hx, fun a ha => Or.inr (hto a ha)⟩, Or.inl hx, fun b hb => Or.inr (hfrom b hb)⟩

theorem run_bind (work : ExceptT Fault (StateM σ) α) (next : α → ExceptT Fault (StateM σ) β) (s : σ) :
    (work >>= next).run.run s =
      match work.run.run s with
      | (.ok a, mid) => (next a).run.run mid
      | (.error fault, mid) => (.error fault, mid) := by
  simp only [ExceptT.run, StateT.run, bind, ExceptT.bind, ExceptT.mk, StateT.bind, ExceptT.bindCont]
  cases work s with
  | mk outcome mid => cases outcome <;> rfl

theorem run_map (f : α → β) (work : ExceptT Fault (StateM σ) α) (s : σ) :
    (f <$> work).run.run s =
      match work.run.run s with
      | (.ok a, after) => (.ok (f a), after)
      | (.error fault, after) => (.error fault, after) := run_bind work (fun a => pure (f a)) s

theorem run_discard (work : ExceptT Fault (StateM σ) α) (s : σ) :
    (discard work).run.run s =
      match work.run.run s with
      | (.ok _, after) => (.ok (), after)
      | (.error fault, after) => (.error fault, after) := run_map (fun _ => ()) work s

theorem run_tryCatch (work : ExceptT Fault (StateM σ) α) (handle : Fault → ExceptT Fault (StateM σ) α)
    (s : σ) :
    (tryCatch work handle).run.run s =
      match work.run.run s with
      | (.ok a, after) => (.ok a, after)
      | (.error fault, after) => (handle fault).run.run after := by
  simp only [tryCatch, tryCatchThe, MonadExceptOf.tryCatch, ExceptT.tryCatch, ExceptT.mk, ExceptT.run,
    StateT.run, bind, StateT.bind]
  cases work s with
  | mk outcome after => cases outcome <;> rfl

/-- So did work that succeeded. -/
theorem run_bind_eq_ok {work : ExceptT Fault (StateM σ) α} {next : α → ExceptT Fault (StateM σ) β}
    {s t : σ} {b : β} :
    (work >>= next).run.run s = (.ok b, t) ↔
      ∃ a mid, work.run.run s = (.ok a, mid) ∧ (next a).run.run mid = (.ok b, t) := by
  rw [run_bind]
  constructor
  · intro h
    cases hw : work.run.run s with
    | mk outcome mid =>
        cases outcome with
        | error fault =>
            simp only [hw] at h
            cases h
        | ok a =>
            simp only [hw] at h
            exact ⟨a, mid, rfl, h⟩
  · rintro ⟨a, mid, hw, hn⟩
    simp only [hw, hn]

/-- The same for work on a store. -/
theorem Work.bind_on_eq_ok {work : Work α} {next : α → Work β} {store after : Store} {b : β} :
    (work >>= next).on store = (.ok b, after) ↔
      ∃ a mid, work.on store = (.ok a, mid) ∧ (next a).on mid = (.ok b, after) := run_bind_eq_ok

/-- What holds at first and is carried along by each step that succeeds holds at the end, of all that was
gone through. -/
theorem run_forM_eq_ok {work : α → ExceptT Fault (StateM σ) PUnit} {motive : List α → σ → Prop}
    {xs : List α} {s t : σ} {u : PUnit} (hstart : motive [] s)
    (hstep : ∀ done x mid next u, motive done mid → (work x).run.run mid = (.ok u, next) →
      motive (done ++ [x]) next)
    (hrun : (xs.forM work).run.run s = (.ok u, t)) : motive xs t := by
  have hall : ∀ done, motive done s → motive (done ++ xs) t := by
    clear hstart
    induction xs generalizing s with
    | nil =>
        intro done hdone
        cases hrun
        simpa using hdone
    | cons x xs ih =>
        intro done hdone
        obtain ⟨_, mid, hfirst, hrest⟩ := run_bind_eq_ok.1 hrun
        simpa using ih hrest (done ++ [x]) (hstep done x s mid _ hdone hfirst)
  exact hall [] hstart

@[simp] theorem run_pure (a : α) (s : σ) :
    (pure a : ExceptT Fault (StateM σ) α).run.run s = (.ok a, s) := rfl

@[simp] theorem run_throw (fault : Fault) (s : σ) :
    (throw fault : ExceptT Fault (StateM σ) α).run.run s = (.error fault, s) := rfl

@[simp] theorem run_get (s : σ) :
    (get : ExceptT Fault (StateM σ) σ).run.run s = (.ok s, s) := rfl

@[simp] theorem run_set (s t : σ) :
    (set t : ExceptT Fault (StateM σ) PUnit).run.run s = (.ok ⟨⟩, t) := rfl

@[simp] theorem run_modify (s : σ) (f : σ → σ) :
    (modify f : ExceptT Fault (StateM σ) PUnit).run.run s = (.ok ⟨⟩, f s) := rfl

/-! ## statements -/

/-- A statement that succeeded is one that runs. -/
theorem statement_on_eq_ok {run : Store → Except Fault (α × Store)} {store after : Store} {a : α} :
    (Work.statement run).on store = (.ok a, after) ↔ run store = .ok (a, after) := by
  rw [Work.statement_on]
  cases run store with
  | error fault =>
      constructor
      · intro h
        cases h
      · intro h
        cases h
  | ok result =>
      constructor
      · intro h
        cases h
        rfl
      · intro h
        cases h
        rfl

theorem update_on_eq_ok {run : Store → Except Fault Store} {store after : Store} {u : Unit} :
    (Work.update run).on store = (.ok u, after) ↔ run store = .ok after := by
  rw [Work.update, statement_on_eq_ok]
  cases run store with
  | error fault =>
      constructor
      · intro h
        cases h
      · intro h
        cases h
  | ok result =>
      constructor
      · intro h
        cases h
        rfl
      · intro h
        cases h
        rfl

theorem looseUpdate_eq_ok {store after : Store} {table : TableName}
    {run : Table → Except Fault (α × Table)} {answer : α}
    (h : store.looseUpdate table run = .ok (answer, after)) :
    ∃ loose, after = store.withForeign loose := by
  simp only [Store.looseUpdate] at h
  cases hloose : store.loose table with
  | error fault => rw [hloose] at h; cases h
  | ok loose =>
      cases hrun : run loose with
      | error fault => rw [hloose] at h; simp only [bind, Except.bind, hrun] at h; cases h
      | ok result =>
          rw [hloose] at h
          simp only [bind, Except.bind, hrun] at h
          cases h
          exact ⟨result.2, rfl⟩

theorem snd_looseUpdate_eq_ok {store after : Store} {table : TableName}
    {run : Table → Except Fault (α × Table)}
    (h : Prod.snd <$> store.looseUpdate table run = .ok after) :
    ∃ loose, after = store.withForeign loose := by
  cases hrun : store.looseUpdate table run with
  | error fault => rw [hrun] at h; cases h
  | ok result =>
      rw [hrun] at h
      cases h
      exact looseUpdate_eq_ok hrun

/-! ## leaving alone -/

/-- Whatever way the work ends, something of the state is as it was. -/
def Keeps (part : σ → τ) (work : ExceptT Fault (StateM σ) α) : Prop :=
  ∀ s, part (work.run.run s).2 = part s

section keeps

variable {part : σ → τ} {work : ExceptT Fault (StateM σ) α}

theorem keeps_pure (a : α) : Keeps part (pure a : ExceptT Fault (StateM σ) α) := fun _ => rfl

theorem keeps_throw (fault : Fault) : Keeps part (throw fault : ExceptT Fault (StateM σ) α) :=
  fun _ => rfl

theorem keeps_get : Keeps part (get : ExceptT Fault (StateM σ) σ) := fun _ => rfl

theorem keeps_modify {f : σ → σ} (h : ∀ s, part (f s) = part s) :
    Keeps part (modify f : ExceptT Fault (StateM σ) PUnit) := h

theorem Keeps.bind {next : α → ExceptT Fault (StateM σ) β} (hwork : Keeps part work)
    (hnext : ∀ a, Keeps part (next a)) : Keeps part (work >>= next) := by
  intro s
  have hmid := hwork s
  rw [run_bind]
  cases hw : work.run.run s with
  | mk outcome mid =>
      rw [hw] at hmid
      cases outcome with
      | error fault => exact hmid
      | ok a => exact (hnext a mid).trans hmid

theorem Keeps.map (f : α → β) (h : Keeps part work) : Keeps part (f <$> work) :=
  h.bind fun a => keeps_pure (f a)

theorem Keeps.discard (h : Keeps part work) : Keeps part (discard work) := h.map _

theorem Keeps.forM {xs : List β} {work : β → ExceptT Fault (StateM σ) PUnit}
    (h : ∀ x, Keeps part (work x)) : Keeps part (xs.forM work) := by
  induction xs with
  | nil => exact keeps_pure _
  | cons x xs ih => exact (h x).bind fun _ => ih

theorem Keeps.foldlM {xs : List β} {work : α → β → ExceptT Fault (StateM σ) α} {a : α}
    (h : ∀ a x, Keeps part (work a x)) : Keeps part (xs.foldlM work a) := by
  induction xs generalizing a with
  | nil => exact keeps_pure _
  | cons x xs ih => exact (h a x).bind fun _ => ih

end keeps

/-! ## what it gives -/

/-- Whatever the work gives, if it succeeds, has a property. -/
def Yields (p : α → Prop) (work : ExceptT Fault (StateM σ) α) : Prop :=
  ∀ ⦃s a t⦄, work.run.run s = (.ok a, t) → p a

section yields

variable {p : α → Prop}

theorem yields_pure {a : α} (h : p a) : Yields p (pure a : ExceptT Fault (StateM σ) α) := by
  intro s b t hrun
  cases hrun
  exact h

theorem Yields.bind {work : ExceptT Fault (StateM σ) β} {next : β → ExceptT Fault (StateM σ) α}
    (h : ∀ b, Yields p (next b)) : Yields p (work >>= next) := by
  intro s a t hrun
  obtain ⟨b, mid, -, hnext⟩ := run_bind_eq_ok.1 hrun
  exact h b hnext

end yields

/-! ## ending alike -/

/-- From related states the work ends alike, and in related states. -/
def Respects (R : σ → σ → Prop) (work : ExceptT Fault (StateM σ) α) : Prop :=
  ∀ ⦃s t⦄, R s t →
    (work.run.run s).1 = (work.run.run t).1 ∧ R (work.run.run s).2 (work.run.run t).2

section respects

variable {R : σ → σ → Prop} {work : ExceptT Fault (StateM σ) α}

theorem respects_const (outcome : Except Fault α) :
    Respects R (ExceptT.mk (pure outcome) : ExceptT Fault (StateM σ) α) := fun _ _ hst => ⟨rfl, hst⟩

theorem respects_pure (a : α) : Respects R (pure a : ExceptT Fault (StateM σ) α) :=
  fun _ _ hst => ⟨rfl, hst⟩

theorem respects_modify {f : σ → σ} (h : ∀ s t, R s t → R (f s) (f t)) :
    Respects R (modify f : ExceptT Fault (StateM σ) PUnit) := fun s t hst => ⟨rfl, h s t hst⟩

theorem Respects.bind {next : α → ExceptT Fault (StateM σ) β} (hwork : Respects R work)
    (hnext : ∀ a, Respects R (next a)) : Respects R (work >>= next) := by
  intro s t hst
  obtain ⟨houtcome, hmid⟩ := hwork hst
  rw [run_bind, run_bind]
  cases hs : work.run.run s with
  | mk outcome mid =>
      cases ht : work.run.run t with
      | mk other mid' =>
          rw [hs, ht] at houtcome hmid
          cases houtcome
          cases outcome with
          | error fault => exact ⟨rfl, hmid⟩
          | ok a => exact hnext a hmid

/-- So does work that depends on what related states have in common. -/
theorem respects_get_bind {next : σ → ExceptT Fault (StateM σ) β}
    (hsame : ∀ s t, R s t → next s = next t) (hnext : ∀ s, Respects R (next s)) :
    Respects R (get >>= next) := by
  intro s t hst
  rw [run_bind, run_bind, run_get, run_get]
  simp only
  rw [← hsame s t hst]
  exact hnext s hst

end respects

end ChangeRouting
