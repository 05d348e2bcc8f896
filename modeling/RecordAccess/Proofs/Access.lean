import Mathlib.Tactic.Common
import RecordAccess.Database.Focus

/-!
# Runs of operations

An operation always ends, in a result or an error, and leaves a state (`Runs`). A run of an operation
that is put together from others is taken apart into runs of these: `runs_bind` for one operation
after another, `runs_zoom` for one on a part of the state, and so on. What an operation keeps whatever
its outcome (`Keeps`) is kept by operations that are put together from it, and by runs of steps
(`keeps_foldl`).
-/

namespace RecordAccess

namespace Access
variable {σ τ α β : Type}

/-- An operation, started in a state, ends in an outcome and leaves a state. -/
def Runs (op : Access σ α) (s : σ) (r : Except Error α) (s' : σ) : Prop := op.outcome s = (r, s')

/-- An operation always ends: with an outcome, and in a state. -/
lemma exists_runs (op : Access σ α) (s : σ) : ∃ r s', Runs op s r s' :=
  ⟨(op.outcome s).1, (op.outcome s).2, rfl⟩

/-- An operation has one outcome and leaves one state. -/
lemma Runs.unique {op : Access σ α} {s : σ} {r r' : Except Error α} {s' s'' : σ}
    (h : Runs op s r s') (h' : Runs op s r' s'') : r' = r ∧ s'' = s' := by
  have heq : (r, s') = (r', s'') := h.symm.trans h'
  cases heq
  exact ⟨rfl, rfl⟩

/-- To return a value is to succeed with it in the same state. -/
@[simp] lemma runs_pure {a : α} {s : σ} {r : Except Error α} {s' : σ} :
    Runs (pure a) s r s' ↔ r = .ok a ∧ s' = s := by
  show (Except.ok a, s) = (r, s') ↔ _
  rw [Prod.mk.injEq]
  exact and_congr eq_comm eq_comm

/-- To throw an error is to fail with it in the same state. -/
@[simp] lemma runs_throw {e : Error} {s : σ} {r : Except Error α} {s' : σ} :
    Runs (throw e) s r s' ↔ r = .error e ∧ s' = s := by
  show (Except.error e, s) = (r, s') ↔ _
  rw [Prod.mk.injEq]
  exact and_congr eq_comm eq_comm

/-- To ask for the state is to succeed with it and to leave it. -/
@[simp] lemma runs_get {s : σ} {r : Except Error σ} {s' : σ} :
    Runs get s r s' ↔ r = .ok s ∧ s' = s := by
  show (Except.ok s, s) = (r, s') ↔ _
  rw [Prod.mk.injEq]
  exact and_congr eq_comm eq_comm

/-- To modify the state is to succeed in the modified state. -/
@[simp] lemma runs_modify {f : σ → σ} {s : σ} {r : Except Error Unit} {s' : σ} :
    Runs (modify f) s r s' ↔ r = .ok () ∧ s' = f s := by
  show (Except.ok (), f s) = (r, s') ↔ _
  rw [Prod.mk.injEq]
  exact and_congr eq_comm eq_comm

/-- One operation after another: the first fails, or the second runs on its result. -/
lemma runs_bind {op : Access σ α} {f : α → Access σ β} {s : σ} {r : Except Error β} {s' : σ} :
    Runs (op >>= f) s r s' ↔
      (∃ e, r = .error e ∧ Runs op s (.error e) s') ∨
        ∃ a s₁, Runs op s (.ok a) s₁ ∧ Runs (f a) s₁ r s' := by
  simp only [Runs, outcome, bind, EStateM.bind]
  cases op s with
  | ok a s₁ => simp
  | error e s₁ => simp [eq_comm]

/-- To ask for the state and go on with it is to go on. -/
lemma runs_get_bind {f : σ → Access σ β} {s : σ} {r : Except Error β} {s' : σ} :
    Runs (get >>= f) s r s' ↔ Runs (f s) s r s' := Iff.rfl

/-- What follows a modification runs in the modified state. -/
lemma runs_modify_bind {change : σ → σ} {f : Unit → Access σ β} {s : σ} {r : Except Error β}
    {s' : σ} : Runs (modify change >>= f) s r s' ↔ Runs (f ()) (change s) r s' := Iff.rfl

/-- To map the result of an operation is to map its outcome; the state it leaves is the same. -/
lemma runs_map {op : Access σ α} {f : α → β} {s : σ} {r : Except Error β} {s' : σ} :
    Runs (f <$> op) s r s' ↔ ∃ o, r = o.map f ∧ Runs op s o s' := by
  simp only [Runs, outcome, Functor.map, EStateM.map]
  cases op s with
  | ok a s₁ => simp [Except.map, eq_comm]
  | error e s₁ => simp [Except.map, eq_comm]

/-- An operation on a part of a state changes that part alone. -/
lemma runs_zoom {part : σ → τ} {replace : τ → σ → σ} {op : Access τ α} {s : σ}
    {r : Except Error α} {s' : σ} :
    Runs (zoom part replace op) s r s' ↔ ∃ t, Runs op (part s) r t ∧ s' = replace t s := by
  simp only [Runs, outcome, zoom]
  cases op (part s) with
  | ok a t => simp [eq_comm]
  | error e t => simp [eq_comm]

/-- An attempt does not fail; its result is the outcome of the operation. -/
lemma runs_attempt {op : Access σ α} {s : σ} {r : Except Error (Except Error α)} {s' : σ} :
    Runs op.attempt s r s' ↔ ∃ o, r = .ok o ∧ Runs op s o s' := by
  simp only [Runs, outcome, attempt]
  cases op s with
  | ok a t => simp [eq_comm]
  | error e t => simp [eq_comm]

/-- What comes after an attempt goes on with its outcome. -/
lemma runs_attempt_bind {op : Access σ α} {f : Except Error α → Access σ β} {s : σ}
    {r : Except Error β} {s' : σ} :
    Runs (op.attempt >>= f) s r s' ↔ ∃ o s₁, Runs op s o s₁ ∧ Runs (f o) s₁ r s' := by
  simp only [runs_bind, runs_attempt]
  constructor
  · rintro (⟨e, -, o, ho, -⟩ | ⟨o, s₁, ⟨_, ho, h⟩, hf⟩)
    · cases ho
    · cases ho
      exact ⟨o, s₁, h, hf⟩
  · rintro ⟨o, s₁, h, hf⟩
    exact .inr ⟨o, s₁, ⟨o, rfl, h⟩, hf⟩

/-- A property of the state that an operation keeps, whatever its outcome. -/
def Keeps (P : σ → Prop) (op : Access σ α) : Prop := ∀ s r s', P s → Runs op s r s' → P s'

variable {P : σ → Prop}

/-- Returning a value keeps every property. -/
lemma keeps_pure (a : α) : Keeps P (pure a) := by
  intro s r s' hs h
  obtain ⟨-, rfl⟩ := runs_pure.1 h
  exact hs

/-- Throwing an error keeps every property. -/
lemma keeps_throw (e : Error) : Keeps P (throw e : Access σ α) := by
  intro s r s' hs h
  obtain ⟨-, rfl⟩ := runs_throw.1 h
  exact hs

/-- Asking for the state keeps every property. -/
lemma keeps_get : Keeps P get := by
  intro s r s' hs h
  obtain ⟨-, rfl⟩ := runs_get.1 h
  exact hs

/-- A modification keeps the properties that its function keeps. -/
lemma keeps_modify {f : σ → σ} (hf : ∀ s, P s → P (f s)) : Keeps P (modify f) := by
  intro s r s' hs h
  obtain ⟨-, rfl⟩ := runs_modify.1 h
  exact hf s hs

/-- What two operations keep is kept by the one after the other. -/
lemma keeps_bind {op : Access σ α} {f : α → Access σ β} (hop : Keeps P op)
    (hf : ∀ a, Keeps P (f a)) : Keeps P (op >>= f) := by
  intro s r s' hs h
  obtain ⟨e, -, h⟩ | ⟨a, s₁, h₁, h₂⟩ := runs_bind.1 h
  · exact hop s _ s' hs h
  · exact hf a s₁ r s' (hop s _ s₁ hs h₁) h₂

/-- An attempt keeps what the operation keeps. -/
lemma keeps_attempt {op : Access σ α} (hop : Keeps P op) : Keeps P op.attempt := by
  intro s r s' hs h
  obtain ⟨o, -, h⟩ := runs_attempt.1 h
  exact hop s o s' hs h

/-- What a state has by a part of it is kept as far as the operation keeps it on that part. -/
lemma keeps_zoom {Q : τ → Prop} {part : σ → τ} {replace : τ → σ → σ} {op : Access τ α}
    (hpart : ∀ s, P s → Q (part s)) (hreplace : ∀ s t, P s → Q t → P (replace t s))
    (hop : Keeps Q op) : Keeps P (zoom part replace op) := by
  intro s r s' hs h
  obtain ⟨t, ht, rfl⟩ := runs_zoom.1 h
  exact hreplace s t hs (hop _ r t (hpart s hs) ht)

/-- What every step keeps is kept by a run of steps, whether they fail or not. -/
lemma keeps_foldl {ι : Type} {run : ι → Access σ α} (h : ∀ step, Keeps P (run step))
    (steps : List ι) {s : σ} (hs : P s) :
    P (steps.foldl (fun s step => ((run step).outcome s).2) s) :=
  List.foldlRecOn steps _ hs fun s hs step _ => h step s _ _ hs rfl

end Access

namespace Focus
open Access
variable {σ τ α β : Type}

/-- To ask for the object is to succeed with it; neither object nor database changes. -/
@[simp] lemma runs_getSelf {s : Focus σ} {r : Except Error σ} {s' : Focus σ} :
    Runs getSelf s r s' ↔ r = .ok s.self ∧ s' = s := by
  simp [getSelf, runs_map, Except.map]

/-- To modify the object is to succeed with the modified object and the same database. -/
@[simp] lemma runs_modifySelf {change : σ → σ} {s : Focus σ} {r : Except Error Unit}
    {s' : Focus σ} :
    Runs (modifySelf change) s r s' ↔ r = .ok () ∧ s' = ⟨change s.self, s.database⟩ := by
  simp [modifySelf]

/-- An operation on the database leaves the object as it is. -/
lemma runs_onDatabase {op : Access Database α} {s : Focus σ} {r : Except Error α} {s' : Focus σ} :
    Runs (onDatabase op) s r s' ↔ ∃ db, Runs op s.database r db ∧ s' = ⟨s.self, db⟩ := by
  simp [onDatabase, runs_zoom]

/-- To ask for the object and go on with it is to go on. -/
@[simp] lemma runs_getSelf_bind {f : σ → Access (Focus σ) α} {s : Focus σ} {r : Except Error α}
    {s' : Focus σ} : Runs (getSelf >>= f) s r s' ↔ Runs (f s.self) s r s' := by
  simp [runs_bind]

/-- What follows a modification of the object runs with the modified object over the same database. -/
@[simp] lemma runs_modifySelf_bind {change : σ → σ} {f : Unit → Access (Focus σ) α} {s : Focus σ}
    {r : Except Error α} {s' : Focus σ} :
    Runs (modifySelf change >>= f) s r s' ↔ Runs (f ()) ⟨change s.self, s.database⟩ r s' := by
  simp only [runs_bind, runs_modifySelf]
  constructor
  · rintro (⟨e, -, he, -⟩ | ⟨_, _, ⟨-, rfl⟩, h⟩)
    · cases he
    · exact h
  · intro h
    exact .inr ⟨(), _, ⟨trivial, rfl⟩, h⟩

/-- After an operation on the database that does not fail, the object is as before. -/
lemma runs_onDatabase_bind {op : Access Database α} {f : α → Access (Focus σ) β} {s : Focus σ}
    {r : Except Error β} {s' : Focus σ} :
    Runs (onDatabase op >>= f) s r s' ↔
      (∃ e db, r = .error e ∧ Runs op s.database (.error e) db ∧ s' = ⟨s.self, db⟩) ∨
        ∃ a db, Runs op s.database (.ok a) db ∧ Runs (f a) ⟨s.self, db⟩ r s' := by
  simp only [runs_bind, runs_onDatabase]
  constructor
  · rintro (⟨e, rfl, db, h, rfl⟩ | ⟨a, _, ⟨db, h, rfl⟩, hf⟩)
    · exact .inl ⟨e, db, rfl, h, rfl⟩
    · exact .inr ⟨a, db, h, hf⟩
  · rintro (⟨e, db, rfl, h, rfl⟩ | ⟨a, db, h, hf⟩)
    · exact .inl ⟨e, rfl, db, h, rfl⟩
    · exact .inr ⟨a, _, ⟨db, h, rfl⟩, hf⟩

/-- An operation on a part works over the same database. -/
lemma runs_onPart {part : τ} {replace : τ → σ → σ} {op : Access (Focus τ) α} {s : Focus σ}
    {r : Except Error α} {s' : Focus σ} :
    Runs (onPart part replace op) s r s' ↔
      ∃ t, Runs op ⟨part, s.database⟩ r t ∧ s' = ⟨replace t.self s.self, t.database⟩ := by
  simp [onPart, runs_zoom]

/-- Of an operation on an object that is given up, the database stays. -/
lemma runs_on {object : σ} {op : Access (Focus σ) α} {db : Database} {r : Except Error α}
    {db' : Database} :
    Runs (on object op) db r db' ↔ ∃ t, Runs op ⟨object, db⟩ r t ∧ db' = t.database := by
  simp [on, runs_zoom]

end Focus

end RecordAccess
