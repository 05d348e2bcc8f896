import RecordAccess.Proofs.Database.Memo
import RecordAccess.Proofs.Use.Composition

/-!
# The handle for writing

No operation makes use of the handle for writing. To say so, two runs are compared: an operation is
`Blind` to a change of the state if it gives the same in the changed state and leaves the same, but for
the change. The operations on a database are blind to the handle for writing once they have a
connection (`Primitive.blind`), and so are all that are put together from them (`Composed.blind`) and
walks, which go on after an error.

A caller is a `Client`: it holds objects over one database, asks them and the database, and chooses what
to ask next by what it was given and by the objects that it has. The headline `write_unused` compares
its runs over contexts with any handles for writing.
-/

namespace RecordAccess
open Access Database

namespace Access
variable {σ τ α β ω : Type}

/-- In states of some kind, which it keeps, an operation gives the same after a change of the state, and
leaves the same but for the change. -/
def Blind (P : σ → Prop) (change : ω → σ → σ) (op : Access σ α) : Prop :=
  ∀ s r s', P s → Runs op s r s' → P s' ∧ ∀ w, Runs op (change w s) r (change w s')

variable {P : σ → Prop} {change : ω → σ → σ}

/-- To return a value is blind to every change. -/
lemma blind_pure (a : α) : Blind P change (pure a) := by
  intro s r s' hs h
  obtain ⟨rfl, rfl⟩ := runs_pure.1 h
  exact ⟨hs, fun w => rfl⟩

/-- To throw an error is blind to every change. -/
lemma blind_throw (e : Error) : Blind P change (throw e : Access σ α) := by
  intro s r s' hs h
  obtain ⟨rfl, rfl⟩ := runs_throw.1 h
  exact ⟨hs, fun w => rfl⟩

/-- Changes that can be made in either order do not see each other. -/
lemma blind_modify {f : σ → σ} (hP : ∀ s, P s → P (f s))
    (hf : ∀ w s, f (change w s) = change w (f s)) : Blind P change (modify f) := by
  intro s r s' hs h
  obtain ⟨rfl, rfl⟩ := runs_modify.1 h
  exact ⟨hP s hs, fun w => runs_modify.2 ⟨rfl, (hf w s).symm⟩⟩

/-- What comes after the state was asked for does not see a change if it depends on nothing that is
changed. -/
lemma blind_get_bind {f : σ → Access σ α} (hf : ∀ s, Blind P change (f s))
    (hchange : ∀ w s, f (change w s) = f s) : Blind P change (get >>= f) := by
  intro s r s' hs h
  obtain ⟨hs', hruns⟩ := hf s s r s' hs (runs_get_bind.1 h)
  exact ⟨hs', fun w => runs_get_bind.2 ((hchange w s).symm ▸ hruns w)⟩

/-- Two operations that are blind to a change are so one after the other. -/
lemma blind_bind {op : Access σ α} {f : α → Access σ β} (hop : Blind P change op)
    (hf : ∀ a, Blind P change (f a)) : Blind P change (op >>= f) := by
  intro s r s' hs h
  obtain ⟨e, rfl, hfail⟩ | ⟨a, s₁, h₁, h₂⟩ := runs_bind.1 h
  · obtain ⟨hs', hruns⟩ := hop s _ s' hs hfail
    exact ⟨hs', fun w => runs_bind.2 (.inl ⟨e, rfl, hruns w⟩)⟩
  · obtain ⟨hs₁, hruns₁⟩ := hop s _ s₁ hs h₁
    obtain ⟨hs', hruns⟩ := hf a s₁ r s' hs₁ h₂
    exact ⟨hs', fun w => runs_bind.2 (.inr ⟨a, change w s₁, hruns₁ w, hruns w⟩)⟩

/-- An attempt is blind to what the operation is blind to. -/
lemma blind_attempt {op : Access σ α} (hop : Blind P change op) : Blind P change op.attempt := by
  intro s r s' hs h
  obtain ⟨o, rfl, hrun⟩ := runs_attempt.1 h
  obtain ⟨hs', hruns⟩ := hop s o s' hs hrun
  exact ⟨hs', fun w => runs_attempt.2 ⟨o, rfl, hruns w⟩⟩

/-- An operation on a part does not see a change of the state that is one of the part. -/
lemma blind_zoom {Q : τ → Prop} (changePart : ω → τ → τ) {part : σ → τ} {replace : τ → σ → σ}
    {op : Access τ α} (hpart : ∀ s, P s → Q (part s)) (hreplace : ∀ s t, Q t → P (replace t s))
    (hchange : ∀ w s, part (change w s) = changePart w (part s))
    (hput : ∀ w s t, replace (changePart w t) (change w s) = change w (replace t s))
    (hop : Blind Q changePart op) : Blind P change (zoom part replace op) := by
  intro s r s' hs h
  obtain ⟨t, ht, rfl⟩ := runs_zoom.1 h
  obtain ⟨hq, hruns⟩ := hop _ r t (hpart s hs) ht
  refine ⟨hreplace s t hq, fun w => runs_zoom.2 ⟨changePart w t, ?_, (hput w s t).symm⟩⟩
  rw [hchange]
  exact hruns w

/-- The outcome in a state, and that in the state after a change. -/
lemma Blind.exists_outcome {op : Access σ α} (h : Blind P change op) {s : σ} (hs : P s) (w : ω) :
    ∃ r s', P s' ∧ op.outcome s = (r, s') ∧ op.outcome (change w s) = (r, change w s') := by
  obtain ⟨r, s', hrun⟩ := exists_runs op s
  obtain ⟨hs', hruns⟩ := h s r s' hs hrun
  exact ⟨r, s', hs', hrun, hruns w⟩

end Access

/-- The database with another handle for writing. -/
def Database.withWriter (write : Option Handle) (db : Database) : Database :=
  { db with handles := db.handles.map fun known => known.map fun handles => { handles with write } }

/-- A database is connected, and reads by a driver. -/
def Database.ReadsBy (read : Driver) (db : Database) : Prop :=
  ∃ history write, db.handles = some (.ok ⟨read.backend, ⟨read, history⟩, write⟩)

namespace Database
variable {α : Type} {read : Driver}

/-- An operation on a database that is connected does not see the handle for writing. -/
abbrev BlindToWriter (read : Driver) (op : Access Database α) : Prop :=
  Blind (ReadsBy read) withWriter op

/-- A connected database has the same handle for reading with another one for writing. -/
lemma handles_withWriter {db : Database} {handles : Handles} (h : db.handles = some (.ok handles))
    (write : Option Handle) :
    (db.withWriter write).handles = some (.ok { handles with write }) := by
  rw [withWriter, h]
  rfl

/-- Handles that are known are what comes next goes on with. -/
lemma runs_getHandles_bind {f : Handles → Access Database α} {db : Database} {handles : Handles}
    {r : Except Error α} {db' : Database} (hhandles : db.handles = some (.ok handles)) :
    Runs (getHandles >>= f) db r db' ↔ Runs (f handles) db r db' := by
  have hgot : getHandles db = .ok handles db := by
    simp only [getHandles, hhandles]
  simp only [Runs, outcome, bind, EStateM.bind, hgot]

/-- What comes after the handles were got does not see the handle for writing if it does not look at
it. -/
lemma blind_getHandles_bind {f : Handles → Access Database α}
    (hf : ∀ handles, BlindToWriter read (f handles))
    (hchange : ∀ handles write, f { handles with write } = f handles) :
    BlindToWriter read (getHandles >>= f) := by
  intro db r db' hdb h
  obtain ⟨history, write, hhandles⟩ := id hdb
  obtain ⟨hdb', hruns⟩ := hf _ db r db' hdb ((runs_getHandles_bind hhandles).1 h)
  refine ⟨hdb', fun w => (runs_getHandles_bind (handles_withWriter hhandles w)).2 ?_⟩
  rw [hchange]
  exact hruns w

/-- To ask for the backend is blind to the writer. -/
lemma blind_backend : BlindToWriter read backend :=
  blind_getHandles_bind (fun _ => blind_pure _) fun _ _ => rfl

/-- To note a statement is blind to the writer. -/
lemma blind_note (sql : String) : BlindToWriter read (note sql) :=
  blind_modify (fun _ hdb => hdb) fun _ _ => rfl

/-- A call is made on the handle for reading, which stays on its driver. -/
lemma blind_callReader {call : Handle → Except String α × Handle}
    (hcall : ∀ handle, (call handle).2.driver = handle.driver) :
    BlindToWriter read (callReader call) := by
  intro db r db' hdb h
  obtain ⟨history, write, hhandles⟩ := hdb
  obtain ⟨rfl, rfl⟩ := runs_callReader_of_handles hhandles h
  have hread : (call ⟨read, history⟩).2 = ⟨read, (call ⟨read, history⟩).2.history⟩ :=
    congrArg (fun driver => Handle.mk driver (call ⟨read, history⟩).2.history) (hcall _)
  refine ⟨⟨_, write, by rw [← hread]⟩, fun w => ?_⟩
  obtain ⟨r, db', hrun⟩ := exists_runs (callReader call) (db.withWriter w)
  obtain ⟨rfl, rfl⟩ := runs_callReader_of_handles (handles_withWriter hhandles w) hrun
  exact hrun

/-- A query is blind to the writer. -/
lemma blind_query (sql : String) : BlindToWriter read (query sql) := by
  refine blind_getHandles_bind (fun _ => ?_) fun _ _ => rfl
  refine blind_bind (blind_note sql) fun _ => blind_bind (blind_callReader fun _ => rfl) fun o => ?_
  cases o with
  | ok rows => exact blind_pure rows
  | error cause => exact blind_throw _

/-- To fetch the tables is blind to the writer. -/
lemma blind_fetchTables : BlindToWriter read fetchTables := by
  refine blind_bind blind_backend fun b => blind_bind (blind_note _) fun _ => ?_
  refine blind_bind (blind_callReader fun _ => rfl) fun o => ?_
  cases o with
  | ok names =>
    exact blind_bind (blind_modify (fun _ hdb => hdb) fun _ _ => rfl) fun _ => blind_pure _
  | error cause => exact blind_throw _

/-- To fetch a schema is blind to the writer. -/
lemma blind_fetchSchema (table : String) : BlindToWriter read (fetchSchema table) := by
  have hbuild : BlindToWriter read (buildSchema table) := by
    refine blind_bind blind_backend fun b => blind_bind (blind_callReader fun _ => rfl) fun o => ?_
    cases o with
    | ok native => exact blind_pure _
    | error cause => exact blind_throw _
  refine blind_bind hbuild fun schema => ?_
  exact blind_bind (blind_modify (fun _ hdb => hdb) fun _ _ => rfl) fun _ => blind_pure _

/-- To learn something is blind to the writer. -/
lemma blind_learn (m : Memo α) (a : α) : BlindToWriter read (modify (m.learn a)) := by
  refine blind_modify (fun db hdb => ?_) fun w db => ?_
  · obtain ⟨tables, schemas, hlearn⟩ := m.learn_eq a db
    rw [hlearn]
    exact hdb
  · obtain ⟨tables, schemas, hlearn⟩ := m.learn_eq a db
    have hconnection := m.learn_connection a db (db.withWriter w).handles db.attempts
    rw [hlearn] at hconnection ⊢
    exact hconnection

/-- A memo is consulted without the handle for writing if it is fetched so. -/
lemma blind_consult {m : Memo α} {fetch : Access Database α} (h : BlindToWriter read fetch) :
    BlindToWriter read (m.consult fetch) := by
  have hkeep (a : α) : BlindToWriter read (do modify (m.learn a); return a) :=
    blind_bind (blind_learn m a) fun _ => blind_pure a
  refine blind_get_bind (fun db => ?_) fun w db => ?_
  · cases m.known db with
    | some a => exact blind_pure a
    | none =>
      cases m.kept db with
      | some a => exact blind_bind (blind_pure a) hkeep
      | none => exact blind_bind h hkeep
  · have hknown : m.known (db.withWriter w) = m.known db := m.known_congr _ _ rfl rfl
    have hkept : m.kept (db.withWriter w) = m.kept db := rfl
    rw [hknown, hkept]

/-- The operations that others are put together from are blind to the writer. -/
lemma Primitive.blind {op : Access Database α} (h : Primitive op) : BlindToWriter read op := by
  cases h with
  | backend => exact blind_backend
  | query sql => exact blind_query sql
  | knownTables =>
    rw [knownTables_eq]
    exact blind_consult blind_fetchTables
  | invalidateTables => exact blind_modify (fun _ hdb => hdb) fun _ _ => rfl
  | columnsFor name =>
    rw [columnsFor_eq]
    exact blind_consult (blind_fetchSchema _)

end Database

/-- The object over the database with another handle for writing. -/
def Focus.withWriter {σ : Type} (write : Option Handle) (s : Focus σ) : Focus σ :=
  ⟨s.self, s.database.withWriter write⟩

section Objects
variable {σ τ α : Type} {read : Driver}

/-- An operation over a database that is connected does not see the handle for writing. -/
abbrev Focus.BlindToWriter (read : Driver) (op : Access (Focus σ) α) : Prop :=
  Blind (fun s => s.database.ReadsBy read) Focus.withWriter op

open Focus

/-- An operation on the database is blind to the writer over an object as well. -/
lemma blind_onDatabase {op : Access Database α} (h : Database.BlindToWriter read op) :
    BlindToWriter read (onDatabase op : Access (Focus σ) α) :=
  blind_zoom Database.withWriter (fun _ hs => hs) (fun _ _ ht => ht) (fun _ _ => rfl)
    (fun _ _ _ => rfl) h

/-- An operation on a part of an object is blind to the writer if it is so on the part. -/
lemma blind_onPart (part : τ) (replace : τ → σ → σ) {op : Access (Focus τ) α}
    (h : BlindToWriter read op) : BlindToWriter read (onPart part replace op) :=
  blind_zoom Focus.withWriter (fun _ hs => hs) (fun _ _ ht => ht) (fun _ _ => rfl)
    (fun _ _ _ => rfl) h

/-- To ask for the object and go on with it is blind to the writer if what follows is. -/
lemma blind_getSelf_bind {f : σ → Access (Focus σ) α} (h : ∀ self, BlindToWriter read (f self)) :
    BlindToWriter read (getSelf >>= f) :=
  blind_bind (blind_get_bind (fun s => blind_pure s.self) fun _ _ => rfl) h

/-- What is put together from operations on the database does not see the handle for writing. -/
lemma Composed.blind {op : Access (Focus σ) α} (h : Composed op) : BlindToWriter read op := by
  induction h with
  | pure a => exact blind_pure a
  | getSelf => exact blind_get_bind (fun s => blind_pure s.self) fun _ _ => rfl
  | modifySelf change => exact blind_modify (fun _ hs => hs) fun _ _ => rfl
  | onDatabase h => exact blind_onDatabase h.blind
  | bind _ _ ihop ihf => exact blind_bind ihop ihf
  | onPart part replace _ ih => exact blind_onPart part replace ih

/-- The operations on a database are blind to the writer, with their answers. -/
lemma Database.blind_answer (operation : Database.Operation) :
    Database.BlindToWriter read operation.answer := by
  have hcolumns (table : String) : Database.BlindToWriter read (columnsFor table) :=
    (Primitive.columnsFor table).blind
  cases operation with
  | query sql => exact blind_query sql
  | tableExists name => exact blind_bind Primitive.knownTables.blind fun _ => blind_pure _
  | invalidateTables => exact Primitive.invalidateTables.blind
  | columnsFor table => exact hcolumns table
  | hasColumn table name => exact blind_bind (hcolumns table) fun _ => blind_pure _

/-- The next item of a walk is found, or is the error that was come to. -/
lemma Walk.blind_next? (walk : Walk) : BlindToWriter read walk.next? := by
  rw [Walk.next?]
  split
  · exact blind_pure _
  · refine blind_bind (blind_attempt (RecordSetOf.composed_at? _).blind) fun found => ?_
    cases found with
    | ok record => cases record <;> exact blind_pure _
    | error e => exact blind_pure _

/-- The operations on a set are blind to the writer, with their answers. -/
lemma RecordSetOf.blind_answer (operation : RecordSetOf.Operation) :
    BlindToWriter read operation.answer := by
  by_cases h : ∃ walk, operation = .next walk
  · obtain ⟨walk, rfl⟩ := h
    exact walk.blind_next?
  · exact (composed_answer (not_exists.1 h)).blind

namespace Entity

/-- An operation on the set of an entity is blind to the writer if it is so on the set. -/
lemma blind_onSet (set : RecordSet) {op : Access (Focus RecordSet) α} (h : BlindToWriter read op) :
    BlindToWriter read (onSet set op) :=
  blind_onPart set (fun s (_ : Entity) => Relation.many s) h

/-- The operations on an object are blind to the writer, with their answers. -/
lemma blind_answer (operation : Entity.Operation) : BlindToWriter read operation.answer := by
  cases operation with
  | record op =>
    refine blind_getSelf_bind fun entity => ?_
    cases entity with
    | one r =>
      exact blind_bind (composed_onRecord r (Record.composed_answer op)).blind fun _ => blind_pure _
    | many s => exact blind_pure none
  | set op =>
    refine blind_getSelf_bind fun entity => ?_
    cases entity with
    | one r => exact blind_pure none
    | many s =>
      exact blind_bind (blind_onSet s (RecordSetOf.blind_answer op)) fun _ => blind_pure _

/-- What is done at the end of a path sees as little as the operation there. -/
lemma blind_follow {op : Access (Focus Entity) α} (h : BlindToWriter read op) (path : List Step) :
    BlindToWriter read (follow op path) := by
  induction path with
  | nil => exact blind_bind h fun _ => blind_pure _
  | cons step path ih =>
    refine blind_bind (composed_find? step).blind fun found => ?_
    cases found with
    | none => exact blind_pure _
    | some inner => exact blind_onPart inner (put step) ih

end Entity

end Objects

/-- A caller of the library, who holds objects over one database. What it does next may depend on all
that it was given and on the objects that it has. -/
inductive Client where
  | done
  /-- holds one more object -/
  | hold (object : Entity) (next : Client)
  /-- looks at its objects -/
  | look (next : List Entity → Client)
  /-- asks for something at the end of a path from the object in a place -/
  | ask (place : Nat) (path : List Step) (operation : Entity.Operation)
      (next : Except Error (Option operation.Answer) → Client)
  /-- asks the database -/
  | askDatabase (operation : Database.Operation)
      (next : Except Error operation.Answer → Client)
  /-- asks for the backend, by which texts are escaped and names quoted -/
  | askBackend (next : Except Error Backend → Client)

namespace Client

/-- What a caller was given for something that it asked, or the error that it got. -/
inductive Reply where
  | object (operation : Entity.Operation) (answer : Except Error (Option operation.Answer))
  | database (operation : Database.Operation) (answer : Except Error operation.Answer)
  | backend (answer : Except Error Backend)

/-- Do an operation at the end of a path from the object in a place. Nothing is given where there is no
object for it. -/
def reach (place : Nat) (path : List Step) (operation : Entity.Operation) :
    Access (Focus (List Entity)) (Option operation.Answer) := do
  match (← Focus.getSelf)[place]? with
  | none => return none
  | some object =>
    let found ← Focus.onPart object (fun object objects => objects.set place object)
      (Entity.follow operation.answer path)
    match found with
    | .ok answer => return answer
    | .error _ => return none

/-- What a caller is given, in order, and the objects and the database that it leaves. It goes on after
an operation that failed. -/
def run : Client → Focus (List Entity) → List Reply × Focus (List Entity)
  | done, s => ([], s)
  | hold object next, s => next.run ⟨s.self ++ [object], s.database⟩
  | look next, s => (next s.self).run s
  | ask place path operation next, s =>
    let (answer, s) := (reach place path operation).outcome s
    let (replies, s) := (next answer).run s
    (.object operation answer :: replies, s)
  | askDatabase operation next, s =>
    let (answer, s) := (Focus.onDatabase operation.answer).outcome s
    let (replies, s) := (next answer).run s
    (.database operation answer :: replies, s)
  | askBackend next, s =>
    let (answer, s) := (Focus.onDatabase Database.backend).outcome s
    let (replies, s) := (next answer).run s
    (.backend answer :: replies, s)

open Focus
variable {read : Driver}

/-- What a caller asks of one of its objects is blind to the writer. -/
lemma blind_reach (place : Nat) (path : List Step) (operation : Entity.Operation) :
    BlindToWriter read (reach place path operation) := by
  refine blind_getSelf_bind fun objects => ?_
  cases objects[place]? with
  | none => exact blind_pure none
  | some object =>
    have hfollow : BlindToWriter read (Entity.follow operation.answer path) :=
      Entity.blind_follow (Entity.blind_answer operation) path
    refine blind_bind (blind_onPart object _ hfollow) fun found => ?_
    cases found <;> exact blind_pure _

/-- A caller is given the same on every handle for writing, and leaves the same but for that. -/
lemma run_withWriter (client : Client) (write : Option Handle) {s : Focus (List Entity)}
    (hs : s.database.ReadsBy read) :
    (client.run s).2.database.ReadsBy read ∧
      client.run (s.withWriter write) = ((client.run s).1, (client.run s).2.withWriter write) := by
  induction client generalizing s with
  | done => exact ⟨hs, rfl⟩
  | hold object next ih => exact ih hs
  | look next ih => exact ih s.self hs
  | ask place path operation next ih =>
    obtain ⟨answer, s₁, hs₁, hrun, hsame⟩ :=
      (blind_reach place path operation).exists_outcome hs write
    simp only [run, hrun, hsame, ih answer hs₁, and_self]
  | askDatabase operation next ih =>
    obtain ⟨answer, s₁, hs₁, hrun, hsame⟩ :=
      (blind_onDatabase (Database.blind_answer operation)).exists_outcome hs write
    simp only [run, hrun, hsame, ih answer hs₁, and_self]
  | askBackend next ih =>
    obtain ⟨answer, s₁, hs₁, hrun, hsame⟩ :=
      (blind_onDatabase blind_backend).exists_outcome hs write
    simp only [run, hrun, hsame, ih answer hs₁, and_self]

/-- In a context over given drivers a caller is given the same answers and errors whatever the driver for
writing is. The same calls are made on the handle for reading, and all else that is left is the same,
but for the handle for writing, on which no call is made. -/
theorem write_unused (client : Client) (objects : List Entity) (read : Driver)
    (surroundings : Surroundings) (cache : Cache) :
    ∃ replies objects' calls, ∃ db : Database, ∀ write : Option Driver,
      client.run ⟨objects, .ofDrivers read write surroundings cache⟩ =
        (replies, ⟨objects', { db with
          handles := some (.ok ⟨read.backend, ⟨read, calls⟩, write.map .ofDriver⟩) }⟩) := by
  have hreads : (ofDrivers read none surroundings cache).ReadsBy read := ⟨[], none, rfl⟩
  -- all contexts are that without a handle for writing of its own, but for that handle
  have hruns (write : Option Handle) :=
    client.run_withWriter write (s := ⟨objects, ofDrivers read none surroundings cache⟩) hreads
  rcases hleft : client.run ⟨objects, ofDrivers read none surroundings cache⟩ with
    ⟨replies, objects', db⟩
  rw [hleft] at hruns
  obtain ⟨calls, own, hhandles⟩ := (hruns none).1
  refine ⟨replies, objects', calls, db, fun write => ?_⟩
  obtain ⟨-, heq⟩ := hruns (write.map .ofDriver)
  rw [Focus.withWriter, Focus.withWriter, Database.withWriter, Database.withWriter, hhandles] at heq
  exact heq

end Client
end RecordAccess
