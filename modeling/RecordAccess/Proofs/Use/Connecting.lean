import RecordAccess.Proofs.Use.Extension

/-!
# The one attempt to connect

What an operation does before it comes to the connection does not depend on the connection. So in a
state it is either idle, that is, it succeeds in the same way on every connection (`Idle`), or on every
connection it comes to ask for the handles and ends as these are got or not (`Reaches`). This holds of
the operations on databases that others are put together from, and therefore of all that are put
together from them (`Composed.orderly`).

Over a run of requests, which may be made of the database and of any objects over it, the connection is
attempted by the first request that needs a handle (`handles_afterRequests_iff`). A request that needs
none leaves the connection (`idle_of_not_needs`). One that needs one fails if the attempt does
(`error_of_needs`), and finds the same handles as all others if it does not (`handles_of_works`).
`connects_once` puts this together.
-/

namespace RecordAccess
open Access Database

/-- The database on another connection. -/
def Database.over (handles : Option (Except String Handles)) (attempts : Nat) (db : Database) :
    Database :=
  { db with handles, attempts }

/-- The object over the database on another connection. -/
def Focus.over {σ : Type} (handles : Option (Except String Handles)) (attempts : Nat)
    (s : Focus σ) : Focus σ :=
  ⟨s.self, s.database.over handles attempts⟩

/-- An operation asks for the handles. It fails as these cannot be got, or else does not fail for lack
of a connection. -/
inductive Database.Reaching {α : Type} (db : Database) : Except Error α → Database → Prop where
  | unopened {e db₁ db'} :
    Opening db (.error e) db₁ →
    Extends db₁ db' →
    Reaching db (.error e) db'
  | opened {handles db₁ r db'} :
    Opening db (.ok handles) db₁ →
    Extends db₁ db' →
    (∀ e, r = .error e → e.isFatal = false) →
    Reaching db r db'

section Operations
variable {σ τ α β : Type}

/-- An operation succeeds in the same way on every connection, and leaves it. -/
def Idle (op : Access (Focus σ) α) (s : Focus σ) (a : α) (s' : Focus σ) : Prop :=
  ∀ handles attempts, Runs op (s.over handles attempts) (.ok a) (s'.over handles attempts)

/-- An operation asks for the handles on every connection. -/
def Reaches (op : Access (Focus σ) α) (s : Focus σ) : Prop :=
  ∀ handles attempts r s', Runs op (s.over handles attempts) r s' →
    (s.database.over handles attempts).Reaching r s'.database

/-- In every state an operation is idle, or asks for the handles. -/
def Orderly (op : Access (Focus σ) α) : Prop := ∀ s, (∃ a s', Idle op s a s') ∨ Reaches op s

namespace Database
variable {db db' : Database}

/-- Who asks for the handles leaves a connection or the error of one. -/
lemma Reaching.handles_ne_none {r : Except Error α} (h : db.Reaching r db') :
    db'.handles ≠ none := by
  have hknown {db₁ : Database} (hdb₁ : db₁.handles ≠ none) (hextends : Extends db₁ db') :
      db'.handles ≠ none := by
    cases hextends.attempted <;> simp_all
  cases h with
  | unopened hopening hextends =>
    refine hknown ?_ hextends
    cases hopening <;> simp_all
  | opened hopening hextends _ =>
    refine hknown ?_ hextends
    simp [hopening.handles]

/-- On a connection that works no failure is for lack of one. -/
lemma Reaching.isFatal_of_handles {handles : Handles} {e : Error}
    (h : db.Reaching (.error e : Except Error α) db') (hhandles : db.handles = some (.ok handles)) :
    e.isFatal = false := by
  cases h with
  | unopened hopening _ => cases (hopening.known hhandles).1
  | opened _ _ hfatal => exact hfatal e rfl

/-- To fetch asks for the handles. -/
lemma Memo.Fetching.reaching {m : Memo α} {r : Except Error α} (h : m.Fetching db r db') :
    db.Reaching r db' := by
  cases h with
  | unopened hopening => exact .unopened hopening (.refl _)
  | refused hopening _ =>
    refine .opened hopening (extends_called hopening.handles m.call (m.notes _) _) ?_
    rintro e ⟨⟩
    exact m.isFatal_fault _ _
  | replied hopening _ =>
    exact .opened hopening (extends_called hopening.handles m.call (m.notes _) _) nofun

/-- A memo that neither the context nor the cache knows is asked for on the connection. -/
lemma Memo.Consulting.reaching {m : Memo α} {r : Except Error α} (h : m.Consulting db r db')
    (hknown : m.known db = none) (hkept : m.kept db = none) : db.Reaching r db' := by
  cases h with
  | known hsome => simp [hknown] at hsome
  | kept _ hsome => simp [hkept] at hsome
  | fetched _ _ hfetching =>
    cases hfetching.reaching with
    | opened hopening hextends _ =>
      exact .opened hopening (hextends.trans (extends_learn _ _)) nofun
  | failed _ _ hfetching => exact hfetching.reaching

/-- To ask for rows asks for the handles. -/
lemma Asking.reaching {statement : Backend → String} {r : Except Error (List Row)}
    (h : Asking db statement r db') : db.Reaching r db' := by
  cases h with
  | @answered handles db₁ _ hopening _ =>
    exact .opened hopening (extends_called hopening.handles (.query _) [_] db₁.cache) nofun
  | @refused handles db₁ _ hopening _ =>
    refine .opened hopening (extends_called hopening.handles (.query _) [_] db₁.cache) ?_
    rintro e ⟨⟩
    rfl
  | unopened hopening => exact .unopened hopening (.refl _)

/-- To ask for the backend asks for the handles. -/
lemma reaching_of_backend {r : Except Error Backend} (h : Runs backend db r db') :
    db.Reaching r db' := by
  obtain ⟨o, rfl, hopening⟩ := runs_backend h
  cases o with
  | ok handles => exact .opened hopening (.refl _) nofun
  | error e => exact .unopened hopening (.refl _)

/-- An operation that asks for the handles whatever the database knows. -/
lemma reaches_onDatabase {op : Access Database α}
    (h : ∀ db r db', Runs op db r db' → db.Reaching r db') (s : Focus σ) :
    Reaches (Focus.onDatabase op) s := by
  intro handles attempts r s' hrun
  obtain ⟨db', hdb', rfl⟩ := Focus.runs_onDatabase.1 hrun
  exact h _ r db' hdb'

/-- To consult a memo is idle if the context or the cache knows it. -/
lemma orderly_of_consulting {m : Memo α} {op : Access Database α}
    (h : ∀ db r db', Runs op db r db' → m.Consulting db r db') :
    Orderly (Focus.onDatabase op : Access (Focus σ) α) := by
  intro s
  have hsame handles attempts :
      m.known (s.database.over handles attempts) = m.known s.database := m.known_congr _ _ rfl rfl
  cases hknown : m.known s.database with
  | some a =>
    refine .inl ⟨a, s, fun handles attempts => ?_⟩
    obtain ⟨r, db', hrun⟩ := exists_runs op (s.database.over handles attempts)
    obtain ⟨rfl, rfl⟩ := (h _ _ _ hrun).of_known ((hsame handles attempts).trans hknown)
    exact Focus.runs_onDatabase.2 ⟨_, hrun, rfl⟩
  | none =>
    cases hkept : m.kept s.database with
    | some a =>
      refine .inl ⟨a, ⟨s.self, m.learn a s.database⟩, fun handles attempts => ?_⟩
      obtain ⟨r, db', hrun⟩ := exists_runs op (s.database.over handles attempts)
      obtain ⟨rfl, rfl⟩ := (h _ _ _ hrun).of_kept ((hsame handles attempts).trans hknown) hkept
      have hlearn : m.learn a (s.database.over handles attempts) =
          (m.learn a s.database).over handles attempts := m.learn_connection a _ _ _
      rw [hlearn] at hrun
      exact Focus.runs_onDatabase.2 ⟨_, hrun, rfl⟩
    | none =>
      refine .inr fun handles attempts r s' hrun => ?_
      obtain ⟨db', hdb', rfl⟩ := Focus.runs_onDatabase.1 hrun
      exact (h _ _ _ hdb').reaching ((hsame handles attempts).trans hknown) hkept

/-- The operations that others are put together from are idle or ask for the handles. -/
lemma Primitive.orderly {op : Access Database α} (h : Primitive op) :
    Orderly (Focus.onDatabase op : Access (Focus σ) α) := by
  cases h with
  | backend => exact fun s => .inr (reaches_onDatabase (fun _ _ _ => reaching_of_backend) s)
  | query sql =>
    exact fun s => .inr (reaches_onDatabase (fun _ _ _ h => (asking_of_runs h).reaching) s)
  | knownTables => exact orderly_of_consulting fun _ _ _ => consulting_of_knownTables
  | invalidateTables =>
    intro s
    exact .inl ⟨(), ⟨s.self,
      { s.database with tables := none, cache := s.database.cache.set tablesKey .null }⟩,
      fun _ _ => Focus.runs_onDatabase.2 ⟨_, rfl, rfl⟩⟩
  | columnsFor name => exact orderly_of_consulting fun _ _ _ => consulting_of_columnsFor

/-- The handles are asked for after something that left every connection. -/
lemma Opening.of_idle {db₂ : Database} {handles : Option (Except String Handles)} {attempts : Nat}
    {o : Except Error Handles}
    (hidle : ∀ handles attempts, Extends (db.over handles attempts) (db'.over handles attempts))
    (h : Opening (db'.over handles attempts) o db₂) :
    ∃ db₁, Opening (db.over handles attempts) o db₁ ∧ Extends db₁ db₂ := by
  have hconnect := (hidle handles attempts).connect
  cases h with
  | opened hhandles => exact ⟨_, .opened hhandles, hidle _ _⟩
  | unavailable hreason => exact ⟨_, .unavailable hreason, hidle _ _⟩
  | @connects known hnone hok =>
    exact ⟨_, .connects hnone (hconnect ▸ hok), hidle (some (.ok known)) (attempts + 1)⟩
  | @fails e hnone herror =>
    exact ⟨_, .fails hnone (hconnect ▸ herror), hidle (some (.error e.message)) (attempts + 1)⟩

/-- An idle operation before one that asks for the handles leaves it one that does. -/
lemma Reaching.of_idle {db₂ : Database} {handles : Option (Except String Handles)} {attempts : Nat}
    {r : Except Error α}
    (hidle : ∀ handles attempts, Extends (db.over handles attempts) (db'.over handles attempts))
    (h : (db'.over handles attempts).Reaching r db₂) :
    (db.over handles attempts).Reaching r db₂ := by
  cases h with
  | unopened hopening hextends =>
    obtain ⟨db₁, hopening', hextends'⟩ := hopening.of_idle hidle
    exact .unopened hopening' (hextends'.trans hextends)
  | opened hopening hextends hfatal =>
    obtain ⟨db₁, hopening', hextends'⟩ := hopening.of_idle hidle
    exact .opened hopening' (hextends'.trans hextends) hfatal

end Database

variable {op : Access (Focus σ) α} {s s' : Focus σ}

/-- On a connection that works no failure is for lack of one. -/
lemma Orderly.isFatal_of_handles {handles : Handles} {e : Error} (h : Orderly op)
    (hhandles : s.database.handles = some (.ok handles)) (hrun : Runs op s (.error e) s') :
    e.isFatal = false := by
  obtain ⟨a, t, hidle⟩ | hreaches := h s
  · cases (hrun.unique (hidle s.database.handles s.database.attempts)).1
  · exact (hreaches s.database.handles s.database.attempts _ s' hrun).isFatal_of_handles hhandles

/-- One orderly operation after another: the first that asks for the handles decides. -/
lemma orderly_bind {f : α → Access (Focus σ) β} (hop : Composed op) (hf : ∀ a, Composed (f a))
    (ihop : Orderly op) (ihf : ∀ a, Orderly (f a)) : Orderly (op >>= f) := by
  intro s
  obtain ⟨a, s₁, hidle⟩ | hreaches := ihop s
  · obtain ⟨b, s₂, hidle'⟩ | hreaches' := ihf a s₁
    · exact .inl ⟨b, s₂, fun handles attempts =>
        runs_bind.2 (.inr ⟨a, _, hidle handles attempts, hidle' handles attempts⟩)⟩
    refine .inr fun handles attempts r s' hrun => ?_
    obtain ⟨e, -, hfirst⟩ | ⟨a', s₁', hfirst, hrest⟩ := runs_bind.1 hrun
    · cases ((hidle handles attempts).unique hfirst).1
    · obtain ⟨ha, rfl⟩ := (hidle handles attempts).unique hfirst
      cases ha
      exact (hreaches' handles attempts r s' hrest).of_idle fun handles attempts =>
        hop.keeps _ _ _ (.refl _) (hidle handles attempts)
  · refine .inr fun handles attempts r s' hrun => ?_
    obtain ⟨e, rfl, hfirst⟩ | ⟨a, s₁, hfirst, hrest⟩ := runs_bind.1 hrun
    · cases hreaches handles attempts _ s' hfirst with
      | unopened hopening hextends => exact .unopened hopening hextends
      | opened hopening hextends hfatal =>
        refine .opened hopening hextends ?_
        rintro e ⟨⟩
        exact hfatal e rfl
    · cases hreaches handles attempts _ s₁ hfirst with
      | opened hopening hextends _ =>
        obtain ⟨known, -, hknown, -⟩ := hextends.used hopening.handles
        refine .opened hopening (hextends.trans ((hf a).keeps _ _ _ (.refl _) hrest)) ?_
        rintro e rfl
        exact (ihf a).isFatal_of_handles hknown hrest

/-- An orderly operation is so on a part of an object. -/
lemma orderly_onPart {part : τ} {replace : τ → σ → σ} {op : Access (Focus τ) α} (h : Orderly op) :
    Orderly (Focus.onPart part replace op) := by
  intro s
  obtain ⟨a, t, hidle⟩ | hreaches := h ⟨part, s.database⟩
  · exact .inl ⟨a, ⟨replace t.self s.self, t.database⟩, fun handles attempts =>
      Focus.runs_onPart.2 ⟨_, hidle handles attempts, rfl⟩⟩
  · refine .inr fun handles attempts r s' hrun => ?_
    obtain ⟨t, ht, rfl⟩ := Focus.runs_onPart.1 hrun
    exact hreaches handles attempts r t ht

/-- What is put together from operations on the database is orderly. -/
lemma Composed.orderly (h : Composed op) : Orderly op := by
  induction h with
  | pure a => exact fun s => .inl ⟨a, s, fun _ _ => runs_pure.2 ⟨rfl, rfl⟩⟩
  | getSelf => exact fun s => .inl ⟨s.self, s, fun _ _ => Focus.runs_getSelf.2 ⟨rfl, rfl⟩⟩
  | modifySelf change =>
    exact fun s => .inl ⟨(), ⟨change s.self, s.database⟩,
      fun _ _ => Focus.runs_modifySelf.2 ⟨rfl, rfl⟩⟩
  | onDatabase h => exact h.orderly
  | bind hop hf ihop ihf => exact orderly_bind hop hf ihop ihf
  | onPart part replace _ ih => exact orderly_onPart ih

/-- An operation needs a handle if it attempts to connect where that was not tried yet. -/
def Needs (op : Access (Focus σ) α) (s : Focus σ) : Prop :=
  (op.outcome (s.over none 0)).2.database.handles ≠ none

/-- An orderly operation asks for the handles where it needs one. -/
lemma Orderly.reaches_of_needs (h : Orderly op) (hneeds : Needs op s) : Reaches op s := by
  obtain ⟨a, t, hidle⟩ | hreaches := h s
  · have hrun : op.outcome (s.over none 0) = (.ok a, t.over none 0) := hidle none 0
    rw [Needs, hrun] at hneeds
    exact absurd rfl hneeds
  · exact hreaches

/-- An orderly operation is idle where it needs no handle. -/
lemma Orderly.idle_of_not_needs (h : Orderly op) (hneeds : ¬ Needs op s) :
    ∃ a t, Idle op s a t := by
  obtain hidle | hreaches := h s
  · exact hidle
  · exact absurd (hreaches none 0 _ _ rfl).handles_ne_none hneeds

/-- An idle operation succeeds and leaves the connection. -/
lemma Idle.of_runs {a : α} {t : Focus σ} {r : Except Error α} (h : Idle op s a t)
    (hrun : Runs op s r s') :
    r = .ok a ∧ s'.database.handles = s.database.handles ∧
      s'.database.attempts = s.database.attempts := by
  obtain ⟨rfl, rfl⟩ := (h s.database.handles s.database.attempts).unique hrun
  exact ⟨rfl, rfl, rfl⟩

/-- An operation that reaches for the handles does so on the connection that there is. -/
lemma Reaches.of_runs {r : Except Error α} (h : Reaches op s) (hrun : Runs op s r s') :
    s.database.Reaching r s'.database :=
  h s.database.handles s.database.attempts r s' hrun

end Operations

namespace Database
variable {α : Type} {start db db' : Database} {r : Except Error α}

/-- Where the attempt to connect fails, it is still to be made or its error is remembered. -/
lemma Extends.of_fails {e : Error} (h : Extends start db) (hnone : start.handles = none)
    (hconnect : start.connect = .error e) :
    db.handles = none ∧ db.connect = .error e ∨ db.handles = some (.error e.message) := by
  cases h.attempted with
  | idle _ hnone' _ => exact .inl ⟨hnone', h.connect.trans hconnect⟩
  | failed _ herror hreason _ =>
    cases hconnect.symm.trans herror
    exact .inr hreason
  | _ => simp_all

/-- Where the attempt to connect succeeds, it is still to be made or the handles are in use. -/
lemma Extends.of_works {handles : Handles} {db₁ : Database} (h : Extends start db)
    (hopening : Opening start (.ok handles) db₁) :
    db.handles = none ∧ db.connect = .ok handles ∨
      ∃ handles', handles.Extends handles' ∧ db.handles = some (.ok handles') := by
  cases hopening with
  | opened hhandles =>
    obtain ⟨handles', hx, hhandles', -⟩ := h.used hhandles
    exact .inr ⟨handles', hx, hhandles'⟩
  | connects hnone hconnect =>
    cases h.attempted with
    | idle _ hnone' _ => exact .inl ⟨hnone', h.connect.trans hconnect⟩
    | @connected known handles' _ hok hx hhandles' _ =>
      cases hconnect.symm.trans hok
      exact .inr ⟨handles', hx, hhandles'⟩
    | _ => simp_all

/-- The first to ask for the handles gets the error of the connection. -/
lemma Reaching.eq_of_connect {e : Error} (h : db.Reaching r db') (hnone : db.handles = none)
    (hconnect : db.connect = .error e) : r = .error e := by
  cases h with
  | unopened hopening _ => cases hopening <;> simp_all
  | opened hopening _ _ => cases hopening <;> simp_all

/-- Whoever asks later is told that the database is unavailable. -/
lemma Reaching.eq_of_unavailable {reason : String} (h : db.Reaching r db')
    (hreason : db.handles = some (.error reason)) : r = .error (.unavailable reason) := by
  cases h with
  | unopened hopening _ => cases hopening <;> simp_all
  | opened hopening _ _ => cases hopening <;> simp_all

/-- Where there is a connection, or one can be had, the handles are the same ever after. -/
lemma Reaching.of_works {handles : Handles} (h : db.Reaching r db')
    (hworks : db.handles = none ∧ db.connect = .ok handles ∨
      ∃ handles', handles.Extends handles' ∧ db.handles = some (.ok handles')) :
    (∀ e, r = .error e → e.isFatal = false) ∧
      ∃ handles', handles.Extends handles' ∧ db'.handles = some (.ok handles') := by
  cases h with
  | unopened hopening _ => cases hopening <;> simp_all
  | @opened known db₁ _ _ hopening hextends hfatal =>
    refine ⟨hfatal, ?_⟩
    have hx : handles.Extends known := by
      obtain ⟨hnone, hconnect⟩ | ⟨handles', hx, hhandles'⟩ := hworks
      · cases hopening with
        | opened hknown => simp [hnone] at hknown
        | connects _ hok =>
          cases hconnect.symm.trans hok
          exact .refl handles
      · cases (hopening.known hhandles').1
        exact hx
    obtain ⟨used, hx', hused, -⟩ := hextends.used hopening.handles
    exact ⟨used, hx.trans hx', hused⟩

end Database

namespace Entity

/-- What is asked of a database or of an object over it. -/
inductive Request where
  /-- the handle for reading, or the one for writing -/
  | handles
  | backend
  | escape (text : String)
  | quoteName (name : String)
  | use (made : Use)

/-- Make a request. The error that a walk comes to counts as an error of the request. -/
def Request.run : Request → Access (Focus Entity) Unit
  | handles => Focus.onDatabase getHandles.ignored
  | backend => Focus.onDatabase Database.backend.ignored
  | escape text => Focus.onDatabase (Database.escape text).ignored
  | quoteName name => Focus.onDatabase (Database.quoteName name).ignored
  | .use made => made.raised

/-- The object and the database after some requests, whether they failed or not. -/
def afterRequests (requests : List Request) (s : Focus Entity) : Focus Entity :=
  requests.foldl (fun s request => (request.run.outcome s).2) s

/-- Some request of a run needs a handle when it is made. -/
def Needed : List Request → Focus Entity → Prop
  | [], _ => False
  | request :: rest, s => Needs request.run s ∨ Needed rest (request.run.outcome s).2

/-- All requests are composed. -/
lemma composed_request (request : Request) : Composed request.run := by
  have hbackend {β : Type} (f : Backend → β) :
      Composed (Focus.onDatabase (Database.backend >>= fun b => pure (f b)).ignored :
        Access (Focus Entity) Unit) := by
    rw [ignored, Focus.onDatabase_bind, Focus.onDatabase_bind]
    exact (Composed.backend.bind fun b => .pure (f b)).bind fun _ => .pure ()
  cases request with
  | handles =>
    have hignored : getHandles.ignored = Database.backend.ignored := by
      simp [ignored, Database.backend]
    rw [Request.run, hignored, ignored, Focus.onDatabase_bind]
    exact Composed.backend.bind fun _ => .pure ()
  | backend =>
    rw [Request.run, ignored, Focus.onDatabase_bind]
    exact Composed.backend.bind fun _ => .pure ()
  | escape text => exact hbackend fun _ => Backend.escape text
  | quoteName name => exact hbackend fun b => b.quoteName name
  | use made => exact composed_use made

/-- Requests that are uses leave what the uses leave. -/
lemma afterRequests_use (uses : List Use) (s : Focus Entity) :
    afterRequests (uses.map .use) s = afterUses uses s := by
  induction uses generalizing s with
  | nil => rfl
  | cons use uses ih =>
    obtain ⟨r, s', hrun⟩ := exists_runs use.raised s
    obtain ⟨o, ho, -⟩ := raises_use use s r s' hrun
    have hraised : ((Request.use use).run.outcome s).2 = s' := congrArg Prod.snd hrun
    have hused : (use.run.outcome s).2 = s' := congrArg Prod.snd ho
    rw [List.map_cons, afterRequests, afterUses, List.foldl_cons, List.foldl_cons, hraised, hused]
    exact ih s'

/-- A run of requests extends the database. -/
lemma extends_afterRequests (requests : List Request) (s : Focus Entity) :
    Extends s.database (afterRequests requests s).database :=
  keeps_foldl (fun request => (composed_request request).keeps) requests (.refl s.database)

/-- The connection was attempted if and only if some request needed a handle. -/
lemma handles_afterRequests_iff {requests : List Request} {s : Focus Entity}
    (hnone : s.database.handles = none) :
    (afterRequests requests s).database.handles ≠ none ↔ Needed requests s := by
  induction requests generalizing s with
  | nil => simp [afterRequests, Needed, hnone]
  | cons request requests ih =>
    obtain ⟨r, s₁, hrun⟩ := exists_runs request.run s
    have hnext : (request.run.outcome s).2 = s₁ := congrArg Prod.snd hrun
    have horderly := (composed_request request).orderly
    rw [Needed, afterRequests, List.foldl_cons, hnext]
    by_cases hneeds : Needs request.run s
    · -- the connection was attempted, so that it stays so
      have hne := ((horderly.reaches_of_needs hneeds).of_runs hrun).handles_ne_none
      have hextends := extends_afterRequests requests s₁
      have hne' : (afterRequests requests s₁).database.handles ≠ none := by
        cases hextends.attempted <;> simp_all
      exact ⟨fun _ => .inl hneeds, fun _ => hne'⟩
    · obtain ⟨a, t, hidle⟩ := horderly.idle_of_not_needs hneeds
      have hnone' : s₁.database.handles = none := (hidle.of_runs hrun).2.1.trans hnone
      rw [← ih hnone']
      exact ⟨fun h => .inr h, fun h => h.resolve_left hneeds⟩

/-- A context has made no attempt when it begins, and no failed one. -/
lemma handles_beginning (beginning : Beginning) (surroundings : Surroundings) (cache : Cache) :
    (beginning.database surroundings cache).attempts = 0 ∧
      ∀ reason, (beginning.database surroundings cache).handles ≠ some (.error reason) := by
  cases beginning <;> exact ⟨rfl, nofun⟩

section Requests
variable {start s' : Focus Entity} {earlier : List Request} {request : Request} {r : Except Error Unit}

/-- A connection is attempted at most once, and that as soon as a request needs a handle. -/
lemma attempts_afterRequests (hattempts : start.database.attempts = 0)
    (hfailed : ∀ reason, start.database.handles ≠ some (.error reason)) :
    (afterRequests earlier start).database.attempts ≤ 1 ∧
      ((afterRequests earlier start).database.attempts = 1 ↔
        start.database.handles = none ∧ Needed earlier start) := by
  have hneeded (hnone : start.database.handles = none) :
      (afterRequests earlier start).database.handles ≠ none ↔ Needed earlier start :=
    handles_afterRequests_iff hnone
  cases (extends_afterRequests earlier start).attempted with
  | idle hnone hnone' hsame =>
    have hnot : ¬ Needed earlier start := fun h => (hneeded hnone).2 h hnone'
    simp [hsame, hattempts, hnot]
  | failed hnone _ hreason hsucc =>
    have hdone : Needed earlier start := (hneeded hnone).1 (by simp [hreason])
    simp [hsucc, hattempts, hnone, hdone]
  | connected hnone _ _ hhandles hsucc =>
    have hdone : Needed earlier start := (hneeded hnone).1 (by simp [hhandles])
    simp [hsucc, hattempts, hnone, hdone]
  | unavailable hreason => exact absurd hreason (hfailed _)
  | used hhandles _ _ hsame => simp [hsame, hattempts, hhandles]

/-- A request that needs no handle succeeds and leaves the connection. -/
lemma idle_of_not_needs {s : Focus Entity} (hrun : Runs request.run s r s')
    (hneeds : ¬ Needs request.run s) :
    r = .ok () ∧ s'.database.handles = s.database.handles ∧
      s'.database.attempts = s.database.attempts := by
  obtain ⟨a, t, hidle⟩ := (composed_request request).orderly.idle_of_not_needs hneeds
  exact hidle.of_runs hrun

/-- A request that needs a handle asks for the handles. -/
lemma reaching_of_needs {s : Focus Entity} (hrun : Runs request.run s r s')
    (hneeds : Needs request.run s) : s.database.Reaching r s'.database :=
  ((composed_request request).orderly.reaches_of_needs hneeds).of_runs hrun

/-- Where the attempt fails, the first request that needs a handle fails with the error, and each later
one with its text. -/
lemma error_of_needs {e : Error} (hnone : start.database.handles = none)
    (hconnect : start.database.connect = .error e)
    (hrun : Runs request.run (afterRequests earlier start) r s')
    (hneeds : Needs request.run (afterRequests earlier start)) :
    (¬ Needed earlier start → r = .error e) ∧
      (Needed earlier start → r = .error (.unavailable e.message)) := by
  have hextends := extends_afterRequests earlier start
  have hneeded : (afterRequests earlier start).database.handles ≠ none ↔ Needed earlier start :=
    handles_afterRequests_iff hnone
  have hreaching := reaching_of_needs hrun hneeds
  refine ⟨fun hnot => ?_, fun hdone => ?_⟩
  · have hnone' : (afterRequests earlier start).database.handles = none := by
      by_contra hne
      exact hnot (hneeded.1 hne)
    exact hreaching.eq_of_connect hnone' (hextends.connect.trans hconnect)
  · obtain ⟨hnone', -⟩ | hreason := hextends.of_fails hnone hconnect
    · exact absurd hnone' (hneeded.2 hdone)
    · exact hreaching.eq_of_unavailable hreason

/-- Where the attempt succeeds, no request fails for lack of a connection, and from the first one that
needs a handle on the handles are the same. -/
lemma handles_of_works {handles : Handles} {db₁ : Database}
    (hopening : Opening start.database (.ok handles) db₁)
    (hrun : Runs request.run (afterRequests earlier start) r s') :
    (∀ e, r = .error e → e.isFatal = false) ∧
      (Needs request.run (afterRequests earlier start) ∨ Needed earlier start →
        ∃ handles', handles.Extends handles' ∧ s'.database.handles = some (.ok handles')) := by
  have hextends := extends_afterRequests earlier start
  have hworks := hextends.of_works hopening
  by_cases hneeds : Needs request.run (afterRequests earlier start)
  · obtain ⟨hfatal, hhandles⟩ := (reaching_of_needs hrun hneeds).of_works hworks
    exact ⟨hfatal, fun _ => hhandles⟩
  obtain ⟨rfl, hsame, -⟩ := idle_of_not_needs hrun hneeds
  refine ⟨nofun, fun hor => ?_⟩
  have hdone : Needed earlier start := hor.resolve_left hneeds
  obtain ⟨hnone, -⟩ | ⟨handles', hx, hhandles'⟩ := hworks
  · cases hopening with
    | opened hhandles =>
      obtain ⟨used, -, hused, -⟩ := hextends.used hhandles
      cases hnone.symm.trans hused
    | connects hnone₀ _ => exact absurd hnone ((handles_afterRequests_iff hnone₀).2 hdone)
  · exact ⟨handles', hx, hsame.trans hhandles'⟩

end Requests

/-- After any requests a connection was attempted at most once, and that as soon as one of them needed
a handle. What the context or the cache knows is given whatever became of the attempt. A request that
needs no handle succeeds and leaves the connection. Of those that need one, if the attempt fails, the
first fails with the error of the configuration or connection, and all later ones with its text; if it
succeeds, none fails for lack of a connection, and the handles stay the same. Uses of objects are
requests that leave what the uses leave. -/
theorem connects_once (x : Entity) (beginning : Beginning) (surroundings : Surroundings)
    (cache : Cache) (earlier : List Request) (request : Request) :
    let start : Focus Entity := ⟨x, beginning.database surroundings cache⟩
    let s := afterRequests earlier start
    (s.database.attempts ≤ 1 ∧
      (s.database.attempts = 1 ↔ start.database.handles = none ∧ Needed earlier start)) ∧
    (∀ name tables, tableMemo.remembered? s.database = some tables →
      ∃ db', Runs (tableExists name) s.database (.ok (tables.contains (lowercase name))) db') ∧
    (∀ name schema, (schemaMemo (lowercase name)).remembered? s.database = some schema →
      ∃ db', Runs (columnsFor name) s.database (.ok schema) db') ∧
    (∀ r s', Runs request.run s r s' →
      (¬ Needs request.run s →
        r = .ok () ∧ s'.database.handles = s.database.handles ∧
          s'.database.attempts = s.database.attempts) ∧
      (∀ e db₁, Opening start.database (.error e) db₁ →
        ((∃ fault, e = .config fault) ∨ ∃ b cause, e = .connection b cause) ∧
          (Needs request.run s → ¬ Needed earlier start → r = .error e) ∧
          (Needs request.run s → Needed earlier start → r = .error (.unavailable e.message))) ∧
      ∀ handles db₁, Opening start.database (.ok handles) db₁ →
        (∀ e, r = .error e → e.isFatal = false) ∧
          (Needs request.run s ∨ Needed earlier start →
            ∃ handles', handles.Extends handles' ∧ s'.database.handles = some (.ok handles'))) ∧
    ∀ uses, afterRequests (uses.map .use) s = afterUses uses s := by
  intro start s
  obtain ⟨hattempts, hfailed⟩ : start.database.attempts = 0 ∧
      ∀ reason, start.database.handles ≠ some (.error reason) :=
    handles_beginning beginning surroundings cache
  refine ⟨attempts_afterRequests hattempts hfailed, ?_, ?_, ?_, fun uses => afterRequests_use uses s⟩
  · exact fun name _ hremembered => exists_runs_tableExists hremembered name
  · exact fun _ _ hremembered => exists_runs_columnsFor hremembered
  intro r s' hrun
  refine ⟨idle_of_not_needs hrun, ?_, fun _ _ hopening => handles_of_works hopening hrun⟩
  intro e db₁ hopening
  obtain ⟨hnone, hconnect⟩ : start.database.handles = none ∧
      start.database.connect = .error e := by
    cases hopening with
    | unavailable hreason => exact absurd hreason (hfailed _)
    | fails hnone hconnect => exact ⟨hnone, hconnect⟩
  exact ⟨error_of_connect hconnect, fun hneeds => (error_of_needs hnone hconnect hrun hneeds).1,
    fun hneeds => (error_of_needs hnone hconnect hrun hneeds).2⟩

end Entity
end RecordAccess
