import RecordAccess.Config.Basic
import RecordAccess.Proofs.Text.FilePath

/-!
# Targets of configurations

A configuration that passes its check should say which file to open. The path of its target has the
components of the path that is written, without the current directory in front. The check asks that a path
is written, but not that something is left of it: a path that goes no further than the current directory
becomes the empty one. `components_of_target` says that no other path does, and that the components stay.
-/

namespace RecordAccess.Config

open FilePath

variable {c : Config} {path : String}

/-- Two computations in a row succeed if the first does, and the second does on its result. -/
lemma exists_of_bind_eq_ok {ε α β : Type} {x : Except ε α} {f : α → Except ε β} {b : β}
    (h : x >>= f = .ok b) : ∃ a, x = .ok a ∧ f a = .ok b := by
  cases x with
  | error e => cases h
  | ok a => exact ⟨a, rfl, h⟩

/-- A required field that is given is one with more than blanks in it. -/
lemma required_some (text name : String) : required (some text) name =
    if (trimChars text.toList).isEmpty then .error (.missingField name) else .ok text := rfl

/-- The text of a field is given as it is written. -/
lemma eq_some_of_required {field : Option String} {name text : String}
    (h : required field name = .ok text) : field = some text := by
  cases field with
  | none => cases h
  | some written =>
    rw [required_some] at h
    split at h
    · cases h
    · exact congrArg some (Except.ok.inj h)

/-- A target on a server has two logins with the texts that are written. -/
lemma exists_texts_of_serverTarget {target : Target} (h : c.serverTarget = .ok target) :
    ∃ host database readUser readPassword writeUser writePassword,
      c.host = some host ∧ c.name = some database ∧
      c.readUser = some readUser ∧ c.readPassword = some readPassword ∧
      c.writeUser = some writeUser ∧ c.writePassword = some writePassword ∧
      target = .sqlServer (c.login host database readUser readPassword)
        (c.login host database writeUser writePassword) := by
  obtain ⟨host, hhost, h⟩ := exists_of_bind_eq_ok h
  obtain ⟨database, hdatabase, h⟩ := exists_of_bind_eq_ok h
  obtain ⟨readUser, hreadUser, h⟩ := exists_of_bind_eq_ok h
  obtain ⟨readPassword, hreadPassword, h⟩ := exists_of_bind_eq_ok h
  obtain ⟨writeUser, hwriteUser, h⟩ := exists_of_bind_eq_ok h
  obtain ⟨writePassword, hwritePassword, h⟩ := exists_of_bind_eq_ok h
  refine ⟨host, database, readUser, readPassword, writeUser, writePassword, ?_⟩
  refine ⟨eq_some_of_required hhost, eq_some_of_required hdatabase, ?_⟩
  refine ⟨eq_some_of_required hreadUser, eq_some_of_required hreadPassword, ?_⟩
  refine ⟨eq_some_of_required hwriteUser, eq_some_of_required hwritePassword, ?_⟩
  exact (Except.ok.inj h).symm

/-- A target with logins is one of SQL Server. -/
lemma backend_of_serverTarget {target : Target} (h : c.serverTarget = .ok target) :
    target.backend = .sqlServer := by
  obtain ⟨_, _, _, _, _, _, -, -, -, -, -, -, rfl⟩ := exists_texts_of_serverTarget h
  rfl

/-- A target in a file is the path that is written, without the current directory in front. -/
lemma exists_path_of_target (h : c.target = .ok (.sqlite path)) :
    ∃ written, c.path = some written ∧ written ≠ "" ∧ path = withoutHere written := by
  unfold target at h
  split at h
  · cases h
  · split at h
    · cases h
    · unfold fileTarget at h
      split at h
      · cases h
      next written hwritten =>
        split at h
        · cases h
        next hempty =>
          obtain rfl := Target.sqlite.inj (Except.ok.inj h)
          refine ⟨written, hwritten, ?_, rfl⟩
          rintro rfl
          exact hempty rfl
    · cases backend_of_serverTarget h

/-- The path of a target has the components of the one that is written, and is empty if that one goes no
further than the current directory. -/
theorem components_of_target (h : c.target = .ok (.sqlite path)) :
    ∃ written, c.path = some written ∧ written ≠ "" ∧
      components path = dropHere (components written) ∧
      (path ≠ "" ↔ components written ≠ [.here]) := by
  obtain ⟨written, hpath, hwritten, rfl⟩ := exists_path_of_target h
  refine ⟨written, hpath, hwritten, components_withoutHere written, ?_⟩
  have hne : components written ≠ [] := fun hnil => hwritten (components_eq_nil_iff.1 hnil)
  rw [ne_eq, ← components_eq_nil_iff, components_withoutHere, dropHere_eq_nil_iff]
  simp [hne]

/-- A file below the current directory is opened without the dot in front. -/
theorem components_of_target_application :
    (Config.sqlite "./data/app.db").target = .ok (.sqlite "data/app.db") ∧
      components "data/app.db" = dropHere (components "./data/app.db") ∧
      ("data/app.db" ≠ "" ↔ components "./data/app.db" ≠ [.here]) := by
  have htarget : (Config.sqlite "./data/app.db").target = .ok (.sqlite "data/app.db") := by
    decide +kernel
  obtain ⟨written, hpath, -, hcomponents, hempty⟩ := components_of_target htarget
  obtain rfl := Option.some_inj.1 hpath
  exact ⟨htarget, hcomponents, hempty⟩

/-- The current directory passes the check and is opened as the empty path. -/
theorem not_nonempty_here :
    ¬ ∀ (c : Config) (path : String), c.target = .ok (.sqlite path) → path ≠ "" := by
  intro h
  have htarget : (Config.sqlite ".").target = .ok (.sqlite "") := by decide +kernel
  exact h _ _ htarget rfl

end RecordAccess.Config
