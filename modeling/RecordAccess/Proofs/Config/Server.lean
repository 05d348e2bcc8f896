import RecordAccess.Error
import RecordAccess.Proofs.Config.Target
import RecordAccess.Proofs.Text.Blank
import RecordAccess.Proofs.Text.Lowered

/-!
# Logins to a server

A configuration whose type names SQL Server becomes a login for reading and one for writing. The six texts
that they need are asked for one after another (`asked_serverTarget`), so that the first one that is missing
or blank is the one that is reported. Where none is missing, the logins have their own users and passwords
and share all else (`logins_of_serverTarget`). `checksServer_of_spellsName` puts both together; neither the
file of a SQLite database nor the credentials of the other login have a part in it.

The type is read in any letter case and between blanks. `ofText_eq_sqlServer_iff` says that no other text
names SQL Server, also none with letters beyond ASCII.
-/

namespace RecordAccess

/-- A text that spells a name in any letter case, with blanks around it. -/
def SpellsName (name text : String) : Prop :=
  ∃ l word r, text.toList = l ++ word ++ r ∧ Blank l ∧ Blank r ∧
    word.map Char.toLower = name.toList

/-- A name that is compared with lowercase texts: small letters of ASCII, but for the k, which is the
lowercase form of two capitals. -/
def IsPlainName (name : String) : Prop :=
  ∀ d ∈ name.toList, IsSmall d ∧ isBlank d = false ∧ d.toNat < 128 ∧ d ≠ 'k'

instance (name : String) : Decidable (IsPlainName name) :=
  List.decidableBAll (fun d => IsSmall d ∧ isBlank d = false ∧ d.toNat < 128 ∧ d ≠ 'k') name.toList

/-- A text has a plain name as its lowercase form if it is the name but for capitals of ASCII. -/
lemma lowercase_eq_iff {name : String} (hname : IsPlainName name) {cs : List Char} :
    lowercase (String.ofList cs) = name ↔ cs.map Char.toLower = name.toList := by
  constructor
  · intro h
    have hlower : LetterCase.lowerAfter [] cs = name.toList := by
      rw [← h, lowercase, String.toList_ofList, String.toList_ofList]
    rw [← hlower]
    exact map_toLower_eq_lowerAfter fun d hd => (hname d (hlower ▸ hd)).2.2
  · intro h
    rw [← lowercase_map_toLower, h, lowercase, String.toList_ofList,
      lowerAfter_of_small fun d hd => (hname d hd).1, String.ofList_toList]

/-- A text without the blanks around it has a plain name as its lowercase form if it spells the name. -/
lemma lowercase_trim_eq_iff {name text : String} (hname : IsPlainName name) :
    lowercase (trim text) = name ↔ SpellsName name text := by
  rw [trim, lowercase_eq_iff hname]
  constructor
  · intro h
    obtain ⟨l, r, hl, hr, htext⟩ := exists_eq_append_trimChars text.toList
    exact ⟨l, _, r, htext, hl, hr, h⟩
  · rintro ⟨l, word, r, htext, hl, hr, hword⟩
    have hbare : Bare word := bare_of_forall fun c hc => by
      obtain ⟨-, hblank, -⟩ := hname c.toLower (hword ▸ List.mem_map_of_mem hc)
      rwa [isBlank_toLower] at hblank
    rwa [htext, trimChars_append hl hr, hbare.trimChars_eq]

/-- The texts that name SQL Server. -/
lemma Backend.ofText_eq_sqlServer_iff {text : String} :
    Backend.ofText text = .ok .sqlServer ↔ SpellsName "sqlserver" text ∨ SpellsName "mssql" text := by
  have hserver : IsPlainName "sqlserver" := by decide +kernel
  have hmssql : IsPlainName "mssql" := by decide +kernel
  rw [← lowercase_trim_eq_iff hserver, ← lowercase_trim_eq_iff hmssql, Backend.ofText]
  split
  next hnames => exact iff_of_true rfl hnames
  next hnames =>
    refine iff_of_false ?_ hnames
    split
    · nofun
    · nofun

namespace Config

variable {c : Config} {target : Target} {login login' : Login}

/-- A field that holds more than blanks. -/
def Filled (field : Option String) : Prop := ∃ text, field = some text ∧ ¬ Blank text.toList

/-- The first field of a list that is not filled in, by its name. -/
inductive FirstMissing : List (String × Option String) → String → Prop
  | here {name field fields} : ¬ Filled field → FirstMissing ((name, field) :: fields) name
  | later {name field fields first} : Filled field → FirstMissing fields first →
      FirstMissing ((name, field) :: fields) first

/-- What comes of asking for fields in order: a result if all are filled in, or else the name of the
first missing one. -/
inductive Asked {α : Type} (fields : List (String × Option String)) : Except ConfigFault α → Prop
  | filled {a} : (∀ field ∈ fields, Filled field.2) → Asked fields (.ok a)
  | missing {name} : FirstMissing fields name → Asked fields (.error (.missingField name))

/-- The fields that a server needs, in the order in which they are asked for. -/
def serverFields (c : Config) : List (String × Option String) :=
  [("host", c.host), ("name", c.name), ("username_r", c.readUser), ("password_r", c.readPassword),
    ("username_w", c.writeUser), ("password_w", c.writePassword)]

section Fields
variable {α : Type} {name : String} {field : Option String} {fields : List (String × Option String)}
  {outcome : Except ConfigFault α}

/-- A filled field before the others leaves the outcome of asking for them. -/
lemma Asked.cons (hfilled : Filled field) (h : Asked fields outcome) :
    Asked ((name, field) :: fields) outcome := by
  cases h with
  | filled hall => exact .filled (List.forall_mem_cons.2 ⟨hfilled, hall⟩)
  | missing hmissing => exact .missing (.later hfilled hmissing)

/-- A field is asked for before the fields that come next. -/
lemma asked_cons {f : String → Except ConfigFault α} (h : ∀ text, Asked fields (f text)) :
    Asked ((name, field) :: fields) (required field name >>= f) := by
  cases field with
  | none => exact .missing (.here (by rintro ⟨text, ⟨⟩, -⟩))
  | some text =>
    rw [required_some]
    split
    next hempty =>
      refine .missing (.here ?_)
      rintro ⟨_, ⟨⟩, hfilled⟩
      exact hfilled (trimChars_eq_nil_iff.1 (List.isEmpty_iff.1 hempty))
    next hne =>
      refine (h text).cons ⟨text, rfl, fun hblank => hne ?_⟩
      exact List.isEmpty_iff.2 (trimChars_eq_nil_iff.2 hblank)

/-- The logins of a configuration come of asking for the fields that a server needs, in their order. -/
lemma asked_serverTarget (c : Config) : Asked c.serverFields c.serverTarget := by
  -- one step for each field, in the order of the list
  refine asked_cons fun host => asked_cons fun database => ?_
  refine asked_cons fun readUser => asked_cons fun readPassword => ?_
  refine asked_cons fun writeUser => asked_cons fun writePassword => ?_
  exact .filled nofun

/-- If some field is the first missing one, not all are filled in. -/
lemma FirstMissing.not_filled (h : FirstMissing fields name) : ¬ ∀ field ∈ fields, Filled field.2 := by
  induction h with
  | here hmissing => exact fun hall => hmissing (hall _ List.mem_cons_self)
  | later _ _ ih => exact fun hall => ih (List.forall_mem_cons.1 hall).2

/-- To ask for fields succeeds if and only if all are filled in. -/
lemma Asked.exists_ok_iff (h : Asked fields outcome) :
    (∃ a, outcome = .ok a) ↔ ∀ field ∈ fields, Filled field.2 := by
  cases h with
  | filled hall => exact iff_of_true ⟨_, rfl⟩ hall
  | missing hmissing => exact iff_of_false (by rintro ⟨_, ⟨⟩⟩) hmissing.not_filled

/-- If not all fields are filled in, asking fails with the name of the first missing one. -/
lemma Asked.exists_firstMissing (h : Asked fields outcome)
    (hfields : ¬ ∀ field ∈ fields, Filled field.2) :
    ∃ name, FirstMissing fields name ∧ outcome = .error (.missingField name) := by
  cases h with
  | filled hall => exact absurd hall hfields
  | missing hmissing => exact ⟨_, hmissing, rfl⟩

end Fields

/-- A login with some user and password, and all else as the configuration has it. -/
structure LoginOf (c : Config) (user password : Option String) (login : Login) : Prop where
  user_eq : user = some login.user
  password_eq : password = some login.password
  host_eq : c.host = some login.host
  port_eq : login.port = c.port.getD 1433
  database_eq : c.name = some login.database
  encrypt_eq : login.encrypt = c.encrypt
  trustCertificate_eq : login.trustCertificate = c.trustCertificate

/-- A configuration has one login with some user and password. -/
lemma LoginOf.unique {user password : Option String} (h : c.LoginOf user password login)
    (h' : c.LoginOf user password login') : login = login' := by
  have huser := Option.some_inj.1 (h.user_eq.symm.trans h'.user_eq)
  have hpassword := Option.some_inj.1 (h.password_eq.symm.trans h'.password_eq)
  have hhost := Option.some_inj.1 (h.host_eq.symm.trans h'.host_eq)
  have hport := h.port_eq.trans h'.port_eq.symm
  have hdatabase := Option.some_inj.1 (h.database_eq.symm.trans h'.database_eq)
  have hencrypt := h.encrypt_eq.trans h'.encrypt_eq.symm
  have htrust := h.trustCertificate_eq.trans h'.trustCertificate_eq.symm
  cases login
  cases login'
  exact (Login.mk.injEq ..).mpr ⟨hhost, hport, huser, hpassword, hdatabase, hencrypt, htrust⟩

/-- The logins of a target have the users and passwords that are written for them. -/
lemma logins_of_serverTarget (h : c.serverTarget = .ok target) :
    ∃ read write, target = .sqlServer read write ∧
      c.LoginOf c.readUser c.readPassword read ∧ c.LoginOf c.writeUser c.writePassword write := by
  obtain ⟨host, database, _, _, _, _, hhost, hdatabase, hreadUser, hreadPassword, hwriteUser,
    hwritePassword, rfl⟩ := exists_texts_of_serverTarget h
  have hlogin {user password : String} {user? password? : Option String}
      (huser : user? = some user) (hpassword : password? = some password) :
      c.LoginOf user? password? (c.login host database user password) :=
    ⟨huser, hpassword, hhost, rfl, hdatabase, rfl, rfl⟩
  exact ⟨_, _, rfl, hlogin hreadUser hreadPassword, hlogin hwriteUser hwritePassword⟩

/-- The check of a configuration for SQL Server. -/
structure ChecksServer (c : Config) : Prop where
  /-- It passes if all fields are filled in. -/
  accepted : (∃ target, c.target = .ok target) ↔ ∀ field ∈ c.serverFields, Filled field.2
  /-- The error is one in the configuration, and names the first field that is not. -/
  refused : ¬ (∀ field ∈ c.serverFields, Filled field.2) →
    ∃ name, FirstMissing c.serverFields name ∧ c.target = .error (.missingField name) ∧
      (Error.config (.missingField name)).message = "bad db config: missing `" ++ name ++ "`"
  /-- The target has a login for reading and one for writing. -/
  logins : ∀ target, c.target = .ok target → ∃ read write, target = .sqlServer read write ∧
    c.LoginOf c.readUser c.readPassword read ∧ c.LoginOf c.writeUser c.writePassword write
  /-- The file of a SQLite database has no part in it. -/
  anyPath : ∀ path, { c with path }.target = c.target
  /-- The credentials for writing have no part in the login for reading. -/
  readAlone : ∀ writeUser writePassword read write read' write',
    c.target = .ok (.sqlServer read write) →
    { c with writeUser, writePassword }.target = .ok (.sqlServer read' write') → read' = read
  /-- The credentials for reading have no part in the login for writing. -/
  writeAlone : ∀ readUser readPassword read write read' write',
    c.target = .ok (.sqlServer read write) →
    { c with readUser, readPassword }.target = .ok (.sqlServer read' write') → write' = write

/-- A text between grave accents is written out. -/
lemma graveQuoted_eq (text : String) : ConfigFault.message.graveQuoted text = "`" ++ text ++ "`" := by
  apply String.toList_inj.1
  rw [ConfigFault.message.graveQuoted, String.toList_ofList, String.toList_append, String.toList_append]
  rfl

/-- The message on a missing field names it between grave accents. -/
lemma message_missingField (name : String) :
    (Error.config (.missingField name)).message = "bad db config: missing `" ++ name ++ "`" := by
  have hopening : "bad db config: " ++ "missing " ++ "`" = "bad db config: missing `" := by decide
  show "bad db config: " ++ ("missing " ++ ConfigFault.message.graveQuoted name) = _
  rw [graveQuoted_eq, ← String.append_assoc, ← String.append_assoc, ← String.append_assoc, hopening]

/-- A configuration that names SQL Server has the target of its logins. -/
lemma target_eq_serverTarget {text : String} (htype : c.type = some text)
    (hserver : Backend.ofText text = .ok .sqlServer) : c.target = c.serverTarget := by
  simp only [Config.target, htype, hserver]

/-- A configuration that names SQL Server has complete logins or a missing field, and no credentials of one
login get into the other. -/
theorem checksServer_of_spellsName {text : String} (htype : c.type = some text)
    (hname : SpellsName "sqlserver" text ∨ SpellsName "mssql" text) : ChecksServer c := by
  have hserver := Backend.ofText_eq_sqlServer_iff.2 hname
  have htarget (c' : Config) (htype' : c'.type = c.type) : c'.target = c'.serverTarget :=
    target_eq_serverTarget (htype'.trans htype) hserver
  have hlogins (c' : Config) (htype' : c'.type = c.type) {read write : Login}
      (h : c'.target = .ok (.sqlServer read write)) :
      c'.LoginOf c'.readUser c'.readPassword read ∧ c'.LoginOf c'.writeUser c'.writePassword write := by
    rw [htarget c' htype'] at h
    obtain ⟨_, _, ⟨⟩, hboth⟩ := logins_of_serverTarget h
    exact hboth
  have hasked : Asked c.serverFields c.target := htarget c rfl ▸ asked_serverTarget c
  refine ⟨hasked.exists_ok_iff, ?_, ?_, ?_, ?_, ?_⟩
  · intro hmissing
    obtain ⟨name, hname, herror⟩ := hasked.exists_firstMissing hmissing
    exact ⟨name, hname, herror, message_missingField name⟩
  · intro target h
    rw [htarget c rfl] at h
    exact logins_of_serverTarget h
  · intro path
    rw [htarget c rfl, htarget { c with path } rfl]
    rfl
  · intro writeUser writePassword read write read' write' h h'
    obtain ⟨hread', -⟩ := hlogins { c with writeUser, writePassword } rfl h'
    exact LoginOf.unique (c := c) { hread' with } (hlogins c rfl h).1
  · intro readUser readPassword read write read' write' h h'
    obtain ⟨-, hwrite'⟩ := hlogins { c with readUser, readPassword } rfl h'
    exact LoginOf.unique (c := c) { hwrite' with } (hlogins c rfl h).2

/-- A shop on a server that is reached over the standard port. -/
def shopServer : Config where
  type := some " MsSQL\t"
  path := some "shop.db"
  host := some "db.local"
  port := none
  name := some "shop"
  readUser := some "reader"
  readPassword := some "r-secret"
  writeUser := some "writer"
  writePassword := some "w-secret"
  encrypt := true
  trustCertificate := false

/-- The server of the shop is read with one login and written with the other. -/
theorem checksServer_shopServer :
    shopServer.type = some " MsSQL\t" ∧ SpellsName "mssql" " MsSQL\t" ∧
      shopServer.target = .ok (.sqlServer
        ⟨"db.local", 1433, "reader", "r-secret", "shop", true, false⟩
        ⟨"db.local", 1433, "writer", "w-secret", "shop", true, false⟩) ∧
      ChecksServer shopServer := by
  have hspelled : SpellsName "mssql" " MsSQL\t" :=
    ⟨[' '], "MsSQL".toList, ['\t'], by decide, by decide, by decide, by decide⟩
  exact ⟨rfl, hspelled, by decide +kernel, checksServer_of_spellsName rfl (.inr hspelled)⟩

-- of two fields that are not filled in the earlier one is named
example : { shopServer with readPassword := none, writeUser := some " \t" }.target =
    .error (.missingField "password_r") := by
  decide +kernel

end Config
end RecordAccess
