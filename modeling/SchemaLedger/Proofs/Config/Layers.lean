import SchemaLedger.Config.Resolve
import SchemaLedger.Proofs.Directory.Validity

/-! # The layers of a configuration

Each value comes from the first layer that has it, so what the layers below say makes no difference.
The file is looked at in any case: if it is at fault there is no configuration, even where the layers
above it have all values. -/

namespace SchemaLedger

namespace Task

variable {σ δ ε α : Type} (handle : Handler host σ) (s : σ)

theorem run_adapt (task : Task δ α) (wrap : δ → ε) :
    Program.run handle (task.adapt wrap).run s =
      ((Program.run handle task.run s).1.mapError wrap, (Program.run handle task.run s).2) :=
  Program.run_bind handle task.run _ s

theorem run_lift (p : Program host α) : Program.run handle (ExceptT.lift p : Task ε α).run s =
    (.ok (Program.run handle p s).1, (Program.run handle p s).2) :=
  Program.run_bind handle p _ s

theorem run_readText (path : Path) : Program.run handle (readText path).run s =
    ((handle (.files (.read path)) s).1.bind Files.decode, (handle (.files (.read path)) s).2) := by
  rw [readText, run_bind, run_files]
  rcases handle (.files (.read path)) s with ⟨_ | bytes, after⟩
  · rfl
  · refine (run_ofExcept handle after id (Files.decode bytes)).trans ?_
    cases hdecode : Files.decode bytes <;> simp [Except.bind, Except.mapError, hdecode]

end Task

namespace Config

/-! ## The first layer that has a value -/

/-- The value of the first layer that has one. -/
inductive First {α : Type} : List (Option α) → Option α → Prop
  | nowhere : First [] none
  | here (value : α) (lower : List (Option α)) : First (some value :: lower) (some value)
  | deeper {layers : List (Option α)} {found : Option α} (h : First layers found) :
    First (none :: layers) found

/-- Layers that are alike down to the first that has a value. -/
inductive Agree {α : Type} : List (Option α) → List (Option α) → Prop
  | nowhere : Agree [] []
  | here (value : α) (lower lower' : List (Option α)) :
    Agree (some value :: lower) (some value :: lower')
  | deeper {layers layers' : List (Option α)} (h : Agree layers layers') :
    Agree (none :: layers) (none :: layers')

section First

variable {α : Type} {layers layers' : List (Option α)} {found found' : Option α}

/-- Below the first layer that has a value, the layers make no difference. -/
theorem First.eq_of_agree (h : First layers found) (h' : First layers' found')
    (agree : Agree layers layers') : found = found' := by
  induction agree with
  | nowhere =>
      cases h
      cases h'
      rfl
  | here value lower lower' =>
      cases h
      cases h'
      rfl
  | deeper _ ih =>
      cases h with
      | deeper h =>
          cases h' with
          | deeper h' => exact ih h h'

theorem Agree.refl (layers : List (Option α)) : Agree layers layers := by
  induction layers with
  | nil => exact .nowhere
  | cons layer layers ih =>
      cases layer with
      | none => exact .deeper ih
      | some value => exact .here value layers layers

theorem First.unique (h : First layers found) (h' : First layers found') : found = found' :=
  h.eq_of_agree h' (.refl layers)

theorem First.or (h : First layers found) (layer : Option α) :
    First (layer :: layers) (layer.or found) := by
  cases layer with
  | none => exact .deeper h
  | some value => exact .here value layers

end First

/-! ## Variables -/

/-- What a variable of the environment counts as. One that is not set, is empty or is no text counts
as nothing. -/
inductive Counts : Option Octets → Option String → Prop
  | unset : Counts none none
  | empty : Counts (some []) none
  | garbled {octets : Octets} (h : ∀ text, octets ≠ Text.octets text) : Counts (some octets) none
  | text {text : String} (present : text ≠ "") : Counts (some (Text.octets text)) (some text)

section Variables

variable {setting? : Option Octets} {text? : Option String}

theorem value?_octets {text : String} (present : text ≠ "") :
    Environment.value? (some (Text.octets text)) = some text := by
  simp [Environment.value?, present]

theorem counts_value? (setting? : Option Octets) :
    Counts setting? (Environment.value? setting?) := by
  cases setting? with
  | none => exact .unset
  | some octets =>
      cases htext : Text.ofOctets? octets with
      | none =>
          have hnothing : Environment.value? (some octets) = none := by
            simp [Environment.value?, htext]
          rw [hnothing]
          refine .garbled ?_
          rintro text rfl
          rw [Text.ofOctets?_octets] at htext
          cases htext
      | some text =>
          obtain rfl := Text.octets_of_ofOctets? htext
          by_cases hempty : text = ""
          · subst hempty
            exact .empty
          · rw [value?_octets hempty]
            exact .text hempty

theorem value?_eq_iff : Environment.value? setting? = text? ↔ Counts setting? text? := by
  constructor
  · rintro rfl
    exact counts_value? setting?
  · rintro (_ | _ | garbled | present)
    · rfl
    · rfl
    · next octets =>
        have hnone : Text.ofOctets? octets = none := by
          cases htext : Text.ofOctets? octets with
          | none => rfl
          | some text => exact absurd (Text.octets_of_ofOctets? htext).symm (garbled text)
        simp [Environment.value?, hnone]
    · exact value?_octets present

end Variables

/-! ## Loading -/

/-- A configuration that is to be loaded: what the command line and the environment give, and the
surroundings that answer. -/
structure Attempt (σ : Type) where
  overrides : Overrides
  lookup : String → Option Octets
  handle : Handler host σ
  state : σ

namespace Attempt

variable {σ : Type} (attempt : Attempt σ) (format : Format)

def contents (file : Path) : Except Files.IoError Octets :=
  (attempt.handle (.files (.read file)) attempt.state).1

def outcome : Except Problem Config :=
  (Program.run attempt.handle (loadAs format attempt.overrides (.ofLookup attempt.lookup)).run
    attempt.state).1

/-- The values that the file layer has: those of the file that is given, or else of the default
file. If that is missing there are none. -/
inductive FileHolds : FileValues → Prop
  | given {file : Path} {text : String} {values : FileValues}
    (named : attempt.overrides.file? = some file)
    (read : attempt.contents file = .ok (Text.octets text)) (parsed : format text = some values) :
    FileHolds values
  | default {text : String} {values : FileValues} (unnamed : attempt.overrides.file? = none)
    (read : attempt.contents (.ofText "drift.toml") = .ok (Text.octets text))
    (parsed : format text = some values) : FileHolds values
  | missing (unnamed : attempt.overrides.file? = none)
    (absent : attempt.contents (.ofText "drift.toml") = .error .notFound) : FileHolds .none

/-- A file that is given must be there and be text in the format. The default file may be missing,
but there must be nothing else wrong with it. -/
inductive FileFails : Prop
  | givenUnread {file : Path} (named : attempt.overrides.file? = some file)
    (unread : ∀ text, attempt.contents file ≠ .ok (Text.octets text))
  | givenInvalid {file : Path} {text : String} (named : attempt.overrides.file? = some file)
    (read : attempt.contents file = .ok (Text.octets text)) (invalid : format text = none)
  | defaultUnread (unnamed : attempt.overrides.file? = none)
    (unread : ∀ text, attempt.contents (.ofText "drift.toml") ≠ .ok (Text.octets text))
    (there : attempt.contents (.ofText "drift.toml") ≠ .error .notFound)
  | defaultInvalid {text : String} (unnamed : attempt.overrides.file? = none)
    (read : attempt.contents (.ofText "drift.toml") = .ok (Text.octets text))
    (invalid : format text = none)

/-- Where the migrations may be: the command line, the environment, the file, the default. -/
def dirLayers (values : FileValues) : List (Option Path) :=
  [attempt.overrides.migrationsDir?,
    (Environment.value? (attempt.lookup "DRIFT_MIGRATIONS_DIR")).map .ofText,
    values.migrationsDir?, some (.ofText "migrations")]

/-- Which database the migrations may be for: the command line, two variables, the file. -/
def urlLayers (values : FileValues) : List (Option String) :=
  [attempt.overrides.databaseUrl?, Environment.value? (attempt.lookup "DRIFT_DATABASE_URL"),
    Environment.value? (attempt.lookup "DATABASE_URL"), values.databaseUrl?]

/-! ### The file -/

def fileOutcome : Except Problem FileValues :=
  match attempt.overrides.file? with
  | some file => (Program.run attempt.handle (readGiven format file).run attempt.state).1
  | none => (Program.run attempt.handle (readDefault format).run attempt.state).1

def judged (file : Path) (text : String) : Except Problem FileValues :=
  match format text with
  | some values => .ok values
  | none => .error (.invalid file)

theorem run_parsed (file : Path) (text : String) (s : σ) :
    Program.run attempt.handle (parsed format file text).run s = (judged format file text, s) := by
  rw [parsed, judged]
  cases format text <;> rfl

theorem run_readText (file : Path) : ∃ after,
    Program.run attempt.handle (Task.readText file).run attempt.state =
      ((attempt.contents file).bind Files.decode, after) :=
  ⟨_, Task.run_readText attempt.handle attempt.state file⟩

variable {attempt}

theorem fileOutcome_given {file : Path} (named : attempt.overrides.file? = some file) :
    attempt.fileOutcome format =
      match (attempt.contents file).bind Files.decode with
      | .ok text => judged format file text
      | .error error => .error (.unreadable file error) := by
  obtain ⟨after, hread⟩ := attempt.run_readText file
  rw [fileOutcome, named]
  dsimp only
  rw [readGiven, Task.run_bind, Task.run_adapt, hread]
  cases (attempt.contents file).bind Files.decode with
  | error error => rfl
  | ok text => exact congrArg Prod.fst (attempt.run_parsed format file text after)

theorem fileOutcome_default (unnamed : attempt.overrides.file? = none) :
    attempt.fileOutcome format =
      match (attempt.contents (.ofText "drift.toml")).bind Files.decode with
      | .ok text => judged format defaultFile text
      | .error .notFound => .ok .none
      | .error error => .error (.unreadable defaultFile error) := by
  obtain ⟨after, hread⟩ := attempt.run_readText (.ofText "drift.toml")
  rw [fileOutcome, unnamed]
  dsimp only
  rw [readDefault, Task.run_bind, Task.run_lift, defaultFile, hread]
  cases (attempt.contents (.ofText "drift.toml")).bind Files.decode with
  | error error => cases error <;> rfl
  | ok text => exact congrArg Prod.fst (attempt.run_parsed format defaultFile text after)

theorem bind_decode_eq_ok_iff {answer : Except Files.IoError Octets} {text : String} :
    answer.bind Files.decode = .ok text ↔ answer = .ok (Text.octets text) := by
  constructor
  · exact Directory.eq_octets_of_decode
  · rintro rfl
    simp [Except.bind, Files.decode]

/-- Not text is not the same as not there. -/
theorem bind_decode_eq_notFound_iff {answer : Except Files.IoError Octets} :
    answer.bind Files.decode = .error .notFound ↔ answer = .error .notFound := by
  cases answer with
  | error error => simp [Except.bind]
  | ok bytes =>
      simp only [Except.bind, Files.decode, reduceCtorEq, iff_false]
      cases Text.ofOctets? bytes <;> simp

theorem exists_error_of_unread {file : Path}
    (unread : ∀ text, attempt.contents file ≠ .ok (Text.octets text)) :
    ∃ error, (attempt.contents file).bind Files.decode = .error error := by
  cases hread : (attempt.contents file).bind Files.decode with
  | error error => exact ⟨error, rfl⟩
  | ok text => exact absurd (bind_decode_eq_ok_iff.mp hread) (unread text)

variable {format}

theorem FileHolds.outcome {values : FileValues} (h : attempt.FileHolds format values) :
    attempt.fileOutcome format = .ok values := by
  cases h with
  | given named read parsed =>
      rw [fileOutcome_given format named, bind_decode_eq_ok_iff.mpr read]
      simp [judged, parsed]
  | default unnamed read parsed =>
      rw [fileOutcome_default format unnamed, bind_decode_eq_ok_iff.mpr read]
      simp [judged, parsed]
  | missing unnamed absent =>
      rw [fileOutcome_default format unnamed, bind_decode_eq_notFound_iff.mpr absent]

theorem FileFails.outcome (h : attempt.FileFails format) :
    ∃ problem, attempt.fileOutcome format = .error problem := by
  cases h with
  | @givenUnread file named unread =>
      obtain ⟨error, hread⟩ := exists_error_of_unread unread
      refine ⟨.unreadable file error, ?_⟩
      rw [fileOutcome_given format named, hread]
  | @givenInvalid file text named read invalid =>
      refine ⟨.invalid file, ?_⟩
      rw [fileOutcome_given format named, bind_decode_eq_ok_iff.mpr read]
      simp [judged, invalid]
  | defaultUnread unnamed unread there =>
      obtain ⟨error, hread⟩ := exists_error_of_unread unread
      refine ⟨.unreadable defaultFile error, ?_⟩
      rw [fileOutcome_default format unnamed, hread]
      by_cases habsent : error = .notFound
      · rw [habsent] at hread
        exact absurd (bind_decode_eq_notFound_iff.mp hread) there
      · simp
  | defaultInvalid unnamed read invalid =>
      refine ⟨.invalid defaultFile, ?_⟩
      rw [fileOutcome_default format unnamed, bind_decode_eq_ok_iff.mpr read]
      simp [judged, invalid]

variable (attempt format)

theorem holds_or_fails :
    (∃ values, attempt.FileHolds format values) ∨ attempt.FileFails format := by
  cases hfile : attempt.overrides.file? with
  | some file =>
      by_cases hread : ∃ text, attempt.contents file = .ok (Text.octets text)
      · obtain ⟨text, hread⟩ := hread
        cases hformat : format text with
        | some values => exact .inl ⟨values, .given hfile hread hformat⟩
        | none => exact .inr (.givenInvalid hfile hread hformat)
      · exact .inr (.givenUnread hfile (not_exists.mp hread))
  | none =>
      by_cases hread : ∃ text, attempt.contents (.ofText "drift.toml") = .ok (Text.octets text)
      · obtain ⟨text, hread⟩ := hread
        cases hformat : format text with
        | some values => exact .inl ⟨values, .default hfile hread hformat⟩
        | none => exact .inr (.defaultInvalid hfile hread hformat)
      · by_cases habsent : attempt.contents (.ofText "drift.toml") = .error .notFound
        · exact .inl ⟨_, .missing hfile habsent⟩
        · exact .inr (.defaultUnread hfile (not_exists.mp hread) habsent)

/-! ### The configuration -/

/-- The file is read first, whatever the other layers have. -/
theorem outcome_eq : attempt.outcome format =
    (attempt.fileOutcome format).map (resolve attempt.overrides (.ofLookup attempt.lookup)) := by
  rw [outcome, loadAs, fileOutcome]
  cases attempt.overrides.file? with
  | some file =>
      dsimp only
      rw [Task.run_bind]
      rcases Program.run attempt.handle (readGiven format file).run attempt.state with
        ⟨_ | values, after⟩ <;> rfl
  | none =>
      dsimp only
      rw [Task.run_bind]
      rcases Program.run attempt.handle (readDefault format).run attempt.state with
        ⟨_ | values, after⟩ <;> rfl

theorem first_dirLayers (values : FileValues) : First (attempt.dirLayers values)
    (some (resolve attempt.overrides (.ofLookup attempt.lookup) values).migrationsDir) := by
  have hdefault : First [some defaultDir] (some defaultDir) := .here defaultDir []
  have hlayers := ((hdefault.or values.migrationsDir?).or
    ((Environment.value? (attempt.lookup "DRIFT_MIGRATIONS_DIR")).map .ofText)).or
    attempt.overrides.migrationsDir?
  simpa [dirLayers, resolve, Environment.ofLookup, Environment.migrationsDirName, defaultDir]
    using hlayers

theorem first_urlLayers (values : FileValues) : First (attempt.urlLayers values)
    (resolve attempt.overrides (.ofLookup attempt.lookup) values).databaseUrl? := by
  have hlayers := (((First.nowhere.or values.databaseUrl?).or
    (Environment.value? (attempt.lookup "DATABASE_URL"))).or
    (Environment.value? (attempt.lookup "DRIFT_DATABASE_URL"))).or attempt.overrides.databaseUrl?
  simpa [urlLayers, resolve, Environment.ofLookup, Environment.databaseUrlName,
    Environment.sharedDatabaseUrlName, Option.or_assoc] using hlayers

variable {attempt format}

theorem FileHolds.unique {values values' : FileValues} (h : attempt.FileHolds format values)
    (h' : attempt.FileHolds format values') : values = values' :=
  Except.ok.inj (h.outcome.symm.trans h'.outcome)

/-- A configuration has the values of the first layers that have them. -/
structure Resolves (values : FileValues) (config : Config) : Prop where
  dir : First (attempt.dirLayers values) (some config.migrationsDir)
  url : First (attempt.urlLayers values) config.databaseUrl?

theorem outcome_eq_ok_iff {config : Config} : attempt.outcome format = .ok config ↔
    ∃ values, attempt.FileHolds format values ∧ attempt.Resolves values config := by
  rw [outcome_eq]
  constructor
  · intro h
    obtain ⟨values, holds⟩ | fails := attempt.holds_or_fails format
    · rw [holds.outcome] at h
      cases h
      exact ⟨values, holds, attempt.first_dirLayers values, attempt.first_urlLayers values⟩
    · obtain ⟨problem, hproblem⟩ := fails.outcome
      rw [hproblem] at h
      cases h
  · rintro ⟨values, holds, resolves⟩
    rw [holds.outcome]
    have hdir := (attempt.first_dirLayers values).unique resolves.dir
    have hurl := (attempt.first_urlLayers values).unique resolves.url
    obtain ⟨dir, url?⟩ := config
    cases hdir
    cases hurl
    rfl

theorem outcome_eq_error_iff :
    (∃ problem, attempt.outcome format = .error problem) ↔ attempt.FileFails format := by
  rw [outcome_eq]
  constructor
  · rintro ⟨problem, h⟩
    obtain ⟨values, holds⟩ | fails := attempt.holds_or_fails format
    · rw [holds.outcome] at h
      cases h
    · exact fails
  · intro fails
    obtain ⟨problem, hproblem⟩ := fails.outcome
    exact ⟨problem, by rw [hproblem]; rfl⟩

end Attempt

section Layered

variable {σ τ : Type}

/-- There is no configuration exactly if the file layer is at fault. Otherwise each value comes from
the first layer that has it, so two configurations agree in a value if the layers for it do, down to
the first that has it. -/
theorem load_layered (format : Format) (attempt : Attempt σ) :
    ((∃ problem, attempt.outcome format = .error problem) ↔ attempt.FileFails format) ∧
    (∀ config, attempt.outcome format = .ok config ↔ ∃ values,
      attempt.FileHolds format values ∧
      First (attempt.dirLayers values) (some config.migrationsDir) ∧
      First (attempt.urlLayers values) config.databaseUrl?) ∧
    (∀ setting? text?, Environment.value? setting? = text? ↔ Counts setting? text?) ∧
    ∀ (other : Attempt τ) (config config' : Config) (values values' : FileValues),
      attempt.outcome format = .ok config → attempt.FileHolds format values →
      other.outcome format = .ok config' → other.FileHolds format values' →
      (Agree (attempt.dirLayers values) (other.dirLayers values') →
        config.migrationsDir = config'.migrationsDir) ∧
      (Agree (attempt.urlLayers values) (other.urlLayers values') →
        config.databaseUrl? = config'.databaseUrl?) := by
  refine ⟨Attempt.outcome_eq_error_iff, fun config => ?_, fun _ _ => value?_eq_iff, ?_⟩
  · rw [Attempt.outcome_eq_ok_iff]
    constructor
    · rintro ⟨values, holds, resolves⟩
      exact ⟨values, holds, resolves.dir, resolves.url⟩
    · rintro ⟨values, holds, hdir, hurl⟩
      exact ⟨values, holds, hdir, hurl⟩
  · intro other config config' values values' hconfig holds hconfig' holds'
    obtain ⟨_, hfound, resolves⟩ := Attempt.outcome_eq_ok_iff.mp hconfig
    obtain ⟨_, hfound', resolves'⟩ := Attempt.outcome_eq_ok_iff.mp hconfig'
    obtain rfl := hfound.unique holds
    obtain rfl := hfound'.unique holds'
    exact ⟨fun agree => Option.some.inj (resolves.dir.eq_of_agree resolves'.dir agree),
      fun agree => resolves.url.eq_of_agree resolves'.url agree⟩

end Layered

/-! ## Attempts that share a variable -/

def sharing (overrides : Overrides) (url? : Option Octets) (files : List (Name × String)) :
    Attempt Unit where
  overrides := overrides
  lookup name :=
    if name = "DATABASE_URL" then some (Text.octets "postgres://shared")
    else if name = "DRIFT_DATABASE_URL" then url? else none
  handle := Files.Sight.handler
    (.ofTree ⟨files.map fun (name, text) => ([name], .file (Text.octets text)), []⟩)
  state := ()

def sparse : Attempt Unit := sharing ⟨none, none, none⟩ none []

def fullFile : String := "migrations-dir = 'db'\ndatabase-url = 'postgres://file'\n"

/-- An empty flag, an empty variable, and a file that has both values. -/
def crowded : Attempt Unit :=
  sharing ⟨some (.ofText "c"), some (.ofText ""), none⟩ (some []) [(Text.octets "c", fullFile)]

def strangeFile : String := "migration-dir = 'db'"

/-- Flags for all values, and a file with a key that is not known. -/
def spoilt : Attempt Unit :=
  sharing ⟨some (.ofText "c"), some (.ofText "db"), some "postgres://flag"⟩ none
    [(Text.octets "c", strangeFile)]

/-- In the second attempt the file is below the variable, and its empty variable counts for nothing.
To the third attempt its flags are of no use. -/
theorem load_layered_sharing :
    sparse.outcome FileValues.parse = .ok ⟨.ofText "migrations", some "postgres://shared"⟩ ∧
    crowded.outcome FileValues.parse = .ok ⟨.ofText "", some "postgres://shared"⟩ ∧
    (sparse.FileHolds FileValues.parse .none ∧
      crowded.FileHolds FileValues.parse ⟨some (.ofText "db"), some "postgres://file"⟩ ∧
      Agree (sparse.urlLayers .none)
        (crowded.urlLayers ⟨some (.ofText "db"), some "postgres://file"⟩) ∧
      ∀ config config', sparse.outcome FileValues.parse = .ok config →
        crowded.outcome FileValues.parse = .ok config' →
        config.databaseUrl? = config'.databaseUrl?) ∧
    ∃ problem, spoilt.outcome FileValues.parse = .error problem := by
  have hread : crowded.contents (.ofText "c") = .ok (Text.octets fullFile) := by decide
  have hspoilt : spoilt.contents (.ofText "c") = .ok (Text.octets strangeFile) := by decide
  have hsparse : sparse.FileHolds FileValues.parse .none := .missing rfl (by decide)
  have hcrowded : crowded.FileHolds FileValues.parse
      ⟨some (.ofText "db"), some "postgres://file"⟩ := .given rfl hread (by decide)
  have hurls : sparse.urlLayers .none = [none, none, some "postgres://shared", none] := by decide
  have hurls' : crowded.urlLayers ⟨some (.ofText "db"), some "postgres://file"⟩ =
      [none, none, some "postgres://shared", some "postgres://file"] := by decide
  obtain ⟨_, sparseLoads, _, shares⟩ := load_layered (τ := Unit) FileValues.parse sparse
  obtain ⟨_, crowdedLoads, _, _⟩ := load_layered (τ := Unit) FileValues.parse crowded
  obtain ⟨spoiltFails, _, _, _⟩ := load_layered (τ := Unit) FileValues.parse spoilt
  have hagree : Agree (sparse.urlLayers .none)
      (crowded.urlLayers ⟨some (.ofText "db"), some "postgres://file"⟩) := by
    rw [hurls, hurls']
    exact .deeper (.deeper (.here _ _ _))
  refine ⟨(sparseLoads _).mpr ⟨_, hsparse, ?_, ?_⟩, (crowdedLoads _).mpr ⟨_, hcrowded, ?_, ?_⟩,
    ⟨hsparse, hcrowded, hagree, ?_⟩, spoiltFails.mpr (.givenInvalid rfl hspoilt (by decide))⟩
  · exact .deeper (.deeper (.deeper (.here _ _)))
  · rw [hurls]
    exact .deeper (.deeper (.here _ _))
  · exact .here _ _
  · rw [hurls']
    exact .deeper (.deeper (.here _ _))
  · intro config config' hconfig hconfig'
    exact (shares crowded config config' _ _ hconfig hsparse hconfig' hcrowded).2 hagree

end Config

end SchemaLedger
