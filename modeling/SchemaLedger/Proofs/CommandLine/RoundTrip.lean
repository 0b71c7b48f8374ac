import SchemaLedger.Proofs.CommandLine.Line

/-! # Writing out command lines

An invocation can be written out in many ways: each of its global options may stand before the
command or after it, the options at each place have no order, and most have several spellings. All of
them are read as that invocation. -/

namespace SchemaLedger.CommandLine

open Setting (putAll)

/-! ## The two places of an invocation -/

/-- The options that are allowed before the command and after it. -/
inductive Global where
  | migrationsDir
  | config
  | verbose
  | quiet
  deriving DecidableEq, Repr

namespace Command

def verb : Command → Verb
  | .migrate _ _ => .migrate
  | .new _ _ _ => .new
  | .setup => .setup
  | .renumber _ => .renumber

def options : Command → Given
  | .migrate databaseUrl? limit? =>
    { Given.none with databaseUrl? := databaseUrl?, limit? := limit? }
  | .new slug id? template? =>
    { Given.none with slug? := some slug, id? := id?, template? := template? }
  | .setup => .none
  | .renumber write => { Given.none with write := write }

end Command

namespace Invocation

/-- Some of the global options, beside other options. -/
def share (cli : Invocation) (chosen : Global → Bool) (given : Given) : Given :=
  { given with
    migrationsDir? := if chosen .migrationsDir then cli.migrationsDir? else none
    config? := if chosen .config then cli.config? else none
    verbose := if chosen .verbose then cli.verbose else 0
    quiet := chosen .quiet && cli.quiet }

/-- What is said before the command, given which of the global options come first. -/
def before (cli : Invocation) (early : Global → Bool) : Given := cli.share early .none

def after (cli : Invocation) (early : Global → Bool) : Given :=
  cli.share (fun option => !early option) cli.command.options

/-- Whether an invocation can be written out: no path is empty, `verbose` can be counted, and
`quiet` excludes it. -/
structure Writable (cli : Invocation) : Prop where
  migrationsDir : ∀ path ∈ cli.migrationsDir?, path.octets ≠ []
  config : ∀ path ∈ cli.config?, path.octets ≠ []
  template : ∀ path ∈ cli.command.options.template?, path.octets ≠ []
  verbose : cli.verbose ≤ Given.mostVerbose
  quiet : cli.quiet = true → cli.verbose = 0

end Invocation

/-- The ways of writing out an invocation: all that is to be said at each place, in any order and in
any spelling. -/
inductive Writes (cli : Invocation) (early : Global → Bool) : List Octets → Prop
  | intro {options rest : List Octets} {word : Octets} {front back : List Setting}
    (command : verb? word = some cli.command.verb)
    (first : Says none options front) (second : Says (some cli.command.verb) rest back)
    (firstAll : front.Perm (cli.before early).settings)
    (secondAll : back.Perm (cli.after early).settings) :
    Writes cli early (options ++ word :: rest)

section Places

variable {cli : Invocation} {early : Global → Bool} {arguments : List Octets}

theorem invocation_places (cli : Invocation) (early : Global → Bool) :
    invocation cli.command.verb (cli.before early) (cli.after early) = cli := by
  obtain ⟨migrationsDir?, config?, verbose, quiet, command⟩ := cli
  rw [invocation, Invocation.mk.injEq]
  refine ⟨?_, ?_, ?_, ?_, ?_⟩
  · change (if !early .migrationsDir then migrationsDir? else none).or
      (if early .migrationsDir then migrationsDir? else none) = migrationsDir?
    cases early .migrationsDir <;> simp
  · change (if !early .config then config? else none).or
      (if early .config then config? else none) = config?
    cases early .config <;> simp
  · change (if (if !early .verbose then verbose else 0) = 0 then
      if early .verbose then verbose else 0 else if !early .verbose then verbose else 0) = verbose
    cases early .verbose <;> simp
    omega
  · change (!early .quiet && quiet || early .quiet && quiet) = quiet
    cases early .quiet <;> simp
  · cases command <;> rfl

theorem together_places (writable : cli.Writable) (early : Global → Bool) :
    Together cli.command.verb (cli.before early) (cli.after early) := by
  have hshare : ∀ chosen given, (cli.share chosen given).quiet = true →
      (cli.share chosen given).verbose = 0 := by
    intro chosen given hquiet
    have h : cli.quiet = true := (Bool.and_eq_true_iff.mp hquiet).2
    simp [Invocation.share, writable.quiet h]
  refine ⟨?_, hshare _ _, hshare _ _⟩
  intro hnew
  cases hcommand : cli.command with
  | new slug id? template? => simp [Invocation.after, Invocation.share, hcommand, Command.options]
  | migrate | setup | renumber =>
      rw [hcommand] at hnew
      cases hnew

theorem verbose_share (writable : cli.Writable) (chosen : Global → Bool) (given : Given) :
    (cli.share chosen given).verbose ≤ 255 := by
  have hverbose :
      (cli.share chosen given).verbose = if chosen .verbose then cli.verbose else 0 := rfl
  rw [hverbose]
  split
  · exact writable.verbose
  · exact Nat.zero_le 255

theorem read_of_writes (writable : cli.Writable) (writes : Writes cli early arguments) :
    read arguments = .ok cli := by
  obtain @⟨options, rest, word, front, back, command, first, second, firstAll, secondAll⟩ := writes
  have line : Line cli.command.verb (cli.before early) (cli.after early)
      (options ++ word :: (rest ++ [])) :=
    .intro command (.inl rfl) first second (fit_of_perm firstAll) (fit_of_perm secondAll)
      (putAll_of_perm (verbose_share writable _ _) firstAll)
      (putAll_of_perm (verbose_share writable _ _) secondAll)
  rw [List.append_nil] at line
  exact read_eq_ok_iff.mpr
    ⟨_, _, _, line, together_places writable early, (invocation_places cli early).symm⟩

end Places

/-! ## One argument for each setting -/

namespace Setting

/-- A setting in one argument: an option with its value after an equals sign, a flag by its letter if
it has one. -/
def argument : Setting → Octets
  | migrationsDir path => attached (Text.octets Key.migrationsDir.name) path.octets
  | config path => attached (Text.octets Key.config.name) path.octets
  | databaseUrl url => attached (Text.octets Key.databaseUrl.name) (Text.octets url)
  | limit last => attached (Text.octets Key.limit.name) (Text.octets last.text)
  | slug text => attached (Text.octets Key.slug.name) (Text.octets text)
  | id chosen => attached (Text.octets Key.id.name) (Text.octets chosen.text)
  | template path => attached (Text.octets Key.template.name) path.octets
  | verbose => Text.octets "-v"
  | quiet => Text.octets "-q"
  | write => alone (Text.octets Flag.write.name)

def path? : Setting → Option Path
  | migrationsDir path | config path | template path => some path
  | _ => none

end Setting

section Arguments

variable {cli : Invocation} {early : Global → Bool} {place : Option Verb} {s : Setting}
  {rest : List Octets} {settings : List Setting}

theorem says_argument (allowed : allows place s.option = true)
    (present : ∀ path ∈ s.path?, path.octets ≠ []) (others : Says place rest settings) :
    Says place (s.argument :: rest) (s :: settings) := by
  have hident (id : Ident) : Ident.parse id.text = .ok id := by
    have hparse := Ident.parse_padded 0 id
    rw [Decimal.padded, Nat.zero_sub] at hparse
    exact hparse
  cases s with
  | migrationsDir path => exact .attached allowed (.migrationsDir (present path rfl)) others
  | config path => exact .attached allowed (.config (present path rfl)) others
  | databaseUrl url => exact .attached allowed (.databaseUrl url) others
  | limit last => exact .attached allowed (.limit (hident last)) others
  | slug text => exact .attached allowed (.slug text) others
  | id chosen => exact .attached allowed (.id (hident chosen)) others
  | template path => exact .attached allowed (.template (present path rfl)) others
  | verbose =>
      have letter := @Letter.intro place .verbose 'v' 0x76 .verbose allowed rfl rfl rfl
      exact .letters (List.cons_ne_nil 0x76 []) (.cons letter .nil) others
  | quiet =>
      have letter := @Letter.intro place .quiet 'q' 0x71 .quiet allowed rfl rfl rfl
      exact .letters (List.cons_ne_nil 0x71 []) (.cons letter .nil) others
  | write => exact .flag allowed rfl others

theorem says_arguments (allowed : ∀ s ∈ settings, allows place s.option = true)
    (present : ∀ s ∈ settings, ∀ path ∈ s.path?, path.octets ≠ []) :
    Says place (settings.map Setting.argument) settings := by
  induction settings with
  | nil => exact .nil
  | cons s settings ih =>
      have others := ih (fun t ht => allowed t (List.mem_cons_of_mem s ht))
        (fun t ht => present t (List.mem_cons_of_mem s ht))
      exact says_argument (allowed s List.mem_cons_self) (present s List.mem_cons_self) others

theorem allows_before (h : s ∈ (cli.before early).settings) : allows none s.option = true := by
  have hin := Given.mem_settings.mp h
  cases s with
  | migrationsDir | config | verbose | quiet => rfl
  | databaseUrl | limit | slug | id | template | write => cases hin

theorem allows_after (h : s ∈ (cli.after early).settings) :
    allows (some cli.command.verb) s.option = true := by
  have hin := Given.mem_settings.mp h
  obtain ⟨migrationsDir?, config?, verbose, quiet, command⟩ := cli
  cases s with
  | migrationsDir | config | verbose | quiet => cases command <;> rfl
  | databaseUrl | limit | slug | id | template | write =>
      cases command <;> first | rfl | cases hin

theorem present_share {chosen : Global → Bool} {given : Given} (writable : cli.Writable)
    (template : ∀ path ∈ given.template?, path.octets ≠ [])
    (h : s ∈ (cli.share chosen given).settings) : ∀ path ∈ s.path?, path.octets ≠ [] := by
  have hin := Given.mem_settings.mp h
  intro path hpath
  cases s with
  | migrationsDir =>
      cases hpath
      have hchosen : (if chosen .migrationsDir then cli.migrationsDir? else none) = some path := hin
      exact writable.migrationsDir path (Option.ite_none_right_eq_some.mp hchosen).2
  | config =>
      cases hpath
      have hchosen : (if chosen .config then cli.config? else none) = some path := hin
      exact writable.config path (Option.ite_none_right_eq_some.mp hchosen).2
  | template =>
      cases hpath
      exact template path hin
  | _ => cases hpath

theorem writes_arguments (writable : cli.Writable) {word : Octets} {front back : List Setting}
    (command : verb? word = some cli.command.verb)
    (firstAll : front.Perm (cli.before early).settings)
    (secondAll : back.Perm (cli.after early).settings) :
    Writes cli early (front.map Setting.argument ++ word :: back.map Setting.argument) := by
  have hnone : ∀ path ∈ Given.none.template?, path.octets ≠ [] := fun _ h => by cases h
  have first : Says none (front.map Setting.argument) front :=
    says_arguments (fun s hs => allows_before (firstAll.mem_iff.mp hs))
      (fun s hs => present_share writable hnone (firstAll.mem_iff.mp hs))
  have second : Says (some cli.command.verb) (back.map Setting.argument) back :=
    says_arguments (fun s hs => allows_after (secondAll.mem_iff.mp hs))
      (fun s hs => present_share writable writable.template (secondAll.mem_iff.mp hs))
  exact ⟨command, first, second, firstAll, secondAll⟩

end Arguments

/-! ## The round trip -/

/-- However an invocation is written out, with its global options before the command or after it, all
options in any order and in any spelling, it is read back; one argument for each option is such a way
for every invocation. So no two ways are read differently. What overrides the configuration is what
was written, the URL only of `migrate`. And an ID that has been read from any arguments is the one
that the text given for it spells. -/
theorem read_back :
    (∀ (cli : Invocation) (early : Global → Bool) (word : Octets) (front back : List Setting),
      cli.Writable → verb? word = some cli.command.verb →
      front.Perm (cli.before early).settings → back.Perm (cli.after early).settings →
        read (front.map Setting.argument ++ word :: back.map Setting.argument) = .ok cli) ∧
    (∀ (cli : Invocation) (early : Global → Bool) (arguments : List Octets),
      cli.Writable → Writes cli early arguments → read arguments = .ok cli) ∧
    (∀ (cli : Invocation) (early early' : Global → Bool) (arguments arguments' : List Octets),
      cli.Writable → Writes cli early arguments → Writes cli early' arguments' →
        read arguments = read arguments') ∧
    (∀ cli : Invocation, cli.overrides.file? = cli.config? ∧
      cli.overrides.migrationsDir? = cli.migrationsDir? ∧
      ∀ url, cli.overrides.databaseUrl? = some url ↔
        ∃ limit?, cli.command = .migrate (some url) limit?) ∧
    (∀ (arguments : List Octets) (cli : Invocation), read arguments = .ok cli →
      (∀ key id, cli.command.ident? key = some id →
        ∃ text, Gives key (Text.octets text) arguments ∧ Ident.parse text = .ok id) ∧
      ∀ key value, key = .id ∨ key = .limit → Gives key value arguments →
        ∃ text id, value = Text.octets text ∧ Ident.parse text = .ok id ∧
          cli.command.ident? key = some id) := by
  refine ⟨?_, ?_, ?_, ?_, ?_⟩
  · intro cli early word front back writable command firstAll secondAll
    exact read_of_writes writable (writes_arguments writable command firstAll secondAll)
  · intro cli early arguments writable writes
    exact read_of_writes writable writes
  · intro cli early early' arguments arguments' writable writes writes'
    rw [read_of_writes writable writes, read_of_writes writable writes']
  · intro cli
    refine ⟨rfl, rfl, fun url => ?_⟩
    rw [Invocation.overrides]
    cases cli.command <;> simp
  · intro arguments cli h
    exact ⟨fun key id hid => text_of_ident h hid,
      fun key value hkey gives => ident_of_text h hkey gives⟩

/-! ## One invocation, written out in two ways -/

/-- The slug looks like an option, and the path of the configuration is not text. -/
def numbered : Invocation :=
  ⟨none, some ⟨[0xFF]⟩, 2, false, .new "--id=8" (some ⟨7, by decide⟩) none⟩

def leading : List Octets :=
  [Text.octets "--config", [0xFF], Text.octets "-vv", Text.octets "new", Text.octets "--id=+007",
    Text.octets "--slug=--id=8"]

def trailing : List Octets :=
  [Text.octets "new", Text.octets "--slug=--id=8", Text.octets "-v", Text.octets "--id=+007",
    Text.octets "--config=" ++ [0xFF], Text.octets "--verbose"]

theorem numbered_writable : numbered.Writable where
  migrationsDir := nofun
  config := by
    rintro _ ⟨⟩
    decide
  template := nofun
  verbose := by decide
  quiet := nofun

theorem letter_verbose (place : Option Verb) : Letter place 0x76 .verbose :=
  .intro (by cases place <;> rfl) rfl rfl rfl

theorem writes_leading : Writes numbered (fun _ => true) leading := by
  have hcluster : Says none [dash :: [0x76, 0x76]] [.verbose, .verbose] :=
    .letters (by decide) (.cons (letter_verbose none) (.cons (letter_verbose none) .nil)) .nil
  have hfirst : Says none [alone (Text.octets "config"), [0xFF], dash :: [0x76, 0x76]]
      [.config ⟨[0xFF]⟩, .verbose, .verbose] :=
    .separate rfl (.config (by decide)) (by decide) hcluster
  have hsecond : Says (some .new) [attached (Text.octets "id") (Text.octets "+007"),
      attached (Text.octets "slug") (Text.octets "--id=8")] [.id ⟨7, by decide⟩, .slug "--id=8"] :=
    .attached rfl (.id (by decide +kernel)) (.attached rfl (.slug _) .nil)
  have hleading : leading = [alone (Text.octets "config"), [0xFF], dash :: [0x76, 0x76]] ++
      Text.octets "new" :: [attached (Text.octets "id") (Text.octets "+007"),
        attached (Text.octets "slug") (Text.octets "--id=8")] := by decide +kernel
  rw [hleading]
  exact .intro (by decide +kernel) hfirst hsecond (by decide) (by decide)

theorem writes_trailing : Writes numbered (fun _ => false) trailing := by
  have hflag : Says (some .new) [alone (Text.octets Flag.verbose.name)] [.verbose] :=
    .flag rfl rfl .nil
  have hlast : Says (some .new) [attached (Text.octets "id") (Text.octets "+007"),
      attached (Text.octets "config") [0xFF], alone (Text.octets "verbose")]
      [.id ⟨7, by decide⟩, .config ⟨[0xFF]⟩, .verbose] :=
    .attached rfl (.id (by decide +kernel))
      (.attached rfl (.config (by decide)) hflag)
  have hsecond : Says (some .new) (attached (Text.octets "slug") (Text.octets "--id=8") ::
      (dash :: [0x76]) :: [attached (Text.octets "id") (Text.octets "+007"),
        attached (Text.octets "config") [0xFF], alone (Text.octets "verbose")])
      (.slug "--id=8" :: ([.verbose] ++ [.id ⟨7, by decide⟩, .config ⟨[0xFF]⟩, .verbose])) :=
    .attached rfl (.slug _)
      (.letters (by decide) (.cons (letter_verbose (some .new)) .nil) hlast)
  have htrailing : trailing = [] ++ Text.octets "new" ::
      (attached (Text.octets "slug") (Text.octets "--id=8") :: (dash :: [0x76]) ::
        [attached (Text.octets "id") (Text.octets "+007"),
          attached (Text.octets "config") [0xFF], alone (Text.octets "verbose")]) := by
    decide +kernel
  rw [htrailing]
  exact .intro (by decide +kernel) .nil hsecond (by decide) (by decide)

/-- The two ways, and one argument for each option, are read as the same invocation. -/
theorem read_back_numbered :
    numbered.Writable ∧ Writes numbered (fun _ => true) leading ∧
    Writes numbered (fun _ => false) trailing ∧ leading ≠ trailing ∧
    read leading = .ok numbered ∧ read trailing = read leading ∧
    read ([Setting.verbose, .config ⟨[0xFF]⟩, .verbose].map Setting.argument ++
      Text.octets "new" :: [Setting.slug "--id=8", .id ⟨7, by decide⟩].map Setting.argument) =
        .ok numbered ∧
    ∃ text, Gives .id (Text.octets text) leading ∧ Ident.parse text = .ok ⟨7, by decide⟩ := by
  obtain ⟨hcanonical, hwritten, hsame, _, hidents⟩ := read_back
  have hread : read leading = .ok numbered := hwritten _ _ _ numbered_writable writes_leading
  exact ⟨numbered_writable, writes_leading, writes_trailing, by decide +kernel, hread,
    hsame _ _ _ _ _ numbered_writable writes_trailing writes_leading,
    hcanonical _ (fun _ => true) _ _ _ numbered_writable (by decide +kernel) (by decide) (by decide),
    (hidents _ _ hread).1 .id _ rfl⟩

end SchemaLedger.CommandLine
