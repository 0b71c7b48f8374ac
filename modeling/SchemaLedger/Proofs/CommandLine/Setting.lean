import SchemaLedger.Proofs.CommandLine.Argument

/-! # Settings

What one option says once its value has been read, and what a place on the command line says when
several settings have been taken in. Settings of different options do not get in each other's way, so
their order makes no difference. -/

namespace SchemaLedger.CommandLine

/-! ## Success -/

theorem map_eq_ok_iff {ε α β : Type} {result : Except ε α} {f : α → β} {b : β} :
    result.map f = .ok b ↔ ∃ a, result = .ok a ∧ f a = b := by
  cases result <;> simp [Except.map]

theorem bind_eq_ok_iff {ε α β : Type} {result : Except ε α} {f : α → Except ε β} {b : β} :
    (result >>= f) = .ok b ↔ ∃ a, result = .ok a ∧ f a = .ok b := by
  cases result with
  | error error => exact ⟨nofun, nofun⟩
  | ok a => exact ⟨fun h => ⟨a, rfl, h⟩, fun ⟨_, ha, h⟩ => Except.ok.inj ha ▸ h⟩

theorem bind_eq_of_ok {ε α β : Type} {result : Except ε α} {a : α} (h : result = .ok a)
    {f : α → Except ε β} : (result >>= f) = f a := by
  rw [h]
  rfl

/-! ## What an option says -/

inductive Setting where
  | migrationsDir (path : Path)
  | config (path : Path)
  | databaseUrl (url : String)
  | limit (id : Ident)
  | slug (text : String)
  | id (id : Ident)
  | template (path : Path)
  | verbose
  | quiet
  | write
  deriving DecidableEq, Repr

/-- The option with a value, or the one without, that a setting is of. -/
def Setting.option : Setting → Key ⊕ Flag
  | migrationsDir _ => .inl .migrationsDir
  | config _ => .inl .config
  | databaseUrl _ => .inl .databaseUrl
  | limit _ => .inl .limit
  | slug _ => .inl .slug
  | id _ => .inl .id
  | template _ => .inl .template
  | verbose => .inr .verbose
  | quiet => .inr .quiet
  | write => .inr .write

/-- What the value of an option says. A path must not be empty, and the rest must be text. -/
inductive Means : Key → Octets → Setting → Prop
  | migrationsDir {path : Path} (present : path.octets ≠ []) :
    Means .migrationsDir path.octets (.migrationsDir path)
  | config {path : Path} (present : path.octets ≠ []) : Means .config path.octets (.config path)
  | databaseUrl (url : String) : Means .databaseUrl (Text.octets url) (.databaseUrl url)
  | limit {text : String} {id : Ident} (reads : Ident.parse text = .ok id) :
    Means .limit (Text.octets text) (.limit id)
  | slug (text : String) : Means .slug (Text.octets text) (.slug text)
  | id {text : String} {id : Ident} (reads : Ident.parse text = .ok id) :
    Means .id (Text.octets text) (.id id)
  | template {path : Path} (present : path.octets ≠ []) :
    Means .template path.octets (.template path)

theorem Means.option_eq {key : Key} {value : Octets} {s : Setting} (h : Means key value s) :
    s.option = .inl key := by
  cases h <;> rfl

/-! ## Reading values -/

section Values

variable {value : Octets}

theorem path_eq_ok_iff {path : Path} :
    Given.path value = .ok path ↔ path.octets = value ∧ path.octets ≠ [] := by
  rw [Given.path]
  constructor
  · intro h
    split at h
    · cases h
    · next present =>
        cases h
        exact ⟨rfl, present⟩
  · rintro ⟨rfl, present⟩
    rw [if_neg present]

theorem text_eq_ok_iff {text : String} : Given.text value = .ok text ↔ Text.octets text = value := by
  rw [Given.text]
  constructor
  · intro h
    split at h
    · next found =>
        cases h
        exact Text.octets_of_ofOctets? found
    · cases h
  · rintro rfl
    rw [Text.ofOctets?_octets]

theorem ident_eq_ok_iff {option placeholder : String} {id : Ident} :
    Given.ident option placeholder value = .ok id ↔
      ∃ text, Text.octets text = value ∧ Ident.parse text = .ok id := by
  rw [Given.ident, bind_eq_ok_iff]
  constructor
  · rintro ⟨text, htext, h⟩
    split at h
    · next hparse =>
        cases h
        exact ⟨text, text_eq_ok_iff.mp htext, hparse⟩
    · cases h
  · rintro ⟨text, htext, hparse⟩
    refine ⟨text, text_eq_ok_iff.mpr htext, ?_⟩
    rw [hparse]

end Values

namespace Setting

def read (value : Octets) : Key → Except UsageError Setting
  | .migrationsDir => (Given.path value).map migrationsDir
  | .config => (Given.path value).map config
  | .databaseUrl => (Given.text value).map databaseUrl
  | .limit => (Given.ident "until" "UNTIL" value).map limit
  | .slug => (Given.text value).map slug
  | .id => (Given.ident "id" "ID" value).map id
  | .template => (Given.path value).map template

end Setting

theorem Setting.read_eq_ok_iff {key : Key} {value : Octets} {s : Setting} :
    Setting.read value key = .ok s ↔ Means key value s := by
  constructor
  · intro h
    cases key with
    | migrationsDir | config | template =>
        obtain ⟨path, hpath, rfl⟩ := map_eq_ok_iff.mp h
        obtain ⟨rfl, present⟩ := path_eq_ok_iff.mp hpath
        constructor
        exact present
    | databaseUrl | slug =>
        obtain ⟨text, htext, rfl⟩ := map_eq_ok_iff.mp h
        obtain rfl := text_eq_ok_iff.mp htext
        constructor
    | limit | id =>
        obtain ⟨found, hfound, rfl⟩ := map_eq_ok_iff.mp h
        obtain ⟨text, rfl, reads⟩ := ident_eq_ok_iff.mp hfound
        constructor
        exact reads
  · rintro (present | present | url | reads | text | reads | present)
    · exact map_eq_ok_iff.mpr ⟨_, path_eq_ok_iff.mpr ⟨rfl, present⟩, rfl⟩
    · exact map_eq_ok_iff.mpr ⟨_, path_eq_ok_iff.mpr ⟨rfl, present⟩, rfl⟩
    · exact map_eq_ok_iff.mpr ⟨_, text_eq_ok_iff.mpr rfl, rfl⟩
    · exact map_eq_ok_iff.mpr ⟨_, ident_eq_ok_iff.mpr ⟨_, rfl, reads⟩, rfl⟩
    · exact map_eq_ok_iff.mpr ⟨_, text_eq_ok_iff.mpr rfl, rfl⟩
    · exact map_eq_ok_iff.mpr ⟨_, ident_eq_ok_iff.mpr ⟨_, rfl, reads⟩, rfl⟩
    · exact map_eq_ok_iff.mpr ⟨_, path_eq_ok_iff.mpr ⟨rfl, present⟩, rfl⟩

/-! ## Taking in settings -/

namespace Setting

def put : Setting → Given → Given
  | migrationsDir path, given => { given with migrationsDir? := some path }
  | config path, given => { given with config? := some path }
  | databaseUrl url, given => { given with databaseUrl? := some url }
  | limit last, given => { given with limit? := some last }
  | slug text, given => { given with slug? := some text }
  | id chosen, given => { given with id? := some chosen }
  | template path, given => { given with template? := some path }
  | verbose, given => { given with verbose := min (given.verbose + 1) 255 }
  | quiet, given => { given with quiet := true }
  | write, given => { given with write := true }

def putAll (settings : List Setting) (given : Given) : Given :=
  settings.foldl (fun given s => s.put given) given

/-- Whether an option can still be given: only `verbose` may be repeated. -/
def Open (given : Given) : Setting → Prop
  | migrationsDir _ => given.migrationsDir? = none
  | config _ => given.config? = none
  | databaseUrl _ => given.databaseUrl? = none
  | limit _ => given.limit? = none
  | slug _ => given.slug? = none
  | id _ => given.id? = none
  | template _ => given.template? = none
  | verbose => True
  | quiet => given.quiet = false
  | write => given.write = false

def In (given : Given) : Setting → Prop
  | migrationsDir path => given.migrationsDir? = some path
  | config path => given.config? = some path
  | databaseUrl url => given.databaseUrl? = some url
  | limit last => given.limit? = some last
  | slug text => given.slug? = some text
  | id chosen => given.id? = some chosen
  | template path => given.template? = some path
  | verbose => given.verbose ≠ 0
  | quiet => given.quiet = true
  | write => given.write = true

/-- Two settings that cannot stand at one place. -/
def Clash (s t : Setting) : Prop := s.option = t.option ∧ s ≠ verbose

end Setting

open Setting (putAll)

section Put

variable {given after : Given} {s t : Setting}

theorem has_eq_false_iff {key : Key} (h : s.option = .inl key) :
    given.has key = false ↔ s.Open given := by
  cases s <;> cases h <;> simp [Given.has, Setting.Open]

theorem set_eq (given : Given) (key : Key) (value : Octets) : given.set key value =
    if given.has key then .error .conflict else (Setting.read value key).map (·.put given) := by
  unfold Given.set
  cases given.has key with
  | true => rfl
  | false =>
      simp only [Bool.false_eq_true, if_false]
      cases key with
      | migrationsDir | config | template =>
          rw [Setting.read]
          cases Given.path value <;> rfl
      | databaseUrl | slug =>
          rw [Setting.read]
          cases Given.text value <;> rfl
      | limit =>
          rw [Setting.read]
          cases Given.ident "until" "UNTIL" value <;> rfl
      | id =>
          rw [Setting.read]
          cases Given.ident "id" "ID" value <;> rfl

/-- An option takes a value once, if it means something. -/
theorem set_eq_ok_iff {key : Key} {value : Octets} : given.set key value = .ok after ↔
    ∃ s, Means key value s ∧ s.Open given ∧ s.put given = after := by
  rw [set_eq]
  constructor
  · intro h
    split at h
    · cases h
    · next free =>
        obtain ⟨s, hread, rfl⟩ := map_eq_ok_iff.mp h
        have means := Setting.read_eq_ok_iff.mp hread
        exact ⟨s, means, (has_eq_false_iff means.option_eq).mp (Bool.not_eq_true _ ▸ free), rfl⟩
  · rintro ⟨s, means, free, rfl⟩
    rw [(has_eq_false_iff means.option_eq).mpr free]
    exact map_eq_ok_iff.mpr ⟨s, Setting.read_eq_ok_iff.mpr means, rfl⟩

/-- Help and the version are no settings. -/
theorem raise_eq_ok_iff {flag : Flag} : given.raise flag = .ok after ↔
    ∃ s : Setting, s.option = .inr flag ∧ s.Open given ∧ s.put given = after := by
  constructor
  · intro h
    cases flag with
    | verbose =>
        cases h
        exact ⟨.verbose, rfl, trivial, rfl⟩
    | quiet =>
        rw [Given.raise] at h
        split at h
        · cases h
        · next free =>
            cases h
            exact ⟨.quiet, rfl, Bool.eq_false_iff.mpr free, rfl⟩
    | write =>
        rw [Given.raise] at h
        split at h
        · cases h
        · next free =>
            cases h
            exact ⟨.write, rfl, Bool.eq_false_iff.mpr free, rfl⟩
    | help | version => cases h
  · rintro ⟨s, hoption, free, rfl⟩
    cases s with
    | verbose =>
        cases hoption
        rfl
    | quiet | write =>
        cases hoption
        have hfree : _ = false := free
        rw [Given.raise, hfree]
        rfl
    | _ => cases hoption

/-- After a setting has been taken in, only the same option cannot be given any more. -/
theorem open_put (h : t.Open given) : s.Open (t.put given) ↔ s.Open given ∧ ¬ t.Clash s := by
  cases t <;> cases s <;> simp_all [Setting.Open, Setting.put, Setting.Clash, Setting.option]

theorem in_put (h : t.Open given) : s.In (t.put given) ↔ t = s ∨ s.In given := by
  cases t <;> cases s <;> simp_all [Setting.Open, Setting.put, Setting.In]

end Put

/-! ## Several settings -/

/-- Whether some settings can be taken in one after the other. -/
structure Fit (given : Given) (settings : List Setting) : Prop where
  free : ∀ s ∈ settings, s.Open given
  apart : settings.Pairwise fun s t => ¬ s.Clash t

section Several

variable {given : Given} {settings : List Setting} {s t : Setting}

theorem fit_nil (given : Given) : Fit given [] := ⟨nofun, .nil⟩

theorem fit_cons : Fit given (t :: settings) ↔ t.Open given ∧ Fit (t.put given) settings := by
  constructor
  · rintro ⟨free, apart⟩
    have hopen := free t List.mem_cons_self
    obtain ⟨hfirst, hrest⟩ := List.pairwise_cons.mp apart
    exact ⟨hopen, fun s hs => (open_put hopen).mpr
      ⟨free s (List.mem_cons_of_mem _ hs), hfirst s hs⟩, hrest⟩
  · rintro ⟨hopen, free, apart⟩
    refine ⟨?_, List.pairwise_cons.mpr ⟨fun s hs => ((open_put hopen).mp (free s hs)).2, apart⟩⟩
    intro s hs
    rcases List.mem_cons.mp hs with rfl | hs
    · exact hopen
    · exact ((open_put hopen).mp (free s hs)).1

theorem open_none (s : Setting) : s.Open .none := by cases s <;> trivial

theorem not_in_none (s : Setting) : ¬ s.In .none := by cases s <;> simp [Setting.In, Given.none]

theorem in_putAll (fit : Fit given settings) :
    s.In (putAll settings given) ↔ s ∈ settings ∨ s.In given := by
  induction settings generalizing given with
  | nil => simp [putAll]
  | cons t rest ih =>
      obtain ⟨hopen, hrest⟩ := fit_cons.mp fit
      have hstep : s.In (putAll (t :: rest) given) ↔ s ∈ rest ∨ s.In (t.put given) := ih hrest
      rw [hstep, in_put hopen, List.mem_cons, eq_comm (a := t), or_left_comm, or_assoc]

/-- The count of `verbose` stops at the largest number that an octet holds. -/
theorem verbose_putAll (settings : List Setting) (bounded : given.verbose ≤ 255) :
    (putAll settings given).verbose = min (given.verbose + settings.count .verbose) 255 := by
  induction settings generalizing given with
  | nil => simp [putAll, bounded]
  | cons t rest ih =>
      have hstep : putAll (t :: rest) given = putAll rest (t.put given) := rfl
      by_cases ht : t = .verbose
      · subst ht
        have hverbose : (Setting.verbose.put given).verbose = min (given.verbose + 1) 255 := rfl
        rw [hstep, ih (by omega), hverbose, List.count_cons_self]
        omega
      · have hverbose : (t.put given).verbose = given.verbose := by
          cases t <;> first | rfl | exact absurd rfl ht
        rw [hstep, ih (by omega), hverbose, List.count_cons_of_ne ht]

end Several

/-- What has been taken in says all about a place, apart from the count. -/
theorem Given.eq_of_in {given given' : Given} (same : ∀ s : Setting, s.In given ↔ s.In given')
    (counts : given.verbose = given'.verbose) : given = given' := by
  have hmigrationsDir := Option.ext fun path => same (.migrationsDir path)
  have hconfig := Option.ext fun path => same (.config path)
  have hurl := Option.ext fun url => same (.databaseUrl url)
  have hlimit := Option.ext fun id => same (.limit id)
  have hslug := Option.ext fun text => same (.slug text)
  have hid := Option.ext fun id => same (.id id)
  have htemplate := Option.ext fun path => same (.template path)
  have hquiet := Bool.eq_iff_iff.mpr (same .quiet)
  have hwrite := Bool.eq_iff_iff.mpr (same .write)
  cases given
  cases given'
  simp_all

/-! ## The settings of a place -/

namespace Given

def ofOption (given : Given) : Key ⊕ Flag → List Setting
  | .inl .migrationsDir => given.migrationsDir?.toList.map .migrationsDir
  | .inl .config => given.config?.toList.map .config
  | .inl .databaseUrl => given.databaseUrl?.toList.map .databaseUrl
  | .inl .limit => given.limit?.toList.map .limit
  | .inl .slug => given.slug?.toList.map .slug
  | .inl .id => given.id?.toList.map .id
  | .inl .template => given.template?.toList.map .template
  | .inr .verbose => List.replicate given.verbose .verbose
  | .inr .quiet => if given.quiet then [.quiet] else []
  | .inr .write => if given.write then [.write] else []
  | .inr .help => []
  | .inr .version => []

def options : List (Key ⊕ Flag) := Key.all.map .inl ++ Flag.all.map .inr

/-- What the options at one place say, as settings. -/
def settings (given : Given) : List Setting := options.flatMap given.ofOption

section Settings

variable {given : Given} {s : Setting} {o : Key ⊕ Flag}

theorem mem_ofOption : s ∈ given.ofOption o ↔ s.option = o ∧ s.In given := by
  constructor
  · intro h
    rcases o with key | flag
    · cases key <;> simp [ofOption] at h <;> obtain ⟨value, hvalue, rfl⟩ := h <;> exact ⟨rfl, hvalue⟩
    · cases flag <;> simp [ofOption] at h <;> obtain ⟨hflag, rfl⟩ := h <;> exact ⟨rfl, hflag⟩
  · rintro ⟨rfl, hin⟩
    cases s <;> simp_all [ofOption, Setting.option, Setting.In]

theorem mem_options (o : Key ⊕ Flag) : o ∈ options := by
  rcases o with key | flag
  · exact List.mem_append_left _ (List.mem_map_of_mem key.mem_all)
  · exact List.mem_append_right _ (List.mem_map_of_mem flag.mem_all)

theorem mem_settings : s ∈ given.settings ↔ s.In given := by
  rw [settings, List.mem_flatMap]
  constructor
  · rintro ⟨o, _, hs⟩
    exact (mem_ofOption.mp hs).2
  · intro h
    exact ⟨s.option, mem_options s.option, mem_ofOption.mpr ⟨rfl, h⟩⟩

theorem count_verbose_settings (given : Given) :
    given.settings.count .verbose = given.verbose := by
  have hother : ∀ o, o ≠ .inr .verbose → (given.ofOption o).count .verbose = 0 := by
    intro o ho
    exact List.count_eq_zero.mpr fun h => ho (mem_ofOption.mp h).1.symm
  have hverbose : (given.ofOption (.inr .verbose)).count .verbose = given.verbose :=
    List.count_replicate_self
  rw [settings, List.count_flatMap]
  simp [options, Key.all, Flag.all, hother, hverbose]

theorem ofOption_apart (given : Given) (o : Key ⊕ Flag) :
    (given.ofOption o).Pairwise fun s t => ¬ s.Clash t := by
  have hone {α : Type} (value? : Option α) (f : α → Setting) :
      (value?.toList.map f).Pairwise fun s t => ¬ s.Clash t := by
    cases value? with
    | none => exact .nil
    | some value => exact List.pairwise_singleton _ _
  have hflag (raised : Bool) (s : Setting) :
      (if raised then [s] else []).Pairwise fun s t => ¬ s.Clash t := by
    cases raised with
    | false => exact .nil
    | true => exact List.pairwise_singleton _ _
  rcases o with key | flag
  · cases key <;> exact hone _ _
  · cases flag with
    | verbose =>
        exact List.pairwise_replicate.mpr (.inr fun clash => clash.2 rfl)
    | quiet | write => exact hflag _ _
    | help | version => exact .nil

theorem settings_apart (given : Given) : given.settings.Pairwise fun s t => ¬ s.Clash t := by
  refine List.pairwise_flatMap.mpr ⟨fun o _ => given.ofOption_apart o, ?_⟩
  have hdistinct : options.Nodup := by decide
  refine hdistinct.imp ?_
  intro o o' hne s hs t ht clash
  exact hne ((mem_ofOption.mp hs).1.symm.trans (clash.1.trans (mem_ofOption.mp ht).1))

end Settings

end Given

/-! ## Any order -/

theorem Setting.Clash.symm {s t : Setting} (clash : s.Clash t) : t.Clash s := by
  refine ⟨clash.1.symm, ?_⟩
  rintro rfl
  have hs : s = .verbose := by
    have hoption : s.option = .inr .verbose := clash.1
    cases s <;> cases hoption
    rfl
  exact clash.2 hs

section Order

variable {given : Given} {settings : List Setting}

theorem fit_of_perm (perm : settings.Perm given.settings) : Fit .none settings := by
  refine ⟨fun s _ => open_none s, ?_⟩
  refine (perm.pairwise_iff fun {s t} h clash => h ?_).mpr given.settings_apart
  exact Setting.Clash.symm clash

theorem putAll_of_perm (bounded : given.verbose ≤ 255) (perm : settings.Perm given.settings) :
    putAll settings .none = given := by
  apply Given.eq_of_in
  · intro s
    rw [in_putAll (fit_of_perm perm), perm.mem_iff, Given.mem_settings]
    exact or_iff_left (not_in_none s)
  · have hcount : settings.count .verbose = given.verbose := by
      rw [perm.count_eq, Given.count_verbose_settings]
    have hnone : Given.none.verbose = 0 := rfl
    rw [verbose_putAll settings (Nat.zero_le 255), hcount, hnone, Nat.zero_add]
    exact Nat.min_eq_left bounded

end Order

end SchemaLedger.CommandLine
