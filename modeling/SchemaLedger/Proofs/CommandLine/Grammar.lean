import Mathlib.Data.List.Forall2
import SchemaLedger.Proofs.CommandLine.Setting

/-! # The grammar of command lines

What arguments say, by rules that do not read them from left to right, and that reading them takes in
just that. A value in an argument of its own is held back for a while; nothing that comes later can
tell. -/

namespace SchemaLedger.CommandLine

open Setting (putAll)

/-! ## Rules -/

/-- A flag, by its letter. -/
inductive Letter (place : Option Verb) : UInt8 → Setting → Prop
  | intro {flag : Flag} {c : Char} {octet : UInt8} {s : Setting}
    (allowed : flag.allowed place = true) (letter : flag.letter? = some c)
    (same : c.toNat = octet.toNat) (sets : s.option = .inr flag) : Letter place octet s

/-- What arguments at a place say: each option with its value, in one argument or in two, flags by
their names, and flags by their letters, of which several may share an argument. -/
inductive Says (place : Option Verb) : List Octets → List Setting → Prop
  | nil : Says place [] []
  | attached {key : Key} {value : Octets} {s : Setting} {rest : List Octets}
    {settings : List Setting} (allowed : key.allowed place = true) (means : Means key value s)
    (others : Says place rest settings) :
    Says place (attached (Text.octets key.name) value :: rest) (s :: settings)
  | separate {key : Key} {value : Octets} {s : Setting} {rest : List Octets}
    {settings : List Setting} (allowed : key.allowed place = true) (means : Means key value s)
    (plain : value.head? = some dash → value = [dash]) (others : Says place rest settings) :
    Says place (alone (Text.octets key.name) :: value :: rest) (s :: settings)
  | flag {flag : Flag} {s : Setting} {rest : List Octets} {settings : List Setting}
    (allowed : flag.allowed place = true) (sets : s.option = .inr flag)
    (others : Says place rest settings) :
    Says place (alone (Text.octets flag.name) :: rest) (s :: settings)
  | letters {octets : Octets} {cluster : List Setting} {rest : List Octets}
    {settings : List Setting} (present : octets ≠ [])
    (each : List.Forall₂ (Letter place) octets cluster) (others : Says place rest settings) :
    Says place ((dash :: octets) :: rest) (cluster ++ settings)

/-! ## One argument -/

/-- What one argument does to a reading. -/
inductive Step (place : Option Verb) : Reading → Octets → Reading → Prop
  | attached {reading : Reading} {given : Given} {key : Key} {value : Octets} {s : Setting}
    (settled : reading.resolve = .ok given) (allowed : key.allowed place = true)
    (means : Means key value s) (free : s.Open given) :
    Step place reading (attached (Text.octets key.name) value) ⟨s.put given, .nothing⟩
  | named {reading : Reading} {given : Given} {key : Key} (settled : reading.resolve = .ok given)
    (allowed : key.allowed place = true) :
    Step place reading (alone (Text.octets key.name)) ⟨given, .awaiting key⟩
  | held {given : Given} {key : Key} {value : Octets}
    (plain : value.head? = some dash → value = [dash]) :
    Step place ⟨given, .awaiting key⟩ value ⟨given, .holding key value⟩
  | flag {reading : Reading} {given : Given} {flag : Flag} {s : Setting}
    (settled : reading.resolve = .ok given) (allowed : flag.allowed place = true)
    (sets : s.option = .inr flag) (free : s.Open given) :
    Step place reading (alone (Text.octets flag.name)) ⟨s.put given, .nothing⟩
  | letters {reading : Reading} {given : Given} {octets : Octets} {cluster : List Setting}
    (settled : reading.resolve = .ok given) (present : octets ≠ [])
    (each : List.Forall₂ (Letter place) octets cluster) (fit : Fit given cluster) :
    Step place reading (dash :: octets) ⟨putAll cluster given, .nothing⟩

namespace Reading

def advance (place : Option Verb) (reading : Reading) (argument : Octets) :
    Except UsageError Reading :=
  match form argument with
  | .separator => .error .unknownArgument
  | .long name value? => reading.long place name value?
  | .letters octets => reading.letters place octets
  | .plain =>
    match reading.hold? argument with
    | some next => .ok next
    | none => .error .unknownArgument

section

variable {place : Option Verb} {reading next : Reading} {key : Key} {value : Octets}

theorem resolve_nothing (given : Given) : resolve ⟨given, .nothing⟩ = .ok given := rfl

theorem attach_eq_ok_iff : reading.attach key value = .ok next ↔
    ∃ given s, reading.resolve = .ok given ∧ Means key value s ∧ s.Open given ∧
      next = ⟨s.put given, .nothing⟩ := by
  rw [attach, bind_eq_ok_iff]
  constructor
  · rintro ⟨given, settled, h⟩
    obtain ⟨after, hset, h⟩ := bind_eq_ok_iff.mp h
    obtain ⟨s, means, free, rfl⟩ := set_eq_ok_iff.mp hset
    cases h
    exact ⟨given, s, settled, means, free, rfl⟩
  · rintro ⟨given, s, settled, means, free, rfl⟩
    exact ⟨given, settled,
      bind_eq_ok_iff.mpr ⟨_, set_eq_ok_iff.mpr ⟨s, means, free, rfl⟩, rfl⟩⟩

theorem await_eq_ok_iff : reading.await key = .ok next ↔
    ∃ given, reading.resolve = .ok given ∧ next = ⟨given, .awaiting key⟩ := by
  rw [await, bind_eq_ok_iff]
  constructor
  · rintro ⟨given, settled, h⟩
    cases h
    exact ⟨given, settled, rfl⟩
  · rintro ⟨given, settled, rfl⟩
    exact ⟨given, settled, rfl⟩

theorem raise_eq_ok_iff {flag : Flag} : reading.raise flag = .ok next ↔
    ∃ given s, reading.resolve = .ok given ∧ Setting.option s = .inr flag ∧ s.Open given ∧
      next = ⟨s.put given, .nothing⟩ := by
  rw [raise, bind_eq_ok_iff]
  constructor
  · rintro ⟨given, settled, h⟩
    obtain ⟨after, hraise, h⟩ := bind_eq_ok_iff.mp h
    obtain ⟨s, sets, free, rfl⟩ := CommandLine.raise_eq_ok_iff.mp hraise
    cases h
    exact ⟨given, s, settled, sets, free, rfl⟩
  · rintro ⟨given, s, settled, sets, free, rfl⟩
    exact ⟨given, settled,
      bind_eq_ok_iff.mpr ⟨_, CommandLine.raise_eq_ok_iff.mpr ⟨s, sets, free, rfl⟩, rfl⟩⟩

theorem hold?_eq_some_iff : reading.hold? value = some next ↔
    ∃ given key, reading = ⟨given, .awaiting key⟩ ∧ next = ⟨given, .holding key value⟩ := by
  obtain ⟨given, pending⟩ := reading
  cases pending with
  | awaiting key =>
      constructor
      · intro h
        exact ⟨given, key, rfl, (Option.some.inj h).symm⟩
      · rintro ⟨given, key, hreading, rfl⟩
        cases hreading
        rfl
  | nothing | holding => simp [hold?]

/-- The options that a long name can be of do not depend on what has been read. -/
theorem long_eq_ok_iff {name : Octets} {value? : Option Octets} :
    reading.long place name value? = .ok next ↔
      (∃ key : Key, key.allowed place = true ∧ Text.octets key.name = name ∧
        ((∃ value, value? = some value ∧ reading.attach key value = .ok next) ∨
          (value? = none ∧ reading.await key = .ok next))) ∨
      (∃ flag : Flag, flag.allowed place = true ∧ Text.octets flag.name = name ∧
        value? = none ∧ reading.raise flag = .ok next) := by
  constructor
  · intro h
    rw [long] at h
    split at h
    · next key hkey =>
        obtain ⟨allowed, hname⟩ := (find?_named Key.mem_all Key.name_injective).mp hkey
        split at h
        · next value => exact .inl ⟨key, allowed, hname, .inl ⟨value, rfl, h⟩⟩
        · exact .inl ⟨key, allowed, hname, .inr ⟨rfl, h⟩⟩
    · split at h
      · next flag hflag =>
          obtain ⟨allowed, hname⟩ := (find?_named Flag.mem_all Flag.name_injective).mp hflag
          cases value? with
          | some value => cases h
          | none => exact .inr ⟨flag, allowed, hname, rfl, h⟩
      · cases h
  · rintro (⟨key, allowed, hname, h⟩ | ⟨flag, allowed, rfl, rfl, h⟩)
    · rw [long, (find?_named Key.mem_all Key.name_injective).mpr ⟨allowed, hname⟩]
      rcases h with ⟨value, rfl, h⟩ | ⟨rfl, h⟩
      · exact h
      · exact h
    · have hno : Key.all.find? (fun key : Key => key.allowed place &&
          Text.octets key.name = Text.octets flag.name) = none := by
        simp [Key.name_ne]
      rw [long, hno, (find?_named Flag.mem_all Flag.name_injective).mpr ⟨allowed, rfl⟩]
      exact h

theorem letters_cons_eq_ok_iff {octet : UInt8} {rest : Octets} :
    reading.letters place (octet :: rest) = .ok next ↔
      ∃ given s, reading.resolve = .ok given ∧ Letter place octet s ∧ s.Open given ∧
        letters place ⟨s.put given, .nothing⟩ rest = .ok next := by
  constructor
  · intro h
    rw [letters] at h
    split at h
    · next flag hflag =>
        obtain ⟨allowed, c, letter, same⟩ := find?_letter.mp hflag
        obtain ⟨after, hraise, h⟩ := bind_eq_ok_iff.mp h
        obtain ⟨given, s, settled, sets, free, rfl⟩ := raise_eq_ok_iff.mp hraise
        exact ⟨given, s, settled, ⟨allowed, letter, same, sets⟩, free, h⟩
    · cases h
  · rintro ⟨given, s, settled, ⟨allowed, letter, same, sets⟩, free, h⟩
    rw [letters, find?_letter.mpr ⟨allowed, _, letter, same⟩]
    exact bind_eq_ok_iff.mpr ⟨_, raise_eq_ok_iff.mpr ⟨given, s, settled, sets, free, rfl⟩, h⟩

theorem letters_eq_ok_iff {octets : Octets} (present : octets ≠ []) :
    reading.letters place octets = .ok next ↔
      ∃ given cluster, reading.resolve = .ok given ∧ List.Forall₂ (Letter place) octets cluster ∧
        Fit given cluster ∧ next = ⟨putAll cluster given, .nothing⟩ := by
  induction octets generalizing reading with
  | nil => exact absurd rfl present
  | cons octet rest ih =>
      rw [letters_cons_eq_ok_iff]
      constructor
      · rintro ⟨given, s, settled, letter, free, h⟩
        by_cases hrest : rest = []
        · subst hrest
          cases h
          exact ⟨given, [s], settled, .cons letter .nil, fit_cons.mpr ⟨free, fit_nil _⟩, rfl⟩
        · obtain ⟨_, cluster, hput, each, fit, rfl⟩ := (ih hrest).mp h
          cases hput
          exact ⟨given, s :: cluster, settled, .cons letter each, fit_cons.mpr ⟨free, fit⟩, rfl⟩
      · rintro ⟨given, _, settled, _ | @⟨_, s, _, cluster, letter, each⟩, fit, rfl⟩
        obtain ⟨free, fit⟩ := fit_cons.mp fit
        refine ⟨given, s, settled, letter, free, ?_⟩
        by_cases hrest : rest = []
        · subst hrest
          cases each
          rfl
        · exact (ih hrest).mpr ⟨_, cluster, rfl, each, fit, rfl⟩

/-- Two dashes have no letter, so flags by their letters are never a long option. -/
theorem shaped_letters {octets : Octets} {cluster : List Setting} (present : octets ≠ [])
    (each : List.Forall₂ (Letter place) octets cluster) :
    Shaped (dash :: octets) (.letters octets) := by
  cases each with
  | nil => exact absurd rfl present
  | @cons octet s rest cluster letter =>
      refine .letters rest ?_
      rintro rfl
      obtain ⟨-, hletter, same, -⟩ := letter
      rename_i flag c
      cases flag <;> cases hletter <;> exact absurd same (by decide)

theorem hold?_of_advance {argument : Octets} (hform : form argument = .plain)
    (h : reading.advance place argument = .ok next) : reading.hold? argument = some next := by
  rw [advance, hform] at h
  cases hhold : reading.hold? argument with
  | none =>
      simp only [hhold] at h
      cases h
  | some after =>
      simp only [hhold] at h
      cases h
      rfl

theorem step_of_advance {argument : Octets} (h : reading.advance place argument = .ok next) :
    Step place reading argument next := by
  have shaped := shaped_form argument
  cases hform : form argument with
  | separator =>
      rw [advance, hform] at h
      cases h
  | long name value? =>
      rw [hform] at shaped
      have hlong : reading.long place name value? = .ok next := by rwa [advance, hform] at h
      obtain ⟨key, allowed, rfl, h⟩ | ⟨flag, allowed, rfl, rfl, h⟩ := long_eq_ok_iff.mp hlong
      · rcases h with ⟨value, rfl, h⟩ | ⟨rfl, h⟩
        · obtain ⟨given, s, settled, means, free, rfl⟩ := attach_eq_ok_iff.mp h
          cases shaped
          exact .attached settled allowed means free
        · obtain ⟨given, settled, rfl⟩ := await_eq_ok_iff.mp h
          cases shaped
          exact .named settled allowed
      · obtain ⟨given, s, settled, sets, free, rfl⟩ := raise_eq_ok_iff.mp h
        cases shaped
        exact .flag settled allowed sets free
  | letters octets =>
      rw [hform] at shaped
      have hletters : reading.letters place octets = .ok next := by rwa [advance, hform] at h
      cases shaped with
      | @letters first rest hfirst =>
          have present : first :: rest ≠ [] := List.cons_ne_nil first rest
          obtain ⟨given, cluster, settled, each, fit, rfl⟩ :=
            (letters_eq_ok_iff present).mp hletters
          exact .letters settled present each fit
  | plain =>
      rw [hform] at shaped
      obtain ⟨given, key, rfl, rfl⟩ := hold?_eq_some_iff.mp (hold?_of_advance hform h)
      cases shaped with
      | plain plain => exact .held plain

theorem advance_of_step {argument : Octets} (step : Step place reading argument next) :
    reading.advance place argument = .ok next := by
  rw [advance]
  rcases step with ⟨settled, allowed, means, free⟩ | ⟨settled, allowed⟩ | plain |
    ⟨settled, allowed, sets, free⟩ | ⟨settled, present, each, fit⟩
  · rw [form_eq_iff.mpr (.attached _ (Key.plain_name _).1)]
    exact long_eq_ok_iff.mpr (.inl ⟨_, allowed, rfl, .inl ⟨_, rfl,
      attach_eq_ok_iff.mpr ⟨_, _, settled, means, free, rfl⟩⟩⟩)
  · rw [form_eq_iff.mpr (.alone (Key.plain_name _).1 (Key.plain_name _).2)]
    exact long_eq_ok_iff.mpr (.inl ⟨_, allowed, rfl, .inr ⟨rfl,
      await_eq_ok_iff.mpr ⟨_, settled, rfl⟩⟩⟩)
  · rw [form_eq_iff.mpr (.plain plain)]
    rfl
  · rw [form_eq_iff.mpr (.alone (Flag.plain_name _).1 (Flag.plain_name _).2)]
    exact long_eq_ok_iff.mpr (.inr ⟨_, allowed, rfl, rfl,
      raise_eq_ok_iff.mpr ⟨_, _, settled, sets, free, rfl⟩⟩)
  · rw [form_eq_iff.mpr (shaped_letters present each)]
    exact (letters_eq_ok_iff present).mpr ⟨_, _, settled, each, fit, rfl⟩

end

end Reading

/-! ## Several arguments -/

inductive Passes (place : Option Verb) : Reading → List Octets → Reading → Prop
  | nil (reading : Reading) : Passes place reading [] reading
  | cons {reading next last : Reading} {argument : Octets} {rest : List Octets}
    (step : Step place reading argument next) (others : Passes place next rest last) :
    Passes place reading (argument :: rest) last

section Several

variable {place : Option Verb} {reading next last : Reading} {given after : Given}
  {arguments : List Octets} {settings more : List Setting}

theorem putAll_append : putAll (settings ++ more) given = putAll more (putAll settings given) :=
  List.foldl_append

theorem fit_append : Fit given (settings ++ more) ↔
    Fit given settings ∧ Fit (putAll settings given) more := by
  induction settings generalizing given with
  | nil => exact ⟨fun fit => ⟨fit_nil given, fit⟩, fun fit => fit.2⟩
  | cons s rest ih =>
      have hput : putAll (s :: rest) given = putAll rest (s.put given) := rfl
      rw [List.cons_append, fit_cons, fit_cons, ih, hput, and_assoc]

theorem Says.passes (said : Says place arguments settings) (settled : reading.resolve = .ok given)
    (fit : Fit given settings) :
    ∃ last, Passes place reading arguments last ∧ last.resolve = .ok (putAll settings given) := by
  induction said generalizing reading given with
  | nil => exact ⟨reading, .nil reading, settled⟩
  | attached allowed means _ ih =>
      obtain ⟨free, fit⟩ := fit_cons.mp fit
      obtain ⟨last, passes, hlast⟩ := ih (Reading.resolve_nothing _) fit
      exact ⟨last, .cons (.attached settled allowed means free) passes, hlast⟩
  | @separate key value s rest settings allowed means plain _ ih =>
      obtain ⟨free, fit⟩ := fit_cons.mp fit
      have hheld : (Reading.mk given (.holding key value)).resolve = .ok (s.put given) :=
        set_eq_ok_iff.mpr ⟨s, means, free, rfl⟩
      obtain ⟨last, passes, hlast⟩ := ih hheld fit
      exact ⟨last, .cons (.named settled allowed) (.cons (.held plain) passes), hlast⟩
  | flag allowed sets _ ih =>
      obtain ⟨free, fit⟩ := fit_cons.mp fit
      obtain ⟨last, passes, hlast⟩ := ih (Reading.resolve_nothing _) fit
      exact ⟨last, .cons (.flag settled allowed sets free) passes, hlast⟩
  | letters present each _ ih =>
      obtain ⟨fit, hrest⟩ := fit_append.mp fit
      obtain ⟨last, passes, hlast⟩ := ih (Reading.resolve_nothing _) hrest
      rw [putAll_append]
      exact ⟨last, .cons (.letters settled present each fit) passes, hlast⟩

/-- What is left to read either says something by itself, or begins with the value that an option
awaits. -/
inductive Remaining (place : Option Verb) (reading : Reading) (after : Given) : List Octets → Prop
  | settled {given : Given} {arguments : List Octets} {settings : List Setting}
    (settled : reading.resolve = .ok given) (said : Says place arguments settings)
    (fit : Fit given settings) (result : putAll settings given = after) :
    Remaining place reading after arguments
  | awaited {key : Key} {value : Octets} {given : Given} {rest : List Octets}
    {settings : List Setting} (awaits : reading.pending = .awaiting key)
    (plain : value.head? = some dash → value = [dash])
    (set : reading.given.set key value = .ok given) (said : Says place rest settings)
    (fit : Fit given settings) (result : putAll settings given = after) :
    Remaining place reading after (value :: rest)

theorem Remaining.of_settled (remaining : Remaining place reading after arguments)
    (settled : reading.resolve = .ok given) :
    ∃ settings, Says place arguments settings ∧ Fit given settings ∧
      putAll settings given = after := by
  rcases remaining with ⟨hgiven, said, fit, result⟩ | ⟨awaits, -, -, -, -, -⟩
  · cases settled.symm.trans hgiven
    exact ⟨_, said, fit, result⟩
  · rw [Reading.resolve, awaits] at settled
    cases settled

theorem Passes.remaining (passes : Passes place reading arguments last)
    (hlast : last.resolve = .ok after) : Remaining place reading after arguments := by
  -- From the last argument to the first: what follows a step is known when the step is looked at.
  induction passes with
  | nil reading => exact .settled hlast .nil (fit_nil after) rfl
  | cons step _ ih =>
      have remaining := ih hlast
      rcases step with ⟨settled, allowed, means, free⟩ | ⟨settled, allowed⟩ | plain |
        ⟨settled, allowed, sets, free⟩ | ⟨settled, present, each, fit⟩
      · obtain ⟨settings, said, fit, result⟩ := remaining.of_settled (Reading.resolve_nothing _)
        exact .settled settled (.attached allowed means said) (fit_cons.mpr ⟨free, fit⟩) result
      · rcases remaining with ⟨hawait, -, -, -⟩ | ⟨awaits, plain, set, said, fit, result⟩
        · cases hawait
        · cases awaits
          obtain ⟨s, means, free, rfl⟩ := set_eq_ok_iff.mp set
          exact .settled settled (.separate allowed means plain said) (fit_cons.mpr ⟨free, fit⟩)
            result
      · rcases remaining with ⟨held, said, fit, result⟩ | ⟨awaits, -, -, -, -, -⟩
        · exact .awaited rfl plain held said fit result
        · cases awaits
      · obtain ⟨settings, said, fit, result⟩ := remaining.of_settled (Reading.resolve_nothing _)
        exact .settled settled (.flag allowed sets said) (fit_cons.mpr ⟨free, fit⟩) result
      · obtain ⟨settings, said, hrest, result⟩ := remaining.of_settled (Reading.resolve_nothing _)
        refine .settled settled (.letters present each said) (fit_append.mpr ⟨fit, hrest⟩) ?_
        rw [putAll_append, result]

/-- Reading takes in exactly what arguments say. -/
theorem passes_iff (settled : reading.resolve = .ok given) :
    (∃ last, Passes place reading arguments last ∧ last.resolve = .ok after) ↔
      ∃ settings, Says place arguments settings ∧ Fit given settings ∧
        putAll settings given = after := by
  constructor
  · rintro ⟨last, passes, hlast⟩
    exact (passes.remaining hlast).of_settled settled
  · rintro ⟨settings, said, fit, rfl⟩
    exact said.passes settled fit

end Several

end SchemaLedger.CommandLine
