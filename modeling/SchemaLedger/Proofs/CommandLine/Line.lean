import SchemaLedger.Proofs.CommandLine.Grammar

/-! # Command lines

A command line is options, the command, and its options. What it is read as depends only on what is
said at the two places. -/

namespace SchemaLedger.CommandLine

open Setting (putAll)

/-! ## The two places -/

section Places

variable {verb : Verb} {reading next : Reading} {given before after : Given}
  {argument : Octets} {arguments rest : List Octets} {cli : Invocation}

theorem form_eq_separator_iff : form argument = .separator ↔ argument = [dash, dash] := by
  rw [form_eq_iff]
  constructor
  · rintro ⟨⟩
    rfl
  · rintro rfl
    exact .separator

theorem readOptions_cons : readOptions verb reading (argument :: rest) =
    if argument = [dash, dash] then
      if rest = [] then finish verb reading else .error .unknownArgument
    else reading.advance (some verb) argument >>= fun next => readOptions verb next rest := by
  rw [readOptions, Reading.advance]
  by_cases hargument : argument = [dash, dash]
  · rw [if_pos hargument, form_eq_separator_iff.mpr hargument]
  · rw [if_neg hargument]
    cases hform : form argument with
    | separator => exact absurd (form_eq_separator_iff.mp hform) hargument
    | long | letters => rfl
    | plain => cases reading.hold? argument <;> rfl

theorem readOptions_eq_ok_iff : readOptions verb reading arguments = .ok after ↔
    ∃ options marker last, arguments = options ++ marker ∧
      (marker = [] ∨ marker = [[dash, dash]]) ∧ Passes (some verb) reading options last ∧
      finish verb last = .ok after := by
  induction arguments generalizing reading with
  | nil =>
      constructor
      · intro h
        exact ⟨[], [], reading, rfl, .inl rfl, .nil reading, h⟩
      · rintro ⟨options, marker, last, happend, -, passes, h⟩
        obtain ⟨rfl, -⟩ := List.append_eq_nil_iff.mp happend.symm
        cases passes
        exact h
  | cons argument rest ih =>
      rw [readOptions_cons]
      constructor
      · intro h
        split at h
        · next hargument =>
            subst hargument
            split at h
            · next hrest =>
                subst hrest
                exact ⟨[], _, reading, rfl, .inr rfl, .nil reading, h⟩
            · cases h
        · obtain ⟨next, hadvance, h⟩ := bind_eq_ok_iff.mp h
          obtain ⟨options, marker, last, rfl, hmarker, passes, h⟩ := ih.mp h
          exact ⟨argument :: options, marker, last, rfl, hmarker,
            .cons (Reading.step_of_advance hadvance) passes, h⟩
      · rintro ⟨options, marker, last, happend, hmarker, passes, h⟩
        cases passes with
        | nil =>
            rcases hmarker with rfl | rfl
            · cases happend
            · cases happend
              rw [if_pos rfl, if_pos rfl]
              exact h
        | @cons _ next _ _ options step passes =>
            obtain ⟨rfl, rfl⟩ := List.cons.inj happend
            have hadvance := Reading.advance_of_step step
            -- The marker is no option, so it takes no step.
            have hargument : argument ≠ [dash, dash] := by
              rintro rfl
              cases hadvance
            rw [if_neg hargument]
            exact bind_eq_ok_iff.mpr
              ⟨next, hadvance, ih.mpr ⟨options, marker, last, rfl, hmarker, passes, h⟩⟩

theorem verb?_eq_some_iff : verb? argument = some verb ↔
    argument = Text.octets verb.name ∨ verb = .setup ∧ argument = Text.octets "init" := by
  rw [verb?, Option.bind_eq_some_iff]
  constructor
  · rintro ⟨name, hname, hverb⟩
    obtain rfl := Text.octets_of_ofOctets? hname
    unfold Verb.ofName? at hverb
    split at hverb <;> cases hverb <;> simp [Verb.name]
  · rintro (rfl | ⟨rfl, rfl⟩)
    · exact ⟨verb.name, Text.ofOctets?_octets _, by cases verb <;> rfl⟩
    · exact ⟨"init", Text.ofOctets?_octets _, rfl⟩

theorem plain_of_verb? (h : verb? argument = some verb) :
    form argument = .plain ∧ isHelpWord argument = false := by
  rcases verb?_eq_some_iff.mp h with rfl | ⟨-, rfl⟩
  · cases verb <;> decide
  · decide

theorem hold?_eq_none_of_resolve (settled : reading.resolve = .ok given) (value : Octets) :
    reading.hold? value = none := by
  obtain ⟨before, pending⟩ := reading
  cases pending with
  | awaiting key => cases settled
  | nothing | holding => rfl

theorem readFrom_cons_of_verb? (h : verb? argument = some verb)
    (settled : reading.resolve = .ok before) : readFrom reading (argument :: rest) =
      readOptions verb .start rest >>= fun after =>
        compatible before >>= fun _ => .ok (invocation verb before after) := by
  obtain ⟨hplain, hhelp⟩ := plain_of_verb? h
  unfold readFrom
  rw [hplain]
  simp only [hold?_eq_none_of_resolve settled, hhelp, h, settled]
  rfl

theorem readFrom_cons_of_step (step : Step none reading argument next) :
    readFrom reading (argument :: rest) = readFrom next rest := by
  have hadvance := Reading.advance_of_step step
  conv => lhs; unfold readFrom
  cases hform : form argument with
  | separator =>
      rw [Reading.advance, hform] at hadvance
      cases hadvance
  | long name value? =>
      rw [Reading.advance, hform] at hadvance
      exact bind_eq_of_ok hadvance
  | letters octets =>
      rw [Reading.advance, hform] at hadvance
      exact bind_eq_of_ok hadvance
  | plain =>
      have hhold := Reading.hold?_of_advance hform hadvance
      simp only [hhold]

/-- Before the command, an argument is an option or a part of one, or the command itself. -/
theorem step_or_verb (h : readFrom reading (argument :: rest) = .ok cli) :
    (∃ next, Step none reading argument next ∧ readFrom next rest = .ok cli) ∨
    ∃ verb before after, verb? argument = some verb ∧ reading.resolve = .ok before ∧
      readOptions verb .start rest = .ok after ∧ compatible before = .ok () ∧
      cli = invocation verb before after := by
  unfold readFrom at h
  cases hform : form argument with
  | separator =>
      rw [hform] at h
      cases rest <;> cases h
  | long name value? =>
      rw [hform] at h
      obtain ⟨next, hlong, h⟩ := bind_eq_ok_iff.mp h
      have hadvance : reading.advance none argument = .ok next := by
        rw [Reading.advance, hform]
        exact hlong
      exact .inl ⟨next, Reading.step_of_advance hadvance, h⟩
  | letters octets =>
      rw [hform] at h
      obtain ⟨next, hletters, h⟩ := bind_eq_ok_iff.mp h
      have hadvance : reading.advance none argument = .ok next := by
        rw [Reading.advance, hform]
        exact hletters
      exact .inl ⟨next, Reading.step_of_advance hadvance, h⟩
  | plain =>
      rw [hform] at h
      dsimp only at h
      split at h
      · next next hhold =>
          have hadvance : reading.advance none argument = .ok next := by
            simp only [Reading.advance, hform, hhold]
          exact .inl ⟨next, Reading.step_of_advance hadvance, h⟩
      · split at h
        · cases h
        · split at h
          · next verb hverb =>
              obtain ⟨after, hafter, h⟩ := bind_eq_ok_iff.mp h
              obtain ⟨before, settled, h⟩ := bind_eq_ok_iff.mp h
              obtain ⟨⟨⟩, hcompatible, h⟩ := bind_eq_ok_iff.mp h
              cases h
              exact .inr ⟨verb, before, after, hverb, settled, hafter, hcompatible, rfl⟩
          · cases h

/-- A command line is options, the command, and its options. -/
theorem readFrom_eq_ok_iff : readFrom reading arguments = .ok cli ↔
    ∃ options word rest last verb before after, arguments = options ++ word :: rest ∧
      Passes none reading options last ∧ verb? word = some verb ∧ last.resolve = .ok before ∧
      readOptions verb .start rest = .ok after ∧ compatible before = .ok () ∧
      cli = invocation verb before after := by
  constructor
  · intro h
    induction arguments generalizing reading with
    | nil => cases h
    | cons argument rest ih =>
        obtain ⟨next, step, h⟩ | ⟨verb, before, after, h⟩ := step_or_verb h
        · obtain ⟨options, word, rest, last, verb, before, after, rfl, passes, h⟩ := ih h
          exact ⟨argument :: options, word, rest, last, verb, before, after, rfl,
            .cons step passes, h⟩
        · exact ⟨[], argument, rest, reading, verb, before, after, rfl, .nil reading, h⟩
  · rintro ⟨options, word, rest, last, verb, before, after, rfl, passes, hverb, settled, hafter,
      hcompatible, rfl⟩
    induction passes with
    | nil reading =>
        rw [List.nil_append, readFrom_cons_of_verb? hverb settled]
        exact bind_eq_ok_iff.mpr ⟨after, hafter, bind_eq_ok_iff.mpr ⟨(), hcompatible, rfl⟩⟩
    | cons step _ ih =>
        rw [List.cons_append, readFrom_cons_of_step step]
        exact ih settled

end Places

/-! ## What a command line says -/

/-- What is said before a command and after it. The options of the command may end with a marker. -/
inductive Line (verb : Verb) (before after : Given) : List Octets → Prop
  | intro {options rest marker : List Octets} {word : Octets} {front back : List Setting}
    (command : verb? word = some verb) (marked : marker = [] ∨ marker = [[dash, dash]])
    (first : Says none options front) (second : Says (some verb) rest back)
    (firstFit : Fit .none front) (secondFit : Fit .none back)
    (firstAll : putAll front .none = before) (secondAll : putAll back .none = after) :
    Line verb before after (options ++ word :: (rest ++ marker))

/-- Which settings may stand together before and after a command. `quiet` and `verbose` exclude each
other at one place only. -/
structure Together (verb : Verb) (before after : Given) : Prop where
  slug : verb = .new → after.slug? ≠ none
  before : before.quiet = true → before.verbose = 0
  after : after.quiet = true → after.verbose = 0

theorem compatible_eq_ok_iff {given : Given} :
    compatible given = .ok () ↔ (given.quiet = true → given.verbose = 0) := by
  rw [compatible]
  split <;> simp_all

theorem finish_eq_ok_iff {verb : Verb} {reading : Reading} {after : Given} :
    finish verb reading = .ok after ↔ reading.resolve = .ok after ∧
      (after.quiet = true → after.verbose = 0) ∧ (verb = .new → after.slug? ≠ none) := by
  have hslug : (verb = .new && after.slug?.isNone) = true ↔ verb = .new ∧ after.slug? = none := by
    simp
  rw [finish, bind_eq_ok_iff]
  constructor
  · rintro ⟨given, settled, h⟩
    obtain ⟨⟨⟩, hcompatible, h⟩ := bind_eq_ok_iff.mp h
    split at h
    · cases h
    · next hpresent =>
        cases h
        refine ⟨settled, compatible_eq_ok_iff.mp hcompatible, fun hnew hnone => ?_⟩
        exact hpresent (hslug.mpr ⟨hnew, hnone⟩)
  · rintro ⟨settled, hcompatible, hpresent⟩
    refine ⟨after, settled, bind_eq_ok_iff.mpr ⟨(), compatible_eq_ok_iff.mpr hcompatible, ?_⟩⟩
    rw [if_neg]
    rintro h
    obtain ⟨hnew, hnone⟩ := hslug.mp h
    exact hpresent hnew hnone

theorem start_resolve : Reading.start.resolve = .ok .none := rfl

/-- What a command line is read as depends on nothing but what is said before the command and after
it. -/
theorem read_eq_ok_iff {arguments : List Octets} {cli : Invocation} : read arguments = .ok cli ↔
    ∃ verb before after, Line verb before after arguments ∧ Together verb before after ∧
      cli = invocation verb before after := by
  rw [read, readFrom_eq_ok_iff]
  constructor
  · rintro ⟨options, word, rest, last, verb, before, after, rfl, passes, command, settled, hafter,
      hcompatible, rfl⟩
    obtain ⟨front, first, firstFit, firstAll⟩ :=
      (passes_iff start_resolve).mp ⟨last, passes, settled⟩
    obtain ⟨rest, marker, last, rfl, marked, passes, hfinish⟩ := readOptions_eq_ok_iff.mp hafter
    obtain ⟨settled, hafter, slug⟩ := finish_eq_ok_iff.mp hfinish
    obtain ⟨back, second, secondFit, secondAll⟩ :=
      (passes_iff start_resolve).mp ⟨last, passes, settled⟩
    exact ⟨verb, before, after,
      ⟨command, marked, first, second, firstFit, secondFit, firstAll, secondAll⟩,
      ⟨slug, compatible_eq_ok_iff.mp hcompatible, hafter⟩, rfl⟩
  · rintro ⟨verb, before, after,
      ⟨command, marked, first, second, firstFit, secondFit, firstAll, secondAll⟩, together, rfl⟩
    obtain ⟨last, passes, settled⟩ :=
      (passes_iff start_resolve).mpr ⟨_, first, firstFit, firstAll⟩
    obtain ⟨last', passes', settled'⟩ :=
      (passes_iff start_resolve).mpr ⟨_, second, secondFit, secondAll⟩
    have hafter := readOptions_eq_ok_iff.mpr ⟨_, _, last', rfl, marked, passes',
      finish_eq_ok_iff.mpr ⟨settled', together.after, together.slug⟩⟩
    exact ⟨_, _, _, last, verb, before, after, rfl, passes, command, settled, hafter,
      compatible_eq_ok_iff.mpr together.before, rfl⟩

/-! ## Values on the command line -/

/-- Whether arguments give an option a value, in the same argument or in the next. -/
inductive Gives (key : Key) (value : Octets) : List Octets → Prop
  | attached (rest : List Octets) : Gives key value (attached (Text.octets key.name) value :: rest)
  | separate (rest : List Octets) : Gives key value (alone (Text.octets key.name) :: value :: rest)
  | later (argument : Octets) {rest : List Octets} (h : Gives key value rest) :
    Gives key value (argument :: rest)

def allows (place : Option Verb) : Key ⊕ Flag → Bool :=
  Sum.elim (Key.allowed place) (Flag.allowed place)

section Values

variable {place : Option Verb} {key : Key} {value argument : Octets} {s : Setting}
  {arguments tail : List Octets} {settings : List Setting}

theorem Gives.append (options : List Octets) (gives : Gives key value tail) :
    Gives key value (options ++ tail) := by
  induction options with
  | nil => exact gives
  | cons argument _ ih => exact .later argument ih

theorem gives_cons (gives : Gives key value (argument :: tail)) :
    Shaped argument (.long (Text.octets key.name) (some value)) ∨
    (Shaped argument (.long (Text.octets key.name) none) ∧ ∃ rest, tail = value :: rest) ∨
    Gives key value tail := by
  cases gives with
  | attached => exact .inl (.attached value key.plain_name.1)
  | separate rest => exact .inr (.inl ⟨.alone key.plain_name.1 key.plain_name.2, rest, rfl⟩)
  | later _ h => exact .inr (.inr h)

theorem Gives.of_cons {f : Form} (gives : Gives key value (argument :: tail))
    (shaped : Shaped argument f) (other : ∀ value?, f ≠ .long (Text.octets key.name) value?) :
    Gives key value tail := by
  rcases gives_cons gives with h | ⟨h, -⟩ | h
  · exact absurd (shaped.unique h) (other _)
  · exact absurd (shaped.unique h) (other _)
  · exact h

theorem flag_of_letters {octets : Octets} {cluster : List Setting}
    (each : List.Forall₂ (Letter place) octets cluster) (hs : s ∈ cluster) :
    ∃ flag : Flag, flag.allowed place = true ∧ s.option = .inr flag := by
  induction each with
  | nil => cases hs
  | cons letter _ ih =>
      rcases List.mem_cons.mp hs with rfl | hs
      · obtain ⟨allowed, -, -, sets⟩ := letter
        exact ⟨_, allowed, sets⟩
      · exact ih hs

theorem Says.allowed (said : Says place arguments settings) (hs : s ∈ settings) :
    allows place s.option = true := by
  induction said with
  | nil => cases hs
  | attached allowed means _ ih | separate allowed means _ _ ih =>
      rcases List.mem_cons.mp hs with rfl | hs
      · rw [means.option_eq]
        exact allowed
      · exact ih hs
  | flag allowed sets _ ih =>
      rcases List.mem_cons.mp hs with rfl | hs
      · rw [sets]
        exact allowed
      · exact ih hs
  | letters _ each _ ih =>
      rcases List.mem_append.mp hs with hs | hs
      · obtain ⟨flag, allowed, sets⟩ := flag_of_letters each hs
        rw [sets]
        exact allowed
      · exact ih hs

theorem Says.means_of_gives (said : Says place arguments settings)
    (gives : Gives key value (arguments ++ tail)) :
    (∃ s ∈ settings, Means key value s) ∨ Gives key value tail := by
  have later {s : Setting} {settings : List Setting}
      (h : (∃ s ∈ settings, Means key value s) ∨ Gives key value tail) :
      (∃ t ∈ s :: settings, Means key value t) ∨ Gives key value tail :=
    h.imp_left fun ⟨t, ht, means⟩ => ⟨t, List.mem_cons_of_mem s ht, means⟩
  induction said with
  | nil => exact .inr gives
  | @attached key' value' s rest settings _ means _ ih =>
      have shaped := Shaped.attached value' key'.plain_name.1
      rcases gives_cons gives with h | ⟨h, -⟩ | h
      · obtain ⟨hname, hvalue⟩ := Form.long.inj (shaped.unique h)
        obtain rfl := Key.name_injective (Text.octets_injective hname)
        obtain rfl := Option.some.inj hvalue
        exact .inl ⟨s, List.mem_cons_self, means⟩
      · cases (Form.long.inj (shaped.unique h)).2
      · exact later (ih h)
  | @separate key' value' s rest settings _ means plain _ ih =>
      have shaped := Shaped.alone key'.plain_name.1 key'.plain_name.2
      rcases gives_cons gives with h | ⟨h, _, hrest⟩ | h
      · cases (Form.long.inj (shaped.unique h)).2
      · obtain ⟨hname, -⟩ := Form.long.inj (shaped.unique h)
        obtain rfl := Key.name_injective (Text.octets_injective hname)
        obtain ⟨rfl, -⟩ := List.cons.inj hrest
        exact .inl ⟨s, List.mem_cons_self, means⟩
      · exact later (ih (h.of_cons (.plain plain) nofun))
  | @flag flag s rest settings _ _ _ ih =>
      refine later (ih (gives.of_cons (.alone flag.plain_name.1 flag.plain_name.2) ?_))
      intro value? h
      exact key.name_ne flag (Form.long.inj h).1.symm
  | @letters octets cluster rest settings present each _ ih =>
      have h := ih (gives.of_cons (Reading.shaped_letters present each) nofun)
      exact h.imp_left fun ⟨t, ht, means⟩ => ⟨t, List.mem_append_right cluster ht, means⟩

theorem Says.gives (said : Says place arguments settings) (tail : List Octets) (hs : s ∈ settings)
    (hkey : s.option = .inl key) :
    ∃ value, Gives key value (arguments ++ tail) ∧ Means key value s := by
  induction said with
  | nil => cases hs
  | @attached key' value _ rest _ _ means _ ih =>
      rcases List.mem_cons.mp hs with rfl | hs
      · obtain rfl := Sum.inl.inj (means.option_eq.symm.trans hkey)
        exact ⟨value, .attached (rest ++ tail), means⟩
      · obtain ⟨value', gives, means⟩ := ih hs
        exact ⟨value', .later _ gives, means⟩
  | @separate key' value _ rest _ _ means _ _ ih =>
      rcases List.mem_cons.mp hs with rfl | hs
      · obtain rfl := Sum.inl.inj (means.option_eq.symm.trans hkey)
        exact ⟨value, .separate (rest ++ tail), means⟩
      · obtain ⟨value', gives, means⟩ := ih hs
        exact ⟨value', .later _ (.later _ gives), means⟩
  | flag _ sets _ ih =>
      rcases List.mem_cons.mp hs with rfl | hs
      · cases sets.symm.trans hkey
      · obtain ⟨value, gives, means⟩ := ih hs
        exact ⟨value, .later _ gives, means⟩
  | letters _ each _ ih =>
      rcases List.mem_append.mp hs with hs | hs
      · obtain ⟨flag, -, sets⟩ := flag_of_letters each hs
        cases sets.symm.trans hkey
      · obtain ⟨value, gives, means⟩ := ih hs
        exact ⟨value, .later _ gives, means⟩

end Values

/-! ## IDs on the command line -/

/-- The ID that a command has from an option. -/
def Command.ident? : Command → Key → Option Ident
  | .migrate _ limit?, .limit => limit?
  | .new _ id? _, .id => id?
  | _, _ => none

section Idents

variable {arguments : List Octets} {cli : Invocation} {key : Key} {value : Octets} {id : Ident}

/-- An ID that has been read was given as a text of it. -/
theorem text_of_ident (h : read arguments = .ok cli) (hid : cli.command.ident? key = some id) :
    ∃ text, Gives key (Text.octets text) arguments ∧ Ident.parse text = .ok id := by
  obtain ⟨verb, _, _, @⟨options, rest, marker, word, front, back, -, -, -, second, -, secondFit, -,
    rfl⟩, -, rfl⟩ := read_eq_ok_iff.mp h
  have hgives {s : Setting} (hin : s.In (putAll back .none)) (hkey : s.option = .inl key) :
      ∃ value, Gives key value (options ++ word :: (rest ++ marker)) ∧ Means key value s := by
    have hs : s ∈ back := ((in_putAll secondFit).mp hin).resolve_right (not_in_none s)
    obtain ⟨value, gives, means⟩ := second.gives marker hs hkey
    exact ⟨value, .append options (.later word gives), means⟩
  cases verb <;> cases key <;> try cases hid
  · obtain ⟨_, gives, means⟩ := hgives (s := .limit id) hid rfl
    cases means with
    | limit reads => exact ⟨_, gives, reads⟩
  · obtain ⟨_, gives, means⟩ := hgives (s := .id id) hid rfl
    cases means with
    | id reads => exact ⟨_, gives, reads⟩

/-- What is given for an ID is a text of the ID that has been read. -/
theorem ident_of_text (h : read arguments = .ok cli) (hkey : key = .id ∨ key = .limit)
    (gives : Gives key value arguments) :
    ∃ text id, value = Text.octets text ∧ Ident.parse text = .ok id ∧
      cli.command.ident? key = some id := by
  obtain ⟨verb, _, _, @⟨options, rest, marker, word, front, back, command, marked, first, second, -,
    secondFit, -, rfl⟩, -, rfl⟩ := read_eq_ok_iff.mp h
  -- Neither option is allowed before the command, and a command is no option.
  have hrest : Gives key value (rest ++ marker) := by
    rcases first.means_of_gives gives with ⟨s, hs, means⟩ | gives
    · have hallowed := first.allowed hs
      rw [means.option_eq] at hallowed
      rcases hkey with rfl | rfl <;> cases hallowed
    · exact gives.of_cons (form_eq_iff.mp (plain_of_verb? command).1) nofun
  obtain ⟨s, hs, means⟩ : ∃ s ∈ back, Means key value s := by
    refine (second.means_of_gives hrest).resolve_right fun gives => ?_
    rcases marked with rfl | rfl
    · cases gives
    · cases gives.of_cons .separator nofun
  have hallowed := second.allowed hs
  have hin : s.In (putAll back .none) := (in_putAll secondFit).mpr (.inl hs)
  rw [means.option_eq] at hallowed
  rcases hkey with rfl | rfl
  · cases means with
    | @id text id reads =>
        cases verb <;> cases hallowed
        exact ⟨text, id, rfl, reads, hin⟩
  · cases means with
    | @limit text id reads =>
        cases verb <;> cases hallowed
        exact ⟨text, id, rfl, reads, hin⟩

end Idents

end SchemaLedger.CommandLine
