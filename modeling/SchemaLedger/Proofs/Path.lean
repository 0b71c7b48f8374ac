import SchemaLedger.Path

/-! # The moves of a path

Joining a name adds one move. A parent makes a beginning of the moves, and what replaces the last
name of a path is below the same directory as that name. -/

namespace SchemaLedger

/-! ## Parts -/

namespace Text

variable {α : Type} [DecidableEq α] {separator : α}

theorem split_append_cons (front back : List α) :
    split separator (front ++ separator :: back) =
      split separator front ++ split separator back := by
  induction front with
  | nil => simp [split]
  | cons a rest ih =>
      rw [List.cons_append, split, split, ih]
      split
      · rfl
      · cases hrest : split separator rest with
        | nil => exact absurd hrest (split_ne_nil separator rest)
        | cons part parts => rfl

theorem split_of_not_mem {text : List α} (h : separator ∉ text) :
    split separator text = [text] := by
  induction text with
  | nil => rfl
  | cons a rest ih =>
      obtain ⟨hfirst, hrest⟩ := List.ne_and_not_mem_of_not_mem_cons h
      rw [split, if_neg (Ne.symm hfirst), ih hrest]

theorem not_mem_of_mem_split {text part : List α} (h : part ∈ split separator text) :
    separator ∉ part := by
  induction text generalizing part with
  | nil =>
      rw [List.mem_singleton.mp h]
      exact List.not_mem_nil
  | cons a rest ih =>
      rw [split] at h
      split at h
      · rcases List.mem_cons.mp h with rfl | h
        · exact List.not_mem_nil
        · exact ih h
      · next hother =>
          cases hrest : split separator rest with
          | nil => exact absurd hrest (split_ne_nil separator rest)
          | cons first parts =>
              rw [hrest] at h ih
              rcases List.mem_cons.mp h with rfl | h
              · intro hmem
                rcases List.mem_cons.mp hmem with heq | hmem
                · exact hother heq.symm
                · exact ih List.mem_cons_self hmem
              · exact ih (List.mem_cons_of_mem _ h)

theorem mem_of_mem_split {text part : List α} {a : α} (h : part ∈ split separator text)
    (ha : a ∈ part) : a ∈ text := by
  induction text generalizing part with
  | nil =>
      rw [List.mem_singleton.mp h] at ha
      cases ha
  | cons b rest ih =>
      rw [split] at h
      split at h
      · rcases List.mem_cons.mp h with rfl | h
        · cases ha
        · exact List.mem_cons_of_mem b (ih h ha)
      · cases hrest : split separator rest with
        | nil => exact absurd hrest (split_ne_nil separator rest)
        | cons first parts =>
            rw [hrest] at h ih
            rcases List.mem_cons.mp h with rfl | h
            · rcases List.mem_cons.mp ha with rfl | ha
              · exact List.mem_cons_self
              · exact List.mem_cons_of_mem b (ih List.mem_cons_self ha)
            · exact List.mem_cons_of_mem b (ih (List.mem_cons_of_mem _ h) ha)

theorem split_unsplit {parts : List (List α)} (present : parts ≠ [])
    (h : ∀ part ∈ parts, separator ∉ part) : split separator (unsplit separator parts) = parts := by
  induction parts with
  | nil => exact absurd rfl present
  | cons part rest ih =>
      have hpart : split separator part = [part] := split_of_not_mem (h part List.mem_cons_self)
      cases rest with
      | nil => exact hpart
      | cons next others =>
          have hrest := ih (List.cons_ne_nil _ _)
            fun other hother => h other (List.mem_cons_of_mem _ hother)
          rw [unsplit, split_append_cons, hpart, hrest]
          · rfl
          · exact fun hnone => List.cons_ne_nil _ _ hnone

end Text

namespace Path

def move? (part : Name) : Option Step :=
  if part = [] then none
  else if part = dot then some .stay
  else if part = dotDot then some .up
  else some (.down part)

theorem steps_eq (p : Path) : p.steps = p.parts.filterMap move? := rfl

/-- A name that stands for an entry of its directory and for nothing else. -/
def Plain (name : Name) : Prop := slash ∉ name ∧ name ≠ [] ∧ name ≠ dot ∧ name ≠ dotDot

theorem Plain.move? {name : Name} (h : Plain name) : Path.move? name = some (.down name) := by
  rw [Path.move?, if_neg h.2.1, if_neg h.2.2.1, if_neg h.2.2.2]

theorem plain_of_mem_steps {p : Path} {name : Name} (h : .down name ∈ p.steps) :
    Plain name ∧ ∀ octet ∈ name, octet ∈ p.octets := by
  obtain ⟨part, hpart, hmove⟩ := List.mem_filterMap.mp h
  by_cases hnone : part = []
  · simp [hnone] at hmove
  by_cases hdot : part = dot
  · simp [hdot, dot] at hmove
  by_cases hdotDot : part = dotDot
  · simp [hdotDot, dot, dotDot] at hmove
  have hname : part = name := by simpa [hnone, hdot, hdotDot] using hmove
  rw [← hname]
  exact ⟨⟨Text.not_mem_of_mem_split hpart, hnone, hdot, hdotDot⟩,
    fun _ => Text.mem_of_mem_split hpart⟩

theorem steps_slashes (front : Octets) (n : Nat) :
    steps ⟨front ++ List.replicate n slash⟩ = steps ⟨front⟩ := by
  induction n with
  | zero => rw [List.replicate_zero, List.append_nil]
  | succ n ih =>
      have hlast : (Text.split slash []).filterMap move? = [] := rfl
      rw [List.replicate_succ', ← List.append_assoc, steps_eq, parts, Text.split_append_cons,
        List.filterMap_append, hlast, List.append_nil]
      exact ih

theorem isAbsolute_iff (p : Path) :
    p.isAbsolute = true ↔ ∃ part rest, p.parts = [] :: part :: rest := by
  obtain ⟨octets⟩ := p
  cases octets with
  | nil => simp [isAbsolute, parts, Text.split]
  | cons a rest =>
      rw [parts, Text.split]
      cases hrest : Text.split slash rest with
      | nil => exact absurd hrest (Text.split_ne_nil slash rest)
      | cons part others =>
          by_cases hslash : a = slash
          · simp [isAbsolute, hslash]
          · simp [isAbsolute, hslash]

/-! ## Joining -/

theorem Plain.head_ne {name : Name} (h : Plain name) : name.head? ≠ some slash :=
  fun hhead => h.1 (List.mem_of_mem_head? hhead)

/-- The spelling up to and with the last slash. -/
theorem join_octets {p : Path} {name : Name} (plain : Plain name) :
    ∃ front, (p.join name).octets = front ++ name ∧
      ((front = [] ∧ p.octets = []) ∨ ∃ base, front = base ++ [slash] ∧
        (p.octets = base ∨ p.octets = base ++ [slash])) := by
  rw [join, if_neg plain.head_ne]
  by_cases hends : p.octets = [] ∨ p.endsInSlash = true
  · rw [if_pos (by simpa using hends)]
    refine ⟨p.octets, rfl, ?_⟩
    rcases hends with hnone | hends
    · exact .inl ⟨hnone, hnone⟩
    · have hlast : p.octets.getLast? = some slash := by simpa [endsInSlash] using hends
      obtain ⟨base, hbase⟩ := List.getLast?_eq_some_iff.mp hlast
      exact .inr ⟨base, hbase, .inr hbase⟩
  · rw [if_neg (by simpa using hends)]
    refine ⟨p.octets ++ [slash], by simp, .inr ⟨p.octets, rfl, .inl rfl⟩⟩

theorem parts_join {p : Path} {name : Name} (plain : Plain name) (present : p.octets ≠ []) :
    ∃ base, (p.join name).parts = base ++ [name] ∧ base ≠ [] ∧
      (p.parts = base ∨ p.parts = base ++ [[]]) := by
  obtain ⟨front, hjoin, ⟨_, hnone⟩ | ⟨base, rfl, hbase⟩⟩ := join_octets (p := p) plain
  · exact absurd hnone present
  · refine ⟨Text.split slash base, ?_, Text.split_ne_nil slash base, ?_⟩
    · rw [parts, hjoin, List.append_assoc]
      exact (Text.split_append_cons base name).trans
        (congrArg (Text.split slash base ++ ·) (Text.split_of_not_mem plain.1))
    · rw [parts]
      rcases hbase with hbase | hbase
      · exact .inl (by rw [hbase])
      · right
        rw [hbase, Text.split_append_cons base []]
        rfl

theorem join_of_empty {p : Path} {name : Name} (plain : Plain name) (h : p.octets = []) :
    p.join name = ⟨name⟩ := by
  rw [join, if_neg plain.head_ne, if_pos (by simp [h]), h, List.nil_append]

theorem steps_join (p : Path) {name : Name} (plain : Plain name) :
    (p.join name).steps = p.steps ++ [.down name] := by
  have hname : [name].filterMap Path.move? = [.down name] := by
    rw [List.filterMap_cons, plain.move?]
    rfl
  by_cases hnone : p.octets = []
  · have hparts : p.parts = [[]] := by rw [parts, hnone, Text.split]
    rw [join_of_empty plain hnone, steps_eq, steps_eq, hparts]
    exact (congrArg (List.filterMap Path.move?) (Text.split_of_not_mem plain.1)).trans hname
  · obtain ⟨base, hjoin, _, hparts⟩ := parts_join plain hnone
    have hbase : p.parts.filterMap Path.move? = base.filterMap Path.move? := by
      rcases hparts with hparts | hparts <;> rw [hparts]
      simp [move?]
    rw [steps_eq, steps_eq, hjoin, List.filterMap_append, hname, hbase]

theorem isAbsolute_join (p : Path) {name : Name} (plain : Plain name) :
    (p.join name).isAbsolute = p.isAbsolute := by
  by_cases hnone : p.octets = []
  · rw [join_of_empty plain hnone, isAbsolute, isAbsolute, hnone]
    simpa using plain.head_ne
  · obtain ⟨front, hjoin, ⟨_, habsent⟩ | ⟨base, rfl, hbase⟩⟩ := join_octets (p := p) plain
    · exact absurd habsent hnone
    · rw [isAbsolute, isAbsolute, hjoin]
      rcases hbase with hbase | hbase <;> rw [hbase]
      · cases base with
        | nil => exact absurd hbase hnone
        | cons a rest => rfl
      · cases base <;> rfl

/-! ## Parents -/

def Idle (parts : List Name) : Prop := ∀ part ∈ parts, part = [] ∨ part = dot

theorem Idle.reverse {parts : List Name} (h : Idle parts) : Idle parts.reverse :=
  fun part hpart => h part (List.mem_reverse.mp hpart)

theorem Idle.stays {parts : List Name} (h : Idle parts) :
    ∀ step ∈ parts.filterMap move?, step = .stay := by
  intro step hstep
  obtain ⟨part, hpart, hmove⟩ := List.mem_filterMap.mp hstep
  rcases h part hpart with rfl | rfl
  · cases hmove
  · exact (Option.some.inj hmove).symm

theorem dropIdle_spec (parts : List Name) :
    ∃ skipped, parts = skipped ++ dropIdle parts ∧ Idle skipped := by
  induction parts with
  | nil => exact ⟨[], rfl, nofun⟩
  | cons part rest ih =>
      cases rest with
      | nil => exact ⟨[], rfl, nofun⟩
      | cons next others =>
          rw [dropIdle]
          split
          · next hidle =>
              obtain ⟨skipped, hsplit, hskipped⟩ := ih
              refine ⟨part :: skipped, by rw [List.cons_append, ← hsplit], ?_⟩
              intro other hother
              rcases List.mem_cons.mp hother with rfl | hother
              · exact hidle
              · exact hskipped other hother
          · exact ⟨[], rfl, nofun⟩
          · exact List.cons_ne_nil _ _

theorem dropIdle_ne_nil {parts : List Name} (h : parts ≠ []) : dropIdle parts ≠ [] := by
  induction parts with
  | nil => exact absurd rfl h
  | cons part rest ih =>
      cases rest with
      | nil => simp [dropIdle]
      | cons next others =>
          rw [dropIdle]
          split
          · exact ih (List.cons_ne_nil _ _)
          · exact List.cons_ne_nil _ _
          · exact List.cons_ne_nil _ _

theorem dropIdle_head {parts rest : List Name} {part next : Name}
    (h : dropIdle parts = part :: next :: rest) : part ≠ [] := by
  induction parts with
  | nil => cases h
  | cons first others ih =>
      cases others with
      | nil => cases h
      | cons second others =>
          rw [dropIdle] at h
          · split at h
            · exact ih h
            · next hnamed =>
                cases h
                exact fun hnone => hnamed (.inl hnone)
          · exact List.cons_ne_nil _ _

theorem parts_ofParts {parts : List Name} (hne : parts ≠ [])
    (hkept : ∀ part ∈ parts, slash ∉ part) : (ofParts parts).parts = parts :=
  Text.split_unsplit hne hkept

/-- More parts make no relative path absolute, unless there were none that count. -/
theorem isAbsolute_of_parts {p q : Path} {more : List Name} (h : p.parts = q.parts ++ more)
    (hroot : q.parts ≠ [[]]) : q.isAbsolute = p.isAbsolute := by
  rw [Bool.eq_iff_iff, isAbsolute_iff, isAbsolute_iff, h]
  cases hparts : q.parts with
  | nil => exact absurd hparts (Text.split_ne_nil _ _)
  | cons first others =>
      cases others with
      | cons second others => simp
      | nil =>
          have hfirst : first ≠ [] := by
            rintro rfl
            exact hroot hparts
          simp [hfirst]

/-- A parent is what stands before the last part that counts, less the parts that name nothing
in between. -/
theorem parent?_split {p q : Path} (h : p.parent? = some q) :
    ∃ base idle last rest, p.parts = base ++ idle ++ last :: rest ∧ last ≠ [] ∧ Idle idle ∧
      Idle rest ∧ ((base = [] ∧ idle = [] ∧ q = empty) ∨ (base = [[]] ∧ q = root) ∨
        (base ≠ [] ∧ base ≠ [[]] ∧ q = ofParts base)) := by
  -- Twice from the end: idle parts, then the last part that counts, then idle parts again.
  obtain ⟨skipped, hsplit, hskipped⟩ := dropIdle_spec p.parts.reverse
  have hparts : p.parts = (dropIdle p.parts.reverse).reverse ++ skipped.reverse := by
    rw [← List.reverse_append, ← hsplit, List.reverse_reverse]
  rw [parent?] at h
  cases hlast : dropIdle p.parts.reverse with
  | nil => simp [hlast] at h
  | cons last others =>
      rw [hlast] at h hparts
      cases others with
      | nil =>
          dsimp only at h
          by_cases hnone : last = []
          · simp [hnone] at h
          · rw [if_neg hnone] at h
            cases h
            have hidle : Idle [] := by simp [Idle]
            exact ⟨[], [], last, _, hparts, hnone, hidle, hskipped.reverse, .inl ⟨rfl, rfl, rfl⟩⟩
      | cons next others =>
          obtain ⟨idle, hbase, hidle⟩ := dropIdle_spec (next :: others)
          have hall : p.parts = (dropIdle (next :: others)).reverse ++ idle.reverse ++
              last :: skipped.reverse := by
            rw [hparts, List.reverse_cons, ← List.reverse_append, ← hbase, List.append_assoc]
            rfl
          refine ⟨_, _, last, _, hall, dropIdle_head hlast, hidle.reverse, hskipped.reverse,
            .inr ?_⟩
          dsimp only at h
          split at h
          · next hroot =>
              cases h
              exact .inl ⟨by rw [hroot]; rfl, rfl⟩
          · next hinner =>
              cases h
              refine .inr ⟨?_, ?_, rfl⟩
              · simpa using dropIdle_ne_nil (List.cons_ne_nil next others)
              · intro hroot
                exact hinner (by simpa using congrArg List.reverse hroot)

/-- A path spells what its parent spells, then one more part. Some that name nothing may stand
before and after that. -/
theorem parent?_parts {p q : Path} (h : p.parent? = some q) :
    ∃ before last after, p.steps = q.steps ++ before ++ (move? last).toList ++ after ∧ last ≠ [] ∧
      (∀ step ∈ before ++ after, step = .stay) ∧ q.isAbsolute = p.isAbsolute := by
  obtain ⟨base, idle, last, rest, hparts, hlast, hidle, hrest, hparent⟩ := parent?_split h
  have hbase : q.steps = base.filterMap move? ∧ q.isAbsolute = p.isAbsolute := by
    rcases hparent with ⟨rfl, rfl, rfl⟩ | ⟨rfl, rfl⟩ | ⟨hne, hroot, rfl⟩
    · have hrelative : p.isAbsolute = false := by
        rw [← Bool.not_eq_true, isAbsolute_iff, hparts]
        rintro ⟨part, others, heq⟩
        exact hlast (List.cons.inj heq).1
      exact ⟨rfl, hrelative.symm⟩
    · have habsolute : p.isAbsolute = true := by
        rw [isAbsolute_iff, hparts]
        cases idle <;> simp
      exact ⟨rfl, habsolute.symm⟩
    · have hkept : ∀ part ∈ base, slash ∉ part := by
        intro part hpart
        have hmem : part ∈ p.parts := by
          rw [hparts]
          simp [hpart]
        exact Text.not_mem_of_mem_split hmem
      have hq := parts_ofParts hne hkept
      exact ⟨by rw [steps_eq, hq],
        isAbsolute_of_parts (by rw [hq, hparts, List.append_assoc]) (by rwa [hq])⟩
  refine ⟨idle.filterMap move?, last, rest.filterMap move?, ?_, hlast, ?_, hbase.2⟩
  · rw [steps_eq p, hparts, hbase.1]
    cases hmove : move? last <;> simp [hmove]
  · intro step hstep
    rcases List.mem_append.mp hstep with hstep | hstep
    · exact hidle.stays step hstep
    · exact hrest.stays step hstep

theorem steps_parent? {p q : Path} (h : p.parent? = some q) :
    (∃ more, p.steps = q.steps ++ more) ∧ q.isAbsolute = p.isAbsolute := by
  obtain ⟨before, last, after, hsteps, _, _, habsolute⟩ := parent?_parts h
  exact ⟨⟨before ++ (move? last).toList ++ after, by simp [hsteps]⟩, habsolute⟩

theorem parent?_isSome {p : Path} {base : List Name} {name : Name} (h : p.parts = base ++ [name])
    (named : name ≠ []) (inner : name ≠ dot) : p.parent?.isSome := by
  rw [parent?, h, List.reverse_append, List.reverse_singleton, List.singleton_append]
  cases base.reverse with
  | nil => simp [dropIdle, named]
  | cons next rest =>
      rw [dropIdle, if_neg (by simp [named, inner])]
      · dsimp only
        split <;> rfl
      · exact List.cons_ne_nil _ _

/-- The parent of an entry spells what its directory spells, perhaps without staying at the end. -/
theorem parent?_join {p : Path} {name : Name} (plain : Plain name) (present : p.octets ≠ []) :
    ∃ q stays, (p.join name).parent? = some q ∧ p.steps = q.steps ++ stays ∧
      (∀ step ∈ stays, step = .stay) ∧ q.isAbsolute = p.isAbsolute := by
  obtain ⟨base, hparts, _⟩ := parts_join plain present
  obtain ⟨q, hq⟩ := Option.isSome_iff_exists.mp (parent?_isSome hparts plain.2.1 plain.2.2.1)
  obtain ⟨before, last, after, hsteps, hlast, hstays, habsolute⟩ := parent?_parts hq
  rw [steps_join p plain] at hsteps
  have hafter : after = [] := by
    rcases List.eq_nil_or_concat after with hnil | ⟨front, step, rfl⟩
    · exact hnil
    · have hstep : step = .stay := hstays step (by simp)
      have hsame := congrArg List.getLast? hsteps
      simp [hstep] at hsame
  have hmove : ∃ step, move? last = some step := by
    rw [move?, if_neg hlast]
    split
    · exact ⟨_, rfl⟩
    · split <;> exact ⟨_, rfl⟩
  obtain ⟨step, hstep⟩ := hmove
  rw [hafter, List.append_nil, hstep, Option.toList_some] at hsteps
  refine ⟨q, before, hq, (List.append_inj' hsteps rfl).1, ?_, ?_⟩
  · exact fun step hstep => hstays step (List.mem_append_left _ hstep)
  · rw [habsolute, isAbsolute_join p plain]

end Path

end SchemaLedger
