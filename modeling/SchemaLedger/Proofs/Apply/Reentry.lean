import SchemaLedger.Proofs.Apply.Coherence
import SchemaLedger.Proofs.Apply.Passage
import SchemaLedger.Proofs.Directive
import SchemaLedger.Proofs.Directory.Scan
import SchemaLedger.Proofs.Store.Memory

/-! # Runs after runs that were cut short

Runs that fail or are dropped have still applied a beginning of what was to be applied, and nothing
else. So one more run takes up where they stopped, and in the end the store is as if there had been
one run. -/

namespace SchemaLedger.Apply

open Store (Call Claim Effect Engine Outlook Scene Session Tx View Work heldBy soleSession)

variable {σ : Type} {engine : Engine σ} {effect : Effect} {slugs : Migration → String}
variable {replies : (call : Call) → σ → call.Answer → σ → Prop}
variable {o : Outlook} {ms found : List Migration}

/-! ## What remains -/

/-- The migrations of a directory that are not in the ledger, ascending. -/
def remaining (o : Outlook) (ms : List Migration) : List Migration :=
  (Migration.sortById ms).filter fun m => !o.ledger.any (·.id = m.id)

theorem recorded_iff_any (o : Outlook) (id : Ident) :
    o.Recorded id ↔ o.ledger.any (·.id = id) = true := by
  simp [Outlook.Recorded]

theorem remaining_distinct (distinct : (ms.map (·.id)).Nodup) (o : Outlook) :
    ((remaining o ms).map (·.id)).Nodup := by
  have hsorted : ((Migration.sortById ms).map (·.id)).Nodup :=
    ((List.mergeSort_perm ms _).map _).nodup_iff.mpr distinct
  exact hsorted.sublist (List.filter_sublist.map _)

theorem recorded_past {m : Migration} {id : Ident} :
    (past slugs o m).Recorded id ↔ o.Recorded id ∨ m.id = id := by
  simp [past, Outlook.Recorded, rowOf, or_and_right, exists_or]

theorem recorded_pastAll {done : List Migration} {id : Ident} :
    (pastAll slugs o done).Recorded id ↔ o.Recorded id ∨ ∃ m ∈ done, m.id = id := by
  induction done generalizing o with
  | nil => simp [pastAll]
  | cons m rest ih =>
      rw [pastAll, List.foldl_cons, ← pastAll, ih, recorded_past]
      simp [or_assoc]

theorem remaining_pastAll (distinct : (ms.map (·.id)).Nodup) {done rest : List Migration}
    (h : remaining o ms = done ++ rest) : remaining (pastAll slugs o done) ms = rest := by
  have hnodup := remaining_distinct distinct o
  rw [h, List.map_append] at hnodup
  have hapart : ∀ m ∈ rest, ∀ other ∈ done, other.id ≠ m.id := by
    intro m hm other hother heq
    exact (List.nodup_append.mp hnodup).2.2 _ (List.mem_map_of_mem hother) _
      (List.mem_map_of_mem hm) heq
  have hsplit : remaining (pastAll slugs o done) ms =
      (remaining o ms).filter fun m => !done.any (·.id = m.id) := by
    rw [remaining, remaining, List.filter_filter]
    refine List.filter_congr ?_
    intro m _
    have hrecorded : (pastAll slugs o done).Recorded m.id ↔ _ := recorded_pastAll
    rw [recorded_iff_any, recorded_iff_any] at hrecorded
    rw [Bool.eq_iff_iff]
    simp only [Bool.not_eq_true', Bool.and_eq_true, ← Bool.not_eq_true, hrecorded, List.any_eq_true,
      decide_eq_true_eq, not_or]
    exact And.comm
  have hdone : done.filter (fun m => !done.any (·.id = m.id)) = [] := by
    refine List.filter_eq_nil_iff.mpr ?_
    intro m hm
    simp only [Bool.not_eq_true', Bool.not_eq_false, List.any_eq_true, decide_eq_true_eq]
    exact ⟨m, hm, rfl⟩
  have hrest : rest.filter (fun m => !done.any (·.id = m.id)) = rest := by
    refine List.filter_eq_self.mpr ?_
    intro m hm
    simpa using hapart m hm
  rw [hsplit, h, List.filter_append, hdone, hrest, List.nil_append]

theorem any_row {rows : List LedgerRow} (h : ∀ id, id ∈ rows.map (·.id) ↔ o.Recorded id)
    (id : Ident) : rows.any (·.id = id) = o.ledger.any (·.id = id) := by
  rw [Bool.eq_iff_iff, ← recorded_iff_any, ← h id]
  simp

/-- Whatever rows a run takes the ledger for, what it needs and has not been applied is a beginning
of what remains. -/
theorem needed_filter (distinct : (ms.map (·.id)).Nodup) (perm : found.Perm ms)
    {rows : List LedgerRow} (hread : MayRead engine replies o rows) (limit? : Option Ident) :
    (needed rows limit? found).filter (fun m => !o.ledger.any (·.id = m.id)) =
      upTo limit? (remaining o ms) := by
  rw [needed, pendingAmong, sortById_filter perm distinct, upTo_filter, List.filter_filter, remaining]
  congr 1
  refine List.filter_congr ?_
  intro m _
  rcases hread with hrows | ⟨rfl, _⟩
  · rw [any_row hrows, Bool.and_self]
  · exact Bool.and_true _

theorem needed_of_faultless (distinct : (ms.map (·.id)).Nodup) (perm : found.Perm ms)
    (faultless : Faultless engine replies) {rows : List LedgerRow}
    (hread : MayRead engine replies o rows) : needed rows none found = remaining o ms := by
  rcases hread with hrows | ⟨_, hfault⟩
  · rw [needed, pendingAmong, sortById_filter perm distinct, upTo, remaining]
    simp only [any_row hrows]
  · exact absurd faultless hfault

theorem Passes.free (honours : engine.Honours effect) {m : Migration}
    (recording : Recording effect slugs m) (h : Passes engine o m) : ¬ o.Recorded m.id := by
  rw [Passes] at h
  split at h
  · obtain ⟨tx, s, answer, s', hamid, hanswer, hsucceeded⟩ := h.claim
    have hafter := hamid.claim honours (.answered hanswer)
    cases answer with
    | ok => exact hafter.1
    | error error => cases hsucceeded
  · next alone =>
      obtain ⟨tx, s, answer, s', hamid, hanswer, hsucceeded⟩ := h
      have hafter := hamid.execute honours (.answered hanswer)
      cases answer with
      | ok =>
          obtain ⟨after, heffect, _⟩ := hafter
          rintro ⟨claim, hclaim, hid⟩
          exact (recording.records alone _ _ heffect).1 claim hclaim hid
      | error error => cases hsucceeded

theorem PassesAll.free (honours : engine.Honours effect) {done : List Migration}
    (recording : ∀ m ∈ done, Recording effect slugs m) (h : PassesAll engine slugs o done) :
    ∀ m ∈ done, ¬ o.Recorded m.id := by
  induction done generalizing o with
  | nil => exact nofun
  | cons m rest ih =>
      intro other hother
      rcases List.mem_cons.mp hother with rfl | hother
      · exact h.1.free honours (recording _ List.mem_cons_self)
      · intro hrecorded
        refine ih (fun x hx => recording x (List.mem_cons_of_mem m hx)) h.2 other hother ?_
        exact recorded_past.mpr (.inl hrecorded)

/-- What a run has applied is a beginning of what remained. -/
theorem prefix_remaining (honours : engine.Honours effect) (distinct : (ms.map (·.id)).Nodup)
    (perm : found.Perm ms) (recording : ∀ m ∈ ms, Recording effect slugs m)
    {rows : List LedgerRow} (hread : MayRead engine replies o rows) {limit? : Option Ident}
    {done : List Migration} (hdone : done <+: needed rows limit? found)
    (hpass : PassesAll engine slugs o done) : done <+: remaining o ms := by
  have hmem : ∀ m ∈ done, m ∈ ms :=
    fun m hm => perm.mem_iff.mp (mem_needed (hdone.subset hm))
  have hfree := hpass.free honours fun m hm => recording m (hmem m hm)
  have hkept : done.filter (fun m => !o.ledger.any (·.id = m.id)) = done := by
    refine List.filter_eq_self.mpr ?_
    intro m hm
    simpa [Outlook.Recorded] using hfree m hm
  have hfilter := hdone.filter fun m => !o.ledger.any (·.id = m.id)
  rw [hkept, needed_filter distinct perm hread] at hfilter
  exact hfilter.trans (upTo_initial ((sortById_ascending ms).filter _) limit?)

theorem PassesAll.append {done rest : List Migration}
    (h : PassesAll engine slugs o (done ++ rest)) :
    PassesAll engine slugs (pastAll slugs o done) rest := by
  induction done generalizing o with
  | nil => exact h
  | cons m done ih => exact ih h.2

theorem pastAll_append (done rest : List Migration) :
    pastAll slugs o (done ++ rest) = pastAll slugs (pastAll slugs o done) rest :=
  List.foldl_append

/-! ## Earlier runs -/

/-- What an earlier run over a directory may have made of the store. It had a limit of its own, any
of its calls may have failed, and it may have been dropped. -/
def Earlier (engine : Engine σ) (dir : Path) (ms : List Migration) (s s' : σ) : Prop :=
  ∃ sight limit? found, Directory.seen sight dir = .ok found ∧ found.Perm ms ∧
    Scene.Reaches engine (opening s [(sight, .run dir limit?)]) ⟨s', []⟩

section Earlier

variable (honours : engine.Honours effect) (dependable : engine.Dependable)
variable (recording : ∀ m ∈ ms, Recording effect slugs m)

include honours dependable recording

/-- An earlier run has applied a beginning of what remained, and nothing else. -/
theorem Earlier.applies {dir : Path} {s s' : σ} (h : Earlier engine dir ms s s')
    (amid : engine.Amid o none s) :
    ∃ done, done <+: remaining o ms ∧ engine.Amid (pastAll slugs o done) none s' := by
  obtain ⟨sight, limit?, found, seen, perm, reaches⟩ := h
  have hdistinct : (ms.map (·.id)).Nodup :=
    (perm.map _).nodup_iff.mp (Directory.seen_distinct seen)
  -- Wherever the session may be dropped, a beginning of what remained has been applied.
  let safe : σ → List Tx → Prop := fun t held =>
    ∃ done, done <+: remaining o ms ∧
      ∃ work?, engine.Amid (pastAll slugs o done) work? t ∧ held = heldBy work?
  have hsafe : ∀ rows done, MayRead engine engine.Replies o rows →
      done <+: needed rows limit? found → PassesAll engine slugs o done → ∀ work? t,
      engine.Amid (pastAll slugs o done) work? t → safe t (heldBy work?) := by
    intro rows done hread hdone hpass work? t ht
    exact ⟨done, prefix_remaining honours hdistinct perm recording hread hdone hpass, work?, ht, rfl⟩
  have hstart : safe s [] := ⟨[], List.nil_prefix, none, amid, rfl⟩
  have hrun : Program.Meets ((soleSession engine.Replies safe).host sight) (run dir limit?).run
      (RunEnds engine engine.Replies slugs o limit? found) (s, []) :=
    meets_soleRun honours dependable (fun _ _ _ _ hreply => hreply) seen
      (fun m hm => recording m (perm.mem_iff.mp hm)) hsafe hstart amid
  have hsession : Program.Meets (soleSession engine.Replies safe)
      (Job.session (.run dir limit?) sight).rest (fun _ here => safe here.1 here.2) (s, []) := by
    refine (Program.meets_onStore _ _ _).mpr ?_
    rw [Job.task, Task.meets_bind]
    refine hrun.mono ?_
    rintro result ⟨t, held⟩ hend
    have hhere : safe t held := by
      rcases hend.applied with ⟨ht, rfl⟩ | ⟨rows, done, hread, hdone, hpass, ht, rfl⟩
      · exact ⟨[], List.nil_prefix, none, ht, rfl⟩
      · exact hsafe rows done hread hdone hpass none t ht
    cases result <;> exact hhere
  obtain ⟨t, held, ⟨done, hdone, work?, ht, rfl⟩, hdrop⟩ :=
    Store.soleSession_reaches hsession (fun _ _ _ h => h) reaches
  exact ⟨done, hdone, ht.dropped honours hdrop⟩

/-- After any number of earlier runs, the store is on the way from where it was to where one run
would bring it. -/
theorem Earlier.onTheWay {dir : Path} {s₀ s : σ} (distinct : (ms.map (·.id)).Nodup)
    (amid : engine.Amid o none s₀) (history : Relation.ReflTransGen (Earlier engine dir ms) s₀ s) :
    ∃ done rest, remaining o ms = done ++ rest ∧ engine.Amid (pastAll slugs o done) none s := by
  induction history with
  | refl => exact ⟨[], _, rfl, amid⟩
  | tail _ hearlier ih =>
      obtain ⟨done, rest, hsplit, hamid⟩ := ih
      obtain ⟨more, hmore, hafter⟩ := hearlier.applies honours dependable recording hamid
      rw [remaining_pastAll distinct hsplit] at hmore
      obtain ⟨rest, rfl⟩ := hmore
      refine ⟨done ++ more, rest, by rw [hsplit, List.append_assoc], ?_⟩
      rw [pastAll_append]
      exact hafter

end Earlier

/-! ## One more run -/

section Final

variable {handle : Handler Store.calls σ} {drop : Tx → σ → σ} {view : σ → View}
variable {possible : σ → Prop}

theorem run_ends (honours : (Engine.ofHandler handle drop view possible).Honours effect)
    (dependable : (Engine.ofHandler handle drop view possible).Dependable) {dir : Path}
    {sight : Files.Sight} (seen : Directory.seen sight dir = .ok found) (perm : found.Perm ms)
    (recording : ∀ m ∈ ms, Recording effect slugs m) {s : σ}
    (amid : (Engine.ofHandler handle drop view possible).Amid o none s) :
    ∃ held, AttemptedAll (Engine.ofHandler handle drop view possible)
      (Engine.ofHandler handle drop view possible).answers slugs o (remaining o ms)
      (Program.run handle (Program.onStore sight (run dir none).run) s).1
      ((Program.run handle (Program.onStore sight (run dir none).run) s).2, held) := by
  let engine := Engine.ofHandler handle drop view possible
  have hdistinct : (ms.map (·.id)).Nodup :=
    (perm.map _).nodup_iff.mp (Directory.seen_distinct seen)
  have hfaultless : Faultless engine engine.answers := fun _ _ _ _ h => h
  have hrun : Program.Meets ((soleSession engine.answers fun _ _ => True).host sight)
      (run dir none).run (RunEnds engine engine.answers slugs o none found) (s, []) :=
    meets_soleRun honours dependable (fun _ _ _ _ h => .answered h) seen
      (fun m hm => recording m (perm.mem_iff.mp hm)) (fun _ _ _ _ _ _ _ _ => trivial) trivial amid
  obtain ⟨held, hend⟩ := Store.soleSession_run ((Program.meets_onStore _ _ _).mpr hrun)
    (fun _ _ => rfl)
  refine ⟨held, ?_⟩
  rcases hend with ⟨hfault, _⟩ | ⟨rows, hread, hend⟩
  · exact absurd hfaultless hfault
  · rwa [needed_of_faultless hdistinct perm hfaultless hread] at hend

/-- If a run can be completed at all, it can be completed after any number of runs that were cut
short, and then the rows and the work that has lasted are those of a single run. -/
theorem reentry_completes (honours : (Engine.ofHandler handle drop view possible).Honours effect)
    (dependable : (Engine.ofHandler handle drop view possible).Dependable) {dir : Path}
    (recording : ∀ m ∈ ms, Recording effect slugs m) {s₀ s : σ} (start : possible s₀)
    (idle : ∀ tx, (view s₀).opened tx = none) {sight : Files.Sight}
    (seen : Directory.seen sight dir = .ok found) (perm : found.Perm ms) {outcome : Outcome}
    {whole : σ}
    (uninterrupted :
      Program.run handle (Program.onStore sight (run dir none).run) s₀ = (.ok outcome, whole))
    (history : Relation.ReflTransGen
      (Earlier (Engine.ofHandler handle drop view possible) dir ms) s₀ s)
    {sight' : Files.Sight} {found' : List Migration}
    (seen' : Directory.seen sight' dir = .ok found') (perm' : found'.Perm ms) :
    ∃ outcome' final,
      Program.run handle (Program.onStore sight' (run dir none).run) s = (.ok outcome', final) ∧
      (view final).ledger = (view whole).ledger ∧
      (view final).committed = (view whole).committed := by
  let engine := Engine.ofHandler handle drop view possible
  let o : Outlook := ⟨(view s₀).ledger, (view s₀).committed⟩
  have hdistinct : (ms.map (·.id)).Nodup :=
    (perm.map _).nodup_iff.mp (Directory.seen_distinct seen)
  have hstart : engine.Amid o none s₀ := by
    refine ⟨start, ?_⟩
    have hnone : (view s₀).opened = fun _ => none := funext idle
    change view s₀ = ⟨(view s₀).ledger, fun _ => none, (view s₀).committed⟩
    rw [← hnone]
  obtain ⟨done, rest, hsplit, hamid⟩ :=
    Earlier.onTheWay honours dependable recording hdistinct hstart history
  obtain ⟨_, hwhole⟩ := run_ends honours dependable seen perm recording hstart
  rw [uninterrupted] at hwhole
  obtain ⟨hpasses, hlast, _⟩ := hwhole
  obtain ⟨_, hfinal⟩ := run_ends honours dependable seen' perm' recording hamid
  rw [remaining_pastAll hdistinct hsplit] at hfinal
  rw [hsplit] at hpasses hlast
  rw [pastAll_append] at hlast
  -- The single run gets past all of them, so the rest passes where this run begins.
  have hrest : PassesAll engine slugs (pastAll slugs o done) rest := hpasses.append
  cases hrun : Program.run handle (Program.onStore sight' (run dir none).run) s with
  | mk result final =>
      rw [hrun] at hfinal
      cases result with
      | ok outcome' =>
          obtain ⟨_, hend, _⟩ := hfinal
          have hsame : view final = view whole := hend.view.trans hlast.view.symm
          exact ⟨outcome', final, rfl, by rw [hsame], by rw [hsame]⟩
      | error failure =>
          exfalso
          obtain ⟨before, m, after, rfl, _, hfails, _⟩ := hfinal
          exact hfails (fun _ _ _ _ h => h) hrest.append.1

end Final

/-! ## From a missing ledger -/

open Store (Memory)

def cabinet : Files.Tree :=
  ⟨[([Text.octets "m"], .directory),
    ([Text.octets "0-init.sql", Text.octets "m"], .file (Text.octets Bootstrap.sql)),
    ([Text.octets "3-three.sql", Text.octets "m"], .file (Text.octets "select 3;"))], []⟩

def initial : Migration := ⟨.ofText "m/0-init.sql", "0-init.sql", Bootstrap.sql, .first, "init", "0"⟩

def third : Migration :=
  ⟨.ofText "m/3-three.sql", "3-three.sql", "select 3;", ⟨3, by decide⟩, "three", "3"⟩

theorem cabinet_seen :
    Directory.seen (.ofTree cabinet) (.ofText "m") = .ok [initial, third] := by
  refine Directory.seen_eq_ok.mpr ⟨[Text.octets "0-init.sql", Text.octets "3-three.sql"], rfl, ?_, ?_⟩
  · exact .cons ⟨rfl, rfl, rfl⟩ (.cons ⟨rfl, rfl, rfl⟩ .nil)
  · decide

theorem bootstrap_skipsTransaction : Directive.skipsTransaction Bootstrap.sql = true :=
  Directive.skipsTransaction_join (List.mem_of_getElem? (i := 18) rfl)

/-- Characters are searched faster than the text that they make up. -/
theorem absent_of_chars {word cs : List Char} {line : String} (h : line = String.ofList cs)
    (absent : Text.occursIn word cs = false) : ¬ word <:+: line.toList := by
  rw [h, String.toList_ofList, ← Text.occursIn_iff, absent]
  exact Bool.false_ne_true

theorem bootstrap_accepted : Memory.refuses Bootstrap.sql = false := by
  have hlines : ∀ line ∈ Bootstrap.lines, ¬ Memory.failing.toList <:+: line.toList := by
    rw [Bootstrap.lines]
    repeat refine List.forall_mem_cons.mpr ⟨absent_of_chars rfl (by decide +kernel), ?_⟩
    exact nofun
  rw [Memory.refuses, Bool.eq_false_iff, ne_eq, Text.occursIn_iff, Bootstrap.sql,
    Text.infix_join_iff (by decide) (by decide)]
  intro ⟨line, hmem, hline⟩
  exact hlines line hmem hline

theorem bootstrap_creates : (Memory.ofLedger none).execute Bootstrap.sql =
    (.ok (), ⟨some [⟨.first, Bootstrap.slug⟩], [], [.direct Bootstrap.sql], 0⟩) := by
  rw [Memory.execute, bootstrap_accepted, if_neg (by decide), if_pos rfl]
  rfl

def arranged : Memory :=
  ⟨some [⟨.first, "init"⟩, ⟨⟨3, by decide⟩, "three"⟩], [],
    [.direct Bootstrap.sql, ⟨[⟨⟨3, by decide⟩, "three"⟩], ["select 3;"]⟩], 1⟩

theorem cabinet_run :
    Program.run Memory.answer
      (Program.onStore (.ofTree cabinet) (run (.ofText "m") none).run) (.ofLedger none) =
      (.ok ⟨[.first, ⟨3, by decide⟩], 0⟩, arranged) := by
  have happlied : Program.run Memory.answer (Program.onStore (.ofTree cabinet) applied.run)
      (.ofLedger none) = (.ok [], .ofLedger none) := rfl
  have hneeded : needed [] none [initial, third] = [initial, third] :=
    sortById_of_ascending (by decide)
  have hfirst : Program.run Memory.answer
      (Program.onStore (.ofTree cabinet) (apply initial).run) (.ofLedger none) =
      (.ok (), ⟨some [⟨.first, Bootstrap.slug⟩], [], [.direct Bootstrap.sql], 0⟩) := by
    have hdirectly : apply initial = applyDirectly initial := if_pos bootstrap_skipsTransaction
    have hexecute : ∀ s : Memory, Program.run Memory.answer
        (Program.onStore (.ofTree cabinet) (applyDirectly initial).run) s =
        ((s.execute Bootstrap.sql).1.mapError (Failure.applyFailure "0-init.sql"),
          (s.execute Bootstrap.sql).2) := by
      intro s
      rw [applyDirectly, Program.onStore_note, Program.onStore_store, Program.run_ask]
      have hanswer : Memory.answer (.execute initial.content) s = s.execute Bootstrap.sql := rfl
      rw [hanswer]
      cases (s.execute Bootstrap.sql).1 <;> rfl
    rw [hdirectly, hexecute, bootstrap_creates]
    rfl
  have heach : Program.run Memory.answer
      (Program.onStore (.ofTree cabinet) (applyEach [initial, third]).run) (.ofLedger none) =
      (.ok (), arranged) := by
    rw [applyEach, Program.onStore_note, Program.onStore_task, Program.run_bind, hfirst]
    rfl
  rw [onStore_run cabinet_seen, Program.run_bind, happlied]
  dsimp only
  rw [hneeded, Program.onStore_task, Program.run_bind, heach]
  rfl

theorem bootstrap_recording {m : Migration} (content : m.content = Bootstrap.sql)
    (first : m.id = .first) : Recording Memory.effect (fun _ => Bootstrap.slug) m := by
  refine ⟨fun _ => Memory.leaves_inside _, ?_⟩
  intro _ before after heffect
  simp only [content, Memory.effect, if_true] at heffect
  obtain ⟨rfl, rfl⟩ := heffect
  have hnone : ∀ claim ∈ ([] : List Claim), claim.id ≠ m.id := fun claim hclaim => by cases hclaim
  exact ⟨hnone, by rw [first, List.nil_append]⟩

/-- A run has created the ledger and claimed the other migration when it is dropped. -/
def interrupted : Memory :=
  ((opening (.ofLedger none) [(.ofTree cabinet, .run (.ofText "m") none)]).turns Memory.answer
    [0, 0, 0, 0]).abandoned fun tx memory => memory.close tx

theorem reentry_completes_cabinet :
    ∃ outcome final,
      Program.run Memory.answer
        (Program.onStore (.ofTree cabinet) (run (.ofText "m") none).run) interrupted =
        (.ok outcome, final) ∧
      final.view.ledger = arranged.view.ledger ∧
      final.view.committed = arranged.view.committed := by
  have hinitial : Recording Memory.effect (fun _ => Bootstrap.slug) initial :=
    bootstrap_recording rfl rfl
  have hthird : Recording Memory.effect (fun _ => Bootstrap.slug) third :=
    ⟨fun _ => Memory.leaves_inside _, fun alone => absurd rfl alone⟩
  have hrecording : ∀ m ∈ [initial, third], Recording Memory.effect (fun _ => Bootstrap.slug) m := by
    intro m hm
    rcases List.mem_cons.mp hm with rfl | hm
    · exact hinitial
    · rw [List.mem_singleton.mp hm]
      exact hthird
  have hearlier : Earlier Memory.engine (.ofText "m") [initial, third] (.ofLedger none)
      interrupted := by
    refine ⟨.ofTree cabinet, none, _, cabinet_seen, List.Perm.refl _, ?_⟩
    exact (Scene.turns_reaches (fun _ _ => rfl) _ _).trans (Scene.abandoned_reaches (fun _ _ => rfl) _)
  exact reentry_completes Memory.honours Memory.dependable hrecording
    (Memory.ofLedger_sound (by simp)) (fun _ => rfl) cabinet_seen (List.Perm.refl _) cabinet_run
    (.single hearlier) cabinet_seen (List.Perm.refl _)

end SchemaLedger.Apply
