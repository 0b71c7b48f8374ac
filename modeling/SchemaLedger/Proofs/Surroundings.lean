import SchemaLedger.Host

/-! # What a program does, whatever it is answered

A program meets its surroundings if it asks only for what they allow and ends as it should, for
every choice of answers. The predicate follows the tree of requests, so a sequence is treated part
by part and a program is never taken apart twice. -/

namespace SchemaLedger

/-- What a program may ask for in a state, and which answers may come with which state after. -/
structure Surroundings (I : Interface) (S : Type) where
  allows : S → I.Request → Prop
  answers : S → (request : I.Request) → I.Answer request → S → Prop

namespace Program

section Meets

variable {I : Interface} {S α β : Type} (around : Surroundings I S)

def Meets : Program I α → (α → S → Prop) → S → Prop
  | done value, ends, s => ends value s
  | ask request next, ends, s =>
    around.allows s request ∧
      ∀ answer after, around.answers s request answer after → Meets (next answer) ends after

@[simp] theorem meets_done (value : α) (ends : α → S → Prop) (s : S) :
    Meets around (done value) ends s ↔ ends value s := Iff.rfl

theorem meets_ask (request : I.Request) (next : I.Answer request → Program I α)
    (ends : α → S → Prop) (s : S) :
    Meets around (ask request next) ends s ↔
      around.allows s request ∧ ∀ answer after, around.answers s request answer after →
        Meets around (next answer) ends after := Iff.rfl

/-- A sequence meets its surroundings if its first part leads to where the second part does. -/
theorem meets_bind (p : Program I α) (f : α → Program I β) (ends : β → S → Prop) (s : S) :
    Meets around (p.bind f) ends s ↔
      Meets around p (fun value after => Meets around (f value) ends after) s := by
  induction p generalizing s with
  | done value => rfl
  | ask request next ih => simp only [ask_bind, meets_ask, ih]

variable {around}

theorem Meets.mono {p : Program I α} {ends ends' : α → S → Prop} {s : S}
    (h : Meets around p ends s) (weaker : ∀ value after, ends value after → ends' value after) :
    Meets around p ends' s := by
  induction p generalizing s with
  | done value => exact weaker value s h
  | ask request next ih =>
      refine ⟨h.1, ?_⟩
      intro answer after hanswer
      exact ih answer (h.2 answer after hanswer)

/-- Surroundings that answer as a handler does bring a run to its end. -/
theorem Meets.run {p : Program I α} {ends : α → S → Prop} {s : S} {handle : Handler I S}
    (h : Meets around p ends s)
    (answers : ∀ s request, around.answers s request (handle request s).1 (handle request s).2) :
    ends (run handle p s).1 (run handle p s).2 := by
  induction p generalizing s with
  | done value => exact h
  | ask request next ih =>
      rw [run_ask]
      exact ih _ (h.2 _ _ (answers s request))

/-- One way in which a program may run, from its beginning to its end. -/
inductive Runs (around : Surroundings I S) : Program I α → S → α → S → Prop
  | done (value : α) (s : S) : Runs around (done value) s value s
  | ask {request : I.Request} {next : I.Answer request → Program I α} {s after s' : S}
      {answer : I.Answer request} {value : α} (h : around.answers s request answer after)
      (rest : Runs around (next answer) after value s') : Runs around (ask request next) s value s'

/-- However a program runs, it ends as it should. -/
theorem Runs.ends {p : Program I α} {ends : α → S → Prop} {s s' : S} {value : α}
    (h : Runs around p s value s') (meets : Meets around p ends s) : ends value s' := by
  induction h with
  | done value s => exact meets
  | ask h _ ih => exact ih (meets.2 _ _ h)

theorem runs_of_handler {handle : Handler I S}
    (answers : ∀ s request, around.answers s request (handle request s).1 (handle request s).2)
    (p : Program I α) (s : S) : Runs around p s (run handle p s).1 (run handle p s).2 := by
  induction p generalizing s with
  | done value => exact .done value s
  | ask request next ih => exact .ask (answers s request) (ih _ _)

end Meets

end Program

/-! ## Activities that may fail -/

namespace Task

variable {S ε α β : Type} (around : Surroundings host S)

def Then (next : α → Task ε β) (ends : Except ε β → S → Prop) : Except ε α → S → Prop
  | .ok value, s => Program.Meets around (next value).run ends s
  | .error error, s => ends (.error error) s

theorem meets_bind (task : Task ε α) (next : α → Task ε β) (ends : Except ε β → S → Prop) (s : S) :
    Program.Meets around (task >>= next).run ends s ↔
      Program.Meets around task.run (Then around next ends) s := by
  rw [ExceptT.run_bind, Program.bind_eq, Program.meets_bind]
  constructor <;> intro h <;> refine h.mono ?_ <;> intro result after hend <;>
    cases result <;> exact hend

@[simp] theorem meets_pure (value : α) (ends : Except ε α → S → Prop) (s : S) :
    Program.Meets around (pure value : Task ε α).run ends s ↔ ends (.ok value) s := Iff.rfl

@[simp] theorem meets_fail (error : ε) (ends : Except ε α → S → Prop) (s : S) :
    Program.Meets around (fail error : Task ε α).run ends s ↔ ends (.error error) s := Iff.rfl

@[simp] theorem meets_ofExcept {δ : Type} (wrap : δ → ε) (result : Except δ α)
    (ends : Except ε α → S → Prop) (s : S) :
    Program.Meets around (ofExcept wrap result : Task ε α).run ends s ↔
      ends (result.mapError wrap) s := by
  cases result <;> rfl

theorem meets_ofExcept_ok {δ : Type} (wrap : δ → ε) (value : α) (next : α → Task ε β)
    (ends : Except ε β → S → Prop) (s : S) :
    Program.Meets around (ofExcept wrap (.ok value) >>= next).run ends s ↔
      Program.Meets around (next value).run ends s := Iff.rfl

@[simp] theorem meets_adapt {δ : Type} (task : Task δ α) (wrap : δ → ε)
    (ends : Except ε α → S → Prop) (s : S) :
    Program.Meets around (task.adapt wrap).run ends s ↔
      Program.Meets around task.run (fun result after => ends (result.mapError wrap) after) s :=
  Program.meets_bind around task.run _ ends s

theorem meets_lift (request : Host.Call) (ends : Except ε request.Answer → S → Prop) (s : S) :
    Program.Meets around
        (ExceptT.lift (Program.request (I := host) request) : Task ε request.Answer).run ends s ↔
      around.allows s request ∧ ∀ answer after, around.answers s request answer after →
        ends (.ok answer) after := Iff.rfl

theorem meets_files (call : Files.Call) (ends : Except ε call.Answer → S → Prop) (s : S) :
    Program.Meets around (files call : Task ε call.Answer).run ends s ↔
      around.allows s (.files call) ∧ ∀ answer after, around.answers s (.files call) answer after →
        ends (.ok answer) after := Iff.rfl

theorem meets_store (call : Store.Call) (ends : Except ε call.Answer → S → Prop) (s : S) :
    Program.Meets around (store call : Task ε call.Answer).run ends s ↔
      around.allows s (.store call) ∧ ∀ answer after, around.answers s (.store call) answer after →
        ends (.ok answer) after := Iff.rfl

theorem meets_note (event : Event) (ends : Except ε Unit → S → Prop) (s : S) :
    Program.Meets around (note event : Task ε Unit).run ends s ↔
      around.allows s (.note event) ∧ ∀ answer after, around.answers s (.note event) answer after →
        ends (.ok answer) after := Iff.rfl

end Task

end SchemaLedger
