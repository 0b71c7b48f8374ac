/-! # Programs as requests and answers

An activity is a tree of requests to its surroundings. What answers them is chosen later: a pure
model for proofs and tests, the operating system when it runs. -/

namespace SchemaLedger

/-- A vocabulary of requests, each with the type of its answers. -/
structure Interface where
  Request : Type
  Answer : Request → Type

/-- A program ends with a value, or makes one request and goes on with the answer. -/
inductive Program (I : Interface) (α : Type) where
  | done (value : α)
  | ask (request : I.Request) (next : I.Answer request → Program I α)

/-- Answers requests while a state changes. -/
abbrev Handler (I : Interface) (σ : Type) := (request : I.Request) → σ → I.Answer request × σ

namespace Program

variable {I : Interface} {α β γ σ : Type}

def bind : Program I α → (α → Program I β) → Program I β
  | done value, next => next value
  | ask request rest, next => ask request fun answer => (rest answer).bind next

instance : Monad (Program I) where
  pure := done
  bind := bind

def request (r : I.Request) : Program I (I.Answer r) := ask r done

def run (handle : Handler I σ) : Program I α → σ → α × σ
  | done value, s => (value, s)
  | ask r next, s => run handle (next (handle r s).1) (handle r s).2

/-- Runs a program where answering a request has effects. -/
def perform {m : Type → Type} [Monad m] (answer : (r : I.Request) → m (I.Answer r)) :
    Program I α → m α
  | done value => pure value
  | ask r next => do perform answer (next (← answer r))

/-! ## Laws -/

@[simp] theorem pure_eq (value : α) : (pure value : Program I α) = done value := rfl

@[simp] theorem bind_eq (p : Program I α) (f : α → Program I β) : p >>= f = p.bind f := rfl

@[simp] theorem done_bind (value : α) (f : α → Program I β) : (done value).bind f = f value := rfl

@[simp] theorem ask_bind (r : I.Request) (next : I.Answer r → Program I α) (f : α → Program I β) :
    (ask r next).bind f = ask r fun answer => (next answer).bind f := rfl

@[simp] theorem bind_done (p : Program I α) : p.bind done = p := by
  induction p with
  | done value => rfl
  | ask r next ih => simp only [ask_bind, ih]

theorem bind_assoc (p : Program I α) (f : α → Program I β) (g : β → Program I γ) :
    (p.bind f).bind g = p.bind fun value => (f value).bind g := by
  induction p with
  | done value => rfl
  | ask r next ih => simp only [ask_bind, ih]

instance : LawfulMonad (Program I) :=
  LawfulMonad.mk' (Program I) (fun p => bind_done p) (fun _ _ => rfl) bind_assoc

@[simp] theorem run_done (handle : Handler I σ) (value : α) (s : σ) :
    run handle (done value) s = (value, s) := rfl

@[simp] theorem run_ask (handle : Handler I σ) (r : I.Request)
    (next : I.Answer r → Program I α) (s : σ) :
    run handle (ask r next) s = run handle (next (handle r s).1) (handle r s).2 := rfl

/-- A sequence runs its second part from where the first part stopped. -/
theorem run_bind (handle : Handler I σ) (p : Program I α) (f : α → Program I β) (s : σ) :
    run handle (p.bind f) s = run handle (f (run handle p s).1) (run handle p s).2 := by
  induction p generalizing s with
  | done value => rfl
  | ask r next ih => simp only [ask_bind, run_ask, ih]

end Program

end SchemaLedger
