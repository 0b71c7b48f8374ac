import Mathlib.Logic.Relation
import SchemaLedger.Proofs.Site

/-! # Programs that share a tree

Several programs work on one tree, their calls in any order. A directory lists its names in any
order, a call may be refused, and while a program writes a file the others may see a part of what it
writes. -/

namespace SchemaLedger

open Files (Tree)

/-- A tree, and what is left of each of the programs that work on it. -/
structure Crew (α : Type) where
  tree : Tree
  rest : List (Program host α)

namespace Crew

variable {α : Type} {now : Int} {i : Nat}

/-- One program gets an answer, or it has written a part of a file and goes on writing. -/
inductive Step : Crew α → Crew α → Prop
  | answered {tree after : Tree} {rest : List (Program host α)} {i : Nat} {request : Host.Call}
      {next : request.Answer → Program host α} {answer : request.Answer} (now : Int)
      (turn : rest[i]? = some (.ask request next))
      (answers : (frailShop now).answers tree request answer after) :
    Step ⟨tree, rest⟩ ⟨after, rest.set i (next answer)⟩
  | listed {tree : Tree} {rest : List (Program host α)} {i : Nat} {dir : Path}
      {next : Except Files.IoError (List Name) → Program host α}
      (listing : Listing) (turn : rest[i]? = some (.ask (.files (.list dir)) next)) :
    Step ⟨tree, rest⟩ ⟨tree, rest.set i (next (listing.sight tree (.list dir)))⟩
  | writing {tree after : Tree} {rest : List (Program host α)} {i : Nat} {path : Path}
      {content : String} {next : Except Files.IoError Unit → Program host α}
      {part : Octets} (turn : rest[i]? = some (.ask (.files (.fill path content)) next))
      (begins : part <+: Text.octets content) (written : tree.fill path part = .ok after) :
    Step ⟨tree, rest⟩ ⟨after, rest⟩

def Reaches : Crew α → Crew α → Prop := Relation.ReflTransGen Step

/-! ## Turns -/

def turn (now : Int) (crew : Crew α) (i : Nat) : Crew α :=
  match crew.rest[i]? with
  | some (.ask request next) =>
    ⟨(atWork now request crew.tree).2, crew.rest.set i (next (atWork now request crew.tree).1)⟩
  | _ => crew

def turns (now : Int) (crew : Crew α) (order : List Nat) : Crew α :=
  order.foldl (turn now) crew

theorem turn_reaches (crew : Crew α) (i : Nat) : Reaches crew (crew.turn now i) := by
  rw [turn]
  split
  · next hturn => exact .single (.answered now hturn (Directory.atWork_answers_frail now _ _))
  · exact .refl

theorem turns_reaches (crew : Crew α) (order : List Nat) :
    Reaches crew (crew.turns now order) := by
  induction order generalizing crew with
  | nil => exact .refl
  | cons i rest ih => exact (turn_reaches crew i).trans (ih _)

/-! ## Ends -/

def result? (crew : Crew α) (i : Nat) : Option α :=
  match crew.rest[i]? with
  | some (.done value) => some value
  | _ => none

theorem result?_eq_some {crew : Crew α} {value : α} :
    crew.result? i = some value ↔ crew.rest[i]? = some (.done value) := by
  rw [result?]
  split
  · next value' hdone => rw [hdone, Option.some.injEq, Option.some.injEq, Program.done.injEq]
  · next hnone => exact ⟨nofun, fun hdone => (hnone value hdone).elim⟩

section Set

variable {tree tree' : Tree} {rest : List (Program host α)}

theorem result?_set_self (h : i < rest.length) (value : α) :
    result? ⟨tree, rest.set i (.done value)⟩ i = some value :=
  result?_eq_some.mpr (List.getElem?_set_self h)

theorem result?_set_ne {j : Nat} (h : i ≠ j) (p : Program host α) :
    result? ⟨tree', rest.set i p⟩ j = result? ⟨tree, rest⟩ j := by
  rw [result?, result?, List.getElem?_set_ne h]

end Set

/-- A program can be brought to its end while the others wait. -/
theorem run_reaches (now : Int) {crew : Crew α} {p : Program host α}
    (turn : crew.rest[i]? = some p) :
    Reaches crew ⟨(Program.run (atWork now) p crew.tree).2,
      crew.rest.set i (.done (Program.run (atWork now) p crew.tree).1)⟩ := by
  induction p generalizing crew with
  | done value =>
      obtain ⟨hi, hget⟩ := List.getElem?_eq_some_iff.mp turn
      have hsame : crew.rest.set i (.done value) = crew.rest := by
        rw [← hget, List.set_getElem_self]
      rw [Program.run_done, hsame]
      exact .refl
  | ask request next ih =>
      have hstep : Step crew ⟨(atWork now request crew.tree).2,
          crew.rest.set i (next (atWork now request crew.tree).1)⟩ :=
        .answered now turn (Directory.atWork_answers_frail now _ _)
      obtain ⟨hi, _⟩ := List.getElem?_eq_some_iff.mp turn
      have hrest := @ih (atWork now request crew.tree).1 ⟨(atWork now request crew.tree).2, _⟩
        (List.getElem?_set_self hi)
      rw [List.set_set] at hrest
      exact hrest.head hstep

/-- However far they have come, all programs can be brought to their ends. -/
theorem exists_ended (crew : Crew α) : ∃ last, Reaches crew last ∧
    ∀ i < crew.rest.length, (last.result? i).isSome := by
  have hfirst : ∀ n ≤ crew.rest.length, ∃ last, Reaches crew last ∧
      last.rest.length = crew.rest.length ∧ ∀ i < n, (last.result? i).isSome := by
    intro n
    induction n with
    | zero => exact fun _ => ⟨crew, .refl, rfl, nofun⟩
    | succ n ih =>
        intro hn
        obtain ⟨mid, hmid, hlength, hended⟩ := ih (Nat.le_of_succ_le hn)
        have hlt : n < mid.rest.length := hlength ▸ hn
        have hrun := run_reaches 0 (List.getElem?_eq_getElem hlt)
        refine ⟨_, hmid.trans hrun, by rw [List.length_set, hlength], ?_⟩
        intro i hi
        rcases Nat.lt_succ_iff_lt_or_eq.mp hi with hi | rfl
        · rw [result?_set_ne (Nat.ne_of_gt hi)]
          exact hended i hi
        · rw [result?_set_self hlt]
          rfl
  obtain ⟨last, hlast, _, hended⟩ := hfirst crew.rest.length (Nat.le_refl _)
  exact ⟨last, hlast, hended⟩

end Crew

end SchemaLedger
