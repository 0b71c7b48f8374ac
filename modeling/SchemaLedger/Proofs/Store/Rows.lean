import SchemaLedger.Proofs.SignedNumeral
import SchemaLedger.Proofs.Store.Dialogue

/-! # Rows of the ledger

Which rows can be read and what is wrong with those that cannot, said without the reader. A row is
read column by column, and its ID is judged last; the rows are read in their order. Whatever goes
wrong first is all that is reported. -/

namespace SchemaLedger.Store.Postgres

/-- A column from which nothing can be read, with what the driver reports. -/
inductive Column.Flawed {α : Type} (name : String) : Column α → DriverError → Prop
  | absent : Flawed name .absent (.columnNotFound name)
  | unreadable (problem : String) :
    Flawed name (.unreadable problem) (.columnUnreadable name problem)

namespace Row

/-- The ID is a 64-bit integer if there is one. The ledger query asks for no other. -/
def Fits (row : Row) : Prop := ∀ number, row.id = .value number → -2 ^ 63 ≤ number ∧ number < 2 ^ 63

/-- All columns can be read, and the ID is not negative. -/
structure Legible (row : Row) : Prop where
  id : ∃ number, row.id = .value number ∧ 0 ≤ number
  slug : ∃ slug, row.slug = .value slug
  runAt : ∃ micros, row.runAt = .value micros

/-- The columns hold what a record says. -/
structure Holds (row : Row) (record : LedgerRow) : Prop where
  id : row.id = .value record.id.value
  slug : row.slug = .value record.slug
  runAt : ∃ micros, row.runAt = .value micros ∧ record.runAt = .ofMicrosSince2000 micros

/-- What is wrong with a row first: a column, in the order of the columns, or else its ID. -/
inductive Flawed : Row → StoreError → Prop
  | id {id : Column Int} {slug : Column String} {runAt : Column Int} {error : DriverError}
      (flawed : id.Flawed "id" error) : Flawed ⟨id, slug, runAt⟩ (.database error)
  | slug {number : Int} {slug : Column String} {runAt : Column Int} {error : DriverError}
      (flawed : slug.Flawed "slug" error) : Flawed ⟨.value number, slug, runAt⟩ (.database error)
  | runAt {number : Int} {slug : String} {runAt : Column Int} {error : DriverError}
      (flawed : runAt.Flawed "run_at" error) :
    Flawed ⟨.value number, .value slug, runAt⟩ (.database error)
  | negative {number micros : Int} {slug : String} (negative : number < 0) :
    Flawed ⟨.value number, .value slug, .value micros⟩
      (.backend ("malformed ledger row: " ++ (IdentError.negative number).message))

end Row

/-- What is wrong with the first row that is not legible. -/
inductive FirstFlaw : List Row → StoreError → Prop
  | intro {before later : List Row} {row : Row} {error : StoreError}
      (legible : ∀ earlier ∈ before, earlier.Legible) (flawed : row.Flawed error) :
    FirstFlaw (before ++ row :: later) error

/-! ## One row -/

theorem Column.readable_or_flawed {α : Type} (name : String) (column : Column α) :
    (∃ content, column = .value content) ∨ ∃ error, column.Flawed name error := by
  cases column with
  | absent => exact .inr ⟨_, .absent⟩
  | unreadable problem => exact .inr ⟨_, .unreadable problem⟩
  | value content => exact .inl ⟨content, rfl⟩

theorem Column.Flawed.read {α : Type} {name : String} {column : Column α} {error : DriverError}
    (h : column.Flawed name error) : column.read name = .error (.database error) := by
  cases h <;> rfl

namespace Row

variable {row : Row} {record : LedgerRow} {error : StoreError}

theorem legible_or_flawed (row : Row) : row.Legible ∨ ∃ error, row.Flawed error := by
  obtain ⟨id, slug, runAt⟩ := row
  obtain ⟨number, rfl⟩ | ⟨error, flawed⟩ := id.readable_or_flawed "id"
  · obtain ⟨slug, rfl⟩ | ⟨error, flawed⟩ := slug.readable_or_flawed "slug"
    · obtain ⟨micros, rfl⟩ | ⟨error, flawed⟩ := runAt.readable_or_flawed "run_at"
      · by_cases hnegative : number < 0
        · exact .inr ⟨_, .negative hnegative⟩
        · exact .inl ⟨⟨number, rfl, Int.not_lt.mp hnegative⟩, ⟨slug, rfl⟩, ⟨micros, rfl⟩⟩
      · exact .inr ⟨_, .runAt flawed⟩
    · exact .inr ⟨_, .slug flawed⟩
  · exact .inr ⟨_, .id flawed⟩

theorem read_values (number : Int) (slug : String) (micros : Int) :
    Row.read ⟨.value number, .value slug, .value micros⟩ =
      match Ident.ofInt number with
      | .ok id => .ok ⟨id, slug, .ofMicrosSince2000 micros⟩
      | .error error => .error (.backend ("malformed ledger row: " ++ error.message)) := rfl

theorem Flawed.read (h : row.Flawed error) : row.read = .error error := by
  cases h with
  | id flawed => rw [Row.read, flawed.read]; rfl
  | slug flawed => rw [Row.read, flawed.read]; rfl
  | runAt flawed => rw [Row.read, flawed.read]; rfl
  | negative hnegative =>
      obtain ⟨k, rfl⟩ := Int.eq_negSucc_of_lt_zero hnegative
      rfl

theorem Holds.read (h : row.Holds record) : row.read = .ok record := by
  obtain ⟨id, slug, runAt⟩ := row
  obtain ⟨rfl, rfl, micros, rfl, hrunAt⟩ := h
  rw [read_values, Ident.ofInt_value, ← hrunAt]

theorem Legible.read (h : row.Legible) :
    ∃ record, row.read = .ok record ∧ (row.Fits → row.Holds record) := by
  obtain ⟨id, slug, runAt⟩ := row
  obtain ⟨⟨number, rfl, hpositive⟩, ⟨slug, rfl⟩, ⟨micros, rfl⟩⟩ := h
  obtain ⟨m, rfl⟩ := Int.eq_ofNat_of_zero_le hpositive
  refine ⟨_, rfl, fun fits => ?_⟩
  obtain ⟨id, hid, hvalue⟩ := Ident.ofInt_natCast (fits m rfl).2
  obtain rfl := Except.ok.inj hid
  exact ⟨by rw [hvalue], rfl, micros, rfl, rfl⟩

end Row

/-! ## All rows -/

section Rows

variable {row : Row} {rows : List Row} {record : LedgerRow} {ledger : List LedgerRow}
variable {error : StoreError}

theorem FirstFlaw.cons (legible : row.Legible) (h : FirstFlaw rows error) :
    FirstFlaw (row :: rows) error := by
  obtain ⟨hbefore, flawed⟩ := h
  rw [← List.cons_append]
  exact .intro (List.forall_mem_cons.mpr ⟨legible, hbefore⟩) flawed

theorem legible_or_firstFlaw (rows : List Row) :
    (∀ row ∈ rows, row.Legible) ∨ ∃ error, FirstFlaw rows error := by
  induction rows with
  | nil => simp
  | cons row rows ih =>
      obtain legible | ⟨error, flawed⟩ := row.legible_or_flawed
      · obtain hrows | ⟨error, hflaw⟩ := ih
        · exact .inl (List.forall_mem_cons.mpr ⟨legible, hrows⟩)
        · exact .inr ⟨error, hflaw.cons legible⟩
      · have hfirst : FirstFlaw ([] ++ row :: rows) error := .intro (by simp) flawed
        exact .inr ⟨error, hfirst⟩

theorem readRows_cons (h : row.read = .ok record) :
    readRows (row :: rows) = (readRows rows).map (record :: ·) := by
  rw [readRows, h]
  cases readRows rows <;> rfl

theorem FirstFlaw.readRows (h : FirstFlaw rows error) : readRows rows = .error error := by
  obtain @⟨before, later, row, error, legible, flawed⟩ := h
  induction before with
  | nil =>
      rw [List.nil_append, Postgres.readRows, flawed.read]
      rfl
  | cons first before ih =>
      obtain ⟨hfirst, hbefore⟩ := List.forall_mem_cons.mp legible
      obtain ⟨record, hread, _⟩ := hfirst.read
      rw [List.cons_append, readRows_cons hread, ih hbefore]
      rfl

theorem readRows_of_holds (h : List.Forall₂ Row.Holds rows ledger) : readRows rows = .ok ledger := by
  induction h with
  | nil => rfl
  | cons first _ ih =>
      rw [readRows_cons first.read, ih]
      rfl

theorem readRows_of_legible (legible : ∀ row ∈ rows, row.Legible) :
    ∃ ledger, readRows rows = .ok ledger ∧
      ((∀ row ∈ rows, row.Fits) → List.Forall₂ Row.Holds rows ledger) := by
  induction rows with
  | nil => exact ⟨[], rfl, fun _ => .nil⟩
  | cons row rows ih =>
      obtain ⟨hrow, hrows⟩ := List.forall_mem_cons.mp legible
      obtain ⟨record, hread, hholds⟩ := hrow.read
      obtain ⟨ledger, hrest, hall⟩ := ih hrows
      refine ⟨record :: ledger, by rw [readRows_cons hread, hrest]; rfl, fun fits => ?_⟩
      obtain ⟨hfit, hfits⟩ := List.forall_mem_cons.mp fits
      exact .cons (hholds hfit) (hall hfits)

theorem readRows_eq_error_iff : readRows rows = .error error ↔ FirstFlaw rows error := by
  refine ⟨fun h => ?_, FirstFlaw.readRows⟩
  obtain legible | ⟨found, hflaw⟩ := legible_or_firstFlaw rows
  · obtain ⟨ledger, hread, _⟩ := readRows_of_legible legible
    cases hread.symm.trans h
  · obtain rfl := Except.error.inj (hflaw.readRows.symm.trans h)
    exact hflaw

theorem exists_readRows_iff : (∃ ledger, readRows rows = .ok ledger) ↔ ∀ row ∈ rows, row.Legible := by
  refine ⟨?_, fun legible => (readRows_of_legible legible).imp fun _ => And.left⟩
  rintro ⟨ledger, hread⟩
  obtain legible | ⟨error, hflaw⟩ := legible_or_firstFlaw rows
  · exact legible
  · cases hflaw.readRows.symm.trans hread

/-- All rows are read, each as one record in its place, or none is. -/
theorem readRows_eq_ok_iff (fits : ∀ row ∈ rows, row.Fits) :
    readRows rows = .ok ledger ↔ List.Forall₂ Row.Holds rows ledger := by
  refine ⟨fun h => ?_, readRows_of_holds⟩
  obtain ⟨found, hread, hholds⟩ := readRows_of_legible (exists_readRows_iff.mp ⟨ledger, h⟩)
  obtain rfl := Except.ok.inj (hread.symm.trans h)
  exact hholds fits

end Rows

end SchemaLedger.Store.Postgres
