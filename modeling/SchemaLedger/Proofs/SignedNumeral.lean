import Mathlib.Algebra.Group.Int.Defs
import SchemaLedger.Proofs.Numeral

/-! # Signed numerals

Which texts spell an integer, said without the reader, and why the other texts are refused. Reading
goes from left to right, so digits that leave the range of 64 bits are what is reported, whatever
stands after them. -/

namespace SchemaLedger

namespace Decimal

/-- What stands before the digits of an integer. -/
inductive Sign where
  | none
  | plus
  | minus

namespace Sign

def text : Sign → List Char
  | none => []
  | plus => ['+']
  | minus => ['-']

def apply : Sign → Nat → Int
  | minus, n => -n
  | _, n => n

def bound : Sign → Nat
  | minus => maxInt64 + 1
  | _ => maxInt64

def beyond : Sign → Problem
  | minus => .tooSmall
  | _ => .tooLarge

end Sign

/-- A text is at most one sign and then digits, at least one; the integer is what they spell. -/
inductive Spells : List Char → Int → Prop
  | intro (sign : Sign) {ds : List Char} (present : ds ≠ []) (numeric : Numeric ds) :
    Spells (sign.text ++ ds) (sign.apply (value ds))

/-- A text begins with a spelling of an integer, whatever stands after that. -/
def Opens (cs : List Char) (n : Int) : Prop := ∃ front, front <+: cs ∧ Spells front n

/-- Why a text is no integer of 64 bits. -/
inductive Refuses : List Char → Problem → Prop
  | empty : Refuses [] .empty
  | tooLarge {cs : List Char} {n : Int} (opens : Opens cs n) (above : 2 ^ 63 ≤ n) :
    Refuses cs .tooLarge
  | tooSmall {cs : List Char} {n : Int} (opens : Opens cs n) (below : n < -2 ^ 63) :
    Refuses cs .tooSmall
  | invalidDigit {cs : List Char} (present : cs ≠ []) (unspelled : ∀ n, ¬ Spells cs n)
    (within : ∀ n, Opens cs n → -2 ^ 63 ≤ n ∧ n < 2 ^ 63) : Refuses cs .invalidDigit

/-! ## Reading digits -/

section Digits

variable {bound v n : Nat} {beyond problem : Problem} {cs ds : List Char}

theorem Numeric.isDigit_head {c : Char} (h : Numeric (c :: cs)) : isDigit c = true :=
  h c List.mem_cons_self

theorem numeric_cons {c : Char} : Numeric (c :: cs) ↔ isDigit c = true ∧ Numeric cs :=
  List.forall_mem_cons

theorem readDigits_eq_ok_iff :
    readDigits bound beyond 0 cs = .ok n ↔ Numeric cs ∧ n = value cs ∧ n ≤ bound := by
  constructor
  · intro h
    obtain ⟨numeric, hn⟩ := readDigits_eq_ok h
    exact ⟨numeric, by simpa using hn, readDigits_le (Nat.zero_le _) h⟩
  · rintro ⟨numeric, rfl, hle⟩
    rw [readDigits_of_numeric beyond numeric (Nat.zero_le _)]
    simp [hle]

theorem exists_beyond (h : readDigits bound beyond v cs = .error beyond)
    (other : beyond ≠ .invalidDigit) :
    ∃ ds, ds <+: cs ∧ Numeric ds ∧ ds ≠ [] ∧ bound < v * 10 ^ ds.length + value ds := by
  induction cs generalizing v with
  | nil => cases h
  | cons c cs ih =>
      rw [readDigits] at h
      by_cases hdigit : isDigit c = true
      · simp only [hdigit, if_true] at h
        by_cases hover : bound < v * 10 + digitValue c
        · refine ⟨[c], by simp, by simpa [Numeric] using hdigit, by simp, ?_⟩
          simpa [value] using hover
        · rw [if_neg hover] at h
          obtain ⟨ds, hprefix, numeric, _, hbound⟩ := ih h
          refine ⟨c :: ds, by simpa using hprefix, numeric_cons.mpr ⟨hdigit, numeric⟩, by simp, ?_⟩
          rw [value_cons, List.length_cons, Nat.pow_succ', ← Nat.mul_assoc, ← Nat.add_assoc,
            ← Nat.add_mul]
          exact hbound
      · simp only [hdigit, Bool.false_eq_true, if_false, Except.error.injEq] at h
        exact absurd h.symm other

/-- The bound is what is reported exactly if digits at the beginning exceed it. -/
theorem readDigits_eq_beyond_iff (other : beyond ≠ .invalidDigit) :
    readDigits bound beyond 0 cs = .error beyond ↔
      ∃ ds, ds <+: cs ∧ Numeric ds ∧ ds ≠ [] ∧ bound < value ds := by
  constructor
  · intro h
    simpa using exists_beyond h other
  · rintro ⟨ds, ⟨rest, rfl⟩, numeric, _, hbound⟩
    rw [readDigits_append, readDigits_of_numeric beyond numeric (Nat.zero_le _)]
    simp [Nat.not_le.mpr hbound]

theorem readDigits_error (h : readDigits bound beyond v cs = .error problem) :
    problem = beyond ∨ problem = .invalidDigit := by
  induction cs generalizing v with
  | nil => cases h
  | cons c cs ih =>
      rw [readDigits] at h
      split at h
      · dsimp only at h
        split at h
        · exact .inl (Except.error.inj h).symm
        · exact ih h
      · exact .inr (Except.error.inj h).symm

end Digits

/-! ## The sign -/

section Signed

variable {sign : Sign} {cs ds : List Char} {n : Int}

/-- What comes after a sign. If there is no sign, it does not begin with one. -/
def Sign.Before (sign : Sign) (ds : List Char) : Prop :=
  sign = .none → ∀ c rest, ds = c :: rest → c ≠ '+' ∧ c ≠ '-'

theorem exists_sign (cs : List Char) : ∃ sign ds, cs = Sign.text sign ++ ds ∧ sign.Before ds := by
  cases cs with
  | nil => exact ⟨.none, [], rfl, nofun⟩
  | cons c cs =>
      by_cases hplus : c = '+'
      · exact ⟨.plus, cs, by simp [Sign.text, hplus], nofun⟩
      · by_cases hminus : c = '-'
        · exact ⟨.minus, cs, by simp [Sign.text, hminus], nofun⟩
        · refine ⟨.none, c :: cs, rfl, ?_⟩
          rintro _ _ _ ⟨⟩
          exact ⟨hplus, hminus⟩

theorem ne_sign_of_isDigit {c : Char} (h : isDigit c = true) : c ≠ '+' ∧ c ≠ '-' := by
  constructor <;> rintro rfl <;> exact absurd h (by decide)

/-- A spelling at the beginning of a text has the sign of the text, and its digits are the digits
that stand first after the sign. -/
theorem Sign.eq_of_prefix {sign' : Sign} {front : List Char} (before : sign.Before ds)
    (present : front ≠ []) (numeric : Numeric front)
    (h : sign'.text ++ front <+: sign.text ++ ds) : sign' = sign ∧ front <+: ds := by
  obtain ⟨d, rest, rfl⟩ := List.exists_cons_of_ne_nil present
  obtain ⟨hplus, hminus⟩ := ne_sign_of_isDigit numeric.isDigit_head
  cases sign with
  | none =>
      cases sign' with
      | none => exact ⟨rfl, h⟩
      | plus =>
          obtain ⟨tail, rfl⟩ := h
          exact absurd rfl (before rfl _ _ rfl).1
      | minus =>
          obtain ⟨tail, rfl⟩ := h
          exact absurd rfl (before rfl _ _ rfl).2
  | plus => cases sign' <;> simp_all [text]
  | minus => cases sign' <;> simp_all [text]

theorem opens_iff (before : sign.Before ds) : Opens (sign.text ++ ds) n ↔
    ∃ front, front <+: ds ∧ Numeric front ∧ front ≠ [] ∧ n = sign.apply (value front) := by
  constructor
  · rintro ⟨_, hprefix, ⟨sign', present, numeric⟩⟩
    obtain ⟨rfl, hfront⟩ := Sign.eq_of_prefix before present numeric hprefix
    exact ⟨_, hfront, numeric, present, rfl⟩
  · rintro ⟨front, hprefix, numeric, present, rfl⟩
    exact ⟨_, (List.prefix_append_right_inj _).mpr hprefix, .intro sign present numeric⟩

theorem spells_iff (before : sign.Before ds) : Spells (sign.text ++ ds) n ↔
    ds ≠ [] ∧ Numeric ds ∧ n = sign.apply (value ds) := by
  constructor
  · intro h
    generalize hcs : sign.text ++ ds = cs at h
    obtain ⟨sign', present, numeric⟩ := h
    obtain ⟨rfl, _⟩ := Sign.eq_of_prefix before present numeric ⟨[], by rw [List.append_nil, hcs]⟩
    obtain rfl := List.append_cancel_left hcs
    exact ⟨present, numeric, rfl⟩
  · rintro ⟨present, numeric, rfl⟩
    exact .intro sign present numeric

theorem readSigned_text (before : sign.Before ds) (present : ds ≠ []) :
    readSigned (sign.text ++ ds) = (readDigits sign.bound sign.beyond 0 ds).map sign.apply := by
  obtain ⟨d, rest, rfl⟩ := List.exists_cons_of_ne_nil present
  cases sign with
  | none =>
      obtain ⟨hplus, hminus⟩ := before rfl d rest rfl
      have hbare : readSigned (d :: rest) =
          (readDigits maxInt64 .tooLarge 0 (d :: rest)).map Int.ofNat := by
        rw [readSigned] <;> simp [hplus, hminus]
      exact hbare
  | plus => rfl
  | minus => rfl

end Signed

/-! ## The range -/

namespace Sign

variable {sign : Sign} {m : Nat}

theorem within_iff : m ≤ sign.bound ↔ -2 ^ 63 ≤ sign.apply m ∧ sign.apply m < 2 ^ 63 := by
  cases sign <;> simp only [bound, apply, maxInt64] <;> omega

theorem above_iff : 2 ^ 63 ≤ sign.apply m ↔ .tooLarge = sign.beyond ∧ sign.bound < m := by
  cases sign with
  | none | plus =>
      simp only [apply, beyond, bound, maxInt64, true_and]
      omega
  | minus =>
      simp only [apply, beyond, reduceCtorEq, false_and, iff_false, Int.not_le]
      omega

theorem below_iff : sign.apply m < -2 ^ 63 ↔ .tooSmall = sign.beyond ∧ sign.bound < m := by
  cases sign with
  | none | plus =>
      simp only [apply, beyond, reduceCtorEq, false_and, iff_false, Int.not_lt]
      omega
  | minus =>
      simp only [apply, beyond, bound, maxInt64, true_and]
      omega

theorem beyond_ne (sign : Sign) : sign.beyond ≠ .invalidDigit := by
  cases sign <;> nofun

end Sign

section Read

variable {sign : Sign} {cs ds : List Char} {n : Int} {problem : Problem}

theorem readSigned_eq_ok_iff :
    readSigned cs = .ok n ↔ Spells cs n ∧ -2 ^ 63 ≤ n ∧ n < 2 ^ 63 := by
  obtain ⟨sign, ds, rfl, before⟩ := exists_sign cs
  rw [spells_iff before]
  by_cases hnil : ds = []
  · subst hnil
    cases sign <;> simp [Sign.text, readSigned]
  · rw [readSigned_text before hnil]
    constructor
    · intro h
      obtain ⟨m, hread, rfl⟩ : ∃ m, readDigits sign.bound sign.beyond 0 ds = .ok m ∧
          sign.apply m = n := by
        cases hread : readDigits sign.bound sign.beyond 0 ds with
        | error problem =>
            rw [hread] at h
            cases h
        | ok m =>
            rw [hread] at h
            exact ⟨m, rfl, Except.ok.inj h⟩
      obtain ⟨numeric, rfl, hle⟩ := readDigits_eq_ok_iff.mp hread
      exact ⟨⟨hnil, numeric, rfl⟩, Sign.within_iff.mp hle⟩
    · rintro ⟨⟨_, numeric, rfl⟩, hwithin⟩
      rw [readDigits_eq_ok_iff.mpr ⟨numeric, rfl, Sign.within_iff.mpr hwithin⟩]
      rfl

/-- Numbers of a kind are out of range if they exceed the bound of their sign. That is reported
exactly if the text begins with one. -/
theorem readSigned_eq_beyond_iff {outside : Int → Prop} (counts : problem ≠ .empty)
    (other : problem ≠ .invalidDigit)
    (exceeds : ∀ sign m, outside (Sign.apply sign m) ↔ problem = sign.beyond ∧ sign.bound < m) :
    readSigned cs = .error problem ↔ ∃ n, Opens cs n ∧ outside n := by
  obtain ⟨sign, ds, rfl, before⟩ := exists_sign cs
  by_cases hnil : ds = []
  · subst hnil
    have hnone : ∀ n, ¬ Opens (sign.text ++ []) n := by
      intro n opens
      obtain ⟨front, hprefix, _, present, _⟩ := (opens_iff before).mp opens
      exact present (List.prefix_nil.mp hprefix)
    cases sign <;> simp_all [Sign.text, readSigned, eq_comm]
  · have hread : readSigned (sign.text ++ ds) = .error problem ↔
        problem = sign.beyond ∧ readDigits sign.bound sign.beyond 0 ds = .error sign.beyond := by
      rw [readSigned_text before hnil]
      cases hdigits : readDigits sign.bound sign.beyond 0 ds with
      | ok m => simp [Except.map]
      | error found =>
          rcases readDigits_error hdigits with rfl | rfl
          · simp [Except.map, eq_comm]
          · simp [Except.map, Ne.symm other, Ne.symm sign.beyond_ne]
    rw [hread, readDigits_eq_beyond_iff sign.beyond_ne]
    constructor
    · rintro ⟨hbeyond, front, hprefix, numeric, present, hbound⟩
      exact ⟨_, (opens_iff before).mpr ⟨front, hprefix, numeric, present, rfl⟩,
        (exceeds sign _).mpr ⟨hbeyond, hbound⟩⟩
    · rintro ⟨n, opens, hout⟩
      obtain ⟨front, hprefix, numeric, present, rfl⟩ := (opens_iff before).mp opens
      obtain ⟨hbeyond, hbound⟩ := (exceeds sign _).mp hout
      exact ⟨hbeyond, front, hprefix, numeric, present, hbound⟩

theorem readSigned_eq_tooLarge_iff :
    readSigned cs = .error .tooLarge ↔ ∃ n, Opens cs n ∧ 2 ^ 63 ≤ n :=
  readSigned_eq_beyond_iff (by decide) (by decide) fun _ _ => Sign.above_iff

theorem readSigned_eq_tooSmall_iff :
    readSigned cs = .error .tooSmall ↔ ∃ n, Opens cs n ∧ n < -2 ^ 63 :=
  readSigned_eq_beyond_iff (by decide) (by decide) fun _ _ => Sign.below_iff

theorem readSigned_eq_empty_iff : readSigned cs = .error .empty ↔ cs = [] := by
  constructor
  · intro h
    obtain ⟨sign, ds, rfl, before⟩ := exists_sign cs
    by_cases hnil : ds = []
    · subst hnil
      cases sign <;> simp_all [Sign.text, readSigned]
    · rw [readSigned_text before hnil] at h
      cases hdigits : readDigits sign.bound sign.beyond 0 ds with
      | ok m => simp [hdigits, Except.map] at h
      | error found =>
          rw [hdigits] at h
          cases h
          rcases readDigits_error hdigits with hfound | hfound
          · cases sign <;> cases hfound
          · cases hfound
  · rintro rfl
    rfl

/-- A text is refused for exactly one reason. -/
theorem readSigned_eq_error_iff : readSigned cs = .error problem ↔ Refuses cs problem := by
  constructor
  · intro h
    cases problem with
    | empty =>
        obtain rfl := readSigned_eq_empty_iff.mp h
        exact .empty
    | tooLarge =>
        obtain ⟨n, opens, above⟩ := readSigned_eq_tooLarge_iff.mp h
        exact .tooLarge opens above
    | tooSmall =>
        obtain ⟨n, opens, below⟩ := readSigned_eq_tooSmall_iff.mp h
        exact .tooSmall opens below
    | invalidDigit =>
        -- A spelling out of range would have been another problem.
        have hwithin : ∀ n, Opens cs n → -2 ^ 63 ≤ n ∧ n < 2 ^ 63 := by
          intro n opens
          by_contra hout
          by_cases habove : 2 ^ 63 ≤ n
          · cases h.symm.trans (readSigned_eq_tooLarge_iff.mpr ⟨n, opens, habove⟩)
          · have hbelow : n < -2 ^ 63 := by omega
            cases h.symm.trans (readSigned_eq_tooSmall_iff.mpr ⟨n, opens, hbelow⟩)
        refine .invalidDigit ?_ (fun n spells => ?_) hwithin
        · rintro rfl
          cases h
        · have hopens : Opens cs n := ⟨cs, List.prefix_rfl, spells⟩
          cases h.symm.trans (readSigned_eq_ok_iff.mpr ⟨spells, hwithin n hopens⟩)
  · rintro (_ | ⟨opens, above⟩ | ⟨opens, below⟩ | ⟨present, unspelled, within⟩)
    · rfl
    · exact readSigned_eq_tooLarge_iff.mpr ⟨_, opens, above⟩
    · exact readSigned_eq_tooSmall_iff.mpr ⟨_, opens, below⟩
    · cases h : readSigned cs with
      | ok n => exact absurd (readSigned_eq_ok_iff.mp h).1 (unspelled n)
      | error found =>
          cases found with
          | empty => exact absurd (readSigned_eq_empty_iff.mp h) present
          | tooLarge =>
              obtain ⟨n, opens, above⟩ := readSigned_eq_tooLarge_iff.mp h
              exact absurd above (Int.not_le.mpr (within n opens).2)
          | tooSmall =>
              obtain ⟨n, opens, below⟩ := readSigned_eq_tooSmall_iff.mp h
              exact absurd (within n opens).1 (Int.not_le.mpr below)
          | invalidDigit => rfl

end Read

end Decimal

/-! ## IDs -/

namespace Ident

open Decimal (Spells Refuses readSigned_eq_ok_iff readSigned_eq_error_iff)

variable {s input : String} {n : Int} {problem : Decimal.Problem}

/-- A text is read as the number that it spells; only then is the sign of the number judged. -/
theorem parse_of_spells (spells : Spells s.toList n) (low : -2 ^ 63 ≤ n) (high : n < 2 ^ 63) :
    parse s = ofInt n := by
  rw [parse, readSigned_eq_ok_iff.mpr ⟨spells, low, high⟩]

theorem parse_eq_notInteger_iff :
    parse s = .error (.notInteger input problem) ↔ input = s ∧ Refuses s.toList problem := by
  rw [← readSigned_eq_error_iff, parse]
  cases hread : Decimal.readSigned s.toList with
  | error found => simp [eq_comm]
  | ok m => cases m <;> simp [ofInt]

theorem ofInt_natCast {m : Nat} (h : (m : Int) < 2 ^ 63) :
    ∃ id, ofInt m = .ok id ∧ id.value = m := by
  have hle : m ≤ Decimal.maxInt64 := by
    rw [Decimal.maxInt64]
    omega
  exact ⟨_, rfl, Nat.min_eq_left hle⟩

theorem ofInt_value (id : Ident) : ofInt id.value = .ok id :=
  congrArg Except.ok (ext (Nat.min_eq_left id.value_le))

theorem exists_of_parse_eq_ok {id : Ident} (h : parse s = .ok id) :
    Spells s.toList id.value ∧ (id.value : Int) < 2 ^ 63 := by
  rw [parse] at h
  cases hread : Decimal.readSigned s.toList with
  | error found =>
      rw [hread] at h
      cases h
  | ok m =>
      rw [hread] at h
      obtain ⟨spells, _, high⟩ := readSigned_eq_ok_iff.mp hread
      cases m with
      | negSucc k => cases h
      | ofNat k =>
          obtain ⟨id', hid, hvalue⟩ := ofInt_natCast high
          obtain rfl : id' = id := Except.ok.inj (hid.symm.trans h)
          rw [hvalue]
          exact ⟨spells, high⟩

theorem parse_eq_ok_iff : (∃ id, parse s = .ok id ∧ (id.value : Int) = n) ↔
    Spells s.toList n ∧ 0 ≤ n ∧ n < 2 ^ 63 := by
  constructor
  · rintro ⟨id, hid, rfl⟩
    obtain ⟨spells, high⟩ := exists_of_parse_eq_ok hid
    exact ⟨spells, Int.natCast_nonneg _, high⟩
  · rintro ⟨spells, hpositive, high⟩
    obtain ⟨m, rfl⟩ := Int.eq_ofNat_of_zero_le hpositive
    obtain ⟨id, hid, hvalue⟩ := ofInt_natCast high
    refine ⟨id, (parse_of_spells spells ?_ high).trans hid, by rw [hvalue]⟩
    omega

theorem parse_eq_negative_iff :
    parse s = .error (.negative n) ↔ Spells s.toList n ∧ -2 ^ 63 ≤ n ∧ n < 0 := by
  constructor
  · intro h
    rw [parse] at h
    cases hread : Decimal.readSigned s.toList with
    | error found =>
        rw [hread] at h
        cases h
    | ok m =>
        rw [hread] at h
        obtain ⟨spells, low, _⟩ := readSigned_eq_ok_iff.mp hread
        cases m with
        | ofNat k => cases h
        | negSucc k =>
            cases h
            exact ⟨spells, low, Int.negSucc_lt_zero k⟩
  · rintro ⟨spells, low, hnegative⟩
    obtain ⟨k, rfl⟩ := Int.eq_negSucc_of_lt_zero hnegative
    exact parse_of_spells spells low (by omega)

/-- Zeros in front do not change which ID a text is read as. -/
theorem parse_zeros_text (zeros : Nat) (id : Ident) :
    parse (String.ofList (List.replicate zeros '0') ++ id.text) = .ok id := by
  have hpadded : String.ofList (List.replicate zeros '0') ++ id.text =
      String.ofList (Decimal.padded (zeros + id.digits.length) id.digits) := by
    rw [Decimal.padded, Nat.add_sub_cancel, String.ofList_append]
    rfl
  rw [hpadded]
  exact parse_padded _ id

/-- A text is an ID exactly if it spells an integer from 0 up to the largest of 64 bits, and it is
told to be negative exactly if it spells one below 0 down to the smallest. Every other text is no
integer, for a reason that the text alone decides. -/
theorem parse_reads_integers (s : String) :
    (∀ n : Int, (∃ id, parse s = .ok id ∧ (id.value : Int) = n) ↔
      Spells s.toList n ∧ 0 ≤ n ∧ n < 2 ^ 63) ∧
    (∀ n, parse s = .error (.negative n) ↔ Spells s.toList n ∧ -2 ^ 63 ≤ n ∧ n < 0) ∧
    ((∃ problem, parse s = .error (.notInteger s problem)) ↔
      ¬ ∃ n, Spells s.toList n ∧ -2 ^ 63 ≤ n ∧ n < 2 ^ 63) ∧
    (∀ input problem, parse s = .error (.notInteger input problem) ↔
      input = s ∧ Refuses s.toList problem) ∧
    ∀ (zeros : Nat) (id : Ident),
      parse (String.ofList (List.replicate zeros '0') ++ id.text) = .ok id := by
  refine ⟨fun _ => parse_eq_ok_iff, fun _ => parse_eq_negative_iff, ?_,
    fun _ _ => parse_eq_notInteger_iff, parse_zeros_text⟩
  constructor
  · rintro ⟨problem, h⟩ ⟨n, spells, low, high⟩
    have hread := readSigned_eq_error_iff.mpr (parse_eq_notInteger_iff.mp h).2
    cases hread.symm.trans (readSigned_eq_ok_iff.mpr ⟨spells, low, high⟩)
  · intro hnone
    cases hread : Decimal.readSigned s.toList with
    | ok n => exact absurd ⟨n, readSigned_eq_ok_iff.mp hread⟩ hnone
    | error problem =>
        exact ⟨problem, parse_eq_notInteger_iff.mpr ⟨rfl, readSigned_eq_error_iff.mp hread⟩⟩

/-- The last digit leaves the range, so what stands after it is not looked at. -/
example : parse "-9223372036854775809x" =
    .error (.notInteger "-9223372036854775809x" .tooSmall) := by decide

end Ident

end SchemaLedger
