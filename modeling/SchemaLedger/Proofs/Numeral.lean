import Mathlib.Algebra.Group.Nat.Defs
import Mathlib.Data.List.Induction
import SchemaLedger.Proofs.FileName

/-! # Numerals

The number that digits spell. A number has one spelling for each count of digits that is large
enough, so a name says how its ID was padded. -/

namespace SchemaLedger

namespace Decimal

def Numeric (cs : List Char) : Prop := ∀ c ∈ cs, isDigit c = true

/-! ## Single digits -/

theorem isDigit_iff {c : Char} : isDigit c = true ↔ 48 ≤ c.toNat ∧ c.toNat ≤ 57 := by
  rw [isDigit, Bool.and_eq_true, decide_eq_true_eq, decide_eq_true_eq]
  rfl

theorem digitValue_eq (c : Char) : digitValue c = c.toNat - 48 := rfl

theorem digitValue_lt {c : Char} (h : isDigit c = true) : digitValue c < 10 := by
  have hrange := isDigit_iff.mp h
  rw [digitValue_eq]
  omega

theorem digit_digitValue {c : Char} (h : isDigit c = true) : digit (digitValue c) = c := by
  have hrange := isDigit_iff.mp h
  have hcode : '0'.toNat + digitValue c = c.toNat := by
    rw [digitValue_eq]
    change 48 + _ = _
    omega
  rw [digit, hcode, Char.ofNat_toNat]

/-! ## Values -/

@[simp] theorem value_concat (cs : List Char) (c : Char) :
    value (cs ++ [c]) = value cs * 10 + digitValue c := by
  simp [value]

theorem value_digits (n : Nat) : value (digits n) = n := by
  induction n using digits.induct with
  | case1 n hsmall => simp [digits, hsmall, value, digitValue_digit n hsmall]
  | case2 n hlarge ih =>
      have hlast : n % 10 < 10 := by omega
      rw [digits, if_neg hlarge, value_concat, ih, digitValue_digit _ hlast]
      omega

theorem value_lt {cs : List Char} (h : Numeric cs) : value cs < 10 ^ cs.length := by
  induction cs using List.reverseRecOn with
  | nil => simp [value]
  | append_singleton cs c ih =>
      have hrest := ih fun d hd => h d (by simp [hd])
      have hlast := digitValue_lt (h c (by simp))
      rw [value_concat, List.length_append, List.length_singleton, Nat.pow_succ]
      omega

theorem value_cons (c : Char) (cs : List Char) :
    value (c :: cs) = digitValue c * 10 ^ cs.length + value cs := by
  induction cs using List.reverseRecOn with
  | nil => simp [value]
  | append_singleton cs d ih =>
      rw [← List.cons_append, value_concat, value_concat, ih, List.length_append,
        List.length_singleton, Nat.pow_succ, Nat.add_mul, Nat.mul_assoc, Nat.add_assoc]

/-! ## Padding -/

theorem length_padded (width : Nat) (ds : List Char) :
    (padded width ds).length = max width ds.length := by
  rw [padded, List.length_append, List.length_replicate]
  omega

theorem padded_concat (width : Nat) (ds : List Char) (c : Char) :
    padded (width + 1) (ds ++ [c]) = padded width ds ++ [c] := by
  have hlength : width + 1 - (ds ++ [c]).length = width - ds.length := by simp
  rw [padded, padded, hlength, List.append_assoc]

theorem value_padded (width : Nat) (ds : List Char) : value (padded width ds) = value ds := by
  induction ds using List.reverseRecOn generalizing width with
  | nil =>
      have hzeros : ∀ k, value (List.replicate k '0') = 0 := by
        intro k
        induction k with
        | zero => rfl
        | succ k ih =>
            rw [List.replicate_succ', value_concat, ih]
            rfl
      rw [padded, List.append_nil, hzeros]
      rfl
  | append_singleton ds c ih =>
      cases width with
      | zero => simp [padded]
      | succ width => rw [padded_concat, value_concat, value_concat, ih]

/-- Digits are the digits of their value, padded to their own length. -/
theorem eq_padded {cs : List Char} (h : Numeric cs) (present : cs ≠ []) :
    cs = padded cs.length (digits (value cs)) := by
  induction cs using List.reverseRecOn with
  | nil => exact absurd rfl present
  | append_singleton cs c ih =>
      have hdigit := h c (by simp)
      have hlast := digitValue_lt hdigit
      have hlength : (cs ++ [c]).length = cs.length + 1 := by simp
      rw [value_concat, hlength]
      by_cases hnone : cs = []
      · subst hnone
        simp [value, digits, hlast, padded, digit_digitValue hdigit]
      · have hcs := ih (fun d hd => h d (by simp [hd])) hnone
        by_cases hzero : value cs = 0
        · -- The digits before the last are zeros, and the last is all there is to pad.
          rw [hzero] at hcs ⊢
          have hzeros : cs = List.replicate cs.length '0' := by
            have hpositive := List.length_pos_iff.mpr hnone
            have hdigits : digits 0 = ['0'] := by
              rw [digits]
              rfl
            rw [hdigits, padded, List.length_singleton, ← List.replicate_succ',
              Nat.sub_add_cancel hpositive] at hcs
            exact hcs
          have hone : digits (0 * 10 + digitValue c) = [c] := by
            rw [Nat.zero_mul, Nat.zero_add, digits, if_pos hlast, digit_digitValue hdigit]
          rw [hone, padded, List.length_singleton, Nat.add_sub_cancel, ← hzeros]
        · have hmore : digits (value cs * 10 + digitValue c) = digits (value cs) ++ [c] := by
            have hquotient : (value cs * 10 + digitValue c) / 10 = value cs := by omega
            have hremainder : (value cs * 10 + digitValue c) % 10 = digitValue c := by omega
            rw [digits, if_neg (by omega), hquotient, hremainder, digit_digitValue hdigit]
          rw [hmore, padded_concat, ← hcs]

/-! ## Reading -/

/-- What is read are digits, and the result is what they spell after the value so far. -/
theorem readDigits_eq_ok {bound v n : Nat} {beyond : Problem} {cs : List Char}
    (h : readDigits bound beyond v cs = .ok n) :
    Numeric cs ∧ n = v * 10 ^ cs.length + value cs := by
  induction cs generalizing v with
  | nil =>
      rw [readDigits, Except.ok.injEq] at h
      exact ⟨fun _ hd => absurd hd List.not_mem_nil, by simp [value, h]⟩
  | cons c cs ih =>
      rw [readDigits] at h
      split at h
      · next hdigit =>
          dsimp only at h
          split at h
          · cases h
          · obtain ⟨hnumeric, hn⟩ := ih h
            refine ⟨?_, ?_⟩
            · intro d hd
              rcases List.mem_cons.mp hd with rfl | hd
              · exact hdigit
              · exact hnumeric d hd
            · rw [hn, value_cons, List.length_cons, Nat.pow_succ', Nat.add_mul, Nat.mul_assoc,
                Nat.add_assoc]
      · cases h

theorem readDigits_le {bound v n : Nat} {beyond : Problem} {cs : List Char} (hv : v ≤ bound)
    (h : readDigits bound beyond v cs = .ok n) : n ≤ bound := by
  induction cs generalizing v with
  | nil => exact Except.ok.inj h ▸ hv
  | cons c cs ih =>
      rw [readDigits] at h
      split at h
      · dsimp only at h
        split at h
        · cases h
        · next hwithin => exact ih (Nat.le_of_not_lt hwithin) h
      · cases h

/-- Digits are read exactly up to the bound; beyond it, some digit is the first to exceed it. -/
theorem readDigits_of_numeric {bound v : Nat} (beyond : Problem) {cs : List Char} (h : Numeric cs)
    (hv : v ≤ bound) : readDigits bound beyond v cs =
      if v * 10 ^ cs.length + value cs ≤ bound then .ok (v * 10 ^ cs.length + value cs)
      else .error beyond := by
  induction cs generalizing v with
  | nil => simp [readDigits, value, hv]
  | cons c cs ih =>
      have hplaces : v * 10 ^ (c :: cs).length + value (c :: cs) =
          (v * 10 + digitValue c) * 10 ^ cs.length + value cs := by
        rw [value_cons, List.length_cons, Nat.pow_succ', Nat.add_mul, Nat.mul_assoc, Nat.add_assoc]
      rw [readDigits, if_pos (h c List.mem_cons_self), hplaces]
      dsimp only
      split
      · next hbeyond =>
          have hscaled : (v * 10 + digitValue c) * 1 ≤ (v * 10 + digitValue c) * 10 ^ cs.length :=
            Nat.mul_le_mul_left _ (Nat.one_le_pow _ _ (by decide))
          rw [if_neg (by omega)]
      · next hwithin => exact ih (fun d hd => h d (List.mem_cons_of_mem _ hd)) (Nat.le_of_not_lt hwithin)

end Decimal

/-! ## Widths of IDs -/

namespace Ident

theorem length_digits (n : Nat) : (Decimal.digits n).length = widthOf n := by
  induction n using Decimal.digits.induct with
  | case1 n hsmall =>
      rw [Decimal.digits, widthOf, if_pos hsmall, if_pos hsmall]
      rfl
  | case2 n hlarge ih =>
      rw [Decimal.digits, widthOf, if_neg hlarge, if_neg hlarge, List.length_append, ih]
      rfl

theorem widthOf_mono {m n : Nat} (h : m ≤ n) : widthOf m ≤ widthOf n := by
  induction n using widthOf.induct generalizing m with
  | case1 n hsmall =>
      have hm : widthOf m = 1 := by rw [widthOf, if_pos (by omega)]
      have hn : widthOf n = 1 := by rw [widthOf, if_pos hsmall]
      exact Nat.le_of_eq (hm.trans hn.symm)
  | case2 n hlarge ih =>
      rw [widthOf.eq_def m, widthOf.eq_def n, if_neg hlarge]
      split
      · omega
      · have hquotient := ih (show m / 10 ≤ n / 10 by omega)
        omega

theorem width_mono {a b : Ident} (h : a ≤ b) : a.width ≤ b.width := widthOf_mono h

theorem length_padded (width : Nat) (id : Ident) :
    (Decimal.padded width id.digits).length = max width id.width := by
  rw [Decimal.length_padded, digits, length_digits, Ident.width]

theorem value_padded (width : Nat) (id : Ident) :
    Decimal.value (Decimal.padded width id.digits) = id.value := by
  rw [Decimal.value_padded, digits, Decimal.value_digits]

theorem numeric_padded (width : Nat) (id : Ident) :
    Decimal.Numeric (Decimal.padded width id.digits) :=
  fun _ hc => Decimal.isDigit_of_mem_padded hc

/-- Digits are an ID unless they spell too large a number. -/
theorem parse_of_numeric {s : String} (present : s.toList ≠ [])
    (numeric : Decimal.Numeric s.toList) :
    parse s = if h : Decimal.value s.toList ≤ Decimal.maxInt64 then .ok ⟨_, h⟩
      else .error (.notInteger s .tooLarge) := by
  cases hcs : s.toList with
  | nil => exact absurd hcs present
  | cons c cs =>
      rw [hcs] at numeric
      rw [parse, hcs, Decimal.readSigned_of_digit cs (numeric c List.mem_cons_self),
        Decimal.readDigits_of_numeric .tooLarge numeric (Nat.zero_le _), Nat.zero_mul, Nat.zero_add]
      by_cases hle : Decimal.value (c :: cs) ≤ Decimal.maxInt64
      · rw [if_pos hle, dif_pos hle]
        simp [Except.map, ofInt, Nat.min_eq_left hle]
      · rw [if_neg hle, dif_neg hle]
        rfl

theorem eq_padded_of_parse {cs : List Char} {id : Ident} (present : cs ≠ [])
    (numeric : Decimal.Numeric cs) (h : parse (String.ofList cs) = .ok id) :
    cs = Decimal.padded cs.length id.digits := by
  cases cs with
  | nil => exact absurd rfl present
  | cons c rest =>
      rw [parse, String.toList_ofList,
        Decimal.readSigned_of_digit rest (numeric c List.mem_cons_self)] at h
      cases hread : Decimal.readDigits Decimal.maxInt64 .tooLarge 0 (c :: rest) with
      | error problem =>
          rw [hread] at h
          cases h
      | ok n =>
          rw [hread] at h
          obtain ⟨_, hn⟩ := Decimal.readDigits_eq_ok hread
          rw [Nat.zero_mul, Nat.zero_add] at hn
          have hvalue : id.value = n := by
            rw [← Except.ok.inj h]
            exact Nat.min_eq_left (Decimal.readDigits_le (Nat.zero_le _) hread)
          rw [digits, hvalue, hn]
          exact Decimal.eq_padded numeric present

end Ident

end SchemaLedger
