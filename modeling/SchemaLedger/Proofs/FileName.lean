import SchemaLedger.Directory.Scan
import SchemaLedger.Proofs.Path
import SchemaLedger.Slug

/-! # File names say what they were made of

Reading the name of a migration that was written with any padding gives back its ID and its slug. -/

namespace SchemaLedger

/-! ## Decimal numerals -/

namespace Decimal

theorem isDigit_digit : ∀ n < 10, isDigit (digit n) = true := by decide

theorem digitValue_digit : ∀ n < 10, digitValue (digit n) = n := by decide

theorem isDigit_of_mem_digits {n : Nat} {c : Char} (h : c ∈ digits n) : isDigit c = true := by
  induction n using digits.induct with
  | case1 n hsmall =>
      rw [digits, if_pos hsmall, List.mem_singleton] at h
      rw [h]
      exact isDigit_digit n hsmall
  | case2 n hlarge ih =>
      rw [digits, if_neg hlarge] at h
      rcases List.mem_append.mp h with h | h
      · exact ih h
      · rw [List.mem_singleton.mp h]
        exact isDigit_digit _ (by omega)

theorem digits_ne_nil (n : Nat) : digits n ≠ [] := by
  rw [digits]
  split <;> simp

theorem isDigit_of_mem_padded {width n : Nat} {c : Char} (h : c ∈ padded width (digits n)) :
    isDigit c = true := by
  rcases List.mem_append.mp h with h | h
  · rw [List.eq_of_mem_replicate h]
    decide
  · exact isDigit_of_mem_digits h

theorem padded_ne_nil (width n : Nat) : padded width (digits n) ≠ [] := by
  simp [padded, digits_ne_nil n]

/-! ### Reading them -/

section Reading

variable (bound : Nat) (beyond : Problem)

theorem readDigits_append (v : Nat) (cs ds : List Char) :
    readDigits bound beyond v (cs ++ ds) =
      match readDigits bound beyond v cs with
      | .ok w => readDigits bound beyond w ds
      | .error problem => .error problem := by
  induction cs generalizing v with
  | nil => rfl
  | cons c cs ih =>
      rw [List.cons_append, readDigits, readDigits]
      dsimp only
      split
      · split
        · rfl
        · exact ih _
      · rfl

theorem readDigits_digits {n : Nat} (h : n ≤ bound) :
    readDigits bound beyond 0 (digits n) = .ok n := by
  induction n using digits.induct with
  | case1 n hsmall =>
      rw [digits, if_pos hsmall, readDigits, if_pos (isDigit_digit n hsmall)]
      simp [digitValue_digit n hsmall, readDigits, Nat.not_lt.mpr h]
  | case2 n hlarge ih =>
      have hlast : n % 10 < 10 := by omega
      have hwhole : n / 10 * 10 + n % 10 = n := by omega
      rw [digits, if_neg hlarge, readDigits_append, ih (by omega)]
      simp [readDigits, isDigit_digit _ hlast, digitValue_digit _ hlast, hwhole, Nat.not_lt.mpr h]

theorem readDigits_zeros (k : Nat) (cs : List Char) :
    readDigits bound beyond 0 (List.replicate k '0' ++ cs) = readDigits bound beyond 0 cs := by
  induction k with
  | zero => rfl
  | succ k ih =>
      have hdigit : isDigit '0' = true := by decide
      have hvalue : 0 * 10 + digitValue '0' = 0 := by decide
      rw [List.replicate_succ, List.cons_append, readDigits, if_pos hdigit]
      simp only [hvalue, Nat.not_lt_zero, if_false]
      exact ih

end Reading

theorem readSigned_of_digit {c : Char} (cs : List Char) (h : isDigit c = true) :
    readSigned (c :: cs) = (readDigits maxInt64 .tooLarge 0 (c :: cs)).map Int.ofNat := by
  have hplus : c ≠ '+' := by
    rintro rfl
    exact absurd h (by decide)
  have hminus : c ≠ '-' := by
    rintro rfl
    exact absurd h (by decide)
  rw [readSigned] <;> simp [hplus, hminus]

theorem readSigned_padded {n : Nat} (h : n ≤ maxInt64) (width : Nat) :
    readSigned (padded width (digits n)) = .ok (Int.ofNat n) := by
  cases hpadded : padded width (digits n) with
  | nil => exact absurd hpadded (padded_ne_nil width n)
  | cons c cs =>
      have hdigit : isDigit c = true :=
        isDigit_of_mem_padded (hpadded ▸ List.mem_cons_self)
      rw [readSigned_of_digit cs hdigit, ← hpadded, padded, readDigits_zeros, readDigits_digits _ _ h]
      rfl

end Decimal

theorem Ident.parse_padded (width : Nat) (id : Ident) :
    parse (String.ofList (Decimal.padded width id.digits)) = .ok id := by
  have hle := id.value_le
  rw [parse, String.toList_ofList, digits, Decimal.readSigned_padded hle]
  simp [ofInt, Nat.min_eq_left hle]

/-! ## Slugs -/

namespace Slug

/-- Neither a line feed nor a slash. -/
def Clean (slug : String) : Prop := '\n' ∉ slug.toList ∧ '/' ∉ slug.toList

theorem isSeparator_of_mem_squeeze {inside : Bool} {cs : List Char} {c : Char}
    (h : c ∈ squeeze inside cs) : c = '_' ∨ isSeparator c = false := by
  induction cs generalizing inside with
  | nil => cases h
  | cons d cs ih =>
      rw [squeeze] at h
      split at h
      · split at h
        · exact ih h
        · rcases List.mem_cons.mp h with rfl | h
          · exact .inl rfl
          · exact ih h
      · next hplain =>
          rcases List.mem_cons.mp h with rfl | h
          · exact .inr (by simpa using hplain)
          · exact ih h

theorem clean_ofText (raw : String) : Clean (ofText raw) := by
  rw [Clean, ofText, String.toList_ofList]
  constructor <;> intro h <;> rcases isSeparator_of_mem_squeeze h with heq | hplain
  · exact absurd heq (by decide)
  · exact absurd hplain (by decide)
  · exact absurd heq (by decide)
  · exact absurd hplain (by decide)

end Slug

/-! ## Names -/

namespace FileName

theorem dropSuffix?_append (cs : List Char) : dropSuffix? (cs ++ suffix) = some cs := by
  induction cs with
  | nil => rfl
  | cons c cs ih =>
      have hlong : c :: (cs ++ suffix) ≠ suffix := by
        intro h
        have hlength := congrArg List.length h
        simp only [List.length_cons, List.length_append] at hlength
        omega
      rw [List.cons_append, dropSuffix?, if_neg hlong, ih]
      rfl

theorem toList_write (width : Nat) (id : Ident) (slug : String) :
    (write width id slug).toList =
      Decimal.padded width id.digits ++ '-' :: (slug.toList ++ suffix) := by
  simp [write]

theorem takeWhile_write (width : Nat) (id : Ident) (slug : String) :
    (write width id slug).toList.takeWhile Decimal.isDigit = Decimal.padded width id.digits := by
  have hdigits : ∀ c ∈ Decimal.padded width id.digits, Decimal.isDigit c = true :=
    fun _ hc => Decimal.isDigit_of_mem_padded hc
  have hdash : Decimal.isDigit '-' = false := by decide
  rw [toList_write, List.takeWhile_append_of_pos hdigits]
  simp [hdash]

theorem dropWhile_write (width : Nat) (id : Ident) (slug : String) :
    (write width id slug).toList.dropWhile Decimal.isDigit = '-' :: (slug.toList ++ suffix) := by
  have hdigits : ∀ c ∈ Decimal.padded width id.digits, Decimal.isDigit c = true :=
    fun _ hc => Decimal.isDigit_of_mem_padded hc
  have hdash : Decimal.isDigit '-' = false := by decide
  rw [toList_write, List.dropWhile_append_of_pos hdigits]
  simp [hdash]

/-- The name says how the ID was written and which slug it got. -/
theorem read?_write (width : Nat) (id : Ident) {slug : String} (h : '\n' ∉ slug.toList) :
    read? (write width id slug) = some ⟨String.ofList (Decimal.padded width id.digits), slug⟩ := by
  have hslug : slug? (slug.toList ++ suffix) = some slug.toList := by
    rw [slug?, dropSuffix?_append]
    exact if_neg h
  rw [read?, takeWhile_write, dropWhile_write]
  cases hpadded : Decimal.padded width id.digits with
  | nil => exact absurd hpadded (Decimal.padded_ne_nil width id.value)
  | cons d ds => simp [hslug]

end FileName

/-! ## Octets -/

namespace Text

theorem octets_eq_flatMap (s : String) : octets s = s.toList.flatMap String.utf8EncodeChar := by
  rw [octets, String.toUTF8, ← String.utf8Encode_toList, List.utf8Encode]
  simp

theorem octets_injective {s t : String} (h : octets s = octets t) : s = t := by
  have hsame := congrArg ofOctets? h
  simpa using hsame

/-- The octets of other characters are no ASCII characters. -/
theorem mem_utf8EncodeChar {c : Char} {b : UInt8} (h : b ∈ String.utf8EncodeChar c)
    (ascii : b.toNat < 128) : c.toNat = b.toNat := by
  have hval : c.val.toNat = c.toNat := rfl
  simp only [String.utf8EncodeChar] at h
  split at h
  · rw [List.mem_singleton.mp h]
    simp only [UInt8.toNat_ofNat']
    omega
  · exfalso
    repeat' split at h
    all_goals
      simp only [List.mem_cons, List.not_mem_nil, or_false] at h
      rcases h with rfl | rfl | rfl | rfl
      all_goals
        simp only [UInt8.toNat_ofNat'] at ascii
        omega

end Text

namespace FileName

theorem slash_not_mem_write (width : Nat) (id : Ident) {slug : String} (h : '/' ∉ slug.toList) :
    Path.slash ∉ Text.octets (write width id slug) := by
  intro hmem
  rw [Text.octets_eq_flatMap] at hmem
  obtain ⟨c, hc, hoctet⟩ := List.mem_flatMap.mp hmem
  have hslash : c = '/' :=
    Char.toNat_inj.mp (Text.mem_utf8EncodeChar hoctet (by decide))
  subst hslash
  rw [toList_write] at hc
  simp only [List.mem_append, List.mem_cons] at hc
  rcases hc with hdigit | hdash | hslug | hsuffix
  · exact absurd (Decimal.isDigit_of_mem_padded hdigit) (by decide)
  · exact absurd hdash (by decide)
  · exact h hslug
  · exact absurd hsuffix (by decide)

theorem plain_write (width : Nat) (id : Ident) {slug : String} (clean : Slug.Clean slug) :
    Path.Plain (Text.octets (write width id slug)) := by
  have hread := read?_write width id clean.1
  have hother : ∀ name : String, read? name = none →
      Text.octets (write width id slug) ≠ Text.octets name := by
    intro name hnone heq
    rw [Text.octets_injective heq, hnone] at hread
    cases hread
  exact ⟨slash_not_mem_write width id clean.2, hother "" (by decide), hother "." (by decide),
    hother ".." (by decide)⟩

end FileName

theorem Directory.heading_write (width : Nat) (id : Ident) {slug : String}
    (clean : Slug.Clean slug) :
    heading (Text.octets (FileName.write width id slug)) =
      .ok ⟨FileName.write width id slug, id, slug,
        String.ofList (Decimal.padded width id.digits)⟩ := by
  rw [heading, Text.ofOctets?_octets]
  dsimp only
  rw [FileName.read?_write width id clean.1]
  dsimp only
  rw [Ident.parse_padded]

end SchemaLedger
