import Mathlib.Data.List.TakeWhile
import SchemaLedger.Proofs.Numeral

/-! # The order of names

Names are ordered by their octets from the left. Two numerals of one length compare as their
numbers do; a shorter one comes before a longer one only if it is no greater than what the longer
one begins with. -/

namespace SchemaLedger

/-! ## Octets -/

namespace Octets

theorem cons_precedes_cons {x y : UInt8} {a b : Octets} : precedes (x :: a) (y :: b) = true ↔
    x.toNat < y.toNat ∨ x = y ∧ precedes a b = true := by
  simp [precedes]

theorem precedes_total (a b : Octets) : precedes a b = true ∨ precedes b a = true := by
  induction a generalizing b with
  | nil => exact .inl rfl
  | cons x a ih =>
      cases b with
      | nil => exact .inr rfl
      | cons y b =>
          rw [cons_precedes_cons, cons_precedes_cons]
          rcases Nat.lt_trichotomy x.toNat y.toNat with hlt | heq | hgt
          · exact .inl (.inl hlt)
          · have hsame := UInt8.toNat_inj.mp heq
            exact (ih b).imp (fun h => .inr ⟨hsame, h⟩) (fun h => .inr ⟨hsame.symm, h⟩)
          · exact .inr (.inl hgt)

theorem precedes_trans {a b c : Octets} (hab : precedes a b = true) (hbc : precedes b c = true) :
    precedes a c = true := by
  induction a generalizing b c with
  | nil => rfl
  | cons x a ih =>
      cases b with
      | nil => cases hab
      | cons y b =>
          cases c with
          | nil => cases hbc
          | cons z c =>
              rw [cons_precedes_cons] at hab hbc ⊢
              rcases hab with hxy | ⟨rfl, hab⟩
              · rcases hbc with hyz | ⟨rfl, _⟩
                · exact .inl (Nat.lt_trans hxy hyz)
                · exact .inl hxy
              · exact hbc.imp_right fun hbc => ⟨hbc.1, ih hab hbc.2⟩

theorem precedes_antisymm {a b : Octets} (hab : precedes a b = true) (hba : precedes b a = true) :
    a = b := by
  induction a generalizing b with
  | nil =>
      cases b with
      | nil => rfl
      | cons y b => cases hba
  | cons x a ih =>
      cases b with
      | nil => cases hab
      | cons y b =>
          rw [cons_precedes_cons] at hab hba
          rcases hab with hxy | ⟨rfl, hab⟩
          · rcases hba with hyx | ⟨rfl, _⟩ <;> omega
          · rcases hba with hxx | ⟨_, hba⟩
            · omega
            · rw [ih hab hba]

end Octets

/-! ## Numerals -/

namespace Decimal

def spelled (cs : List Char) (rest : Octets) : Octets := cs.map Text.octet ++ 0x2D :: rest

theorem toNat_octet {c : Char} (h : isDigit c = true) :
    (Text.octet c).toNat = 48 + digitValue c := by
  have hrange := isDigit_iff.mp h
  have hoctet : (Text.octet c).toNat = c.toNat % 256 := rfl
  rw [hoctet, digitValue_eq]
  omega

/-- Of two numbers that consist of a first digit and a rest, the first digit counts more. -/
theorem places_le {a b place x y : Nat} (hx : x < place) (hy : y < place) :
    a * place + x ≤ b * place + y ↔ a < b ∨ a = b ∧ x ≤ y := by
  rcases Nat.lt_trichotomy a b with hlt | rfl | hgt
  · have hplace : (a + 1) * place ≤ b * place := Nat.mul_le_mul_right _ hlt
    rw [Nat.add_mul] at hplace
    omega
  · omega
  · have hplace : (b + 1) * place ≤ a * place := Nat.mul_le_mul_right _ hgt
    rw [Nat.add_mul] at hplace
    omega

section Compare

variable {c d : Char} {cs ds : List Char} (r s : Octets)

theorem spelled_cons_precedes (hc : isDigit c = true) (hd : isDigit d = true) :
    (spelled (c :: cs) r).precedes (spelled (d :: ds) s) = true ↔
      digitValue c < digitValue d ∨
        digitValue c = digitValue d ∧ (spelled cs r).precedes (spelled ds s) = true := by
  have hoctet : Text.octet c = Text.octet d ↔ digitValue c = digitValue d := by
    rw [← UInt8.toNat_inj, toNat_octet hc, toNat_octet hd]
    omega
  change Octets.precedes (Text.octet c :: spelled cs r) (Text.octet d :: spelled ds s) = true ↔ _
  rw [Octets.cons_precedes_cons, toNat_octet hc, toNat_octet hd, hoctet]
  simp

/-- Of two numerals of one length, the smaller number comes first. -/
theorem spelled_precedes_of_lt (hcs : Numeric cs) (hds : Numeric ds)
    (hlength : cs.length = ds.length) (hlt : value cs < value ds) :
    (spelled cs r).precedes (spelled ds s) = true := by
  induction cs generalizing ds with
  | nil =>
      rw [List.eq_nil_of_length_eq_zero hlength.symm] at hlt
      exact absurd hlt (Nat.lt_irrefl _)
  | cons c cs ih =>
      cases ds with
      | nil => cases hlength
      | cons d ds =>
          have hlength : cs.length = ds.length := Nat.succ.inj hlength
          have hcs' : Numeric cs := fun x hx => hcs x (List.mem_cons_of_mem _ hx)
          have hds' : Numeric ds := fun x hx => hds x (List.mem_cons_of_mem _ hx)
          rw [spelled_cons_precedes r s (hcs c List.mem_cons_self) (hds d List.mem_cons_self)]
          rw [value_cons, value_cons, hlength] at hlt
          rcases (places_le (hlength ▸ value_lt hcs') (value_lt hds')).mp (Nat.le_of_lt hlt) with
            hfirst | ⟨heq, _⟩
          · exact .inl hfirst
          · rw [heq] at hlt
            exact .inr ⟨heq, ih hcs' hds' hlength (Nat.lt_of_add_lt_add_left hlt)⟩

/-- A shorter numeral comes before a longer one if it is no greater than its beginning. -/
theorem spelled_precedes_longer (hcs : Numeric cs) (hds : Numeric ds)
    (hlength : cs.length < ds.length) :
    (spelled cs r).precedes (spelled ds s) = true ↔
      value cs * 10 ^ (ds.length - cs.length) ≤ value ds := by
  induction cs generalizing ds with
  | nil =>
      cases ds with
      | nil => exact absurd hlength (Nat.lt_irrefl _)
      | cons d ds =>
          -- A dash comes before any digit.
          have hdash : (0x2D : UInt8).toNat < (Text.octet d).toNat := by
            rw [toNat_octet (hds d List.mem_cons_self)]
            change 45 < _
            omega
          have hfirst : (spelled [] r).precedes (spelled (d :: ds) s) = true :=
            Octets.cons_precedes_cons.mpr (.inl hdash)
          simp [hfirst, value]
  | cons c cs ih =>
      cases ds with
      | nil => cases hlength
      | cons d ds =>
          have hlength : cs.length < ds.length := Nat.lt_of_succ_lt_succ hlength
          have hcs' : Numeric cs := fun x hx => hcs x (List.mem_cons_of_mem _ hx)
          have hds' : Numeric ds := fun x hx => hds x (List.mem_cons_of_mem _ hx)
          have hrest := value_lt hds'
          have hplaces : 10 ^ cs.length * 10 ^ (ds.length - cs.length) = 10 ^ ds.length := by
            rw [← Nat.pow_add]
            congr 1
            omega
          have hscaled : value cs * 10 ^ (ds.length - cs.length) < 10 ^ ds.length := by
            rw [← hplaces]
            exact Nat.mul_lt_mul_of_pos_right (value_lt hcs') (Nat.pow_pos (by decide))
          rw [spelled_cons_precedes r s (hcs c List.mem_cons_self) (hds d List.mem_cons_self),
            ih hcs' hds' hlength, value_cons, value_cons, List.length_cons, List.length_cons,
            Nat.add_sub_add_right, Nat.add_mul, Nat.mul_assoc, hplaces]
          exact (places_le hscaled hrest).symm

theorem spelled_precedes_iff (hcs : Numeric cs) (hds : Numeric ds) (hlt : value cs < value ds) :
    (spelled cs r).precedes (spelled ds s) = true ↔
      ds.length ≤ cs.length ∨ value cs * 10 ^ (ds.length - cs.length) ≤ value ds := by
  rcases Nat.lt_trichotomy cs.length ds.length with hshort | heq | hlong
  · rw [spelled_precedes_longer r s hcs hds hshort]
    simp [Nat.not_le.mpr hshort]
  · simp [spelled_precedes_of_lt r s hcs hds heq hlt, heq]
  · -- The longer numeral begins with a number that is no greater than its own.
    have hafter : ¬ (spelled ds s).precedes (spelled cs r) = true := by
      rw [spelled_precedes_longer s r hds hcs hlong]
      have hscaled : value ds * 1 ≤ value ds * 10 ^ (cs.length - ds.length) :=
        Nat.mul_le_mul_left _ (Nat.one_le_pow _ _ (by decide))
      omega
    have hbefore := (Octets.precedes_total _ _).resolve_right hafter
    simp [hbefore, Nat.le_of_lt hlong]

end Compare

end Decimal

/-! ## File names -/

namespace FileName

theorem octets_write (width : Nat) (id : Ident) (slug : String) :
    ∃ rest, Text.octets (write width id slug) =
      Decimal.spelled (Decimal.padded width id.digits) rest := by
  have hdigits : ∀ cs, Decimal.Numeric cs →
      cs.flatMap String.utf8EncodeChar = cs.map Text.octet := by
    intro cs hcs
    induction cs with
    | nil => rfl
    | cons c cs ih =>
        have hc := Decimal.isDigit_iff.mp (hcs c List.mem_cons_self)
        have hval : c.val.toNat = c.toNat := rfl
        have hoctet : String.utf8EncodeChar c = [Text.octet c] := by
          rw [String.utf8EncodeChar, if_pos (by omega)]
          rfl
        rw [List.flatMap_cons, hoctet, ih fun d hd => hcs d (List.mem_cons_of_mem _ hd)]
        rfl
  refine ⟨(slug.toList ++ suffix).flatMap String.utf8EncodeChar, ?_⟩
  rw [Text.octets_eq_flatMap, write, String.toList_ofList, List.append_assoc, List.flatMap_append,
    hdigits _ (Ident.numeric_padded width id), Decimal.spelled, List.cons_append, List.flatMap_cons]
  rfl

/-- When the name with the smaller ID comes first: no more digits are in the other name, or its
digits begin with a number that is large enough. -/
theorem write_precedes_iff {a b : Ident} {width width' : Nat} {slug slug' : String} (hlt : a < b)
    (ha : a.width ≤ width) (hb : b.width ≤ width') :
    (Text.octets (write width a slug)).precedes (Text.octets (write width' b slug')) = true ↔
      width' ≤ width ∨ a.value * 10 ^ (width' - width) ≤ b.value := by
  obtain ⟨rest, hname⟩ := octets_write width a slug
  obtain ⟨rest', hname'⟩ := octets_write width' b slug'
  have hvalue : Decimal.value (Decimal.padded width a.digits) <
      Decimal.value (Decimal.padded width' b.digits) := by
    rw [Ident.value_padded, Ident.value_padded]
    exact hlt
  rw [hname, hname', Decimal.spelled_precedes_iff rest rest' (Ident.numeric_padded width a)
    (Ident.numeric_padded width' b) hvalue, Ident.value_padded, Ident.value_padded,
    Ident.length_padded, Ident.length_padded, Nat.max_eq_left ha, Nat.max_eq_left hb]

/-! ## Reading names -/

theorem eq_append_of_dropSuffix? {cs slug : List Char} (h : dropSuffix? cs = some slug) :
    cs = slug ++ suffix := by
  induction cs generalizing slug with
  | nil => cases h
  | cons c cs ih =>
      rw [dropSuffix?] at h
      split at h
      · next hsuffix =>
          rw [← Option.some.inj h]
          exact hsuffix
      · obtain ⟨rest, hrest, rfl⟩ := Option.map_eq_some_iff.mp h
        rw [ih hrest]
        rfl

theorem read?_eq_some {name : String} {parts : Parts} (h : read? name = some parts) :
    name.toList = parts.digits.toList ++ '-' :: parts.slug.toList ++ suffix ∧
      Decimal.Numeric parts.digits.toList ∧ parts.digits.toList ≠ [] ∧
      '\n' ∉ parts.slug.toList := by
  rw [read?] at h
  split at h
  · next d ds rest htake hdrop =>
      split at h
      · next slug hslug =>
          cases h
          rw [slug?] at hslug
          split at hslug
          · next found hfound =>
              split at hslug
              · cases hslug
              · next hplain =>
                  cases hslug
                  have hname := @List.takeWhile_append_dropWhile _ Decimal.isDigit name.toList
                  rw [htake, hdrop, eq_append_of_dropSuffix? hfound] at hname
                  simp only [String.toList_ofList]
                  refine ⟨by rw [← hname]; simp, ?_, List.cons_ne_nil _ _, hplain⟩
                  intro c hc
                  rw [← htake] at hc
                  exact List.mem_takeWhile_imp hc
          · cases hslug
      · cases h
  · cases h

section Digits

variable {name : String} {parts : Parts} {id : Ident}

theorem digits_of_read? (hread : read? name = some parts)
    (hparse : Ident.parse parts.digits = .ok id) :
    parts.digits.toList = Decimal.padded parts.digits.length id.digits := by
  obtain ⟨_, hnumeric, hpresent, _⟩ := read?_eq_some hread
  rw [← String.ofList_toList (s := parts.digits)] at hparse
  have hdigits := Ident.eq_padded_of_parse hpresent hnumeric hparse
  rwa [String.length_toList] at hdigits

/-- A name whose digits are an ID is written with as many digits as stand in it. -/
theorem write_of_read? (hread : read? name = some parts)
    (hparse : Ident.parse parts.digits = .ok id) :
    write parts.digits.length id parts.slug = name := by
  rw [write, ← digits_of_read? hread hparse, ← (read?_eq_some hread).1, String.ofList_toList]

end Digits

end FileName

theorem Directory.heading_eq_ok {entry : Name} {h : Heading} (ok : heading entry = .ok h) :
    entry = Text.octets h.name ∧ h.name = FileName.write h.digits.length h.id h.slug ∧
      h.digits = String.ofList (Decimal.padded h.digits.length h.id.digits) ∧
      '\n' ∉ h.slug.toList := by
  rw [heading] at ok
  split at ok
  · cases ok
  · next name htext =>
      split at ok
      · cases ok
      · next parts hparts =>
          split at ok
          · cases ok
          · next id hid =>
              cases ok
              refine ⟨(Text.octets_of_ofOctets? htext).symm,
                (FileName.write_of_read? hparts hid).symm, ?_, (FileName.read?_eq_some hparts).2.2.2⟩
              rw [← FileName.digits_of_read? hparts hid, String.ofList_toList]

end SchemaLedger
