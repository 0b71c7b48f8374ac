import Mathlib.Order.Bounds.Defs
import SchemaLedger.Proofs.Directory.Growth

/-! # Widths

The width of an ID is the number of its digits. A name that is written with a larger width has zeros
in front, and among several IDs the largest is the widest. -/

namespace SchemaLedger

namespace FileName

/-- No zeros stand in front of the digits exactly if these fill the width. -/
theorem write_unpadded_iff {width : Nat} {id : Ident} {slug : String} :
    write width id slug = id.text ++ "-" ++ slug ++ ".sql" ↔ width ≤ id.width := by
  have hbare : (id.text ++ "-" ++ slug ++ ".sql").toList =
      id.digits ++ '-' :: slug.toList ++ suffix := by
    simp [Ident.text, Decimal.text, Ident.digits, suffix]
  have hlength : id.digits.length = id.width := Ident.length_digits id.value
  rw [← String.toList_inj, hbare, write, String.toList_ofList, List.append_left_inj,
    List.append_left_inj, Decimal.padded, List.append_left_eq_self, List.replicate_eq_nil_iff,
    hlength, Nat.sub_eq_zero_iff_le]

end FileName

namespace Ident

theorem length_text (id : Ident) : id.text.length = id.width := by
  rw [text, Decimal.text, String.length_ofList, length_digits, width]

/-- The width is the number of digits, and up to it a name is written without zeros in front. A
larger ID is no narrower, so the largest width among some migrations is that of the largest ID. -/
theorem width_counts_digits :
    (∀ id : Ident, id.width = id.text.length) ∧
    (∀ (id : Ident) (slug : String),
      IsGreatest {width | FileName.write width id slug = id.text ++ "-" ++ slug ++ ".sql"}
        id.width) ∧
    (∀ a b : Ident, a ≤ b → a.width ≤ b.width) ∧
    ∀ ms : List Migration, ms ≠ [] → ∃ top : Ident,
      IsGreatest {id | ∃ m ∈ ms, m.id = id} top ∧
      IsGreatest {width | ∃ m ∈ ms, m.id.width = width} (Migration.maxWidth ms) ∧
      Migration.maxWidth ms = top.width := by
  refine ⟨fun id => (length_text id).symm, ?_, fun _ _ => width_mono, ?_⟩
  · intro id slug
    exact ⟨FileName.write_unpadded_iff.mpr (Nat.le_refl _), fun _ => FileName.write_unpadded_iff.mp⟩
  · intro ms present
    obtain ⟨_, hheading, largest, _⟩ :=
      Directory.Heading.exists_top (mt List.map_eq_nil_iff.mp present : ms.map .of ≠ [])
    obtain ⟨top, htop, rfl⟩ := List.mem_map.mp hheading
    have hle : ∀ m ∈ ms, m.id ≤ top.id := fun m hm => largest _ (List.mem_map_of_mem hm)
    have hwidth := Directory.maxWidth_eq_of_top htop hle
    refine ⟨top.id, ⟨⟨top, htop, rfl⟩, ?_⟩, ⟨⟨top, htop, hwidth.symm⟩, ?_⟩, hwidth⟩
    · rintro _ ⟨m, hm, rfl⟩
      exact hle m hm
    · rintro _ ⟨m, hm, rfl⟩
      rw [hwidth]
      exact width_mono (hle m hm)

/-- Around a power of ten, and at the largest ID. -/
example : widthOf 999 = 3 ∧ widthOf 1000 = 4 ∧ widthOf Decimal.maxInt64 = 19 := by decide +kernel

end Ident

end SchemaLedger
