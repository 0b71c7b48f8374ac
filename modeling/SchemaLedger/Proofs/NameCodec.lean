import SchemaLedger.Proofs.NameOrder

/-! # Writing and reading names

What a name is read as is what it was written from, and what is read can be written again, with
as many digits as stand in the name. -/

namespace SchemaLedger.FileName

/-- The first dash ends the digits and the last `.sql` ends the slug, so a name says which ID and
which slug it was written from, whatever the padding and whatever the slug. -/
theorem eq_of_write_eq {width width' : Nat} {id id' : Ident} {slug slug' : String}
    (h : write width id slug = write width' id' slug') : id = id' ∧ slug = slug' := by
  constructor
  · have hdigits := takeWhile_write width id slug
    rw [h, takeWhile_write] at hdigits
    have hvalue := congrArg Decimal.value hdigits
    rw [Ident.value_padded, Ident.value_padded] at hvalue
    exact Ident.ext hvalue.symm
  · have hrest := dropWhile_write width id slug
    rw [h, dropWhile_write, List.cons.injEq] at hrest
    exact String.toList_inj.mp (List.append_cancel_right hrest.2).symm

/-- Reading undoes writing, and writing undoes reading. -/
theorem write_read_inverse :
    (∀ (width : Nat) (id : Ident) (slug : String), '\n' ∉ slug.toList →
      ∃ digits, read? (write width id slug) = some ⟨digits, slug⟩ ∧
        Ident.parse digits = .ok id ∧ Decimal.Numeric digits.toList ∧
        digits.length = max width id.width) ∧
    (∀ (width width' : Nat) (id id' : Ident) (slug slug' : String),
      write width id slug = write width' id' slug' → id = id' ∧ slug = slug') ∧
    (∀ (name : String) (parts : Parts) (id : Ident), read? name = some parts →
      Ident.parse parts.digits = .ok id → write parts.digits.length id parts.slug = name) := by
  refine ⟨?_, fun _ _ _ _ _ _ h => eq_of_write_eq h, fun _ _ _ h hid => write_of_read? h hid⟩
  intro width id slug hslug
  refine ⟨_, read?_write width id hslug, Ident.parse_padded width id, ?_, ?_⟩
  · rw [String.toList_ofList]
    exact Ident.numeric_padded width id
  · rw [String.length_ofList, Ident.length_padded]

theorem write_read_inverse_dashed :
    ('\n' ∉ "1-a.sql".toList ∧
      ∃ digits, read? (write 4 ⟨7, by decide⟩ "1-a.sql") = some ⟨digits, "1-a.sql"⟩ ∧
        Ident.parse digits = .ok ⟨7, by decide⟩ ∧ Decimal.Numeric digits.toList ∧
        digits.length = max 4 (Ident.widthOf 7)) ∧
    (write 0 ⟨7, by decide⟩ "1-a.sql" = write 1 ⟨7, by decide⟩ "1-a.sql" ∧
      (⟨7, by decide⟩ : Ident) = ⟨7, by decide⟩ ∧ "1-a.sql" = "1-a.sql") ∧
    read? "0007-1-a.sql.sql" = some ⟨"0007", "1-a.sql"⟩ ∧
      Ident.parse "0007" = .ok ⟨7, by decide⟩ ∧
      write 4 ⟨7, by decide⟩ "1-a.sql" = "0007-1-a.sql.sql" := by
  have hplain : '\n' ∉ "1-a.sql".toList := by decide
  have hsame : write 0 ⟨7, by decide⟩ "1-a.sql" = write 1 ⟨7, by decide⟩ "1-a.sql" := by
    simp [write, Decimal.padded, Ident.digits, Decimal.digits]
  have hread : read? "0007-1-a.sql.sql" = some ⟨"0007", "1-a.sql"⟩ := by decide
  have hparse : Ident.parse "0007" = .ok ⟨7, by decide⟩ := by rfl
  obtain ⟨reads, tells, writes⟩ := write_read_inverse
  exact ⟨⟨hplain, reads 4 ⟨7, by decide⟩ "1-a.sql" hplain⟩,
    ⟨hsame, tells 0 1 ⟨7, by decide⟩ ⟨7, by decide⟩ "1-a.sql" "1-a.sql" hsame⟩, hread, hparse,
    writes "0007-1-a.sql.sql" ⟨"0007", "1-a.sql"⟩ ⟨7, by decide⟩ hread hparse⟩

end SchemaLedger.FileName
