import SchemaLedger.Proofs.NameOrder

/-! # The grammar of file names

Which names are read, said without the reader. A name has at most one reading. -/

namespace SchemaLedger.FileName

/-- A name consists of its parts: digits, a dash, a slug on one line, and the suffix. -/
structure Spells (name : String) (parts : Parts) : Prop where
  spelling : name = parts.digits ++ "-" ++ parts.slug ++ ".sql"
  present : parts.digits ≠ ""
  numeric : Decimal.Numeric parts.digits.toList
  oneLine : '\n' ∉ parts.slug.toList

/-! ## Splitting a name -/

namespace Spells

variable {name : String} {parts parts' : Parts}

theorem toList_eq (h : Spells name parts) :
    name.toList = parts.digits.toList ++ '-' :: (parts.slug.toList ++ suffix) := by
  rw [h.spelling]
  simp [suffix]

theorem digits_ne_nil (h : Spells name parts) : parts.digits.toList ≠ [] := by
  intro hnil
  exact h.present (String.toList_eq_nil_iff.mp hnil)

theorem takeWhile_dash (h : Spells name parts) :
    name.toList.takeWhile (· ≠ '-') = parts.digits.toList := by
  have hplain : ∀ c ∈ parts.digits.toList, decide (c ≠ '-') = true := by
    intro c hc
    rw [decide_eq_true_eq]
    rintro rfl
    exact absurd (h.numeric _ hc) (by decide)
  rw [h.toList_eq, List.takeWhile_append_of_pos hplain]
  simp

theorem suffix_last (h : Spells name parts) {stem rest : List Char}
    (hname : name.toList = stem ++ suffix ++ rest) :
    stem.length ≤ (parts.digits ++ "-" ++ parts.slug).length := by
  have hlength := congrArg List.length (h.toList_eq.symm.trans hname)
  simp only [List.length_append, List.length_cons, String.length_toList] at hlength
  have hdash : "-".length = 1 := rfl
  rw [String.length_append, String.length_append, hdash]
  omega

theorem unique (h : Spells name parts) (h' : Spells name parts') : parts = parts' := by
  have hdigits : parts.digits = parts'.digits :=
    String.toList_inj.mp (h.takeWhile_dash.symm.trans h'.takeWhile_dash)
  have hslug : parts.slug = parts'.slug := by
    have hname := h.toList_eq.symm.trans h'.toList_eq
    rw [hdigits, List.append_cancel_left_eq, List.cons.injEq] at hname
    exact String.toList_inj.mp (List.append_cancel_right hname.2)
  cases parts
  cases parts'
  cases hdigits
  cases hslug
  rfl

end Spells

/-! ## Reading -/

theorem slug?_append {slug : List Char} (h : '\n' ∉ slug) : slug? (slug ++ suffix) = some slug := by
  rw [slug?, dropSuffix?_append]
  exact if_neg h

theorem read?_of_spells {name : String} {parts : Parts} (h : Spells name parts) :
    read? name = some parts := by
  have hdash : Decimal.isDigit '-' = false := by decide
  have htake : name.toList.takeWhile Decimal.isDigit = parts.digits.toList := by
    rw [h.toList_eq, List.takeWhile_append_of_pos h.numeric]
    simp [hdash]
  have hdrop : name.toList.dropWhile Decimal.isDigit = '-' :: (parts.slug.toList ++ suffix) := by
    rw [h.toList_eq, List.dropWhile_append_of_pos h.numeric]
    simp [hdash]
  rw [read?, htake, hdrop]
  cases hdigits : parts.digits.toList with
  | nil => exact absurd hdigits h.digits_ne_nil
  | cons d ds =>
      have htext : String.ofList (d :: ds) = parts.digits := by rw [← hdigits, String.ofList_toList]
      simp only [slug?_append h.oneLine, htext, String.ofList_toList]

theorem spells_of_read? {name : String} {parts : Parts} (h : read? name = some parts) :
    Spells name parts := by
  obtain ⟨hname, hnumeric, hpresent, hline⟩ := read?_eq_some h
  refine ⟨?_, ?_, hnumeric, hline⟩
  · rw [← String.toList_inj, hname]
    simp [suffix]
  · rintro hempty
    exact hpresent (String.toList_eq_nil_iff.mpr hempty)

theorem read?_iff_spells {name : String} {parts : Parts} :
    read? name = some parts ↔ Spells name parts := ⟨spells_of_read?, read?_of_spells⟩

/-- A name is read exactly if it fits the grammar, and it is read as the only parts that it can
have: its first dash ends the digits, and its last `.sql` is the suffix. -/
theorem read?_accepts_grammar (name : String) :
    (∀ parts, read? name = some parts ↔ Spells name parts) ∧
    (∀ parts parts', Spells name parts → Spells name parts' → parts = parts') ∧
    ∀ parts, Spells name parts →
      name.toList.takeWhile (· ≠ '-') = parts.digits.toList ∧
      ∀ stem rest, name.toList = stem ++ suffix ++ rest →
        stem.length ≤ (parts.digits ++ "-" ++ parts.slug).length :=
  ⟨fun _ => read?_iff_spells, fun _ _ => Spells.unique,
    fun _ h => ⟨h.takeWhile_dash, fun _ _ => h.suffix_last⟩⟩

/-- A slug may itself look like a name. -/
theorem read?_accepts_grammar_nested :
    Spells "05-1-a.sql.sql" ⟨"05", "1-a.sql"⟩ ∧
    read? "05-1-a.sql.sql" = some ⟨"05", "1-a.sql"⟩ ∧
    (∀ parts, Spells "05-1-a.sql.sql" parts → parts = ⟨"05", "1-a.sql"⟩) ∧
    "05-1-a.sql.sql".toList = "05-1-a".toList ++ suffix ++ ".sql".toList ∧
    "05-1-a".toList.length ≤ "05-1-a.sql".length := by
  have hspells : Spells "05-1-a.sql.sql" ⟨"05", "1-a.sql"⟩ :=
    ⟨by decide, by decide, List.all_eq_true.mp (by decide), by decide⟩
  have hstem : "05-1-a.sql.sql".toList = "05-1-a".toList ++ suffix ++ ".sql".toList := by decide
  obtain ⟨reads, unique, places⟩ := read?_accepts_grammar "05-1-a.sql.sql"
  exact ⟨hspells, (reads _).mpr hspells, fun parts h => unique parts _ h hspells, hstem,
    (places _ hspells).2 _ _ hstem⟩

end SchemaLedger.FileName
