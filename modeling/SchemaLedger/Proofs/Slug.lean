import SchemaLedger.Proofs.FileName

/-! # Slugs as normal forms

What becomes of a description if each run of separators turns into one underscore, said without the
pass that does it, and what this makes of the result: a text that the pass leaves alone. -/

namespace SchemaLedger.Slug

/-- Each run of separators, taken as long as it goes on, is one underscore. All else is kept. -/
inductive Collapsed : List Char → List Char → Prop
  | nil : Collapsed [] []
  | kept {c : Char} {cs ds : List Char} (plain : isSeparator c = false) (rest : Collapsed cs ds) :
    Collapsed (c :: cs) (c :: ds)
  | run {run cs ds : List Char} (present : run ≠ []) (separators : ∀ c ∈ run, isSeparator c = true)
    (ended : cs.head?.any isSeparator = false) (rest : Collapsed cs ds) :
    Collapsed (run ++ cs) ('_' :: ds)

/-- Underscores are the only separators, and no two of them stand side by side. -/
structure Normal (cs : List Char) : Prop where
  underscores : ∀ c ∈ cs, isSeparator c = true → c = '_'
  apart : ¬ ['_', '_'] <:+: cs

/-! ## The pass -/

section Squeeze

variable {inside within : Bool} {c : Char} {cs : List Char}

theorem isSeparator_underscore : isSeparator '_' = true := by decide

theorem ne_underscore (plain : isSeparator c = false) : c ≠ '_' := by
  rintro rfl
  cases plain

@[simp] theorem squeeze_nil : squeeze inside [] = [] := rfl

theorem squeeze_plain (plain : isSeparator c = false) :
    squeeze inside (c :: cs) = c :: squeeze false cs := by
  simp [squeeze, plain]

theorem squeeze_first (separator : isSeparator c = true) :
    squeeze false (c :: cs) = '_' :: squeeze true cs := by
  simp [squeeze, separator]

theorem squeeze_later (separator : isSeparator c = true) :
    squeeze true (c :: cs) = squeeze true cs := by
  simp [squeeze, separator]

theorem squeeze_true_of_ended (ended : cs.head?.any isSeparator = false) :
    squeeze true cs = squeeze false cs := by
  cases cs with
  | nil => rfl
  | cons c cs =>
      have plain : isSeparator c = false := by simpa using ended
      rw [squeeze_plain plain, squeeze_plain plain]

theorem squeeze_true_run {run : List Char} (separators : ∀ c ∈ run, isSeparator c = true) :
    squeeze true (run ++ cs) = squeeze true cs := by
  induction run with
  | nil => rfl
  | cons c run ih =>
      rw [List.cons_append, squeeze_later (separators c (by simp))]
      exact ih fun d hd => separators d (by simp [hd])

/-- The pass collapses a text. Inside a run it collapses what the run has brought so far and the
text together. -/
theorem collapsed_squeeze (cs : List Char) : Collapsed cs (squeeze false cs) ∧
    ∀ run, run ≠ [] → (∀ c ∈ run, isSeparator c = true) →
      Collapsed (run ++ cs) ('_' :: squeeze true cs) := by
  -- Both at once: a separator turns the first statement into the second, any other character back.
  induction cs with
  | nil => exact ⟨.nil, fun run present separators => .run present separators rfl .nil⟩
  | cons c cs ih =>
      obtain ⟨whole, inRun⟩ := ih
      cases hc : isSeparator c with
      | true =>
          constructor
          · rw [squeeze_first hc]
            exact inRun [c] (by simp) (by simpa using hc)
          · intro run present separators
            have hlonger := inRun (run ++ [c]) (by simp) (by
              intro d hd
              rcases List.mem_append.mp hd with hd | hd
              · exact separators d hd
              · rw [List.mem_singleton.mp hd]
                exact hc)
            rw [squeeze_later hc]
            simpa using hlonger
      | false =>
          have hkept : Collapsed (c :: cs) (c :: squeeze false cs) := .kept hc whole
          constructor
          · rw [squeeze_plain hc]
            exact hkept
          · intro run present separators
            rw [squeeze_plain hc]
            exact .run present separators (by simpa using hc) hkept

theorem Collapsed.eq_squeeze {ds : List Char} (h : Collapsed cs ds) : ds = squeeze false cs := by
  induction h with
  | nil => rfl
  | kept plain _ ih => rw [squeeze_plain plain, ← ih]
  | @run run cs ds present separators ended _ ih =>
      obtain ⟨c, later, rfl⟩ := List.exists_cons_of_ne_nil present
      rw [List.cons_append, squeeze_first (separators c (by simp)),
        squeeze_true_run fun d hd => separators d (by simp [hd]), squeeze_true_of_ended ended, ← ih]

theorem collapsed_iff {ds : List Char} : Collapsed cs ds ↔ ds = squeeze false cs :=
  ⟨Collapsed.eq_squeeze, fun h => h ▸ (collapsed_squeeze cs).1⟩

/-! ## Normal forms -/

theorem head_squeeze_true : (squeeze true cs).head? ≠ some '_' := by
  induction cs with
  | nil => simp
  | cons c cs ih =>
      cases hc : isSeparator c with
      | true =>
          rw [squeeze_later hc]
          exact ih
      | false =>
          rw [squeeze_plain hc]
          simpa using ne_underscore hc

theorem pair_infix_cons : ['_', '_'] <:+: c :: cs ↔
    (c = '_' ∧ cs.head? = some '_') ∨ ['_', '_'] <:+: cs := by
  rw [List.infix_cons_iff, List.cons_prefix_cons]
  cases cs <;> simp [@eq_comm Char '_']

theorem apart_squeeze : ¬ ['_', '_'] <:+: squeeze inside cs := by
  induction cs generalizing inside with
  | nil => simp
  | cons c cs ih =>
      cases hc : isSeparator c with
      | true =>
          cases inside with
          | true =>
              rw [squeeze_later hc]
              exact ih
          | false =>
              rw [squeeze_first hc, pair_infix_cons]
              rintro (⟨_, hhead⟩ | hlater)
              · exact head_squeeze_true hhead
              · exact ih hlater
      | false =>
          rw [squeeze_plain hc, pair_infix_cons]
          rintro (⟨hunderscore, _⟩ | hlater)
          · exact ne_underscore hc hunderscore
          · exact ih hlater

theorem normal_squeeze : Normal (squeeze inside cs) where
  underscores c hc separator := by
    rcases isSeparator_of_mem_squeeze hc with h | plain
    · exact h
    · rw [plain] at separator
      cases separator
  apart := apart_squeeze

theorem Normal.tail (h : Normal (c :: cs)) : Normal cs where
  underscores d hd := h.underscores d (List.mem_cons_of_mem c hd)
  apart hpair := h.apart (pair_infix_cons.mpr (.inr hpair))

/-- Where no run is taken up, a normal form is left alone. -/
theorem Normal.squeeze_eq (h : Normal cs) (fresh : inside = true → cs.head? ≠ some '_') :
    squeeze inside cs = cs := by
  induction cs generalizing inside with
  | nil => rfl
  | cons c cs ih =>
      cases hc : isSeparator c with
      | true =>
          obtain rfl := h.underscores c (by simp) hc
          cases inside with
          | true => exact absurd rfl (fresh rfl)
          | false =>
              rw [squeeze_first hc, ih h.tail]
              intro _ hhead
              exact h.apart (pair_infix_cons.mpr (.inl ⟨rfl, hhead⟩))
      | false =>
          have hrest : squeeze false cs = cs := ih h.tail (by simp)
          rw [squeeze_plain hc, hrest]

theorem squeeze_eq_self_iff : squeeze false cs = cs ↔ Normal cs :=
  ⟨fun h => h ▸ normal_squeeze, fun h => h.squeeze_eq (by simp)⟩

/-! ## What is kept -/

theorem filter_squeeze : (squeeze inside cs).filter (· ≠ '_') = cs.filter (!isSeparator ·) := by
  induction cs generalizing inside with
  | nil => rfl
  | cons c cs ih =>
      cases hc : isSeparator c with
      | true => cases inside <;> simp_all [squeeze]
      | false =>
          rw [squeeze_plain hc]
          simp_all [ne_underscore hc]

theorem head_squeeze : (squeeze false cs).head? = some '_' ↔ cs.head?.any isSeparator = true := by
  cases cs with
  | nil => simp
  | cons c cs =>
      cases hc : isSeparator c with
      | true => simp [squeeze_first hc, hc]
      | false => simp [squeeze_plain hc, hc, ne_underscore hc]

/-! ## Parts of a text -/

def endsInside (inside : Bool) : List Char → Bool
  | [] => inside
  | c :: cs => endsInside (isSeparator c) cs

theorem squeeze_append (cs ds : List Char) : squeeze inside (cs ++ ds) =
    squeeze inside cs ++ squeeze (endsInside inside cs) ds := by
  induction cs generalizing inside with
  | nil => rfl
  | cons c cs ih =>
      rw [List.cons_append, endsInside]
      cases hc : isSeparator c with
      | true =>
          cases inside with
          | true => rw [squeeze_later hc, squeeze_later hc, ih]
          | false => rw [squeeze_first hc, squeeze_first hc, ih, List.cons_append]
      | false => rw [squeeze_plain hc, squeeze_plain hc, ih, List.cons_append]

/-- A second pass finds nothing left to do but what a run that is under way calls for. -/
theorem squeeze_squeeze (covers : within = true → inside = true) :
    squeeze inside (squeeze within cs) = squeeze inside cs := by
  induction cs generalizing inside within with
  | nil => rfl
  | cons c cs ih =>
      cases hc : isSeparator c with
      | true =>
          cases within with
          | true =>
              obtain rfl := covers rfl
              rw [squeeze_later hc]
              exact ih id
          | false =>
              rw [squeeze_first hc]
              cases inside with
              | true =>
                  rw [squeeze_later isSeparator_underscore, squeeze_later hc]
                  exact ih id
              | false => rw [squeeze_first isSeparator_underscore, squeeze_first hc, ih id]
      | false => rw [squeeze_plain hc, squeeze_plain hc, squeeze_plain hc, ih id]

theorem endsInside_squeeze (covers : within = true → inside = true) :
    endsInside inside (squeeze within cs) = endsInside inside cs := by
  induction cs generalizing inside within with
  | nil => rfl
  | cons c cs ih =>
      rw [endsInside]
      cases hc : isSeparator c with
      | true =>
          cases within with
          | true =>
              obtain rfl := covers rfl
              rw [squeeze_later hc]
              exact ih id
          | false =>
              rw [squeeze_first hc, endsInside, isSeparator_underscore]
              exact ih id
      | false =>
          rw [squeeze_plain hc, endsInside, hc]
          exact ih id

theorem endsInside_eq : endsInside inside cs = (cs.getLast?.map isSeparator).getD inside := by
  induction cs generalizing inside with
  | nil => rfl
  | cons c cs ih =>
      rw [endsInside, ih, List.getLast?_cons]
      cases cs.getLast? <;> rfl

/-- The separator at the end of a squeezed text can only be an underscore. -/
theorem getLast_squeeze :
    (squeeze false cs).getLast? = some '_' ↔ cs.getLast?.any isSeparator = true := by
  have hsame : (squeeze false cs).getLast?.any isSeparator = cs.getLast?.any isSeparator := by
    have hinside : endsInside false (squeeze false cs) = endsInside false cs :=
      endsInside_squeeze id
    rw [endsInside_eq, endsInside_eq] at hinside
    cases hlast : (squeeze false cs).getLast? <;> cases hlast' : cs.getLast? <;>
      simp_all
  rw [← hsame]
  constructor
  · intro h
    rw [h]
    rfl
  · intro h
    cases hlast : (squeeze false cs).getLast? with
    | none =>
        rw [hlast] at h
        cases h
    | some c =>
        rw [hlast] at h
        rw [normal_squeeze.underscores c (List.mem_of_getLast? hlast) h]

end Squeeze

theorem toList_ofText (raw : String) : (ofText raw).toList = squeeze false raw.toList := by
  simp [ofText]

/-- A slug is what the description collapses to, and nothing else is. It is a normal form, keeps all
that is no separator, and has an underscore at an end exactly where the description has a separator.
So slugs are the texts that are their own slugs, and parts may be made slugs of before the whole. -/
theorem ofText_is_normal_form (raw : String) :
    (∀ slug : String, Collapsed raw.toList slug.toList ↔ slug = ofText raw) ∧
    Normal (ofText raw).toList ∧
    (ofText raw).toList.filter (· ≠ '_') = raw.toList.filter (!isSeparator ·) ∧
    ((ofText raw).toList.head? = some '_' ↔ raw.toList.head?.any isSeparator = true) ∧
    ((ofText raw).toList.getLast? = some '_' ↔ raw.toList.getLast?.any isSeparator = true) ∧
    ofText (ofText raw) = ofText raw ∧
    (ofText raw = raw ↔ Normal raw.toList) ∧
    ∀ other, ofText (raw ++ other) = ofText (ofText raw ++ ofText other) := by
  refine ⟨?_, ?_, ?_, ?_, ?_, ?_, ?_, ?_⟩
  · intro slug
    rw [collapsed_iff, ← toList_ofText, String.toList_inj]
  · rw [toList_ofText]
    exact normal_squeeze
  · rw [toList_ofText]
    exact filter_squeeze
  · rw [toList_ofText]
    exact head_squeeze
  · rw [toList_ofText]
    exact getLast_squeeze
  · rw [← String.toList_inj, toList_ofText, toList_ofText]
    exact squeeze_squeeze id
  · rw [← String.toList_inj, toList_ofText]
    exact squeeze_eq_self_iff
  · intro other
    have hlater : ∀ inside, squeeze inside (squeeze false other.toList) =
        squeeze inside other.toList := fun _ => squeeze_squeeze (by simp)
    rw [← String.toList_inj]
    simp only [toList_ofText, String.toList_append, squeeze_append]
    rw [squeeze_squeeze id, endsInside_squeeze id, hlater]

/-- A run goes on where two parts meet. -/
example : ofText ("a-" ++ "/b") = "a_b" := by decide

end SchemaLedger.Slug
