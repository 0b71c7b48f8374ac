import SchemaLedger.Directive
import SchemaLedger.Proofs.Path
import SchemaLedger.Text.Search

/-! # Where the directive stands

The directive counts at the beginning of a text and right after a line feed, whatever else is taken
for the end of a line. -/

namespace SchemaLedger

namespace Text

/-! ## Words between separators -/

section Word

variable {α : Type} {separator : α} {word front back : List α}

/-- A word does not reach across what it does not hold. -/
theorem prefix_append_cons_iff (h : separator ∉ word) :
    word <+: front ++ separator :: back ↔ word <+: front := by
  constructor
  · intro hprefix
    induction front generalizing word with
    | nil =>
        cases word with
        | nil => exact List.nil_prefix
        | cons w rest =>
            obtain ⟨rfl, _⟩ := List.cons_prefix_cons.mp hprefix
            exact absurd List.mem_cons_self h
    | cons b front ih =>
        cases word with
        | nil => exact List.nil_prefix
        | cons w rest =>
            obtain ⟨rfl, hrest⟩ := List.cons_prefix_cons.mp hprefix
            exact List.cons_prefix_cons.mpr ⟨rfl, ih (fun hmem => h (by simp [hmem])) hrest⟩
  · intro hprefix
    exact hprefix.trans (List.prefix_append front _)

theorem prefix_cons_iff_nil (h : separator ∉ word) : word <+: separator :: back ↔ word = [] := by
  have hfront : word <+: [] ++ separator :: back ↔ word <+: [] := prefix_append_cons_iff h
  rwa [List.nil_append, List.prefix_nil] at hfront

theorem infix_append_cons_iff (h : separator ∉ word) (present : word ≠ []) :
    word <:+: front ++ separator :: back ↔ word <:+: front ∨ word <:+: back := by
  induction front with
  | nil => simp [List.infix_cons_iff, prefix_cons_iff_nil h, present]
  | cons b front ih =>
      have hprefix : word <+: (b :: front) ++ separator :: back ↔ word <+: b :: front :=
        prefix_append_cons_iff h
      rw [List.cons_append] at hprefix ⊢
      rw [List.infix_cons_iff, List.infix_cons_iff, hprefix, ih, or_assoc]

theorem cons_infix_append_cons_iff (h : separator ∉ word) :
    separator :: word <:+: front ++ separator :: back ↔
      separator :: word <:+: front ∨ word <+: back ∨ separator :: word <:+: back := by
  induction front with
  | nil => simp [List.infix_cons_iff]
  | cons b front ih =>
      rw [List.cons_append, List.infix_cons_iff, List.infix_cons_iff, List.cons_prefix_cons,
        List.cons_prefix_cons, prefix_append_cons_iff h, ih, or_assoc]

end Word

theorem occursIn_iff {word text : List Char} : occursIn word text = true ↔ word <:+: text := by
  induction text with
  | nil => simp [occursIn]
  | cons c text ih => simp [occursIn, List.infix_cons_iff, ih]

/-- A word without line feeds is in a text made of lines if it is in one of them. -/
theorem infix_join_iff {word : List Char} (h : '\n' ∉ word) (present : word ≠ [])
    (lines : List String) :
    word <:+: (String.join (lines.map (· ++ "\n"))).toList ↔
      ∃ line ∈ lines, word <:+: line.toList := by
  induction lines with
  | nil => simpa using present
  | cons line rest ih =>
      have htext : (String.join ((line :: rest).map (· ++ "\n"))).toList =
          line.toList ++ '\n' :: (String.join (rest.map (· ++ "\n"))).toList := by
        simp [String.toList_join]
      rw [htext, infix_append_cons_iff h present, ih]
      simp only [List.mem_cons, exists_eq_or_imp]

/-! ## Beginnings of lines -/

/-- A word stands at the beginning of a text, or right after a line feed in it. -/
def BeginsLine (word text : List Char) : Prop := word <+: text ∨ '\n' :: word <:+: text

section Line

variable {word text front back : List Char}

theorem beginsLine_append_cons (h : '\n' ∉ word) :
    BeginsLine word (front ++ '\n' :: back) ↔ BeginsLine word front ∨ BeginsLine word back := by
  rw [BeginsLine, prefix_append_cons_iff h, cons_infix_append_cons_iff h, ← or_assoc]
  rfl

theorem beginsLine_of_not_mem (h : '\n' ∉ text) : BeginsLine word text ↔ word <+: text := by
  have hinside : ¬ '\n' :: word <:+: text := fun hcut => h (hcut.mem List.mem_cons_self)
  simp [BeginsLine, hinside]

theorem beginsLine_unsplit {parts : List (List Char)} (h : '\n' ∉ word) (present : parts ≠ [])
    (apart : ∀ part ∈ parts, '\n' ∉ part) :
    BeginsLine word (unsplit '\n' parts) ↔ ∃ part ∈ parts, word <+: part := by
  induction parts with
  | nil => exact absurd rfl present
  | cons part parts ih =>
      have hpart : BeginsLine word part ↔ word <+: part := beginsLine_of_not_mem (apart part (by simp))
      cases parts with
      | nil => simpa [unsplit] using hpart
      | cons next rest =>
          have hrest := ih (by simp) fun other hother => apart other (by simp [hother])
          have hparts : unsplit '\n' (part :: next :: rest) =
              part ++ '\n' :: unsplit '\n' (next :: rest) := rfl
          rw [hparts, beginsLine_append_cons h, hpart, hrest]
          simp only [List.mem_cons, exists_eq_or_imp]

theorem any_lines_iff (h : '\n' ∉ word) :
    (lines text).any (word.isPrefixOf ·) = true ↔ BeginsLine word text := by
  have hlines := beginsLine_unsplit h (split_ne_nil '\n' text) fun _ => not_mem_of_mem_split
  rw [unsplit_split] at hlines
  simp only [hlines, lines, List.any_eq_true, List.isPrefixOf_iff_prefix]

/-- What stands after another character counts only through the line feeds in it. -/
theorem beginsLine_append_other {c : Char} (other : c ≠ '\n') (h : c ∉ word) :
    BeginsLine word (front ++ c :: back) ↔ BeginsLine word front ∨ '\n' :: word <:+: back := by
  have hword : c ∉ '\n' :: word := by simp [other, h]
  rw [BeginsLine, prefix_append_cons_iff h, infix_append_cons_iff hword (by simp), ← or_assoc]
  rfl

/-! ## Ends of lines -/

/-- Carriage returns have been put before line feeds, before any of them or before all. -/
inductive Returned : List Char → List Char → Prop
  | nil : Returned [] []
  | kept {cs ds : List Char} (c : Char) (rest : Returned cs ds) : Returned (c :: cs) (c :: ds)
  | returned {cs ds : List Char} (rest : Returned cs ds) : Returned ('\n' :: cs) ('\r' :: '\n' :: ds)

def withReturns (text : List Char) : List Char :=
  text.flatMap fun c => if c = '\n' then ['\r', '\n'] else [c]

theorem returned_withReturns (text : List Char) : Returned text (withReturns text) := by
  induction text with
  | nil => exact .nil
  | cons c text ih =>
      by_cases hc : c = '\n'
      · subst hc
        exact .returned ih
      · have hkept : withReturns (c :: text) = c :: withReturns text := by
          simp [withReturns, hc]
        rw [hkept]
        exact .kept c ih

variable {converted : List Char}

theorem Returned.prefix_iff (h : Returned text converted) (feed : '\n' ∉ word)
    (back : '\r' ∉ word) : word <+: converted ↔ word <+: text := by
  induction h generalizing word with
  | nil => rfl
  | kept c _ ih =>
      cases word with
      | nil => simp
      | cons w rest =>
          have hrest := ih (fun hmem => feed (List.mem_cons_of_mem w hmem))
            fun hmem => back (List.mem_cons_of_mem w hmem)
          rw [List.cons_prefix_cons, List.cons_prefix_cons, hrest]
  | returned _ _ => rw [prefix_cons_iff_nil feed, prefix_cons_iff_nil back]

theorem Returned.beginsLine_iff (h : Returned text converted) (feed : '\n' ∉ word)
    (back : '\r' ∉ word) : BeginsLine word converted ↔ BeginsLine word text := by
  have hcut : '\n' :: word <:+: converted ↔ '\n' :: word <:+: text := by
    induction h with
    | nil => rfl
    | kept c rest ih =>
        rw [List.infix_cons_iff, List.infix_cons_iff, List.cons_prefix_cons, List.cons_prefix_cons,
          rest.prefix_iff feed back, ih]
    | returned rest ih =>
        rw [List.infix_cons_iff, List.infix_cons_iff, List.infix_cons_iff, List.cons_prefix_cons,
          List.cons_prefix_cons, List.cons_prefix_cons, rest.prefix_iff feed back, ih]
        simp
  rw [BeginsLine, BeginsLine, h.prefix_iff feed back, hcut]

/-- Lines without their ends: a carriage return right before a line feed belongs to the end of the
line, and after the last line feed an empty line is none. -/
def bare : List (List Char) → List (List Char)
  | [] => []
  | [last] => if last = [] then [] else [last]
  | line :: rest => withoutReturn line :: bare rest

theorem isPrefixOf_withoutReturn (h : '\r' ∉ word) :
    word.isPrefixOf (withoutReturn text) = word.isPrefixOf text := by
  rw [withoutReturn]
  split
  · next hlast =>
      obtain ⟨line, rfl⟩ := List.getLast?_eq_some_iff.mp hlast
      rw [List.dropLast_concat, Bool.eq_iff_iff, List.isPrefixOf_iff_prefix,
        List.isPrefixOf_iff_prefix, prefix_append_cons_iff h]
  · rfl

theorem any_bare {parts : List (List Char)} (h : '\r' ∉ word) (present : word ≠ []) :
    (bare parts).any (word.isPrefixOf ·) = parts.any (word.isPrefixOf ·) := by
  fun_induction bare parts with
  | case1 => rfl
  | case2 =>
      obtain ⟨w, rest, rfl⟩ := List.exists_cons_of_ne_nil present
      rfl
  | case3 last _ => rfl
  | case4 line rest _ ih => rw [List.any_cons, List.any_cons, isPrefixOf_withoutReturn h, ih]

end Line

end Text

namespace Directive

open Text (BeginsLine Returned)

theorem feed_not_mem_marker : '\n' ∉ marker.toList := by decide

theorem return_not_mem_marker : '\r' ∉ marker.toList := by decide

theorem skipsTransaction_iff {content : String} :
    skipsTransaction content = true ↔ BeginsLine marker.toList content.toList :=
  Text.any_lines_iff feed_not_mem_marker

/-- Of two parts that a line feed divides, one has the directive. -/
theorem skipsTransaction_append (content more : String) :
    skipsTransaction (content ++ "\n" ++ more) =
      (skipsTransaction content || skipsTransaction more) := by
  have htext : (content ++ "\n" ++ more).toList = content.toList ++ '\n' :: more.toList := by simp
  rw [Bool.eq_iff_iff, Bool.or_eq_true, skipsTransaction_iff, skipsTransaction_iff,
    skipsTransaction_iff, htext, Text.beginsLine_append_cons feed_not_mem_marker]

theorem skipsTransaction_join {lines : List String} (h : marker ∈ lines) :
    skipsTransaction (String.join (lines.map (· ++ "\n"))) = true := by
  induction lines with
  | nil => cases h
  | cons line rest ih =>
      have htext : String.join ((line :: rest).map (· ++ "\n")) =
          line ++ "\n" ++ String.join (rest.map (· ++ "\n")) := by
        rw [← String.toList_inj]
        simp [String.toList_join]
      rw [htext, skipsTransaction_append, Bool.or_eq_true]
      cases List.mem_cons.mp h with
      | inl hline =>
          subst hline
          exact .inl (skipsTransaction_iff.mpr (.inl (List.prefix_refl _)))
      | inr hrest => exact .inr (ih hrest)

/-- The directive counts exactly where it begins a line. Lines end at line feeds alone: a text has the
directive if one of two parts has it that a line feed divides, and any other character before it
hides it unless it is part of the directive. So neither the ends of the lines nor the way they are
taken off make a difference. -/
theorem skipsTransaction_looks_at_lines (content : String) :
    (skipsTransaction content = true ↔ BeginsLine marker.toList content.toList) ∧
    (∀ more, skipsTransaction (content ++ "\n" ++ more) =
      (skipsTransaction content || skipsTransaction more)) ∧
    (∀ (c : Char) (more : String), c ≠ '\n' → c ∉ marker.toList →
      (skipsTransaction (content ++ String.singleton c ++ more) = true ↔
        skipsTransaction content = true ∨ '\n' :: marker.toList <:+: more.toList)) ∧
    (∀ converted : String, Returned content.toList converted.toList →
      skipsTransaction converted = skipsTransaction content) ∧
    skipsTransaction (String.ofList (Text.withReturns content.toList)) = skipsTransaction content ∧
    skipsTransaction content =
      (Text.bare (Text.lines content.toList)).any fun line => marker.toList.isPrefixOf line := by
  have hconverted : ∀ converted : String, Returned content.toList converted.toList →
      skipsTransaction converted = skipsTransaction content := by
    intro converted h
    rw [Bool.eq_iff_iff, skipsTransaction_iff, skipsTransaction_iff,
      h.beginsLine_iff feed_not_mem_marker return_not_mem_marker]
  refine ⟨skipsTransaction_iff, skipsTransaction_append content, ?_, hconverted, ?_, ?_⟩
  · intro c more hfeed hmarker
    have htext : (content ++ String.singleton c ++ more).toList =
        content.toList ++ c :: more.toList := by simp
    rw [skipsTransaction_iff, skipsTransaction_iff, htext,
      Text.beginsLine_append_other hfeed hmarker]
  · refine hconverted _ ?_
    rw [String.toList_ofList]
    exact Text.returned_withReturns _
  · rw [skipsTransaction, Text.any_bare return_not_mem_marker (by decide)]

/-- A line separator that is no line feed hides the directive; a carriage return before a line feed
does not. -/
theorem skipsTransaction_looks_at_lines_separated :
    ('\u2028' ≠ '\n' ∧ '\u2028' ∉ marker.toList ∧
      (skipsTransaction ("a" ++ String.singleton '\u2028' ++ marker) = true ↔
        skipsTransaction "a" = true ∨ '\n' :: marker.toList <:+: marker.toList)) ∧
    Returned "a\n--drift:no-transaction".toList "a\r\n--drift:no-transaction".toList ∧
      skipsTransaction "a\r\n--drift:no-transaction" =
        skipsTransaction "a\n--drift:no-transaction" := by
  have hother : '\u2028' ≠ '\n' := by decide
  have hmarker : '\u2028' ∉ marker.toList := by decide
  have hreturned : Returned "a\n--drift:no-transaction".toList
      "a\r\n--drift:no-transaction".toList :=
    .kept 'a' (Text.returned_withReturns "\n--drift:no-transaction".toList)
  obtain ⟨_, _, hidden, _⟩ := skipsTransaction_looks_at_lines "a"
  obtain ⟨_, _, _, converted, _⟩ := skipsTransaction_looks_at_lines "a\n--drift:no-transaction"
  exact ⟨⟨hother, hmarker, hidden _ _ hother hmarker⟩, hreturned, converted _ hreturned⟩

example : skipsTransaction "select 1;\r--drift:no-transaction" = false := by decide

end Directive

end SchemaLedger
