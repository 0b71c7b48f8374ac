import Mathlib.Data.List.TakeWhile
import SchemaLedger.CommandLine.Reader
import SchemaLedger.Proofs.FileName

/-! # Arguments

Which form an argument has is said by its first octets, and an option is found by its name. -/

namespace SchemaLedger.CommandLine

/-! ## Forms -/

def attached (name value : Octets) : Octets := dash :: dash :: name ++ equals :: value

def alone (name : Octets) : Octets := dash :: dash :: name

/-- The forms of arguments, said without reading them. -/
inductive Shaped : Octets → Form → Prop
  | separator : Shaped [dash, dash] .separator
  | attached {name : Octets} (value : Octets) (h : equals ∉ name) :
    Shaped (attached name value) (.long name (some value))
  | alone {name : Octets} (h : equals ∉ name) (present : name ≠ []) :
    Shaped (alone name) (.long name none)
  | letters {first : UInt8} (rest : Octets) (h : first ≠ dash) :
    Shaped (dash :: first :: rest) (.letters (first :: rest))
  | plain {octets : Octets} (h : octets.head? = some dash → octets = [dash]) :
    Shaped octets .plain

section Forms

variable {name argument : Octets}

theorem splitLong_attached (value : Octets) (h : equals ∉ name) :
    splitLong (name ++ equals :: value) = (name, some value) := by
  have hname : ∀ octet ∈ name, decide (octet ≠ equals) = true := by
    intro octet hoctet
    exact decide_eq_true fun heq => h (heq ▸ hoctet)
  rw [splitLong, List.dropWhile_append_of_pos hname, List.takeWhile_append_of_pos hname]
  simp

theorem splitLong_alone (h : equals ∉ name) : splitLong name = (name, none) := by
  have hname : ∀ octet ∈ name, decide (octet ≠ equals) = true := by
    intro octet hoctet
    exact decide_eq_true fun heq => h (heq ▸ hoctet)
  rw [splitLong, List.dropWhile_eq_nil_iff.mpr hname]

/-- After two dashes, the first equals sign ends the name. -/
theorem shaped_long {octets : Octets} (present : octets ≠ []) :
    Shaped (dash :: dash :: octets) (.long (splitLong octets).1 (splitLong octets).2) := by
  by_cases h : equals ∈ octets
  · obtain ⟨name, value, rfl, hname⟩ := List.eq_append_cons_of_mem h
    rw [splitLong_attached value hname]
    exact .attached value hname
  · rw [splitLong_alone h]
    exact .alone h present

theorem shaped_form (argument : Octets) : Shaped argument (form argument) := by
  match argument with
  | [] => exact .plain nofun
  | [octet] => exact .plain fun h => congrArg (fun o => [o]) (Option.some.inj h)
  | first :: second :: rest =>
      rw [form]
      by_cases hfirst : first = dash
      · subst hfirst
        rw [if_pos rfl]
        by_cases hsecond : second = dash
        · subst hsecond
          rw [if_pos rfl]
          by_cases hrest : rest = []
          · subst hrest
            exact .separator
          · rw [if_neg hrest]
            exact shaped_long hrest
        · rw [if_neg hsecond]
          exact .letters rest hsecond
      · rw [if_neg hfirst]
        exact .plain fun h => absurd (Option.some.inj h) hfirst

theorem form_eq_iff {f : Form} : form argument = f ↔ Shaped argument f := by
  constructor
  · rintro rfl
    exact shaped_form argument
  · rintro (_ | ⟨value, h⟩ | ⟨h, present⟩ | ⟨rest, h⟩ | h)
    · rfl
    · have hsplit := splitLong_attached value h
      simp [attached, form, hsplit]
    · have hsplit := splitLong_alone h
      simp [alone, form, hsplit, present]
    · simp [form, h]
    · match argument with
      | [] => rfl
      | [octet] => rfl
      | first :: second :: rest =>
          have hfirst : first ≠ dash := by
            rintro rfl
            cases h rfl
          simp [form, hfirst]

/-- An argument has one form only. -/
theorem Shaped.unique {f g : Form} (hf : Shaped argument f) (hg : Shaped argument g) : f = g :=
  (form_eq_iff.mpr hf).symm.trans (form_eq_iff.mpr hg)

end Forms

/-! ## Names -/

theorem find?_unique {α : Type} {all : List α} (complete : ∀ a, a ∈ all) {p : α → Bool}
    (unique : ∀ a b, p a = true → p b = true → a = b) {a : α} :
    all.find? p = some a ↔ p a = true := by
  refine ⟨List.find?_some, fun h => ?_⟩
  cases hfind : all.find? p with
  | none => exact absurd h (List.find?_eq_none.mp hfind a (complete a))
  | some b => rw [unique a b h (List.find?_some hfind)]

/-- What has a name of its own is found by its name, where it is allowed. -/
theorem find?_named {α : Type} {all : List α} (complete : ∀ a, a ∈ all) {allowed : α → Bool}
    {name : α → String} (distinct : Function.Injective name) {word : Octets} {a : α} :
    all.find? (fun a => allowed a && Text.octets (name a) = word) = some a ↔
      allowed a = true ∧ Text.octets (name a) = word := by
  rw [find?_unique complete]
  · simp
  · intro a b ha hb
    have hword : Text.octets (name a) = word ∧ Text.octets (name b) = word := by
      simp at ha hb
      exact ⟨ha.2, hb.2⟩
    exact distinct (Text.octets_injective (hword.1.trans hword.2.symm))

theorem Key.name_injective : Function.Injective Key.name := by
  intro a b h
  cases a <;> cases b <;> first | rfl | exact absurd h (by decide)

theorem Flag.name_injective : Function.Injective Flag.name := by
  intro a b h
  cases a <;> cases b <;> first | rfl | exact absurd h (by decide)

theorem Key.mem_all (key : Key) : key ∈ Key.all := by cases key <;> decide

theorem Flag.mem_all (flag : Flag) : flag ∈ Flag.all := by cases flag <;> decide

theorem Key.plain_name (key : Key) : equals ∉ Text.octets key.name ∧ Text.octets key.name ≠ [] := by
  cases key <;> decide

theorem Flag.plain_name (flag : Flag) :
    equals ∉ Text.octets flag.name ∧ Text.octets flag.name ≠ [] := by
  cases flag <;> decide

theorem find?_letter {place : Option Verb} {octet : UInt8} {flag : Flag} :
    (Flag.all.find? fun flag =>
      flag.allowed place && flag.letter?.any fun c => c.toNat = octet.toNat) = some flag ↔
      flag.allowed place = true ∧ ∃ c, flag.letter? = some c ∧ c.toNat = octet.toNat := by
  rw [find?_unique Flag.mem_all]
  · simp [Option.any_eq_true]
  · intro a b ha hb
    simp only [Bool.and_eq_true, Option.any_eq_true, decide_eq_true_eq] at ha hb
    obtain ⟨-, c, hc, hoctet⟩ := ha
    obtain ⟨-, c', hc', hoctet'⟩ := hb
    have hsame : c.toNat = c'.toNat := hoctet.trans hoctet'.symm
    cases a <;> cases b <;> cases hc <;> cases hc' <;>
      first | rfl | exact absurd hsame (by decide)

/-- No option with a value is called like one without. -/
theorem Key.name_ne (key : Key) (flag : Flag) : Text.octets key.name ≠ Text.octets flag.name := by
  intro h
  have hname := Text.octets_injective h
  cases key <;> cases flag <;> exact absurd hname (by decide)

end SchemaLedger.CommandLine
