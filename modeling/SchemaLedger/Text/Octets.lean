/-! # Octets and text

Paths, file contents and arguments are octets. They are text when they are valid UTF-8; octets
that are not are shown with a replacement character for each ill-formed sequence. -/

namespace SchemaLedger

abbrev Octets := List UInt8

/-- The order of octets from the left; a beginning comes before what it begins. -/
def Octets.precedes : Octets → Octets → Bool
  | [], _ => true
  | _ :: _, [] => false
  | a :: as, b :: bs => a.toNat < b.toNat || (a == b && Octets.precedes as bs)

namespace Text

def octet (c : Char) : UInt8 := c.toUInt8

def octets (s : String) : Octets := s.toUTF8.data.toList

def ofOctets? (bytes : Octets) : Option String := String.fromUTF8? ⟨bytes.toArray⟩

@[simp] theorem ofOctets?_octets (s : String) : ofOctets? (octets s) = some s := by
  have h : (⟨(octets s).toArray⟩ : ByteArray) = s.toUTF8 := by simp [octets]
  rw [ofOctets?, h, String.fromUTF8?]
  exact dif_pos s.isValidUTF8

theorem octets_of_ofOctets? {bytes : Octets} {s : String} (h : ofOctets? bytes = some s) :
    octets s = bytes := by
  rw [ofOctets?, String.fromUTF8?] at h
  split at h
  · rw [← Option.some.inj h]
    rfl
  · cases h

/-- A character whose first octets have been read: the bits so far, how many octets are missing,
and the bounds of the next one. -/
structure Partial where
  bits : Nat
  missing : Nat
  low : Nat
  high : Nat

def lead (b : Nat) : Char ⊕ Partial :=
  if b < 0x80 then .inl (Char.ofNat b)
  else if b < 0xC2 then .inl '\uFFFD'
  else if b < 0xE0 then .inr ⟨b - 0xC0, 0, 0x80, 0xBF⟩
  else if b = 0xE0 then .inr ⟨0, 1, 0xA0, 0xBF⟩
  else if b = 0xED then .inr ⟨0xD, 1, 0x80, 0x9F⟩
  else if b < 0xF0 then .inr ⟨b - 0xE0, 1, 0x80, 0xBF⟩
  else if b = 0xF0 then .inr ⟨0, 2, 0x90, 0xBF⟩
  else if b < 0xF4 then .inr ⟨b - 0xF0, 2, 0x80, 0xBF⟩
  else if b = 0xF4 then .inr ⟨4, 2, 0x80, 0x8F⟩
  else .inl '\uFFFD'

/-- Reads octets with a character under way. The longest beginning of a character that does not
go on becomes one replacement character, and the octet that broke it is read afresh. -/
def lossyFrom : Option Partial → Octets → List Char
  | none, [] => []
  | some _, [] => ['\uFFFD']
  | none, b :: rest =>
    match lead b.toNat with
    | .inl c => c :: lossyFrom none rest
    | .inr p => lossyFrom (some p) rest
  | some p, b :: rest =>
    let n := b.toNat
    if p.low ≤ n && n ≤ p.high then
      let bits := p.bits * 64 + (n - 0x80)
      match p.missing with
      | 0 => Char.ofNat bits :: lossyFrom none rest
      | k + 1 => lossyFrom (some ⟨bits, k, 0x80, 0xBF⟩) rest
    else
      '\uFFFD' :: match lead n with
        | .inl c => c :: lossyFrom none rest
        | .inr q => lossyFrom (some q) rest

def lossy (bytes : Octets) : String :=
  match ofOctets? bytes with
  | some s => s
  | none => String.ofList (lossyFrom none bytes)

@[simp] theorem lossy_octets (s : String) : lossy (octets s) = s := by simp [lossy]

end Text

end SchemaLedger
