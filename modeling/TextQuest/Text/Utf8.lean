namespace TextQuest.Text

structure PartialChar where
  code : Nat
  missing : Nat
  low : UInt8
  high : UInt8

/-- What a first byte announces. The ranges of the second byte keep out overlong forms, surrogates
and codes beyond the last character. -/
def PartialChar.ofLead? (byte : UInt8) : Option PartialChar :=
  if 0xc2 ≤ byte ∧ byte ≤ 0xdf then some ⟨byte.toNat % 32, 1, 0x80, 0xbf⟩
  else if byte = 0xe0 then some ⟨0, 2, 0xa0, 0xbf⟩
  else if byte = 0xed then some ⟨13, 2, 0x80, 0x9f⟩
  else if 0xe1 ≤ byte ∧ byte ≤ 0xef then some ⟨byte.toNat % 16, 2, 0x80, 0xbf⟩
  else if byte = 0xf0 then some ⟨0, 3, 0x90, 0xbf⟩
  else if byte = 0xf4 then some ⟨4, 3, 0x80, 0x8f⟩
  else if 0xf1 ≤ byte ∧ byte ≤ 0xf3 then some ⟨byte.toNat % 8, 3, 0x80, 0xbf⟩
  else none

/-- Reads a byte after no pending character: the units it completes, `none` for a broken run, and
the character it leaves pending. -/
def readLead (byte : UInt8) : List (Option Char) × Option PartialChar :=
  if byte < 0x80 then ([some (Char.ofNat byte.toNat)], none)
  else match PartialChar.ofLead? byte with
    | some pending => ([], some pending)
    | none => ([none], none)

def readByte (pending : Option PartialChar) (byte : UInt8) : List (Option Char) × Option PartialChar :=
  match pending with
  | none => readLead byte
  | some part =>
    if part.low ≤ byte ∧ byte ≤ part.high then
      let code := part.code * 64 + byte.toNat % 64
      if part.missing ≤ 1 then ([some (Char.ofNat code)], none)
      else ([], some ⟨code, part.missing - 1, 0x80, 0xbf⟩)
    else
      let (units, pending) := readLead byte
      (none :: units, pending)

def unitsFrom (pending : Option PartialChar) : List UInt8 → List (Option Char)
  | [] => if pending.isSome then [none] else []
  | byte :: rest =>
    let (units, pending) := readByte pending byte
    units ++ unitsFrom pending rest

def decode? (bytes : List UInt8) : Option (List Char) := (unitsFrom none bytes).mapM id

def decodeLossy (bytes : List UInt8) : List Char :=
  (unitsFrom none bytes).map (·.getD '\ufffd')

def encode (s : String) : List UInt8 := s.toUTF8.toList

end TextQuest.Text
