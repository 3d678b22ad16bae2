namespace TextQuest.Text

/-- Control characters that begin or make up commands: escape, bell, backspace, form feed, delete, and
all from U+0080 to U+009F. -/
def isCommand (c : Char) : Bool :=
  c == '\x1b' || c == '\x07' || c == '\x08' || c == '\x0c' || c == '\x7f' ||
    (0x80 ≤ c.toNat && c.toNat ≤ 0x9f)

def defusedChar (c : Char) : List Char :=
  if isCommand c then
    if c.toNat < 0x80 then
      '\\' :: 'x' :: [Nat.digitChar (c.toNat / 16), Nat.digitChar (c.toNat % 16)]
    else ['\\', 'u', '{'] ++ Nat.toDigits 16 c.toNat ++ ['}']
  else [c]

def defused (s : String) : String := String.ofList (s.toList.flatMap defusedChar)

end TextQuest.Text
