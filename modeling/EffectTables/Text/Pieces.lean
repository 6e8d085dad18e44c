namespace EffectTables.Text

-- The size of a text in bytes of UTF-8.
def width : List Char → Nat
  | [] => 0
  | c :: rest => c.utf8Size + width rest

def pieces (separator : Char) : List Char → List (List Char)
  | [] => [[]]
  | c :: rest =>
      if c = separator then [] :: pieces separator rest
      else
        match pieces separator rest with
        | [] => [[c]]
        | piece :: more => (c :: piece) :: more

-- What a text holds from so many bytes on, unless a character lies across the cut.
def fromByte? (count : Nat) : List Char → Option (List Char)
  | [] => if count = 0 then some [] else none
  | c :: rest =>
      if count = 0 then some (c :: rest)
      else if c.utf8Size ≤ count then fromByte? (count - c.utf8Size) rest
      else none

def upToByte? (count : Nat) : List Char → Option (List Char)
  | [] => if count = 0 then some [] else none
  | c :: rest =>
      if count = 0 then some []
      else if c.utf8Size ≤ count then (upToByte? (count - c.utf8Size) rest).map (c :: ·)
      else none

def betweenBytes? (start stop : Nat) (text : List Char) : Option (List Char) :=
  (fromByte? start text).bind (upToByte? (stop - start))

end EffectTables.Text
