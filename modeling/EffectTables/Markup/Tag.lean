import EffectTables.Markup.Fault
import EffectTables.Text.Pieces

namespace EffectTables.Markup

open Text (width)

def isSpace (c : Char) : Bool := c == ' ' || c == '\t' || c == '\r' || c == '\n'

-- A tag that opens an element: everything between the angle brackets, split after the name.
structure Tag where
  name : String
  body : List Char
  deriving DecidableEq

def Tag.ofText (text : List Char) : Tag :=
  ⟨String.ofList (text.takeWhile (!isSpace ·)), text.dropWhile (!isSpace ·)⟩

-- An attribute as it is written, its references not yet replaced.
structure Attribute where
  key : String
  value : List Char
  deriving DecidableEq

namespace Attribute

-- The outcome of looking for one attribute. An attribute that was found comes with the place
-- of its key and with what follows it.
inductive Next where
  | done
  | failed (fault : Fault)
  | found (item : Attribute) (start position : Nat) (rest : List Char)

def staysInKey (c : Char) : Bool := c != '=' && !isSpace c

def nextValue (key : String) (start position : Nat) (text : List Char) : Next :=
  match text with
  | [] => .failed (.inAttribute position .missingValue)
  | c :: rest =>
      match Quote.ofChar? c with
      | none => .failed (.inAttribute position .unquotedValue)
      | some quote =>
          let value := rest.takeWhile (· != quote.char)
          match rest.dropWhile (· != quote.char) with
          | [] => .failed (.inAttribute (position + 1 + width value) (.unclosedValue quote))
          | _ :: after => .found ⟨key, value⟩ start (position + width value + 2) after

-- A key is one character of any kind and what follows up to a space or an equals sign. It must
-- differ from the keys before it, which come with their places.
def next (earlier : List (String × Nat)) (position : Nat) (text : List Char) : Next :=
  match text.dropWhile isSpace with
  | [] => .done
  | c :: rest =>
      let start := position + width (text.takeWhile isSpace)
      let key := c :: rest.takeWhile staysInKey
      let after := rest.dropWhile staysInKey
      let stop := start + width key + width (after.takeWhile isSpace)
      match after.dropWhile isSpace with
      | '=' :: assigned =>
          match earlier.lookup (String.ofList key) with
          | some place => .failed (.inAttribute start (.repeated place))
          | none =>
              nextValue (String.ofList key) start (stop + 1 + width (assigned.takeWhile isSpace))
                (assigned.dropWhile isSpace)
      | _ => .failed (.inAttribute stop .missingEquals)

theorem length_dropWhile_le (p : Char → Bool) (text : List Char) :
    (text.dropWhile p).length ≤ text.length :=
  (List.dropWhile_sublist p).length_le

theorem nextValue_shorter {key : String} {start position : Nat} {text rest : List Char}
    {item : Attribute} {first stop : Nat}
    (h : nextValue key start position text = .found item first stop rest) :
    rest.length < text.length := by
  cases text with
  | nil => simp [nextValue] at h
  | cons c tail =>
      simp only [nextValue] at h
      cases hq : Quote.ofChar? c with
      | none => simp [hq] at h
      | some quote =>
          simp only [hq] at h
          have hle := length_dropWhile_le (· != quote.char) tail
          cases hd : tail.dropWhile (· != quote.char) with
          | nil => simp [hd] at h
          | cons d after =>
              simp only [hd, Next.found.injEq] at h
              rw [hd] at hle
              obtain ⟨_, _, _, rfl⟩ := h
              simp only [List.length_cons] at hle ⊢
              omega

theorem next_shorter {earlier : List (String × Nat)} {position : Nat} {text rest : List Char}
    {item : Attribute} {start stop : Nat}
    (h : next earlier position text = .found item start stop rest) :
    rest.length < text.length := by
  unfold next at h
  have hspace := length_dropWhile_le isSpace text
  cases ht : text.dropWhile isSpace with
  | nil => simp [ht] at h
  | cons c tail =>
      rw [ht] at hspace
      simp only [ht] at h
      have hkey := length_dropWhile_le staysInKey tail
      have hgap := length_dropWhile_le isSpace (tail.dropWhile staysInKey)
      split at h
      next assigned ha =>
        rw [ha] at hgap
        split at h
        · simp at h
        · have hvalue := nextValue_shorter h
          have hlast := length_dropWhile_le isSpace assigned
          simp only [List.length_cons] at hspace hgap
          omega
      next => simp at h

def listFrom (earlier : List (String × Nat)) (position : Nat) (text : List Char) :
    Findings Attribute :=
  match h : next earlier position text with
  | .done => ⟨[], none⟩
  | .failed fault => ⟨[], some fault⟩
  | .found item start stop rest =>
      have := next_shorter h
      (listFrom ((item.key, start) :: earlier) stop rest).cons item
termination_by text.length

end Attribute

def Tag.attributes (tag : Tag) : Findings Attribute :=
  Attribute.listFrom [] tag.name.utf8ByteSize tag.body

end EffectTables.Markup
