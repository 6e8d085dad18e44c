import EffectTables.Proofs.Markup.Lexing
import EffectTables.Proofs.Markup.Reference
import Mathlib.Data.List.TakeWhile

namespace EffectTables.Markup

open Text (takeWhile_append_mark dropWhile_append_mark)

-- A character that has no meaning of its own in markup.
def isPlain (c : Char) : Bool := !isSpace c && !"<>/='\x22&!?".toList.contains c

-- A text that can stand as a name.
def Plain (text : String) : Prop := text ≠ "" ∧ text.toList.all isPlain

instance (text : String) : Decidable (Plain text) := inferInstanceAs (Decidable (_ ∧ _))

structure Spaces where
  chars : List Char
  spaces : ∀ c ∈ chars, isSpace c

structure Gap extends Spaces where
  ne_nil : chars ≠ []

-- An attribute as it is spelled out, with the gap before it.
structure Assignment where
  gap : Gap
  key : String
  value : String
  plain : Plain key

def Assignment.chars (assignment : Assignment) : List Char :=
  assignment.gap.chars ++ assignment.key.toList ++ ['='] ++
    ('\x22' :: assignment.value.toList.flatMap Reference.escape ++ ['\x22'])

-- A tag as it is spelled out, from its name to the closing bracket.
structure Spelling where
  name : String
  assignments : List Assignment
  last : Spaces
  plain : Plain name
  keys : (assignments.map (·.key)).Nodup

namespace Spelling

def body (spelling : Spelling) : List Char :=
  spelling.assignments.flatMap Assignment.chars ++ spelling.last.chars

def chars (spelling : Spelling) : List Char := spelling.name.toList ++ spelling.body

def tag (spelling : Spelling) : Tag := ⟨spelling.name, spelling.body⟩

end Spelling

theorem ne_of_isPlain {c d : Char} (h : isPlain c) (hd : isPlain d = false) : c ≠ d := by
  rintro rfl
  rw [h] at hd
  cases hd

theorem not_isSpace_of_isPlain {c : Char} (h : isPlain c) : isSpace c = false := by
  simp only [isPlain, Bool.and_eq_true, Bool.not_eq_true'] at h
  exact h.1

theorem ne_of_isSpace {c d : Char} (h : isSpace c) (hd : isSpace d = false) : c ≠ d := by
  rintro rfl
  rw [h] at hd
  cases hd

theorem Plain.of_mem {text : String} (h : Plain text) {c : Char} (hc : c ∈ text.toList) :
    isPlain c :=
  List.all_eq_true.mp h.2 c hc

theorem Plain.exists_cons {text : String} (h : Plain text) :
    ∃ c rest, text.toList = c :: rest ∧ isPlain c ∧ ∀ d ∈ rest, isPlain d := by
  have hne : text.toList ≠ [] := fun hnil => h.1 (String.toList_eq_nil_iff.mp hnil)
  obtain ⟨c, rest, htext⟩ := List.exists_cons_of_ne_nil hne
  have hall : ∀ d ∈ c :: rest, isPlain d := fun d hd => h.of_mem (htext ▸ hd)
  obtain ⟨hc, hrest⟩ := List.forall_mem_cons.mp hall
  exact ⟨c, rest, htext, hc, hrest⟩

theorem Plain.unbroken {text : String} (h : Plain text) : Unbroken text.toList :=
  Unbroken.of_forall fun c hc =>
    ⟨ne_of_isPlain (h.of_mem hc) (by decide), ne_of_isPlain (h.of_mem hc) (by decide),
      ne_of_isPlain (h.of_mem hc) (by decide)⟩

theorem Spaces.unbroken (spaces : Spaces) : Unbroken spaces.chars :=
  Unbroken.of_forall fun c hc =>
    ⟨ne_of_isSpace (spaces.spaces c hc) (by decide), ne_of_isSpace (spaces.spaces c hc) (by decide),
      ne_of_isSpace (spaces.spaces c hc) (by decide)⟩

theorem Spaces.lexes (spaces : Spaces) : Lexes spaces.chars [] := Lexes.spaces spaces.spaces

theorem Assignment.unbroken (assignment : Assignment) : Unbroken assignment.chars :=
  ((assignment.gap.unbroken.append assignment.plain.unbroken).append
    (Unbroken.char (by decide) (by decide) (by decide))).append
      (Unbroken.quoted (Reference.quote_not_mem_flatMap_escape _))

namespace Attribute

theorem staysInKey_of_isPlain {c : Char} (h : isPlain c) : staysInKey c := by
  have hequals : c ≠ '=' := ne_of_isPlain h (by decide)
  simp [staysInKey, hequals, not_isSpace_of_isPlain h]

-- A spelled attribute is found, whatever follows it, if its key is new.
theorem next_assignment (assignment : Assignment) {earlier : List (String × Nat)}
    (hnew : earlier.lookup assignment.key = none) (position : Nat) (rest : List Char) :
    ∃ start stop, next earlier position (assignment.chars ++ rest) =
      .found ⟨assignment.key, assignment.value.toList.flatMap Reference.escape⟩ start stop
        rest := by
  obtain ⟨c, more, hkey, hc, hmore⟩ := assignment.plain.exists_cons
  have hvalue := Reference.quote_not_mem_flatMap_escape assignment.value.toList
  generalize hescaped : assignment.value.toList.flatMap Reference.escape = value at hvalue ⊢
  have hname : String.ofList (c :: more) = assignment.key := by rw [← hkey, String.ofList_toList]
  have hequals : staysInKey '=' = false := by decide
  have hunspaced : isSpace '=' = false ∧ isSpace '\x22' = false := by decide
  have hopen : Quote.ofChar? '\x22' = some .double := by decide
  have hquote : ('\x22' != Quote.double.char) = false := by decide
  have hstays : ∀ d ∈ more, staysInKey d := fun d hd => staysInKey_of_isPlain (hmore d hd)
  have hinside : ∀ d ∈ value, (d != Quote.double.char) = true :=
    fun d hd => bne_iff_ne.mpr (ne_of_mem_of_not_mem hd hvalue)
  have htext : assignment.chars ++ rest =
      assignment.gap.chars ++ c :: (more ++ '=' :: '\x22' :: (value ++ '\x22' :: rest)) := by
    simp [Assignment.chars, hkey, hescaped]
  have hstart : (assignment.chars ++ rest).dropWhile isSpace =
      c :: (more ++ '=' :: '\x22' :: (value ++ '\x22' :: rest)) :=
    htext ▸ dropWhile_append_mark assignment.gap.spaces (not_isSpace_of_isPlain hc)
  rw [next, hstart]
  simp only [takeWhile_append_mark hstays hequals, dropWhile_append_mark hstays hequals,
    List.dropWhile_cons, hunspaced, hname, hnew, nextValue, hopen,
    takeWhile_append_mark hinside hquote, dropWhile_append_mark hinside hquote,
    Bool.false_eq_true, if_false]
  exact ⟨_, _, rfl⟩

theorem listFrom_of_next_found {earlier : List (String × Nat)} {position start stop : Nat}
    {text rest : List Char} {item : Attribute}
    (h : next earlier position text = .found item start stop rest) :
    listFrom earlier position text =
      (listFrom ((item.key, start) :: earlier) stop rest).cons item := by
  rw [listFrom]
  split <;> simp_all

-- At the end of a tag there may be spaces.
theorem listFrom_spaces (spaces : Spaces) (earlier : List (String × Nat)) (position : Nat) :
    listFrom earlier position spaces.chars = ⟨[], none⟩ := by
  have hdone : next earlier position spaces.chars = .done := by
    rw [next, List.dropWhile_eq_nil_iff.mpr spaces.spaces]
  rw [listFrom]
  split <;> simp_all

-- Spelled attributes are found one after another.
theorem listFrom_assignments {assignments : List Assignment} {earlier : List (String × Nat)}
    (hkeys : (assignments.map (·.key)).Nodup)
    (hnew : ∀ assignment ∈ assignments, earlier.lookup assignment.key = none) (position : Nat)
    (last : Spaces) :
    listFrom earlier position (assignments.flatMap Assignment.chars ++ last.chars) =
      ⟨assignments.map fun assignment =>
        ⟨assignment.key, assignment.value.toList.flatMap Reference.escape⟩, none⟩ := by
  induction assignments generalizing earlier position with
  | nil => exact listFrom_spaces last earlier position
  | cons assignment rest ih =>
      obtain ⟨hfirst, hlater⟩ := List.forall_mem_cons.mp hnew
      obtain ⟨hkey, hrest⟩ := List.nodup_cons.mp hkeys
      obtain ⟨start, stop, hnext⟩ := next_assignment assignment hfirst position
        (rest.flatMap Assignment.chars ++ last.chars)
      rw [List.flatMap_cons, List.append_assoc, listFrom_of_next_found hnext, ih hrest]
      · rfl
      · intro other hother
        have hne : other.key ≠ assignment.key := fun he =>
          hkey (List.mem_map.mpr ⟨other, hother, he⟩)
        rw [List.lookup_cons, beq_false_of_ne hne]
        exact hlater other hother

end Attribute

namespace Spelling

theorem attributes_tag (spelling : Spelling) :
    spelling.tag.attributes =
      ⟨spelling.assignments.map fun assignment =>
        ⟨assignment.key, assignment.value.toList.flatMap Reference.escape⟩, none⟩ :=
  Attribute.listFrom_assignments spelling.keys (fun _ _ => rfl) _ spelling.last

-- After the name of a tag comes a space or nothing.
theorem isSpace_of_mem_head? (spelling : Spelling) : ∀ c ∈ spelling.body.head?, isSpace c := by
  intro c hc
  rw [body] at hc
  cases hassignments : spelling.assignments with
  | nil =>
      rw [hassignments, List.flatMap_nil, List.nil_append] at hc
      exact spelling.last.spaces c (List.mem_of_mem_head? hc)
  | cons assignment rest =>
      obtain ⟨d, more, hgap⟩ := List.exists_cons_of_ne_nil assignment.gap.ne_nil
      simp only [hassignments, List.flatMap_cons, Assignment.chars, hgap, List.cons_append,
        List.head?_cons, Option.mem_some] at hc
      subst hc
      exact assignment.gap.spaces d (hgap ▸ List.mem_cons_self)

theorem ofText_chars (spelling : Spelling) : Tag.ofText spelling.chars = spelling.tag := by
  have hname : ∀ c ∈ spelling.name.toList, (!isSpace c) = true := by
    intro c hc
    rw [not_isSpace_of_isPlain (spelling.plain.of_mem hc), Bool.not_false]
  rw [Tag.ofText, chars, tag, Tag.mk.injEq]
  cases hbody : spelling.body with
  | nil =>
      rw [List.append_nil, List.takeWhile_eq_self_iff.mpr hname,
        List.dropWhile_eq_nil_iff.mpr hname, String.ofList_toList]
      exact ⟨rfl, rfl⟩
  | cons c rest =>
      have hspace := spelling.isSpace_of_mem_head? c (by rw [hbody]; rfl)
      have hstop : (!isSpace c) = false := by rw [hspace, Bool.not_true]
      rw [takeWhile_append_mark hname hstop, dropWhile_append_mark hname hstop,
        String.ofList_toList]
      exact ⟨rfl, rfl⟩

theorem unbroken_chars (spelling : Spelling) : Unbroken spelling.chars :=
  spelling.plain.unbroken.append
    ((Unbroken.flatMap fun assignment _ => assignment.unbroken).append spelling.last.unbroken)

theorem getLast?_append_ne {text more : List Char} {c : Char} (htext : text.getLast? ≠ some c)
    (hmore : more.getLast? ≠ some c) : (text ++ more).getLast? ≠ some c := by
  rw [List.getLast?_append]
  cases hlast : more.getLast? with
  | none => rwa [Option.none_or]
  | some d => rwa [Option.some_or, ← hlast]

theorem getLast?_assignments (assignments : List Assignment) :
    (assignments.flatMap Assignment.chars).getLast? ≠ some '/' := by
  induction assignments with
  | nil => simp
  | cons assignment rest ih =>
      refine getLast?_append_ne ?_ ih
      rw [Assignment.chars, ← List.append_assoc, List.getLast?_concat]
      decide

-- No spelled tag ends with a slash of its own.
theorem getLast?_chars (spelling : Spelling) : spelling.chars.getLast? ≠ some '/' := by
  refine getLast?_append_ne ?_ (getLast?_append_ne (getLast?_assignments _) ?_)
  · intro h
    exact ne_of_isPlain (spelling.plain.of_mem (List.mem_of_getLast? h)) (by decide) rfl
  · intro h
    exact ne_of_isSpace (spelling.last.spaces _ (List.mem_of_getLast? h)) (by decide) rfl

theorem next_chars (spelling : Spelling) (rest : List Char) :
    Event.next ('<' :: spelling.chars ++ rest) = Event.nextOpening (spelling.chars ++ rest) := by
  obtain ⟨c, more, hname, hc, -⟩ := spelling.plain.exists_cons
  have htext : spelling.chars ++ rest = c :: (more ++ spelling.body ++ rest) := by
    rw [chars, hname, List.cons_append, List.cons_append]
  rw [List.cons_append]
  show Event.nextMarkup (spelling.chars ++ rest) = _
  rw [htext]
  unfold Event.nextMarkup
  split
  next h => cases h
  next h => exact absurd (List.cons.inj h).1 (ne_of_isPlain hc (by decide))
  next h => exact absurd (List.cons.inj h).1 (ne_of_isPlain hc (by decide))
  next h => exact absurd (List.cons.inj h).1 (ne_of_isPlain hc (by decide))
  next => rfl

theorem lexes_opens (spelling : Spelling) :
    Lexes ('<' :: spelling.chars ++ ['>']) [.opens spelling.tag] := by
  refine Lexes.of_next fun rest => ?_
  rw [List.append_assoc, next_chars, List.singleton_append, Event.nextOpening,
    spelling.unbroken_chars.tagText_eq]
  simp only [if_neg spelling.getLast?_chars, ofText_chars]

theorem lexes_selfCloses (spelling : Spelling) :
    Lexes ('<' :: spelling.chars ++ ['/', '>']) [.selfCloses spelling.tag] := by
  have hslash : Unbroken (spelling.chars ++ ['/']) :=
    spelling.unbroken_chars.append (Unbroken.char (by decide) (by decide) (by decide))
  refine Lexes.of_next fun rest => ?_
  have htext : spelling.chars ++ (['/', '>'] ++ rest) = spelling.chars ++ ['/'] ++ '>' :: rest := by
    simp
  rw [List.append_assoc, next_chars, htext, Event.nextOpening, hslash.tagText_eq]
  simp only [List.getLast?_concat, if_pos, List.dropLast_concat, ofText_chars]

theorem closingName_append {name : String} (h : Plain name) (spaces : Spaces) :
    closingName (name.toList ++ spaces.chars) = name := by
  have hspaces : ∀ c ∈ spaces.chars.reverse, isSpace c :=
    fun c hc => spaces.spaces c (List.mem_reverse.mp hc)
  have hchars : name.toList.reverse ≠ [] :=
    List.reverse_ne_nil_iff.mpr fun hnil => h.1 (String.toList_eq_nil_iff.mp hnil)
  obtain ⟨c, more, hreverse⟩ := List.exists_cons_of_ne_nil hchars
  have hc : isSpace c = false :=
    not_isSpace_of_isPlain (h.of_mem (List.mem_reverse.mp (hreverse ▸ List.mem_cons_self)))
  have hdrop : ((name.toList ++ spaces.chars).reverse.dropWhile isSpace).reverse =
      name.toList := by
    rw [List.reverse_append, hreverse, dropWhile_append_mark hspaces hc, ← hreverse,
      List.reverse_reverse]
  have hne : name.toList.isEmpty = false := by
    rw [List.isEmpty_eq_false_iff]
    exact List.reverse_ne_nil_iff.mp hchars
  simp only [closingName, hdrop, hne, Bool.false_eq_true, if_false, String.ofList_toList]

-- The tag that ends an element.
theorem lexes_closes (spelling : Spelling) (spaces : Spaces) :
    Lexes ('<' :: '/' :: spelling.name.toList ++ spaces.chars ++ ['>'])
      [.closes spelling.name] := by
  have hname := closingName_append spelling.plain spaces
  refine Lexes.of_next fun rest => ?_
  have htext : '<' :: '/' :: spelling.name.toList ++ spaces.chars ++ ['>'] ++ rest =
      '<' :: '/' :: (spelling.name.toList ++ spaces.chars ++ '>' :: rest) := by simp
  rw [htext]
  show Event.nextClosing (spelling.name.toList ++ spaces.chars ++ '>' :: rest) = _
  rw [Event.nextClosing, (spelling.plain.unbroken.append spaces.unbroken).tagText_eq]
  simp only [hname]

end Spelling

end EffectTables.Markup
