import Rendezvous.Json.Text

/-! The grammar of JSON texts, on lists of characters. What is said to be spelt has no white space
around it. -/

namespace Rendezvous.Json

def Spaces (cs : List Char) : Prop := ∀ c ∈ cs, isSpace c = true

def Surrounds (text v : List Char) : Prop :=
  ∃ s s', Spaces s ∧ Spaces s' ∧ text = s ++ (v ++ s')

structure Digits (cs : List Char) : Prop where
  ne_nil : cs ≠ []
  digits : ∀ c ∈ cs, c.isDigit = true

/-- The whole part of a number. A zero leads no other digit. -/
inductive Whole : List Char → Prop
  | zero : Whole ['0']
  | digits {c : Char} {r : List Char} (first : c.isDigit = true) (nonzero : c ≠ '0')
      (rest : ∀ d ∈ r, d.isDigit = true) : Whole (c :: r)

inductive Fraction : List Char → Prop
  | none : Fraction []
  | some {ds : List Char} (digits : Digits ds) : Fraction ('.' :: ds)

inductive Exponent : List Char → Prop
  | none : Exponent []
  | some {e : Char} {sign ds : List Char} (letter : e = 'e' ∨ e = 'E')
      (optional : sign = [] ∨ sign = ['+'] ∨ sign = ['-']) (digits : Digits ds) :
      Exponent (e :: (sign ++ ds))

/-- A number without a sign. -/
inductive Unsigned : List Char → Prop
  | mk {w f e : List Char} (whole : Whole w) (fraction : Fraction f) (exponent : Exponent e) :
      Unsigned (w ++ (f ++ e))

/-- What may stand between the quotes of a string. Of an escape by code unit only the form
counts. -/
inductive StringBody : List Char → Prop
  | nil : StringBody []
  | char {c : Char} {r : List Char} (quote : c ≠ '"') (escape : c ≠ '\\')
      (control : isControl c = false) (rest : StringBody r) : StringBody (c :: r)
  | short {e : Char} {r : List Char} (letter : isShortEscape e = true) (rest : StringBody r) :
      StringBody ('\\' :: e :: r)
  | code {x y z w : Char} {r : List Char}
      (hex : (isHex x && isHex y && isHex z && isHex w) = true) (rest : StringBody r) :
      StringBody ('\\' :: 'u' :: x :: y :: z :: w :: r)

/-- What stands between the quotes of a string, and the characters that it spells. Surrogates come
in pairs. -/
inductive Spells : List Char → List Char → Prop
  | nil : Spells [] []
  | char {c : Char} {r s : List Char} (quote : c ≠ '"') (escape : c ≠ '\\')
      (control : isControl c = false) (rest : Spells r s) : Spells (c :: r) (c :: s)
  | short {e : Char} {r s : List Char} (letter : isShortEscape e = true) (rest : Spells r s) :
      Spells ('\\' :: e :: r) (shortEscape e :: s)
  | code {x y z w : Char} {r s : List Char}
      (hex : (isHex x && isHex y && isHex z && isHex w) = true)
      (low : isLowSurrogate (codeUnit x y z w) = false)
      (high : isHighSurrogate (codeUnit x y z w) = false) (rest : Spells r s) :
      Spells ('\\' :: 'u' :: x :: y :: z :: w :: r) (Char.ofNat (codeUnit x y z w) :: s)
  | pair {x y z w x' y' z' w' : Char} {r s : List Char}
      (hex : (isHex x && isHex y && isHex z && isHex w) = true)
      (hex' : (isHex x' && isHex y' && isHex z' && isHex w') = true)
      (high : isHighSurrogate (codeUnit x y z w) = true)
      (low : isLowSurrogate (codeUnit x' y' z' w') = true) (rest : Spells r s) :
      Spells ('\\' :: 'u' :: x :: y :: z :: w :: '\\' :: 'u' :: x' :: y' :: z' :: w' :: r)
        (joinSurrogates (codeUnit x y z w) (codeUnit x' y' z' w') :: s)

theorem Spells.stringBody {b s : List Char} (h : Spells b s) : StringBody b := by
  induction h with
  | nil => exact .nil
  | char quote escape control _ ih => exact .char quote escape control ih
  | short letter _ ih => exact .short letter ih
  | code hex _ _ _ ih => exact .code hex ih
  | pair hex hex' _ _ _ ih => exact .code hex (.code hex' ih)

/-- A value in a list, with the white space around it. -/
structure Item where
  before : List Char
  value : List Char
  after : List Char

/-- A key and a value in an object, with the white space around them. The key is what stands between
its quotes. -/
structure Member where
  before : List Char
  key : List Char
  between : List Char
  item : Item

namespace Item

def text (i : Item) : List Char := i.before ++ (i.value ++ i.after)

structure Spaced (i : Item) : Prop where
  before : Spaces i.before
  after : Spaces i.after

end Item

namespace Member

def text (m : Member) : List Char :=
  m.before ++ '"' :: (m.key ++ '"' :: (m.between ++ ':' :: m.item.text))

def value (m : Member) : List Char := m.item.value

structure Spaced (m : Member) : Prop where
  before : Spaces m.before
  between : Spaces m.between
  item : m.item.Spaced

end Member

/-- Texts in brackets, with commas between them. Without any there may be white space. -/
inductive Bracketed (opening closing : Char) : List (List Char) → List Char → Prop
  | empty {gap : List Char} (spaces : Spaces gap) :
      Bracketed opening closing [] (opening :: (gap ++ [closing]))
  | texts {t : List Char} {ts : List (List Char)} :
      Bracketed opening closing (t :: ts)
        (opening :: (t ++ (ts.flatMap (',' :: ·) ++ [closing])))

abbrev ListText (items : List Item) (text : List Char) : Prop :=
  Bracketed '[' ']' (items.map Item.text) text

abbrev ObjectText (members : List Member) (text : List Char) : Prop :=
  Bracketed '\x7b' '\x7d' (members.map Member.text) text

/-- The text of a JSON value. -/
inductive Value : List Char → Prop
  | null : Value ['n', 'u', 'l', 'l']
  | true : Value ['t', 'r', 'u', 'e']
  | false : Value ['f', 'a', 'l', 's', 'e']
  | number {n : List Char} (number : Unsigned n) : Value n
  | negative {n : List Char} (number : Unsigned n) : Value ('-' :: n)
  | string {b : List Char} (body : StringBody b) : Value ('"' :: (b ++ ['"']))
  | list {items : List Item} {text : List Char} (spaced : ∀ i ∈ items, i.Spaced)
      (values : ∀ i ∈ items, Value i.value) (written : ListText items text) : Value text
  | object {members : List Member} {text : List Char} (spaced : ∀ m ∈ members, m.Spaced)
      (keys : ∀ m ∈ members, StringBody m.key) (values : ∀ m ∈ members, Value m.value)
      (written : ObjectText members text) : Value text

structure Item.Sound (i : Item) : Prop where
  spaced : i.Spaced
  value : Value i.value

structure Member.Sound (m : Member) : Prop where
  spaced : m.Spaced
  key : StringBody m.key
  value : Value m.value

theorem Value.of_items {items : List Item} {text : List Char} (h : ∀ i ∈ items, i.Sound)
    (written : ListText items text) : Value text :=
  .list (fun i hi => (h i hi).spaced) (fun i hi => (h i hi).value) written

theorem Value.of_members {members : List Member} {text : List Char}
    (h : ∀ m ∈ members, m.Sound) (written : ObjectText members text) : Value text :=
  .object (fun m hm => (h m hm).spaced) (fun m hm => (h m hm).key) (fun m hm => (h m hm).value)
    written

end Rendezvous.Json
