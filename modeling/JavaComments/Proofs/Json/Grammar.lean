import JavaComments.Proofs.Text.Hexadecimal

namespace JavaComments.Json

/-- What may stand between tokens. -/
def Blank (text : Text) : Prop := ∀ c ∈ text, c = ' ' ∨ c = '\t' ∨ c = '\n' ∨ c = '\r'

/-- The letters that stand behind a backslash, each with the character it spells. -/
def escapeLetters : List (Char × Char) :=
  [('"', '"'), ('\\', '\\'), ('/', '/'), ('b', '\x08'), ('f', '\x0c'), ('n', '\n'), ('r', '\r'),
    ('t', '\t')]

/-- The ways to spell a character within a string. -/
inductive CharSpelling (c : Char) : Text → Prop
  | plain : 0x20 ≤ c.toNat → c ≠ '"' → c ≠ '\\' → CharSpelling c [c]
  | letter {l : Char} : (l, c) ∈ escapeLetters → CharSpelling c ['\\', l]
  | unit {digits : Text} : HexUnit digits c.toNat → CharSpelling c ('\\' :: 'u' :: digits)
  | pair {first second : Text} {high low : Nat} :
      HexUnit first (0xD800 + high) → HexUnit second (0xDC00 + low) → high < 0x400 → low < 0x400 →
      c.toNat = 0x10000 + 0x400 * high + low →
      CharSpelling c ('\\' :: 'u' :: first ++ '\\' :: 'u' :: second)

def StringSpelling (text spelled : Text) : Prop :=
  ∃ pieces, List.Forall₂ CharSpelling text pieces ∧ spelled = '"' :: pieces.flatten ++ ['"']

def Padded (part : Text → Prop) (spelled : Text) : Prop :=
  ∃ before inner after, Blank before ∧ part inner ∧ Blank after ∧
    spelled = before ++ inner ++ after

/-- Parts with a comma between neighbours, and none behind the last one. -/
inductive Separated : List (Text → Prop) → Text → Prop
  | nil {blank : Text} : Blank blank → Separated [] blank
  | single {part : Text → Prop} {spelled : Text} : Padded part spelled → Separated [part] spelled
  | cons {part next : Text → Prop} {parts : List (Text → Prop)} {spelled rest : Text} :
      Padded part spelled → Separated (next :: parts) rest →
      Separated (part :: next :: parts) (spelled ++ ',' :: rest)

def Enclosed (opening closing : Char) (parts : List (Text → Prop)) (spelled : Text) : Prop :=
  ∃ inner, Separated parts inner ∧ spelled = opening :: inner ++ [closing]

def ListSpelling {α : Type} (spelling : α → Text → Prop) (values : List α) : Text → Prop :=
  Enclosed '[' ']' (values.map spelling)

/-- A key and a value with a colon between them; the key may be spelt with escapes. -/
def MemberSpelling (key : Text) (value : Text → Prop) (spelled : Text) : Prop :=
  ∃ name before after inner, StringSpelling key name ∧ Blank before ∧ Blank after ∧ value inner ∧
    spelled = name ++ before ++ ':' :: after ++ inner

def OptionSpelling {α : Type} (spelling : α → Text → Prop) : Option α → Text → Prop
  | none, spelled => spelled = "null".toList
  | some value, spelled => spelling value spelled

/-- A field of a record: the spellings of its value, and whether it may be left out. -/
structure Field where
  key : Text
  value : Text → Prop
  optional : Prop

def Field.member (field : Field) : Text → Prop := MemberSpelling field.key field.value

/-- An object with each field at most once, in any order. -/
def ObjectSpelling (fields : List Field) (spelled : Text) : Prop :=
  ∃ present absent : List Field, (present ++ absent).Perm fields ∧
    (∀ field ∈ absent, field.optional) ∧ Enclosed '{' '}' (present.map Field.member) spelled

/-- A list of the values of the fields in turn, from which the last ones may be missing. -/
def TupleSpelling (fields : List Field) (spelled : Text) : Prop :=
  ∃ present absent : List Field, present ++ absent = fields ∧ (∀ field ∈ absent, field.optional) ∧
    Enclosed '[' ']' (present.map Field.value) spelled

def RecordSpelling (fields : List Field) (spelled : Text) : Prop :=
  ObjectSpelling fields spelled ∨ TupleSpelling fields spelled

end JavaComments.Json
