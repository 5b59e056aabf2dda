import Mathlib.Data.List.Forall2
import ViewAtlas.Json.Relaxed
import ViewAtlas.Proofs.Text.Utf8
/-!
# How documents are written

A value is a phrase of tokens (`Phrase`), each token is spelled as a text (`Spelled`), and a document is these texts with
gaps before, between and after them (`Woven`).  In a relaxed phrase one comma may stand after the last item of a list
or the last field of a record, and the gaps of a relaxed document (`Gap`) may hold comments.
-/
namespace ViewAtlas
namespace Json

/-! ## Spelling -/

def shortEscapes : List (Char × Char) :=
  [('"', '"'), ('\\', '\\'), ('/', '/'), ('b', '\x08'), ('f', '\x0c'), ('n', '\n'), ('r', '\r'), ('t', '\t')]

/-- **Four hexadecimal digits, in either case, that write a number.** -/
structure WritesUnit (n : Nat) (digits : Text) : Prop where
  length : digits.length = 4
  hexadecimal : ∀ c ∈ digits, (Text.hexValue? c).isSome
  value : Text.readDigits 16 digits = n

/-- **How a character of a text is spelled**: by itself, by a backslash and a letter, or by one or two code units. -/
inductive CharSpelled : Char → Text → Prop
  | plain {c : Char} (hvisible : 0x20 ≤ c.toNat) (hquote : c ≠ '"') (hbackslash : c ≠ '\\') : CharSpelled c [c]
  | short {letter c : Char} (h : (letter, c) ∈ shortEscapes) : CharSpelled c ['\\', letter]
  | unit {n : Nat} {digits : Text} (hdigits : WritesUnit n digits) (hhalf : ¬ (0xD800 ≤ n ∧ n ≤ 0xDFFF)) :
      CharSpelled (Char.ofNat n) ('\\' :: 'u' :: digits)
  | pair {high low : Nat} {highDigits lowDigits : Text} (hhigh : WritesUnit high highDigits)
      (hlow : WritesUnit low lowDigits) (hhighHalf : 0xD800 ≤ high ∧ high ≤ 0xDBFF)
      (hlowHalf : 0xDC00 ≤ low ∧ low ≤ 0xDFFF) :
      CharSpelled (Char.ofNat (0x10000 + (high - 0xD800) * 0x400 + (low - 0xDC00)))
        ('\\' :: 'u' :: (highDigits ++ '\\' :: 'u' :: lowDigits))

/-- How a text is spelled between its quotes. -/
inductive TextSpelled : Text → Text → Prop
  | nil : TextSpelled [] []
  | cons {c : Char} {t a s : Text} (hchar : CharSpelled c a) (htext : TextSpelled t s) : TextSpelled (c :: t) (a ++ s)

/-- **How a whole number is spelled**: its digits, with no zero before others, after a sign if it is negative. -/
structure IntSpelled (n : Int) (negative : Bool) (digits : Text) : Prop where
  nonempty : digits ≠ []
  decimal : ∀ c ∈ digits, c.isDigit = true
  leading : digits.head? = some '0' → digits = ['0']
  short : digits.length < 4300
  value : n = if negative then -(Text.readDigits 10 digits : Int) else Text.readDigits 10 digits

/-- **How a token is spelled.** -/
inductive Spelled : Token → Text → Prop
  | openList : Spelled .openList ['[']
  | closeList : Spelled .closeList [']']
  | openRecord : Spelled .openRecord ['\x7b']
  | closeRecord : Spelled .closeRecord ['\x7d']
  | comma : Spelled .comma [',']
  | colon : Spelled .colon [':']
  | null : Spelled (.plain .null) "null".toList
  | yes : Spelled (.plain (.bool true)) "true".toList
  | no : Spelled (.plain (.bool false)) "false".toList
  | int {n : Int} {negative : Bool} {digits : Text} (h : IntSpelled n negative digits) :
      Spelled (.plain (.int n)) ((if negative then ['-'] else []) ++ digits)
  | text {t s : Text} (h : TextSpelled t s) : Spelled (.text t) ('"' :: (s ++ ['"']))

/-! ## Phrases -/

/-- What stands before the value of a member: the name of a field, and a colon. -/
def nameTokens : Option Text → List Token
  | none => []
  | some name => [.text name, .colon]

mutual

/-- **The tokens of a value.**  A record has the last value that each of its names is given.  A `relaxed` phrase may
have a comma after its last member. -/
inductive Phrase (relaxed : Bool) : Value → List Token → Prop
  | null : Phrase relaxed .null [.plain .null]
  | bool (b : Bool) : Phrase relaxed (.bool b) [.plain (.bool b)]
  | int (n : Int) : Phrase relaxed (.int n) [.plain (.int n)]
  | text (t : Text) : Phrase relaxed (.text t) [.text t]
  | list {items : List Value} {tokens : List Token} (h : Members relaxed (items.map fun v => (none, v)) tokens) :
      Phrase relaxed (.list items) (.openList :: (tokens ++ [.closeList]))
  | record {fields : List (Text × Value)} {tokens : List Token}
      (h : Members relaxed (fields.map fun f => (some f.1, f.2)) tokens) :
      Phrase relaxed (.record (Table.ofList fields)) (.openRecord :: (tokens ++ [.closeRecord]))

/-- The tokens of the members of a list or record: values without names, or with them. -/
inductive Members (relaxed : Bool) : List (Option Text × Value) → List Token → Prop
  | none : Members relaxed [] []
  | last {name : Option Text} {v : Value} {tokens : List Token} (h : Phrase relaxed v tokens) :
      Members relaxed [(name, v)] (nameTokens name ++ tokens)
  | lastComma {name : Option Text} {v : Value} {tokens : List Token} (hrelaxed : relaxed = true)
      (h : Phrase relaxed v tokens) : Members relaxed [(name, v)] (nameTokens name ++ (tokens ++ [.comma]))
  | more {name : Option Text} {v : Value} {tokens rest : List Token} {m : Option Text × Value}
      {members : List (Option Text × Value)} (h : Phrase relaxed v tokens)
      (hrest : Members relaxed (m :: members) rest) :
      Members relaxed ((name, v) :: m :: members) (nameTokens name ++ (tokens ++ .comma :: rest))

end

/-! ## Documents -/

/-- **What may stand between the tokens of a relaxed document**: white space, block comments, and line comments that a
line end closes. -/
inductive Gap : Text → Prop
  | nil : Gap []
  | blank {c : Char} {s : Text} (hc : isGap c = true) (h : Gap s) : Gap (c :: s)
  | block {t s : Text} (ht : ¬ ['*', '/'] <:+: t) (h : Gap s) : Gap ('/' :: '*' :: (t ++ '*' :: '/' :: s))
  | line {t : Text} {c : Char} {s : Text} (ht : Text.OneLine t) (hc : c = '\n' ∨ c = '\r') (h : Gap s) :
      Gap ('/' :: '/' :: (t ++ c :: s))

/-- What may stand after the last token: a gap too, and a line comment that the document ends. -/
inductive LastGap : Text → Prop
  | gap {s : Text} (h : Gap s) : LastGap s
  | line {s t : Text} (h : Gap s) (ht : Text.OneLine t) : LastGap (s ++ '/' :: '/' :: t)

/-- **Texts with gaps before, between and after them.** -/
inductive Woven (gap last : Text → Prop) : List Text → Text → Prop
  | done {s : Text} (h : last s) : Woven gap last [] s
  | more {g l s : Text} {ls : List Text} (hgap : gap g) (h : Woven gap last ls s) :
      Woven gap last (l :: ls) (g ++ (l ++ s))

def Blank (s : Text) : Prop := ∀ c ∈ s, isGap c = true

/-- **A strict document of a value**: its tokens, each as it may be spelled, with white space between them. -/
def WrittenStrictly (v : Value) (document : Text) : Prop :=
  ∃ tokens lexemes, Phrase false v tokens ∧ List.Forall₂ Spelled tokens lexemes ∧ Woven Blank Blank lexemes document

/-- **A relaxed document of a value**: there may be commas before ends, and comments between tokens. -/
def Written (v : Value) (document : Text) : Prop :=
  ∃ tokens lexemes, Phrase true v tokens ∧ List.Forall₂ Spelled tokens lexemes ∧ Woven Gap LastGap lexemes document

theorem Blank.gap {s : Text} (h : Blank s) : Gap s := by
  induction s with
  | nil => exact .nil
  | cons c s ih => exact .blank (h c (List.mem_cons_self ..)) (ih fun d hd => h d (List.mem_cons_of_mem _ hd))

theorem Woven.mono {gap gap' last last' : Text → Prop} (hgap : ∀ s, gap s → gap' s) (hlast : ∀ s, last s → last' s)
    {lexemes : List Text} {s : Text} (h : Woven gap last lexemes s) : Woven gap' last' lexemes s := by
  induction h with
  | done h => exact .done (hlast _ h)
  | more hg _ ih => exact .more (hgap _ hg) ih

theorem Woven.blank_append {b : Text} {lexemes : List Text} {s : Text} (hb : Blank b)
    (h : Woven Blank Blank lexemes s) : Woven Blank Blank lexemes (b ++ s) := by
  cases h with
  | done h => exact .done (List.forall_mem_append.2 ⟨hb, h⟩)
  | more hg h =>
    rw [← List.append_assoc]
    exact .more (List.forall_mem_append.2 ⟨hb, hg⟩) h

mutual

theorem Phrase.relaxed : ∀ {v : Value} {tokens : List Token}, Phrase false v tokens → Phrase true v tokens
  | _, _, .null => .null
  | _, _, .bool b => .bool b
  | _, _, .int n => .int n
  | _, _, .text t => .text t
  | _, _, .list h => .list h.relaxed
  | _, _, .record h => .record h.relaxed

theorem Members.relaxed : ∀ {members : List (Option Text × Value)} {tokens : List Token},
    Members false members tokens → Members true members tokens
  | _, _, .none => .none
  | _, _, .last h => .last h.relaxed
  | _, _, .more h hrest => .more h.relaxed hrest.relaxed

end

theorem WrittenStrictly.written {v : Value} {document : Text} (h : WrittenStrictly v document) : Written v document := by
  obtain ⟨tokens, lexemes, hphrase, hspelled, hwoven⟩ := h
  exact ⟨tokens, lexemes, hphrase.relaxed, hspelled, hwoven.mono (fun _ hs => hs.gap) fun _ hs => .gap hs.gap⟩

end Json
end ViewAtlas
