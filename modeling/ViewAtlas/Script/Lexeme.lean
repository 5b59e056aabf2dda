import ViewAtlas.Text.Basic
/-!
# Lexemes of scripts

How long each lexeme at the start of a text is: the gap before a token, a word, a number, a string, a regular
expression, a mark.  A length of zero, or none, says that no such lexeme stands there.
-/
namespace ViewAtlas
namespace Script

def isSpace (c : Char) : Bool :=
  let n := c.toNat
  n == 0x20 || (0x09 ≤ n && n ≤ 0x0D) || n == 0xA0 || n == 0x1680 || (0x2000 ≤ n && n ≤ 0x200B) ||
    n == 0x2028 || n == 0x2029 || n == 0x202F || n == 0x205F || n == 0x2060 || n == 0x3000 || n == 0xFEFF

def isLineEnd (c : Char) : Bool := c = '\n' || c = '\r' || c.toNat == 0x2028 || c.toNat == 0x2029

/-- The rest of a line, up to its end; no comment takes the character NUL. -/
def lineLength (s : Text) : Nat := (s.takeWhile fun c => !isLineEnd c && c ≠ '\x00').length

/-- **The gap before a token**: white space and comments.  A comment that is not closed, or that holds the character
NUL, is no gap. -/
def gapLength (s : Text) : Nat :=
  match s with
  | [] => 0
  | c :: r =>
    if isSpace c then 1 + gapLength r
    else if c = '/' then
      match r with
      | '/' :: t =>
        let n := lineLength t
        2 + n + gapLength (t.drop n)
      | '*' :: t =>
        match Text.offset? ['*', '/'] t with
        | some n => if (t.take n).contains '\x00' then 0 else n + 4 + gapLength (t.drop (n + 2))
        | none => 0
      | _ => 0
    else 0
termination_by s.length
decreasing_by all_goals simp only [List.length_cons, List.length_drop]; omega

def isMark (c : Char) : Bool := ":;\x60\"'@#.,|^&<=>+-*/\\%?!~()[]\x7b\x7d".toList.contains c

def isWordPart (c : Char) : Bool := !(c.toNat ≤ 0x1F || isSpace c || isMark c)

def isHexDigit (c : Char) : Bool := (Text.hexValue? c).isSome

/-- The length of the code point after `u`: four digits, or digits between braces. -/
def codePointLength? : Text → Option Nat
  | '{' :: s =>
    let n := (s.takeWhile isHexDigit).length
    if n ≠ 0 ∧ (s.drop n).head? = some '}' then some (n + 2) else none
  | s => if (s.take 4).length = 4 && (s.take 4).all isHexDigit then some 4 else none

def wordPartLength (s : Text) : Nat :=
  match s with
  | [] => 0
  | c :: r =>
    if isWordPart c then 1 + wordPartLength r
    else match c, r with
      | '\\', 'u' :: t =>
        match codePointLength? t with
        | some n => 2 + n + wordPartLength (t.drop n)
        | none => 0
      | _, _ => 0
termination_by s.length
decreasing_by all_goals simp only [List.length_cons, List.length_drop]; omega

/-- **A word**: a name or a keyword.  It does not start with a digit. -/
def wordLength (s : Text) : Nat := if s.head?.any Char.isDigit then 0 else wordPartLength s

/-- Digits of a class, each of them perhaps after a `_`. -/
def digitsRestLength (p : Char → Bool) : Text → Nat
  | [] => 0
  | [c] => if p c then 1 else 0
  | c :: d :: s =>
    if p c then 1 + digitsRestLength p (d :: s)
    else if c = '_' && p d then 1 + digitsRestLength p (d :: s)
    else 0

def digitsLength (p : Char → Bool) (s : Text) : Nat := if s.head?.any p then digitsRestLength p s else 0

def exponentLength : Text → Nat
  | c :: s =>
    if c = 'e' ∨ c = 'E' then
      let sign := if s.head? = some '+' ∨ s.head? = some '-' then 1 else 0
      let n := digitsLength Char.isDigit (s.drop sign)
      if n = 0 then 0 else 1 + sign + n
    else 0
  | [] => 0

/-- Whether a fraction or an exponent may follow the digits: no zero stands before them but one, with another digit right
after it or none at all. -/
def goesOn : Text → Bool
  | ['0'] => true
  | '0' :: d :: _ => '1' ≤ d && d ≤ '9'
  | _ => true

def numberLength (s : Text) : Nat :=
  let based (p : Char → Bool) (r : Text) : Nat :=
    let n := digitsLength p r
    if n = 0 then 0 else if (r.drop n).head? = some 'n' then n + 3 else n + 2
  match s with
  | '0' :: 'x' :: r | '0' :: 'X' :: r => based isHexDigit r
  | '0' :: 'o' :: r | '0' :: 'O' :: r => based (fun c => '0' ≤ c && c ≤ '7') r
  | '0' :: 'b' :: r | '0' :: 'B' :: r => based (fun c => c = '0' || c = '1') r
  | _ =>
    let whole := digitsLength Char.isDigit s
    let r := s.drop whole
    match r with
    | 'n' :: _ => if whole = 0 then 0 else whole + 1
    | '.' :: t =>
      let fraction := digitsLength Char.isDigit t
      if whole = 0 ∧ fraction = 0 then 0
      else if !goesOn (s.take whole) then whole
      else whole + 1 + fraction + exponentLength (t.drop fraction)
    | _ => if whole = 0 then 0 else if !goesOn (s.take whole) then whole else whole + exponentLength r

/-- **What follows a backslash** in a string: a code by number, the end of a line, or any other character. -/
def escapeLength? : Text → Option Nat
  | [] => none
  | '\r' :: '\n' :: _ => some 2
  | c :: s =>
    if c = '\x00' then none
    else if c = 'u' then (codePointLength? s).map (1 + ·)
    else if c = 'x' then if (s.take 2).length = 2 && (s.take 2).all isHexDigit then some 3 else none
    else if '0' ≤ c && c ≤ '7' then some (1 + ((s.take 2).takeWhile fun d => '0' ≤ d && d ≤ '7').length)
    else some 1

def stringRestLength? (quote : Char) (s : Text) : Option Nat :=
  match s with
  | [] => none
  | c :: r =>
    if c = quote then some 1
    else if c = '\\' then
      match escapeLength? r with
      | none => none
      | some n => (stringRestLength? quote (r.drop n)).map (1 + n + ·)
    else if c = '\n' ∨ c = '\r' ∨ c = '\x00' then none
    else (stringRestLength? quote r).map (1 + ·)
termination_by s.length
decreasing_by all_goals simp only [List.length_cons, List.length_drop]; omega

/-- **A string** between single or double quotes. -/
def stringLength? : Text → Option Nat
  | [] => none
  | c :: s => if c = '"' ∨ c = '\'' then (stringRestLength? c s).map (1 + ·) else none

/-- The characters of a template literal that stand for themselves. -/
def fragmentLength : Text → Nat
  | [] => 0
  | '$' :: '{' :: _ => 0
  | c :: s => if c = '\x60' ∨ c = '\\' ∨ c = '\x00' then 0 else 1 + fragmentLength s

/-- The body of a regular expression up to its closing slash; `inClass` says that a bracket is open. -/
def regexRestLength? (inClass : Bool) : Text → Option Nat
  | [] => none
  | [c] => if c = '/' && !inClass then some 1 else none
  | c :: d :: s =>
    if c = '\\' then if isLineEnd d ∨ d = '\x00' then none else (regexRestLength? inClass s).map (2 + ·)
    else if isLineEnd c ∨ c = '\x00' then none
    else if c = '/' && !inClass then some 1
    else if c = '[' then (regexRestLength? true (d :: s)).map (1 + ·)
    else if c = ']' then (regexRestLength? false (d :: s)).map (1 + ·)
    else (regexRestLength? inClass (d :: s)).map (1 + ·)

/-- **A regular expression** with its flags. -/
def regexLength? : Text → Option Nat
  | '/' :: s =>
    if s.head? = some '*' ∨ s.head? = some '/' then none
    else (regexRestLength? false s).map fun n =>
      1 + n + ((s.drop n).takeWhile fun c => 'a' ≤ c && c ≤ 'z').length
  | _ => none

/-- The marks, longer ones first. -/
def marks : List Text :=
  [">>>=", "...", "===", "!==", "**=", "<<=", ">>=", ">>>", "&&=", "||=", "??=", "=>", "==", "!=", "<=", ">=", "&&", "||",
    "??", "?.", "++", "--", "+=", "-=", "*=", "/=", "%=", "&=", "|=", "^=", "<<", ">>", "**", "\x7b", "\x7d", "(", ")",
    "[", "]", ";", ",", "<", ">", "+", "-", "*", "/", "%", "&", "|", "^", "!", "~", "?", ":", "=", ".", "@", "#"].map
      String.toList

/-- **The mark at the start**, the longest one; a `?.` before a digit is a `?`. -/
def mark? (s : Text) : Option Text :=
  match s with
  | '?' :: '.' :: d :: _ => if d.isDigit then some ['?'] else some ['?', '.']
  | _ => marks.find? (·.isPrefixOf s)

end Script
end ViewAtlas
