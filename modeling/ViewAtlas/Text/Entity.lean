import ViewAtlas.Text.Entity.Names
/-!
# Character references

`decode` replaces the character references of a text, as the HTML standard says for text outside attributes: the
longest listed name wins, a name that is not listed stays as it is, and a number that stands for no character gives
U+FFFD or nothing.
-/
namespace ViewAtlas
namespace Text
namespace Entity

/-- What the numbers 0x80 to 0x9F stand for: the characters of the Windows code page of that range. -/
def windowsRange : List Nat :=
  [0x20AC, 0x81, 0x201A, 0x192, 0x201E, 0x2026, 0x2020, 0x2021, 0x2C6, 0x2030, 0x160, 0x2039, 0x152, 0x8D, 0x17D, 0x8F,
   0x90, 0x2018, 0x2019, 0x201C, 0x201D, 0x2022, 0x2013, 0x2014, 0x2DC, 0x2122, 0x161, 0x203A, 0x153, 0x9D, 0x17E, 0x178]

/-- Whether a number stands for a control character or for none at all. -/
def isVoidNumber (n : Nat) : Bool :=
  (1 ≤ n && n ≤ 8) || n == 0xB || (0xE ≤ n && n ≤ 0x1F) || n == 0x7F || (0xFDD0 ≤ n && n ≤ 0xFDEF) || n % 0x10000 ≥ 0xFFFE

def ofNumber (n : Nat) : Text :=
  if n = 0 then [Char.ofNat 0xFFFD]
  else if 0x80 ≤ n ∧ n ≤ 0x9F then [Char.ofNat (windowsRange.getD (n - 0x80) 0xFFFD)]
  else if (0xD800 ≤ n ∧ n ≤ 0xDFFF) ∨ 0x10FFFF < n then [Char.ofNat 0xFFFD]
  else if isVoidNumber n then []
  else [Char.ofNat n]

/-- What the longest legacy name of at least two characters that starts the text stands for, followed by the rest of
the text; `k` bounds its length. -/
def ofLegacy? (s : Text) : (k : Nat) → Option Text
  | 0 | 1 => none
  | k + 2 =>
    if s.take (k + 2) ∈ legacy then
      (named.lookup (s.take (k + 2))).map (· ++ s.drop (k + 2))
    else ofLegacy? s (k + 1)

/-- What the reference by name stands for; `s` is all after `&`, with the `;` if there is one. -/
def ofName (s : Text) : Text :=
  let whole? := if s.getLast? = some ';' then named.lookup s.dropLast
    else if s ∈ legacy then named.lookup s else none
  match whole? with
  | some t => t
  | none => (ofLegacy? s (s.length - 1)).getD ('&' :: s)

def isNameChar (c : Char) : Bool := !(c ∈ ['\t', '\n', '\x0c', ' ', '<', '&', '#', ';'])

def withSemicolon (n : Nat) (s : Text) : Nat := if (s.drop n).head? = some ';' then n + 1 else n

/-- The reference that follows an `&`: how many characters it takes and what it stands for. -/
def scan? (s : Text) : Option (Nat × Text) :=
  match s with
  | '#' :: r =>
    let digits := r.takeWhile Char.isDigit
    if digits ≠ [] then
      some (withSemicolon (1 + digits.length) s, ofNumber (readDigits 10 digits))
    else match r with
      | x :: r =>
        let digits := r.takeWhile fun c => (hexValue? c).isSome
        if (x = 'x' ∨ x = 'X') ∧ digits ≠ [] then
          some (withSemicolon (2 + digits.length) s, ofNumber (readDigits 16 digits))
        else none
      | [] => none
  | _ =>
    let name := (s.takeWhile isNameChar).take 32
    if name = [] then none
    else
      let n := withSemicolon name.length s
      some (n, ofName (s.take n))

/-- How many decimal digits the number of the reference has that follows an `&`. -/
def decimals (s : Text) : Nat :=
  match s with
  | '#' :: r => (r.takeWhile Char.isDigit).length
  | _ => 0

/-- **The first number that is too long to be read**: how many digits it has.  A hexadecimal one never is.  As no
reference holds an `&`, all are found from their own `&` on. -/
def longNumber? : Text → Option Nat
  | [] => none
  | c :: s => if c = '&' ∧ mostDigits < decimals s then some (decimals s) else longNumber? s

/-- **The text with its character references replaced**, no number of which is too long. -/
def decode : Text → Text
  | [] => []
  | c :: s =>
    if c = '&' then
      match scan? s with
      | some (n, t) => t ++ decode (s.drop n)
      | none => c :: decode s
    else c :: decode s
termination_by s => s.length
decreasing_by all_goals simp only [List.length_cons, List.length_drop]; omega

end Entity
end Text
end ViewAtlas
