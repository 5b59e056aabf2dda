import ViewAtlas.Text.Basic
/-!
# Blanks

The white space of Unicode together with the four separators U+001C to U+001F.  Zero-width characters are no blanks.
-/
namespace ViewAtlas
namespace Text

def isBlank (c : Char) : Bool :=
  let n := c.toNat
  (0x09 ≤ n && n ≤ 0x0D) || (0x1C ≤ n && n ≤ 0x20) || n == 0x85 || n == 0xA0 || n == 0x1680 ||
    (0x2000 ≤ n && n ≤ 0x200A) || n == 0x2028 || n == 0x2029 || n == 0x202F || n == 0x205F || n == 0x3000

/-- The text without the characters of a class at its end. -/
def trimEnd (p : Char → Bool) (s : Text) : Text := (s.reverse.dropWhile p).reverse

theorem trimEnd_append (p : Char → Bool) (s : Text) : trimEnd p s ++ (s.reverse.takeWhile p).reverse = s := by
  rw [trimEnd, ← List.reverse_append, List.takeWhile_append_dropWhile, List.reverse_reverse]

/-- **The text without blanks at either end.** -/
def strip (s : Text) : Text := trimEnd isBlank (s.dropWhile isBlank)

def isBlankText (s : Text) : Bool := s.all isBlank

/-- The first run of characters that are no blanks. -/
def firstWord? (s : Text) : Option Text :=
  match s.dropWhile isBlank with
  | [] => none
  | c :: r => some (c :: r.takeWhile (!isBlank ·))

end Text
end ViewAtlas
