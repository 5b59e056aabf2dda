import ViewAtlas.Text.Span
import ViewAtlas.Text.Utf8
/-!
# Octets and characters

Markup is read octet by octet, and what is read of it stands at offsets of octets.  An offset map takes each of them to
the offset of the character that the octet belongs to (`char_octets`).
-/
namespace ViewAtlas

/-- **A map of the octets of a text**: a table of the characters they belong to, unless every character is one octet. -/
structure OffsetMap where
  isIdentity : Bool
  table : List Nat

namespace OffsetMap

open Text (octets octets_cons)

/-- The table of a text whose first character is the `n`th: an entry for each octet, and one for the end. -/
def tableFrom (n : Nat) : Text → List Nat
  | [] => [n]
  | c :: s => List.replicate c.utf8Size n ++ tableFrom (n + 1) s

def ofText (s : Text) : OffsetMap :=
  if s.length = octets s then ⟨true, []⟩ else ⟨false, tableFrom 0 s⟩

def char (m : OffsetMap) (offset : Nat) : Nat := if m.isIdentity then offset else m.table.getD offset 0

def span (m : OffsetMap) (r : Span) : Span := ⟨m.char r.start, m.char r.stop⟩

theorem length_le_octets : ∀ s : Text, s.length ≤ octets s
  | [] => Nat.le_refl 0
  | c :: s => by
    have hle := length_le_octets s
    have hpos := c.utf8Size_pos
    rw [octets_cons, List.length_cons]
    omega

/-- Where every character is one octet, offsets of octets are those of characters. -/
theorem octets_take_of_length_eq : ∀ {s : Text} {n : Nat}, s.length = octets s → n ≤ s.length → octets (s.take n) = n
  | _, 0, _, _ => by rw [List.take_zero]; rfl
  | c :: s, n + 1, h, hn => by
    have hle := length_le_octets s
    have hpos := c.utf8Size_pos
    rw [octets_cons, List.length_cons] at h
    rw [List.take_succ_cons, octets_cons,
      octets_take_of_length_eq (s := s) (by omega) (Nat.le_of_succ_le_succ hn)]
    omega

theorem tableFrom_getD_octets : ∀ {s : Text} {i : Nat} (n : Nat), i ≤ s.length →
    (tableFrom n s).getD (octets (s.take i)) 0 = n + i
  | [], 0, n, _ => rfl
  | c :: s, 0, n, _ => by
    have hpos := c.utf8Size_pos
    rw [List.take_zero, tableFrom]
    change ((List.replicate c.utf8Size n ++ tableFrom (n + 1) s)[0]?).getD 0 = n
    rw [List.getElem?_append_left (by rwa [List.length_replicate]), List.getElem?_replicate, if_pos hpos]
    rfl
  | c :: s, i + 1, n, hi => by
    have hrest := tableFrom_getD_octets (n + 1) (Nat.le_of_succ_le_succ hi)
    rw [List.getD_eq_getElem?_getD] at hrest ⊢
    rw [List.take_succ_cons, octets_cons, tableFrom,
      List.getElem?_append_right (by rw [List.length_replicate]; omega), List.length_replicate, Nat.add_sub_cancel_left,
      hrest]
    omega

/-- **The map takes the first octet of every character, and the end, to that character.** -/
theorem char_octets {s : Text} {n : Nat} (hn : n ≤ s.length) : (ofText s).char (octets (s.take n)) = n := by
  unfold ofText char
  split
  · rename_i h
    exact octets_take_of_length_eq h hn
  · exact (tableFrom_getD_octets 0 hn).trans (Nat.zero_add n)

end OffsetMap
end ViewAtlas
