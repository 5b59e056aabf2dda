import ViewAtlas.Text.Basic
/-!
# Reading UTF-8

`Utf8.decode` reads octets as characters and says of the first bad sequence where it starts and what is wrong with it.
`unifyLineEnds` gives every line one kind of end.
-/
namespace ViewAtlas
namespace Text

/-- **What is wrong with a sequence of octets.** -/
inductive Utf8.Reason
  | start
  | continuation
  | ending
  deriving DecidableEq, Repr

/-- **A bad sequence**: why, and the offset of its first octet. -/
structure Utf8.Fault where
  reason : Utf8.Reason
  offset : Nat
  deriving DecidableEq, Repr

namespace Utf8

def Reason.message : Reason → Text
  | .start => "invalid start byte".toList
  | .continuation => "invalid continuation byte".toList
  | .ending => "unexpected end of data".toList

def Fault.message (f : Fault) : Text := f.reason.message ++ " at byte ".toList ++ ofNat f.offset

/-- How many octets follow this first one, and the range of the next; none when no sequence starts with it. -/
def following? (b : Nat) : Option (Nat × Nat × Nat) :=
  if b < 0x80 then some (0, 0, 0)
  else if b < 0xC2 then none
  else if b < 0xE0 then some (1, 0x80, 0xBF)
  else if b = 0xE0 then some (2, 0xA0, 0xBF)
  else if b = 0xED then some (2, 0x80, 0x9F)
  else if b < 0xF0 then some (2, 0x80, 0xBF)
  else if b = 0xF0 then some (3, 0x90, 0xBF)
  else if b < 0xF4 then some (3, 0x80, 0xBF)
  else if b = 0xF4 then some (3, 0x80, 0x8F)
  else none

/-- The code point so far, extended by `k` more octets, the next of which lies between `lo` and `hi`. -/
def extend (code : Nat) : (k lo hi : Nat) → List UInt8 → Except Reason Nat
  | 0, _, _, _ => .ok code
  | _ + 1, _, _, [] => .error .ending
  | k + 1, lo, hi, b :: s =>
    if lo ≤ b.toNat ∧ b.toNat ≤ hi then extend (code * 64 + b.toNat % 64) k 0x80 0xBF s
    else .error .continuation

/-- The bits of a first octet that belong to the code point when `k` octets follow. -/
def firstBits (b k : Nat) : Nat :=
  match k with
  | 0 => b
  | 1 => b % 32
  | 2 => b % 16
  | _ => b % 8

def decodeFrom (offset : Nat) : List UInt8 → Except Fault Text
  | [] => .ok []
  | b :: s =>
    match following? b.toNat with
    | none => .error ⟨.start, offset⟩
    | some (k, lo, hi) =>
      match extend (firstBits b.toNat k) k lo hi s with
      | .error reason => .error ⟨reason, offset⟩
      | .ok code =>
        match decodeFrom (offset + k + 1) (s.drop k) with
        | .error fault => .error fault
        | .ok rest => .ok (Char.ofNat code :: rest)
termination_by s => s.length
decreasing_by simp only [List.length_cons, List.length_drop]; omega

/-- **The characters that the octets encode.** -/
def decode (s : List UInt8) : Except Fault Text := decodeFrom 0 s

/-- **The octets that encode a text.** -/
def encode (s : Text) : List UInt8 := s.flatMap String.utf8EncodeChar

end Utf8

/-- How many octets encode a text. -/
def octets : Text → Nat
  | [] => 0
  | c :: s => c.utf8Size + octets s

theorem octets_cons (c : Char) (s : Text) : octets (c :: s) = c.utf8Size + octets s := rfl

theorem octets_append : ∀ s t : Text, octets (s ++ t) = octets s + octets t
  | [], t => (Nat.zero_add _).symm
  | c :: s, t => by rw [List.cons_append, octets_cons, octets_cons, octets_append s t, Nat.add_assoc]

/-- A carriage return ends a line, alone or together with the line feed after it; each end becomes one line feed. -/
def unifyLineEnds : Text → Text
  | [] => []
  | '\r' :: '\n' :: s => '\n' :: unifyLineEnds s
  | c :: s => (if c = '\r' then '\n' else c) :: unifyLineEnds s

end Text
end ViewAtlas
