import ViewAtlas.Text.Utf8
/-!
# The digest SHA-1

The digest of a text is that of its UTF-8 octets, written in forty hexadecimal digits.
-/
namespace ViewAtlas
namespace Text
namespace Sha1

/-- **The five words** of the running digest. -/
structure State where
  a : UInt32
  b : UInt32
  c : UInt32
  d : UInt32
  e : UInt32

def State.start : State := ⟨0x67452301, 0xEFCDAB89, 0x98BADCFE, 0x10325476, 0xC3D2E1F0⟩

def rotate (w k : UInt32) : UInt32 := (w <<< k) ||| (w >>> (32 - k))

/-- The low `k` octets of a number, most significant first. -/
def octets : (k n : Nat) → List UInt8
  | 0, _ => []
  | k + 1, n => UInt8.ofNat (n / Nat.pow 256 k) :: octets k n

/-- The message, a one bit, zeros, and the length in bits: a multiple of sixty-four octets. -/
def padded (m : List UInt8) : List UInt8 :=
  m ++ [0x80] ++ List.replicate ((119 - m.length % 64) % 64) 0 ++ octets 8 (8 * m.length)

def toWords : List UInt8 → List UInt32
  | p :: q :: r :: s :: rest =>
    ((p.toUInt32 <<< 24) ||| (q.toUInt32 <<< 16) ||| (r.toUInt32 <<< 8) ||| s.toUInt32) :: toWords rest
  | _ => []

/-- The schedule extended by `k` words; `ws` holds the words so far, last first. -/
def extendSchedule : (k : Nat) → (ws : List UInt32) → List UInt32
  | 0, ws => ws
  | k + 1, ws =>
    extendSchedule k (rotate (ws.getD 2 0 ^^^ ws.getD 7 0 ^^^ ws.getD 13 0 ^^^ ws.getD 15 0) 1 :: ws)

def schedule (block : List UInt32) : List UInt32 := (extendSchedule 64 block.reverse).reverse

/-- The mixing function and the constant of round `t`. -/
def mixing (t : Nat) (s : State) : UInt32 × UInt32 :=
  if t < 20 then ((s.b &&& s.c) ||| (~~~s.b &&& s.d), 0x5A827999)
  else if t < 40 then (s.b ^^^ s.c ^^^ s.d, 0x6ED9EBA1)
  else if t < 60 then ((s.b &&& s.c) ||| (s.b &&& s.d) ||| (s.c &&& s.d), 0x8F1BBCDC)
  else (s.b ^^^ s.c ^^^ s.d, 0xCA62C1D6)

def round (s : State) (w : UInt32 × Nat) : State :=
  let (f, k) := mixing w.2 s
  ⟨rotate s.a 5 + f + s.e + k + w.1, s.a, rotate s.b 30, s.c, s.d⟩

def absorb (s : State) (block : List UInt32) : State :=
  let t := (schedule block).zipIdx.foldl round s
  ⟨s.a + t.a, s.b + t.b, s.c + t.c, s.d + t.d, s.e + t.e⟩

def blocks (ws : List UInt32) : List (List UInt32) :=
  match ws with
  | [] => []
  | w :: rest => (w :: rest.take 15) :: blocks (rest.drop 15)
termination_by ws.length
decreasing_by simp only [List.length_cons, List.length_drop]; omega

def digest (m : List UInt8) : State := (blocks (toWords (padded m))).foldl absorb State.start

def State.toHex (s : State) : Text := [s.a, s.b, s.c, s.d, s.e].flatMap fun w => hex 8 w.toNat

end Sha1

/-- **The digest of a text**, in hexadecimal. -/
def sha1 (s : Text) : Text := (Sha1.digest (Utf8.encode s)).toHex

end Text
end ViewAtlas
