import Mathlib.Data.List.Basic
import ViewAtlas.Text.Utf8
/-!
# Reading what is encoded

A text is decoded from the octets that encode it (`Utf8.decode_encode`).  Making line ends one kind keeps what lies
within a line, and makes no end of a comment (`infix_of_unifyLineEnds`).
-/
namespace ViewAtlas
namespace Text

/-! ## Octets -/

namespace Utf8

theorem following?_one {b : Nat} (h : b < 0x80) : following? b = some (0, 0, 0) := if_pos h

theorem following?_two {b : Nat} (h : 0xC2 ≤ b ∧ b < 0xE0) : following? b = some (1, 0x80, 0xBF) := by
  rw [following?, if_neg (by omega), if_neg (by omega), if_pos h.2]

/-- Two octets follow, and the next may be any that keeps the code point out of the shorter ones and the halves. -/
theorem following?_three {b : Nat} (next : Nat) (h : 0xE0 ≤ b ∧ b < 0xF0) (hnext : 0x80 ≤ next ∧ next ≤ 0xBF)
    (hshort : b = 0xE0 → 0xA0 ≤ next) (hhalf : b = 0xED → next ≤ 0x9F) :
    ∃ lo hi, following? b = some (2, lo, hi) ∧ lo ≤ next ∧ next ≤ hi := by
  rw [following?, if_neg (by omega), if_neg (by omega), if_neg (by omega)]
  split
  · exact ⟨_, _, rfl, hshort ‹_›, hnext.2⟩
  · split
    · exact ⟨_, _, rfl, hnext.1, hhalf ‹_›⟩
    · exact ⟨_, _, if_pos h.2, hnext⟩

/-- Three octets follow, and the next may be any that keeps the code point out of the shorter ones and in range. -/
theorem following?_four {b : Nat} (next : Nat) (h : 0xF0 ≤ b ∧ b ≤ 0xF4) (hnext : 0x80 ≤ next ∧ next ≤ 0xBF)
    (hshort : b = 0xF0 → 0x90 ≤ next) (hlarge : b = 0xF4 → next ≤ 0x8F) :
    ∃ lo hi, following? b = some (3, lo, hi) ∧ lo ≤ next ∧ next ≤ hi := by
  rw [following?, if_neg (by omega), if_neg (by omega), if_neg (by omega), if_neg (by omega), if_neg (by omega),
    if_neg (by omega)]
  split
  · exact ⟨_, _, rfl, hshort ‹_›, hnext.2⟩
  · split
    · exact ⟨_, _, rfl, hnext⟩
    · rw [if_pos (by omega)]
      exact ⟨_, _, rfl, hnext.1, hlarge (by omega)⟩

theorem toNat_octet {n : Nat} (h : n < 256) : (UInt8.ofNat n).toNat = n := UInt8.toNat_ofNat_of_lt' h

/-- One step of decoding: the first octet says how many follow, and these extend its bits to the code point. -/
theorem decodeFrom_append {first : UInt8} (next : List UInt8) {s : List UInt8} {lo hi : Nat} {c : Char}
    (hfollowing : following? first.toNat = some (next.length, lo, hi))
    (hextend : extend (firstBits first.toNat next.length) next.length lo hi (next ++ s) = .ok c.toNat) (offset : Nat) :
    decodeFrom offset (first :: (next ++ s)) =
      (decodeFrom (offset + next.length + 1) s).map (c :: ·) := by
  rw [decodeFrom]
  simp only [hfollowing, hextend, List.drop_left, Char.ofNat_toNat]
  cases decodeFrom (offset + next.length + 1) s <;> rfl

section Lengths

variable {c : Char} {n : Nat} (s : List UInt8) (offset : Nat)

theorem decodeFrom_one (hn : n ≤ 127) (hc : c.toNat = n) :
    ∃ offset', decodeFrom offset ([UInt8.ofNat n] ++ s) = (decodeFrom offset' s).map (c :: ·) := by
  have hfirst := toNat_octet (n := n) (by omega)
  refine ⟨_, decodeFrom_append [] (by rw [hfirst]; exact following?_one (by omega)) ?_ offset⟩
  rw [hfirst, hc]
  rfl

theorem decodeFrom_two (hn : 127 < n ∧ n ≤ 2047) (hc : c.toNat = n) :
    ∃ offset', decodeFrom offset ([UInt8.ofNat (n / 64 % 32 + 192), UInt8.ofNat (n % 64 + 128)] ++ s) =
      (decodeFrom offset' s).map (c :: ·) := by
  have hfirst := toNat_octet (n := n / 64 % 32 + 192) (by omega)
  have hnext := toNat_octet (n := n % 64 + 128) (by omega)
  refine ⟨_, decodeFrom_append [_] (by rw [hfirst]; exact following?_two (by omega)) ?_ offset⟩
  simp only [List.length_singleton, List.singleton_append, extend, firstBits, hfirst, hnext]
  rw [if_pos (by omega), hc]
  congr 1
  omega

theorem decodeFrom_three (hn : 2047 < n ∧ n ≤ 65535) (hhalf : n < 0xD800 ∨ 0xDFFF < n) (hc : c.toNat = n) :
    ∃ offset', decodeFrom offset ([UInt8.ofNat (n / 4096 % 16 + 224), UInt8.ofNat (n / 64 % 64 + 128),
      UInt8.ofNat (n % 64 + 128)] ++ s) = (decodeFrom offset' s).map (c :: ·) := by
  have hfirst := toNat_octet (n := n / 4096 % 16 + 224) (by omega)
  have hnext := toNat_octet (n := n / 64 % 64 + 128) (by omega)
  have hlast := toNat_octet (n := n % 64 + 128) (by omega)
  obtain ⟨lo, hi, hfollowing, hrange⟩ := following?_three (b := n / 4096 % 16 + 224) (n / 64 % 64 + 128)
    (by omega) (by omega) (by omega) (by omega)
  refine ⟨_, decodeFrom_append [_, _] (by rw [hfirst]; exact hfollowing) ?_ offset⟩
  simp only [List.length_cons, List.length_nil, List.cons_append, List.nil_append, extend, firstBits, hfirst, hnext,
    hlast]
  rw [if_pos hrange, if_pos (by omega), hc]
  congr 1
  omega

theorem decodeFrom_four (hn : 65535 < n ∧ n < 0x110000) (hc : c.toNat = n) :
    ∃ offset', decodeFrom offset ([UInt8.ofNat (n / 262144 % 8 + 240), UInt8.ofNat (n / 4096 % 64 + 128),
      UInt8.ofNat (n / 64 % 64 + 128), UInt8.ofNat (n % 64 + 128)] ++ s) = (decodeFrom offset' s).map (c :: ·) := by
  have hfirst := toNat_octet (n := n / 262144 % 8 + 240) (by omega)
  have hnext := toNat_octet (n := n / 4096 % 64 + 128) (by omega)
  have hthird := toNat_octet (n := n / 64 % 64 + 128) (by omega)
  have hlast := toNat_octet (n := n % 64 + 128) (by omega)
  obtain ⟨lo, hi, hfollowing, hrange⟩ := following?_four (b := n / 262144 % 8 + 240) (n / 4096 % 64 + 128)
    (by omega) (by omega) (by omega) (by omega)
  refine ⟨_, decodeFrom_append [_, _, _] (by rw [hfirst]; exact hfollowing) ?_ offset⟩
  simp only [List.length_cons, List.length_nil, List.cons_append, List.nil_append, extend, firstBits, hfirst, hnext,
    hthird, hlast]
  rw [if_pos hrange, if_pos (by omega), if_pos (by omega), hc]
  congr 1
  omega

theorem decodeFrom_encodeChar (c : Char) :
    ∃ offset', decodeFrom offset (String.utf8EncodeChar c ++ s) = (decodeFrom offset' s).map (c :: ·) := by
  have hvalid : c.toNat < 0xD800 ∨ 0xDFFF < c.toNat ∧ c.toNat < 0x110000 := c.valid
  obtain ⟨n, hc⟩ : ∃ n, c.toNat = n := ⟨_, rfl⟩
  have hval : c.val.toNat = n := hc
  rw [hc] at hvalid
  simp only [String.utf8EncodeChar, hval]
  split
  · exact decodeFrom_one s offset ‹_› hc
  · split
    · exact decodeFrom_two s offset (by omega) hc
    · split
      · exact decodeFrom_three s offset (by omega) (by omega) hc
      · exact decodeFrom_four s offset (by omega) hc

end Lengths

/-- **A text is decoded from the octets that encode it.** -/
theorem decode_encode (s : Text) : decode (encode s) = .ok s := by
  have hfrom : ∀ (s : Text) (offset : Nat), decodeFrom offset (encode s) = .ok s := by
    intro s
    induction s with
    | nil =>
      intro offset
      rw [show encode [] = [] from rfl, decodeFrom]
    | cons c s ih =>
      intro offset
      obtain ⟨offset', h⟩ := decodeFrom_encodeChar (encode s) offset c
      rw [encode, List.flatMap_cons, ← encode, h, ih]
      rfl
  exact hfrom s 0

end Utf8

/-! ## Line ends -/

/-- **Within one line**: there is no line end. -/
def OneLine (t : Text) : Prop := ∀ c ∈ t, c ≠ '\n' ∧ c ≠ '\r'

theorem unifyLineEnds_cons {c : Char} (hc : c ≠ '\r') (s : Text) :
    unifyLineEnds (c :: s) = c :: unifyLineEnds s := by
  rw [unifyLineEnds, if_neg hc]
  rintro r rfl
  exact absurd rfl hc

theorem unifyLineEnds_return {s : Text} (hs : s.head? ≠ some '\n') :
    unifyLineEnds ('\r' :: s) = '\n' :: unifyLineEnds s := by
  rw [unifyLineEnds, if_pos rfl]
  rintro r - rfl
  exact hs rfl

theorem OneLine.unifyLineEnds_append {t : Text} (ht : OneLine t) (s : Text) :
    unifyLineEnds (t ++ s) = t ++ unifyLineEnds s := by
  induction t with
  | nil => rfl
  | cons c t ih =>
    rw [List.cons_append, unifyLineEnds_cons (ht c (List.mem_cons_self ..)).2,
      ih fun d hd => ht d (List.mem_cons_of_mem _ hd), List.cons_append]

/-- Line ends are made one kind on both sides of a place that does not lie within one. -/
theorem unifyLineEnds_append (t : Text) {s : Text} (hs : s.head? ≠ some '\n') :
    unifyLineEnds (t ++ s) = unifyLineEnds t ++ unifyLineEnds s := by
  fun_induction unifyLineEnds t with
  | case1 => rfl
  | case2 t ih => rw [List.cons_append, List.cons_append, unifyLineEnds, ih, List.cons_append]
  | case3 c t hreturn ih =>
    by_cases hc : c = '\r'
    · subst hc
      rw [List.cons_append, unifyLineEnds_return, ih, if_pos rfl, List.cons_append]
      cases t with
      | nil => exact hs
      | cons d t =>
        rintro hd
        cases hd
        exact hreturn t rfl rfl
    · rw [List.cons_append, unifyLineEnds_cons hc, ih, if_neg hc, List.cons_append]

theorem head?_unifyLineEnds {c : Char} (hc : c = '\n' ∨ c = '\r') (s : Text) :
    (unifyLineEnds (c :: s)).head? = some '\n' := by
  rcases hc with rfl | rfl
  · rfl
  · by_cases hs : s.head? = some '\n'
    · obtain ⟨r, rfl⟩ := List.head?_eq_some_iff.1 hs
      rfl
    · rw [unifyLineEnds_return hs]
      rfl

theorem head?_of_unifyLineEnds {b : Char} (hb : b ≠ '\n') {t : Text} (h : (unifyLineEnds t).head? = some b) :
    t.head? = some b := by
  cases t with
  | nil => cases h
  | cons c t =>
    by_cases hc : c = '\r'
    · rw [head?_unifyLineEnds (.inr hc)] at h
      exact absurd (Option.some.inj h).symm hb
    · rw [unifyLineEnds_cons hc] at h
      exact h

/-- No two neighbours come about unless one of them is a line end. -/
theorem infix_of_unifyLineEnds {a b : Char} (ha : a ≠ '\n') (hb : b ≠ '\n') {t : Text}
    (h : [a, b] <:+: unifyLineEnds t) : [a, b] <:+: t := by
  fun_induction unifyLineEnds t with
  | case1 => exact h
  | case2 t ih =>
    rcases List.infix_cons_iff.1 h with h | h
    · exact absurd (List.cons_prefix_cons.1 h).1 ha
    · exact (ih h).trans (List.suffix_append ['\r', '\n'] t).isInfix
  | case3 c t _ ih =>
    rcases List.infix_cons_iff.1 h with h | h
    · obtain ⟨hac, r, hr⟩ := List.cons_prefix_cons.1 h
      obtain ⟨s, rfl⟩ := List.head?_eq_some_iff.1 (head?_of_unifyLineEnds hb (t := t) (by rw [← hr]; rfl))
      split at hac
      · exact absurd hac ha
      · rw [hac]
        exact (List.prefix_append [c, b] s).isInfix
    · exact (ih h).trans (List.suffix_cons c t).isInfix

end Text
end ViewAtlas
