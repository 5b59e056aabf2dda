import Mathlib.Data.List.Basic
import ViewAtlas.Script.Lexeme
import ViewAtlas.Script.Literal
/-!
# What literals denote

Between its quotes a string, or a template without substitutions, is a row of pieces (`Spelled`), and each piece stands
for UTF-16 code units.  The text with these units, where there is one, is what the literal denotes (`Denotes`).

Its tree gives the text in which each backslash is undone with the one character after it (`Piece.asRead`).  That is
what the literal denotes exactly when all its pieces are handled (`Denotes.asRead_eq_iff`): none is an escape by the
number of a character, and no line ends in it by anything but a line feed, be it in the text or after a backslash.
-/
namespace ViewAtlas

namespace Text

/-- The UTF-16 code units of a code point. -/
def codeUnits (n : Nat) : List Nat :=
  if n < 0x10000 then [n] else [0xD800 + (n - 0x10000) / 0x400, 0xDC00 + (n - 0x10000) % 0x400]

/-- **The UTF-16 code units of a text.** -/
def utf16 (s : Text) : List Nat := s.flatMap fun c => codeUnits c.toNat

@[simp] theorem utf16_nil : utf16 [] = [] := rfl

@[simp] theorem utf16_cons (c : Char) (s : Text) : utf16 (c :: s) = codeUnits c.toNat ++ utf16 s := List.flatMap_cons

@[simp] theorem utf16_append (s t : Text) : utf16 (s ++ t) = utf16 s ++ utf16 t := List.flatMap_append

theorem length_codeUnits_pos (n : Nat) : 0 < (codeUnits n).length := by unfold codeUnits; split <;> simp

theorem length_codeUnits_le (n : Nat) : (codeUnits n).length ≤ 2 := by unfold codeUnits; split <;> simp

theorem length_le_utf16 (s : Text) : s.length ≤ s.utf16.length := by
  induction s with
  | nil => exact Nat.le_refl 0
  | cons c s ih =>
    have hpos := length_codeUnits_pos c.toNat
    rw [utf16_cons, List.length_append, List.length_cons]
    omega

theorem toNat_not_surrogate (c : Char) : c.toNat < 0xD800 ∨ 0xDFFF < c.toNat ∧ c.toNat < 0x110000 := c.valid

theorem codeUnits_append_inj {c d : Char} {us vs : List Nat}
    (h : codeUnits c.toNat ++ us = codeUnits d.toNat ++ vs) : c = d ∧ us = vs := by
  have hc := toNat_not_surrogate c
  have hd := toNat_not_surrogate d
  suffices hnum : c.toNat = d.toNat by
    obtain rfl := Char.toNat_inj.1 hnum
    exact ⟨rfl, List.append_cancel_left h⟩
  unfold codeUnits at h
  split at h <;> split at h <;> simp only [List.cons_append, List.nil_append, List.cons.injEq] at h <;> omega

theorem utf16_inj {s t : Text} (h : s.utf16 = t.utf16) : s = t := by
  induction s generalizing t with
  | nil =>
    have hlen := length_le_utf16 t
    rw [← h] at hlen
    exact (List.eq_nil_of_length_eq_zero (Nat.le_zero.1 hlen)).symm
  | cons c s ih =>
    cases t with
    | nil =>
      have hlen := length_le_utf16 (c :: s)
      rw [h] at hlen
      exact absurd hlen (Nat.not_succ_le_zero _)
    | cons d t =>
      obtain ⟨rfl, hrest⟩ := codeUnits_append_inj h
      rw [ih hrest]

end Text

namespace Script

inductive Piece where
  | char (c : Char)
  /-- The end of a line in a template. -/
  | lineEnd (s : Text)
  /-- A backslash and a character that is not part of a number. -/
  | escape (c : Char)
  | nul
  /-- A backslash and a digit, where they are not NUL. -/
  | digit (d : Char)
  /-- A code unit by two digits. -/
  | byte (ds : Text)
  /-- A code unit by four digits. -/
  | unit (ds : Text)
  /-- A code point by its digits. -/
  | point (ds : Text)
  /-- A backslash and the end of a line. -/
  | continuation (s : Text)
  deriving DecidableEq, Repr

/-- The ends of lines in a text: a line feed, a carriage return, or both. -/
def IsBreak (rest s : Text) : Prop := s = ['\n'] ∨ s = ['\r', '\n'] ∨ s = ['\r'] ∧ rest.head? ≠ some '\n'

/-- What a letter after a backslash stands for: a control character, or itself. -/
def escapedChar (c : Char) : Char :=
  match c with
  | 'b' => '\x08'
  | 't' => '\t'
  | 'n' => '\n'
  | 'v' => '\x0b'
  | 'f' => '\x0c'
  | 'r' => '\r'
  | c => c

namespace Piece

def text : Piece → Text
  | char c => [c]
  | lineEnd s => s
  | escape c => ['\\', c]
  | nul => ['\\', '0']
  | digit d => ['\\', d]
  | byte ds => '\\' :: 'x' :: ds
  | unit ds => '\\' :: 'u' :: ds
  | point ds => '\\' :: 'u' :: '{' :: (ds ++ ['}'])
  | continuation s => '\\' :: s

/-- **Whether a piece may stand** between such quotes before the rest of the literal. -/
def Fits (quote : Char) (rest : Text) : Piece → Prop
  | char c => c ∉ [quote, '\\', '\n', '\r'] ∧ ¬ (quote = '\x60' ∧ c = '$' ∧ rest.head? = some '{')
  | lineEnd s => quote = '\x60' ∧ IsBreak rest s
  | escape c => c.isDigit = false ∧ c ∉ ['u', 'x'] ∧ isLineEnd c = false
  | nul => ∀ d ∈ rest.head?, d.isDigit = false
  | digit d => d.isDigit = true ∧ (d = '0' → ∃ e ∈ rest.head?, e.isDigit = true)
  | byte ds => ds.length = 2 ∧ ds.all isHexDigit = true
  | unit ds => ds.length = 4 ∧ ds.all isHexDigit = true
  | point ds => ds ≠ [] ∧ ds.all isHexDigit = true
  | continuation s => IsBreak rest s ∨ s = ['\u2028'] ∨ s = ['\u2029']

/-- Whether a piece stands for anything: there is a code point of its number.  But for NUL, no module may hold a backslash
before a digit. -/
def HasUnits : Piece → Prop
  | digit _ => False
  | point ds => Text.readDigits 16 ds ≤ 0x10FFFF
  | _ => True

def units : Piece → List Nat
  | char c => Text.codeUnits c.toNat
  | lineEnd _ => ['\n'.toNat]
  | escape c => Text.codeUnits (escapedChar c).toNat
  | nul => [0]
  | digit _ => []
  | byte ds => [Text.readDigits 16 ds]
  | unit ds => [Text.readDigits 16 ds]
  | point ds => Text.codeUnits (Text.readDigits 16 ds)
  | continuation _ => []

/-- What a piece is read as. -/
def asRead : Piece → Text
  | char c => [c]
  | lineEnd s => s
  | escape c => [escapedChar c]
  | nul => ['\x00']
  | digit d => if d = '0' then ['\x00'] else [d]
  | byte ds => 'x' :: ds
  | unit ds => 'u' :: ds
  | point ds => 'u' :: '{' :: (ds ++ ['}'])
  | continuation s => if s = ['\n'] then [] else s

def Handled : Piece → Prop
  | byte _ | unit _ | point _ => False
  | lineEnd s | continuation s => s = ['\n']
  | _ => True

end Piece

def textOf (ps : List Piece) : Text := ps.flatMap Piece.text

@[simp] theorem textOf_nil : textOf [] = [] := rfl

@[simp] theorem textOf_cons (p : Piece) (ps : List Piece) : textOf (p :: ps) = p.text ++ textOf ps := List.flatMap_cons

def readAs (ps : List Piece) : Text := ps.flatMap Piece.asRead

theorem readAs_cons (p : Piece) (ps : List Piece) : readAs (p :: ps) = p.asRead ++ readAs ps := List.flatMap_cons

/-- **A row of pieces between quotes.** -/
def Spelled (quote : Char) : List Piece → Prop
  | [] => True
  | p :: ps => p.Fits quote (textOf ps) ∧ Spelled quote ps

/-- **What a row of pieces denotes**: the text with their code units.  There is none where a surrogate stands alone. -/
structure Denotes (ps : List Piece) (v : Text) : Prop where
  hasUnits : ∀ p ∈ ps, p.HasUnits
  units : v.utf16 = ps.flatMap Piece.units

example : Denotes [.unit ['d', '8', '3', 'd'], .unit ['d', 'e', '0', '0']] [Char.ofNat 0x1f600] :=
  ⟨by simp [Piece.HasUnits], by decide⟩

variable {quote : Char} {p : Piece} {ps : List Piece} {rest v : Text}

/-! ## What is read -/

theorem unescape_cons {c : Char} (hc : c ≠ '\\') (s : Text) : unescape (c :: s) = c :: unescape s := by
  cases s with
  | nil => rfl
  | cons d s => rw [unescape, if_neg hc]

theorem unescape_plain : ∀ {s : Text}, '\\' ∉ s → ∀ t, unescape (s ++ t) = s ++ unescape t
  | [], _, _ => rfl
  | c :: s, h, t => by
    rw [List.mem_cons, not_or] at h
    rw [List.cons_append, unescape_cons (Ne.symm h.1), unescape_plain h.2, List.cons_append]

theorem unescape_backslash (c : Char) (s : Text) : unescape ('\\' :: c :: s) = unescapeChar c ++ unescape s := by
  rw [unescape, if_pos rfl]

theorem not_mem_of_all_isHexDigit {ds : Text} (h : ds.all isHexDigit = true) : '\\' ∉ ds := fun hmem =>
  absurd (List.all_eq_true.1 h _ hmem) (by decide)

theorem unescapeChar_escape {c : Char} (hdigit : c.isDigit = false) (hline : isLineEnd c = false) :
    unescapeChar c = [escapedChar c] := by
  have hzero : c ≠ '0' := by rintro rfl; exact absurd hdigit (by decide)
  have hfeed : c ≠ '\n' := by rintro rfl; exact absurd hline (by decide)
  unfold unescapeChar escapedChar
  split_ifs <;> grind

theorem unescapeChar_digit {d : Char} (h : d.isDigit = true) : unescapeChar d = if d = '0' then ['\x00'] else [d] := by
  have hne : ∀ c ∈ ['n', 't', 'r', 'b', 'f', 'v', '\n'], d ≠ c := by
    rintro c hc rfl
    exact absurd h (Text.forall_mem_of_all (p := fun c => ¬ c.isDigit = true) (by decide) d hc)
  simp only [List.forall_mem_cons] at hne
  simp [unescapeChar, hne]

theorem Piece.Fits.unescape (h : p.Fits quote rest) (s : Text) : unescape (p.text ++ s) = p.asRead ++ unescape s := by
  cases p with
  | char c =>
    have hc : '\\' ≠ c := fun heq => h.1 (by simp [← heq])
    exact unescape_plain (by simpa [text] using hc) s
  | lineEnd x =>
    refine unescape_plain ?_ s
    rcases h.2 with rfl | rfl | ⟨rfl, -⟩ <;> decide
  | escape c =>
    change Script.unescape ('\\' :: c :: s) = _
    rw [unescape_backslash, unescapeChar_escape h.1 h.2.2, asRead]
  | nul => exact unescape_backslash '0' s
  | digit d =>
    change Script.unescape ('\\' :: d :: s) = _
    rw [unescape_backslash, unescapeChar_digit h.1, asRead]
  | byte ds =>
    change Script.unescape ('\\' :: 'x' :: (ds ++ s)) = _
    rw [unescape_backslash, unescape_plain (not_mem_of_all_isHexDigit h.2)]
    rfl
  | unit ds =>
    change Script.unescape ('\\' :: 'u' :: (ds ++ s)) = _
    rw [unescape_backslash, unescape_plain (not_mem_of_all_isHexDigit h.2)]
    rfl
  | point ds =>
    have hplain : '\\' ∉ '{' :: (ds ++ ['}']) := by simp [not_mem_of_all_isHexDigit h.2]
    change Script.unescape ('\\' :: 'u' :: ('{' :: (ds ++ ['}']) ++ s)) = _
    rw [unescape_backslash, unescape_plain hplain]
    rfl
  | continuation x =>
    rcases h with (rfl | rfl | ⟨rfl, -⟩) | rfl | rfl
    · exact unescape_backslash '\n' s
    · change Script.unescape ('\\' :: '\r' :: '\n' :: s) = _
      rw [unescape_backslash, unescape_cons (by decide)]
      rfl
    · exact unescape_backslash '\r' s
    · exact unescape_backslash '\u2028' s
    · exact unescape_backslash '\u2029' s

/-- **A row of pieces is read piece by piece.** -/
theorem Spelled.unescape : ∀ {ps : List Piece}, Spelled quote ps → unescape (textOf ps) = readAs ps
  | [], _ => rfl
  | p :: ps, h => by rw [textOf_cons, h.1.unescape, h.2.unescape, readAs_cons]

/-! ## What is read rightly -/

theorem Piece.Fits.units_le (h : p.Fits quote rest) : p.units.length ≤ p.asRead.utf16.length := by
  cases p with
  | char c => simp [units, asRead]
  | lineEnd s => rcases h.2 with rfl | rfl | ⟨rfl, -⟩ <;> decide
  | escape c => simp [units, asRead]
  | nul => decide
  | digit d => exact Nat.zero_le _
  | byte ds | unit ds => exact Nat.le_trans (by simp [units, asRead]) (Text.length_le_utf16 _)
  | point ds =>
    have hunits := Text.length_codeUnits_le (Text.readDigits 16 ds)
    refine Nat.le_trans hunits (Nat.le_trans ?_ (Text.length_le_utf16 _))
    simp [asRead]
  | continuation s => exact Nat.zero_le _

theorem Spelled.units_le : ∀ {ps : List Piece}, Spelled quote ps →
    (ps.flatMap Piece.units).length ≤ (readAs ps).utf16.length
  | [], _ => Nat.le_refl 0
  | p :: ps, h => by
    rw [List.flatMap_cons, readAs_cons, Text.utf16_append, List.length_append, List.length_append]
    exact Nat.add_le_add h.1.units_le h.2.units_le

theorem utf16_ne_of_length {s : Text} {us : List Nat} (h : us.length < s.length) : s.utf16 ≠ us := fun heq =>
  Nat.not_le.2 h (heq ▸ Text.length_le_utf16 s)

/-- **A piece is read rightly exactly when it is handled.** -/
theorem Piece.Fits.asRead_iff (h : p.Fits quote rest) (hunits : p.HasUnits) : p.asRead.utf16 = p.units ↔ p.Handled := by
  cases p with
  | char c => simp [units, asRead, Handled]
  | lineEnd s => rcases h.2 with rfl | rfl | ⟨rfl, -⟩ <;> simp [units, asRead, Handled, Text.codeUnits]
  | escape c => simp [units, asRead, Handled]
  | nul => simp [units, asRead, Handled, Text.codeUnits]
  | digit d => exact hunits.elim
  | byte ds | unit ds =>
    have hlen : 1 < ds.length + 1 := by
      have := h.1
      omega
    exact iff_of_false (utf16_ne_of_length hlen) id
  | point ds =>
    have htwo := Text.length_codeUnits_le (Text.readDigits 16 ds)
    have hlen : (units (point ds)).length < (asRead (point ds)).length := by
      simp only [units, asRead, List.length_cons, List.length_append]
      omega
    exact iff_of_false (utf16_ne_of_length hlen) id
  | continuation s =>
    have hnone : ∀ {x : Text}, x ≠ [] → x.utf16 ≠ [] := fun hx =>
      utf16_ne_of_length (List.length_pos_iff.2 hx)
    rcases h with (rfl | rfl | ⟨rfl, -⟩) | rfl | rfl
    · exact iff_of_true rfl rfl
    all_goals exact iff_of_false (hnone (by decide)) (by simp [Handled])

theorem Spelled.asRead_iff : ∀ {ps : List Piece}, Spelled quote ps → (∀ p ∈ ps, p.HasUnits) →
    ((readAs ps).utf16 = ps.flatMap Piece.units ↔ ∀ p ∈ ps, p.Handled)
  | [], _, _ => by simp [readAs]
  | p :: ps, h, hunits => by
    rw [List.forall_mem_cons] at hunits
    have hhead := h.1.asRead_iff hunits.1
    have htail := h.2.asRead_iff hunits.2
    rw [List.forall_mem_cons, ← hhead, ← htail, readAs_cons, List.flatMap_cons, Text.utf16_append]
    refine ⟨fun heq => ?_, fun ⟨hp, hps⟩ => by rw [hp, hps]⟩
    -- no piece is read as fewer units than it stands for, so here each is read as just as many
    have hle := h.2.units_le
    have hlen := congrArg List.length heq
    rw [List.length_append, List.length_append] at hlen
    exact List.append_inj heq (by have := h.1.units_le; omega)

/-- **What is read is what the literal denotes exactly when all its pieces are handled.** -/
theorem Denotes.asRead_eq_iff (h : Denotes ps v) (hps : Spelled quote ps) :
    readAs ps = v ↔ ∀ p ∈ ps, p.Handled := by
  rw [← hps.asRead_iff h.hasUnits, ← h.units]
  exact ⟨congrArg Text.utf16, Text.utf16_inj⟩

end Script
end ViewAtlas
