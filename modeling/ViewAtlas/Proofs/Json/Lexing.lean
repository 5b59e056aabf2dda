import Mathlib.Data.List.Chain
import Mathlib.Data.List.TakeWhile
import ViewAtlas.Proofs.Json.Writing
/-!
# Reading what is spelled

Every token is read from its spelling and leaves what follows it, when a number is not followed by what would
lengthen it (`Spelled.tokenAt`).  So a document without comments has the tokens that it was written of
(`tokensFrom_woven`).
-/
namespace ViewAtlas
namespace Json

/-! ## Texts -/

theorem codeUnit?_digits {n : Nat} {digits s : Text} (h : WritesUnit n digits) (hs : s ≠ []) :
    codeUnit? (digits ++ s) = some (n, s) := by
  obtain ⟨hlength, hhex, hvalue⟩ := h
  match digits, hlength with
  | [a, b, c, d], _ =>
    simp only [List.forall_mem_cons, Option.isSome_iff_exists] at hhex
    obtain ⟨⟨x, hx⟩, ⟨y, hy⟩, ⟨z, hz⟩, ⟨w, hw⟩, -⟩ := hhex
    obtain ⟨e, r, rfl⟩ := List.exists_cons_of_ne_nil hs
    simp only [Text.readDigits, List.foldl_cons, List.foldl_nil, hx, hy, hz, hw] at hvalue
    simp [codeUnit?, hx, hy, hz, hw, ← hvalue]

theorem codePoint?_unit {n : Nat} {digits s : Text} (h : WritesUnit n digits) (hhalf : ¬ (0xD800 ≤ n ∧ n ≤ 0xDFFF))
    (hs : s ≠ []) : codePoint? (digits ++ s) = some (Char.ofNat n, s) := by
  simp only [codePoint?, codeUnit?_digits h hs, if_neg hhalf]

theorem codePoint?_pair {high low : Nat} {highDigits lowDigits s : Text} (hhigh : WritesUnit high highDigits)
    (hlow : WritesUnit low lowDigits) (hhighHalf : 0xD800 ≤ high ∧ high ≤ 0xDBFF)
    (hlowHalf : 0xDC00 ≤ low ∧ low ≤ 0xDFFF) (hs : s ≠ []) :
    codePoint? (highDigits ++ '\\' :: 'u' :: (lowDigits ++ s)) =
      some (Char.ofNat (0x10000 + (high - 0xD800) * 0x400 + (low - 0xDC00)), s) := by
  have hany : 0xD800 ≤ high ∧ high ≤ 0xDFFF := ⟨hhighHalf.1, Nat.le_trans hhighHalf.2 (by decide)⟩
  have hhalf : lowHalf? ('\\' :: 'u' :: (lowDigits ++ s)) = some (low, s) := by
    simp only [lowHalf?, codeUnit?_digits hlow hs, if_pos hlowHalf]
  simp only [codePoint?, codeUnit?_digits hhigh (List.cons_ne_nil _ _), if_pos hany, if_pos hhighHalf.2, hhalf]

theorem shortEscape?_of_mem {letter c : Char} (h : (letter, c) ∈ shortEscapes) :
    shortEscape? letter = some c ∧ letter ≠ 'u' := by
  have hall : ∀ e ∈ shortEscapes, shortEscape? e.1 = some e.2 ∧ e.1 ≠ 'u' := by decide
  exact hall _ h

theorem quotedFrom_unit {whole s r : Text} {c : Char} (h : codePoint? s = some (c, r)) :
    quotedFrom whole ('\\' :: 'u' :: s) = (quotedFrom whole r).map fun p => (c :: p.1, p.2) := by
  rw [quotedFrom.eq_def]
  simp only [Char.reduceEq, if_false, if_true]
  split
  · rename_i hnone
    rw [h] at hnone
    cases hnone
  · rename_i hsome
    rw [h] at hsome
    cases hsome
    rfl

theorem CharSpelled.quotedFrom_append {c : Char} {a s : Text} (h : CharSpelled c a) (whole : Text) (hs : s ≠ []) :
    quotedFrom whole (a ++ s) = (quotedFrom whole s).map fun p => (c :: p.1, p.2) := by
  cases h with
  | plain hvisible hquote hbackslash =>
    rw [List.singleton_append, quotedFrom.eq_def]
    simp only [if_neg hquote, if_neg hbackslash, if_neg (Nat.not_lt.2 hvisible)]
  | @short letter _ h =>
    obtain ⟨hescape, hu⟩ := shortEscape?_of_mem h
    rw [List.cons_append, List.singleton_append, quotedFrom.eq_def]
    simp only [Char.reduceEq, if_false, if_true, if_neg hu, hescape]
  | unit hdigits hhalf => exact quotedFrom_unit (codePoint?_unit hdigits hhalf hs)
  | pair hhigh hlow hhighHalf hlowHalf =>
    simp only [List.cons_append, List.append_assoc]
    exact quotedFrom_unit (codePoint?_pair hhigh hlow hhighHalf hlowHalf hs)

theorem TextSpelled.quotedFrom_close {t body : Text} (h : TextSpelled t body) (whole s : Text) :
    quotedFrom whole (body ++ '"' :: s) = .ok (t, s) := by
  induction h with
  | nil =>
    rw [List.nil_append, quotedFrom.eq_def]
    exact if_pos rfl
  | cons hchar _ ih =>
    rw [List.append_assoc, hchar.quotedFrom_append whole (by simp), ih]
    rfl

/-! ## Numbers -/

/-- What may follow a number: nothing that would lengthen it. -/
def EndsNumber (s : Text) : Prop := ∀ c ∈ s.head?, c.isDigit = false ∧ c ≠ '.' ∧ c ≠ 'e' ∧ c ≠ 'E'

theorem EndsNumber.fractionPart {s : Text} (h : EndsNumber s) : fractionPart s = ([], s) := by
  unfold Json.fractionPart
  split
  · exact absurd rfl (h '.' rfl).2.1
  · rfl

theorem EndsNumber.exponentPart {s : Text} (h : EndsNumber s) : exponentPart s = (none, s) := by
  cases s with
  | nil => rfl
  | cons c r =>
    have hc := (h c rfl).2.2
    rw [Json.exponentPart.eq_def]
    simp only [hc.1, hc.2, or_self, if_false]

theorem spanDigits_append {digits s : Text} (hdigits : ∀ c ∈ digits, c.isDigit = true) (hs : EndsNumber s) :
    spanDigits (digits ++ s) = (digits, s) := by
  have hhead : ∀ c ∈ s.head?, c.isDigit = false := fun c hc => (hs c hc).1
  rw [spanDigits, Text.takeWhile_append_of_head hhead, Text.dropWhile_append_of_head hhead,
    List.takeWhile_eq_self_iff.2 hdigits, List.dropWhile_eq_nil_iff.2 hdigits, List.nil_append]

theorem IntSpelled.wholePart?_append {n : Int} {negative : Bool} {digits s : Text} (h : IntSpelled n negative digits)
    (hs : EndsNumber s) : wholePart? (digits ++ s) = some (digits, s) := by
  obtain ⟨c, rest, rfl⟩ := List.exists_cons_of_ne_nil h.nonempty
  have hrest : ∀ d ∈ rest, d.isDigit = true := fun d hd => h.decimal d (List.mem_cons_of_mem _ hd)
  rw [List.cons_append, wholePart?]
  split
  · rename_i hc
    have hzero := h.leading (by rw [hc]; rfl)
    cases hzero
    rfl
  · rw [if_pos (h.decimal c (List.mem_cons_self ..)), spanDigits_append hrest hs]

theorem number?_sign {negative : Bool} {s whole r : Text} (hsign : s.head? ≠ some '-')
    (hwhole : wholePart? s = some (whole, r)) (hr : EndsNumber r) :
    number? ((if negative then ['-'] else []) ++ s) = some (numberToken negative whole [] none, r) := by
  cases negative with
  | true =>
    change number? ('-' :: s) = _
    unfold number?
    simp only [hwhole, hr.fractionPart, hr.exponentPart]
  | false =>
    change number? s = _
    unfold number?
    split
    rename_i b t hb
    split at hb
    · exact absurd rfl hsign
    · cases hb
      simp only [hwhole, hr.fractionPart, hr.exponentPart]

theorem IntSpelled.number?_append {n : Int} {negative : Bool} {digits s : Text} (h : IntSpelled n negative digits)
    (hs : EndsNumber s) :
    number? ((if negative then ['-'] else []) ++ (digits ++ s)) = some (.plain (.int n), s) := by
  have hshort : ¬ Text.mostDigits < digits.length := Nat.not_lt.2 (Nat.le_of_lt h.short)
  have htoken : numberToken negative digits [] none = .plain (.int n) := by
    rw [numberToken, if_pos ⟨rfl, rfl⟩, if_neg hshort, h.value]
  have hsign : (digits ++ s).head? ≠ some '-' := by
    obtain ⟨c, rest, rfl⟩ := List.exists_cons_of_ne_nil h.nonempty
    have hc := h.decimal c (List.mem_cons_self ..)
    rintro hsign
    cases hsign
    exact absurd hc (by decide)
  rw [number?_sign hsign (h.wholePart?_append hs) hs, htoken]

/-! ## Tokens -/

def Token.isMark : Token → Bool
  | .openList | .closeList | .openRecord | .closeRecord | .comma | .colon => true
  | _ => false

def markChars : Text := "[]\x7b\x7d,:".toList

def wordChars : Text := "nulltruefalse-0123456789".toList

theorem mem_of_isDigit {c : Char} (h : c.isDigit = true) : c ∈ "0123456789".toList := by
  have hall : ∀ n < 58, 48 ≤ n → Char.ofNat n ∈ "0123456789".toList := by decide
  simp only [Char.isDigit, Bool.and_eq_true, decide_eq_true_eq] at h
  have hc := hall c.toNat (Nat.lt_succ_of_le (UInt32.le_iff_toNat_le.1 h.2)) (UInt32.le_iff_toNat_le.1 h.1)
  rwa [Char.ofNat_toNat] at hc

/-- **What the spelling of a token looks like**: one character that is a mark, a text between quotes, or characters of
names and numbers. -/
theorem Spelled.shape {t : Token} {l : Text} (h : Spelled t l) :
    (t.isMark = true ∧ ∃ c ∈ markChars, mark? c = some t ∧ l = [c]) ∨
      (∃ s body, t = .text s ∧ TextSpelled s body ∧ l = '"' :: (body ++ ['"'])) ∨
      (t.isMark = false ∧ l ≠ [] ∧ ∀ c ∈ l, c ∈ wordChars) := by
  cases h with
  | text h => exact .inr (.inl ⟨_, _, rfl, h, rfl⟩)
  | null => exact .inr (.inr ⟨rfl, by decide, Text.forall_mem_of_all (by decide)⟩)
  | yes => exact .inr (.inr ⟨rfl, by decide, Text.forall_mem_of_all (by decide)⟩)
  | no => exact .inr (.inr ⟨rfl, by decide, Text.forall_mem_of_all (by decide)⟩)
  | @int n negative digits h =>
    refine .inr (.inr ⟨rfl, List.append_ne_nil_of_right_ne_nil _ h.nonempty, List.forall_mem_append.2 ⟨?_, ?_⟩⟩)
    · cases negative <;> exact Text.forall_mem_of_all (by decide)
    · exact fun c hc => List.mem_append_right "nulltruefalse-".toList (mem_of_isDigit (h.decimal c hc))
  | _ => exact .inl ⟨rfl, _, by decide, rfl, rfl⟩

theorem Spelled.head {t : Token} {l : Text} (h : Spelled t l) :
    ∃ c r, l = c :: r ∧ c ∈ markChars ++ '"' :: wordChars := by
  rcases h.shape with ⟨-, c, hc, -, rfl⟩ | ⟨s, body, -, -, rfl⟩ | ⟨-, hne, hall⟩
  · exact ⟨c, [], rfl, List.mem_append_left _ hc⟩
  · exact ⟨'"', _, rfl, by decide⟩
  · obtain ⟨c, r, rfl⟩ := List.exists_cons_of_ne_nil hne
    exact ⟨c, r, rfl, List.mem_append_right _ (List.mem_cons_of_mem _ (hall c (List.mem_cons_self ..)))⟩

theorem named?_eq_none {c : Char} (hc : c.isDigit = true) (s : Text) :
    named? (c :: s) = none ∧ named? ('-' :: c :: s) = none := by
  have hne : ∀ d ∈ "ntfNI-".toList, d ≠ c := by
    have hall : ∀ d ∈ "ntfNI-".toList, d.isDigit = false := Text.forall_mem_of_all (by decide)
    rintro d hd rfl
    rw [hall d hd] at hc
    cases hc
  simp only [String.reduceToList, List.forall_mem_cons] at hne
  obtain ⟨hn, ht, hf, hN, hI, hminus, -⟩ := hne
  simp [named?, namedValues, Text.after?, hn, ht, hf, hN, hI, hminus]

theorem IntSpelled.tokenAt {n : Int} {negative : Bool} {digits s : Text} (h : IntSpelled n negative digits)
    (hs : EndsNumber s) (offset : Nat) :
    ∃ c r, (if negative then ['-'] else []) ++ digits = c :: r ∧ tokenAt offset c (r ++ s) = (.plain (.int n), s) := by
  have hnumber := h.number?_append hs
  have hread : ∀ {c : Char} {r : Text}, mark? c = none → c ≠ '"' → named? (c :: r) = none →
      number? (c :: r) = some (.plain (.int n), s) → Json.tokenAt offset c r = (.plain (.int n), s) := by
    intro c r hmark hquote hnamed hnumber
    simp only [Json.tokenAt, hmark, if_neg hquote, hnamed, hnumber, Option.getD_some]
  obtain ⟨c, rest, rfl⟩ := List.exists_cons_of_ne_nil h.nonempty
  have hc := h.decimal c (List.mem_cons_self ..)
  have hall : ∀ d ∈ "0123456789".toList, mark? d = none ∧ d ≠ '"' := Text.forall_mem_of_all (by decide)
  cases negative with
  | true => exact ⟨'-', c :: rest, rfl, hread rfl (by decide) (named?_eq_none hc _).2 hnumber⟩
  | false =>
    obtain ⟨hmark, hquote⟩ := hall c (mem_of_isDigit hc)
    exact ⟨c, rest, rfl, hread hmark hquote (named?_eq_none hc _).1 hnumber⟩

/-- **A token is read from its spelling**, whatever follows a mark or a text, and when nothing follows that would
lengthen a number. -/
theorem Spelled.tokenAt {t : Token} {l s : Text} (h : Spelled t l) (hs : t.isMark = false → EndsNumber s) (offset : Nat) :
    ∃ c r, l = c :: r ∧ tokenAt offset c (r ++ s) = (t, s) := by
  cases h with
  | int h => exact h.tokenAt (hs rfl) offset
  | @text t body h =>
    refine ⟨_, _, rfl, ?_⟩
    have hquoted := h.quotedFrom_close ('"' :: (body ++ '"' :: s)) s
    rw [List.append_assoc, List.singleton_append, Json.tokenAt]
    have hmark : mark? '"' = none := rfl
    simp only [hmark, if_true, hquoted]
  | _ => exact ⟨_, _, rfl, rfl⟩

/-! ## Documents without comments -/

theorem tokensFrom_blank {b : Text} (hb : Blank b) : ∀ (offset : Nat) (s : Text),
    ∃ offset', tokensFrom offset (b ++ s) = tokensFrom offset' s := by
  induction b with
  | nil => exact fun offset s => ⟨offset, rfl⟩
  | cons c b ih =>
    intro offset s
    rw [List.cons_append, tokensFrom, if_pos (hb c (List.mem_cons_self ..))]
    exact ih (fun d hd => hb d (List.mem_cons_of_mem _ hd)) (offset + 1) s

/-- Neighbours of which one is a mark. -/
def Separated (tokens : List Token) : Prop := tokens.IsChain fun a b => a.isMark = true ∨ b.isMark = true

theorem mem_of_isGap {c : Char} (h : isGap c = true) : c ∈ " \t\n\r".toList := by
  simpa [isGap, or_assoc] using h

theorem endsNumber_of_head {s : Text} (h : ∀ c ∈ s.head?, isGap c = true ∨ c ∈ markChars) : EndsNumber s := by
  have hall : ∀ c ∈ " \t\n\r".toList ++ markChars, c.isDigit = false ∧ c ≠ '.' ∧ c ≠ 'e' ∧ c ≠ 'E' := Text.forall_mem_of_all (by decide)
  intro c hc
  rcases h c hc with hgap | hmark
  · exact hall c (List.mem_append_left _ (mem_of_isGap hgap))
  · exact hall c (List.mem_append_right _ hmark)

theorem Woven.endsNumber {tokens : List Token} {lexemes : List Text} {s : Text} (h : Woven Blank Blank lexemes s)
    (hspelled : List.Forall₂ Spelled tokens lexemes) (hmark : ∀ t ∈ tokens.head?, t.isMark = true) : EndsNumber s := by
  refine endsNumber_of_head fun c hc => ?_
  cases h with
  | done h => exact .inl (h c (List.mem_of_mem_head? hc))
  | @more g l s ls hg h =>
    cases hspelled with
    | @cons t _ ts _ ht hts =>
      cases g with
      | nil =>
        rcases ht.shape with ⟨-, d, hd, -, rfl⟩ | ⟨s, body, rfl, -, -⟩ | ⟨hword, -, -⟩
        · cases hc
          exact .inr hd
        · exact absurd (hmark _ rfl) Bool.false_ne_true
        · exact absurd ((hmark t rfl).symm.trans hword) (by decide)
      | cons d g =>
        cases hc
        exact .inl (hg c (List.mem_cons_self ..))

/-- **A document has the tokens that it was written of.** -/
theorem tokensFrom_woven {lexemes : List Text} {s : Text} (h : Woven Blank Blank lexemes s) :
    ∀ {tokens : List Token}, List.Forall₂ Spelled tokens lexemes → Separated tokens → ∀ offset,
      (tokensFrom offset s).map (·.1) = tokens := by
  induction h with
  | done h =>
    intro tokens hspelled _ offset
    cases hspelled
    obtain ⟨offset', hb⟩ := tokensFrom_blank h offset []
    rw [List.append_nil] at hb
    rw [hb, tokensFrom]
    rfl
  | @more g l s ls hg h ih =>
    intro tokens hspelled hseparated offset
    cases hspelled with
    | @cons t _ ts _ ht hts =>
      rw [Separated, List.isChain_cons] at hseparated
      obtain ⟨offset', hb⟩ := tokensFrom_blank hg offset (l ++ s)
      have hs : t.isMark = false → EndsNumber s := fun hmark => h.endsNumber hts fun t' ht' =>
        (hseparated.1 t' ht').resolve_left (by rw [hmark]; exact Bool.false_ne_true)
      have hhead := ht.head
      obtain ⟨c, r, rfl, hread⟩ := ht.tokenAt hs offset'
      have hgap : isGap c = false := by
        have hall : ∀ c ∈ markChars ++ '"' :: wordChars, isGap c = false := Text.forall_mem_of_all (by decide)
        obtain ⟨_, _, hl, hc⟩ := hhead
        cases hl
        exact hall c hc
      rw [hb, List.cons_append, tokensFrom, hgap, if_neg Bool.false_ne_true, hread, List.map_cons,
        ih hts hseparated.2]

end Json
end ViewAtlas
