import ViewAtlas.Json.Value
import ViewAtlas.Text.Basic
/-!
# Tokens of documents

`tokensFrom` splits a document into tokens, each with its offset.  What is no token becomes a token of its own that
says what is wrong: whether that is a fault, and which, is for the reader of the tokens to say.
-/
namespace ViewAtlas
namespace Json

/-- **What is wrong with a document.** -/
inductive Reason where
  | valueExpected
  | nameExpected
  | colonExpected
  | commaExpected
  | moreAfterValue
  | unterminated
  | controlCharacter
  | badEscape
  | badCodePoint
  | byteOrderMark
  deriving DecidableEq, Repr

inductive Token where
  | openList
  | closeList
  | openRecord
  | closeRecord
  | comma
  | colon
  /-- A value that is no list, no record and no text. -/
  | plain (v : Value)
  | text (t : Text)
  /-- A text that is wrong at an offset. -/
  | wrong (reason : Reason) (offset : Nat)
  /-- A whole number with more digits than are read. -/
  | long (digits : Nat)
  | other
  deriving Repr

def isGap (c : Char) : Bool := c = ' ' || c = '\t' || c = '\n' || c = '\r'

/-! ## Texts -/

/-- The number that four hexadecimal digits write, and what follows them; something must follow. -/
def codeUnit? : Text → Option (Nat × Text)
  | a :: b :: c :: d :: e :: s =>
    match Text.hexValue? a, Text.hexValue? b, Text.hexValue? c, Text.hexValue? d with
    | some a, some b, some c, some d => some (((a * 16 + b) * 16 + c) * 16 + d, e :: s)
    | _, _, _, _ => none
  | _ => none

/-- The second half of a pair of code units that write one character, after the first half. -/
def lowHalf? : Text → Option (Nat × Text)
  | '\\' :: 'u' :: s =>
    match codeUnit? s with
    | some (n, r) => if 0xDC00 ≤ n ∧ n ≤ 0xDFFF then some (n, r) else none
    | none => none
  | _ => none

/-- The character that stands for half of a pair on its own. -/
def loneHalf : Char := '\uFFFD'

/-- The character that `\u` and what follows it write, and the rest. -/
def codePoint? (s : Text) : Option (Char × Text) :=
  match codeUnit? s with
  | none => none
  | some (n, r) =>
    if 0xD800 ≤ n ∧ n ≤ 0xDFFF then
      match if n ≤ 0xDBFF then lowHalf? r else none with
      | some (m, r) => some (Char.ofNat (0x10000 + (n - 0xD800) * 0x400 + (m - 0xDC00)), r)
      | none => some (loneHalf, r)
    else some (Char.ofNat n, r)

def shortEscape? (c : Char) : Option Char :=
  if c = '"' ∨ c = '\\' ∨ c = '/' then some c
  else if c = 'b' then some '\x08'
  else if c = 'f' then some '\x0c'
  else if c = 'n' then some '\n'
  else if c = 'r' then some '\r'
  else if c = 't' then some '\t'
  else none

theorem length_codeUnit? {s r : Text} {n : Nat} (h : codeUnit? s = some (n, r)) : r.length < s.length := by
  unfold codeUnit? at h
  split at h
  · split at h
    · simp only [Option.some.injEq, Prod.mk.injEq] at h
      rw [← h.2]
      simp only [List.length_cons]
      omega
    · simp at h
  · simp at h

theorem length_lowHalf? {s r : Text} {n : Nat} (h : lowHalf? s = some (n, r)) : r.length < s.length := by
  unfold lowHalf? at h
  split at h
  · split at h
    · rename_i h'
      split at h
      · simp only [Option.some.injEq, Prod.mk.injEq] at h
        have := length_codeUnit? h'
        rw [← h.2]
        simp only [List.length_cons]
        omega
      · simp at h
    · simp at h
  · simp at h

theorem length_codePoint? {s r : Text} {c : Char} (h : codePoint? s = some (c, r)) : r.length < s.length := by
  unfold codePoint? at h
  split at h
  · simp at h
  · rename_i n t hn
    have ht := length_codeUnit? hn
    split at h
    · split at h
      · rename_i m u hm
        simp only [Option.some.injEq, Prod.mk.injEq] at h
        split at hm
        · have := length_lowHalf? hm
          rw [← h.2]
          omega
        · simp at hm
      · simp only [Option.some.injEq, Prod.mk.injEq] at h
        rw [← h.2]
        exact ht
    · simp only [Option.some.injEq, Prod.mk.injEq] at h
      rw [← h.2]
      exact ht

/-- A text up to its closing quote, and what follows that; otherwise what is wrong and the part of the document from
there on.  `whole` is what an unfinished text is blamed on. -/
def quotedFrom (whole s : Text) : Except (Reason × Text) (Text × Text) :=
  match s with
  | [] => .error (.unterminated, whole)
  | c :: s =>
    if c = '"' then .ok ([], s)
    else if c = '\\' then
      match s with
      | [] => .error (.unterminated, whole)
      | d :: s =>
        if d = 'u' then
          match _h : codePoint? s with
          | none => .error (.badCodePoint, d :: s)
          | some (e, r) => (quotedFrom whole r).map fun p => (e :: p.1, p.2)
        else match shortEscape? d with
          | none => .error (.badEscape, c :: d :: s)
          | some e => (quotedFrom whole s).map fun p => (e :: p.1, p.2)
    else if c.toNat < 0x20 then .error (.controlCharacter, c :: s)
    else (quotedFrom whole s).map fun p => (c :: p.1, p.2)
termination_by s.length
decreasing_by
  all_goals try have := length_codePoint? _h
  all_goals simp only [List.length_cons]
  all_goals omega

theorem ok_of_map_ok {ε α β : Type} {x : Except ε α} {f : α → β} {b : β} (h : x.map f = .ok b) :
    ∃ a, x = .ok a ∧ f a = b := by
  cases x with
  | error e => simp [Except.map] at h
  | ok a => exact ⟨a, rfl, by simpa [Except.map] using h⟩

theorem length_quotedFrom {whole s t r : Text} (h : quotedFrom whole s = .ok (t, r)) : r.length < s.length := by
  fun_induction quotedFrom whole s generalizing t with
  | case1 => simp at h
  | case2 => simp_all
  | case3 => simp at h
  | case4 => simp at h
  | case5 s e rest he _ ih =>
    obtain ⟨p, hp, hr⟩ := ok_of_map_ok h
    have h1 := ih (t := p.1) (by rw [hp, ← (Prod.mk.inj hr).2])
    have h2 := length_codePoint? he
    simp only [List.length_cons]
    omega
  | case6 => simp at h
  | case7 d s _ e _ _ ih =>
    obtain ⟨p, hp, hr⟩ := ok_of_map_ok h
    have h1 := ih (t := p.1) (by rw [hp, ← (Prod.mk.inj hr).2])
    simp only [List.length_cons]
    omega
  | case8 => simp at h
  | case9 c s _ _ _ ih =>
    obtain ⟨p, hp, hr⟩ := ok_of_map_ok h
    have h1 := ih (t := p.1) (by rw [hp, ← (Prod.mk.inj hr).2])
    simp only [List.length_cons]
    omega

/-! ## Numbers -/

def spanDigits (s : Text) : Text × Text := (s.takeWhile Char.isDigit, s.dropWhile Char.isDigit)

/-- The digits before the point: a zero stands alone. -/
def wholePart? : Text → Option (Text × Text)
  | [] => none
  | c :: s =>
    if c = '0' then some (['0'], s)
    else if c.isDigit then some (c :: (spanDigits s).1, (spanDigits s).2)
    else none

/-- The digits after a point; nothing is taken when there are none. -/
def fractionPart (s : Text) : Text × Text :=
  match s with
  | '.' :: r => if (spanDigits r).1 = [] then ([], s) else spanDigits r
  | _ => ([], s)

/-- The exponent; nothing is taken when it has no digits. -/
def exponentPart (s : Text) : Option Int × Text :=
  match s with
  | c :: r =>
    if c = 'e' ∨ c = 'E' then
      let (negative, r) :=
        match r with
        | '-' :: r => (true, r)
        | '+' :: r => (false, r)
        | r => (false, r)
      let (digits, rest) := spanDigits r
      if digits = [] then (none, s)
      else
        let n : Int := Text.readDigits 10 digits
        (some (if negative then -n else n), rest)
    else (none, s)
  | [] => (none, s)

def numberToken (negative : Bool) (whole fraction : Text) (exponent : Option Int) : Token :=
  if fraction = [] ∧ exponent = none then
    if Text.mostDigits < whole.length then .long whole.length
    else
      let n : Int := Text.readDigits 10 whole
      .plain (.int (if negative then -n else n))
  else
    .plain (.real (.ofDecimal negative (Text.readDigits 10 (whole ++ fraction))
      (exponent.getD 0 - fraction.length)))

def number? (s : Text) : Option (Token × Text) :=
  let (negative, s) :=
    match s with
    | '-' :: r => (true, r)
    | r => (false, r)
  match wholePart? s with
  | none => none
  | some (whole, s) =>
    let (fraction, s) := fractionPart s
    let (exponent, s) := exponentPart s
    some (numberToken negative whole fraction exponent, s)

theorem length_spanDigits (s : Text) : (spanDigits s).2.length ≤ s.length := by
  simpa [spanDigits] using (List.dropWhile_sublist Char.isDigit (l := s)).length_le

theorem length_wholePart? {s w r : Text} (h : wholePart? s = some (w, r)) : r.length < s.length := by
  unfold wholePart? at h
  split at h
  · simp at h
  · split at h
    · simp only [Option.some.injEq, Prod.mk.injEq] at h
      rw [← h.2]
      exact Nat.lt_succ_self _
    · split at h
      · simp only [Option.some.injEq, Prod.mk.injEq] at h
        rw [← h.2]
        exact Nat.lt_succ_of_le (length_spanDigits _)
      · simp at h

theorem length_fractionPart (s : Text) : (fractionPart s).2.length ≤ s.length := by
  unfold fractionPart
  split
  · split
    · exact Nat.le_refl _
    · exact Nat.le_succ_of_le (length_spanDigits _)
  · exact Nat.le_refl _

theorem length_exponentPart (s : Text) : (exponentPart s).2.length ≤ s.length := by
  unfold exponentPart
  split
  · split
    · rename_i c r _
      have key : ∀ t : Text, t.length ≤ r.length → (spanDigits t).2.length ≤ (c :: r).length := fun t ht =>
        Nat.le_succ_of_le (Nat.le_trans (length_spanDigits t) ht)
      have done : ∀ (b : Bool) (t : Text), t.length ≤ r.length →
          (if (spanDigits t).1 = [] then ((none : Option Int), c :: r)
            else
              (some (if b then -((Text.readDigits 10 (spanDigits t).1 : Nat) : Int)
                else ((Text.readDigits 10 (spanDigits t).1 : Nat) : Int)), (spanDigits t).2)).2.length ≤
            (c :: r).length := by
        intro b t ht
        split
        · exact Nat.le_refl _
        · exact key t ht
      split
      rename_i heq
      split at heq
      all_goals
        simp only [Prod.mk.injEq] at heq
        obtain ⟨hb, ht⟩ := heq
        subst hb ht
      · exact done true _ (by simp)
      · exact done false _ (by simp)
      · exact done false _ (Nat.le_refl _)
    · exact Nat.le_refl _
  · exact Nat.le_refl _

theorem length_number? {s r : Text} {t : Token} (h : number? s = some (t, r)) : r.length < s.length := by
  unfold number? at h
  split at h
  rename_i b s' heq
  have hs : s'.length ≤ s.length := by
    split at heq <;> simp only [Prod.mk.injEq] at heq <;> simp [← heq.2]
  split at h
  · simp at h
  · rename_i w s'' hw
    simp only [Option.some.injEq, Prod.mk.injEq] at h
    rw [← h.2]
    have h1 := length_wholePart? hw
    have h2 := length_fractionPart s''
    have h3 := length_exponentPart (fractionPart s'').2
    omega

/-! ## All tokens -/

def namedValues : List (Text × Value) :=
  [("null".toList, .null), ("true".toList, .bool true), ("false".toList, .bool false), ("NaN".toList, .real .undefined),
    ("Infinity".toList, .real (.infinite false)), ("-Infinity".toList, .real (.infinite true))]

def named? (s : Text) : Option (Token × Text) :=
  namedValues.findSome? fun (name, v) => (Text.after? name s).map fun r => (.plain v, r)

def mark? (c : Char) : Option Token :=
  if c = '[' then some .openList
  else if c = ']' then some .closeList
  else if c = '\x7b' then some .openRecord
  else if c = '\x7d' then some .closeRecord
  else if c = ',' then some .comma
  else if c = ':' then some .colon
  else none

/-- The token at the start of `c :: s`, which is at an offset, and the rest. -/
def tokenAt (offset : Nat) (c : Char) (s : Text) : Token × Text :=
  match mark? c with
  | some t => (t, s)
  | none =>
    if c = '"' then
      match quotedFrom (c :: s) s with
      | .ok (t, r) => (.text t, r)
      | .error (reason, r) => (.wrong reason (offset + (s.length + 1 - r.length)), s)
    else
      match named? (c :: s) with
      | some p => p
      | none => (number? (c :: s)).getD (.other, s)

theorem length_named? {s r : Text} {t : Token} (h : named? s = some (t, r)) : r.length < s.length := by
  obtain ⟨⟨name, v⟩, hm, hv⟩ := List.exists_of_findSome?_eq_some h
  simp only [Option.map_eq_some_iff, Prod.mk.injEq] at hv
  obtain ⟨a, ha, _, rfl⟩ := hv
  have hs := Text.eq_append_of_after? ha
  have hn : 0 < name.length := by
    have := List.all_eq_true.1 (show namedValues.all (fun e => 0 < e.1.length) = true by decide) _ hm
    simpa using this
  rw [hs, List.length_append]
  omega

theorem length_tokenAt (offset : Nat) (c : Char) (s : Text) : (tokenAt offset c s).2.length ≤ s.length := by
  unfold tokenAt
  split
  · exact Nat.le_refl _
  · split
    · split
      · rename_i h
        exact Nat.le_of_lt (length_quotedFrom h)
      · exact Nat.le_refl _
    · split
      · rename_i p h
        exact Nat.le_of_lt_succ (length_named? (t := p.1) (r := p.2) h)
      · cases h : number? (c :: s) with
        | none => exact Nat.le_refl _
        | some p => exact Nat.le_of_lt_succ (length_number? (t := p.1) (r := p.2) h)

/-- **The tokens of a document**, each with its offset. -/
def tokensFrom (offset : Nat) : Text → List (Token × Nat)
  | [] => []
  | c :: s =>
    if isGap c then tokensFrom (offset + 1) s
    else
      ((tokenAt offset c s).1, offset) ::
        tokensFrom (offset + (s.length + 1 - (tokenAt offset c s).2.length)) (tokenAt offset c s).2
termination_by s => s.length
decreasing_by
  · exact Nat.lt_succ_self _
  · exact Nat.lt_succ_of_le (length_tokenAt _ _ _)

end Json
end ViewAtlas
