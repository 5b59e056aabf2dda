/-!
# Texts

A text is the list of its characters.  Offsets, lengths and cuts count characters, so every law about texts is a law
about lists.
-/
namespace ViewAtlas

/-- **A text**: its characters, in order. -/
abbrev Text := List Char

namespace Text

/-- The half-open piece from `start` to `stop`; what lies past the end is cut off. -/
def slice (start stop : Nat) (s : Text) : Text := (s.drop start).take (stop - start)

/-- What follows `p`, when the text starts with it. -/
def after? : (p s : Text) → Option Text
  | [], s => some s
  | _ :: _, [] => none
  | c :: p, d :: s => if c = d then after? p s else none

def hasPiece (t : Text) : Text → Bool
  | [] => t.isEmpty
  | c :: s => t.isPrefixOf (c :: s) || hasPiece t s

def offset? (t : Text) : Text → Option Nat
  | [] => if t.isEmpty then some 0 else none
  | c :: s => if t.isPrefixOf (c :: s) then some 0 else (offset? t s).map (· + 1)

/-- The text up to the first occurrence of `t`; all of it when there is none. -/
def before (t : Text) : Text → Text
  | [] => []
  | c :: s => if t.isPrefixOf (c :: s) then [] else c :: before t s

/-- The pieces between the separators: always one more than there are separators. -/
def splitAt (sep : Char) : Text → List Text
  | [] => [[]]
  | c :: s =>
    if c = sep then [] :: splitAt sep s
    else match splitAt sep s with
      | [] => [[c]]
      | piece :: rest => (c :: piece) :: rest

def joinWith (sep : Text) (pieces : List Text) : Text := (pieces.intersperse sep).flatten

def ofNat (n : Nat) : Text := Nat.toDigits 10 n

def ofInt : Int → Text
  | .ofNat n => ofNat n
  | .negSucc n => '-' :: ofNat (n + 1)

/-- Padded on the right with spaces to at least `width` characters. -/
def padRight (width : Nat) (s : Text) : Text := s ++ List.replicate (width - s.length) ' '

def hexValue? (c : Char) : Option Nat :=
  if '0' ≤ c ∧ c ≤ '9' then some (c.toNat - 48)
  else if 'a' ≤ c ∧ c ≤ 'f' then some (c.toNat - 87)
  else if 'A' ≤ c ∧ c ≤ 'F' then some (c.toNat - 55)
  else none

/-- The number that the digits write in the given base, most significant first; other characters are passed over. -/
def readDigits (base : Nat) (s : Text) : Nat :=
  s.foldl (fun n c => match hexValue? c with | some d => n * base + d | none => n) 0

/-- The most decimal digits that are read as a number. -/
def mostDigits : Nat := 4300

/-- What is said of a number with too many digits. -/
def tooManyDigits (digits : Nat) : Text :=
  "Exceeds the limit (4300 digits) for integer string conversion: value has ".toList ++ ofNat digits ++
    " digits; use sys.set_int_max_str_digits() to increase the limit".toList

/-- `n` in hexadecimal, lower case, with at least `width` digits. -/
def hex (width n : Nat) : Text :=
  let digits := Nat.toDigits 16 n
  List.replicate (width - digits.length) '0' ++ digits

theorem forall_mem_of_all {p : Char → Prop} [DecidablePred p] {l : Text} (h : l.all (fun c => decide (p c)) = true) :
    ∀ c ∈ l, p c := fun c hc => of_decide_eq_true (List.all_eq_true.1 h c hc)

/-- **A piece occurs** where the text holds it. -/
theorem hasPiece_iff {t : Text} : ∀ {s : Text}, hasPiece t s = true ↔ t <:+: s
  | [] => by rw [hasPiece, List.isEmpty_iff, List.infix_nil]
  | c :: s => by rw [hasPiece, Bool.or_eq_true, List.isPrefixOf_iff_prefix, hasPiece_iff, List.infix_cons_iff]

@[simp] theorem after?_nil (s : Text) : after? [] s = some s := rfl

theorem eq_append_of_after? : ∀ {p s r : Text}, after? p s = some r → s = p ++ r
  | [], s, r, h => by simpa using h
  | _ :: _, [], r, h => by simp [after?] at h
  | c :: p, d :: s, r, h => by
    by_cases hc : c = d
    · subst hc
      simp only [after?, if_true] at h
      simp [eq_append_of_after? h]
    · simp [after?, hc] at h

@[simp] theorem after?_append : ∀ p r : Text, after? p (p ++ r) = some r
  | [], _ => rfl
  | c :: p, r => by simp [after?, after?_append p r]

/-- Whether `p` begins a text does not hang on what follows it, when that begins with no character of `p`. -/
theorem after?_append_of_head : ∀ {p x : Text}, (∀ c ∈ x.head?, c ∉ p) → ∀ s,
    after? p (s ++ x) = (after? p s).map (· ++ x)
  | [], _, _, _ => rfl
  | d :: p, [], _, [] => rfl
  | d :: p, c :: x, hx, [] => by
    have hd : d ≠ c := fun h => hx c rfl (by rw [h]; exact List.mem_cons_self ..)
    simp only [List.nil_append, after?, if_neg hd, Option.map_none]
  | d :: p, x, hx, e :: s => by
    rw [List.cons_append, after?, after?]
    split
    · exact after?_append_of_head (fun c hc h => hx c hc (List.mem_cons_of_mem _ h)) s
    · rfl

theorem takeWhile_append_of_head {p : Char → Bool} {x : Text} (hx : ∀ c ∈ x.head?, p c = false) (s : Text) :
    (s ++ x).takeWhile p = s.takeWhile p := by
  have h : x.takeWhile p = [] := by
    cases x with
    | nil => rfl
    | cons c x => rw [List.takeWhile_cons, hx c rfl, if_neg Bool.false_ne_true]
  rw [List.takeWhile_append, h, List.append_nil]
  split
  · rename_i hs
    exact ((List.takeWhile_prefix p).eq_of_length hs).symm
  · rfl

theorem dropWhile_append_of_head {p : Char → Bool} {x : Text} (hx : ∀ c ∈ x.head?, p c = false) (s : Text) :
    (s ++ x).dropWhile p = s.dropWhile p ++ x := by
  have h : x.dropWhile p = x := by
    cases x with
    | nil => rfl
    | cons c x => rw [List.dropWhile_cons, hx c rfl, if_neg Bool.false_ne_true]
  rw [List.dropWhile_append, h]
  split
  · rename_i hs
    rw [List.isEmpty_iff.1 hs, List.nil_append]
  · rfl

theorem eq_append_of_offset? {t : Text} : ∀ {s : Text} {n : Nat}, offset? t s = some n →
    ∃ a b, s = a ++ (t ++ b) ∧ a.length = n
  | [], n, h => by
    cases t with
    | nil => exact ⟨[], [], rfl, by simpa [offset?] using h⟩
    | cons d t => simp [offset?] at h
  | c :: s, n, h => by
    by_cases hp : t.isPrefixOf (c :: s) = true
    · obtain ⟨b, hb⟩ := List.isPrefixOf_iff_prefix.1 hp
      exact ⟨[], b, by rw [hb, List.nil_append], by simpa [offset?, hp] using h⟩
    · simp only [offset?, hp, if_false, Bool.false_eq_true, Option.map_eq_some_iff] at h
      obtain ⟨m, hm, rfl⟩ := h
      obtain ⟨a, b, rfl, rfl⟩ := eq_append_of_offset? hm
      exact ⟨c :: a, b, rfl, rfl⟩

theorem offset?_le {t s : Text} {n : Nat} (h : offset? t s = some n) : n + t.length ≤ s.length := by
  obtain ⟨a, b, rfl, rfl⟩ := eq_append_of_offset? h
  simp only [List.length_append]
  omega

theorem offset?_append {t : Text} : ∀ {s : Text} {n : Nat}, offset? t s = some n → ∀ x, offset? t (s ++ x) = some n
  | [], n, h, x => by
    cases t with
    | nil => cases x <;> simpa [offset?] using h
    | cons d t => simp [offset?] at h
  | c :: s, n, h, x => by
    by_cases hp : t.isPrefixOf (c :: s) = true
    · have hx : t.isPrefixOf (c :: s ++ x) = true :=
        List.isPrefixOf_iff_prefix.2 ((List.isPrefixOf_iff_prefix.1 hp).trans (List.prefix_append _ _))
      rw [offset?, if_pos hp] at h
      rw [List.cons_append, offset?, ← List.cons_append, if_pos hx]
      exact h
    · rw [offset?, if_neg hp, Option.map_eq_some_iff] at h
      obtain ⟨m, hm, rfl⟩ := h
      have hx : ¬ t.isPrefixOf (c :: s ++ x) = true := fun hx => by
        refine hp (List.isPrefixOf_iff_prefix.2 ?_)
        have hle := offset?_le hm
        refine List.prefix_of_prefix_length_le (List.isPrefixOf_iff_prefix.1 hx) (List.prefix_append _ _) ?_
        rw [List.length_cons]
        omega
      rw [List.cons_append, offset?, ← List.cons_append, if_neg hx, offset?_append hm x]
      rfl

theorem splitAt_ne_nil (sep : Char) : ∀ s : Text, splitAt sep s ≠ []
  | [] => by simp [splitAt]
  | c :: s => by
    unfold splitAt
    split
    · simp
    · split <;> simp

theorem notMem_of_mem_splitAt {sep : Char} : ∀ {s n : Text}, n ∈ splitAt sep s → sep ∉ n
  | [], n, h => by
    rw [splitAt, List.mem_singleton] at h
    simp [h]
  | c :: s, n, h => by
    rw [splitAt] at h
    split at h
    · rcases List.mem_cons.1 h with rfl | h
      · simp
      · exact notMem_of_mem_splitAt h
    · rename_i hc
      split at h
      · rw [List.mem_singleton.1 h]
        simp [Ne.symm hc]
      · rename_i piece rest hs
        have hmem : ∀ m ∈ piece :: rest, sep ∉ m := fun m hm => notMem_of_mem_splitAt (hs ▸ hm)
        rcases List.mem_cons.1 h with rfl | h
        · simp [Ne.symm hc, hmem piece (List.mem_cons_self ..)]
        · exact hmem n (List.mem_cons_of_mem _ h)

theorem splitAt_of_notMem {sep : Char} : ∀ {s : Text}, sep ∉ s → splitAt sep s = [s]
  | [], _ => rfl
  | c :: s, h => by
    rw [List.mem_cons, not_or] at h
    rw [splitAt, if_neg (Ne.symm h.1), splitAt_of_notMem h.2]

/-- **A separator splits a text into what stands before it and behind it.** -/
theorem splitAt_append_cons (sep : Char) : ∀ a b : Text, splitAt sep (a ++ sep :: b) = splitAt sep a ++ splitAt sep b
  | [], b => by simp [splitAt]
  | c :: a, b => by
    rw [List.cons_append, splitAt, splitAt, splitAt_append_cons sep a b]
    split
    · rfl
    · cases h : splitAt sep a with
      | nil => exact absurd h (splitAt_ne_nil sep a)
      | cons piece rest => rfl

@[simp] theorem joinWith_singleton (sep a : Text) : joinWith sep [a] = a := by simp [joinWith]

theorem joinWith_cons (sep a : Text) {l : List Text} (hl : l ≠ []) :
    joinWith sep (a :: l) = a ++ (sep ++ joinWith sep l) := by
  cases l with
  | nil => exact absurd rfl hl
  | cons b l => simp [joinWith, List.intersperse]

theorem mem_joinWith (sep : Text) {c : Char} : ∀ {l : List Text} {n : Text}, n ∈ l → c ∈ n → c ∈ joinWith sep l
  | [a], n, hn, hc => by
    rw [List.mem_singleton.1 hn] at hc
    rwa [joinWith_singleton]
  | a :: b :: l, n, hn, hc => by
    rw [joinWith_cons sep a (by simp), List.mem_append, List.mem_append]
    rcases List.mem_cons.1 hn with rfl | hn
    · exact .inl hc
    · exact .inr (.inr (mem_joinWith sep hn hc))

theorem joinWith_append (sep : Text) : ∀ {l m : List Text}, l ≠ [] → m ≠ [] →
    joinWith sep (l ++ m) = joinWith sep l ++ (sep ++ joinWith sep m)
  | [], _, hl, _ => absurd rfl hl
  | [a], m, _, hm => by rw [List.singleton_append, joinWith_cons sep a hm, joinWith_singleton]
  | a :: b :: l, m, _, hm => by
    rw [List.cons_append, joinWith_cons sep a (by simp), joinWith_append sep (by simp) hm, joinWith_cons sep a (by simp)]
    simp only [List.append_assoc]

theorem splitAt_joinWith {sep : Char} : ∀ {l : List Text}, l ≠ [] → (∀ n ∈ l, sep ∉ n) →
    splitAt sep (joinWith [sep] l) = l
  | [], h, _ => absurd rfl h
  | [a], _, h => by rw [joinWith_singleton, splitAt_of_notMem (h a (List.mem_cons_self ..))]
  | a :: b :: l, _, h => by
    rw [joinWith_cons [sep] a (by simp), List.singleton_append, splitAt_append_cons,
      splitAt_of_notMem (h a (List.mem_cons_self ..)),
      splitAt_joinWith (by simp) fun n hn => h n (List.mem_cons_of_mem _ hn), List.singleton_append]

theorem joinWith_splitAt (sep : Char) : ∀ s : Text, joinWith [sep] (splitAt sep s) = s
  | [] => rfl
  | c :: s => by
    have ih := joinWith_splitAt sep s
    rw [splitAt]
    split
    · rename_i hc
      rw [joinWith_cons [sep] [] (splitAt_ne_nil sep s), ih, hc]
      rfl
    · cases h : splitAt sep s with
      | nil => exact absurd h (splitAt_ne_nil sep s)
      | cons piece rest =>
        rw [h] at ih
        cases rest with
        | nil => simpa using ih
        | cons q rest =>
          rw [joinWith_cons [sep] piece (by simp)] at ih
          show joinWith [sep] ((c :: piece) :: q :: rest) = c :: s
          rw [joinWith_cons [sep] (c :: piece) (by simp), List.cons_append, ih]

/-- **Where a separator stands in joined pieces, it stands between them.** -/
theorem joinWith_eq_append_cons {sep : Char} {l : List Text} {a b : Text} (hl : l ≠ []) (hsep : ∀ n ∈ l, sep ∉ n)
    (h : joinWith [sep] l = a ++ sep :: b) :
    ∃ l₁ l₂, l₁ ≠ [] ∧ l₂ ≠ [] ∧ l₁ ++ l₂ = l ∧ joinWith [sep] l₁ = a ∧ joinWith [sep] l₂ = b := by
  have hsplit := splitAt_joinWith hl hsep
  rw [h, splitAt_append_cons] at hsplit
  exact ⟨splitAt sep a, splitAt sep b, splitAt_ne_nil sep a, splitAt_ne_nil sep b, hsplit, joinWith_splitAt sep a,
    joinWith_splitAt sep b⟩

end Text
end ViewAtlas
