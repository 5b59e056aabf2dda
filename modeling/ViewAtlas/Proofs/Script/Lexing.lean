import ViewAtlas.Proofs.Json.Relaxing
import ViewAtlas.Script.Reader
/-!
# How lexemes of scripts are written

The forms of gaps, words, strings and numbers, each without a word about how it is read; and that each of them is measured
as long as it is, whatever follows that does not go on with it.
-/
namespace ViewAtlas
namespace Script

/-! ## Gaps -/

/-- **What may stand between tokens**: white space and block comments.  No comment holds the character NUL. -/
inductive IsGap : Text → Prop
  | nil : IsGap []
  | space {c : Char} {s : Text} (hc : isSpace c = true) (h : IsGap s) : IsGap (c :: s)
  | comment {t s : Text} (ht : ¬ ['*', '/'] <:+: t) (hnul : '\x00' ∉ t) (h : IsGap s) :
      IsGap ('/' :: '*' :: (t ++ '*' :: '/' :: s))

def beyond (s : Text) : Text := s.drop (gapLength s)

theorem gapLength_space {c : Char} {s : Text} (hc : isSpace c = true) : gapLength (c :: s) = 1 + gapLength s := by
  rw [gapLength.eq_def]
  simp only [hc, if_true]

theorem gapLength_comment {t s : Text} (ht : ¬ ['*', '/'] <:+: t) (hnul : '\x00' ∉ t) :
    gapLength ('/' :: '*' :: (t ++ '*' :: '/' :: s)) = t.length + 4 + gapLength s := by
  have hdrop : (t ++ '*' :: '/' :: s).drop (t.length + 2) = s := by
    rw [← List.drop_drop, List.drop_left]
    rfl
  rw [gapLength.eq_def]
  simp only [show isSpace '/' = false from by decide, Bool.false_eq_true, if_false, if_true,
    Json.offset?_ending ht s, List.take_left, List.contains_eq_mem, hnul, decide_false, hdrop]

theorem gapLength_eq_zero {s : Text} (h : ∀ c ∈ s.head?, isSpace c = false ∧ c ≠ '/') : gapLength s = 0 := by
  cases s with
  | nil => rw [gapLength.eq_def]
  | cons c s =>
    obtain ⟨hspace, hslash⟩ := h c rfl
    rw [gapLength.eq_def]
    simp only [hspace, hslash, Bool.false_eq_true, if_false]

theorem gapLength_cons {c : Char} (hc : isSpace c = false ∧ c ≠ '/') (s : Text) : gapLength (c :: s) = 0 :=
  gapLength_eq_zero fun d hd => by
    cases hd
    exact hc

/-- **A gap is measured as long as it is.** -/
theorem gapLength_append {g s : Text} (hg : IsGap g) (hs : gapLength s = 0) : gapLength (g ++ s) = g.length := by
  induction hg with
  | nil => exact hs
  | space hc _ ih =>
    rw [List.cons_append, gapLength_space hc, ih, List.length_cons]
    omega
  | @comment t g' ht hnul _ ih =>
    have htext : '/' :: '*' :: (t ++ '*' :: '/' :: g') ++ s = '/' :: '*' :: (t ++ '*' :: '/' :: (g' ++ s)) := by simp
    rw [htext, gapLength_comment ht hnul, ih]
    simp only [List.length_cons, List.length_append]
    omega

theorem beyond_append {g s : Text} (hg : IsGap g) (hs : gapLength s = 0) : beyond (g ++ s) = s := by
  rw [beyond, gapLength_append hg hs, List.drop_left]

theorem gapLength_beyond (s : Text) : gapLength (beyond s) = 0 := by
  unfold beyond
  fun_induction gapLength s with
  | case1 => rw [List.drop_nil, gapLength.eq_def]
  | case2 c r hc ih => rwa [Nat.add_comm, List.drop_succ_cons]
  | case3 t n _ ih =>
    rwa [show 2 + n + gapLength (t.drop n) = (n + gapLength (t.drop n)) + 2 from by omega, List.drop_succ_cons,
      List.drop_succ_cons, ← List.drop_drop]
  | case4 t n hn hnul =>
    rw [List.drop_zero, gapLength.eq_def]
    simp only [show isSpace '/' = false from by decide, Bool.false_eq_true, if_false, if_true, hn, hnul]
  | case5 t n hn _ _ ih =>
    rwa [show n + 4 + gapLength (t.drop (n + 2)) = (n + 2 + gapLength (t.drop (n + 2))) + 2 from by omega,
      List.drop_succ_cons, List.drop_succ_cons, ← List.drop_drop]
  | case6 t hn =>
    rw [List.drop_zero, gapLength.eq_def]
    simp only [show isSpace '/' = false from by decide, Bool.false_eq_true, if_false, if_true, hn]
  | case7 r hline hblock =>
    rw [List.drop_zero, gapLength.eq_def]
    simp only [show isSpace '/' = false from by decide, Bool.false_eq_true, if_false, if_true]
  | case8 c r hspace hslash =>
    rw [List.drop_zero, gapLength.eq_def]
    simp only [hspace, hslash, if_false, Bool.false_eq_true]

theorem gapLength_le (s : Text) : gapLength s ≤ s.length := by
  fun_induction gapLength s with
  | case1 => exact Nat.zero_le _
  | case2 c r hc ih =>
    rw [List.length_cons]
    omega
  | case3 t n _ ih =>
    have hn : n ≤ t.length := (List.takeWhile_prefix _).length_le
    rw [List.length_drop] at ih
    simp only [List.length_cons]
    omega
  | case5 t n hn _ _ ih =>
    have hle := Text.offset?_le hn
    rw [List.length_drop] at ih
    simp only [List.length_cons, List.length_nil] at hle ⊢
    omega
  | case4 => exact Nat.zero_le _
  | case6 => exact Nat.zero_le _
  | case7 => exact Nat.zero_le _
  | case8 => exact Nat.zero_le _

theorem beyond_beyond (s : Text) : beyond (beyond s) = beyond s := by
  rw [beyond, gapLength_beyond, List.drop_zero]

/-! ## Words -/

/-- What a word is made of: characters, and characters by their codes. -/
inductive WordParts : Text → Prop
  | nil : WordParts []
  | char {c : Char} {w : Text} (hc : isWordPart c = true) (h : WordParts w) : WordParts (c :: w)
  | code {a b c d : Char} {w : Text} (hcode : ∀ x ∈ [a, b, c, d], isHexDigit x = true) (h : WordParts w) :
      WordParts ('\\' :: 'u' :: a :: b :: c :: d :: w)
  | point {ds w : Text} (hsome : ds ≠ []) (hcode : ∀ x ∈ ds, isHexDigit x = true) (h : WordParts w) :
      WordParts ('\\' :: 'u' :: '{' :: (ds ++ '}' :: w))

structure IsWord (w : Text) : Prop where
  ne_nil : w ≠ []
  start : ∀ c ∈ w.head?, c.isDigit = false
  parts : WordParts w

theorem isWord_of_all {w : Text} (h : (w.head?.any (!Char.isDigit ·) && w.all isWordPart) = true) : IsWord w := by
  rw [Bool.and_eq_true] at h
  obtain ⟨hstart, hall⟩ := h
  refine ⟨?_, ?_, ?_⟩
  · rintro rfl
    cases hstart
  · intro c hc
    rw [Option.mem_def.1 hc] at hstart
    simpa using hstart
  · clear hstart
    induction w with
    | nil => exact .nil
    | cons c w ih =>
      rw [List.all_cons, Bool.and_eq_true] at hall
      exact .char hall.1 (ih hall.2)

def EndsWord (r : Text) : Prop := ∀ c ∈ r.head?, isWordPart c = false ∧ c ≠ '\\'

theorem wordPartLength_eq_zero {r : Text} (h : EndsWord r) : wordPartLength r = 0 := by
  cases r with
  | nil => rw [wordPartLength.eq_def]
  | cons c r =>
    obtain ⟨hc, hback⟩ := h c rfl
    rw [wordPartLength.eq_def]
    simp only [hc, Bool.false_eq_true, if_false]
    split
    · rename_i hcode
      exact absurd rfl hback
    · rfl

theorem codePointLength?_four {a b c d : Char} (h : ∀ x ∈ [a, b, c, d], isHexDigit x = true) (r : Text) :
    codePointLength? (a :: b :: c :: d :: r) = some 4 := by
  have ha : a ≠ '{' := by
    rintro rfl
    exact absurd (h '{' (List.mem_cons_self ..)) (by decide)
  unfold codePointLength?
  split
  · rename_i heq
    exact absurd (List.cons.inj heq).1 ha
  · have hall : ([a, b, c, d].all isHexDigit) = true := List.all_eq_true.2 h
    simp [List.take, hall]

theorem codePointLength?_point {ds : Text} (hsome : ds ≠ []) (h : ∀ x ∈ ds, isHexDigit x = true) (r : Text) :
    codePointLength? ('{' :: (ds ++ '}' :: r)) = some (ds.length + 2) := by
  have hwhile : (ds ++ '}' :: r).takeWhile isHexDigit = ds := by
    rw [List.takeWhile_append_of_pos h, List.takeWhile_cons_of_neg (by decide), List.append_nil]
  simp only [codePointLength?, hwhile, List.drop_left]
  rw [if_pos ⟨by simpa using hsome, rfl⟩]

theorem wordPartLength_append {w r : Text} (hw : WordParts w) (hr : EndsWord r) :
    wordPartLength (w ++ r) = w.length := by
  have hcode : ∀ {t : Text} {n : Nat}, codePointLength? t = some n →
      wordPartLength ('\\' :: 'u' :: t) = 2 + n + wordPartLength (t.drop n) := by
    intro t n hn
    rw [wordPartLength.eq_def]
    simp only [show isWordPart '\\' = false from by decide, Bool.false_eq_true, if_false, hn]
  induction hw with
  | nil => exact wordPartLength_eq_zero hr
  | char hc _ ih =>
    rw [List.cons_append, wordPartLength.eq_def]
    simp only [hc, if_true, ih, List.length_cons]
    omega
  | code hdigits _ ih =>
    simp only [List.cons_append]
    rw [hcode (codePointLength?_four hdigits _)]
    simp only [List.drop_succ_cons, List.drop_zero, ih, List.length_cons]
    omega
  | @point ds w hsome hdigits _ ih =>
    have htext : '\\' :: 'u' :: '{' :: (ds ++ '}' :: w) ++ r = '\\' :: 'u' :: '{' :: (ds ++ '}' :: (w ++ r)) := by simp
    have hdrop : ('{' :: (ds ++ '}' :: (w ++ r))).drop (ds.length + 2) = w ++ r := by
      rw [List.drop_succ_cons, ← List.drop_drop, List.drop_left]
      rfl
    rw [htext, hcode (codePointLength?_point hsome hdigits _), hdrop, ih]
    simp only [List.length_cons, List.length_append]
    omega

theorem wordLength_append {w r : Text} (hw : IsWord w) (hr : EndsWord r) : wordLength (w ++ r) = w.length := by
  obtain ⟨c, w', rfl⟩ := List.exists_cons_of_ne_nil hw.ne_nil
  have hstart := hw.start c rfl
  unfold wordLength
  rw [if_neg (by simp [hstart]), wordPartLength_append hw.parts hr]

theorem codePointLength?_le {s : Text} {n : Nat} (h : codePointLength? s = some n) : n ≤ s.length := by
  unfold codePointLength? at h
  split at h
  · rename_i r
    simp only [Option.ite_none_right_eq_some, Option.some.injEq] at h
    obtain ⟨⟨-, hclose⟩, rfl⟩ := h
    have hdrop : r.drop (r.takeWhile isHexDigit).length ≠ [] := by
      intro hnil
      rw [hnil] at hclose
      cases hclose
    have := List.length_pos_of_ne_nil hdrop
    rw [List.length_drop] at this
    rw [List.length_cons]
    omega
  · simp only [Option.ite_none_right_eq_some, Option.some.injEq, Bool.and_eq_true, decide_eq_true_eq] at h
    obtain ⟨⟨hlength, -⟩, rfl⟩ := h
    rw [List.length_take] at hlength
    omega

theorem wordPartLength_le (s : Text) : wordPartLength s ≤ s.length := by
  fun_induction wordPartLength s with
  | case1 => exact Nat.zero_le _
  | case2 c r hc ih =>
    rw [List.length_cons]
    omega
  | case3 t n hn _ ih =>
    have hle := codePointLength?_le hn
    rw [List.length_drop] at ih
    simp only [List.length_cons]
    omega
  | case4 => exact Nat.zero_le _
  | case5 => exact Nat.zero_le _

theorem wordLength_le (s : Text) : wordLength s ≤ s.length := by
  unfold wordLength
  split
  · exact Nat.zero_le _
  · exact wordPartLength_le s

theorem IsGap.head {g s : Text} (hg : IsGap g) :
    ∀ c ∈ (g ++ s).head?, isSpace c = true ∨ c = '/' ∨ (g = [] ∧ s.head? = some c) := by
  intro c hc
  cases hg with
  | nil => exact .inr (.inr ⟨rfl, hc⟩)
  | space hspace _ =>
    cases hc
    exact .inl hspace
  | comment =>
    cases hc
    exact .inr (.inl rfl)

theorem IsGap.endsWord {g s : Text} (hg : IsGap g) (hs : g = [] → EndsWord s) : EndsWord (g ++ s) := by
  intro c hc
  rcases hg.head c hc with hspace | rfl | ⟨hnil, hhead⟩
  · refine ⟨by simp [isWordPart, hspace], ?_⟩
    rintro rfl
    exact absurd hspace (by decide)
  · decide
  · exact hs hnil c hhead

theorem isSpace_of_isWordPart {c : Char} (hc : isWordPart c = true) : isSpace c = false ∧ c ≠ '/' := by
  constructor
  · cases hspace : isSpace c with
    | false => rfl
    | true => simp [isWordPart, hspace] at hc
  · rintro rfl
    exact absurd hc (by decide)

theorem gapLength_word {w : Text} (hw : IsWord w) (r : Text) : gapLength (w ++ r) = 0 := by
  refine gapLength_eq_zero fun c hc => ?_
  cases hw.parts with
  | nil => exact absurd rfl hw.ne_nil
  | char hpart _ =>
    cases hc
    exact isSpace_of_isWordPart hpart
  | code =>
    cases hc
    decide
  | point =>
    cases hc
    decide

def startsWord (c : Char) : Bool := (isWordPart c && !c.isDigit) || c = '\\'

theorem IsWord.startsWord_head {w : Text} (hw : IsWord w) (r : Text) : ∃ c, (w ++ r).head? = some c ∧ startsWord c = true := by
  have hstart := hw.start
  cases hw.parts with
  | nil => exact absurd rfl hw.ne_nil
  | @char c _ hpart _ => exact ⟨c, rfl, by rw [startsWord, hpart, hstart c rfl]; rfl⟩
  | code => exact ⟨_, rfl, by decide⟩
  | point => exact ⟨_, rfl, by decide⟩

theorem wordLength_eq_zero {s : Text} (h : ∀ c ∈ s.head?, startsWord c = false) : wordLength s = 0 := by
  cases s with
  | nil => rw [wordLength, wordPartLength.eq_def]; rfl
  | cons c s =>
    have hc := h c rfl
    rw [startsWord, Bool.or_eq_false_iff, decide_eq_false_iff_not] at hc
    unfold wordLength
    split
    · rfl
    · rename_i hdigit
      rw [List.head?_cons, Option.any_some, Bool.not_eq_true] at hdigit
      rw [hdigit] at hc
      refine wordPartLength_eq_zero fun d hd => ?_
      cases hd
      exact ⟨by simpa using hc.1, hc.2⟩

/-! ## Strings -/

/-- **What may follow a backslash in a string.** -/
inductive IsEscape : Text → Prop
  | lineEnd : IsEscape ['\r', '\n']
  | char {c : Char} (hnul : c ≠ '\x00') (hcode : c ≠ 'u' ∧ c ≠ 'x') : IsEscape [c]
  | hex {a b : Char} (h : ∀ x ∈ [a, b], isHexDigit x = true) : IsEscape ['x', a, b]
  | code {a b c d : Char} (h : ∀ x ∈ [a, b, c, d], isHexDigit x = true) : IsEscape ['u', a, b, c, d]
  | point {ds : Text} (hsome : ds ≠ []) (h : ∀ x ∈ ds, isHexDigit x = true) : IsEscape ('u' :: '{' :: (ds ++ ['}']))

/-- A character that stands for itself between two such quotes. -/
def IsPlainIn (quote c : Char) : Prop := c ≠ quote ∧ c ≠ '\\' ∧ c ≠ '\n' ∧ c ≠ '\r' ∧ c ≠ '\x00'

/-- **What may stand between two quotes.** -/
inductive IsBody (quote : Char) : Text → Prop
  | nil : IsBody quote []
  | char {c : Char} {s : Text} (hc : IsPlainIn quote c) (h : IsBody quote s) : IsBody quote (c :: s)
  | escape {e s : Text} (he : IsEscape e) (h : IsBody quote s) : IsBody quote ('\\' :: (e ++ s))

theorem stringRestLength?_plain {quote c : Char} {r : Text} (h : IsPlainIn quote c) :
    stringRestLength? quote (c :: r) = (stringRestLength? quote r).map (1 + ·) := by
  obtain ⟨h1, h2, h3, h4, h5⟩ := h
  rw [stringRestLength?.eq_def]
  simp only [h1, h2, h3, h4, h5, if_false, or_self]

def isOctal (c : Char) : Bool := '0' ≤ c && c ≤ '7'

theorem isPlainIn_of_isOctal {quote c : Char} (hquote : quote = '"' ∨ quote = '\'') (hc : isOctal c = true) :
    IsPlainIn quote c := by
  refine ⟨?_, ?_, ?_, ?_, ?_⟩ <;> rintro rfl
  · rcases hquote with rfl | rfl <;> exact absurd hc (by decide)
  all_goals exact absurd hc (by decide)

/-- Octal digits stand for themselves too: how many of them a code takes does not matter. -/
theorem stringRestLength?_octal {quote : Char} (hquote : quote = '"' ∨ quote = '\'') (k : Nat) (r : Text) :
    (stringRestLength? quote (r.drop ((r.take k).takeWhile isOctal).length)).map (((r.take k).takeWhile isOctal).length + ·) =
      stringRestLength? quote r := by
  induction k generalizing r with
  | zero => simp
  | succ k ih =>
    cases r with
    | nil => simp
    | cons c r =>
      by_cases hc : isOctal c = true
      · rw [List.take_succ_cons, List.takeWhile_cons_of_pos hc, List.length_cons, List.drop_succ_cons,
          stringRestLength?_plain (isPlainIn_of_isOctal hquote hc), ← ih r, Option.map_map]
        congr 1
        funext n
        simp only [Function.comp_apply]
        omega
      · rw [List.take_succ_cons, List.takeWhile_cons_of_neg hc]
        simp

theorem escapeLength?_cons {c : Char} {s : Text} (h : c = '\r' → s.head? ≠ some '\n') :
    escapeLength? (c :: s) =
      if c = '\x00' then none
      else if c = 'u' then (codePointLength? s).map (1 + ·)
      else if c = 'x' then if (s.take 2).length = 2 && (s.take 2).all isHexDigit then some 3 else none
      else if isOctal c then some (1 + ((s.take 2).takeWhile isOctal).length)
      else some 1 := by
  rw [escapeLength?.eq_def]
  split
  · rename_i heq
    cases heq
  · rename_i heq
    cases heq
    exact absurd rfl (h rfl)
  · rename_i heq
    cases heq
    rfl

theorem stringRestLength?_escape {quote : Char} (hquote : quote = '"' ∨ quote = '\'') {e s : Text} (he : IsEscape e)
    (hs : s.head? ≠ some '\n') :
    stringRestLength? quote ('\\' :: (e ++ s)) = (stringRestLength? quote s).map (1 + e.length + ·) := by
  have hnot : '\\' ≠ quote := by rcases hquote with rfl | rfl <;> decide
  have hstep : ∀ {t : Text} {n : Nat}, escapeLength? t = some n →
      stringRestLength? quote ('\\' :: t) = (stringRestLength? quote (t.drop n)).map (1 + n + ·) := by
    intro t n hn
    rw [stringRestLength?.eq_def]
    simp only [hnot, if_false, if_true, hn]
  cases he with
  | lineEnd => exact hstep rfl
  | @hex a b h =>
    have hall : ([a, b].all isHexDigit) = true := List.all_eq_true.2 h
    refine hstep (n := 3) ?_
    simp only [List.cons_append, List.nil_append]
    rw [escapeLength?_cons fun h => absurd h (by decide)]
    simp [hall]
  | code h =>
    refine hstep (n := 5) ?_
    simp only [List.cons_append, List.nil_append]
    rw [escapeLength?_cons fun h => absurd h (by decide)]
    simp [codePointLength?_four h]
  | @point ds hsome h =>
    have htext : 'u' :: '{' :: (ds ++ ['}']) ++ s = 'u' :: '{' :: (ds ++ '}' :: s) := by simp
    have hlength : escapeLength? ('u' :: '{' :: (ds ++ '}' :: s)) = some (ds.length + 3) := by
      rw [escapeLength?_cons fun h => absurd h (by decide)]
      simp [codePointLength?_point hsome h]
      omega
    have hdrop : ('u' :: '{' :: (ds ++ '}' :: s)).drop (ds.length + 3) = s := by
      rw [show ds.length + 3 = ds.length + 1 + 2 from rfl, List.drop_succ_cons, List.drop_succ_cons, ← List.drop_drop,
        List.drop_left]
      rfl
    rw [htext, hstep hlength, hdrop]
    simp
  | @char c hnul hcode =>
    rw [List.singleton_append]
    have hlength := escapeLength?_cons (c := c) (s := s) fun _ => hs
    rw [if_neg hnul, if_neg hcode.1, if_neg hcode.2] at hlength
    by_cases hoctal : isOctal c = true
    · rw [if_pos hoctal] at hlength
      rw [hstep hlength, Nat.add_comm 1 (List.length _), List.drop_succ_cons, ← stringRestLength?_octal hquote 2 s, Option.map_map]
      congr 1
      funext n
      simp only [Function.comp_apply, List.length_singleton]
      omega
    · rw [if_neg hoctal] at hlength
      rw [hstep hlength]
      rfl

theorem IsBody.head {quote : Char} {s : Text} (h : IsBody quote s) (r : Text) (hr : r.head? ≠ some '\n') :
    (s ++ r).head? ≠ some '\n' := by
  cases h with
  | nil => exact hr
  | char hc _ =>
    rw [List.cons_append, List.head?_cons, ne_eq, Option.some.injEq]
    exact hc.2.2.1
  | escape => simp

/-- **The rest of a string is measured up to its closing quote.** -/
theorem stringRestLength?_append {quote : Char} (hquote : quote = '"' ∨ quote = '\'') {s : Text} (hs : IsBody quote s)
    (r : Text) : stringRestLength? quote (s ++ quote :: r) = some (s.length + 1) := by
  have hline : (quote :: r).head? ≠ some '\n' := by
    rcases hquote with rfl | rfl <;> simp
  induction hs with
  | nil =>
    rw [List.nil_append, stringRestLength?.eq_def]
    simp
  | char hc _ ih =>
    rw [List.cons_append, stringRestLength?_plain hc, ih, Option.map_some, List.length_cons, Nat.add_comm]
  | @escape e s he hs ih =>
    rw [List.cons_append, List.append_assoc, stringRestLength?_escape hquote he (hs.head _ hline), ih]
    simp only [Option.map_some, List.length_cons, List.length_append, Option.some.injEq]
    omega

/-- **A string between single or double quotes.** -/
inductive IsQuoted : Text → Prop
  | intro {quote : Char} {s : Text} (hquote : quote = '"' ∨ quote = '\'') (hs : IsBody quote s) :
    IsQuoted (quote :: (s ++ [quote]))

theorem stringLength?_append {t : Text} (ht : IsQuoted t) (r : Text) : stringLength? (t ++ r) = some t.length := by
  cases ht with
  | @intro quote s hquote hs =>
    have htext : quote :: (s ++ [quote]) ++ r = quote :: (s ++ quote :: r) := by simp
    rw [htext, stringLength?, if_pos hquote, stringRestLength?_append hquote hs]
    simp only [Option.map_some, List.length_cons, List.length_append, List.length_nil, Option.some.injEq]
    omega

theorem gapLength_quoted {t : Text} (ht : IsQuoted t) (r : Text) : gapLength (t ++ r) = 0 := by
  refine gapLength_eq_zero fun c hc => ?_
  cases ht with
  | intro hquote _ =>
    cases hc
    rcases hquote with rfl | rfl <;> decide

/-! ## Numbers -/

/-- **Digits of a class**, with underscores between some of them. -/
inductive Digits (p : Char → Bool) : Text → Prop
  | one {c : Char} (hc : p c = true) : Digits p [c]
  | more {c : Char} {s : Text} (hc : p c = true) (h : Digits p s) : Digits p (c :: s)
  | apart {c : Char} {s : Text} (hc : p c = true) (h : Digits p s) : Digits p (c :: '_' :: s)

/-- An exponent, or nothing. -/
inductive IsExponent : Text → Prop
  | none : IsExponent []
  | some {e : Char} {sign s : Text} (he : e = 'e' ∨ e = 'E') (hsign : sign = [] ∨ sign = ['+'] ∨ sign = ['-'])
      (h : Digits Char.isDigit s) : IsExponent (e :: (sign ++ s))

/-- The letters of the bases, and their digits. -/
inductive IsBase : Char → (Char → Bool) → Prop
  | hex {x : Char} (hx : x = 'x' ∨ x = 'X') : IsBase x isHexDigit
  | octal {x : Char} (hx : x = 'o' ∨ x = 'O') : IsBase x isOctal
  | binary {x : Char} (hx : x = 'b' ∨ x = 'B') : IsBase x fun c => c = '0' || c = '1'

/-- A whole number: a zero at its start is alone, or before another digit. -/
structure IsWhole (s : Text) : Prop where
  digits : Digits Char.isDigit s
  zero : ∀ t d, s = '0' :: d :: t → '1' ≤ d ∧ d ≤ '9'

inductive IsNumber : Text → Prop
  | digits {s : Text} (h : Digits Char.isDigit s) : IsNumber s
  | scaled {s e : Text} (h : IsWhole s) (he : IsExponent e) : IsNumber (s ++ e)
  | point {s f e : Text} (h : IsWhole s) (hf : f = [] ∨ Digits Char.isDigit f) (he : IsExponent e) :
      IsNumber (s ++ '.' :: (f ++ e))
  | fraction {f e : Text} (hf : Digits Char.isDigit f) (he : IsExponent e) : IsNumber ('.' :: (f ++ e))
  | big {s : Text} (h : Digits Char.isDigit s) : IsNumber (s ++ ['n'])
  | based {x : Char} {p : Char → Bool} {s n : Text} (hx : IsBase x p) (h : Digits p s) (hn : n = [] ∨ n = ['n']) :
      IsNumber ('0' :: x :: (s ++ n))

def EndsNumber (r : Text) : Prop := ∀ c ∈ r.head?, isWordPart c = false ∧ c ≠ '.'

/-- What holds of every character below 128 holds of one that is such. -/
theorem isWordPart_of_small {p : Char → Bool} (hp : ∀ n < 128, p (Char.ofNat n) = true → isWordPart (Char.ofNat n) = true)
    {c : Char} (hsmall : c.toNat < 128) (hc : p c = true) : isWordPart c = true := by
  have h := hp c.toNat hsmall
  rw [Char.ofNat_toNat] at h
  exact h hc

theorem isWordPart_of_isHexDigit {c : Char} (hc : isHexDigit c = true) : isWordPart c = true := by
  refine isWordPart_of_small (p := isHexDigit) (by decide +kernel) ?_ hc
  have hle : ∀ {d : Char}, c ≤ d → d.toNat < 128 → c.toNat < 128 := fun h hd => Nat.lt_of_le_of_lt h hd
  unfold isHexDigit Text.hexValue? at hc
  split at hc
  · rename_i h
    exact hle h.2 (by decide)
  split at hc
  · rename_i h
    exact hle h.2 (by decide)
  split at hc
  · rename_i h
    exact hle h.2 (by decide)
  · cases hc

theorem isHexDigit_of_isDigit {c : Char} (hc : c.isDigit = true) : isHexDigit c = true := by
  rw [Char.isDigit, Bool.and_eq_true, decide_eq_true_iff, decide_eq_true_iff] at hc
  unfold isHexDigit Text.hexValue?
  rw [if_pos (by exact hc)]
  rfl

theorem isDigit_of_isOctal {c : Char} (hc : isOctal c = true) : c.isDigit = true := by
  rw [isOctal, Bool.and_eq_true, decide_eq_true_iff, decide_eq_true_iff] at hc
  rw [Char.isDigit, Bool.and_eq_true, decide_eq_true_iff, decide_eq_true_iff]
  exact ⟨hc.1, UInt32.le_trans hc.2 (by decide : '7'.val ≤ '9'.val)⟩

theorem isHexDigit_of_isBase {x : Char} {p : Char → Bool} (hx : IsBase x p) {c : Char} (hc : p c = true) :
    isHexDigit c = true := by
  cases hx with
  | hex => exact hc
  | octal => exact isHexDigit_of_isDigit (isDigit_of_isOctal hc)
  | binary =>
    rcases (by simpa using hc : c = '0' ∨ c = '1') with rfl | rfl <;> decide

def EndsDigits (p : Char → Bool) (r : Text) : Prop := ∀ c ∈ r.head?, p c = false ∧ c ≠ '_'

theorem digitsRestLength_cons {p : Char → Bool} {c : Char} (hc : p c = true) (s : Text) :
    digitsRestLength p (c :: s) = 1 + digitsRestLength p s := by
  cases s with
  | nil => simp only [digitsRestLength, hc, if_true]
  | cons d s => rw [digitsRestLength, if_pos hc]

theorem digitsRestLength_apart {p : Char → Bool} (hp : p '_' = false) {s : Text} (hs : ∃ d ∈ s.head?, p d = true) :
    digitsRestLength p ('_' :: s) = 1 + digitsRestLength p s := by
  obtain ⟨d, hd, hpd⟩ := hs
  cases s with
  | nil => cases hd
  | cons e s =>
    cases hd
    rw [digitsRestLength, if_neg (by simp [hp]), if_pos (by simp [hpd])]

theorem digitsRestLength_eq_zero {p : Char → Bool} {r : Text} (h : EndsDigits p r) : digitsRestLength p r = 0 := by
  cases r with
  | nil => rfl
  | cons c r =>
    obtain ⟨hc, hunder⟩ := h c rfl
    cases r with
    | nil => rw [digitsRestLength, if_neg (by simp [hc])]
    | cons d r => rw [digitsRestLength, if_neg (by simp [hc]), if_neg (by simp [hunder])]

theorem digitsLength_eq_zero {p : Char → Bool} {r : Text} (h : ∀ c ∈ r.head?, p c = false) : digitsLength p r = 0 := by
  unfold digitsLength
  cases r with
  | nil => rfl
  | cons c r => rw [if_neg (by simp [h c rfl])]

theorem Digits.head {p : Char → Bool} {s : Text} (h : Digits p s) (r : Text) : ∃ d ∈ (s ++ r).head?, p d = true := by
  cases h <;> exact ⟨_, rfl, by assumption⟩

theorem Digits.length_pos {p : Char → Bool} {s : Text} (h : Digits p s) : 0 < s.length := by
  cases h <;> simp

theorem digitsLength_append {p : Char → Bool} (hp : p '_' = false) {s r : Text} (hs : Digits p s) (hr : EndsDigits p r) :
    digitsLength p (s ++ r) = s.length := by
  obtain ⟨d, hd, hpd⟩ := hs.head r
  rw [digitsLength, if_pos (by rw [Option.mem_def.1 hd]; exact hpd)]
  clear d hd hpd
  induction hs with
  | one hc =>
    rw [List.singleton_append, digitsRestLength_cons hc, digitsRestLength_eq_zero hr, List.length_singleton]
  | more hc _ ih =>
    rw [List.cons_append, digitsRestLength_cons hc, ih, List.length_cons]
    omega
  | apart hc h ih =>
    rw [List.cons_append, List.cons_append, digitsRestLength_cons hc, digitsRestLength_apart hp (h.head r), ih,
      List.length_cons, List.length_cons]
    omega

theorem EndsNumber.endsDigits {p : Char → Bool} (hp : ∀ c, p c = true → isHexDigit c = true) {r : Text}
    (h : EndsNumber r) : EndsDigits p r := by
  intro c hc
  have hpart := (h c hc).1
  refine ⟨Bool.eq_false_iff.2 fun hdigit => ?_, ?_⟩
  · rw [isWordPart_of_isHexDigit (hp c hdigit)] at hpart
    cases hpart
  · rintro rfl
    exact absurd hpart (by decide)

theorem EndsNumber.head_ne {r : Text} (h : EndsNumber r) {c : Char} (hc : isWordPart c = true ∨ c = '.') :
    r.head? ≠ some c := by
  intro hr
  obtain ⟨h1, h2⟩ := h c hr
  rcases hc with hc | rfl
  · rw [hc] at h1
    cases h1
  · exact h2 rfl

theorem exponentLength_append {e r : Text} (he : IsExponent e) (hr : EndsNumber r) :
    exponentLength (e ++ r) = e.length := by
  cases he with
  | none =>
    cases r with
    | nil => rfl
    | cons c r =>
      rw [List.nil_append, exponentLength, if_neg, List.length_nil]
      rintro (rfl | rfl)
      · exact hr.head_ne (.inl (by decide)) rfl
      · exact hr.head_ne (.inl (by decide)) rfl
  | @some e sign s he hsign h =>
    have hdigits := digitsLength_append (by decide) h (hr.endsDigits fun c => isHexDigit_of_isDigit)
    have hpos := h.length_pos
    have hhead : (s ++ r).head? ≠ some '+' ∧ (s ++ r).head? ≠ some '-' := by
      obtain ⟨d, hd, hdigit⟩ := h.head r
      rw [hd]
      constructor <;> (intro hd'; cases hd'; exact absurd hdigit (by decide))
    rw [List.cons_append, List.append_assoc, exponentLength, if_pos he]
    rcases hsign with rfl | rfl | rfl
    · simp only [List.nil_append, hhead.1, hhead.2, or_self, if_false, List.drop_zero, hdigits, List.length_cons,
        Nat.ne_of_gt hpos]
      omega
    all_goals
      simp [hdigits, Nat.ne_of_gt hpos]
      omega

def baseLetters : Text := ['x', 'X', 'o', 'O', 'b', 'B']

theorem numberLength_decimal {s : Text} (h : ∀ c ∈ (s.drop 1).head?, c ∉ baseLetters) :
    numberLength s =
      (match s.drop (digitsLength Char.isDigit s) with
      | 'n' :: _ => if digitsLength Char.isDigit s = 0 then 0 else digitsLength Char.isDigit s + 1
      | '.' :: t =>
        if digitsLength Char.isDigit s = 0 ∧ digitsLength Char.isDigit t = 0 then 0
        else if !goesOn (s.take (digitsLength Char.isDigit s)) then digitsLength Char.isDigit s
        else digitsLength Char.isDigit s + 1 + digitsLength Char.isDigit t +
          exponentLength (t.drop (digitsLength Char.isDigit t))
      | _ =>
        if digitsLength Char.isDigit s = 0 then 0
        else if !goesOn (s.take (digitsLength Char.isDigit s)) then digitsLength Char.isDigit s
        else digitsLength Char.isDigit s + exponentLength (s.drop (digitsLength Char.isDigit s)) : Nat) := by
  unfold numberLength
  split <;> first | rfl | simp [baseLetters] at h

theorem IsWhole.goesOn {s : Text} (h : IsWhole s) : Script.goesOn s = true := by
  unfold Script.goesOn
  split
  · rfl
  · obtain ⟨h1, h9⟩ := h.zero _ _ rfl
    simp [h1, h9]
  · rfl

theorem Digits.second {s : Text} (h : Digits Char.isDigit s) {r : Text} (hr : ∀ c ∈ r.head?, c ∉ baseLetters) :
    ∀ c ∈ ((s ++ r).drop 1).head?, c ∉ baseLetters := by
  have hdigit : ∀ c : Char, c.isDigit = true → c ∉ baseLetters := by
    intro c hc hbase
    simp only [baseLetters, List.mem_cons, List.not_mem_nil, or_false] at hbase
    rcases hbase with rfl | rfl | rfl | rfl | rfl | rfl <;> exact absurd hc (by decide)
  cases h with
  | one => exact hr
  | more _ h =>
    obtain ⟨d, hd, hdigit'⟩ := h.head r
    intro c hc
    have : c = d := Option.some.inj (hc.symm.trans hd)
    exact this ▸ hdigit d hdigit'
  | apart =>
    intro c hc
    cases hc
    decide

theorem EndsNumber.notBase {r : Text} (h : EndsNumber r) : ∀ c ∈ r.head?, c ∉ baseLetters := by
  intro c hc hbase
  simp only [baseLetters, List.mem_cons, List.not_mem_nil, or_false] at hbase
  rcases hbase with rfl | rfl | rfl | rfl | rfl | rfl <;> exact h.head_ne (.inl (by decide)) hc

theorem IsExponent.head {e r : Text} (he : IsExponent e) (hr : EndsNumber r) :
    ∀ c ∈ (e ++ r).head?, c ∉ baseLetters ∧ c ≠ 'n' ∧ c ≠ '.' ∧ c.isDigit = false ∧ c ≠ '_' := by
  cases he with
  | none =>
    intro c hc
    refine ⟨hr.notBase c hc, ?_, ?_, (hr.endsDigits (fun c => isHexDigit_of_isDigit) c hc).1, ?_⟩
    · rintro rfl
      exact hr.head_ne (.inl (by decide)) hc
    · rintro rfl
      exact hr.head_ne (.inr rfl) hc
    · rintro rfl
      exact hr.head_ne (.inl (by decide)) hc
  | some he =>
    intro c hc
    cases hc
    rcases he with rfl | rfl <;> decide

/-- **A number is measured as long as it is.** -/
theorem numberLength_append {n r : Text} (hn : IsNumber n) (hr : EndsNumber r) : numberLength (n ++ r) = n.length := by
  cases hn with
  | digits h =>
    have hdigits : digitsLength Char.isDigit (n ++ r) = n.length :=
      digitsLength_append (by decide) h (hr.endsDigits fun c => isHexDigit_of_isDigit)
    rw [numberLength_decimal (h.second hr.notBase), hdigits, List.drop_left]
    split
    · exact absurd rfl (hr.head_ne (.inl (by decide)))
    · exact absurd rfl (hr.head_ne (.inr rfl))
    · rw [if_neg (Nat.ne_of_gt h.length_pos), show exponentLength r = 0 from exponentLength_append .none hr]
      split <;> rfl
  | @scaled s e h he =>
    have hhead := he.head hr
    have hdigits : digitsLength Char.isDigit (s ++ (e ++ r)) = s.length :=
      digitsLength_append (by decide) h.digits fun c hc => ⟨(hhead c hc).2.2.2.1, (hhead c hc).2.2.2.2⟩
    rw [List.append_assoc, numberLength_decimal (h.digits.second fun c hc => (hhead c hc).1), hdigits, List.drop_left,
      List.take_left, h.goesOn]
    split
    · exact absurd rfl (hhead 'n' (by rename_i heq; rw [heq]; rfl)).2.1
    · exact absurd rfl (hhead '.' (by rename_i heq; rw [heq]; rfl)).2.2.1
    · rw [if_neg (Nat.ne_of_gt h.digits.length_pos), if_neg (by decide), exponentLength_append he hr, List.length_append]
  | @point s f e h hf he =>
    have hhead := he.head hr
    have hdigits : digitsLength Char.isDigit (s ++ '.' :: (f ++ (e ++ r))) = s.length :=
      digitsLength_append (by decide) h.digits fun c hc => by cases hc; decide
    have hfraction : digitsLength Char.isDigit (f ++ (e ++ r)) = f.length := by
      rcases hf with rfl | hf
      · exact digitsLength_eq_zero fun c hc => (hhead c hc).2.2.2.1
      · exact digitsLength_append (by decide) hf fun c hc => ⟨(hhead c hc).2.2.2.1, (hhead c hc).2.2.2.2⟩
    rw [show s ++ '.' :: (f ++ e) ++ r = s ++ '.' :: (f ++ (e ++ r)) from by simp,
      numberLength_decimal (h.digits.second fun c hc => by cases hc; decide), hdigits, List.drop_left, List.take_left,
      h.goesOn]
    simp only [hfraction, List.drop_left, exponentLength_append he hr, Nat.ne_of_gt h.digits.length_pos, false_and, if_false,
      Bool.not_true, Bool.false_eq_true, List.length_append, List.length_cons]
    omega
  | @fraction f e hf he =>
    have hhead := he.head hr
    have hfraction : digitsLength Char.isDigit (f ++ (e ++ r)) = f.length :=
      digitsLength_append (by decide) hf fun c hc => ⟨(hhead c hc).2.2.2.1, (hhead c hc).2.2.2.2⟩
    have hdigits : digitsLength Char.isDigit ('.' :: (f ++ (e ++ r))) = 0 :=
      digitsLength_eq_zero fun c hc => by cases hc; rfl
    have hsecond : ∀ c ∈ (('.' :: (f ++ (e ++ r))).drop 1).head?, c ∉ baseLetters :=
      (Digits.more (by decide : Char.isDigit '0' = true) hf).second fun c hc => (hhead c hc).1
    rw [List.cons_append, List.append_assoc, numberLength_decimal hsecond, hdigits, List.drop_zero,
      List.take_zero]
    simp only [hfraction, List.drop_left, exponentLength_append he hr, Nat.ne_of_gt hf.length_pos, and_false, if_false,
      show (!goesOn []) = false from rfl, Bool.false_eq_true, List.length_append, List.length_cons]
    omega
  | @big s h =>
    have hdigits : digitsLength Char.isDigit (s ++ 'n' :: r) = s.length :=
      digitsLength_append (by decide) h fun c hc => by cases hc; decide
    rw [List.append_assoc, List.singleton_append, numberLength_decimal (h.second fun c hc => by cases hc; decide), hdigits,
      List.drop_left]
    simp only [Nat.ne_of_gt h.length_pos, if_false, List.length_append, List.length_singleton]
  | @based x p s n hx h hn =>
    have hn' : EndsDigits p (n ++ r) := by
      rcases hn with rfl | rfl
      · exact hr.endsDigits fun c => isHexDigit_of_isBase hx
      · intro c hc
        cases hc
        cases hx <;> decide
    have hdigits : digitsLength p (s ++ (n ++ r)) = s.length :=
      digitsLength_append (by cases hx <;> decide) h hn'
    have hend : (n ++ r).head? = some 'n' ↔ n = ['n'] := by
      rcases hn with rfl | rfl
      · simp [hr.head_ne (c := 'n') (.inl (by decide))]
      · simp
    have hlength : (if s.length = 0 then 0 else if (n ++ r).head? = some 'n' then s.length + 3 else s.length + 2) =
        ('0' :: x :: (s ++ n)).length := by
      rw [if_neg (Nat.ne_of_gt h.length_pos)]
      rcases hn with rfl | rfl
      · rw [if_neg (by rw [hend]; decide)]
        simp
      · rw [if_pos (by rw [hend])]
        simp
    rw [show '0' :: x :: (s ++ n) ++ r = '0' :: x :: (s ++ (n ++ r)) from by simp, ← hlength]
    cases hx with
    | hex hx =>
      rcases hx with rfl | rfl <;>
        (unfold numberLength; simp only [hdigits, List.drop_left])
    | octal hx =>
      rcases hx with rfl | rfl <;>
        (unfold numberLength; simp only [← isOctal.eq_1, hdigits, List.drop_left])
    | binary hx =>
      rcases hx with rfl | rfl <;>
        (unfold numberLength; simp only [hdigits, List.drop_left])

theorem IsNumber.head {n : Text} (hn : IsNumber n) (r : Text) :
    ∃ c, (n ++ r).head? = some c ∧ (c.isDigit = true ∨ c = '.') := by
  have hdigits : ∀ {s : Text}, Digits Char.isDigit s → ∀ x, ∃ c, (s ++ x).head? = some c ∧ (c.isDigit = true ∨ c = '.') := by
    intro s h x
    obtain ⟨c, hc, hdigit⟩ := h.head x
    exact ⟨c, hc, .inl hdigit⟩
  cases hn with
  | digits h => exact hdigits h r
  | scaled h => rw [List.append_assoc]; exact hdigits h.digits _
  | point h => rw [List.append_assoc]; exact hdigits h.digits _
  | fraction => exact ⟨'.', rfl, .inr rfl⟩
  | big h => rw [List.append_assoc]; exact hdigits h _
  | based => exact ⟨'0', rfl, .inl rfl⟩

theorem IsNumber.length_pos {n : Text} (hn : IsNumber n) : 0 < n.length := by
  obtain ⟨c, hc, -⟩ := hn.head []
  rw [List.append_nil] at hc
  exact List.length_pos_of_mem (List.mem_of_mem_head? hc)

theorem gapLength_number {n : Text} (hn : IsNumber n) (r : Text) : gapLength (n ++ r) = 0 := by
  obtain ⟨c, hc, hchar⟩ := hn.head r
  refine gapLength_eq_zero fun d hd => ?_
  cases hc.symm.trans hd
  rcases hchar with hdigit | rfl
  · exact isSpace_of_isWordPart (isWordPart_of_isHexDigit (isHexDigit_of_isDigit hdigit))
  · decide

theorem numberLength_eq_zero {s : Text} (h : ∀ c ∈ s.head?, c.isDigit = false ∧ c ≠ '.') : numberLength s = 0 := by
  have hdigits : digitsLength Char.isDigit s = 0 := digitsLength_eq_zero fun c hc => (h c hc).1
  unfold numberLength
  split
  any_goals exact absurd (h _ rfl).1 (by decide)
  simp only [hdigits, List.drop_zero]
  split
  · rfl
  · exact absurd rfl (h _ rfl).2
  · rfl

/-! ## Marks -/

theorem prefix_of_mark? {s m : Text} (h : mark? s = some m) : m ≠ [] ∧ m <+: s := by
  have hmarks : ∀ m ∈ marks, m ≠ [] := by decide
  unfold mark? at h
  split at h
  · split at h <;> cases h
    · exact ⟨by decide, List.prefix_append ['?'] _⟩
    · exact ⟨by decide, List.prefix_append ['?', '.'] _⟩
  · have hprefix := List.find?_some h
    exact ⟨hmarks m (List.mem_of_find?_eq_some h), List.isPrefixOf_iff_prefix.1 hprefix⟩

theorem head?_of_mark? {s m : Text} (h : mark? s = some m) : m ≠ [] ∧ m.head? = s.head? := by
  obtain ⟨hm, r, rfl⟩ := prefix_of_mark? h
  refine ⟨hm, ?_⟩
  cases m with
  | nil => exact absurd rfl hm
  | cons c m => rfl

/-- **A character that starts no longer mark here** is a mark of its own. -/
theorem mark?_cons {c : Char} {s : Text} (hc : [c] ∈ marks) (hquestion : c ≠ '?')
    (h : ∀ m ∈ marks, m.head? = some c → m = [c] ∨ (m.drop 1).head? ≠ s.head?) : mark? (c :: s) = some [c] := by
  have hfind : marks.find? (·.isPrefixOf (c :: s)) = some [c] := by
    cases hm : marks.find? (·.isPrefixOf (c :: s)) with
    | none =>
      have := List.find?_eq_none.1 hm [c] hc
      simp at this
    | some m =>
      have hprefix := List.find?_some hm
      cases m with
      | nil => exact absurd (List.mem_of_find?_eq_some hm) (by decide)
      | cons d m =>
        simp only [List.isPrefixOf, Bool.and_eq_true, beq_iff_eq] at hprefix
        obtain ⟨rfl, hrest⟩ := hprefix
        rcases h _ (List.mem_of_find?_eq_some hm) rfl with heq | hne
        · rw [heq]
        · obtain ⟨r, rfl⟩ := List.isPrefixOf_iff_prefix.1 hrest
          cases m with
          | nil => rfl
          | cons e m => exact absurd rfl hne
  unfold mark?
  split
  · rename_i heq
    exact absurd (List.cons.inj heq).1 hquestion
  · exact hfind

theorem mark?_alone (followers : List Char) {c : Char} {s : Text} (hc : [c] ∈ marks) (hquestion : c ≠ '?')
    (hmarks : ∀ m ∈ marks, m.head? = some c → m = [c] ∨ (m.drop 1).head?.any followers.contains = true)
    (hs : ∀ d ∈ s.head?, d ∉ followers) : mark? (c :: s) = some [c] := by
  refine mark?_cons hc hquestion fun m hm hhead => ?_
  rcases hmarks m hm hhead with h | h
  · exact .inl h
  · obtain ⟨d, hd, hmem⟩ := (Option.any_eq_true ..).1 h
    exact .inr fun heq => hs d (heq.symm.trans hd) (List.contains_iff_mem.1 hmem)

/-- The characters with which only one mark starts. -/
def singles : Text := [',', ';', ':', '(', ')', '[', ']', '\x7b', '\x7d', '@', '#', '~']

theorem mark?_single {c : Char} (hc : c ∈ singles) (s : Text) : mark? (c :: s) = some [c] := by
  have hall : ∀ c ∈ singles, [c] ∈ marks ∧ c ≠ '?' ∧ ∀ m ∈ marks, m.head? = some c → m = [c] := Text.forall_mem_of_all (by decide)
  obtain ⟨hmem, hquestion, honly⟩ := hall c hc
  exact mark?_cons hmem hquestion fun m hm hhead => .inl (honly m hm hhead)

end Script
end ViewAtlas
