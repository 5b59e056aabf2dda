import ViewAtlas.Proofs.Json.Parsing
/-!
# Relaxed documents in strict form

Comments are taken out of the gaps of a document and nothing else is (`Woven.withoutComments`), then the commas that
stand last are (`Woven.withoutLastCommas`).  Both passes go through a document lexeme by lexeme: neither looks into a
text between quotes, and the first does not look past a gap.
-/
namespace ViewAtlas
namespace Json

/-! ## Texts between quotes -/

/-- **What may stand between quotes**: no quote but behind a backslash, and no line end behind one. -/
inductive Enclosed : Text → Prop
  | nil : Enclosed []
  | char {c : Char} {s : Text} (hquote : c ≠ '"') (hbackslash : c ≠ '\\') (h : Enclosed s) : Enclosed (c :: s)
  | escape {d : Char} {s : Text} (hd : d ≠ '\n') (h : Enclosed s) : Enclosed ('\\' :: d :: s)

theorem Enclosed.quotedLength? {t : Text} (h : Enclosed t) (s : Text) :
    quotedLength? (t ++ '"' :: s) = some (t.length + 1) := by
  induction h with
  | nil =>
    rw [List.nil_append, Json.quotedLength?.eq_def]
    exact if_pos rfl
  | char hquote hbackslash _ ih =>
    rw [List.cons_append, Json.quotedLength?.eq_def]
    simp only [if_neg hquote, if_neg hbackslash, ih]
    rfl
  | escape hd _ ih =>
    rw [List.cons_append, List.cons_append, Json.quotedLength?.eq_def]
    simp only [if_neg (show ¬ '\\' = '"' by decide), if_true, if_neg hd, ih]
    rfl

theorem take_closed (t s : Text) : (t ++ '"' :: s).take (t.length + 1) = t ++ ['"'] := by
  rw [List.take_length_add_append]
  rfl

theorem drop_closed (t s : Text) : (t ++ '"' :: s).drop (t.length + 1) = s := by
  rw [List.drop_length_add_append]
  rfl

theorem WritesUnit.ne {n : Nat} {digits : Text} (h : WritesUnit n digits) :
    ∀ c ∈ digits, c ≠ '"' ∧ c ≠ '\\' ∧ c ≠ '\n' ∧ c ≠ '\r' := by
  intro c hc
  have hhex := h.hexadecimal c hc
  refine ⟨?_, ?_, ?_, ?_⟩ <;> (rintro rfl; exact absurd hhex (by decide))

theorem WritesUnit.enclosed {n : Nat} {digits s : Text} (h : WritesUnit n digits) (hs : Enclosed s) :
    Enclosed (digits ++ s) := by
  have hne := h.ne
  clear h
  induction digits with
  | nil => exact hs
  | cons c digits ih =>
    obtain ⟨hc, hdigits⟩ := List.forall_mem_cons.1 hne
    exact .char hc.1 hc.2.1 (ih hdigits)

theorem CharSpelled.enclosed {c : Char} {a s : Text} (h : CharSpelled c a) (hs : Enclosed s) : Enclosed (a ++ s) := by
  cases h with
  | plain _ hquote hbackslash => exact .char hquote hbackslash hs
  | @short letter _ h =>
    have hall : ∀ e ∈ shortEscapes, e.1 ≠ '\n' := by decide
    exact .escape (hall _ h) hs
  | unit hdigits _ => exact .escape (by decide) (hdigits.enclosed hs)
  | pair hhigh hlow _ _ =>
    rw [List.cons_append, List.cons_append, List.append_assoc]
    exact .escape (by decide) (hhigh.enclosed (.escape (by decide) (hlow.enclosed hs)))

theorem TextSpelled.enclosed {t body : Text} (h : TextSpelled t body) : Enclosed body := by
  induction h with
  | nil => exact .nil
  | cons hchar _ ih => exact hchar.enclosed ih

theorem CharSpelled.oneLine {c : Char} {a : Text} (h : CharSpelled c a) : Text.OneLine a := by
  have hdigits : ∀ {n : Nat} {digits : Text}, WritesUnit n digits → Text.OneLine digits := fun h c hc => (h.ne c hc).2.2
  have hunit : Text.OneLine ['\\', 'u'] := Text.forall_mem_of_all (by decide)
  cases h with
  | plain hvisible _ _ =>
    refine List.forall_mem_singleton.2 ⟨?_, ?_⟩ <;> (rintro rfl; exact absurd hvisible (by decide))
  | short h =>
    have hall : ∀ e ∈ shortEscapes, e.1 ≠ '\n' ∧ e.1 ≠ '\r' := by decide
    exact List.forall_mem_cons.2 ⟨by decide, List.forall_mem_singleton.2 (hall _ h)⟩
  | unit h _ => exact List.forall_mem_append.2 ⟨hunit, hdigits h⟩
  | pair hhigh hlow _ _ =>
    exact List.forall_mem_append.2 ⟨hunit, List.forall_mem_append.2
      ⟨hdigits hhigh, List.forall_mem_append.2 ⟨hunit, hdigits hlow⟩⟩⟩

theorem TextSpelled.oneLine {t body : Text} (h : TextSpelled t body) : Text.OneLine body := by
  induction h with
  | nil => exact fun _ hc => absurd hc List.not_mem_nil
  | cons hchar _ ih => exact List.forall_mem_append.2 ⟨hchar.oneLine, ih⟩

theorem Spelled.oneLine {t : Token} {l : Text} (h : Spelled t l) : Text.OneLine l := by
  have hmarks : ∀ c ∈ markChars, c ≠ '\n' ∧ c ≠ '\r' := Text.forall_mem_of_all (by decide)
  have hwords : ∀ c ∈ wordChars, c ≠ '\n' ∧ c ≠ '\r' := Text.forall_mem_of_all (by decide)
  rcases h.shape with ⟨-, c, hc, -, rfl⟩ | ⟨s, body, -, hbody, rfl⟩ | ⟨-, -, hall⟩
  · exact List.forall_mem_singleton.2 (hmarks c hc)
  · exact List.forall_mem_cons.2 ⟨by decide, List.forall_mem_append.2
      ⟨hbody.oneLine, Text.forall_mem_of_all (by decide)⟩⟩
  · exact fun c hc => hwords c (hall c hc)

/-! ## Passes -/

/-- **A pass over a document that keeps texts between quotes, and characters but for one.** -/
structure Pass (skip : Char) (f : Text → Text) : Prop where
  other {c : Char} (hquote : c ≠ '"') (hskip : c ≠ skip) (s : Text) : f (c :: s) = c :: f s
  quoted {t : Text} (ht : Enclosed t) (s : Text) : f ('"' :: (t ++ '"' :: s)) = '"' :: (t ++ '"' :: f s)

variable {skip : Char} {f : Text → Text}

theorem Pass.append (h : Pass skip f) {t : Text} (ht : ∀ c ∈ t, c ≠ '"' ∧ c ≠ skip) (s : Text) :
    f (t ++ s) = t ++ f s := by
  induction t with
  | nil => rfl
  | cons c t ih =>
    obtain ⟨hc, ht⟩ := List.forall_mem_cons.1 ht
    rw [List.cons_append, h.other hc.1 hc.2, ih ht, List.cons_append]

theorem Pass.spelled (h : Pass skip f) (hword : skip ∉ wordChars) {t : Token} {l : Text} (hspelled : Spelled t l)
    (hmark : mark? skip ≠ some t) (s : Text) : f (l ++ s) = l ++ f s := by
  have hmarks : ∀ c ∈ markChars, c ≠ '"' := Text.forall_mem_of_all (by decide)
  have hwords : ∀ c ∈ wordChars, c ≠ '"' := Text.forall_mem_of_all (by decide)
  rcases hspelled.shape with ⟨-, c, hc, hc', rfl⟩ | ⟨_, body, -, hbody, rfl⟩ | ⟨-, -, hall⟩
  · refine h.other (hmarks c hc) ?_ s
    rintro rfl
    exact hmark hc'
  · have hquoted := h.quoted hbody.enclosed s
    simpa only [List.cons_append, List.append_assoc, List.nil_append] using hquoted
  · refine h.append (fun c hc => ⟨hwords c (hall c hc), ?_⟩) s
    rintro rfl
    exact hword (hall c hc)

/-! ## Comments -/

theorem withoutComments_pass : Pass '/' withoutComments where
  other {c} hquote hslash s := by
    have hpiece : commentPiece c s = .keep 0 := by
      rw [commentPiece.eq_def, if_neg hquote, if_neg hslash]
    rw [withoutComments, hpiece]
    rfl
  quoted {t} ht s := by
    have hpiece : commentPiece '"' (t ++ '"' :: s) = .keep (t.length + 1) := by
      rw [commentPiece.eq_def, if_pos rfl, ht.quotedLength?]
    rw [withoutComments, hpiece]
    simp only [take_closed, drop_closed, List.append_assoc, List.cons_append, List.nil_append]

theorem offset?_ending {t : Text} (ht : ¬ ['*', '/'] <:+: t) (s : Text) :
    Text.offset? ['*', '/'] (t ++ '*' :: '/' :: s) = some t.length := by
  induction t with
  | nil => rfl
  | cons c t ih =>
    have hfirst : ¬ ['*', '/'] <+: c :: (t ++ '*' :: '/' :: s) := by
      rintro ⟨r, hr⟩
      cases t with
      | nil => cases hr
      | cons d t =>
        cases hr
        exact ht (List.prefix_append ['*', '/'] t).isInfix
    rw [List.cons_append, Text.offset?, if_neg fun h => hfirst (List.isPrefixOf_iff_prefix.1 h),
      ih fun h => ht (h.trans (List.suffix_cons c t).isInfix)]
    rfl

theorem withoutComments_block {t : Text} (ht : ¬ ['*', '/'] <:+: t) (s : Text) :
    withoutComments ('/' :: '*' :: (t ++ '*' :: '/' :: s)) = withoutComments s := by
  have hlength : blockLength? (t ++ '*' :: '/' :: s) = some (t.length + 2) := by
    rw [blockLength?, offset?_ending ht]
    rfl
  have hpiece : commentPiece '/' ('*' :: (t ++ '*' :: '/' :: s)) = .drop (1 + (t.length + 2)) := by
    rw [commentPiece.eq_def, if_neg (by decide), if_pos rfl]
    simp only [if_neg (show ¬ '*' = '/' by decide), if_true, hlength]
  rw [withoutComments, hpiece]
  simp only [Nat.add_comm 1, List.drop_succ_cons, List.drop_length_add_append, List.drop_zero]

theorem withoutComments_line {t s : Text} (ht : ∀ c ∈ t, c ≠ '\n') (hs : ∀ c ∈ s.head?, c = '\n') :
    withoutComments ('/' :: '/' :: (t ++ s)) = withoutComments s := by
  have htake : (t ++ s).takeWhile (· ≠ '\n') = t := by
    rw [Text.takeWhile_append_of_head fun c hc => by simpa using hs c hc, List.takeWhile_eq_self_iff]
    simpa using ht
  have hpiece : commentPiece '/' ('/' :: (t ++ s)) = .drop (1 + t.length) := by
    rw [commentPiece.eq_def, if_neg (by decide), if_pos rfl]
    simp only [if_true, htake]
  rw [withoutComments, hpiece]
  simp only [Nat.add_comm 1, List.drop_succ_cons, List.drop_left]

open Text (unifyLineEnds unifyLineEnds_cons unifyLineEnds_return)

/-- **Before what follows it, only white space is left of a text.** -/
def Clears (g s : Text) : Prop :=
  ∃ b, Blank b ∧ withoutComments (unifyLineEnds (g ++ s)) = b ++ withoutComments (unifyLineEnds s)

theorem Clears.nil (s : Text) : Clears [] s := ⟨[], fun _ hc => absurd hc List.not_mem_nil, rfl⟩

/-- White space is left, and a line end may have become another. -/
theorem Clears.blank {c : Char} {g g' s : Text} (h : Clears g s) (hc : isGap c = true)
    (heq : unifyLineEnds (g' ++ s) = c :: unifyLineEnds (g ++ s)) : Clears g' s := by
  have hall : ∀ c ∈ " \t\n\r".toList, c ≠ '"' ∧ c ≠ '/' := Text.forall_mem_of_all (by decide)
  obtain ⟨hquote, hslash⟩ := hall c (mem_of_isGap hc)
  obtain ⟨b, hb, hclear⟩ := h
  refine ⟨c :: b, List.forall_mem_cons.2 ⟨hc, hb⟩, ?_⟩
  rw [heq, withoutComments_pass.other hquote hslash, hclear, List.cons_append]

theorem Clears.of_eq {g g' s : Text} (h : Clears g s)
    (heq : withoutComments (unifyLineEnds (g' ++ s)) = withoutComments (unifyLineEnds (g ++ s))) : Clears g' s := by
  obtain ⟨b, hb, hclear⟩ := h
  exact ⟨b, hb, heq.trans hclear⟩

theorem Clears.return {g s : Text} (h : Clears g s) (hhead : (g ++ s).head? ≠ some '\n') : Clears ('\r' :: g) s :=
  h.blank (c := '\n') rfl (unifyLineEnds_return hhead)

theorem Clears.block {t g s : Text} (h : Clears g s) (ht : ¬ ['*', '/'] <:+: t) :
    Clears ('/' :: '*' :: (t ++ '*' :: '/' :: g)) s := by
  have ht' : ¬ ['*', '/'] <:+: unifyLineEnds t :=
    fun hin => ht (Text.infix_of_unifyLineEnds (by decide) (by decide) hin)
  refine h.of_eq ?_
  simp only [List.cons_append, List.append_assoc]
  rw [unifyLineEnds_cons (by decide), unifyLineEnds_cons (by decide), Text.unifyLineEnds_append t (by simp),
    unifyLineEnds_cons (by decide), unifyLineEnds_cons (by decide), withoutComments_block ht']

theorem unifyLineEnds_comment {t : Text} (ht : Text.OneLine t) (s : Text) :
    unifyLineEnds ('/' :: '/' :: (t ++ s)) = '/' :: '/' :: (t ++ unifyLineEnds s) := by
  rw [unifyLineEnds_cons (by decide), unifyLineEnds_cons (by decide), ht.unifyLineEnds_append]

theorem Clears.line {t g s : Text} {c : Char} (h : Clears (c :: g) s) (ht : Text.OneLine t)
    (hc : c = '\n' ∨ c = '\r') : Clears ('/' :: '/' :: (t ++ c :: g)) s := by
  have hend : ∀ d ∈ (unifyLineEnds (c :: (g ++ s))).head?, d = '\n' := by
    rw [Text.head?_unifyLineEnds hc]
    rintro _ ⟨⟩
    rfl
  refine h.of_eq ?_
  simp only [List.cons_append, List.append_assoc]
  rw [unifyLineEnds_comment ht, withoutComments_line (fun d hd => (ht d hd).1) hend]

/-- **Only white space is left of a gap.**  A line end may have its two halves on both sides of the place where a gap
goes on, so what the gap leaves after a carriage return is said with it. -/
theorem Gap.clears {g : Text} (h : Gap g) {s : Text} (hs : s.head? ≠ some '\n') :
    Clears g s ∧ Clears ('\r' :: g) s := by
  have hblank : ∀ {c : Char} {g : Text}, isGap c = true → Clears g s ∧ Clears ('\r' :: g) s → Clears (c :: g) s := by
    intro c g hc h
    by_cases hreturn : c = '\r'
    · rw [hreturn]
      exact h.2
    · exact h.1.blank hc (unifyLineEnds_cons hreturn _)
  induction h with
  | nil => exact ⟨.nil s, (Clears.nil s).return hs⟩
  | @blank c g hc _ ih =>
    have hself := hblank hc ih
    refine ⟨hself, ?_⟩
    by_cases hend : c = '\n'
    · rw [hend]
      exact ih.1.blank (c := '\n') rfl rfl
    · exact hself.return (by simpa using hend)
  | block ht _ ih =>
    have hself := ih.1.block ht
    exact ⟨hself, hself.return (by simp)⟩
  | @line t c g ht hc _ ih =>
    have hself := (hblank (by rcases hc with rfl | rfl <;> rfl) ih).line ht hc
    exact ⟨hself, hself.return (by simp)⟩

/-- **Comments are taken out of a document, and its tokens stay as they are spelled.** -/
theorem Woven.withoutComments {lexemes : List Text} {s : Text} (h : Woven Gap LastGap lexemes s) :
    ∀ {tokens : List Token}, List.Forall₂ Spelled tokens lexemes →
      Woven Blank Blank lexemes (Json.withoutComments (unifyLineEnds s)) := by
  induction h with
  | done h =>
    intro tokens _
    cases h with
    | @gap g hg =>
      obtain ⟨b, hb, hclear⟩ := (hg.clears (s := []) (by simp)).1
      rw [List.append_nil] at hclear
      rw [hclear, unifyLineEnds, Json.withoutComments, List.append_nil]
      exact .done hb
    | @line g t hg ht =>
      obtain ⟨b, hb, hclear⟩ := (hg.clears (s := '/' :: '/' :: t) (by simp)).1
      have hline := withoutComments_line (s := []) (fun d hd => (ht d hd).1) (by simp)
      have hunify := unifyLineEnds_comment ht []
      rw [unifyLineEnds, List.append_nil] at hunify
      rw [hclear, hunify]
      rw [List.append_nil] at hline
      rw [hline, Json.withoutComments, List.append_nil]
      exact .done hb
  | @more g l s ls hg _ ih =>
    intro tokens hspelled
    cases hspelled with
    | cons ht hts =>
      have hhead : (l ++ s).head? ≠ some '\n' := by
        have hline := ht.oneLine
        obtain ⟨c, r, rfl, -⟩ := ht.head
        simpa using (hline c (List.mem_cons_self ..)).1
      obtain ⟨b, hb, hclear⟩ := (hg.clears hhead).1
      rw [hclear, ht.oneLine.unifyLineEnds_append, withoutComments_pass.spelled (by decide) ht (by simp [mark?])]
      exact .more hb (ih hts)

/-! ## Last commas -/

theorem withoutLastCommas_pass : Pass ',' withoutLastCommas where
  other hquote hcomma s := by rw [withoutLastCommas, if_neg hquote, if_neg fun h => hcomma h.1]
  quoted ht s := by
    rw [withoutLastCommas, if_pos rfl]
    simp only [ht.quotedLength?, take_closed, drop_closed, List.append_assoc, List.cons_append, List.nil_append]

theorem eq_of_endComesNext {s : Text} (h : endComesNext s = true) :
    ∃ c r, s = s.takeWhile Text.isBlank ++ c :: r ∧ (c = '\x7d' ∨ c = ']') := by
  have hsplit := List.takeWhile_append_dropWhile (p := Text.isBlank) (l := s)
  unfold endComesNext at h
  split at h
  · rename_i c r hdrop
    rw [hdrop] at hsplit
    exact ⟨c, r, hsplit.symm, by simpa using h⟩
  · cases h

theorem withoutLastCommas_comma {s : Text} (h : endComesNext s = true) :
    withoutLastCommas (',' :: s) = withoutLastCommas s := by
  obtain ⟨c, r, hs, hc⟩ := eq_of_endComesNext h
  have hblank : ∀ d ∈ s.takeWhile Text.isBlank, d ≠ '"' ∧ d ≠ ',' := by
    intro d hd
    have hd := List.all_eq_true.1 List.all_takeWhile d hd
    constructor <;> (rintro rfl; exact absurd hd (by decide))
  have hend : c ≠ '"' ∧ c ≠ ',' := by rcases hc with rfl | rfl <;> decide
  rw [withoutLastCommas, if_neg (by decide), if_pos ⟨rfl, h⟩]
  generalize s.takeWhile Text.isBlank = b at hs hblank
  subst hs
  dsimp only
  rw [withoutLastCommas_pass.append hblank, withoutLastCommas_pass.other hend.1 hend.2, List.take_length_add_append,
    List.drop_length_add_append]
  simp

theorem Spelled.isEnd {t : Token} {l : Text} (h : Spelled t l) :
    ∃ c r, l = c :: r ∧ t.isEnd = (decide (c = '\x7d') || decide (c = ']')) := by
  have hmarks : ∀ c ∈ markChars, (mark? c).map Token.isEnd = some (decide (c = '\x7d') || decide (c = ']')) := Text.forall_mem_of_all (by decide)
  have hwords : ∀ c ∈ wordChars, (decide (c = '\x7d') || decide (c = ']')) = false := Text.forall_mem_of_all (by decide)
  have hend : ∀ {t : Token}, t.isMark = false → t.isEnd = false := by
    intro t ht
    cases t <;> first | rfl | cases ht
  rcases h.shape with ⟨-, c, hc, hmark, rfl⟩ | ⟨_, body, rfl, -, rfl⟩ | ⟨hmark, hne, hall⟩
  · have hc := hmarks c hc
    rw [hmark] at hc
    exact ⟨c, [], rfl, Option.some.inj hc⟩
  · exact ⟨_, _, rfl, rfl⟩
  · obtain ⟨c, r, rfl⟩ := List.exists_cons_of_ne_nil hne
    exact ⟨c, r, rfl, (hend hmark).trans (hwords c (hall c (List.mem_cons_self ..))).symm⟩

def endsNext (tokens : List Token) : Bool := tokens.head?.any Token.isEnd

/-- **Tokens without commas that stand last.** -/
def dropLastCommas : List Token → List Token
  | [] => []
  | .comma :: tokens => if endsNext tokens then dropLastCommas tokens else .comma :: dropLastCommas tokens
  | t :: tokens => t :: dropLastCommas tokens

theorem isBlank_of_isGap {c : Char} (h : isGap c = true) : Text.isBlank c = true := by
  have hall : ∀ c ∈ " \t\n\r".toList, Text.isBlank c = true := Text.forall_mem_of_all (by decide)
  exact hall c (mem_of_isGap h)

/-- Whether an end comes next is seen of the tokens as well. -/
theorem Woven.endComesNext {tokens : List Token} {lexemes : List Text} {s : Text} (h : Woven Blank Blank lexemes s)
    (hspelled : List.Forall₂ Spelled tokens lexemes) : Json.endComesNext s = endsNext tokens := by
  cases h with
  | done h =>
    cases hspelled
    have hdrop : s.dropWhile Text.isBlank = [] :=
      List.dropWhile_eq_nil_iff.2 fun c hc => isBlank_of_isGap (h c hc)
    rw [Json.endComesNext, hdrop]
    rfl
  | @more g l s ls hg _ =>
    cases hspelled with
    | @cons t _ ts _ ht _ =>
      have hall : ∀ c ∈ markChars ++ '"' :: wordChars, Text.isBlank c = false := Text.forall_mem_of_all (by decide)
      have hdrop : (g ++ (l ++ s)).dropWhile Text.isBlank = l ++ s := by
        obtain ⟨c, r, rfl, hc⟩ := ht.head
        rw [List.dropWhile_append_of_pos fun d hd => isBlank_of_isGap (hg d hd), List.cons_append,
          List.dropWhile_cons_of_neg (by rw [hall c hc]; exact Bool.false_ne_true)]
      obtain ⟨c, r, rfl, hc⟩ := ht.isEnd
      rw [Json.endComesNext, hdrop]
      exact hc.symm

theorem dropLastCommas_cons {t : Token} (ht : t ≠ .comma) (tokens : List Token) :
    dropLastCommas (t :: tokens) = t :: dropLastCommas tokens := by
  cases t <;> first | rfl | exact absurd rfl ht

theorem dropLastCommas_named (name : Option Text) (tokens : List Token) :
    dropLastCommas (nameTokens name ++ tokens) = nameTokens name ++ dropLastCommas tokens := by
  cases name <;> rfl

/-- **Commas that stand last are taken out of a document, and its other tokens stay as they are spelled.** -/
theorem Woven.withoutLastCommas {lexemes : List Text} {s : Text} (h : Woven Blank Blank lexemes s) :
    ∀ {tokens : List Token}, List.Forall₂ Spelled tokens lexemes →
      ∃ lexemes', List.Forall₂ Spelled (dropLastCommas tokens) lexemes' ∧
        Woven Blank Blank lexemes' (Json.withoutLastCommas s) := by
  have hgap : ∀ {b : Text}, Blank b → ∀ s, Json.withoutLastCommas (b ++ s) = b ++ Json.withoutLastCommas s := by
    intro b hb s
    have hall : ∀ c ∈ " \t\n\r".toList, c ≠ '"' ∧ c ≠ ',' := Text.forall_mem_of_all (by decide)
    exact withoutLastCommas_pass.append (fun c hc => hall c (mem_of_isGap (hb c hc))) s
  induction h with
  | @done s h =>
    intro tokens hspelled
    cases hspelled
    have hnone := hgap h []
    rw [Json.withoutLastCommas, List.append_nil] at hnone
    rw [hnone]
    exact ⟨[], .nil, .done h⟩
  | @more g l s ls hg hrest ih =>
    intro tokens hspelled
    cases hspelled with
    | @cons t _ ts _ ht hts =>
      obtain ⟨ls', hspelled', hwoven⟩ := ih hts
      rw [hgap hg]
      by_cases hcomma : t = .comma
      · subst hcomma
        cases ht
        have hends := hrest.endComesNext hts
        rw [List.singleton_append, dropLastCommas]
        cases hnext : endsNext ts with
        | true =>
          rw [withoutLastCommas_comma (hends.trans hnext), if_pos rfl]
          exact ⟨ls', hspelled', hwoven.blank_append hg⟩
        | false =>
          have hkept : Json.withoutLastCommas (',' :: s) = ',' :: Json.withoutLastCommas s := by
            rw [Json.withoutLastCommas, if_neg (by decide), if_neg fun h => by
              rw [hends, hnext] at h
              exact Bool.false_ne_true h.2]
          rw [hkept, if_neg Bool.false_ne_true]
          exact ⟨[','] :: ls', .cons .comma hspelled', .more hg hwoven⟩
      · have hmark : mark? ',' ≠ some t := fun h => hcomma (Option.some.inj h).symm
        rw [withoutLastCommas_pass.spelled (by decide) ht hmark, dropLastCommas_cons hcomma]
        exact ⟨l :: ls', .cons ht hspelled', .more hg hwoven⟩

/-! ## Phrases without last commas -/

mutual

/-- **Without its last commas a relaxed phrase is a strict phrase of the same value**, whatever follows it. -/
theorem Phrase.dropLastCommas : ∀ {v : Value} {tokens : List Token}, Phrase true v tokens →
    ∃ tokens', Phrase false v tokens' ∧ ∀ rest, Json.dropLastCommas (tokens ++ rest) = tokens' ++ Json.dropLastCommas rest
  | _, _, .null => ⟨_, .null, fun _ => rfl⟩
  | _, _, .bool b => ⟨_, .bool b, fun _ => rfl⟩
  | _, _, .int n => ⟨_, .int n, fun _ => rfl⟩
  | _, _, .text t => ⟨_, .text t, fun _ => rfl⟩
  | _, _, .list h => by
    obtain ⟨tokens', h', hdrop⟩ := h.dropLastCommas
    refine ⟨_, .list h', fun rest => ?_⟩
    have hitems := hdrop .closeList rest rfl
    rw [dropLastCommas_cons (by simp)] at hitems
    rw [List.cons_append, dropLastCommas_cons (by simp), List.append_assoc, List.singleton_append, hitems]
    simp
  | _, _, .record h => by
    obtain ⟨tokens', h', hdrop⟩ := h.dropLastCommas
    refine ⟨_, .record h', fun rest => ?_⟩
    have hfields := hdrop .closeRecord rest rfl
    rw [dropLastCommas_cons (by simp)] at hfields
    rw [List.cons_append, dropLastCommas_cons (by simp), List.append_assoc, List.singleton_append, hfields]
    simp

/-- The members of a list or record keep their commas but for one before its end. -/
theorem Members.dropLastCommas : ∀ {members : List (Option Text × Value)} {tokens : List Token},
    Members true members tokens → ∃ tokens', Members false members tokens' ∧ ∀ t rest, t.isEnd = true →
      Json.dropLastCommas (tokens ++ t :: rest) = tokens' ++ Json.dropLastCommas (t :: rest)
  | _, _, .none => ⟨_, .none, fun _ _ _ => rfl⟩
  | _, _, @Members.last _ name _ _ h => by
    obtain ⟨tokens', h', hdrop⟩ := h.dropLastCommas
    refine ⟨_, .last h', fun t rest _ => ?_⟩
    rw [List.append_assoc, dropLastCommas_named, hdrop, List.append_assoc]
  | _, _, @Members.lastComma _ name _ _ _ h => by
    obtain ⟨tokens', h', hdrop⟩ := h.dropLastCommas
    refine ⟨_, .last h', fun t rest ht => ?_⟩
    have hcomma : Json.dropLastCommas (.comma :: t :: rest) = Json.dropLastCommas (t :: rest) := if_pos ht
    rw [List.append_assoc, List.append_assoc, List.singleton_append, dropLastCommas_named, hdrop, hcomma,
      List.append_assoc]
  | _, _, @Members.more _ name _ _ _ _ _ h hrest => by
    obtain ⟨tokens', h', hdrop⟩ := h.dropLastCommas
    obtain ⟨rest', hrest', hdroprest⟩ := hrest.dropLastCommas
    refine ⟨_, .more h' hrest', fun t r ht => ?_⟩
    obtain ⟨first, others, hfirst, hend⟩ := hrest.head (List.cons_ne_nil _ _)
    have hcomma : ∀ s, Json.dropLastCommas (.comma :: (first :: others ++ s)) =
        .comma :: Json.dropLastCommas (first :: others ++ s) := fun s => if_neg (by simp [endsNext, hend])
    rw [← hfirst] at hcomma
    rw [List.append_assoc, List.append_assoc, List.cons_append, dropLastCommas_named, hdrop, hcomma, hdroprest t r ht]
    simp only [List.append_assoc, List.cons_append]

end

theorem Written.strict {v : Value} {document : Text} (h : Written v document) :
    WrittenStrictly v (Json.strict (unifyLineEnds document)) := by
  obtain ⟨tokens, lexemes, hphrase, hspelled, hwoven⟩ := h
  obtain ⟨tokens', hphrase', hdrop⟩ := hphrase.dropLastCommas
  have htokens := hdrop []
  rw [List.append_nil, Json.dropLastCommas, List.append_nil] at htokens
  obtain ⟨lexemes', hspelled', hwoven'⟩ := (hwoven.withoutComments hspelled).withoutLastCommas hspelled
  rw [htokens] at hspelled'
  exact ⟨tokens', lexemes', hphrase', hspelled', hwoven'⟩

theorem WrittenStrictly.isBlankText {v : Value} {document : Text} (h : WrittenStrictly v document) :
    Text.isBlankText document = false := by
  have hall : ∀ c ∈ markChars ++ '"' :: wordChars, Text.isBlank c = false := Text.forall_mem_of_all (by decide)
  obtain ⟨tokens, lexemes, hphrase, hspelled, hwoven⟩ := h
  obtain ⟨g, c, r, rfl, -, hc⟩ := hwoven.lead hspelled hphrase.ne_nil
  simp [Text.isBlankText, hall c hc]

/-- **A relaxed document is read as the value that it was written of.**  Neither comments, wherever they stand and
whatever they hold, nor a comma before an end make a difference, nor does the kind of its line ends. -/
theorem Written.readRelaxed {v : Value} {document : Text} (h : Written v document) :
    readRelaxed (unifyLineEnds document) = .ok v := by
  simp only [Json.readRelaxed, h.strict.isBlankText, Bool.false_eq_true, if_false, h.strict.read]

theorem Written.unique {v w : Value} {document : Text} (hv : Written v document) (hw : Written w document) : v = w :=
  Except.ok.inj (hv.readRelaxed.symm.trans hw.readRelaxed)

end Json
end ViewAtlas
