import ViewAtlas.Proofs.Template.Parameters
import ViewAtlas.Proofs.Text.Occurrence
/-!
# What masking covers

Matches are taken from left to right and do not overlap, so an expression written inside of another one is no match of
its own.  But then the match that it stands in reaches over its body (`bodies_cover`).  So the body of every expression
that is written in a template is blank in the masked template (`mask_written`).
-/
namespace ViewAtlas

namespace Template

/-! ## Matches in matches -/

/-- **Matches that nest**: one that begins in another one has its body in the body of that one. -/
def Nests (find? : Text → Option BodyMatch) : Prop := ∀ (s : Text) (m : BodyMatch) (k : Nat) (m' : BodyMatch),
  find? s = some m → find? (s.drop k) = some m' → 0 < k → k < m.taken →
    m.lead ≤ k + m'.lead ∧ k + m'.lead + m'.length ≤ m.lead + m.length

/-- **Every match is covered** by the body of one that is taken. -/
theorem bodies_cover {find? : Text → Option BodyMatch} (hn : Nests find?) (pos : Nat) {s : Text} {k : Nat}
    {m : BodyMatch} (hm : find? (s.drop k) = some m) (hk : k < s.length) :
    ∃ b ∈ bodies find? pos s, b.start ≤ pos + k + m.lead ∧ pos + k + m.lead + m.length ≤ b.stop := by
  fun_induction bodies find? pos s generalizing k with
  | case1 => simp at hk
  | case2 pos c r hnone ih =>
    cases k with
    | zero =>
      rw [List.drop_zero, hnone] at hm
      cases hm
    | succ k =>
      rw [List.length_cons] at hk
      have h := ih hm (by omega)
      rwa [show pos + 1 + k = pos + (k + 1) by omega] at h
  | case3 pos c r first hfirst ih =>
    by_cases hlt : k < 1 + (first.taken - 1)
    · -- the match begins in the one that is taken, or is that one
      refine ⟨_, List.mem_cons_self .., ?_⟩
      dsimp only
      rcases Nat.eq_zero_or_pos k with rfl | hpos
      · rw [List.drop_zero, hfirst] at hm
        cases hm
        omega
      · have := hn _ first k m hfirst hm hpos (by omega)
        omega
    · obtain ⟨j, rfl⟩ : ∃ j, k = first.taken - 1 + j + 1 := ⟨k - 1 - (first.taken - 1), by omega⟩
      rw [List.length_cons] at hk
      rw [List.drop_succ_cons, ← List.drop_drop] at hm
      obtain ⟨b, hb, h⟩ := ih hm (by rw [List.length_drop]; omega)
      refine ⟨b, List.mem_cons_of_mem _ hb, ?_⟩
      rwa [show pos + (first.taken - 1 + j + 1) = pos + 1 + (first.taken - 1) + j by omega]

namespace Expression

/-- Behind its first character, an opening holds no `@`; so what begins in an expression behind its `@` begins behind
its opening. -/
theorem drop_opening {e : Expression} {s r r' : Text} {k : Nat} (h : e.opening? s = some r) (hk : 0 < k)
    (h' : e.opening? (s.drop k) = some r') (he : e ≠ interpolation) :
    s.length - r.length ≤ k ∧ s.drop k = r.drop (k - (s.length - r.length)) := by
  obtain ⟨rfl, -⟩ | ⟨-, w, rfl, hw⟩ := eq_of_opening? h
  · exact absurd rfl he
  obtain ⟨rfl, -⟩ | ⟨-, v, hv, -⟩ := eq_of_opening? h'
  · exact absurd rfl he
  obtain ⟨k, rfl⟩ := Nat.exists_eq_add_one.2 hk
  have hlead : ('@' :: (w ++ r)).length - r.length = w.length + 1 := by simp; omega
  have hle : w.length ≤ k := by
    by_contra hlt
    have hat : (w ++ r)[k]? = some '@' := by
      rw [← List.head?_drop, ← List.drop_succ_cons, hv]
      rfl
    rw [List.getElem?_append_left (by omega)] at hat
    exact absurd (List.mem_cons_self ..) (hw _ (List.mem_of_getElem? hat))
  rw [hlead, List.drop_succ_cons, Nat.add_sub_add_right, List.drop_append, List.drop_eq_nil_of_le hle, List.nil_append]
  exact ⟨by omega, rfl⟩

theorem nests_interpolation : Nests interpolation? := by
  intro s m k m' hm hm' hk hlt
  rw [interpolation?_eq] at hm hm'
  obtain ⟨r, hr, hm⟩ := Option.bind_eq_some_iff.1 hm
  obtain ⟨r', hr', hm'⟩ := Option.bind_eq_some_iff.1 hm'
  obtain ⟨n, hn, rfl⟩ := Option.map_eq_some_iff.1 hm
  obtain ⟨n', hn', rfl⟩ := Option.map_eq_some_iff.1 hm'
  have hs : s = '{' :: '{' :: r := Text.eq_append_of_after? hr
  have hs' : s.drop k = '{' :: '{' :: r' := Text.eq_append_of_after? hr'
  have hlead : s.length - r.length = 2 := by
    rw [hs, List.length_cons, List.length_cons]
    omega
  have hlead' : (s.drop k).length - r'.length = 2 := by
    rw [hs', List.length_cons, List.length_cons]
    omega
  rw [hlead] at hlt ⊢
  rw [hlead']
  dsimp only at hlt ⊢
  -- it begins before the braces that close the first one, so these close it as well
  have hle : k ≤ n := by
    obtain ⟨a, b, rfl, rfl⟩ := Text.eq_append_of_offset? hn
    have hclose : ∀ i, i = a.length + 2 ∨ i = a.length + 3 → s[i]? = some '}' := by
      rintro i (rfl | rfl) <;> simp [hs]
    have hopen : ∀ i, i = k ∨ i = k + 1 → s[i]? = some '{' := by
      rintro i (rfl | rfl)
      · rw [← List.head?_drop, hs']
        rfl
      · rw [← List.head?_drop, ← List.drop_drop, hs']
        rfl
    by_contra hgt
    rcases (by omega : k + 1 = a.length + 2 ∨ k = a.length + 2 ∨ k = a.length + 3) with h | h | h
    · exact absurd ((hclose _ (.inl h)).symm.trans (hopen _ (.inr rfl))) (by decide)
    · exact absurd ((hclose _ (.inl h)).symm.trans (hopen _ (.inl rfl))) (by decide)
    · exact absurd ((hclose _ (.inr h)).symm.trans (hopen _ (.inl rfl))) (by decide)
  have hdrop : r.drop k = r' := by
    have h := congrArg (List.drop 2) hs'
    rwa [List.drop_drop, Nat.add_comm, ← List.drop_drop, hs] at h
  have hend := Text.offset?_drop hn hle
  rw [hdrop, hn', Option.some.injEq] at hend
  omega

theorem nests_declaration : Nests declaration? := by
  intro s m k m' hm hm' hk hlt
  rw [declaration?_eq] at hm hm'
  obtain ⟨r, hr, hm⟩ := Option.bind_eq_some_iff.1 hm
  obtain ⟨r', hr', hm'⟩ := Option.bind_eq_some_iff.1 hm'
  obtain ⟨n, hn, rfl⟩ := Option.map_eq_some_iff.1 hm
  obtain ⟨n', hn', rfl⟩ := Option.map_eq_some_iff.1 hm'
  obtain ⟨hle, hdrop⟩ := drop_opening hr hk hr' nofun
  have hlen := opening?_le hr
  dsimp only at hlt ⊢
  generalize hj : k - (s.length - r.length) = j at hdrop
  rw [hdrop] at hr' ⊢
  obtain ⟨hne, -⟩ | ⟨-, w, hw, hopening⟩ := eq_of_opening? hr'
  · cases hne
  -- its opening holds no `;`, so it lies before the one that ends the first one
  have hbefore : j + (w.length + 1) ≤ n := by
    obtain ⟨a, b, rfl, rfl⟩ := Text.eq_append_of_offset? hn
    by_contra hgt
    have hat : ('@' :: (w ++ r'))[a.length - j]? = some ';' := by
      rw [← hw, List.getElem?_drop, Nat.add_sub_cancel' (by omega)]
      simp
    cases hi : a.length - j with
    | zero =>
      rw [hi] at hat
      cases hat
    | succ i =>
      rw [hi, List.getElem?_cons_succ, List.getElem?_append_left (by omega)] at hat
      exact absurd (List.mem_of_getElem? hat) fun h => hopening _ h (by decide)
  have hrest : r.drop (j + (w.length + 1)) = r' := by
    rw [← List.drop_drop, hw, List.drop_succ_cons, List.drop_left]
  have hend := Text.offset?_drop hn hbefore
  rw [hrest, hn', Option.some.injEq] at hend
  have hlead' : (r.drop j).length - r'.length = w.length + 1 := by
    rw [hw, List.length_cons, List.length_append]
    omega
  omega

theorem nests_block : Nests block? := by
  intro s m k m' hm hm' hk hlt
  rw [block?_eq] at hm hm'
  obtain ⟨r, hr, rfl⟩ := Option.map_eq_some_iff.1 hm
  obtain ⟨r', hr', -⟩ := Option.map_eq_some_iff.1 hm'
  -- a match takes only its opening, and no other one begins there
  have hle := (drop_opening hr hk hr' nofun).1
  dsimp only at hlt
  omega

theorem nests_match? : ∀ e : Expression, Nests e.match?
  | interpolation => nests_interpolation
  | declaration => nests_declaration
  | block => nests_block

/-! ## Expressions that are written -/

end Expression

/-- **The opening of a declaration**: `@let`, blanks, a name, blanks or none, and `=`. -/
inductive DeclarationOpening : Text → Prop where
  | intro {apart name gap : Text} (hapart : apart ≠ [] ∧ ∀ c ∈ apart, Text.isBlank c = true)
      (hname : name ≠ [] ∧ ∀ c ∈ name, isDeclaredNameChar c = true) (hgap : ∀ c ∈ gap, Text.isBlank c = true) :
      DeclarationOpening ("@let".toList ++ (apart ++ (name ++ (gap ++ ['=']))))

def blankRanges : List (Nat × Nat) :=
  [(0x85, 0x85), (0xA0, 0xA0), (0x1680, 0x1680), (0x2000, 0x200A), (0x2028, 0x2029), (0x202F, 0x202F),
   (0x205F, 0x205F), (0x3000, 0x3000)]

theorem isDeclaredNameChar_of_isBlank {c : Char} (h : Text.isBlank c = true) : isDeclaredNameChar c = false := by
  by_cases hc : c.toNat < 128
  · exact forall_ascii (p := fun c => Text.isBlank c = true → isDeclaredNameChar c = false) (by decide +kernel) hc h
  have hblank : Text.inRanges blankRanges c.toNat = true := by
    unfold Text.isBlank at h
    simp only [Bool.or_eq_true, Bool.and_eq_true, decide_eq_true_eq, beq_iff_eq] at h
    simp only [Text.inRanges, blankRanges, List.any_cons, List.any_nil, Bool.or_eq_true, Bool.and_eq_true,
      decide_eq_true_eq]
    omega
  obtain ⟨b, hb, hin⟩ := List.any_eq_true.1 hblank
  rw [Bool.and_eq_true, decide_eq_true_eq, decide_eq_true_eq] at hin
  have hapart : (Text.letterRanges ++ Text.numeralRanges).all (fun r =>
      blankRanges.all fun b => Nat.blt r.2 b.1 || Nat.blt b.2 r.1) = true := by decide +kernel
  have hout : ∀ ranges, ranges ⊆ Text.letterRanges ++ Text.numeralRanges → Text.inRanges ranges c.toNat = false := by
    intro ranges hsub
    refine List.any_eq_false.2 fun r hr => ?_
    have hrb := List.all_eq_true.1 (List.all_eq_true.1 hapart r (hsub hr)) b hb
    rw [Bool.or_eq_true, Nat.blt_eq, Nat.blt_eq] at hrb
    rw [Bool.and_eq_true, decide_eq_true_eq, decide_eq_true_eq]
    omega
  have hne : ∀ d : Char, d.toNat < 128 → c ≠ d := fun d hd e => hc (e ▸ hd)
  simp only [isDeclaredNameChar, Text.isWordChar, Text.isAlphanumeric, if_neg hc, hne '$' (by decide),
    hne '_' (by decide), hout _ (List.subset_append_left ..), hout _ (List.subset_append_right ..)]
  rfl

theorem isBlank_of_isDeclaredNameChar {c : Char} (h : isDeclaredNameChar c = true) : Text.isBlank c = false := by
  by_contra hb
  rw [isDeclaredNameChar_of_isBlank (Bool.not_eq_false _ ▸ hb)] at h
  cases h

theorem DeclarationOpening.opening? {o : Text} (ho : DeclarationOpening o) (x : Text) :
    Expression.declaration.opening? (o ++ x) = some x := by
  obtain @⟨apart, name, gap, ⟨hne, hapart⟩, ⟨hnn, hname⟩, hgap⟩ := ho
  obtain ⟨a, apart, rfl⟩ := List.exists_cons_of_ne_nil hne
  obtain ⟨n, name, rfl⟩ := List.exists_cons_of_ne_nil hnn
  have hskip : skipBlanks (a :: apart ++ (n :: name ++ (gap ++ '=' :: x))) = n :: name ++ (gap ++ '=' :: x) :=
    skipBlanks_append hapart (isBlank_of_isDeclaredNameChar (hname n (List.mem_cons_self ..))) _
  have hstop : ∀ c ∈ (gap ++ '=' :: x).head?, isDeclaredNameChar c = false := by
    cases gap with
    | nil => rintro c hc; cases hc; decide
    | cons b gap => rintro c hc; cases hc; exact isDeclaredNameChar_of_isBlank (hgap _ (List.mem_cons_self ..))
  have hall : (n :: name).dropWhile isDeclaredNameChar = [] := List.dropWhile_eq_nil_iff.2 hname
  have hdrop : (n :: name ++ (gap ++ '=' :: x)).dropWhile isDeclaredNameChar = gap ++ '=' :: x := by
    rw [Text.dropWhile_append_of_head hstop, hall, List.nil_append]
  have hgapped : skipBlanks (gap ++ '=' :: x) = '=' :: x := skipBlanks_append hgap (by decide) x
  have ha : Text.isBlank a = true := hapart a (List.mem_cons_self ..)
  have hn : isDeclaredNameChar n = true := hname n (List.mem_cons_self ..)
  have hassoc : "@let".toList ++ (a :: apart ++ (n :: name ++ (gap ++ ['=']))) ++ x =
      "@let".toList ++ (a :: apart ++ (n :: name ++ (gap ++ '=' :: x))) := by simp
  rw [hassoc, Expression.opening?, Text.after?_append, Option.bind_eq_bind, Option.bind_some, hskip]
  dsimp only
  rw [hdrop, hgapped, List.cons_append, List.cons_append, List.head?_cons, List.head?_cons, Option.any_some,
    Option.any_some, ha, hn]
  rfl

namespace Expression

/-- **An expression that is written out**: its opening, its body, and what follows the body.  An interpolation ends with
its first two closing braces, a declaration with its first `;`, and the parameter of a block where the scan for its
closing parenthesis ends. -/
inductive Written : Expression → (o body rest : Text) → Prop where
  | interpolation {body rest : Text} (hend : Text.FirstBehind ['}', '}'] body) :
      Written .interpolation ['{', '{'] body ('}' :: '}' :: rest)
  | declaration {o body rest : Text} (ho : DeclarationOpening o) (hend : ';' ∉ body) :
      Written .declaration o body (';' :: rest)
  | parameter {o body rest : Text} (ho : BlockOpening o) (hend : body.length = parameterLength 1 none (body ++ rest)) :
      Written .block o body rest

variable {e : Expression} {o body rest : Text}

theorem Written.match? (h : e.Written o body rest) :
    e.match? (o ++ (body ++ rest)) = some (e.found o.length body.length) := by
  have hlead : (o ++ (body ++ rest)).length - (body ++ rest).length = o.length := by
    rw [List.length_append, Nat.add_sub_cancel]
  rw [← hlead]
  cases h with
  | @interpolation body rest hend =>
    exact match?_eq_found (Text.after?_append _ _) (Text.offset?_append_of_first (List.cons_ne_nil _ _) rest hend)
  | @declaration _ body rest ho hend =>
    refine match?_eq_found (ho.opening? _) (Text.offset?_append_of_first (List.cons_ne_nil _ _) rest fun h => hend ?_)
    exact (List.append_nil body ▸ h.subset) (List.mem_singleton_self _)
  | parameter ho hend => rw [Expression.match?, block?_eq, ho.opening?, Option.map_some, ← hend, found]

theorem Written.covered (h : e.Written o body rest) (a : Text) :
    ∃ b ∈ expressionSpans (a ++ (o ++ (body ++ rest))), b.start ≤ a.length + o.length ∧
      a.length + o.length + body.length ≤ b.stop := by
  have hm := h.match?
  have hfound : (e.found o.length body.length).lead = o.length ∧ (e.found o.length body.length).length = body.length := by
    cases e <;> exact ⟨rfl, rfl⟩
  have hne : o ≠ [] := by
    cases h with
    | interpolation => exact List.cons_ne_nil _ _
    | declaration ho => obtain ⟨_, _, _⟩ := ho; exact List.cons_ne_nil _ _
    | parameter ho => obtain ⟨_, rfl, -⟩ := ho.eq_cons; exact List.cons_ne_nil _ _
  have hlt : a.length < (a ++ (o ++ (body ++ rest))).length := by
    have := List.length_pos_iff.2 hne
    simp only [List.length_append]
    omega
  obtain ⟨b, hb, hcover⟩ := bodies_cover (nests_match? e) 0 (by rwa [List.drop_left]) hlt
  exact ⟨b, mem_expressionsFrom.2 ⟨e, hb⟩, by omega, by omega⟩

end Expression

/-! ## Blank bodies -/

theorem blankFrom_covered {spans : List Span} : ∀ {s : Text} {pos : Nat},
    (∀ i, pos ≤ i → i < pos + s.length → ∃ b ∈ spans, b.holds i = true) → blankFrom spans pos s = blanked s
  | [], _, _ => rfl
  | c :: s, pos, h => by
    rw [List.length_cons] at h
    have hany : spans.any (·.holds pos) = true := List.any_eq_true.2 (h pos (Nat.le_refl _) (by omega))
    have hrest := @blankFrom_covered spans s (pos + 1) fun i h1 h2 => h i (by omega) (by omega)
    rw [blankFrom_cons, hrest, hany]
    by_cases hc : c = '\n' <;> simp [blanked, hc]

theorem Blanks.eq_blanked {m : Text} : ∀ {c : Text}, Blanks m (blanked c) → m = blanked c
  | [], h => List.forall₂_nil_right_iff.1 h
  | c :: s, h => by
    obtain ⟨d, m, hd, hm, rfl⟩ := List.forall₂_cons_right_iff.1 h
    rw [eq_blanked hm]
    rcases hd with rfl | ⟨rfl, hc⟩
    · rfl
    · have hblank : (if c = '\n' then c else ' ') ∈ blanked (c :: s) := List.mem_cons_self ..
      rcases mem_blanked hblank with h | h
      · exact absurd h hc
      · exact congrArg (· :: blanked s) h.symm

/-- **Masking only blanks, and it blanks the body of every expression.**  Each character of the masked template is that
of the template or a space in its place, line ends are kept, and the body of an expression that is written anywhere in
the template is blank. -/
theorem mask_written (template : Text) : Blanks (mask template) template ∧
    ∀ (e : Expression) (a o body rest : Text), template = a ++ (o ++ (body ++ rest)) → e.Written o body rest →
      Text.slice (a.length + o.length) (a.length + o.length + body.length) (mask template) = blanked body := by
  refine ⟨mask_blanks template, ?_⟩
  rintro e a o body rest rfl h
  obtain ⟨b, hb, hstart, hstop⟩ := h.covered a
  have hbody : blankFrom (expressionSpans (a ++ (o ++ (body ++ rest)))) (a.length + o.length) body = blanked body :=
    blankFrom_covered fun i h1 h2 => ⟨b, hb, holds_iff.2 ⟨by omega, by omega⟩⟩
  have hveil : Text.slice (a.length + o.length) (a.length + o.length + body.length) (veil (a ++ (o ++ (body ++ rest)))) =
      blanked body := by
    change Text.slice _ _ (blankFrom (expressionSpans _) 0 _) = _
    rw [blankFrom_append, blankFrom_append, blankFrom_append, Nat.zero_add, hbody, ← List.append_assoc, Text.slice]
    rw [List.drop_left' (by simp [blankFrom]), List.take_left' (by simp [length_blanked])]
  have hslice := (maskBrackets_blanks (Text.lower (veil (a ++ (o ++ (body ++ rest)))))
    (veil (a ++ (o ++ (body ++ rest))))).slice (a.length + o.length) (a.length + o.length + body.length)
  rw [hveil] at hslice
  exact hslice.eq_blanked

/-- A declaration, an interpolation and a block whose parameter does not end. -/
theorem mask_written_each :
    let template := "@let a=b<c;\x7b\x7bp<q\x7d\x7d@if ('>".toList
    (Expression.Written .declaration "@let a=".toList "b<c".toList ";\x7b\x7bp<q\x7d\x7d@if ('>".toList ∧
      Text.slice 7 10 (mask template) = blanked "b<c".toList) ∧
    (Expression.Written .interpolation "\x7b\x7b".toList "p<q".toList "\x7d\x7d@if ('>".toList ∧
      Text.slice 13 16 (mask template) = blanked "p<q".toList) ∧
    (Expression.Written .block "@if (".toList "'>".toList [] ∧
      Text.slice 23 25 (mask template) = blanked "'>".toList) := by
  intro template
  have hspace : ∀ c ∈ [' '], Text.isBlank c = true := by decide
  have hdeclaration : Expression.Written .declaration "@let a=".toList "b<c".toList ";\x7b\x7bp<q\x7d\x7d@if ('>".toList :=
    .declaration (@DeclarationOpening.intro [' '] ['a'] [] ⟨by decide, hspace⟩ ⟨by decide, by decide⟩ (by decide))
      (by decide)
  have hinterpolation :
      Expression.Written .interpolation "\x7b\x7b".toList "p<q".toList "\x7d\x7d@if ('>".toList :=
    .interpolation (by decide)
  have hblock : Expression.Written .block "@if (".toList "'>".toList [] :=
    .parameter (@BlockOpening.word "if".toList [' '] (by decide) hspace) (by decide)
  have hmask := (mask_written template).2
  exact ⟨⟨hdeclaration, hmask _ [] _ _ _ rfl hdeclaration⟩,
    ⟨hinterpolation, hmask _ "@let a=b<c;".toList _ _ _ rfl hinterpolation⟩,
    ⟨hblock, hmask _ "@let a=b<c;\x7b\x7bp<q\x7d\x7d".toList _ _ _ rfl hblock⟩⟩

end Template
end ViewAtlas
