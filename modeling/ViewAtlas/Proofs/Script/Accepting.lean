import ViewAtlas.Proofs.Script.Denoting
import ViewAtlas.Proofs.Script.Yielding
import ViewAtlas.Script.Expressions
/-!
# Literals that are read

What the readers of strings and of templates take is a row of pieces and a quote (`Closes`).  So the node that they give
is a literal (`IsLiteral`), and its value is what the pieces are read as.
-/
namespace ViewAtlas
namespace Script

/-! ## Rows of pieces up to a quote -/

def Closes (quote : Char) (s r : Text) : Prop := ∃ ps, Spelled quote ps ∧ s = textOf ps ++ quote :: r

def quotes : List Char := ['"', '\'', '\x60']

variable {quote c : Char} {s r : Text} {n : Nat}

theorem Closes.nil : Closes quote (quote :: r) r := ⟨[], trivial, rfl⟩

theorem Closes.char (h : Closes quote s r) (hc : c ∉ [quote, '\\', '\n', '\r'])
    (hdollar : ¬ (quote = '\x60' ∧ c = '$' ∧ s.head? = some '{')) : Closes quote (c :: s) r := by
  obtain ⟨ps, hps, rfl⟩ := h
  refine ⟨.char c :: ps, ⟨⟨hc, fun ⟨hquote, hc, hbrace⟩ => hdollar ⟨hquote, hc, ?_⟩⟩, hps⟩, rfl⟩
  rw [List.head?_append, hbrace, Option.some_or]

theorem notMem_of_isDigit (hquote : quote ∈ quotes) (hc : c.isDigit = true) : c ∉ [quote, '\\', '\n', '\r'] ∧ c ≠ '$' := by
  have hspecial : ∀ d ∈ '$' :: '\\' :: '\n' :: '\r' :: quotes, ¬ d.isDigit = true := Text.forall_mem_of_all (by decide)
  refine ⟨fun hmem => hspecial c ?_ hc, fun heq => hspecial c (heq ▸ List.mem_cons_self ..) hc⟩
  simp only [List.mem_cons, List.not_mem_nil, or_false] at hmem
  rcases hmem with rfl | rfl | rfl | rfl <;> simp [hquote]

theorem Closes.digits (hquote : quote ∈ quotes) : ∀ {ds : Text}, (∀ d ∈ ds, d.isDigit = true) → Closes quote s r →
    Closes quote (ds ++ s) r
  | [], _, h => h
  | d :: ds, hds, h => by
    rw [List.forall_mem_cons] at hds
    obtain ⟨hmem, hdollar⟩ := notMem_of_isDigit hquote hds.1
    exact (Closes.digits hquote hds.2 h).char hmem fun h => hdollar h.2.1

theorem Spelled.lineFeed : ∀ {ps : List Piece}, Spelled quote ps → (textOf ps).head? = some '\n' →
    ∃ qs, ps = .lineEnd ['\n'] :: qs ∧ Spelled quote qs
  | p :: ps, h, hhead => by
    have hfits := h.1
    cases p with
    | char c =>
      obtain rfl : c = '\n' := by simpa [Piece.text] using hhead
      exact absurd (by simp) hfits.1
    | lineEnd x =>
      rcases hfits.2 with rfl | rfl | ⟨rfl, -⟩
      · exact ⟨ps, rfl, h.2⟩
      all_goals simp [Piece.text] at hhead
    | _ => simp [Piece.text] at hhead

theorem Closes.lineEnd (h : Closes '\x60' s r) (hc : c = '\n' ∨ c = '\r') : Closes '\x60' (c :: s) r := by
  obtain ⟨ps, hps, rfl⟩ := h
  rcases hc with rfl | rfl
  · exact ⟨.lineEnd ['\n'] :: ps, ⟨⟨rfl, .inl rfl⟩, hps⟩, rfl⟩
  · by_cases hfeed : (textOf ps).head? = some '\n'
    · -- the carriage return and the line feed after it are one end of a line
      obtain ⟨qs, rfl, hqs⟩ := hps.lineFeed hfeed
      exact ⟨.lineEnd ['\r', '\n'] :: qs, ⟨⟨rfl, .inr (.inl rfl)⟩, hqs⟩, rfl⟩
    · exact ⟨.lineEnd ['\r'] :: ps, ⟨⟨rfl, .inr (.inr ⟨rfl, hfeed⟩)⟩, hps⟩, rfl⟩

/-! ## Escapes -/

theorem codePointLength?_eq_some (h : codePointLength? s = some n) :
    (∃ ds x, s = '{' :: (ds ++ '}' :: x) ∧ n = ds.length + 2 ∧ ds ≠ [] ∧ ds.all isHexDigit = true) ∨
      ∃ ds x, s = ds ++ x ∧ n = 4 ∧ ds.length = 4 ∧ ds.all isHexDigit = true := by
  unfold codePointLength? at h
  split at h
  · rename_i t
    dsimp only at h
    split at h
    · rename_i hbrace
      obtain ⟨x, hx⟩ := List.head?_eq_some_iff.1 hbrace.2
      have htext : t = t.takeWhile isHexDigit ++ '}' :: x := by
        rw [← hx, List.prefix_iff_eq_append.1 (List.takeWhile_prefix _)]
      exact .inl ⟨_, x, congrArg _ htext, (Option.some.inj h).symm, List.ne_nil_of_length_pos (by omega), List.all_takeWhile⟩
    · cases h
  · split at h
    · rename_i hfour
      rw [Bool.and_eq_true, decide_eq_true_iff] at hfour
      exact .inr ⟨s.take 4, s.drop 4, (List.take_append_drop ..).symm, (Option.some.inj h).symm, hfour⟩
    · cases h

theorem isLineEnd_iff : isLineEnd c = true ↔ c = '\n' ∨ c = '\r' ∨ c = '\u2028' ∨ c = '\u2029' := by
  have hnum : ∀ d : Char, (c.toNat == d.toNat) = true ↔ c = d := fun d => by rw [beq_iff_eq, Char.toNat_inj]
  have h8 := hnum '\u2028'
  have h9 := hnum '\u2029'
  simp only [isLineEnd, Bool.or_eq_true, decide_eq_true_iff]
  rw [← h8, ← h9, or_assoc, or_assoc]
  rfl

theorem Closes.backslash_digit (h : Closes quote s r) (hc : c.isDigit = true) : Closes quote ('\\' :: c :: s) r := by
  obtain ⟨ps, hps, rfl⟩ := h
  by_cases hnul : c = '0' ∧ ∀ d ∈ (textOf ps).head?, d.isDigit = false
  · obtain ⟨rfl, hnext⟩ := hnul
    exact ⟨.nul :: ps, ⟨hnext, hps⟩, rfl⟩
  · refine ⟨.digit c :: ps, ⟨⟨hc, fun hzero => ?_⟩, hps⟩, rfl⟩
    simpa [hzero] using hnul

theorem Closes.continuation (h : Closes quote s r) (hc : isLineEnd c = true) (hfeed : c = '\r' → s.head? ≠ some '\n') :
    Closes quote ('\\' :: c :: s) r := by
  obtain ⟨ps, hps, rfl⟩ := h
  refine ⟨.continuation [c] :: ps, ⟨?_, hps⟩, rfl⟩
  rcases isLineEnd_iff.1 hc with rfl | rfl | rfl | rfl
  · exact .inl (.inl rfl)
  · refine .inl (.inr (.inr ⟨rfl, fun hhead => hfeed rfl ?_⟩))
    rw [List.head?_append, hhead, Option.some_or]
  · exact .inr (.inl rfl)
  · exact .inr (.inr rfl)

theorem Closes.codePoint (hn : codePointLength? s = some n) (h : Closes quote (s.drop n) r) :
    Closes quote ('\\' :: 'u' :: s) r := by
  obtain ⟨ps, hps, heq⟩ := h
  rcases codePointLength?_eq_some hn with ⟨ds, x, rfl, rfl, hds⟩ | ⟨ds, x, rfl, rfl, hlen, hds⟩
  · refine ⟨.point ds :: ps, ⟨hds, hps⟩, ?_⟩
    rw [List.drop_succ_cons, ← List.drop_drop, List.drop_left, List.drop_one, List.tail_cons] at heq
    simp [Piece.text, heq]
  · refine ⟨.unit ds :: ps, ⟨⟨hlen, hds⟩, hps⟩, ?_⟩
    rw [List.drop_left' hlen] at heq
    simp [Piece.text, heq]

theorem Closes.escape (hquote : quote ∈ quotes) (hn : escapeLength? s = some n) (h : Closes quote (s.drop n) r) :
    Closes quote ('\\' :: s) r := by
  cases s with
  | nil => cases hn
  | cons c s =>
    -- a carriage return and a line feed are the one escape of which the first character does not tell the piece
    by_cases hfeed : c = '\r' ∧ s.head? = some '\n'
    · obtain ⟨rfl, hhead⟩ := hfeed
      obtain ⟨s, rfl⟩ := List.head?_eq_some_iff.1 hhead
      obtain rfl : 2 = n := Option.some.inj hn
      obtain ⟨ps, hps, heq⟩ := h
      exact ⟨.continuation ['\r', '\n'] :: ps, ⟨.inl (.inr (.inl rfl)), hps⟩, congrArg (_ :: _ :: _ :: ·) heq⟩
    rw [not_and] at hfeed
    rw [escapeLength?_cons hfeed] at hn
    split_ifs at hn with hnul hu hx hbyte hoctal
    · subst hu
      obtain ⟨k, hk, rfl⟩ := Option.map_eq_some_iff.1 hn
      rw [Nat.add_comm, List.drop_succ_cons] at h
      exact Closes.codePoint hk h
    · subst hx
      obtain rfl := Option.some.inj hn
      obtain ⟨ps, hps, heq⟩ := h
      rw [Bool.and_eq_true, decide_eq_true_iff] at hbyte
      refine ⟨.byte (s.take 2) :: ps, ⟨hbyte, hps⟩, ?_⟩
      rw [List.drop_succ_cons] at heq
      simp [Piece.text, ← heq]
    · -- the digits after an octal digit stand for themselves
      obtain rfl := Option.some.inj hn
      have hprefix : (s.take 2).takeWhile isOctal <+: s := (List.takeWhile_prefix _).trans (List.take_prefix ..)
      have hdigits : ∀ d ∈ (s.take 2).takeWhile isOctal, d.isDigit = true := fun d hd =>
        isDigit_of_isOctal (List.mem_takeWhile_imp hd)
      rw [Nat.add_comm, List.drop_succ_cons] at h
      have hrest := h.digits hquote hdigits
      rw [List.prefix_iff_eq_append.1 hprefix] at hrest
      exact hrest.backslash_digit (isDigit_of_isOctal hoctal)
    · obtain rfl := Option.some.inj hn
      by_cases hline : isLineEnd c = true
      · exact h.continuation hline hfeed
      by_cases hdigit : c.isDigit = true
      · exact h.backslash_digit hdigit
      obtain ⟨ps, hps, heq⟩ := h
      exact ⟨.escape c :: ps, ⟨⟨by simpa using hdigit, by simp [hu, hx], by simpa using hline⟩, hps⟩,
        congrArg ('\\' :: c :: ·) heq⟩

/-! ## Strings -/

/-- **The rest of a string is a row of pieces and its quote.** -/
theorem closes_of_stringRestLength? (hquote : quote = '"' ∨ quote = '\'') (hn : stringRestLength? quote s = some n) :
    Closes quote s (s.drop n) := by
  have hquotes : quote ∈ quotes := by rcases hquote with rfl | rfl <;> decide
  fun_induction stringRestLength? quote s generalizing n with
  | case1 | case3 | case5 => cases hn
  | case2 =>
    obtain rfl := Option.some.inj hn
    exact .nil
  | case4 r k hk _ ih =>
    obtain ⟨m, hm, rfl⟩ := Option.map_eq_some_iff.1 hn
    rw [Nat.add_assoc, Nat.add_comm, List.drop_succ_cons, ← List.drop_drop]
    exact (ih hm).escape hquotes hk
  | case6 c r hend hslash hline ih =>
    obtain ⟨m, hm, rfl⟩ := Option.map_eq_some_iff.1 hn
    rw [Nat.add_comm, List.drop_succ_cons]
    refine (ih hm).char ?_ fun htemplate => ?_
    · simp only [not_or] at hline
      simp [hend, hslash, hline]
    · rcases hquote with rfl | rfl <;> exact absurd htemplate.1 (by decide)

/-- **A literal**: a string, or a template without substitutions, with its pieces between its quotes. -/
structure IsLiteral (quote : Char) (ps : List Piece) (t : Tree) : Prop where
  kind : quote ∈ ['"', '\''] ∧ t.kind = .string ∨
    quote = '\x60' ∧ t.kind = .template ∧ ∀ u ∈ t.children, u.kind ≠ .substitution
  spelled : Spelled quote ps
  text : t.text = quote :: (textOf ps ++ [quote])

theorem IsLiteral.stringValue? {ps : List Piece} {t : Tree} (h : IsLiteral quote ps t) :
    t.stringValue? = some (readAs ps) := by
  have hbody : (t.text.drop 1).dropLast = textOf ps := by
    rw [h.text, List.drop_one, List.tail_cons, List.dropLast_concat]
  rw [Tree.stringValue?, hbody, h.spelled.unescape]
  rcases h.kind with ⟨-, hkind⟩ | ⟨-, hkind, hsubst⟩
  · rw [hkind]
  · have hnone : (t.children.any fun u => u.kind == .substitution) = false := by simpa using hsubst
    simp only [hkind, hnone, Bool.false_eq_true, if_false]

theorem Closes.take (h : Closes quote s (s.drop n)) : ∃ ps, Spelled quote ps ∧ s.take n = textOf ps ++ [quote] := by
  obtain ⟨ps, hps, heq⟩ := h
  have hwhole : s.take n ++ s.drop n = textOf ps ++ [quote] ++ s.drop n := by
    rw [List.take_append_drop, List.append_assoc, List.singleton_append, ← heq]
  exact ⟨ps, hps, List.append_cancel_right hwhole⟩

variable {self : Nested} {d d' : Cursor} {t : Tree}

theorem isLiteral_of_stringLiteral (h : stringLiteral d = .ok (t, d')) : ∃ quote ps, IsLiteral quote ps t := by
  obtain ⟨cs, hrun, rfl⟩ := node_eq_ok h
  generalize beyond d.rest = s, d.pos + gapLength d.rest = pos at hrun ⊢
  rw [get_bind_eq_ok] at hrun
  cases hn : stringLength? s with
  | none =>
    simp only [hn] at hrun
    cases hrun
  | some n =>
    simp only [hn] at hrun
    cases hrun
    cases s with
    | nil => cases hn
    | cons q s =>
      rw [stringLength?] at hn
      split_ifs at hn with hq
      obtain ⟨m, hm, rfl⟩ := Option.map_eq_some_iff.1 hn
      obtain ⟨ps, hps, htext⟩ := (closes_of_stringRestLength? hq hm).take
      refine ⟨q, ps, .inl ⟨by simpa using hq, rfl⟩, hps, ?_⟩
      change (q :: s).take (pos + (1 + m) - pos) = _
      rw [Nat.add_sub_cancel_left, Nat.add_comm, List.take_succ_cons, htext]

/-! ## Templates -/

theorem Closes.fragment (h : Closes '\x60' (s.drop (fragmentLength s)) r) : Closes '\x60' s r := by
  fun_induction fragmentLength s with
  | case1 | case2 | case3 => exact h
  | case4 c s hdollar hc ih =>
    rw [Nat.add_comm, List.drop_succ_cons] at h
    have hrest := ih h
    by_cases hline : c = '\n' ∨ c = '\r'
    · exact hrest.lineEnd hline
    · rw [not_or] at hline hc
      rw [not_or] at hc
      refine hrest.char (by simp [hline, hc]) fun ⟨_, heq, hhead⟩ => ?_
      obtain ⟨x, hx⟩ := List.head?_eq_some_iff.1 hhead
      exact hdollar x heq hx

/-- **A part of a template** from one place to a later one: it goes before any row of pieces. -/
def Part (d d' : Cursor) : Prop :=
  ∃ n, d' = ⟨d.rest.drop n, d.pos + n⟩ ∧ ∀ r, Closes '\x60' d'.rest r → Closes '\x60' d.rest r

theorem Part.refl : Part d d := ⟨0, rfl, fun _ => id⟩

theorem Part.trans {e : Cursor} (h : Part d e) (h' : Part e d') : Part d d' := by
  obtain ⟨n, rfl, hn⟩ := h
  obtain ⟨m, rfl, hm⟩ := h'
  exact ⟨n + m, by rw [List.drop_drop, Nat.add_assoc], fun r hr => hn r (hm r hr)⟩

theorem part_of_templatePiece {u : Tree} (h : templatePiece self d = .ok (u, d')) (hu : u.kind ≠ .substitution) :
    Part d d' := by
  rw [templatePiece, get_bind_eq_ok] at h
  split_ifs at h with hfragment
  · cases h
    exact ⟨_, rfl, fun r => Closes.fragment⟩
  · generalize hs : d.rest = s at h
    revert h
    split <;> intro h
    · rename_i x
      cases hn : escapeLength? x with
      | none =>
        rw [hn] at h
        cases h
      | some n =>
        rw [hn] at h
        cases h
        refine ⟨n + 1, rfl, fun r hr => ?_⟩
        rw [hs] at hr ⊢
        exact Closes.escape (by decide) hn hr
    · obtain ⟨_, _, -, h⟩ := bind_eq_ok.1 h
      obtain ⟨_, _, -, h⟩ := bind_eq_ok.1 h
      obtain ⟨_, _, -, h⟩ := bind_eq_ok.1 h
      cases h
      exact absurd rfl hu
    · cases h

theorem part_of_repeated : ∀ {n : Nat} {d : Cursor} {us : List Tree}, repeated (templatePiece self) n d = .ok (us, d') →
    (∀ u ∈ us, u.kind ≠ .substitution) → Part d d'
  | 0, d, us, h, _ => by cases h
  | n + 1, d, us, h, hus => by
    rcases repeated_succ_eq_ok h with ⟨rfl, rfl⟩ | ⟨u, e, vs, rfl, hu, hvs⟩
    · exact .refl
    · rw [List.forall_mem_cons] at hus
      exact (part_of_templatePiece hu hus.1).trans (part_of_repeated hvs hus.2)

theorem Part.take {x : Text} {pos : Nat} (h : Part ⟨x, pos⟩ d) (hquote : d.rest.head? = some '\x60') :
    ∃ ps n, d.pos = pos + n ∧ Spelled '\x60' ps ∧ x.take (n + 1) = textOf ps ++ ['\x60'] := by
  obtain ⟨n, rfl, hn⟩ := h
  obtain ⟨r, hr⟩ := List.head?_eq_some_iff.1 hquote
  have hr : x.drop n = '\x60' :: r := hr
  have hdrop : x.drop (n + 1) = r := by rw [← List.drop_drop, hr, List.drop_one, List.tail_cons]
  have hcloses : Closes '\x60' x r := hn r (by rw [hr]; exact .nil)
  rw [← hdrop] at hcloses
  obtain ⟨ps, hps, htext⟩ := hcloses.take
  exact ⟨ps, n, rfl, hps, htext⟩

theorem isLiteral_of_templateLiteral (h : templateLiteral self d = .ok (t, d'))
    (hsubst : ∀ u ∈ t.children, u.kind ≠ .substitution) : ∃ ps, IsLiteral '\x60' ps t := by
  obtain ⟨us, hrun, rfl⟩ := node_eq_ok h
  have hgap := gapLength_beyond d.rest
  generalize beyond d.rest = s, d.pos + gapLength d.rest = pos at hrun hgap ⊢
  obtain ⟨_, e, hopen, hrun⟩ := bind_eq_ok.1 hrun
  obtain ⟨x, hx, rfl⟩ := exactly_eq_ok hopen
  obtain ⟨vs, e, hvs, hrun⟩ := bind_eq_ok.1 hrun
  rw [get_bind_eq_ok] at hrun
  split_ifs at hrun with hclose
  · cases hrun
    have hx : s = '\x60' :: x := by rwa [beyond, hgap, List.drop_zero] at hx
    obtain ⟨ps, n, hpos, hps, htext⟩ := (part_of_repeated hvs hsubst).take hclose
    have hlen : e.pos + 1 - pos = n + 1 + 1 := by
      rw [hpos, hgap]
      change pos + 0 + 1 + n + 1 - pos = _
      omega
    refine ⟨ps, .inr ⟨rfl, rfl, hsubst⟩, hps, ?_⟩
    change s.take (e.pos + 1 - pos) = _
    rw [hlen, hx, List.take_succ_cons, htext]
  · cases hrun

end Script
end ViewAtlas
