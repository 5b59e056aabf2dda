import ViewAtlas.Proofs.Template.Growing
import ViewAtlas.Proofs.Template.Masking
import ViewAtlas.Proofs.Template.Rendered
/-!
# Reading runs of text

A text without tags is read as one run, whatever character references and gaps it holds, up to the tag or the end behind
it (`readFrom?_run`).
-/
namespace ViewAtlas
namespace Template

variable {template : Text} {x : Text}

/-! ## The reader, step by step -/

theorem readFrom?_eq (template : Text) (g : Growth) (pos : Nat) (s : Text) : readFrom? template g pos s =
    match s.dropWhile isGap with
    | [] => finish? template g (pos + (s.takeWhile isGap).length)
    | c :: r =>
      match step? template g (pos + (s.takeWhile isGap).length) c r with
      | none => none
      | some st => readFrom? template st.growth st.pos st.rest := by
  have hdrop : s.drop (s.takeWhile isGap).length = s.dropWhile isGap :=
    (congrArg (List.drop _) List.takeWhile_append_dropWhile.symm).trans List.drop_left
  rw [readFrom?.eq_def]
  dsimp only
  split
  · rename_i heq
    rw [hdrop] at heq
    rw [heq]
  · rename_i heq
    rw [hdrop] at heq
    generalize s.dropWhile isGap = t at heq
    cases heq
    rfl

theorem eq_false_of_dropWhile {p : Char → Bool} {s r : Text} {c : Char} (h : s.dropWhile p = c :: r) : p c = false := by
  have := List.head?_dropWhile_not p s
  rwa [h] at this

theorem eq_gap_append {s r : Text} {c : Char} (h : s.dropWhile isGap = c :: r) : s = s.takeWhile isGap ++ c :: r ∧
    (∀ d ∈ s.takeWhile isGap, isGap d = true) ∧ isGap c = false :=
  ⟨by rw [← h, List.takeWhile_append_dropWhile], fun _ hd => List.mem_takeWhile_imp hd, eq_false_of_dropWhile h⟩

theorem readFrom?_gap {gap : Text} (h : ∀ c ∈ gap, isGap c = true) (g : Growth) (pos : Nat) (s : Text) :
    readFrom? template g pos (gap ++ s) = readFrom? template g (pos + gap.length) s := by
  rw [readFrom?_eq, readFrom?_eq template g (pos + gap.length), List.dropWhile_append_of_pos h,
    List.takeWhile_append_of_pos h, List.length_append, Nat.add_assoc]

theorem readFrom?_step {g : Growth} {pos : Nat} {c : Char} {s : Text} {st : Step (c :: s)} (hc : isGap c = false)
    (h : step? template g pos c s = some st) :
    readFrom? template g pos (c :: s) = readFrom? template st.growth st.pos st.rest := by
  rw [readFrom?_eq, List.dropWhile_cons_of_neg (by rw [hc]; decide), List.takeWhile_cons_of_neg (by rw [hc]; decide)]
  dsimp only [List.length_nil, Nat.add_zero]
  rw [h]

/-! ## Character references -/

open Text.Entity (withSemicolon)

theorem withSemicolon_append {n : Nat} {s : Text} (hx : AtTag x) (hn : n ≤ s.length) :
    withSemicolon n (s ++ x) = withSemicolon n s := by
  unfold withSemicolon
  rw [List.drop_append_of_le_length hn]
  cases s.drop n with
  | nil =>
    rw [List.nil_append, if_neg fun h : x.head? = some ';' => absurd (hx ';' h) (by decide)]
    rfl
  | cons c r => rfl

theorem referenceLength?_number (y : Char) (r : Text) : referenceLength? ('#' :: y :: r) =
    let digits := ((y :: r).takeWhile Char.isDigit).take 5
    let hexDigits := (r.takeWhile fun c => (Text.hexValue? c).isSome).take 6
    if digits ≠ [] then some (withSemicolon (1 + digits.length) ('#' :: y :: r))
    else if (y = 'x' ∨ y = 'X') ∧ hexDigits ≠ [] then some (withSemicolon (2 + hexDigits.length) ('#' :: y :: r))
    else none := rfl

theorem referenceLength?_name {s : Text} (h : ∀ y r, s ≠ '#' :: y :: r) : referenceLength? s =
    let name := (s.takeWhile Char.isAlpha).take 30
    if name = [] then none else some (withSemicolon name.length s) := by
  unfold referenceLength?
  dsimp only
  split
  · exact absurd rfl (h _ _)
  · rfl

/-- **The characters of references**: letters, digits, `#` and `;`. -/
def InReference (c : Char) : Prop :=
  c.isAlpha = true ∨ c.isDigit = true ∨ (Text.hexValue? c).isSome = true ∨ c = '#' ∨ c = ';'

instance (c : Char) : Decidable (InReference c) := inferInstanceAs (Decidable (_ ∨ _))

theorem mem_take_withSemicolon {c : Char} {n : Nat} {s : Text} (h : c ∈ s.take (withSemicolon n s)) :
    c ∈ s.take n ∨ c = ';' := by
  unfold withSemicolon at h
  split at h
  · rename_i hend
    rw [List.take_add_one, List.mem_append, ← List.head?_drop, hend] at h
    simpa using h
  · exact .inl h

theorem of_mem_take_takeWhile {p : Char → Bool} {c : Char} {k : Nat} {s : Text}
    (h : c ∈ s.take ((s.takeWhile p).take k).length) : p c = true := by
  rw [← List.prefix_iff_eq_take.1 ((List.take_prefix k _).trans (List.takeWhile_prefix p))] at h
  exact List.mem_takeWhile_imp (List.mem_of_mem_take h)

theorem inReference_of_referenceLength? {c : Char} {n : Nat} {s : Text} (h : referenceLength? s = some n)
    (hc : c ∈ s.take n) : InReference c := by
  have hsemicolon : c = ';' → InReference c := fun h => .inr (.inr (.inr (.inr h)))
  have hmark : c = '#' → InReference c := fun h => .inr (.inr (.inr (.inl h)))
  by_cases hs : ∃ y r, s = '#' :: y :: r
  · obtain ⟨y, r, rfl⟩ := hs
    rw [referenceLength?_number] at h
    dsimp only at h
    split at h
    · cases h
      refine (mem_take_withSemicolon hc).elim (fun hc => ?_) hsemicolon
      rw [Nat.add_comm, List.take_succ_cons, List.mem_cons] at hc
      exact hc.elim hmark fun hc => .inr (.inl (of_mem_take_takeWhile (p := Char.isDigit) hc))
    · split at h
      · rename_i hx
        cases h
        refine (mem_take_withSemicolon hc).elim (fun hc => ?_) hsemicolon
        rw [Nat.add_comm, List.take_succ_cons, List.take_succ_cons, List.mem_cons, List.mem_cons] at hc
        rcases hc with hc | rfl | hc
        · exact hmark hc
        · rcases hx.1 with rfl | rfl <;> decide
        · exact .inr (.inr (.inl (of_mem_take_takeWhile (p := fun d => (Text.hexValue? d).isSome) hc)))
      · cases h
  · rw [referenceLength?_name fun y r h => hs ⟨y, r, h⟩] at h
    dsimp only at h
    split at h
    · cases h
    · cases h
      exact (mem_take_withSemicolon hc).elim (fun hc => .inl (of_mem_take_takeWhile hc)) hsemicolon

/-- **A reference does not reach over a tag.** -/
theorem referenceLength?_append (hx : AtTag x) (s : Text) : referenceLength? (s ++ x) = referenceLength? s := by
  have hhead : ∀ {p : Char → Bool}, p '<' = false → ∀ c ∈ x.head?, p c = false := fun hp c hc => by rwa [hx c hc]
  by_cases hs : ∃ y r, s = '#' :: y :: r
  · obtain ⟨y, r, rfl⟩ := hs
    have h1 := Text.takeWhile_append_of_head (hhead (p := Char.isDigit) rfl) (y :: r)
    have h2 := Text.takeWhile_append_of_head (hhead (p := fun c => (Text.hexValue? c).isSome) rfl) r
    have h3 := length_take_takeWhile_le Char.isDigit 5 (y :: r)
    have h4 := length_take_takeWhile_le (fun c => (Text.hexValue? c).isSome) 6 r
    rw [List.length_cons] at h3
    rw [List.cons_append] at h1
    rw [List.cons_append, List.cons_append, referenceLength?_number, referenceLength?_number, h1, h2]
    dsimp only
    rw [← List.cons_append, ← List.cons_append, withSemicolon_append hx (by simp only [List.length_cons]; omega),
      withSemicolon_append hx (by simp only [List.length_cons]; omega)]
  by_cases hmark : s = ['#']
  · rw [hmark]
    cases x with
    | nil => rfl
    | cons c x =>
      rw [hx c rfl]
      rfl
  · have hs' : ∀ y r, s ++ x ≠ '#' :: y :: r := by
      intro y r e
      match s with
      | [] => exact absurd (hx '#' (by rw [← List.nil_append x, e]; rfl)) (by decide)
      | [c] => exact hmark (by rw [(List.cons.inj e).1])
      | c :: d :: t => exact hs ⟨d, t, by rw [(List.cons.inj e).1]⟩
    rw [referenceLength?_name hs', referenceLength?_name (fun y r e => hs ⟨y, r, e⟩),
      Text.takeWhile_append_of_head (hhead rfl)]
    dsimp only
    rw [withSemicolon_append hx (length_take_takeWhile_le ..)]

/-! ## Runs -/

/-- **A text that is read as one run** once it has begun: it holds no tag, every `&` in it begins a reference, and it
does not end with a gap. -/
structure Runs (s : Text) : Prop where
  chars : ∀ c ∈ s, c ≠ '<' ∧ c ≠ '>'
  references : ∀ u ∈ s.tails, ∀ r ∈ Text.after? ['&'] u, (referenceLength? r).isSome = true
  last : ∀ c ∈ s.getLast?, isGap c = false

theorem Runs.suffix {s t : Text} (h : Runs s) (ht : t <:+ s) : Runs t := by
  refine ⟨fun c hc => h.chars c (ht.subset hc), fun u hu => h.references u ?_, fun c hc => h.last c ?_⟩
  · exact (List.mem_tails ..).2 (((List.mem_tails ..).1 hu).trans ht)
  · obtain ⟨a, rfl⟩ := ht
    rw [List.getLast?_append, hc]
    rfl

theorem Growth.text_text (g : Growth) (a b c d : Nat) : (g.text ⟨a, b⟩).text ⟨c, d⟩ = g.text ⟨a, d⟩ := by
  unfold Growth.text
  cases g.run <;> rfl

/-- **A step in a run** takes a reference, or characters up to the next one or to a gap at the end. -/
theorem step?_run (template : Text) {c : Char} {r : Text} (h : Runs (c :: r)) (hx : AtTag x) (g : Growth) (pos : Nat) :
    ∃ n ≤ r.length, step? template g pos c (r ++ x) = some (.skip (g.text ⟨pos, pos + 1 + n⟩) pos n) := by
  obtain ⟨hless, hmore⟩ := h.chars c (List.mem_cons_self ..)
  unfold step?
  rw [if_neg hless]
  by_cases hc : c = '&'
  · have href := h.references (c :: r) ((List.mem_tails ..).2 (List.suffix_refl _)) r (by rw [hc]; rfl)
    obtain ⟨n, hn⟩ := Option.isSome_iff_exists.1 href
    rw [if_pos hc, referenceLength?_append hx, hn]
    exact ⟨n, referenceLength?_le hn, rfl⟩
  · have htext : isTextChar c = true := by simp [isTextChar, hless, hmore, hc]
    have hstop : ∀ d ∈ x.head?, isTextChar d = false := fun d hd => by
      rw [hx d hd]
      decide
    rw [if_neg hc, if_pos htext, Text.takeWhile_append_of_head hstop]
    exact ⟨_, Nat.le_trans (length_trimEnd_le ..) (List.takeWhile_prefix isTextChar).length_le, rfl⟩

theorem readFrom?_tail (template : Text) {s : Text} (h : Runs s) (hx : AtTag x) (g : Growth) (start pos : Nat) :
    readFrom? template (g.text ⟨start, pos⟩) pos (s ++ x) =
      readFrom? template (g.text ⟨start, pos + s.length⟩) (pos + s.length) x := by
  cases hs : s.dropWhile isGap with
  | nil =>
    cases s with
    | nil => rw [List.nil_append, List.length_nil, Nat.add_zero]
    | cons c r =>
      have hgap := List.dropWhile_eq_nil_iff.1 hs _ (List.getLast_mem (List.cons_ne_nil c r))
      have hlast := h.last _ (List.getLast?_eq_some_getLast (List.cons_ne_nil c r))
      rw [hgap] at hlast
      cases hlast
  | cons c r =>
    obtain ⟨hsplit, hgap, hc⟩ := eq_gap_append hs
    -- Behind a gap the run goes on, from a character that a step takes.
    have hr : Runs (c :: r) := h.suffix ⟨_, hsplit.symm⟩
    generalize s.takeWhile isGap = gap at hsplit hgap
    obtain ⟨n, hn, hstep⟩ := step?_run template hr hx (g.text ⟨start, pos⟩) (pos + gap.length)
    have htail := readFrom?_tail template (hr.suffix ((List.drop_suffix n r).trans (List.suffix_cons c r))) hx g start
      (pos + gap.length + 1 + n)
    rw [hsplit, List.append_assoc, readFrom?_gap hgap, List.cons_append, readFrom?_step hc hstep, Step.skip_growth,
      Step.skip_pos, Step.skip_rest, Growth.text_text, List.drop_append_of_le_length hn, htail, List.length_append,
      List.length_cons, List.length_drop]
    rw [show pos + gap.length + 1 + n + (r.length - n) = pos + (gap.length + (r.length + 1)) by omega]
termination_by s.length
decreasing_by
  rw [hsplit, List.length_append, List.length_cons, List.length_drop]
  omega

/-- **A run is read whole**, up to the tag or the end behind it. -/
theorem readFrom?_run {c : Char} {r : Text} (h : Runs (c :: r)) (hc : isGap c = false) (hx : AtTag x) (g : Growth)
    (pos : Nat) : readFrom? template g pos (c :: r ++ x) =
      readFrom? template (g.text ⟨pos, pos + (c :: r).length⟩) (pos + (c :: r).length) x := by
  obtain ⟨n, hn, hstep⟩ := step?_run template h hx g pos
  have htail := readFrom?_tail template (h.suffix ((List.drop_suffix n r).trans (List.suffix_cons c r))) hx g pos
    (pos + 1 + n)
  rw [List.cons_append, readFrom?_step hc hstep, Step.skip_growth, Step.skip_pos, Step.skip_rest,
    List.drop_append_of_le_length hn, htail, List.length_drop, List.length_cons]
  rw [show pos + 1 + n + (r.length - n) = pos + (r.length + 1) by omega]

/-! ## Texts -/

theorem more_notMem_maskBrackets {low s : Text} (h : '<' ∉ maskBrackets low s) : '>' ∉ maskBrackets low s := by
  fun_induction maskBrackets low s with
  | case1 => exact List.not_mem_nil
  | case2 low r n ih =>
    by_cases hn : n = 0
    · rw [hn] at h ih ⊢
      intro hm
      rcases List.mem_cons.1 hm with hm | hm
      · exact absurd hm (by decide)
      · exact ih (fun hm => h (List.mem_cons_of_mem _ hm)) hm
    · rw [if_neg hn] at h
      exact absurd (List.mem_append_left _ (List.mem_cons_self ..)) h
  | case3 low c r hc ih =>
    intro hm
    rcases List.mem_cons.1 hm with hm | hm
    · split at hm
      · exact absurd hm (by decide)
      · rename_i hne
        exact hne hm.symm
    · exact ih (fun hm => h (List.mem_cons_of_mem _ hm)) hm

theorem PrintableText.read {t : Text} (h : PrintableText t) (hx : AtTag x) (g : Growth) (pos : Nat) :
    readFrom? template g pos (mask t ++ x) =
      readFrom? template (g.text ⟨pos, pos + t.length⟩) (pos + t.length) x := by
  have hlength := length_mask t
  have hmore : '>' ∉ mask t := more_notMem_maskBrackets h.markup
  have hruns : Runs (mask t) := by
    refine ⟨fun c hc => ⟨fun e => h.markup (e ▸ hc), fun e => hmore (e ▸ hc)⟩, h.references, fun c hc => ?_⟩
    have hlast := h.last
    rw [hc] at hlast
    simpa using hlast
  have hfirst := h.first
  cases hm : mask t with
  | nil =>
    rw [hm] at hfirst
    cases hfirst
  | cons c r =>
    rw [hm] at hruns hfirst hlength
    rw [readFrom?_run hruns (by simpa using hfirst) hx, hlength]

end Template
end ViewAtlas
