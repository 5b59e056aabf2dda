import Mathlib.Data.List.Infix
import ViewAtlas.Proofs.Template.Expressions
import ViewAtlas.Proofs.Template.Offsets
/-!
# Pieces of a template

A piece of a template is sealed when every expression that begins in it ends in it, and inert when none begins in it.
Blanking out goes piece by piece: a sealed piece before a quote or a `<` is blanked out as if it stood alone
(`veil_sealed`), and markup stays (`Markup.veil_append`).
-/
namespace ViewAtlas
namespace Template

instance {p : Expression → Prop} [DecidablePred p] : Decidable (∀ e, p e) :=
  decidable_of_iff (p .interpolation ∧ p .declaration ∧ p .block)
    ⟨fun ⟨hi, hd, hb⟩ => by rintro (_ | _ | _) <;> assumption, fun h => ⟨h _, h _, h _⟩⟩

/-- **A sealed piece**: every expression that begins in it ends in it. -/
def Sealed (s : Text) : Prop := ∀ e : Expression, ∀ t ∈ s.tails, ∀ r ∈ e.opening? t, (e.length? r).isSome = true

/-- **An inert piece**: no expression begins in it. -/
def Inert (s : Text) : Prop := ∀ e : Expression, ∀ t ∈ s.tails, e.opening? t = none

instance (s : Text) : Decidable (Sealed s) := inferInstanceAs (Decidable (∀ _ : Expression, ∀ t ∈ s.tails, _))

instance (s : Text) : Decidable (Inert s) := inferInstanceAs (Decidable (∀ _ : Expression, ∀ t ∈ s.tails, _))

/-- **A text made up of two that are blanked out apart**: no match that begins in the first hangs on the second. -/
def Parts (a b : Text) : Prop := ∀ (e : Expression) (t : Text), t ≠ [] → t <:+ a → e.match? (t ++ b) = e.match? t

/-- The expressions of a text that begins at an offset. -/
def expressionsFrom (pos : Nat) (s : Text) : List Span :=
  bodies interpolation? pos s ++ bodies declaration? pos s ++ bodies block? pos s

/-- **The text with its expressions blanked out.** -/
def veil (s : Text) : Text := blankOut (expressionSpans s) s

theorem mem_expressionsFrom {pos : Nat} {s : Text} {r : Span} :
    r ∈ expressionsFrom pos s ↔ ∃ e : Expression, r ∈ bodies e.match? pos s := by
  unfold expressionsFrom
  rw [List.mem_append, List.mem_append]
  constructor
  · rintro ((h | h) | h)
    · exact ⟨.interpolation, h⟩
    · exact ⟨.declaration, h⟩
    · exact ⟨.block, h⟩
  · rintro ⟨_ | _ | _, h⟩
    · exact .inl (.inl h)
    · exact .inl (.inr h)
    · exact .inr h

theorem bodies_within {find? : Text → Option BodyMatch}
    (hfits : ∀ s m, find? s = some m → m.lead + m.length ≤ s.length ∧ m.taken ≤ s.length) {pos : Nat} {s : Text}
    {b : Span} (h : b ∈ bodies find? pos s) : b.Within pos (pos + s.length) := by
  fun_induction bodies find? pos s with
  | case1 => cases h
  | case2 pos c r _ ih =>
    refine (ih h).mono (Nat.le_succ _) ?_
    rw [List.length_cons]
    omega
  | case3 pos c r m hm ih =>
    obtain ⟨h1, h2⟩ := hfits _ m hm
    rw [List.length_cons] at h1 h2 ⊢
    rcases List.mem_cons.1 h with rfl | h
    · unfold Span.Within
      dsimp only
      omega
    · refine (ih h).mono (by omega) ?_
      rw [List.length_drop]
      omega

theorem bodies_shift (find? : Text → Option BodyMatch) (k pos : Nat) (s : Text) :
    bodies find? (pos + k) s = (bodies find? pos s).map fun b => ⟨b.start + k, b.stop + k⟩ := by
  fun_induction bodies find? pos s with
  | case1 => rw [bodies, List.map_nil]
  | case2 pos c r hm ih =>
    rw [bodies, hm, ← ih]
    dsimp only
    rw [show pos + k + 1 = pos + 1 + k by omega]
  | case3 pos c r m hm ih =>
    rw [bodies, hm, List.map_cons, ← ih]
    dsimp only
    rw [show pos + k + 1 + (m.taken - 1) = pos + 1 + (m.taken - 1) + k by omega,
      show pos + k + m.lead = pos + m.lead + k by omega,
      show pos + m.lead + k + m.length = pos + m.lead + m.length + k by omega]

theorem bodies_append {find? : Text → Option BodyMatch}
    (hfits : ∀ s m, find? s = some m → m.lead + m.length ≤ s.length ∧ m.taken ≤ s.length) {a b : Text} (pos : Nat)
    (h : ∀ t, t ≠ [] → t <:+ a → find? (t ++ b) = find? t) :
    bodies find? pos (a ++ b) = bodies find? pos a ++ bodies find? (pos + a.length) b := by
  fun_induction bodies find? pos a with
  | case1 => rfl
  | case2 pos c r hm ih =>
    have hr := ih fun t ht hs => h t ht (hs.trans (List.suffix_cons c r))
    have hm' := (h (c :: r) (List.cons_ne_nil c r) (List.suffix_refl _)).trans hm
    rw [List.cons_append] at hm' ⊢
    rw [bodies, hm']
    dsimp only
    rw [hr, List.length_cons, show pos + 1 + r.length = pos + (r.length + 1) by omega]
  | case3 pos c r m hm ih =>
    have hr := ih fun t ht hs => h t ht (hs.trans ((List.drop_suffix _ r).trans (List.suffix_cons c r)))
    have hm' := (h (c :: r) (List.cons_ne_nil c r) (List.suffix_refl _)).trans hm
    have h2 := (hfits _ m hm).2
    rw [List.length_cons] at h2
    rw [List.cons_append] at hm' ⊢
    rw [bodies, hm']
    dsimp only
    rw [List.drop_append_of_le_length (by omega), hr, List.length_drop, List.length_cons, List.cons_append,
      show pos + 1 + (m.taken - 1) + (r.length - (m.taken - 1)) = pos + (r.length + 1) by omega]

theorem expressionsFrom_shift (k : Nat) (s : Text) :
    expressionsFrom k s = (expressionsFrom 0 s).map fun b => ⟨b.start + k, b.stop + k⟩ := by
  have h := fun find? => bodies_shift find? k 0 s
  rw [Nat.zero_add] at h
  unfold expressionsFrom
  rw [h, h, h, List.map_append, List.map_append]

/-! ## Blanking out -/

/-- The text with the spans blanked out, where the text begins at an offset. -/
def blankFrom (spans : List Span) (pos : Nat) (s : Text) : Text :=
  (s.zipIdx pos).map fun (c, i) => if c ≠ '\n' && spans.any (·.holds i) then ' ' else c

theorem blankFrom_append (spans : List Span) (pos : Nat) (a b : Text) :
    blankFrom spans pos (a ++ b) = blankFrom spans pos a ++ blankFrom spans (pos + a.length) b := by
  unfold blankFrom
  rw [List.zipIdx_append, List.map_append]

theorem blankFrom_cons (spans : List Span) (pos : Nat) (c : Char) (s : Text) :
    blankFrom spans pos (c :: s) =
      (if c ≠ '\n' && spans.any (·.holds pos) then ' ' else c) :: blankFrom spans (pos + 1) s := rfl

theorem blankFrom_congr {spans spans' : List Span} : ∀ {s : Text} {pos : Nat},
    (∀ i, pos ≤ i → i < pos + s.length → spans.any (·.holds i) = spans'.any (·.holds i)) →
      blankFrom spans pos s = blankFrom spans' pos s
  | [], _, _ => rfl
  | c :: s, pos, h => by
    rw [List.length_cons] at h
    rw [blankFrom_cons, blankFrom_cons, h pos (Nat.le_refl _) (by omega),
      blankFrom_congr fun i h1 h2 => h i (by omega) (by omega)]

theorem blankFrom_shift (spans : List Span) (k : Nat) : ∀ (s : Text) (pos : Nat),
    blankFrom (spans.map fun b => ⟨b.start + k, b.stop + k⟩) (pos + k) s = blankFrom spans pos s
  | [], _ => rfl
  | c :: s, pos => by
    have hany : (spans.map fun b => (⟨b.start + k, b.stop + k⟩ : Span)).any (·.holds (pos + k)) =
        spans.any (·.holds pos) := by
      rw [List.any_map]
      congr 1
      funext b
      simp [Span.holds]
    rw [blankFrom_cons, blankFrom_cons, hany, Nat.add_right_comm, blankFrom_shift spans k s (pos + 1)]

theorem mem_expressionsFrom_append {a b : Text} (h : Parts a b) (r : Span) :
    r ∈ expressionsFrom 0 (a ++ b) ↔ r ∈ expressionsFrom 0 a ∨ r ∈ expressionsFrom a.length b := by
  rw [mem_expressionsFrom, mem_expressionsFrom, mem_expressionsFrom, ← exists_or]
  refine exists_congr fun e => ?_
  rw [bodies_append (fun _ _ => Expression.match?_fits) 0 (h e), Nat.zero_add, List.mem_append]

theorem holds_of_mem_expressionsFrom {pos i : Nat} {s : Text} {r : Span} (hr : r ∈ expressionsFrom pos s)
    (hi : r.holds i = true) : pos ≤ i ∧ i < pos + s.length := by
  obtain ⟨e, he⟩ := mem_expressionsFrom.1 hr
  obtain ⟨h1, _, h3⟩ := bodies_within (fun _ _ => Expression.match?_fits) he
  rw [Span.holds, Bool.and_eq_true, decide_eq_true_eq, decide_eq_true_eq] at hi
  omega

/-- **Parts are blanked out apart.** -/
theorem veil_append {a b : Text} (h : Parts a b) : veil (a ++ b) = veil a ++ veil b := by
  -- An offset of one part is held by expressions of that part only.
  have hleft : blankFrom (expressionsFrom 0 (a ++ b)) 0 a = blankFrom (expressionsFrom 0 a) 0 a := by
    refine blankFrom_congr fun i _ hi => ?_
    rw [Bool.eq_iff_iff, List.any_eq_true, List.any_eq_true]
    refine ⟨fun ⟨r, hr, hri⟩ => ?_, fun ⟨r, hr, hri⟩ => ⟨r, (mem_expressionsFrom_append h r).2 (.inl hr), hri⟩⟩
    rcases (mem_expressionsFrom_append h r).1 hr with hr | hr
    · exact ⟨r, hr, hri⟩
    · have := holds_of_mem_expressionsFrom hr hri
      omega
  have hright : blankFrom (expressionsFrom 0 (a ++ b)) a.length b =
      blankFrom (expressionsFrom a.length b) a.length b := by
    refine blankFrom_congr fun i hi _ => ?_
    rw [Bool.eq_iff_iff, List.any_eq_true, List.any_eq_true]
    refine ⟨fun ⟨r, hr, hri⟩ => ?_, fun ⟨r, hr, hri⟩ => ⟨r, (mem_expressionsFrom_append h r).2 (.inr hr), hri⟩⟩
    rcases (mem_expressionsFrom_append h r).1 hr with hr | hr
    · have := holds_of_mem_expressionsFrom hr hri
      omega
    · exact ⟨r, hr, hri⟩
  have hshift := blankFrom_shift (expressionsFrom 0 b) a.length b 0
  rw [← expressionsFrom_shift, Nat.zero_add] at hshift
  change blankFrom (expressionsFrom 0 (a ++ b)) 0 (a ++ b) = _
  rw [blankFrom_append, hleft, Nat.zero_add, hright, hshift]
  rfl

theorem veil_sealed {s x : Text} (h : Sealed s) (hx : Bounds x) : veil (s ++ x) = veil s ++ veil x :=
  veil_append fun e t _ ht => Expression.match?_append hx (h e t ((List.mem_tails _ _).2 ht))

/-- **Markup**: a text in which no match begins, whatever follows. -/
def Markup (s : Text) : Prop := ∀ (e : Expression) (t x : Text), t ≠ [] → t <:+ s → e.match? (t ++ x) = none

theorem Markup.append {a b : Text} (ha : Markup a) (hb : Markup b) : Markup (a ++ b) := by
  intro e t x ht hs
  rcases List.suffix_or_suffix_of_suffix hs (List.suffix_append a b) with h | ⟨u, rfl⟩
  · exact hb e t x ht h
  · rw [List.append_assoc]
    cases u with
    | nil => exact hb e b x ht (List.suffix_refl b)
    | cons c u => exact ha e (c :: u) (b ++ x) (List.cons_ne_nil c u) (List.suffix_append_self_iff.1 hs)

theorem opening?_cons_eq_none {c : Char} (hb : c ≠ '{') (ha : c ≠ '@') (s : Text) (e : Expression) :
    e.opening? (c :: s) = none := by
  refine Option.eq_none_iff_forall_ne_some.2 fun r hr => ?_
  obtain ⟨-, h⟩ | ⟨-, w, h, -⟩ := Expression.eq_of_opening? hr
  · exact hb (List.cons.inj h).1
  · exact ha (List.cons.inj h).1

theorem opening?_eq_none {s t : Text} (hb : ¬ ['{', '{'] <:+: s) (ha : '@' ∉ s) (ht : t <:+ s) (e : Expression) :
    e.opening? t = none := by
  refine Option.eq_none_iff_forall_ne_some.2 fun r hr => ?_
  obtain ⟨-, rfl⟩ | ⟨-, w, rfl, -⟩ := Expression.eq_of_opening? hr
  · exact hb ((List.prefix_append ['{', '{'] r).isInfix.trans ht.isInfix)
  · exact ha (ht.subset (List.mem_cons_self ..))

theorem inert_of_notMem {s : Text} (hb : '{' ∉ s) (ha : '@' ∉ s) : Inert s := by
  intro e t ht
  have hs := (List.mem_tails _ _).1 ht
  cases t with
  | nil => cases e <;> rfl
  | cons c t =>
    have hc : c ∈ s := hs.subset (List.mem_cons_self ..)
    exact opening?_cons_eq_none (fun h => hb (h ▸ hc)) (fun h => ha (h ▸ hc)) t e

theorem markup_of_notMem {s : Text} (hb : '{' ∉ s) (ha : '@' ∉ s) : Markup s := by
  intro e t x ht hs
  cases t with
  | nil => exact absurd rfl ht
  | cons c t =>
    have hc : c ∈ s := hs.subset (List.mem_cons_self ..)
    exact Expression.match?_eq_none
      (opening?_cons_eq_none (fun h => hb (h ▸ hc)) (fun h => ha (h ▸ hc)) (t ++ x) e)

theorem Inert.markup {s : Text} (h : Inert s) : Markup (s ++ ['"']) := by
  intro e t x ht hs
  rcases List.suffix_concat_iff.1 hs with rfl | ⟨u, rfl, hu⟩
  · exact absurd rfl ht
  · have hopen := (Expression.opening?_staysBefore (bounds_quote x) e).append u
    rw [h e u ((List.mem_tails _ _).2 hu)] at hopen
    rw [List.append_assoc]
    exact Expression.match?_eq_none hopen

theorem bodies_eq_nil {find? : Text → Option BodyMatch} {s : Text} (pos : Nat)
    (h : ∀ t, t ≠ [] → t <:+ s → find? t = none) : bodies find? pos s = [] := by
  fun_induction bodies find? pos s with
  | case1 => rfl
  | case2 pos c r hm ih => exact ih fun t ht hs => h t ht (hs.trans (List.suffix_cons c r))
  | case3 pos c r m hm ih =>
    rw [h (c :: r) (List.cons_ne_nil c r) (List.suffix_refl _)] at hm
    cases hm

theorem blankFrom_nil : ∀ (s : Text) (pos : Nat), blankFrom [] pos s = s
  | [], _ => rfl
  | c :: s, pos => by
    rw [blankFrom_cons, blankFrom_nil s, List.any_nil, Bool.and_false, if_neg Bool.false_ne_true]

theorem veil_eq_self {s : Text} (h : ∀ (e : Expression) (t : Text), t ≠ [] → t <:+ s → e.match? t = none) :
    veil s = s := by
  have hnone : expressionsFrom 0 s = [] := by
    refine List.eq_nil_iff_forall_not_mem.2 fun r hr => ?_
    obtain ⟨e, he⟩ := mem_expressionsFrom.1 hr
    rw [bodies_eq_nil 0 (h e)] at he
    cases he
  change blankFrom (expressionsFrom 0 s) 0 s = s
  rw [hnone, blankFrom_nil]

theorem veil_of_notMem {s : Text} (hb : ¬ ['{', '{'] <:+: s) (ha : '@' ∉ s) : veil s = s :=
  veil_eq_self fun e _ _ ht => Expression.match?_eq_none (opening?_eq_none hb ha ht e)

theorem Markup.veil_append {a : Text} (h : Markup a) (b : Text) : veil (a ++ b) = a ++ veil b := by
  have hself : ∀ (e : Expression) (t : Text), t ≠ [] → t <:+ a → e.match? t = none := fun e t ht hs => by
    have := h e t [] ht hs
    rwa [List.append_nil] at this
  rw [Template.veil_append fun e t ht hs => (h e t b ht hs).trans (hself e t ht hs).symm, veil_eq_self hself]

end Template
end ViewAtlas
