import ViewAtlas.Proofs.Template.Covering
/-!
# Bodies of interpolations

What stands in an interpolation is masked, and nothing else hangs on it: another body of the same length with the same
line ends gives the same masked template (`mask_withInterpolation`).  A match that begins before the interpolation ends
before it, or it is that of a declaration or a block that the interpolation begins in; no match begins in the
interpolation but its own; and one that begins behind it does not see it.
-/
namespace ViewAtlas

/-- **Whether a span covers another one.** -/
def Span.covers (r q : Span) : Bool := r.start ≤ q.start && q.stop ≤ r.stop

namespace Template

/-! ## Matches that end before a brace -/

namespace Expression

variable {e : Expression} {s r x y t : Text} {m : BodyMatch}

/-- How many characters end an expression: two braces, a `;` or a parenthesis. -/
def closing : Expression → Nat
  | interpolation => 2
  | declaration => 1
  | block => 1

theorem found_lead (e : Expression) (lead n : Nat) : (e.found lead n).lead = lead := by cases e <;> rfl

/-- **A match is its opening and its body**, whose length is known when the body ends before the text does. -/
theorem eq_found_of_match? (hm : e.match? s = some m) : ∃ r, e.opening? s = some r ∧
    m = e.found (s.length - r.length) m.length ∧ (m.length < r.length → e.length? r = some m.length) := by
  cases hr : e.opening? s with
  | none =>
    rw [match?_eq_none hr] at hm
    cases hm
  | some r =>
    refine ⟨r, rfl, ?_⟩
    cases e with
    | interpolation =>
      rw [match?, interpolation?_eq, hr, Option.bind_some] at hm
      obtain ⟨n, hn, rfl⟩ := Option.map_eq_some_iff.1 hm
      exact ⟨rfl, fun _ => hn⟩
    | declaration =>
      rw [match?, declaration?_eq, hr, Option.bind_some] at hm
      obtain ⟨n, hn, rfl⟩ := Option.map_eq_some_iff.1 hm
      exact ⟨rfl, fun _ => hn⟩
    | block =>
      rw [match?, block?_eq, hr, Option.map_some] at hm
      cases hm
      exact ⟨rfl, fun hlt => by rw [length?, if_pos hlt]⟩

theorem length?_of_append {n : Nat} (h : e.length? (y ++ x) = some n) (hle : n + e.closing ≤ y.length) :
    e.length? y = some n := by
  cases e with
  | interpolation => exact Text.offset?_of_append (List.cons_ne_nil _ _) h hle
  | declaration => exact Text.offset?_of_append (List.cons_ne_nil _ _) h hle
  | block =>
    have hmin := parameterLength_eq_min x 1 none y
    rw [closing] at hle
    rw [length?] at h ⊢
    split at h
    · cases h
      rw [if_pos (by omega)]
      exact congrArg some (by omega)
    · cases h

/-- No body but that of an interpolation ends at a brace. -/
theorem getElem?_length? (he : e ≠ interpolation) {n : Nat} (h : e.length? r = some n) : r[n]? ≠ some '{' := by
  cases e with
  | interpolation => exact absurd rfl he
  | declaration =>
    obtain ⟨a, b, rfl, rfl⟩ := Text.eq_append_of_offset? h
    simp
  | block =>
    rw [length?] at h
    split at h
    · rename_i hlt
      cases h
      rw [getElem?_parameterLength hlt]
      decide
    · cases h

/-- An opening does not reach into a brace, two braces apart. -/
theorem opening?_brace (he : e ≠ interpolation) (x t : Text) :
    e.opening? (x ++ '{' :: t) = (e.opening? x).map (· ++ '{' :: t) := by
  refine (opening?_staysBefore_of_stops fun c hc => ?_).append x
  cases hc
  exact ⟨by decide, by decide, by decide, fun h => absurd h he⟩

theorem match?_before {t' : Text} (hm : e.match? (x ++ '{' :: t) = some m)
    (hle : m.lead + m.length + e.closing ≤ x.length) : e.match? (x ++ '{' :: t') = some m := by
  obtain ⟨r, hr, hfound, hlength⟩ := eq_found_of_match? hm
  have hopening : ∃ y, r = y ++ '{' :: t ∧ e.opening? (x ++ '{' :: t') = some (y ++ '{' :: t') := by
    by_cases he : e = interpolation
    · subst he
      have heq : x ++ '{' :: t = '{' :: '{' :: r := Text.eq_append_of_after? hr
      have hlead : m.lead = 2 := by
        rw [hfound, found_lead, heq, List.length_cons, List.length_cons]
        omega
      match x with
      | [] | [_] =>
        simp only [List.length_cons, List.length_nil] at hle
        omega
      | c :: d :: y =>
        cases heq
        exact ⟨y, rfl, Text.after?_append ['{', '{'] _⟩
    · rw [opening?_brace he] at hr ⊢
      obtain ⟨y, hy, rfl⟩ := Option.map_eq_some_iff.1 hr
      exact ⟨y, rfl, by rw [hy]; rfl⟩
  obtain ⟨y, rfl, hr'⟩ := hopening
  have hlead : m.lead = x.length - y.length := by
    rw [hfound, found_lead]
    simp only [List.length_append]
    omega
  have hle' := opening?_le hr
  simp only [List.length_append, List.length_cons] at hle' hlength
  have hn := length?_of_append (hlength (by omega)) (by omega)
  have hsame : (x ++ '{' :: t').length - (y ++ '{' :: t').length = (x ++ '{' :: t).length - (y ++ '{' :: t).length := by
    simp only [List.length_append, List.length_cons]
    omega
  rw [match?_eq_found hr' (length?_append _ hn), hsame, ← hfound]

theorem interpolation?_taken (h : interpolation? s = some m) : m.lead = 2 ∧ m.taken = m.length + 4 := by
  unfold interpolation? at h
  split at h
  · obtain ⟨n, -, rfl⟩ := Option.map_eq_some_iff.1 h
    exact ⟨rfl, rfl⟩
  · cases h

end Expression

/-! ## Bodies that are found -/

section Bodies

variable {find? : Text → Option BodyMatch} {pos : Nat} {s : Text} {r q : Span}

theorem exists_match_of_mem_bodies (h : r ∈ bodies find? pos s) : ∃ (k : Nat) (m : BodyMatch), k < s.length ∧
    find? (s.drop k) = some m ∧ r = ⟨pos + k + m.lead, pos + k + m.lead + m.length⟩ := by
  fun_induction bodies find? pos s with
  | case1 => cases h
  | case2 pos c s hnone ih =>
    obtain ⟨k, m, hk, hm, rfl⟩ := ih h
    refine ⟨k + 1, m, Nat.succ_lt_succ hk, hm, ?_⟩
    rw [show pos + (k + 1) = pos + 1 + k by omega]
  | case3 pos c s first hfirst ih =>
    rcases List.mem_cons.1 h with rfl | h
    · exact ⟨0, first, Nat.succ_pos _, hfirst, rfl⟩
    · obtain ⟨k, m, hk, hm, rfl⟩ := ih h
      rw [List.length_drop] at hk
      rw [List.drop_drop] at hm
      refine ⟨first.taken - 1 + k + 1, m, ?_, hm, ?_⟩
      · rw [List.length_cons]
        omega
      · rw [show pos + (first.taken - 1 + k + 1) = pos + 1 + (first.taken - 1) + k by omega]

/-- **Interpolations that are found stand apart**: the braces that end one and those that begin the next one are
between their bodies. -/
theorem interpolations_apart (hr : r ∈ bodies interpolation? pos s) (hq : q ∈ bodies interpolation? pos s) :
    r = q ∨ r.stop + 4 ≤ q.start ∨ q.stop + 4 ≤ r.start := by
  fun_induction bodies interpolation? pos s with
  | case1 => cases hr
  | case2 pos c s hnone ih => exact ih hr hq
  | case3 pos c s m hm ih =>
    obtain ⟨hlead, htaken⟩ := Expression.interpolation?_taken hm
    have hbehind : ∀ r ∈ bodies interpolation? (pos + 1 + (m.taken - 1)) (s.drop (m.taken - 1)),
        pos + m.lead + m.length + 4 ≤ r.start := by
      intro r hr
      obtain ⟨k, m', -, hm', rfl⟩ := exists_match_of_mem_bodies hr
      have hlead' := (Expression.interpolation?_taken hm').1
      dsimp only
      omega
    rcases List.mem_cons.1 hr with rfl | hr <;> rcases List.mem_cons.1 hq with rfl | hq
    · exact .inl rfl
    · exact .inr (.inl (hbehind q hq))
    · exact .inr (.inr (hbehind r hr))
    · exact ih hr hq

end Bodies

/-- **An offset that a body covers**: that of a match that begins anywhere in the text. -/
def Covered (s : Text) (i : Nat) : Prop := ∃ (e : Expression) (k : Nat) (m : BodyMatch), k < s.length ∧
  e.match? (s.drop k) = some m ∧ k + m.lead ≤ i ∧ i < k + m.lead + m.length

theorem any_holds_iff {s : Text} {i : Nat} : (expressionsFrom 0 s).any (·.holds i) = true ↔ Covered s i := by
  rw [List.any_eq_true]
  constructor
  · rintro ⟨r, hr, hi⟩
    obtain ⟨e, he⟩ := mem_expressionsFrom.1 hr
    obtain ⟨k, m, hk, hm, rfl⟩ := exists_match_of_mem_bodies he
    have hin := holds_iff.1 hi
    dsimp only at hin
    exact ⟨e, k, m, hk, hm, by omega, by omega⟩
  · rintro ⟨e, k, m, hk, hm, h1, h2⟩
    obtain ⟨r, hr, h3, h4⟩ := bodies_cover (Expression.nests_match? e) 0 hm hk
    exact ⟨r, mem_expressionsFrom.2 ⟨e, hr⟩, holds_iff.2 ⟨by omega, by omega⟩⟩

/-! ## A template with an interpolation -/

/-- **A template with an interpolation**, whose body is `b`. -/
def withInterpolation (a b c : Text) : Text := a ++ '{' :: '{' :: (b ++ '}' :: '}' :: c)

def interpolationSpan (a b : Text) : Span := ⟨a.length, a.length + b.length + 4⟩

/-- **An interpolation of a template**: it is one of those that are found, its body holds neither a brace nor an `@`, and
it begins neither in the value of a declaration nor in the parameter of a block. -/
structure Interpolates (a b c : Text) : Prop where
  found : (⟨a.length + 2, a.length + 2 + b.length⟩ : Span) ∈ bodies interpolation? 0 (withInterpolation a b c)
  plain : '{' ∉ b ∧ '}' ∉ b ∧ '@' ∉ b
  outside : ∀ r ∈ bodies declaration? 0 (withInterpolation a b c) ++ bodies block? 0 (withInterpolation a b c),
    r.holds a.length = false

/-- **Bodies of the same length with the same line ends.** -/
def SameLines (b b' : Text) : Prop := List.Forall₂ (fun c d => c = '\n' ↔ d = '\n') b b'

section WithInterpolation

variable {a b b' c : Text} {e : Expression} {k i : Nat} {m : BodyMatch}

theorem SameLines.length_eq (h : SameLines b b') : b.length = b'.length := List.Forall₂.length_eq h

theorem SameLines.blanked_eq (h : SameLines b b') : blanked b = blanked b' := by
  induction h with
  | nil => rfl
  | @cons c d b b' hcd _ ih =>
    change (if c = '\n' then c else ' ') :: blanked b = (if d = '\n' then d else ' ') :: blanked b'
    rw [ih]
    by_cases hc : c = '\n'
    · rw [if_pos hc, if_pos (hcd.1 hc), hc, hcd.1 hc]
    · rw [if_neg hc, if_neg fun hd => hc (hcd.2 hd)]

theorem length_withInterpolation (a b c : Text) :
    (withInterpolation a b c).length = a.length + b.length + 4 + c.length := by
  simp only [withInterpolation, List.length_append, List.length_cons]
  omega

theorem drop_withInterpolation (hk : k ≤ a.length) :
    (withInterpolation a b c).drop k = a.drop k ++ '{' :: '{' :: (b ++ '}' :: '}' :: c) :=
  List.drop_append_of_le_length hk

theorem drop_withInterpolation_behind (hk : a.length + 2 + b.length ≤ k) :
    (withInterpolation a b c).drop k = ('}' :: '}' :: c).drop (k - (a.length + 2 + b.length)) := by
  have hsplit : withInterpolation a b c = (a ++ '{' :: '{' :: b) ++ '}' :: '}' :: c := by
    rw [withInterpolation, List.append_assoc]
    rfl
  have hlength : (a ++ '{' :: '{' :: b).length = a.length + 2 + b.length := by
    simp only [List.length_append, List.length_cons]
    omega
  rw [hsplit, List.drop_append, List.drop_eq_nil_of_le (by omega), List.nil_append, hlength]

theorem blankFrom_withInterpolation (spans : List Span) (a b c : Text) : blankFrom spans 0 (withInterpolation a b c) =
    blankFrom spans 0 (a ++ ['{', '{']) ++ (blankFrom spans (a.length + 2) b ++
      blankFrom spans (a.length + 2 + b.length) ('}' :: '}' :: c)) := by
  have hsplit : withInterpolation a b c = (a ++ ['{', '{']) ++ (b ++ '}' :: '}' :: c) := by
    rw [withInterpolation, List.append_assoc]
    rfl
  rw [hsplit, blankFrom_append, blankFrom_append spans _ b, Nat.zero_add, List.length_append]
  rfl

namespace Interpolates

variable (h : Interpolates a b c)
include h

theorem eq_of_match_in (hm : e.match? ((withInterpolation a b c).drop k) = some m) (hk : a.length ≤ k)
    (hlt : k < a.length + 2 + b.length) : k + m.lead = a.length + 2 ∧ m.length = b.length := by
  obtain ⟨hopen, -, hat⟩ := h.plain
  obtain ⟨r, hr, -⟩ := Expression.eq_found_of_match? hm
  obtain ⟨j, rfl⟩ := Nat.exists_eq_add_of_le hk
  have hdrop : (withInterpolation a b c).drop (a.length + j) = ('{' :: '{' :: (b ++ '}' :: '}' :: c)).drop j := by
    rw [← List.drop_drop, drop_withInterpolation (Nat.le_refl _), List.drop_length, List.nil_append]
  rw [hdrop] at hr
  match j with
  | 0 =>
    obtain ⟨rfl, -⟩ | ⟨-, w, hw, -⟩ := Expression.eq_of_opening? hr
    · obtain ⟨k, m', -, hm', heq⟩ := exists_match_of_mem_bodies h.found
      obtain ⟨hstart, hstop⟩ := Span.mk.inj heq
      have hlead := (Expression.interpolation?_taken hm').1
      obtain rfl : k = a.length := by omega
      rw [Nat.add_zero] at hm ⊢
      cases hm.symm.trans hm'
      omega
    · cases hw
  | 1 =>
    obtain ⟨-, hr⟩ | ⟨-, w, hw, -⟩ := Expression.eq_of_opening? hr
    · cases b with
      | nil => cases hr
      | cons d b =>
        cases hr
        exact absurd (List.mem_cons_self ..) hopen
    · cases hw
  | j + 2 =>
    obtain ⟨d, hd, t, ht⟩ : ∃ d ∈ b, ∃ t, (b ++ '}' :: '}' :: c).drop j = d :: t := by
      have hj : j < b.length := by omega
      rw [List.drop_append_of_le_length (Nat.le_of_lt hj), List.drop_eq_getElem_cons hj]
      exact ⟨_, List.getElem_mem hj, _, rfl⟩
    rw [List.drop_succ_cons, List.drop_succ_cons, ht] at hr
    obtain ⟨-, hr⟩ | ⟨-, w, hw, -⟩ := Expression.eq_of_opening? hr
    · cases hr
      exact absurd hd hopen
    · cases hw
      exact absurd hd hat

/-- **A match that begins before the interpolation ends before it.** -/
theorem match_before (hm : e.match? ((withInterpolation a b c).drop k) = some m) (hk : k < a.length) :
    k + m.lead + m.length + e.closing ≤ a.length := by
  have hlen : k < (withInterpolation a b c).length := by
    rw [length_withInterpolation]
    omega
  obtain ⟨q, hq, hstart, hstop⟩ := bodies_cover (Expression.nests_match? e) 0 hm hlen
  by_cases he : e = .interpolation
  · subst he
    -- it is no other than one that stands apart from this one
    have hlead := (Expression.interpolation?_taken hm).1
    have hapart := interpolations_apart hq h.found
    rw [Expression.closing]
    rcases hapart with rfl | hbefore | hbehind
    · dsimp only at hstart
      omega
    · dsimp only at hbefore
      omega
    · dsimp only at hbehind
      omega
  · -- it is covered by a body that begins before the interpolation, so by one that ends there
    obtain ⟨r, hr, hfound, hlength⟩ := Expression.eq_found_of_match? hm
    have hlead := congrArg BodyMatch.lead hfound
    rw [drop_withInterpolation (Nat.le_of_lt hk)] at hr hlead
    rw [Expression.opening?_brace he] at hr
    obtain ⟨y, hy, rfl⟩ := Option.map_eq_some_iff.1 hr
    have hle := Expression.opening?_le hy
    rw [Expression.found_lead] at hlead
    simp only [List.length_append, List.length_cons, List.length_drop] at hlead hlength hle
    have hout : q.holds a.length = false := by
      refine h.outside q (List.mem_append.2 ?_)
      cases e with
      | interpolation => exact absurd rfl he
      | declaration => exact .inl hq
      | block => exact .inr hq
    have hends : ¬ (q.start ≤ a.length ∧ a.length < q.stop) := fun hin => by
      rw [holds_iff.2 hin] at hout
      cases hout
    have hne : m.length ≠ y.length := fun heq => by
      refine Expression.getElem?_length? he (hlength (by omega)) ?_
      rw [heq, List.getElem?_append_right (Nat.le_refl _), Nat.sub_self]
      rfl
    have hclosing : e.closing = 1 := by
      cases e with
      | interpolation => exact absurd rfl he
      | declaration | block => rfl
    omega

/-- **What is blanked out beside the body does not hang on it.** -/
theorem covered_of_covered (hlen : b.length = b'.length) (hi : i < a.length + 2 ∨ a.length + 2 + b.length ≤ i)
    (hc : Covered (withInterpolation a b c) i) : Covered (withInterpolation a b' c) i := by
  obtain ⟨e, k, m, hk, hm, h1, h2⟩ := hc
  have hk' : k < (withInterpolation a b' c).length := by
    rw [length_withInterpolation] at hk ⊢
    omega
  refine ⟨e, k, m, hk', ?_, h1, h2⟩
  rcases Nat.lt_or_ge k a.length with hbefore | hbefore
  · have hle := h.match_before hm hbefore
    rw [drop_withInterpolation (Nat.le_of_lt hbefore)] at hm ⊢
    exact Expression.match?_before hm (by rw [List.length_drop]; omega)
  · rcases Nat.lt_or_ge k (a.length + 2 + b.length) with hin | hbehind
    · have := h.eq_of_match_in hm hbefore hin
      omega
    · rw [drop_withInterpolation_behind hbehind] at hm
      rwa [drop_withInterpolation_behind (hlen ▸ hbehind), ← hlen]

theorem blankFrom_body : blankFrom (expressionsFrom 0 (withInterpolation a b c)) (a.length + 2) b = blanked b :=
  blankFrom_covered fun _ h1 h2 => ⟨_, mem_expressionsFrom.2 ⟨.interpolation, h.found⟩, holds_iff.2 ⟨h1, h2⟩⟩

/-- **The body is blanked out**, and it does not matter elsewhere. -/
theorem veil_eq (h' : Interpolates a b' c) (hlines : SameLines b b') :
    veil (withInterpolation a b c) = veil (withInterpolation a b' c) := by
  have hlen := hlines.length_eq
  have hany : ∀ i, i < a.length + 2 ∨ a.length + 2 + b.length ≤ i →
      (expressionsFrom 0 (withInterpolation a b c)).any (·.holds i) =
        (expressionsFrom 0 (withInterpolation a b' c)).any (·.holds i) := fun i hi => by
    rw [Bool.eq_iff_iff, any_holds_iff, any_holds_iff]
    exact ⟨h.covered_of_covered hlen hi, h'.covered_of_covered hlen.symm (hlen ▸ hi)⟩
  change blankFrom (expressionsFrom 0 _) 0 _ = blankFrom (expressionsFrom 0 _) 0 _
  rw [blankFrom_withInterpolation, blankFrom_withInterpolation, h.blankFrom_body, h'.blankFrom_body, hlines.blanked_eq,
    ← hlen,
    blankFrom_congr fun i _ h2 => hany i (.inl (by simpa using h2)),
    blankFrom_congr (s := '}' :: '}' :: c) fun i h1 _ => hany i (.inr h1)]

theorem not_covered (hlo : a.length ≤ i) (hhi : i < a.length + b.length + 4)
    (hout : i < a.length + 2 ∨ a.length + 2 + b.length ≤ i) : ¬ Covered (withInterpolation a b c) i := by
  rintro ⟨e, k, m, hk, hm, h1, h2⟩
  rcases Nat.lt_or_ge k a.length with hbefore | hbefore
  · have := h.match_before hm hbefore
    omega
  · rcases Nat.lt_or_ge k (a.length + 2 + b.length) with hin | hbehind
    · have := h.eq_of_match_in hm hbefore hin
      omega
    · rw [drop_withInterpolation_behind hbehind] at hm
      obtain ⟨r, hr, -⟩ := Expression.eq_found_of_match? hm
      have hj : k - (a.length + 2 + b.length) = 0 ∨ k - (a.length + 2 + b.length) = 1 := by omega
      rcases hj with hj | hj
      all_goals
        rw [hj] at hr
        exact absurd (hr.symm.trans (opening?_cons_eq_none (by decide) (by decide) _ e)) (by simp)

theorem veil_eq_withInterpolation : ∃ a' c', a'.length = a.length ∧
    veil (withInterpolation a b c) = withInterpolation a' (blanked b) c' := by
  have hnone : ∀ i, a.length ≤ i → i < a.length + b.length + 4 →
      (i < a.length + 2 ∨ a.length + 2 + b.length ≤ i) →
        (expressionsFrom 0 (withInterpolation a b c)).any (·.holds i) = ([] : List Span).any (·.holds i) :=
    fun i hlo hhi hout => by
      rw [List.any_nil, Bool.eq_false_iff, Ne, any_holds_iff]
      exact h.not_covered hlo hhi hout
  change ∃ a' c', _ ∧ blankFrom (expressionsFrom 0 _) 0 _ = _
  rw [blankFrom_withInterpolation, h.blankFrom_body]
  generalize expressionsFrom 0 (withInterpolation a b c) = spans at hnone ⊢
  have hopen : blankFrom spans a.length ['{', '{'] = ['{', '{'] :=
    (blankFrom_congr fun i h1 h2 => hnone i h1 (by simp at h2; omega) (.inl (by simpa using h2))).trans (blankFrom_nil ..)
  have hclose : blankFrom spans (a.length + 2 + b.length) ['}', '}'] = ['}', '}'] :=
    (blankFrom_congr fun i h1 h2 => hnone i (by omega) (by simp at h2; omega) (.inr h1)).trans (blankFrom_nil ..)
  refine ⟨blankFrom spans 0 a, blankFrom spans (a.length + 2 + b.length + 2) c, by simp [blankFrom], ?_⟩
  rw [blankFrom_append, Nat.zero_add, hopen, show '}' :: '}' :: c = ['}', '}'] ++ c from rfl, blankFrom_append, hclose,
    withInterpolation, List.append_assoc]
  rfl

end Interpolates

theorem mem_blank_interpolation {d : Char} (hd : d ∈ '{' :: '{' :: (blanked b ++ ['}', '}'])) :
    d ∈ ['{', '}', ' ', '\n'] := by
  have hd : d = '{' ∨ d = '{' ∨ d ∈ blanked b ∨ d = '}' ∨ d = '}' := by simpa using hd
  rcases hd with rfl | rfl | hd | rfl | rfl
  · decide
  · decide
  · rcases mem_blanked hd with rfl | rfl <;> decide
  · decide
  · decide

theorem eq_append_of_brackets {w x v : Text} (hw : ∀ c ∈ w, c ≠ '<' ∧ c ≠ '>')
    (h : List.Forall₂ (fun d c => d = c ∨ d = ' ' ∧ (c = '<' ∨ c = '>')) x (w ++ v)) : ∃ y, x = w ++ y := by
  induction w generalizing x with
  | nil => exact ⟨x, rfl⟩
  | cons c w ih =>
    obtain ⟨d, y, hd, hy, rfl⟩ := List.forall₂_cons_right_iff.1 h
    obtain ⟨y, rfl⟩ := ih (fun c hc => hw c (List.mem_cons_of_mem _ hc)) hy
    have hc := hw c (List.mem_cons_self ..)
    rcases hd with rfl | ⟨-, hd | hd⟩
    · exact ⟨y, rfl⟩
    · exact absurd hd hc.1
    · exact absurd hd hc.2

/-- **A masked template has the interpolation**, with a blank body. -/
theorem Interpolates.mask_eq_withInterpolation (h : Interpolates a b c) : ∃ a' c', a'.length = a.length ∧
    mask (withInterpolation a b c) = withInterpolation a' (blanked b) c' := by
  obtain ⟨u, v, hu, hveil⟩ := h.veil_eq_withInterpolation
  have hbrackets := maskBrackets_brackets (Text.lower (veil (withInterpolation a b c))) (veil (withInterpolation a b c))
  change ∃ a' c', _ ∧ maskBrackets (Text.lower (veil (withInterpolation a b c))) (veil (withInterpolation a b c)) = _
  have hsplit : withInterpolation u (blanked b) v = u ++ ('{' :: '{' :: (blanked b ++ ['}', '}']) ++ v) := by
    simp [withInterpolation]
  have hplain : ∀ d ∈ ['{', '}', ' ', '\n'], d ≠ '<' ∧ d ≠ '>' := by decide
  generalize Text.lower (veil (withInterpolation a b c)) = low at hbrackets ⊢
  rw [hveil] at hbrackets ⊢
  generalize maskBrackets low (withInterpolation u (blanked b) v) = m at hbrackets ⊢
  have hlen := hbrackets.length_eq
  rw [length_withInterpolation] at hlen
  rw [hsplit] at hbrackets
  obtain ⟨y, hy⟩ := eq_append_of_brackets (fun d hd => hplain d (mem_blank_interpolation hd))
    (List.forall₂_drop_append _ _ _ hbrackets)
  refine ⟨m.take u.length, y, by rw [List.length_take]; omega, ?_⟩
  conv => lhs; rw [← List.take_append_drop u.length m, hy]
  simp [withInterpolation]

theorem mask_withInterpolation (h : Interpolates a b c) (h' : Interpolates a b' c) (hlines : SameLines b b') :
    mask (withInterpolation a b c) = mask (withInterpolation a b' c) :=
  congrArg (fun s => maskBrackets (Text.lower s) s) (h.veil_eq h' hlines)

end WithInterpolation

end Template
end ViewAtlas
