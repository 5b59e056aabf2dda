import Mathlib.Data.List.Forall2
import ViewAtlas.Text.Case
/-!
# Lower case, piece by piece

Only a capital sigma looks around itself, and not past a character that has no case and is not passed over.  So a text
is put into lower case piece by piece where such a character stands (`lower_append`).  But for `İ`, the lower case has as
many characters as the text (`length_lower`).  Where neither of the two stands, the lower cases of texts tell whether one
holds the other but for case (`lower_infix_iff`).  And up to the first `İ`, the lower case shows where marks of ASCII
stand in a text (`exists_lowerFrom`, `offset?_lowersTo`).
-/
namespace ViewAtlas
namespace Text

/-- **A character at which the search for cases ends**: it has none, and is not passed over. -/
def IsNeutral (c : Char) : Prop := isCased c = false ∧ isCaseIgnorable c = false

instance (c : Char) : Decidable (IsNeutral c) := inferInstanceAs (Decidable (_ ∧ _))

variable {n : Char}

theorem startsCased_append (hn : IsNeutral n) (s t : Text) : startsCased (s ++ n :: t) = startsCased s := by
  unfold startsCased
  rw [List.dropWhile_append]
  cases s.dropWhile isCaseIgnorable with
  | nil => simp [hn.1, hn.2]
  | cons c r => rfl

theorem lowerFrom_neutral (hn : IsNeutral n) (w : Text) : ∀ s u : Text, lowerFrom (u ++ n :: w) s = lowerFrom u s
  | [], _ => rfl
  | c :: s, u => by
    have ih := lowerFrom_neutral hn w s (c :: u)
    rw [List.cons_append] at ih
    rw [lowerFrom, lowerFrom, startsCased_append hn, ih]

theorem lowerFrom_append (hn : IsNeutral n) (t : Text) : ∀ s before : Text,
    lowerFrom before (s ++ n :: t) = lowerFrom before s ++ lowerFrom (s.reverse ++ before) (n :: t)
  | [], _ => rfl
  | c :: s, before => by
    rw [List.cons_append, lowerFrom, lowerFrom, startsCased_append hn, lowerFrom_append hn t s (c :: before),
      List.append_assoc, List.reverse_cons, List.append_assoc, List.singleton_append]

theorem lowerFrom_cons (hn : IsNeutral n) (before t : Text) :
    lowerFrom before (n :: t) = lowerChar n ++ lower t := by
  have hsigma : n.toNat ≠ 0x3A3 := by
    intro h
    have hcased := hn.1
    rw [isCased, h] at hcased
    exact absurd hcased (by decide +kernel)
  have hafter := lowerFrom_neutral hn before t []
  rw [List.nil_append] at hafter
  rw [lowerFrom, if_neg hsigma, hafter, lower]

theorem lower_cons (hn : IsNeutral n) (t : Text) : lower (n :: t) = lowerChar n ++ lower t := lowerFrom_cons hn [] t

/-- **A text is put into lower case piece by piece** before a neutral character. -/
theorem lower_append (hn : IsNeutral n) (s t : Text) : lower (s ++ n :: t) = lower s ++ lower (n :: t) := by
  rw [lower_cons hn, lower, lowerFrom_append hn, lowerFrom_cons hn]
  rfl

def dottedI : Char := Char.ofNat 0x130

theorem length_lowerFrom : ∀ {s : Text}, dottedI ∉ s → ∀ before, (lowerFrom before s).length = s.length
  | [], _, _ => rfl
  | c :: s, h, before => by
    rw [List.mem_cons, not_or] at h
    have hc : c.toNat ≠ 0x130 := fun he => h.1 (by rw [dottedI, ← he, Char.ofNat_toNat])
    have hone : (if c.toNat = 0x3A3 then [Char.ofNat (if startsCased before && !startsCased s then 0x3C2 else 0x3C3)]
        else lowerChar c).length = 1 := by
      unfold lowerChar
      rw [if_neg hc]
      split
      · rfl
      · split <;> rfl
    rw [lowerFrom, List.length_append, hone, length_lowerFrom h.2, List.length_cons, Nat.add_comm]

theorem length_lower {s : Text} (h : dottedI ∉ s) : (lower s).length = s.length := length_lowerFrom h []

/-! ## Texts without regard to case -/

def capitalSigma : Char := Char.ofNat 0x3A3

/-- **A text that holds another one but for case**: a piece of it has the same lower case. -/
def HoldsUncased (t s : Text) : Prop := ∃ piece, piece <:+: s ∧ lower piece = lower t

/-- **A text put into lower case character by character**, each giving one. -/
def CasedApart (s : Text) : Prop := dottedI ∉ s ∧ capitalSigma ∉ s

instance (s : Text) : Decidable (CasedApart s) := inferInstanceAs (Decidable (_ ∧ _))

/-- The one character that the lower case of a character begins with. -/
def lowerOne (c : Char) : Char := (lowerChar c).headD c

theorem lowerFrom_eq_map : ∀ {s : Text}, CasedApart s → ∀ before, lowerFrom before s = s.map lowerOne
  | [], _, _ => rfl
  | c :: s, h, before => by
    rw [CasedApart, List.mem_cons, List.mem_cons, not_or, not_or] at h
    have hi : c.toNat ≠ 0x130 := fun he => h.1.1 (by rw [dottedI, ← he, Char.ofNat_toNat])
    have hsigma : c.toNat ≠ 0x3A3 := fun he => h.2.1 (by rw [capitalSigma, ← he, Char.ofNat_toNat])
    have hone : lowerChar c = [lowerOne c] := by
      unfold lowerOne lowerChar
      rw [if_neg hi]
      split <;> rfl
    rw [lowerFrom, if_neg hsigma, hone, lowerFrom_eq_map ⟨h.1.2, h.2.2⟩, List.map_cons, List.singleton_append]

theorem lower_eq_map {s : Text} (h : CasedApart s) : lower s = s.map lowerOne := lowerFrom_eq_map h []

theorem CasedApart.of_infix {s piece : Text} (h : CasedApart s) (hp : piece <:+: s) : CasedApart piece :=
  ⟨fun hi => h.1 (hp.subset hi), fun hs => h.2 (hp.subset hs)⟩

/-- **The lower cases of two texts tell whether one holds the other but for case**, where characters are put into lower
case apart. -/
theorem lower_infix_iff {t s : Text} (h : CasedApart s) : lower t <:+: lower s ↔ HoldsUncased t s := by
  rw [lower_eq_map h, List.infix_map_iff]
  refine exists_congr fun piece => and_congr_right fun hp => ?_
  rw [lower_eq_map (h.of_infix hp), eq_comm]

/-! ## Letters of markup -/

/-- **A character whose place in lower case shows the same character but for the case of ASCII.**  Of the characters from
U+0080 on, only `İ` and the Kelvin sign have one of ASCII in their lower case. -/
def LowersTo (d c : Char) : Prop := ∀ k : Char, 0 < k.toNat → k.toNat < 0x80 → k ≠ 'k' → (d = k ↔ c.toLower = k)

theorem lowerRuns_avoid_ascii : ∀ r ∈ lowerRuns,
    0x80 ≤ (r.first : Int) + r.shift ∨ r.first = r.last ∧ (r.first : Int) + r.shift = 'k'.toNat := by decide +kernel

theorem toLower_of_le {c : Char} (h : 0x80 ≤ c.toNat) : c.toLower = c := by
  unfold Char.toLower
  split
  · rename_i hc
    have hle : c.toNat ≤ 'Z'.toNat := UInt32.le_iff_toNat_le.1 hc.2
    exact absurd (Nat.le_trans h hle) (by decide)
  · rfl

theorem toNat_ofNat_or (n : Nat) : (Char.ofNat n).toNat = n ∨ (Char.ofNat n).toNat = 0 := by
  by_cases hn : n.isValidChar
  · exact .inl (by rw [Char.ofNat, dif_pos hn]; rfl)
  · exact .inr (by rw [Char.ofNat, dif_neg hn]; rfl)

theorem lowersTo_of_le {d c : Char} (hc : 0x80 ≤ c.toNat) (hd : 0x80 ≤ d.toNat ∨ d.toNat = 0 ∨ d = 'k') :
    LowersTo d c := by
  intro k hpos hk hne
  rw [toLower_of_le hc]
  refine iff_of_false ?_ ?_
  · rintro rfl
    rcases hd with hd | hd | hd
    · omega
    · omega
    · exact hne hd
  · rintro rfl
    omega

theorem mapByRuns_lowersTo {c : Char} (hc : 0x80 ≤ c.toNat) : LowersTo (mapByRuns lowerRuns c) c := by
  refine lowersTo_of_le hc ?_
  unfold mapByRuns
  cases hf : lowerRuns.find? (·.holds c.toNat) with
  | none => exact .inl hc
  | some r =>
    have hr := List.find?_some hf
    simp only [CaseRun.holds, Bool.and_eq_true, decide_eq_true_eq] at hr
    dsimp only
    rcases lowerRuns_avoid_ascii r (List.mem_of_find?_eq_some hf) with hle | ⟨hone, hk⟩
    · rcases toNat_ofNat_or (c.toNat + r.shift).toNat with h | h
      · rw [h]
        omega
      · exact .inr (.inl h)
    · have hsum : (c.toNat + r.shift).toNat = 'k'.toNat := by omega
      exact .inr (.inr (by rw [hsum, Char.ofNat_toNat]))

/-- **Up to the first `İ`, the lower case of a text goes along with it.** -/
theorem exists_lowerFrom : ∀ {u : Text}, dottedI ∉ u → ∀ v before,
    ∃ l, lowerFrom before (u ++ v) = l ++ lowerFrom (u.reverse ++ before) v ∧ List.Forall₂ LowersTo l u
  | [], _, v, before => ⟨[], rfl, .nil⟩
  | c :: u, h, v, before => by
    rw [List.mem_cons, not_or] at h
    have hc : c.toNat ≠ 0x130 := fun he => h.1 (by rw [dottedI, ← he, Char.ofNat_toNat])
    obtain ⟨l, hl, hlu⟩ := exists_lowerFrom h.2 v (c :: before)
    have hone : ∃ d, (if c.toNat = 0x3A3 then
        [Char.ofNat (if startsCased before && !startsCased (u ++ v) then 0x3C2 else 0x3C3)] else lowerChar c) = [d] ∧
          LowersTo d c := by
      by_cases hsigma : c.toNat = 0x3A3
      · rw [if_pos hsigma]
        refine ⟨_, rfl, lowersTo_of_le (by omega) (.inl ?_)⟩
        split <;> decide
      · rw [if_neg hsigma, lowerChar, if_neg hc]
        by_cases hascii : c.toNat < 0x80
        · rw [if_pos hascii]
          exact ⟨_, rfl, fun _ _ _ _ => Iff.rfl⟩
        · rw [if_neg hascii]
          exact ⟨_, rfl, mapByRuns_lowersTo (by omega)⟩
    obtain ⟨d, hd, hdc⟩ := hone
    refine ⟨d :: l, ?_, .cons hdc hlu⟩
    rw [List.cons_append, lowerFrom, hd, hl, List.reverse_cons, List.append_assoc]
    rfl

/-- **A text that its lower case shows**: characters of ASCII other than `k`. -/
def IsMark (p : Text) : Prop := ∀ k ∈ p, 0 < k.toNat ∧ k.toNat < 0x80 ∧ k ≠ 'k'

instance (p : Text) : Decidable (IsMark p) := List.decidableBAll _ p

theorem isPrefixOf_lowersTo : ∀ {p l u : Text}, IsMark p → List.Forall₂ LowersTo l u →
    p.isPrefixOf l = p.isPrefixOf (u.map Char.toLower)
  | [], _, _, _, _ => by rw [List.isPrefixOf_nil_left, List.isPrefixOf_nil_left]
  | k :: p, _, _, _, .nil => rfl
  | k :: p, _, _, hp, .cons (a := d) (b := c) hd h => by
    have hk := hp k (List.mem_cons_self ..)
    have hdk : (k == d) = (k == c.toLower) := by
      rw [Bool.eq_iff_iff, beq_iff_eq, beq_iff_eq, eq_comm, hd k hk.1 hk.2.1 hk.2.2, eq_comm]
    rw [List.map_cons, List.isPrefixOf_cons_cons, List.isPrefixOf_cons_cons, hdk,
      isPrefixOf_lowersTo (fun k hk => hp k (List.mem_cons_of_mem _ hk)) h]

theorem offset?_lowersTo {p : Text} (hp : IsMark p) {l u : Text} (h : List.Forall₂ LowersTo l u) :
    offset? p l = offset? p (u.map Char.toLower) := by
  induction h with
  | nil => rfl
  | cons hd h ih =>
    have hprefix := isPrefixOf_lowersTo hp (.cons hd h)
    rw [List.map_cons] at hprefix
    rw [offset?, List.map_cons, offset?, hprefix, ih]

theorem eq_lowersTo {p l u : Text} (hp : IsMark p) (h : List.Forall₂ LowersTo l u) :
    l = p ↔ u.map Char.toLower = p := by
  induction h generalizing p with
  | nil => rfl
  | @cons d c l u hd h ih =>
    cases p with
    | nil => exact iff_of_false (List.cons_ne_nil _ _) (List.cons_ne_nil _ _)
    | cons k p =>
      have hk := hp k (List.mem_cons_self ..)
      rw [List.map_cons, List.cons.injEq, List.cons.injEq, hd k hk.1 hk.2.1 hk.2.2,
        ih fun k hk => hp k (List.mem_cons_of_mem _ hk)]

theorem mem_lowerFrom_of_dottedI : ∀ {s : Text}, dottedI ∈ s → ∀ before, Char.ofNat 0x307 ∈ lowerFrom before s
  | c :: s, h, before => by
    rw [lowerFrom, List.mem_append]
    rcases List.mem_cons.1 h with rfl | h
    · rw [if_neg (by decide)]
      exact .inl (by decide)
    · exact .inr (mem_lowerFrom_of_dottedI h _)

/-- **Which text is a mark in lower case** is a matter of ASCII only. -/
theorem lower_eq_iff {p : Text} (hp : IsMark p) (s : Text) : lower s = p ↔ s.map Char.toLower = p := by
  by_cases hs : dottedI ∈ s
  · refine iff_of_false ?_ ?_
    · rintro rfl
      exact absurd (hp _ (mem_lowerFrom_of_dottedI hs [])).2.1 (by decide)
    · rintro rfl
      exact absurd (hp _ (List.mem_map_of_mem hs)).2.1 (by decide)
  · obtain ⟨l, hl, h⟩ := exists_lowerFrom hs [] []
    rw [List.append_nil, lowerFrom, List.append_nil] at hl
    rw [lower, hl, eq_lowersTo hp h]

end Text
end ViewAtlas
