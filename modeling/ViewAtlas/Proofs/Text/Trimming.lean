import Mathlib.Data.List.TakeWhile
import ViewAtlas.Text.Blank
/-!
# Trimming

A text is its trimmed text between blanks (`exists_strip`), and blanks at either end do not change what is left of it.
The first word of a text stands behind blanks, up to the next one (`firstWord?_isFirstWord`).
-/
namespace ViewAtlas
namespace Text

theorem isBlankText_iff {v : Text} : isBlankText v = true ↔ v.dropWhile isBlank = [] := by
  rw [isBlankText, List.all_eq_true, List.dropWhile_eq_nil_iff]

theorem notMem_of_isBlankText {c : Char} {v : Text} (h : isBlankText v = true) (hc : isBlank c = false) : c ∉ v :=
  fun hmem => by
    have := List.all_eq_true.1 h c hmem
    rw [hc] at this
    cases this

theorem isBlankText_of_isPrefix {u v : Text} (hv : isBlankText v = true) (h : u <+: v) : isBlankText u = true :=
  List.all_eq_true.2 fun c hc => List.all_eq_true.1 hv c (h.subset hc)

/-! ## Blanks at either end -/

theorem strip_append_left {a : Text} (ha : isBlankText a = true) (s : Text) : strip (a ++ s) = strip s := by
  rw [strip, strip, List.dropWhile_append_of_pos fun c hc => List.all_eq_true.1 ha c hc]

theorem strip_append_right {b : Text} (hb : isBlankText b = true) (s : Text) : strip (s ++ b) = strip s := by
  rw [strip, strip, List.dropWhile_append]
  by_cases hs : s.dropWhile isBlank = []
  · simp [hs, isBlankText_iff.1 hb]
  · have hrev : ∀ c ∈ b.reverse, isBlank c = true := fun c hc => List.all_eq_true.1 hb c (List.mem_reverse.1 hc)
    rw [if_neg (by simpa using hs), trimEnd, trimEnd, List.reverse_append, List.dropWhile_append_of_pos hrev]

/-- **A text is its trimmed text between blanks.** -/
theorem exists_strip (s : Text) :
    ∃ a b, s = a ++ (strip s ++ b) ∧ isBlankText a = true ∧ isBlankText b = true := by
  refine ⟨s.takeWhile isBlank, ((s.dropWhile isBlank).reverse.takeWhile isBlank).reverse, ?_, List.all_takeWhile, ?_⟩
  · rw [strip, trimEnd_append, List.takeWhile_append_dropWhile]
  · rw [isBlankText, List.all_reverse]
    exact List.all_takeWhile

theorem strip_eq_nil_iff {s : Text} : strip s = [] ↔ isBlankText s = true := by
  constructor
  · intro h
    obtain ⟨a, b, hs, ha, hb⟩ := exists_strip s
    rw [hs, h, List.nil_append, isBlankText, List.all_append]
    exact Bool.and_eq_true_iff.2 ⟨ha, hb⟩
  · intro h
    have hstrip := strip_append_left h []
    rwa [List.append_nil] at hstrip

theorem exists_strip_cons {c : Char} (hc : isBlank c = false) (s : Text) : ∃ r, strip (c :: s) = c :: r := by
  obtain ⟨a, b, hs, ha, hb⟩ := exists_strip (c :: s)
  have hne {x y : Text} (hx : isBlankText x = true) (h : c :: s = x ++ y) : x = [] := by
    cases x with
    | nil => rfl
    | cons d x =>
      obtain rfl : c = d := (List.cons.inj h).1
      exact absurd (List.mem_cons_self ..) (notMem_of_isBlankText hx hc)
  obtain rfl := hne ha hs
  cases hstrip : strip (c :: s) with
  | nil =>
    rw [hstrip, List.nil_append, List.nil_append] at hs
    exact absurd (hs ▸ List.mem_cons_self ..) (notMem_of_isBlankText hb hc)
  | cons d r =>
    rw [hstrip] at hs
    exact ⟨r, by rw [(List.cons.inj hs).1]⟩

/-! ## First words -/

/-- The first word of a text, with the blanks before it and what follows. -/
def IsFirstWord (w v : Text) : Prop :=
  ∃ before after, v = before ++ w ++ after ∧ isBlankText before = true ∧ w ≠ [] ∧ (∀ c ∈ w, isBlank c = false) ∧
    ∀ c ∈ after.head?, isBlank c = true

theorem firstWord?_eq_none_iff {v : Text} : firstWord? v = none ↔ isBlankText v = true := by
  rw [isBlankText_iff, firstWord?]
  cases v.dropWhile isBlank <;> simp

theorem firstWord?_isFirstWord {w v : Text} (h : firstWord? v = some w) : IsFirstWord w v := by
  unfold firstWord? at h
  split at h
  · cases h
  · rename_i c r hdrop
    cases h
    have hc : isBlank c = false := by
      have hhead := List.head?_dropWhile_not isBlank v
      rw [hdrop] at hhead
      simpa using hhead
    refine ⟨v.takeWhile isBlank, r.dropWhile (!isBlank ·), ?_, List.all_takeWhile, by simp, ?_, ?_⟩
    · rw [List.append_assoc, List.cons_append, List.takeWhile_append_dropWhile, ← hdrop,
        List.takeWhile_append_dropWhile]
    · rintro d hd
      rcases List.mem_cons.1 hd with rfl | hd
      · exact hc
      · simpa using List.mem_takeWhile_imp hd
    · intro d hd
      have := List.head?_dropWhile_not (!isBlank ·) r
      rw [Option.mem_def.1 hd] at this
      simpa using this

end Text
end ViewAtlas
