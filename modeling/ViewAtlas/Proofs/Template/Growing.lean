import ViewAtlas.Proofs.Template.Placement
/-!
# Growing keeps nodes placed

A growth is placed up to an offset when the finished nodes of every level are, one after the other: those of the
innermost open element end before the run of text begins, or before the offset when there is none, and those of every
other level before the next element within it starts.  Each operation of a growth keeps that, and so does each step of
the reading (`step?_placed`).
-/
namespace ViewAtlas
namespace Template

variable {template : Text} {g : Growth} {hi hi' pos stop : Nat}

/-- **The levels of a growth**, innermost first: the children of an open element stand between the end of its tag and
the offset `hi`, and what holds it ends before it starts. -/
def Frames (template : Text) : (hi : Nat) → List OpenElement → List Node → Prop
  | hi, [], roots => PlacedIn id template 0 hi roots.reverse
  | hi, e :: outer, roots =>
    template[e.start]? = some '<' ∧
      (∃ body, e.start < body ∧ e.tag.Within e.start body ∧ PlacedIn id template body hi e.children.reverse) ∧
      Frames template e.start outer roots

theorem Frames.mono (hle : hi ≤ hi') : ∀ {opened : List OpenElement} {roots : List Node},
    Frames template hi opened roots → Frames template hi' opened roots
  | [], _, h => PlacedIn.mono h hle
  | _ :: _, _, ⟨h1, ⟨body, hb, ha, hc⟩, h2⟩ => ⟨h1, ⟨body, hb, ha, hc.mono hle⟩, h2⟩

theorem Frames.roots_placed : ∀ {opened : List OpenElement} {roots : List Node} {hi : Nat},
    Frames template hi opened roots → PlacedIn id template 0 hi roots.reverse
  | [], _, _, h => h
  | _ :: _, _, _, ⟨_, ⟨_, hb, _, hc⟩, h⟩ => h.roots_placed.mono (Nat.le_trans (Nat.le_of_lt hb) hc.le)

/-- **A placed growth**, read up to the offset `pos`. -/
structure Growth.Placed (template : Text) (pos : Nat) (g : Growth) : Prop where
  frames : Frames template ((g.run.map (·.start)).getD pos) g.opened g.roots
  run : ∀ r ∈ g.run, r.start < r.stop ∧ r.stop ≤ pos
  strays : ∀ r ∈ g.strays, r.Within 0 pos

namespace Growth

theorem empty_placed : Growth.empty.Placed template 0 :=
  ⟨by simp [Growth.empty, Frames, PlacedIn], by simp [Growth.empty], by simp [Growth.empty]⟩

theorem Placed.mono (h : g.Placed template pos) (hle : pos ≤ stop) : g.Placed template stop := by
  refine ⟨?_, fun r hr => ?_, fun r hr => (h.strays r hr).mono (Nat.le_refl 0) hle⟩
  · cases hrun : g.run with
    | none =>
      have h1 := h.frames
      rw [hrun] at h1
      exact h1.mono hle
    | some r =>
      have h1 := h.frames
      rw [hrun] at h1
      exact h1
  · have := h.run r hr
    omega

theorem frames_add {n : Node} (h : Frames template hi g.opened g.roots) (hn : Template.Placed id template n)
    (hstart : hi ≤ n.span.start) (hstop : n.span.stop ≤ hi') :
    Frames template hi' (g.add n).opened (g.add n).roots := by
  unfold add
  split
  · rename_i ho
    rw [ho] at h ⊢
    rw [Frames] at h ⊢
    rw [List.reverse_cons]
    exact h.snoc hn hstart hstop
  · rename_i e outer ho
    rw [ho] at h
    rw [Frames] at h ⊢
    obtain ⟨h1, ⟨body, hb, ha, hc⟩, h2⟩ := h
    refine ⟨h1, ⟨body, hb, ha, ?_⟩, h2⟩
    rw [List.reverse_cons]
    exact hc.snoc hn hstart hstop

theorem add_run (g : Growth) (n : Node) : (g.add n).run = g.run := by
  unfold add
  split <;> rfl

theorem add_strays (g : Growth) (n : Node) : (g.add n).strays = g.strays := by
  unfold add
  split <;> rfl

theorem text_placed {r : Span} (h : g.Placed template pos) (hstart : pos ≤ r.start) (hlt : r.start < r.stop) :
    (g.text r).Placed template r.stop := by
  have hstrays := (h.mono (by omega : pos ≤ r.stop)).strays
  unfold text
  cases hrun : g.run with
  | none =>
    have h1 := h.frames
    rw [hrun] at h1
    exact ⟨h1.mono hstart, by simp [hlt], hstrays⟩
  | some old =>
    have h1 := h.frames
    have h2 := h.run old hrun
    rw [hrun] at h1
    refine ⟨h1, ?_, hstrays⟩
    simp only [Option.mem_def, Option.some.injEq, forall_eq']
    omega

theorem settle_run (g : Growth) : (g.settle template).run = none := by
  unfold settle
  split
  · assumption
  · rw [add_run]

theorem settle_strays (g : Growth) : (g.settle template).strays = g.strays := by
  unfold settle
  split
  · rfl
  · rw [add_strays]

theorem settle_placed (h : g.Placed template pos) : (g.settle template).Placed template pos := by
  refine ⟨?_, by simp [settle_run], by simpa only [settle_strays] using h.strays⟩
  rw [settle_run]
  have h1 := h.frames
  unfold settle
  cases hrun : g.run with
  | none =>
    rw [hrun] at h1
    exact h1
  | some r =>
    rw [hrun] at h1
    have h2 := h.run r hrun
    refine frames_add (g := { g with run := none }) h1 ?_ (Nat.le_refl _) h2.2
    rw [Template.Placed]
    exact ⟨h2.1, rfl⟩

theorem Placed.settled (h : g.Placed template pos) (hrun : g.run = none) : Frames template pos g.opened g.roots := by
  have h1 := h.frames
  rw [hrun] at h1
  exact h1

theorem push_placed (tag : StartTag) (h : g.Placed template pos) (hopen : template[pos]? = some '<') (hlt : pos < stop)
    (ha : tag.Within pos stop) : (g.push template tag pos).Placed template stop := by
  have h1 := settle_placed h
  refine ⟨?_, by simp [push, settle_run], (h1.mono (Nat.le_of_lt hlt)).strays⟩
  simp only [push, settle_run, Option.map_none, Option.getD_none]
  exact ⟨hopen, ⟨stop, hlt, ha, by simp [PlacedIn]⟩, h1.settled (settle_run g)⟩

theorem close_placed (h : g.Placed template pos) (hle : pos ≤ stop) : (g.close template stop).Placed template stop := by
  have h1 := settle_placed h
  have h2 := h1.settled (settle_run g)
  unfold close
  dsimp only
  split
  · exact h1.mono hle
  · rename_i e outer ho
    refine ⟨?_, by simp [add_run, settle_run], by simpa only [add_strays] using (h1.mono hle).strays⟩
    simp only [add_run, settle_run, Option.map_none, Option.getD_none]
    rw [ho, Frames] at h2
    obtain ⟨hopen, ⟨body, hb, ha, hc⟩, hout⟩ := h2
    obtain ⟨hhead, hspan⟩ := StartTag.head_placed template ⟨e.start, stop⟩ ha
    refine frames_add (g := ⟨outer, (g.settle template).roots, none, (g.settle template).strays⟩) hout ?_ ?_ ?_
    · rw [Template.Placed, hspan]
      exact ⟨hopen, body, hb, hhead, hc.mono hle⟩
    · exact Nat.le_of_eq (congrArg Span.start hspan).symm
    · exact Nat.le_of_eq (congrArg Span.stop hspan)

theorem closeMany_placed : ∀ (k : Nat) {g : Growth}, g.Placed template pos →
    (g.closeMany template pos k).Placed template pos
  | 0, _, h => h
  | k + 1, _, h => closeMany_placed k (close_placed h (Nat.le_refl _))

theorem stray_placed (h : g.Placed template pos) (hle : pos ≤ stop) :
    (g.stray template ⟨pos, stop⟩).Placed template stop := by
  have h1 := (settle_placed h).mono hle
  refine ⟨h1.frames, h1.run, fun r hr => ?_⟩
  rcases List.mem_cons.1 hr with rfl | hr
  · exact ⟨Nat.zero_le pos, hle, Nat.le_refl stop⟩
  · exact h1.strays r hr

end Growth

/-! ## Steps -/

variable {s : Text}

theorem semicolon_le {n m : Nat} (hn : n ≤ s.length) (h : (if (s.drop n).head? = some ';' then n + 1 else n) = m) :
    m ≤ s.length := by
  split at h
  · rename_i hd
    have hne : s.drop n ≠ [] := fun e => by simp [e] at hd
    have hpos := List.length_pos_iff.2 hne
    rw [List.length_drop] at hpos
    omega
  · omega

theorem length_take_takeWhile_le (p : Char → Bool) (k : Nat) (s : Text) :
    ((s.takeWhile p).take k).length ≤ s.length := by
  have := (List.takeWhile_prefix (l := s) p).length_le
  rw [List.length_take]
  omega

theorem prefix_trimEnd (p : Char → Bool) (s : Text) : Text.trimEnd p s <+: s := by
  have h := List.reverse_prefix.2 (List.dropWhile_suffix p (l := s.reverse))
  rwa [List.reverse_reverse] at h

theorem length_trimEnd_le (p : Char → Bool) (s : Text) : (Text.trimEnd p s).length ≤ s.length :=
  (prefix_trimEnd p s).length_le

theorem referenceLength?_le {n : Nat} (h : referenceLength? s = some n) : n ≤ s.length := by
  unfold referenceLength? at h
  dsimp only at h
  split at h
  · rename_i x r
    have h1 := length_take_takeWhile_le Char.isDigit 5 (x :: r)
    have h2 := length_take_takeWhile_le (fun c => (Text.hexValue? c).isSome) 6 r
    rw [List.length_cons] at h1
    split at h
    · refine semicolon_le ?_ (Option.some.inj h)
      simp only [List.length_cons]
      omega
    · split at h
      · refine semicolon_le ?_ (Option.some.inj h)
        simp only [List.length_cons]
        omega
      · cases h
  · split at h
    · cases h
    · exact semicolon_le (length_take_takeWhile_le ..) (Option.some.inj h)

theorem declarationLength?_le {n : Nat} (h : declarationLength? s = some n) : n ≤ s.length := by
  unfold declarationLength? at h
  split at h
  · rename_i r
    obtain ⟨m, hm, rfl⟩ := Option.map_eq_some_iff.1 h
    have h1 := Text.offset?_le hm
    have h2 : "-->".toList.length = 3 := rfl
    simp only [List.length_cons]
    omega
  · dsimp only at h
    split at h
    · cases h
    · split at h
      · cases h
      · rename_i hn
        simp only [Option.some.injEq] at h
        simp only [List.length_drop] at hn h
        omega

theorem wordStop?_le {word : Text} : ∀ {left s : Text} {n : Nat}, wordStop? word left s = some n → n ≤ s.length
  | [], s, n, h => by
    rw [wordStop?] at h
    cases h
    exact Nat.zero_le _
  | c :: left, [], n, h => by
    rw [wordStop?] at h
    cases h
  | c :: left, d :: s, n, h => by
    rw [wordStop?] at h
    obtain ⟨k, hk, rfl⟩ := Option.map_eq_some_iff.1 h
    exact Nat.succ_le_succ (wordStop?_le hk)

theorem rawElementLength?_le {key : Text} {n : Nat} (h : rawElementLength? key s = some n) : n ≤ s.length := by
  unfold rawElementLength? at h
  dsimp only at h
  split at h
  · cases h
  · rename_i m hm
    have h1 := wordStop?_le hm
    split at h
    · rename_i direct name stop rest he
      have h2 := (readEndTag?_advances he).length_eq
      rw [List.length_drop] at h2
      split at h
      · simp only [Option.some.injEq] at h
        omega
      · cases h
    · cases h

theorem endTag_placed {g' : Growth} {direct : Bool} {key : Text} (h : g.Placed template pos) (hle : pos ≤ stop)
    (he : endTag template g direct key pos stop = some g') : g'.Placed template stop := by
  unfold endTag at he
  dsimp only at he
  generalize (if direct then _ else _ : Nat × Bool) = m at he
  have h1 := Growth.closeMany_placed m.1 h
  split at he
  · cases he
    exact Growth.close_placed h1 hle
  · split at he
    · cases he
    · cases he
      exact Growth.stray_placed h1 hle

theorem startTag?_placed {g' : Growth} (h : g.Placed template pos) (hopen : template[pos]? = some '<')
    (hs : startTag? template g pos s = some (g', stop)) :
    g'.Placed template stop ∧ pos < stop ∧ stop ≤ pos + 1 + s.length := by
  unfold startTag? at hs
  split at hs
  · cases hs
  · rename_i tag stop' rest htag
    obtain ⟨hadv, hlt, hattr⟩ := readStartTag?_advances htag
    have hlen := hadv.length_eq
    dsimp only at hs
    have h1 := Growth.push_placed tag
      (Growth.closeMany_placed (closedByStart (Text.lower tag.name) (g.opened.map (·.key))) h)
      hopen (by omega : pos < stop') (hattr.mono (by omega) (Nat.le_refl _))
    split at hs
    · split at hs
      · cases hs
      · obtain ⟨n, hn, heq⟩ := Option.map_eq_some_iff.1 hs
        have := rawElementLength?_le hn
        cases heq
        exact ⟨Growth.close_placed h1 (by omega), by omega, by omega⟩
    · split at hs
      · cases hs
        exact ⟨Growth.close_placed h1 (Nat.le_refl _), by omega, by omega⟩
      · cases hs
        exact ⟨h1, by omega, by omega⟩

@[simp] theorem Step.skip_growth (g : Growth) (pos n : Nat) (c : Char) :
    (Step.skip (c := c) (s := s) g pos n).growth = g := rfl

@[simp] theorem Step.skip_pos (g : Growth) (pos n : Nat) (c : Char) :
    (Step.skip (c := c) (s := s) g pos n).pos = pos + 1 + n := rfl

@[simp] theorem Step.skip_rest (g : Growth) (pos n : Nat) (c : Char) :
    (Step.skip (c := c) (s := s) g pos n).rest = s.drop n := rfl

theorem Step.skip_advances (g : Growth) (pos n : Nat) (c : Char) (h : n ≤ s.length) :
    Advances pos (c :: s) (Step.skip (c := c) (s := s) g pos n).pos (Step.skip (c := c) (s := s) g pos n).rest :=
  (Advances.drop (pos + 1) n s h).cons c

theorem Step.skip_placed {c : Char} {n : Nat} (h : g.Placed template stop) (hstop : stop = pos + 1 + n)
    (hn : n ≤ s.length) : (Step.skip (c := c) (s := s) g pos n).growth.Placed template
      (Step.skip (c := c) (s := s) g pos n).pos ∧ Advances pos (c :: s) (Step.skip (c := c) (s := s) g pos n).pos
        (Step.skip (c := c) (s := s) g pos n).rest := by
  rw [Step.skip_growth, Step.skip_pos, ← hstop]
  exact ⟨h, hstop ▸ Step.skip_advances g pos n c hn⟩

/-- **A step keeps the growth placed**, and counts the characters that it takes. -/
theorem step?_placed {c : Char} {st : Step (c :: s)} (h : g.Placed template pos)
    (hopen : c = '<' → template[pos]? = some '<') (hst : step? template g pos c s = some st) :
    st.growth.Placed template st.pos ∧ Advances pos (c :: s) st.pos st.rest := by
  unfold step? at hst
  split at hst
  · rename_i hc
    split at hst
    · rename_i r
      obtain ⟨n, hn, rfl⟩ := Option.map_eq_some_iff.1 hst
      have hle := declarationLength?_le hn
      have hsettled := (Growth.settle_placed h).mono (Nat.le_add_right pos (1 + (n + 1)))
      exact Step.skip_placed hsettled (by omega) (by rw [List.length_cons]; omega)
    · rename_i r
      split at hst
      · cases hst
      · rename_i direct name stop rest he
        obtain ⟨g', hg, rfl⟩ := Option.map_eq_some_iff.1 hst
        have hadv := readEndTag?_advances he
        have hle := hadv.le
        have hlen := hadv.length_eq
        exact Step.skip_placed (endTag_placed h (by omega) hg) (by omega) (by rw [List.length_cons]; omega)
    · obtain ⟨⟨g', stop⟩, hg, rfl⟩ := Option.map_eq_some_iff.1 hst
      obtain ⟨h1, hlt, hle⟩ := startTag?_placed h (hopen hc) hg
      exact Step.skip_placed h1 (by omega) (by omega)
  · split at hst
    · obtain ⟨n, hn, rfl⟩ := Option.map_eq_some_iff.1 hst
      have htext := Growth.text_placed (r := ⟨pos, pos + 1 + n⟩) h (Nat.le_refl _) (by dsimp only; omega)
      exact Step.skip_placed htext rfl (referenceLength?_le hn)
    · split at hst
      · dsimp only at hst
        cases hst
        have htext := Growth.text_placed
          (r := ⟨pos, pos + 1 + (Text.trimEnd isGap (s.takeWhile isTextChar)).length⟩) h (Nat.le_refl _)
          (by dsimp only; omega)
        exact Step.skip_placed htext rfl
          (Nat.le_trans (length_trimEnd_le ..) (List.takeWhile_prefix isTextChar).length_le)
      · cases hst

end Template
end ViewAtlas
