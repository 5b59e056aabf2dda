import Mathlib.Data.List.Basic
import ViewAtlas.Proofs.Template.Nesting
import ViewAtlas.Proofs.Widget.Counting
import ViewAtlas.Widget.Extraction
/-!
# Identifiers of one template differ

No name of an element holds `_`, so an identifier says which tag it was made for, and whether it was made of a signal
or of a number.  Identifiers of signals end with a digest of a fixed length, so equal ones have equal signals and equal
digests; the seeds of these differ in the offsets of the elements.  Numbers of one tag go up.  So the identifiers that
are made for one template are distinct, unless two digests collide (`madeIds_nodup`).
-/
namespace ViewAtlas

namespace Text

/-! ## Upper case makes no `_` -/

theorem eq_of_ofNat_eq_underscore {n : Nat} (h : Char.ofNat n = '_') : n = 0x5F := by
  have h1 := congrArg Char.toNat h
  by_cases hn : n.isValidChar
  · rw [Char.ofNat, dif_pos hn] at h1
    exact h1
  · rw [Char.ofNat, dif_neg hn] at h1
    cases h1

theorem underscore_notMem_upperExpansions : ∀ e ∈ upperExpansions, 0x5F ∉ e.2 := by decide +kernel

theorem upperRuns_avoid_underscore :
    ∀ r ∈ upperRuns, (r.last : Int) + r.shift < 0x5F ∨ 0x5F < (r.first : Int) + r.shift := by decide +kernel

theorem mapByRuns_upperRuns_ne_underscore {c : Char} (hc : c ≠ '_') : mapByRuns upperRuns c ≠ '_' := by
  unfold mapByRuns
  cases hf : upperRuns.find? (·.holds c.toNat) with
  | none => exact hc
  | some r =>
    intro h
    have hr := List.find?_some hf
    have hm := upperRuns_avoid_underscore r (List.mem_of_find?_eq_some hf)
    have hn := eq_of_ofNat_eq_underscore h
    simp only [CaseRun.holds, Bool.and_eq_true, decide_eq_true_eq] at hr
    omega

theorem underscore_notMem_upperChar {c : Char} (hc : c ≠ '_') : '_' ∉ upperChar c := by
  unfold upperChar
  split
  · rename_i hlow
    rw [List.mem_singleton]
    intro h
    have key : ∀ n < 0x80, (Char.ofNat n).toUpper = '_' → Char.ofNat n = '_' := by decide
    have h2 := key c.toNat hlow
    rw [Char.ofNat_toNat] at h2
    exact hc (h2 h.symm)
  · split
    · rename_i e he
      intro h
      obtain ⟨n, hn, hu⟩ := List.mem_map.1 h
      rw [eq_of_ofNat_eq_underscore hu] at hn
      exact underscore_notMem_upperExpansions e (List.mem_of_find?_eq_some he) hn
    · rw [List.mem_singleton]
      exact fun h => mapByRuns_upperRuns_ne_underscore hc h.symm

theorem underscore_notMem_upper {s : Text} (h : '_' ∉ s) : '_' ∉ upper s := by
  intro hu
  obtain ⟨c, hc, hm⟩ := List.mem_flatMap.1 hu
  exact underscore_notMem_upperChar (fun e => h (e ▸ hc)) hm

/-! ## Digests and digits -/

theorem length_hex (width n : Nat) : width ≤ (hex width n).length := by
  unfold hex
  rw [List.length_append, List.length_replicate]
  omega

theorem length_sha1 (s : Text) : 8 ≤ (sha1 s).length := by
  have := length_hex 8 (Sha1.digest (Utf8.encode s)).a.toNat
  simp only [sha1, Sha1.State.toHex, List.flatMap_cons, List.length_append]
  omega

theorem ofNat_inj {m n : Nat} (h : ofNat m = ofNat n) : m = n := by
  have h1 := congrArg (Nat.ofDigitChars 10 · 0) h
  simpa [ofNat] using h1

theorem underscore_notMem_ofNat (n : Nat) : '_' ∉ ofNat n := Nat.underscore_not_in_toDigits

end Text

namespace Widget

open Template (Head Node Forest)

/-! ## The forms of identifiers -/

theorem append_separator_inj {s t : Text} : ∀ {a b : Text}, '_' ∉ a → '_' ∉ b →
    a ++ '_' :: s = b ++ '_' :: t → a = b ∧ s = t
  | [], [], _, _, h => ⟨rfl, (List.cons.inj h).2⟩
  | [], _ :: _, _, hb, h => absurd (List.cons.inj h).1 (fun e => hb (e ▸ List.mem_cons_self ..))
  | _ :: _, [], ha, _, h => absurd (List.cons.inj h).1 (fun e => ha (e ▸ List.mem_cons_self ..))
  | c :: a, d :: b, ha, hb, h => by
    obtain ⟨rfl, hrest⟩ := List.cons.inj h
    obtain ⟨rfl, rfl⟩ := append_separator_inj (fun hm => ha (List.mem_cons_of_mem _ hm))
      (fun hm => hb (List.mem_cons_of_mem _ hm)) hrest
    exact ⟨rfl, rfl⟩

theorem numberedId_eq (tag : Text) (n : Nat) : numberedId tag n = tag ++ '_' :: ('_' :: Text.ofNat n) := by
  simp [numberedId, separator]

theorem signalId_eq (scope tag signal : Text) (offset : Nat) :
    signalId scope tag signal offset = tag ++ '_' :: ('_' ::
      (signal ++ "__".toList ++ (Text.sha1 (seed scope tag signal offset)).take suffixLength)) := by
  simp [signalId, Text.joinWith, separator]

theorem numberedId_inj {tag tag' : Text} {n n' : Nat} (ht : '_' ∉ tag) (ht' : '_' ∉ tag')
    (h : numberedId tag n = numberedId tag' n') : tag = tag' ∧ n = n' := by
  rw [numberedId_eq, numberedId_eq] at h
  obtain ⟨rfl, h2⟩ := append_separator_inj ht ht' h
  exact ⟨rfl, Text.ofNat_inj (List.cons.inj h2).2⟩

/-- **No signal looks like a number**: what follows the tag of a numbered identifier holds no `_`. -/
theorem numberedId_ne_signalId {scope tag tag' signal : Text} {n offset : Nat} (ht : '_' ∉ tag) (ht' : '_' ∉ tag') :
    numberedId tag n ≠ signalId scope tag' signal offset := by
  intro h
  rw [numberedId_eq, signalId_eq] at h
  obtain ⟨_, h2⟩ := append_separator_inj ht ht' h
  refine Text.underscore_notMem_ofNat n ?_
  rw [(List.cons.inj h2).2]
  simp

theorem signalId_inj {scope tag tag' signal signal' : Text} {offset offset' : Nat} (ht : '_' ∉ tag) (ht' : '_' ∉ tag')
    (h : signalId scope tag signal offset = signalId scope tag' signal' offset') :
    tag = tag' ∧ signal = signal' ∧
      (Text.sha1 (seed scope tag signal offset)).take suffixLength =
        (Text.sha1 (seed scope tag' signal' offset')).take suffixLength := by
  rw [signalId_eq, signalId_eq] at h
  obtain ⟨rfl, h2⟩ := append_separator_inj ht ht' h
  have hlen : ∀ s : Text, ((Text.sha1 s).take suffixLength).length = 8 := fun s => by
    rw [List.length_take, suffixLength]
    exact Nat.min_eq_left (Text.length_sha1 s)
  obtain ⟨h3, h4⟩ := List.append_inj' (List.cons.inj h2).2 (by rw [hlen, hlen])
  exact ⟨rfl, List.append_cancel_right h3, h4⟩

theorem seed_inj {scope tag signal : Text} {offset offset' : Nat}
    (h : seed scope tag signal offset = seed scope tag signal offset') : offset = offset' := by
  simp only [seed, Text.joinWith, List.intersperse, List.flatten_cons, List.flatten_nil, List.append_nil] at h
  exact Text.ofNat_inj (by simpa using h)

/-! ## Counters -/

/-- **What an identifier is made of**: the signal of its element, or a number past those given before. -/
def MadeFor (scope : Text) (c : Counters) (e : Head × List Node) (id : Text) : Prop :=
  (∃ s, signal? e.1 e.2 = some s ∧ id = signalId scope (Text.upper e.1.name) s e.1.span.start) ∨
    ∃ n, c.count (Text.upper e.1.name) < n ∧ id = numberedId (Text.upper e.1.name) n

theorem MadeFor.mono {scope id : Text} {c c' : Counters} {e : Head × List Node} (h : MadeFor scope c' e id)
    (hle : ∀ tag, c.count tag ≤ c'.count tag) : MadeFor scope c e id := by
  rcases h with h | ⟨n, hn, h⟩
  · exact .inl h
  · exact .inr ⟨n, Nat.lt_of_le_of_lt (hle _) hn, h⟩

theorem identify_madeFor (scope : Text) (c : Counters) (h : Head) (children : List Node) :
    MadeFor scope c (h, children) (identify scope c h children).1 := by
  unfold identify
  dsimp only
  split
  · rename_i s hs
    exact .inl ⟨s, hs, rfl⟩
  · exact .inr ⟨_, Nat.lt_succ_self _, rfl⟩

theorem idOf_count_le (scope : Text) (c : Counters) (h : Head) (children : List Node) (tag : Text) :
    c.count tag ≤ (idOf scope c h children).2.count tag := by
  unfold idOf
  split
  · exact Nat.le_refl _
  · unfold identify
    dsimp only
    split
    · exact Nat.le_refl _
    · rw [Counters.count_next]
      split
      · rename_i he
        rw [he]
        exact Nat.le_succ _
      · exact Nat.le_refl _

theorem number_count_le (template scope tag : Text) : ∀ (c : Counters) (elements : List (Head × List Node)),
    c.count tag ≤ (number template scope c elements).2.count tag
  | _, [] => Nat.le_refl _
  | c, e :: rest =>
    Nat.le_trans (idOf_count_le scope c e.1 e.2 tag) (number_count_le template scope tag (idOf scope c e.1 e.2).2 rest)

/-! ## Identifiers of successive elements -/

/-- Whether the identifier of an element is made, not stated. -/
def isNameless (e : Head × List Node) : Bool := (statedId? e.1).isNone

/-- What the digest in the identifier of an element is taken of, when there is one. -/
def seed? (scope : Text) (e : Head × List Node) : Option Text :=
  (signal? e.1 e.2).map fun s => seed scope (Text.upper e.1.name) s e.1.span.start

/-- **The seeds of successive elements**: what the digests in the identifiers that are made for them are taken of. -/
def seedsOf (scope : Text) (elements : List (Head × List Node)) : List Text :=
  (elements.filter isNameless).filterMap (seed? scope)

/-- **Digests that do not collide** on the given seeds, as far as identifiers show them. -/
def Collisionless (seeds : List Text) : Prop :=
  ∀ a ∈ seeds, ∀ b ∈ seeds, (Text.sha1 a).take suffixLength = (Text.sha1 b).take suffixLength → a = b

/-- The identifiers of those of the elements that are nameless, among their widgets. -/
def idsAmong (elements : List (Head × List Node)) (widgets : List Widget) : List Text :=
  (elements.zip widgets).filterMap fun p => if isNameless p.1 then some p.2.id else none

theorem idsAmong_number (template scope : Text) (c : Counters) (e : Head × List Node) (rest : List (Head × List Node)) :
    idsAmong (e :: rest) ((number template scope c (e :: rest)).1.map (·.2)) =
      (if isNameless e then [(identify scope c e.1 e.2).1] else []) ++
        idsAmong rest ((number template scope (idOf scope c e.1 e.2).2 rest).1.map (·.2)) := by
  obtain ⟨h, children⟩ := e
  simp only [number, List.map_cons, idsAmong, List.zip_cons_cons, List.filterMap_cons]
  by_cases hn : isNameless (h, children) = true
  · have hs : statedId? h = none := by simpa [isNameless] using hn
    simp [hn, idOf, hs, ofElement]
  · simp [hn]

theorem madeFor_of_mem {template scope id : Text} : ∀ {elements : List (Head × List Node)} {c : Counters},
    id ∈ idsAmong elements ((number template scope c elements).1.map (·.2)) →
      ∃ e ∈ elements.filter isNameless, MadeFor scope c e id
  | [], _, h => by simp [idsAmong] at h
  | e :: rest, c, h => by
    rw [idsAmong_number, List.mem_append] at h
    rcases h with h | h
    · split at h
      · rename_i hn
        rw [List.mem_singleton] at h
        subst h
        exact ⟨e, List.mem_filter.2 ⟨List.mem_cons_self .., hn⟩, identify_madeFor ..⟩
      · cases h
    · obtain ⟨f, hf, hm⟩ := madeFor_of_mem h
      refine ⟨f, ?_, hm.mono (idOf_count_le scope c e.1 e.2)⟩
      rw [List.mem_filter] at hf ⊢
      exact ⟨List.mem_cons_of_mem _ hf.1, hf.2⟩

theorem mem_seedsOf {scope s : Text} {e : Head × List Node} {elements : List (Head × List Node)}
    (he : e ∈ elements.filter isNameless) (hs : signal? e.1 e.2 = some s) :
    seed scope (Text.upper e.1.name) s e.1.span.start ∈ seedsOf scope elements :=
  List.mem_filterMap.2 ⟨e, he, by simp [seed?, hs]⟩

/-- **An identifier made for an element is made for no later one**: signals lead to different seeds, and numbers to
greater ones. -/
theorem not_madeFor_identify {scope : Text} {c : Counters} {e f : Head × List Node}
    {elements : List (Head × List Node)} (he : e ∈ elements.filter isNameless) (hf : f ∈ elements.filter isNameless)
    (hname : ∀ e ∈ elements, '_' ∉ e.1.name) (hlt : e.1.span.start < f.1.span.start)
    (hdigest : Collisionless (seedsOf scope elements)) :
    ¬ MadeFor scope (identify scope c e.1 e.2).2 f (identify scope c e.1 e.2).1 := by
  intro hmade
  have he' : '_' ∉ Text.upper e.1.name := Text.underscore_notMem_upper (hname e (List.mem_filter.1 he).1)
  have hf' : '_' ∉ Text.upper f.1.name := Text.underscore_notMem_upper (hname f (List.mem_filter.1 hf).1)
  unfold identify at hmade
  dsimp only at hmade
  cases hsig : signal? e.1 e.2 with
  | some s =>
    rw [hsig] at hmade
    rcases hmade with ⟨s', hs', heq⟩ | ⟨n, _, heq⟩
    · obtain ⟨htag, rfl, hdig⟩ := signalId_inj he' hf' heq
      have hseed := hdigest _ (mem_seedsOf he hsig) _ (mem_seedsOf hf hs') hdig
      rw [htag] at hseed
      exact Nat.ne_of_lt hlt (seed_inj hseed)
    · exact numberedId_ne_signalId hf' he' heq.symm
  | none =>
    rw [hsig] at hmade
    rcases hmade with ⟨s', _, heq⟩ | ⟨n, hn, heq⟩
    · exact numberedId_ne_signalId he' hf' heq
    · obtain ⟨htag, hnum⟩ := numberedId_inj he' hf' heq
      rw [Counters.count_next, if_pos htag] at hn
      exact Nat.ne_of_lt hn hnum

/-- **The identifiers made for successive elements are distinct.** -/
theorem nodup_idsAmong {template scope : Text} : ∀ {elements : List (Head × List Node)} {c : Counters},
    (∀ e ∈ elements, '_' ∉ e.1.name) → (elements.map (·.1.span.start)).Pairwise (· < ·) →
      Collisionless (seedsOf scope elements) →
        (idsAmong elements ((number template scope c elements).1.map (·.2))).Nodup
  | [], _, _, _, _ => by simp [idsAmong]
  | e :: rest, c, hname, hstart, hdigest => by
    rw [List.map_cons, List.pairwise_cons] at hstart
    have hsub : ∀ f ∈ rest.filter isNameless, f ∈ (e :: rest).filter isNameless := fun f hf => by
      rw [List.mem_filter] at hf ⊢
      exact ⟨List.mem_cons_of_mem _ hf.1, hf.2⟩
    have hrest : (idsAmong rest ((number template scope (idOf scope c e.1 e.2).2 rest).1.map (·.2))).Nodup := by
      refine nodup_idsAmong (fun f hf => hname f (List.mem_cons_of_mem _ hf)) hstart.2 fun a ha b hb => ?_
      obtain ⟨f, hf, ha⟩ := List.mem_filterMap.1 ha
      obtain ⟨g, hg, hb⟩ := List.mem_filterMap.1 hb
      exact hdigest a (List.mem_filterMap.2 ⟨f, hsub f hf, ha⟩) b (List.mem_filterMap.2 ⟨g, hsub g hg, hb⟩)
    rw [idsAmong_number]
    by_cases hn : isNameless e = true
    · have hs : statedId? e.1 = none := by simpa [isNameless] using hn
      rw [if_pos hn, List.singleton_append, List.nodup_cons]
      refine ⟨fun hm => ?_, hrest⟩
      obtain ⟨f, hf, hmade⟩ := madeFor_of_mem hm
      have hlt : e.1.span.start < f.1.span.start := hstart.1 _ (List.mem_map.2 ⟨f, (List.mem_filter.1 hf).1, rfl⟩)
      simp only [idOf, hs] at hmade
      exact not_madeFor_identify (List.mem_filter.2 ⟨List.mem_cons_self .., hn⟩) (hsub f hf) hname hlt hdigest hmade
    · rw [if_neg hn]
      exact hrest

/-! ## Identifiers of a template -/

def chosen (tags : List Text) : List Text := if tags.isEmpty then defaultTags else tags

/-- **The identifiers that are made for a forest**, in document order: those of its widgets whose elements state
none. -/
def madeIds (template scope : Text) (tags : List Text) (c : Counters) (forest : List Node) : List Text :=
  idsAmong (interactive (chosen tags) forest) (extract template scope tags c forest).widgets

/-- **The identifiers that are made for a template are distinct**, whatever its attributes and texts hold and wherever
the counters stand, unless two different seeds of it have digests that begin alike. -/
theorem madeIds_nodup (template scope : Text) (tags : List Text) (c : Counters) (f : Forest)
    (hread : Template.read? template = some f)
    (hdigest : Collisionless (seedsOf scope (interactive (chosen tags) f.nodes))) :
    (madeIds template scope tags c f.nodes).Nodup := by
  have hplaced := Template.read?_placed hread
  have hsub : (interactive (chosen tags) f.nodes).Sublist (Node.elementsOf f.nodes) := by
    unfold interactive Node.properElements
    exact List.filter_sublist.trans List.filter_sublist
  refine nodup_idsAmong (fun e he hmem => ?_) ?_ hdigest
  · obtain ⟨_, body, _, hhead, _⟩ := (hplaced.mem_elementsOf e (hsub.subset he)).1.element
    exact absurd (hhead.name _ hmem) (by decide)
  · exact hplaced.starts.sublist (hsub.map _)

/-- Two links with one name, which looks like an identifier, and a link without any. -/
def links : Text := "<a name=\"A__1\"/><a name=\"A__1\"/><a/>".toList

def linkNodes : List Node :=
  [.element ⟨false, "a".toList, ⟨0, 16⟩, [⟨"name".toList, "A__1".toList, ⟨3, 14⟩⟩], [], [], []⟩ [],
    .element ⟨false, "a".toList, ⟨16, 32⟩, [⟨"name".toList, "A__1".toList, ⟨19, 30⟩⟩], [], [], []⟩ [],
    .element ⟨false, "a".toList, ⟨32, 36⟩, [], [], [], []⟩ []]

theorem madeIds_nodup_links :
    Template.read? links = some ⟨linkNodes, []⟩ ∧
      Collisionless (seedsOf "shop".toList (interactive (chosen []) linkNodes)) ∧
      (madeIds links "shop".toList [] [] linkNodes).Nodup := by
  have hread : Template.read? links = some ⟨linkNodes, []⟩ := by decide +kernel
  have hdigest : Collisionless (seedsOf "shop".toList (interactive (chosen []) linkNodes)) := by
    unfold Collisionless
    decide +kernel
  exact ⟨hread, hdigest, madeIds_nodup links "shop".toList [] [] ⟨linkNodes, []⟩ hread hdigest⟩

end Widget
end ViewAtlas
