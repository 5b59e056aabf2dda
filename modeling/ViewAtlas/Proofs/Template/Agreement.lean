import ViewAtlas.Proofs.Template.Hiding
/-!
# Templates that agree

Where two templates agree on the spans that a markup can reach, a reading does not tell them apart though all values are
seen: they read the markup alike (`Reads.congr`, `readFrom?_congr`).
-/
namespace ViewAtlas
namespace Template

variable {U V : Text} {lo hi pos stop : Nat} {g : Growth}

/-- **Templates that agree** between two offsets. -/
def AgreeOn (U V : Text) (lo hi : Nat) : Prop := ∀ r : Span, lo ≤ r.start → r.stop ≤ hi → r.slice U = r.slice V

theorem agreeOn_append_left (s a b : Text) : AgreeOn (s ++ a) (s ++ b) 0 s.length := by
  intro r _ hr
  have hslice : ∀ x : Text, r.slice (s ++ x) = (s.drop r.start).take (r.stop - r.start) := fun x => by
    rcases Nat.le_total r.start s.length with hle | hle
    · change ((s ++ x).drop r.start).take (r.stop - r.start) = _
      rw [List.drop_append_of_le_length hle, List.take_append_of_le_length]
      rw [List.length_drop]
      omega
    · change ((s ++ x).drop r.start).take (r.stop - r.start) = _
      rw [Nat.sub_eq_zero_of_le (Nat.le_trans hr hle), List.take_zero, List.take_zero]
  rw [hslice, hslice]

theorem agreeOn_append_right {a b : Text} (h : a.length = b.length) (s : Text) (hi : Nat) :
    AgreeOn (a ++ s) (b ++ s) a.length hi := by
  intro r hr _
  have hb : b.length ≤ r.start := h ▸ hr
  change ((a ++ s).drop r.start).take _ = ((b ++ s).drop r.start).take _
  rw [List.drop_append, List.drop_append, List.drop_eq_nil_of_le hr, List.drop_eq_nil_of_le hb, h]

/-- **A growth whose values are the same in two templates**: its run of text lies where they agree, and they have the
same value for each attribute of an open element. -/
structure Growth.Shared (U V : Text) (lo hi : Nat) (g : Growth) : Prop where
  run : ∀ r ∈ g.run, lo ≤ r.start ∧ r.stop ≤ hi
  values : ∀ tag ∈ g.opened.map (·.tag), ∀ a ∈ tag.attributes, a.value.slice U = a.value.slice V

/-! ## All is seen -/

/-- **The view that lets every value be seen.** -/
def whole (_ : Span) (value : Text) : Text := value

theorem Head.seen_whole (h : Head) : h.seen whole = h := by
  have hmap : ∀ l : List Attribute, l.map (Attribute.seen whole) = l := List.map_id
  simp only [seen, hmap]

mutual

theorem Node.seen_whole : ∀ n : Node, n.seen whole = n
  | .text value r => by
    rw [Node.seen]
    rfl
  | .element h children => by rw [Node.seen, Head.seen_whole, seenAll_whole children]

theorem seenAll_whole : ∀ l : List Node, seenAll whole l = l
  | [] => by rw [seenAll]
  | n :: rest => by rw [seenAll, Node.seen_whole n, seenAll_whole rest]

end

theorem Forest.seen_whole (f : Forest) : f.seen whole = f := congrArg (Forest.mk · f.strays) (seenAll_whole f.nodes)

theorem Growth.seen_whole (g : Growth) : g.seen whole = g := by
  have hopened : g.opened.map (OpenElement.seen whole) = g.opened := by
    refine (List.map_congr_left fun e _ => ?_).trans (List.map_id _)
    exact congrArg (OpenElement.mk e.tag e.start) (seenAll_whole e.children)
  rw [seen, hopened, seenAll_whole]

theorem AgreeOn.alikeOn (h : AgreeOn U V lo hi) : AlikeOn whole U V (lo ≤ ·) (· ≤ hi) := h

theorem spares_whole {a : WrittenAttribute} : a.Spares whole U V ↔ a.value.slice U = a.value.slice V := and_self_iff

namespace Growth

theorem shared_iff : g.Shared U V lo hi ↔ g.Spared whole U V (lo ≤ ·) (· ≤ hi) :=
  ⟨fun h => ⟨h.run, fun tag ht a ha => spares_whole.2 (h.values tag ht a ha)⟩,
    fun h => ⟨h.run, fun tag ht a ha => spares_whole.1 (h.values tag ht a ha)⟩⟩

theorem empty_shared : Growth.empty.Shared U V lo hi := ⟨fun _ h => (nomatch h), fun _ h => nomatch h⟩

/-- Where no run of text is open, only the attributes of the open elements matter. -/
theorem Shared.of_settled {lo' hi' : Nat} (h : g.Shared U V lo hi) (hrun : g.run = none) : g.Shared U V lo' hi' :=
  shared_iff.2 (.of_values hrun (shared_iff.1 h).values)

theorem settle_congr (hagree : AgreeOn U V lo hi) (h : g.Shared U V lo hi) :
    g.settle U = g.settle V ∧ (g.settle U).Shared U V lo hi := by
  obtain ⟨heq, hs⟩ := settle_seen hagree.alikeOn (shared_iff.1 h) rfl
  rw [seen_whole, seen_whole] at heq
  exact ⟨heq, shared_iff.2 hs⟩

end Growth

/-! ## Readings -/

theorem fair_of_agreeOn {c : Char} {s : Text} (hagree : AgreeOn U V lo hi) (hlo : lo ≤ pos)
    (hhi : pos + 1 + s.length ≤ hi) : Fair whole U V (lo ≤ ·) (· ≤ hi) pos c s := by
  refine ⟨fun _ r hr a ha => ?_, fun n hn => ?_⟩
  · obtain ⟨tag, stop, rest⟩ := r
    obtain ⟨hadv, -, hin⟩ := readStartTag?_advances hr
    have hlength := hadv.length_eq
    obtain ⟨⟨h1, -, h2⟩, -⟩ := hin.attributes a ha
    exact spares_whole.2 (hagree a.value (by omega) (by omega))
  · have hle := pieceLength?_le hn
    exact ⟨hlo, by omega⟩

/-- **A step is the same in templates that agree** where it reads. -/
theorem taken?_congr {c : Char} {s : Text} (hagree : AgreeOn U V lo hi) (h : g.Shared U V lo hi) (hlo : lo ≤ pos)
    (hhi : pos + 1 + s.length ≤ hi) :
    taken? U g pos c s = taken? V g pos c s ∧ ∀ r ∈ taken? U g pos c s, r.1.Shared U V lo hi := by
  obtain ⟨heq, hs⟩ := taken?_seen hagree.alikeOn (Growth.shared_iff.1 h) rfl
    (fair_of_agreeOn (c := c) hagree hlo hhi)
  have hid : Prod.map (Growth.seen whole) (id : Nat → Nat) = id :=
    funext fun r => Prod.ext (Growth.seen_whole r.1) rfl
  rw [hid, Option.map_id, id, id] at heq
  exact ⟨heq, fun r hr => Growth.shared_iff.2 (hs r hr)⟩

/-- **A text that is read whole is read alike in templates that agree** on its offsets. -/
theorem Reads.congr {s : Text} {g' : Growth} (hagree : AgreeOn U V lo hi) (h : Reads U g pos s g')
    (hs : g.Shared U V lo hi) (hlo : lo ≤ pos) (hhi : pos + s.length ≤ hi) :
    Reads V g pos s g' ∧ g'.Shared U V lo hi := by
  induction h with
  | gap hgap => exact ⟨.gap hgap, hs⟩
  | @step g g₁ g' pos n gap r c hgap hc htaken _ ih =>
    rw [List.length_append, List.length_cons] at hhi
    have hlo' : lo ≤ pos + gap.length := by omega
    have hhi' : pos + gap.length + 1 + r.length ≤ hi := by omega
    obtain ⟨heq, hmore⟩ := taken?_congr (c := c) hagree hs hlo' hhi'
    have hle := taken?_le htaken
    have hrest := ih (hmore _ htaken) (by omega) (by rw [List.length_drop]; omega)
    exact ⟨.step hgap hc (heq ▸ htaken) hrest.1, hrest.2⟩

theorem readFrom?_congr {s : Text} (hagree : AgreeOn U V lo hi) (hs : g.Shared U V lo hi) (hlo : lo ≤ pos)
    (hhi : pos + s.length ≤ hi) : readFrom? U g pos s = readFrom? V g pos s := by
  have hfair : FairAt whole U V (lo ≤ ·) (· ≤ hi) fun pos s => lo ≤ pos ∧ pos + s.length ≤ hi := by
    refine ⟨fun {pos gap r c} hat _ _ => ?_, fun {template g g₁ pos n gap r c} hat _ _ htaken => ?_⟩
    all_goals rw [List.length_append, List.length_cons] at hat
    · exact fair_of_agreeOn hagree (by omega) (by omega)
    · have hle := taken?_le htaken
      exact ⟨by omega, by rw [List.length_drop]; omega⟩
  have heq := readFrom?_seen hagree.alikeOn hfair s (Growth.shared_iff.1 hs) rfl ⟨hlo, hhi⟩
  rwa [show Forest.seen whole = id from funext Forest.seen_whole, Option.map_id, id, id] at heq

end Template
end ViewAtlas
