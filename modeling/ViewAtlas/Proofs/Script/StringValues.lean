import ViewAtlas.Component.Analysis
import ViewAtlas.Proofs.Script.LiteralNodes
import ViewAtlas.Proofs.Script.Order
/-!
# The values of strings

A string of a script, or a template without substitutions, has one value, and this is the text that the analyses go by
(`StandsFor`).  It is what the literal denotes exactly when all its pieces are handled (`stringValue?_iff_handled`).
-/
namespace ViewAtlas
namespace Script

open Component (properties stringProperty? templateOf)

/-- **The text that a node stands for**, wherever its text is asked for: as the template of a component, as the place of
its template beside the script, and as the name of a module. -/
structure StandsFor (t : Tree) (v : Text) : Prop where
  value : t.stringValue? = some v
  template : ∀ disk file c, (properties c).get? "template".toList = some t →
    (templateOf disk file c).result = .ok (some (v, file ++ "#inline".toList))
  templateUrl : ∀ disk file c x, stringProperty? c "template" = none → (properties c).get? "templateUrl".toList = some t →
    disk.read ((File.folderOf file).join (.ofText v)).normal.text = .ok x →
    (templateOf disk file c).result = .ok (some (x, ((File.folderOf file).join (.ofText v)).normal.text))
  source : ∀ s : Source, ∀ u ∈ s.statements, u.kind = .importing ∨ u.kind = .exporting → u.child? .source = some t →
    v ≠ [] → v ∈ s.imports
  argument : ∀ s : Source, ∀ u ∈ s.tree.calls, u.callee = "import".toList → u.callArguments.head? = some t → v ≠ [] →
    v ∈ s.imports

variable {t u : Tree} {v : Text} {k : Kind}

theorem specifier?_eq_some (h : t.stringValue? = some v) (hv : v ≠ []) : Source.specifier? (some t) = some v := by
  rw [Source.specifier?, Option.bind_some, h]
  cases v with
  | nil => exact absurd rfl hv
  | cons c v => rfl

theorem standsFor_of_stringValue? (h : t.stringValue? = some v) : StandsFor t v where
  value := h
  template disk file c hget := by
    have hvalue : stringProperty? c "template" = some v := by rw [stringProperty?, hget, Option.bind_some, h]
    rw [templateOf, hvalue]
    rfl
  templateUrl disk file c x hnone hget hread := by
    have hvalue : stringProperty? c "templateUrl" = some v := by rw [stringProperty?, hget, Option.bind_some, h]
    rw [templateOf, hnone, hvalue]
    simp only [Component.templatePath, hread]
    rfl
  source s u hu hkind hsource hv :=
    List.mem_append_left _ (List.mem_filterMap.2 ⟨u, hu, by rw [if_pos hkind, hsource, specifier?_eq_some h hv]⟩)
  argument s u hu hcallee harg hv :=
    List.mem_append_right _ (List.mem_filterMap.2 ⟨u, List.mem_filter.2 ⟨hu, by simp [hcallee]⟩,
      by rw [harg, specifier?_eq_some h hv]⟩)

theorem Literate.isLiteral (ht : Literate t) (hu : u ∈ t.ofKind k) (hv : IsValued u) : ∃ quote ps, IsLiteral quote ps u := by
  induction ht with
  | @node r k' x cs h _ ih =>
    rw [Tree.ofKind, Tree.ofKindIn_eq_flatMap, List.mem_append] at hu
    rcases hu with hself | hbelow
    · split at hself
      · obtain rfl := List.mem_singleton.1 hself
        exact h hv
      · cases hself
    · obtain ⟨c, hc, huc⟩ := List.mem_flatMap.1 hbelow
      exact ih c hc huc

/-- **A literal stands for what it denotes exactly when all its pieces are handled.**  This is said of all strings in a
script that is read, and of all templates there without substitutions. -/
theorem stringValue?_iff_handled {path x : Text} {s : Source} (hread : Source.read? path x = some s)
    (ht : t ∈ s.tree.ofKind .string ∨ t ∈ s.tree.ofKind .template ∧ ∀ u ∈ t.children, u.kind ≠ .substitution) :
    (∃ quote ps, IsLiteral quote ps t) ∧
    ∀ quote ps, IsLiteral quote ps t → StandsFor t (readAs ps) ∧
      ∀ v, Denotes ps v → (t.stringValue? = some v ↔ ∀ p ∈ ps, p.Handled) := by
  have hliterate : Literate s.tree := by
    obtain ⟨tree, htree, rfl⟩ := Option.map_eq_some_iff.1 hread
    exact literate_of_parse? htree
  refine ⟨?_, fun quote ps h => ⟨standsFor_of_stringValue? h.stringValue?, fun v hv => ?_⟩⟩
  · rcases ht with ht | ⟨ht, hsubst⟩
    · exact hliterate.isLiteral ht (.inl (Tree.kind_of_mem_ofKind ht))
    · exact hliterate.isLiteral ht (.inr ⟨Tree.kind_of_mem_ofKind ht, hsubst⟩)
  · rw [h.stringValue?, Option.some.injEq]
    exact hv.asRead_eq_iff h.spelled

def quotedPieces : List Piece := [.char 'i', .char 't', .escape '\'', .char 's']

theorem stringValue?_iff_handled_quoted : ∃ s t, Source.read? [] "x='it\\'s'".toList = some s ∧
    t ∈ s.tree.ofKind .string ∧ IsLiteral '\'' quotedPieces t ∧ Denotes quotedPieces "it's".toList ∧
    StandsFor t (readAs quotedPieces) ∧
    (t.stringValue? = some "it's".toList ↔ ∀ p ∈ quotedPieces, p.Handled) ∧ t.stringValue? = some "it's".toList := by
  have hread : (Source.read? [] "x='it\\'s'".toList).any (fun s => (s.tree.ofKind .string).any fun t =>
      t.kind = .string ∧ t.text = "'it\\'s'".toList) = true := by decide +kernel
  obtain ⟨s, hs, hany⟩ := (Option.any_eq_true ..).1 hread
  obtain ⟨t, ht, hboth⟩ := List.any_eq_true.1 hany
  obtain ⟨hkind, htext⟩ := of_decide_eq_true hboth
  have hspelled : Spelled '\'' quotedPieces := by simp [quotedPieces, Spelled, Piece.Fits, isLineEnd]
  have hliteral : IsLiteral '\'' quotedPieces t := ⟨.inl ⟨by decide, hkind⟩, hspelled, htext⟩
  have hdenotes : Denotes quotedPieces "it's".toList := ⟨by simp [quotedPieces, Piece.HasUnits], by decide⟩
  obtain ⟨hstands, hiff⟩ := (stringValue?_iff_handled hs (.inl ht)).2 _ _ hliteral
  have hvalue := hiff _ hdenotes
  exact ⟨s, t, hs, ht, hliteral, hdenotes, hstands, hvalue, hvalue.2 (by simp [quotedPieces, Piece.Handled])⟩

/-- **An escape by number is not undone**: the string of the one letter `A` stands for three characters. -/
theorem stringValue?_byte :
    ¬ ∀ (path x : Text) (s : Source) (t : Tree) (quote : Char) (ps : List Piece) (v : Text),
      Source.read? path x = some s → t ∈ s.tree.ofKind .string → IsLiteral quote ps t → Denotes ps v →
      t.stringValue? = some v := by
  intro h
  have hread : (Source.read? [] "x='\\x41'".toList).any (fun s => (s.tree.ofKind .string).any fun t =>
      t.kind = .string ∧ t.text = "'\\x41'".toList ∧ t.stringValue? = some "x41".toList) = true := by decide +kernel
  obtain ⟨s, hs, hany⟩ := (Option.any_eq_true ..).1 hread
  obtain ⟨t, ht, hall⟩ := List.any_eq_true.1 hany
  obtain ⟨hkind, htext, hvalue⟩ := of_decide_eq_true hall
  have hliteral : IsLiteral '\'' [.byte ['4', '1']] t := ⟨.inl ⟨by decide, hkind⟩, ⟨⟨rfl, by decide⟩, trivial⟩, htext⟩
  have hdenotes : Denotes [.byte ['4', '1']] ['A'] := ⟨by simp [Piece.HasUnits], by decide⟩
  have hwrong := h [] _ s t '\'' _ _ hs ht hliteral hdenotes
  rw [hvalue] at hwrong
  exact absurd (Option.some.inj hwrong) (by decide)

end Script
end ViewAtlas
