import ViewAtlas.Proofs.Script.Literals
import ViewAtlas.Proofs.Script.Properties
/-!
# How variables are read

`reads_variable` says what is read off the declaration of a variable, and `read_literal` that a script which declares one
variable has the literal's keys, values and elements, at every level.
-/
namespace ViewAtlas
namespace Script

variable {N n : Nat} {s r g : Text}

/-! ## Words and marks of statements -/

theorem reads_keywordOf {ws : List String} {w : Text} (hg : IsGap g) (hw : IsWord w) (hmem : w ∈ ws.map String.toList)
    (hr : EndsWord r) : Reads N (keywordOf ws) (g ++ (w ++ r)) r w := by
  refine (reads_word hg hw hr).bind ?_
  rw [if_pos (List.contains_iff_mem.2 hmem)]
  exact reads_pure w

theorem reads_equals (hg : IsGap g) (hs : ∀ c ∈ s.head?, c ≠ '=' ∧ c ≠ '>') : Reads N (mark "=") (g ++ '=' :: s) s () := by
  refine reads_mark (m := "=") hg (gapLength_cons (by decide) s) ?_
  exact mark?_alone ['=', '>'] (by decide) (by decide) (by decide) fun c hc => by simpa using hs c hc

theorem reads_terminator (hg : IsGap g) : Reads N terminator (g ++ ';' :: r) r () := by
  have hlead : lead (g ++ ';' :: r) = some ';' := lead_append hg (gapLength_single (by decide))
  refine (reads_markAhead_single (by decide) rfl hlead).bind ?_
  exact reads_single (by decide) rfl hg

/-! ## Declarations of variables -/

def variableText (g₁ g₂ g₃ g₄ : Text) (w : Name) (l : Literal) : Text :=
  "const".toList ++ (g₁ ++ (w.text ++ (g₂ ++ '=' :: (g₃ ++ (l.text ++ (g₄ ++ [';']))))))

def variableTree (g₁ g₂ g₃ g₄ : Text) (w : Name) (l : Literal) : Tree :=
  .node .part .bindings (variableText g₁ g₂ g₃ g₄ w l)
    [.node .part .declarator (w.text ++ (g₂ ++ '=' :: (g₃ ++ l.text)))
      [.node .name .identifier w.text [], l.tree.as .value]]

theorem variableText_append (g₁ g₂ g₃ g₄ : Text) (w : Name) (l : Literal) (r : Text) :
    variableText g₁ g₂ g₃ g₄ w l ++ r =
      "const".toList ++ (g₁ ++ (w.text ++ (g₂ ++ '=' :: (g₃ ++ (l.text ++ (g₄ ++ ';' :: r)))))) := by
  unfold variableText
  simp only [List.append_assoc, List.cons_append, List.nil_append]

theorem Name.notReserved (w : Name) : w.text ∉ reservedWords := fun h => w.free (List.mem_append_left _ h)

theorem reads_pattern_name (w : Name) (hg : IsGap g) (hr : EndsWord r) :
    Reads N (nested (n + 1) .pattern) (g ++ (w.text ++ r)) r (.node .part .identifier w.text []) := by
  change Reads N (readPattern (nested n)) _ r _
  rw [readPattern_eq]
  exact (reads_identifier hg w.isWord w.notReserved hr).oneOf _

theorem reads_declarator (w : Name) (l : Literal) {g₂ g₃ : Text} (hn : 2 * l.text.length ≤ n) (hg : IsGap g) (hg₂ : IsGap g₂)
    (hg₃ : IsGap g₃) (hr : Leads stops r) :
    Reads N (declarator (nested n)) (g ++ (w.text ++ (g₂ ++ '=' :: (g₃ ++ (l.text ++ r))))) r
      (.node .part .declarator (w.text ++ (g₂ ++ '=' :: (g₃ ++ l.text)))
        [.node .name .identifier w.text [], l.tree.as .value]) := by
  obtain ⟨m, rfl⟩ : ∃ m, n = m + 1 := ⟨n - 1, by have := l.length_pos; omega⟩
  have hend : EndsWord (g₂ ++ '=' :: (g₃ ++ (l.text ++ r))) := hg₂.endsWord fun _ c hc => by
    cases hc
    decide
  have hequals : Leads (fun c => c = '=') (g₂ ++ '=' :: (g₃ ++ (l.text ++ r))) :=
    leads_cons hg₂ (gapLength_cons (by decide) _) (by decide)
  have hhead : ∀ c ∈ (g₃ ++ (l.text ++ r)).head?, c ≠ '=' ∧ c ≠ '>' := by
    intro c hc
    rcases hg₃.head c hc with hspace | rfl | ⟨-, hc⟩
    · constructor <;> rintro rfl <;> exact absurd hspace (by decide)
    · decide
    · obtain ⟨d, hd, hopens⟩ := l.head r
      cases hc.symm.trans hd
      constructor <;> rintro rfl <;> exact absurd hopens (by decide)
  have hread : Reads N (do
      let n ← nested (m + 1) .pattern
      discard <| attempt (mark "!")
      let t ← statedType (nested (m + 1))
      let v ← initializer (nested (m + 1))
      return n.as .name :: t ++ (v.map (Tree.as .value)).toList) (w.text ++ (g₂ ++ '=' :: (g₃ ++ (l.text ++ r)))) r
      [.node .name .identifier w.text [], l.tree.as .value] := by
    refine (reads_pattern_name (g := []) w .nil hend).bind ?_
    refine (hequals.refuses_mark (by decide)).attempt.discard.bind ?_
    refine Reads.bind (((hequals.refuses_mark (by decide)).bind _).attempt.bind (reads_pure _)) ?_
    refine Reads.bind (((reads_equals hg₂ hhead).bind (nested_literal l hn hg₃ hr)).attempt) ?_
    exact reads_pure _
  have htext : w.text ++ (g₂ ++ '=' :: (g₃ ++ (l.text ++ r))) = w.text ++ (g₂ ++ '=' :: (g₃ ++ l.text)) ++ r := by simp
  have hgap := gapLength_word w.isWord (g₂ ++ '=' :: (g₃ ++ (l.text ++ r)))
  rw [htext] at hread hgap ⊢
  exact hread.node hg hgap

theorem reads_variable (w : Name) (l : Literal) {g₁ g₂ g₃ g₄ : Text} (hn : 2 * l.text.length ≤ n) (hg : IsGap g)
    (hg₁ : IsGap g₁) (hsome : g₁ ≠ []) (hg₂ : IsGap g₂) (hg₃ : IsGap g₃) (hg₄ : IsGap g₄) :
    Reads N (declaration (nested n)) (g ++ (variableText g₁ g₂ g₃ g₄ w l ++ r)) r (variableTree g₁ g₂ g₃ g₄ w l) := by
  have hstops : Leads stops (g₄ ++ ';' :: r) := leads_single hg₄ (by decide) (by decide)
  have hsemicolon : Leads (fun c => c = ';') (g₄ ++ ';' :: r) := leads_single hg₄ (by decide) (by decide)
  have hconst : IsWord "const".toList := isWord_of_all (by decide)
  have hend : EndsWord (g₁ ++ (w.text ++ (g₂ ++ '=' :: (g₃ ++ (l.text ++ (g₄ ++ ';' :: r)))))) :=
    hg₁.endsWord fun hnil => absurd hnil hsome
  have htext : variableText g₁ g₂ g₃ g₄ w l ++ r =
      "const".toList ++ (g₁ ++ (w.text ++ (g₂ ++ '=' :: (g₃ ++ (l.text ++ (g₄ ++ ';' :: r)))))) :=
    variableText_append g₁ g₂ g₃ g₄ w l r
  have hnext : nextWord (g ++ (variableText g₁ g₂ g₃ g₄ w l ++ r)) = "const".toList := by
    rw [htext, nextWord_append hg hconst hend]
  have hgap : gapLength (variableText g₁ g₂ g₃ g₄ w l ++ r) = 0 := by rw [htext, gapLength_word hconst]
  have hdeclarators : Reads N (declarators (nested n)) (variableText g₁ g₂ g₃ g₄ w l ++ r) (g₄ ++ ';' :: r)
      [.node .part .declarator (w.text ++ (g₂ ++ '=' :: (g₃ ++ l.text)))
        [.node .name .identifier w.text [], l.tree.as .value]] := by
    rw [htext]
    refine (reads_keywordOf (g := []) .nil hconst (by decide) hend).bind ?_
    rw [if_neg (by decide)]
    exact (reads_declarator w l hn hg₁ hg₂ hg₃ hstops).separated (hsemicolon.refuses_mark (by decide))
  have henum : Refuses N (enumStatement (nested n)) (g ++ (variableText g₁ g₂ g₃ g₄ w l ++ r)) := by
    refine refuses_node ?_
    rw [beyond_append hg hgap, htext]
    have hname : EndsWord (g₂ ++ '=' :: (g₃ ++ (l.text ++ (g₄ ++ ';' :: r)))) := hg₂.endsWord fun _ c hc => by
      cases hc
      decide
    refine (reads_keyword (g := []) .nil hconst hend).attempt.discard.bind_refuses ((refuses_keyword ?_).bind _)
    rw [nextWord_append hg₁ w.isWord hname]
    exact fun heq => w.notReserved (by rw [heq]; decide)
  refine reads_wordAhead.bind ?_
  rw [hnext, if_neg (by decide)]
  refine henum.either_reads ?_
  exact Reads.node (hdeclarators.bind ((reads_terminator hg₄).bind (reads_pure _))) hg hgap

/-! ## Statements -/

theorem reads_statement_word {w t : Text} {e : Tree} {self : Nested} (hg : IsGap g) (hw : IsWord w) (hend : EndsWord r)
    (h : Reads N (wordStatement self (String.ofList w)) (g ++ (w ++ r)) t e) :
    Reads N (readStatement self) (g ++ (w ++ r)) t e := by
  obtain ⟨c, hc, hstart⟩ := hw.startsWord_head r
  obtain ⟨x, hx⟩ := List.head?_eq_some_iff.1 hc
  have hbeyond : beyond (g ++ (w ++ r)) = c :: x := by rw [beyond_append hg (gapLength_word hw r), hx]
  have hmarks : ∀ d, startsWord d = false → c ≠ d := by
    rintro d hd rfl
    rw [hstart] at hd
    cases hd
  refine reads_upcoming.bind ?_
  rw [hbeyond]
  dsimp only
  rw [if_neg (hmarks _ (by decide)), if_neg (hmarks _ (by decide)), if_neg (hmarks _ (by decide)), ← hx,
    wordLength_append hw hend, List.take_left]
  exact h

theorem reads_variable_statement (w : Name) (l : Literal) {g₁ g₂ g₃ g₄ : Text} (hn : 2 * l.text.length ≤ n) (hg : IsGap g)
    (hg₁ : IsGap g₁) (hsome : g₁ ≠ []) (hg₂ : IsGap g₂) (hg₃ : IsGap g₃) (hg₄ : IsGap g₄) :
    Reads N (nested (n + 1) .statement) (g ++ (variableText g₁ g₂ g₃ g₄ w l ++ r)) r (variableTree g₁ g₂ g₃ g₄ w l) := by
  have hread := reads_variable (N := N) (r := r) w l hn hg hg₁ hsome hg₂ hg₃ hg₄
  rw [variableText_append] at hread ⊢
  exact reads_statement_word hg (isWord_of_all (by decide)) (hg₁.endsWord fun hnil => absurd hnil hsome) hread

theorem refuses_statement_nil (hg : IsGap g) : Refuses N (nested (n + 1) .statement) g := by
  have hbeyond : beyond g = [] := by
    have h := beyond_append hg (s := []) (by rw [gapLength.eq_def])
    rwa [List.append_nil] at h
  refine reads_upcoming.bind_refuses ?_
  rw [hbeyond]
  exact refuses_refuse

/-- **A script is read** when its statements are, up to a gap at its end. -/
theorem parse?_of_rows {x t : Text} {ts : List Tree} (hg : IsGap g) (hx : gapLength x = 0) (ht : IsGap t)
    (hstart : interpreterLength (g ++ x) = 0)
    (h : Rows (g ++ x).length (nested (levelsFor (g ++ x)) .statement) x t ts) :
    parse? (g ++ x) = some (.node .part .other x ts) := by
  have hbeyond : beyond t = [] := by
    have h := beyond_append ht (s := []) (by rw [gapLength.eq_def])
    rwa [List.append_nil] at h
  have hgap : Reads (g ++ x).length gap t [] () := by
    have h := reads_gap (N := (g ++ x).length) (s := t)
    rwa [hbeyond] at h
  have hread : Reads (g ++ x).length (statements (nested (levelsFor (g ++ x)))) (g ++ (x ++ [])) []
      (.node .part .other x ts) := by
    refine Reads.node ?_ hg (by rwa [List.append_nil])
    rw [List.append_nil]
    exact h.many.bind (hgap.bind (reads_get (le_refl _) fun _ _ => reads_pure ts))
  rw [List.append_nil] at hread
  unfold parse?
  simp only [hstart, List.drop_zero, hread.run 0 (Nat.zero_add _)]

/-! ## What a literal holds -/

def Items.toList : Items → List Literal
  | .nothing _ => []
  | .last _ l _ => [l]
  | .more _ l _ rest => l :: rest.toList

def Members.toList : Members → List (Text × Literal)
  | .nothing _ => []
  | .last _ k _ _ l _ => [(k.name, l)]
  | .more _ k _ _ l _ rest => (k.name, l) :: rest.toList

def Literal.elements : Literal → List Literal
  | .array items => items.toList
  | _ => []

def Literal.entries : Literal → List (Text × Literal)
  | .object members => members.toList
  | _ => []

/-- The value that comes last for a key. -/
def Literal.value? (l : Literal) (key : Text) : Option Literal := (l.entries.reverse.find? (·.1 = key)).map (·.2)

@[simp] theorem Tree.role_node (r : Role) (k : Kind) (x : Text) (ts : List Tree) : (Tree.node r k x ts).role = r := rfl

@[simp] theorem Tree.kind_node (r : Role) (k : Kind) (x : Text) (ts : List Tree) : (Tree.node r k x ts).kind = k := rfl

@[simp] theorem Tree.text_node (r : Role) (k : Kind) (x : Text) (ts : List Tree) : (Tree.node r k x ts).text = x := rfl

@[simp] theorem Tree.children_node (r : Role) (k : Kind) (x : Text) (ts : List Tree) :
    (Tree.node r k x ts).children = ts := rfl

@[simp] theorem Tree.text_as (t : Tree) (r : Role) : (t.as r).text = t.text := by cases t; rfl

@[simp] theorem Tree.kind_as (t : Tree) (r : Role) : (t.as r).kind = t.kind := by cases t; rfl

@[simp] theorem Tree.children_as (t : Tree) (r : Role) : (t.as r).children = t.children := by cases t; rfl

@[simp] theorem Tree.role_as (t : Tree) (r : Role) : (t.as r).role = r := by cases t; rfl

theorem Literal.text_tree (l : Literal) : l.tree.text = l.text := by
  cases l <;> rw [Literal.tree, Literal.text] <;> rfl

theorem stripQuotes_word {w : Text} (hw : WordParts w) : stripQuotes w = w := by
  have hpart : ∀ {c : Char}, isWordPart c = true → (!(c = '\'' || c = '"' || c = '\x60')) = true := by
    intro c hc
    have hne : ∀ d, isWordPart d = false → c ≠ d := by
      rintro d hd rfl
      rw [hc] at hd
      cases hd
    simp [hne '\'' (by decide), hne '"' (by decide), hne '\x60' (by decide)]
  refine List.filter_eq_self.2 ?_
  induction hw with
  | nil => exact fun c hc => by cases hc
  | char hc _ ih => exact List.forall_mem_cons.2 ⟨hpart hc, ih⟩
  | code hcode _ ih =>
    have hdigits := fun x hx => hpart (isWordPart_of_isHexDigit (hcode x hx))
    refine List.forall_mem_cons.2 ⟨by decide, List.forall_mem_cons.2 ⟨by decide, ?_⟩⟩
    exact List.forall_mem_append.2 ⟨hdigits, ih⟩
  | point _ hcode _ ih =>
    have hdigits := fun x hx => hpart (isWordPart_of_isHexDigit (hcode x hx))
    refine List.forall_mem_cons.2 ⟨by decide, List.forall_mem_cons.2 ⟨by decide, List.forall_mem_cons.2 ⟨by decide, ?_⟩⟩⟩
    exact List.forall_mem_append.2 ⟨hdigits, List.forall_mem_cons.2 ⟨by decide, ih⟩⟩

theorem Key.stripQuotes_text (k : Key) : stripQuotes k.tree.text = k.name := by
  cases k with
  | word w hw => exact stripQuotes_word hw.parts
  | quoted quote s hquote hs =>
    have hbody : stripQuotes s = s := by
      refine List.filter_eq_self.2 fun c hc => ?_
      have hfree := hs c hc
      simp only [IsKeyChar, List.mem_cons, List.not_mem_nil, or_false, not_or] at hfree
      simp [hfree.1, hfree.2.1, hfree.2.2.1]
    have hend : ∀ x, stripQuotes (quote :: x) = stripQuotes x := by
      intro x
      rcases hquote with rfl | rfl <;> rfl
    rw [Key.tree, Tree.text, hend, stripQuotes, List.filter_append]
    rw [show (s.filter _) = s from hbody]
    rcases hquote with rfl | rfl <;> exact List.append_nil s

theorem Items.trees_eq : ∀ items : Items, items.trees = items.toList.map Literal.tree
  | .nothing _ => by rw [Items.trees]; rfl
  | .last _ l _ => by rw [Items.trees]; rfl
  | .more _ l _ rest => by rw [Items.trees, rest.trees_eq]; rfl

theorem pairEntry_pair (k : Key) (l : Literal) (x : Text) :
    pairEntry (.node .part .pair x [k.tree.as .key, l.tree.as .value]) = some (k.name, l.tree.as .value) := by
  have hkey : (Tree.node .part .pair x [k.tree.as .key, l.tree.as .value]).child? .key = some (k.tree.as .key) := by
    simp [Tree.child?, Tree.children]
  have hvalue : (Tree.node .part .pair x [k.tree.as .key, l.tree.as .value]).child? .value = some (l.tree.as .value) := by
    simp [Tree.child?, Tree.children]
  rw [pairEntry, hkey, hvalue]
  simp only [Tree.text_as, k.stripQuotes_text]

theorem Members.entries_trees : ∀ members : Members,
    (members.trees.filter (·.kind == .pair)).filterMap pairEntry = members.toList.map fun e => (e.1, e.2.tree.as .value)
  | .nothing _ => by rw [Members.trees]; rfl
  | .last _ k _ _ l _ => by
    rw [Members.trees, List.filter_cons_of_pos rfl, List.filterMap_cons, pairEntry_pair]
    rfl
  | .more _ k _ _ l _ rest => by
    rw [Members.trees, List.filter_cons_of_pos rfl, List.filterMap_cons, pairEntry_pair, rest.entries_trees]
    rfl

theorem Literal.elements_tree (l : Literal) (r : Role) : (l.tree.as r).elements = l.elements.map Literal.tree := by
  cases l with
  | array items =>
    rw [Literal.tree]
    exact items.trees_eq
  | _ => rw [Literal.tree]; rfl

theorem Literal.properties_tree (l : Literal) (r : Role) :
    (l.tree.as r).properties = Table.ofList (l.entries.map fun e => (e.1, e.2.tree.as .value)) := by
  cases l with
  | object members =>
    rw [Literal.tree]
    exact congrArg Table.ofList members.entries_trees
  | _ => rw [Literal.tree]; rfl

theorem Literal.get?_properties_tree (l : Literal) (r : Role) (key : Text) :
    (l.tree.as r).properties.get? key = (l.value? key).map fun m => m.tree.as .value := by
  rw [l.properties_tree, Table.get?_ofList, ← List.map_reverse, List.find?_map, Literal.value?, Option.map_map,
    Option.map_map]
  rfl

/-- **A tree shows a literal**: it has its text; its elements have the texts of the literal's, in order; its properties have
the keys of the literal, each where it first stands, and each with the text of its last value. -/
structure Shows (l : Literal) (t : Tree) : Prop where
  text : t.text = l.text
  elements : t.elements.map Tree.text = l.elements.map Literal.text
  keys : t.properties.keys = (l.entries.map (·.1)).eraseDups
  values : ∀ key, (t.properties.get? key).map Tree.text = (l.value? key).map Literal.text

theorem Literal.shows_tree (l : Literal) (r : Role) : Shows l (l.tree.as r) where
  text := by rw [Tree.text_as, l.text_tree]
  elements := by
    rw [l.elements_tree, List.map_map]
    exact List.map_congr_left fun m _ => m.text_tree
  keys := by
    rw [l.properties_tree, Table.keys_ofList, List.map_map]
    rfl
  values key := by
    rw [l.get?_properties_tree, Option.map_map]
    congr 1
    funext m
    rw [Function.comp_apply, Tree.text_as, m.text_tree]

/-- **What the same steps reach** in a literal and in a tree: by the place of an element, or by a key. -/
inductive Reaches (l : Literal) (t : Tree) : Literal → Tree → Prop
  | here : Reaches l t l t
  | element {m m' : Literal} {u u' : Tree} (i : Nat) (h : Reaches l t m u) (hm : m.elements[i]? = some m')
      (hu : u.elements[i]? = some u') : Reaches l t m' u'
  | value {m m' : Literal} {u u' : Tree} (key : Text) (h : Reaches l t m u) (hm : m.value? key = some m')
      (hu : u.properties.get? key = some u') : Reaches l t m' u'

theorem Reaches.tree {l m : Literal} {u : Tree} {r : Role} (h : Reaches l (l.tree.as r) m u) : ∃ r', u = m.tree.as r' := by
  induction h with
  | here => exact ⟨r, rfl⟩
  | @element m m' u u' i _ hm hu ih =>
    obtain ⟨r', rfl⟩ := ih
    rw [m.elements_tree, List.getElem?_map, hm] at hu
    refine ⟨.part, ?_⟩
    rw [← Option.some.inj hu]
    cases m' <;> rw [Literal.tree] <;> rfl
  | @value m m' u u' key _ hm hu ih =>
    obtain ⟨r', rfl⟩ := ih
    rw [m.get?_properties_tree, hm] at hu
    exact ⟨.value, (Option.some.inj hu).symm⟩

/-! ## Reading undoes printing -/

theorem variableTree_children (g₁ g₂ g₃ g₄ : Text) (w : Name) (l : Literal) :
    (variableTree g₁ g₂ g₃ g₄ w l).children.filterMap (fun v => (v.child? .name).map fun n => (n.text, v.child? .value)) =
      [(w.text, some (l.tree.as .value))] := by
  simp [variableTree, Tree.child?]

def valueName : Name := ⟨⟨"value".toList, isWord_of_all (by decide)⟩, by decide⟩

/-- **Reading a literal undoes writing it.**  A script that gives a literal to a variable is read, and what is reached in the
variable's value, by elements and keys, shows what the same steps reach in the literal. -/
theorem read_literal (path : Text) (l : Literal) (before after : Gap) :
    ∃ s t, Source.read? path ("const value =".toList ++ (before.text ++ (l.text ++ (after.text ++ [';'])))) = some s ∧
      s.bindings = [("value".toList, some t)] ∧ ∀ m u, Reaches l t m u → Shows m u := by
  have hblank : IsGap [' '] := .space (by decide) .nil
  let x := variableText [' '] [' '] before.text after.text valueName l
  have hlength : 2 * l.text.length ≤ 4 * x.length + 7 := by
    unfold x variableText
    simp only [List.length_append, List.length_cons]
    omega
  have hread : Reads x.length (nested (levelsFor x) .statement) x [] (variableTree [' '] [' '] before.text after.text
      valueName l) := by
    have h := reads_variable_statement (N := x.length) (r := []) valueName l hlength .nil hblank (by decide) hblank
      before.isGap after.isGap
    rwa [List.append_nil] at h
  have hgap : gapLength x = 0 := gapLength_word (isWord_of_all (w := "const".toList) (by decide)) _
  have hparse : parse? x = some (.node .part .other x [variableTree [' '] [' '] before.text after.text valueName l]) :=
    parse?_of_rows .nil hgap .nil rfl (.step hread (Nat.succ_pos _) (.done (refuses_statement_nil .nil)))
  refine ⟨⟨path, .node .part .other x [variableTree [' '] [' '] before.text after.text valueName l]⟩, l.tree.as .value, ?_,
    ?_, fun m u h => ?_⟩
  · exact congrArg (Option.map (Source.mk path)) hparse
  · exact (List.append_nil _).trans (variableTree_children [' '] [' '] before.text after.text valueName l)
  · obtain ⟨r, rfl⟩ := h.tree
    exact m.shows_tree r

/-- A comment that holds the character NUL is no gap: before a value it is a syntax error. -/
theorem read_literal_nul : Source.read? [] "const value =/*\x00*/1;".toList = none := by
  rw [← Option.isNone_iff_eq_none]
  decide +kernel

end Script
end ViewAtlas
