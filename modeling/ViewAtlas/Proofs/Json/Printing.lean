import Mathlib.Data.Nat.Digits.Defs
import ViewAtlas.Json.Printer
import ViewAtlas.Proofs.Json.Parsing
/-!
# What is printed

The text of a value without binary fractions is a strict document of it, in either layout (`Plain.writtenStrictly`), so
it is read back as the value (`Plain.read_print`).
-/
namespace ViewAtlas

/-! ## Whole numbers -/

namespace Text

theorem readDigits_append {base : Nat} {c : Char} {d : Nat} (hc : hexValue? c = some d) (s : Text) :
    readDigits base (s ++ [c]) = readDigits base s * base + d := by
  simp only [readDigits, List.foldl_append, List.foldl_cons, List.foldl_nil, hc]

theorem hexValue?_digitChar {d : Nat} (h : d < 10) : hexValue? d.digitChar = some d := by
  have hall : ∀ d < 10, hexValue? d.digitChar = some d := by decide
  exact hall d h

theorem readDigits_ofNat (n : Nat) : readDigits 10 (ofNat n) = n := by
  induction n using Nat.base_induction 10 (by decide) with
  | single d hd =>
    rw [ofNat, Nat.toDigits_of_lt_base hd, ← List.nil_append [_], readDigits_append (hexValue?_digitChar hd)]
    simp [readDigits]
  | digit m d hd hm ih =>
    rw [ofNat, ← Nat.toDigits_append_toDigits (by decide) hm hd, Nat.toDigits_of_lt_base hd,
      readDigits_append (hexValue?_digitChar hd), ← ofNat, ih, Nat.mul_comm]

theorem head?_ofNat {n : Nat} (h : (ofNat n).head? = some '0') : n = 0 := by
  induction n using Nat.base_induction 10 (by decide) with
  | single d hd =>
    have hall : ∀ d < 10, d.digitChar = '0' → d = 0 := by decide
    rw [ofNat, Nat.toDigits_of_lt_base hd] at h
    exact hall d hd (Option.some.inj h)
  | digit m d hd hm ih =>
    rw [ofNat, ← Nat.toDigits_append_toDigits (by decide) hm hd, List.head?_append_of_ne_nil _ Nat.toDigits_ne_nil] at h
    exact absurd (ih h) (Nat.ne_of_gt hm)

end Text

namespace Json

theorem intSpelled_ofNat (n : Nat) (negative : Bool) (h : (Text.ofNat n).length < 4300) :
    IntSpelled (if negative then -(n : Int) else n) negative (Text.ofNat n) where
  nonempty := Nat.toDigits_ne_nil
  decimal _ hc := Nat.isDigit_of_mem_toDigits (by decide) (by decide) hc
  leading hzero := by
    rw [Text.head?_ofNat hzero]
    rfl
  short := h
  value := by rw [Text.readDigits_ofNat]

theorem spelled_ofInt {n : Int} (h : (Text.ofNat n.natAbs).length < 4300) :
    Spelled (.plain (.int n)) (Text.ofInt n) := by
  cases n with
  | ofNat n => exact .int (intSpelled_ofNat n false h)
  | negSucc n => exact .int (intSpelled_ofNat (n + 1) true h)

/-! ## Texts -/

theorem charSpelled_printChar (c : Char) : CharSpelled c (printChar c) := by
  have hshort : ∀ {letter : Char}, (letter, c) ∈ shortEscapes → CharSpelled c ['\\', letter] := .short
  have hcontrol : ∀ n < 0x20, WritesUnit n (Text.hex 4 n) := by
    have hall : ∀ n < 0x20, (Text.hex 4 n).length = 4 ∧ (Text.hex 4 n).all (fun c => (Text.hexValue? c).isSome) = true ∧
        Text.readDigits 16 (Text.hex 4 n) = n := by decide +kernel
    intro n hn
    obtain ⟨hlength, hhex, hvalue⟩ := hall n hn
    exact ⟨hlength, List.all_eq_true.1 hhex, hvalue⟩
  unfold printChar
  split
  · rename_i h
    rcases h with rfl | rfl <;> exact hshort (by decide)
  · rename_i hplain
    split
    · subst_vars
      exact hshort (by decide)
    · split
      · subst_vars
        exact hshort (by decide)
      · split
        · subst_vars
          exact hshort (by decide)
        · split
          · subst_vars
            exact hshort (by decide)
          · split
            · subst_vars
              exact hshort (by decide)
            · split
              · rename_i hlow
                have hunit := CharSpelled.unit (hcontrol c.toNat hlow) (by omega)
                rwa [Char.ofNat_toNat] at hunit
              · rename_i hlow
                exact .plain (Nat.not_lt.1 hlow) (fun h => hplain (.inl h)) fun h => hplain (.inr h)

theorem textSpelled_flatMap : ∀ t : Text, TextSpelled t (t.flatMap printChar)
  | [] => .nil
  | c :: t => .cons (charSpelled_printChar c) (textSpelled_flatMap t)

theorem spelled_printText (t : Text) : Spelled (.text t) (printText t) := .text (textSpelled_flatMap t)

/-! ## Values -/

/-- **A text that writes tokens**, with white space around them, before whatever goes on. -/
def Writes (tokens : List Token) (t : Text) : Prop :=
  ∃ lexemes, List.Forall₂ Spelled tokens lexemes ∧
    ∀ {ls s}, Woven Blank Blank ls s → Woven Blank Blank (lexemes ++ ls) (t ++ s)

theorem Writes.append {tokens tokens' : List Token} {t t' : Text} (h : Writes tokens t) (h' : Writes tokens' t') :
    Writes (tokens ++ tokens') (t ++ t') := by
  obtain ⟨lexemes, hspelled, hwoven⟩ := h
  obtain ⟨lexemes', hspelled', hwoven'⟩ := h'
  refine ⟨lexemes ++ lexemes', List.rel_append hspelled hspelled', fun hs => ?_⟩
  rw [List.append_assoc, List.append_assoc]
  exact hwoven (hwoven' hs)

theorem Spelled.writes {t : Token} {l : Text} (h : Spelled t l) : Writes [t] l :=
  ⟨[l], .cons h .nil, fun hs => .more (g := []) (fun _ hc => absurd hc List.not_mem_nil) hs⟩

theorem Blank.writes {b : Text} (h : Blank b) : Writes [] b := ⟨[], .nil, fun hs => hs.blank_append h⟩

theorem Writes.woven {tokens : List Token} {t : Text} (h : Writes tokens t) :
    ∃ lexemes, List.Forall₂ Spelled tokens lexemes ∧ Woven Blank Blank lexemes t := by
  obtain ⟨lexemes, hspelled, hwoven⟩ := h
  have hall := hwoven (.done (s := []) fun _ hc => absurd hc List.not_mem_nil)
  rw [List.append_nil, List.append_nil] at hall
  exact ⟨lexemes, hspelled, hall⟩

/-- **A value that can be written down**: it has no binary fractions and no overlong numbers, and the names of each
record are different. -/
inductive Plain : Value → Prop
  | null : Plain .null
  | bool (b : Bool) : Plain (.bool b)
  | int {n : Int} (h : (Text.ofNat n.natAbs).length < 4300) : Plain (.int n)
  | text (t : Text) : Plain (.text t)
  | list {items : List Value} (h : ∀ v ∈ items, Plain v) : Plain (.list items)
  | record {fields : List (Text × Value)} (hnames : (fields.map (·.1)).Nodup) (h : ∀ f ∈ fields, Plain f.2) :
      Plain (.record fields)

theorem Layout.writes_lineStart (l : Layout) (depth : Nat) : Writes [] (l.lineStart depth) := by
  refine Blank.writes fun c hc => ?_
  cases l with
  | compact => cases hc
  | pretty =>
    rcases List.mem_cons.1 hc with rfl | hc
    · rfl
    · rw [List.eq_of_mem_replicate hc]
      rfl

theorem Layout.writes_between (l : Layout) (depth : Nat) : Writes [.comma] (l.between depth) := by
  cases l with
  | compact => exact Spelled.comma.writes.append (Blank.writes (b := [' ']) (Text.forall_mem_of_all (by decide)))
  | pretty => exact Spelled.comma.writes.append (Layout.writes_lineStart .pretty depth)

theorem Layout.writes_enclose {l : Layout} {depth : Nat} {first last : Char} {opening closing : Token}
    (hfirst : Spelled opening [first]) (hlast : Spelled closing [last]) {tokens : List Token} {items : List Text}
    (hitems : items = [] → tokens = [])
    (h : items ≠ [] → Writes tokens (Text.joinWith (l.between (depth + 1)) items)) :
    Writes (opening :: (tokens ++ [closing])) (l.enclose depth first last items) := by
  unfold Layout.enclose
  split
  · rw [hitems ‹_›]
    exact hfirst.writes.append hlast.writes
  · have hinner := ((l.writes_lineStart (depth + 1)).append (h ‹_›)).append (l.writes_lineStart depth)
    have hall := hfirst.writes.append (hinner.append hlast.writes)
    simpa only [List.cons_append, List.nil_append, List.append_nil, List.append_assoc] using hall

theorem writes_members {α : Type} {sep : Text} (hsep : Writes [.comma] sep) (member : α → Option Text × Value)
    {text : α → Text} : ∀ {as : List α}, (∀ a ∈ as, ∃ tokens, Phrase false (member a).2 tokens ∧
      Writes (nameTokens (member a).1 ++ tokens) (text a)) → ∃ tokens, Members false (as.map member) tokens ∧
        (as.map text = [] → tokens = []) ∧ (as.map text ≠ [] → Writes tokens (Text.joinWith sep (as.map text)))
  | [], _ => ⟨[], .none, fun _ => rfl, fun h => absurd rfl h⟩
  | [a], h => by
    obtain ⟨tokens, hphrase, hwrites⟩ := h a (List.mem_cons_self ..)
    refine ⟨_, .last hphrase, fun hnil => absurd hnil (by simp), fun _ => ?_⟩
    rw [List.map_singleton, Text.joinWith_singleton]
    exact hwrites
  | a :: b :: as, h => by
    obtain ⟨tokens, hphrase, hwrites⟩ := h a (List.mem_cons_self ..)
    obtain ⟨rest, hmembers, -, hrest⟩ := writes_members hsep member fun c hc => h c (List.mem_cons_of_mem a hc)
    refine ⟨_, .more hphrase hmembers, fun hnil => absurd hnil (by simp), fun _ => ?_⟩
    have hall := hwrites.append (hsep.append (hrest (by simp)))
    rw [List.map_cons, Text.joinWith_cons sep _ (by simp)]
    simpa only [List.append_assoc, List.singleton_append] using hall

theorem printItems_eq_map (l : Layout) (depth : Nat) : ∀ items : List Value,
    printItems l depth items = items.map (printAt l depth)
  | [] => rfl
  | v :: items => by rw [printItems, printItems_eq_map l depth items, List.map_cons]

theorem printFields_eq_map (l : Layout) (depth : Nat) : ∀ fields : List (Text × Value),
    printFields l depth fields = fields.map fun f => printText f.1 ++ ':' :: ' ' :: printAt l depth f.2
  | [] => rfl
  | (name, v) :: fields => by rw [printFields, printFields_eq_map l depth fields, List.map_cons]

theorem Plain.writes_printAt {v : Value} (h : Plain v) (l : Layout) : ∀ depth,
    ∃ tokens, Phrase false v tokens ∧ Writes tokens (printAt l depth v) := by
  induction h with
  | null => exact fun _ => ⟨_, .null, Spelled.null.writes⟩
  | bool b =>
    intro depth
    cases b with
    | true => exact ⟨_, .bool true, Spelled.yes.writes⟩
    | false => exact ⟨_, .bool false, Spelled.no.writes⟩
  | int h => exact fun _ => ⟨_, .int _, (spelled_ofInt h).writes⟩
  | text t => exact fun _ => ⟨_, .text t, (spelled_printText t).writes⟩
  | list _ ih =>
    intro depth
    obtain ⟨tokens, hmembers, hnil, hwrites⟩ := writes_members (l.writes_between (depth + 1))
      (fun v => (none, v)) fun v hv => ih v hv (depth + 1)
    refine ⟨_, .list hmembers, ?_⟩
    rw [printAt, printItems_eq_map]
    exact Layout.writes_enclose .openList .closeList hnil hwrites
  | @record fields hnames _ ih =>
    intro depth
    have hfield : ∀ f ∈ fields, ∃ tokens, Phrase false f.2 tokens ∧ Writes (nameTokens (some f.1) ++ tokens)
        (printText f.1 ++ ':' :: ' ' :: printAt l (depth + 1) f.2) := by
      intro f hf
      obtain ⟨tokens, hphrase, hwrites⟩ := ih f hf (depth + 1)
      have hspace : Blank [' '] := Text.forall_mem_of_all (by decide)
      exact ⟨tokens, hphrase,
        (spelled_printText f.1).writes.append (Spelled.colon.writes.append (hspace.writes.append hwrites))⟩
    obtain ⟨tokens, hmembers, hnil, hwrites⟩ := writes_members (l.writes_between (depth + 1))
      (fun f : Text × Value => (some f.1, f.2)) hfield
    have hphrase := Phrase.record hmembers
    rw [Table.ofList_of_nodup hnames] at hphrase
    refine ⟨_, hphrase, ?_⟩
    rw [printAt, printFields_eq_map]
    exact Layout.writes_enclose .openRecord .closeRecord hnil hwrites

theorem Plain.writtenStrictly {v : Value} (h : Plain v) (l : Layout) : WrittenStrictly v (print l v) := by
  obtain ⟨tokens, hphrase, hwrites⟩ := h.writes_printAt l 0
  obtain ⟨lexemes, hspelled, hwoven⟩ := hwrites.woven
  exact ⟨tokens, lexemes, hphrase, hspelled, hwoven⟩

/-- **What is printed of a plain value is read back as it**, in either layout. -/
theorem Plain.read_print {v : Value} (h : Plain v) (l : Layout) : read (print l v) = .ok v :=
  (h.writtenStrictly l).read

end Json
end ViewAtlas
