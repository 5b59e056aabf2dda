import ViewAtlas.Template.Node
import ViewAtlas.Text.Case
/-!
# Tags

Which elements have no end tag, which elements an element cannot hold, and the tags themselves: a name and attributes,
read from the characters that follow `<`.  Names are compared in lower case.
-/
namespace ViewAtlas
namespace Template

/-- The names in lines of names with a space between neighbours. -/
def namesOf (lines : List String) : List Text := lines.flatMap fun s => Text.splitAt ' ' s.toList

def voidNames : List Text :=
  namesOf ["area base basefont bgsound br col command embed frame hr image img input isindex keygen link menuitem",
    "meta nextid param source track wbr"]

def standardNames : List Text :=
  namesOf ["a abbr address article aside audio b bdi bdo blockquote body button canvas caption cite code colgroup data",
    "datalist dd del details dfn dialog div dl dt em fieldset figcaption figure footer form h1 h2 h3 h4 h5 h6 head",
    "header hgroup html i iframe ins kbd label legend li main map mark math menu meter nav noscript object ol optgroup option",
    "output p picture pre progress q rb rp rt rtc ruby s samp script section select slot small span strong style sub",
    "summary sup svg table tbody td template textarea tfoot th thead time title tr u ul var video"]

def notInParagraph : List Text :=
  namesOf ["address article aside blockquote details div dl fieldset figcaption figure footer form h1 h2 h3 h4 h5 h6",
    "header hr main nav ol p pre section"]

def isVoid (name : Text) : Bool := voidNames.contains name

/-- The kind of a name: a name of the standard is a kind of its own, all others are of one kind. -/
def kindOf (name : Text) : Option Text :=
  if voidNames.contains name || standardNames.contains name then some name else none

/-- **Whether an element can hold another one as its child.** -/
def canHold (parent child : Text) : Bool :=
  let isOneOf (s : String) := (namesOf [s]).contains child
  match String.ofList parent with
  | "li" => !isOneOf "li"
  | "dt" | "dd" => !isOneOf "dt dd"
  | "rb" | "rt" | "rp" => !isOneOf "rb rt rp"
  | "optgroup" => !isOneOf "optgroup"
  | "tr" => !isOneOf "tr"
  | "td" | "th" => !isOneOf "td th tr"
  | "colgroup" => isOneOf "col"
  | "p" => !notInParagraph.contains child
  | _ => true

def endsWithTemplate (name : Text) : Bool :=
  isVoid name || name == "colgroup".toList || (namesOf ["html head body"]).contains name

def isGap (c : Char) : Bool := c = ' ' || ('\t' ≤ c && c ≤ '\r')

def isTagNameChar (c : Char) : Bool := c = '-' || c = ':' || Text.isAlphanumeric c

def isAttributeNameChar (c : Char) : Bool := !(isGap c || ['<', '>', '"', '\'', '/', '='].contains c)

def isBareValueChar (c : Char) : Bool := !(isGap c || ['<', '>', '"', '\'', '='].contains c)

/-- The comment that starts a text: how many characters it takes. -/
def commentLength? (s : Text) : Option Nat :=
  (Text.after? "<!--".toList s).bind fun r => (Text.offset? "-->".toList r).map (· + 7)

theorem commentLength?_le {s : Text} {n : Nat} (h : commentLength? s = some n) : 7 ≤ n ∧ n ≤ s.length := by
  obtain ⟨r, hr, h⟩ := Option.bind_eq_some_iff.1 h
  obtain ⟨k, hk, rfl⟩ := Option.map_eq_some_iff.1 h
  have hopen : "<!--".toList.length = 4 := rfl
  have hclose : "-->".toList.length = 3 := rfl
  have hle := Text.offset?_le hk
  rw [Text.eq_append_of_after? hr, List.length_append]
  omega

/-- How many characters the comments take that start a text, with the gap before each of them.  A comment that nothing
ends is none. -/
def commentsLength (s : Text) : Nat :=
  let gap := (s.takeWhile isGap).length
  match _h : commentLength? (s.drop gap) with
  | none => 0
  | some n => gap + n + commentsLength (s.drop (gap + n))
termination_by s.length
decreasing_by
  have hle := commentLength?_le _h
  rw [List.length_drop] at hle ⊢
  omega

/-- How many characters stand before the next token of a tag: comments and gaps. -/
def fillerLength (s : Text) : Nat :=
  let n := commentsLength s
  n + ((s.drop n).takeWhile isGap).length

/-- **An attribute as written**: its name, the span of its value, and its own span. -/
structure WrittenAttribute where
  name : Text
  value : Span
  span : Span
  deriving DecidableEq, Repr

/-- The value that follows the `=` of an attribute: the span of its characters, the offset after it, and the rest.
Comments behind the opening quote are no part of the value, and where nothing follows them it is empty. -/
def readValue? (pos : Nat) : Text → Option (Span × Nat × Text)
  | [] => none
  | c :: s =>
    if c = '"' ∨ c = '\'' then
      let comments := commentsLength s
      let body := (s.drop comments).takeWhile (· ≠ c)
      match s.drop (comments + body.length) with
      | [] => none
      | _ :: rest =>
        let start := if body = [] then pos + 1 else pos + 1 + comments
        some (⟨start, start + body.length⟩, pos + comments + body.length + 2, rest)
    else
      let body := (c :: s).takeWhile isBareValueChar
      if body = [] then none
      else some (⟨pos, pos + body.length⟩, pos + body.length, (c :: s).drop body.length)

theorem readValue?_length {pos stop : Nat} {s rest : Text} {r : Span} (h : readValue? pos s = some (r, stop, rest)) :
    rest.length ≤ s.length := by
  unfold readValue? at h
  split at h
  · simp at h
  · rename_i c s
    split at h
    · dsimp only at h
      split at h
      · simp at h
      · rename_i x t heq
        simp only [Option.some.injEq, Prod.mk.injEq] at h
        have := congrArg List.length heq
        simp only [List.length_drop, List.length_cons] at this
        rw [← h.2.2, List.length_cons]
        omega
    · dsimp only at h
      split at h
      · simp at h
      · simp only [Option.some.injEq, Prod.mk.injEq] at h
        rw [← h.2.2]
        simp only [List.length_drop]
        omega

/-- The attribute that starts here: as written, the offset after it, and the rest. -/
def readAttribute? (pos : Nat) (s : Text) : Option (WrittenAttribute × Nat × Text) :=
  let name := s.takeWhile isAttributeNameChar
  let stop := pos + name.length
  let rest := s.drop name.length
  let before := fillerLength rest
  match rest.drop before with
  | '=' :: t =>
    let behind := fillerLength t
    match readValue? (stop + before + 1 + behind) (t.drop behind) with
    | none => none
    | some (r, after, t) => some (⟨name, r, ⟨pos, after⟩⟩, after, t)
  | _ => some (⟨name, ⟨stop, stop⟩, ⟨pos, stop⟩⟩, stop, rest)

theorem readAttribute?_length {pos stop : Nat} {s rest : Text} {a : WrittenAttribute}
    (h : readAttribute? pos s = some (a, stop, rest)) :
    rest.length ≤ s.length - (s.takeWhile isAttributeNameChar).length := by
  unfold readAttribute? at h
  simp only at h
  split at h
  · rename_i t heq
    split at h
    · simp at h
    · rename_i r after t' hv
      simp only [Option.some.injEq, Prod.mk.injEq] at h
      have h1 := readValue?_length hv
      have h2 := congrArg List.length heq
      simp only [List.length_drop, List.length_cons] at h1 h2
      rw [← h.2.2]
      omega
  · simp only [Option.some.injEq, Prod.mk.injEq] at h
    rw [← h.2.2]
    simp

/-- The attributes of a tag and how it closes: with `/>` or with `>`, the offset after it, and the rest. -/
def readAttributes? (pos : Nat) (s : Text) : Option (List WrittenAttribute × Bool × Nat × Text) :=
  let filler := fillerLength s
  let pos := pos + filler
  match h : s.drop filler with
  | '>' :: rest => some ([], false, pos + 1, rest)
  | '/' :: '>' :: rest => some ([], true, pos + 2, rest)
  | c :: t =>
    if _hc : isAttributeNameChar c then
      match _ha : readAttribute? pos (c :: t) with
      | none => none
      | some (a, stop, rest) =>
        match readAttributes? stop rest with
        | none => none
        | some (more, closed, stop, rest) => some (a :: more, closed, stop, rest)
    else none
  | [] => none
termination_by s.length
decreasing_by
  have h1 := readAttribute?_length _ha
  have h2 := congrArg List.length h
  simp only [List.length_drop, List.length_cons, List.takeWhile_cons, _hc, if_true] at h1 h2
  omega

structure StartTag where
  name : Text
  attributes : List WrittenAttribute
  closed : Bool
  deriving DecidableEq, Repr

/-- The start tag whose `<` stands just before `pos`: the tag, the offset after it, and the rest. -/
def readStartTag? (pos : Nat) (s : Text) : Option (StartTag × Nat × Text) :=
  let name := s.takeWhile isTagNameChar
  if name = [] then none
  else match readAttributes? (pos + name.length) (s.drop name.length) with
    | none => none
    | some (attributes, closed, stop, rest) => some (⟨name, attributes, closed⟩, stop, rest)

/-- The end tag whose `</` stands just before `pos`: whether its name follows directly, the name, the offset after the
tag, and the rest. -/
def readEndTag? (pos : Nat) (s : Text) : Option (Bool × Text × Nat × Text) :=
  let before := fillerLength s
  let t := s.drop before
  let name := t.takeWhile isTagNameChar
  let t := t.drop name.length
  let behind := fillerLength t
  if name = [] then none
  else match t.drop behind with
    | '>' :: rest => some (before == 0, name, pos + before + name.length + behind + 1, rest)
    | _ => none

end Template
end ViewAtlas
