import ViewAtlas.Text.Printable
/-!
# Options on command lines

The words of a command line are options, the values of options, and operands.  A long option may be cut short as long
as one option alone begins that way, and takes its value after `=` or as the next word; short ones may be joined in
one word, the last with its value.  After `--` all words are operands.
-/
namespace ViewAtlas
namespace CommandLine

inductive Effect where
  | help
  | switch
  /-- It takes a value: one of the choices, or any when there are none. -/
  | value (choices : List Text)
  deriving DecidableEq, Repr

/-- **An option**, by its spellings. -/
structure Opt where
  spellings : List Text
  effect : Effect
  deriving DecidableEq, Repr

/-- **What a command takes besides options.** -/
inductive Operand where
  | none
  | one (name : Text)
  /-- A word and all words after it. -/
  | rest
  deriving DecidableEq, Repr

/-- **The form of a command line.** -/
structure Form where
  options : List Opt
  operand : Operand

/-- **Why the words of a command line are not taken.** -/
inductive Stop where
  | help
  | mistake (message : Text)
  deriving DecidableEq, Repr

/-- **What the words of a command line say**: the options in order, each with its value, the operands, and the words
that mean nothing. -/
structure Reading where
  given : List (Opt × Text)
  operands : Option (List Text)
  extras : List Text

/-! ## Words -/

/-- A value in the word of its option: whether after `=`, and the value. -/
structure Attached where
  byEquals : Bool
  value : Text

inductive Word where
  | operand
  | dashes
  | option (o : Opt) (spelling : Text) (attached : Option Attached)
  | unknown

def Form.spelled (f : Form) : List (Text × Opt) := f.options.flatMap fun o => o.spellings.map fun s => (s, o)

def Form.option? (f : Form) (spelling : Text) : Option Opt := (f.spelled.find? fun e => e.1 = spelling).map (·.2)

def cutAtEquals (word : Text) : Option (Text × Text) :=
  match word.dropWhile (· ≠ '=') with
  | [] => none
  | _ :: value => some (word.takeWhile (· ≠ '='), value)

/-- The options that a word may mean when it spells none out. -/
def Form.candidates (f : Form) (word : Text) : List (Text × Word) :=
  if "--".toList.isPrefixOf word then
    let (start, attached) : Text × Option Attached :=
      match cutAtEquals word with
      | some (start, value) => (start, some ⟨true, value⟩)
      | none => (word, none)
    (f.spelled.filter fun e => start.isPrefixOf e.1).map fun e => (e.1, .option e.2 e.1 attached)
  else
    f.spelled.filterMap fun e =>
      if e.1 = word.take 2 then some (e.1, .option e.2 e.1 (some ⟨false, word.drop 2⟩))
      else if word.isPrefixOf e.1 then some (e.1, .option e.2 e.1 none)
      else none

def isNegativeNumber (word : Text) : Bool :=
  match word with
  | '-' :: s =>
    let rest := s.dropWhile Char.isDigit
    match rest with
    | [] => !s.isEmpty
    | '.' :: fraction => !fraction.isEmpty && fraction.all Char.isDigit
    | _ => false
  | _ => false

/-- What a word that spells no option out is, when no option or one option can be meant by it. -/
def Form.guess (f : Form) (word : Text) : Except Stop Word :=
  match f.candidates word with
  | [] => .ok (if isNegativeNumber word || word.contains ' ' then .operand else .unknown)
  | [c] => .ok c.2
  | cs =>
    .error (.mistake ("ambiguous option: ".toList ++ word ++ " could match ".toList ++
      Text.joinWith ", ".toList (cs.map (·.1))))

def Form.wordOf (f : Form) (word : Text) : Except Stop Word :=
  if word.head? ≠ some '-' then .ok .operand
  else
    match f.option? word with
    | some o => .ok (.option o word none)
    | none =>
      if word = ['-'] then .ok .operand
      else
        match cutAtEquals word with
        | some (start, value) =>
          match f.option? start with
          | some o => .ok (.option o start (some ⟨true, value⟩))
          | none => f.guess word
        | none => f.guess word

def Form.wordsOf (f : Form) : List Text → Except Stop (List (Text × Word))
  | [] => .ok []
  | w :: ws =>
    if w = "--".toList then .ok ((w, .dashes) :: ws.map fun w => (w, .operand))
    else do
      let word ← f.wordOf w
      return (w, word) :: (← f.wordsOf ws)

/-! ## Options with their values -/

def Opt.mistake (o : Opt) (message : Text) : Stop :=
  .mistake ("argument ".toList ++ Text.joinWith ['/'] o.spellings ++ ": ".toList ++ message)

def Opt.takesValue (o : Opt) : Bool :=
  match o.effect with
  | .value _ => true
  | _ => false

/-- **What one word says**: options, what is left of the word and means nothing, and an option that may have its value
in the next word. -/
structure Joined where
  given : List (Opt × Text)
  extras : List Text
  last : Option Opt

/-- What a word says whose first option is `o` and goes on with a value. -/
def Form.joined (f : Form) (o : Opt) (spelling : Text) (byEquals : Bool) (value : Text) : Except Stop Joined :=
  if o.takesValue then .ok ⟨[(o, value)], [], none⟩
  else
    match value with
    | [] => .error (o.mistake ("ignored explicit argument ".toList ++ Text.quoted value))
    | c :: more =>
      if "--".toList.isPrefixOf spelling || byEquals || c = '-' then
        .error (o.mistake ("ignored explicit argument ".toList ++ Text.quoted value))
      else
        match f.option? ['-', c] with
        | none => .ok ⟨[(o, [])], ['-' :: value], none⟩
        | some next =>
          match more with
          | [] => .ok ⟨[(o, [])], [], some next⟩
          | '=' :: more => (f.joined next ['-', c] true more).map fun j => { j with given := (o, []) :: j.given }
          | d :: more => (f.joined next ['-', c] false (d :: more)).map fun j => { j with given := (o, []) :: j.given }
termination_by value.length

/-- Options taken in order: help is given at once, and a value has to be one of the choices. -/
def perform : List (Opt × Text) → Except Stop Unit
  | [] => .ok ()
  | (o, value) :: rest =>
    match o.effect with
    | .help => .error .help
    | .switch => perform rest
    | .value choices =>
      if choices = [] ∨ value ∈ choices then perform rest
      else
        .error (o.mistake ("invalid choice: ".toList ++ Text.quoted value ++ " (choose from ".toList ++
          Text.joinWith ", ".toList (choices.map Text.quoted) ++ [')']))

/-! ## Command lines -/

/-- The words after an operand: a `--` that follows it belongs to it. -/
def afterOperand : List (Text × Word) → List (Text × Word)
  | (_, .dashes) :: rest => rest
  | rest => rest

theorem length_afterOperand (ws : List (Text × Word)) : (afterOperand ws).length ≤ ws.length := by
  unfold afterOperand
  split
  · exact Nat.le_succ _
  · exact Nat.le_refl _

def Form.said (f : Form) (o : Opt) (spelling : Text) : Option Attached → Except Stop Joined
  | none => .ok ⟨[], [], some o⟩
  | some a => f.joined o spelling a.byEquals a.value

def Form.take (f : Form) (r : Reading) (ws : List (Text × Word)) : Except Stop Reading :=
  match ws with
  | [] => .ok r
  | (w, .unknown) :: rest => f.take { r with extras := r.extras ++ [w] } rest
  | (w, .operand) :: rest =>
    match f.operand, r.operands with
    | .one _, none => f.take { r with operands := some [w] } (afterOperand rest)
    | .rest, none => .ok { r with operands := some (w :: rest.map (·.1)) }
    | _, _ => f.take { r with extras := r.extras ++ [w] } rest
  | (w, .dashes) :: rest =>
    match rest with
    | [] => .ok { r with extras := r.extras ++ [w] }
    | (v, k) :: rest =>
      match f.operand, r.operands with
      | .one _, none => f.take { r with operands := some [v] } rest
      | .rest, none => .ok { r with operands := some (w :: v :: rest.map (·.1)) }
      | _, _ => f.take { r with extras := r.extras ++ [w] } ((v, k) :: rest)
  | (_, .option o spelling attached) :: rest =>
    match f.said o spelling attached with
    | .error s => .error s
    | .ok j =>
      let r := { r with given := r.given ++ j.given, extras := r.extras ++ j.extras }
      match j.last with
      | none => do
        perform j.given
        f.take r rest
      | some last =>
        if last.takesValue then
          match rest with
          | (value, .operand) :: rest => do
            perform (j.given ++ [(last, value)])
            f.take { r with given := r.given ++ [(last, value)] } rest
          | _ => .error (last.mistake "expected one argument".toList)
        else do
          perform (j.given ++ [(last, [])])
          f.take { r with given := r.given ++ [(last, [])] } rest
termination_by ws.length
decreasing_by
  all_goals simp only [List.length_cons]
  all_goals try have := length_afterOperand rest
  all_goals omega

/-- **The reading of a command line.** -/
def Form.read (f : Form) (words : List Text) : Except Stop Reading := do
  let ws ← f.wordsOf words
  let r ← f.take ⟨[], none, []⟩ ws
  match f.operand, r.operands with
  | .one name, none => throw (.mistake ("the following arguments are required: ".toList ++ name))
  | _, _ => return r

namespace Reading

def has (r : Reading) (spelling : String) : Bool := r.given.any fun g => g.1.spellings.contains spelling.toList

/-- The value of an option that is given; the last one counts. -/
def value? (r : Reading) (spelling : String) : Option Text :=
  ((r.given.filter fun g => g.1.spellings.contains spelling.toList).getLast?).map (·.2)

/-- The value of an option, unless it is not given or empty. -/
def text? (r : Reading) (spelling : String) : Option Text :=
  match r.value? spelling with
  | none | some [] => none
  | some t => some t

end Reading

end CommandLine
end ViewAtlas
