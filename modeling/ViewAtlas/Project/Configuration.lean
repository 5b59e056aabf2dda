import ViewAtlas.Json.Relaxed
import ViewAtlas.Noted
import ViewAtlas.Project.Failure
/-!
# Configurations

A configuration is a relaxed document that says which files a project has.  It may extend others: each of its settings
is its own one, or else that of the last configuration it extends which has one.  A setting keeps the folder of the
configuration that states it.
-/
namespace ViewAtlas
namespace Project

open File (Disk Path)

/-- **The fields of a configuration file**; a document that is no record has none. -/
def load (d : Disk) (path : Text) : Except Failure Json.Value :=
  match d.read path with
  | .error (.absent .nul) => .error .nul
  | .error (.absent why) => .error (.unreadable path why)
  | .error .isFolder => .error (.isFolder path)
  | .error (.notUtf8 fault) => .error (.encoding path fault)
  | .ok s =>
    match Json.readRelaxed s with
    | .ok (.record fields) => .ok (.record fields)
    | .ok _ => .ok (.record [])
    | .error (.malformed fault) => .error (.notJson path (Json.strict s) fault)
    | .error (.long digits) => .error (.longNumber digits)

/-- **A setting**: its values, and the folder that their paths start from. -/
structure Setting where
  values : List Json.Value
  folder : Path

structure Settings where
  files : Option Setting
  includes : Option Setting
  excludes : Option Setting

namespace Settings

def none : Settings := ⟨.none, .none, .none⟩

def before (s t : Settings) : Settings :=
  ⟨s.files <|> t.files, s.includes <|> t.includes, s.excludes <|> t.excludes⟩

end Settings

/-- The paths at which an extended configuration may be.  A name that starts with a dot or a slash is a path from the
folder; any other is sought among the packages of the folder and of those above it. -/
def basePaths (folder : Path) (name : Text) : List Path :=
  let json := ".json".toList
  match name with
  | '.' :: _ | '/' :: _ => [folder.join (.ofText name), folder.join (.ofText (name ++ json))]
  | _ =>
    folder.upward.flatMap fun f =>
      let package := (f.join (.ofText "node_modules".toList)).join (.ofText name)
      [package, .ofText (package.text ++ json), package.join (.ofText "tsconfig.json".toList)]

/-- Whether there is a file at a path, if that can be told. -/
def findFile (d : Disk) (p : Path) : Except Failure Bool :=
  if d.isTooLong p.text then .error .tooLong else .ok (d.isFile p.text)

/-- **Where an extended configuration is**: at the first of its paths with a file. -/
def basePath? (d : Disk) (folder : Path) (name : Text) : Except Failure (Option Path) := do
  return (← (basePaths folder name).findM? (findFile d)).map Path.normal

/-- The names of the configurations that one extends: one name, or several. -/
def baseNames (config : Json.Value) : Except Failure (List Json.Value) :=
  match config.field "extends" with
  | .text name => .ok (if name = [] then [] else [.text name])
  | v =>
    if v.isGiven then
      match v.items? with
      | some names => .ok names
      | none => .error .notAList
    else .ok []

def ownSetting (folder : Path) (config : Json.Value) (name : String) : Except Failure (Option Setting) :=
  match config.field name with
  | .null => .ok none
  | v =>
    match v.items? with
    | some values => .ok (some ⟨values, folder⟩)
    | none => .error .notAList

def ownSettings (folder : Path) (config : Json.Value) : Except Failure Settings := do
  let files ← ownSetting folder config "files"
  let includes ← ownSetting folder config "include"
  let excludes ← ownSetting folder config "exclude"
  return ⟨files, includes, excludes⟩

/-- How many of the files of a disk are not in a chain. -/
def remaining (d : Disk) (chain : List Path) : Nat := (d.filePaths.filter fun p => !chain.contains p).length

theorem length_filter_lt {α : Type} (p q : α → Bool) (l : List α) (hpq : ∀ x, p x = true → q x = true) {a : α}
    (ha : a ∈ l) (hp : p a = false) (hq : q a = true) : (l.filter p).length < (l.filter q).length := by
  rw [← List.countP_eq_length_filter, ← List.countP_eq_length_filter]
  induction l with
  | nil => simp at ha
  | cons b l ih =>
    have hle : l.countP p ≤ l.countP q := List.countP_mono_left fun x _ => hpq x
    rcases List.mem_cons.1 ha with rfl | ha
    · simp [hp, hq]
      omega
    · have := ih ha
      by_cases hb : p b = true
      · simp [hb, hpq b hb, this]
      · by_cases hb' : q b = true <;> simp [hb, hb'] <;> omega

theorem remaining_append {d : Disk} {chain : List Path} {p : Path} (hp : p ∈ d.filePaths) (hc : p ∉ chain) :
    remaining d (chain ++ [p]) < remaining d chain := by
  apply length_filter_lt _ _ _ _ hp
  · simp
  · simpa using hc
  · intro x hx
    simp at hx ⊢
    exact hx.1

/-- **The settings of a configuration and those that it extends.**  `chain` holds the configurations that led here,
and no configuration may extend one of them. -/
def resolve (d : Disk) (chain : List Path) (path : Path) : Noted Failure Settings :=
  if _hc : path ∈ chain then .fail (.circular ((chain ++ [path]).map Path.text))
  else do
    let config ← .ofExcept (load d path.text)
    if _hp : path ∈ d.filePaths then
      let names ← .ofExcept (baseNames config)
      let inherited ← names.foldlM
        (fun settings name =>
          match name with
          | .text name =>
            match basePath? d path.folder name with
            | .error why => .fail why
            | .ok none => do
              .note (.baseUnresolved name path.text)
              return settings
            | .ok (some base) => do
              let s ← resolve d (chain ++ [path]) base
              return s.before settings
          | _ => .fail .baseNotText)
        Settings.none
      let own ← .ofExcept (ownSettings path.folder config)
      return own.before inherited
    else return .none
termination_by remaining d chain
decreasing_by exact remaining_append _hp _hc

end Project
end ViewAtlas
