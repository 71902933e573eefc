import GuardedCnf.Script.Redirection
/-! # Settings — variables that commands set

    A setting expands its value and gives it to a variable, or to one or all of its
    items.  Settings before a command last as long as that command runs. -/

namespace GuardedCnf.Script

/-- Runs steps, and others afterwards even if the first ones do not get to
    their end. -/
def andFinally (x after : Step Unit) : Step Unit := do
  tryCatch x fun jump => do
    after
    throw jump
  after

/-- Sets a variable back to what it was. -/
def restoreVar (name : String) (old : Option Variable) : Step Unit := modify fun s =>
  let others := s.vars.filter (·.name != name)
  { s with vars := match old with
    | some v => v :: others
    | none => others }

/-- The value of a variable in a command. -/
def settingText (run : Run) (word : Word) : Step String := do
  return Glyph.plain (← glyphs run false (withHome (← get) true word))

/-- The items that a list of words stands for, with their keys: the ones without key
    are numbered from a position on. -/
def itemsFrom (run : Run) (name : String) : Nat → List (Option Word × Word) →
    Step (List (String × String))
  | _, [] => return []
  | position, (none, word) :: rest => do
      let fields ← fieldsOf run [word]
      let items := fields.zipIdx.map fun (text, n) => (toString (position + n), text)
      return items ++ (← itemsFrom run name (position + fields.length) rest)
  | position, (some key, word) :: rest => do
      let key ← keyOf name (Glyph.plain (← glyphs run true key))
      let text ← settingText run word
      return (key, text) :: (← itemsFrom run name ((key.toNat?.getD position) + 1) rest)

/-- Sets the items of a variable, after those that are there if they are added. -/
def setItems (run : Run) (name : String) (adds : Bool) (items : List (Option Word × Word)) :
    Step Unit := do
  checkFixed name
  let v := ((← get).var? name).getD (.plain name none)
  let old := if adds then v.allItems else []
  let shape := if v.shape = .keyed then .keyed else .listed
  let first := (old.filterMap fun item => item.1.toNat?).foldl (fun m n => max m (n + 1)) 0
  let new ← itemsFrom run name (if shape = .keyed then 0 else first) items
  modify fun s => s.change name fun v => v.withItems shape old
  for (key, text) in new do
    let text ← storedText name text
    modify fun s => s.change name fun v => v.setItem key text

/-- Makes a setting, and tells what was set. -/
def makeSetting (run : Run) (s : Setting Word) : Step String := do
  match s.value with
  | [.items items] => do
      setItems run s.name s.adds items
      return s.name ++ "=(" ++ " ".intercalate (((← get).itemsOf s.name).map fun item => Quoting.quotedIfNeeded item.2) ++ ")"
  | word => do
      let text ← settingText run word
      work (text.utf8ByteSize / 2)
      let key ← match s.index with
        | some index => do pure (some (← keyOf s.name (Glyph.plain (← glyphs run true index))))
        | none => pure none
      match key, s.adds with
      | key, true => assignMore s.name key text
      | some key, false => assignItem s.name key text
      | none, false => assign s.name text
      let shown := if (← get).extended then Quoting.quotedIfNeeded text else text
      return s.name ++ (key.map fun key => "[" ++ key ++ "]").getD "" ++ (if s.adds then "+=" else "=")
        ++ if text.isEmpty then "" else shown

/-- Makes settings for good, and tells what was set. -/
def setAll (run : Run) : List (Setting Word) → Step (List String)
  | [] => return []
  | s :: settings => do
      let shown ← makeSetting run s
      return shown :: (← setAll run settings)

/-- Makes settings as long as steps run that get what was set. -/
def withSettings (run : Run) (f : List String → Step Unit) :
    List (Setting Word) → List String → Step Unit
  | [], shown => f shown.reverse
  | s :: settings, shown => do
      let old := (← get).var? s.name
      let text ← makeSetting run s
      modify fun t => t.change s.name fun v => { v with exported := true }
      andFinally (withSettings run f settings (text :: shown)) (restoreVar s.name old)

/-! ## Words of commands. -/

/-- The builtins whose arguments set variables. -/
def settingBuiltins : List String := ["export", "local", "readonly", "declare", "typeset"]

/-- The fields of arguments that may set variables, and the lists that are set after
    them. -/
def settingFields (run : Run) : List Word → Step (List String × List (Setting Word))
  | [] => return ([], [])
  | word :: words => do
      let extended := (← get).extended
      let (fields, lists) ← match Reader.setting? extended word with
        | some s => do
            match s.value with
            | [.items _] => pure ([s.name], [s])
            | value =>
                if s.index.isSome then pure ((← fieldsOf run [word]), [])
                else
                  let text ← settingText run value
                  pure ([s.name ++ (if s.adds then "+=" else "=") ++ text], [])
        | none => do pure ((← fieldsOf run [word]), [])
      let (more, others) ← settingFields run words
      return (fields ++ more, lists ++ others)

/-- The fields of the words of a command, and the lists that are set after it. -/
def commandFields (run : Run) : List Word → Step (List String × List (Setting Word))
  | [] => return ([], [])
  | word :: words => do
      match ← fieldsOf run [word] with
      | [] => commandFields run words
      | name :: fields =>
          let (rest, lists) ← if settingBuiltins.contains name then settingFields run words
            else do pure ((← fieldsOf run words), [])
          return (name :: (fields ++ rest), lists)

end GuardedCnf.Script
