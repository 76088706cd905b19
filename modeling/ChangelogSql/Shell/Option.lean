import ChangelogSql.Shell.State

/-!
Options: those that commands of the shell take in front of their operands, and
those of the shell itself.
-/

namespace ChangelogSql.Shell

open Text (ascii)

/-- An option that was given, with the value that belongs to it. -/
abbrev GivenOption := Char × Bytes

/-- A text with an option's letter that is not known or lacks its value. -/
def optionComplaint (known : Bool) (letter : UInt8) : Bytes :=
  if known then Bytes.ofString "No arg for -" ++ letter :: Bytes.ofString " option"
  else Bytes.ofString "Illegal option -" ++ [letter]

/-- The options in front of operands. `plain` are the letters of those without a value, `valued` of
those with one. -/
def readOptions (plain valued : String) : Nat → List Bytes → Work (List GivenOption × List Bytes)
  | 0, arguments => return ([], arguments)
  | fuel + 1, arguments => do
    match arguments with
    | (0x2D :: letter :: letters) :: rest =>
      if letter = ascii '-' && letters = [] then return ([], rest)
      else
        let c := Char.ofNat letter.toNat
        if plain.contains c then
          let further := if letters = [] then rest else (0x2D :: letters) :: rest
          let isSeparate := letters = [ascii '-']
          let (given, operands) ←
            if isSeparate then Work.fail (optionComplaint false (ascii '-'))
            else readOptions plain valued fuel further
          return ((c, []) :: given, operands)
        else if valued.contains c then
          if letters ≠ [] then
            let (given, operands) ← readOptions plain valued fuel rest
            return ((c, letters) :: given, operands)
          else
            match rest with
            | [] => Work.fail (optionComplaint true letter)
            | value :: rest =>
              let (given, operands) ← readOptions plain valued fuel rest
              return ((c, value) :: given, operands)
        else Work.fail (optionComplaint false letter)
    | arguments => return ([], arguments)

/-- The options in front of the operands of a command. -/
def optionsOf (plain valued : String) (arguments : List Bytes) :
    Work (List GivenOption × List Bytes) :=
  readOptions plain valued (Numeral.total (arguments.map List.length) + arguments.length + 1) arguments

/-- The operands of a command that has no options. -/
def operandsOf (arguments : List Bytes) : Work (List Bytes) :=
  Prod.snd <$> optionsOf "" "" arguments

/-- The number that an operand writes, which must not be negative or too large. -/
def numberOf (word : Bytes) : Work Nat := do
  match count? word with
  | some number => return number
  | none => Work.failNumber word

/-- The options of the shell by their names; some have no letter. -/
def shellOptions : List (String × Option Char) :=
  [("errexit", some 'e'), ("noglob", some 'f'), ("ignoreeof", some 'I'), ("interactive", some 'i'),
    ("monitor", some 'm'), ("noexec", some 'n'), ("stdin", some 's'), ("xtrace", some 'x'),
    ("verbose", some 'v'), ("vi", some 'V'), ("emacs", some 'E'), ("noclobber", some 'C'),
    ("allexport", some 'a'), ("notify", some 'b'), ("nounset", some 'u'), ("nolog", none),
    ("debug", none)]

namespace Work

/-- Sets or unsets an option by its letter. -/
def setOption (letter : UInt8) (value : Bool) : Work Unit := do
  let isKnown := shellOptions.any fun entry => entry.2.any fun c => ascii c = letter
  unless isKnown do
    fail (Bytes.ofString "Illegal option -" ++ [letter])
  modify fun state =>
    let others := state.options.filter (· ≠ letter)
    { state with options := if value then letter :: others else others }

/-- Sets or unsets an option by its name. -/
def setNamedOption (name : Bytes) (value : Bool) : Work Unit := do
  match shellOptions.find? fun entry => Bytes.ofString entry.1 = name with
  | some (_, some letter) => setOption (ascii letter) value
  | some (_, none) => return ()
  | none => fail (Bytes.ofString "Illegal option -o " ++ name)

/-- Lists the options, for people or as commands that set them. -/
def listOptions (forPeople : Bool) : Work Unit := do
  let state ← get
  if forPeople then
    put (Bytes.ofString "Current option settings\n")
  for (name, letter?) in shellOptions do
    let isSet := letter?.any state.has
    if forPeople then
      let gap := String.ofList (List.replicate (16 - name.length) ' ')
      put (Bytes.ofString (name ++ gap ++ (if isSet then "on\n" else "off\n")))
    else
      put (Bytes.ofString ((if isSet then "set -o " else "set +o ") ++ name ++ "\n"))

end Work

/-- What a row of option letters leads to: the letters one by one, with the words that follow. -/
def setLetters (isMain value : Bool) : Bytes → List Bytes → Work (List Bytes × Bool)
  | [], rest => return (rest, false)
  | letter :: letters, rest => do
    if letter = ascii 'c' && isMain then
      let (rest, _) ← setLetters isMain value letters rest
      return (rest, true)
    else if letter = ascii 'l' && isMain then
      setLetters isMain value letters rest
    else if letter = ascii 'o' then
      match rest with
      | [] =>
        Work.listOptions value
        setLetters isMain value letters []
      | name :: rest =>
        Work.setNamedOption name value
        setLetters isMain value letters rest
    else
      Work.setOption letter value
      setLetters isMain value letters rest

/-- What option words have led to. -/
structure OptionWords where
  rest : List Bytes
  /-- The script is the next word itself. -/
  isText : Bool
  /-- The words ended with two dashes, and nothing follows. -/
  clears : Bool

/-- Sets options as the words up front say. -/
def setOptions (isMain : Bool) : Nat → List Bytes → Work OptionWords
  | 0, words => return ⟨words, false, false⟩
  | fuel + 1, words => do
    match words with
    | [0x2D] :: rest =>
      unless isMain do
        modify fun state =>
          { state with
            options := state.options.filter fun letter =>
              letter ≠ ascii 'x' && letter ≠ ascii 'v' }
      return ⟨rest, false, false⟩
    | [0x2D, 0x2D] :: rest => return ⟨rest, false, !isMain && rest.isEmpty⟩
    | (0x2D :: letters) :: rest =>
      let (rest, isText) ← setLetters isMain true letters rest
      let words ← setOptions isMain fuel rest
      return { words with isText := words.isText || isText }
    | (0x2B :: letters) :: rest =>
      let (rest, isText) ← setLetters isMain false letters rest
      let words ← setOptions isMain fuel rest
      return { words with isText := words.isText || isText }
    | words => return ⟨words, false, false⟩

end ChangelogSql.Shell
