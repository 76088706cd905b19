import ChangelogSql.Utility.Records.Word

/-!
From the words of a program for records to its tree. Names stand for places, and
a name stands for a table or for a single value wherever it is used.
-/

namespace ChangelogSql.Utility.Records.Grammar

open Text (ascii)
open Numeral

/-- What has been read of a program, and what has not. -/
structure Source where
  rest : List Lexeme
  globals : Array Bytes
  parameters : List Bytes
  functions : Array Bytes
  bodies : List (Nat × Function)
  /-- What variables are known to be: tables or not. -/
  kinds : List (Nat × Bool)
  /-- Calls with the lines that they stand in and how many arguments they have. -/
  calls : List (Nat × Nat × Nat)
  ranges : Nat
  /-- How many loops are around. -/
  loops : Nat
  isFunction : Bool
  isRule : Bool

/-- A step of reading. -/
abbrev Reader (α : Type) := ExceptT Fault (StateM Source) α

variable {α : Type}

def next : Reader Lexeme := do
  return (← get).rest.head?.getD ⟨.ended, 1⟩

def peek : Reader Word := do
  return (← next).word

/-- The word behind the next one. -/
def peekSecond : Reader Word := do
  return (((← get).rest[1]?).map Lexeme.word).getD .ended

def advance : Reader Unit :=
  modify fun source => { source with rest := source.rest.drop 1 }

def fail (problem : Problem) : Reader α := do
  throw ⟨(← next).line, problem⟩

/-- Complains about the next word, where a brace may have been closed that was not opened. -/
def refuseBrace : Reader α := do
  let line := (← next).line
  advance
  let following := (← next).word.shown
  let shown := if (← peek) = .ended then Word.lineEnd.shown else following
  throw ⟨line, .extraBrace shown⟩

/-- Complains about the next word. -/
def refuse : Reader α := do
  match ← peek with
  | .ended => fail .missingBrace
  | word => fail (.wrongWord word.shown)

def isSign (text : String) : Reader Bool := do
  return (← peek) = .sign text

/-- Goes on behind a sign, where it is next. -/
def take (text : String) : Reader Bool := do
  if ← isSign text then
    advance
    return true
  else return false

/-- Goes on behind a sign, which has to be next. -/
def expect (text : String) : Reader Unit := do
  if !(← take text) then refuse

/-- Goes on behind line ends. `fuel` bounds how many there are. -/
def skipLines : Nat → Reader Unit
  | 0 => pure ()
  | fuel + 1 => do
    if (← peek) = .lineEnd then
      advance
      skipLines fuel

/-- The place of a name. -/
def placeOf (name : Bytes) : Reader Place := do
  let source ← get
  match source.parameters.findIdx? (· = name) with
  | some index => return .parameter index
  | none =>
    match source.globals.findIdx? (· = name) with
    | some index => return .global index
    | none =>
      set { source with globals := source.globals.push name }
      return .global source.globals.size

/-- The place of a name that is used as a table or as a single value. -/
def placeAs (isTable : Bool) (name : Bytes) : Reader Place := do
  if (← get).functions.contains name && !(← get).parameters.contains name then
    fail (.wrongWord name)
  match ← placeOf name with
  | .global index =>
    match (← get).kinds.lookup index with
    | some known =>
      if known ≠ isTable then
        fail (if known then .notVariable name else .notTable name)
    | none => modify fun source => { source with kinds := (index, isTable) :: source.kinds }
    return .global index
  | place => return place

/-- The number of a function. -/
def functionOf (name : Bytes) : Reader Nat := do
  let source ← get
  match source.functions.findIdx? (· = name) with
  | some index => return index
  | none =>
    set { source with functions := source.functions.push name }
    return source.functions.size

/-- The expression that a source is. -/
def matcherOf (source : Bytes) : Reader Term := do
  match Matcher.ofBytes source with
  | .ok matcher => return .matcher matcher
  | .error refusal => fail (.badMatcher refusal source)

/-- Something can be assigned to. -/
def isTarget : Term → Bool
  | .variable _ | .element .. | .field _ => true
  | _ => false

/-- The sign of an assignment, and what is computed in it. -/
def assignment? : Word → Option (Option Arithmetic)
  | .sign "=" => some none
  | .sign "+=" => some (some .plus)
  | .sign "-=" => some (some .minus)
  | .sign "*=" => some (some .times)
  | .sign "/=" => some (some .quotient)
  | .sign "%=" => some (some .rest)
  | .sign "^=" => some (some .power)
  | _ => none

/-- A term can begin with the word, behind another one. -/
def beginsOperand : Word → Bool
  | .real _ | .text _ | .matcher _ | .name _ | .called _ | .builtin _ => true
  | .sign text => ["$", "!", "(", "++", "--"].contains text
  | _ => false

/-- Terms that stand on both sides of signs, from the left to the right. -/
def chain (operand : Reader Term) (joint? : Word → Option (Term → Term → Term)) :
    Nat → Term → Reader Term
  | 0, term => return term
  | fuel + 1, term => do
    match joint? (← peek) with
    | none => return term
    | some joint =>
      advance
      chain operand joint? fuel (joint term (← operand))

def sums : Word → Option (Term → Term → Term)
  | .sign "+" => some (.calculate .plus)
  | .sign "-" => some (.calculate .minus)
  | _ => none

def products : Word → Option (Term → Term → Term)
  | .sign "*" => some (.calculate .times)
  | .sign "/" => some (.calculate .quotient)
  | .sign "%" => some (.calculate .rest)
  | _ => none

/-- Comparisons; within what is printed, a sign that begins with a greater sign says where to. -/
def comparisons (isPrinted : Bool) : Word → Option (Term → Term → Term)
  | .sign "<" => some (.compare .less)
  | .sign "<=" => some (.compare .atMost)
  | .sign "==" => some (.compare .equal)
  | .sign "!=" => some (.compare .unequal)
  | .sign ">=" => if isPrinted then none else some (.compare .atLeast)
  | .sign ">" => if isPrinted then none else some (.compare .greater)
  | _ => none

def likenesses : Word → Option (Term → Term → Term)
  | .sign "~" => some (.isLike false)
  | .sign "!~" => some (.isLike true)
  | _ => none

def conjunctions : Word → Option (Term → Term → Term)
  | .sign "&&" => some .both
  | _ => none

def disjunctions : Word → Option (Term → Term → Term)
  | .sign "||" => some .either
  | _ => none

/-- The memberships behind a term. -/
def memberships : Nat → Term → Reader Term
  | 0, term => return term
  | fuel + 1, term => do
    if (← peek) = .keyword .in then
      advance
      match ← peek with
      | .name name =>
        advance
        memberships fuel (.isKey [term] (← placeAs true name))
      | _ => refuse
    else return term

mutual

/-- A term. Within what is printed some signs say where to. -/
def term : Nat → Bool → Reader Term
  | 0, _ => refuse
  | fuel + 1, isPrinted => do
    let first ← chain (conjunction fuel isPrinted) disjunctions fuel (← conjunction fuel isPrinted)
    if ← take "?" then
      skipLines fuel
      let second ← term fuel isPrinted
      skipLines fuel
      expect ":"
      skipLines fuel
      return .choose first second (← term fuel isPrinted)
    else return first

def conjunction : Nat → Bool → Reader Term
  | 0, _ => refuse
  | fuel + 1, isPrinted => do
    chain (membership fuel isPrinted) conjunctions fuel (← membership fuel isPrinted)

def membership : Nat → Bool → Reader Term
  | 0, _ => refuse
  | fuel + 1, isPrinted => do
    let likeness : Reader Term := do
      let pattern : Reader Term := do
        match ← peek, ← comparison fuel isPrinted with
        | .text _, .text source => matcherOf source
        | _, pattern => return pattern
      chain pattern likenesses fuel (← comparison fuel isPrinted)
    memberships fuel (← likeness)

def comparison : Nat → Bool → Reader Term
  | 0, _ => refuse
  | fuel + 1, isPrinted => do
    chain (operand fuel isPrinted) (comparisons isPrinted) fuel (← operand fuel isPrinted)

/-- A row of terms, or a single one with what is assigned to it. -/
def operand : Nat → Bool → Reader Term
  | 0, _ => refuse
  | fuel + 1, isPrinted => do
    let first ← additive fuel
    let joined ← row fuel first
    match assignment? (← peek), isTarget joined with
    | some arithmetic?, true =>
      advance
      skipLines fuel
      let value ← term fuel isPrinted
      match arithmetic? with
      | none => return .assign joined value
      | some arithmetic => return .update arithmetic joined value
    | _, _ => return joined

/-- Terms right behind one another; `before` has been read. -/
def row : Nat → Term → Reader Term
  | 0, _ => refuse
  | fuel + 1, before => do
    if beginsOperand (← peek) then
      let next ← additive fuel
      row fuel (.join before next)
    else return before

/-- The records of a command that are read. -/
def commands : Nat → Term → Reader Term
  | 0, _ => refuse
  | fuel + 1, before => do
    if (← peek) = .sign "|" && (← peekSecond) = .keyword .getline then
      advance
      advance
      let target? ← lineTarget fuel
      commands fuel (.readCommand before target?)
    else return before

def additive : Nat → Reader Term
  | 0 => refuse
  | fuel + 1 => do
    let product : Reader Term := do
      chain (signedTerm fuel) products fuel (← signedTerm fuel)
    chain product sums fuel (← product)

/-- A term with signs in front. -/
def signedTerm : Nat → Reader Term
  | 0 => refuse
  | fuel + 1 => do
    if ← take "!" then return .opposite (← signedTerm fuel)
    else if ← take "-" then return .signed true (← signedTerm fuel)
    else if ← take "+" then return .signed false (← signedTerm fuel)
    else
      let base ← powerTerm fuel
      commands fuel base

def powerTerm : Nat → Reader Term
  | 0 => refuse
  | fuel + 1 => do
    let base ← stepped fuel
    if ← take "^" then return .calculate .power base (← signedTerm fuel)
    else return base

/-- A term that can go up or down behind its use. -/
def stepped : Nat → Reader Term
  | 0 => refuse
  | fuel + 1 => do
    let inner ← primary fuel
    if isTarget inner then
      if ← take "++" then return .step false .plus inner
      else if ← take "--" then return .step false .minus inner
      else return inner
    else return inner

/-- Where a record goes that is read, where that is said. -/
def lineTarget : Nat → Reader (Option Term)
  | 0 => refuse
  | fuel + 1 => do
    match ← peek with
    | .name _ | .sign "$" => return some (← primary fuel)
    | _ => return none

/-- A term that nothing parts. -/
def primary : Nat → Reader Term
  | 0 => refuse
  | fuel + 1 => do
    match ← peek with
    | .real number =>
      advance
      return .real number
    | .text bytes =>
      advance
      return .text bytes
    | .matcher source =>
      let matcher ← matcherOf source
      advance
      return matcher
    | .name name =>
      if (← peekSecond) = .sign "[" then
        let place ← placeAs true name
        advance
        advance
        let subscripts ← terms fuel
        expect "]"
        return .element place subscripts
      else
        let place ← placeAs false name
        advance
        return .variable place
    | .called name => call fuel name
    | .builtin builtin => application fuel builtin
    | .keyword .getline =>
      advance
      let target? ← lineTarget fuel
      if ← take "<" then return .readFile (← primary fuel) target?
      else return .readNext target?
    | .sign "$" =>
      advance
      match ← peek with
      | .sign "-" | .sign "+" | .sign "!" => return .field (← signedTerm fuel)
      | .name name =>
        if name = Bytes.ofString "NF" then return .field (← stepped fuel)
        else return .field (← primary fuel)
      | _ => return .field (← primary fuel)
    | .sign "++" =>
      advance
      advanced fuel .plus
    | .sign "--" =>
      advance
      advanced fuel .minus
    | .sign "(" =>
      advance
      let inner ← terms fuel
      expect ")"
      match inner with
      | [.field number] => return .field number
      | [inner] => return .grouped inner
      | subscripts =>
        match ← peek, ← peekSecond with
        | .keyword .in, .name name =>
          advance
          let place ← placeAs true name
          advance
          return .isKey subscripts place
        | _, _ => refuse
    | _ => refuse

/-- A target that goes up or down before its use. -/
def advanced : Nat → Arithmetic → Reader Term
  | 0, _ => refuse
  | fuel + 1, arithmetic => do
    let inner ← primary fuel
    if isTarget inner then return .step true arithmetic inner else refuse

/-- Terms with commas between them. -/
def terms : Nat → Reader (List Term)
  | 0 => refuse
  | fuel + 1 => do
    let first ← term fuel false
    if ← take "," then return first :: (← terms fuel) else return [first]

/-- An argument: a name alone can be anything. -/
def argument : Nat → Reader Term
  | 0 => refuse
  | fuel + 1 => do
    match ← peek, ← peekSecond with
    | .name name, .sign "," | .name name, .sign ")" =>
      advance
      return .variable (← placeOf name)
    | _, _ => term fuel false

/-- Arguments up to a closing parenthesis. -/
def arguments : Nat → Reader (List Term)
  | 0 => refuse
  | fuel + 1 => do
    if ← take ")" then return []
    else
      let first ← argument fuel
      if ← take "," then return first :: (← arguments fuel)
      else
        expect ")"
        return [first]

/-- A call of a function of the program. -/
def call : Nat → Bytes → Reader Term
  | 0, _ => refuse
  | fuel + 1, name => do
    let line := (← next).line
    advance
    expect "("
    let function ← functionOf name
    let given ← arguments fuel
    modify fun source => { source with calls := (line, function, given.length) :: source.calls }
    return .call function given

/-- A call of a function that every program knows. -/
def application : Nat → Builtin → Reader Term
  | 0, _ => refuse
  | fuel + 1, builtin => do
    advance
    if ← take "(" then
      let given ← arguments fuel
      let (least, most) := builtin.bounds
      if given.length < least || most < given.length then
        fail (.wrongCount (Bytes.ofString builtin.name))
      match builtin, given with
      | .split, _ :: .variable (.global index) :: _ =>
        let name := ((← get).globals[index]?).getD []
        let _ ← placeAs true name
        return .apply builtin given
      | _, _ => return .apply builtin given
    else if builtin = .length then return .apply builtin []
    else refuse

end

/-- What ends a statement; a closing brace and the end of the program stay. -/
def terminator : Reader Unit := do
  match ← peek with
  | .sign ";" | .lineEnd => advance
  | .sign "\x7d" | .ended => pure ()
  | _ => refuse

def isTerminator : Reader Bool := do
  match ← peek with
  | .sign ";" | .lineEnd | .sign "\x7d" | .ended => return true
  | _ => return false

/-- Says where something is put out. -/
def channel? : Word → Option Channel
  | .sign ">" => some .file
  | .sign ">>" => some .extension
  | .sign "|" => some .command
  | _ => none

/-- Terms that are printed, with commas between them. -/
def printedTerms : Nat → Nat → Reader (List Term)
  | 0, _ => refuse
  | fuel + 1, depth => do
    let first ← term depth true
    if ← take "," then return first :: (← printedTerms fuel depth) else return [first]

/-- Terms in parentheses that are all that is printed, where there are such. -/
def parenthesized? (fuel : Nat) : Reader (Option (List Term)) := do
  let before ← get
  let attempt : Reader (Option (List Term)) := do
    expect "("
    let inner ← terms fuel
    expect ")"
    let isDone := (← isTerminator) || (channel? (← peek)).isSome
    return if isDone then some inner else none
  let found? ← tryCatch attempt fun _ => return none
  if found?.isNone then set before
  return found?

/-- What is printed. -/
def printed (fuel : Nat) : Reader (List Term) := do
  if (← isTerminator) || (channel? (← peek)).isSome then return []
  else
    match ← parenthesized? fuel with
    | some inner => return inner
    | none => printedTerms fuel fuel

/-- A print statement behind its word. -/
def print (fuel : Nat) (isFormatted : Bool) : Reader Statement := do
  let arguments ← printed fuel
  if isFormatted && arguments.isEmpty then refuse
  match channel? (← peek) with
  | none =>
    if ← isSign ">=" then fail (.wrongWord [ascii '='])
    return .print isFormatted arguments none
  | some channel =>
    advance
    let target ← term fuel true
    return .print isFormatted arguments (some (channel, target))

/-- A statement without anything nested in it, up to what ends it. -/
def simple (fuel : Nat) : Reader Statement := do
  match ← peek with
  | .keyword .print =>
    advance
    print fuel false
  | .keyword .printf =>
    advance
    print fuel true
  | .keyword .delete =>
    advance
    match ← peek with
    | .name name =>
      let place ← placeAs true name
      advance
      if ← take "[" then
        let subscripts ← terms fuel
        expect "]"
        return .erase place subscripts
      else return .clear place
    | _ => refuse
  | _ => return .evaluate (← term fuel false)

/-- A statement that is a keyword, which has to be within a loop. -/
def loopWord (keyword : Keyword) (statement : Statement) : Reader Statement := do
  if (← get).loops = 0 then fail (.outsideLoop (Word.keyword keyword).shown)
  advance
  terminator
  return statement

/-- Reads something that is within a loop. -/
def inLoop (body : Reader α) : Reader α := do
  modify fun source => { source with loops := source.loops + 1 }
  let result ← body
  modify fun source => { source with loops := source.loops - 1 }
  return result

/-- A condition in parentheses. -/
def condition (fuel : Nat) : Reader Term := do
  expect "("
  let inner ← term fuel false
  expect ")"
  skipLines fuel
  return inner

/-- The value behind a keyword, where there is one. -/
def value? (fuel : Nat) : Reader (Option Term) := do
  if ← isTerminator then return none
  else
    let value ← term fuel false
    return some value

mutual

/-- A statement with what ends it. -/
def statement : Nat → Reader Statement
  | 0 => refuse
  | fuel + 1 => do
    match ← peek with
    | .sign "\x7b" =>
      advance
      return .block (← block fuel)
    | .sign ";" | .lineEnd =>
      advance
      return .block []
    | .keyword .if =>
      advance
      let test ← condition fuel
      let first ← statement fuel
      let before ← get
      skipLines fuel
      if (← peek) = .keyword .else then
        advance
        skipLines fuel
        return .choose test first (some (← statement fuel))
      else
        set before
        return .choose test first none
    | .keyword .while =>
      advance
      let test ← condition fuel
      return .loop test (← inLoop (statement fuel))
    | .keyword .do =>
      advance
      skipLines fuel
      let body ← inLoop (statement fuel)
      skipLines fuel
      if (← peek) = .keyword .while then
        advance
        expect "("
        let test ← term fuel false
        expect ")"
        terminator
        return .loopAfter body test
      else refuse
    | .keyword .for =>
      advance
      expect "("
      forLoop fuel
    | .keyword .break => loopWord .break .stop
    | .keyword .continue => loopWord .continue .goOn
    | .keyword .next => nextWord .next
    | .keyword .nextFile => nextWord .nextFile
    | .keyword .exit =>
      advance
      let code? ← value? fuel
      terminator
      return .exit code?
    | .keyword .return =>
      if !(← get).isFunction then fail .outsideFunction
      advance
      let result? ← value? fuel
      terminator
      return .leave result?
    | _ =>
      let found ← simple fuel
      terminator
      return found
where
  /-- A statement that goes on with another record; that is for rules alone. -/
  nextWord (statement : Statement) : Reader Statement := do
    if !(← get).isRule then fail .misplacedNext
    advance
    terminator
    return statement

/-- Statements up to a closing brace. -/
def block : Nat → Reader (List Statement)
  | 0 => refuse
  | fuel + 1 => do
    match ← peek with
    | .sign "\x7d" =>
      advance
      return []
    | .ended => fail .missingBrace
    | .lineEnd =>
      advance
      block fuel
    | _ =>
      let first ← statement fuel
      return first :: (← block fuel)

/-- A loop behind its opening parenthesis. -/
def forLoop : Nat → Reader Statement
  | 0 => refuse
  | fuel + 1 => do
    match (← get).rest.map Lexeme.word with
    | .name key :: .keyword .in :: .name table :: .sign ")" :: _ =>
      let target ← placeAs false key
      let place ← placeAs true table
      modify fun source => { source with rest := source.rest.drop 4 }
      skipLines fuel
      return .forKeys (.variable target) place (← inLoop (statement fuel))
    | _ =>
      let start ← part fuel ";"
      expect ";"
      let test? ← if ← isSign ";" then pure none else some <$> term fuel false
      expect ";"
      let step ← part fuel ")"
      expect ")"
      skipLines fuel
      return .count start test? step (← inLoop (statement fuel))
where
  /-- A part of a loop that can be missing. -/
  part (fuel : Nat) (ending : String) : Reader Statement := do
    if ← isSign ending then return .block [] else simple fuel

end

/-- What stands between the braces of an action. -/
def action (fuel : Nat) (isRule isFunction : Bool) : Reader Statement := do
  expect "\x7b"
  modify fun source => { source with isRule, isFunction, loops := 0 }
  return .block (← block fuel)

/-- The names of parameters up to a closing parenthesis. -/
def parameters : Nat → Reader (List Bytes)
  | 0 => refuse
  | fuel + 1 => do
    match ← peek with
    | .sign ")" =>
      advance
      return []
    | .name name =>
      advance
      if ← take "," then return name :: (← parameters fuel)
      else
        expect ")"
        return [name]
    | _ => refuse

/-- A function behind its keyword. -/
def function (fuel : Nat) : Reader Unit := do
  match ← peek with
  | .name name | .called name =>
    let index ← functionOf name
    if ((← get).bodies.lookup index).isSome then fail (.definedTwice name)
    advance
    expect "("
    let names ← parameters fuel
    skipLines fuel
    modify fun source => { source with parameters := names }
    let body ← action fuel true true
    modify fun source =>
      { source with parameters := [], bodies := (index, ⟨names.length, body⟩) :: source.bodies }
  | _ => refuse

/-- What is done with a record where nothing is said. -/
def usual : Statement :=
  .print false [] none

/-- The next part of a program, which is added to the script. -/
def part (fuel : Nat) (script : Script) : Reader Script := do
  match ← peek with
  | .keyword .function =>
    advance
    function fuel
    return script
  | .keyword .begin =>
    advance
    let body ← action fuel false false
    return { script with beginnings := body :: script.beginnings }
  | .keyword .finish =>
    advance
    let body ← action fuel false false
    return { script with endings := body :: script.endings }
  | .sign "\x7d" => refuseBrace
  | .sign "\x7b" =>
    let body ← action fuel true false
    return { script with rules := ⟨.always, body⟩ :: script.rules }
  | _ =>
    let first ← term fuel false
    let pattern ←
      if ← take "," then do
        let last ← term fuel false
        let number := (← get).ranges
        modify fun source => { source with ranges := number + 1 }
        pure (Pattern.between number first last)
      else pure (Pattern.when first)
    let body ←
      if ← isSign "\x7b" then action fuel true false
      else do
        if !(← isTerminator) || (← isSign "\x7d") then refuse
        pure usual
    return { script with rules := ⟨pattern, body⟩ :: script.rules }

/-- The parts of a program. -/
def parts : Nat → Nat → Script → Reader Script
  | 0, _, script => return script
  | fuel + 1, depth, script => do
    match ← peek with
    | .ended => return script
    | .lineEnd | .sign ";" =>
      advance
      parts fuel depth script
    | _ =>
      let script ← part depth script
      parts fuel depth script

/-- What is wrong with the calls in a program. -/
def wrongCall? (source : Source) : Option Fault :=
  let last := (source.rest.getLast?.map Lexeme.line).getD 1
  source.calls.reverse.findSome? fun (line, function, count) =>
    let name := (source.functions[function]?).getD []
    match source.bodies.lookup function with
    | none => some ⟨last, .undefined name⟩
    | some found => if found.parameters < count then some ⟨line, .tooMany name⟩ else none

/-- The script that a program is. -/
def script (program : Bytes) : Except Fault Script := do
  let words ← lexemes (program.length + 1) program 1 .lineEnd []
  let fuel := 24 * words.length + 200
  let names := (Special.names.map fun entry => Bytes.ofString entry.1).toArray
  let kinds := (List.range names.size).map fun index =>
    (index, index = Special.environment.index || index = Special.arguments.index)
  let start : Source := ⟨words, names, [], #[], [], kinds, [], 0, 0, false, false⟩
  match (parts fuel fuel default).run start with
  | (.error fault, _) => throw fault
  | (.ok script, source) =>
    match wrongCall? source with
    | some fault => throw fault
    | none =>
      let functions := (List.range source.functions.size).map fun index =>
        (source.bodies.lookup index).getD ⟨0, .block []⟩
      return {
        beginnings := script.beginnings.reverse
        rules := script.rules.reverse
        endings := script.endings.reverse
        functions := functions.toArray
        globals := source.globals
        ranges := source.ranges }

end ChangelogSql.Utility.Records.Grammar
