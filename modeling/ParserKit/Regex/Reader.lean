import ParserKit.Regex.Syntax
import ParserKit.Text.Hexadecimal

/-!
# Reading patterns

The text of a pattern, read into an expression. Letters and most marks stand for themselves;
`. ^ $ | ( ) [ * + ? { \` do not. A group can set flags for the text inside it, and flags set in
the middle of a group hold to its end, also in the alternatives that follow.

A pattern that breaks a rule has no expression: a bracket without its partner, a repetition of
nothing, a range or a count the wrong way round, an unknown escape, class or flag, two groups of
one name, a condition on text further off, a reference to a group, or nesting beyond
`maxNesting`.

## Main definitions

* `Flags`: how letters, dots, anchors and repetitions are read
* `Reader`, `Read`: the rest of the pattern, and steps that read it
* `readClass`: a bracketed class
* `readItems`: alternatives, up to the end or to a closing bracket
* `Expr.ofPattern?`: the expression of a whole pattern
-/

namespace ParserKit.Regex

open Text

/-- The flags under which a part of a pattern is read. -/
structure Flags where
  /-- Letters match in either case. -/
  caseless : Bool := false
  /-- `^` and `$` match at lines. -/
  multiline : Bool := false
  /-- `.` matches the end of a line. -/
  dotAll : Bool := false
  /-- Repetitions are lazy, and greedy with a `?`. -/
  swapGreed : Bool := false
  /-- Classes and case go beyond the ASCII range. -/
  unicode : Bool := true
  /-- A carriage return ends a line too. -/
  crlf : Bool := false
  /-- Blanks and comments in the pattern are skipped. -/
  verbose : Bool := false

/-- A pattern while it is read. -/
structure Reader where
  /-- What is still to be read. -/
  rest : List Char
  /-- The flags that hold here. -/
  flags : Flags := {}
  /-- The names of groups so far. -/
  names : List String := []

/-- Steps of reading; they stop where the pattern breaks a rule. -/
abbrev Read := StateT Reader Option

/-! ## Single steps -/

/-- Drop blanks, and comments up to the end of their line. -/
def dropBlanks (inComment : Bool) : List Char → List Char
  | [] => []
  | c :: cs =>
    if inComment then dropBlanks (c != '\n') cs
    else if isBlank c then dropBlanks false cs
    else if c == '#' then dropBlanks true cs
    else c :: cs

namespace Read

/-- The flags that hold here. -/
def flags : Read Flags := return (← get).flags

/-- Change the flags. -/
def setFlags (flags : Flags) : Read Unit := modify fun r => { r with flags }

/-- The next character, if there is one. -/
def peek? : Read (Option Char) := return (← get).rest.head?

/-- The next character. -/
def peek : Read Char := do
  match (← get).rest with
  | c :: _ => return c
  | [] => failure

/-- Pass over one character. -/
def bump : Read Unit := modify fun r => { r with rest := r.rest.drop 1 }

/-- Pass over blanks and comments, where they do not count. -/
def skip : Read Unit :=
  modify fun r => if r.flags.verbose then { r with rest := dropBlanks false r.rest } else r

/-- Pass over one character and the blanks behind it. -/
def bumpSkip : Read Unit := do bump; skip

/-- Pass over `text` if it comes next. -/
def accept (text : String) : Read Bool := do
  let r ← get
  if text.toList.isPrefixOf r.rest then
    set { r with rest := r.rest.drop text.length }
    return true
  else return false

/-- The character behind the next one, blanks aside. -/
def peekBehind? : Read (Option Char) := do
  let r ← get
  let behind := r.rest.drop 1
  return (if r.flags.verbose then dropBlanks false behind else behind).head?

/-- Require a condition. -/
def require (b : Bool) : Read Unit := if b then pure () else failure

/-- Read characters for as long as they are accepted, skipping blanks behind each. -/
def takeWhile (accepts : Char → Bool) : Nat → List Char → Read (List Char)
  | 0, taken => return taken.reverse
  | bound + 1, taken => do
    match ← peek? with
    | some c =>
      if accepts c then
        bumpSkip
        takeWhile accepts bound (c :: taken)
      else return taken.reverse
    | none => return taken.reverse

/-- As many steps as there are characters left. -/
def bound : Read Nat := return (← get).rest.length

end Read

open Read

/-! ## Sets under flags -/

/-- The complement of a set: within all characters, or within single bytes. -/
def Flags.negate (f : Flags) (s : CharSet) : CharSet :=
  if f.unicode then s.complement else s.complement.inter ⟨[(0x00, 0xff)]⟩

/-- The closure of a set under change of case, if case does not count. -/
def Flags.fold (f : Flags) (s : CharSet) : CharSet :=
  if f.caseless then (if f.unicode then s.foldCase else s.foldAscii) else s

/-- The closure under change of case, then the complement if asked for. -/
def Flags.foldNegate (f : Flags) (negated : Bool) (s : CharSet) : CharSet :=
  let s := f.fold s
  if negated then f.negate s else s

/-- The expression of a set; without Unicode a set has to stay in the ASCII range. -/
def Flags.setExpr (f : Flags) (s : CharSet) : Option Expr :=
  if f.unicode || s.isAscii then some (.set s) else none

/-! ## Escapes -/

/-- What a single sign of a pattern stands for. -/
inductive Primitive where
  /-- A character; `byte` if it was written as a two-digit code. -/
  | literal (c : Char) (byte : Bool)
  /-- A set of characters. -/
  | set (s : CharSet)
  /-- The dot. -/
  | dot
  /-- A condition. -/
  | look (l : Look)

/-- The character with the code that the digits spell. -/
def charOfHex? (digits : List Char) : Option Char := do
  let code := (digits.filterMap hexValue?).foldl (fun acc d => acc * 16 + d) 0
  if digits.isEmpty then none
  else if h : code.isValidChar then some (Char.ofNatAux code h)
  else none

/-- Exactly `count` hexadecimal digits. -/
def readHexDigits : Nat → Read (List Char)
  | 0 => return []
  | count + 1 => do
    let c ← peek
    require (hexValue? c).isSome
    bumpSkip
    return c :: (← readHexDigits count)

/-- A character by its code, behind `x`, `u` or `U`. -/
def readHex : Read Primitive := do
  let kind ← peek
  bumpSkip
  if (← peek) == '{' then
    bumpSkip
    let digits ← takeWhile (fun c => (hexValue? c).isSome) (← bound) []
    require ((← peek) == '}')
    bumpSkip
    return .literal (← charOfHex? digits) false
  else
    let digits ← readHexDigits (if kind == 'x' then 2 else if kind == 'u' then 4 else 8)
    return .literal (← charOfHex? digits) (kind == 'x')

/-- The two parts of a text around the first occurrence of `mark`. -/
def splitAt? (mark : List Char) : List Char → Option (List Char × List Char)
  | [] => none
  | c :: cs =>
    if mark.isPrefixOf (c :: cs) then some ([], (c :: cs).drop mark.length)
    else (splitAt? mark cs).map fun (before, behind) => (c :: before, behind)

/-- The set of a property: a name, or a name and a value. -/
def namedProperty? (name : List Char) : Option CharSet :=
  match splitAt? ['!', '='] name with
  | some (n, v) =>
    (propertyValue? (String.ofList n) (String.ofList v)).map CharSet.complement
  | none =>
    match (splitAt? [':'] name).orElse fun _ => splitAt? ['='] name with
    | some (n, v) => propertyValue? (String.ofList n) (String.ofList v)
    | none => property? (String.ofList name)

/-- The set of a Unicode property, behind `p` or `P`. -/
def readProperty : Read Primitive := do
  let f ← flags
  let negated := (← peek) == 'P'
  bumpSkip
  let name ← do
    let c ← peek
    if c == '{' then
      bumpSkip
      let name ← takeWhile (· != '}') (← bound) []
      require ((← peek) == '}')
      bump
      pure name
    else
      require (c != '\\')
      bumpSkip
      pure [c]
  require f.unicode
  let s ← namedProperty? name
  return .set (f.foldNegate negated s)

/-- The set of a short escape. -/
def shortClass? (unicode : Bool) (c : Char) : Option CharSet :=
  match c.toLower with
  | 'd' => some (if unicode then digitSet else asciiDigits)
  | 's' => some (if unicode then blankSet else asciiBlanks)
  | 'w' => some (if unicode then wordSet else asciiWord)
  | _ => none

/-- The signs that have a meaning in patterns. -/
def isMeta (c : Char) : Bool := "\\.+*?()|[]\x7b\x7d^$#&-~".toList.contains c

/-- Whether a character may stand behind a backslash and mean itself. -/
def isEscapable (c : Char) : Bool :=
  isMeta c || (c.toNat < 0x80 && !c.isAlphanum && c != '<' && c != '>')

/-- The special word condition behind `\b`, if there is one: `{start}` and its like. -/
def readWordLook : Read WordLook := do
  let r ← get
  if (← peek?) != some '{' then return .boundary
  bumpSkip
  let inName (c : Char) : Bool := c.isAlpha || c == '-'
  if !inName (← peek) then
    set r
    return .boundary
  let name ← takeWhile inName (← bound) []
  require ((← peek) == '}')
  bump
  match String.ofList name with
  | "start" => return .start
  | "end" => return .finish
  | "start-half" => return .startHalf
  | "end-half" => return .finishHalf
  | _ => failure

/-- What stands behind a backslash. -/
def readEscape : Read Primitive := do
  let f ← flags
  bump
  let c ← peek
  if c.isDigit then failure
  if c == 'x' || c == 'u' || c == 'U' then return ← readHex
  if c == 'p' || c == 'P' then return ← readProperty
  bump
  if let some s := shortClass? f.unicode c then
    return .set (if c.isUpper then f.negate s else s)
  if isEscapable c then return .literal c false
  match c with
  | 'a' => return .literal '\x07' false
  | 'f' => return .literal '\x0c' false
  | 't' => return .literal '\t' false
  | 'n' => return .literal '\n' false
  | 'r' => return .literal '\r' false
  | 'v' => return .literal '\x0b' false
  | 'A' => return .look .textStart
  | 'z' => return .look .textEnd
  | 'b' => return .look (.word (← readWordLook) !f.unicode)
  | 'B' => return .look (.word .interior !f.unicode)
  | '<' => return .look (.word .start !f.unicode)
  | '>' => return .look (.word .finish !f.unicode)
  | _ => failure

/-! ## Classes -/

/-- A part of a class: its set, and how deep it nests. -/
structure ClassPart where
  /-- The characters. -/
  set : CharSet
  /-- The nesting. -/
  depth : Nat

/-- The parts of a class that stand side by side. -/
structure ClassUnion where
  /-- The characters of all parts. -/
  set : CharSet := .none
  /-- The number of parts. -/
  count : Nat := 0
  /-- The deepest nesting of a part. -/
  depth : Nat := 0

/-- One part more. -/
def ClassUnion.push (u : ClassUnion) (p : ClassPart) : ClassUnion :=
  ⟨u.set.union p.set, u.count + 1, max u.depth p.depth⟩

/-- The parts as one. -/
def ClassUnion.toPart (u : ClassUnion) : ClassPart :=
  ⟨u.set, if u.count ≤ 1 then u.depth else u.depth + 1⟩

/-- The operations between the parts of a class. -/
inductive ClassOp where
  /-- Characters in both. -/
  | inter
  /-- Characters in the first only. -/
  | diff
  /-- Characters in one of them only. -/
  | symmDiff

/-- The result of an operation, on what stands before it and behind it. -/
def ClassOp.apply (f : Flags) (op : ClassOp) (lhs rhs : ClassPart) : ClassPart :=
  let s := f.fold lhs.set
  let t := f.fold rhs.set
  let set := match op with
    | .inter => s.inter t
    | .diff => s.diff t
    | .symmDiff => s.symmDiff t
  ⟨set, max lhs.depth rhs.depth + 1⟩

/-- Finish an operation that waits for its right-hand side. -/
def finishOp (f : Flags) (waiting : Option (ClassOp × ClassPart)) (rhs : ClassPart) : ClassPart :=
  match waiting with
  | some (op, lhs) => op.apply f lhs rhs
  | none => rhs

/-- The character of a class, as the flags allow it. -/
def Flags.classChar? (f : Flags) : Primitive → Option Char
  | .literal c _ => if f.unicode || c.toNat < 0x80 then some c else none
  | _ => none

/-- The set of a single sign in a class. -/
def Flags.classSet? (f : Flags) : Primitive → Option CharSet
  | .set s => some s
  | p => (f.classChar? p).map .single

/-- A single sign in a class. -/
def readClassItem : Read Primitive := do
  let c ← peek
  if c == '\\' then readEscape
  else
    bump
    return .literal c false

/-- A sign or a range in a class. -/
def readClassRange : Read ClassPart := do
  let f ← flags
  let first ← readClassItem
  skip
  let c ← peek
  let behind ← peekBehind?
  if c != '-' || behind == some ']' || behind == some '-' then
    return ⟨← f.classSet? first, 0⟩
  bumpSkip
  let second ← readClassItem
  let a ← f.classChar? first
  let b ← f.classChar? second
  require (a ≤ b)
  return ⟨.range a b, 0⟩

/-- The name of a class of the ASCII range in `[:…:]`, if that is what comes next. -/
def readAsciiClass? : Read (Option ClassPart) := do
  let f ← flags
  let r ← get
  match r.rest with
  | '[' :: ':' :: rest =>
    let negated := rest.head? == some '^'
    let rest := if negated then rest.drop 1 else rest
    let name := rest.takeWhile (· != ':')
    let behind := rest.dropWhile (· != ':')
    match asciiClass? (String.ofList name), behind with
    | some s, ':' :: ']' :: behind =>
      set { r with rest := behind }
      return some ⟨f.foldNegate negated s, 0⟩
    | _, _ => return none
  | _ => return none

/-- Dashes at the beginning of a class, which mean themselves. -/
def readDashes : Nat → ClassUnion → Read ClassUnion
  | 0, u => return u
  | bound + 1, u => do
    if (← peek) == '-' then
      bumpSkip
      readDashes bound (u.push ⟨.single '-', 0⟩)
    else return u

/-- The beginning of a class, behind its bracket: whether it is negated, and the signs that have
no special meaning in this place. -/
def readClassOpen : Read (Bool × ClassUnion) := do
  bumpSkip
  let negated := (← peek) == '^'
  if negated then bumpSkip
  let u ← readDashes (← bound) {}
  if u.count == 0 && (← peek) == ']' then
    bumpSkip
    return (negated, u.push ⟨.single ']', 0⟩)
  return (negated, u)

/-- The rest of a class, up to and including its closing bracket. `waiting` is an operation whose
right-hand side is being read. -/
def readClassRest : Nat → Option (ClassOp × ClassPart) → ClassUnion → Read ClassPart
  | 0, _, _ => failure
  | bound + 1, waiting, u => do
    let f ← flags
    skip
    let c ← peek
    if c == '[' then
      if let some part ← readAsciiClass? then
        return ← readClassRest bound waiting (u.push part)
      let (negated, inner) ← readClassOpen
      let part ← readClassRest bound none inner
      readClassRest bound waiting (u.push ⟨f.foldNegate negated part.set, part.depth + 1⟩)
    else if c == ']' then
      bump
      return finishOp f waiting u.toPart
    else if ← accept "&&" then
      readClassRest bound (some (.inter, finishOp f waiting u.toPart)) {}
    else if ← accept "--" then
      readClassRest bound (some (.diff, finishOp f waiting u.toPart)) {}
    else if ← accept "~~" then
      readClassRest bound (some (.symmDiff, finishOp f waiting u.toPart)) {}
    else
      let part ← readClassRange
      readClassRest bound waiting (u.push part)

/-- A bracketed class. -/
def readClass : Read ClassPart := do
  let f ← flags
  let (negated, u) ← readClassOpen
  let part ← readClassRest ((← bound) + 1) none u
  return ⟨f.foldNegate negated part.set, part.depth + 1⟩

/-! ## Groups -/

/-- Whether a character may stand in the name of a group. -/
def inGroupName (first : Bool) (c : Char) : Bool :=
  c == '_' || isAlphabetic c ||
    (!first && (c == '.' || c == '[' || c == ']' ||
      [Category.decimalDigit, .letterNumber, .otherNumber].any (·.contains c)))

/-- The name of a group, up to `>`; no two groups have the same name. -/
def readGroupName : Read Unit := do
  let r ← get
  let name := r.rest.takeWhile (· != '>')
  let behind := r.rest.dropWhile (· != '>')
  match name with
  | [] => failure
  | c :: cs =>
    require (inGroupName true c && cs.all (inGroupName false))
    require (!behind.isEmpty)
    let name := String.ofList name
    require (!r.names.contains name)
    set { r with rest := behind.drop 1, names := name :: r.names }

/-- Set or clear the flag of a letter. -/
def Flags.update (f : Flags) (value : Bool) : Char → Option Flags
  | 'i' => some { f with caseless := value }
  | 'm' => some { f with multiline := value }
  | 's' => some { f with dotAll := value }
  | 'U' => some { f with swapGreed := value }
  | 'u' => some { f with unicode := value }
  | 'R' => some { f with crlf := value }
  | 'x' => some { f with verbose := value }
  | _ => none

/-- Flags up to `:` or `)`, and the letters seen so far. A dash clears the flags behind it; it
stands at most once, and not at the end, and no letter stands twice. -/
def readFlags : Nat → Flags → List Char → Read (Flags × List Char)
  | 0, _, _ => failure
  | bound + 1, f, seen => do
    let c ← peek
    if c == ':' || c == ')' then
      require (seen.head? != some '-')
      return (f, seen)
    require (!seen.contains c)
    bump
    if c == '-' then readFlags bound f (c :: seen)
    else
      let f ← f.update (!seen.contains '-') c
      readFlags bound f (c :: seen)

/-- How a group begins. -/
inductive Opening where
  /-- Flags for the rest of the enclosing group. -/
  | flags
  /-- A group. -/
  | group

/-- The beginning of a group, behind its bracket. -/
def readOpening : Read Opening := do
  bump
  skip
  let r ← get
  let lookAround := ["?=", "?!", "?<=", "?<!"]
  require (!lookAround.any fun mark => mark.toList.isPrefixOf r.rest)
  if ← accept "?P<" then
    readGroupName
    return .group
  if ← accept "?<" then
    readGroupName
    return .group
  if ← accept "?" then
    let (f, seen) ← readFlags ((← bound) + 1) (← flags) []
    let close ← peek
    bump
    setFlags f
    if close == ')' then
      require (!seen.isEmpty)
      return .flags
    return .group
  return .group

/-! ## Repetitions -/

/-- A decimal number, with blanks around it; it fits into 32 bits. -/
def readCount : Read Nat := do
  modify fun r => { r with rest := r.rest.dropWhile isBlank }
  let digits ← takeWhile Char.isDigit (← bound) []
  modify fun r => { r with rest := r.rest.dropWhile isBlank }
  require (!digits.isEmpty)
  let n := digits.foldl (fun acc c => acc * 10 + (c.toNat - 0x30)) 0
  require (n < UInt32.size)
  return n

/-- How often an expression is repeated, in braces. -/
def readCounts : Read (Nat × Option Nat) := do
  bumpSkip
  let low ← readCount
  let counts ← do
    if (← peek) == ',' then
      bumpSkip
      if (← peek) == '}' then pure (low, none)
      else pure (low, some (← readCount))
    else pure (low, some low)
  require ((← peek) == '}')
  bumpSkip
  require (match counts.2 with
    | some high => low ≤ high
    | none => true)
  return counts

/-- Whether a repetition is greedy: a `?` behind it says that it is not. -/
def readGreed : Read Bool := do
  let f ← flags
  if (← peek?) == some '?' then
    bump
    return f.swapGreed
  return !f.swapGreed

/-! ## Expressions -/

/-- A part of a pattern: its expression, and how deep it nests. -/
structure Node where
  /-- The expression. -/
  expr : Expr
  /-- The nesting. -/
  depth : Nat := 0
  /-- Whether a repetition may stand behind it. -/
  repeatable : Bool := true

/-- Parts one after the other; the last part comes first in the list. -/
def Node.concat : List Node → Node
  | [] => { expr := .empty }
  | [node] => node
  | node :: before =>
    let expr := before.foldl (fun e n => Expr.concat n.expr e) node.expr
    let depth := before.foldl (fun d n => max d n.depth) node.depth
    { expr, depth := depth + 1 }

/-- Alternatives; the last one comes first in the list. -/
def Node.alternate (last : Node) (before : List Node) : Node :=
  match before with
  | [] => last
  | _ =>
    let expr := before.foldl (fun e n => Expr.alternate n.expr e) last.expr
    let depth := before.foldl (fun d n => max d n.depth) last.depth
    { expr, depth := depth + 1 }

/-- A repetition of the last part. -/
def Node.repeatLast (items : List Node) (counts : Nat × Option Nat) (greedy : Bool) :
    Option (List Node) :=
  match items with
  | node :: before =>
    if node.repeatable then
      some ({ expr := .rep node.expr counts.1 counts.2 greedy, depth := node.depth + 1 } :: before)
    else none
  | [] => none

/-- The condition of `^` or `$`. -/
def Flags.anchor (f : Flags) (c : Char) : Look :=
  if c == '^' then
    if f.multiline then (if f.crlf then .lineStartCr else .lineStart) else .textStart
  else
    if f.multiline then (if f.crlf then .lineEndCr else .lineEnd) else .textEnd

/-- The characters that the dot matches. -/
def Flags.dotSet (f : Flags) : CharSet :=
  if f.dotAll then .all
  else if f.crlf then ((CharSet.single '\n').union (.single '\r')).complement
  else (CharSet.single '\n').complement

/-- The expression of a single sign. -/
def Flags.primitive? (f : Flags) : Primitive → Option Expr
  | .literal c byte =>
    if !f.unicode && byte && c.toNat ≥ 0x80 then none
    else if f.caseless then
      if f.unicode then some (.set (CharSet.single c).foldCase)
      else if c.toNat < 0x80 then some (.set (CharSet.single c).foldAscii)
      else none
    else some (.set (.single c))
  | .set s => f.setExpr s
  | .dot => if f.unicode then some (.set f.dotSet) else none
  | .look l => some (.look l)

/-- A single sign. -/
def readPrimitive : Read Primitive := do
  let f ← flags
  let c ← peek
  if c == '\\' then return ← readEscape
  bump
  if c == '.' then return .dot
  if c == '^' || c == '$' then return .look (f.anchor c)
  return .literal c false

/-- Alternatives up to a closing bracket or the end of the pattern. `branches` are the ones
before, and `items` the parts of the present one, the last of them first. -/
def readItems : Nat → List Node → List Node → Read Node
  | 0, _, _ => failure
  | bound + 1, branches, items => do
    skip
    match ← peek? with
    | none => return Node.alternate (Node.concat items) branches
    | some c =>
      let f ← flags
      if c == ')' then return Node.alternate (Node.concat items) branches
      else if c == '|' then
        bump
        readItems bound (Node.concat items :: branches) []
      else if c == '(' then
        match ← readOpening with
        | .flags => readItems bound branches ({ expr := .empty, repeatable := false } :: items)
        | .group =>
          let inner ← readItems bound [] []
          require ((← peek) == ')')
          bump
          setFlags f
          readItems bound branches ({ expr := inner.expr, depth := inner.depth + 1 } :: items)
      else if c == '[' then
        let part ← readClass
        let expr ← f.setExpr part.set
        readItems bound branches ({ expr, depth := part.depth } :: items)
      else if c == '?' || c == '*' || c == '+' then
        bump
        let greedy ← readGreed
        let counts :=
          if c == '?' then (0, some 1) else if c == '*' then (0, none) else (1, none)
        readItems bound branches (← Node.repeatLast items counts greedy)
      else if c == '{' then
        let counts ← readCounts
        let greedy ← readGreed
        readItems bound branches (← Node.repeatLast items counts greedy)
      else
        let p ← readPrimitive
        let expr ← f.primitive? p
        readItems bound branches ({ expr } :: items)

/-- The deepest nesting of a pattern. -/
def maxNesting : Nat := 250

/-- The greatest cost of an expression. -/
def maxCost : Nat := 10 * 1024 * 1024

/-- The expression of a pattern, if it keeps the rules. -/
def Expr.ofPattern? (pattern : List Char) : Option Expr := do
  let (node, r) ← (readItems (pattern.length + 1) [] []).run { rest := pattern }
  if r.rest.isEmpty && node.depth ≤ maxNesting && node.expr.cost ≤ maxCost then
    some node.expr
  else none

end ParserKit.Regex
