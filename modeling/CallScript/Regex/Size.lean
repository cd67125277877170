import CallScript.Regex.ByteSequence
import CallScript.Regex.Matcher
import CallScript.Regex.Meaning

/-!
# The size of patterns

A pattern is searched for by an automaton that reads the bytes of a text, and by a second one that
reads them backwards. The size of an automaton is that of its states and of the ways that lead out
of them; repeating a part a number of times repeats its states.
-/

namespace CallScript.Regex

/-! ## States and ways -/

def stateSize : Nat := 32

def readingSize (ways : Nat) : Nat := stateSize + 8 * ways

def forkSize (ways : Nat) : Nat := stateSize + 4 * ways

/-! ## Texts as options

Options that are all of them texts share the states of their common fronts. -/

/-- How texts go on. Where a text ends, a group of ways is complete, and what is added later goes
into a new one. -/
inductive TextTree where
  | node (groups : List (List (UInt8 × TextTree))) (last : List (UInt8 × TextTree))

namespace TextTree

def start : TextTree := .node [] []

def add : List UInt8 → TextTree → TextTree
  | [], .node groups last =>
      if last.isEmpty && !groups.isEmpty && groups.all List.isEmpty then .node groups last
      else .node (groups ++ [last]) []
  | byte :: bytes, .node groups last =>
      match last.lookup byte with
      | some tree =>
          let others := last.filter fun way => way.1 ≠ byte
          .node groups ((byte, tree.add bytes) :: others)
      | none => .node groups ((byte, start.add bytes) :: last)

mutual

/-- The size of the states below a node. A node without ways needs none. -/
def size : TextTree → Nat
  | .node groups last =>
      if last.isEmpty && groups.all List.isEmpty then 0
      else
        let used := (groups ++ [last]).countP fun group => !group.isEmpty
        forkSize (used + groups.length) + sizeOfGroups groups + sizeOfGroup last 0

def sizeOfGroups : List (List (UInt8 × TextTree)) → Nat
  | [] => 0
  | group :: groups => sizeOfGroup group 0 + sizeOfGroups groups

def sizeOfGroup : List (UInt8 × TextTree) → Nat → Nat
  | [], ways => if ways = 0 then 0 else if ways = 1 then stateSize else readingSize ways
  | (_, tree) :: others, ways => tree.size + sizeOfGroup others (ways + 1)

end

end TextTree

def sizeOfTexts (texts : List (List UInt8)) : Nat :=
  stateSize + (texts.foldl (fun tree text => tree.add text) TextTree.start).size

/-! ## Sets of characters -/

/-- Byte sequences that share their fronts: the ways out of a state, each with what follows. -/
inductive ByteTree where
  | node (ways : List ((UInt8 × UInt8) × ByteTree))
deriving BEq

namespace ByteTree

/-- Puts a sequence behind those that are there already. A front is shared with the last one
only. -/
def add : List (UInt8 × UInt8) → ByteTree → ByteTree
  | [], tree => tree
  | range :: ranges, .node ways =>
      match ways.getLast? with
      | some (other, tree) =>
          if other = range then .node (ways.dropLast ++ [(range, tree.add ranges)])
          else .node (ways ++ [(range, (ByteTree.node []).add ranges)])
      | none => .node [(range, (ByteTree.node []).add ranges)]

mutual

/-- Adds the states of a tree, except its ends, to those that are known. Equal states are one. -/
def states : ByteTree → List ByteTree → List ByteTree
  | .node ways, known =>
      let known := statesBehind ways known
      if ways.isEmpty || known.contains (.node ways) then known else .node ways :: known

def statesBehind : List ((UInt8 × UInt8) × ByteTree) → List ByteTree → List ByteTree
  | [], known => known
  | (_, tree) :: ways, known => statesBehind ways (tree.states known)

end

def countWays : ByteTree → Nat
  | .node ways => ways.length

end ByteTree

/-- The size of a set that is read forwards: states with the same ways on are one. -/
def forwardSetSize (sequences : List (List (UInt8 × UInt8))) : Nat :=
  let tree := sequences.foldl (fun tree ranges => tree.add ranges) (ByteTree.node [])
  stateSize + ((tree.states []).map fun state => readingSize state.countWays).foldl (· + ·) 0

/-- The size of a set that is read backwards: sequences share the states of their fronts. -/
def backwardSetSize (sequences : List (List (UInt8 × UInt8))) : Nat :=
  let fronts := (sequences.flatMap fun ranges =>
    (List.range ranges.length).map fun length => ranges.take (length + 1)).eraseDups
  forkSize sequences.length + stateSize + stateSize * fronts.length

def setSize (isBackward : Bool) (codes : CodeSet) : Nat :=
  if codes.isBelow 128 then stateSize + readingSize codes.length
  else if isBackward then backwardSetSize codes.byteSequences
  else forwardSetSize codes.byteSequences

/-! ## Forms -/

def textBytes (chars : List Char) : List UInt8 := (String.ofList chars).toUTF8.toList

def repetitionSize (least : Nat) (most? : Option Nat) (isNeverEmpty : Bool) (body : Nat) : Nat :=
  match least, most? with
  | 0, some 1 => forkSize 2 + body + stateSize
  | 0, none =>
      if isNeverEmpty then forkSize 2 + body else body + forkSize 2 + forkSize 2 + stateSize
  | least, none => least * body + forkSize 2
  | least, some most =>
      if least = most then least * body
      else
        (if least = 0 then stateSize else least * body) + stateSize +
          (most - least) * (forkSize 2 + body)

theorem repetitionSize_exactly (count body : Nat) (positive : 1 < count) (isNeverEmpty : Bool) :
    repetitionSize count (some count) isNeverEmpty body = count * body := by
  match count with
  | 0 | 1 => omega
  | count + 2 => simp [repetitionSize]

def textOf? : Form → Option (List UInt8)
  | .text chars => some (textBytes chars)
  | _ => none

mutual

def Form.size (isBackward : Bool) : Form → Nat
  | .empty | .look _ => stateSize
  | .text chars => stateSize * (textBytes chars).length
  | .set codes => setSize isBackward codes
  | .repeated least most? body =>
      repetitionSize least most? body.isNeverEmpty (body.size isBackward)
  | .capture body => (if isBackward then 0 else 2 * stateSize) + body.size isBackward
  | .sequence parts => sizeOfAll isBackward parts
  | .choice options =>
      match options.mapM textOf? with
      | some texts => sizeOfTexts (if isBackward then texts.map List.reverse else texts)
      | none => forkSize options.length + stateSize + sizeOfAll isBackward options

def sizeOfAll (isBackward : Bool) : List Form → Nat
  | [] => 0
  | form :: forms => form.size isBackward + sizeOfAll isBackward forms

end

/-- The size of the automaton of a whole pattern. Unless a match can only begin at the front, the
automaton begins by passing over bytes, and it ends with a match; forwards, it notes both places. -/
def Form.automatonSize (form : Form) (isBackward : Bool) : Nat :=
  let isBound :=
    if isBackward then form.reversed.startsWith .textEnd else form.startsWith .textStart
  let front := if isBound then stateSize else forkSize 2 + stateSize + readingSize 1
  front + (Form.capture form).size isBackward + stateSize

def Matcher.ofText (text : String) : Except Problem Matcher := do
  let expression ← Expression.ofText text
  let (form, _) ← expression.form Flags.initial
  if Problem.sizeLimit < form.automatonSize false then throw .tooLarge
  if form.looksFor .anyScript then throw .unsearchable
  if Problem.sizeLimit < form.automatonSize true then throw .tooLarge
  return .ofForm form

end CallScript.Regex
