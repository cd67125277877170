/-!
# Lines that correspond

Two sequences of lines are laid side by side so that as few lines as possible are without a partner.
The middle of a shortest way is searched from both ends at once, and each half is then treated in
the same way. Runs of lines without a partner that could stand in several places are moved forward
as far as possible, or to where the other sequence has such a run too.

Lines are given by numbers; equal numbers stand for equal lines.
-/

namespace CallScript.Shell

/-- Two sequences of lines. -/
structure LinePair where
  first : Array Nat
  second : Array Nat

/-- A part of each of two sequences, up to a high end that does not belong to it. -/
structure Span where
  firstLow : Nat
  firstHigh : Nat
  secondLow : Nat
  secondHigh : Nat

namespace Span

def size (span : Span) : Nat := span.firstHigh - span.firstLow + (span.secondHigh - span.secondLow)

end Span

namespace LinePair

def agree (pair : LinePair) (x y : Nat) : Bool :=
  match pair.first[x]?, pair.second[y]? with
  | some a, some b => a == b
  | _, _ => false

def trimFront (pair : LinePair) : Nat → Span → Span
  | 0, span => span
  | fuel + 1, span =>
      if span.firstLow < span.firstHigh && span.secondLow < span.secondHigh &&
          pair.agree span.firstLow span.secondLow then
        trimFront pair fuel
          { span with firstLow := span.firstLow + 1, secondLow := span.secondLow + 1 }
      else span

def trimBack (pair : LinePair) : Nat → Span → Span
  | 0, span => span
  | fuel + 1, span =>
      if span.firstLow < span.firstHigh && span.secondLow < span.secondHigh &&
          pair.agree (span.firstHigh - 1) (span.secondHigh - 1) then
        trimBack pair fuel
          { span with firstHigh := span.firstHigh - 1, secondHigh := span.secondHigh - 1 }
      else span

end LinePair

/-! ## The middle of a shortest way -/

/-- How far a search has come on each diagonal, which is the difference of two places. `low` and
`high` are the diagonals that the search is on. -/
structure Frontier where
  least : Int
  reached : Array Int
  low : Int
  high : Int

namespace Frontier

def reach (frontier : Frontier) (diagonal : Int) : Int :=
  frontier.reached.getD (diagonal - frontier.least + 1).toNat 0

def put (frontier : Frontier) (diagonal place : Int) : Frontier :=
  { frontier with
    reached := frontier.reached.setIfInBounds (diagonal - frontier.least + 1).toNat place }

def start (least most diagonal place : Int) : Frontier :=
  let empty : Frontier :=
    ⟨least, Array.replicate (most - least + 3).toNat 0, diagonal, diagonal⟩
  empty.put diagonal place

/-- Goes on to the neighbouring diagonals. Beyond them nothing has been reached, which `outside`
stands for. -/
def widen (frontier : Frontier) (most outside : Int) : Frontier :=
  let lower : Frontier :=
    if frontier.least < frontier.low then
      { frontier.put (frontier.low - 2) outside with low := frontier.low - 1 }
    else { frontier with low := frontier.low + 1 }
  if lower.high < most then
    { lower.put (lower.high + 2) outside with high := lower.high + 1 }
  else { lower with high := lower.high - 1 }

def diagonals (frontier : Frontier) : List Int :=
  (List.range ((frontier.high - frontier.low) / 2 + 1).toNat).map fun (index : Nat) =>
    frontier.high - 2 * (index : Int)

def isOn (frontier : Frontier) (diagonal : Int) : Bool :=
  frontier.low ≤ diagonal && diagonal ≤ frontier.high

end Frontier

namespace LinePair

def slideForward (pair : LinePair) (span : Span) (diagonal : Int) : Nat → Int → Int
  | 0, x => x
  | fuel + 1, x =>
      let y := x - diagonal
      if x < span.firstHigh && y < span.secondHigh && pair.agree x.toNat y.toNat then
        slideForward pair span diagonal fuel (x + 1)
      else x

def slideBack (pair : LinePair) (span : Span) (diagonal : Int) : Nat → Int → Int
  | 0, x => x
  | fuel + 1, x =>
      let y := x - diagonal
      if span.firstLow < x && span.secondLow < y && pair.agree (x - 1).toNat (y - 1).toNat then
        slideBack pair span diagonal fuel (x - 1)
      else x

/-- Takes a step forward on diagonals, up to where the search from the other end is met. -/
def stepForward (pair : LinePair) (span : Span) (isOdd : Bool) (behind : Frontier) :
    List Int → Frontier → Frontier × Option (Nat × Nat)
  | [], ahead => (ahead, none)
  | diagonal :: others, ahead =>
      let (low, high) := (ahead.reach (diagonal - 1), ahead.reach (diagonal + 1))
      let x := pair.slideForward span diagonal span.size (if low < high then high else low + 1)
      let ahead := ahead.put diagonal x
      if isOdd && behind.isOn diagonal && behind.reach diagonal ≤ x then
        (ahead, some (x.toNat, (x - diagonal).toNat))
      else stepForward pair span isOdd behind others ahead

/-- Takes a step back on diagonals, up to where the search from the other end is met. -/
def stepBack (pair : LinePair) (span : Span) (isOdd : Bool) (ahead : Frontier) :
    List Int → Frontier → Frontier × Option (Nat × Nat)
  | [], behind => (behind, none)
  | diagonal :: others, behind =>
      let (low, high) := (behind.reach (diagonal - 1), behind.reach (diagonal + 1))
      let x := pair.slideBack span diagonal span.size (if low < high then low else high - 1)
      let behind := behind.put diagonal x
      if !isOdd && ahead.isOn diagonal && x ≤ ahead.reach diagonal then
        (behind, some (x.toNat, (x - diagonal).toNat))
      else stepBack pair span isOdd ahead others behind

def meet (pair : LinePair) (span : Span) (most beyond : Int) (isOdd : Bool) :
    Nat → Frontier → Frontier → Nat × Nat
  | 0, _, _ => (span.firstLow, span.secondLow)
  | fuel + 1, ahead, behind =>
      let ahead := ahead.widen most (-1)
      match pair.stepForward span isOdd behind ahead.diagonals ahead with
      | (_, some place) => place
      | (ahead, none) =>
          let behind := behind.widen most beyond
          match pair.stepBack span isOdd ahead behind.diagonals behind with
          | (_, some place) => place
          | (behind, none) => meet pair span most beyond isOdd fuel ahead behind

def middle (pair : LinePair) (span : Span) : Nat × Nat :=
  let least : Int := span.firstLow - span.secondHigh
  let most : Int := span.firstHigh - span.secondLow
  let front : Int := span.firstLow - span.secondLow
  let back : Int := span.firstHigh - span.secondHigh
  let beyond : Int := span.firstHigh + span.secondHigh + 2
  pair.meet span most beyond ((front - back) % 2 ≠ 0) (span.size + 1)
    (.start least most front span.firstLow) (.start least most back span.firstHigh)

end LinePair

/-! ## Lines without a partner -/

/-- Which lines of two sequences have no partner. -/
structure Unmatched where
  first : Array Bool
  second : Array Bool

namespace LinePair

def mark (pair : LinePair) : Nat → Span → Unmatched → Unmatched
  | 0, _, unmatched => unmatched
  | fuel + 1, span, unmatched =>
      let span := pair.trimBack span.size (pair.trimFront span.size span)
      if span.firstLow = span.firstHigh || span.secondLow = span.secondHigh then
        let fill (low high : Nat) (marks : Array Bool) : Array Bool :=
          (List.range' low (high - low)).foldl (fun marks i => marks.setIfInBounds i true) marks
        ⟨fill span.firstLow span.firstHigh unmatched.first,
          fill span.secondLow span.secondHigh unmatched.second⟩
      else
        let (x, y) := pair.middle span
        let unmatched := pair.mark fuel { span with firstHigh := x, secondHigh := y } unmatched
        pair.mark fuel { span with firstLow := x, secondLow := y } unmatched

/-- The lines that have no partner on a shortest way. Lines that the other sequence does not have
are left out of the search. -/
def unmatched (pair : LinePair) : Unmatched :=
  let kept (lines other : Array Nat) : List Nat :=
    (List.range lines.size).filter fun i => other.contains (lines.getD i 0)
  let (first, second) := (kept pair.first pair.second, kept pair.second pair.first)
  let inner : LinePair :=
    ⟨(first.map fun i => pair.first.getD i 0).toArray,
      (second.map fun i => pair.second.getD i 0).toArray⟩
  let span : Span := ⟨0, first.length, 0, second.length⟩
  let found := inner.mark (span.size + 1) span
    ⟨Array.replicate first.length false, Array.replicate second.length false⟩
  let spread (size : Nat) (kept : List Nat) (marks : Array Bool) : Array Bool :=
    kept.zipIdx.foldl (fun all (place, i) => all.setIfInBounds place (marks.getD i false))
      (Array.replicate size true)
  ⟨spread pair.first.size first found.first, spread pair.second.size second found.second⟩

end LinePair

/-! ## Moving runs -/

def runEnd (marks : Array Bool) : Nat → Nat → Nat
  | 0, i => i
  | fuel + 1, i => if marks.getD i false then runEnd marks fuel (i + 1) else i

def runStart (marks : Array Bool) : Nat → Nat → Nat
  | 0, i => i
  | fuel + 1, i => if 0 < i && marks.getD (i - 1) false then runStart marks fuel (i - 1) else i

/-- A run of marks in a sequence of lines that is being moved beside the marks of the other
sequence. -/
structure MovingRun where
  marks : Array Bool
  start : Nat
  /-- The end, which does not belong to the run. -/
  stop : Nat
  place : Nat
  /-- The last end of the run at which the other sequence has a run too. -/
  paired? : Option Nat

/-- The lines of a sequence, and the marks of the other one. -/
structure RunMover where
  lines : Array Nat
  others : Array Bool

namespace RunMover

def limit (mover : RunMover) : Nat := mover.lines.size + mover.others.size + 1

def placeBefore (mover : RunMover) (place : Nat) : Nat :=
  runStart mover.others mover.limit place - 1

def back (mover : RunMover) (run : MovingRun) : MovingRun :=
  { run with
    marks := (run.marks.setIfInBounds (run.start - 1) true).setIfInBounds (run.stop - 1) false
    start := run.start - 1, stop := run.stop - 1, place := mover.placeBefore run.place }

/-- Moves a run back as long as the line before it is the same as its last one. Runs that it comes
to become part of it. -/
def moveBack (mover : RunMover) : Nat → MovingRun → MovingRun
  | 0, run => run
  | fuel + 1, run =>
      if 0 < run.start && mover.lines[run.start - 1]? = mover.lines[run.stop - 1]? then
        let moved := mover.back run
        mover.moveBack fuel { moved with start := runStart moved.marks mover.limit moved.start }
      else run

/-- Moves a run forward as long as the line behind it is the same as its first one. Runs that it
comes to become part of it. -/
def moveForward (mover : RunMover) : Nat → MovingRun → MovingRun
  | 0, run => run
  | fuel + 1, run =>
      if run.stop < mover.lines.size && mover.lines[run.start]? = mover.lines[run.stop]? then
        let marks := (run.marks.setIfInBounds run.start false).setIfInBounds run.stop true
        let stop := runEnd marks mover.limit (run.stop + 1)
        let isPaired := mover.others.getD (run.place + 1) false
        mover.moveForward fuel
          { marks := marks, start := run.start + 1, stop := stop
            place := runEnd mover.others mover.limit (run.place + 1)
            paired? := if isPaired then some stop else run.paired? }
      else run

def merge (mover : RunMover) : Nat → MovingRun → MovingRun
  | 0, run => run
  | fuel + 1, run =>
      let moved := mover.moveBack mover.limit run
      let isPaired := 0 < moved.place && mover.others.getD (moved.place - 1) false
      let moved := mover.moveForward mover.limit
        { moved with paired? := if isPaired then some moved.stop else none }
      if moved.stop - moved.start = run.stop - run.start then moved else mover.merge fuel moved

def settle (mover : RunMover) : Nat → MovingRun → MovingRun
  | 0, run => run
  | fuel + 1, run =>
      if run.paired?.any fun stop => stop < run.stop then mover.settle fuel (mover.back run)
      else run

/-- The next marked line, and the place in the other sequence that belongs to it. -/
def nextRun (mover : RunMover) (marks : Array Bool) : Nat → Nat → Nat → Nat × Nat
  | 0, i, place => (i, place)
  | fuel + 1, i, place =>
      if i < mover.lines.size && !marks.getD i false then
        mover.nextRun marks fuel (i + 1) (runEnd mover.others mover.limit place + 1)
      else (i, place)

def moveFrom (mover : RunMover) : Nat → Array Bool → Nat → Nat → Array Bool
  | 0, marks, _, _ => marks
  | fuel + 1, marks, i, place =>
      let (i, place) := mover.nextRun marks mover.limit i place
      if mover.lines.size ≤ i then marks
      else
        let run : MovingRun :=
          ⟨marks, i, runEnd marks mover.limit (i + 1), runEnd mover.others mover.limit place, none⟩
        let run := mover.settle mover.limit (mover.merge mover.limit run)
        mover.moveFrom fuel run.marks run.stop run.place

def move (mover : RunMover) (marks : Array Bool) : Array Bool :=
  mover.moveFrom mover.limit marks 0 0

end RunMover

/-! ## Changes -/

/-- Lines that are taken out and others that are put in their place. -/
structure Change where
  first : Nat
  firstCount : Nat
  second : Nat
  secondCount : Nat

def changesOf (unmatched : Unmatched) : Nat → Nat → Nat → List Change
  | 0, _, _ => []
  | fuel + 1, x, y =>
      let size := unmatched.first.size + unmatched.second.size
      let (first, second) := (runEnd unmatched.first size x, runEnd unmatched.second size y)
      let others := changesOf unmatched fuel (first + 1) (second + 1)
      if unmatched.first.size < x && unmatched.second.size < y then []
      else if first = x && second = y then others
      else ⟨x, first - x, y, second - y⟩ :: others

def LinePair.changes (pair : LinePair) : List Change :=
  let found := pair.unmatched
  let first := RunMover.move ⟨pair.first, found.second⟩ found.first
  let second := RunMover.move ⟨pair.second, first⟩ found.second
  changesOf ⟨first, second⟩ (pair.first.size + pair.second.size + 2) 0 0

end CallScript.Shell
