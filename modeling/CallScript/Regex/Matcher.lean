import CallScript.Regex.Form

/-!
# Searching

A matcher says which pieces of a text match. `reach` follows it from a set of positions to the set
of positions at which a match that begins there can end; a text contains a match if any position is
reached from any other. Sets of positions are ascending lists.
-/

namespace CallScript.Regex

inductive Matcher where
  | empty
  | char (accepts : Char → Bool)
  | look (condition : Look)
  | both (first second : Matcher)
  | either (first second : Matcher)
  | repeated (least : Nat) (most? : Option Nat) (body : Matcher)

def union : List Nat → List Nat → List Nat
  | [], second => second
  | first, [] => first
  | a :: first, b :: second =>
      if a < b then a :: union first (b :: second)
      else if b < a then b :: union (a :: first) second
      else a :: union first second

theorem mem_union {n : Nat} {first second : List Nat} :
    n ∈ union first second ↔ n ∈ first ∨ n ∈ second := by
  fun_induction union first second with
  | case1 => simp
  | case2 => simp
  | case3 a first b second less ih =>
      simp only [List.mem_cons, ih]
      exact or_assoc.symm
  | case4 a first b second notLess less ih =>
      simp only [List.mem_cons, ih]
      exact or_left_comm
  | case5 a first b second notLess notGreater ih =>
      obtain rfl : a = b := by omega
      simp only [List.mem_cons, ih]
      constructor
      · rintro (h | h | h) <;> simp [h]
      · rintro ((h | h) | (h | h)) <;> simp [h]

/-- Takes a step again and again, up to a number of times, until it changes nothing more. -/
def settle (step : List Nat → List Nat) : Nat → List Nat → List Nat
  | 0, positions => positions
  | rounds + 1, positions =>
      let after := step positions
      if after = positions then positions else settle step rounds after

namespace Matcher

mutual

def ofForm : Form → Matcher
  | .empty => .empty
  | .text chars => chars.foldr (fun c rest => .both (.char (· = c)) rest) .empty
  | .set codes => .char fun c => codes.contains c.toNat
  | .look condition => .look condition
  | .repeated least most? body => .repeated least most? (ofForm body)
  | .capture body => ofForm body
  | .sequence parts => ofSequence parts
  | .choice options => ofChoice options

def ofSequence : List Form → Matcher
  | [] => .empty
  | part :: parts => .both (ofForm part) (ofSequence parts)

def ofChoice : List Form → Matcher
  | [] => .char fun _ => false
  | option :: options => .either (ofForm option) (ofChoice options)

end

/-- The positions at which matches that begin at the given positions can end. -/
def reach (text : Array Char) : Matcher → List Nat → List Nat
  | .empty, starts => starts
  | .char accepts, starts =>
      starts.filterMap fun i => if text[i]?.any accepts then some (i + 1) else none
  | .look condition, starts =>
      starts.filter fun i => condition.holds (if i = 0 then none else text[i - 1]?) text[i]?
  | .both first second, starts => reach text second (reach text first starts)
  | .either first second, starts => union (reach text first starts) (reach text second starts)
  | .repeated least most? body, starts =>
      let step := reach text body
      let grow (positions : List Nat) : List Nat := union positions (step positions)
      settle grow ((most?.map (· - least)).getD (text.size + 1)) (settle step least starts)

def matchesIn (matcher : Matcher) (text : String) : Bool :=
  let chars := text.toList.toArray
  !(matcher.reach chars (List.range (chars.size + 1))).isEmpty

end Matcher
end CallScript.Regex
