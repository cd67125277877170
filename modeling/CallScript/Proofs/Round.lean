import Mathlib.Logic.Relation

/-!
# Rounds of a loop

A loop is a machine that takes one step after the other and is now and then at its head. A round
leads from the head to the next state at the head. A machine that stops on the way has begun a
round that does not end.

* `Loop.Reaches.keeps`: what every step keeps holds of every state that is reached.
* `Loop.Reaches.eq_of_stuck`: the loop ends in one state at most.
* `Loop.Round.unique`: there is one round from a state at most.
* `Loop.Rounds.add_le`: a measure that every round raises counts the rounds.
-/

namespace CallScript

structure Loop (State : Type) where
  step? : State → Option State
  atHead : State → Bool

namespace Loop

variable {State : Type} {loop : Loop State}

def Moves (loop : Loop State) (s t : State) : Prop := loop.step? s = some t

def Reaches (loop : Loop State) : State → State → Prop := Relation.ReflTransGen loop.Moves

/-- Steps to the first state at the head, which may be the one they start from. -/
inductive Returns (loop : Loop State) : State → State → Prop
  | arrived {s : State} (head : loop.atHead s = true) : Returns loop s s
  | move {s t last : State} (inside : loop.atHead s = false) (move : loop.Moves s t)
      (behind : Returns loop t last) : Returns loop s last

def Round (loop : Loop State) (s last : State) : Prop :=
  loop.atHead s = true ∧ ∃ t, loop.Moves s t ∧ loop.Returns t last

inductive Rounds (loop : Loop State) : Nat → State → State → Prop
  | none (s : State) : Rounds loop 0 s s
  | round {n : Nat} {s t last : State} (first : loop.Round s t) (behind : Rounds loop n t last) :
      Rounds loop (n + 1) s last

/-! ## What is reached -/

theorem Reaches.keeps {P : State → Prop} (step : ∀ s t, P s → loop.Moves s t → P t) {s t : State}
    (reached : loop.Reaches s t) (start : P s) : P t := by
  induction reached with
  | refl => exact start
  | tail _ move ih => exact step _ _ ih move

theorem Returns.reaches {s last : State} (h : loop.Returns s last) : loop.Reaches s last := by
  induction h with
  | arrived head => exact .refl
  | move inside move _ ih => exact .head move ih

theorem Round.reaches {s last : State} (round : loop.Round s last) : loop.Reaches s last := by
  obtain ⟨-, t, move, behind⟩ := round
  exact .head move behind.reaches

theorem Rounds.reaches {n : Nat} {s last : State} (rounds : loop.Rounds n s last) :
    loop.Reaches s last := by
  induction rounds with
  | none s => exact .refl
  | round first _ ih => exact first.reaches.trans ih

/-- Only one state can be reached that has no step. -/
theorem Reaches.eq_of_stuck {s last other : State} (h : loop.Reaches s last)
    (h' : loop.Reaches s other) (stuck : loop.step? last = none) (stuck' : loop.step? other = none) :
    last = other := by
  have moveUnique : Relator.RightUnique loop.Moves := fun _ _ _ move move' =>
    Option.some.inj (move.symm.trans move')
  have stays {t u : State} (none : loop.step? t = none) (behind : loop.Reaches t u) : t = u := by
    obtain same | ⟨next, move, -⟩ := behind.cases_head
    · exact same
    · cases none.symm.trans move
  obtain behind | behind := Relation.ReflTransGen.total_of_right_unique moveUnique h h'
  · exact stays stuck behind
  · exact (stays stuck' behind).symm

/-! ## Rounds -/

theorem Returns.unique {s last other : State} (h : loop.Returns s last)
    (h' : loop.Returns s other) : last = other := by
  induction h with
  | arrived head =>
      cases h' with
      | arrived => rfl
      | move inside => simp [head] at inside
  | move inside move _ ih =>
      cases h' with
      | arrived head => simp [head] at inside
      | move _ move' behind =>
          obtain rfl := Option.some.inj (move.symm.trans move')
          exact ih behind

theorem Round.unique {s last other : State} (round : loop.Round s last)
    (round' : loop.Round s other) : last = other := by
  obtain ⟨-, t, move, behind⟩ := round
  obtain ⟨-, t', move', behind'⟩ := round'
  obtain rfl := Option.some.inj (move.symm.trans move')
  exact behind.unique behind'

theorem Rounds.add_le {measure : State → Nat} {n : Nat} {s last : State}
    (rounds : loop.Rounds n s last)
    (raises : ∀ t u, loop.Reaches s t → loop.Round t u → measure t < measure u) :
    measure s + n ≤ measure last := by
  induction rounds with
  | none s => exact Nat.le_refl _
  | @round n s t last first behind ih =>
      have here := raises s t .refl first
      have there := ih fun u v reached => raises u v (first.reaches.trans reached)
      omega

end Loop
end CallScript
