/-!
# Text without control sequences

A terminal takes some characters for commands: the controls, and the sequences that begin with an
escape character. `withoutControls` leaves out what a terminal would not show. Of the controls only
those that lay out text are kept: tabulator, line feed, form feed and carriage return.

A sequence is read in phases. A control that lays out text interrupts most sequences: the text from
there on is shown, and the next character that is not shown takes the sequence up again where it was
left. Some sequences carry a text of their own, which is left out to its end; if the end is missing,
nothing behind it is shown.
-/

namespace CallScript.Text

/-- How far a control sequence has been read. -/
inductive Phase where
  | plain
  | escape
  | escapeMiddle
  | command
  | deviceEntry
  | deviceParameter
  | deviceMiddle
  /-- In a text that the byte 9C ends. -/
  | string
  /-- In a text that the bell ends. -/
  | title
deriving DecidableEq

def isLayout (c : Char) : Bool := c = '\t' || c = '\n' || c = '\x0c' || c = '\r'

def isShown (c : Char) : Bool := isLayout c || (0x20 ≤ c.toNat && c.toNat ≠ 0x7f)

namespace Phase

def letsLayoutThrough : Phase → Bool
  | .plain | .escape | .escapeMiddle | .command => true
  | _ => false

def afterSign (phase : Phase) (c : Char) : Phase :=
  let isMiddle := c.toNat < 0x30
  let isParameter := c.toNat < 0x3c
  let isPrivate := c.toNat < 0x40
  match phase with
  | .plain => .plain
  | .escape =>
      if isMiddle then .escapeMiddle
      else if c = '[' then .command
      else if c = ']' then .title
      else if c = 'P' then .deviceEntry
      else if c = 'X' || c = '^' || c = '_' then .string
      else .plain
  | .escapeMiddle => if isMiddle then .escapeMiddle else .plain
  | .command => if isPrivate then .command else .plain
  | .deviceEntry =>
      if isMiddle then .deviceMiddle else if isPrivate then .deviceParameter else .string
  | .deviceParameter =>
      if isMiddle then .deviceMiddle else if isParameter then .deviceParameter else .string
  | .deviceMiddle => if isMiddle then .deviceMiddle else .string
  | .string => .string
  | .title => .title

def after (phase : Phase) (c : Char) : Phase :=
  if c = '\x18' || c = '\x1a' then .plain
  else if c = '\x1b' then .escape
  else if 0x80 ≤ c.toNat then
    if phase = .string && (String.utf8EncodeChar c).contains 0x9c then .plain else phase
  else if c.toNat < 0x20 then if phase = .title && c = '\x07' then .plain else phase
  else if c.toNat = 0x7f then phase
  else phase.afterSign c

def shows (phase : Phase) (c : Char) : Bool :=
  if isLayout c then phase.letsLayoutThrough else phase = .plain && isShown c

end Phase

/-- The characters that are shown. While text is being shown, an open sequence waits. -/
def shownChars : Bool → Phase → List Char → List Char
  | _, _, [] => []
  | true, phase, c :: rest =>
      if isShown c then
        c :: shownChars true (if 0x80 ≤ c.toNat then .plain else phase) rest
      else
        shownChars false (phase.after c) rest
  | false, phase, c :: rest =>
      if phase.shows c then c :: shownChars true phase rest
      else shownChars false (phase.after c) rest

def withoutControls (text : String) : String := String.ofList (shownChars false .plain text.toList)

theorem isShown_of_mem_shownChars {c : Char} {shown : Bool} {phase : Phase} {text : List Char}
    (member : c ∈ shownChars shown phase text) : isShown c := by
  fun_induction shownChars shown phase text with
  | case1 => simp at member
  | case2 phase d rest visible ih =>
      rcases List.mem_cons.mp member with rfl | member
      · exact visible
      · exact ih member
  | case3 phase d rest hidden ih => exact ih member
  | case4 phase d rest visible ih =>
      rcases List.mem_cons.mp member with rfl | member
      · unfold Phase.shows at visible
        split at visible
        · next layout => simp [isShown, layout]
        · exact (Bool.and_eq_true_iff.mp visible).2
      · exact ih member
  | case5 phase d rest hidden ih => exact ih member

theorem shownChars_eq_self {text : List Char} (visible : ∀ c ∈ text, isShown c) :
    shownChars false .plain text = text := by
  have shown : ∀ {phase : Phase} {text : List Char}, (∀ c ∈ text, isShown c) →
      shownChars true phase text = text := by
    intro phase text visible
    induction text generalizing phase with
    | nil => rfl
    | cons c rest ih =>
        rw [shownChars, if_pos (visible c (by simp)),
          ih fun d member => visible d (by simp [member])]
  cases text with
  | nil => rfl
  | cons c rest =>
      have first := visible c (by simp)
      have : Phase.plain.shows c := by
        unfold Phase.shows
        split <;> simp_all [Phase.letsLayoutThrough]
      rw [shownChars, if_pos this, shown fun d member => visible d (by simp [member])]

end CallScript.Text
