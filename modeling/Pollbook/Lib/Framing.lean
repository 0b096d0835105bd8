import Mathlib.Data.List.Infix
import Mathlib.Data.List.TakeWhile

/-!
# Frames on a stream

A frame is the length of a text on one line and the text on the next. A reader
takes a stream in whatever pieces it arrives, keeps what it has not read, and
reads line by line: a length, then a text of that length, then a length again.

Where a reader is in a stream of frames is its `Position`: what it has not read,
followed by what has not arrived, is the rest of the stream. A move of the
reader hands over the next text or none (`Position.move`), so the texts come out
as they went in, however the stream was cut. A frame whose length line says
something else ends the reading (`Garbled`).
-/

namespace Pollbook

namespace Framing

/-! ## Frames -/

/-- How frames are written: the letter that ends a line, and how a length below
a limit is written on a line and read from it. -/
structure Format (α : Type) where
  stop : α
  limit : Nat
  write : Nat → List α
  read : List α → Option Nat
  stop_notMem_write : ∀ n, stop ∉ write n
  read_write : ∀ n < limit, read (write n ++ [stop]) = some n

variable {α : Type}

namespace Format

variable (fmt : Format α)

/-- A text, with its length in front of it. -/
def frame (text : List α) : List α :=
  fmt.write text.length ++ fmt.stop :: (text ++ [fmt.stop])

def frames (texts : List (List α)) : List α := texts.flatMap fmt.frame

/-- The text fits in a frame. -/
structure Fits (text : List α) : Prop where
  stop_notMem : fmt.stop ∉ text
  short : text.length < fmt.limit

theorem frames_cons (text : List α) (texts : List (List α)) :
    fmt.frames (text :: texts) = fmt.frame text ++ fmt.frames texts := List.flatMap_cons

/-- A frame, with what follows its length line set apart. -/
theorem frame_append (text rest : List α) :
    fmt.frame text ++ rest =
      fmt.write text.length ++ fmt.stop :: (text ++ fmt.stop :: rest) := by
  rw [frame, List.append_assoc, List.cons_append, List.append_assoc, List.singleton_append]

end Format

/-! ## Readers -/

/-- What the line a reader waits for should be. -/
inductive Awaited where
  | size
  | payload (size : Nat)

structure Reader (α : Type) where
  awaited : Option Awaited
  unread : List α

/-! ## Positions -/

/-- A rest of a stream that is no frame: nothing, or two lines of which the first
says something else than the length of the second. -/
inductive Garbled (fmt : Format α) : List α → Prop
  | nothing : Garbled fmt []
  | wrong {head text : List α} (more : List α) (hhead : fmt.stop ∉ head)
      (htext : fmt.stop ∉ text)
      (hsize : ∀ size, fmt.read (head ++ [fmt.stop]) = some size → size ≠ text.length) :
      Garbled fmt (head ++ fmt.stop :: (text ++ fmt.stop :: more))

/-- Where a reader is in a stream of frames with `tail` behind them: the texts it
has still to hand over, and what has not arrived. -/
inductive Position (fmt : Format α) (tail : List α) :
    List (List α) → List α → Reader α → Prop
  | between {todo : List (List α)} {ahead unread : List α}
      (hstream : unread ++ ahead = fmt.frames todo ++ tail) :
      Position fmt tail todo ahead ⟨some .size, unread⟩
  | within {text : List α} {todo : List (List α)} {ahead unread : List α}
      (hstream : unread ++ ahead = text ++ fmt.stop :: (fmt.frames todo ++ tail)) :
      Position fmt tail (text :: todo) ahead ⟨some (.payload text.length), unread⟩
  | astray {size : Nat} {text more ahead unread : List α} (htext : fmt.stop ∉ text)
      (hsize : size ≠ text.length) (hstream : unread ++ ahead = text ++ fmt.stop :: more) :
      Position fmt tail [] ahead ⟨some (.payload size), unread⟩
  | closed {ahead unread : List α} : Position fmt tail [] ahead ⟨none, unread⟩

namespace Position

variable {fmt : Format α} {tail ahead letters : List α} {todo : List (List α)} {r : Reader α}

theorem start (fmt : Format α) (tail : List α) (texts : List (List α)) :
    Position fmt tail texts (fmt.frames texts ++ tail) ⟨some .size, []⟩ := .between rfl

theorem arrive (h : Position fmt tail todo (letters ++ ahead) r) :
    Position fmt tail todo ahead ⟨r.awaited, r.unread ++ letters⟩ := by
  cases h with
  | between hstream => exact .between (by rw [List.append_assoc, hstream])
  | within hstream => exact .within (by rw [List.append_assoc, hstream])
  | astray htext hsize hstream =>
    exact .astray htext hsize (by rw [List.append_assoc, hstream])
  | closed => exact .closed

/-- Before the last text a reader waits for a line. -/
theorem waits {text : List α} (h : Position fmt tail (text :: todo) ahead r) :
    r.awaited.isSome = true := by
  cases h with
  | between | within => rfl

end Position

/-! ## Lines -/

variable [DecidableEq α]

/-- The line in front of a stream, if there is a complete one. -/
def line (stop : α) (unread : List α) : List α := unread.takeWhile (· ≠ stop) ++ [stop]

/-- What follows that line. -/
def behind (stop : α) (unread : List α) : List α := unread.drop (line stop unread).length

theorem line_append {stop : α} {text : List α} (h : stop ∉ text) (rest : List α) :
    line stop (text ++ stop :: rest) = text ++ [stop] := by
  have hall : ∀ a ∈ text, decide (a ≠ stop) = true := by
    intro a ha
    exact decide_eq_true fun heq => h (heq ▸ ha)
  rw [line, List.takeWhile_append_of_pos hall, List.takeWhile_cons_of_neg (by simp),
    List.append_nil]

theorem behind_append {stop : α} {text : List α} (h : stop ∉ text) (rest : List α) :
    behind stop (text ++ stop :: rest) = rest := by
  have hsplit : text ++ stop :: rest = (text ++ [stop]) ++ rest := by
    rw [List.append_assoc, List.singleton_append]
  rw [behind, line_append h, hsplit, List.drop_left]

/-- Where a complete line has arrived, it is the one the stream begins with. -/
theorem arrived_line {stop : α} {unread ahead text rest : List α} (h : stop ∉ text)
    (hstream : unread ++ ahead = text ++ stop :: rest) (hcomplete : stop ∈ unread) :
    line stop unread = text ++ [stop] ∧ behind stop unread ++ ahead = rest := by
  rcases List.append_eq_append_iff.mp hstream with ⟨missing, rfl, -⟩ | ⟨more, rfl, hmore⟩
  · exact absurd (List.mem_append_left missing hcomplete) h
  · cases more with
    | nil =>
      rw [List.append_nil] at hcomplete
      exact absurd hcomplete h
    | cons a more =>
      obtain ⟨rfl, hrest⟩ := List.cons.inj hmore
      exact ⟨line_append h more, by rw [behind_append h]; exact hrest.symm⟩

/-- A line has arrived once no more is missing than what follows it. -/
theorem stop_mem_of_arrived {stop : α} {unread ahead text rest : List α}
    (hstream : unread ++ ahead = text ++ stop :: rest) (hahead : ahead.length ≤ rest.length) :
    stop ∈ unread := by
  rcases List.append_eq_append_iff.mp hstream with ⟨missing, -, rfl⟩ | ⟨more, rfl, hmore⟩
  · rw [List.length_append, List.length_cons] at hahead
    omega
  · cases more with
    | nil =>
      rw [List.nil_append] at hmore
      rw [← hmore, List.length_cons] at hahead
      omega
    | cons a more =>
      rw [(List.cons.inj hmore).1]
      exact List.mem_append_right text List.mem_cons_self

/-! ## Moves -/

/-- The reader has a complete line of the announced length. -/
structure Reader.Holds (fmt : Format α) (r : Reader α) (text : List α) : Prop where
  awaited : r.awaited = some (.payload ((line fmt.stop r.unread).length - 1))
  complete : fmt.stop ∈ r.unread
  text : text = line fmt.stop r.unread

/-- One move of a reader: what arrives, and what is handed over. -/
inductive Move (fmt : Format α) (r : Reader α) : List α → List (List α) → Reader α → Prop
  | still : Move fmt r [] [] r
  | arrived {awaited : Awaited} (hawaited : r.awaited = some awaited) (letters : List α) :
      Move fmt r letters [] ⟨r.awaited, r.unread ++ letters⟩
  | sized {size : Nat} (hawaited : r.awaited = some .size) (hcomplete : fmt.stop ∈ r.unread)
      (hsize : fmt.read (line fmt.stop r.unread) = some size) :
      Move fmt r [] [] ⟨some (.payload size), behind fmt.stop r.unread⟩
  | refused {size : Nat} (hawaited : r.awaited = some (.payload size))
      (hcomplete : fmt.stop ∈ r.unread) (hsize : size ≠ (line fmt.stop r.unread).length - 1) :
      Move fmt r [] [] ⟨none, r.unread⟩
  | handed {text : List α} (hholds : r.Holds fmt text) :
      Move fmt r [] [text] ⟨some .size, behind fmt.stop r.unread⟩

namespace Position

variable {fmt : Format α} {tail ahead letters : List α} {todo handed : List (List α)}
  {r r' : Reader α}

/-- The length line is the one of the next frame. -/
theorem size {size : Nat} (hfits : ∀ text ∈ todo, fmt.Fits text) (htail : Garbled fmt tail)
    (h : Position fmt tail todo ahead r) (hawaited : r.awaited = some .size)
    (hcomplete : fmt.stop ∈ r.unread) (hsize : fmt.read (line fmt.stop r.unread) = some size) :
    Position fmt tail todo ahead ⟨some (.payload size), behind fmt.stop r.unread⟩ := by
  cases h with
  | within => cases hawaited
  | astray => cases hawaited
  | closed => cases hawaited
  | between hstream =>
  dsimp only at hcomplete hsize ⊢
  cases todo with
  | cons text todo =>
    have hshort := (hfits text List.mem_cons_self).short
    rw [fmt.frames_cons, List.append_assoc, fmt.frame_append] at hstream
    obtain ⟨hline, hbehind⟩ :=
      arrived_line (fmt.stop_notMem_write text.length) hstream hcomplete
    rw [hline, fmt.read_write _ hshort, Option.some.injEq] at hsize
    subst hsize
    exact .within hbehind
  | nil =>
    rw [Format.frames, List.flatMap_nil, List.nil_append] at hstream
    cases htail with
    | nothing =>
      obtain ⟨rfl, rfl⟩ := List.append_eq_nil_iff.mp hstream
      exact absurd hcomplete List.not_mem_nil
    | wrong more hhead htext hwrong =>
      obtain ⟨hline, hbehind⟩ := arrived_line hhead hstream hcomplete
      rw [hline] at hsize
      exact .astray htext (hwrong size hsize) hbehind

/-- What is handed over is the next text. -/
theorem holds {message : List α} (hfits : ∀ text ∈ todo, fmt.Fits text)
    (h : Position fmt tail todo ahead r) (hholds : r.Holds fmt message) :
    ∃ text rest, todo = text :: rest ∧ message = text ++ [fmt.stop] ∧
      Position fmt tail rest ahead ⟨some .size, behind fmt.stop r.unread⟩ := by
  obtain ⟨hawaited, hcomplete, rfl⟩ := hholds
  cases h with
  | between => cases hawaited
  | closed => cases hawaited
  | @within text todo ahead unread hstream =>
    have htext := (hfits text List.mem_cons_self).stop_notMem
    obtain ⟨hline, hbehind⟩ := arrived_line htext hstream hcomplete
    exact ⟨text, todo, rfl, hline, .between hbehind⟩
  | @astray size text more ahead unread htext hsize hstream =>
    obtain ⟨hline, -⟩ := arrived_line htext hstream hcomplete
    dsimp only at hawaited
    rw [hline, List.length_append, List.length_singleton, Nat.add_sub_cancel, Option.some.injEq,
      Awaited.payload.injEq] at hawaited
    exact absurd hawaited hsize

/-- Only a line that was announced wrongly is refused. -/
theorem refuse {size : Nat} (hfits : ∀ text ∈ todo, fmt.Fits text)
    (h : Position fmt tail todo ahead r) (hawaited : r.awaited = some (.payload size))
    (hcomplete : fmt.stop ∈ r.unread) (hsize : size ≠ (line fmt.stop r.unread).length - 1) :
    todo = [] := by
  cases h with
  | between => cases hawaited
  | closed => cases hawaited
  | astray => rfl
  | @within text todo ahead unread hstream =>
    have htext := (hfits text List.mem_cons_self).stop_notMem
    obtain ⟨hline, -⟩ := arrived_line htext hstream hcomplete
    dsimp only at hawaited hsize
    rw [Option.some.injEq, Awaited.payload.injEq] at hawaited
    rw [hline, List.length_append, List.length_singleton, Nat.add_sub_cancel] at hsize
    exact absurd hawaited.symm hsize

/-- A move hands over the next text or none, and the position goes on behind it. -/
theorem move (hfits : ∀ text ∈ todo, fmt.Fits text) (htail : Garbled fmt tail)
    (h : Position fmt tail todo (letters ++ ahead) r) (hmove : Move fmt r letters handed r') :
    ∃ done rest, todo = done ++ rest ∧ handed = done.map (· ++ [fmt.stop]) ∧
      Position fmt tail rest ahead r' := by
  cases hmove with
  | still => exact ⟨[], todo, rfl, rfl, h⟩
  | arrived _ letters => exact ⟨[], todo, rfl, rfl, h.arrive⟩
  | sized hawaited hcomplete hsize =>
    exact ⟨[], todo, rfl, rfl, h.size hfits htail hawaited hcomplete hsize⟩
  | refused hawaited hcomplete hsize =>
    obtain rfl := h.refuse hfits hawaited hcomplete hsize
    exact ⟨[], [], rfl, rfl, .closed⟩
  | @handed message hholds =>
    obtain ⟨text, rest, rfl, rfl, hnext⟩ := h.holds hfits hholds
    exact ⟨[text], rest, rfl, rfl, hnext⟩

/-- Once all frames have arrived, it has one. -/
theorem complete {text : List α} (h : Position fmt tail (text :: todo) ahead r)
    (hahead : ahead.length ≤ tail.length) : fmt.stop ∈ r.unread := by
  have hrest : ahead.length ≤ (fmt.frames todo ++ tail).length := by
    rw [List.length_append]
    omega
  cases h with
  | within hstream => exact stop_mem_of_arrived hstream hrest
  | between hstream =>
    rw [fmt.frames_cons, List.append_assoc, fmt.frame_append] at hstream
    refine stop_mem_of_arrived hstream ?_
    rw [List.length_append, List.length_cons]
    omega

end Position

end Framing

end Pollbook
