import Mathlib.Tactic

/-!
# Length-prefixed frames in a stream

A framing says how long the header of a frame is and how the header gives the
length of what follows.  `frames` reads a stream element by element, so it
does not depend on how the stream is cut into pieces; a stream of whole frames
is read back as these frames.
-/

structure Framing (α : Type*) where
  headerSize : Nat
  positive : 0 < headerSize
  /-- The number of elements after this header. -/
  bodySize : List α → Nat

namespace Framing

variable {α : Type*} (framing : Framing α)

/-- The header is there and all of what it announces. -/
def IsWhole (frame : List α) : Prop :=
  frame.length =
    framing.headerSize + framing.bodySize (frame.take framing.headerSize)

instance (frame : List α) : Decidable (framing.IsWhole frame) :=
  inferInstanceAs (Decidable (_ = _))

/-- The frames that end in the elements read after those pending, and what is
pending then. -/
def feed (pending : List α) : List α → List (List α) × List α
  | [] => ([], pending)
  | element :: rest =>
      if framing.IsWhole (pending ++ [element]) then
        let read := feed [] rest
        ((pending ++ [element]) :: read.1, read.2)
      else feed (pending ++ [element]) rest

def frames (stream : List α) : List (List α) :=
  (framing.feed [] stream).1

theorem feed_append (pending first second : List α) :
    framing.feed pending (first ++ second) =
      ((framing.feed pending first).1 ++
          (framing.feed (framing.feed pending first).2 second).1,
        (framing.feed (framing.feed pending first).2 second).2) := by
  induction first generalizing pending with
  | nil => rfl
  | cons element rest ih =>
      simp only [List.cons_append, feed]
      split
      · rw [ih]
        rfl
      · exact ih _

variable {framing}

/-- Nothing ends where no longer part of the elements is whole. -/
theorem feed_unfinished {pending stream : List α}
    (unfinished : ∀ read, read ≠ [] → read <+: stream →
      ¬ framing.IsWhole (pending ++ read)) :
    framing.feed pending stream = ([], pending ++ stream) := by
  induction stream generalizing pending with
  | nil => rw [feed, List.append_nil]
  | cons element rest ih =>
      have first := unfinished [element] (List.cons_ne_nil _ _)
        ⟨rest, rfl⟩
      rw [feed, if_neg first, ih, List.append_assoc, List.singleton_append]
      intro read _ isPrefix
      rw [List.append_assoc, List.singleton_append]
      exact unfinished (element :: read) (List.cons_ne_nil _ _)
        (List.cons_prefix_cons.mpr ⟨rfl, isPrefix⟩)

/-- No frame is the beginning of a longer one. -/
theorem IsWhole.eq_of_prefix {first second : List α}
    (wholeFirst : framing.IsWhole first)
    (wholeSecond : framing.IsWhole second) (isPrefix : first <+: second) :
    first = second := by
  have long : framing.headerSize ≤ first.length := by
    rw [wholeFirst]
    exact Nat.le_add_right _ _
  have sameHeader : first.take framing.headerSize =
      second.take framing.headerSize := by
    obtain ⟨rest, rfl⟩ := isPrefix
    exact (List.take_append_of_le_length long).symm
  have sameLength : first.length = second.length := by
    rw [IsWhole] at wholeFirst wholeSecond
    rw [wholeFirst, wholeSecond, sameHeader]
  exact isPrefix.eq_of_length sameLength

theorem IsWhole.ne_nil {frame : List α} (whole : framing.IsWhole frame) :
    frame ≠ [] := by
  intro empty
  have positive := framing.positive
  rw [IsWhole, empty, List.length_nil] at whole
  omega

/-- A stream that has less than its header announces. -/
theorem frames_short {stream : List α}
    (short : framing.headerSize ≤ stream.length → stream.length <
      framing.headerSize +
        framing.bodySize (stream.take framing.headerSize)) :
    framing.frames stream = [] := by
  rw [frames, feed_unfinished]
  intro read _ isPrefix whole
  rw [List.nil_append] at whole
  have long : framing.headerSize ≤ read.length := by
    rw [whole]
    exact Nat.le_add_right _ _
  obtain ⟨rest, rfl⟩ := isPrefix
  rw [List.length_append, List.take_append_of_le_length long] at short
  have total := short (Nat.le_trans long (Nat.le_add_right _ _))
  rw [IsWhole] at whole
  omega

theorem feed_whole {frame : List α} (whole : framing.IsWhole frame) :
    framing.feed [] frame = ([frame], []) := by
  have split := List.dropLast_concat_getLast whole.ne_nil
  have unfinished : framing.feed [] frame.dropLast =
      ([], frame.dropLast) := by
    apply feed_unfinished
    intro read _ isPrefix wholeRead
    have inFrame := isPrefix.trans (List.dropLast_prefix frame)
    have same := IsWhole.eq_of_prefix wholeRead whole inFrame
    have shorter := isPrefix.length_le
    have positive := List.length_pos_iff.mpr whole.ne_nil
    rw [List.nil_append] at same
    rw [same, List.length_dropLast] at shorter
    omega
  rw [← split, feed_append, unfinished]
  simp only [feed, split, if_pos whole, List.nil_append]

theorem frames_cons {frame stream : List α} (whole : framing.IsWhole frame) :
    framing.frames (frame ++ stream) = frame :: framing.frames stream := by
  rw [frames, feed_append, feed_whole whole]
  rfl

/-- Whole frames one after the other, and what follows. -/
theorem frames_flatten_append {frames : List (List α)} (stream : List α)
    (whole : ∀ frame ∈ frames, framing.IsWhole frame) :
    framing.frames (frames.flatten ++ stream) =
      frames ++ framing.frames stream := by
  induction frames with
  | nil => rfl
  | cons frame rest ih =>
      rw [List.flatten_cons, List.append_assoc,
        frames_cons (whole frame List.mem_cons_self),
        ih fun other member => whole other (List.mem_cons_of_mem _ member)]
      rfl

theorem frames_flatten {frames : List (List α)}
    (whole : ∀ frame ∈ frames, framing.IsWhole frame) :
    framing.frames frames.flatten = frames := by
  have read := frames_flatten_append [] whole
  rw [List.append_nil] at read
  exact read.trans (List.append_nil frames)

end Framing
