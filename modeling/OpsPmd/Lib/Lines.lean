import Mathlib.Data.List.Basic

/-!
# Lines of a text

A text of lines, each of which ends with a terminator. Whoever writes lines does not always see to
it that there is no terminator in them. They can still be read back where the parts after the first
can be told from the start of a line.

* `Folded` — a line of which only the first part looks like a start
* `gather_read_write` — such lines are read back
-/

namespace Lines

variable {α : Type*} {sep : α} {l rest : List α} {ls : List (List α)}

/-- The lines one after the other, each with a terminator at its end. -/
def write (sep : α) (ls : List (List α)) : List α := ls.flatMap (· ++ [sep])

/-- What stands before each terminator. What follows the last one is not a line. -/
def read [DecidableEq α] (sep : α) (text : List α) : List (List α) := (text.splitOn sep).dropLast

/-! ## Writing -/

@[simp] theorem write_nil : write sep [] = [] := rfl

@[simp] theorem write_cons : write sep (l :: ls) = l ++ sep :: write sep ls := by
  simp [write]

theorem write_append (ls ls' : List (List α)) :
    write sep (ls ++ ls') = write sep ls ++ write sep ls' :=
  List.flatMap_append

/-! ## Reading -/

variable [DecidableEq α]

@[simp] theorem read_nil : read sep [] = [] := by simp [read]

/-- The parts of the first line come first. -/
theorem read_append (l rest : List α) :
    read sep (l ++ sep :: rest) = l.splitOn sep ++ read sep rest := by
  unfold read
  rw [List.splitOn_append_cons_self,
    List.dropLast_append_of_ne_nil (List.splitOn_ne_nil sep rest)]

/-! ## Parts of a line -/

/-- What was read of the current part stays without separators. -/
theorem notMem_of_mem_splitOnPPrepend : ∀ (text : List α) {acc : List α}, sep ∉ acc →
    ∀ part ∈ text.splitOnPPrepend (· == sep) acc, sep ∉ part
  | [], acc, hacc, part, hpart => by
    rw [List.splitOnPPrepend_nil, List.mem_singleton] at hpart
    rwa [hpart, List.mem_reverse]
  | x :: text, acc, hacc, part, hpart => by
    rw [List.splitOnPPrepend_cons_eq_if] at hpart
    by_cases hx : x = sep
    · rw [if_pos (by simpa using hx), List.mem_cons] at hpart
      rcases hpart with rfl | hpart
      · rwa [List.mem_reverse]
      · exact notMem_of_mem_splitOnPPrepend text List.not_mem_nil part hpart
    · rw [if_neg (by simpa using hx)] at hpart
      refine notMem_of_mem_splitOnPPrepend text (fun hmem => ?_) part hpart
      rcases List.mem_cons.mp hmem with heq | hmem
      · exact hx heq.symm
      · exact hacc hmem

theorem notMem_of_mem_splitOn {text part : List α} (h : part ∈ text.splitOn sep) : sep ∉ part :=
  notMem_of_mem_splitOnPPrepend text List.not_mem_nil part h

omit [DecidableEq α] in
theorem length_le_intercalate (sep : α) {part : List α} : ∀ {parts : List (List α)}, part ∈ parts →
    part.length ≤ ([sep].intercalate parts).length
  | [p], h => by simp [List.mem_singleton.mp h]
  | p :: q :: parts, h => by
    rw [List.intercalate_cons_cons, List.length_append, List.length_append]
    rcases List.mem_cons.mp h with rfl | h
    · omega
    · have hrest := length_le_intercalate sep h
      omega

/-- A part is no longer than the whole. -/
theorem length_le_of_mem_splitOn {text part : List α} (h : part ∈ text.splitOn sep) :
    part.length ≤ text.length := by
  have hle := length_le_intercalate sep h
  rwa [List.intercalate_splitOn] at hle

/-- What stands before a text without a terminator belongs to its first part. -/
theorem splitOn_append (h : sep ∉ l) (text : List α) :
    ∃ first more, text.splitOn sep = first :: more ∧
      (l ++ text).splitOn sep = (l ++ first) :: more := by
  obtain ⟨first, more, hsplit⟩ := List.exists_cons_of_ne_nil (List.splitOn_ne_nil sep text)
  refine ⟨first, more, hsplit, ?_⟩
  have hparts : ∀ part ∈ first :: more, sep ∉ part := fun part hm =>
    notMem_of_mem_splitOn (hsplit ▸ hm)
  have htext : l ++ text = [sep].intercalate ((l ++ first) :: more) := by
    have hjoin : [sep].intercalate (first :: more) = text := by
      rw [← hsplit, List.intercalate_splitOn]
    rw [← hjoin]
    cases more with
    | nil => simp
    | cons next more => simp
  rw [htext, List.splitOn_intercalate sep _ (List.cons_ne_nil _ _)]
  intro part hm
  rcases List.mem_cons.mp hm with rfl | hm
  · rw [List.mem_append, not_or]
    exact ⟨h, hparts first List.mem_cons_self⟩
  · exact hparts part (List.mem_cons_of_mem _ hm)

/-! ## Lines that go on -/

/--
Parts that start nothing go on with the line before: those of a line before these, and the lines.
-/
def gather (starts : List α → Bool) (sep : α) : List (List α) → List (List α) × List (List α)
  | [] => ([], [])
  | part :: rest =>
    let (more, ls) := gather starts sep rest
    if starts part then ([], [sep].intercalate (part :: more) :: ls) else (part :: more, ls)

/-- Of the parts of a line the first looks like a start, and no other does. -/
def Folded (starts : List α → Bool) (sep : α) (l : List α) : Prop :=
  ∃ first more, l.splitOn sep = first :: more ∧ starts first = true ∧
    ∀ part ∈ more, starts part = false

variable {starts : List α → Bool}

theorem folded_of_notMem (h : sep ∉ l) (hstarts : starts l = true) : Folded starts sep l :=
  ⟨l, [], List.splitOn_eq_singleton h, hstarts, fun _ hm => (List.not_mem_nil hm).elim⟩

omit [DecidableEq α] in
theorem gather_append (rest : List (List α)) : ∀ {more : List (List α)},
    (∀ part ∈ more, starts part = false) → gather starts sep (more ++ rest) =
      (more ++ (gather starts sep rest).1, (gather starts sep rest).2)
  | [], _ => rfl
  | part :: more, h => by
    rw [List.cons_append, gather, gather_append rest fun p hp => h p (List.mem_cons_of_mem _ hp)]
    simp [h part List.mem_cons_self]

/-- **Folded lines are read back.** -/
theorem gather_read_write : ∀ {ls : List (List α)}, (∀ l ∈ ls, Folded starts sep l) →
    gather starts sep (read sep (write sep ls)) = ([], ls)
  | [], _ => by rw [write_nil, read_nil]; rfl
  | l :: ls, h => by
    obtain ⟨first, more, hsplit, hfirst, hmore⟩ := h l List.mem_cons_self
    have hrest := gather_read_write fun l' hl' => h l' (List.mem_cons_of_mem _ hl')
    rw [write_cons, read_append, hsplit, List.cons_append, gather, gather_append _ hmore, hrest]
    simp only [hfirst, if_true, List.append_nil]
    rw [← hsplit, List.intercalate_splitOn]

end Lines
