import WatchfaceCheck.Proofs.Annotation.Grammar
namespace WatchfaceCheck

open TypeComment

structure Decomposition where
  opening : List Char
  noted : List (TypeComment × List Char)
deriving DecidableEq, Repr

namespace Decomposition

def source (d : Decomposition) : List Char :=
  d.opening ++ d.noted.flatMap fun part => part.1.source ++ part.2

def annotated (d : Decomposition) : List Char :=
  d.opening ++ d.noted.flatMap fun part => [':', ' '] ++ part.1.path ++ part.2

def plainAt (d : Decomposition) : List Bool :=
  d.opening.map (fun _ => true)
    ++ d.noted.flatMap fun part => part.1.source.map (fun _ => false) ++ part.2.map fun _ => true

def BeginsAt (text : List Char) (position : Nat) : Prop :=
  ∃ (comment : TypeComment) (rest : List Char),
    comment.Formed ∧ text.drop position = comment.source ++ rest

structure Of (d : Decomposition) (script : List Char) : Prop where
  whole : d.source = script
  formed : ∀ part ∈ d.noted, part.1.Formed
  silent : ∀ position, d.plainAt[position]? = some true → ¬ BeginsAt script position

def empty : Decomposition := ⟨[], []⟩

def push (c : Char) (d : Decomposition) : Decomposition := ⟨c :: d.opening, d.noted⟩

def note (comment : TypeComment) (d : Decomposition) : Decomposition :=
  ⟨[], (comment, d.opening) :: d.noted⟩

def ofPieces : List Piece → Decomposition
  | [] => empty
  | .plain c :: rest => (ofPieces rest).push c
  | .comment comment :: rest => (ofPieces rest).note comment

theorem source_push (c : Char) (d : Decomposition) : (d.push c).source = c :: d.source := rfl

theorem source_note (comment : TypeComment) (d : Decomposition) :
    (d.note comment).source = comment.source ++ d.source := by
  simp [source, note]

theorem annotated_push (c : Char) (d : Decomposition) :
    (d.push c).annotated = c :: d.annotated := rfl

theorem annotated_note (comment : TypeComment) (d : Decomposition) :
    (d.note comment).annotated = comment.annotation ++ d.annotated := by
  simp [annotated, note, annotation]

theorem plainAt_note (comment : TypeComment) (d : Decomposition) :
    (d.note comment).plainAt = comment.source.map (fun _ => false) ++ d.plainAt := by
  simp [plainAt, note]

theorem plainAt_beyond (comment : TypeComment) (d : Decomposition) (position : Nat) :
    (d.note comment).plainAt[comment.source.length + position]? = d.plainAt[position]? := by
  rw [plainAt_note, List.getElem?_append_right (by simp)]
  simp

theorem built (d : Decomposition) :
    d = empty ∨ (∃ c rest, d = push c rest) ∨ ∃ comment rest, d = note comment rest := by
  obtain ⟨opening, noted⟩ := d
  cases opening with
  | cons c more => exact .inr (.inl ⟨c, ⟨more, noted⟩, rfl⟩)
  | nil =>
    cases noted with
    | nil => exact .inl rfl
    | cons part others => exact .inr (.inr ⟨part.1, ⟨part.2, others⟩, rfl⟩)

theorem beginsAt_zero_iff {text : List Char} :
    BeginsAt text 0 ↔ ∃ comment rest, read? text = some (comment, rest) := by
  unfold BeginsAt
  simp only [List.drop_zero, read?_iff]

theorem not_beginsAt_nil (position : Nat) : ¬ BeginsAt [] position := by
  rintro ⟨comment, rest, _, same⟩
  simp [TypeComment.source, TypeComment.opening] at same

theorem beginsAt_beyond (front text : List Char) (position : Nat) :
    BeginsAt (front ++ text) (front.length + position) ↔ BeginsAt text position := by
  unfold BeginsAt
  rw [List.drop_length_add_append]

theorem empty_of_nil : empty.Of [] where
  whole := rfl
  formed := by simp [empty]
  silent := fun position _ => not_beginsAt_nil position

theorem of_push_iff {c : Char} {d : Decomposition} {rest : List Char} :
    (d.push c).Of (c :: rest) ↔ ¬ BeginsAt (c :: rest) 0 ∧ d.Of rest := by
  constructor
  · intro taken
    refine ⟨taken.silent 0 rfl, ?_, taken.formed, ?_⟩
    · exact List.tail_eq_of_cons_eq taken.whole
    · intro position plain
      exact taken.silent (position + 1) plain
  · rintro ⟨first, taken⟩
    refine ⟨?_, taken.formed, ?_⟩
    · rw [source_push, taken.whole]
    · intro position plain
      cases position with
      | zero => exact first
      | succ position => exact taken.silent position plain

theorem of_note_iff {comment : TypeComment} {d : Decomposition} {rest : List Char} :
    (d.note comment).Of (comment.source ++ rest) ↔ comment.Formed ∧ d.Of rest := by
  constructor
  · intro taken
    refine ⟨taken.formed _ (List.mem_cons_self ..), ?_, ?_, ?_⟩
    · have whole := taken.whole
      rw [source_note] at whole
      exact List.append_cancel_left whole
    · exact fun part listed => taken.formed part (List.mem_cons_of_mem _ listed)
    · intro position plain begins
      refine taken.silent (comment.source.length + position) ?_ ?_
      · rw [plainAt_beyond, plain]
      · exact (beginsAt_beyond _ _ _).mpr begins
  · rintro ⟨formed, taken⟩
    refine ⟨?_, ?_, ?_⟩
    · rw [source_note, taken.whole]
    · intro part listed
      rcases List.mem_cons.mp listed with rfl | other
      · exact formed
      · exact taken.formed part other
    · intro position plain begins
      -- A plain position lies beyond the comment.
      have beyond : comment.source.length ≤ position := by
        by_contra within
        rw [plainAt_note, List.getElem?_append_left (by simpa using within), List.getElem?_map,
          Option.map_eq_some_iff] at plain
        obtain ⟨_, _, never⟩ := plain
        cases never
      obtain ⟨further, rfl⟩ := Nat.exists_eq_add_of_le beyond
      rw [plainAt_beyond] at plain
      exact taken.silent further plain ((beginsAt_beyond _ _ _).mp begins)

-- The pieces of a text, read from the left, give its only decomposition.
-- Where a comment begins, a decomposition cannot go on in plain text, and two comments that begin
-- at one place are the same; where none begins, it cannot go on with a comment.
theorem of_iff {text : List Char} {d : Decomposition} :
    d.Of text ↔ d = ofPieces (Piece.ofText text) := by
  fun_induction Piece.ofText text generalizing d with
  | case1 =>
    constructor
    · intro taken
      have whole := taken.whole
      obtain rfl | ⟨c, rest, rfl⟩ | ⟨comment, rest, rfl⟩ := d.built
      · rfl
      · cases whole
      · simp [source_note, TypeComment.source, TypeComment.opening] at whole
    · rintro rfl
      exact empty_of_nil
  | case2 c rest comment after got ih =>
    obtain ⟨formed, same⟩ := read?_iff.mp got
    rw [same]
    constructor
    · intro taken
      have whole := taken.whole
      obtain rfl | ⟨_, others, rfl⟩ | ⟨other, others, rfl⟩ := d.built
      · simp [source, empty, TypeComment.source, TypeComment.opening] at whole
      -- Plain text begins where the comment does.
      · exact absurd ⟨comment, after, formed, rfl⟩ (taken.silent 0 rfl)
      · rw [source_note] at whole
        have formed' := taken.formed _ (List.mem_cons_self ..)
        obtain ⟨rfl, -⟩ := source_append_inj formed' formed whole
        exact congrArg (note other) (ih.mp (of_note_iff.mp taken).2)
    · rintro rfl
      exact of_note_iff.mpr ⟨formed, ih.mpr rfl⟩
  | case3 c rest got ih =>
    have none : ¬ BeginsAt (c :: rest) 0 := by
      rw [beginsAt_zero_iff]
      rintro ⟨comment, after, found⟩
      rw [got] at found
      cases found
    constructor
    · intro taken
      have whole := taken.whole
      obtain rfl | ⟨_, others, rfl⟩ | ⟨comment, others, rfl⟩ := d.built
      · cases whole
      · rw [source_push] at whole
        cases whole
        exact congrArg (push _) (ih.mp (of_push_iff.mp taken).2)
      · rw [source_note] at whole
        have formed := taken.formed _ (List.mem_cons_self ..)
        exact absurd ⟨comment, others.source, formed, whole.symm⟩ none
    · rintro rfl
      exact of_push_iff.mpr ⟨none, ih.mpr rfl⟩

theorem annotated_ofPieces (pieces : List Piece) :
    (ofPieces pieces).annotated = pieces.flatMap Piece.annotated := by
  induction pieces with
  | nil => rfl
  | cons piece rest ih =>
    cases piece with
    | plain c => rw [ofPieces, annotated_push, ih]; rfl
    | comment comment => rw [ofPieces, annotated_note, ih]; rfl

theorem noted_ofPieces_eq_nil_iff (pieces : List Piece) :
    (ofPieces pieces).noted = [] ↔ pieces.any Piece.isComment = false := by
  induction pieces with
  | nil => exact iff_of_true rfl rfl
  | cons piece rest ih =>
    cases piece with
    | plain c => exact ih
    | comment comment => simp [ofPieces, note, Piece.isComment]

-- Each comment loses its delimiters and blanks and gains a colon and a space.
theorem length_annotated (d : Decomposition) :
    d.annotated.length + 3 * d.noted.length ≤ d.source.length := by
  obtain ⟨opening, noted⟩ := d
  induction noted with
  | nil => simp [annotated, source]
  | cons part others ih =>
    simp only [annotated, source, List.flatMap_cons, List.length_append, List.length_cons,
      TypeComment.source, TypeComment.opening, TypeComment.closing, List.length_nil] at ih ⊢
    omega

theorem annotated_eq_source_iff (d : Decomposition) : d.annotated = d.source ↔ d.noted = [] := by
  constructor
  · intro same
    have shorter := d.length_annotated
    rw [same] at shorter
    exact List.length_eq_zero_iff.mp (by omega)
  · intro none
    simp [annotated, source, none]

end Decomposition

namespace TypeComment

theorem annotate_by_only_decomposition (script : String) :
    ∃ parts : Decomposition, parts.Of script.toList
      ∧ (∀ other : Decomposition, other.Of script.toList → other = parts)
      ∧ (annotate script).toList = parts.annotated
      ∧ (occurs script = false ↔ parts.noted = [])
      ∧ (occurs script = false ↔ annotate script = script) := by
  let parts := Decomposition.ofPieces (Piece.ofText script.toList)
  have taken : parts.Of script.toList := Decomposition.of_iff.mpr rfl
  have annotated : (annotate script).toList = parts.annotated := by
    rw [Decomposition.annotated_ofPieces, annotate, String.toList_ofList]
    rfl
  have borrowed : occurs script = false ↔ parts.noted = [] :=
    (Decomposition.noted_ofPieces_eq_nil_iff _).symm
  refine ⟨parts, taken, fun other => Decomposition.of_iff.mp, annotated, borrowed, ?_⟩
  rw [borrowed, ← parts.annotated_eq_source_iff, taken.whole, ← annotated]
  exact String.toList_inj

-- The slash that closes one comment does not open the next.
example : annotate "x/*/*: T.U *//*: V */*: W */" = "x/*: T.U: V*: W */" := by
  decide +kernel

end TypeComment

end WatchfaceCheck
