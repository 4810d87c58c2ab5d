import Mathlib.Data.List.TakeWhile
import WatchfaceCheck.TypeComment
namespace WatchfaceCheck

namespace Text

def blankCodes : List Nat :=
  [9, 10, 11, 12, 13, 0x20, 0x85, 0xA0, 0x1680, 0x2000, 0x2001, 0x2002, 0x2003, 0x2004, 0x2005,
   0x2006, 0x2007, 0x2008, 0x2009, 0x200A, 0x2028, 0x2029, 0x202F, 0x205F, 0x3000]

theorem toNat_mem_blankCodes {c : Char} (blank : isBlank c = true) : c.toNat ∈ blankCodes := by
  simp only [isBlank, Bool.or_eq_true, Bool.and_eq_true, decide_eq_true_eq, beq_iff_eq] at blank
  simp only [blankCodes, List.mem_cons, List.not_mem_nil, or_false]
  omega

theorem not_isWordChar_of_isBlank {c : Char} (blank : isBlank c = true) :
    isWordChar c = false := by
  have checked : blankCodes.all (fun code => !isWordChar (Char.ofNat code)) = true := by
    decide +kernel
  have apart := List.all_eq_true.mp checked c.toNat (toNat_mem_blankCodes blank)
  rw [Char.ofNat_toNat] at apart
  simpa using apart

end Text

open Text

namespace TypeComment

inductive Name : List Char → Prop where
  | intro {c : Char} {rest : List Char} (starts : startsName c = true)
      (continues : ∀ d ∈ rest, continuesName d = true) : Name (c :: rest)

inductive Dotted : List Char → Prop where
  | name {name : List Char} (named : Name name) : Dotted name
  | dot {name path : List Char} (named : Name name) (dotted : Dotted path) :
      Dotted (name ++ '.' :: path)

structure Formed (note : TypeComment) : Prop where
  lead : ∀ c ∈ note.lead, isBlank c = true
  path : Dotted note.path
  trail : ∀ c ∈ note.trail, isBlank c = true

theorem isName_iff {text : List Char} : isName text = true ↔ Name text := by
  cases text with
  | nil =>
    refine iff_of_false (by simp [isName]) ?_
    rintro ⟨⟩
  | cons c rest =>
    rw [isName, Bool.and_eq_true, List.all_eq_true]
    constructor
    · rintro ⟨starts, continues⟩
      exact .intro starts continues
    · rintro ⟨starts, continues⟩
      exact ⟨starts, continues⟩

theorem toNat_lt_of_isAlpha {c : Char} (letter : c.isAlpha = true) : c.toNat < 0x80 := by
  have either : (c.isUpper || c.isLower) = true := letter
  rcases (Bool.or_eq_true _ _).mp either with upper | lower
  · have bounds : 65 ≤ c.val ∧ c.val ≤ 90 := of_decide_eq_true upper
    exact Nat.lt_of_le_of_lt (UInt32.le_iff_toNat_le.mp bounds.2) (by decide)
  · have bounds : decide (97 ≤ c.val) = true ∧ decide (c.val ≤ 122) = true :=
      (Bool.and_eq_true _ _).mp lower
    have high := UInt32.le_iff_toNat_le.mp (of_decide_eq_true bounds.2)
    exact Nat.lt_of_le_of_lt high (by decide)

theorem continuesName_of_startsName {c : Char} (starts : startsName c = true) :
    continuesName c = true := by
  simp only [startsName, Bool.or_eq_true, beq_iff_eq] at starts
  rcases starts with (letter | rfl) | rfl
  · have low := toNat_lt_of_isAlpha letter
    simp [continuesName, isWordChar, low, isAsciiWord, Char.isAlphanum, letter]
  · decide
  · decide

theorem inPath_of_continuesName {c : Char} (continues : continuesName c = true) :
    inPath c = true := by
  simp [inPath, continues]

theorem not_inPath_of_isBlank {c : Char} (blank : isBlank c = true) : inPath c = false := by
  have wordless := not_isWordChar_of_isBlank blank
  have dollar : c ≠ '$' := by rintro rfl; exact absurd blank (by decide)
  have dot : c ≠ '.' := by rintro rfl; exact absurd blank (by decide)
  simp [inPath, continuesName, wordless, dollar, dot]

theorem not_isBlank_of_inPath {c : Char} (part : inPath c = true) : isBlank c = false := by
  cases blank : isBlank c with
  | false => rfl
  | true =>
    rw [not_inPath_of_isBlank blank] at part
    cases part

theorem Name.all_continue {name : List Char} (named : Name name) :
    ∀ c ∈ name, continuesName c = true := by
  obtain ⟨starts, continues⟩ := named
  intro c listed
  rcases List.mem_cons.mp listed with rfl | later
  · exact continuesName_of_startsName starts
  · exact continues c later

theorem Name.no_dot {name : List Char} (named : Name name) : '.' ∉ name := by
  intro listed
  have continues := named.all_continue '.' listed
  revert continues
  decide

theorem Dotted.all_inPath {path : List Char} (dotted : Dotted path) :
    ∀ c ∈ path, inPath c = true := by
  induction dotted with
  | name named => exact fun c listed => inPath_of_continuesName (named.all_continue c listed)
  | dot named _ ih =>
    intro c listed
    rcases List.mem_append.mp listed with first | later
    · exact inPath_of_continuesName (named.all_continue c first)
    · rcases List.mem_cons.mp later with rfl | beyond
      · rfl
      · exact ih c beyond

theorem Dotted.ne_nil {path : List Char} (dotted : Dotted path) : path ≠ [] := by
  cases dotted with
  | name named =>
    obtain ⟨_, _⟩ := named
    exact List.cons_ne_nil _ _
  | dot named _ => simp

theorem dotted_joinWith {names : List (List Char)} (some : names ≠ [])
    (named : ∀ name ∈ names, Name name) : Dotted (joinWith '.' names) := by
  induction names with
  | nil => exact absurd rfl some
  | cons first others ih =>
    have head := named first (List.mem_cons_self ..)
    cases others with
    | nil => exact .name head
    | cons second more =>
      have tail := ih (List.cons_ne_nil _ _) fun name listed =>
        named name (List.mem_cons_of_mem _ listed)
      exact .dot head tail

theorem isPath_iff {text : List Char} : isPath text = true ↔ Dotted text := by
  constructor
  · intro path
    rw [← joinWith_split '.' text]
    refine dotted_joinWith (split_ne_nil '.' text) ?_
    intro name listed
    exact isName_iff.mp (List.all_eq_true.mp path name listed)
  · intro dotted
    unfold isPath
    induction dotted with
    | name named => simp [split_of_not_mem named.no_dot, isName_iff.mpr named]
    | dot named _ ih => simp [split_append named.no_dot, isName_iff.mpr named, ih]

theorem formed_of_body? {text rest : List Char} {note : TypeComment}
    (got : body? text = some (note, rest)) : note.Formed := by
  simp only [body?] at got
  split at got
  · next path _ =>
    cases got
    exact ⟨fun c => List.mem_takeWhile_imp, isPath_iff.mp path, fun c => List.mem_takeWhile_imp⟩
  · cases got

-- Neither a path nor a blank can hold the star that closes a comment, so each of the three runs
-- ends where the next part of the comment begins.
theorem body?_of_formed {note : TypeComment} (formed : note.Formed) (rest : List Char) :
    body? (note.lead ++ (note.path ++ (note.trail ++ '*' :: '/' :: rest))) = some (note, rest) := by
  have visible : ∀ c, (note.path ++ (note.trail ++ '*' :: '/' :: rest)).head? = some c →
      isBlank c = false := by
    intro c head
    obtain ⟨first, others, path⟩ := List.exists_cons_of_ne_nil formed.path.ne_nil
    rw [path] at head
    cases head
    exact not_isBlank_of_inPath (formed.path.all_inPath c (by simp [path]))
  have outside : ∀ c, (note.trail ++ '*' :: '/' :: rest).head? = some c → inPath c = false := by
    intro c head
    cases trail : note.trail with
    | nil =>
      rw [trail] at head
      cases head
      decide
    | cons blank more =>
      rw [trail] at head
      cases head
      exact not_inPath_of_isBlank (formed.trail c (by simp [trail]))
  have star : ∀ c, ('*' :: '/' :: rest).head? = some c → isBlank c = false := by
    rintro c ⟨⟩
    decide
  simp only [body?, takeWhile_run formed.lead visible, dropWhile_run formed.lead visible,
    takeWhile_run formed.path.all_inPath outside, dropWhile_run formed.path.all_inPath outside,
    takeWhile_run formed.trail star, dropWhile_run formed.trail star, isPath_iff.mpr formed.path]

theorem read?_iff {text rest : List Char} {note : TypeComment} :
    read? text = some (note, rest) ↔ note.Formed ∧ text = note.source ++ rest := by
  constructor
  · intro got
    refine ⟨?_, read?_source got⟩
    unfold read? at got
    split at got
    · exact formed_of_body? got
    · cases got
  · rintro ⟨formed, rfl⟩
    have body := body?_of_formed formed rest
    simpa [source, opening, closing, read?] using body

theorem source_append_inj {one two : TypeComment} {rest rest' : List Char} (formed : one.Formed)
    (formed' : two.Formed) (same : one.source ++ rest = two.source ++ rest') :
    one = two ∧ rest = rest' := by
  have first : read? (one.source ++ rest) = some (one, rest) := read?_iff.mpr ⟨formed, rfl⟩
  have second := read?_iff.mpr ⟨formed', same⟩
  rw [first] at second
  simpa using second

end TypeComment

end WatchfaceCheck
