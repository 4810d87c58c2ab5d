import Mathlib.Data.List.Basic
import WatchfaceCheck.Palette
import WatchfaceCheck.Text.Split
namespace WatchfaceCheck

namespace Coloring

def escape : Char := '\x1b'

def sequence? : List Char → Option (List Char)
  | first :: second :: rest =>
    if first = escape ∧ second = '[' then
      match rest.takeWhile Char.isDigit, rest.dropWhile Char.isDigit with
      | _ :: _, 'm' :: after => some after
      | _, _ => none
    else none
  | _ => none

theorem sequence?_of_digits {digits : List Char} (some : digits ≠ [])
    (decimal : ∀ c ∈ digits, c.isDigit = true) (after : List Char) :
    sequence? (escape :: '[' :: digits ++ 'm' :: after) = Option.some after := by
  have outside : ∀ c, ('m' :: after).head? = Option.some c → c.isDigit = false := by
    rintro c ⟨⟩
    rfl
  obtain ⟨digit, others, rfl⟩ := List.exists_cons_of_ne_nil some
  simp only [sequence?, List.cons_append, and_self, if_true]
  rw [← List.cons_append, Text.takeWhile_run decimal outside, Text.dropWhile_run decimal outside]
  rfl

theorem sequence?_iff (text after : List Char) : sequence? text = some after ↔
    ∃ digits, digits ≠ [] ∧ (∀ c ∈ digits, c.isDigit = true)
      ∧ text = escape :: '[' :: digits ++ 'm' :: after := by
  constructor
  · intro got
    unfold sequence? at got
    split at got
    · next first second rest =>
      split at got
      · next opened =>
        obtain ⟨rfl, rfl⟩ := opened
        split at got
        · next digit digits beyond run ended =>
          cases got
          refine ⟨digit :: digits, List.cons_ne_nil _ _, ?_, ?_⟩
          · rw [← run]
            exact fun c listed => List.all_eq_true.mp List.all_takeWhile c listed
          · rw [List.cons_append, List.cons_append, ← ended, ← run,
              List.takeWhile_append_dropWhile]
        · cases got
      · cases got
    · cases got
  · rintro ⟨digits, some, decimal, rfl⟩
    exact sequence?_of_digits some decimal after

theorem length_lt_of_sequence? {text after : List Char} (got : sequence? text = some after) :
    after.length < text.length := by
  obtain ⟨digits, -, -, rfl⟩ := (sequence?_iff text after).mp got
  simp
  omega

def uncolored (text : List Char) : List Char :=
  match text with
  | [] => []
  | c :: rest =>
    match _ : sequence? (c :: rest) with
    | some after => uncolored after
    | none => c :: uncolored rest
termination_by text.length
decreasing_by
  · exact length_lt_of_sequence? (by assumption)
  · simp

theorem uncolored_sequence {text after : List Char} (got : sequence? text = some after) :
    uncolored text = uncolored after := by
  cases text with
  | nil => cases got
  | cons c rest =>
    rw [uncolored]
    split
    · next other found =>
      rw [got] at found
      cases found
      rfl
    · next silent =>
      rw [got] at silent
      cases silent

theorem sequence?_of_ne {c : Char} (ordinary : c ≠ escape) (rest : List Char) :
    sequence? (c :: rest) = none := by
  cases rest with
  | nil => rfl
  | cons next others => simp [sequence?, ordinary]

theorem uncolored_cons {c : Char} (ordinary : c ≠ escape) (rest : List Char) :
    uncolored (c :: rest) = c :: uncolored rest := by
  rw [uncolored]
  split
  · next after got =>
    rw [sequence?_of_ne ordinary] at got
    cases got
  · rfl

theorem uncolored_nil : uncolored [] = [] := by
  rw [uncolored]

theorem uncolored_append {text : List Char} (clean : escape ∉ text) (rest : List Char) :
    uncolored (text ++ rest) = text ++ uncolored rest := by
  induction text with
  | nil => rfl
  | cons c others ih =>
    rw [List.mem_cons, not_or] at clean
    rw [List.cons_append, uncolored_cons (Ne.symm clean.1), ih clean.2, List.cons_append]

theorem uncolored_control {parameter : String} (some : parameter.toList ≠ [])
    (decimal : parameter.toList.all Char.isDigit = true) (rest : List Char) :
    uncolored ((Palette.control parameter).toList ++ rest) = uncolored rest := by
  have written : (Palette.control parameter).toList ++ rest
      = escape :: '[' :: parameter.toList ++ 'm' :: rest := by
    simp [Palette.control, escape]
  rw [written]
  exact uncolored_sequence (sequence?_of_digits some (List.all_eq_true.mp decimal) rest)

end Coloring

open Coloring

-- A text beside the text that is read where colours are left out. Deleting the colours stops at the
-- end of the text: it does not reach into what comes after.
structure Shows (painted plain : String) : Prop where
  clean : escape ∉ plain.toList
  bare : ∀ rest, uncolored (painted.toList ++ rest) = plain.toList ++ uncolored rest

namespace Shows

theorem of_clean {text : String} (clean : escape ∉ text.toList) : Shows text text :=
  ⟨clean, uncolored_append clean⟩

theorem append {painted plain painted' plain' : String} (first : Shows painted plain)
    (second : Shows painted' plain') : Shows (painted ++ painted') (plain ++ plain') := by
  refine ⟨?_, ?_⟩
  · rw [String.toList_append, List.mem_append, not_or]
    exact ⟨first.clean, second.clean⟩
  · intro rest
    rw [String.toList_append, String.toList_append, List.append_assoc, first.bare, second.bare,
      List.append_assoc]

theorem join {α : Type} {painted plain : α → String} {parts : List α}
    (each : ∀ part ∈ parts, Shows (painted part) (plain part)) :
    Shows (String.join (parts.map painted)) (String.join (parts.map plain)) := by
  induction parts with
  | nil => exact of_clean (List.not_mem_nil)
  | cons part others ih =>
    rw [List.map_cons, List.map_cons, String.join_cons, String.join_cons]
    exact (each part (List.mem_cons_self ..)).append
      (ih fun other listed => each other (List.mem_cons_of_mem _ listed))

theorem uncolored_eq {painted plain : String} (shows : Shows painted plain) :
    uncolored painted.toList = plain.toList := by
  have bare := shows.bare []
  rwa [uncolored_nil, List.append_nil, List.append_nil] at bare

end Shows

namespace Palette

def colored : Palette := ⟨true⟩

theorem shows_paint (tone : Tone) {text : String} (clean : escape ∉ text.toList) :
    Shows (colored.paint tone text) (plain.paint tone text) := by
  have selects : tone.parameter.toList ≠ [] ∧ tone.parameter.toList.all Char.isDigit = true := by
    cases tone <;> decide
  refine ⟨clean, ?_⟩
  intro rest
  show uncolored ((control tone.parameter ++ text ++ control "0").toList ++ rest) = _
  rw [String.toList_append, String.toList_append, List.append_assoc, List.append_assoc,
    uncolored_control selects.1 selects.2, uncolored_append clean,
    uncolored_control (by decide) (by decide)]
  rfl

theorem shows_label (severity : Severity) :
    Shows (colored.label severity) (plain.label severity) :=
  shows_paint severity.tone (by cases severity <;> decide)

end Palette

end WatchfaceCheck
