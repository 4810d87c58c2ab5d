import Mathlib.Data.List.Chain
import WatchfaceCheck.Proofs.Json.Lexing
namespace WatchfaceCheck.Json

open Text

namespace Token

-- Two numbers side by side would run into one; nothing else does.
def Apart (a b : Token) : Prop := a.isNumber = true → b.isNumber = false

theorem Stops.of_head {marks : List Char} {s : Symbol} {rest other : List Symbol}
    (stops : Stops marks (s :: rest)) : Stops marks (s :: other) := by
  intro one tail begins
  cases begins
  exact stops s rest rfl

theorem endsNumber_laid {tokens : List Token} {text : List Char} (laid : Laid tokens text)
    (apart : ∀ token ∈ tokens.head?, token.isNumber = false) : EndsNumber (text.map some) := by
  have blank {c : Char} (listed : c ∈ [' ', '\t', '\n', '\r']) (rest : List Symbol) :
      EndsNumber (some c :: rest) := by
    intro s tail begins
    cases begins
    simp only [List.mem_cons, List.not_mem_nil, or_false] at listed
    rcases listed with rfl | rfl | rfl | rfl <;> decide
  cases laid with
  | done spaces =>
    cases text with
    | nil =>
      intro s tail begins
      cases begins
    | cons c others => exact blank (spaces c List.mem_cons_self) _
  | @next token tokens blanks spelling rest spaces spells _ =>
    cases blanks with
    | cons c others => exact blank (spaces c List.mem_cons_self) _
    | nil =>
      obtain ⟨c, others, rfl, -, ends⟩ := head_spelt spells
      exact (ends (apart token rfl)).of_head

theorem scan_laid {tokens : List Token} {text : List Char} (laid : Laid tokens text)
    (chained : tokens.IsChain Apart) (done : List Token) :
    scan done (text.map some) = some (done.reverse ++ tokens) := by
  induction laid generalizing done with
  | @done blanks spaces =>
    have read := scan_blanks spaces done []
    rw [List.append_nil] at read
    rw [read, scan.eq_def, List.append_nil]
  | @next token tokens blanks spelling rest spaces spells later ih =>
    obtain ⟨beside, others⟩ := List.isChain_cons.mp chained
    obtain ⟨c, tail, rfl, visible, -⟩ := head_spelt spells
    have ends : token.isNumber = true → EndsNumber (rest.map some) := fun number =>
      endsNumber_laid later fun other first => beside other first number
    have read := next?_spelt spells ends
    rw [List.map_cons, List.cons_append] at read
    rw [List.append_assoc, List.map_append, scan_blanks spaces, List.map_append, List.map_cons,
      List.cons_append, scan_next visible read, ih others, List.reverse_cons, List.append_assoc,
      List.singleton_append]

end Token

theorem chain_around {a b : List Token} {mark : Token} (left : a.IsChain Token.Apart)
    (right : b.IsChain Token.Apart) (silent : mark.isNumber = false) :
    (a ++ mark :: b).IsChain Token.Apart := by
  refine left.append (List.isChain_cons.mpr ⟨?_, right⟩) ?_
  · intro other _ number
    rw [silent] at number
    cases number
  · intro last _ first begins _
    cases begins
    exact silent

mutual

theorem chain_tokens : ∀ json : Json, json.tokens.IsChain Token.Apart
  | .null | .bool _ | .number _ | .string _ => .singleton _
  | .array items => by
    have inner : (itemTokens items ++ Token.closeBracket :: []).IsChain Token.Apart :=
      chain_around (chain_itemTokens items) .nil rfl
    exact chain_around (a := []) .nil inner rfl
  | .object members => by
    have inner : (memberTokens members ++ Token.closeBrace :: []).IsChain Token.Apart :=
      chain_around (chain_memberTokens members) .nil rfl
    exact chain_around (a := []) .nil inner rfl

theorem chain_itemTokens : ∀ items : List Json, (itemTokens items).IsChain Token.Apart
  | [] => .nil
  | [item] => chain_tokens item
  | item :: other :: others =>
    chain_around (chain_tokens item) (chain_itemTokens (other :: others)) rfl

theorem chain_memberTokens :
    ∀ members : List (List Symbol × Json), (memberTokens members).IsChain Token.Apart
  | [] => .nil
  | [(name, value)] =>
    chain_around (a := [.string name]) (.singleton _) (chain_tokens value) rfl
  | (name, value) :: other :: others =>
    chain_around (a := .string name :: .colon :: tokens value)
      (chain_around (a := [.string name]) (.singleton _) (chain_tokens value) rfl)
      (chain_memberTokens (other :: others)) rfl

end

namespace State

theorem run_cons {state next : State} {token : Token} (stepped : state.step token = some next)
    (more : List Token) : state.run (token :: more) = next.run more := by
  unfold run
  rw [List.foldlM_cons, stepped]
  rfl

-- In a list that was just opened a value is read as after a comma.
theorem run_first (item : Json) (others : List Json) (frames : List Frame) (more : List Token) :
    (first frames).run (itemTokens (item :: others) ++ more)
      = (value (.array [] :: frames)).run (itemTokens (item :: others) ++ more) := by
  cases others <;> cases item <;> rfl

mutual

theorem run_tokens : ∀ (json : Json) (frames : List Frame) (more : List Token),
    (value frames).run (json.tokens ++ more) = (after json frames).run more
  | .null, frames, more => rfl
  | .bool b, frames, more => rfl
  | .number n, frames, more => rfl
  | .string s, frames, more => rfl
  | .array [], frames, more => rfl
  | .array (item :: others), frames, more => by
    have opened : (value frames).step .openBracket = some (first frames) := rfl
    have listed := run_items (item :: others) [] frames more (by simp)
    rw [tokens, List.cons_append, List.cons_append, run_cons opened, List.append_assoc, run_first]
    exact listed
  | .object [], frames, more => rfl
  | .object (member :: others), frames, more => by
    have opened : (value frames).step .openBrace = some (name [] frames true) := rfl
    have listed := run_members (member :: others) [] frames true more (by simp)
    rw [tokens, List.cons_append, List.cons_append, run_cons opened, List.append_assoc]
    exact listed

theorem run_items : ∀ (items before : List Json) (frames : List Frame) (more : List Token),
    items ≠ [] →
      (value (.array before :: frames)).run (itemTokens items ++ .closeBracket :: more)
        = (after (.array (before.reverse ++ items)) frames).run more
  | [], _, _, _, given => absurd rfl given
  | [item], before, frames, more, _ => by
    have closed : (after item (.array before :: frames)).step .closeBracket
        = some (after (.array (item :: before).reverse) frames) := rfl
    rw [itemTokens, run_tokens, run_cons closed, List.reverse_cons]
  | item :: other :: others, before, frames, more, _ => by
    have separated : (after item (.array before :: frames)).step .comma
        = some (value (.array (item :: before) :: frames)) := rfl
    have later := run_items (other :: others) (item :: before) frames more (by simp)
    rw [itemTokens, List.append_assoc, run_tokens, List.cons_append, run_cons separated, later,
      List.reverse_cons, List.append_assoc, List.singleton_append]

theorem run_members : ∀ (members before : List Member) (frames : List Frame) (opened : Bool)
    (more : List Token), members ≠ [] →
      (name before frames opened).run (memberTokens members ++ .closeBrace :: more)
        = (after (.object (before.reverse ++ members)) frames).run more
  | [], _, _, _, _, given => absurd rfl given
  | [(key, held)], before, frames, opened, more, _ => by
    have named : (name before frames opened).step (.string key)
        = some (colon before key frames) := rfl
    have parted : (colon before key frames).step .colon
        = some (value (.object before key :: frames)) := rfl
    have closed : (after held (.object before key :: frames)).step .closeBrace
        = some (after (.object ((key, held) :: before).reverse) frames) := rfl
    rw [memberTokens, List.cons_append, List.cons_append, run_cons named, run_cons parted,
      run_tokens, run_cons closed, List.reverse_cons]
  | (key, held) :: other :: others, before, frames, opened, more, _ => by
    have named : (name before frames opened).step (.string key)
        = some (colon before key frames) := rfl
    have parted : (colon before key frames).step .colon
        = some (value (.object before key :: frames)) := rfl
    have separated : (after held (.object before key :: frames)).step .comma
        = some (name ((key, held) :: before) frames false) := rfl
    have later := run_members (other :: others) ((key, held) :: before) frames false more (by simp)
    have spread : memberTokens ((key, held) :: other :: others) ++ .closeBrace :: more
        = .string key :: .colon :: (held.tokens
          ++ .comma :: (memberTokens (other :: others) ++ .closeBrace :: more)) := by
      simp [memberTokens]
    rw [spread, run_cons named, run_cons parted, run_tokens, run_cons separated, later,
      List.reverse_cons, List.append_assoc, List.singleton_append]

end

end State

theorem ofTokens?_tokens (json : Json) : ofTokens? json.tokens = some json := by
  have read := State.run_tokens json [] []
  rw [List.append_nil] at read
  unfold ofTokens? State.start
  rw [read]
  rfl

theorem read?_document {json : Json} {text : List Char} (document : Document json text) :
    read? (text.map some) = some json := by
  unfold read?
  rw [Token.scan_laid document (chain_tokens json)]
  exact ofTokens?_tokens json

end WatchfaceCheck.Json
